import DfuSeBootloader.Dfu.Dispatch
import DfuSeBootloader.Dfu.Integrity
import DfuSeBootloader.Usb.Standard

/-!
# The library under interrupts

A SETUP packet may come at any time, also while a request is at work. Some requests are lost then, and
a packet that comes inside the copy of a header can tear it. Otherwise no request is obeyed that was not
sent, and none is obeyed twice.
-/

namespace DfuSeBootloader.Dfu
open Program Memory Iap Usb

variable {ρ : Type} {P : Platform ρ} {s s₀ : Library} {d d' : Device ρ} {t : ControlTransfer}
  {ts : List ControlTransfer} {op : Op}

/-! ## Requests as a history -/

/-- The library behind the requests `ts`. -/
def libraryOf (P : Platform ρ) (ts : List ControlTransfer) (s : Library) : Library :=
  ts.foldl (fun s t => (respond P t.toUSB_Request_Header_t s).2) s

theorem libraryOf_snoc (ts : List ControlTransfer) (t : ControlTransfer) (s : Library) :
    libraryOf P (ts ++ [t]) s = (respond P t.toUSB_Request_Header_t (libraryOf P ts s)).2 :=
  List.foldl_append ..

/-- The requests that were passed to the handler have had their effect. -/
def Obeyed (P : Platform ρ) (s₀ : Library) (d : Device ρ) : Prop :=
  library d = libraryOf P (dispatches d.calls) s₀

/-- The request `t` is at work. The requests `ts` were passed to the handler. -/
structure AtWork (t : ControlTransfer) (s : Library) (ts : List ControlTransfer) (d : Device ρ) :
    Prop where
  request : d.USB_ControlRequest = t
  library : library d = s
  dispatches : dispatches d.calls = ts

/-- Interrupts of every kind come at any time. -/
def anytime (P : Platform ρ) (s₀ : Library) : Contract (Device ρ) Op where
  rely _ d d' := ∃ ev, d' = interrupt ev d
  assume _ _ := True
  assert op d := Outside op → Obeyed P s₀ d
  undefined _ := True

/-! ## Interrupts -/

theorem obeyed_stable : (anytime P s₀).Stable op (Obeyed P s₀) := by
  rintro d _ h ⟨ev, rfl⟩
  exact h

theorem AtWork.interrupt (h : AtWork t s ts d) (ev : Event) : AtWork t s ts (interrupt ev d) :=
  ⟨h.request, h.library, h.dispatches⟩

theorem atWork_stable : (anytime P s₀).Stable op (AtWork (ρ := ρ) t s ts) := by
  rintro d _ h ⟨ev, rfl⟩
  exact h.interrupt ev

/-! ## What does not concern the library -/

/-- What the driver leaves of a request at work. -/
def workView (d : Device ρ) : ControlTransfer × Library × List ControlTransfer :=
  (d.USB_ControlRequest, library d, dispatches d.calls)

theorem workView_handler : HandlerView (workView (ρ := ρ)) where
  onEp _ _ _ _ _ := rfl
  firmware _ _ := rfl
  statusStage d := congrArg (fun ts => (d.USB_ControlRequest, library d, ts))
    (dispatches_snoc (by simp))
  stall d := congrArg (fun ts => (d.USB_ControlRequest, library d, ts)) (dispatches_snoc (by simp))
  state _ _ := rfl
  status _ _ := rfl
  address _ _ := rfl
  detach _ _ := rfl
  iap d _ c hc := congrArg (fun ts => (d.USB_ControlRequest, library d, ts))
    (dispatches_snoc fun t ht => by rw [ht] at hc; cases hc)

theorem AtWork.of_view (h : AtWork t s ts d) (hv : workView d = workView d') : AtWork t s ts d' := by
  simp only [workView, Prod.mk.injEq] at hv
  obtain ⟨ht, hs, hts⟩ := hv
  exact ⟨ht ▸ h.request, hs ▸ h.library, hts ▸ h.dispatches⟩

theorem assert_inside (hop : ¬ Outside op) (d : Device ρ) : (anytime P s₀).assert op d :=
  fun hout => absurd hout hop

theorem atWork_keeps {α : Type} {p : Task ρ α} (h : p.Keeps Inside Inside workView) :
    Triple (anytime P s₀) (AtWork t s ts) p (fun _ => AtWork t s ts) :=
  h.triple (fun _ _ hv hd => hd.of_view hv) (fun _ _ => atWork_stable)
    (fun _ d hop _ => assert_inside (hop.elim And.left And.left) d) (fun _ _ => trivial)

theorem atWork_modify {f : Device ρ → Device ρ} {s' : Library}
    (h : ∀ d, AtWork t s ts d → AtWork t s' ts (f d)) :
    Triple (anytime P s₀) (AtWork t s ts) (Prog.modify .access f) (fun _ => AtWork t s' ts) :=
  Triple.modify atWork_stable (fun d _ => assert_inside inside_ops.access.1 d) fun d hd _ => h d hd

/-! ## A standard request -/

/-- The `switch` of the library gives the request at work its effect. -/
def Obeys (P : Platform ρ) (t : ControlTransfer) : Prop :=
  ∀ s₀ s ts, Triple (anytime P s₀) (AtWork t s ts)
    (standardRequest P t.toUSB_Request_Header_t)
    (fun _ => AtWork t (respond P t.toUSB_Request_Header_t s).2 ts)

theorem respond_snd {h : USB_Request_Header_t} {q : StandardRequest} (hq : h.standard = some q)
    (s : Library) : (respond P h s).2 = q.effect s := by
  rw [respond, hq]

theorem respond_snd_none {h : USB_Request_Header_t} (hq : h.standard = none) (s : Library) :
    (respond P h s).2 = s := by
  rw [respond, hq]

theorem obeys_getStatus (hb : t.bRequest = REQ_GetStatus) : Obeys P t := by
  intro s₀ s ts
  have hs : (respond P t.toUSB_Request_Header_t s).2 = s := by
    rw [respond, USB_Request_Header_t.standard, if_pos hb]
    split
    · rfl
    · rename_i q hq
      split at hq
      · cases hq; rfl
      split at hq
      · cases hq; rfl
      · cases hq
  rw [standardRequest, if_pos hb, hs]
  exact Triple.ite (fun _ => atWork_keeps
    (USB_Device_GetStatus.reads workView_handler.toDriverView inside_ops P)) fun _ =>
    Triple.pure fun _ h => h

theorem obeys_feature (hb : t.bRequest = REQ_ClearFeature ∨ t.bRequest = REQ_SetFeature) :
    Obeys P t := by
  intro s₀ s ts
  have hne : t.bRequest ≠ REQ_GetStatus := by
    rcases hb with hb | hb <;> rw [hb] <;> decide
  have hstandard : t.standard = _ := (if_neg hne).trans (if_pos hb)
  rw [standardRequest, if_neg hne, if_pos hb]
  refine Triple.ite (fun hbm => ?_) fun hbm => ?_
  · refine Triple.bind (R := fun _ => AtWork t (respond P t.toUSB_Request_Header_t s).2 ts) ?_
      fun _ => Triple.ite (fun _ => Triple.bind (atWork_keeps
          (Endpoint_ClearSETUP.keeps workView_handler.toDriverView inside_ops.toDriverOps _))
        fun _ => atWork_keeps
          (Endpoint_ClearStatusStage.keeps workView_handler.toDriverView inside_ops.toDriverOps))
        fun _ => Triple.pure fun _ h => h
    refine Triple.get_bind (a := t.toUSB_Request_Header_t) atWork_stable
      (fun d _ => assert_inside inside_ops.access.1 d) (fun _ hd => by rw [hd.request]) ?_
    rcases hbm with h00 | h02
    · rw [if_pos (by rw [h00]; rfl)]
      refine Triple.ite (fun hwake => ?_) fun hwake => ?_
      · rw [respond_snd (hstandard.trans (if_pos ⟨h00, hwake⟩))]
        exact Triple.bind (atWork_modify fun d hd =>
          ⟨hd.request, congrArg (fun s : Library => { s with
            remoteWakeup := decide (t.bRequest = REQ_SetFeature) }) hd.library, hd.dispatches⟩)
          fun _ => Triple.pure fun _ h => h
      · rw [respond_snd_none]
        · exact Triple.pure fun _ h => h
        · rw [hstandard, if_neg fun hand => hwake hand.2, if_neg fun hand => ?_]
          rw [h00] at hand
          exact absurd hand.1 (by decide)
    · rw [if_neg (by rw [h02]; decide), if_pos (by rw [h02]; rfl)]
      have hs : (respond P t.toUSB_Request_Header_t s).2 = s := by
        rw [respond, hstandard, if_neg fun hand => ?_]
        · split
          · rfl
          · rename_i q hq
            split at hq
            · cases hq; rfl
            · cases hq
        · rw [h02] at hand
          exact absurd hand.1 (by decide)
      rw [hs]
      exact Triple.pure fun _ h => h
  · rw [respond_snd_none]
    · exact Triple.pure fun _ h => h
    · rw [hstandard, if_neg fun hand => hbm (.inl hand.1), if_neg fun hand => hbm (.inr hand.1)]

theorem obeys_setAddress (hb : t.bRequest = REQ_SetAddress) : Obeys P t := by
  intro s₀ s ts
  have hstandard : t.standard = _ :=
    (if_neg (by rw [hb]; decide)).trans ((if_neg (by rw [hb]; decide)).trans (if_pos hb))
  have hprogram : standardRequest P t.toUSB_Request_Header_t =
      if t.bmRequestType = 0x00 then USB_Device_SetAddress else pure () :=
    (if_neg (by rw [hb]; decide)).trans ((if_neg (by rw [hb]; decide)).trans (if_pos hb))
  rw [hprogram]
  refine Triple.ite (fun h00 => ?_) fun h00 => ?_
  · rw [respond_snd (hstandard.trans (if_pos h00))]
    refine Triple.get_bind (a := t.wValue &&& 0x7F) atWork_stable
      (fun d _ => assert_inside inside_ops.access.1 d) (fun _ hd => by rw [hd.request]) ?_
    refine Triple.bind (atWork_keeps (.critical (.bind
      (Endpoint_ClearSETUP.keeps workView_handler.toDriverView inside_ops.toDriverOps _) fun _ =>
      Endpoint_ClearStatusStage.keeps workView_handler.toDriverView inside_ops.toDriverOps)
      inside_ops.critical inside_ops.critical_bad)) fun _ => ?_
    refine Triple.bind (atWork_keeps (by simp [inside_ops.inReady])) fun _ => ?_
    exact atWork_modify fun d hd =>
      ⟨hd.request, congrArg (fun s : Library => { s with
        deviceState := if t.wValue &&& 0x7F ≠ 0 then .DEVICE_STATE_Addressed
          else .DEVICE_STATE_Default }) hd.library, hd.dispatches⟩
  · rw [respond_snd_none (hstandard.trans (if_neg h00))]
    exact Triple.pure fun _ h => h

theorem obeys_getDescriptor (hb : t.bRequest = REQ_GetDescriptor) : Obeys P t := by
  intro s₀ s ts
  have hstandard : t.standard = _ :=
    (if_neg (by rw [hb]; decide)).trans ((if_neg (by rw [hb]; decide)).trans
      ((if_neg (by rw [hb]; decide)).trans (if_pos hb)))
  have hprogram : standardRequest P t.toUSB_Request_Header_t =
      if t.bmRequestType = 0x80 ∨ t.bmRequestType = 0x81 then USB_Device_GetDescriptor P
      else pure () :=
    (if_neg (by rw [hb]; decide)).trans ((if_neg (by rw [hb]; decide)).trans
      ((if_neg (by rw [hb]; decide)).trans (if_pos hb)))
  rw [hprogram]
  refine Triple.ite (fun h80 => ?_) fun h80 => ?_
  · rw [respond_snd (hstandard.trans (if_pos h80))]
    exact atWork_keeps (USB_Device_GetDescriptor.reads workView_handler.toDriverView inside_ops P)
  · rw [respond_snd_none (hstandard.trans (if_neg h80))]
    exact Triple.pure fun _ h => h

theorem obeys_getConfiguration (hb : t.bRequest = REQ_GetConfiguration) : Obeys P t := by
  intro s₀ s ts
  have hstandard : t.standard = _ :=
    (if_neg (by rw [hb]; decide)).trans ((if_neg (by rw [hb]; decide)).trans
      ((if_neg (by rw [hb]; decide)).trans ((if_neg (by rw [hb]; decide)).trans (if_pos hb))))
  have hprogram : standardRequest P t.toUSB_Request_Header_t =
      if t.bmRequestType = 0x80 then USB_Device_GetConfiguration else pure () :=
    (if_neg (by rw [hb]; decide)).trans ((if_neg (by rw [hb]; decide)).trans
      ((if_neg (by rw [hb]; decide)).trans ((if_neg (by rw [hb]; decide)).trans (if_pos hb))))
  rw [hprogram]
  refine Triple.ite (fun h80 => ?_) fun h80 => ?_
  · rw [respond_snd (hstandard.trans (if_pos h80))]
    exact atWork_keeps (USB_Device_GetConfiguration.reads workView_handler.toDriverView inside_ops)
  · rw [respond_snd_none (hstandard.trans (if_neg h80))]
    exact Triple.pure fun _ h => h

theorem obeys_setConfiguration (hb : t.bRequest = REQ_SetConfiguration) : Obeys P t := by
  intro s₀ s ts
  have hstandard : t.standard = _ :=
    (if_neg (by rw [hb]; decide)).trans ((if_neg (by rw [hb]; decide)).trans
      ((if_neg (by rw [hb]; decide)).trans ((if_neg (by rw [hb]; decide)).trans
        ((if_neg (by rw [hb]; decide)).trans (if_pos hb)))))
  have hprogram : standardRequest P t.toUSB_Request_Header_t =
      if t.bmRequestType = 0x00 then USB_Device_SetConfiguration else pure () :=
    (if_neg (by rw [hb]; decide)).trans ((if_neg (by rw [hb]; decide)).trans
      ((if_neg (by rw [hb]; decide)).trans ((if_neg (by rw [hb]; decide)).trans
        ((if_neg (by rw [hb]; decide)).trans (if_pos hb)))))
  rw [hprogram]
  refine Triple.ite (fun h00 => ?_) fun h00 => ?_
  · have hs := respond_snd (P := P) (hstandard.trans (if_pos h00)) s
    refine Triple.get_bind (a := t.wValue.toUInt8) atWork_stable
      (fun d _ => assert_inside inside_ops.access.1 d) (fun _ hd => by rw [hd.request]) ?_
    refine Triple.ite (fun hn => ?_) fun hn => ?_
    · rw [hs, StandardRequest.effect, if_pos hn]
      refine Triple.bind (atWork_keeps
        (Endpoint_ClearSETUP.keeps workView_handler.toDriverView inside_ops.toDriverOps _)) fun _ => ?_
      refine Triple.bind (R := fun _ => AtWork t { s with configuration := t.wValue.toUInt8 } ts)
        (atWork_modify fun d hd => ⟨hd.request, congrArg (fun s : Library => { s with
          configuration := t.wValue.toUInt8 }) hd.library, hd.dispatches⟩) fun _ => ?_
      refine Triple.bind (atWork_keeps
        (Endpoint_ClearStatusStage.keeps workView_handler.toDriverView inside_ops.toDriverOps)) fun _ => ?_
      refine atWork_modify fun d hd => ⟨hd.request, ?_, hd.dispatches⟩
      simp only [USB_Device_IsAddressSet, if_true, ite_self]
      exact congrArg (fun s : Library => { s with deviceState := .DEVICE_STATE_Configured }) hd.library
    · rw [hs, StandardRequest.effect, if_neg hn]
      exact Triple.pure fun _ h => h
  · rw [respond_snd_none (hstandard.trans (if_neg h00))]
    exact Triple.pure fun _ h => h

theorem obeys_all (P : Platform ρ) (t : ControlTransfer) : Obeys P t := by
  by_cases h0 : t.bRequest = REQ_GetStatus
  · exact obeys_getStatus h0
  by_cases h1 : t.bRequest = REQ_ClearFeature ∨ t.bRequest = REQ_SetFeature
  · exact obeys_feature h1
  by_cases h5 : t.bRequest = REQ_SetAddress
  · exact obeys_setAddress h5
  by_cases h6 : t.bRequest = REQ_GetDescriptor
  · exact obeys_getDescriptor h6
  by_cases h8 : t.bRequest = REQ_GetConfiguration
  · exact obeys_getConfiguration h8
  by_cases h9 : t.bRequest = REQ_SetConfiguration
  · exact obeys_setConfiguration h9
  intro s₀ s ts
  rw [standardRequest, if_neg h0, if_neg h1, if_neg h5, if_neg h6, if_neg h8, if_neg h9,
    respond_snd_none (by rw [USB_Request_Header_t.standard, if_neg h0, if_neg h1, if_neg h5, if_neg h6,
      if_neg h8, if_neg h9])]
  exact Triple.pure fun _ h => h

/-! ## A turn of the task -/

/-- A request to the DFU interface is none of the library. -/
theorem standard_of_class {h : USB_Request_Header_t} (hc : h.isClassInterface = true) :
    h.standard = none := by
  have h00 := bmRequestType_ne hc (b := 0x00) (by decide)
  have h80 := bmRequestType_ne hc (b := 0x80) (by decide)
  have h02 := bmRequestType_ne hc (b := 0x02) (by decide)
  have h82 := bmRequestType_ne hc (b := 0x82) (by decide)
  have h81 := bmRequestType_ne hc (b := 0x81) (by decide)
  simp only [USB_Request_Header_t.standard, h00, h80, h02, h82, h81, or_self, false_and, if_false,
    ite_self]

/-- The handler has been called, and a request that it does not take is still marked as received. -/
def LeftToLibrary (t : ControlTransfer) (d : Device ρ) : Prop :=
  d.ep.SETUPReceived = true ∨ t.isClassInterface = true

theorem left_stable : (anytime P s₀).Stable op (LeftToLibrary (ρ := ρ) t) := by
  rintro d _ h ⟨ev, rfl⟩
  exact h.imp_left Endpoint.SETUPReceived_interrupt_of_true

theorem EVENT_history : Triple (anytime P s₀) (fun d => AtWork t s ts d ∧ d.ep.SETUPReceived = true)
    (EVENT_USB_Device_ControlRequest P)
    (fun _ d => AtWork t s (ts ++ [t]) d ∧ LeftToLibrary t d) := by
  have hstable (op : Op) (ts : List ControlTransfer) : (anytime P s₀).Stable op
      (fun d => AtWork t s ts d ∧ d.ep.SETUPReceived = true) := by
    rintro d _ ⟨hd, hset⟩ ⟨ev, rfl⟩
    exact ⟨hd.interrupt ev, Endpoint.SETUPReceived_interrupt_of_true hset⟩
  refine Triple.bind (R := fun received d =>
    (AtWork t s (ts ++ [t]) d ∧ d.ep.SETUPReceived = true) ∧ received = true)
    (Triple.exec (hstable _ _) (fun d _ => assert_inside (by simp [Outside]) d) ?_) fun received => ?_
  · rintro d ⟨hd, hset⟩ -
    refine ⟨⟨⟨hd.request, hd.library, ?_⟩, hset⟩, hset⟩
    rw [← hd.dispatches, ← hd.request]
    exact List.filterMap_append
  · refine Triple.assuming fun hreceived => ?_
    cases hc : t.isClassInterface with
    | true =>
        exact Triple.conseq (atWork_keeps (accepted_keeps workView_handler received))
          (fun _ h => h.1) fun _ _ h => ⟨h, .inr hc⟩
    | false =>
        rw [hreceived, if_pos rfl]
        refine Triple.get_bind (a := false) (hstable _ _)
          (fun d _ => assert_inside inside_ops.access.1 d)
          (fun d hd => by rw [hd.1.request]; exact hc) ?_
        exact Triple.pure fun _ h => ⟨h.1, .inl h.2⟩

theorem standardRequests_history :
    Triple (anytime P s₀) (fun d => AtWork t s ts d ∧ LeftToLibrary t d) (standardRequests P)
      (fun _ => AtWork t (respond P t.toUSB_Request_Header_t s).2 ts) := by
  have hstable : (anytime P s₀).Stable .access
      (fun d => AtWork t s ts d ∧ LeftToLibrary t d) := fun d d' h hr =>
    ⟨atWork_stable d d' h.1 hr, left_stable d d' h.2 hr⟩
  refine Triple.bind (R := fun received d => AtWork t s ts d ∧
      (received = true ∨ t.isClassInterface = true))
    (Triple.get hstable (fun d _ => assert_inside inside_ops.access.1 d) fun _ h _ => h) fun received =>
    Triple.assuming fun hleft => Triple.ite (fun _ => ?_) fun hreceived => ?_
  · refine Triple.get_bind (a := t.toUSB_Request_Header_t) atWork_stable
      (fun d _ => assert_inside inside_ops.access.1 d) (fun _ hd => by rw [hd.request]) ?_
    exact obeys_all P t s₀ s ts
  · rw [respond_snd_none (standard_of_class (hleft.resolve_left hreceived))]
    exact Triple.pure fun _ h => h

/-- Whatever header has been copied, it is the request at work from there on. -/
theorem USB_Device_ProcessControlRequest_obeyed :
    Triple (anytime P s₀) (fun d : Device ρ => Obeyed P s₀ d ∧ d.ep.SETUPReceived = true)
      (USB_Device_ProcessControlRequest P) (fun _ => Obeyed P s₀) := by
  have hcopy : Triple (anytime P s₀) (fun d : Device ρ => Obeyed P s₀ d ∧ d.ep.SETUPReceived = true)
      Endpoint_GetSetupPackage (fun _ d => Obeyed P s₀ d ∧ d.ep.SETUPReceived = true) := by
    refine Endpoint_GetSetupPackage.stays (fun i => ?_)
      (fun i d _ => assert_inside (by simp [Outside]) d) fun _ _ h => h
    rintro d _ ⟨hd, hset⟩ ⟨ev, rfl⟩
    exact ⟨hd, Endpoint.SETUPReceived_interrupt_of_true hset⟩
  refine Triple.bind hcopy fun _ d hd => ?_
  refine Triple.bind (P := fun d' => AtWork d.USB_ControlRequest (libraryOf P (dispatches d.calls) s₀)
    (dispatches d.calls) d' ∧ d'.ep.SETUPReceived = true) EVENT_history (fun _ =>
    Triple.bind standardRequests_history fun _ => (atWork_keeps
      (stallUnhandled.keeps inside_ops workView_handler.toDriverView)).conseq (fun _ h => h)
      fun _ d' h => ?_) d ⟨⟨rfl, hd.1, rfl⟩, hd.2⟩
  unfold Obeyed
  rw [h.dispatches, libraryOf_snoc]
  exact h.library

theorem task_loop_obeyed :
    Triple (anytime P s₀) (Obeyed P s₀) (task_loop P) (fun _ => Obeyed (ρ := ρ) P s₀) :=
  task_loop_invariant (fun _ _ => obeyed_stable) (fun _ _ _ hd _ => hd) (fun _ hd => hd)
    USB_Device_ProcessControlRequest_obeyed

/-! ## Requests that were sent -/

/-- How many bytes of a header that is being copied have been copied. -/
def copied : Op → Nat
  | .memcpy i => i
  | _ => 0

/-- Some bytes of the header have been copied, but not all of them. -/
def Copying (op : Op) : Prop := 0 < copied op

/-- The requests that were passed to the handler are some of those that have come, in order. -/
def InOrder (d : Device ρ) : Prop := (dispatches d.calls).Sublist d.ep.sent

/-- No request is at work, and one that waits has come behind all that were passed on. -/
structure Between (d : Device ρ) : Prop where
  inOrder : InOrder d
  waiting : d.ep.SETUPReceived = true →
    (dispatches d.calls ++ [d.ep.SetupPackage]).Sublist d.ep.sent

/-- Interrupts come at any time, but no SETUP packet while the header is copied. -/
def spared : Contract (Device ρ) Op where
  rely op d d' := ∃ ev : Event, (Copying op → ev.NoSetup) ∧ d' = interrupt ev d
  assume _ _ := True
  assert _ := InOrder
  undefined _ := True

theorem sent_interrupt (ev : Event) (e : Endpoint) : e.sent.Sublist (e.interrupt ev).sent := by
  rcases ev.noSetup_or with hev | ⟨t, rfl⟩
  · rw [(Endpoint.setup_interrupt hev).2]
  · exact List.sublist_append_left _ _

theorem InOrder.interrupt (h : InOrder d) (ev : Event) : InOrder (interrupt ev d) :=
  h.trans (sent_interrupt ev d.ep)

theorem Between.interrupt (h : Between d) (ev : Event) : Between (interrupt ev d) := by
  refine ⟨h.inOrder.interrupt ev, fun hset => ?_⟩
  rcases ev.noSetup_or with hev | ⟨t, rfl⟩
  · obtain ⟨hpackage, hsent⟩ := Endpoint.setup_interrupt (e := d.ep) hev
    have hold : d.ep.SETUPReceived = true := by rwa [← Endpoint.SETUPReceived_interrupt hev]
    change (dispatches d.calls ++ [(Endpoint.interrupt ev d.ep).SetupPackage]).Sublist
      (Endpoint.interrupt ev d.ep).sent
    rw [hpackage, hsent]
    exact h.waiting hold
  · exact List.Sublist.append h.inOrder (List.Sublist.refl [t])

theorem inOrder_stable : (spared (ρ := ρ)).Stable op InOrder := by
  rintro d _ h ⟨ev, -, rfl⟩
  exact h.interrupt ev

theorem between_stable : (spared (ρ := ρ)).Stable op Between := by
  rintro d _ h ⟨ev, -, rfl⟩
  exact h.interrupt ev

theorem inOrder_keeps {α : Type} {p : Task ρ α}
    (h : p.Keeps Inside Inside (fun d => (dispatches d.calls, d.ep.sent))) :
    Triple spared InOrder p (fun _ => InOrder) :=
  h.triple (fun d d' hv hd => by
      obtain ⟨hcalls, hsent⟩ := Prod.mk.inj hv
      unfold InOrder at hd ⊢
      rwa [← hcalls, ← hsent])
    (fun _ _ => inOrder_stable) (fun _ _ _ hd => hd) (fun _ _ => trivial)

/-- The header that has been copied is that of a request behind all that were passed on. -/
def AtHand (d : Device ρ) : Prop :=
  (dispatches d.calls ++ [d.USB_ControlRequest]).Sublist d.ep.sent

theorem Endpoint_GetSetupPackage_atHand :
    Triple spared (fun d : Device ρ => Between d ∧ d.ep.SETUPReceived = true)
      Endpoint_GetSetupPackage (fun _ => AtHand) := by
  refine Triple.conseq (Endpoint_GetSetupPackage.copies (fun i => ?_) (fun i d h => h.1.inOrder)
    (fun d t h => ⟨⟨h.1.inOrder, h.1.waiting⟩, h.2⟩) fun i d d' hi hr => ?_) (fun _ h => h)
    fun _ d h => ?_
  · rintro d _ ⟨hd, hset⟩ ⟨ev, -, rfl⟩
    exact ⟨hd.interrupt ev, Endpoint.SETUPReceived_interrupt_of_true hset⟩
  · obtain ⟨ev, hev, rfl⟩ := hr
    exact ⟨ev, hev hi, rfl⟩
  · obtain ⟨⟨hd, hset⟩, hreq⟩ := h
    unfold AtHand
    exact hreq.symm ▸ hd.waiting hset

theorem EVENT_inOrder :
    Triple spared AtHand (EVENT_USB_Device_ControlRequest P) (fun _ => InOrder (ρ := ρ)) := by
  refine Triple.bind (R := fun _ => InOrder) (Triple.exec ?_ (fun d h => ?_) fun d h _ => ?_)
    fun received => inOrder_keeps (accepted_keeps requestsView received)
  · rintro d _ h ⟨ev, -, rfl⟩
    exact List.Sublist.trans h (sent_interrupt ev d.ep)
  · exact (List.sublist_append_left _ _).trans h
  · unfold InOrder Device.note dispatches
    rw [List.filterMap_append]
    exact h

theorem between_modify {f : Device ρ → Device ρ} (h : ∀ d, Between d → Between (f d)) :
    Triple spared Between (Prog.modify op f) (fun _ => Between) :=
  Triple.modify between_stable (fun _ hd => hd.inOrder) fun d hd _ => h d hd

/-- Either the flag is taken back here, or it was not set at the moment of the test. -/
theorem stallUnhandled_between :
    Triple spared InOrder stallUnhandled (fun _ => Between (ρ := ρ)) := by
  refine Triple.bind (R := fun received d => if received then InOrder d else Between d)
    (Triple.get inOrder_stable (fun _ h => h) fun d h _ => ?_) fun received => ?_
  · cases hset : d.ep.SETUPReceived with
    | true => exact h
    | false => exact ⟨h, fun h => by rw [hset] at h; cases h⟩
  cases received with
  | false => exact Triple.pure fun _ h => h
  | true =>
      refine Triple.bind (R := fun _ => Between) ?_ fun _ => ?_
      · exact Triple.bind (R := fun _ => Between)
          (Triple.modify inOrder_stable (fun _ h => h) fun d h _ => ⟨h, fun h => by cases h⟩)
          fun _ => Triple.bind (R := fun _ => Between) (between_modify fun _ h => ⟨h.1, h.2⟩)
          fun _ => Triple.bind (R := fun _ => Between) (between_modify fun _ h => ⟨h.1, h.2⟩)
          fun _ => between_modify fun _ h => ⟨h.1, h.2⟩
      · refine between_modify fun d h => ?_
        have hcalls : dispatches ((d.onEp fun e => { e with stalled := true }).note .stall).calls =
            dispatches d.calls := dispatches_snoc (by simp)
        refine ⟨?_, hcalls ▸ h.waiting⟩
        unfold InOrder
        exact hcalls ▸ h.inOrder

theorem USB_Device_ProcessControlRequest_between :
    Triple spared (fun d : Device ρ => Between d ∧ d.ep.SETUPReceived = true)
      (USB_Device_ProcessControlRequest P) (fun _ => Between) :=
  Triple.bind Endpoint_GetSetupPackage_atHand fun _ => Triple.bind EVENT_inOrder fun _ =>
    Triple.bind (inOrder_keeps (standardRequests.keeps requestsLibraryView inside_ops P)) fun _ =>
      stallUnhandled_between

theorem task_loop_between : Triple spared Between (task_loop P) (fun _ => Between (ρ := ρ)) :=
  task_loop_invariant (fun _ _ => between_stable) (fun _ _ _ hd => hd.inOrder)
    (fun _ hd => ⟨hd.inOrder, hd.waiting⟩) USB_Device_ProcessControlRequest_between

/-! ## Runs -/

/-- No SETUP packet comes between the first byte of the header that is copied and the last. -/
def SparesCopy : Move Event → TaskConfig ρ → Prop
  | .event (.setup _), c => ∀ op ∈ c.1.next, ¬ Copying op
  | _, _ => True

instance : DecidablePred Copying := fun op => inferInstanceAs (Decidable (0 < copied op))

instance : (m : Move Event) → (c : TaskConfig ρ) → Decidable (SparesCopy m c)
  | .event (.setup _), c => inferInstanceAs (Decidable (∀ op ∈ c.1.next, ¬ Copying op))
  | .event (.out _), _ => .isTrue trivial
  | .event .zlp, _ => .isTrue trivial
  | .event .inComplete, _ => .isTrue trivial
  | .access, _ => .isTrue trivial
  | .again, _ => .isTrue trivial

variable {vs : List (Visit (TaskConfig ρ) (Move Event))} {c : TaskConfig ρ}

theorem obeyed_of_run (hrun : Run (TaskMoves P) (task_loop P, d) vs c) (hd : Obeyed P s₀ d)
    (hout : ∀ op ∈ c.1.next, Outside op) : Obeyed P s₀ c.2 := by
  have hwp : wp (anytime P s₀) (fun _ => Obeyed P s₀) (task_loop P) d := task_loop_obeyed d hd
  obtain ⟨-, hend⟩ := hrun.invariant
    (I := fun c : TaskConfig ρ => wp (anytime P s₀) (fun _ => Obeyed P s₀) c.1 c.2)
    (fun v hv hst h => wp_loop h hst (fun _ _ hend => task_loop_obeyed _ hend)
      (fun ev _ _ _ => ⟨ev, rfl⟩) (fun ev _ _ _ hend => hend) fun _ _ _ => trivial) hwp
  obtain ⟨p, d'⟩ := c
  cases hp : p.next with
  | none =>
      obtain ⟨reset, rfl⟩ := Prog.eq_ret_of_next hp
      exact hend
  | some op => exact wp_next hend hp (hout op hp)

theorem inOrder_of_run (hrun : Run (TaskMoves P) (task_loop P, d) vs c) (hd : Between d)
    (hcopy : ∀ v ∈ vs, SparesCopy v.action v.before) : InOrder c.2 := by
  have hwp : wp spared (fun _ => Between) (task_loop P) d := task_loop_between d hd
  obtain ⟨-, hend⟩ := hrun.invariant
    (I := fun c : TaskConfig ρ => wp spared (fun _ => Between) c.1 c.2) (fun v hv hst h => by
      refine wp_loop h hst (fun _ _ hend => task_loop_between _ hend) ?_
        (fun ev _ _ _ hend => hend.interrupt ev) fun _ _ _ => trivial
      intro ev hev op hop
      refine ⟨ev, fun hcopying => ?_, rfl⟩
      have hspares := hcopy v hv
      rw [hev] at hspares
      rcases ev.noSetup_or with hno | ⟨t, rfl⟩
      · exact hno
      · exact absurd hcopying (hspares op hop)) hwp
  obtain ⟨p, d'⟩ := c
  cases hp : p.next with
  | none =>
      obtain ⟨reset, rfl⟩ := Prog.eq_ret_of_next hp
      exact hend.inOrder
  | some op => exact wp_next hend hp

def setConfigurationOne : ControlTransfer := ⟨⟨0x00, REQ_SetConfiguration, 1, 0, 0⟩, []⟩

def setAddressFive : ControlTransfer := ⟨⟨0x00, REQ_SetAddress, 5, 0, 0⟩, []⟩

/-- The second packet comes behind the test that takes the first for a standard request. -/
def interruptedRun : List (Move Event) :=
  .event (.setup setConfigurationOne) :: List.replicate 21 .access ++
    [.event (.setup setAddressFive)] ++ List.replicate 11 .access ++ [.again]

/-- The second packet comes when two bytes of the first header have been copied. -/
def tornRun : List (Move Event) :=
  .event (.setup setAddressFive) :: List.replicate 4 .access ++
    [.event (.setup setConfigurationOne)] ++ List.replicate 16 .access ++ [.again]

/-- The device obeys a header that nobody has sent, and takes the address 1. -/
theorem tornRun_dispatches : ∃ (vs : List (Visit (TaskConfig Rom) (Move Event))) (c : TaskConfig Rom),
    Run (TaskMoves reference) (task_loop reference, Device.start Rom.blank) vs c ∧
      vs.map Visit.action = tornRun ∧ c.2.ep.sent = [setAddressFive, setConfigurationOne] ∧
      dispatches c.2.calls = [⟨⟨0x00, REQ_SetAddress, 1, 0, 0⟩, []⟩] ∧
      (library c.2).deviceState = .DEVICE_STATE_Addressed :=
  exists_run (taskMove reference) tornRun (task_loop reference, Device.start Rom.blank) (fun _ c =>
    c.2.ep.sent = [setAddressFive, setConfigurationOne] ∧
      dispatches c.2.calls = [⟨⟨0x00, REQ_SetAddress, 1, 0, 0⟩, []⟩] ∧
      (library c.2).deviceState = .DEVICE_STATE_Addressed) (by decide +kernel)

end DfuSeBootloader.Dfu
