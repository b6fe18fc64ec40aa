import DfuSeBootloader.Dfu.Lemmas.Keeps
import DfuSeBootloader.Usb.Lemmas.SetupPackage
import DfuSeBootloader.Usb.Lemmas.Standard

/-!
# One turn of the task and the requests

What a turn does to the requests that have come, when no SETUP packet comes while a request is
processed.
-/

namespace DfuSeBootloader.Dfu
open Program Memory Iap Usb
open EVENT_USB_Device_ControlRequest

variable {ρ : Type} {P : Platform ρ} {d : Device ρ}

/-! ## Places in the task -/

/-- The task is not inside `USB_Device_ProcessControlRequest`. -/
def Outside (op : Op) : Prop := op = .USB_DeviceTask ∨ op = .task_loop

/-- A control transfer can end here: a packet is sent, the OUT buffer is released, or the endpoint
stalls. -/
def EndsTransfer (op : Op) : Prop :=
  op = .CMD_VALID_BUF ∨ op = .CMD_CLR_BUF .clearOUT ∨ op = .OS_CRITICAL ∨
    op = .Endpoint_StallTransaction

instance : DecidablePred Outside := fun op => inferInstanceAs (Decidable (op = _ ∨ op = _))

instance : DecidablePred EndsTransfer := fun op =>
  inferInstanceAs (Decidable (op = _ ∨ op = _ ∨ op = _ ∨ op = _))

/-! ## Requests -/

/-- Every request that has come was passed to the handler, in order and with its own bytes. -/
def Handled (d : Device ρ) : Prop := dispatches d.calls = d.ep.sent

/-- Every request but the last was passed to the handler, and the last waits for it. -/
def Pending (d : Device ρ) : Prop :=
  d.ep.SETUPReceived = true ∧ dispatches d.calls ++ [d.ep.SetupPackage] = d.ep.sent

/-- No request is at work. -/
def Settled (d : Device ρ) : Prop := d.ep.SETUPReceived = false ∧ Handled d ∨ Pending d

theorem Settled.handled_or_pending (h : Settled d) : Handled d ∨ Pending d := h.imp_left And.right

theorem Pending.not_handled (h : Pending d) : ¬ Handled d := by
  intro hd
  have hlen := congrArg List.length h.2
  rw [List.length_append, hd] at hlen
  exact absurd hlen (by simp)

/-- A SETUP packet comes only outside, and only where none is waiting. -/
def once : Contract (Device ρ) Op where
  rely op d d' := (∃ ev : Event, ev.NoSetup ∧ d' = interrupt ev d) ∨
    (Outside op ∧ d.ep.SETUPReceived = false ∧ ∃ t, d' = interrupt (.setup t) d)
  assume _ _ := True
  assert op d := (Handled d ∨ Pending d) ∧ (EndsTransfer op → Handled d) ∧
    (Outside op → Settled d) ∧ (op = .EVENT_USB_Device_ControlRequest → Pending d)
  undefined _ := True

/-! ## Interrupts -/

variable {ev : Event} {op : Op}

theorem Handled.interrupt (h : Handled d) (hev : ev.NoSetup) : Handled (interrupt ev d) :=
  h.trans (Endpoint.setup_interrupt hev).2.symm

theorem Pending.interrupt (h : Pending d) (hev : ev.NoSetup) : Pending (interrupt ev d) := by
  obtain ⟨hpackage, hsent⟩ := Endpoint.setup_interrupt (e := d.ep) hev
  refine ⟨(Endpoint.SETUPReceived_interrupt hev).trans h.1, ?_⟩
  change dispatches d.calls ++ [(Endpoint.interrupt ev d.ep).SetupPackage] =
    (Endpoint.interrupt ev d.ep).sent
  rw [hpackage, hsent]
  exact h.2

theorem Settled.interrupt (h : Settled d) (hev : ev.NoSetup) : Settled (interrupt ev d) :=
  h.imp (fun h => ⟨(Endpoint.SETUPReceived_interrupt hev).trans h.1, h.2.interrupt hev⟩)
    (·.interrupt hev)

theorem Handled.setup (h : Handled d) (t : ControlTransfer) : Pending (Usb.interrupt (.setup t) d) :=
  ⟨rfl, congrArg (· ++ [t]) h⟩

theorem settled_stable : (once (ρ := ρ)).Stable op Settled := by
  rintro d _ h (⟨ev, hev, rfl⟩ | ⟨-, hset, t, rfl⟩)
  · exact h.interrupt hev
  · rcases h with h | h
    · exact .inr (h.2.setup t)
    · rw [h.1] at hset
      cases hset

theorem handled_stable (hop : ¬ Outside op) : (once (ρ := ρ)).Stable op Handled := by
  rintro d _ h (⟨ev, hev, rfl⟩ | ⟨hout, -⟩)
  · exact h.interrupt hev
  · exact absurd hout hop

theorem pending_stable (hop : ¬ Outside op) : (once (ρ := ρ)).Stable op Pending := by
  rintro d _ h (⟨ev, hev, rfl⟩ | ⟨hout, -⟩)
  · exact h.interrupt hev
  · exact absurd hout hop

/-! ## What does not concern the requests -/

/-- An operation inside, other than the call of the handler. -/
def Inside (op : Op) : Prop := ¬ Outside op ∧ op ≠ .EVENT_USB_Device_ControlRequest

theorem inside_ops : LibraryOps Inside Inside := by
  constructor <;> (try constructor) <;> simp [Inside, Outside]

theorem requestsView : HandlerView (fun d : Device ρ => (dispatches d.calls, d.ep.sent)) where
  onEp d f _ _ h := congrArg (dispatches d.calls, ·) h
  firmware _ _ := rfl
  statusStage d := congrArg (·, d.ep.sent) (dispatches_snoc (by simp))
  stall d := congrArg (·, d.ep.sent) (dispatches_snoc (by simp))
  state _ _ := rfl
  status _ _ := rfl
  address _ _ := rfl
  detach _ _ := rfl
  iap d _ c hc := congrArg (·, d.ep.sent)
    (dispatches_snoc fun t ht => by rw [ht] at hc; cases hc)

theorem requestsLibraryView : LibraryView (fun d : Device ρ => (dispatches d.calls, d.ep.sent)) where
  toDriverView := requestsView.toDriverView
  deviceState _ _ := rfl
  configuration _ _ := rfl
  wakeup _ _ := rfl

theorem assert_handled (h : Handled d) (hop : Inside op) : once.assert op d :=
  ⟨.inl h, fun _ => h, fun hout => absurd hout hop.1, fun hevent => absurd hevent hop.2⟩

theorem handled_keeps {α : Type} {p : Task ρ α}
    (h : p.Keeps Inside Inside (fun d => (dispatches d.calls, d.ep.sent))) :
    Triple once Handled p (fun _ => Handled) :=
  h.triple (fun d d' hv hd => by
      obtain ⟨hcalls, hsent⟩ := Prod.mk.inj hv
      unfold Handled at hd ⊢
      rwa [← hcalls, ← hsent])
    (fun _ hop => handled_stable (hop.elim And.left And.left))
    (fun _ _ hop hd => assert_handled hd (hop.elim id id)) (fun _ _ => trivial)

theorem accepted_keeps {τ : Type} {v : Device ρ → τ} (hv : HandlerView v) (received : Bool) :
    (if received then do
      if ← Prog.get .access (·.USB_ControlRequest.isClassInterface) then
        let wValue ← Prog.get .access (·.USB_ControlRequest.wValue.toNat)
        let size ← Prog.get .access (·.USB_ControlRequest.wLength.toNat)
        Endpoint_ClearSETUP .handlerClearSETUP
        switch P wValue size (DFU_REQ.ofCode (← Prog.get .access (·.USB_ControlRequest.bRequest)))
    else pure () : Task ρ Unit).Keeps Inside Inside v := by
  have ha : Inside .access := inside_ops.access
  refine .ite (fun _ => .bind (by simp [ha]) fun _ => .ite (fun _ => ?_) (fun _ => .pure _))
    (fun _ => .pure _)
  refine .bind (by simp [ha]) fun _ => .bind (by simp [ha]) fun _ =>
    .bind (Endpoint_ClearSETUP.keeps hv.toDriverView inside_ops.toDriverOps _) fun _ =>
    .bind (by simp [ha]) fun _ => ?_
  exact switch.keeps hv inside_ops.toDriverOps P (by simp [Inside, Outside])
    (by simp [Inside, Outside]) (fun _ => inside_ops.inReady) (by simp [Inside, Outside]) (by simp [Inside, Outside])

/-- The task changes a view at the call of the handler only. -/
theorem USB_Device_ProcessControlRequest_keepsSave {τ : Type} {v : Device ρ → τ} {x : Op → Prop}
    (hv : HandlerView v) (hl : LibraryView v)
    (hcopy : ∀ d t, v { d with USB_ControlRequest := t } = v d)
    (hcall : ¬ x .EVENT_USB_Device_ControlRequest → ∀ d t, v (d.note (.dispatch t)) = v d) :
    (USB_Device_ProcessControlRequest P).KeepsSave x v := by
  have hget : (Endpoint_GetSetupPackage : Task ρ Unit).Keeps (fun _ => True) (fun _ => True) v :=
    Endpoint_GetSetupPackage.keeps hcopy fun _ => trivial
  refine .bind hget.save fun _ => .bind ?_ fun _ =>
    .bind (standardRequests.keeps hl inside_ops P).save fun _ =>
      (stallUnhandled.keeps inside_ops hl.toDriverView).save
  exact .bind ⟨fun hx d => hcall hx d _, fun _ => trivial⟩ fun received =>
    (accepted_keeps hv received).save

/-! ## One turn -/

/-- What holds between two requests holds between two turns. -/
theorem task_loop_invariant {C : Contract (Device ρ) Op} {J : Device ρ → Prop}
    (hJ : ∀ op, Outside op → C.Stable op J) (ha : ∀ op d, Outside op → J d → C.assert op d)
    (hdetach : ∀ d, J d → J { d with need_detach := true })
    (hprocess : Triple C (fun d => J d ∧ d.ep.SETUPReceived = true)
      (USB_Device_ProcessControlRequest P) (fun _ => J)) :
    Triple C J (task_loop P) (fun _ => J) := by
  have hget {α : Type} {op : Op} {v : Device ρ → α} (hop : Outside op) :
      Triple C J (Prog.get op v) (fun _ => J) :=
    Triple.get (hJ op hop) (fun d => ha op d hop) fun _ h _ => h
  refine Triple.bind (Triple.bind (hget (.inl rfl)) fun state => Triple.ite (fun _ => ?_)
    fun _ => Triple.pure fun _ h => h) fun _ => Triple.bind (hget (.inr rfl)) fun _ =>
      Triple.ite (fun _ => ?_) fun _ => Triple.pure fun _ h => h
  · -- a flag that was set at the test is still set behind it
    refine Triple.bind (R := fun received d => J d ∧ (received = true → d.ep.SETUPReceived = true))
      (Triple.get (hJ _ (.inl rfl)) (fun d => ha _ d (.inl rfl)) fun _ h _ => ⟨h, id⟩)
      fun received => Triple.ite (fun hreceived => ?_) fun _ => Triple.pure fun _ h => h.1
    exact hprocess.conseq (fun _ h => ⟨h.1, h.2 hreceived⟩) fun _ _ h => h
  · exact Triple.bind (R := fun _ => J) (Triple.modify (hJ _ (.inr rfl))
      (fun d => ha _ d (.inr rfl)) fun d h _ => hdetach d h) fun _ => Triple.pure fun _ h => h

/-- The request has been copied, and the handler is about to be called for it. -/
def AtCall (d : Device ρ) : Prop := Pending d ∧ d.USB_ControlRequest = d.ep.SetupPackage

theorem atCall_stable (hop : ¬ Outside op) : (once (ρ := ρ)).Stable op AtCall := by
  rintro d _ ⟨hp, ht⟩ (⟨ev, hev, rfl⟩ | ⟨hout, -⟩)
  · exact ⟨hp.interrupt hev, ht.trans (Endpoint.setup_interrupt hev).1.symm⟩
  · exact absurd hout hop

theorem EVENT_handled :
    Triple once AtCall (EVENT_USB_Device_ControlRequest P) (fun _ => Handled) := by
  refine Triple.bind (R := fun _ => Handled) (Triple.exec (atCall_stable (by simp [Outside])) ?_ ?_)
    fun received => handled_keeps (accepted_keeps requestsView received)
  · exact fun d h => ⟨.inr h.1, fun h => by simp [EndsTransfer] at h, fun h => by simp [Outside] at h,
      fun _ => h.1⟩
  · rintro d ⟨⟨-, hsent⟩, ht⟩ -
    unfold Handled Device.note dispatches
    rw [List.filterMap_append, ← hsent, ← ht]
    rfl

/-- Nothing waits. -/
def Quiet (d : Device ρ) : Prop := d.ep.SETUPReceived = false ∧ Handled d

theorem quiet_stable (hop : ¬ Outside op) : (once (ρ := ρ)).Stable op Quiet := by
  rintro d _ ⟨hset, hd⟩ (⟨ev, hev, rfl⟩ | ⟨hout, -⟩)
  · exact ⟨(Endpoint.SETUPReceived_interrupt hev).trans hset, hd.interrupt hev⟩
  · exact absurd hout hop

theorem quiet_modify {f : Device ρ → Device ρ} (hop : Inside op) (h : ∀ d, Quiet d → Quiet (f d)) :
    Triple once Quiet (Prog.modify op f) (fun _ => Quiet) :=
  Triple.modify (quiet_stable hop.1) (fun _ hd => assert_handled hd.2 hop) fun d hd _ => h d hd

/-- What still waits behind the handler has been passed to it, and is taken off. -/
theorem stallUnhandled_quiet : Triple once Handled stallUnhandled (fun _ => Quiet (ρ := ρ)) := by
  have ha : Inside .access := inside_ops.access
  refine Triple.bind (R := fun received d => Handled d ∧ d.ep.SETUPReceived = received)
    (Triple.get (handled_stable ha.1) (fun _ h => assert_handled h ha) fun _ h _ => ⟨h, rfl⟩)
    fun received => ?_
  cases received with
  | false => exact Triple.pure fun _ h => h.symm
  | true =>
      refine Triple.conseq (P := Handled) (Triple.bind (R := fun _ => Quiet) ?_ fun _ => ?_)
        (fun _ h => h.1) (fun _ _ h => h)
      · exact Triple.bind (R := fun _ => Quiet)
          (Triple.modify (handled_stable ha.1) (fun _ h => assert_handled h ha) fun _ h _ => ⟨rfl, h⟩)
          fun _ => Triple.bind (R := fun _ => Quiet) (quiet_modify ha fun _ h => h) fun _ =>
          Triple.bind (R := fun _ => Quiet) (quiet_modify ha fun _ h => h) fun _ =>
            quiet_modify (inside_ops.clr _) fun _ h => h
      · refine quiet_modify inside_ops.stall fun d h => ⟨h.1, ?_⟩
        have hview := requestsView.stall (d.onEp fun e => { e with stalled := true })
        exact (congrArg Prod.fst hview).trans h.2

theorem USB_Device_ProcessControlRequest_quiet :
    Triple once Pending (USB_Device_ProcessControlRequest P) (fun _ => Quiet (ρ := ρ)) := by
  have hin (i : Nat) : ¬ Outside (.memcpy i) := by simp [Outside]
  have hget : Triple once Pending Endpoint_GetSetupPackage (fun _ => AtCall (ρ := ρ)) := by
    refine Endpoint_GetSetupPackage.copies (fun i => pending_stable (hin i)) (fun i d h => ?_)
      (fun _ _ h => h) fun i d d' _ hr => ?_
    · exact ⟨.inr h, fun h => by simp [EndsTransfer] at h, fun h => absurd h (hin i), fun h => nomatch h⟩
    · exact hr.resolve_right fun h => hin i h.1
  refine Triple.bind hget fun _ => ?_
  exact Triple.bind EVENT_handled fun _ =>
    Triple.bind (handled_keeps (standardRequests.keeps requestsLibraryView inside_ops P)) fun _ =>
      stallUnhandled_quiet

/-! ## Requests that came before -/

/-- The requests in `l` have come. -/
def Came (l : List ControlTransfer) (d : Device ρ) : Prop := l <+: d.ep.sent

theorem Came.of_eq {l : List ControlTransfer} {d' : Device ρ} (h : Came l d)
    (hsent : d.ep.sent = d'.ep.sent) : Came l d' := by
  unfold Came at h ⊢
  rwa [← hsent]

/-- The requests in `l` have come, and an attached device has passed them to the handler. -/
structure Passed (l : List ControlTransfer) (d : Device ρ) : Prop where
  settled : Settled d
  came : Came l d
  passed : d.USB_DeviceState ≠ .DEVICE_STATE_Unattached → l <+: dispatches d.calls

variable {l : List ControlTransfer}

theorem came_stable : (once (ρ := ρ)).Stable op (Came l) := by
  rintro d _ h (⟨ev, hev, rfl⟩ | ⟨-, -, t, rfl⟩)
  · exact h.of_eq (Endpoint.setup_interrupt hev).2.symm
  · exact List.IsPrefix.trans h (List.prefix_append _ _)

theorem passed_stable : (once (ρ := ρ)).Stable op (Passed l) := by
  intro d d' h hr
  refine ⟨settled_stable d d' h.settled hr, came_stable d d' h.came hr, ?_⟩
  rcases hr with ⟨ev, -, rfl⟩ | ⟨-, -, t, rfl⟩ <;> exact h.passed

theorem Quiet.passed (h : Quiet d) (hl : Came l d) : Passed l d :=
  ⟨.inl h, hl, fun _ => h.2 ▸ hl⟩

theorem Settled.assert (h : Settled d) (hop : Outside op) : once.assert op d := by
  refine ⟨h.handled_or_pending, fun hend => ?_, fun _ => h, fun hcall => ?_⟩
  · rcases hop with rfl | rfl <;> simp [EndsTransfer] at hend
  · rcases hop with rfl | rfl <;> cases hcall

theorem sentView : HandlerView (fun d : Device ρ => d.ep.sent) where
  onEp _ _ _ _ h := h
  firmware _ _ := rfl
  statusStage _ := rfl
  stall _ := rfl
  state _ _ := rfl
  status _ _ := rfl
  address _ _ := rfl
  detach _ _ := rfl
  iap _ _ _ _ := rfl

theorem sentLibraryView : LibraryView (fun d : Device ρ => d.ep.sent) where
  toDriverView := sentView.toDriverView
  deviceState _ _ := rfl
  configuration _ _ := rfl
  wakeup _ _ := rfl

theorem USB_DeviceTask_passed :
    Triple once (fun d : Device ρ => Settled d ∧ Came l d) (USB_DeviceTask P)
      (fun _ => Passed l) := by
  have hout : Outside .USB_DeviceTask := .inl rfl
  have hstable : (once (ρ := ρ)).Stable .USB_DeviceTask (fun d => Settled d ∧ Came l d) :=
    fun d d' h hr => ⟨settled_stable d d' h.1 hr, came_stable d d' h.2 hr⟩
  refine Triple.bind (R := fun state d => (Settled d ∧ Came l d) ∧ d.USB_DeviceState = state)
    (Triple.get hstable (fun _ h => h.1.assert hout) fun _ h _ => ⟨h, rfl⟩) fun state =>
    Triple.ite (fun _ => ?_) (fun hun => ?_)
  · refine Triple.bind (R := fun received d => (Settled d ∧ Came l d) ∧ d.ep.SETUPReceived = received)
      (Triple.conseq (Triple.get hstable (fun _ h => h.1.assert hout) fun _ h _ => ⟨h, rfl⟩)
        (fun _ h => h.1) (fun _ _ h => h)) fun received => ?_
    cases received with
    | false =>
        refine Triple.pure fun d h => Quiet.passed (h.1.1.resolve_right fun hp => ?_) h.1.2
        rw [hp.1] at h
        cases h.2
    | true =>
        refine (Prog.KeepsSave.frame (USB_Device_ProcessControlRequest_keepsSave sentView
          sentLibraryView (fun _ _ => rfl) fun _ _ _ => rfl)
          (fun _ _ hv h => h.of_eq hv) (fun _ => came_stable)
          USB_Device_ProcessControlRequest_quiet).conseq (fun d h => ⟨?_, h.1.2⟩)
          fun _ _ h => h.1.passed h.2
        exact h.1.1.resolve_left fun hq => by rw [hq.1] at h; cases h.2
  · refine Triple.pure fun d h => ⟨h.1.1, h.1.2, fun hatt => absurd ?_ hun⟩
    rwa [← h.2]

theorem task_loop_passed : Triple once (fun d : Device ρ => Settled d ∧ Came l d) (task_loop P)
    (fun _ => Passed l) := by
  have hassert (d : Device ρ) (h : Passed l d) : once.assert .task_loop d := h.settled.assert (.inr rfl)
  refine Triple.bind USB_DeviceTask_passed fun _ => Triple.bind (R := fun _ => Passed l)
    (Triple.get passed_stable hassert fun _ h _ => h) fun need => Triple.ite (fun _ => ?_)
      (fun _ => Triple.pure fun _ h => h)
  exact Triple.bind (R := fun _ => Passed l)
    (Triple.modify passed_stable hassert fun _ h _ => ⟨h.settled, h.came, h.passed⟩)
    fun _ => Triple.pure fun _ h => h

/-- The requests are passed on at one place only. -/
theorem task_loop_keepsSave :
    (task_loop P).KeepsSave (· = .EVENT_USB_Device_ControlRequest)
      (fun d : Device ρ => (dispatches d.calls, d.ep.sent)) := by
  have hget {α : Type} {op : Op} {v : Device ρ → α} : (Prog.get op v).KeepsSave
      (· = .EVENT_USB_Device_ControlRequest) (fun d : Device ρ => (dispatches d.calls, d.ep.sent)) :=
    ⟨fun _ _ => rfl, fun _ => trivial⟩
  refine .bind (.bind hget fun state => ?_) fun _ => .bind hget fun need => ?_
  · split
    · refine .bind hget fun received => ?_
      split
      · exact USB_Device_ProcessControlRequest_keepsSave requestsView requestsLibraryView
          (fun _ _ => rfl) fun hx => absurd rfl hx
      · exact trivial
    · exact trivial
  · cases need with
    | true => exact ⟨fun _ _ => rfl, fun _ => trivial⟩
    | false => exact trivial

end DfuSeBootloader.Dfu
