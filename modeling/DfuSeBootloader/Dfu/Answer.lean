import DfuSeBootloader.Dfu.Bounds
import DfuSeBootloader.Dfu.Exchange
import DfuSeBootloader.Dfu.Lemmas.Proceeds

/-!
# Answers

The host waits for a status stage or for a stall. A request that the `switch` does not list gets
neither: the handler has taken its SETUP packet, and the library stalls only where one is left.
-/

namespace DfuSeBootloader.Dfu
open Program Memory Iap Usb
open EVENT_USB_Device_ControlRequest

variable {ρ : Type} {P : Platform ρ} {t : ControlTransfer} {n m k : Nat} {d d' : Device ρ}

/-! ## What the host waits for -/

/-- How often `Endpoint_ClearStatusStage` has been called. -/
def statusStages (d : Device ρ) : Nat := d.calls.countP (· matches .statusStage)

def stalls (d : Device ρ) : Nat := d.calls.countP (· matches .stall)

/-- Between `d` and `d'` the host has got one answer. -/
def AnsweredOnce (d d' : Device ρ) : Prop :=
  (statusStages d' = statusStages d + 1 ∧ stalls d' = stalls d) ∨
    (statusStages d' = statusStages d ∧ stalls d' = stalls d + 1)

/-- One interrupt that brings no SETUP packet. -/
def Undistracted (d d' : Device ρ) : Prop := ∃ ev : Event, ev.NoSetup ∧ d' = interrupt ev d

/-- In state `d` the request `t` comes, and while it is processed, interrupts come at any time. -/
def Processing (P : Platform ρ) (t : ControlTransfer) (d : Device ρ) (p : Task ρ Unit)
    (d' : Device ρ) : Prop :=
  Prog.Steps Undistracted (fun _ _ => True)
    (USB_Device_ProcessControlRequest P, interrupt (.setup t) d) (p, d')

/-- The request is processed to its end and answered once. Only the poll of an UPLOAD keeps it from
its end, and only while the IN side is not ready. -/
structure Answers (P : Platform ρ) (t : ControlTransfer) (d : Device ρ) : Prop where
  defined : ∀ op d', ¬ Processing P t d (.fault op) d'
  ends : ∀ p d', Processing P t d p d' → ∃ p₁ d₁,
    Prog.Steps (fun _ _ => False) (fun _ _ => True) (p, d') (p₁, d₁) ∧
      (p₁ = .ret () ∨ DFU_REQ.ofCode t.bRequest = some .UPLOAD ∧
        p₁.next = some .Endpoint_IsINReady ∧ d₁.ep.isInReady = false)
  once : ∀ d', Processing P t d (.ret ()) d' → AnsweredOnce d d'

/-! ## Counting answers -/

/-- The request `t` is at work and has been answered by `n` status stages and `m` stalls. -/
structure Given (received : Bool) (t : ControlTransfer) (n m : Nat) (d : Device ρ) : Prop where
  request : d.USB_ControlRequest = t
  attached : d.USB_DeviceState ≠ .DEVICE_STATE_Unattached
  setup : d.ep.SETUPReceived = received
  statusStages : statusStages d = n
  stalls : stalls d = m

def answerView (d : Device ρ) :
    ControlTransfer × USB_Device_States_t × Bool × Nat × Nat :=
  (d.USB_ControlRequest, d.USB_DeviceState, d.ep.SETUPReceived, statusStages d, stalls d)

theorem answerView_note {c : Call} (h : c.isIap = true) (d : Device ρ) :
    answerView (d.note c) = answerView d := by
  cases c <;> simp_all [answerView, Device.note, statusStages, stalls, Call.isIap]

theorem answerView_variables : VariableView (answerView (ρ := ρ)) where
  onEp d f _ _ _ h := by
    simp only [answerView, Device.onEp, statusStages, stalls, h]
  firmware _ _ := rfl
  state _ _ := rfl
  status _ _ := rfl
  address _ _ := rfl
  detach _ _ := rfl
  iap d r c h := answerView_note h { d with rom := r }

/-- Answers are counted, also where the bounds do not hold. Only an UPLOAD polls the IN side. -/
def answering (t : ControlTransfer) : Contract (Device ρ) Op where
  rely _ := Undistracted
  assume _ _ := True
  assert op _ := op = .Endpoint_IsINReady → DFU_REQ.ofCode t.bRequest = some .UPLOAD
  undefined _ := True

theorem otherOps : DriverOps (· ≠ .Endpoint_IsINReady) := by
  constructor <;> simp

theorem store_ne_poll (i : Nat) (_ : 512 ≤ i) :
    Op.store_usb_data_buffer i ≠ .Endpoint_IsINReady := by simp

variable {received : Bool} {op : Op}

theorem answering_of_ne (h : op ≠ .Endpoint_IsINReady) (d : Device ρ) :
    (answering t).assert op d :=
  fun hpoll => absurd hpoll h

theorem Given.of_view (h : Given received t n m d) (hv : answerView d = answerView d') :
    Given received t n m d' := by
  simp only [answerView, Prod.mk.injEq] at hv
  obtain ⟨ht, hatt, hset, hn, hm⟩ := hv
  exact ⟨ht ▸ h.request, hatt ▸ h.attached, hset ▸ h.setup, hn ▸ h.statusStages, hm ▸ h.stalls⟩

theorem Given.undistracted (h : Given received t n m d) (hr : Undistracted d d') :
    Given received t n m d' := by
  obtain ⟨ev, hev, rfl⟩ := hr
  exact ⟨h.request, h.attached, (Endpoint.SETUPReceived_interrupt hev).trans h.setup,
    h.statusStages, h.stalls⟩

theorem Given.stable : (answering (ρ := ρ) t).Stable op (Given received t n m) :=
  fun _ _ h hr => h.undistracted hr

theorem given_keeps {α : Type} {p : Task ρ α}
    (h : p.Keeps (· ≠ .Endpoint_IsINReady) (· ≠ .Endpoint_IsINReady) answerView) :
    Triple (answering t) (Given received t n m) p (fun _ => Given received t n m) :=
  h.triple (fun _ _ hv hg => hg.of_view hv) (fun _ _ => Given.stable)
    (fun _ _ hop _ hpoll => absurd hpoll (hop.elim id id)) (fun _ _ => trivial)

theorem Endpoint_ClearStatusStage.given : Triple (answering t) (Given (ρ := ρ) received t n m)
    Endpoint_ClearStatusStage (fun _ => Given received t (n + 1) m) := by
  refine Triple.bind (R := fun _ => Given received t (n + 1) m)
    (Triple.exec Given.stable (fun d _ => answering_of_ne (by simp) d) fun d h _ => ?_) fun _ => Triple.ite
      (fun _ => given_keeps (Endpoint_ClearOUT.keeps answerView_variables.toEndpointView otherOps))
      (fun _ => given_keeps (Endpoint_ClearIN.keeps answerView_variables.toEndpointView otherOps))
  obtain ⟨ht, hatt, hset, hn, hm⟩ := h
  exact ⟨ht, hatt, hset, by simpa [Dfu.statusStages, Device.note] using hn,
    by simpa [Dfu.stalls, Device.note] using hm⟩

/-- A part of the handler has given an answer where it is the last. -/
def Left (t : ControlTransfer) (n m : Nat) (goOn : Bool) : Device ρ → Prop :=
  Given false t (if goOn then n else n + 1) m

theorem endpointNotReady.given :
    Triple (answering t) (Given (ρ := ρ) false t n m) endpointNotReady (Left t n m) :=
  Triple.bind (given_keeps (Endpoint_ClearOUT.keeps answerView_variables.toEndpointView otherOps))
    fun _ => Triple.bind Endpoint_ClearStatusStage.given fun _ => Triple.pure fun _ h => h

theorem wait_given {p : Task ρ Bool}
    (h : Triple (answering t) (Given false t n m) p (Left t n m)) :
    Triple (answering t) (Given false t n m)
      (do if (← Endpoint_WaitUntilReady) ≠ .ENDPOINT_READYWAIT_NoError then endpointNotReady else p)
      (Left t n m) :=
  Triple.bind (given_keeps (Endpoint_WaitUntilReady.keeps otherOps)) fun _ =>
    Triple.ite (fun _ => endpointNotReady.given) fun _ => h

theorem command.given {size : Nat} :
    Triple (answering t) (Given false t n m) (command P size) (Left t n m) := by
  have hv := answerView_variables (ρ := ρ)
  have hread : (Endpoint_Read_Stream_LE 0 size : Task ρ _).Keeps
      (· ≠ .Endpoint_IsINReady) (· ≠ .Endpoint_IsINReady) answerView :=
    Endpoint_Read_Stream_LE.keeps hv.toEndpointView.reader otherOps fun _ _ _ => by simp
  exact wait_given (Triple.bind (given_keeps hread) fun _ =>
    Triple.bind (given_keeps (Endpoint_ClearOUT.keeps hv.toEndpointView otherOps)) fun _ =>
    Triple.bind (given_keeps (getCommands.keeps hv otherOps size)) fun _ =>
    Triple.bind (given_keeps (setAddress.keeps hv otherOps)) fun _ =>
    Triple.bind (given_keeps (eraseSector.keeps hv otherOps P (by simp))) fun _ =>
      Triple.pure fun _ h => h)

theorem readBlock.given {fuel size off : Nat} :
    Triple (answering t) (Given false t n m) (readBlock fuel size off : Task ρ Bool) (Left t n m) := by
  have hv := answerView_variables (ρ := ρ)
  induction fuel generalizing size off with
  | zero => exact Triple.pure fun _ h => h
  | succ fuel ih =>
      have hread : (Endpoint_Read_Stream_LE off (toread size) : Task ρ _).Keeps
          (· ≠ .Endpoint_IsINReady) (· ≠ .Endpoint_IsINReady) answerView :=
        Endpoint_Read_Stream_LE.keeps hv.toEndpointView.reader otherOps fun _ _ _ => by simp
      refine Triple.ite (fun _ => Triple.pure fun _ h => h) fun _ => wait_given ?_
      exact Triple.bind (given_keeps hread) fun _ =>
        Triple.bind (given_keeps (Endpoint_ClearOUT.keeps hv.toEndpointView otherOps)) fun _ => ih

theorem block.given {size : Nat} :
    Triple (answering t) (Given false t n m) (block P size) (Left t n m) := by
  have hv := answerView_variables (ρ := ρ)
  refine Triple.bind (given_keeps (by simp)) fun state => Triple.ite (fun _ => ?_) (fun _ => ?_)
  · exact Triple.bind (given_keeps (setState.keeps hv otherOps _)) fun _ =>
      Triple.bind (given_keeps (Endpoint_ClearOUT.keeps hv.toEndpointView otherOps)) fun _ =>
      Triple.bind Endpoint_ClearStatusStage.given fun _ => Triple.pure fun _ h => h
  · refine Triple.bind (given_keeps (by simp [hv.firmware])) fun _ =>
      Triple.bind readBlock.given fun done => ?_
    cases done with
    | false => exact Triple.pure fun _ h => h
    | true =>
        exact Triple.bind (given_keeps (writeBlock.keeps hv otherOps P (by simp))) fun _ =>
          Triple.bind (given_keeps (by simp [hv.address])) fun _ => Triple.pure fun _ h => h

/-- Every branch of a DNLOAD gives one answer: the branches that leave early their own, the others the
one at the end. -/
theorem dnload.given {wValue size : Nat} : Triple (answering t) (Given false t n m)
    (dnload P wValue size) (fun _ => Given false t (n + 1) m) := by
  have hv := answerView_variables (ρ := ρ)
  refine Triple.bind (R := Left t n m)
    (Triple.ite (fun _ => command.given) fun _ => Triple.pure fun _ h => h) fun goOn => ?_
  cases goOn with
  | false => exact Triple.pure fun _ h => h
  | true =>
      refine Triple.bind (R := Left t n m)
        (Triple.ite (fun _ => block.given) fun _ => Triple.pure fun _ h => h) fun goOn => ?_
      cases goOn with
      | false => exact Triple.pure fun _ h => h
      | true =>
          exact Triple.bind (given_keeps (Endpoint_ClearOUT.keeps hv.toEndpointView otherOps))
            fun _ => Endpoint_ClearStatusStage.given

theorem upload.given {size : Nat} (hq : DFU_REQ.ofCode t.bRequest = some .UPLOAD) :
    Triple (answering t) (Given false t n m) (upload P size) (fun _ => Given false t (n + 1) m) := by
  have hv := answerView_variables (ρ := ρ)
  refine Triple.bind (R := fun ready d => Given false t n m d ∧ ready = true)
    (Triple.poll Given.stable (fun _ _ _ => hq) (fun _ h _ => ⟨h, rfl⟩) fun _ h _ hgone => ?_)
    fun ready => Triple.assuming fun hready => ?_
  · exact absurd (of_decide_eq_true hgone) h.attached
  · subst hready
    exact Triple.bind (given_keeps (by simp)) fun _ =>
      Triple.bind (given_keeps (Endpoint_Write_Stream_LE.keeps hv.toEndpointView otherOps
        store_ne_poll _ size)) fun _ =>
      Triple.bind (given_keeps (by simp [hv.address])) fun _ =>
      Triple.bind (given_keeps (setState.keeps hv otherOps _)) fun _ =>
      Triple.bind (given_keeps (setStatus.keeps hv otherOps _)) fun _ =>
      Triple.bind (given_keeps (Endpoint_ClearIN.keeps hv.toEndpointView otherOps)) fun _ =>
        Endpoint_ClearStatusStage.given

theorem EVENT_USB_Device_ControlRequest.getStatus.given :
    Triple (answering t) (Given (ρ := ρ) false t n m) EVENT_USB_Device_ControlRequest.getStatus
      (fun _ => Given false t (n + 1) m) := by
  have hv := answerView_variables (ρ := ρ)
  have byte (b : UInt8) : Triple (answering t) (Given (ρ := ρ) false t n m) (Endpoint_Write_8 b)
      (fun _ => Given false t n m) :=
    given_keeps (Endpoint_Write_8.keeps hv.toEndpointView otherOps store_ne_poll b)
  have read {β : Type} (f : Device ρ → β) (n : Nat) : Triple (answering t) (Given false t n m)
      (Prog.get .access f) (fun _ => Given false t n m) := given_keeps (by simp)
  exact Triple.bind (read _ n) fun _ => Triple.bind (byte _) fun _ => Triple.bind (byte _) fun _ =>
    Triple.bind (given_keeps (Endpoint_Write_16_LE.keeps hv.toEndpointView otherOps
      store_ne_poll _)) fun _ =>
    Triple.bind (read _ n) fun _ => Triple.bind (byte _) fun _ => Triple.bind (byte _) fun _ =>
    Triple.bind (given_keeps (Endpoint_ClearIN.keeps hv.toEndpointView otherOps)) fun _ =>
    Triple.bind Endpoint_ClearStatusStage.given fun _ => Triple.bind (read _ (n + 1)) fun _ =>
      Triple.ite (fun _ => given_keeps (setState.keeps hv otherOps _)) fun _ => Triple.pure fun _ h => h

theorem switch.given {wValue size : Nat} {q : DFU_REQ} (hq : DFU_REQ.ofCode t.bRequest = some q) :
    Triple (answering t) (Given false t n m) (switch P wValue size (some q))
      (fun _ => Given false t (n + 1) m) := by
  have hv := answerView_variables (ρ := ρ)
  cases q with
  | DNLOAD => exact dnload.given
  | UPLOAD => exact upload.given hq
  | GETSTATUS => exact EVENT_USB_Device_ControlRequest.getStatus.given
  | GETSTATE =>
      exact Triple.bind (given_keeps (by simp)) fun _ =>
        Triple.bind (given_keeps (Endpoint_Write_8.keeps hv.toEndpointView otherOps
          store_ne_poll _)) fun _ =>
        Triple.bind (given_keeps (Endpoint_ClearIN.keeps hv.toEndpointView otherOps)) fun _ =>
          Endpoint_ClearStatusStage.given
  | CLRSTATUS =>
      exact Triple.bind (given_keeps (setStatus.keeps hv otherOps _)) fun _ =>
        Triple.bind (given_keeps (setState.keeps hv otherOps _)) fun _ =>
          Endpoint_ClearStatusStage.given
  | ABORT =>
      exact Triple.bind (given_keeps (setState.keeps hv otherOps _)) fun _ =>
        Endpoint_ClearStatusStage.given
  | DETATCH =>
      exact Triple.bind (given_keeps (by simp [hv.detach])) fun _ => Endpoint_ClearStatusStage.given

/-! ## The whole request -/

/-- The request `t` is processed in a defined way while no other comes. -/
def processing (t : ControlTransfer) : Contract (Device ρ) Op :=
  { answering t with undefined _ := False }

theorem Undistracted.interrupts (h : Undistracted d d') : Interrupts d d' := by
  obtain ⟨ev, -, hd⟩ := h
  exact ⟨ev, hd⟩

theorem Given.processing : (processing (ρ := ρ) t).Stable op (Given received t n m) :=
  fun _ _ h hr => h.undistracted hr

theorem Given.at_processing : (Dfu.processing (ρ := ρ) t).Stable op
    (fun d => At t k d ∧ Given received t n m d) :=
  fun _ _ h hr => ⟨@At.stable ρ t k op _ _ h.1 hr.interrupts, h.2.undistracted hr⟩

theorem switch.answers {wValue size : Nat} {q : DFU_REQ} (hq : DFU_REQ.ofCode t.bRequest = some q)
    (hd : some q = some .DNLOAD → wValue ≠ 1 → size ≤ 512) (hu : some q = some .UPLOAD → size ≤ 512) :
    Triple (processing t) (fun d => At t 0 d ∧ Given false t n m d) (switch P wValue size (some q))
      (fun _ => Given false t (n + 1) m) := by
  have hboth : Triple (processing t) (fun d => At t 0 d ∧ Given false t n m d)
      (switch P wValue size (some q))
      (fun _ d => d.USB_ControlRequest = t ∧ Given false t (n + 1) m d) :=
    (switch.at hd hu).and (switch.given hq) (fun _ _ _ h => ⟨Undistracted.interrupts h, h⟩)
      (fun _ _ h => ⟨h, h⟩) (fun _ _ _ h => h) (fun _ h _ => h)
  exact hboth.conseq (fun _ h => h) (fun _ _ h => h.2)

theorem Endpoint_ClearSETUP.given {c : Caller} :
    Triple (processing t) (Given (ρ := ρ) true t n m) (Endpoint_ClearSETUP c)
      (fun _ d => At t 0 d ∧ Given false t n m d) := by
  refine Triple.bind (R := fun _ => Given false t n m)
    (Triple.modify Given.processing (fun d _ => answering_of_ne (by simp) d) fun d h _ => ?_) fun _ =>
    Triple.bind (R := fun _ d => At t 0 d ∧ Given false t n m d)
      (Triple.modify Given.processing (fun d _ => answering_of_ne (by simp) d) fun d h _ => ?_) fun _ =>
    Triple.bind (R := fun _ d => At t 0 d ∧ Given false t n m d)
      (Triple.modify Given.at_processing (fun d _ => answering_of_ne (by simp) d) fun d h _ => ?_) fun _ =>
    Triple.modify Given.at_processing (fun d _ => answering_of_ne (by simp) d) fun d h _ => ?_
  · exact ⟨h.request, h.attached, rfl, h.statusStages, h.stalls⟩
  · exact ⟨⟨h.request, rfl⟩, h.request, h.attached, h.setup, h.statusStages, h.stalls⟩
  · exact ⟨h.1, h.2.request, h.2.attached, h.2.setup, h.2.statusStages, h.2.stalls⟩
  · exact ⟨h.1, h.2.request, h.2.attached, h.2.setup, h.2.statusStages, h.2.stalls⟩

theorem given_header {α β : Type} {f : USB_Request_Header_t → α} {g : α → Task ρ β}
    {Q : β → Device ρ → Prop}
    (h : Triple (processing t) (Given received t n m) (g (f t.toUSB_Request_Header_t)) Q) :
    Triple (processing t) (Given received t n m)
      (Prog.get .access (fun d => f d.USB_ControlRequest.toUSB_Request_Header_t) >>= g) Q :=
  Triple.get_bind Given.processing (fun d _ => answering_of_ne (by simp) d) (fun _ hg => by rw [hg.request]) h

theorem EVENT_USB_Device_ControlRequest.answers {q : DFU_REQ} (hc : t.isClassInterface = true)
    (hq : DFU_REQ.ofCode t.bRequest = some q) (hfit : BufferFits t.toUSB_Request_Header_t) :
    Triple (processing t) (Given true t n m) (EVENT_USB_Device_ControlRequest P)
      (fun _ => Given false t (n + 1) m) := by
  refine Triple.bind (R := fun setup d => Given true t n m d ∧ setup = true)
    (Triple.exec Given.processing (fun d _ => answering_of_ne (by simp) d) fun d h _ => ⟨?_, h.setup⟩)
    fun setup => Triple.assuming fun hsetup => ?_
  · obtain ⟨ht, hatt, hset, hn, hm⟩ := h
    exact ⟨ht, hatt, hset, by simpa [Dfu.statusStages, Device.note] using hn,
      by simpa [Dfu.stalls, Device.note] using hm⟩
  · rw [hsetup, if_pos rfl]
    refine given_header (f := (·.isClassInterface)) ?_
    rw [hc, if_pos rfl]
    refine given_header (f := (·.wValue.toNat)) (given_header (f := (·.wLength.toNat)) ?_)
    refine Triple.bind Endpoint_ClearSETUP.given fun _ => Triple.get_bind Given.at_processing
      (fun d _ => answering_of_ne (by simp) d) (fun _ h => by rw [h.1.1]) ?_
    rw [BufferFits, hq] at hfit
    rw [hq]
    exact switch.answers hq hfit.1 hfit.2

theorem unless_setup {p : Task ρ Unit} : Triple (processing t) (Given false t n m)
    (do if ← Endpoint_IsSETUPReceived then p) (fun _ => Given false t n m) :=
  Triple.get_bind Given.processing (fun d _ => answering_of_ne (by simp) d) (fun _ h => h.setup)
    (Triple.pure fun _ h => h)

theorem Endpoint_GetSetupPackage.given : Triple (processing t)
    (fun d : Device ρ => d.ep.SetupPackage = t ∧ Given true d.USB_ControlRequest n m d)
    Endpoint_GetSetupPackage (fun _ => Given true t n m) := by
  refine Triple.conseq (Endpoint_GetSetupPackage.copies (fun i => ?_)
    (fun i d _ => answering_of_ne (by simp) d) (fun d u h => ?_) fun _ _ _ _ hr => hr)
    (fun _ h => h) fun _ d h => ?_
  · rintro d _ ⟨ht, hg⟩ ⟨ev, hev, rfl⟩
    exact ⟨(Endpoint.setup_interrupt hev).1.trans ht, hg.undistracted ⟨ev, hev, rfl⟩⟩
  · exact ⟨h.1, rfl, h.2.attached, h.2.setup, h.2.statusStages, h.2.stalls⟩
  · obtain ⟨⟨ht, hg⟩, hreq⟩ := h
    exact ⟨hreq.trans ht, hg.attached, hg.setup, hg.statusStages, hg.stalls⟩

theorem USB_Device_ProcessControlRequest.answers {q : DFU_REQ} (hc : t.isClassInterface = true)
    (hq : DFU_REQ.ofCode t.bRequest = some q) (hfit : BufferFits t.toUSB_Request_Header_t) :
    Triple (processing t) (fun d => d.ep.SetupPackage = t ∧ Given true d.USB_ControlRequest n m d)
      (USB_Device_ProcessControlRequest P) (fun _ => Given false t (n + 1) m) := by
  exact Triple.bind Endpoint_GetSetupPackage.given fun _ =>
    Triple.bind (EVENT_USB_Device_ControlRequest.answers hc hq hfit) fun _ =>
    Triple.bind unless_setup fun _ => unless_setup

theorem given_setup (hatt : d.USB_DeviceState ≠ .DEVICE_STATE_Unattached) :
    (interrupt (.setup t) d).ep.SetupPackage = t ∧ Given true (interrupt (.setup t) d).USB_ControlRequest
      (statusStages d) (stalls d) (interrupt (.setup t) d) :=
  ⟨rfl, rfl, hatt, rfl, rfl, rfl⟩

theorem answers_of_listed {q : DFU_REQ} (hatt : d.USB_DeviceState ≠ .DEVICE_STATE_Unattached)
    (hc : t.isClassInterface = true) (hq : DFU_REQ.ofCode t.bRequest = some q)
    (hfit : BufferFits t.toUSB_Request_Header_t) : Answers P t d := by
  have htriple := USB_Device_ProcessControlRequest.answers (P := P) (n := statusStages d)
    (m := stalls d) hc hq hfit
  have hdefined (op : Op) (d' : Device ρ) : ¬ Processing P t d (.fault op) d' := fun hst =>
    htriple.undefined_of_steps (fun _ _ _ h => h) (given_setup hatt) hst
  refine ⟨hdefined, fun p d' hst => ?_, fun d' hst => ?_⟩
  · obtain ⟨p₁, d₁, hrest, hend⟩ :=
      (Prog.Proceeds.steps USB_Device_ProcessControlRequest.proceeds hst).ends d'
    have hsteps := hst.trans hrest.interleaved
    refine ⟨p₁, d₁, hrest, ?_⟩
    rcases hend with ⟨_, rfl⟩ | ⟨op, rfl⟩ | ⟨op, ready, hnext, ⟨rfl, rfl⟩, hready⟩
    · exact .inl rfl
    · exact absurd hsteps (hdefined op d₁)
    · have hupload := htriple.assert_of_steps (fun _ _ _ h => h) (given_setup hatt) hsteps hnext
      exact .inr ⟨hupload rfl, hnext, hready⟩
  · have hgiven := htriple.post_of_steps (fun _ _ _ h => h) (fun _ _ _ h hr => h.undistracted hr)
      (given_setup hatt) hst
    exact .inl ⟨hgiven.statusStages, hgiven.stalls⟩

/-! ## Requests without an answer -/

theorem processing_of_eval {w w' : List (List Event)} (hw : Undisturbed w)
    (h : eval interrupt (USB_Device_ProcessControlRequest P) w (interrupt (.setup t) d) =
      .done () w' d') : Processing P t d (.ret ()) d' :=
  (eval_follows _ w (fun es hes ev hev _ => .single ⟨ev, hw es hes ev hev, rfl⟩) _).1 () w' d' h

/-- The handler takes a request that it does not list, and nobody answers. -/
theorem unlisted_unanswered (hc : t.isClassInterface = true)
    (hq : DFU_REQ.ofCode t.bRequest = none) : ∃ d', Processing P t d (.ret ()) d' ∧
      statusStages d' = statusStages d ∧ stalls d' = stalls d := by
  have hswitch : eval interrupt (switch P t.wValue.toNat t.wLength.toNat
      (dfuRequest t.toUSB_Request_Header_t)) [] (begun t d) = .done () [] (begun t d) := by
    rw [dfuRequest, if_pos hc, hq]
    rfl
  refine ⟨begun t d, processing_of_eval (by simp [Undisturbed]) (eval_process rfl hc hswitch rfl),
    ?_, ?_⟩
  · simp [begun, entered, accept, interrupt, statusStages, Device.note, Device.onEp]
  · simp [begun, entered, accept, interrupt, stalls, Device.note, Device.onEp]

theorem exists_processing_fault {h : USB_Request_Header_t} (hc : h.isClassInterface = true)
    (hfit : ¬ BufferFits h) (d : Device ρ) :
    ∃ data op d', Processing P ⟨h, data⟩ d (.fault op) d' := by
  obtain ⟨data, w, op, hw, hop⟩ := exists_fault (P := P) hc hfit d
  have hprocess : eval interrupt (USB_Device_ProcessControlRequest P) w
      (interrupt (.setup ⟨h, data⟩) d) = .fault op := by
    simp only [USB_Device_ProcessControlRequest, eval_Endpoint_GetSetupPackage, eval_bind, Result.bind_done]
    exact congrArg (Result.bind · _) hop
  have hev : ∀ es ∈ w, ∀ ev ∈ es, ∀ d : Device ρ,
      Relation.ReflTransGen Undistracted d (interrupt ev d) :=
    fun es hes ev hev _ => .single ⟨ev, hw es hes ev hev, rfl⟩
  obtain ⟨d', hd'⟩ := (eval_follows _ w hev _).2 op hprocess
  exact ⟨data, op, d', hd'⟩

/-- A request to the DFU interface is answered once, whatever the host sends and whenever the
interrupts come, exactly when the handler lists it and its length fits. -/
theorem answered_once_iff (P : Platform ρ) (h : USB_Request_Header_t)
    (hc : h.isClassInterface = true) (d : Device ρ)
    (hatt : d.USB_DeviceState ≠ .DEVICE_STATE_Unattached) :
    (∀ data, Answers P ⟨h, data⟩ d) ↔ DFU_REQ.ofCode h.bRequest ≠ none ∧ BufferFits h := by
  constructor
  · intro hall
    refine ⟨fun hnone => ?_, ?_⟩
    · obtain ⟨d', hd', hn, hm⟩ := unlisted_unanswered (P := P) (t := ⟨h, []⟩) (d := d) hc hnone
      rcases (hall []).once d' hd' with ⟨h, -⟩ | ⟨-, h⟩ <;> omega
    · by_contra hfit
      obtain ⟨data, op, d', hd'⟩ := exists_processing_fault (P := P) hc hfit d
      exact (hall data).defined op d' hd'
  · rintro ⟨hlisted, hfit⟩ data
    obtain ⟨q, hq⟩ := Option.ne_none_iff_exists'.mp hlisted
    exact answers_of_listed (t := ⟨h, data⟩) hatt hc hq hfit

def upload512 : USB_Request_Header_t := ⟨0xA1, 2, 2, 0, 512⟩

/-- An UPLOAD of 512 bytes comes to its end where the IN side is ready, and then it is answered. -/
theorem upload_512_answered : ∃ d', Processing reference ⟨upload512, []⟩ (Device.start Rom.blank)
    (.ret ()) d' ∧ AnsweredOnce (Device.start Rom.blank) d' := by
  have hanswers := (answered_once_iff reference upload512 (by decide) (Device.start Rom.blank)
    (by decide)).mpr (by decide) []
  let d := interrupt (.setup ⟨upload512, []⟩) (Device.start Rom.blank)
  have hupload : eval interrupt (switch reference 2 512 (some .UPLOAD)) [] (entered d) =
      .done () [] (uploaded reference 512 (afterWait [] (entered d))) :=
    eval_upload rfl (by decide) rfl
  rw [show some .UPLOAD = dfuRequest upload512 by decide] at hupload
  have hset : (uploaded reference 512 (afterWait [] (entered d))).ep.SETUPReceived = false := by
    rw [uploaded, setup_finish]
    exact Endpoint.SETUPReceived_clearIN _
  have hend := processing_of_eval (by simp [Undisturbed])
    (eval_process (P := reference) (d := d) rfl (by decide) hupload hset)
  exact ⟨_, hend, hanswers.once _ hend⟩

/-- A request with the code behind that of ABORT is processed, without a status stage and without a
stall. -/
theorem request_7_unanswered : USB_Request_Header_t.isClassInterface ⟨0x21, 7, 0, 0, 0⟩ = true ∧
    ∃ d', Processing reference ⟨⟨0x21, 7, 0, 0, 0⟩, []⟩ (Device.start Rom.blank) (.ret ()) d' ∧
      statusStages d' = 0 ∧ stalls d' = 0 ∧ ¬ AnsweredOnce (Device.start Rom.blank) d' := by
  obtain ⟨d', hd', hn, hm⟩ := unlisted_unanswered (P := reference)
    (t := ⟨⟨0x21, 7, 0, 0, 0⟩, []⟩) (d := Device.start Rom.blank) (by decide) (by decide)
  refine ⟨by decide, d', hd', hn, hm, ?_⟩
  rintro (⟨h, -⟩ | ⟨-, h⟩) <;> omega

end DfuSeBootloader.Dfu
