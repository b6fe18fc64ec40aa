import DfuSeBootloader.Boot.Basic
import DfuSeBootloader.Dfu.Lemmas.Handler
import DfuSeBootloader.Dfu.Lemmas.Keeps
import DfuSeBootloader.Usb.Lemmas.SetupPackage
import DfuSeBootloader.Usb.Lemmas.Standard

/-!
# The end of a session

Behind a DETACH the task handles no further request: the turn in which it comes is the last one.
-/

namespace DfuSeBootloader.Boot
open Program Memory Iap Usb Dfu
open EVENT_USB_Device_ControlRequest

variable {ρ : Type} {P : Platform ρ} {d : Device ρ}

/-- No DETACH was passed to the handler. -/
def NoDetach (d : Device ρ) : Prop :=
  ∀ t ∈ dispatches d.calls, dfuRequest t.toUSB_Request_Header_t ≠ some .DETATCH

/-- The task knows of every DETACH. -/
def Noted (d : Device ρ) : Prop := NoDetach d ∨ d.need_detach = true

/-! ## The contract -/

/-- Interrupts come at any time. The handler is not called behind a DETACH. -/
def session : Contract (Device ρ) Op where
  rely _ d d' := ∃ ev, d' = interrupt ev d
  assume _ _ := True
  assert op d := op = .EVENT_USB_Device_ControlRequest → NoDetach d
  undefined _ := True

/-- An operation other than the call of the handler. -/
def Apart (op : Op) : Prop := op ≠ .EVENT_USB_Device_ControlRequest

theorem apart_ops : LibraryOps Apart Apart := by
  constructor <;> (try constructor) <;> simp [Apart]

section Views

theorem dispatchesView : HandlerView (fun d : Device ρ => dispatches d.calls) where
  onEp _ _ _ _ _ := rfl
  firmware _ _ := rfl
  statusStage _ := dispatches_snoc (by simp)
  stall _ := dispatches_snoc (by simp)
  state _ _ := rfl
  status _ _ := rfl
  address _ _ := rfl
  detach _ _ := rfl
  iap _ _ c hc := dispatches_snoc fun t ht => by rw [ht] at hc; cases hc

theorem notedView : LibraryView (fun d : Device ρ => (dispatches d.calls, d.need_detach)) where
  onEp _ _ _ _ _ := rfl
  firmware _ _ := rfl
  statusStage d := congrArg (·, d.need_detach) (dispatches_snoc (by simp))
  stall d := congrArg (·, d.need_detach) (dispatches_snoc (by simp))
  deviceState _ _ := rfl
  configuration _ _ := rfl
  wakeup _ _ := rfl

end Views

/-- What depends on the history and on variables outside the endpoint survives the interrupts. -/
theorem session_stable {op : Op} {I : Device ρ → Prop} (h : ∀ d f, I d → I (Device.onEp f d)) :
    session.Stable op I := by
  rintro d _ hd ⟨ev, rfl⟩
  exact h d _ hd

/-! ## One turn of the loop -/

theorem noDetach_keeps {α : Type} {p : Task ρ α}
    (h : p.Keeps Apart Apart (fun d => dispatches d.calls)) :
    Triple session NoDetach p (fun _ => NoDetach) :=
  h.triple (fun d d' hv hd => by unfold NoDetach at hd ⊢; rwa [← hv])
    (fun _ _ => session_stable fun _ _ h => h) (fun _ _ hop _ h => absurd h (hop.elim id id))
    (fun _ _ => trivial)

theorem noted_keeps {α : Type} {p : Task ρ α}
    (h : p.Keeps Apart Apart (fun d => (dispatches d.calls, d.need_detach))) :
    Triple session Noted p (fun _ => Noted) :=
  h.triple (fun d d' hv hd => by
      obtain ⟨hcalls, hneed⟩ := Prod.mk.inj hv
      unfold Noted NoDetach at hd ⊢
      rwa [← hcalls, ← hneed])
    (fun _ _ => session_stable fun _ _ h => h) (fun _ _ hop _ h => absurd h (hop.elim id id))
    (fun _ _ => trivial)

/-- If a DETACH was passed to the handler, it is the request at work. -/
def AtWork (t : USB_Request_Header_t) (d : Device ρ) : Prop :=
  d.USB_ControlRequest.toUSB_Request_Header_t = t ∧
    (dfuRequest t ≠ some .DETATCH → NoDetach d)

theorem atWork_stable {op : Op} {t : USB_Request_Header_t} :
    (session (ρ := ρ)).Stable op (AtWork t) := session_stable fun _ _ h => h

theorem atWork_get {α β : Type} {t : USB_Request_Header_t} {f : USB_Request_Header_t → α}
    {g : α → Task ρ β} {Q : β → Device ρ → Prop} (h : Triple session (AtWork t) (g (f t)) Q) :
    Triple session (AtWork t)
      (Prog.get .access (fun d => f d.USB_ControlRequest.toUSB_Request_Header_t) >>= g) Q :=
  Triple.get_bind atWork_stable (fun _ _ h => nomatch h) (fun d hd => by rw [hd.1]) h

theorem switch_noted {t : USB_Request_Header_t} {wValue size : Nat} :
    Triple session (AtWork t) (switch P wValue size (dfuRequest t)) (fun _ => Noted (ρ := ρ)) := by
  by_cases hq : dfuRequest t = some .DETATCH
  · rw [hq]
    exact Triple.bind (R := fun _ => Noted)
      (Triple.modify atWork_stable (fun _ _ h => nomatch h) fun _ _ _ => .inr rfl) fun _ =>
      noted_keeps (Endpoint_ClearStatusStage.keeps notedView.toDriverView apart_ops.toDriverOps)
  · refine Triple.conseq (noDetach_keeps (switch.keeps dispatchesView apart_ops.toDriverOps P
      (by simp [Apart]) (by simp [Apart]) (fun _ => apart_ops.inReady) (by simp [Apart])
      (by simp [Apart])))
      (fun d hd => hd.2 hq) (fun _ _ hd => .inl hd)

theorem atWorkView : DriverView (fun d : Device ρ => (d.USB_ControlRequest, dispatches d.calls)) where
  onEp _ _ _ _ _ := rfl
  firmware _ _ := rfl
  statusStage d := congrArg (d.USB_ControlRequest, ·) (dispatches_snoc (by simp))
  stall d := congrArg (d.USB_ControlRequest, ·) (dispatches_snoc (by simp))

theorem clearSETUP_atWork {t : USB_Request_Header_t} {c : Caller} :
    Triple session (AtWork t) (Endpoint_ClearSETUP c) (fun _ => AtWork (ρ := ρ) t) :=
  (Endpoint_ClearSETUP.keeps atWorkView apart_ops.toDriverOps c).triple
    (fun d d' hv hd => by
      obtain ⟨ht, hcalls⟩ := Prod.mk.inj hv
      unfold AtWork NoDetach at hd ⊢
      rwa [← ht, ← hcalls])
    (fun _ _ => atWork_stable) (fun _ _ hop _ h => absurd h (hop.elim id id)) (fun _ _ => trivial)

/-- The request that the handler is called for is at work from the call on. -/
theorem atWork_dispatch (h : NoDetach d) :
    AtWork d.USB_ControlRequest.toUSB_Request_Header_t (d.note (.dispatch d.USB_ControlRequest)) := by
  refine ⟨rfl, fun hq t ht => ?_⟩
  simp only [Device.note, dispatches, List.filterMap_append, List.mem_append] at ht
  rcases ht with ht | ht
  · exact h t ht
  · obtain rfl : t = d.USB_ControlRequest := by simpa using ht
    exact hq

theorem EVENT_noted : Triple session (fun d : Device ρ => NoDetach d ∧ d.ep.SETUPReceived = true)
    (EVENT_USB_Device_ControlRequest P) (fun _ => Noted) := by
  have hstable {op : Op} :
      (session (ρ := ρ)).Stable op (fun d => NoDetach d ∧ d.ep.SETUPReceived = true) := by
    rintro d _ ⟨hno, hset⟩ ⟨ev, rfl⟩
    exact ⟨hno, Endpoint.SETUPReceived_interrupt_of_true hset⟩
  refine Triple.bind (R := fun received d => received = true ∧ ∃ t, AtWork t d)
    (Triple.exec hstable (fun _ h _ => h.1) fun d h _ => ⟨h.2, _, atWork_dispatch h.1⟩) ?_
  rintro received d ⟨rfl, t, hd⟩
  revert d
  refine atWork_get (f := (·.isClassInterface)) ?_
  by_cases hc : t.isClassInterface = true
  · rw [if_pos hc]
    refine atWork_get (f := (·.wValue.toNat)) (atWork_get (f := (·.wLength.toNat)) ?_)
    refine Triple.bind clearSETUP_atWork fun _ => atWork_get (f := (·.bRequest)) ?_
    have hq : DFU_REQ.ofCode t.bRequest = dfuRequest t := (if_pos hc).symm
    rw [hq]
    exact switch_noted
  · rw [if_neg hc]
    have hq : dfuRequest t ≠ some .DETATCH := by simp [dfuRequest, hc]
    exact Triple.pure fun d hd => .inl (hd.2 hq)

theorem task_loop_noted :
    Triple session NoDetach (task_loop P) (fun reset d => reset = true ∨ NoDetach (ρ := ρ) d) := by
  have hno {op : Op} : (session (ρ := ρ)).Stable op NoDetach := session_stable fun _ _ h => h
  have hnoted {op : Op} : (session (ρ := ρ)).Stable op Noted := session_stable fun _ _ h => h
  have hstable {op : Op} :
      (session (ρ := ρ)).Stable op (fun d => NoDetach d ∧ d.ep.SETUPReceived = true) := by
    rintro d _ ⟨hno, hset⟩ ⟨ev, rfl⟩
    exact ⟨hno, Endpoint.SETUPReceived_interrupt_of_true hset⟩
  refine Triple.bind (R := fun _ => Noted) (Triple.bind (R := fun _ => NoDetach)
    (Triple.get hno (fun _ _ h => nomatch h) fun _ h _ => h) fun state => Triple.ite (fun _ => ?_)
      (fun _ => Triple.pure fun _ h => .inl h)) fun _ => ?_
  · refine Triple.bind (R := fun received d => NoDetach d ∧ (received = true → d.ep.SETUPReceived = true))
      (Triple.get hno (fun _ _ h => nomatch h) fun _ h _ => ⟨h, id⟩) fun received =>
      Triple.ite (fun hr => ?_) (fun _ => Triple.pure fun _ h => .inl h.1)
    refine Triple.conseq (P := fun d => NoDetach d ∧ d.ep.SETUPReceived = true) ?_
      (fun _ h => ⟨h.1, h.2 hr⟩) (fun _ _ h => h)
    exact Triple.bind (R := fun _ d => NoDetach d ∧ d.ep.SETUPReceived = true)
      (Endpoint_GetSetupPackage.stays (fun _ => hstable) (fun _ _ _ h => nomatch h)
        fun _ _ h => h) fun _ =>
      Triple.bind EVENT_noted fun _ =>
      Triple.bind (noted_keeps (standardRequests.keeps notedView apart_ops P)) fun _ =>
        noted_keeps (stallUnhandled.keeps apart_ops notedView.toDriverView)
  · refine Triple.bind (R := fun need d => need = true ∨ NoDetach d)
      (Triple.get hnoted (fun _ _ h => nomatch h) fun _ h _ => h.symm) fun need => ?_
    cases need with
    | true => exact Triple.bind (R := fun _ _ => True) (Triple.modify (session_stable fun _ _ h => h)
        (fun _ _ h => nomatch h) fun _ _ _ => trivial) fun _ => Triple.pure fun _ _ => .inl rfl
    | false => exact Triple.pure fun _ h => .inr (h.resolve_left Bool.false_ne_true)

end DfuSeBootloader.Boot
