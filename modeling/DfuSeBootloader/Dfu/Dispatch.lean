import DfuSeBootloader.Dfu.Lemmas.Dispatch
import DfuSeBootloader.Dfu.Run
import DfuSeBootloader.Iap.Reference

/-!
# Every request is handled once

The host sends a SETUP packet when the transfer before it has ended. This is enough for the task as
long as the packet does not come before `USB_Device_ProcessControlRequest` returns.
-/

namespace DfuSeBootloader.Dfu
open Program Memory Iap Usb

variable {ρ : Type} {P : Platform ρ} {d : Device ρ}

/-! ## The task and its host -/

structure Link (ρ : Type) where
  /-- The transfer of the last SETUP packet can have ended. -/
  free : Bool
  config : TaskConfig ρ

namespace Link

variable {l l' : Link ρ}

def device (l : Link ρ) : Device ρ := l.config.2

/-- The operation that the task is about to perform, where a turn has not ended. -/
def next (l : Link ρ) : Option Op := l.config.1.next

/-- What `free` is behind a move. -/
def freeAfter (l : Link ρ) : Move Event → Bool
  | .event (.setup _) => false
  | .access => l.free || l.next.any fun op => decide (EndsTransfer op)
  | _ => l.free

end Link

/-- A move of the host or of the task, which starts over until the system is reset. -/
def link (P : Platform ρ) (m : Move Event) (l : Link ρ) : Option (Link ρ) :=
  (taskMove P m l.config).map fun c => ⟨l.freeAfter m, c⟩

/-- The steps of a link. -/
def Links (P : Platform ρ) (l : Link ρ) (m : Move Event) (l' : Link ρ) : Prop :=
  link P m l = some l'

/-- The host waits with a SETUP packet until the transfer before it can have ended. -/
def HostWaits : Move Event → Link ρ → Prop
  | .event (.setup _), l => l.free = true
  | _, _ => True

instance : (m : Move Event) → (l : Link ρ) → Decidable (HostWaits m l)
  | .event (.setup _), l => inferInstanceAs (Decidable (l.free = true))
  | .event (.out _), _ => .isTrue trivial
  | .event .zlp, _ => .isTrue trivial
  | .event .inComplete, _ => .isTrue trivial
  | .access, _ => .isTrue trivial
  | .again, _ => .isTrue trivial

/-- No SETUP packet comes inside `USB_Device_ProcessControlRequest`. -/
def SetupOutside : Move Event → Link ρ → Prop
  | .event (.setup _), l => ∀ op ∈ l.next, Outside op
  | _, _ => True

instance : (m : Move Event) → (l : Link ρ) → Decidable (SetupOutside m l)
  | .event (.setup _), l => inferInstanceAs (Decidable (∀ op ∈ l.next, Outside op))
  | .event (.out _), _ => .isTrue trivial
  | .event .zlp, _ => .isTrue trivial
  | .event .inComplete, _ => .isTrue trivial
  | .access, _ => .isTrue trivial
  | .again, _ => .isTrue trivial

/-! ## What every step keeps -/

variable {l l' : Link ρ} {seen : List ControlTransfer} {m : Move Event}

/-- The task keeps to its contract, and no transfer has ended whose request was not handled. The
requests in `seen` had come when the turn began. -/
structure Orderly (P : Platform ρ) (seen : List ControlTransfer) (l : Link ρ) : Prop where
  task : wp once (fun _ => Passed seen) l.config.1 l.config.2
  calls : l.config.1.KeepsSave (· = .EVENT_USB_Device_ControlRequest)
    (fun d => (dispatches d.calls, d.ep.sent))
  free : l.free = true → Handled l.device

namespace Orderly

theorem handled_or_pending (h : Orderly P seen l) : Handled l.device ∨ Pending l.device := by
  obtain ⟨free, p, d⟩ := l
  cases hp : p.next with
  | none =>
      obtain ⟨reset, rfl⟩ := Prog.eq_ret_of_next hp
      exact h.task.settled.handled_or_pending
  | some op => exact (wp_next h.task hp).1

theorem quiet (h : Orderly P seen l) (hfree : l.free = true)
    (hout : ∀ op ∈ l.next, Outside op) : Quiet l.device := by
  have hno : ¬ Pending l.device := fun hp => hp.not_handled (h.free hfree)
  obtain ⟨free, p, d⟩ := l
  cases hp : p.next with
  | none =>
      obtain ⟨reset, rfl⟩ := Prog.eq_ret_of_next hp
      exact h.task.settled.resolve_right hno
  | some op => exact ((wp_next h.task hp).2.2.1 (hout op hp)).resolve_right hno

theorem rely (h : Orderly P seen l) {ev : Event} {op : Op} (hhost : HostWaits (.event ev) l)
    (hout : SetupOutside (.event ev) l) (hop : l.next = some op ∨ Outside op) :
    once.rely op l.device (interrupt ev l.device) := by
  cases ev with
  | setup t => exact .inr ⟨hop.elim (hout op) id, (h.quiet hhost hout).1, t, rfl⟩
  | out junk => exact .inl ⟨.out junk, trivial, rfl⟩
  | zlp => exact .inl ⟨.zlp, trivial, rfl⟩
  | inComplete => exact .inl ⟨.inComplete, trivial, rfl⟩

theorem taskMove (h : Orderly P seen l) {c : TaskConfig ρ} (hhost : HostWaits m l)
    (hout : SetupOutside m l) (hst : Usb.taskMove P m l.config = some c) :
    wp once (fun _ => Passed seen) c.1 c.2 := by
  refine wp_loop h.task hst ?_ ?_ ?_ (fun _ _ _ => trivial)
  · exact fun _ _ hend => task_loop_passed _ ⟨hend.settled, hend.came⟩
  · rintro ev rfl op hop
    exact h.rely hhost hout (.inl hop)
  · rintro ev rfl reset - hend
    have hloop : Outside .task_loop := .inr rfl
    exact passed_stable _ _ hend (h.rely hhost hout (.inr hloop))

theorem step (h : Orderly P seen l) (hhost : HostWaits m l) (hout : SetupOutside m l)
    (hst : Links P l m l') : Orderly P seen l' := by
  obtain ⟨c, hloop, rfl⟩ := Option.map_eq_some_iff.mp hst
  have htask := h.taskMove hhost hout hloop
  obtain ⟨free, p, d⟩ := l
  cases m with
  | event ev =>
      obtain rfl : (p, interrupt ev d) = c := Option.some.inj hloop
      refine ⟨htask, h.calls, fun hfree => ?_⟩
      cases ev with
      | setup t => cases hfree
      | _ => exact (h.free hfree).interrupt trivial
  | access =>
      obtain ⟨hcalls, hview⟩ := h.calls.step hloop
      refine ⟨htask, hcalls, fun hfree => ?_⟩
      cases hp : p.next with
      | none =>
          obtain ⟨reset, rfl⟩ := Prog.eq_ret_of_next hp
          cases hloop
      | some op =>
          obtain ⟨-, hend, -, hcall⟩ := wp_next h.task hp
          -- either way the requests have been handled, so this is not the call of the handler
          have hd : Handled d := by
            simp only [Link.freeAfter, Link.next, hp, Option.any_some, Bool.or_eq_true,
              decide_eq_true_eq] at hfree
            exact hfree.elim h.free hend
          have heq := hview op hp fun hop => (hcall hop).not_handled hd
          obtain ⟨hcalls, hsent⟩ := Prod.mk.inj heq
          exact hcalls.trans (hd.trans hsent.symm)
  | again =>
      obtain ⟨reset, -, -, rfl⟩ := loop_again hloop
      exact ⟨htask, task_loop_keepsSave, h.free⟩

/-- A turn has ended, and the requests before it have been handled. -/
theorem passed_of_again (h : Orderly P seen l) (hst : Links P l .again l') :
    Passed seen l.device := by
  obtain ⟨c, hloop, -⟩ := Option.map_eq_some_iff.mp hst
  obtain ⟨reset, hp, -, rfl⟩ := loop_again hloop
  have htask := h.task
  rwa [hp] at htask

theorem again (h : Orderly P seen l) (hst : Links P l .again l') :
    Orderly P l.device.ep.sent l' := by
  have hpassed := h.passed_of_again hst
  obtain ⟨c, hloop, rfl⟩ := Option.map_eq_some_iff.mp hst
  obtain ⟨reset, -, -, rfl⟩ := loop_again hloop
  exact ⟨task_loop_passed _ ⟨hpassed.settled, List.prefix_rfl⟩, task_loop_keepsSave, h.free⟩

end Orderly

/-! ## Runs -/

variable {vs : List (Visit (Link ρ) (Move Event))}

theorem Orderly.run (h : Orderly P seen l) (hrun : Run (Links P) l vs l')
    (hhost : ∀ v ∈ vs, HostWaits v.action v.before)
    (hout : ∀ v ∈ vs, SetupOutside v.action v.before) :
    (∀ v ∈ vs, Orderly P seen v.before ∧ Orderly P seen v.after) ∧ Orderly P seen l' := by
  obtain ⟨hall, hend⟩ := hrun.invariant (I := Orderly P seen)
    (fun v hv hst h => h.step (hhost v hv) (hout v hv) hst) h
  exact ⟨fun v hv => (hall v hv).2, hend⟩

/-- In every state the requests that have come were passed to the handler, each once, in order and
with its own bytes, save that the last one may still wait. No request is stalled before it was passed
on, and what has come when a turn ends was passed on when a later turn of an attached device ends. -/
theorem handled_once (hrun : Run (Links P) l vs l') (hl : l.config = (task_loop P, d))
    (hd : Quiet d) (hhost : ∀ v ∈ vs, HostWaits v.action v.before)
    (hout : ∀ v ∈ vs, SetupOutside v.action v.before) :
    (∀ v ∈ vs, (Handled v.after.device ∨ Pending v.after.device) ∧
      (v.before.next = some .Endpoint_StallTransaction → Handled v.before.device)) ∧
    ∀ us v ms g ws, vs = us ++ v :: (ms ++ g :: ws) → v.action = .again → g.action = .again →
      g.before.device.USB_DeviceState ≠ .DEVICE_STATE_Unattached →
        v.before.device.ep.sent <+: dispatches g.before.device.calls := by
  have hinit : Orderly P [] l := by
    obtain ⟨free, c⟩ := l
    subst hl
    exact ⟨task_loop_passed d ⟨.inl hd, List.nil_prefix⟩, task_loop_keepsSave, fun _ => hd.2⟩
  obtain ⟨hall, -⟩ := hinit.run hrun hhost hout
  constructor
  · intro v hv
    obtain ⟨hbefore, hafter⟩ := hall v hv
    exact ⟨hafter.handled_or_pending, fun hop => (wp_next hbefore.task hop).2.1 (by simp [EndsTransfer])⟩
  · rintro us v ms g ws rfl hv hg hatt
    obtain ⟨-, hvst, hrest⟩ := hrun.split_cons
    obtain ⟨hms, hgst, -⟩ := hrest.split_cons
    rw [hv] at hvst
    rw [hg] at hgst
    -- from the end of the one turn on, its requests are the ones to be passed on
    have hstart := (hall v (by simp)).1.again hvst
    obtain ⟨-, hend⟩ := hstart.run hms (fun m hm => hhost m (by simp [hm]))
      fun m hm => hout m (by simp [hm])
    exact (hend.passed_of_again hgst).passed hatt

/-- The host clears the status and asks for it. -/
def clrStatus : ControlTransfer := DFU_REQ.CLRSTATUS.transfer 0 0 []

def getStatus : ControlTransfer := DFU_REQ.GETSTATUS.transfer 0 6 []

/-- A task at the start of a turn, and a host that has sent nothing. -/
def freshLink : Link Rom := ⟨true, task_loop reference, Device.start Rom.blank⟩

/-- The second packet comes between two turns. -/
def spacedRun : List (Move Event) :=
  .event (.setup clrStatus) :: List.replicate 28 .access ++ [.again, .event (.setup getStatus)] ++
    List.replicate 50 .access ++ [.again]

/-- Both requests have been handled when the second turn ends. -/
theorem spacedRun_handled : ∃ (vs : List (Visit (Link Rom) (Move Event))) (l' : Link Rom),
    Run (Links reference) freshLink vs l' ∧ vs.map Visit.action = spacedRun ∧
      ∀ v ∈ vs, Handled v.after.device ∨ Pending v.after.device := by
  obtain ⟨vs, l', hrun, has, hhost, hout⟩ := exists_run (link reference) spacedRun freshLink
    (fun vs _ => (∀ v ∈ vs, HostWaits v.action v.before) ∧ ∀ v ∈ vs, SetupOutside v.action v.before)
    (by decide +kernel)
  exact ⟨vs, l', hrun, has, fun v hv => ((handled_once hrun rfl ⟨rfl, rfl⟩ hhost hout).1 v hv).1⟩

/-- The second packet comes when the host has collected the status packet of the first request, and
before the two tests behind the handler. -/
def overtakingRun : List (Move Event) :=
  .event (.setup clrStatus) :: List.replicate 23 .access ++
    [.event .inComplete, .event (.setup getStatus)] ++ List.replicate 11 .access ++ [.again]

/-- The second test takes GETSTATUS for the request that was handled: it is cleared and stalled, and
the handler never sees it. -/
theorem overtakingRun_unhandled : ∃ (vs : List (Visit (Link Rom) (Move Event))) (l' : Link Rom),
    Run (Links reference) freshLink vs l' ∧ vs.map Visit.action = overtakingRun ∧
      (∀ v ∈ vs, HostWaits v.action v.before) ∧
      (∀ v ∈ vs, v.after.device.ep.sent ≠ v.before.device.ep.sent →
        v.before.device.ep.tx.length = v.before.device.ep.sent.length) ∧
      l'.device.ep.sent = [clrStatus, getStatus] ∧ dispatches l'.device.calls = [clrStatus] ∧
      l'.device.ep.SETUPReceived = false ∧ l'.device.ep.stalled = true :=
  exists_run (link reference) overtakingRun freshLink (fun vs l' =>
      (∀ v ∈ vs, HostWaits v.action v.before) ∧
      (∀ v ∈ vs, v.after.device.ep.sent ≠ v.before.device.ep.sent →
        v.before.device.ep.tx.length = v.before.device.ep.sent.length) ∧
      l'.device.ep.sent = [clrStatus, getStatus] ∧ dispatches l'.device.calls = [clrStatus] ∧
      l'.device.ep.SETUPReceived = false ∧ l'.device.ep.stalled = true) (by decide +kernel)

end DfuSeBootloader.Dfu
