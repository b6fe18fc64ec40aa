import DfuSeBootloader.Os.Lemmas.Ready
import DfuSeBootloader.Os.Lemmas.Wheel
import DfuSeBootloader.Os.View

/-!
# The kernel between two critical sections

Every task is in the lists that its state says, and in no others.
-/

namespace DfuSeBootloader.Os
open Function (update)

variable {τ σ : Type} {k k' k'' : Kernel τ σ} {t u : τ} {s : σ}

namespace Kernel

/-- What a pending task waits for. -/
def Waits (k : Kernel τ σ) (t : τ) : Prop :=
  k.PendOn t = .OS_TASK_PEND_ON_SEM ∧ k.pends.PendDataTblEntries t = 1 ∨
    k.PendOn t = .OS_TASK_PEND_ON_TASK_SEM ∧ k.pends.PendDataTblEntries t = 0

/-- A task is where its state says. A block that no task has been created for has `OS_PRIO_INIT`. -/
def Placed (k : Kernel τ σ) (t : τ) : Prop :=
  match k.TaskState t with
  | .OS_TASK_STATE_RDY =>
      (k.ready.Has t ↔ k.ready.Prio t < OS_CFG_PRIO_MAX) ∧ k.wheel.TickSpokePtr t = none ∧
        k.pends.PendDataTblEntries t = 0
  | .OS_TASK_STATE_DLY =>
      k.ready.Prio t < OS_CFG_PRIO_MAX ∧ (k.ready.Has t ↔ k.wheel.TickSpokePtr t = none) ∧
        k.pends.PendDataTblEntries t = 0
  | .OS_TASK_STATE_PEND =>
      k.ready.Prio t < OS_CFG_PRIO_MAX ∧ ¬ k.ready.Has t ∧ k.wheel.TickSpokePtr t = none ∧ k.Waits t
  | .OS_TASK_STATE_PEND_TIMEOUT =>
      k.ready.Prio t < OS_CFG_PRIO_MAX ∧ ¬ k.ready.Has t ∧ k.wheel.TickSpokePtr t ≠ none ∧ k.Waits t
  | _ => False

/-- The lists are sound, and the tasks are in the right ones. -/
structure Consistent (k : Kernel τ σ) : Prop where
  ready : k.ready.Sound
  wheel : k.wheel.Sound
  pends : k.pends.Holds k.ready.Prio k.pends.list
  placed : ∀ t, k.Placed t
  /-- Nobody waits for a semaphore that has tokens. -/
  tokens : ∀ s, k.Ctr s ≠ 0 → k.pends.list s = []

structure Coherent (k : Kernel τ σ) : Prop extends Consistent k where
  /-- Nobody's time is up. -/
  future : ∀ t, k.wheel.TickSpokePtr t ≠ none → k.remain t ≠ 0

/-! ## What a function leaves as it was -/

/-- The variables of the scheduler. -/
structure Scheduler (τ : Type) where
  Prio : τ → Nat
  OSPrioCur : Nat
  OSTCBCurPtr : Option τ
  OSTCBHighRdyPtr : Option τ
  OSIntNestingCtr : Nat
  OSSchedLockNestingCtr : Nat
  OSRunning : Bool
  PENDSVSET : Bool

def scheduler (k : Kernel τ σ) : Scheduler τ :=
  ⟨k.ready.Prio, k.OSPrioCur, k.OSTCBCurPtr, k.OSTCBHighRdyPtr, k.OSIntNestingCtr,
    k.OSSchedLockNestingCtr, k.OSRunning, k.PENDSVSET⟩

section

variable (h : k'.scheduler = k.scheduler)
include h

theorem scheduler_prio : k'.ready.Prio = k.ready.Prio := congrArg Scheduler.Prio h

theorem scheduler_prioCur : k'.OSPrioCur = k.OSPrioCur := congrArg Scheduler.OSPrioCur h

theorem scheduler_cur : k'.OSTCBCurPtr = k.OSTCBCurPtr := congrArg Scheduler.OSTCBCurPtr h

theorem scheduler_nesting : k'.OSIntNestingCtr = k.OSIntNestingCtr :=
  congrArg Scheduler.OSIntNestingCtr h

theorem scheduler_lock : k'.OSSchedLockNestingCtr = k.OSSchedLockNestingCtr :=
  congrArg Scheduler.OSSchedLockNestingCtr h

theorem scheduler_running : k'.OSRunning = k.OSRunning := congrArg Scheduler.OSRunning h

theorem scheduler_set : k'.PENDSVSET = k.PENDSVSET := congrArg Scheduler.PENDSVSET h

end

/-- The two states agree on the task. -/
structure Same (k k' : Kernel τ σ) (t : τ) : Prop where
  state : k'.TaskState t = k.TaskState t
  pendOn : k'.PendOn t = k.PendOn t
  outcome : k'.PendStatus t = k.PendStatus t
  has : k'.ready.Has t ↔ k.ready.Has t
  spoke : k'.wheel.TickSpokePtr t = k.wheel.TickSpokePtr t
  ticks : k'.wheel.TickCtrMatch t = k.wheel.TickCtrMatch t
  entries : k'.pends.PendDataTblEntries t = k.pends.PendDataTblEntries t
  obj : k'.pends.PendObjPtr t = k.pends.PendObjPtr t

theorem Same.trans (h : Same k k' t) (h' : Same k' k'' t) : Same k k'' t :=
  ⟨h'.state.trans h.state, h'.pendOn.trans h.pendOn, h'.outcome.trans h.outcome,
    h'.has.trans h.has, h'.spoke.trans h.spoke, h'.ticks.trans h.ticks,
    h'.entries.trans h.entries, h'.obj.trans h.obj⟩

theorem Same.placed (h : Same k k' t) (hprio : k'.ready.Prio = k.ready.Prio) (hk : k.Placed t) :
    k'.Placed t := by
  unfold Placed Waits at *
  rwa [h.state, h.pendOn, h.has, h.spoke, h.entries, hprio]

theorem Same.remain (h : Same k k' t) (hctr : k'.wheel.OSTickCtr = k.wheel.OSTickCtr) :
    k'.remain t = k.remain t := by
  rw [Kernel.remain, Kernel.remain, h.ticks, hctr]

theorem Same.status (h : Same k k' t) (hctr : k'.wheel.OSTickCtr = k.wheel.OSTickCtr) :
    k'.status t = k.status t := by
  unfold Kernel.status pendsOn
  rw [h.state, h.spoke, h.entries, h.obj, h.remain hctr]

/-! ## What the state of a task says -/

namespace Consistent

/-- The ready tasks are those in the ready lists. -/
theorem has_iff (h : k.Consistent) :
    k.ready.Has t ↔ k.status t = .ready ∧ k.ready.Prio t < OS_CFG_PRIO_MAX := by
  have hp := h.placed t
  unfold Placed at hp
  unfold Kernel.status
  cases hs : k.TaskState t with
  | OS_TASK_STATE_RDY =>
      simp only [hs] at hp
      simp [hp.1]
  | OS_TASK_STATE_DLY =>
      simp only [hs] at hp
      simp [hp.1, hp.2.1]
  | OS_TASK_STATE_PEND =>
      simp only [hs] at hp
      simp [hp.2.1]
  | OS_TASK_STATE_PEND_TIMEOUT =>
      simp only [hs] at hp
      simp [hp.2.1]
  | _ =>
      simp only [hs] at hp

theorem timed (h : k.Consistent) (ht : k.wheel.TickSpokePtr t ≠ none) :
    k.TaskState t = .OS_TASK_STATE_DLY ∨ k.TaskState t = .OS_TASK_STATE_PEND_TIMEOUT := by
  have hplaced := h.placed t
  unfold Placed at hplaced
  cases hs : k.TaskState t with
  | OS_TASK_STATE_DLY => exact .inl rfl
  | OS_TASK_STATE_PEND_TIMEOUT => exact .inr rfl
  | OS_TASK_STATE_RDY =>
      simp only [hs] at hplaced
      exact absurd hplaced.2.1 ht
  | OS_TASK_STATE_PEND =>
      simp only [hs] at hplaced
      exact absurd hplaced.2.2.1 ht
  | _ => simp only [hs] at hplaced

theorem spoke_of_ready (h : k.Consistent) (hs : k.status t = .ready) :
    k.wheel.TickSpokePtr t = none := by
  by_contra hspoke
  rcases h.timed hspoke with hst | hst <;> simp [Kernel.status, hst, hspoke] at hs

/-- What is ready in the one state is ready in the other. -/
theorem has_mono (h : k.Consistent) (h' : k'.Consistent) (hprio : k'.ready.Prio = k.ready.Prio)
    (hready : k.status t = .ready → k'.status t = .ready) (ht : k.ready.Has t) :
    k'.ready.Has t := by
  rw [h'.has_iff, hprio]
  exact (h.has_iff.mp ht).imp_left hready

/-- Only one task has changed its place. -/
theorem of_same (h : k.Consistent) (hprio : k'.ready.Prio = k.ready.Prio)
    (hsame : ∀ u ≠ t, Same k k' u) (hready : k'.ready.Sound) (hwheel : k'.wheel.Sound)
    {l : σ → List τ} (hpends : k'.pends.Holds k.ready.Prio l) (ht : k'.Placed t)
    (htokens : ∀ s, k'.Ctr s ≠ 0 → l s = []) : k'.Consistent where
  ready := hready
  wheel := hwheel
  pends := by rwa [hprio, hpends.list_eq]
  placed u := by
    by_cases hu : u = t
    · exact hu ▸ ht
    · exact (hsame u hu).placed hprio (h.placed u)
  tokens s hs := by
    rw [hpends.list_eq]
    exact htokens s hs

end Consistent

/-- The change of one task. -/
structure Changes (t : τ) (k k' : Kernel τ σ) : Prop where
  scheduler : k'.scheduler = k.scheduler
  ctr : k'.wheel.OSTickCtr = k.wheel.OSTickCtr
  same : ∀ u ≠ t, Same k k' u

namespace Changes

theorem prio (h : Changes t k k') : k'.ready.Prio = k.ready.Prio := scheduler_prio h.scheduler

variable [DecidableEq τ]

theorem status (h : Changes t k k') : k'.status = update k.status t (k'.status t) := by
  funext u
  by_cases hu : u = t
  · rw [hu, Function.update_self]
  · rw [Function.update_of_ne hu, (h.same u hu).status h.ctr]

theorem outcome (h : Changes t k k') : k'.PendStatus = update k.PendStatus t (k'.PendStatus t) := by
  funext u
  by_cases hu : u = t
  · rw [hu, Function.update_self]
  · rw [Function.update_of_ne hu, (h.same u hu).outcome]

end Changes

/-! ## A task becomes ready -/

variable [DecidableEq τ] {l : Nat → List τ}

theorem taskRdy (hr : k.ready.Sound) (hw : k.wheel.Holds l) (hnot : ¬ k.ready.Has t)
    (hp : k.ready.Prio t < OS_CFG_PRIO_MAX)
    (hs : (k.TaskState t).code &&& OS_TASK_STATE_BIT_SUSPENDED = 0) :
    ∃ r w, OS_TaskRdy t k = some { k with ready := r, wheel := w } ∧
      r.Prio = k.ready.Prio ∧ r.Sound ∧ (∀ u, r.Has u ↔ k.ready.Has u ∨ u = t) ∧
      w.Holds (fun j => (l j).erase t) ∧ Wheel.Others t k.wheel w ∧ w.TickSpokePtr t = none := by
  obtain ⟨w, hw, hholds, hothers, hspoke⟩ := hw.remove t
  obtain ⟨r, hr, hprio, hsound, hhas⟩ := hr.insert hnot hp k.OSPrioCur
  refine ⟨r, w, ?_, hprio, hsound, hhas, hholds, hothers, hspoke⟩
  simp only [OS_TaskRdy, hw, hs, hr]
  rfl

variable [DecidableEq σ]

/-- The task has left the lists of those that wait. -/
structure Wakes (t : τ) (l : Nat → List τ) (k k' : Kernel τ σ) : Prop where
  consistent : k'.Consistent
  changes : Changes t k k'
  status : k'.status t = .ready
  waiting : k'.pends.list = fun s => (k.pends.list s).erase t
  tokens : k'.Ctr = k.Ctr
  wheel : k'.wheel.Holds fun j => (l j).erase t

omit [DecidableEq τ] [DecidableEq σ] in
theorem isPending_iff : (k.status t).isPending ↔
    k.TaskState t = .OS_TASK_STATE_PEND ∨ k.TaskState t = .OS_TASK_STATE_PEND_TIMEOUT := by
  unfold Kernel.status
  cases hs : k.TaskState t with
  | OS_TASK_STATE_DLY => cases k.wheel.TickSpokePtr t <;> simp [Status.isPending]
  | _ => simp [Status.isPending]

omit [DecidableEq τ] [DecidableEq σ] in
theorem Consistent.pending (h : k.Consistent) (hp : (k.status t).isPending) :
    k.ready.Prio t < OS_CFG_PRIO_MAX ∧ ¬ k.ready.Has t ∧
      (k.TaskState t).code &&& OS_TASK_STATE_BIT_SUSPENDED = 0 := by
  have hplaced := h.placed t
  rcases isPending_iff.mp hp with hs | hs <;> simp only [Placed, hs] at hplaced ⊢ <;>
    exact ⟨hplaced.1, hplaced.2.1, rfl⟩

omit [DecidableEq σ] in
/-- A wait ends: the task leaves its pend list and the wheel, and is ready. -/
theorem Consistent.endPend (h : k.Consistent) (hw : k.wheel.Holds l) (hp : (k.status t).isPending)
    (st : OS_STATUS) {q : Pends τ σ}
    (hq : q.Holds k.ready.Prio (fun s => (k.pends.list s).erase t))
    (hentries : q.PendDataTblEntries = update k.pends.PendDataTblEntries t 0)
    (hobj : q.PendObjPtr = k.pends.PendObjPtr) :
    ∃ k₁, OS_TaskRdy t { k with pends := q } = some k₁ ∧
      Wakes t l k (k₁.endPend t .OS_TASK_STATE_RDY st) ∧ k₁.PendStatus = k.PendStatus := by
  obtain ⟨hprio, hnot, hs⟩ := h.pending hp
  obtain ⟨r, w, heq, hrprio, hr, hhas, hw', hothers, hspoke⟩ :=
    taskRdy (k := { k with pends := q }) h.ready hw hnot hprio hs
  have hsame (u : τ) (hu : u ≠ t) :
      Same k ({ k with pends := q, ready := r, wheel := w }.endPend t .OS_TASK_STATE_RDY st) u := by
    constructor <;> simp [Kernel.endPend, hu, hhas, hothers.spoke u hu, hothers.ticks u hu,
      hentries, hobj]
  refine ⟨_, heq, ⟨h.of_same hrprio hsame hr ⟨_, hw'⟩ hq ?_ fun s hs => ?_,
    ⟨?_, hothers.ctr, hsame⟩, ?_, hq.list_eq, rfl, hw'⟩, rfl⟩
  · simp [Placed, Kernel.endPend, hhas, hrprio, hprio, hspoke, hentries]
  · simp [h.tokens s hs]
  · simp [scheduler, Kernel.endPend, hrprio]
  · simp [Kernel.status, Kernel.endPend]

omit [DecidableEq σ] in
/-- A delay ends. -/
theorem Consistent.endDelay (h : k.Consistent) (hw : k.wheel.Holds l)
    (hs : k.TaskState t = .OS_TASK_STATE_DLY) (hspoke : k.wheel.TickSpokePtr t ≠ none) :
    ∃ k', OS_TaskRdy t (k.setState t .OS_TASK_STATE_RDY) = some k' ∧ Wakes t l k k' ∧
      k'.PendStatus = k.PendStatus := by
  have hplaced := h.placed t
  simp only [Placed, hs] at hplaced
  obtain ⟨hprio, hhas, hentries⟩ := hplaced
  obtain ⟨r, w, heq, hrprio, hr, hhas', hw', hothers, hspoke'⟩ :=
    taskRdy (k := k.setState t .OS_TASK_STATE_RDY) (t := t) h.ready hw
      (by simpa [setState, hhas] using hspoke) hprio
      (by simp [setState, OS_TASK_STATE.code, OS_TASK_STATE_BIT_SUSPENDED])
  have hsame (u : τ) (hu : u ≠ t) :
      Same k { k.setState t .OS_TASK_STATE_RDY with ready := r, wheel := w } u := by
    constructor <;>
      simp [setState, hu, hhas', hothers.spoke u hu, hothers.ticks u hu]
  refine ⟨_, heq, ⟨h.of_same hrprio hsame hr ⟨_, hw'⟩ h.pends ?_ h.tokens,
    ⟨?_, hothers.ctr, hsame⟩, ?_, (h.pends.erase_eq hentries).symm, rfl, hw'⟩, rfl⟩
  · simp [Placed, setState, hhas', hrprio, hprio, hspoke', hentries]
  · simp [scheduler, setState, hrprio]
  · simp [Kernel.status, setState]

/-- A task that waits gets what it waits for. -/
theorem Consistent.post (h : k.Consistent) (hw : k.wheel.Holds l) (hp : (k.status t).isPending)
    {p_obj : Option σ} (hobj : p_obj = none → k.pends.PendDataTblEntries t = 0) :
    ∃ k', OS_Post p_obj t k = some k' ∧ Wakes t l k k' ∧
      k'.PendStatus = update k.PendStatus t .OS_STATUS_PEND_OK := by
  have hremove : ∃ q, (if p_obj.isSome then OS_PendListRemove t k.pends else some k.pends) = some q ∧
      q.Holds k.ready.Prio (fun s => (k.pends.list s).erase t) ∧
      q.PendDataTblEntries = update k.pends.PendDataTblEntries t 0 ∧
      q.PendObjPtr = k.pends.PendObjPtr := by
    cases p_obj with
    | none =>
        refine ⟨k.pends, rfl, ?_, ?_, rfl⟩
        · rw [h.pends.erase_eq (hobj rfl)]
          exact h.pends
        · rw [← hobj rfl, Function.update_eq_self]
    | some s => exact h.pends.remove t
  have hpost : OS_Post p_obj t k =
      (if p_obj.isSome then OS_PendListRemove t k.pends else some k.pends) >>= fun q =>
        OS_TaskRdy t { k with pends := q } >>= fun k₁ =>
          some (k₁.endPend t .OS_TASK_STATE_RDY .OS_STATUS_PEND_OK) := by
    rcases isPending_iff.mp hp with hs | hs <;> simp only [OS_Post, hs] <;> cases p_obj <;> rfl
  obtain ⟨q, hq, hholds, hentries, hobj'⟩ := hremove
  obtain ⟨k₁, heq, hwakes, hstatus⟩ := h.endPend hw hp .OS_STATUS_PEND_OK hholds hentries hobj'
  refine ⟨_, ?_, hwakes, by simp [Kernel.endPend, hstatus]⟩
  rw [hpost, hq, Option.bind_eq_bind, Option.bind_some, heq, Option.bind_eq_bind, Option.bind_some]

end Kernel

end DfuSeBootloader.Os
