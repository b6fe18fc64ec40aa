import DfuSeBootloader.Os.Lemmas.Wait
import DfuSeBootloader.Os.Lemmas.Tick

/-!
# The scheduler

What the scheduler does leaves the tasks as they are. It chooses a ready task of the highest priority.
-/

namespace DfuSeBootloader.Os
open Function (update)

variable {τ σ : Type} {k k' : Kernel τ σ} {t u : τ} {p : Nat}

namespace Kernel

/-- A ready task, where no ready task has a higher priority. -/
def Highest (k : Kernel τ σ) (t : τ) : Prop :=
  k.ready.Has t ∧ ∀ u, k.ready.Has u → k.ready.Prio t ≤ k.ready.Prio u

theorem Coherent.switch [DecidableEq τ] (h : k.Coherent) (hidle : k.ready.Has t) : ∃ u,
    OSSched.switch k = some { k with
      OSPrioHighRdy := k.ready.Prio u
      OSTCBHighRdyPtr := some u
      PENDSVSET := k.PENDSVSET || some u != k.OSTCBCurPtr } ∧ k.Highest u := by
  obtain ⟨u, hprio, hhead, hu, hleast⟩ := h.ready.highest hidle
  refine ⟨u, ?_, hu, hleast⟩
  simp only [OSSched.switch, hprio, Option.bind_eq_bind, Option.bind_some, hhead]

/-! ## Time slices -/

variable [DecidableEq τ]

theorem Coherent.rotate (h : k.Coherent) (p : Nat) : ∃ r,
    OS_RdyListMoveHeadToTail p k.ready = some r ∧ Coherent { k with ready := r } ∧
      scheduler { k with ready := r } = k.scheduler ∧ view { k with ready := r } = k.view ∧
      ((k.ready.OSRdyList p).NbrEntries ≠ 0 → ∃ u, (r.OSRdyList p).HeadPtr = some u) := by
  obtain ⟨r, heq, hprio, hr, hhas, hhead⟩ := h.ready.moveHeadToTail p
  have hsame (u : τ) : Same k { k with ready := r } u :=
    ⟨rfl, rfl, rfl, hhas u, rfl, rfl, rfl, rfl⟩
  refine ⟨r, heq, ⟨⟨hr, h.wheel, ?_, fun u => (hsame u).placed hprio (h.placed u), h.tokens⟩,
    h.future⟩, ?_, View.ext hprio rfl rfl rfl rfl, hhead⟩
  · rw [hprio]
    exact h.pends
  · simp [scheduler, hprio]

/-- The functions for the time slices leave the tasks as they are. -/
structure Idles (k k' : Kernel τ σ) : Prop where
  coherent : k'.Coherent
  scheduler : k'.scheduler = k.scheduler
  view : k'.view = k.view

omit [DecidableEq τ] in
theorem Idles.quanta (h : Idles k k') (f : τ → UInt32) :
    Idles k { k' with TimeQuantaCtr := f } :=
  ⟨⟨⟨h.coherent.ready, h.coherent.wheel, h.coherent.pends, h.coherent.placed, h.coherent.tokens⟩,
    h.coherent.future⟩, h.scheduler, h.view⟩

/-- The next task of a priority gets its time slice. -/
theorem Idles.yield (h : Idles k k') (hn : (k'.ready.OSRdyList p).NbrEntries ≠ 0) : ∃ r u,
    OS_RdyListMoveHeadToTail p k'.ready = some r ∧ (r.OSRdyList p).HeadPtr = some u ∧
      Idles k (renewQuanta u { k' with ready := r }) := by
  obtain ⟨r, heq, hr, hsched, hview, hhead⟩ := h.coherent.rotate p
  obtain ⟨u, hu⟩ := hhead hn
  exact ⟨r, u, heq, hu, .quanta ⟨hr, hsched.trans h.scheduler, hview.trans h.view⟩ _⟩

theorem Coherent.schedRoundRobin (h : k.Coherent) (OSIdleTaskTCB : τ) (p : Nat) :
    ∃ k', OS_SchedRoundRobin OSIdleTaskTCB p k = some k' ∧ Idles k k' := by
  have hstay : Idles k k := ⟨h, rfl, rfl⟩
  unfold OS_SchedRoundRobin
  split
  · exact ⟨k, rfl, hstay⟩
  · split
    · exact ⟨k, rfl, hstay⟩
    · split
      · exact ⟨k, rfl, hstay⟩
      · rename_i t _ _
        simp only
        generalize update k.TimeQuantaCtr t (k.TimeQuantaCtr t -
          if k.TimeQuantaCtr t > 0 then 1 else 0) = slices
        have hslice := hstay.quanta slices
        split
        · exact ⟨_, rfl, hslice⟩
        · split
          · exact ⟨_, rfl, hslice⟩
          · split
            · exact ⟨_, rfl, hslice⟩
            · obtain ⟨r, u, heq, hu, hyield⟩ := hslice.yield (p := p) (by simp; omega)
              simp only [heq, Option.bind_eq_bind, Option.bind_some, hu]
              exact ⟨_, rfl, hyield⟩

theorem Coherent.yield (h : k.Coherent) :
    ∃ b k', OSSchedRoundRobinYield.yield k = some (b, k') ∧ Idles k k' := by
  have hstay : Idles k k := ⟨h, rfl, rfl⟩
  unfold OSSchedRoundRobinYield.yield
  split
  · exact ⟨_, k, rfl, hstay⟩
  · obtain ⟨r, u, heq, hu, hyield⟩ := hstay.yield (p := k.OSPrioCur) (by omega)
    simp only [heq, Option.bind_eq_bind, Option.bind_some, hu]
    exact ⟨_, _, rfl, hyield⟩

end Kernel

end DfuSeBootloader.Os
