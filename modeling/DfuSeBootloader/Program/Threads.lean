import DfuSeBootloader.Program.Basic

/-!
# Threads that share a processor

Only one thread makes accesses at a time, and between two of its accesses the others may do what they
like, as long as they leave an invariant. A thread obeys a discipline when each of its accesses,
made where the invariant and the condition of the access hold, keeps the invariant, leads to the
condition of the next access, and is a step that the discipline allows. The threads do not poll.
-/

namespace DfuSeBootloader.Program

variable {σ π α β : Type}

structure Discipline (σ π : Type) where
  /-- Holds between any two accesses of any thread. -/
  inv : σ → Prop
  /-- Some thread makes the next access. -/
  runs : σ → Prop
  /-- Holds when the thread is about to perform the operation. -/
  pre : Option π → σ → Prop
  /-- What an operation may do. -/
  step : π → σ → σ → Prop

def Prog.Obeys (D : Discipline σ π) : Prog σ π α → Prop
  | .ret _ => True
  | .atom op f k => ∀ s, D.inv s → D.runs s → D.pre (some op) s →
      D.inv (f s) ∧ (D.runs (f s) → D.pre (k s).next (f s)) ∧ D.step op s (f s) ∧ (k s).Obeys D
  | .await _ _ _ _ => False
  | .fault _ => False

namespace Prog.Obeys

variable {D : Discipline σ π} {op : π} {p p' : Prog σ π α} {s s' : σ}

theorem pure (a : α) : (Pure.pure a : Prog σ π α).Obeys D := trivial

theorem ite {c : Prop} [Decidable c] {q : Prog σ π α} (hp : c → p.Obeys D) (hq : ¬ c → q.Obeys D) :
    (if c then p else q).Obeys D := by
  split
  · exact hp ‹_›
  · exact hq ‹_›

theorem get_bind {v : σ → α} {g : α → Prog σ π β}
    (h : ∀ s, D.inv s → D.runs s → D.pre (some op) s → D.pre (g (v s)).next s ∧ D.step op s s)
    (hg : ∀ a, (g a).Obeys D) : (Prog.get op v >>= g).Obeys D := by
  intro s hs hr hp
  obtain ⟨hpre, hstep⟩ := h s hs hr hp
  exact ⟨hs, fun _ => hpre, hstep, hg (v s)⟩

/-- What comes behind a thread may rely on the condition of its return. -/
theorem bind {p : Prog σ π α} {g : α → Prog σ π β} (hp : p.Obeys D)
    (hpre : ∀ a s, D.pre none s → D.pre (g a).next s) (hg : ∀ a, (g a).Obeys D) :
    (p >>= g).Obeys D := by
  induction p with
  | ret a => exact hg a
  | atom op f k ih =>
      intro s hs hr hop
      obtain ⟨hinv, hnext, hstep, hk⟩ := hp s hs hr hop
      refine ⟨hinv, fun hr' => ?_, hstep, ih s hk⟩
      have hk' := hnext hr'
      change D.pre (Prog.bind (k s) g).next (f s)
      cases hks : k s with
      | ret a => exact hpre a (f s) (by rwa [hks] at hk')
      | atom op f k => rwa [hks] at hk'
      | await op ready giveUp k => rwa [hks] at hk'
      | fault op => rwa [hks] at hk'
  | await op ready giveUp k ih => exact hp.elim
  | fault op => exact hp.elim

theorem step (h : p.Obeys D) (hs : D.inv s) (hr : D.runs s) (hp : D.pre p.next s)
    (hst : p.step s = some (p', s')) : ∃ op, p.next = some op ∧
      D.inv s' ∧ (D.runs s' → D.pre p'.next s') ∧ D.step op s s' ∧ p'.Obeys D := by
  cases p with
  | ret a => cases hst
  | atom op f k =>
      cases hst
      exact ⟨op, rfl, h s hs hr hp⟩
  | await op ready giveUp k => exact h.elim
  | fault op => exact h.elim

/-- A thread that has not returned can make its next access. -/
theorem exists_step (h : p.Obeys D) (hn : p.next ≠ none) (s : σ) : ∃ c, p.step s = some c := by
  cases p with
  | ret a => exact absurd rfl hn
  | atom op f k => exact ⟨_, rfl⟩
  | await op ready giveUp k => exact h.elim
  | fault op => exact h.elim

end Prog.Obeys

end DfuSeBootloader.Program
