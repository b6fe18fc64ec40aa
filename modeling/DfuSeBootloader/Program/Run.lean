import Mathlib.Data.List.Infix

/-!
# Runs of a labelled step relation

A run lists every step with the states before and after it, so that a statement can speak about any
two steps of one run.
-/

namespace DfuSeBootloader.Program

variable {σ α : Type} {step : σ → α → σ → Prop} {s s' s'' : σ}

/-- A step that a run has taken. -/
structure Visit (σ α : Type) where
  before : σ
  action : α
  after : σ

inductive Run (step : σ → α → σ → Prop) : σ → List (Visit σ α) → σ → Prop
  | nil (s : σ) : Run step s [] s
  | cons {s s' s'' : σ} {a : α} {vs : List (Visit σ α)} :
      step s a s' → Run step s' vs s'' → Run step s (⟨s, a, s'⟩ :: vs) s''

namespace Run

variable {v : Visit σ α} {us vs : List (Visit σ α)}

theorem append (h : Run step s us s') (h' : Run step s' vs s'') : Run step s (us ++ vs) s'' := by
  induction h with
  | nil => exact h'
  | cons hst _ ih => exact .cons hst (ih h')

theorem split (h : Run step s (us ++ vs) s'') : ∃ s', Run step s us s' ∧ Run step s' vs s'' := by
  induction us generalizing s with
  | nil => exact ⟨s, .nil s, h⟩
  | cons u us ih =>
      cases h with
      | cons hst h =>
          obtain ⟨s', hu, hv⟩ := ih h
          exact ⟨s', .cons hst hu, hv⟩

/-- What every step of the run preserves holds before and after each of them. -/
theorem invariant {I : σ → Prop} (h : Run step s vs s')
    (hstep : ∀ v ∈ vs, step v.before v.action v.after → I v.before → I v.after) (hs : I s) :
    (∀ v ∈ vs, step v.before v.action v.after ∧ I v.before ∧ I v.after) ∧ I s' := by
  induction h with
  | nil => exact ⟨fun _ hv => (nomatch hv), hs⟩
  | cons hst _ ih =>
      have hs' := hstep _ List.mem_cons_self hst hs
      obtain ⟨hvs, hend⟩ := ih (fun v hv => hstep v (List.mem_cons_of_mem _ hv)) hs'
      refine ⟨fun v hv => ?_, hend⟩
      rcases List.mem_cons.mp hv with rfl | hv
      · exact ⟨hst, hs, hs'⟩
      · exact hvs v hv

theorem split_cons (h : Run step s (us ++ v :: vs) s'') :
    Run step s us v.before ∧ step v.before v.action v.after ∧ Run step v.after vs s'' := by
  obtain ⟨s', hus, hv⟩ := h.split
  cases hv with
  | cons hst hvs => exact ⟨hus, hst, hvs⟩

theorem step_of_mem (h : Run step s vs s') (hv : v ∈ vs) : step v.before v.action v.after := by
  obtain ⟨us, ws, rfl⟩ := List.append_of_mem hv
  exact h.split_cons.2.1

theorem split_at {i : Nat} (h : Run step s vs s') (hv : vs[i]? = some v) :
    Run step s (vs.take i ++ v :: vs.drop (i + 1)) s' := by
  obtain ⟨hi, rfl⟩ := List.getElem?_eq_some_iff.mp hv
  rwa [← List.drop_eq_getElem_cons hi, List.take_append_drop]

/-- A run through given actions, taken apart. -/
theorem of_map_cons {a : α} {as : List α} (h : Run step s vs s'')
    (has : vs.map Visit.action = a :: as) :
    ∃ s' ws, step s a s' ∧ Run step s' ws s'' ∧ ws.map Visit.action = as := by
  cases h with
  | nil => cases has
  | cons hst h =>
      obtain ⟨rfl, rfl⟩ := List.cons.inj has
      exact ⟨_, _, hst, h, rfl⟩

/-- A simulation: every step is a step of another system. -/
theorem map {τ β : Type} {step' : τ → β → τ → Prop} {f : σ → τ} {g : α → β}
    (hsim : ∀ s a s', step s a s' → step' (f s) (g a) (f s')) (h : Run step s vs s') :
    Run step' (f s) (vs.map fun v => ⟨f v.before, g v.action, f v.after⟩) (f s') := by
  induction h with
  | nil s => exact .nil (f s)
  | cons hst _ ih => exact .cons (hsim _ _ _ hst) ih

/-- A system whose actions have one outcome has one run through given actions. -/
theorem unique {vs' : List (Visit σ α)} (hfun : ∀ s a t t', step s a t → step s a t' → t = t')
    (h : Run step s vs s') (h' : Run step s vs' s'') (has : vs.map Visit.action = vs'.map Visit.action) :
    vs = vs' ∧ s' = s'' := by
  induction h generalizing vs' with
  | nil =>
      cases h' with
      | nil => exact ⟨rfl, rfl⟩
      | cons hst h' => cases has
  | cons hst _ ih =>
      cases h' with
      | nil => cases has
      | cons hst' h' =>
          obtain ⟨rfl, hrest⟩ := List.cons.inj has
          obtain rfl := hfun _ _ _ _ hst hst'
          obtain ⟨rfl, rfl⟩ := ih h' hrest
          exact ⟨rfl, rfl⟩

end Run

/-! ## Functions as step relations -/

section Trace

variable {f : α → σ → Option σ} {as : List α}

/-- The run through the actions `as`, where every action can be taken. -/
def trace (f : α → σ → Option σ) : List α → σ → Option (List (Visit σ α) × σ)
  | [], s => some ([], s)
  | a :: as, s =>
      (f a s).bind fun s' => (trace f as s').map fun r => (⟨s, a, s'⟩ :: r.1, r.2)

theorem run_of_trace {vs : List (Visit σ α)} (h : trace f as s = some (vs, s')) :
    Run (fun s a s' => f a s = some s') s vs s' ∧ vs.map Visit.action = as := by
  induction as generalizing s vs with
  | nil => cases h; exact ⟨.nil _, rfl⟩
  | cons a as ih =>
      simp only [trace, Option.bind_eq_some_iff, Option.map_eq_some_iff, Prod.mk.injEq] at h
      obtain ⟨t, hf, ⟨us, u⟩, htr, rfl, rfl⟩ := h
      obtain ⟨hrun, hus⟩ := ih htr
      exact ⟨.cons hf hrun, congrArg (a :: ·) hus⟩

/-- A run that is computed. -/
theorem exists_run (f : α → σ → Option σ) (as : List α) (s : σ)
    (Q : List (Visit σ α) → σ → Prop) [∀ vs s, Decidable (Q vs s)]
    (h : (trace f as s).any (fun r => decide (Q r.1 r.2)) = true) :
    ∃ vs s', Run (fun s a s' => f a s = some s') s vs s' ∧ vs.map Visit.action = as ∧ Q vs s' := by
  cases htr : trace f as s with
  | none => rw [htr] at h; cases h
  | some r =>
      obtain ⟨hrun, has⟩ := run_of_trace htr
      exact ⟨r.1, r.2, hrun, has, by simpa [htr] using h⟩

end Trace

end DfuSeBootloader.Program
