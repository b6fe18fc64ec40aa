import DfuSeBootloader.Program.Run
import DfuSeBootloader.Program.Triple

/-!
# A thread that starts over

A thread runs a body, and runs it again as long as the value that the body returns says so. Events
come between any two of its accesses.
-/

namespace DfuSeBootloader.Program

variable {σ π α ε : Type}

/-- What is left of the body, and the state. -/
abbrev Config (σ π α : Type) : Type := Prog σ π α × σ

inductive Move (ε : Type)
  | event (e : ε)
  /-- One access of the thread. -/
  | access
  /-- The body begins again. -/
  | again
  deriving DecidableEq

section

variable (ev : ε → σ → σ) (body : Prog σ π α) (goesOn : α → Bool)

def loop : Move ε → Config σ π α → Option (Config σ π α)
  | .event e, c => some (c.1, ev e c.2)
  | .access, c => c.1.step c.2
  | .again, c =>
      match c.1 with
      | .ret a => if goesOn a then some (body, c.2) else none
      | _ => none

end

variable {ev : ε → σ → σ} {body : Prog σ π α} {goesOn : α → Bool} {C : Contract σ π}
  {Q : α → σ → Prop} {m : Move ε} {c c' : Config σ π α}

/-- The body begins again only where it has returned. -/
theorem loop_again {p : Prog σ π α} {s : σ} (hst : loop ev body goesOn .again (p, s) = some c') :
    ∃ a, p = .ret a ∧ goesOn a = true ∧ c' = (body, s) := by
  cases p with
  | ret a =>
      simp only [loop] at hst
      split at hst
      · exact ⟨a, rfl, ‹_›, (Option.some.inj hst).symm⟩
      · cases hst
  | atom op f k => cases hst
  | await op ready giveUp k => cases hst
  | fault op => cases hst

/-- A step of the loop keeps to the contract, where the events and the accesses do, and where what the
body returns with is what it may begin with. -/
theorem wp_loop (h : wp C Q c.1 c.2) (hst : loop ev body goesOn m c = some c')
    (hbody : ∀ a, goesOn a = true → Q a c.2 → wp C Q body c.2)
    (hrely : ∀ e, m = .event e → ∀ op, c.1.next = some op → C.rely op c.2 (ev e c.2))
    (hstable : ∀ e, m = .event e → ∀ a, c.1 = .ret a → Q a c.2 → Q a (ev e c.2))
    (hassume : m = .access → ∀ op, c.1.next = some op → C.assume op c.2) : wp C Q c'.1 c'.2 := by
  obtain ⟨p, s⟩ := c
  cases m with
  | event e =>
      obtain rfl : (p, ev e s) = c' := Option.some.inj hst
      exact wp_env h (hrely e rfl) (hstable e rfl)
  | access => exact wp_step h (hassume rfl) hst
  | again =>
      obtain ⟨a, rfl, ha, rfl⟩ := loop_again hst
      exact hbody a ha h

/-! ## Runs to the end -/

/-- The steps of the loop. -/
def Loops (ev : ε → σ → σ) (body : Prog σ π α) (goesOn : α → Bool) (c : Config σ π α) (m : Move ε)
    (c' : Config σ π α) : Prop :=
  loop ev body goesOn m c = some c'

theorem Loops.event (p : Prog σ π α) (e : ε) (s : σ) :
    Loops ev body goesOn (p, s) (.event e) (p, ev e s) := rfl

theorem Loops.access {p : Prog σ π α} {s : σ} (h : p.step s = some c') :
    Loops ev body goesOn (p, s) .access c' := h

theorem Loops.again {a : α} (ha : goesOn a = true) (s : σ) :
    Loops ev body goesOn (.ret a, s) .again (body, s) := if_pos ha

/-- The moves that run a program to its end when events come only in its polling loops: a loop takes
the events of its wait, and then it looks. -/
def served (ev : ε → σ → σ) : Prog σ π α → List (List ε) → σ → List (Move ε)
  | .ret _, _, _ => []
  | .atom _ f k, w, s => .access :: served ev (k s) w (f s)
  | .await _ ready _ k, w, s =>
      (w.headD []).map .event ++
        .access :: served ev (k (ready (applyEvents ev (w.headD []) s))) w.tail
          (applyEvents ev (w.headD []) s)
  | .fault _, _, _ => []

theorem loops_events (body : Prog σ π α) (goesOn : α → Bool) (p : Prog σ π α) (es : List ε) (s : σ) :
    ∃ vs, Run (Loops ev body goesOn) (p, s) vs (p, applyEvents ev es s) ∧
      vs.map Visit.action = es.map .event := by
  induction es generalizing s with
  | nil => exact ⟨[], .nil _, rfl⟩
  | cons e es ih =>
      obtain ⟨vs, h, hes⟩ := ih (ev e s)
      exact ⟨_, .cons (.event p e s) h, congrArg (Move.event e :: ·) hes⟩

/-- A run to the end is a run of the loop. -/
theorem loops_eval (body : Prog σ π α) (goesOn : α → Bool) {p : Prog σ π α}
    {w w' : List (List ε)} {s s' : σ} {a : α} (h : eval ev p w s = .done a w' s') :
    ∃ vs, Run (Loops ev body goesOn) (p, s) vs (.ret a, s') ∧
      vs.map Visit.action = served ev p w s := by
  induction p generalizing w s with
  | ret b =>
      cases h
      exact ⟨[], .nil _, rfl⟩
  | atom op f k ih =>
      obtain ⟨vs, hrun, hms⟩ := ih s h
      exact ⟨_, .cons (.access rfl) hrun, congrArg (Move.access :: ·) hms⟩
  | await op ready giveUp k ih =>
      simp only [eval] at h
      obtain ⟨us, hus, hfirst⟩ := @loops_events _ _ _ _ ev body goesOn
        (Prog.await op ready giveUp k) (w.headD []) s
      rw [served]
      generalize applyEvents ev (w.headD []) s = s₁ at h hus ⊢
      -- the events come first, and then the poll finds what it waits for, or gives up
      have hpoll (hst : (Prog.await op ready giveUp k).step s₁ = some (k (ready s₁), s₁))
          (hk : eval ev (k (ready s₁)) w.tail s₁ = .done a w' s') : ∃ vs,
          Run (Loops ev body goesOn) (Prog.await op ready giveUp k, s) vs (.ret a, s') ∧
            vs.map Visit.action =
              (w.headD []).map .event ++ .access :: served ev (k (ready s₁)) w.tail s₁ := by
        obtain ⟨vs, hrun, hrest⟩ := ih _ hk
        refine ⟨_, hus.append (.cons (.access hst) hrun), ?_⟩
        rw [List.map_append, hfirst, List.map_cons, hrest]
      split at h
      · rename_i hr
        exact hpoll (by simp [Prog.step, hr]) (by rwa [hr])
      · rename_i hr
        rw [Bool.not_eq_true] at hr
        split at h
        · rename_i hg
          exact hpoll (by simp [Prog.step, hr, hg]) (by rwa [hr])
        · cases h
  | fault op => cases h

end DfuSeBootloader.Program
