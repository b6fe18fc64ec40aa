import DfuSeBootloader.Program.Basic

/-!
# Programs that come to an end

Every access leads to a smaller program, so that only a polling loop can keep a program from its end.
-/

namespace DfuSeBootloader.Program

variable {σ π α β : Type}

/-- The program returns only values in `Q`, and only the polling loops in `x` may wait for ever: `x`
says which operation waits, and for what. -/
def Prog.Proceeds (x : π → (σ → Bool) → Prop) (Q : α → Prop) : Prog σ π α → Prop
  | .ret a => Q a
  | .atom _ _ k => ∀ s, (k s).Proceeds x Q
  | .await op ready giveUp k => (x op ready ∨ ∀ s, giveUp s = true) ∧ ∀ b, (k b).Proceeds x Q
  | .fault _ => True

namespace Prog.Proceeds

variable {x : π → (σ → Bool) → Prop} {Q : α → Prop} {op : π}

@[simp] theorem pure_iff {a : α} : (Pure.pure a : Prog σ π α).Proceeds x Q ↔ Q a := .rfl

@[simp] theorem fault : (Prog.fault op : Prog σ π α).Proceeds x Q := trivial

@[simp] theorem exec_iff {f : σ → σ} {v : σ → α} :
    (Prog.exec op f v).Proceeds x Q ↔ ∀ s, Q (v s) := .rfl

@[simp] theorem get_iff {v : σ → α} : (Prog.get op v).Proceeds x Q ↔ ∀ s, Q (v s) := .rfl

@[simp] theorem modify_iff {f : σ → σ} {Q : Unit → Prop} :
    (Prog.modify op f).Proceeds x Q ↔ ∀ _ : σ, Q () := .rfl

@[simp] theorem poll_iff {ready giveUp : σ → Bool} {Q : Bool → Prop} :
    (Prog.poll op ready giveUp).Proceeds x Q ↔
      (x op ready ∨ ∀ s, giveUp s = true) ∧ ∀ b, Q b := .rfl

@[simp] theorem bind_iff {p : Prog σ π α} {g : α → Prog σ π β} {Q : β → Prop} :
    (p >>= g).Proceeds x Q ↔ p.Proceeds x (fun a => (g a).Proceeds x Q) := by
  change (p.bind g).Proceeds x Q ↔ _
  induction p with
  | ret a => exact .rfl
  | atom op f k ih => exact forall_congr' ih
  | await op ready giveUp k ih => exact and_congr_right fun _ => forall_congr' ih
  | fault op => exact .rfl

@[simp] theorem ite_iff {c : Prop} [Decidable c] {p q : Prog σ π α} :
    (if c then p else q).Proceeds x Q ↔ (c → p.Proceeds x Q) ∧ (¬ c → q.Proceeds x Q) := by
  split <;> simp_all

/-- A critical section is one access. -/
theorem critical {p : Prog σ π α} (hQ : ∀ a, Q a) : (Prog.critical op p).Proceeds x Q := by
  intro s
  change ((p.atOnce s).elim (Prog.fault op) fun r => .ret r.1).Proceeds x Q
  cases p.atOnce s with
  | none => exact trivial
  | some r => exact hQ r.1

theorem step {p p' : Prog σ π α} {s s' : σ} (h : p.Proceeds x Q)
    (hst : p.step s = some (p', s')) : p'.Proceeds x Q := by
  cases p with
  | ret a => cases hst
  | atom op f k => cases hst; exact h s
  | await op ready giveUp k =>
      simp only [Prog.step] at hst
      split at hst
      · cases hst; exact h.2 true
      · split at hst <;> cases hst
        exact h.2 false
  | fault op => cases hst

theorem steps {rely : σ → σ → Prop} {assume : π → σ → Prop} {c c' : Prog σ π α × σ}
    (h : c.1.Proceeds x Q) (hst : Prog.Steps rely assume c c') : c'.1.Proceeds x Q := by
  induction hst with
  | refl => exact h
  | tail _ hs ih =>
      cases hs with
      | env _ => exact ih
      | task _ hp => exact ih.step hp

/-- Left alone, the program comes to its end, or to a loop in which it waits. -/
theorem ends {p : Prog σ π α} (h : p.Proceeds x Q) (s : σ) : ∃ p' s',
    Prog.Steps (fun _ _ => False) (fun _ _ => True) (p, s) (p', s') ∧
      ((∃ a, p' = .ret a) ∨ (∃ op, p' = .fault op) ∨
        ∃ op ready, p'.next = some op ∧ x op ready ∧ ready s' = false) := by
  induction p generalizing s with
  | ret a => exact ⟨_, s, .refl, .inl ⟨a, rfl⟩⟩
  | atom op f k ih =>
      obtain ⟨p', s', hsteps, hend⟩ := ih s (h s) (f s)
      exact ⟨p', s', .head (.task (fun _ _ => trivial) rfl) hsteps, hend⟩
  | await op ready giveUp k ih =>
      by_cases hleave : ready s = true ∨ giveUp s = true
      · have hstep : (Prog.await op ready giveUp k).step s = some (k (ready s), s) := by
          cases hr : ready s <;> simp_all [Prog.step]
        obtain ⟨p', s', hsteps, hend⟩ := ih (ready s) (h.2 _) s
        exact ⟨p', s', .head (.task (fun _ _ => trivial) hstep) hsteps, hend⟩
      · obtain ⟨hready, hgive⟩ := not_or.mp hleave
        have hx : x op ready := h.1.resolve_right fun hall => hgive (hall s)
        exact ⟨_, s, .refl, .inr (.inr ⟨op, ready, rfl, hx, Bool.eq_false_iff.mpr hready⟩)⟩
  | fault op => exact ⟨_, s, .refl, .inr (.inl ⟨op, rfl⟩)⟩

end Prog.Proceeds

/-- What happens without interference can happen with it. -/
theorem Prog.Steps.interleaved {rely : σ → σ → Prop} {assume : π → σ → Prop}
    {c c' : Prog σ π α × σ} (h : Prog.Steps (fun _ _ => False) assume c c') :
    Prog.Steps rely assume c c' := by
  refine Relation.ReflTransGen.mono (fun _ _ hst => ?_) _ _ h
  cases hst with
  | env hr => exact hr.elim
  | task ha hp => exact .task ha hp

end DfuSeBootloader.Program
