import DfuSeBootloader.Program.Lemmas.Eval

/-!
# Rely–guarantee triples

A triple `Triple C P p Q` says that `p`, started where `P` holds, meets its contract `C` at every
access of every interleaved execution, and that `Q` holds where it returns. The interference may
depend on the place in the program: an assertion must survive what can happen in front of the next
operation.
-/

namespace DfuSeBootloader.Program

variable {σ π α β ε : Type}

/-- What a thread is verified against. -/
structure Contract (σ π : Type) where
  /-- One step of the interference, while the thread is about to perform an operation. -/
  rely : π → σ → σ → Prop
  /-- Only executions are considered in which this holds whenever an operation is performed. -/
  assume : π → σ → Prop
  /-- Must hold whenever the thread is about to perform an operation. -/
  assert : π → σ → Prop
  /-- Operations that may be left without a defined behaviour. -/
  undefined : π → Prop

variable {C : Contract σ π}

def Contract.Stable (C : Contract σ π) (op : π) (P : σ → Prop) : Prop :=
  ∀ s s', P s → C.rely op s s' → P s'

/-- The states from which `p` meets the contract and returns only where `Q` holds. -/
def wp (C : Contract σ π) (Q : α → σ → Prop) : Prog σ π α → σ → Prop
  | .ret a, s => Q a s
  | .atom op f k, s => ∀ s', Relation.ReflTransGen (C.rely op) s s' →
      C.assert op s' ∧ (C.assume op s' → wp C Q (k s') (f s'))
  | .await op ready giveUp k, s => ∀ s', Relation.ReflTransGen (C.rely op) s s' →
      C.assert op s' ∧ (C.assume op s' →
        (ready s' = true → wp C Q (k true) s') ∧
        (ready s' = false → giveUp s' = true → wp C Q (k false) s'))
  | .fault op, s => ∀ s', Relation.ReflTransGen (C.rely op) s s' →
      C.assert op s' ∧ C.undefined op

def Triple (C : Contract σ π) (P : σ → Prop) (p : Prog σ π α) (Q : α → σ → Prop) : Prop :=
  ∀ s, P s → wp C Q p s

/-! ## Soundness -/

theorem wp_env {p : Prog σ π α} {Q : α → σ → Prop} {s s' : σ} (h : wp C Q p s)
    (hr : ∀ op, p.next = some op → C.rely op s s') (hQ : ∀ a, p = .ret a → Q a s → Q a s') :
    wp C Q p s' := by
  cases p with
  | ret a => exact hQ a rfl h
  | atom op f k => exact fun t ht => h t (.head (hr op rfl) ht)
  | await op ready giveUp k => exact fun t ht => h t (.head (hr op rfl) ht)
  | fault op => exact fun t ht => h t (.head (hr op rfl) ht)

theorem wp_step {p p' : Prog σ π α} {Q : α → σ → Prop} {s s' : σ} (h : wp C Q p s)
    (ha : ∀ op, p.next = some op → C.assume op s) (hst : p.step s = some (p', s')) :
    wp C Q p' s' := by
  cases p with
  | ret a => cases hst
  | atom op f k =>
      simp only [Prog.step, Option.some.injEq, Prod.mk.injEq] at hst
      obtain ⟨rfl, rfl⟩ := hst
      exact (h s .refl).2 (ha op rfl)
  | await op ready giveUp k =>
      have hk := (h s .refl).2 (ha op rfl)
      simp only [Prog.step] at hst
      split at hst
      · rename_i hr
        cases hst
        exact hk.1 hr
      · rename_i hr
        split at hst
        · rename_i hg
          cases hst
          exact hk.2 (by simpa using hr) hg
        · cases hst
  | fault op => cases hst

/-- Every configuration that an execution reaches still meets the contract. -/
theorem wp_steps {rely : σ → σ → Prop} {Q : α → σ → Prop} {c c' : Prog σ π α × σ}
    (hrely : ∀ op s s', rely s s' → C.rely op s s') (hQ : ∀ a s s', Q a s → rely s s' → Q a s')
    (h : wp C Q c.1 c.2) (hst : Prog.Steps rely C.assume c c') : wp C Q c'.1 c'.2 := by
  induction hst with
  | refl => exact h
  | tail _ hs ih =>
      cases hs with
      | env hr => exact wp_env ih (fun op _ => hrely op _ _ hr) (fun a _ h => hQ a _ _ h hr)
      | task ha hp => exact wp_step ih ha hp

theorem wp_next {p : Prog σ π α} {Q : α → σ → Prop} {s : σ} {op : π} (h : wp C Q p s)
    (hn : p.next = some op) : C.assert op s := by
  cases p with
  | ret a => cases hn
  | atom op' f k => cases hn; exact (h s .refl).1
  | await op' ready giveUp k => cases hn; exact (h s .refl).1
  | fault op' => cases hn; exact (h s .refl).1

/-! ## Rules -/

theorem Contract.Stable.star {op : π} {P : σ → Prop} (hP : C.Stable op P) {s s' : σ} (h : P s)
    (hr : Relation.ReflTransGen (C.rely op) s s') : P s' := by
  induction hr with
  | refl => exact h
  | tail _ hst ih => exact hP _ _ ih hst

theorem wp_mono {p : Prog σ π α} {Q Q' : α → σ → Prop} (hQ : ∀ a s, Q a s → Q' a s) {s : σ}
    (h : wp C Q p s) : wp C Q' p s := by
  induction p generalizing s with
  | ret a => exact hQ a s h
  | atom op f k ih => exact fun t ht => ⟨(h t ht).1, fun ha => ih t ((h t ht).2 ha)⟩
  | await op ready giveUp k ih =>
      refine fun t ht => ⟨(h t ht).1, fun ha => ?_⟩
      obtain ⟨h₁, h₂⟩ := (h t ht).2 ha
      exact ⟨fun hr => ih true (h₁ hr), fun hr hg => ih false (h₂ hr hg)⟩
  | fault op => exact h

theorem wp_bind {p : Prog σ π α} {g : α → Prog σ π β} {Q : β → σ → Prop} {s : σ}
    (h : wp C (fun a => wp C Q (g a)) p s) : wp C Q (p >>= g) s := by
  change wp C Q (p.bind g) s
  induction p generalizing s with
  | ret a => exact h
  | atom op f k ih => exact fun t ht => ⟨(h t ht).1, fun ha => ih t ((h t ht).2 ha)⟩
  | await op ready giveUp k ih =>
      refine fun t ht => ⟨(h t ht).1, fun ha => ?_⟩
      obtain ⟨h₁, h₂⟩ := (h t ht).2 ha
      exact ⟨fun hr => ih true (h₁ hr), fun hr hg => ih false (h₂ hr hg)⟩
  | fault op => exact h

namespace Triple

variable {P : σ → Prop} {op : π}

theorem conseq {P' : σ → Prop} {p : Prog σ π α} {Q Q' : α → σ → Prop} (h : Triple C P p Q)
    (hP : ∀ s, P' s → P s) (hQ : ∀ a s, Q a s → Q' a s) : Triple C P' p Q' :=
  fun s hs => wp_mono hQ (h s (hP s hs))

theorem bind {p : Prog σ π α} {R : α → σ → Prop} {g : α → Prog σ π β} {Q : β → σ → Prop}
    (hp : Triple C P p R) (hg : ∀ a, Triple C (R a) (g a) Q) : Triple C P (p >>= g) Q :=
  fun s hs => wp_bind (wp_mono hg (hp s hs))

theorem pure {a : α} {Q : α → σ → Prop} (h : ∀ s, P s → Q a s) : Triple C P (Pure.pure a) Q := h

theorem exec {f : σ → σ} {v : σ → α} {Q : α → σ → Prop} (hP : C.Stable op P)
    (ha : ∀ s, P s → C.assert op s) (h : ∀ s, P s → C.assume op s → Q (v s) (f s)) :
    Triple C P (Prog.exec op f v) Q := by
  intro s hs t ht
  have hPt := hP.star hs ht
  exact ⟨ha t hPt, h t hPt⟩

theorem get {v : σ → α} {Q : α → σ → Prop} (hP : C.Stable op P) (ha : ∀ s, P s → C.assert op s)
    (h : ∀ s, P s → C.assume op s → Q (v s) s) : Triple C P (Prog.get op v) Q :=
  exec hP ha h

/-- A part of the precondition that does not depend on the state. -/
theorem assuming {A : Prop} {p : Prog σ π α} {Q : α → σ → Prop} (h : A → Triple C P p Q) :
    Triple C (fun s => P s ∧ A) p Q :=
  fun s hs => h hs.2 s hs.1

/-- A read whose value the precondition determines. -/
theorem get_bind {v : σ → α} {a : α} {g : α → Prog σ π β} {Q : β → σ → Prop} (hP : C.Stable op P)
    (ha : ∀ s, P s → C.assert op s) (hv : ∀ s, P s → v s = a) (h : Triple C P (g a) Q) :
    Triple C P (Prog.get op v >>= g) Q :=
  bind (R := fun b s => P s ∧ b = a) (get hP ha fun s hs _ => ⟨hs, hv s hs⟩)
    fun _ => assuming fun hb => hb ▸ h

theorem modify {f : σ → σ} {Q : Unit → σ → Prop} (hP : C.Stable op P)
    (ha : ∀ s, P s → C.assert op s) (h : ∀ s, P s → C.assume op s → Q () (f s)) :
    Triple C P (Prog.modify op f) Q :=
  exec hP ha h

theorem poll {ready giveUp : σ → Bool} {Q : Bool → σ → Prop} (hP : C.Stable op P)
    (ha : ∀ s, P s → C.assert op s) (ht : ∀ s, P s → ready s = true → Q true s)
    (hf : ∀ s, P s → ready s = false → giveUp s = true → Q false s) :
    Triple C P (Prog.poll op ready giveUp) Q := by
  intro s hs t hst
  have hPt := hP.star hs hst
  exact ⟨ha t hPt, fun _ => ⟨ht t hPt, hf t hPt⟩⟩

theorem or {P' : σ → Prop} {p : Prog σ π α} {Q : α → σ → Prop} (h : Triple C P p Q)
    (h' : Triple C P' p Q) : Triple C (fun s => P s ∨ P' s) p Q :=
  fun s hs => hs.elim (h s) (h' s)

theorem ite {c : Prop} [Decidable c] {p q : Prog σ π α} {Q : α → σ → Prop}
    (hp : c → Triple C P p Q) (hq : ¬ c → Triple C P q Q) : Triple C P (if c then p else q) Q := by
  split
  · exact hp ‹_›
  · exact hq ‹_›

/-- Two triples for one program, and a contract that asks for no more than theirs together. -/
theorem and {C₁ C₂ : Contract σ π} {P₁ P₂ : σ → Prop} {p : Prog σ π α} {Q₁ Q₂ : α → σ → Prop}
    (h₁ : Triple C₁ P₁ p Q₁) (h₂ : Triple C₂ P₂ p Q₂)
    (hrely : ∀ op s s', C.rely op s s' → C₁.rely op s s' ∧ C₂.rely op s s')
    (hassume : ∀ op s, C.assume op s → C₁.assume op s ∧ C₂.assume op s)
    (hassert : ∀ op s, C₁.assert op s → C₂.assert op s → C.assert op s)
    (hundefined : ∀ op, C₁.undefined op → C₂.undefined op → C.undefined op) :
    Triple C (fun s => P₁ s ∧ P₂ s) p (fun a s => Q₁ a s ∧ Q₂ a s) := by
  rintro s ⟨hs₁, hs₂⟩
  have hwp₁ := h₁ s hs₁
  have hwp₂ := h₂ s hs₂
  clear h₁ h₂ hs₁ hs₂
  have hstar {op : π} {s t : σ} (ht : Relation.ReflTransGen (C.rely op) s t) :
      Relation.ReflTransGen (C₁.rely op) s t ∧ Relation.ReflTransGen (C₂.rely op) s t :=
    ⟨Relation.ReflTransGen.mono (fun s s' h => (hrely op s s' h).1) _ _ ht,
      Relation.ReflTransGen.mono (fun s s' h => (hrely op s s' h).2) _ _ ht⟩
  induction p generalizing s with
  | ret a => exact ⟨hwp₁, hwp₂⟩
  | atom op f k ih =>
      intro t ht
      obtain ⟨ha₁, hk₁⟩ := hwp₁ t (hstar ht).1
      obtain ⟨ha₂, hk₂⟩ := hwp₂ t (hstar ht).2
      exact ⟨hassert op t ha₁ ha₂, fun has =>
        ih t (f t) (hk₁ (hassume op t has).1) (hk₂ (hassume op t has).2)⟩
  | await op ready giveUp k ih =>
      intro t ht
      obtain ⟨ha₁, hk₁⟩ := hwp₁ t (hstar ht).1
      obtain ⟨ha₂, hk₂⟩ := hwp₂ t (hstar ht).2
      refine ⟨hassert op t ha₁ ha₂, fun has => ?_⟩
      obtain ⟨htrue₁, hfalse₁⟩ := hk₁ (hassume op t has).1
      obtain ⟨htrue₂, hfalse₂⟩ := hk₂ (hassume op t has).2
      exact ⟨fun hr => ih true t (htrue₁ hr) (htrue₂ hr),
        fun hr hg => ih false t (hfalse₁ hr hg) (hfalse₂ hr hg)⟩
  | fault op =>
      intro t ht
      obtain ⟨ha₁, hu₁⟩ := hwp₁ t (hstar ht).1
      obtain ⟨ha₂, hu₂⟩ := hwp₂ t (hstar ht).2
      exact ⟨hassert op t ha₁ ha₂, hundefined op hu₁ hu₂⟩

/-- What holds where a verified program has returned. -/
theorem post_of_steps {rely : σ → σ → Prop} {p : Prog σ π α} {Q : α → σ → Prop}
    (h : Triple C P p Q) (hrely : ∀ op s s', rely s s' → C.rely op s s')
    (hQ : ∀ a s s', Q a s → rely s s' → Q a s') {s s' : σ} {a : α} (hs : P s)
    (hst : Prog.Steps rely C.assume (p, s) (.ret a, s')) : Q a s' :=
  wp_steps hrely hQ (h s hs) hst

/-- What holds where a verified program stands in front of an operation. -/
theorem assert_of_steps {rely : σ → σ → Prop} {p p' : Prog σ π α} {Q : α → σ → Prop}
    (h : Triple C P p Q) (hrely : ∀ op s s', rely s s' → C.rely op s s') {s s' : σ} {op : π}
    (hs : P s) (hst : Prog.Steps rely C.assume (p, s) (p', s')) (hn : p'.next = some op) :
    C.assert op s' := by
  have htrue : wp C (fun _ _ => True) p s := wp_mono (fun _ _ _ => trivial) (h s hs)
  exact wp_next (wp_steps hrely (fun _ _ _ _ _ => trivial) htrue hst) hn

/-- No execution of a verified program reaches an operation without a defined behaviour, save those
that the contract leaves undefined. -/
theorem undefined_of_steps {rely : σ → σ → Prop} {p : Prog σ π α} {Q : α → σ → Prop}
    (h : Triple C P p Q) (hrely : ∀ op s s', rely s s' → C.rely op s s') {s s' : σ} (hs : P s)
    (hst : Prog.Steps rely C.assume (p, s) (.fault op, s')) : C.undefined op := by
  have htrue : wp C (fun _ _ => True) p s := wp_mono (fun _ _ _ => trivial) (h s hs)
  have hend := wp_steps hrely (fun _ _ _ _ _ => trivial) htrue hst
  exact (hend s' .refl).2

end Triple

end DfuSeBootloader.Program
