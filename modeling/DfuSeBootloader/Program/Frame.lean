import DfuSeBootloader.Program.Triple

/-!
# Frames

A program keeps a view of the state when no access of it changes the view. `ok` bounds the
operations that the program performs, and `bad` those that it finds without a defined behaviour.
-/

namespace DfuSeBootloader.Program

variable {σ π α β ε τ : Type}

def Prog.Keeps (ok bad : π → Prop) (v : σ → τ) : Prog σ π α → Prop
  | .ret _ => True
  | .atom op f k => ok op ∧ (∀ s, v (f s) = v s) ∧ ∀ s, (k s).Keeps ok bad v
  | .await op _ _ k => ok op ∧ ∀ b, (k b).Keeps ok bad v
  | .fault op => bad op

namespace Prog.Keeps

variable {ok bad : π → Prop} {v : σ → τ} {op : π}

@[simp] theorem pure (a : α) : (Pure.pure a : Prog σ π α).Keeps ok bad v := trivial

@[simp] theorem fault_iff : (Prog.fault op : Prog σ π α).Keeps ok bad v ↔ bad op := .rfl

@[simp] theorem exec_iff {f : σ → σ} {g : σ → α} :
    (Prog.exec op f g).Keeps ok bad v ↔ ok op ∧ ∀ s, v (f s) = v s :=
  ⟨fun h => ⟨h.1, h.2.1⟩, fun h => ⟨h.1, h.2, fun _ => trivial⟩⟩

@[simp] theorem get_iff {g : σ → α} : (Prog.get op g).Keeps ok bad v ↔ ok op := by
  simp [Prog.get]

@[simp] theorem modify_iff {f : σ → σ} :
    (Prog.modify op f).Keeps ok bad v ↔ ok op ∧ ∀ s, v (f s) = v s := exec_iff

@[simp] theorem poll_iff {ready giveUp : σ → Bool} :
    (Prog.poll op ready giveUp).Keeps ok bad v ↔ ok op :=
  ⟨fun h => h.1, fun h => ⟨h, fun _ => trivial⟩⟩

@[simp] theorem exec_bind_iff {f : σ → σ} {u : σ → α} {g : α → Prog σ π β} :
    (Prog.exec op f u >>= g).Keeps ok bad v ↔
      ok op ∧ (∀ s, v (f s) = v s) ∧ ∀ s, (g (u s)).Keeps ok bad v := .rfl

@[simp] theorem get_bind_iff {u : σ → α} {g : α → Prog σ π β} :
    (Prog.get op u >>= g).Keeps ok bad v ↔ ok op ∧ ∀ s, (g (u s)).Keeps ok bad v := by
  simp [Prog.get]

@[simp] theorem modify_bind_iff {f : σ → σ} {g : Unit → Prog σ π β} :
    (Prog.modify op f >>= g).Keeps ok bad v ↔
      ok op ∧ (∀ s, v (f s) = v s) ∧ ∀ _ : σ, (g ()).Keeps ok bad v := .rfl

theorem bind {p : Prog σ π α} {g : α → Prog σ π β} (hp : p.Keeps ok bad v)
    (hg : ∀ a, (g a).Keeps ok bad v) : (p >>= g).Keeps ok bad v := by
  change (p.bind g).Keeps ok bad v
  induction p with
  | ret a => exact hg a
  | atom op f k ih => exact ⟨hp.1, hp.2.1, fun s => ih s (hp.2.2 s)⟩
  | await op ready giveUp k ih => exact ⟨hp.1, fun b => ih b (hp.2 b)⟩
  | fault op => exact hp

theorem ite {c : Prop} [Decidable c] {p q : Prog σ π α} (hp : c → p.Keeps ok bad v)
    (hq : ¬ c → q.Keeps ok bad v) : (if c then p else q).Keeps ok bad v := by
  split
  · exact hp ‹_›
  · exact hq ‹_›

theorem atOnce {p : Prog σ π α} (h : p.Keeps ok bad v) {s s' : σ} {a : α}
    (hp : p.atOnce s = some (a, s')) : v s' = v s := by
  induction p generalizing s with
  | ret b => cases hp; rfl
  | atom op f k ih => exact (ih s (h.2.2 s) hp).trans (h.2.1 s)
  | await op ready giveUp k => cases hp
  | fault op => cases hp

theorem critical {p : Prog σ π α} (h : p.Keeps ok bad v) (hop : ok op) (hbad : bad op) :
    (Prog.critical op p).Keeps ok bad v := by
  refine ⟨hop, fun s => ?_, fun s => ?_⟩
  · change v ((p.atOnce s).elim s Prod.snd) = v s
    cases hs : p.atOnce s with
    | none => rfl
    | some r => exact h.atOnce hs
  · change ((p.atOnce s).elim (Prog.fault op) fun r => .ret r.1).Keeps ok bad v
    cases p.atOnce s with
    | none => exact hbad
    | some r => exact trivial

/-- A run to the end keeps the view when the events do. -/
theorem eval {ev : ε → σ → σ} (hev : ∀ e s, v (ev e s) = v s) {p : Prog σ π α}
    (h : p.Keeps ok bad v) {w w' : List (List ε)} {s s' : σ} {a : α}
    (hp : eval ev p w s = .done a w' s') : v s' = v s := by
  have hevs : ∀ es s, v (applyEvents ev es s) = v s := by
    intro es s
    exact applyEvents_induction (I := fun t => v t = v s) (fun e _ t ht => (hev e t).trans ht) rfl
  induction p generalizing w s with
  | ret b => cases hp; rfl
  | atom op f k ih => exact (ih s (h.2.2 s) hp).trans (h.2.1 s)
  | await op ready giveUp k ih =>
      simp only [Program.eval] at hp
      split at hp
      · exact (ih true (h.2 true) hp).trans (hevs _ _)
      · split at hp
        · exact (ih false (h.2 false) hp).trans (hevs _ _)
        · cases hp
  | fault op => cases hp

/-- A property of the view that the interference preserves is an invariant of the program. -/
theorem triple {C : Contract σ π} {I : σ → Prop} (hv : ∀ s s', v s = v s' → I s → I s')
    (hI : ∀ op, ok op ∨ bad op → C.Stable op I) (ha : ∀ op s, ok op ∨ bad op → I s → C.assert op s)
    (hu : ∀ op, bad op → C.undefined op) {p : Prog σ π α} (h : p.Keeps ok bad v) :
    Triple C I p (fun _ => I) := by
  intro s hs
  induction p generalizing s with
  | ret a => exact hs
  | atom op f k ih =>
      intro t ht
      have hIt := (hI op (.inl h.1)).star hs ht
      exact ⟨ha op t (.inl h.1) hIt, fun _ => ih t (h.2.2 t) _ (hv _ _ (h.2.1 t).symm hIt)⟩
  | await op ready giveUp k ih =>
      intro t ht
      have hIt := (hI op (.inl h.1)).star hs ht
      exact ⟨ha op t (.inl h.1) hIt, fun _ => ⟨fun _ => ih true (h.2 true) t hIt,
        fun _ _ => ih false (h.2 false) t hIt⟩⟩
  | fault op =>
      intro t ht
      exact ⟨ha op t (.inr h) ((hI op (.inr h)).star hs ht), hu op h⟩

end Prog.Keeps

/-! ## Exceptions -/

/-- Only the operations in `x` may change the view. -/
def Prog.KeepsSave (x : π → Prop) (v : σ → τ) : Prog σ π α → Prop
  | .ret _ => True
  | .atom op f k => (¬ x op → ∀ s, v (f s) = v s) ∧ ∀ s, (k s).KeepsSave x v
  | .await _ _ _ k => ∀ b, (k b).KeepsSave x v
  | .fault _ => True

namespace Prog.KeepsSave

variable {x : π → Prop} {v : σ → τ}

theorem bind {p : Prog σ π α} {g : α → Prog σ π β} (hp : p.KeepsSave x v)
    (hg : ∀ a, (g a).KeepsSave x v) : (p >>= g).KeepsSave x v := by
  change (p.bind g).KeepsSave x v
  induction p with
  | ret a => exact hg a
  | atom op f k ih => exact ⟨hp.1, fun s => ih s (hp.2 s)⟩
  | await op ready giveUp k ih => exact fun b => ih b (hp b)
  | fault op => exact trivial

theorem step {p p' : Prog σ π α} {s s' : σ} (h : p.KeepsSave x v) (hst : p.step s = some (p', s')) :
    p'.KeepsSave x v ∧ ∀ op, p.next = some op → ¬ x op → v s' = v s := by
  cases p with
  | ret a => cases hst
  | atom op f k =>
      cases hst
      refine ⟨h.2 s, fun op' hop hx => ?_⟩
      cases hop
      exact h.1 hx s
  | await op ready giveUp k =>
      simp only [Prog.step] at hst
      split at hst
      · cases hst
        exact ⟨h true, fun _ _ _ => rfl⟩
      · split at hst
        · cases hst
          exact ⟨h false, fun _ _ _ => rfl⟩
        · cases hst
  | fault op => cases hst

/-- A property of the view that the interference preserves as well may be carried along a triple. -/
theorem frame {C : Contract σ π} {P R : σ → Prop} {Q : α → σ → Prop} {p : Prog σ π α}
    (hp : p.KeepsSave (fun _ => False) v) (hv : ∀ s s', v s = v s' → R s → R s')
    (hR : ∀ op, C.Stable op R) (h : Triple C P p Q) :
    Triple C (fun s => P s ∧ R s) p (fun a s => Q a s ∧ R s) := by
  rintro s ⟨hs, hRs⟩
  have hwp := h s hs
  clear h hs
  induction p generalizing s with
  | ret a => exact ⟨hwp, hRs⟩
  | atom op f k ih =>
      intro t ht
      obtain ⟨ha, hk⟩ := hwp t ht
      have hRt := (hR op).star hRs ht
      exact ⟨ha, fun has => ih t (hp.2 t) (f t) (hv _ _ (hp.1 id t).symm hRt) (hk has)⟩
  | await op ready giveUp k ih =>
      intro t ht
      obtain ⟨ha, hk⟩ := hwp t ht
      have hRt := (hR op).star hRs ht
      exact ⟨ha, fun has => ⟨fun hr => ih true (hp true) t hRt ((hk has).1 hr),
        fun hr hg => ih false (hp false) t hRt ((hk has).2 hr hg)⟩⟩
  | fault op => exact hwp

end Prog.KeepsSave

theorem Prog.Keeps.save {ok bad x : π → Prop} {v : σ → τ} {p : Prog σ π α} (h : p.Keeps ok bad v) :
    p.KeepsSave x v := by
  induction p with
  | ret a => exact trivial
  | atom op f k ih => exact ⟨fun _ => h.2.1, fun s => ih s (h.2.2 s)⟩
  | await op ready giveUp k ih => exact fun b => ih b (h.2 b)
  | fault op => exact trivial

end DfuSeBootloader.Program
