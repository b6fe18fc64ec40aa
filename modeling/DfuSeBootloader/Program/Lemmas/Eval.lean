import DfuSeBootloader.Program.Basic

/-!
# Running sequences of programs

`eval` distributes over `bind`, and every run to the end is an interleaved execution.
-/

namespace DfuSeBootloader.Program

variable {σ π α β ε : Type}

/-! ## Results -/

namespace Result

@[simp] theorem bind_done (a : α) (w : List (List ε)) (s : σ)
    (g : α → List (List ε) → σ → Result σ π ε β) : (Result.done a w s).bind g = g a w s := rfl

@[simp] theorem bind_fault (op : π) (g : α → List (List ε) → σ → Result σ π ε β) :
    (Result.fault op).bind g = .fault op := rfl

@[simp] theorem bind_hang (op : π) (g : α → List (List ε) → σ → Result σ π ε β) :
    (Result.hang op).bind g = .hang op := rfl

theorem bind_eq_done {r : Result σ π ε α} {g : α → List (List ε) → σ → Result σ π ε β} {b w s} :
    r.bind g = .done b w s ↔ ∃ a w' s', r = .done a w' s' ∧ g a w' s' = .done b w s := by
  cases r with
  | done a w' s' => exact ⟨fun h => ⟨a, w', s', rfl, h⟩, fun ⟨_, _, _, h, hg⟩ => by cases h; exact hg⟩
  | fault op => simp
  | hang op => simp

end Result

/-! ## Events -/

@[simp] theorem applyEvents_cons (ev : ε → σ → σ) (e : ε) (es : List ε) (s : σ) :
    applyEvents ev (e :: es) s = applyEvents ev es (ev e s) := rfl

/-- What every event preserves, a sequence of events preserves. -/
theorem applyEvents_induction {ev : ε → σ → σ} {I : σ → Prop} {es : List ε}
    (h : ∀ e ∈ es, ∀ s, I s → I (ev e s)) : ∀ {s}, I s → I (applyEvents ev es s) := by
  induction es with
  | nil => exact id
  | cons e es ih =>
      intro s hs
      exact ih (fun e' he' => h e' (List.mem_cons_of_mem e he')) (h e List.mem_cons_self s hs)

/-! ## `eval` and the constructors -/

section Eval

variable (ev : ε → σ → σ)

@[simp] theorem eval_pure (a : α) (w : List (List ε)) (s : σ) :
    eval ev (pure a : Prog σ π α) w s = .done a w s := rfl

@[simp] theorem eval_fault (op : π) (w : List (List ε)) (s : σ) :
    eval ev (.fault op : Prog σ π α) w s = .fault op := rfl

@[simp] theorem eval_exec (op : π) (f : σ → σ) (v : σ → α) (w : List (List ε)) (s : σ) :
    eval ev (Prog.exec op f v) w s = .done (v s) w (f s) := rfl

@[simp] theorem eval_get (op : π) (v : σ → α) (w : List (List ε)) (s : σ) :
    eval ev (Prog.get op v) w s = .done (v s) w s := rfl

@[simp] theorem eval_modify (op : π) (f : σ → σ) (w : List (List ε)) (s : σ) :
    eval ev (Prog.modify op f) w s = .done () w (f s) := rfl

theorem eval_poll (op : π) (ready giveUp : σ → Bool) (w : List (List ε)) (s : σ) :
    eval ev (Prog.poll op ready giveUp) w s =
      if ready (applyEvents ev (w.headD []) s) then
        .done true w.tail (applyEvents ev (w.headD []) s)
      else if giveUp (applyEvents ev (w.headD []) s) then
        .done false w.tail (applyEvents ev (w.headD []) s)
      else .hang op := rfl

theorem eval_critical {op : π} {p : Prog σ π α} {s s' : σ} {a : α} (h : p.atOnce s = some (a, s'))
    (w : List (List ε)) : eval ev (Prog.critical op p) w s = .done a w s' := by
  rw [Prog.critical, eval, h]
  rfl

@[simp] theorem eval_bind (p : Prog σ π α) (g : α → Prog σ π β) (w : List (List ε)) (s : σ) :
    eval ev (p >>= g) w s = (eval ev p w s).bind (fun a w s => eval ev (g a) w s) := by
  change eval ev (p.bind g) w s = _
  induction p generalizing w s with
  | ret a => rfl
  | atom op f k ih => exact ih s w (f s)
  | await op ready giveUp k ih =>
      simp only [Prog.bind, eval]
      split
      · exact ih true _ _
      · split
        · exact ih false _ _
        · rfl
  | fault op => rfl

end Eval

/-! ## A run to the end is an interleaved execution -/

section Steps

variable {rely : σ → σ → Prop} {ev : ε → σ → σ}

theorem Prog.steps_env {assume : π → σ → Prop} {p : Prog σ π α} {s s' : σ}
    (h : Relation.ReflTransGen rely s s') : Prog.Steps rely assume (p, s) (p, s') := by
  induction h with
  | refl => exact .refl
  | tail _ hst ih => exact ih.tail (.env hst)

theorem applyEvents_rely (es : List ε) (hev : ∀ e ∈ es, ∀ s, Relation.ReflTransGen rely s (ev e s))
    (s : σ) : Relation.ReflTransGen rely s (applyEvents ev es s) := by
  induction es generalizing s with
  | nil => exact .refl
  | cons e es ih =>
      exact (hev e List.mem_cons_self s).trans
        (ih (fun e' he' => hev e' (List.mem_cons_of_mem e he')) (ev e s))

/-- The execution reaches what the run ends with: the returned value, or the operation that has no
defined behaviour. -/
def Follows (rely : σ → σ → Prop) (p : Prog σ π α) (s : σ) (r : Result σ π ε α) : Prop :=
  (∀ a w' s', r = .done a w' s' → Prog.Steps rely (fun _ _ => True) (p, s) (.ret a, s')) ∧
  (∀ op, r = .fault op → ∃ s', Prog.Steps rely (fun _ _ => True) (p, s) (.fault op, s'))

theorem Follows.head {p p' : Prog σ π α} {s s' : σ} {r : Result σ π ε α}
    (h : Prog.Steps rely (fun _ _ => True) (p, s) (p', s')) (hr : Follows rely p' s' r) :
    Follows rely p s r := by
  refine ⟨fun a w t e => h.trans (hr.1 a w t e), fun op e => ?_⟩
  obtain ⟨t, ht⟩ := hr.2 op e
  exact ⟨t, h.trans ht⟩

/-- A run to the end follows an interleaved execution whose interference allows its events. -/
theorem eval_follows (p : Prog σ π α) (w : List (List ε))
    (hev : ∀ es ∈ w, ∀ e ∈ es, ∀ s, Relation.ReflTransGen rely s (ev e s)) (s : σ) :
    Follows rely p s (eval ev p w s) := by
  induction p generalizing w s with
  | ret a =>
      refine ⟨fun _ _ _ h => ?_, fun _ h => nomatch h⟩
      cases h
      exact .refl
  | atom op f k ih =>
      exact .head (.single (.task (fun _ _ => trivial) rfl)) (ih s w hev (f s))
  | await op ready giveUp k ih =>
      have hhead : ∀ e ∈ w.headD [], ∀ s, Relation.ReflTransGen rely s (ev e s) := by
        cases w with
        | nil => exact fun _ he => nomatch he
        | cons es w => exact hev es List.mem_cons_self
      have htail : ∀ es ∈ w.tail, ∀ e ∈ es, ∀ s, Relation.ReflTransGen rely s (ev e s) :=
        fun es hes => hev es (List.mem_of_mem_tail hes)
      have henv : Prog.Steps rely (fun _ _ => True) (Prog.await op ready giveUp k, s)
          (Prog.await op ready giveUp k, applyEvents ev (w.headD []) s) :=
        Prog.steps_env (applyEvents_rely _ hhead s)
      simp only [eval]
      generalize applyEvents ev (w.headD []) s = s₁ at henv ⊢
      refine .head henv ?_
      split
      · rename_i hr
        exact .head (.single (.task (fun _ _ => trivial) (by simp [Prog.step, hr]))) (ih true _ htail s₁)
      · rename_i hr
        split
        · rename_i hg
          exact .head (.single (.task (fun _ _ => trivial) (by simp [Prog.step, hr, hg])))
            (ih false _ htail s₁)
        · exact ⟨fun _ _ _ h => (nomatch h), fun _ h => (nomatch h)⟩
  | fault op =>
      refine ⟨fun _ _ _ h => (nomatch h), fun _ h => ?_⟩
      cases h
      exact ⟨s, .refl⟩

end Steps

end DfuSeBootloader.Program
