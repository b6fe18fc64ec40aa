import Mathlib.Logic.Relation

/-!
# Programs of one thread over a shared state

A program is a tree of indivisible accesses to a state `σ`. Between two accesses the rest of the
system (interrupts, the other end of a wire) may change the state. `step` runs one access, `Step`
interleaves accesses with the interference, and `eval` runs a program to its end when the
interference happens only while the program waits.
-/

namespace DfuSeBootloader.Program

variable {σ π α β ε : Type}

/-- A program that returns an `α`. Every node but `ret` carries the name `op : π` of the operation
it performs. -/
inductive Prog (σ π α : Type) : Type
  | ret (a : α)
  /-- One access: the state `s` becomes `f s`, and the program goes on with `k s`. -/
  | atom (op : π) (f : σ → σ) (k : σ → Prog σ π α)
  /-- A polling loop. It leaves with `true` in a state where `ready` holds and may leave with
  `false` in a state where only `giveUp` holds. -/
  | await (op : π) (ready giveUp : σ → Bool) (k : Bool → Prog σ π α)
  /-- The operation has no defined behaviour here. -/
  | fault (op : π)

namespace Prog

def bind : Prog σ π α → (α → Prog σ π β) → Prog σ π β
  | .ret a, g => g a
  | .atom op f k, g => .atom op f (fun s => (k s).bind g)
  | .await op ready giveUp k, g => .await op ready giveUp (fun b => (k b).bind g)
  | .fault op, _ => .fault op

instance : Monad (Prog σ π) where
  pure := .ret
  bind := .bind

theorem bind_assoc {γ : Type} (p : Prog σ π α) (g : α → Prog σ π β) (h : β → Prog σ π γ) :
    (p >>= g) >>= h = p >>= fun a => g a >>= h := by
  change (p.bind g).bind h = p.bind (fun a => (g a).bind h)
  induction p with
  | ret a => rfl
  | atom op f k ih => exact congrArg _ (funext ih)
  | await op ready giveUp k ih => exact congrArg _ (funext ih)
  | fault op => rfl

/-- Change the state and return a value of the state before, in one access. -/
def exec (op : π) (f : σ → σ) (v : σ → α) : Prog σ π α := .atom op f (fun s => .ret (v s))

/-- Read a value of the state in one access. -/
def get (op : π) (v : σ → α) : Prog σ π α := exec op id v

/-- Change the state in one access. -/
def modify (op : π) (f : σ → σ) : Prog σ π Unit := exec op f (fun _ => ())

/-- Poll until `ready` holds or the loop gives up. -/
def poll (op : π) (ready giveUp : σ → Bool) : Prog σ π Bool := .await op ready giveUp .ret

/-- Run a program that neither waits nor faults, with nothing in between. -/
def atOnce : Prog σ π α → σ → Option (α × σ)
  | .ret a, s => some (a, s)
  | .atom _ f k, s => (k s).atOnce (f s)
  | .await _ _ _ _, _ => none
  | .fault _, _ => none

/-- A critical section: the whole program is one access. -/
def critical (op : π) (p : Prog σ π α) : Prog σ π α :=
  .atom op (fun s => (p.atOnce s).elim s Prod.snd)
    (fun s => (p.atOnce s).elim (.fault op) (fun r => .ret r.1))

/-- The operation that a program is about to perform. -/
def next : Prog σ π α → Option π
  | .ret _ => none
  | .atom op _ _ => some op
  | .await op _ _ _ => some op
  | .fault op => some op

theorem eq_ret_of_next {p : Prog σ π α} (h : p.next = none) : ∃ a, p = .ret a := by
  cases p with
  | ret a => exact ⟨a, rfl⟩
  | atom op f k => cases h
  | await op ready giveUp k => cases h
  | fault op => cases h

/-- One access of the thread, where it can make one. -/
def step : Prog σ π α → σ → Option (Prog σ π α × σ)
  | .ret _, _ => none
  | .atom _ f k, s => some (k s, f s)
  | .await _ ready giveUp k, s =>
      if ready s then some (k true, s)
      else if giveUp s then some (k false, s)
      else none
  | .fault _, _ => none

/-- Interleaved execution. `rely` is one step of the interference; the thread makes an access only
where `assume` holds of its operation and state. -/
inductive Step (rely : σ → σ → Prop) (assume : π → σ → Prop) :
    Prog σ π α × σ → Prog σ π α × σ → Prop
  | env {p s s'} : rely s s' → Step rely assume (p, s) (p, s')
  | task {p p' s s'} : (∀ op, p.next = some op → assume op s) → p.step s = some (p', s') →
      Step rely assume (p, s) (p', s')

abbrev Steps (rely : σ → σ → Prop) (assume : π → σ → Prop) :
    Prog σ π α × σ → Prog σ π α × σ → Prop :=
  Relation.ReflTransGen (Step rely assume)

end Prog

/-! ## Running a program to its end -/

/-- How a run ends: with a value, the events not used and the last state, at an operation without a
defined behaviour, or in a polling loop that never leaves. -/
inductive Result (σ π ε α : Type) : Type
  | done (a : α) (w : List (List ε)) (s : σ)
  | fault (op : π)
  | hang (op : π)

namespace Result

def bind : Result σ π ε α → (α → List (List ε) → σ → Result σ π ε β) → Result σ π ε β
  | .done a w s, g => g a w s
  | .fault op, _ => .fault op
  | .hang op, _ => .hang op

end Result

/-- The state after the events of `es`, in order. -/
def applyEvents (ev : ε → σ → σ) (es : List ε) (s : σ) : σ := es.foldl (fun s e => ev e s) s

/-- Run a program when events happen only inside its polling loops: the `n`-th loop that the run
enters sees the events of the `n`-th entry of `w`, and none when `w` is used up. -/
def eval (ev : ε → σ → σ) : Prog σ π α → List (List ε) → σ → Result σ π ε α
  | .ret a, w, s => .done a w s
  | .atom _ f k, w, s => eval ev (k s) w (f s)
  | .await op ready giveUp k, w, s =>
      if ready (applyEvents ev (w.headD []) s) then
        eval ev (k true) w.tail (applyEvents ev (w.headD []) s)
      else if giveUp (applyEvents ev (w.headD []) s) then
        eval ev (k false) w.tail (applyEvents ev (w.headD []) s)
      else .hang op
  | .fault op, _, _ => .fault op

end DfuSeBootloader.Program
