import Mathlib.Data.List.Induction
import Mathlib.Data.List.Nodup
import Mathlib.Logic.Function.Basic

/-!
# Doubly linked lists

The nodes of a heap point to their neighbours: `next` and `prev` give the pointers of every node.
A segment is a list of nodes that are linked in this order. Putting a node between two neighbours
and taking one out are each four stores, and no node outside the segment notices them.
-/

namespace DfuSeBootloader.Linked
open Function (update)

variable {κ : Type}

/-- The nodes of `l` are linked in this order, between the nodes that `p` and `n` point to. -/
def Seg (next prev : κ → Option κ) : Option κ → List κ → Option κ → Prop
  | _, [], _ => True
  | p, x :: l, n => prev x = p ∧ next x = l.head?.or n ∧ Seg next prev (some x) l n

variable {next prev next' prev' : κ → Option κ} {p n q : Option κ} {x y : κ} {a b l : List κ}

@[simp] theorem seg_nil : Seg next prev p [] n := trivial

theorem seg_cons : Seg next prev p (x :: l) n ↔
    prev x = p ∧ next x = l.head?.or n ∧ Seg next prev (some x) l n := Iff.rfl

/-- A segment depends on the pointers of its own nodes only. -/
theorem seg_congr (hn : ∀ x ∈ l, next' x = next x) (hp : ∀ x ∈ l, prev' x = prev x) :
    Seg next' prev' p l n ↔ Seg next prev p l n := by
  induction l generalizing p with
  | nil => simp
  | cons x l ih =>
      simp only [List.forall_mem_cons] at hn hp
      rw [seg_cons, seg_cons, hn.1, hp.1, ih hn.2 hp.2]

theorem seg_append : Seg next prev p (a ++ b) n ↔
    Seg next prev p a (b.head?.or n) ∧ Seg next prev (a.getLast?.or p) b n := by
  induction a generalizing p with
  | nil => simp
  | cons x a ih =>
      have hhead : (a ++ b).head?.or n = a.head?.or (b.head?.or n) := by
        cases a <;> simp
      have hlast : (x :: a).getLast?.or p = a.getLast?.or (some x) := by
        rw [List.getLast?_cons]
        cases a.getLast? <;> rfl
      rw [List.cons_append, seg_cons, seg_cons, ih, hhead, hlast]
      tauto

section Pointers

/-- The pointers of a node of a list that stands alone. -/
theorem Seg.prev_eq (h : Seg next prev none (a ++ x :: b) none) : prev x = a.getLast? := by
  simpa using (seg_append.mp h).2.1

theorem Seg.next_eq (h : Seg next prev none (a ++ x :: b) none) : next x = b.head? := by
  simpa using (seg_append.mp h).2.2.1

end Pointers

variable [DecidableEq κ]

/-! ## Stores outside a segment -/

theorem seg_update_next (h : x ∉ l) (v : Option κ) :
    Seg (update next x v) prev p l n ↔ Seg next prev p l n :=
  seg_congr (fun _ hy => Function.update_of_ne (ne_of_mem_of_not_mem hy h) v next) fun _ _ => rfl

theorem seg_update_prev (h : x ∉ l) (v : Option κ) :
    Seg next (update prev x v) p l n ↔ Seg next prev p l n :=
  seg_congr (fun _ _ => rfl) fun _ hy => Function.update_of_ne (ne_of_mem_of_not_mem hy h) v prev

/-- A store through a pointer that may be null. -/
def point (f : κ → Option κ) (target v : Option κ) : κ → Option κ :=
  target.elim f (fun x => update f x v)

@[simp] theorem point_none (f : κ → Option κ) (v : Option κ) : point f none v = f := rfl

@[simp] theorem point_some (f : κ → Option κ) (x : κ) (v : Option κ) :
    point f (some x) v = update f x v := rfl

theorem seg_point_next {t v : Option κ} (h : ∀ x ∈ t, x ∉ l) :
    Seg (point next t v) prev p l n ↔ Seg next prev p l n := by
  cases t with
  | none => rfl
  | some x => exact seg_update_next (h x rfl) v

theorem seg_point_prev {t v : Option κ} (h : ∀ x ∈ t, x ∉ l) :
    Seg next (point prev t v) p l n ↔ Seg next prev p l n := by
  cases t with
  | none => rfl
  | some x => exact seg_update_prev (h x rfl) v

/-! ## Stores at the ends -/

/-- The last node of a segment is pointed to another successor. -/
theorem Seg.point_last (h : Seg next prev p a n) (hd : a.Nodup) (v : Option κ) :
    Seg (point next a.getLast? v) prev p a v := by
  cases a using List.reverseRecOn with
  | nil => trivial
  | append_singleton a x =>
      have hx : x ∉ a := fun hx => (List.nodup_append.mp hd).2.2 x hx x (by simp) rfl
      obtain ⟨h₁, h₂⟩ := seg_append.mp h
      rw [List.getLast?_concat, point_some, seg_append]
      refine ⟨(seg_update_next hx v).mpr h₁, h₂.1, ?_, trivial⟩
      simp

/-- The first node of a segment is pointed to another predecessor. -/
theorem Seg.point_first (h : Seg next prev p b n) (hd : b.Nodup) (v : Option κ) :
    Seg next (point prev b.head? v) v b n := by
  cases b with
  | nil => trivial
  | cons x b =>
      have hx : x ∉ b := (List.nodup_cons.mp hd).1
      rw [List.head?_cons, point_some]
      exact ⟨by simp, h.2.1, (seg_update_prev hx v).mpr h.2.2⟩

/-! ## Insertion and removal -/

/-- A node is put between two neighbours. -/
theorem Seg.insert (h : Seg next prev none (a ++ b) none) (hd : (a ++ x :: b).Nodup) :
    Seg (update (point next a.getLast? (some x)) x b.head?)
      (update (point prev b.head? (some x)) x a.getLast?) none (a ++ x :: b) none := by
  obtain ⟨ha, hxb, hdis⟩ := List.nodup_append.mp hd
  obtain ⟨hx, hb⟩ := List.nodup_cons.mp hxb
  obtain ⟨h₁, h₂⟩ := seg_append.mp h
  have hxa : x ∉ a := fun hm => hdis x hm x (by simp) rfl
  have hba {y : κ} (hy : y ∈ b.head?) : y ∉ a := fun hm =>
    hdis y hm y (List.mem_cons_of_mem x (List.mem_of_head? hy)) rfl
  have hab {y : κ} (hy : y ∈ a.getLast?) : y ∉ b := fun hm =>
    hdis y (List.mem_of_getLast? hy) y (List.mem_cons_of_mem x hm) rfl
  rw [seg_append]
  refine ⟨?_, by simp, by simp, ?_⟩
  · rw [seg_update_next hxa, seg_update_prev hxa, seg_point_prev fun _ => hba]
    exact h₁.point_last ha (some x)
  · rw [seg_update_next hx, seg_update_prev hx, seg_point_next fun _ => hab]
    exact h₂.point_first hb (some x)

/-- A node is taken out. -/
theorem Seg.remove (h : Seg next prev none (a ++ x :: b) none) (hd : (a ++ x :: b).Nodup) :
    Seg (update (point next a.getLast? b.head?) x none)
      (update (point prev b.head? a.getLast?) x none) none (a ++ b) none := by
  obtain ⟨ha, hxb, hdis⟩ := List.nodup_append.mp hd
  obtain ⟨hx, hb⟩ := List.nodup_cons.mp hxb
  obtain ⟨h₁, -, -, h₂⟩ := seg_append.mp h
  have hxa : x ∉ a := fun hm => hdis x hm x (by simp) rfl
  have hba {y : κ} (hy : y ∈ b.head?) : y ∉ a := fun hm =>
    hdis y hm y (List.mem_cons_of_mem x (List.mem_of_head? hy)) rfl
  have hab {y : κ} (hy : y ∈ a.getLast?) : y ∉ b := fun hm =>
    hdis y (List.mem_of_getLast? hy) y (List.mem_cons_of_mem x hm) rfl
  rw [seg_append, Option.or_none, Option.or_none]
  constructor
  · rw [seg_update_next hxa, seg_update_prev hxa, seg_point_prev fun _ => hba]
    exact h₁.point_last ha _
  · rw [seg_update_next hx, seg_update_prev hx, seg_point_next fun _ => hab]
    exact h₂.point_first hb _

theorem seg_stores {s t u v : Option κ} (hx : x ∉ l) (hs : ∀ y ∈ s, y ∉ l) (ht : ∀ y ∈ t, y ∉ l) :
    Seg (update (point next s u) x v) (update (point prev t q) x n) none l none ↔
      Seg next prev none l none := by
  rw [seg_update_next hx, seg_update_prev hx, seg_point_next hs, seg_point_prev ht]

/-! ## Lists with a header -/

structure Header (κ : Type) where
  head : Option κ
  tail : Option κ
  count : Nat

/-- The header of a list points to its ends and counts its nodes. -/
structure Holds (next prev : κ → Option κ) (hd : Header κ) (l : List κ) : Prop where
  seg : Seg next prev none l none
  head : hd.head = l.head?
  tail : hd.tail = l.getLast?
  count : hd.count = l.length
  nodup : l.Nodup

namespace Holds

variable {hd : Header κ}

omit [DecidableEq κ] in
theorem nil : Holds next prev ⟨none, none, 0⟩ [] := ⟨trivial, rfl, rfl, rfl, .nil⟩

theorem insert (h : Holds next prev hd (a ++ b)) (hx : x ∉ a ++ b) :
    Holds (update (point next a.getLast? (some x)) x b.head?)
      (update (point prev b.head? (some x)) x a.getLast?)
      ⟨a.head?.or (some x), b.getLast?.or (some x), hd.count + 1⟩ (a ++ x :: b) := by
  have hd : (a ++ x :: b).Nodup := List.nodup_middle.mpr (List.nodup_cons.mpr ⟨hx, h.nodup⟩)
  refine ⟨h.seg.insert hd, ?_, ?_, ?_, hd⟩
  · cases a <;> simp
  · rw [List.getLast?_append, List.getLast?_cons]
    cases b.getLast? <;> rfl
  · simp [h.count, Nat.add_assoc]

theorem remove (h : Holds next prev hd (a ++ x :: b)) :
    Holds (update (point next a.getLast? b.head?) x none)
      (update (point prev b.head? a.getLast?) x none)
      ⟨a.head?.or b.head?, b.getLast?.or a.getLast?, hd.count - 1⟩ (a ++ b) := by
  refine ⟨h.seg.remove h.nodup, ?_, ?_, ?_, (List.nodup_cons.mp (List.nodup_middle.mp h.nodup)).2⟩
  · cases a <;> simp
  · rw [List.getLast?_append]
  · simp [h.count]

/-- A list without any of the three nodes does not notice the stores. -/
theorem stores {s t u v : Option κ} (h : Holds next prev hd l) (hx : x ∉ l)
    (hs : ∀ y ∈ s, y ∉ l) (ht : ∀ y ∈ t, y ∉ l) :
    Holds (update (point next s u) x v) (update (point prev t q) x n) hd l :=
  { h with seg := (seg_stores hx hs ht).mpr h.seg }

end Holds

/-! ## Reading a list -/

/-- The first `n` nodes from `p` on. -/
def collect (next : κ → Option κ) : (n : Nat) → (p : Option κ) → List κ
  | 0, _ => []
  | _, none => []
  | n + 1, some x => x :: collect next n (next x)

omit [DecidableEq κ] in
theorem Seg.collect_eq (h : Seg next prev p l none) : collect next l.length l.head? = l := by
  induction l generalizing p with
  | nil => rfl
  | cons x l ih =>
      rw [List.length_cons, List.head?_cons, collect, h.2.1, Option.or_none, ih h.2.2]

omit [DecidableEq κ] in
theorem Holds.collect_eq {hd : Header κ} (h : Holds next prev hd l) :
    collect next hd.count hd.head = l := by
  rw [h.count, h.head, h.seg.collect_eq]

/-! ## Several lists over the same pointers -/

/-- No node is in two of the lists. -/
structure Lists {ι : Type} (next prev : κ → Option κ) (hd : ι → Header κ) (l : ι → List κ) :
    Prop where
  holds : ∀ i, Holds next prev (hd i) (l i)
  disjoint : ∀ {i j x}, x ∈ l i → x ∈ l j → i = j

namespace Lists

variable {ι : Type} {hd : ι → Header κ} {l : ι → List κ} {i j : ι}

section Ends

variable {hd : ι → Header κ} {l : ι → List κ}

omit [DecidableEq κ] in
theorem nil (hhd : ∀ i, hd i = ⟨none, none, 0⟩) : Lists next prev hd fun _ => [] :=
  ⟨fun i => hhd i ▸ .nil, fun hx => absurd hx List.not_mem_nil⟩

omit [DecidableEq κ] in
theorem prev_eq (h : Lists next prev hd l) (hl : l i = a ++ x :: b) : prev x = a.getLast? :=
  (hl ▸ (h.holds i).seg).prev_eq

omit [DecidableEq κ] in
theorem next_eq (h : Lists next prev hd l) (hl : l i = a ++ x :: b) : next x = b.head? :=
  (hl ▸ (h.holds i).seg).next_eq

end Ends

/-- The pointers of a node that is in none of the lists. -/
theorem fresh (h : Lists next prev hd l) (hx : ∀ i, x ∉ l i) (v : Option κ) :
    Lists (update next x v) (update prev x p) hd l := by
  refine ⟨fun i => { h.holds i with seg := ?_ }, h.disjoint⟩
  rw [seg_update_next (hx i), seg_update_prev (hx i)]
  exact (h.holds i).seg

variable [DecidableEq ι]

omit [DecidableEq κ] in
theorem mem_insert (hl : l i = a ++ b) :
    y ∈ update l i (a ++ x :: b) j ↔ y ∈ l j ∨ y = x ∧ j = i := by
  by_cases hj : j = i
  · subst hj
    simp only [Function.update_self, hl, List.mem_append, List.mem_cons]
    tauto
  · rw [Function.update_of_ne hj]
    tauto

omit [DecidableEq κ] in
theorem mem_remove (h : Lists next prev hd l) (hl : l i = a ++ x :: b) :
    y ∈ update l i (a ++ b) j ↔ y ∈ l j ∧ y ≠ x := by
  have hd : x ∉ a ++ b := (List.nodup_cons.mp (List.nodup_middle.mp (hl ▸ (h.holds i).nodup))).1
  by_cases hj : j = i
  · subst hj
    simp only [Function.update_self, hl, List.mem_append, List.mem_cons] at hd ⊢
    constructor
    · rintro hy
      exact ⟨hy.imp_right .inr, fun e => hd (e ▸ hy)⟩
    · tauto
  · rw [Function.update_of_ne hj]
    exact ⟨fun hy => ⟨hy, fun e => hj (h.disjoint (e ▸ hy) (by simp [hl]))⟩, And.left⟩

theorem insert (h : Lists next prev hd l) (hl : l i = a ++ b) (hx : ∀ j, x ∉ l j) :
    Lists (update (point next a.getLast? (some x)) x b.head?)
      (update (point prev b.head? (some x)) x a.getLast?)
      (update hd i ⟨a.head?.or (some x), b.getLast?.or (some x), (hd i).count + 1⟩)
      (update l i (a ++ x :: b)) := by
  constructor
  · intro j
    by_cases hj : j = i
    · subst hj
      simp only [Function.update_self]
      exact (hl ▸ h.holds j).insert (hl ▸ hx j)
    · simp only [Function.update_of_ne hj]
      have hnot {y : κ} (hy : y ∈ l i) : y ∉ l j := fun hm => hj (h.disjoint hm hy)
      rw [hl] at hnot
      exact (h.holds j).stores (hx j)
        (fun y hy => hnot (List.mem_append_left b (List.mem_of_getLast? hy)))
        (fun y hy => hnot (List.mem_append_right a (List.mem_of_head? hy)))
  · intro j k y hj hk
    rcases (mem_insert hl).mp hj with hy | ⟨hy, rfl⟩ <;>
      rcases (mem_insert hl).mp hk with hz | ⟨hz, rfl⟩
    · exact h.disjoint hy hz
    · exact absurd (hz ▸ hy) (hx j)
    · exact absurd (hy ▸ hz) (hx k)
    · rfl

/-- To take a node out of its list is to take it out of all. -/
theorem erase_eq (h : Lists next prev hd l) (hl : l i = a ++ x :: b) :
    update l i (a ++ b) = fun j => (l j).erase x := by
  funext j
  by_cases hj : j = i
  · subst hj
    have hxa : x ∉ a := fun hm =>
      (List.nodup_append.mp (hl ▸ (h.holds j).nodup)).2.2 x hm x (by simp) rfl
    rw [Function.update_self, hl, List.erase_append_right _ hxa, List.erase_cons_head]
  · have hx : x ∉ l j := fun hm => hj (h.disjoint hm (by simp [hl]))
    rw [Function.update_of_ne hj, List.erase_of_not_mem hx]

theorem remove (h : Lists next prev hd l) (hl : l i = a ++ x :: b) :
    Lists (update (point next a.getLast? b.head?) x none)
      (update (point prev b.head? a.getLast?) x none)
      (update hd i ⟨a.head?.or b.head?, b.getLast?.or a.getLast?, (hd i).count - 1⟩)
      (update l i (a ++ b)) := by
  constructor
  · intro j
    by_cases hj : j = i
    · subst hj
      simp only [Function.update_self]
      exact (hl ▸ h.holds j).remove
    · simp only [Function.update_of_ne hj]
      have hnot {y : κ} (hy : y ∈ l i) : y ∉ l j := fun hm => hj (h.disjoint hm hy)
      rw [hl] at hnot
      exact (h.holds j).stores (hnot (by simp))
        (fun y hy => hnot (List.mem_append_left _ (List.mem_of_getLast? hy)))
        (fun y hy => hnot (List.mem_append_right a (List.mem_cons_of_mem x (List.mem_of_head? hy))))
  · exact fun hj hk => h.disjoint ((h.mem_remove hl).mp hj).1 ((h.mem_remove hl).mp hk).1

end Lists

/-! ## Sorted lists -/

omit [DecidableEq κ] in
/-- A node is put behind what is before it and in front of what is behind it. -/
theorem pairwise_insert {r : κ → κ → Prop} (htrans : ∀ {x y z}, r x y → r y z → r x z)
    (h : (a ++ b).Pairwise r) (ha : ∀ y ∈ a, r y x) (hb : ∀ y ∈ b.head?, r x y) :
    (a ++ x :: b).Pairwise r := by
  obtain ⟨h₁, h₂, h₃⟩ := List.pairwise_append.mp h
  have hxb : ∀ y ∈ b, r x y := by
    cases b with
    | nil => simp
    | cons z b =>
        have hz : r x z := hb z rfl
        exact List.forall_mem_cons.mpr
          ⟨hz, fun y hy => htrans hz ((List.pairwise_cons.mp h₂).1 y hy)⟩
  refine List.pairwise_append.mpr ⟨h₁, List.pairwise_cons.mpr ⟨hxb, h₂⟩, fun y hy => ?_⟩
  exact List.forall_mem_cons.mpr ⟨ha y hy, h₃ y hy⟩

end DfuSeBootloader.Linked
