import Mathlib.Logic.Function.Basic
import Mathlib.Data.Set.Basic
import Mathlib.Data.List.GetD

/-!
# Memories as functions of the address

A memory maps every address to its content. `fill` overwrites a window, `slice` reads one, and
`Changed` collects the addresses at which two memories differ.
-/

namespace DfuSeBootloader.Memory

variable {β : Type*}

/-- `m` with the window `[a, a + n)` replaced by the first `n` cells of `f`. -/
def fill (m : Nat → β) (a n : Nat) (f : Nat → β) : Nat → β :=
  fun i => if a ≤ i ∧ i < a + n then f (i - a) else m i

/-- The cells of the window `[a, a + n)`, in order. -/
def slice (m : Nat → β) (a n : Nat) : List β := (List.range n).map (fun i => m (a + i))

/-- The list `l`, continued by `d`. -/
def padded (d : β) (l : List β) : Nat → β := fun i => l.getD i d

/-- The first `k` pieces of length `n` of a list. -/
def pieces (n k : Nat) (l : List β) : List (List β) :=
  (List.range k).map (fun i => (l.drop (n * i)).take n)

/-- A list cut into pieces of length `n`, the last one shorter where `n` does not divide the
length. -/
def chunks (n : Nat) (l : List β) : List (List β) := pieces n ((l.length + (n - 1)) / n) l

/-- A list cut into pieces of length `n` and one last piece that is always shorter, possibly
empty. -/
def shortEnded (n : Nat) (l : List β) : List (List β) := pieces n (l.length / n + 1) l

/-- `m` with the lists `ls` written one behind the other from `a` on, each continued by `d` to the
length `n`. -/
def fillBlocks (d : β) (n : Nat) (m : Nat → β) (a : Nat) : List (List β) → Nat → β
  | [] => m
  | l :: ls => fillBlocks d n (fill m a n (padded d l)) (a + n) ls

/-- The addresses at which two memories differ. -/
def Changed (m m' : Nat → β) : Set Nat := {a | m a ≠ m' a}

/-! ## `fill` -/

theorem fill_of_mem {m f : Nat → β} {a n i : Nat} (h : a ≤ i ∧ i < a + n) :
    fill m a n f i = f (i - a) := if_pos h

theorem fill_of_notMem {m f : Nat → β} {a n i : Nat} (h : ¬ (a ≤ i ∧ i < a + n)) :
    fill m a n f i = m i := if_neg h

@[simp] theorem fill_zero (m f : Nat → β) (a : Nat) : fill m a 0 f = m := by
  funext i
  exact fill_of_notMem (by omega)

theorem update_fill (m f : Nat → β) (a n : Nat) :
    Function.update (fill m a n f) (a + n) (f n) = fill m a (n + 1) f := by
  funext i
  by_cases h : i = a + n
  · subst h
    rw [Function.update_self, fill_of_mem (by omega), Nat.add_sub_cancel_left]
  · rw [Function.update_of_ne h]
    unfold fill
    split <;> split <;> first | rfl | omega

theorem fill_fill_add (m f : Nat → β) (a n k : Nat) :
    fill (fill m a n f) (a + n) k (fun i => f (n + i)) = fill m a (n + k) f := by
  funext i
  by_cases h : a + n ≤ i ∧ i < a + n + k
  · rw [fill_of_mem h, fill_of_mem (by omega)]
    congr 1; omega
  · rw [fill_of_notMem h]
    unfold fill
    split <;> split <;> first | rfl | omega

theorem fill_update_head (m f : Nat → β) (a n : Nat) :
    fill (Function.update m a (f 0)) (a + 1) n (fun i => f (i + 1)) = fill m a (n + 1) f := by
  have hhead := update_fill m f a 0
  have htail := fill_fill_add m f a 1 n
  rw [fill_zero, Nat.add_zero] at hhead
  simp only [Nat.add_comm 1] at htail
  rw [hhead, Nat.zero_add, htail]

theorem fill_congr {m f g : Nat → β} {a n : Nat} (h : ∀ i < n, f i = g i) :
    fill m a n f = fill m a n g := by
  funext i
  unfold fill
  split
  · exact h _ (by omega)
  · rfl

theorem changed_fill_subset (m f : Nat → β) (a n : Nat) :
    Changed m (fill m a n f) ⊆ {i | a ≤ i ∧ i < a + n} := by
  intro i hi
  by_contra h
  exact hi (fill_of_notMem h).symm

/-! ## `slice` -/

@[simp] theorem length_slice (m : Nat → β) (a n : Nat) : (slice m a n).length = n := by
  simp [slice]

theorem getElem_slice (m : Nat → β) (a n i : Nat) (h : i < (slice m a n).length) :
    (slice m a n)[i] = m (a + i) := by
  simp [slice]

theorem slice_add (m : Nat → β) (a n k : Nat) :
    slice m a (n + k) = slice m a n ++ slice m (a + n) k := by
  simp [slice, List.range_add, Nat.add_assoc]

theorem slice_congr {m m' : Nat → β} {a b n : Nat} (h : ∀ i < n, m (a + i) = m' (b + i)) :
    slice m a n = slice m' b n :=
  List.map_congr_left (fun i hi => h i (List.mem_range.mp hi))

theorem slice_fill (m f : Nat → β) (a n : Nat) : slice (fill m a n f) a n = slice f 0 n :=
  slice_congr (fun i hi => by rw [fill_of_mem (by omega)]; congr 1; omega)

/-! ## `padded` -/

theorem padded_of_lt {d : β} {l : List β} {i : Nat} (h : i < l.length) : padded d l i = l[i] :=
  List.getD_eq_getElem l d h

theorem padded_of_le {d : β} {l : List β} {i : Nat} (h : l.length ≤ i) : padded d l i = d :=
  List.getD_eq_default l d h

theorem padded_append_left {d : β} {l l' : List β} {i : Nat} (h : i < l.length) :
    padded d (l ++ l') i = padded d l i :=
  List.getD_append l l' d i h

/-- A list is what is read from its continuation. -/
theorem slice_padded (d : β) (l : List β) : slice (padded d l) 0 l.length = l := by
  refine List.ext_getElem (length_slice _ _ _) fun i h₁ h₂ => ?_
  rw [getElem_slice, Nat.zero_add, padded_of_lt h₂]

theorem padded_drop (d : β) (l : List β) (n i : Nat) :
    padded d (l.drop n) i = padded d l (n + i) := by
  simp [padded, List.getD_eq_getElem?_getD]

/-! ## `fillBlocks` -/

theorem fillBlocks_of_lt (d : β) (n : Nat) (m : Nat → β) (a : Nat) (ls : List (List β)) {i : Nat}
    (h : i < a) : fillBlocks d n m a ls i = m i := by
  induction ls generalizing m a with
  | nil => rfl
  | cons l ls ih => rw [fillBlocks, ih _ _ (by omega), fill_of_notMem (by omega)]

theorem fillBlocks_of_le (d : β) (n : Nat) (m : Nat → β) (a : Nat) (ls : List (List β)) {i : Nat}
    (h : a + n * ls.length ≤ i) : fillBlocks d n m a ls i = m i := by
  induction ls generalizing m a with
  | nil => rfl
  | cons l ls ih =>
      rw [List.length_cons, Nat.mul_succ] at h
      rw [fillBlocks, ih _ _ (by omega), fill_of_notMem (by omega)]

/-- Block number `k` holds list number `k`. -/
theorem fillBlocks_block (d : β) (n : Nat) (m : Nat → β) (a : Nat) (ls : List (List β)) {k j : Nat}
    (hk : k < ls.length) (hj : j < n) :
    fillBlocks d n m a ls (a + n * k + j) = padded d ls[k] j := by
  induction ls generalizing m a k with
  | nil => exact absurd hk (Nat.not_lt_zero _)
  | cons l ls ih =>
      cases k with
      | zero =>
          rw [fillBlocks, fillBlocks_of_lt _ _ _ _ _ (by omega), fill_of_mem (by omega)]
          congr 1
          omega
      | succ k =>
          rw [fillBlocks, Nat.mul_succ, show a + (n * k + n) + j = a + n + n * k + j by omega]
          exact ih _ _ (Nat.lt_of_succ_lt_succ hk)

theorem length_flatMap_slice (d : β) (n : Nat) (ls : List (List β)) :
    (ls.flatMap fun l => slice (padded d l) 0 n).length = n * ls.length := by
  induction ls with
  | nil => rfl
  | cons l ls ih =>
      rw [List.flatMap_cons, List.length_append, length_slice, ih, List.length_cons, Nat.mul_succ,
        Nat.add_comm]

/-- The blocks are one list, written at once. -/
theorem fillBlocks_eq_fill (d : β) (n : Nat) (m : Nat → β) (a : Nat) (ls : List (List β)) :
    fillBlocks d n m a ls =
      fill m a (n * ls.length) (padded d (ls.flatMap fun l => slice (padded d l) 0 n)) := by
  induction ls generalizing m a with
  | nil => exact (fill_zero m _ a).symm
  | cons l ls ih =>
      have hfirst : fill m a n (padded d l) =
          fill m a n (padded d ((l :: ls).flatMap fun l => slice (padded d l) 0 n)) := by
        refine fill_congr fun i hi => ?_
        have hlt : i < (slice (padded d l) 0 n).length := by rwa [length_slice]
        rw [List.flatMap_cons, padded_append_left hlt, padded_of_lt hlt, getElem_slice, Nat.zero_add]
      have hrest : padded d (ls.flatMap fun l => slice (padded d l) 0 n) =
          fun i => padded d ((l :: ls).flatMap fun l => slice (padded d l) 0 n) (n + i) := by
        funext i
        rw [List.flatMap_cons, ← padded_drop, List.drop_left' (length_slice _ _ _)]
      rw [fillBlocks, ih, hfirst, hrest, fill_fill_add, List.length_cons, Nat.mul_succ, Nat.add_comm n]

/-! ## `pieces`, `chunks` and `shortEnded` -/

theorem pieces_succ (n k : Nat) (l : List β) :
    pieces n (k + 1) l = l.take n :: pieces n k (l.drop n) := by
  simp [pieces, List.range_succ_eq_map, Function.comp_def, Nat.mul_succ, Nat.add_comm]

@[simp] theorem chunks_nil {n : Nat} (hn : 0 < n) : chunks n ([] : List β) = [] := by
  have h : (n - 1) / n = 0 := Nat.div_eq_of_lt (by omega)
  simp [chunks, pieces, h]

theorem chunks_of_ne_nil {n : Nat} (hn : 0 < n) {l : List β} (hl : l ≠ []) :
    chunks n l = l.take n :: chunks n (l.drop n) := by
  have hpos : 0 < l.length := List.length_pos_iff.mpr hl
  have hk : (l.length + (n - 1)) / n = ((l.drop n).length + (n - 1)) / n + 1 := by
    rw [List.length_drop]
    rcases Nat.lt_or_ge l.length n with h | h
    · rw [Nat.sub_eq_zero_of_le h.le, Nat.zero_add, Nat.div_eq_of_lt (by omega : n - 1 < n),
        show l.length + (n - 1) = (l.length - 1) + n by omega, Nat.add_div_right _ hn,
        Nat.div_eq_of_lt (by omega)]
    · rw [show l.length + (n - 1) = (l.length - n + (n - 1)) + n by omega, Nat.add_div_right _ hn]
  rw [chunks, hk, pieces_succ, chunks]

theorem chunks_ne_nil {n : Nat} (hn : 0 < n) {l : List β} (hl : l ≠ []) : chunks n l ≠ [] := by
  rw [chunks_of_ne_nil hn hl]
  exact List.cons_ne_nil _ _

theorem shortEnded_of_lt {n : Nat} {l : List β} (h : l.length < n) : shortEnded n l = [l] := by
  rw [shortEnded, Nat.div_eq_of_lt h, pieces_succ, List.take_of_length_le h.le]
  rfl

theorem shortEnded_of_le {n : Nat} (hn : 0 < n) {l : List β} (h : n ≤ l.length) :
    shortEnded n l = l.take n :: shortEnded n (l.drop n) := by
  have hk : l.length / n = (l.drop n).length / n + 1 := by
    rw [List.length_drop, ← Nat.add_div_right _ hn, Nat.sub_add_cancel h]
  rw [shortEnded, pieces_succ, shortEnded, hk]

theorem flatten_shortEnded {n : Nat} (hn : 0 < n) (l : List β) : (shortEnded n l).flatten = l := by
  induction h : l.length using Nat.strong_induction_on generalizing l with
  | _ k ih =>
      rcases Nat.lt_or_ge l.length n with hlt | hge
      · simp [shortEnded_of_lt hlt]
      · rw [shortEnded_of_le hn hge, List.flatten_cons,
          ih (l.drop n).length (by rw [List.length_drop]; omega) _ rfl, List.take_append_drop]

/-- All pieces but the last have the length `n`, and the last is what is left over. -/
theorem shortEnded_eq_snoc {n : Nat} (hn : 0 < n) (l : List β) : ∃ ps p,
    shortEnded n l = ps ++ [p] ∧ (∀ q ∈ ps, q.length = n) ∧ p.length = l.length % n := by
  induction h : l.length using Nat.strong_induction_on generalizing l with
  | _ k ih =>
      rcases Nat.lt_or_ge l.length n with hlt | hge
      · exact ⟨[], l, shortEnded_of_lt hlt, fun _ hq => (nomatch hq),
          by rw [← h, Nat.mod_eq_of_lt hlt]⟩
      · obtain ⟨ps, p, heq, hps, hp⟩ := ih (l.drop n).length (by rw [List.length_drop]; omega) _ rfl
        refine ⟨l.take n :: ps, p, by rw [shortEnded_of_le hn hge, heq, List.cons_append], ?_,
          by rw [hp, List.length_drop, ← h, ← Nat.mod_eq_sub_mod hge]⟩
        intro q hq
        rcases List.mem_cons.mp hq with rfl | hq
        · rw [List.length_take, Nat.min_eq_left hge]
        · exact hps q hq

/-! ## `Changed` -/

theorem changed_self (m : Nat → β) : Changed m m = ∅ :=
  Set.eq_empty_of_forall_notMem (fun _ h => h rfl)

theorem changed_trans (m m' m'' : Nat → β) : Changed m m'' ⊆ Changed m m' ∪ Changed m' m'' := by
  intro a ha
  by_cases h : m a = m' a
  · exact .inr (fun h' => ha (h.trans h'))
  · exact .inl h

end DfuSeBootloader.Memory
