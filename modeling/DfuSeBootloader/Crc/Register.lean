import Mathlib.Data.List.Basic

/-!
# Shift registers of cyclic redundancy checks

A register of `w` bits takes in a stream of bits at its low end. Where the bit that is shifted out
differs from the bit that comes in, the feedback mask is added. The shift is linear over exclusive or
and, when the mask has its top bit, invertible; so a burst of up to `w` wrong bits is detected.
-/

namespace DfuSeBootloader.Crc

variable {w : Nat} {mask c c' : BitVec w} {b b' : Bool} {l l' : List Bool}

/-- One turn of the register for one bit of the stream. -/
def shift (mask c : BitVec w) (b : Bool) : BitVec w :=
  if c.getLsbD 0 ^^ b then c >>> 1 ^^^ mask else c >>> 1

/-- The register behind the bits of a stream. -/
def run (mask : BitVec w) (l : List Bool) (c : BitVec w) : BitVec w := l.foldl (shift mask) c

@[simp] theorem run_nil : run mask [] c = c := rfl

@[simp] theorem run_cons : run mask (b :: l) c = run mask l (shift mask c b) := rfl

theorem run_append : run mask (l ++ l') c = run mask l' (run mask l c) := List.foldl_append

/-! ## Linearity -/

theorem shift_xor : shift mask (c ^^^ c') (b ^^ b') = shift mask c b ^^^ shift mask c' b' := by
  have hmask : ∀ x y : BitVec w, x ^^^ mask ^^^ (y ^^^ mask) = x ^^^ y := by
    intro x y
    rw [BitVec.xor_comm y mask, ← BitVec.xor_assoc, BitVec.xor_assoc x mask mask, BitVec.xor_self,
      BitVec.xor_zero]
  have hfeed : ((c ^^^ c').getLsbD 0 ^^ (b ^^ b')) =
      ((c.getLsbD 0 ^^ b) ^^ (c'.getLsbD 0 ^^ b')) := by
    rw [BitVec.getLsbD_xor]
    cases c.getLsbD 0 <;> cases c'.getLsbD 0 <;> cases b <;> cases b' <;> rfl
  simp only [shift, hfeed, BitVec.ushiftRight_xor_distrib]
  cases c.getLsbD 0 ^^ b <;> cases c'.getLsbD 0 ^^ b'
  · rfl
  · simp only [Bool.false_xor, if_true, Bool.false_eq_true, if_false, BitVec.xor_assoc]
  · simp only [Bool.xor_false, if_true, Bool.false_eq_true, if_false]
    rw [BitVec.xor_assoc, BitVec.xor_assoc, BitVec.xor_comm (c' >>> 1)]
  · simpa using (hmask _ _).symm

/-- The registers of two streams differ by the register of their difference. -/
theorem run_xor (h : l.length = l'.length) :
    run mask (List.zipWith (· ^^ ·) l l') (c ^^^ c') = run mask l c ^^^ run mask l' c' := by
  induction l generalizing l' c c' with
  | nil =>
      cases l' with
      | nil => rfl
      | cons b' l' => cases h
  | cons b l ih =>
      cases l' with
      | nil => cases h
      | cons b' l' =>
          rw [List.zipWith_cons_cons, run_cons, shift_xor, ih (Nat.succ.inj h)]
          rfl

theorem run_zero (n : Nat) : run mask (List.replicate n false) 0#w = 0#w := by
  induction n with
  | zero => rfl
  | succ n ih =>
      have hshift : shift mask 0#w false = 0#w := by simp [shift]
      rw [List.replicate_succ, run_cons, hshift, ih]

/-! ## Invertibility -/

/-- Only an empty register becomes empty without input. -/
theorem shift_eq_zero (hmask : mask.getLsbD (w - 1) = true) (h : shift mask c false = 0#w) : c = 0#w := by
  have hw : 0 < w := by
    have := BitVec.lt_of_getLsbD hmask
    omega
  have htop : (c >>> 1).getLsbD (w - 1) = false := by
    rw [BitVec.getLsbD_ushiftRight]
    exact BitVec.getLsbD_of_ge _ _ (by omega)
  rw [shift, Bool.xor_false] at h
  split at h
  · have hbit := congrArg (fun x => x.getLsbD (w - 1)) h
    simp [htop, hmask] at hbit
  · rename_i hlow
    refine BitVec.eq_of_getLsbD_eq fun i hi => ?_
    rw [BitVec.getLsbD_zero]
    cases i with
    | zero => simpa using hlow
    | succ i =>
        have hbit := congrArg (fun x => x.getLsbD i) h
        simpa [Nat.add_comm 1] using hbit

theorem run_eq_zero (hmask : mask.getLsbD (w - 1) = true) {n : Nat}
    (h : run mask (List.replicate n false) c = 0#w) : c = 0#w := by
  induction n generalizing c with
  | zero => exact h
  | succ n ih => exact shift_eq_zero hmask (ih h)

/-! ## Short streams -/

/-- The bits of a stream, the first one lowest. -/
def load (w : Nat) (l : List Bool) : BitVec w := (BitVec.ofBoolListLE l).setWidth w

theorem getLsbD_load {i : Nat} (hi : i < w) : (load w l).getLsbD i = l.getD i false := by
  simp [load, hi]

theorem shift_load (h : l.length < w) : shift mask (load w (b :: l)) b = load w l := by
  have hlow : (load w (b :: l)).getLsbD 0 = b := getLsbD_load (by omega)
  rw [shift, hlow, Bool.xor_self, if_neg Bool.false_ne_true]
  refine BitVec.eq_of_getLsbD_eq fun i hi => ?_
  rw [BitVec.getLsbD_ushiftRight, getLsbD_load hi]
  rcases Nat.lt_or_ge (1 + i) w with h' | h'
  · rw [getLsbD_load h', Nat.add_comm, List.getD_cons_succ]
  · rw [BitVec.getLsbD_of_ge _ _ h', List.getD_eq_getElem?_getD, List.getElem?_eq_none (by omega),
      Option.getD_none]

/-- Up to `w` bits may be put into the register at once. -/
theorem run_eq_run_load (h : l.length ≤ w) :
    run mask l c = run mask (List.replicate l.length false) (c ^^^ load w l) := by
  induction l generalizing c with
  | nil =>
      have hload : load w [] = 0#w := by simp [load, BitVec.ofBoolListLE]
      simp [hload]
  | cons b l ih =>
      have hlin : shift mask (c ^^^ load w (b :: l)) (b ^^ b) =
          shift mask c b ^^^ shift mask (load w (b :: l)) b := shift_xor
      rw [shift_load h, Bool.xor_self] at hlin
      rw [run_cons, ih (Nat.le_of_succ_le h), List.length_cons, List.replicate_succ, run_cons, hlin]

theorem run_self (hlen : l.length = w) (hload : load w l = c) : run mask l c = 0#w := by
  rw [run_eq_run_load (Nat.le_of_eq hlen), hload, BitVec.xor_self, run_zero]

/-! ## Bursts -/

/-- Some bit of the stream is set, and all that are set lie within `w` places. -/
structure Burst (w : Nat) (l : List Bool) : Prop where
  nonzero : true ∈ l
  within : ∃ k, ∀ i, l[i]? = some true → k ≤ i ∧ i < k + w

theorem eq_replicate_of_not_mem (h : true ∉ l) : l = List.replicate l.length false :=
  List.eq_replicate_iff.mpr ⟨rfl, fun b hb => by
    cases b with
    | false => rfl
    | true => exact absurd hb h⟩

/-- A burst has zeros in front, a part with a set bit that the register can hold, and zeros behind. -/
theorem Burst.split (h : Burst w l) : ∃ m u n, l = List.replicate m false ++ u ++
    List.replicate n false ∧ u.length ≤ w ∧ true ∈ u := by
  obtain ⟨k, hk⟩ := h.within
  have hfront : true ∉ l.take k := by
    intro hmem
    obtain ⟨i, hi⟩ := List.mem_iff_getElem?.mp hmem
    rw [List.getElem?_take] at hi
    split at hi
    · have := (hk i hi).1
      omega
    · cases hi
  have hback : true ∉ (l.drop k).drop w := by
    intro hmem
    obtain ⟨i, hi⟩ := List.mem_iff_getElem?.mp hmem
    rw [List.drop_drop, List.getElem?_drop] at hi
    have := (hk _ hi).2
    omega
  have hsplit : l = l.take k ++ (l.drop k).take w ++ (l.drop k).drop w := by
    rw [List.append_assoc, List.take_append_drop, List.take_append_drop]
  refine ⟨(l.take k).length, (l.drop k).take w, ((l.drop k).drop w).length, ?_,
    List.length_take_le _ _, ?_⟩
  · rw [← eq_replicate_of_not_mem hfront, ← eq_replicate_of_not_mem hback]
    exact hsplit
  · have hmem := h.nonzero
    rw [hsplit] at hmem
    rcases List.mem_append.mp hmem with hmem | hmem
    · exact (List.mem_append.mp hmem).resolve_left hfront
    · exact absurd hmem hback

theorem Burst.run_ne_zero (h : Burst w l) (hmask : mask.getLsbD (w - 1) = true) :
    run mask l 0#w ≠ 0#w := by
  obtain ⟨m, u, n, rfl, hlen, hmem⟩ := h.split
  intro hzero
  rw [run_append, run_append, run_zero, run_eq_run_load hlen, BitVec.zero_xor] at hzero
  have hload := run_eq_zero hmask (run_eq_zero hmask hzero)
  obtain ⟨i, hi⟩ := List.mem_iff_getElem?.mp hmem
  have hbit := getLsbD_load (l := u) (i := i)
    (Nat.lt_of_lt_of_le (List.getElem?_eq_some_iff.mp hi).1 hlen)
  rw [hload, BitVec.getLsbD_zero, List.getD_eq_getElem?_getD, hi] at hbit
  cases hbit

end DfuSeBootloader.Crc
