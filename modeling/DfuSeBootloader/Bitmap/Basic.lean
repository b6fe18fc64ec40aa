import Mathlib.Data.Nat.Find
import Mathlib.Logic.Function.Basic

/-!
# Sets of numbers in a table of words

A table of `w`-bit words holds a set of numbers: `i` is in the set when bit `i % w` of word `i / w`
is set, counted from the most significant bit. So the least number of the set is found in the first
word that is not zero, by counting its leading zeros.
-/

namespace DfuSeBootloader.Bitmap
open Function (update)

variable {w : Nat} {t : Nat → BitVec w} {x : BitVec w} {i j : Nat}

/-! ## Bits of a word -/

/-- The word in which only bit `j` is set. -/
def bit (w j : Nat) : BitVec w := 1#w <<< (w - 1 - j)

theorem getMsbD_bit (hj : j < w) : (bit w j).getMsbD i = decide (i = j) := by
  simp only [bit, BitVec.getMsbD_shiftLeft, BitVec.getMsbD_one]
  rw [Bool.and_eq_left_iff_imp.mpr (by simp; omega), decide_eq_decide]
  omega

theorem getMsbD_set (hj : j < w) : (x ||| bit w j).getMsbD i = (x.getMsbD i || decide (i = j)) := by
  rw [BitVec.getMsbD_or, getMsbD_bit hj]

theorem getMsbD_clear (hj : j < w) :
    (x &&& ~~~bit w j).getMsbD i = (x.getMsbD i && !decide (i = j)) := by
  rw [BitVec.getMsbD_and, BitVec.getMsbD_not, getMsbD_bit hj]
  by_cases hi : i < w
  · simp [hi]
  · simp [BitVec.getMsbD, hi]

theorem getMsbD_clz (hx : x ≠ 0) : x.clz.toNat < w ∧ x.getMsbD x.clz.toNat = true := by
  have hw : 0 < w := Nat.pos_of_ne_zero fun h => hx (by subst h; exact BitVec.of_length_zero)
  have hbit := BitVec.getLsbD_true_clz_of_ne_zero hw hx
  have hlt : x.clz.toNat < w := by
    have hle := BitVec.toNat_lt_two_pow_sub_clz (x := x)
    by_contra hge
    rw [Nat.sub_eq_zero_of_le (by omega), Nat.pow_zero] at hle
    exact hx (BitVec.eq_of_toNat_eq (by simp; omega))
  rw [BitVec.getMsbD_eq_getLsbD, hbit]
  simp [hlt]

theorem getMsbD_of_lt_clz (h : i < x.clz.toNat) : x.getMsbD i = false := by
  have hlt := BitVec.toNat_lt_two_pow_sub_clz (x := x)
  rw [BitVec.getMsbD_eq_getLsbD]
  by_cases hi : i < w
  · rw [BitVec.getLsbD, Nat.testBit_lt_two_pow, Bool.and_false]
    exact Nat.lt_of_lt_of_le hlt (Nat.pow_le_pow_right (by decide) (by omega))
  · simp [hi]

/-! ## The set -/

/-- The set that a table holds. -/
def Mem (t : Nat → BitVec w) (i : Nat) : Prop := (t (i / w)).getMsbD (i % w) = true

instance : Decidable (Mem t i) := inferInstanceAs (Decidable (_ = true))

theorem div_mod_ne (h : i ≠ j) (hd : i / w = j / w) : i % w ≠ j % w := by
  intro hm
  rw [← Nat.div_add_mod i w, ← Nat.div_add_mod j w, hd, hm] at h
  exact h rfl

theorem mem_set (hw : 0 < w) :
    Mem (update t (j / w) (t (j / w) ||| bit w (j % w))) i ↔ Mem t i ∨ i = j := by
  unfold Mem
  by_cases hd : i / w = j / w
  · rw [hd, Function.update_self, getMsbD_set (Nat.mod_lt j hw)]
    by_cases hij : i = j
    · simp [hij]
    · simp [hij, div_mod_ne hij hd]
  · rw [Function.update_of_ne hd]
    have hij : i ≠ j := fun h => hd (by rw [h])
    simp [hij]

theorem mem_clear (hw : 0 < w) :
    Mem (update t (j / w) (t (j / w) &&& ~~~bit w (j % w))) i ↔ Mem t i ∧ i ≠ j := by
  unfold Mem
  by_cases hd : i / w = j / w
  · rw [hd, Function.update_self, getMsbD_clear (Nat.mod_lt j hw)]
    by_cases hij : i = j
    · simp [hij]
    · simp [hij, div_mod_ne hij hd]
  · rw [Function.update_of_ne hd]
    have hij : i ≠ j := fun h => hd (by rw [h])
    simp [hij]

theorem not_mem_of_zero (h : t (i / w) = 0) : ¬ Mem t i := by
  simp [Mem, h]

/-- The least number of the set, by the first word that is not zero. -/
theorem mem_first {k : Nat} (hz : ∀ m < k, t m = 0) (hk : t k ≠ 0) :
    Mem t (w * k + (t k).clz.toNat) ∧ ∀ i < w * k + (t k).clz.toNat, ¬ Mem t i := by
  obtain ⟨hlt, hbit⟩ := getMsbD_clz hk
  have hw : 0 < w := by omega
  constructor
  · rw [Mem, Nat.mul_add_div hw, Nat.div_eq_of_lt hlt, Nat.mul_add_mod, Nat.mod_eq_of_lt hlt]
    exact hbit
  · intro i hi
    rcases Nat.lt_or_ge i (w * k) with h | h
    · exact not_mem_of_zero (hz _ (Nat.div_lt_of_lt_mul h))
    · have hd : i / w = k := by
        rw [Nat.div_eq_iff hw, Nat.mul_comm]
        omega
      have hm : i % w < (t k).clz.toNat := by
        have := Nat.div_add_mod i w
        rw [hd] at this
        omega
      rw [Mem, hd, getMsbD_of_lt_clz hm]
      exact Bool.false_ne_true

theorem exists_first {n : Nat} (hi : i < w * n) (h : Mem t i) :
    ∃ k < n, (∀ m < k, t m = 0) ∧ t k ≠ 0 := by
  have hne : ∃ k, t k ≠ 0 := ⟨i / w, fun h0 => not_mem_of_zero h0 h⟩
  refine ⟨Nat.find hne, ?_, fun m hm => not_not.mp (Nat.find_min hne hm), Nat.find_spec hne⟩
  exact Nat.lt_of_le_of_lt (Nat.find_min' hne fun h0 => not_mem_of_zero h0 h)
    (Nat.div_lt_of_lt_mul hi)

end DfuSeBootloader.Bitmap
