import DfuSeBootloader.Crc.Register
import Mathlib.Algebra.CharP.Two
import Mathlib.Algebra.Field.ZMod
import Mathlib.Algebra.Polynomial.Div
import Mathlib.RingTheory.Polynomial.DegreeLT
import Mathlib.Tactic.LinearCombination

/-!
# Cyclic redundancy checks as polynomial division

The bits of a stream are the coefficients of a polynomial over the field of two elements, the first
bit that of the highest power. The register holds the remainder of a division, the lowest bit being
the coefficient of the highest power.
-/

namespace DfuSeBootloader.Crc
open Polynomial

variable {w : Nat} {mask c c' : BitVec w} {b b' : Bool} {l : List Bool}

def bit (b : Bool) : ZMod 2 := if b then 1 else 0

noncomputable def registerPoly (c : BitVec w) : (ZMod 2)[X] :=
  ∑ i ∈ Finset.range w, C (bit (c.getLsbD i)) * X ^ (w - 1 - i)

noncomputable def streamPoly (l : List Bool) : (ZMod 2)[X] :=
  l.foldl (fun f b => f * X + C (bit b)) 0

/-- The divisor that a feedback mask stands for. -/
noncomputable def generator (mask : BitVec w) : (ZMod 2)[X] := X ^ w + registerPoly mask

/-- The check of a stream: `w` zeros are put behind it, and the remainder of the division by `g` is
written into a register. -/
noncomputable def polynomialCrc (w : Nat) (g : (ZMod 2)[X]) (l : List Bool) : BitVec w :=
  load w ((List.range w).map fun i =>
    decide (((X ^ w * streamPoly l) %ₘ g).coeff (w - 1 - i) = 1))

/-! ## Bits -/

theorem bit_xor : bit (b ^^ b') = bit b + bit b' := by
  cases b <;> cases b' <;> decide

theorem bit_eq_one : bit b = 1 ↔ b = true := by
  cases b <;> decide

/-! ## Registers -/

theorem registerPoly_xor : registerPoly (c ^^^ c') = registerPoly c + registerPoly c' := by
  simp only [registerPoly, BitVec.getLsbD_xor, bit_xor, C_add, add_mul, Finset.sum_add_distrib]

theorem degree_registerPoly (c : BitVec w) : (registerPoly c).degree < w := by
  refine mem_degreeLT.mp (Submodule.sum_mem _ fun i hi => mem_degreeLT.mpr ?_)
  have hi := Finset.mem_range.mp hi
  exact (degree_C_mul_X_pow_le _ _).trans_lt (by exact_mod_cast (by omega : w - 1 - i < w))

theorem coeff_registerPoly {i : Nat} (hi : i < w) :
    (registerPoly c).coeff (w - 1 - i) = bit (c.getLsbD i) := by
  have hmem : i ∈ Finset.range w := Finset.mem_range.mpr hi
  rw [registerPoly, finsetSum_coeff, Finset.sum_eq_single_of_mem i hmem]
  · simp
  · intro j hj hne
    have hj := Finset.mem_range.mp hj
    rw [coeff_C_mul_X_pow, if_neg (by omega)]

/-- Moving the register down multiplies its polynomial by `X`, save for the bit that falls out. -/
theorem X_mul_registerPoly :
    X * registerPoly c = C (bit (c.getLsbD 0)) * X ^ w + registerPoly (c >>> 1) := by
  cases w with
  | zero => simp [registerPoly, bit]
  | succ w =>
      have hlast : (c >>> 1).getLsbD w = false := by
        rw [BitVec.getLsbD_ushiftRight]
        exact BitVec.getLsbD_of_ge _ _ (by omega)
      rw [registerPoly, Finset.sum_range_succ', registerPoly, Finset.sum_range_succ, hlast]
      have hsum : ∀ i ∈ Finset.range w,
          X * (C (bit (c.getLsbD (i + 1))) * X ^ (w + 1 - 1 - (i + 1))) =
            C (bit ((c >>> 1).getLsbD i)) * X ^ (w + 1 - 1 - i) := by
        intro i hi
        have hi := Finset.mem_range.mp hi
        rw [BitVec.getLsbD_ushiftRight, Nat.add_comm 1 i,
          show w + 1 - 1 - i = w + 1 - 1 - (i + 1) + 1 by omega, pow_succ]
        ring
      rw [mul_add, Finset.mul_sum, Finset.sum_congr rfl hsum]
      simp only [bit, Bool.false_eq_true, if_false, map_zero, zero_mul, add_zero, Nat.add_sub_cancel,
        Nat.sub_zero]
      ring

theorem registerPoly_shift : registerPoly (shift mask c b) =
    X * registerPoly c + C (bit b) * X ^ w + C (bit (c.getLsbD 0 ^^ b)) * generator mask := by
  have hfeed : registerPoly (shift mask c b) =
      registerPoly (c >>> 1) + C (bit (c.getLsbD 0 ^^ b)) * registerPoly mask := by
    unfold shift
    split
    · rename_i h
      rw [h, registerPoly_xor, bit, if_pos rfl, C_1, one_mul]
    · rename_i h
      rw [Bool.not_eq_true _ |>.mp h, bit, if_neg Bool.false_ne_true, C_0, zero_mul, add_zero]
  have htwo : (2 : (ZMod 2)[X]) = 0 := CharTwo.two_eq_zero
  rw [hfeed, X_mul_registerPoly, generator, bit_xor, C_add]
  linear_combination (-(C (bit (c.getLsbD 0)) * X ^ w) - C (bit b) * X ^ w) * htwo

/-! ## Streams -/

theorem streamPoly_snoc : streamPoly (l ++ [b]) = streamPoly l * X + C (bit b) := by
  rw [streamPoly, List.foldl_append]
  rfl

theorem generator_monic (mask : BitVec w) : (generator mask).Monic :=
  monic_X_pow_add (degree_registerPoly mask)

theorem degree_generator (mask : BitVec w) : (generator mask).degree = w := by
  rw [generator, degree_add_eq_left_of_degree_lt]
  · exact degree_X_pow w
  · rw [degree_X_pow]
    exact degree_registerPoly mask

/-- The register and the stream that it has taken in leave the same remainder. -/
theorem dvd_run (mask : BitVec w) (l : List Bool) :
    generator mask ∣ registerPoly (run mask l 0#w) - X ^ w * streamPoly l := by
  induction l using List.reverseRecOn with
  | nil => simp [registerPoly, streamPoly, bit]
  | append_singleton l b ih =>
      obtain ⟨q, hq⟩ := ih
      have hrun : run mask (l ++ [b]) 0#w = shift mask (run mask l 0#w) b := run_append
      refine ⟨X * q + C (bit ((run mask l 0#w).getLsbD 0 ^^ b)), ?_⟩
      rw [hrun, registerPoly_shift, streamPoly_snoc]
      linear_combination X * hq

theorem registerPoly_run :
    registerPoly (run mask l 0#w) = (X ^ w * streamPoly l) %ₘ generator mask := by
  rw [← modByMonic_eq_of_dvd_sub (generator_monic mask) (dvd_run mask l), eq_comm,
    modByMonic_eq_self_iff (generator_monic mask), degree_generator]
  exact degree_registerPoly _

theorem run_eq_polynomialCrc : run mask l 0#w = polynomialCrc w (generator mask) l := by
  refine BitVec.eq_of_getLsbD_eq fun i hi => ?_
  rw [polynomialCrc, ← registerPoly_run, getLsbD_load hi]
  simp [hi, coeff_registerPoly, bit_eq_one]

end DfuSeBootloader.Crc
