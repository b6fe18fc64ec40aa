import DfuSeBootloader.Iap.Basic

/-!
# The sector map

The 16 sectors of 4 KB and the 14 sectors of 32 KB in closed form.
-/

namespace DfuSeBootloader.Iap

def sectorStart (i : Nat) : Nat := if i < 16 then i * 0x1000 else 0x10000 + (i - 16) * 0x8000

def sectorSize (i : Nat) : Nat := if i < 16 then 0x1000 else 0x8000

theorem expand_flashLayout : expand flashLayout 0 =
    (List.range 30).map (fun i => (sectorStart i, sectorSize i)) := by
  decide

theorem inSector_iff {i a : Nat} :
    InSector i a ↔ i < 30 ∧ sectorStart i ≤ a ∧ a < sectorStart i + sectorSize i := by
  rw [InSector, expand_flashLayout]
  constructor
  · rintro ⟨start, size, h, hlo, hhi⟩
    obtain ⟨hi, he⟩ := List.getElem?_eq_some_iff.mp h
    simp only [List.length_map, List.length_range] at hi
    simp only [List.getElem_map, List.getElem_range, Prod.mk.injEq] at he
    obtain ⟨rfl, rfl⟩ := he
    exact ⟨hi, hlo, hhi⟩
  · rintro ⟨hi, hlo, hhi⟩
    exact ⟨sectorStart i, sectorSize i, by simp [hi], hlo, hhi⟩

/-- The number of the sector, for an address as a natural number. -/
def sectorOf (a : Nat) : Nat := if a < 0x10000 then a / 0x1000 else (a - 0x10000) / 0x8000 + 16

theorem sector_by_address_eq (address : UInt32) :
    sector_by_address address = sectorOf address.toNat := by
  have hiff : address < 0x00010000 ↔ address.toNat < 0x10000 := UInt32.lt_iff_toNat_lt
  rcases Nat.lt_or_ge address.toNat 0x10000 with h | h
  · rw [sector_by_address, if_pos (hiff.mpr h), sectorOf, if_pos h]
    exact UInt32.toNat_div _ _
  · have hle : (0x00010000 : UInt32) ≤ address := UInt32.le_iff_toNat_le.mpr h
    rw [sector_by_address, if_neg (fun hlt => by have := hiff.mp hlt; omega), sectorOf,
      if_neg (by omega), UInt32.toNat_div, UInt32.toNat_sub_of_le _ _ hle]
    rfl

theorem inSector_sectorOf {a : Nat} (h : a < flashEnd) : InSector (sectorOf a) a := by
  unfold flashEnd at h
  rw [inSector_iff]
  unfold sectorOf sectorStart sectorSize
  split
  · rw [if_pos (by omega), if_pos (by omega)]
    omega
  · rw [if_neg (by omega), if_neg (by omega)]
    omega

/-- No address lies in two sectors. -/
theorem InSector.eq {i a : Nat} (h : InSector i a) : i = sectorOf a := by
  obtain ⟨h30, hs, he⟩ := inSector_iff.mp h
  unfold sectorStart at hs he
  unfold sectorSize at he
  unfold sectorOf
  rcases Nat.lt_or_ge i 16 with hi | hi
  · simp only [hi, if_true] at hs he
    rw [if_pos (by omega)]
    omega
  · simp only [Nat.not_lt.mpr hi, if_false] at hs he
    rw [if_neg (by omega)]
    omega

/-- Behind the flash the function never names a sector. -/
theorem le_sectorOf {a : Nat} (h : flashEnd ≤ a) : 30 ≤ sectorOf a := by
  unfold flashEnd at h
  rw [sectorOf, if_neg (by omega)]
  omega

/-- How far two addresses of one sector can be apart. -/
theorem sectorOf_add {a k : Nat} :
    sectorOf (a + k) = sectorOf a ↔ a % sectorSize (sectorOf a) + k < sectorSize (sectorOf a) := by
  rcases Nat.lt_or_ge a 0x10000 with ha | ha
  · have hs : sectorOf a = a / 0x1000 := if_pos ha
    have hsize : sectorSize (sectorOf a) = 0x1000 := if_pos (by omega)
    rw [hsize, hs]
    unfold sectorOf
    split <;> omega
  · have hs : sectorOf a = (a - 0x10000) / 0x8000 + 16 := if_neg (by omega)
    have hsize : sectorSize (sectorOf a) = 0x8000 := if_neg (by omega)
    have hk : sectorOf (a + k) = (a + k - 0x10000) / 0x8000 + 16 := if_neg (by omega)
    rw [hsize, hs, hk]
    omega

/-- An aligned block of 512 bytes lies in one sector. -/
theorem sectorOf_block {start a : Nat} (hal : start % 512 = 0) (hlo : start ≤ a)
    (hhi : a < start + 512) : sectorOf a = sectorOf start := by
  unfold sectorOf
  split <;> split <;> omega

theorem sectorOf_mono {a b : Nat} (h : a ≤ b) : sectorOf a ≤ sectorOf b := by
  unfold sectorOf
  split <;> split <;> omega

/-- Addresses that are far enough apart lie in two sectors. -/
theorem sectorOf_lt {a b : Nat} (h : a + 0x8000 ≤ b) : sectorOf a < sectorOf b := by
  unfold sectorOf
  split <;> split <;> omega

theorem sectorOf_sectorStart {i : Nat} (hi : i < 30) : sectorOf (sectorStart i) = i :=
  (inSector_iff.mpr ⟨hi, Nat.le_refl _, by unfold sectorSize; split <;> omega⟩ : InSector i _).eq.symm

theorem sectorSize_pos (i : Nat) : 0 < sectorSize i := by
  unfold sectorSize
  split <;> decide

theorem sectorStart_mono {i j : Nat} (h : i ≤ j) : sectorStart i ≤ sectorStart j := by
  unfold sectorStart
  split <;> split <;> omega

theorem sectorEnd_mono {i j : Nat} (h : i ≤ j) :
    sectorStart i + sectorSize i ≤ sectorStart j + sectorSize j := by
  unfold sectorStart sectorSize
  split <;> split <;> omega

end DfuSeBootloader.Iap
