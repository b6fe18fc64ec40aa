import DfuSeBootloader.Iap.Commands
import DfuSeBootloader.Iap.Reference
import DfuSeBootloader.Usb.Descriptors

/-!
# One layout of the flash

The table `flashLayout`, the arithmetic of `sector_by_address` and the memory map that the host reads
describe the same sectors. A host that erases every sector of its map erases each sector once.
-/

namespace DfuSeBootloader.Iap
open Usb

variable {ρ : Type} {P : Platform ρ}

/-- The largest value of an `int`. -/
def INT_MAX : Nat := 0x7FFFFFFF

/-! ## Erasing a list of sectors -/

/-- The host asks for the erase of one address after the other. -/
def eraseAll (P : Platform ρ) : List UInt32 → ρ → Bool × ρ
  | [], r => (true, r)
  | a :: as, r =>
      let (done, r) := iap_erase P a r
      let (rest, r) := eraseAll P as r
      (done && rest, r)

/-- The ranges of sectors that the ROM has erased, in order. -/
def erasedRanges (l : List Sent) : List (Nat × Nat) :=
  l.filterMap fun
    | (.CMD_ERASE_SECTORS first last _, .STATUS_CMD_SUCCESS) => some (first, last)
    | _ => none

def sectorRange (a : UInt32) : Nat × Nat := (sector_by_address a, sector_by_address a)

theorem erasedRanges_append (l l' : List Sent) :
    erasedRanges (l ++ l') = erasedRanges l ++ erasedRanges l' := List.filterMap_append

theorem erasedRanges_prepare {sector n : Nat} {st : IapStatus} :
    erasedRanges (attempts (.CMD_PREPARE_SECTORS sector sector) n st) = [] := by
  refine List.filterMap_eq_nil_iff.mpr fun x hx => ?_
  obtain ⟨cmd, st⟩ := x
  obtain rfl := fst_of_mem_attempts hx
  rfl

theorem erasedRanges_erase {first last cclk n : Nat} {st : IapStatus} :
    erasedRanges (attempts (.CMD_ERASE_SECTORS first last cclk) n st) =
      if st = .STATUS_CMD_SUCCESS then [(first, last)] else [] := by
  have hbusy : erasedRanges (List.replicate n (.CMD_ERASE_SECTORS first last cclk, .STATUS_BUSY)) = [] :=
    List.filterMap_eq_nil_iff.mpr fun x hx => by rw [List.eq_of_mem_replicate hx]
  rw [attempts, erasedRanges_append, hbusy, List.nil_append]
  cases st <;> rfl

/-- A successful call has erased the sector of its address, and no other call has erased any. -/
theorem iap_erase_logged (P : Platform ρ) (a : UInt32) (r : ρ) (l : List Sent) : ∃ more,
    iap_erase P.logged a (r, l) = ((iap_erase P a r).1, (iap_erase P a r).2, l ++ more) ∧
      erasedRanges more = if (iap_erase P a r).1 then [sectorRange a] else [] := by
  obtain ⟨n, st, rest, heq, hcases⟩ := prepareThen_logged P (sector_by_address a)
    (.CMD_ERASE_SECTORS (sector_by_address a) (sector_by_address a) (P.SystemCoreClock / 1000)) r l
  refine ⟨_, heq, ?_⟩
  rw [erasedRanges_append, erasedRanges_prepare, List.nil_append, iap_erase_eq]
  rcases hcases with ⟨-, rfl, hflag⟩ | ⟨-, m, st', rfl, hflag⟩
  · rw [hflag]
    rfl
  · rw [hflag, erasedRanges_erase]
    simp only [decide_eq_true_eq, sectorRange]

theorem eraseAll_logged (P : Platform ρ) (as : List UInt32) (r : ρ) (l : List Sent) : ∃ more,
    eraseAll P.logged as (r, l) = ((eraseAll P as r).1, (eraseAll P as r).2, l ++ more) ∧
      List.Sublist (erasedRanges more) (as.map sectorRange) ∧
      ((eraseAll P as r).1 = true → erasedRanges more = as.map sectorRange) := by
  induction as generalizing r l with
  | nil => exact ⟨[], by simp [eraseAll], List.Sublist.refl _, fun _ => rfl⟩
  | cons a as ih =>
      obtain ⟨one, hone, hranges⟩ := iap_erase_logged P a r l
      obtain ⟨more, hmore, hsub, hall⟩ := ih (iap_erase P a r).2 (l ++ one)
      refine ⟨one ++ more, ?_, ?_, ?_⟩
      · simp only [eraseAll, hone, hmore, List.append_assoc]
      · rw [erasedRanges_append, hranges, List.map_cons]
        split
        · exact hsub.cons_cons _
        · exact hsub.cons _
      · intro hdone
        simp only [eraseAll, Bool.and_eq_true] at hdone
        rw [erasedRanges_append, hranges, if_pos hdone.1, hall hdone.2]
        rfl

/-! ## Agreement -/

theorem sector_by_address_iff {a : UInt32} (h : a.toNat < flashEnd) {i : Nat} :
    InSector i a.toNat ↔ i = sector_by_address a := by
  rw [sector_by_address_eq]
  exact ⟨InSector.eq, fun hi => hi ▸ inSector_sectorOf h⟩

theorem sector_by_address_out {a : UInt32} (h : flashEnd ≤ a.toNat) :
    30 ≤ sector_by_address a ∧ sector_by_address a ≤ INT_MAX := by
  rw [sector_by_address_eq]
  refine ⟨le_sectorOf h, ?_⟩
  have hlt := a.toNat_lt
  unfold sectorOf INT_MAX
  split <;> omega

theorem sector_by_address_mono {a b : UInt32} (h : a ≤ b) :
    sector_by_address a ≤ sector_by_address b := by
  rw [sector_by_address_eq, sector_by_address_eq]
  exact sectorOf_mono (UInt32.le_iff_toNat_le.mp h)

/-- The addresses at which the sectors of a memory map begin. -/
def sectorStarts (sectors : List (Nat × Nat)) : List UInt32 :=
  sectors.map fun s => UInt32.ofNat s.1

theorem sectorRange_sectorStarts : (sectorStarts (expand flashLayout 0)).map sectorRange =
    (List.range 30).map fun i => (i, i) := by
  rw [sectorStarts, expand_flashLayout, List.map_map, List.map_map]
  refine List.map_congr_left fun i hi => ?_
  have hi := List.mem_range.mp hi
  have hlt : sectorStart i < 2 ^ 32 := by
    unfold sectorStart
    split <;> omega
  have hsector : sector_by_address (UInt32.ofNat (sectorStart i)) = i := by
    rw [sector_by_address_eq, UInt32.toNat_ofNat_of_lt' hlt, sectorOf_sectorStart hi]
  simp only [Function.comp_apply, sectorRange, hsector]

/-- The three descriptions agree, and the map leads the host to every sector exactly once. -/
theorem flash_layouts_agree :
    MemoryMap.sectors flash_info_str = some (expand flashLayout 0) ∧
    (∀ a : UInt32, a.toNat < flashEnd → ∀ i, InSector i a.toNat ↔ i = sector_by_address a) ∧
    (∀ a : UInt32, flashEnd ≤ a.toNat → 30 ≤ sector_by_address a ∧ sector_by_address a ≤ INT_MAX) ∧
    (∀ a b : UInt32, a ≤ b → sector_by_address a ≤ sector_by_address b) ∧
    (∀ (sectors : List (Nat × Nat)) (ρ : Type) (P : Platform ρ) (r : ρ),
      MemoryMap.sectors flash_info_str = some sectors →
        let erased := erasedRanges (eraseAll P.logged (sectorStarts sectors) (r, [])).2.2
        List.Sublist erased ((List.range 30).map fun i => (i, i)) ∧
          ((eraseAll P (sectorStarts sectors) r).1 = true →
            erased = (List.range 30).map fun i => (i, i))) := by
  refine ⟨MemoryMap.sectors_flash_info_str, fun a ha i => sector_by_address_iff ha,
    fun a => sector_by_address_out, fun a b => sector_by_address_mono, ?_⟩
  intro sectors ρ P r hmap
  obtain rfl := Option.some.inj (MemoryMap.sectors_flash_info_str.symm.trans hmap)
  obtain ⟨more, heq, hsub, hall⟩ := eraseAll_logged P (sectorStarts (expand flashLayout 0)) r []
  rw [sectorRange_sectorStarts] at hsub hall
  rw [heq]
  exact ⟨hsub, hall⟩

/-- The host erases all 30 sectors of a ROM that refuses none. -/
theorem reference_layouts_agree :
    (∀ i, InSector i 0x18000 ↔ i = 17) ∧ 30 ≤ sector_by_address 0x80000 ∧
    erasedRanges (eraseAll reference.logged (sectorStarts (expand flashLayout 0))
      (Rom.blank, [])).2.2 = (List.range 30).map fun i => (i, i) := by
  obtain ⟨hmap, hinside, houtside, -, herase⟩ := flash_layouts_agree
  exact ⟨hinside 0x18000 (by decide), (houtside 0x80000 (by decide)).1,
    (herase _ Rom reference Rom.blank hmap).2 (by decide +kernel)⟩

end DfuSeBootloader.Iap
