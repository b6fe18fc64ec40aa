import DfuSeBootloader.Iap.Contract
import DfuSeBootloader.Iap.Lemmas.Sector

/-!
# A ROM that behaves as documented

A small executable ROM that meets every assumption of `Iap.Contract`. It is never busy, and a copy
can only clear bits.
-/

namespace DfuSeBootloader.Iap
open Memory

structure Rom where
  flash : Nat → UInt8
  prepared : Nat → Bool

namespace Rom

/-- The sectors of a range that a command needs are prepared. -/
def Ready (r : Rom) (start stop : Nat) : Prop :=
  ∀ s < 30, start < sectorStart s + sectorSize s → sectorStart s < stop → r.prepared s = true

instance (r : Rom) (start stop : Nat) : Decidable (r.Ready start stop) :=
  inferInstanceAs (Decidable (∀ s < 30, _))

def prepare (first last : Nat) (r : Rom) : IapStatus × Rom :=
  if first ≤ last ∧ last < 30 then
    (.STATUS_CMD_SUCCESS, { r with prepared := fun s => decide (first ≤ s ∧ s ≤ last) })
  else (.STATUS_INVALID_SECTOR, r)

def copy (dst : Nat) (buffer : Nat → UInt8) (count : Nat) (r : Rom) : IapStatus × Rom :=
  if dst % 256 ≠ 0 then (.STATUS_DST_ADDR_ERROR, r)
  else if flashEnd < dst + count then (.STATUS_DST_ADDR_NOT_MAPPED, r)
  else if count ∉ allowedWriteSizes ∨ count = 0 then (.STATUS_COUNT_ERROR, r)
  else if ¬ r.Ready dst (dst + count) then
    (.STATUS_SECTOR_NOT_PREPARED_FOR_WRITE_OPERATION, r)
  else
    (.STATUS_CMD_SUCCESS,
      { flash := fill r.flash dst count (fun i => r.flash (dst + i) &&& buffer i)
        prepared := fun _ => false })

def erase (first last : Nat) (r : Rom) : IapStatus × Rom :=
  if ¬ (first ≤ last ∧ last < 30) then (.STATUS_INVALID_SECTOR, r)
  else if ¬ r.Ready (sectorStart first) (sectorStart last + sectorSize last) then
    (.STATUS_SECTOR_NOT_PREPARED_FOR_WRITE_OPERATION, r)
  else
    (.STATUS_CMD_SUCCESS,
      { flash := fun a =>
          if sectorStart first ≤ a ∧ a < sectorStart last + sectorSize last then 0xFF else r.flash a
        prepared := fun _ => false })

def blankCheck (first last : Nat) (r : Rom) : IapStatus × Rom :=
  if ¬ (first ≤ last ∧ last < 30) then (.STATUS_INVALID_SECTOR, r)
  else if (slice r.flash (sectorStart first)
      (sectorStart last + sectorSize last - sectorStart first)).all (· == 0xFF) then
    (.STATUS_CMD_SUCCESS, r)
  else (.STATUS_SECTOR_NOT_BLANK, r)

def entry : IapCommand → Rom → IapStatus × Rom
  | .CMD_PREPARE_SECTORS first last => prepare first last
  | .CMD_COPY_RAM_TO_FLASH dst buffer count _ => copy dst.toNat buffer count
  | .CMD_ERASE_SECTORS first last _ => erase first last
  | .CMD_BLANK_CHECK_SECTORS first last => blankCheck first last

theorem entry_ne_busy (cmd : IapCommand) (r : Rom) : (entry cmd r).1 ≠ .STATUS_BUSY := by
  cases cmd with
  | CMD_PREPARE_SECTORS first last => simp only [entry, prepare]; split <;> simp
  | CMD_COPY_RAM_TO_FLASH dst buffer count cclk =>
      simp only [entry, copy]
      repeat' split
      all_goals simp
  | CMD_ERASE_SECTORS first last cclk =>
      simp only [entry, erase]
      repeat' split
      all_goals simp
  | CMD_BLANK_CHECK_SECTORS first last =>
      simp only [entry, blankCheck]
      repeat' split
      all_goals simp

theorem copy_cases (dst : Nat) (buffer : Nat → UInt8) (count : Nat) (r : Rom) :
    ((copy dst buffer count r).1 ≠ .STATUS_CMD_SUCCESS ∧ (copy dst buffer count r).2 = r) ∨
      (dst + count ≤ flashEnd ∧ (copy dst buffer count r).2.flash =
        fill r.flash dst count (fun i => r.flash (dst + i) &&& buffer i)) := by
  unfold copy
  split
  · exact .inl ⟨by simp, rfl⟩
  split
  · exact .inl ⟨by simp, rfl⟩
  split
  · exact .inl ⟨by simp, rfl⟩
  split
  · exact .inl ⟨by simp, rfl⟩
  · exact .inr ⟨by omega, rfl⟩

end Rom

/-- A board with this ROM, without descriptors, whose memory behind the flash reads as zero. -/
def reference : Platform Rom where
  iap_entry := Rom.entry
  flash := Rom.flash
  busyLeft _ := 0
  busy_lt cmd r h := absurd h (Rom.entry_ne_busy cmd r)
  ram _ := 0
  SystemCoreClock := 120000000
  CALLBACK_USB_GetDescriptor _ _ := []
  Endpoint_IsStalled _ := false

/-- An erased flash. -/
def Rom.blank : Rom := ⟨fun _ => 0xFF, fun _ => false⟩

/-- The sectors between two sectors cover the addresses between them. -/
theorem inSector_between {first last a : Nat} (hfirst : first < 30) (hlast : last < 30)
    (hlo : sectorStart first ≤ a) (hhi : a < sectorStart last + sectorSize last) :
    ∃ i, first ≤ i ∧ i ≤ last ∧ InSector i a := by
  have hend : sectorStart last + sectorSize last ≤ flashEnd := by
    unfold sectorStart sectorSize flashEnd
    split <;> omega
  have hle : sectorOf a ≤ last := by
    rcases Nat.lt_or_ge a (sectorStart last) with h | h
    · exact sectorOf_sectorStart hlast ▸ sectorOf_mono h.le
    · exact (inSector_iff.mpr ⟨hlast, h, hhi⟩ : InSector last a).eq.ge
  exact ⟨sectorOf a, sectorOf_sectorStart hfirst ▸ sectorOf_mono hlo, hle,
    inSector_sectorOf (by omega)⟩

theorem reference_confined : Confined reference where
  prepare first last r := by
    change (Rom.prepare first last r).2.flash = r.flash
    unfold Rom.prepare
    split <;> rfl
  copy dst buffer count cclk r := by
    change Changed r.flash (Rom.copy dst.toNat buffer count r).2.flash ⊆ _
    rcases Rom.copy_cases dst.toNat buffer count r with ⟨-, h⟩ | ⟨-, h⟩
    · rw [h, changed_self]
      exact Set.empty_subset _
    · rw [h]
      exact changed_fill_subset _ _ _ _
  erase first last cclk r := by
    change Changed r.flash (Rom.erase first last r).2.flash ⊆ _
    unfold Rom.erase
    repeat' split
    · exact (changed_self r.flash).le.trans (Set.empty_subset _)
    · exact (changed_self r.flash).le.trans (Set.empty_subset _)
    · rename_i h _
      intro a ha
      by_cases hin : sectorStart first ≤ a ∧ a < sectorStart last + sectorSize last
      · exact inSector_between (by omega) (by omega) hin.1 hin.2
      · exact absurd (if_neg hin).symm ha

theorem reference_programs : Programs reference (fun r s => r.prepared s = true) where
  busy cmd r h := absurd h (Rom.entry_ne_busy cmd r)
  prepare s r hs _ := by
    change (Rom.prepare s s r).1 = _ ∧ (Rom.prepare s s r).2.flash = r.flash ∧
      (Rom.prepare s s r).2.prepared s = true
    unfold Rom.prepare
    rw [if_pos (by omega)]
    simp
  copy dst buffer count cclk r hal hcount hne hend hprep herased _ := by
    have hready : r.Ready dst.toNat (dst.toNat + count) := by
      intro s hs hlo hhi
      have hsize : 0 < sectorSize s := by unfold sectorSize; split <;> omega
      refine hprep s (max dst.toNat (sectorStart s)) (inSector_iff.mpr ⟨hs, ?_, ?_⟩) ?_ ?_ <;> omega
    change (Rom.copy dst.toNat buffer count r).1 = _ ∧
      (Rom.copy dst.toNat buffer count r).2.flash = _
    unfold Rom.copy
    rw [if_neg (by omega), if_neg (by omega), if_neg (by simp [hcount, hne]),
      if_neg (not_not.mpr hready)]
    refine ⟨rfl, ?_⟩
    change fill r.flash dst.toNat count (fun i => r.flash (dst.toNat + i) &&& buffer i) =
      fill r.flash dst.toNat count buffer
    refine fill_congr (fun i hi => ?_)
    change ∀ a, _ → _ → r.flash a = 0xFF at herased
    rw [herased _ (by omega) (by omega)]
    exact UInt8.neg_one_and

theorem reference_reflashes : Reflashes reference (fun r s => r.prepared s = true) where
  toPrograms := reference_programs
  erase s cclk r hs hprep _ := by
    have hready : r.Ready (sectorStart s) (sectorStart s + sectorSize s) := by
      intro i hi hlo hhi
      have hi' := sectorSize_pos i
      have hs' := sectorSize_pos s
      -- the two sectors have an address in common
      have hmem : InSector i (max (sectorStart i) (sectorStart s)) :=
        inSector_iff.mpr ⟨hi, by omega, by omega⟩
      have hmem' : InSector s (max (sectorStart i) (sectorStart s)) :=
        inSector_iff.mpr ⟨hs, by omega, by omega⟩
      rw [hmem.eq.trans hmem'.eq.symm]
      exact hprep
    change (Rom.erase s s r).1 = _ ∧ Erases s s r.flash (Rom.erase s s r).2.flash
    unfold Rom.erase
    rw [if_neg (by omega), if_neg (not_not.mpr hready)]
    refine ⟨rfl, fun i a hlo hhi hi => ?_, fun a hout => ?_⟩
    · obtain rfl : i = s := by omega
      exact if_pos (inSector_iff.mp hi).2
    · exact if_neg fun hin => hout s (Nat.le_refl _) (Nat.le_refl _) (inSector_iff.mpr ⟨hs, hin⟩)

theorem reference_checks : Checks reference (fun r s => r.prepared s = true) where
  toReflashes := reference_reflashes
  blankCheck s r hs _ := by
    have hall : (slice r.flash (sectorStart s)
        (sectorStart s + sectorSize s - sectorStart s)).all (· == 0xFF) = true ↔
          ¬ ∃ a, InSector s a ∧ r.flash a ≠ 0xFF := by
      simp only [List.all_eq_true, slice, List.mem_map, List.mem_range, forall_exists_index, and_imp,
        forall_apply_eq_imp_iff₂, beq_iff_eq, inSector_iff, not_exists, not_and, not_not]
      constructor
      · intro h a _ hlo hhi
        have hbyte := h (a - sectorStart s) (by omega)
        rwa [Nat.add_sub_cancel' hlo] at hbyte
      · intro h i hi
        exact h _ hs (by omega) (by omega)
    change (Rom.blankCheck s s r).2.flash = r.flash ∧ ((Rom.blankCheck s s r).1 = _ ↔ _)
    unfold Rom.blankCheck
    rw [if_neg (by omega)]
    split
    · rename_i hblank
      refine ⟨rfl, ?_, fun h => absurd h (hall.mp hblank)⟩
      intro h
      cases h
    · rename_i hnot
      exact ⟨rfl, fun _ => not_not.mp (mt hall.mpr hnot), fun _ => rfl⟩

/-! ## A ROM that stores what it is given -/

/-- A copy that also sets bits. -/
def Rom.overwrite (dst : Nat) (buffer : Nat → UInt8) (count : Nat) (r : Rom) : IapStatus × Rom :=
  ((Rom.copy dst buffer count r).1,
    if (Rom.copy dst buffer count r).1 = .STATUS_CMD_SUCCESS then
      { flash := fill r.flash dst count buffer, prepared := fun _ => false }
    else r)

def Rom.entryOver : IapCommand → Rom → IapStatus × Rom
  | .CMD_COPY_RAM_TO_FLASH dst buffer count _ => Rom.overwrite dst.toNat buffer count
  | cmd => Rom.entry cmd

theorem Rom.entryOver_ne_busy (cmd : IapCommand) (r : Rom) :
    (Rom.entryOver cmd r).1 ≠ .STATUS_BUSY := by
  cases cmd with
  | CMD_COPY_RAM_TO_FLASH dst buffer count cclk =>
      exact Rom.entry_ne_busy (.CMD_COPY_RAM_TO_FLASH dst buffer count cclk) r
  | CMD_PREPARE_SECTORS first last => exact Rom.entry_ne_busy (.CMD_PREPARE_SECTORS first last) r
  | CMD_ERASE_SECTORS first last cclk => exact Rom.entry_ne_busy (.CMD_ERASE_SECTORS first last cclk) r
  | CMD_BLANK_CHECK_SECTORS first last =>
      exact Rom.entry_ne_busy (.CMD_BLANK_CHECK_SECTORS first last) r

def overwriting : Platform Rom :=
  { reference with
    iap_entry := Rom.entryOver
    busy_lt := fun cmd r h => absurd h (Rom.entryOver_ne_busy cmd r) }

theorem Rom.copy_success {dst count : Nat} {buffer : Nat → UInt8} {r : Rom}
    (h : (Rom.copy dst buffer count r).1 = .STATUS_CMD_SUCCESS) :
    LegalCopy dst count ∧ r.Ready dst (dst + count) := by
  unfold Rom.copy at h
  split at h
  · cases h
  split at h
  · cases h
  split at h
  · cases h
  split at h
  · cases h
  · rename_i hal hend hcount hready
    rw [not_or, not_not] at hcount
    exact ⟨⟨not_not.mp hal, hcount.1, hcount.2, Nat.le_of_not_lt hend⟩, not_not.mp hready⟩

theorem overwriting_allOrNothing :
    AllOrNothing overwriting (fun r s => r.prepared s = true) where
  busy cmd r h := absurd h (Rom.entryOver_ne_busy cmd r)
  prepare first last r := by
    change (Rom.prepare first last r).2.flash = r.flash ∧
      ((Rom.prepare first last r).1 = _ → last < 30 ∧
        ∀ s, (Rom.prepare first last r).2.prepared s = true ↔ first ≤ s ∧ s ≤ last)
    unfold Rom.prepare
    split
    · rename_i h
      exact ⟨rfl, fun _ => ⟨h.2, fun s => by simp⟩⟩
    · exact ⟨rfl, fun h => nomatch h⟩
  erase first last cclk r hprep := by
    change ((Rom.erase first last r).1 = _ → Erases first last r.flash (Rom.erase first last r).2.flash) ∧
      ((Rom.erase first last r).1 ≠ _ → (Rom.erase first last r).2.flash = r.flash)
    unfold Rom.erase
    split
    · exact ⟨fun h => (nomatch h), fun _ => rfl⟩
    split
    · exact ⟨fun h => (nomatch h), fun _ => rfl⟩
    · rename_i hrange _
      refine ⟨fun _ => ⟨fun i a hfirst hlast hi => ?_, fun a hout => ?_⟩, fun h => absurd rfl h⟩
      · obtain ⟨-, hlo, hhi⟩ := inSector_iff.mp hi
        have hstart := sectorStart_mono hfirst
        have hend := sectorEnd_mono hlast
        exact if_pos ⟨by omega, by omega⟩
      · refine if_neg fun hin => ?_
        obtain ⟨i, hfirst, hlast, hi⟩ := inSector_between (by omega) (by omega) hin.1 hin.2
        exact hout i hfirst hlast hi
  copy dst buffer count cclk r := by
    change ((Rom.copy dst.toNat buffer count r).1 = _ → _ ∧ _ ∧
        (Rom.overwrite dst.toNat buffer count r).2.flash = _) ∧
      ((Rom.copy dst.toNat buffer count r).1 ≠ _ →
        (Rom.overwrite dst.toNat buffer count r).2.flash = r.flash)
    unfold Rom.overwrite
    refine ⟨fun h => ?_, fun h => by rw [if_neg h]⟩
    obtain ⟨hlegal, hready⟩ := Rom.copy_success h
    rw [if_pos h]
    refine ⟨hlegal, fun s a hs hlo hhi => ?_, rfl⟩
    obtain ⟨h30, hstart, hend⟩ := inSector_iff.mp hs
    exact hready s h30 (by omega) (by omega)

/-- A ROM that knows the sectors below `n` only, and never changes the flash. -/
def sectorsBelow (n : Nat) : Platform Unit where
  iap_entry
    | .CMD_PREPARE_SECTORS _ last, r =>
        (if last < n then .STATUS_CMD_SUCCESS else .STATUS_INVALID_SECTOR, r)
    | _, r => (.STATUS_CMD_SUCCESS, r)
  flash _ _ := 0xFF
  busyLeft _ := 0
  busy_lt cmd r h := by
    cases cmd with
    | CMD_PREPARE_SECTORS first last => dsimp only at h; split at h <;> cases h
    | _ => cases h
  ram _ := 0
  SystemCoreClock := 120000000
  CALLBACK_USB_GetDescriptor _ _ := []
  Endpoint_IsStalled _ := false

theorem sectorsBelow_erase (n : Nat) (address : UInt32) :
    (iap_erase (sectorsBelow n) address ()).1 = decide (sector_by_address address < n) := by
  have hprepare (s : Nat) : ExecuteCommand (sectorsBelow n) (.CMD_PREPARE_SECTORS s s) () =
      (if s < n then .STATUS_CMD_SUCCESS else .STATUS_INVALID_SECTOR, ()) := rfl
  have herase (s cclk : Nat) : ExecuteCommand (sectorsBelow n) (.CMD_ERASE_SECTORS s s cclk) () =
      (.STATUS_CMD_SUCCESS, ()) := rfl
  simp only [iap_erase, hprepare, herase]
  by_cases h : sector_by_address address < n
  · simp only [h, if_true, ne_eq, not_true_eq_false, if_false, decide_true]
  · simp only [h, if_false, ne_eq, reduceCtorEq, not_false_eq_true, if_true, decide_false]

end DfuSeBootloader.Iap
