import DfuSeBootloader.Utils.Compare
import Mathlib.Data.List.Forall2

/-!
# Letter case in a comparison

The header promises that `utils_compare_string` does not depend on letter case, for Russian letters
too. What stands against it is the row of the soft sign in `CharMap`.
-/

namespace DfuSeBootloader.Utils

/-! ## Code page 1251 -/

/-- The upper-case form of a small letter. -/
def capital (a : UInt8) : Option UInt8 :=
  if 0x61 ≤ a ∧ a ≤ 0x7A then some (a - 0x20)
  else if 0xE0 ≤ a then some (a - 0x20)
  else if a = 0xB8 then some 0xA8
  else none

def SameLetter (a b : UInt8) : Prop := a = b ∨ capital a = some b ∨ capital b = some a

/-- Strings of one length that differ in letter case only. -/
def SameLetters (s t : NulString) : Prop := List.Forall₂ SameLetter s.chars t.chars

/-- The capital `Ь` and the small `ь`. -/
def SoftSign (a : UInt8) : Prop := a = 0xDC ∨ a = 0xFC

/-- For this pattern the comparison takes a buffer and the same letters in other cases alike. -/
def IgnoresCase (partial_search : Bool) (pattern : NulString) : Prop :=
  ∀ s t : NulString, SameLetters s t →
    utils_compare_string partial_search pattern.memory s.memory =
      utils_compare_string partial_search pattern.memory t.memory

instance (a : UInt8) : Decidable (SoftSign a) := inferInstanceAs (Decidable (_ ∨ _))

instance (a b : UInt8) : Decidable (SameLetter a b) := inferInstanceAs (Decidable (_ ∨ _))

/-! ## The upper case of the program -/

theorem utils_to_upper_latin {a : UInt8} (h : 0x61 ≤ a ∧ a ≤ 0x7A) :
    utils_to_upper a = a - 0x20 := by
  rw [utils_to_upper, if_pos h, toupper, if_pos h]

theorem utils_to_upper_fixed {a : UInt8} (h : 0x41 ≤ a ∧ a ≤ 0x5A) : utils_to_upper a = a := by
  rw [utils_to_upper, if_neg, if_pos h]
  intro hsmall
  exact absurd (UInt8.le_trans hsmall.1 h.2) (by decide)

/-- The result is the byte itself, or it comes from the Latin branch or from a row of the table. -/
theorem utils_to_upper_cases (a : UInt8) : utils_to_upper a = a ∨
    (0x61 ≤ a ∧ a ≤ 0x7A) ∨ ∃ link ∈ CharMap, utils_to_upper a = link.to_char := by
  by_cases hlatin : 0x61 ≤ a ∧ a ≤ 0x7A
  · exact .inr (.inl hlatin)
  rw [utils_to_upper, if_neg hlatin]
  split
  · exact .inl rfl
  dsimp only
  split
  · exact .inl rfl
  · rename_i hfound
    unfold find_char_in_map at hfound ⊢
    split at hfound
    · rename_i link hlink
      exact .inr (.inr ⟨link, List.mem_of_find?_eq_some hlink, rfl⟩)
    · contradiction

theorem latin_capital {a : UInt8} (h : 0x61 ≤ a ∧ a ≤ 0x7A) : 0x41 ≤ a - 0x20 ∧ a - 0x20 ≤ 0x5A := by
  have hle : (0x20 : UInt8) ≤ a := UInt8.le_trans (by decide) h.1
  simp only [UInt8.le_iff_toNat_le, UInt8.toNat_sub_of_le _ _ hle, UInt8.reduceToNat] at h ⊢
  omega

theorem utils_to_upper_idem (a : UInt8) : utils_to_upper (utils_to_upper a) = utils_to_upper a := by
  have hrows : ∀ link ∈ CharMap, utils_to_upper link.to_char = link.to_char := by decide
  obtain h | h | ⟨link, hlink, h⟩ := utils_to_upper_cases a
  · rw [h, h]
  · rw [utils_to_upper_latin h]
    exact utils_to_upper_fixed (latin_capital h)
  · rw [h, hrows link hlink]

/-- The rows of the small letters from `а` to `я`, the one of the soft sign apart. -/
theorem utils_to_upper_cyrillic {a : UInt8} (h : 0xE0 ≤ a) (hsoft : a ≠ 0xFC) :
    utils_to_upper a = a - 0x20 := by
  have hrows : ∀ n < 32, 0xE0 + n ≠ 0xFC →
      utils_to_upper (UInt8.ofNat (0xE0 + n)) = UInt8.ofNat (0xE0 + n) - 0x20 := by decide +kernel
  obtain ⟨n, hn⟩ := Nat.exists_eq_add_of_le (UInt8.le_iff_toNat_le.mp h)
  have hn32 : n < 32 := Nat.lt_of_add_lt_add_left (hn ▸ a.toNat_lt)
  obtain rfl : a = UInt8.ofNat (0xE0 + n) := by
    rw [← UInt8.ofNat_toNat (x := a), hn]
    rfl
  apply hrows n hn32
  intro heq
  rw [heq] at hsoft
  exact hsoft rfl

theorem utils_to_upper_eq_capital {a b : UInt8} (h : capital a = some b) (hsoft : a ≠ 0xFC) :
    utils_to_upper a = b := by
  unfold capital at h
  split at h
  · rename_i hlatin
    cases h
    exact utils_to_upper_latin hlatin
  split at h
  · rename_i hcyrillic
    cases h
    exact utils_to_upper_cyrillic hcyrillic hsoft
  split at h
  · cases h
    subst a
    decide
  · contradiction

theorem softSign_of_capital {a b : UInt8} (h : capital a = some b) (hsoft : a = 0xFC) :
    SoftSign a ∧ SoftSign b := by
  subst a
  cases h
  decide

/-- The program gives all forms of a letter one upper case, the soft sign apart. -/
theorem SameLetter.cases {a b : UInt8} (h : SameLetter a b) :
    utils_to_upper a = utils_to_upper b ∨ (SoftSign a ∧ SoftSign b) := by
  have hcapital : ∀ {a b}, capital a = some b →
      utils_to_upper a = utils_to_upper b ∨ (SoftSign a ∧ SoftSign b) := by
    intro a b h
    by_cases hsoft : a = 0xFC
    · exact .inr (softSign_of_capital h hsoft)
    · rw [← utils_to_upper_eq_capital h hsoft, utils_to_upper_idem]
      exact .inl rfl
  obtain rfl | h | h := h
  · exact .inl rfl
  · exact hcapital h
  · exact (hcapital h).imp Eq.symm And.symm

/-! ## Characters that fit -/

theorem fits_congr {b a a' : UInt8} (h : utils_to_upper a = utils_to_upper a') :
    Fits b a ↔ Fits b a' := by
  rw [Fits, Fits, h]

/-- Only capitals are transliterated, and the soft sign has no Latin form. -/
theorem utils_transliterate_cases (b : UInt8) : utils_transliterate_ru_to_en b = b ∨
    (utils_to_upper b = b ∧ ¬ SoftSign (utils_transliterate_ru_to_en b)) := by
  unfold utils_transliterate_ru_to_en
  repeat
    refine iteInduction (motive := fun c => c = b ∨ (utils_to_upper b = b ∧ ¬ SoftSign c))
      (fun h => .inr (by subst h; decide)) fun _ => ?_
  exact .inl rfl

/-- A character that the upper case changes is fitted by nothing. -/
theorem utils_to_upper_of_fits {b a : UInt8} (h : Fits b a) : utils_to_upper b = b := by
  obtain h | h := h
  · rw [← h, utils_to_upper_idem]
  · obtain hb | ⟨hb, -⟩ := utils_transliterate_cases b
    · rw [← hb, ← h, utils_to_upper_idem]
    · exact hb

/-- The soft sign, small or capital, fits itself only. -/
theorem fits_softSign {b a : UInt8} (h : SoftSign a) : Fits b a ↔ b = a := by
  have hupper : utils_to_upper a = a := by obtain rfl | rfl := h <;> decide
  rw [Fits, hupper]
  constructor
  · rintro (rfl | heq)
    · rfl
    · rw [heq]
      exact ((utils_transliterate_cases b).resolve_right fun hb => hb.2 (heq ▸ h)).symm
  · rintro rfl
    exact .inl rfl

theorem fits_sameLetter {b a a' : UInt8} (hb : ¬ SoftSign b) (h : SameLetter a a') :
    Fits b a ↔ Fits b a' := by
  obtain h | ⟨ha, ha'⟩ := h.cases
  · exact fits_congr h
  · rw [fits_softSign ha, fits_softSign ha']
    constructor
    · rintro rfl
      contradiction
    · rintro rfl
      contradiction

/-! ## Comparisons -/

theorem SameLetters.memory {s t : NulString} (h : SameLetters s t) :
    List.Forall₂ SameLetter s.memory t.memory :=
  List.rel_append h (.cons (.inl rfl) .nil)

theorem covers_congr {p s t : List UInt8} (hp : ∀ b ∈ p, ¬ SoftSign b)
    (h : List.Forall₂ SameLetter s t) : Covers p s ↔ Covers p t := by
  induction h generalizing p with
  | nil => rfl
  | cons hletter _ ih =>
      cases p with
      | nil => simp [covers_nil]
      | cons b p =>
          rw [covers_cons, covers_cons, fits_sameLetter (hp b List.mem_cons_self) hletter,
            ih fun c hc => hp c (List.mem_cons_of_mem _ hc)]

variable {partial_search : Bool} {pattern s t : NulString}

theorem compare_eq_iff (hlength : s.chars.length = t.chars.length) :
    utils_compare_string partial_search pattern.memory s.memory =
        utils_compare_string partial_search pattern.memory t.memory ↔
      ((partial_search = false → s.chars.length = pattern.chars.length) →
        (Covers pattern.chars s.memory ↔ Covers pattern.chars t.memory)) := by
  obtain ⟨_, hs, hsr⟩ := @compare_loop partial_search _ _ pattern.no_nul s.no_nul
  obtain ⟨_, ht, htr⟩ := @compare_loop partial_search _ _ pattern.no_nul t.no_nul
  unfold NulString.memory
  rw [hs, ht, Option.some_inj, Bool.eq_iff_iff, hsr, htr, hlength]
  exact and_congr_left_iff

theorem ignoresCase_of_covers_iff
    (h : ∀ s t, SameLetters s t → (Covers pattern.chars s.memory ↔ Covers pattern.chars t.memory)) :
    IgnoresCase partial_search pattern := by
  intro s t hletters
  rw [compare_eq_iff hletters.length_eq]
  intro _
  exact h s t hletters

theorem not_covers_of_upper_ne {p s : List UInt8} {b : UInt8} (hb : b ∈ p)
    (hupper : utils_to_upper b ≠ b) : ¬ Covers p s := by
  intro hcovers
  obtain ⟨i, hi⟩ := List.getElem?_of_mem hb
  obtain ⟨_, _, hfits⟩ := hcovers i b hi
  exact hupper (utils_to_upper_of_fits hfits)

/-! ## The pattern with its soft signs in the other case -/

def swapSoftSign (a : UInt8) : UInt8 := if a = 0xDC then 0xFC else if a = 0xFC then 0xDC else a

theorem sameLetter_swapSoftSign (a : UInt8) : SameLetter a (swapSoftSign a) := by
  unfold swapSoftSign
  split
  · subst a
    decide
  split
  · subst a
    decide
  · exact .inl rfl

theorem softSign_swapSoftSign {a : UInt8} (h : SoftSign a) :
    SoftSign (swapSoftSign a) ∧ a ≠ swapSoftSign a := by
  obtain rfl | rfl := h <;> decide

theorem swapSoftSign_ne_zero {a : UInt8} (h : a ≠ 0) : swapSoftSign a ≠ 0 := by
  unfold swapSoftSign
  split
  · decide
  split
  · decide
  · exact h

def NulString.swapSoftSigns (s : NulString) : NulString where
  chars := s.chars.map swapSoftSign
  no_nul := by
    intro h
    obtain ⟨a, ha, hzero⟩ := List.mem_map.mp h
    exact swapSoftSign_ne_zero (fun h => s.no_nul (h ▸ ha)) hzero

theorem sameLetters_swapSoftSigns (s : NulString) : SameLetters s s.swapSoftSigns :=
  List.forall₂_map_right_iff.mpr (List.forall₂_same.mpr fun a _ => sameLetter_swapSoftSign a)

theorem covers_self (hupper : ∀ b ∈ s.chars, utils_to_upper b = b) : Covers s.chars s.memory := by
  intro i b hi
  have hb := List.mem_of_getElem? hi
  obtain ⟨hlt, -⟩ := List.getElem?_eq_some_iff.mp hi
  exact ⟨b, by rw [NulString.memory, List.getElem?_append_left hlt, hi], .inl (hupper b hb)⟩

theorem not_covers_swapSoftSigns {b : UInt8} (hb : b ∈ s.chars) (hsoft : SoftSign b) :
    ¬ Covers s.chars s.swapSoftSigns.memory := by
  intro hcovers
  obtain ⟨i, hi⟩ := List.getElem?_of_mem hb
  obtain ⟨hlt, -⟩ := List.getElem?_eq_some_iff.mp hi
  obtain ⟨a, ha, hfits⟩ := hcovers i b hi
  rw [NulString.memory, List.getElem?_append_left (by simpa [NulString.swapSoftSigns] using hlt),
    NulString.swapSoftSigns, List.getElem?_map, hi] at ha
  cases ha
  obtain ⟨hswapped, hne⟩ := softSign_swapSoftSign hsoft
  exact hne ((fits_softSign hswapped).mp hfits)

/-- The comparison ignores letter case but for the soft sign: a pattern with one is spared only if it
has a character that nothing fits. -/
theorem letter_case_ignored_iff (partial_search : Bool) (pattern : NulString) :
    IgnoresCase partial_search pattern ↔
      (∀ b ∈ pattern.chars, ¬ SoftSign b) ∨ ∃ b ∈ pattern.chars, utils_to_upper b ≠ b := by
  constructor
  · intro hignores
    by_contra! hne
    obtain ⟨⟨b, hb, hsoft⟩, hupper⟩ := hne
    have hletters := sameLetters_swapSoftSigns pattern
    have hiff := (compare_eq_iff hletters.length_eq).mp (hignores _ _ hletters) fun _ => rfl
    exact not_covers_swapSoftSigns hb hsoft (hiff.mp (covers_self hupper))
  · rintro (hsoft | ⟨b, hb, hupper⟩)
    · exact ignoresCase_of_covers_iff fun _ _ hletters => covers_congr hsoft hletters.memory
    · exact ignoresCase_of_covers_iff fun _ _ _ =>
        iff_of_false (not_covers_of_upper_ne hb hupper) (not_covers_of_upper_ne hb hupper)

/-- `ПУСК`, `пуск` and `Пуск` -/
theorem pusk_ignores_case :
    utils_compare_string false [0xCF, 0xD3, 0xD1, 0xCA, 0] [0xEF, 0xF3, 0xF1, 0xEA, 0] =
      utils_compare_string false [0xCF, 0xD3, 0xD1, 0xCA, 0] [0xCF, 0xF3, 0xF1, 0xEA, 0] :=
  (letter_case_ignored_iff false ⟨[0xCF, 0xD3, 0xD1, 0xCA], by decide⟩).mpr
    (.inl (by simp [SoftSign]))
    ⟨[0xEF, 0xF3, 0xF1, 0xEA], by decide⟩ ⟨[0xCF, 0xF3, 0xF1, 0xEA], by decide⟩
    (by simp [SameLetters, SameLetter, capital])

/-- The small soft sign is not taken for the capital one. -/
theorem softSign_case_matters :
    SameLetters ⟨[0xFC], by decide⟩ ⟨[0xDC], by decide⟩ ∧
      utils_compare_string false [0xDC, 0] [0xFC, 0] = some false ∧
      utils_compare_string false [0xDC, 0] [0xDC, 0] = some true := by
  refine ⟨?_, by decide, by decide⟩
  simp [SameLetters, SameLetter, capital]

end DfuSeBootloader.Utils
