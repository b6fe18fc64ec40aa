import Mathlib.Data.List.Basic

/-!
# Comparison of strings

`utils_compare_string` of `utils_srv.c` and what it calls. A plain `char` is unsigned, and the source
is written in code page 1251. A pointer is given by the bytes that may be read from it on; a read
behind the last one is `none`.
-/

namespace DfuSeBootloader.Utils

/-! ## The functions -/

structure sCharLink where
  from_char : UInt8
  to_char : UInt8
  deriving DecidableEq, Repr

/-- The small Cyrillic letters and their capitals. The row of the soft sign has the capital twice. -/
def CharMap : List sCharLink :=
  [⟨0xE0, 0xC0⟩, ⟨0xE1, 0xC1⟩, ⟨0xE2, 0xC2⟩, ⟨0xE3, 0xC3⟩, ⟨0xE4, 0xC4⟩, ⟨0xE5, 0xC5⟩,
    ⟨0xB8, 0xA8⟩, ⟨0xE6, 0xC6⟩, ⟨0xE7, 0xC7⟩, ⟨0xE8, 0xC8⟩, ⟨0xE9, 0xC9⟩, ⟨0xEA, 0xCA⟩,
    ⟨0xEB, 0xCB⟩, ⟨0xEC, 0xCC⟩, ⟨0xED, 0xCD⟩, ⟨0xEE, 0xCE⟩, ⟨0xEF, 0xCF⟩, ⟨0xF0, 0xD0⟩,
    ⟨0xF1, 0xD1⟩, ⟨0xF2, 0xD2⟩, ⟨0xF3, 0xD3⟩, ⟨0xF4, 0xD4⟩, ⟨0xF5, 0xD5⟩, ⟨0xF6, 0xD6⟩,
    ⟨0xF7, 0xD7⟩, ⟨0xF8, 0xD8⟩, ⟨0xF9, 0xD9⟩, ⟨0xFA, 0xDA⟩, ⟨0xFB, 0xDB⟩, ⟨0xDC, 0xDC⟩,
    ⟨0xFD, 0xDD⟩, ⟨0xFE, 0xDE⟩, ⟨0xFF, 0xDF⟩]

def find_char_in_map (symbol : UInt8) : UInt8 :=
  match CharMap.find? (·.from_char == symbol) with
  | some link => link.to_char
  | none => 0

/-- The function of the C library, on the letters that it is called for. -/
def toupper (a : UInt8) : UInt8 := if 0x61 ≤ a ∧ a ≤ 0x7A then a - 0x20 else a

def utils_to_upper (a : UInt8) : UInt8 :=
  if 0x61 ≤ a ∧ a ≤ 0x7A then toupper a
  else if 0x41 ≤ a ∧ a ≤ 0x5A then a
  else
    let result := find_char_in_map a
    if result = 0 then a else result

/-- The Latin letter that looks like a Cyrillic capital. -/
def utils_transliterate_ru_to_en (a : UInt8) : UInt8 :=
  if a = 0xC0 then 0x41
  else if a = 0xC2 then 0x42
  else if a = 0xC5 then 0x45
  else if a = 0xCA then 0x4B
  else if a = 0xCC then 0x4D
  else if a = 0xCD then 0x48
  else if a = 0xCE then 0x4F
  else if a = 0xD0 then 0x50
  else if a = 0xD1 then 0x43
  else if a = 0xD2 then 0x54
  else if a = 0xD5 then 0x58
  else a

def utils_compare_string (partial_search : Bool) : (ptr buf_ptr : List UInt8) → Option Bool
  | [], _ => none
  | b :: ptr, buf_ptr =>
      if b ≠ 0 then
        match buf_ptr with
        | [] => none
        | a :: buf_ptr =>
            let a := utils_to_upper a
            if b ≠ a ∧ utils_transliterate_ru_to_en b ≠ a then some false
            else utils_compare_string partial_search ptr buf_ptr
      else if partial_search then some true
      else
        match buf_ptr with
        | [] => none
        | a :: _ => if a ≠ 0 then some false else some true

/-! ## Letters -/

/-- The NUL byte is the only one that becomes a NUL byte. -/
theorem utils_to_upper_eq_zero {a : UInt8} : utils_to_upper a = 0 ↔ a = 0 := by
  constructor
  · intro h
    unfold utils_to_upper at h
    split at h
    · rename_i hsmall
      rw [toupper, if_pos hsmall] at h
      obtain rfl : a = 0 + 0x20 := by rw [← h, UInt8.sub_add_cancel]
      exact absurd hsmall.1 (by decide)
    split at h
    · exact h
    dsimp only at h
    split at h
    · exact h
    · contradiction
  · rintro rfl
    decide

theorem utils_transliterate_ru_to_en_ne_zero {a : UInt8} (h : a ≠ 0) :
    utils_transliterate_ru_to_en a ≠ 0 := by
  unfold utils_transliterate_ru_to_en
  repeat refine iteInduction (motive := (· ≠ 0)) (fun _ => by decide) fun _ => ?_
  exact h

/-! ## Strings -/

/-- A string of the program, without the NUL byte behind it. -/
structure NulString where
  chars : List UInt8
  no_nul : 0 ∉ chars

/-- The bytes that a pointer to the string may read. -/
def NulString.memory (s : NulString) : List UInt8 := s.chars ++ [0]

/-- The character `a` of the buffer fits the character `b` of the pattern. -/
def Fits (b a : UInt8) : Prop :=
  utils_to_upper a = b ∨ utils_to_upper a = utils_transliterate_ru_to_en b

/-- Every character of the pattern is fitted by the one in its place. -/
def Covers (pattern memory : List UInt8) : Prop :=
  ∀ (i : Nat) (b : UInt8), pattern[i]? = some b → ∃ a, memory[i]? = some a ∧ Fits b a

theorem covers_nil (memory : List UInt8) : Covers [] memory := by
  intro i b h
  cases h

theorem covers_cons {b a : UInt8} {pattern memory : List UInt8} :
    Covers (b :: pattern) (a :: memory) ↔ Fits b a ∧ Covers pattern memory := by
  constructor
  · intro h
    obtain ⟨_, ha, hfits⟩ := h 0 b rfl
    cases ha
    exact ⟨hfits, fun i => h (i + 1)⟩
  · rintro ⟨hfits, h⟩ i c hc
    cases i with
    | zero =>
        cases hc
        exact ⟨a, rfl, hfits⟩
    | succ i => exact h i c hc

theorem not_fits_nul {b : UInt8} (h : b ≠ 0) : ¬ Fits b 0 := by
  rintro (hb | hb)
  · exact h (hb.symm.trans (utils_to_upper_eq_zero.mpr rfl))
  · exact utils_transliterate_ru_to_en_ne_zero h (hb.symm.trans (utils_to_upper_eq_zero.mpr rfl))

theorem not_fits_iff {b a : UInt8} : ¬ Fits b a ↔
    b ≠ utils_to_upper a ∧ utils_transliterate_ru_to_en b ≠ utils_to_upper a := by
  rw [Fits, not_or, ne_comm (a := b), ne_comm (a := utils_transliterate_ru_to_en b)]

variable {partial_search : Bool}

theorem compare_end {s : List UInt8} (hs : 0 ∉ s) : ∃ result,
    utils_compare_string partial_search [0] (s ++ [0]) = some result ∧
      (result = true ↔ partial_search = false → s.length = 0) := by
  cases partial_search with
  | true => exact ⟨true, rfl, by simp⟩
  | false =>
      cases s with
      | nil => exact ⟨true, rfl, by simp⟩
      | cons a s =>
          have ha : a ≠ 0 := fun h => hs (h ▸ List.mem_cons_self)
          exact ⟨false, by simp [utils_compare_string, ha], by simp⟩

theorem compare_loop {p s : List UInt8} (hp : 0 ∉ p) (hs : 0 ∉ s) : ∃ result,
    utils_compare_string partial_search (p ++ [0]) (s ++ [0]) = some result ∧
      (result = true ↔ Covers p (s ++ [0]) ∧ (partial_search = false → s.length = p.length)) := by
  induction p generalizing s with
  | nil =>
      obtain ⟨result, heq, hiff⟩ := compare_end hs
      exact ⟨result, heq, hiff.trans (by simp [covers_nil])⟩
  | cons b p ih =>
      have hb : b ≠ 0 := fun h => hp (h ▸ List.mem_cons_self)
      have hp : 0 ∉ p := fun h => hp (List.mem_cons_of_mem _ h)
      cases s with
      | nil =>
          -- the NUL byte of the buffer fits nothing, so the loop stops at it
          have hnul := not_fits_nul hb
          refine ⟨false, ?_, by simp [covers_cons, hnul]⟩
          rw [List.cons_append, List.nil_append, utils_compare_string, if_pos hb]
          exact if_pos (not_fits_iff.mp hnul)
      | cons a s =>
          have hs : 0 ∉ s := fun h => hs (List.mem_cons_of_mem _ h)
          rw [List.cons_append, List.cons_append, utils_compare_string, if_pos hb, covers_cons]
          by_cases hfits : Fits b a
          · obtain ⟨result, heq, hiff⟩ := ih hp hs
            refine ⟨result, ?_, hiff.trans (by simp [hfits])⟩
            rw [← heq]
            exact if_neg (fun h => not_fits_iff.mpr h hfits)
          · exact ⟨false, if_pos (not_fits_iff.mp hfits), by simp [hfits]⟩

/-- The comparison never reads behind a NUL byte, and it accepts what its specification says. -/
theorem utils_compare_string_spec (partial_search : Bool) (pattern buf : NulString) : ∃ result,
    utils_compare_string partial_search pattern.memory buf.memory = some result ∧
      (result = true ↔ Covers pattern.chars buf.memory ∧
        (partial_search = false → buf.chars.length = pattern.chars.length)) :=
  compare_loop pattern.no_nul buf.no_nul

end DfuSeBootloader.Utils
