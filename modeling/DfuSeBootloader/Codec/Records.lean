import Mathlib.Data.List.Basic
import Mathlib.Tactic.Common

/-!
# Records and words

Numbers of two bytes, lowest byte first, and sequences of records that begin with their own length.
-/

namespace DfuSeBootloader.Codec

/-! ## Numbers of two bytes -/

def low (n : UInt16) : UInt8 := n.toUInt8

def high (n : UInt16) : UInt8 := (n >>> 8).toUInt8

def word (a b : UInt8) : UInt16 := a.toUInt16 + b.toUInt16 <<< 8

theorem word_low_high (n : UInt16) : word (low n) (high n) = n := by
  apply UInt16.toNat_inj.mp
  simp only [word, low, high, UInt16.toNat_add, UInt16.toNat_shiftLeft, UInt8.toNat_toUInt16,
    UInt16.toNat_toUInt8, UInt16.toNat_shiftRight, Nat.shiftRight_eq_div_pow, Nat.shiftLeft_eq]
  have hshift : 2 ^ ((8 : UInt16).toNat % 16) = 256 := rfl
  have hn := n.toNat_lt
  rw [hshift]
  omega

theorem toNat_word (a b : UInt8) : (word a b).toNat = a.toNat + 256 * b.toNat := by
  simp only [word, UInt16.toNat_add, UInt16.toNat_shiftLeft, UInt8.toNat_toUInt16,
    Nat.shiftLeft_eq]
  have hshift : 2 ^ ((8 : UInt16).toNat % 16) = 256 := rfl
  have ha := a.toNat_lt
  have hb := b.toNat_lt
  rw [hshift]
  omega

theorem low_word (a b : UInt8) : low (word a b) = a := by
  apply UInt8.toNat_inj.mp
  have ha := a.toNat_lt
  rw [low, UInt16.toNat_toUInt8, toNat_word]
  omega

theorem high_word (a b : UInt8) : high (word a b) = b := by
  apply UInt8.toNat_inj.mp
  have hshift : 2 ^ ((8 : UInt16).toNat % 16) = 256 := rfl
  have ha := a.toNat_lt
  have hb := b.toNat_lt
  rw [high, UInt16.toNat_toUInt8, UInt16.toNat_shiftRight, Nat.shiftRight_eq_div_pow, toNat_word,
    hshift]
  omega

/-- The bytes of a number. -/
def le16 (n : UInt16) : List UInt8 := [low n, high n]

/-- The numbers that a sequence of bytes holds. -/
def words : List UInt8 → Option (List UInt16)
  | [] => some []
  | [_] => none
  | a :: b :: l => (words l).map (word a b :: ·)

theorem words_le16 (ns : List UInt16) : words (ns.flatMap le16) = some ns := by
  induction ns with
  | nil => rfl
  | cons n ns ih =>
      rw [List.flatMap_cons, le16, List.cons_append, List.cons_append, List.nil_append, words, ih,
        Option.map_some, word_low_high]

/-! ## Records -/

/-- A record begins with its length, and with one byte more at the least. -/
structure Record (r : List UInt8) : Prop where
  head : r.head? = some r.length.toUInt8
  two : 2 ≤ r.length
  short : r.length < 256

instance (r : List UInt8) : Decidable (Record r) :=
  decidable_of_iff (r.head? = some r.length.toUInt8 ∧ 2 ≤ r.length ∧ r.length < 256)
    ⟨fun h => ⟨h.1, h.2.1, h.2.2⟩, fun h => ⟨h.head, h.two, h.short⟩⟩

/-- The records of a sequence of bytes, at most `fuel` of them. -/
def recordsUpTo : Nat → List UInt8 → Option (List (List UInt8))
  | _, [] => some []
  | 0, _ :: _ => none
  | fuel + 1, n :: l =>
      if 2 ≤ n.toNat ∧ n.toNat ≤ (n :: l).length then
        (recordsUpTo fuel ((n :: l).drop n.toNat)).map ((n :: l).take n.toNat :: ·)
      else none

/-- The records of a sequence of bytes. -/
def records (l : List UInt8) : Option (List (List UInt8)) := recordsUpTo l.length l

theorem Record.toNat_head {r : List UInt8} (h : Record r) : ∃ n l, r = n :: l ∧ n.toNat = r.length := by
  obtain ⟨hhead, -, hshort⟩ := h
  cases r with
  | nil => simp at hhead
  | cons n l =>
      refine ⟨n, l, rfl, ?_⟩
      have hn : n = (n :: l).length.toUInt8 := Option.some.inj hhead
      exact (congrArg UInt8.toNat hn).trans
        ((UInt8.toNat_ofNat' ..).trans (Nat.mod_eq_of_lt hshort))

theorem records_flatten {rs : List (List UInt8)} {fuel : Nat} (hrs : ∀ r ∈ rs, Record r)
    (hfuel : rs.flatten.length ≤ fuel) : recordsUpTo fuel rs.flatten = some rs := by
  induction rs generalizing fuel with
  | nil => cases fuel <;> rfl
  | cons r rs ih =>
      have hr := hrs r List.mem_cons_self
      obtain ⟨n, l, hnl, hn⟩ := hr.toNat_head
      have htwo := hr.two
      have hcons : (r :: rs).flatten = n :: (l ++ rs.flatten) := by
        rw [List.flatten_cons, hnl, List.cons_append]
      have happ : n :: (l ++ rs.flatten) = r ++ rs.flatten := by rw [hnl, List.cons_append]
      rw [List.flatten_cons, List.length_append] at hfuel
      obtain ⟨k, rfl⟩ : ∃ k, fuel = k + 1 := ⟨fuel - 1, by omega⟩
      rw [hcons, recordsUpTo, happ, hn, List.drop_left, List.take_left,
        ih (fun r' hr' => hrs r' (List.mem_cons_of_mem _ hr')) (by omega), Option.map_some,
        if_pos ⟨htwo, by rw [List.length_append]; exact Nat.le_add_right _ _⟩]

theorem flatten_records {l : List UInt8} {rs : List (List UInt8)} {fuel : Nat}
    (h : recordsUpTo fuel l = some rs) : (∀ r ∈ rs, Record r) ∧ rs.flatten = l := by
  induction fuel generalizing l rs with
  | zero =>
      cases l with
      | nil => cases h; simp
      | cons n l => cases h
  | succ fuel ih =>
      cases l with
      | nil => cases h; simp
      | cons n l =>
          rw [recordsUpTo] at h
          split at h
          · rename_i hlen
            obtain ⟨rs', hrs', rfl⟩ := Option.map_eq_some_iff.mp h
            obtain ⟨hall, hflat⟩ := ih hrs'
            have htake : ((n :: l).take n.toNat).length = n.toNat := List.length_take_of_le hlen.2
            refine ⟨List.forall_mem_cons.mpr ⟨⟨?_, ?_, ?_⟩, hall⟩, ?_⟩
            · rw [htake, Nat.toUInt8, UInt8.ofNat_toNat, List.head?_take, if_neg (by omega)]
              rfl
            · rw [htake]
              exact hlen.1
            · rw [htake]
              exact n.toNat_lt
            · rw [List.flatten_cons, hflat, List.take_append_drop]
          · cases h

/-- Bytes are read as the one sequence of records that they are. -/
theorem records_eq_some {l : List UInt8} {rs : List (List UInt8)} :
    records l = some rs ↔ (∀ r ∈ rs, Record r) ∧ rs.flatten = l := by
  constructor
  · exact flatten_records
  · rintro ⟨hrs, rfl⟩
    exact records_flatten hrs (Nat.le_refl _)

end DfuSeBootloader.Codec
