import DfuSeBootloader.Iap.Basic

/-!
# The memory map that the host reads

`flash_info_str` of `Descriptors.c`, and a reader for the format that the comment in front of it
describes: zones with a start address each, and in every zone groups of sectors of one size.
-/

namespace DfuSeBootloader.Usb
open Iap

def flash_info_str : String := "@Flash /0x00000000/16*004Kg,14*032Kg"

namespace MemoryMap

/-! ## Numbers -/

def digit (c : Char) : Option Nat :=
  if '0' ≤ c ∧ c ≤ '9' then some (c.toNat - 48)
  else if 'A' ≤ c ∧ c ≤ 'F' then some (c.toNat - 55)
  else if 'a' ≤ c ∧ c ≤ 'f' then some (c.toNat - 87)
  else none

/-- A number of at least one and at most `most` digits. -/
def number (base most : Nat) (s : List Char) : Option Nat := do
  let digits ← s.mapM digit
  if digits ≠ [] ∧ digits.length ≤ most ∧ digits.all (· < base) then
    some (digits.foldl (fun n k => n * base + k) 0)
  else none

/-! ## The map -/

/-- The sector size multiplier. -/
def multiplier : Char → Option Nat
  | ' ' => some 1
  | 'B' => some 1
  | 'K' => some 1024
  | 'M' => some (1024 * 1024)
  | _ => none

/-- `count*size`, a multiplier and a sector type. -/
def group (s : List Char) : Option Layout :=
  match s.splitOn '*' with
  | [count, rest] =>
      match rest.reverse with
      | kind :: m :: size => do
          let sectors ← number 10 2 count
          let size ← number 10 3 size.reverse
          let factor ← multiplier m
          if 'a' ≤ kind ∧ kind ≤ 'g' then some ⟨sectors, size * factor⟩ else none
      | _ => none
  | _ => none

def address : List Char → Option Nat
  | '0' :: 'x' :: digits => number 16 8 digits
  | _ => none

/-- The sectors of the zones, as pairs of start and size. -/
def zones : List (List Char) → Option (List (Nat × Nat))
  | [] => some []
  | start :: groups :: rest => do
      let start ← address start
      let layouts ← (groups.splitOn ',').mapM group
      return expand layouts start ++ (← zones rest)
  | [_] => none

/-- What the host derives from a memory map. -/
def sectors (s : String) : Option (List (Nat × Nat)) :=
  match s.toList with
  | '@' :: rest => zones ((rest.splitOn '/').drop 1)
  | _ => none

theorem sectors_flash_info_str : sectors flash_info_str = some (expand flashLayout 0) := by
  decide

end MemoryMap

end DfuSeBootloader.Usb
