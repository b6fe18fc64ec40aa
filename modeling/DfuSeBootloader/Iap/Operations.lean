import DfuSeBootloader.Iap.Commands
import DfuSeBootloader.Iap.Reference

/-!
# Writing and erasing

The flags that `iap_write` and `iap_erase` return tell what has happened to the flash, and the
commands are sent in the proper order. `iap_write` prepares the sector of its first byte only.
-/

namespace DfuSeBootloader.Iap
open Memory

variable {ρ : Type} {P : Platform ρ} {cmd : IapCommand} {sector : Nat} {r : ρ}

/-! ## The order of the commands -/

def IapCommand.isPrepare : IapCommand → Bool
  | .CMD_PREPARE_SECTORS _ _ => true
  | _ => false

/-- The command erases or programs. -/
def IapCommand.modifies : IapCommand → Bool
  | .CMD_COPY_RAM_TO_FLASH _ _ _ _ => true
  | .CMD_ERASE_SECTORS _ _ _ => true
  | _ => false

/-- The answer to the last prepare command. -/
def lastPrepare (l : List Sent) : Option IapStatus :=
  (l.filter (·.1.isPrepare)).getLast?.map Prod.snd

/-- Nothing is erased or programmed behind a prepare command that did not succeed. -/
def PreparedFirst (l : List Sent) : Prop :=
  ∀ us x vs, l = us ++ x :: vs → x.1.modifies = true → lastPrepare us = some .STATUS_CMD_SUCCESS

theorem lastPrepare_append {l l' : List Sent} (h : ∀ x ∈ l', x.1.isPrepare = false) :
    lastPrepare (l ++ l') = lastPrepare l := by
  have hnone : l'.filter (·.1.isPrepare) = [] :=
    List.filter_eq_nil_iff.mpr fun x hx => by simp [h x hx]
  rw [lastPrepare, List.filter_append, hnone, List.append_nil, lastPrepare]

theorem lastPrepare_attempts (n : Nat) (st : IapStatus) :
    lastPrepare (attempts (.CMD_PREPARE_SECTORS sector sector) n st) = some st := by
  simp [lastPrepare, attempts, IapCommand.isPrepare, List.filter_append]

theorem modifies_of_mem_attempts {x : Sent} {n : Nat} {st : IapStatus}
    (h : x ∈ attempts (.CMD_PREPARE_SECTORS sector sector) n st) : x.1.modifies = false := by
  rw [fst_of_mem_attempts h]
  rfl

theorem preparedFirst_attempts {n m : Nat} {st' : IapStatus} (hcmd : cmd.isPrepare = false) :
    PreparedFirst (attempts (.CMD_PREPARE_SECTORS sector sector) n .STATUS_CMD_SUCCESS ++
      attempts cmd m st') := by
  intro us x vs heq hmod
  rcases List.append_eq_append_iff.mp heq with ⟨ws, rfl, hws⟩ | ⟨ws, hws, hrest⟩
  · rw [lastPrepare_append, lastPrepare_attempts]
    intro y hy
    rw [fst_of_mem_attempts (hws ▸ List.mem_append_left _ hy), hcmd]
  · cases ws with
    | nil =>
        rw [List.append_nil] at hws
        rw [← hws, lastPrepare_attempts]
    | cons y ws =>
        -- the command is one of the attempts to prepare
        obtain ⟨rfl, -⟩ := List.cons.inj hrest
        have hx := modifies_of_mem_attempts (hws ▸ List.mem_append_right us List.mem_cons_self)
        exact absurd hmod (by simp [hx])

theorem preparedFirst_prepareThen (hcmd : cmd.isPrepare = false) :
    PreparedFirst (prepareThen P.logged sector cmd (r, [])).2.2 := by
  obtain ⟨n, st, rest, heq, hcases⟩ := prepareThen_logged P sector cmd r []
  rw [heq, List.nil_append]
  dsimp only
  rcases hcases with ⟨-, rfl, -⟩ | ⟨rfl, m, st', rfl, -⟩
  · intro us x vs hsplit hmod
    have hmem : x ∈ us ++ x :: vs := List.mem_append_right us List.mem_cons_self
    rw [← hsplit, List.append_nil] at hmem
    exact absurd hmod (by simp [modifies_of_mem_attempts hmem])
  · exact preparedFirst_attempts hcmd

/-! ## What the flags tell -/

/-- The flag `x.1` says whether `Effect` has come about, or else the flash is as before. -/
structure Truthful (P : Platform ρ) (r : ρ) (x : Bool × ρ) (Effect : Prop) : Prop where
  success : x.1 = true → Effect
  failure : x.1 = false → P.flash x.2 = P.flash r

section AllOrNothing

variable {prepared : ρ → Nat → Prop} (hP : AllOrNothing P prepared)
include hP

theorem AllOrNothing.retry {r r' : ρ} (h : Relation.ReflTransGen (Retry P cmd) r r') :
    P.flash r' = P.flash r ∧ ∀ s, prepared r' s ↔ prepared r s := by
  induction h with
  | refl => exact ⟨rfl, fun _ => .rfl⟩
  | tail _ hstep ih =>
      obtain ⟨hbusy, rfl⟩ := hstep
      obtain ⟨hflash, hprep⟩ := hP.busy cmd _ hbusy
      exact ⟨hflash.trans ih.1, fun s => (hprep s).trans (ih.2 s)⟩

/-- Nothing has changed when the last command is sent for the last time. -/
theorem AllOrNothing.prepareThen (sector : Nat) (cmd : IapCommand) (r : ρ) :
    ((prepareThen P sector cmd r).1 = false ∧
      P.flash (Iap.prepareThen P sector cmd r).2 = P.flash r) ∨
    sector < 30 ∧ ∃ r', P.flash r' = P.flash r ∧ (∀ s, prepared r' s ↔ s = sector) ∧
      (Iap.prepareThen P sector cmd r) =
        (decide ((P.iap_entry cmd r').1 = .STATUS_CMD_SUCCESS), (P.iap_entry cmd r').2) := by
  obtain ⟨r₁, hretry₁, -, heq₁⟩ := ExecuteCommand_spec P (.CMD_PREPARE_SECTORS sector sector) r
  obtain ⟨hflash₁, -⟩ := hP.retry hretry₁
  obtain ⟨hflash₂, hsucc⟩ := hP.prepare sector sector r₁
  cases hst : P.iap_entry (.CMD_PREPARE_SECTORS sector sector) r₁ with
  | mk st r₂ =>
      rw [hst] at heq₁ hflash₂ hsucc
      by_cases hok : st = .STATUS_CMD_SUCCESS
      · subst hok
        obtain ⟨hsector, hprep⟩ := hsucc rfl
        obtain ⟨r₃, hretry₃, -, heq₃⟩ := ExecuteCommand_spec P cmd r₂
        obtain ⟨hflash₃, hprep₃⟩ := hP.retry hretry₃
        refine .inr ⟨hsector, r₃, hflash₃.trans (hflash₂.trans hflash₁), fun s => ?_, ?_⟩
        · rw [hprep₃, hprep]
          omega
        · rw [prepareThen_prepared heq₁, heq₃]
      · rw [prepareThen_refused heq₁ hok]
        exact .inl ⟨rfl, hflash₂.trans hflash₁⟩

theorem iap_erase_reports (address : UInt32) (r : ρ) :
    Truthful P r (iap_erase P address r) (∃ i, InSector i address.toNat ∧
      Erases i i (P.flash r) (P.flash (iap_erase P address r).2)) := by
  rw [iap_erase_eq]
  rcases hP.prepareThen (sector_by_address address) (.CMD_ERASE_SECTORS (sector_by_address address)
    (sector_by_address address) (P.SystemCoreClock / 1000)) r with
    ⟨hfalse, hflash⟩ | ⟨hsector, r', hflash, hprep, heq⟩
  · exact ⟨fun h => absurd (hfalse.symm.trans h) (by decide), fun _ => hflash⟩
  · obtain ⟨hdone, hfailed⟩ := hP.erase (sector_by_address address) (sector_by_address address)
      (P.SystemCoreClock / 1000) r' (fun s hlo hhi => (hprep s).mpr (by omega))
    rw [heq, ← hflash]
    refine ⟨fun h => ⟨_, ?_, hdone (of_decide_eq_true h)⟩,
      fun h => (hfailed (of_decide_eq_false h)).trans hflash⟩
    rw [sector_by_address_eq] at hsector ⊢
    refine inSector_sectorOf (Nat.lt_of_not_le fun hout => ?_)
    have := le_sectorOf hout
    omega

theorem iap_write_reports (address : UInt32) (count : Nat) (buffer : Nat → UInt8) (r : ρ) :
    Truthful P r (iap_write P address count buffer r)
      (P.flash (iap_write P address count buffer r).2 =
        fill (P.flash r) address.toNat count buffer) := by
  rw [iap_write_eq]
  rcases hP.prepareThen (sector_by_address address) (.CMD_COPY_RAM_TO_FLASH address buffer count
    (P.SystemCoreClock / 1000)) r with ⟨hfalse, hflash⟩ | ⟨-, r', hflash, -, heq⟩
  · exact ⟨fun h => absurd (hfalse.symm.trans h) (by decide), fun _ => hflash⟩
  · obtain ⟨hdone, hfailed⟩ := hP.copy address buffer count (P.SystemCoreClock / 1000) r'
    rw [heq, ← hflash]
    exact ⟨fun h => (hdone (of_decide_eq_true h)).2.2,
      fun h => (hfailed (of_decide_eq_false h)).trans hflash⟩

/-- Both functions do all or nothing, say which, and keep to the order of the commands. -/
theorem iap_all_or_nothing (address : UInt32) (count : Nat) (buffer : Nat → UInt8) (r : ρ) :
    Truthful P r (iap_erase P address r) (∃ i, InSector i address.toNat ∧
      Erases i i (P.flash r) (P.flash (iap_erase P address r).2)) ∧
    Truthful P r (iap_write P address count buffer r)
      (P.flash (iap_write P address count buffer r).2 =
        fill (P.flash r) address.toNat count buffer) ∧
    PreparedFirst (eraseLog P address r) ∧ PreparedFirst (writeLog P address count buffer r) :=
  ⟨iap_erase_reports hP address r, iap_write_reports hP address count buffer r,
    preparedFirst_prepareThen rfl, preparedFirst_prepareThen rfl⟩

end AllOrNothing

/-- A sector of 32 KB is erased, and a block is written to it. -/
theorem iap_all_or_nothing_overwriting :
    Truthful overwriting Rom.blank (iap_erase overwriting 0x18000 Rom.blank)
      (∃ i, InSector i 0x18000 ∧
        Erases i i Rom.blank.flash (iap_erase overwriting 0x18000 Rom.blank).2.flash) ∧
    Truthful overwriting Rom.blank (iap_write overwriting 0x18000 512 (fun _ => 0x5A) Rom.blank)
      ((iap_write overwriting 0x18000 512 (fun _ => 0x5A) Rom.blank).2.flash =
        fill Rom.blank.flash 0x18000 512 (fun _ => 0x5A)) ∧
    PreparedFirst (eraseLog overwriting 0x18000 Rom.blank) ∧
    PreparedFirst (writeLog overwriting 0x18000 512 (fun _ => 0x5A) Rom.blank) :=
  iap_all_or_nothing overwriting_allOrNothing 0x18000 512 (fun _ => 0x5A) Rom.blank

/-! ## What is prepared -/

/-- A prepare command of the record names sector `i`. -/
def Prepares (l : List Sent) (i : Nat) : Prop :=
  ∃ first last st, (IapCommand.CMD_PREPARE_SECTORS first last, st) ∈ l ∧ first ≤ i ∧ i ≤ last

/-- Sector `i` has a byte in the range that is written. -/
def Touches (address count i : Nat) : Prop :=
  ∃ a, InSector i a ∧ address ≤ a ∧ a < address + count

theorem prepares_prepareThen (hcmd : cmd.isPrepare = false) {i : Nat} :
    Prepares (prepareThen P.logged sector cmd (r, [])).2.2 i ↔ i = sector := by
  obtain ⟨n, st, rest, heq, hcases⟩ := prepareThen_logged P sector cmd r []
  have hrest : ∀ x ∈ rest, x.1.isPrepare = false := by
    intro x hx
    rcases hcases with ⟨-, rfl, -⟩ | ⟨-, m, st', rfl, -⟩
    · cases hx
    · rw [fst_of_mem_attempts hx, hcmd]
  rw [heq, List.nil_append]
  constructor
  · rintro ⟨first, last, st', hmem, hfirst, hlast⟩
    rcases List.mem_append.mp hmem with hmem | hmem
    · obtain ⟨rfl, rfl⟩ := IapCommand.CMD_PREPARE_SECTORS.inj (fst_of_mem_attempts hmem)
      omega
    · exact absurd (hrest _ hmem) (by simp [IapCommand.isPrepare])
  · rintro rfl
    exact ⟨i, i, st, by simp [attempts], Nat.le_refl _, Nat.le_refl _⟩

variable {address : UInt32} {count : Nat} {buffer : Nat → UInt8}

theorem prepares_writeLog {i : Nat} :
    Prepares (writeLog P address count buffer r) i ↔ i = sector_by_address address :=
  prepares_prepareThen rfl

theorem erases_eraseLog {first last cclk : Nat} {st : IapStatus}
    (h : (IapCommand.CMD_ERASE_SECTORS first last cclk, st) ∈ eraseLog P address r) :
    first = sector_by_address address ∧ last = sector_by_address address := by
  obtain ⟨n, st', rest, heq, hcases⟩ := prepareThen_logged P (sector_by_address address)
    (.CMD_ERASE_SECTORS (sector_by_address address) (sector_by_address address)
      (P.SystemCoreClock / 1000)) r []
  have hlog : eraseLog P address r =
      attempts (.CMD_PREPARE_SECTORS (sector_by_address address) (sector_by_address address)) n st' ++
        rest := congrArg (fun x => x.2.2) heq
  rw [hlog] at h
  rcases List.mem_append.mp h with h | h
  · cases fst_of_mem_attempts h
  · rcases hcases with ⟨-, rfl, -⟩ | ⟨-, m, st'', rfl, -⟩
    · cases h
    · cases fst_of_mem_attempts h
      exact ⟨rfl, rfl⟩

/-- Every sector that is written is prepared exactly when the range ends in the sector in which it
begins. -/
theorem iap_write_prepares_iff (P : Platform ρ) (address : UInt32) (count : Nat)
    (buffer : Nat → UInt8) (r : ρ) (hend : address.toNat + count ≤ flashEnd) :
    (∀ i, Touches address.toNat count i → Prepares (writeLog P address count buffer r) i) ↔
      address.toNat % sectorSize (sector_by_address address) + count ≤
        sectorSize (sector_by_address address) := by
  simp only [prepares_writeLog, sector_by_address_eq]
  have hmod : address.toNat % sectorSize (sectorOf address.toNat) <
      sectorSize (sectorOf address.toNat) := Nat.mod_lt _ (by unfold sectorSize; split <;> omega)
  constructor
  · intro h
    cases count with
    | zero => exact hmod.le
    | succ k =>
        have hlast := h _ ⟨address.toNat + k, inSector_sectorOf (by omega), by omega, by omega⟩
        exact sectorOf_add.mp hlast
  · rintro h i ⟨a, hi, hlo, hhi⟩
    obtain ⟨k, rfl⟩ := Nat.exists_eq_add_of_le hlo
    rw [hi.eq]
    exact sectorOf_add.mpr (by omega)

/-- The last block of a sector. -/
theorem last_block_prepared : 0x0E00 + 512 ≤ flashEnd ∧ ∀ i, Touches 0x0E00 512 i →
    Prepares (writeLog reference 0x0E00 512 (fun _ => 0) Rom.blank) i :=
  ⟨by decide, (iap_write_prepares_iff reference 0x0E00 512 (fun _ => 0) Rom.blank
    (by decide)).mpr (by decide)⟩

/-- A block that is aligned to 256 bytes and reaches into the next sector: that sector is not
prepared, and the ROM refuses to write. -/
theorem straddling_block_refused : 0x0F00 % 256 = 0 ∧ 512 ∈ allowedWriteSizes ∧
    0x0F00 + 512 ≤ flashEnd ∧
    ¬ (∀ i, Touches 0x0F00 512 i →
      Prepares (writeLog reference 0x0F00 512 (fun _ => 0) Rom.blank) i) ∧
    (iap_write reference 0x0F00 512 (fun _ => 0) Rom.blank).1 = false := by
  refine ⟨by decide, by decide, by decide, fun h => ?_, by decide⟩
  have hone := h 1 ⟨0x1000, inSector_iff.mpr (by decide), by decide, by decide⟩
  exact absurd (prepares_writeLog.mp hone) (by decide)

end DfuSeBootloader.Iap
