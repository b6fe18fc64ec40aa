import DfuSeBootloader.Iap.Basic
import Mathlib.Logic.Relation

/-!
# What is assumed of the IAP ROM

The documented behaviour of the commands, one structure for each group of results that rests on it,
and the retry loop of `ExecuteCommand`.
-/

namespace DfuSeBootloader.Iap
open Memory

variable {ρ : Type} {P : Platform ρ} {cmd : IapCommand} {r r' : ρ}

/-! ## Retries -/

/-- The ROM answers with `STATUS_BUSY`. -/
def Retry (P : Platform ρ) (cmd : IapCommand) (r r' : ρ) : Prop :=
  (P.iap_entry cmd r).1 = .STATUS_BUSY ∧ r' = (P.iap_entry cmd r).2

theorem executeLoop_spec {n : Nat} (hn : P.busyLeft r ≤ n) :
    ∃ r', Relation.ReflTransGen (Retry P cmd) r r' ∧ (P.iap_entry cmd r').1 ≠ .STATUS_BUSY ∧
      executeLoop P cmd n r = P.iap_entry cmd r' := by
  induction n generalizing r with
  | zero =>
      refine ⟨r, .refl, fun h => ?_, rfl⟩
      have := P.busy_lt cmd r h
      omega
  | succ n ih =>
      by_cases h : (P.iap_entry cmd r).1 = .STATUS_BUSY
      · have hlt := P.busy_lt cmd r h
        obtain ⟨r', hr', hne, heq⟩ := ih (r := (P.iap_entry cmd r).2) (by omega)
        exact ⟨r', .head ⟨h, rfl⟩ hr', hne, by rw [executeLoop, if_neg (not_not.mpr h), heq]⟩
      · exact ⟨r, .refl, h, by rw [executeLoop, if_pos h]⟩

/-- `ExecuteCommand` returns the first answer other than `STATUS_BUSY`. -/
theorem ExecuteCommand_spec (P : Platform ρ) (cmd : IapCommand) (r : ρ) :
    ∃ r', Relation.ReflTransGen (Retry P cmd) r r' ∧ (P.iap_entry cmd r').1 ≠ .STATUS_BUSY ∧
      ExecuteCommand P cmd r = P.iap_entry cmd r' :=
  executeLoop_spec (Nat.le_refl _)

theorem ExecuteCommand_induction {I : ρ → Prop} (h : ∀ r, I r → I (P.iap_entry cmd r).2) (hr : I r) :
    I (ExecuteCommand P cmd r).2 := by
  obtain ⟨r', hretry, -, heq⟩ := ExecuteCommand_spec P cmd r
  rw [heq]
  refine h r' ?_
  clear heq
  induction hretry with
  | refl => exact hr
  | tail _ hstep ih => exact hstep.2 ▸ h _ ih

/-! ## Commands touch what they name -/

/-- No command changes more than the sectors or the bytes that it names. -/
structure Confined (P : Platform ρ) : Prop where
  prepare : ∀ first last r, P.flash (P.iap_entry (.CMD_PREPARE_SECTORS first last) r).2 = P.flash r
  copy : ∀ dst buffer count cclk r,
    Changed (P.flash r) (P.flash (P.iap_entry (.CMD_COPY_RAM_TO_FLASH dst buffer count cclk) r).2) ⊆
      {a | dst.toNat ≤ a ∧ a < dst.toNat + count}
  erase : ∀ first last cclk r,
    Changed (P.flash r) (P.flash (P.iap_entry (.CMD_ERASE_SECTORS first last cclk) r).2) ⊆
      {a | ∃ i, first ≤ i ∧ i ≤ last ∧ InSector i a}

/-! ## Commands succeed -/

/-- A prepared, erased and aligned range can be programmed. `prepared` says which sectors a state
has prepared. -/
structure Programs (P : Platform ρ) (prepared : ρ → Nat → Prop) : Prop where
  busy : ∀ cmd r, (P.iap_entry cmd r).1 = .STATUS_BUSY →
    P.flash (P.iap_entry cmd r).2 = P.flash r ∧
      ∀ s, prepared r s → prepared (P.iap_entry cmd r).2 s
  prepare : ∀ s r, s < 30 → (P.iap_entry (.CMD_PREPARE_SECTORS s s) r).1 ≠ .STATUS_BUSY →
    (P.iap_entry (.CMD_PREPARE_SECTORS s s) r).1 = .STATUS_CMD_SUCCESS ∧
      P.flash (P.iap_entry (.CMD_PREPARE_SECTORS s s) r).2 = P.flash r ∧
      prepared (P.iap_entry (.CMD_PREPARE_SECTORS s s) r).2 s
  copy : ∀ dst buffer count cclk r, dst.toNat % 256 = 0 → count ∈ allowedWriteSizes → count ≠ 0 →
    dst.toNat + count ≤ flashEnd →
    (∀ s a, InSector s a → dst.toNat ≤ a → a < dst.toNat + count → prepared r s) →
    (∀ a, dst.toNat ≤ a → a < dst.toNat + count → P.flash r a = 0xFF) →
    (P.iap_entry (.CMD_COPY_RAM_TO_FLASH dst buffer count cclk) r).1 ≠ .STATUS_BUSY →
    (P.iap_entry (.CMD_COPY_RAM_TO_FLASH dst buffer count cclk) r).1 = .STATUS_CMD_SUCCESS ∧
      P.flash (P.iap_entry (.CMD_COPY_RAM_TO_FLASH dst buffer count cclk) r).2 =
        fill (P.flash r) dst.toNat count buffer

/-! ## Commands take effect in full or not at all -/

/-- The sectors of a range are erased, and nothing else is touched. -/
structure Erases (first last : Nat) (m m' : Nat → UInt8) : Prop where
  erased : ∀ i a, first ≤ i → i ≤ last → InSector i a → m' a = 0xFF
  other : ∀ a, (∀ i, first ≤ i → i ≤ last → ¬ InSector i a) → m' a = m a

/-- A prepared sector can be erased as well. -/
structure Reflashes (P : Platform ρ) (prepared : ρ → Nat → Prop) : Prop
    extends Programs P prepared where
  erase : ∀ s cclk r, s < 30 → prepared r s →
    (P.iap_entry (.CMD_ERASE_SECTORS s s cclk) r).1 ≠ .STATUS_BUSY →
    (P.iap_entry (.CMD_ERASE_SECTORS s s cclk) r).1 = .STATUS_CMD_SUCCESS ∧
      Erases s s (P.flash r) (P.flash (P.iap_entry (.CMD_ERASE_SECTORS s s cclk) r).2)

/-- The blank check of a sector finds its bytes that are not erased. -/
structure Checks (P : Platform ρ) (prepared : ρ → Nat → Prop) : Prop
    extends Reflashes P prepared where
  blankCheck : ∀ s r, s < 30 → (P.iap_entry (.CMD_BLANK_CHECK_SECTORS s s) r).1 ≠ .STATUS_BUSY →
    P.flash (P.iap_entry (.CMD_BLANK_CHECK_SECTORS s s) r).2 = P.flash r ∧
      ((P.iap_entry (.CMD_BLANK_CHECK_SECTORS s s) r).1 = .STATUS_SECTOR_NOT_BLANK ↔
        ∃ a, InSector s a ∧ P.flash r a ≠ 0xFF)

/-- What the copy command accepts. -/
def LegalCopy (dst count : Nat) : Prop :=
  dst % 256 = 0 ∧ count ∈ allowedWriteSizes ∧ count ≠ 0 ∧ dst + count ≤ flashEnd

/-- A command that succeeds has done all that it is for, and one that fails has done nothing. -/
structure AllOrNothing (P : Platform ρ) (prepared : ρ → Nat → Prop) : Prop where
  busy : ∀ cmd r, (P.iap_entry cmd r).1 = .STATUS_BUSY →
    P.flash (P.iap_entry cmd r).2 = P.flash r ∧
      ∀ s, prepared (P.iap_entry cmd r).2 s ↔ prepared r s
  prepare : ∀ first last r,
    P.flash (P.iap_entry (.CMD_PREPARE_SECTORS first last) r).2 = P.flash r ∧
      ((P.iap_entry (.CMD_PREPARE_SECTORS first last) r).1 = .STATUS_CMD_SUCCESS →
        last < 30 ∧ ∀ s, prepared (P.iap_entry (.CMD_PREPARE_SECTORS first last) r).2 s ↔
          first ≤ s ∧ s ≤ last)
  erase : ∀ first last cclk r, (∀ s, first ≤ s → s ≤ last → prepared r s) →
    ((P.iap_entry (.CMD_ERASE_SECTORS first last cclk) r).1 = .STATUS_CMD_SUCCESS →
      Erases first last (P.flash r)
        (P.flash (P.iap_entry (.CMD_ERASE_SECTORS first last cclk) r).2)) ∧
    ((P.iap_entry (.CMD_ERASE_SECTORS first last cclk) r).1 ≠ .STATUS_CMD_SUCCESS →
      P.flash (P.iap_entry (.CMD_ERASE_SECTORS first last cclk) r).2 = P.flash r)
  copy : ∀ (dst : UInt32) buffer count cclk r,
    ((P.iap_entry (.CMD_COPY_RAM_TO_FLASH dst buffer count cclk) r).1 = .STATUS_CMD_SUCCESS →
      LegalCopy dst.toNat count ∧
      (∀ s a, InSector s a → dst.toNat ≤ a → a < dst.toNat + count → prepared r s) ∧
      P.flash (P.iap_entry (.CMD_COPY_RAM_TO_FLASH dst buffer count cclk) r).2 =
        fill (P.flash r) dst.toNat count buffer) ∧
    ((P.iap_entry (.CMD_COPY_RAM_TO_FLASH dst buffer count cclk) r).1 ≠ .STATUS_CMD_SUCCESS →
      P.flash (P.iap_entry (.CMD_COPY_RAM_TO_FLASH dst buffer count cclk) r).2 = P.flash r)

end DfuSeBootloader.Iap
