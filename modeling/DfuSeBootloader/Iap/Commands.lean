import DfuSeBootloader.Iap.Contract
import DfuSeBootloader.Iap.Lemmas.Sector

/-!
# The commands that the IAP functions send

A board that keeps a record of the commands and of their answers behaves as the board without the
record. `iap_write` and `iap_erase` prepare one sector and then send one more command.
-/

namespace DfuSeBootloader.Iap

variable {ρ : Type} {P : Platform ρ} {cmd : IapCommand} {sector : Nat} {r : ρ}

/-! ## The record -/

/-- A command and the answer to it. -/
abbrev Sent : Type := IapCommand × IapStatus

/-- The same board with a record of what is sent to it, oldest first. -/
def Platform.logged (P : Platform ρ) : Platform (ρ × List Sent) where
  iap_entry cmd s :=
    ((P.iap_entry cmd s.1).1, (P.iap_entry cmd s.1).2, s.2 ++ [(cmd, (P.iap_entry cmd s.1).1)])
  flash s := P.flash s.1
  busyLeft s := P.busyLeft s.1
  busy_lt cmd s h := P.busy_lt cmd s.1 h
  ram := P.ram
  SystemCoreClock := P.SystemCoreClock
  CALLBACK_USB_GetDescriptor := P.CALLBACK_USB_GetDescriptor
  Endpoint_IsStalled := P.Endpoint_IsStalled

def writeLog (P : Platform ρ) (address : UInt32) (count : Nat) (buffer : Nat → UInt8) (r : ρ) :
    List Sent :=
  (iap_write P.logged address count buffer (r, [])).2.2

def eraseLog (P : Platform ρ) (address : UInt32) (r : ρ) : List Sent :=
  (iap_erase P.logged address (r, [])).2.2

/-- What `ExecuteCommand` sends: the command is sent again as long as the ROM is busy. -/
def attempts (cmd : IapCommand) (n : Nat) (st : IapStatus) : List Sent :=
  List.replicate n (cmd, .STATUS_BUSY) ++ [(cmd, st)]

theorem fst_of_mem_attempts {x : Sent} {n : Nat} {st : IapStatus} (h : x ∈ attempts cmd n st) :
    x.1 = cmd := by
  rcases List.mem_append.mp h with h | h
  · rw [List.eq_of_mem_replicate h]
  · rw [List.mem_singleton.mp h]

theorem executeLoop_logged (fuel : Nat) (r : ρ) (l : List Sent) : ∃ n,
    executeLoop P.logged cmd fuel (r, l) = ((executeLoop P cmd fuel r).1,
      (executeLoop P cmd fuel r).2, l ++ attempts cmd n (executeLoop P cmd fuel r).1) := by
  induction fuel generalizing r l with
  | zero => exact ⟨0, rfl⟩
  | succ fuel ih =>
      by_cases h : (P.iap_entry cmd r).1 = .STATUS_BUSY
      · obtain ⟨n, hn⟩ := ih (P.iap_entry cmd r).2 (l ++ [(cmd, (P.iap_entry cmd r).1)])
        refine ⟨n + 1, ?_⟩
        rw [executeLoop, executeLoop, if_neg (not_not.mpr h)]
        refine (if_neg (not_not.mpr h)).trans (hn.trans ?_)
        rw [h, List.append_assoc]
        rfl
      · refine ⟨0, ?_⟩
        rw [executeLoop, executeLoop, if_pos h]
        exact if_pos h

theorem ExecuteCommand_logged (P : Platform ρ) (cmd : IapCommand) (r : ρ) (l : List Sent) : ∃ n,
    ExecuteCommand P.logged cmd (r, l) = ((ExecuteCommand P cmd r).1, (ExecuteCommand P cmd r).2,
      l ++ attempts cmd n (ExecuteCommand P cmd r).1) :=
  executeLoop_logged _ r l

/-! ## Two commands -/

/-- What `iap_write` and `iap_erase` have in common. -/
def prepareThen (P : Platform ρ) (sector : Nat) (cmd : IapCommand) (r : ρ) : Bool × ρ :=
  let (ret, r) := ExecuteCommand P (.CMD_PREPARE_SECTORS sector sector) r
  if ret ≠ .STATUS_CMD_SUCCESS then (false, r)
  else
    let (ret, r) := ExecuteCommand P cmd r
    if ret ≠ .STATUS_CMD_SUCCESS then (false, r) else (true, r)

theorem iap_write_eq (address : UInt32) (count : Nat) (buffer : Nat → UInt8) (r : ρ) :
    iap_write P address count buffer r = prepareThen P (sector_by_address address)
      (.CMD_COPY_RAM_TO_FLASH address buffer count (P.SystemCoreClock / 1000)) r := rfl

theorem iap_erase_eq (address : UInt32) (r : ρ) :
    iap_erase P address r = prepareThen P (sector_by_address address)
      (.CMD_ERASE_SECTORS (sector_by_address address) (sector_by_address address)
        (P.SystemCoreClock / 1000)) r := rfl

theorem prepareThen_refused {st : IapStatus} {r₁ : ρ}
    (h : ExecuteCommand P (.CMD_PREPARE_SECTORS sector sector) r = (st, r₁))
    (hst : st ≠ .STATUS_CMD_SUCCESS) : prepareThen P sector cmd r = (false, r₁) := by
  rw [prepareThen, h]
  exact if_pos hst

theorem prepareThen_prepared {r₁ : ρ} (h : ExecuteCommand P (.CMD_PREPARE_SECTORS sector sector) r =
    (.STATUS_CMD_SUCCESS, r₁)) : prepareThen P sector cmd r =
      (decide ((ExecuteCommand P cmd r₁).1 = .STATUS_CMD_SUCCESS), (ExecuteCommand P cmd r₁).2) := by
  rw [prepareThen, h]
  dsimp only
  rw [if_neg (by simp)]
  split
  · rename_i hfail
    rw [decide_eq_false hfail]
  · rename_i hok
    rw [decide_eq_true (not_not.mp hok)]

/-- What is sent: attempts to prepare the sector and, when the last one was answered with success,
attempts of the other command. The record changes nothing else. -/
theorem prepareThen_logged (P : Platform ρ) (sector : Nat) (cmd : IapCommand) (r : ρ)
    (l : List Sent) : ∃ n st rest,
    prepareThen P.logged sector cmd (r, l) = ((prepareThen P sector cmd r).1,
      (prepareThen P sector cmd r).2,
      l ++ (attempts (.CMD_PREPARE_SECTORS sector sector) n st ++ rest)) ∧
    ((st ≠ .STATUS_CMD_SUCCESS ∧ rest = [] ∧ (prepareThen P sector cmd r).1 = false) ∨
      (st = .STATUS_CMD_SUCCESS ∧ ∃ m st', rest = attempts cmd m st' ∧
        (prepareThen P sector cmd r).1 = decide (st' = .STATUS_CMD_SUCCESS))) := by
  obtain ⟨n, hn⟩ := ExecuteCommand_logged P (.CMD_PREPARE_SECTORS sector sector) r l
  cases hst : ExecuteCommand P (.CMD_PREPARE_SECTORS sector sector) r with
  | mk st r₁ =>
      rw [hst] at hn
      by_cases hok : st = .STATUS_CMD_SUCCESS
      · subst hok
        obtain ⟨m, hm⟩ := ExecuteCommand_logged P cmd r₁
          (l ++ attempts (.CMD_PREPARE_SECTORS sector sector) n .STATUS_CMD_SUCCESS)
        refine ⟨n, .STATUS_CMD_SUCCESS, attempts cmd m (ExecuteCommand P cmd r₁).1, ?_,
          .inr ⟨rfl, m, _, rfl, by rw [prepareThen_prepared hst]⟩⟩
        rw [prepareThen_prepared hst, prepareThen_prepared hn, hm, List.append_assoc]
      · refine ⟨n, st, [], ?_, .inl ⟨hok, rfl, by rw [prepareThen_refused hst hok]⟩⟩
        rw [prepareThen_refused hst hok, prepareThen_refused hn hok, List.append_nil]

end DfuSeBootloader.Iap
