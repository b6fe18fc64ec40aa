import DfuSeBootloader.Usb.Task

/-!
# Starting the board

`main` and `bootmode_start` of `main.c`, and the resets, application starts and sessions of one board
one after another. The share section is memory that no start-up code touches, so that it carries a
request from the application to the bootloader.
-/

namespace DfuSeBootloader.Boot
open Program Memory Iap Usb

variable {ρ : Type}

/-! ## The share section -/

/-- `sizeof(share_mem_t)`. The share section holds `boot_mem` and nothing else. -/
def share_section_size : Nat := 10

def boot_mode_magic (share : Nat → UInt8) : Nat → UInt8 := share

def boot_mode_request (share : Nat → UInt8) : UInt8 := share 8

/-- The characters of `"boot001"`. -/
def BOOT_SHARE_MAGIC : List UInt8 := [0x62, 0x6F, 0x6F, 0x74, 0x30, 0x30, 0x31]

/-- The difference of the first characters that differ, among the first `n` and up to the end of the
strings. -/
def strncmp (s₁ s₂ : Nat → UInt8) : Nat → Int
  | 0 => 0
  | n + 1 =>
      if s₁ 0 ≠ s₂ 0 then (s₁ 0).toNat - (s₂ 0).toNat
      else if s₁ 0 = 0 then 0
      else strncmp (fun i => s₁ (i + 1)) (fun i => s₂ (i + 1)) n

/-- `pin` is what `BOOT_ON_TEST()` finds. -/
def boot_mode_requested (pin : Bool) (share : Nat → UInt8) : Bool :=
  let tmp :=
    if strncmp (boot_mode_magic share) (padded 0 BOOT_SHARE_MAGIC) BOOT_SHARE_MAGIC.length = 0 then
      boot_mode_request share != 0
    else false
  tmp || pin

def USER_PROGRAM_START : UInt32 := 0x00010000

def app_magic_is_existing (P : Platform ρ) (r : ρ) : Bool × ρ :=
  iap_blank_check P USER_PROGRAM_START r

/-! ## The board -/

inductive Phase (ρ : Type)
  /-- `main` is about to run. -/
  | reset (r : ρ)
  | application (r : ρ)
  /-- The loop of `task_loop` runs. -/
  | bootloader (c : TaskConfig ρ)

structure Board (ρ : Type) where
  /-- The bytes from the start of the share section on. -/
  share : Nat → UInt8
  phase : Phase ρ

def bootmode_start (P : Platform ρ) (share : Nat → UInt8) (r : ρ) : Board ρ where
  share := fill share 0 share_section_size (fun _ => 0)
  phase := .bootloader (task_loop P, Device.start r)

def main (P : Platform ρ) (pin : Bool) (share : Nat → UInt8) (r : ρ) : Board ρ :=
  if boot_mode_requested pin share then bootmode_start P share r
  else
    let (existing, r) := app_magic_is_existing P r
    if existing then { share, phase := .application r } else bootmode_start P share r

inductive Action (ρ : Type)
  | main (pin : Bool)
  /-- The application has written to the share section and to the flash what it likes. -/
  | application (share : Nat → UInt8) (r : ρ)
  /-- A reset from outside the bootloader. -/
  | reset
  | session (m : Move Event)
  /-- `user_app_start_user` of the bootloader. -/
  | NVIC_SystemReset

/-- The memory and the flash survive every reset. -/
def board (P : Platform ρ) : Action ρ → Board ρ → Option (Board ρ)
  | .main pin, b =>
      match b.phase with
      | .reset r => some (main P pin b.share r)
      | _ => none
  | .application share r, b =>
      match b.phase with
      | .application _ => some { share, phase := .application r }
      | _ => none
  | .reset, b =>
      match b.phase with
      | .reset r => some { b with phase := .reset r }
      | .application r => some { b with phase := .reset r }
      | .bootloader c => some { b with phase := .reset c.2.rom }
  | .session m, b =>
      match b.phase with
      | .bootloader c =>
          (taskMove P m c).map fun c => { b with phase := .bootloader c }
      | _ => none
  | .NVIC_SystemReset, b =>
      match b.phase with
      | .bootloader (.ret true, d) => some { b with phase := .reset d.rom }
      | _ => none

/-- The steps of a run of the board. -/
def Boards (P : Platform ρ) (b : Board ρ) (a : Action ρ) (b' : Board ρ) : Prop :=
  board P a b = some b'

def Board.inApplication (b : Board ρ) : Bool := b.phase matches .application _

def Board.inBootloader (b : Board ρ) : Bool := b.phase matches .bootloader _

/-- The IAP blank check finds sector 16 not blank. -/
def NotBlank (P : Platform ρ) (r : ρ) : Prop :=
  (ExecuteCommand P (.CMD_BLANK_CHECK_SECTORS 16 16) r).1 = .STATUS_SECTOR_NOT_BLANK

instance (P : Platform ρ) (r : ρ) : Decidable (NotBlank P r) := inferInstanceAs (Decidable (_ = _))

/-! ## What `main` decides -/

variable {P : Platform ρ} {share : Nat → UInt8} {pin : Bool} {r : ρ}

theorem boot_mode_requested_zero (h : ∀ i < share_section_size, share i = 0) :
    boot_mode_requested pin share = pin := by
  have hrequest : boot_mode_request share = 0 := h 8 (by decide)
  simp [boot_mode_requested, hrequest]

theorem app_magic_is_existing_iff : (app_magic_is_existing P r).1 = true ↔ NotBlank P r := by
  have hsector : sector_by_address USER_PROGRAM_START = 16 := by decide
  simp only [app_magic_is_existing, iap_blank_check, hsector, NotBlank]
  split <;> simp_all

/-- Without a request in memory, the boot pin and the application sector decide. -/
theorem main_zero (h : ∀ i < share_section_size, share i = 0) :
    (pin = false ∧ NotBlank P r → (main P pin share r).inApplication = true) ∧
      (¬ (pin = false ∧ NotBlank P r) → (main P pin share r).inBootloader = true) := by
  unfold main
  rw [boot_mode_requested_zero h]
  cases pin with
  | true => exact ⟨fun h => absurd h.1 (by decide), fun _ => rfl⟩
  | false =>
      rw [if_neg Bool.false_ne_true, ← app_magic_is_existing_iff]
      cases app_magic_is_existing P r with
      | mk existing r' =>
          cases existing with
          | true => exact ⟨fun _ => rfl, fun h => absurd ⟨rfl, rfl⟩ h⟩
          | false => exact ⟨fun h => absurd h.2 Bool.false_ne_true, fun _ => rfl⟩

theorem share_bootmode_start {i : Nat} (hi : i < share_section_size) :
    (bootmode_start P share r).share i = 0 := by
  change fill share 0 share_section_size (fun _ => 0) i = 0
  rw [fill_of_mem (by omega)]

theorem share_main (h : (main P pin share r).inBootloader = true) :
    ∀ i < share_section_size, (main P pin share r).share i = 0 := by
  intro i hi
  unfold main at h ⊢
  split
  · exact share_bootmode_start hi
  · rename_i hrequest
    rw [if_neg hrequest] at h
    cases hexisting : app_magic_is_existing P r with
    | mk existing r' =>
        cases existing with
        | true => rw [hexisting] at h; cases h
        | false => exact share_bootmode_start (P := P) (r := r') hi

end DfuSeBootloader.Boot
