import DfuSeBootloader.Memory.Basic

/-!
# Flash access through the IAP ROM

The functions of `iap.c`. The ROM itself is not part of the program: it is given by a `Platform`,
whose state `ρ` holds the flash and whatever else decides the next reply.
-/

namespace DfuSeBootloader.Iap

/-! ## Commands and replies -/

/-- The codes that the ROM leaves in `status[0]`. -/
inductive IapStatus
  | STATUS_CMD_SUCCESS
  | STATUS_INVALID_COMMAND
  | STATUS_SRC_ADDR_ERROR
  | STATUS_DST_ADDR_ERROR
  | STATUS_SRC_ADDR_NOT_MAPPED
  | STATUS_DST_ADDR_NOT_MAPPED
  | STATUS_COUNT_ERROR
  | STATUS_INVALID_SECTOR
  | STATUS_SECTOR_NOT_BLANK
  | STATUS_SECTOR_NOT_PREPARED_FOR_WRITE_OPERATION
  | STATUS_COMPARE_ERROR
  | STATUS_BUSY
  | other (code : Nat)
  deriving DecidableEq, Repr

/-- The words of `cmd`. A pointer to a buffer is given by the bytes behind it. -/
inductive IapCommand
  | CMD_PREPARE_SECTORS (first last : Nat)
  | CMD_COPY_RAM_TO_FLASH (dst : UInt32) (buffer : Nat → UInt8) (count cclk : Nat)
  | CMD_ERASE_SECTORS (first last cclk : Nat)
  | CMD_BLANK_CHECK_SECTORS (first last : Nat)

/-- What the program finds on the board. A command is answered with `STATUS_BUSY` only finitely
often in a row: `busyLeft` counts the answers that are left. -/
structure Platform (ρ : Type) where
  iap_entry : IapCommand → ρ → IapStatus × ρ
  flash : ρ → Nat → UInt8
  busyLeft : ρ → Nat
  busy_lt : ∀ cmd r, (iap_entry cmd r).1 = .STATUS_BUSY → busyLeft (iap_entry cmd r).2 < busyLeft r
  /-- The bytes that are read from the addresses behind the flash. -/
  ram : UInt32 → UInt8
  SystemCoreClock : Nat
  /-- The descriptor table, by `wValue` and `wIndex`; empty where there is no descriptor. -/
  CALLBACK_USB_GetDescriptor : UInt16 → UInt16 → List UInt8
  /-- What the controller answers for an endpoint other than the control endpoint. -/
  Endpoint_IsStalled : UInt8 → Bool

/-- The first address behind the flash. -/
def flashEnd : Nat := 0x80000

variable {ρ : Type}

/-- The byte that a load from an address returns. -/
def Platform.memory (P : Platform ρ) (r : ρ) (address : UInt32) : UInt8 :=
  if address.toNat < flashEnd then P.flash r address.toNat else P.ram address

/-! ## The sector map -/

structure Layout where
  sectors : Nat
  size : Nat
  deriving DecidableEq, Repr

def flashLayout : List Layout := [⟨16, 4096⟩, ⟨14, 32768⟩, ⟨0, 0⟩]

def allowedWriteSizes : List Nat := [4096, 1024, 512, 256, 0]

/-- The sectors of a layout as pairs of start and size, up to its zero entry. -/
def expand : List Layout → Nat → List (Nat × Nat)
  | [], _ => []
  | l :: ls, base =>
      if l.sectors = 0 then []
      else (List.range l.sectors).map (fun i => (base + i * l.size, l.size)) ++
        expand ls (base + l.sectors * l.size)

/-- `address` lies in sector number `i` of `flashLayout`. -/
def InSector (i address : Nat) : Prop :=
  ∃ start size, (expand flashLayout 0)[i]? = some (start, size) ∧
    start ≤ address ∧ address < start + size

def sector_by_address (address : UInt32) : Nat :=
  if address < 0x00010000 then (address / 0x1000).toNat
  else ((address - 0x00010000) / 0x8000).toNat + 16

/-! ## The functions -/

/-- The loop of `ExecuteCommand`, with a bound on the retries that are still needed. -/
def executeLoop (P : Platform ρ) (cmd : IapCommand) : Nat → ρ → IapStatus × ρ
  | 0, r => P.iap_entry cmd r
  | n + 1, r =>
      if (P.iap_entry cmd r).1 ≠ .STATUS_BUSY then P.iap_entry cmd r
      else executeLoop P cmd n (P.iap_entry cmd r).2

def ExecuteCommand (P : Platform ρ) (cmd : IapCommand) (r : ρ) : IapStatus × ρ :=
  executeLoop P cmd (P.busyLeft r) r

def iap_write (P : Platform ρ) (address : UInt32) (count : Nat) (buffer : Nat → UInt8) (r : ρ) :
    Bool × ρ :=
  let sector := sector_by_address address
  let (ret, r) := ExecuteCommand P (.CMD_PREPARE_SECTORS sector sector) r
  if ret ≠ .STATUS_CMD_SUCCESS then (false, r)
  else
    let (ret, r) := ExecuteCommand P
      (.CMD_COPY_RAM_TO_FLASH address buffer count (P.SystemCoreClock / 1000)) r
    if ret ≠ .STATUS_CMD_SUCCESS then (false, r) else (true, r)

def iap_erase (P : Platform ρ) (address : UInt32) (r : ρ) : Bool × ρ :=
  let sector := sector_by_address address
  let (ret, r) := ExecuteCommand P (.CMD_PREPARE_SECTORS sector sector) r
  if ret ≠ .STATUS_CMD_SUCCESS then (false, r)
  else
    let (ret, r) := ExecuteCommand P
      (.CMD_ERASE_SECTORS sector sector (P.SystemCoreClock / 1000)) r
    if ret ≠ .STATUS_CMD_SUCCESS then (false, r) else (true, r)

/-- `true` when the sector is *not* blank. -/
def iap_blank_check (P : Platform ρ) (address : UInt32) (r : ρ) : Bool × ρ :=
  let sector := sector_by_address address
  let (ret, r) := ExecuteCommand P (.CMD_BLANK_CHECK_SECTORS sector sector) r
  if ret = .STATUS_SECTOR_NOT_BLANK then (true, r) else (false, r)

end DfuSeBootloader.Iap
