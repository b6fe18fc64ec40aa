import DfuSeBootloader.Dfu.Request

/-!
# DFU sessions

What a host can see of the bootloader between two requests, and what one request may do to it. This
is the purpose of the handler, without endpoints, packets and buffers.
-/

namespace DfuSeBootloader.Dfu
open Memory Iap Usb

variable {ρ : Type}

structure Session (ρ : Type) where
  state : DFU_State_t
  status : DFU_Status_t
  address : UInt32
  detach : Bool
  rom : ρ
  /-- The calls of the IAP functions so far. -/
  flashCalls : List Call

/-- The session that a device is in. -/
def session (d : Device ρ) : Session ρ :=
  ⟨d.DFU_State, d.DFU_Status, d.CurrentAddr, d.need_detach, d.rom, d.calls.filter Call.isIap⟩

namespace Session

def eraseSector (P : Platform ρ) (a : UInt32) (s : Session ρ) : Session ρ :=
  let r := iap_erase P a s.rom
  { s with
    state := if r.1 then .dfuDNBUSY else .dfuERROR
    status := if r.1 then .OK else .errERASE
    rom := r.2
    flashCalls := s.flashCalls ++ [.iap_erase a r.1] }

def programBlock (P : Platform ρ) (block : Nat → UInt8) (s : Session ρ) : Session ρ :=
  let r := iap_write P s.address DFU_TRANSFER_SIZE block s.rom
  { s with
    state := if r.1 then .dfuDNBUSY else .dfuERROR
    status := if r.1 then .OK else .errWRITE
    address := s.address + DFU_TRANSFER_SIZE.toUInt32
    rom := r.2
    flashCalls := s.flashCalls ++ [.iap_write s.address block r.1] }

/-- What the handler does for `size` bytes of payload when `data` is in `firmware_data`. -/
def obey (P : Platform ρ) (size : Nat) (data : Nat → UInt8) (s : Session ρ) : Session ρ :=
  if data 0 = 0x00 then
    if 1 < size then { s with state := .dfuDNBUSY, status := .OK } else s
  else if data 0 = 0x21 then
    { s with state := .dfuDNBUSY, status := .OK, address := addressAt data }
  else if data 0 = 0x41 then s.eraseSector P (addressAt data)
  else s

/-- What a command does whose data is `l`. -/
def command (P : Platform ρ) (l : List UInt8) (s : Session ρ) : Session ρ :=
  let data := padded 0 l
  if data 0 = 0x00 then
    if 1 < l.length then { s with state := .dfuDNBUSY, status := .OK } else s
  else if data 0 = 0x21 then
    { s with state := .dfuDNBUSY, status := .OK, address := addressAt data }
  else if data 0 = 0x41 then s.eraseSector P (addressAt data)
  else s

/-- What one request may do. A DNLOAD that is `skipped` is a block whose data did not come, a command
that is not known, or a request with `wValue = 1`. -/
inductive Step (P : Platform ρ) : Option DFU_REQ → Nat → Session ρ → Session ρ → Prop
  | ignored {wValue s} : Step P none wValue s s
  | skipped {wValue s} : Step P (some .DNLOAD) wValue s s
  | getCommands {s} :
      Step P (some .DNLOAD) 0 s { s with state := .dfuDNBUSY, status := .OK }
  | setAddress {s} (a : UInt32) :
      Step P (some .DNLOAD) 0 s { s with state := .dfuDNBUSY, status := .OK, address := a }
  | eraseSector {s} (a : UInt32) : Step P (some .DNLOAD) 0 s (s.eraseSector P a)
  | endDownload {wValue s} : 2 ≤ wValue → s.state = .dfuDNLOAD_IDLE →
      Step P (some .DNLOAD) wValue s { s with state := .dfuIDLE }
  | programBlock {wValue s} (block : Nat → UInt8) : 2 ≤ wValue →
      Step P (some .DNLOAD) wValue s (s.programBlock P block)
  | uploadMissed {wValue s} : Step P (some .UPLOAD) wValue s s
  | upload {wValue s} (n : Nat) : Step P (some .UPLOAD) wValue s
      { s with state := .dfuDNBUSY, status := .OK, address := s.address + n.toUInt32 }
  | getStatus {wValue s} : Step P (some .GETSTATUS) wValue s
      { s with state := if s.state = .dfuDNBUSY then .dfuDNLOAD_IDLE else s.state }
  | clrStatus {wValue s} :
      Step P (some .CLRSTATUS) wValue s { s with state := .dfuIDLE, status := .OK }
  | getState {wValue s} : Step P (some .GETSTATE) wValue s s
  | abort {wValue s} : Step P (some .ABORT) wValue s { s with state := .dfuIDLE }
  | detach {wValue s} : Step P (some .DETATCH) wValue s { s with detach := true }

end Session

end DfuSeBootloader.Dfu
