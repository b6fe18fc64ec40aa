import DfuSeBootloader.Usb.Endpoint

/-!
# DFU requests

`EVENT_USB_Device_ControlRequest` of `usb_task.c`, one definition for each case of its `switch`.
-/

namespace DfuSeBootloader.Dfu
open Program Memory Iap Usb

/-- The requests of `dfu.h`. -/
inductive DFU_REQ
  | DETATCH
  | DNLOAD
  | UPLOAD
  | GETSTATUS
  | CLRSTATUS
  | GETSTATE
  | ABORT
  deriving DecidableEq, Repr

def DFU_REQ.code : DFU_REQ → UInt8
  | DETATCH => 0x00
  | DNLOAD => 0x01
  | UPLOAD => 0x02
  | GETSTATUS => 0x03
  | CLRSTATUS => 0x04
  | GETSTATE => 0x05
  | ABORT => 0x06

/-- The case of the `switch` that a `bRequest` selects. -/
def DFU_REQ.ofCode (bRequest : UInt8) : Option DFU_REQ :=
  [DETATCH, DNLOAD, UPLOAD, GETSTATUS, CLRSTATUS, GETSTATE, ABORT].find? (·.code == bRequest)

/-- The number in the four bytes from `firmware_data[1]` on, lowest byte first. -/
def addressAt (firmware_data : Nat → UInt8) : UInt32 :=
  ((firmware_data 1).toUInt32 <<< 0) + ((firmware_data 2).toUInt32 <<< 8) +
    ((firmware_data 3).toUInt32 <<< 16) + ((firmware_data 4).toUInt32 <<< 24)

variable {ρ : Type}

/-! ## Assignments -/

def setState (s : DFU_State_t) : Task ρ Unit :=
  Prog.modify .access (fun d => { d with DFU_State := s })

def setStatus (s : DFU_Status_t) : Task ρ Unit :=
  Prog.modify .access (fun d => { d with DFU_Status := s })

def callErase (P : Platform ρ) (address : UInt32) : Task ρ Bool :=
  Prog.exec .iap_erase
    (fun d => { d with rom := (iap_erase P address d.rom).2 }.note
      (.iap_erase address (iap_erase P address d.rom).1))
    (fun d => (iap_erase P address d.rom).1)

/-- The call that programs `firmware_data` at `CurrentAddr`. -/
def callWrite (P : Platform ρ) : Task ρ Bool :=
  Prog.exec .iap_write
    (fun d => { d with
        rom := (iap_write P d.CurrentAddr DFU_TRANSFER_SIZE d.firmware_data d.rom).2 }.note
      (.iap_write d.CurrentAddr d.firmware_data
        (iap_write P d.CurrentAddr DFU_TRANSFER_SIZE d.firmware_data d.rom).1))
    (fun d => (iap_write P d.CurrentAddr DFU_TRANSFER_SIZE d.firmware_data d.rom).1)

/-! ## The cases -/

namespace EVENT_USB_Device_ControlRequest

/-- The exit that every missing packet takes. -/
def endpointNotReady : Task ρ Bool := do
  Endpoint_ClearOUT
  Endpoint_ClearStatusStage
  pure false

/-- GET COMMANDS -/
def getCommands (size : Nat) : Task ρ Unit := do
  if 1 < size ∧ (← Prog.get .access (·.firmware_data 0)) = 0x00 then
    setState .dfuDNBUSY
    setStatus .OK

/-- SET ADDRESS -/
def setAddress : Task ρ Unit := do
  if (← Prog.get .access (·.firmware_data 0)) = 0x21 then
    let address ← Prog.get .access (addressAt ·.firmware_data)
    setState .dfuDNBUSY
    setStatus .OK
    Prog.modify .access (fun d => { d with CurrentAddr := address })

/-- ERASE SECTOR -/
def eraseSector (P : Platform ρ) : Task ρ Unit := do
  if (← Prog.get .access (·.firmware_data 0)) = 0x41 then
    let address ← Prog.get .access (addressAt ·.firmware_data)
    setState .dfuDNBUSY
    setStatus .OK
    let result ← callErase P address
    if !result then
      setState .dfuERROR
      setStatus .errERASE

/-- `wValue == 0`. The result is `false` where the handler returns. -/
def command (P : Platform ρ) (size : Nat) : Task ρ Bool := do
  if (← Endpoint_WaitUntilReady) ≠ .ENDPOINT_READYWAIT_NoError then
    endpointNotReady
  else
    let _ ← Endpoint_Read_Stream_LE 0 size
    Endpoint_ClearOUT
    getCommands size
    setAddress
    eraseSector P
    pure true

/-- The length of the next packet when `size` bytes are left. -/
def toread (size : Nat) : Nat :=
  if size < FIXED_CONTROL_ENDPOINT_SIZE then size else FIXED_CONTROL_ENDPOINT_SIZE

/-- `while (size)`. The result is `false` where the handler returns. The loop takes at most `size`
turns, so `fuel = size` is enough; the `break` behind the last packet leaves it where the next test
would. -/
def readBlock : (fuel size firmware_offset : Nat) → Task ρ Bool
  | 0, _, _ => pure true
  | fuel + 1, size, firmware_offset =>
      if size = 0 then pure true
      else do
        if (← Endpoint_WaitUntilReady) ≠ .ENDPOINT_READYWAIT_NoError then
          endpointNotReady
        else
          let _ ← Endpoint_Read_Stream_LE firmware_offset (toread size)
          Endpoint_ClearOUT
          readBlock fuel (size - toread size) (firmware_offset + toread size)

/-- The state before the flash is written, and after a write that failed. -/
def writeBlock (P : Platform ρ) : Task ρ Unit := do
  setState .dfuDNBUSY
  setStatus .OK
  let write_result ← callWrite P
  if !write_result then
    setState .dfuERROR
    setStatus .errWRITE

/-- `wValue >= 2`. The result is `false` where the handler leaves the `switch`. -/
def block (P : Platform ρ) (size : Nat) : Task ρ Bool := do
  if (← Prog.get .access (·.DFU_State)) = .dfuDNLOAD_IDLE ∧ size = 0 then
    setState .dfuIDLE
    Endpoint_ClearOUT
    Endpoint_ClearStatusStage
    pure false
  else
    Prog.modify .access
      (fun d => { d with firmware_data := fill d.firmware_data 0 DFU_TRANSFER_SIZE (fun _ => 0) })
    if ← readBlock size size 0 then
      writeBlock P
      Prog.modify .access
        (fun d => { d with CurrentAddr := d.CurrentAddr + DFU_TRANSFER_SIZE.toUInt32 })
      pure true
    else pure false

def dnload (P : Platform ρ) (wValue size : Nat) : Task ρ Unit := do
  if ← (if wValue = 0 then command P size else pure true) then
    if ← (if 2 ≤ wValue then block P size else pure true) then
      Endpoint_ClearOUT
      Endpoint_ClearStatusStage

def upload (P : Platform ρ) (size : Nat) : Task ρ Unit := do
  if ← Prog.poll .Endpoint_IsINReady (·.ep.isInReady)
      (·.USB_DeviceState = .DEVICE_STATE_Unattached) then
    let memory ← Prog.get .access (·.CurrentAddr)
    let _ ← Endpoint_Write_Stream_LE (fun d i => P.memory d.rom (memory + i.toUInt32)) size
    Prog.modify .access (fun d => { d with CurrentAddr := d.CurrentAddr + size.toUInt32 })
    setState .dfuDNBUSY
    setStatus .OK
    Endpoint_ClearIN
    Endpoint_ClearStatusStage

def getStatus : Task ρ Unit := do
  Endpoint_Write_8 (← Prog.get .access (·.DFU_Status.code))
  Endpoint_Write_8 0
  Endpoint_Write_16_LE 0
  Endpoint_Write_8 (← Prog.get .access (·.DFU_State.code))
  Endpoint_Write_8 0
  Endpoint_ClearIN
  Endpoint_ClearStatusStage
  if (← Prog.get .access (·.DFU_State)) = .dfuDNBUSY then
    setState .dfuDNLOAD_IDLE

def clrStatus : Task ρ Unit := do
  setStatus .OK
  setState .dfuIDLE
  Endpoint_ClearStatusStage

def getState : Task ρ Unit := do
  Endpoint_Write_8 (← Prog.get .access (·.DFU_State.code))
  Endpoint_ClearIN
  Endpoint_ClearStatusStage

def abort : Task ρ Unit := do
  setState .dfuIDLE
  Endpoint_ClearStatusStage

def detach : Task ρ Unit := do
  Prog.modify .access (fun d => { d with need_detach := true })
  Endpoint_ClearStatusStage

/-- `switch (USB_ControlRequest.bRequest)`. -/
def switch (P : Platform ρ) (wValue size : Nat) : Option DFU_REQ → Task ρ Unit
  | some .DNLOAD => dnload P wValue size
  | some .UPLOAD => upload P size
  | some .GETSTATUS => getStatus
  | some .CLRSTATUS => clrStatus
  | some .GETSTATE => getState
  | some .ABORT => abort
  | some .DETATCH => detach
  | none => pure ()

end EVENT_USB_Device_ControlRequest

open EVENT_USB_Device_ControlRequest in
def EVENT_USB_Device_ControlRequest (P : Platform ρ) : Task ρ Unit := do
  let isSETUPReceived ← Prog.exec .EVENT_USB_Device_ControlRequest
    (fun d => d.note (.dispatch d.USB_ControlRequest)) (·.ep.SETUPReceived)
  if isSETUPReceived then
    if ← Prog.get .access (·.USB_ControlRequest.isClassInterface) then
      let wValue ← Prog.get .access (·.USB_ControlRequest.wValue.toNat)
      let size ← Prog.get .access (·.USB_ControlRequest.wLength.toNat)
      Endpoint_ClearSETUP .handlerClearSETUP
      switch P wValue size (DFU_REQ.ofCode (← Prog.get .access (·.USB_ControlRequest.bRequest)))

end DfuSeBootloader.Dfu
