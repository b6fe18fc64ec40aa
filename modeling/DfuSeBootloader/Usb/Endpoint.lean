import DfuSeBootloader.Memory.Basic
import DfuSeBootloader.Usb.Device

/-!
# The control endpoint driver

The functions of `Endpoint_LPC17xx.c`, `Endpoint_LPC17xx.h`, `Endpoint_LPC.c`, `Endpoint_LPC.h` and
`EndpointStream_LPC.c`, for the control endpoint. The interrupt handler is a function on the
endpoint: it runs as one step. What the USB task calls is a program: an interrupt may come between
any two of its accesses.
-/

namespace DfuSeBootloader.Usb
open Program Memory

/-! ## The interrupt handler -/

namespace Endpoint

/-- `store` is what the words read from the controller do to the variable behind `pData`. -/
def ReadControlEndpoint (store : Endpoint → Endpoint) (cnt : Nat) (e : Endpoint) : Endpoint :=
  let e := store e
  { e with
    isOutReceived := e.isOutReceived || (decide (0 < cnt) && !e.SETUPReceived)
    usb_data_buffer_size := cnt }

/-- `pData` is an offset into `usb_data_buffer`. -/
def WriteControlEndpoint (pData cnt : Nat) (e : Endpoint) : Endpoint :=
  if FIXED_CONTROL_ENDPOINT_SIZE ≤ cnt then
    { e with
      isInReady := false
      shortpacket := e.shortpacket || cnt == FIXED_CONTROL_ENDPOINT_SIZE
      DataInRemainCount := cnt - FIXED_CONTROL_ENDPOINT_SIZE
      DataInRemainOffset := e.DataInRemainOffset + FIXED_CONTROL_ENDPOINT_SIZE
      tx := e.tx ++ [slice e.usb_data_buffer pData FIXED_CONTROL_ENDPOINT_SIZE] }
  else
    { e with
      isInReady := true
      DataInRemainCount := 0
      DataInRemainOffset := 0
      tx := e.tx ++ [slice e.usb_data_buffer pData cnt] }

/-- The words that hold a packet of the controller; `junk` is behind its last byte. -/
def storePacket (p : List UInt8) (junk : Nat → UInt8) (e : Endpoint) : Endpoint :=
  { e with
    usb_data_buffer :=
      fill e.usb_data_buffer 0 (4 * ((p.length + 3) / 4)) (fun i => p.getD i (junk i)) }

/-- `SlaveEndpointISR` for a SETUP packet. The controller takes it at any time. -/
def setupISR (t : ControlTransfer) (e : Endpoint) : Endpoint :=
  ReadControlEndpoint (fun e => { e with SetupPackage := t }) 8
    { e with
      SETUPReceived := true
      rxFull := true
      inFlight := chunks FIXED_CONTROL_ENDPOINT_SIZE t.data
      sent := e.sent ++ [t]
      stalled := false }

/-- `SlaveEndpointISR` for an OUT packet. -/
def outISR (p : List UInt8) (junk : Nat → UInt8) (e : Endpoint) : Endpoint :=
  ReadControlEndpoint (storePacket p junk) p.length { e with rxFull := true }

/-- `SlaveEndpointISR` for the IN endpoint. -/
def inISR (e : Endpoint) : Endpoint :=
  let e := { e with isInReady := true }
  if e.DataInRemainCount ≠ 0 then
    WriteControlEndpoint e.DataInRemainOffset e.DataInRemainCount e
  else if e.shortpacket then
    { WriteControlEndpoint e.DataInRemainOffset e.DataInRemainCount { e with shortpacket := false }
      with DataInRemainOffset := 0 }
  else e

end Endpoint

/-- What the host does. -/
inductive Event
  | setup (t : ControlTransfer)
  /-- The next OUT packet of the data stage is sent; the controller leaves `junk` behind it. -/
  | out (junk : Nat → UInt8)
  /-- An OUT packet without data is sent. -/
  | zlp
  /-- An IN packet has been collected. -/
  | inComplete

/-- The controller refuses an OUT packet as long as it holds one. -/
def Endpoint.interrupt : Event → Endpoint → Endpoint
  | .setup t, e => e.setupISR t
  | .out junk, e =>
      if e.rxFull then e
      else match e.inFlight with
        | [] => e
        | p :: ps => { e with inFlight := ps }.outISR p junk
  | .zlp, e => if e.rxFull then e else e.outISR [] (fun _ => 0)
  | .inComplete, e => e.inISR

variable {ρ : Type}

def interrupt (ev : Event) : Device ρ → Device ρ := Device.onEp (Endpoint.interrupt ev)

/-! ## Flags and packets -/

/-- The loop of `memcpy` from `SetupPackage` to `USB_ControlRequest`: `n` bytes are left, the next is
byte `i`. -/
def memcpy : Nat → Nat → Task ρ Unit
  | 0, _ => pure ()
  | n + 1, i => do
      Prog.modify (.memcpy i) fun d =>
        { d with USB_ControlRequest := d.USB_ControlRequest.copyByte i d.ep.SetupPackage }
      memcpy n (i + 1)

def Endpoint_GetSetupPackage : Task ρ Unit := memcpy 8 0

def Endpoint_IsSETUPReceived : Task ρ Bool := Prog.get .access (·.ep.SETUPReceived)

def Endpoint_ClearSETUP (caller : Caller) : Task ρ Unit := do
  Prog.modify .access (Device.onEp fun e => { e with SETUPReceived := false })
  Prog.modify .access (Device.onEp fun e => { e with usb_data_buffer_index := 0 })
  Prog.modify .access (Device.onEp fun e => { e with usb_data_buffer_size := 0 })
  Prog.modify (.CMD_CLR_BUF caller) (Device.onEp fun e => { e with rxFull := false })

def Endpoint_ClearOUT : Task ρ Unit := do
  Prog.modify .access (Device.onEp fun e => { e with usb_data_buffer_index := 0 })
  Prog.modify (.CMD_CLR_BUF .clearOUT) (Device.onEp fun e => { e with rxFull := false })
  Prog.modify .access (Device.onEp fun e => { e with isOutReceived := false })

def Endpoint_ClearIN : Task ρ Unit := do
  Prog.modify .CMD_VALID_BUF
    (Device.onEp fun e => e.WriteControlEndpoint 0 e.usb_data_buffer_index)
  Prog.modify .access (Device.onEp fun e => { e with usb_data_buffer_index := 0 })
  Prog.modify .access (Device.onEp fun e => { e with usb_data_buffer_size := 0 })

def Endpoint_ClearStatusStage : Task ρ Unit := do
  let deviceToHost ← Prog.exec .access (Device.note .statusStage)
    (·.USB_ControlRequest.isDeviceToHost)
  if deviceToHost then Endpoint_ClearOUT else Endpoint_ClearIN

def Endpoint_StallTransaction : Task ρ Unit :=
  Prog.modify .Endpoint_StallTransaction
    (fun d => (d.onEp fun e => { e with stalled := true }).note .stall)

inductive Endpoint_WaitUntilReady_ErrorCodes_t
  | ENDPOINT_READYWAIT_NoError
  | ENDPOINT_READYWAIT_EndpointStalled
  | ENDPOINT_READYWAIT_DeviceDisconnected
  | ENDPOINT_READYWAIT_BusSuspended
  | ENDPOINT_READYWAIT_Timeout
  deriving DecidableEq, Repr

/-- The control endpoint counts as an OUT endpoint here. Time is not modelled: the loop may give up
at every turn. -/
def Endpoint_WaitUntilReady : Task ρ Endpoint_WaitUntilReady_ErrorCodes_t := do
  if ← Prog.poll .Endpoint_WaitUntilReady (·.ep.isOutReceived) (fun _ => true) then
    pure .ENDPOINT_READYWAIT_NoError
  else
    Prog.get .access fun d =>
      if d.USB_DeviceState = .DEVICE_STATE_Unattached then .ENDPOINT_READYWAIT_DeviceDisconnected
      else if d.USB_DeviceState = .DEVICE_STATE_Suspended then .ENDPOINT_READYWAIT_BusSuspended
      else if d.ep.stalled then .ENDPOINT_READYWAIT_EndpointStalled
      else .ENDPOINT_READYWAIT_Timeout

/-! ## Bytes and streams -/

/-- A store into `usb_data_buffer` behind its end has no defined behaviour. -/
def store_usb_data_buffer (i : Nat) (Data : UInt8) : Task ρ Unit :=
  if i < USB_DATA_BUFFER_TEM_LENGTH then
    Prog.modify (.store_usb_data_buffer i)
      (Device.onEp fun e => { e with usb_data_buffer := Function.update e.usb_data_buffer i Data })
  else .fault (.store_usb_data_buffer i)

/-- A store into `firmware_data` behind its end has no defined behaviour. -/
def store_firmware_data (i : Nat) (Data : UInt8) : Task ρ Unit :=
  if i < DFU_TRANSFER_SIZE then
    Prog.modify (.store_firmware_data i)
      (fun d => { d with firmware_data := Function.update d.firmware_data i Data })
  else .fault (.store_firmware_data i)

def Endpoint_Read_8 : Task ρ UInt8 := do
  let tem ← Prog.get .access fun d => d.ep.usb_data_buffer d.ep.usb_data_buffer_index
  Prog.modify .access
    (Device.onEp fun e => { e with usb_data_buffer_index := e.usb_data_buffer_index + 1 })
  Prog.modify .access
    (Device.onEp fun e => { e with usb_data_buffer_size := e.usb_data_buffer_size - 1 })
  pure tem

def Endpoint_Write_8 (Data : UInt8) : Task ρ Unit := do
  let i ← Prog.get .access (·.ep.usb_data_buffer_index)
  store_usb_data_buffer i Data
  Prog.modify .access
    (Device.onEp fun e => { e with usb_data_buffer_index := e.usb_data_buffer_index + 1 })

def Endpoint_Write_16_LE (Data : UInt16) : Task ρ Unit := do
  Endpoint_Write_8 (Data &&& 0xFF).toUInt8
  Endpoint_Write_8 ((Data >>> 8) &&& 0xFF).toUInt8

inductive Endpoint_Stream_RW_ErrorCodes_t
  | ENDPOINT_RWSTREAM_NoError
  | ENDPOINT_RWSTREAM_IncompleteTransfer
  deriving DecidableEq, Repr

/-- The loop of `Endpoint_Write_Stream_LE`: `n` bytes are left, the next is `Buffer[i]`. -/
def writeStreamLoop (Buffer : Device ρ → Nat → UInt8) : Nat → Nat → Task ρ Unit
  | 0, _ => pure ()
  | n + 1, i => do
      let Data ← Prog.get .access fun d => Buffer d i
      Endpoint_Write_8 Data
      writeStreamLoop Buffer n (i + 1)

def Endpoint_Write_Stream_LE (Buffer : Device ρ → Nat → UInt8) (Length : Nat) :
    Task ρ Endpoint_Stream_RW_ErrorCodes_t := do
  writeStreamLoop Buffer Length 0
  pure .ENDPOINT_RWSTREAM_NoError

/-- The loop of `Endpoint_Read_Stream_LE`: `n` bytes are left, the next goes to
`firmware_data[offset + i]`. -/
def readStreamLoop (offset : Nat) : Nat → Nat → Task ρ Unit
  | 0, _ => pure ()
  | n + 1, i => do
      let tem ← Endpoint_Read_8
      store_firmware_data (offset + i) tem
      readStreamLoop offset n (i + 1)

/-- The buffer is `firmware_data + offset`, the only one that the program reads into. -/
def Endpoint_Read_Stream_LE (offset Length : Nat) : Task ρ Endpoint_Stream_RW_ErrorCodes_t := do
  if (← Prog.get .access (·.ep.usb_data_buffer_size)) = 0 then
    pure .ENDPOINT_RWSTREAM_IncompleteTransfer
  else
    readStreamLoop offset Length 0
    pure .ENDPOINT_RWSTREAM_NoError

end DfuSeBootloader.Usb
