import DfuSeBootloader.Codec.Records
import DfuSeBootloader.Iap.Basic
import DfuSeBootloader.Program.Basic

/-!
# The state of the bootloader

The variables of the endpoint driver, of the USB library and of `usb_task.c`, the part of the USB
controller that the driver talks to, and the OUT packets that are still on their way. Only the
control endpoint is modelled.
-/

namespace DfuSeBootloader.Usb
open Codec

/-! ## Sizes -/

@[simp] def FIXED_CONTROL_ENDPOINT_SIZE : Nat := 64

@[simp] def USB_DATA_BUFFER_TEM_LENGTH : Nat := 512

@[simp] def DFU_TRANSFER_SIZE : Nat := 512

/-! ## Requests -/

structure USB_Request_Header_t where
  bmRequestType : UInt8
  bRequest : UInt8
  wValue : UInt16
  wIndex : UInt16
  wLength : UInt16
  deriving DecidableEq, Repr

/-- The bytes of a header, as the controller and the memory hold them. -/
def USB_Request_Header_t.byte (h : USB_Request_Header_t) : Nat → UInt8
  | 0 => h.bmRequestType
  | 1 => h.bRequest
  | 2 => low h.wValue
  | 3 => high h.wValue
  | 4 => low h.wIndex
  | 5 => high h.wIndex
  | 6 => low h.wLength
  | _ => high h.wLength

def USB_Request_Header_t.ofBytes (b : Nat → UInt8) : USB_Request_Header_t where
  bmRequestType := b 0
  bRequest := b 1
  wValue := word (b 2) (b 3)
  wIndex := word (b 4) (b 5)
  wLength := word (b 6) (b 7)

/-- A SETUP packet together with the bytes that the host sends in the data stage behind it. The
device stores the header only: it never reads `data`, which is carried along to say which OUT bytes
belong to which request. -/
structure ControlTransfer extends USB_Request_Header_t where
  data : List UInt8
  deriving DecidableEq, Repr

/-- The header with its byte `i` taken from `source`, which then counts as the request that the data
belong to. -/
def ControlTransfer.copyByte (t : ControlTransfer) (i : Nat) (source : ControlTransfer) :
    ControlTransfer :=
  ⟨.ofBytes (Function.update t.byte i (source.byte i)), source.data⟩

def CONTROL_REQTYPE_TYPE : UInt8 := 0x60
def CONTROL_REQTYPE_RECIPIENT : UInt8 := 0x1F
def REQDIR_HOSTTODEVICE : UInt8 := 0x00
def REQDIR_DEVICETOHOST : UInt8 := 0x80
def REQTYPE_STANDARD : UInt8 := 0x00
def REQTYPE_CLASS : UInt8 := 0x20
def REQREC_DEVICE : UInt8 := 0x00
def REQREC_INTERFACE : UInt8 := 0x01
def REQREC_ENDPOINT : UInt8 := 0x02

/-- The test of `EVENT_USB_Device_ControlRequest` for a request to the DFU interface. -/
def USB_Request_Header_t.isClassInterface (h : USB_Request_Header_t) : Bool :=
  h.bmRequestType &&& (CONTROL_REQTYPE_TYPE ||| CONTROL_REQTYPE_RECIPIENT) ==
    (REQTYPE_CLASS ||| REQREC_INTERFACE)

/-- The test of `Endpoint_ClearStatusStage`. -/
def USB_Request_Header_t.isDeviceToHost (h : USB_Request_Header_t) : Bool :=
  h.bmRequestType &&& REQDIR_DEVICETOHOST != 0

def REQ_GetStatus : UInt8 := 0
def REQ_ClearFeature : UInt8 := 1
def REQ_SetFeature : UInt8 := 3
def REQ_SetAddress : UInt8 := 5
def REQ_GetDescriptor : UInt8 := 6
def REQ_GetConfiguration : UInt8 := 8
def REQ_SetConfiguration : UInt8 := 9
def FEATURE_SEL_EndpointHalt : UInt8 := 0x00
def FEATURE_SEL_DeviceRemoteWakeup : UInt8 := 0x01
def FEATURE_SELFPOWERED_ENABLED : UInt8 := 0x01
def FEATURE_REMOTE_WAKEUP_ENABLED : UInt8 := 0x02
def ENDPOINT_EPNUM_MASK : UInt8 := 0x0F
def ENDPOINT_CONTROLEP : UInt8 := 0
def FIXED_NUM_CONFIGURATIONS : UInt8 := 1

inductive USB_Device_States_t
  | DEVICE_STATE_Unattached
  | DEVICE_STATE_Powered
  | DEVICE_STATE_Default
  | DEVICE_STATE_Addressed
  | DEVICE_STATE_Configured
  | DEVICE_STATE_Suspended
  deriving DecidableEq, Repr

/-! ## DFU states -/

inductive DFU_State_t
  | appIDLE
  | appDETACH
  | dfuIDLE
  | dfuDNLOAD_SYNC
  | dfuDNBUSY
  | dfuDNLOAD_IDLE
  | dfuMANIFEST_SYNC
  | dfuMANIFEST
  | dfuMANIFEST_WAIT_RESET
  | dfuUPLOAD_IDLE
  | dfuERROR
  deriving DecidableEq, Repr

inductive DFU_Status_t
  | OK
  | errTARGET
  | errFILE
  | errWRITE
  | errERASE
  | errCHECK_ERASED
  | errPROG
  | errVERIFY
  | errADDRESS
  | errNOTDONE
  | errFIRMWARE
  | errVENDOR
  | errUSBR
  | errPOR
  | errUNKNOWN
  | errSTALLEDPKT
  deriving DecidableEq, Repr

def DFU_State_t.code : DFU_State_t → UInt8
  | appIDLE => 0
  | appDETACH => 1
  | dfuIDLE => 2
  | dfuDNLOAD_SYNC => 3
  | dfuDNBUSY => 4
  | dfuDNLOAD_IDLE => 5
  | dfuMANIFEST_SYNC => 6
  | dfuMANIFEST => 7
  | dfuMANIFEST_WAIT_RESET => 8
  | dfuUPLOAD_IDLE => 9
  | dfuERROR => 10

def DFU_Status_t.code : DFU_Status_t → UInt8
  | OK => 0
  | errTARGET => 1
  | errFILE => 2
  | errWRITE => 3
  | errERASE => 4
  | errCHECK_ERASED => 5
  | errPROG => 6
  | errVERIFY => 7
  | errADDRESS => 8
  | errNOTDONE => 9
  | errFIRMWARE => 10
  | errVENDOR => 11
  | errUSBR => 12
  | errPOR => 13
  | errUNKNOWN => 14
  | errSTALLEDPKT => 15

/-! ## The control endpoint -/

/-- The driver's variables of the control endpoint, and the USB controller behind them. -/
structure Endpoint where
  SETUPReceived : Bool
  isOutReceived : Bool
  isInReady : Bool
  shortpacket : Bool
  SetupPackage : ControlTransfer
  /-- The bytes from the start of the array on: the first `USB_DATA_BUFFER_TEM_LENGTH` of them
  belong to the array, the others to what the linker put behind it. -/
  usb_data_buffer : Nat → UInt8
  usb_data_buffer_size : Int
  usb_data_buffer_index : Nat
  DataInRemainCount : Nat
  DataInRemainOffset : Nat
  /-- The controller holds a received packet that `CMD_CLR_BUF` has not released yet. -/
  rxFull : Bool
  /-- The OUT packets that the host still has to send in the data stage of `SetupPackage`. -/
  inFlight : List (List UInt8)
  /-- The SETUP packets that have come, oldest first. -/
  sent : List ControlTransfer
  /-- The packets given to the controller with `CMD_VALID_BUF`, oldest first. -/
  tx : List (List UInt8)
  /-- The endpoint answers with STALL. -/
  stalled : Bool

/-! ## The device -/

/-- Calls that the specification speaks about, as they happen. The program writes this history and
never reads it. -/
inductive Call
  /-- `EVENT_USB_Device_ControlRequest` is called for a request. -/
  | dispatch (t : ControlTransfer)
  /-- `Endpoint_ClearStatusStage` is called. -/
  | statusStage
  | stall
  | iap_write (address : UInt32) (buffer : Nat → UInt8) (result : Bool)
  | iap_erase (address : UInt32) (result : Bool)

structure Device (ρ : Type) where
  ep : Endpoint
  USB_ControlRequest : ControlTransfer
  USB_DeviceState : USB_Device_States_t
  USB_Device_ConfigurationNumber : UInt8
  USB_Device_CurrentlySelfPowered : Bool
  USB_Device_RemoteWakeupEnabled : Bool
  DFU_State : DFU_State_t
  DFU_Status : DFU_Status_t
  /-- The bytes from the start of the array on, as for `usb_data_buffer`. -/
  firmware_data : Nat → UInt8
  CurrentAddr : UInt32
  need_detach : Bool
  rom : ρ
  calls : List Call

variable {ρ : Type}

/-- The calls of a history that went to the IAP functions. -/
def Call.isIap : Call → Bool
  | iap_write _ _ _ => true
  | iap_erase _ _ => true
  | _ => false

/-- The requests that were passed to the handler, oldest first. -/
def dispatches (calls : List Call) : List ControlTransfer :=
  calls.filterMap fun
    | .dispatch t => some t
    | _ => none

namespace Device

def onEp (f : Endpoint → Endpoint) (d : Device ρ) : Device ρ := { d with ep := f d.ep }

def note (c : Call) (d : Device ρ) : Device ρ := { d with calls := d.calls ++ [c] }

end Device

/-- The endpoint after the bus reset that begins a session, where `SetupPackage` and the buffer hold
what the memory held before. -/
def Endpoint.start (SetupPackage : ControlTransfer) (usb_data_buffer : Nat → UInt8) : Endpoint where
  SETUPReceived := false
  isOutReceived := false
  isInReady := true
  shortpacket := false
  SetupPackage := SetupPackage
  usb_data_buffer := usb_data_buffer
  usb_data_buffer_size := 0
  usb_data_buffer_index := 0
  DataInRemainCount := 0
  DataInRemainOffset := 0
  rxFull := false
  inFlight := []
  sent := []
  tx := []
  stalled := false

/-- The device after the bus reset that begins a session, with cleared memory. -/
def Device.start (rom : ρ) : Device ρ where
  ep := Endpoint.start ⟨⟨0, 0, 0, 0, 0⟩, []⟩ (fun _ => 0)
  USB_ControlRequest := ⟨⟨0, 0, 0, 0, 0⟩, []⟩
  USB_DeviceState := .DEVICE_STATE_Default
  USB_Device_ConfigurationNumber := 0
  USB_Device_CurrentlySelfPowered := false
  USB_Device_RemoteWakeupEnabled := false
  DFU_State := .dfuIDLE
  DFU_Status := .OK
  firmware_data := fun _ => 0
  CurrentAddr := 0
  need_detach := false
  rom := rom
  calls := []

/-! ## Operations -/

/-- The place that releases the controller's OUT buffer. -/
inductive Caller
  | handlerClearSETUP
  | libraryClearSETUP
  | clearOUT
  deriving DecidableEq, Repr

/-- Names for the accesses of the USB task. -/
inductive Op
  /-- An access to a variable. -/
  | access
  /-- Byte `i` of the header is copied. -/
  | memcpy (i : Nat)
  /-- A test that `USB_DeviceTask` makes before it turns to a request. -/
  | USB_DeviceTask
  /-- An access of `task_loop` itself. -/
  | task_loop
  | CMD_CLR_BUF (caller : Caller)
  | CMD_VALID_BUF
  | EVENT_USB_Device_ControlRequest
  | Endpoint_WaitUntilReady
  | Endpoint_IsINReady
  | Endpoint_StallTransaction
  | OS_CRITICAL
  | iap_write
  | iap_erase
  | store_usb_data_buffer (i : Nat)
  | store_firmware_data (i : Nat)
  deriving DecidableEq, Repr

/-- A part of the USB task. -/
abbrev Task (ρ : Type) : Type → Type := Program.Prog (Device ρ) Op

end DfuSeBootloader.Usb
