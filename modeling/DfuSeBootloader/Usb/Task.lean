import DfuSeBootloader.Dfu.Request
import DfuSeBootloader.Program.Loop

/-!
# The USB task

`DeviceStandardReq.c`, `USB_DeviceTask` of `USBTask.c` and `task_loop` of `usb_task.c`.
-/

namespace DfuSeBootloader.Usb
open Program Iap Dfu

variable {ρ : Type}

/-! ## Standard requests -/

def USB_Device_SetAddress : Task ρ Unit := do
  let DeviceAddress ← Prog.get .access (·.USB_ControlRequest.wValue &&& 0x7F)
  Prog.critical .OS_CRITICAL do
    Endpoint_ClearSETUP .libraryClearSETUP
    Endpoint_ClearStatusStage
  let _ ← Prog.poll .Endpoint_IsINReady (·.ep.isInReady) (fun _ => false)
  Prog.modify .access fun d =>
    { d with
      USB_DeviceState :=
        if DeviceAddress ≠ 0 then .DEVICE_STATE_Addressed else .DEVICE_STATE_Default }

def USB_Device_IsAddressSet : Bool := true

def USB_Device_SetConfiguration : Task ρ Unit := do
  let wValue ← Prog.get .access (·.USB_ControlRequest.wValue.toUInt8)
  if wValue ≤ FIXED_NUM_CONFIGURATIONS then
    Endpoint_ClearSETUP .libraryClearSETUP
    Prog.modify .access fun d => { d with USB_Device_ConfigurationNumber := wValue }
    Endpoint_ClearStatusStage
    Prog.modify .access fun d =>
      { d with
        USB_DeviceState :=
          if d.USB_Device_ConfigurationNumber ≠ 0 then .DEVICE_STATE_Configured
          else if USB_Device_IsAddressSet then .DEVICE_STATE_Configured
          else .DEVICE_STATE_Powered }

def USB_Device_GetConfiguration : Task ρ Unit := do
  Endpoint_ClearSETUP .libraryClearSETUP
  Endpoint_Write_8 (← Prog.get .access (·.USB_Device_ConfigurationNumber))
  Endpoint_ClearIN
  Endpoint_ClearStatusStage

def Endpoint_Write_Control_Stream_LE (Buffer : List UInt8) : Task ρ Unit := do
  let wLength ← Prog.get .access (·.USB_ControlRequest.wLength.toNat)
  let _ ← Endpoint_Write_Stream_LE (fun _ i => Buffer.getD i 0) (min Buffer.length wLength)
  Endpoint_ClearIN

def USB_Device_GetDescriptor (P : Platform ρ) : Task ρ Unit := do
  let Descriptor ← Prog.get .access fun d =>
    P.CALLBACK_USB_GetDescriptor d.USB_ControlRequest.wValue d.USB_ControlRequest.wIndex
  if Descriptor.length ≠ 0 then
    Endpoint_ClearSETUP .libraryClearSETUP
    Endpoint_Write_Control_Stream_LE Descriptor
    Endpoint_ClearOUT

/-- `CurrentStatus`, where `bmRequestType` is one of the two that are answered. -/
def currentStatus (P : Platform ρ) (d : Device ρ) : Option UInt8 :=
  let h := d.USB_ControlRequest
  if h.bmRequestType = REQDIR_DEVICETOHOST ||| REQTYPE_STANDARD ||| REQREC_DEVICE then
    some ((if d.USB_Device_CurrentlySelfPowered then FEATURE_SELFPOWERED_ENABLED else 0) |||
      (if d.USB_Device_RemoteWakeupEnabled then FEATURE_REMOTE_WAKEUP_ENABLED else 0))
  else if h.bmRequestType = REQDIR_DEVICETOHOST ||| REQTYPE_STANDARD ||| REQREC_ENDPOINT then
    let number := h.wIndex.toUInt8 &&& ENDPOINT_EPNUM_MASK
    some (if number = ENDPOINT_CONTROLEP then d.ep.stalled.toUInt8
      else (P.Endpoint_IsStalled number).toUInt8)
  else none

def USB_Device_GetStatus (P : Platform ρ) : Task ρ Unit := do
  match ← Prog.get .access (currentStatus P) with
  | none => pure ()
  | some CurrentStatus => do
      Endpoint_ClearSETUP .libraryClearSETUP
      Endpoint_Write_16_LE CurrentStatus.toUInt16
      Endpoint_ClearIN
      Endpoint_ClearStatusStage

/-- Halting another endpoint than the control endpoint changes nothing that is modelled. The result
is `false` where the function returns. -/
def clearSetFeature : Task ρ Bool := do
  let h ← Prog.get .access (·.USB_ControlRequest.toUSB_Request_Header_t)
  if h.bmRequestType &&& CONTROL_REQTYPE_RECIPIENT = REQREC_DEVICE then
    if h.wValue.toUInt8 = FEATURE_SEL_DeviceRemoteWakeup then
      Prog.modify .access fun d =>
        { d with USB_Device_RemoteWakeupEnabled := h.bRequest = REQ_SetFeature }
      pure true
    else pure false
  else if h.bmRequestType &&& CONTROL_REQTYPE_RECIPIENT = REQREC_ENDPOINT then
    pure !(h.wValue.toUInt8 = FEATURE_SEL_EndpointHalt ∧
      h.wIndex.toUInt8 &&& ENDPOINT_EPNUM_MASK = ENDPOINT_CONTROLEP)
  else pure false

def USB_Device_ClearSetFeature : Task ρ Unit := do
  if ← clearSetFeature then
    Endpoint_ClearSETUP .libraryClearSETUP
    Endpoint_ClearStatusStage

/-- The `switch` of `USB_Device_ProcessControlRequest`. -/
def standardRequest (P : Platform ρ) (h : USB_Request_Header_t) : Task ρ Unit :=
  let fromHost := h.bmRequestType = REQDIR_HOSTTODEVICE ||| REQTYPE_STANDARD ||| REQREC_DEVICE
  let toHost := h.bmRequestType = REQDIR_DEVICETOHOST ||| REQTYPE_STANDARD ||| REQREC_DEVICE
  if h.bRequest = REQ_GetStatus then
    if toHost ∨ h.bmRequestType = REQDIR_DEVICETOHOST ||| REQTYPE_STANDARD ||| REQREC_ENDPOINT then
      USB_Device_GetStatus P
    else pure ()
  else if h.bRequest = REQ_ClearFeature ∨ h.bRequest = REQ_SetFeature then
    if fromHost ∨
        h.bmRequestType = REQDIR_HOSTTODEVICE ||| REQTYPE_STANDARD ||| REQREC_ENDPOINT then
      USB_Device_ClearSetFeature
    else pure ()
  else if h.bRequest = REQ_SetAddress then
    if fromHost then USB_Device_SetAddress else pure ()
  else if h.bRequest = REQ_GetDescriptor then
    if toHost ∨
        h.bmRequestType = REQDIR_DEVICETOHOST ||| REQTYPE_STANDARD ||| REQREC_INTERFACE then
      USB_Device_GetDescriptor P
    else pure ()
  else if h.bRequest = REQ_GetConfiguration then
    if toHost then USB_Device_GetConfiguration else pure ()
  else if h.bRequest = REQ_SetConfiguration then
    if fromHost then USB_Device_SetConfiguration else pure ()
  else pure ()

/-! ## The loop -/

/-- The first test behind the event handler. -/
def standardRequests (P : Platform ρ) : Task ρ Unit := do
  if ← Endpoint_IsSETUPReceived then
    standardRequest P (← Prog.get .access (·.USB_ControlRequest.toUSB_Request_Header_t))

/-- The second test behind the event handler. -/
def stallUnhandled : Task ρ Unit := do
  if ← Endpoint_IsSETUPReceived then
    Endpoint_ClearSETUP .libraryClearSETUP
    Endpoint_StallTransaction

def USB_Device_ProcessControlRequest (P : Platform ρ) : Task ρ Unit := do
  Endpoint_GetSetupPackage
  EVENT_USB_Device_ControlRequest P
  standardRequests P
  stallUnhandled

def USB_DeviceTask (P : Platform ρ) : Task ρ Unit := do
  if (← Prog.get .USB_DeviceTask (·.USB_DeviceState)) ≠ .DEVICE_STATE_Unattached then
    if ← Prog.get .USB_DeviceTask (·.ep.SETUPReceived) then
      USB_Device_ProcessControlRequest P

/-- One turn of the loop in `task_loop`. The result says whether the system is reset: the loop never
comes back from `user_app_start_user`. -/
def task_loop (P : Platform ρ) : Task ρ Bool := do
  USB_DeviceTask P
  if ← Prog.get .task_loop (·.need_detach) then
    Prog.modify .task_loop fun d => { d with need_detach := true }
    pure true
  else pure false

/-! ## The task and the interrupts -/

/-- What is left of the turn, and the device. -/
abbrev TaskConfig (ρ : Type) : Type := Config (Device ρ) Op Bool

/-- An interrupt comes, or the task makes one access, or it begins its next turn. -/
def taskMove (P : Platform ρ) : Move Event → TaskConfig ρ → Option (TaskConfig ρ) :=
  loop interrupt (task_loop P) (! ·)

end DfuSeBootloader.Usb
