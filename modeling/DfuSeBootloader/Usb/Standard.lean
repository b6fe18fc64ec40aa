import DfuSeBootloader.Usb.Task

/-!
# What the standard requests ask for

The USB library as its host sees it: every request that is not for the DFU interface has one answer,
and that depends on few variables.
-/

namespace DfuSeBootloader.Usb
open Iap

variable {ρ : Type}

/-- The standard requests that the library takes up. -/
inductive StandardRequest
  | deviceStatus
  | endpointStatus (number : UInt8)
  | remoteWakeup (enabled : Bool)
  /-- A feature of an endpoint, other than halting the control endpoint. -/
  | endpointFeature
  | setAddress (address : UInt16)
  | descriptor (wValue wIndex : UInt16)
  | getConfiguration
  | setConfiguration (number : UInt8)
  deriving DecidableEq, Repr

/-- The standard request that a header stands for. -/
def USB_Request_Header_t.standard (h : USB_Request_Header_t) : Option StandardRequest :=
  if h.bRequest = REQ_GetStatus then
    if h.bmRequestType = 0x80 then some .deviceStatus
    else if h.bmRequestType = 0x82 then
      some (.endpointStatus (h.wIndex.toUInt8 &&& ENDPOINT_EPNUM_MASK))
    else none
  else if h.bRequest = REQ_ClearFeature ∨ h.bRequest = REQ_SetFeature then
    if h.bmRequestType = 0x00 ∧ h.wValue.toUInt8 = FEATURE_SEL_DeviceRemoteWakeup then
      some (.remoteWakeup (h.bRequest = REQ_SetFeature))
    else if h.bmRequestType = 0x02 ∧ ¬ (h.wValue.toUInt8 = FEATURE_SEL_EndpointHalt ∧
        h.wIndex.toUInt8 &&& ENDPOINT_EPNUM_MASK = ENDPOINT_CONTROLEP) then
      some .endpointFeature
    else none
  else if h.bRequest = REQ_SetAddress then
    if h.bmRequestType = 0x00 then some (.setAddress (h.wValue &&& 0x7F)) else none
  else if h.bRequest = REQ_GetDescriptor then
    if h.bmRequestType = 0x80 ∨ h.bmRequestType = 0x81 then some (.descriptor h.wValue h.wIndex)
    else none
  else if h.bRequest = REQ_GetConfiguration then
    if h.bmRequestType = 0x80 then some .getConfiguration else none
  else if h.bRequest = REQ_SetConfiguration then
    if h.bmRequestType = 0x00 then some (.setConfiguration h.wValue.toUInt8) else none
  else none

/-- The variables of the library that the answers depend on. -/
structure Library where
  deviceState : USB_Device_States_t
  configuration : UInt8
  selfPowered : Bool
  remoteWakeup : Bool
  deriving DecidableEq, Repr

def library (d : Device ρ) : Library where
  deviceState := d.USB_DeviceState
  configuration := d.USB_Device_ConfigurationNumber
  selfPowered := d.USB_Device_CurrentlySelfPowered
  remoteWakeup := d.USB_Device_RemoteWakeupEnabled

/-- The data that a request is answered with, where no data is a status stage and `none` is a STALL. -/
abbrev Reply : Type := Option (List UInt8)

namespace StandardRequest

variable (P : Platform ρ) (wLength : Nat)

def reply (s : Library) : StandardRequest → Reply
  | deviceStatus =>
      some [(if s.selfPowered then FEATURE_SELFPOWERED_ENABLED else 0) |||
        (if s.remoteWakeup then FEATURE_REMOTE_WAKEUP_ENABLED else 0), 0]
  | endpointStatus number =>
      some [if number = ENDPOINT_CONTROLEP then 0 else (P.Endpoint_IsStalled number).toUInt8, 0]
  | descriptor wValue wIndex =>
      if (P.CALLBACK_USB_GetDescriptor wValue wIndex).length = 0 then none
      else some ((P.CALLBACK_USB_GetDescriptor wValue wIndex).take wLength)
  | getConfiguration => some [s.configuration]
  | setConfiguration number => if number ≤ FIXED_NUM_CONFIGURATIONS then some [] else none
  | remoteWakeup _ => some []
  | endpointFeature => some []
  | setAddress _ => some []

def effect (s : Library) : StandardRequest → Library
  | remoteWakeup enabled => { s with remoteWakeup := enabled }
  | setAddress address =>
      { s with
        deviceState := if address ≠ 0 then .DEVICE_STATE_Addressed else .DEVICE_STATE_Default }
  | setConfiguration number =>
      if number ≤ FIXED_NUM_CONFIGURATIONS then
        { s with configuration := number, deviceState := .DEVICE_STATE_Configured }
      else s
  | _ => s

end StandardRequest

/-- The answer to a request that does not go to the DFU interface, and the library behind it. -/
def respond (P : Platform ρ) (h : USB_Request_Header_t) (s : Library) : Reply × Library :=
  match h.standard with
  | none => (none, s)
  | some q => (q.reply P h.wLength.toNat s, q.effect s)

/-- The longest reply that a request can have, as far as it needs more than one packet. -/
def replyBound (P : Platform ρ) (h : USB_Request_Header_t) : Nat :=
  match h.standard with
  | some (.descriptor wValue wIndex) =>
      min (P.CALLBACK_USB_GetDescriptor wValue wIndex).length h.wLength.toNat
  | _ => 2

theorem length_le_replyBound {P : Platform ρ} {h : USB_Request_Header_t} {s : Library}
    {l : List UInt8} (hl : (respond P h s).1 = some l) : l.length ≤ replyBound P h := by
  unfold respond at hl
  unfold replyBound
  split at hl
  · cases hl
  · rename_i q hq
    rw [hq]
    cases q with
    | descriptor wValue wIndex =>
        simp only [StandardRequest.reply] at hl
        split at hl
        · cases hl
        · cases hl
          rw [List.length_take, Nat.min_comm]
    | setConfiguration number =>
        simp only [StandardRequest.reply] at hl
        split at hl
        · cases hl
          exact Nat.zero_le _
        · cases hl
    | deviceStatus => cases hl; exact Nat.le_refl _
    | endpointStatus number => cases hl; exact Nat.le_refl _
    | getConfiguration => cases hl; exact Nat.le_succ _
    | remoteWakeup enabled => cases hl; exact Nat.zero_le _
    | endpointFeature => cases hl; exact Nat.zero_le _
    | setAddress address => cases hl; exact Nat.zero_le _

end DfuSeBootloader.Usb
