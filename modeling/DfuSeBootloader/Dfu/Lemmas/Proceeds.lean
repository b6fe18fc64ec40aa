import DfuSeBootloader.Usb.Lemmas.Proceeds

/-!
# Where the handler waits

The waits of a DNLOAD have a timeout, that of an UPLOAD has none.
-/

namespace DfuSeBootloader.Dfu
open Program Iap Usb

variable {ρ : Type} {P : Platform ρ}

namespace EVENT_USB_Device_ControlRequest

section

variable {Q : Bool → Prop} (h : ∀ b, Q b)
include h

theorem endpointNotReady.proceeds : (endpointNotReady : Task ρ Bool).Proceeds WaitsForIn Q := by
  simp [endpointNotReady, Endpoint_ClearOUT.proceeds, Endpoint_ClearStatusStage.proceeds, h]

theorem command.proceeds {size : Nat} : (command P size).Proceeds WaitsForIn Q := by
  simp [command, getCommands, setAddress, eraseSector, callErase, setState, setStatus,
    Endpoint_WaitUntilReady.proceeds, Endpoint_Read_Stream_LE.proceeds, Endpoint_ClearOUT.proceeds,
    endpointNotReady.proceeds h, h]

theorem readBlock.proceeds {fuel size off : Nat} :
    (readBlock fuel size off : Task ρ Bool).Proceeds WaitsForIn Q := by
  induction fuel generalizing size off with
  | zero => exact h true
  | succ fuel ih =>
      simp [readBlock, Endpoint_WaitUntilReady.proceeds, Endpoint_Read_Stream_LE.proceeds,
        Endpoint_ClearOUT.proceeds, endpointNotReady.proceeds h, ih, h]

theorem block.proceeds {size : Nat} : (block P size).Proceeds WaitsForIn Q := by
  simp [block, writeBlock, callWrite, setState, setStatus, readBlock.proceeds,
    Endpoint_ClearOUT.proceeds, Endpoint_ClearStatusStage.proceeds, h]

end

section

variable {Q : Unit → Prop} (h : Q ())
include h

theorem dnload.proceeds {wValue size : Nat} : (dnload P wValue size).Proceeds WaitsForIn Q := by
  simp [dnload, command.proceeds, block.proceeds, Endpoint_ClearOUT.proceeds,
    Endpoint_ClearStatusStage.proceeds, h]

theorem upload.proceeds {size : Nat} : (upload P size).Proceeds WaitsForIn Q := by
  simp [upload, setState, setStatus, WaitsForIn, Endpoint_Write_Stream_LE.proceeds,
    Endpoint_ClearIN.proceeds, Endpoint_ClearStatusStage.proceeds, h]

theorem switch.proceeds {wValue size : Nat} {q : Option DFU_REQ} :
    (switch P wValue size q).Proceeds WaitsForIn Q := by
  cases q with
  | none => exact h
  | some q =>
      cases q with
      | DNLOAD => exact dnload.proceeds h
      | UPLOAD => exact upload.proceeds h
      | GETSTATUS =>
          simp [switch, getStatus, setState, Endpoint_Write_8.proceeds, Endpoint_Write_16_LE.proceeds,
            Endpoint_ClearIN.proceeds, Endpoint_ClearStatusStage.proceeds, h]
      | GETSTATE =>
          simp [switch, getState, Endpoint_Write_8.proceeds, Endpoint_ClearIN.proceeds,
            Endpoint_ClearStatusStage.proceeds, h]
      | CLRSTATUS =>
          simp [switch, clrStatus, setState, setStatus, Endpoint_ClearStatusStage.proceeds, h]
      | ABORT => simp [switch, abort, setState, Endpoint_ClearStatusStage.proceeds, h]
      | DETATCH => simp [switch, detach, Endpoint_ClearStatusStage.proceeds, h]

end

end EVENT_USB_Device_ControlRequest

/-- A request is processed to its end, save in the loops that poll the IN side. -/
theorem USB_Device_ProcessControlRequest.proceeds :
    (USB_Device_ProcessControlRequest P).Proceeds WaitsForIn (fun _ => True) := by
  simp [USB_Device_ProcessControlRequest, EVENT_USB_Device_ControlRequest,
    Endpoint_GetSetupPackage.proceeds, EVENT_USB_Device_ControlRequest.switch.proceeds, Endpoint_ClearSETUP.proceeds,
    standardRequests.proceeds, stallUnhandled.proceeds]

end DfuSeBootloader.Dfu
