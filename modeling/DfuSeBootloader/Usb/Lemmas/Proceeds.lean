import DfuSeBootloader.Program.Progress
import DfuSeBootloader.Usb.Task

/-!
# Where the USB library waits

Only the loops that poll the IN side have no timeout.
-/

namespace DfuSeBootloader.Usb
open Program Iap Dfu

variable {ρ : Type}

/-- The polls of the IN side. -/
def WaitsForIn (op : Op) (ready : Device ρ → Bool) : Prop :=
  op = .Endpoint_IsINReady ∧ ready = (·.ep.isInReady)

section

variable {Q : Unit → Prop} (h : Q ())
include h

theorem memcpy.proceeds {n i : Nat} : (memcpy n i : Task ρ Unit).Proceeds WaitsForIn Q := by
  induction n generalizing i with
  | zero => exact h
  | succ n ih => simp [memcpy, ih]

theorem Endpoint_GetSetupPackage.proceeds :
    (Endpoint_GetSetupPackage : Task ρ Unit).Proceeds WaitsForIn Q := memcpy.proceeds h

theorem Endpoint_ClearSETUP.proceeds (c : Caller) :
    (Endpoint_ClearSETUP c : Task ρ Unit).Proceeds WaitsForIn Q := by
  simp [Endpoint_ClearSETUP, h]

theorem Endpoint_ClearOUT.proceeds : (Endpoint_ClearOUT : Task ρ Unit).Proceeds WaitsForIn Q := by
  simp [Endpoint_ClearOUT, h]

theorem Endpoint_ClearIN.proceeds : (Endpoint_ClearIN : Task ρ Unit).Proceeds WaitsForIn Q := by
  simp [Endpoint_ClearIN, h]

theorem Endpoint_ClearStatusStage.proceeds :
    (Endpoint_ClearStatusStage : Task ρ Unit).Proceeds WaitsForIn Q := by
  simp [Endpoint_ClearStatusStage, Endpoint_ClearOUT.proceeds h, Endpoint_ClearIN.proceeds h]

theorem store_usb_data_buffer.proceeds {i : Nat} {Data : UInt8} :
    (store_usb_data_buffer i Data : Task ρ Unit).Proceeds WaitsForIn Q := by
  unfold store_usb_data_buffer
  split <;> simp [h]

theorem store_firmware_data.proceeds {i : Nat} {Data : UInt8} :
    (store_firmware_data i Data : Task ρ Unit).Proceeds WaitsForIn Q := by
  unfold store_firmware_data
  split <;> simp [h]

theorem readStreamLoop.proceeds {offset n i : Nat} :
    (readStreamLoop offset n i : Task ρ Unit).Proceeds WaitsForIn Q := by
  induction n generalizing i with
  | zero => exact h
  | succ n ih => simp [readStreamLoop, Endpoint_Read_8, store_firmware_data.proceeds, ih]

theorem Endpoint_Write_8.proceeds {Data : UInt8} :
    (Endpoint_Write_8 Data : Task ρ Unit).Proceeds WaitsForIn Q := by
  simp [Endpoint_Write_8, store_usb_data_buffer.proceeds, h]

theorem Endpoint_Write_16_LE.proceeds {Data : UInt16} :
    (Endpoint_Write_16_LE Data : Task ρ Unit).Proceeds WaitsForIn Q := by
  simp [Endpoint_Write_16_LE, Endpoint_Write_8.proceeds, h]

theorem writeStreamLoop.proceeds {Buffer : Device ρ → Nat → UInt8} {n i : Nat} :
    (writeStreamLoop Buffer n i).Proceeds WaitsForIn Q := by
  induction n generalizing i with
  | zero => exact h
  | succ n ih => simp [writeStreamLoop, Endpoint_Write_8.proceeds, ih]

end

theorem Endpoint_WaitUntilReady.proceeds {Q : Endpoint_WaitUntilReady_ErrorCodes_t → Prop}
    (h : ∀ c, Q c) : (Endpoint_WaitUntilReady (ρ := ρ)).Proceeds WaitsForIn Q := by
  simp [Endpoint_WaitUntilReady, h]

theorem Endpoint_Read_Stream_LE.proceeds {offset n : Nat}
    {Q : Endpoint_Stream_RW_ErrorCodes_t → Prop} (h : ∀ c, Q c) :
    (Endpoint_Read_Stream_LE offset n : Task ρ _).Proceeds WaitsForIn Q := by
  simp [Endpoint_Read_Stream_LE, readStreamLoop.proceeds, h]

theorem Endpoint_Write_Stream_LE.proceeds {Buffer : Device ρ → Nat → UInt8} {n : Nat}
    {Q : Endpoint_Stream_RW_ErrorCodes_t → Prop} (h : ∀ c, Q c) :
    (Endpoint_Write_Stream_LE Buffer n).Proceeds WaitsForIn Q := by
  simp [Endpoint_Write_Stream_LE, writeStreamLoop.proceeds, h]

/-! ## Standard requests -/

section

variable {P : Platform ρ} {Q : Unit → Prop} (h : Q ())
include h

theorem USB_Device_GetStatus.proceeds : (USB_Device_GetStatus P).Proceeds WaitsForIn Q := by
  rw [USB_Device_GetStatus, Prog.Proceeds.bind_iff, Prog.Proceeds.get_iff]
  intro s
  cases currentStatus P s with
  | none => exact h
  | some CurrentStatus =>
      simp [Endpoint_ClearSETUP.proceeds, Endpoint_Write_16_LE.proceeds, Endpoint_ClearIN.proceeds,
        Endpoint_ClearStatusStage.proceeds, h]

theorem USB_Device_SetAddress.proceeds :
    (USB_Device_SetAddress : Task ρ Unit).Proceeds WaitsForIn Q := by
  rw [USB_Device_SetAddress, Prog.Proceeds.bind_iff, Prog.Proceeds.get_iff]
  intro s
  refine Prog.Proceeds.bind_iff.mpr (Prog.Proceeds.critical fun _ => ?_)
  simp [WaitsForIn, h]

theorem USB_Device_ClearSetFeature.proceeds :
    (USB_Device_ClearSetFeature : Task ρ Unit).Proceeds WaitsForIn Q := by
  simp [USB_Device_ClearSetFeature, clearSetFeature, Endpoint_ClearSETUP.proceeds,
    Endpoint_ClearStatusStage.proceeds, h]

theorem USB_Device_GetDescriptor.proceeds : (USB_Device_GetDescriptor P).Proceeds WaitsForIn Q := by
  simp [USB_Device_GetDescriptor, Endpoint_Write_Control_Stream_LE, Endpoint_ClearSETUP.proceeds,
    Endpoint_Write_Stream_LE.proceeds, Endpoint_ClearIN.proceeds, Endpoint_ClearOUT.proceeds, h]

theorem USB_Device_GetConfiguration.proceeds :
    (USB_Device_GetConfiguration : Task ρ Unit).Proceeds WaitsForIn Q := by
  simp [USB_Device_GetConfiguration, Endpoint_ClearSETUP.proceeds, Endpoint_Write_8.proceeds,
    Endpoint_ClearIN.proceeds, Endpoint_ClearStatusStage.proceeds, h]

theorem USB_Device_SetConfiguration.proceeds :
    (USB_Device_SetConfiguration : Task ρ Unit).Proceeds WaitsForIn Q := by
  simp [USB_Device_SetConfiguration, Endpoint_ClearSETUP.proceeds,
    Endpoint_ClearStatusStage.proceeds, h]

theorem standardRequest.proceeds (r : USB_Request_Header_t) :
    (standardRequest P r).Proceeds WaitsForIn Q := by
  simp [standardRequest, USB_Device_GetStatus.proceeds h, USB_Device_ClearSetFeature.proceeds h,
    USB_Device_SetAddress.proceeds h, USB_Device_GetDescriptor.proceeds h,
    USB_Device_GetConfiguration.proceeds h, USB_Device_SetConfiguration.proceeds h, h]

theorem standardRequests.proceeds : (standardRequests P).Proceeds WaitsForIn Q := by
  simp [standardRequests, Endpoint_IsSETUPReceived, standardRequest.proceeds h, h]

theorem stallUnhandled.proceeds : (stallUnhandled : Task ρ Unit).Proceeds WaitsForIn Q := by
  simp [stallUnhandled, Endpoint_IsSETUPReceived, Endpoint_StallTransaction,
    Endpoint_ClearSETUP.proceeds, h]

end

end DfuSeBootloader.Usb
