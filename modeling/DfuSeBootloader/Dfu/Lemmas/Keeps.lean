import DfuSeBootloader.Dfu.Request
import DfuSeBootloader.Usb.Lemmas.Keeps

/-!
# What the request handler leaves alone

The handler changes the DFU variables and, through the IAP functions, the flash.
-/

namespace DfuSeBootloader.Dfu
open Program Memory Iap Usb

variable {ρ τ : Type}

/-- A view that the handler cannot change, its entry in the history apart. -/
structure HandlerView (v : Device ρ → τ) : Prop extends DriverView v where
  state : ∀ d s, v { d with DFU_State := s } = v d
  status : ∀ d s, v { d with DFU_Status := s } = v d
  address : ∀ d a, v { d with CurrentAddr := a } = v d
  detach : ∀ d b, v { d with need_detach := b } = v d
  iap : ∀ d r c, c.isIap → v ({ d with rom := r }.note c) = v d

/-- A view that none of the handler's variables belongs to. -/
structure VariableView (v : Device ρ → τ) : Prop extends EndpointView v where
  state : ∀ d s, v { d with DFU_State := s } = v d
  status : ∀ d s, v { d with DFU_Status := s } = v d
  address : ∀ d a, v { d with CurrentAddr := a } = v d
  detach : ∀ d b, v { d with need_detach := b } = v d
  iap : ∀ d r c, c.isIap → v ({ d with rom := r }.note c) = v d

theorem HandlerView.variables {v : Device ρ → τ} (hv : HandlerView v) : VariableView v :=
  ⟨hv.toDriverView.endpoint, hv.state, hv.status, hv.address, hv.detach, hv.iap⟩

theorem requestView : HandlerView (fun d : Device ρ => d.USB_ControlRequest) where
  onEp _ _ _ _ _ := rfl
  firmware _ _ := rfl
  statusStage _ := rfl
  stall _ := rfl
  state _ _ := rfl
  status _ _ := rfl
  address _ _ := rfl
  detach _ _ := rfl
  iap _ _ _ _ := rfl

theorem anyOps : DriverOps (fun _ => True) := by
  constructor <;> simp

namespace EVENT_USB_Device_ControlRequest

variable {v : Device ρ → τ} {ok bad : Op → Prop}

theorem toread_le (size : Nat) : toread size ≤ size := by
  unfold toread; split <;> simp_all

theorem endpointNotReady.keeps (hv : DriverView v) (ho : DriverOps ok) :
    endpointNotReady.Keeps ok bad v :=
  .bind (Endpoint_ClearOUT.keeps hv.endpoint ho) fun _ =>
    .bind (Endpoint_ClearStatusStage.keeps hv ho) fun _ => .pure _

theorem readBlock.keeps (hv : DriverView v) (ho : DriverOps ok) {fuel size firmware_offset : Nat}
    (hb : ∀ j, 512 ≤ j → j < firmware_offset + size → bad (.store_firmware_data j)) :
    (readBlock fuel size firmware_offset : Task ρ Bool).Keeps ok bad v := by
  induction fuel generalizing size firmware_offset with
  | zero => exact .pure _
  | succ fuel ih =>
      refine .ite (fun _ => .pure _) (fun _ => .bind (Endpoint_WaitUntilReady.keeps ho) fun _ =>
        .ite (fun _ => endpointNotReady.keeps hv ho) (fun _ => ?_))
      have hle := toread_le size
      exact .bind (Endpoint_Read_Stream_LE.keeps hv.endpoint.reader ho
          (fun j h hj => hb j h (by omega))) fun _ =>
        .bind (Endpoint_ClearOUT.keeps hv.endpoint ho) fun _ => ih (fun j h hj => hb j h (by omega))

section Variables

variable (hv : VariableView v) (ho : DriverOps ok)
include hv ho

theorem setState.keeps (s : DFU_State_t) : (setState s).Keeps ok bad v := by
  simp [setState, ho.access, hv.state]

theorem setStatus.keeps (s : DFU_Status_t) : (setStatus s).Keeps ok bad v := by
  simp [setStatus, ho.access, hv.status]

theorem getCommands.keeps (size : Nat) : (getCommands size).Keeps ok bad v :=
  .bind (by simp [ho.access]) fun _ => .ite
    (fun _ => .bind (setState.keeps hv ho _) fun _ => setStatus.keeps hv ho _) (fun _ => .pure _)

theorem setAddress.keeps : setAddress.Keeps ok bad v :=
  .bind (by simp [ho.access]) fun _ => .ite
    (fun _ => .bind (by simp [ho.access]) fun _ => .bind (setState.keeps hv ho _) fun _ =>
      .bind (setStatus.keeps hv ho _) fun _ => by simp [ho.access, hv.address])
    (fun _ => .pure _)

theorem eraseSector.keeps (P : Platform ρ) (he : ok .iap_erase) :
    (eraseSector P).Keeps ok bad v :=
  .bind (by simp [ho.access]) fun _ => .ite
    (fun _ => .bind (by simp [ho.access]) fun _ => .bind (setState.keeps hv ho _) fun _ =>
      .bind (setStatus.keeps hv ho _) fun _ =>
      .bind (by simpa [callErase, he] using fun d => hv.iap d _ _ rfl) fun _ => .ite
        (fun _ => .bind (setState.keeps hv ho _) fun _ => setStatus.keeps hv ho _)
        (fun _ => .pure _))
    (fun _ => .pure _)

theorem writeBlock.keeps (P : Platform ρ) (hw : ok .iap_write) : (writeBlock P).Keeps ok bad v :=
  .bind (setState.keeps hv ho _) fun _ => .bind (setStatus.keeps hv ho _) fun _ =>
    .bind (by simpa [callWrite, hw] using fun d => hv.iap d _ _ rfl) fun _ => .ite
      (fun _ => .bind (setState.keeps hv ho _) fun _ => setStatus.keeps hv ho _)
      (fun _ => .pure _)

end Variables

variable (hv : HandlerView v) (ho : DriverOps ok)
include hv ho

theorem command.keeps (P : Platform ρ) {size : Nat} (he : ok .iap_erase)
    (hb : ∀ j, 512 ≤ j → j < size → bad (.store_firmware_data j)) :
    (command P size).Keeps ok bad v :=
  .bind (Endpoint_WaitUntilReady.keeps ho) fun _ => .ite
    (fun _ => endpointNotReady.keeps hv.toDriverView ho)
    (fun _ => .bind (Endpoint_Read_Stream_LE.keeps hv.toDriverView.endpoint.reader ho
        (fun j h hj => hb j h (by omega))) fun _ =>
      .bind (Endpoint_ClearOUT.keeps hv.toDriverView.endpoint ho) fun _ =>
      .bind (getCommands.keeps hv.variables ho size) fun _ =>
      .bind (setAddress.keeps hv.variables ho) fun _ =>
      .bind (eraseSector.keeps hv.variables ho P he) fun _ => .pure _)

theorem block.keeps (P : Platform ρ) {size : Nat} (hw : ok .iap_write)
    (hb : ∀ j, 512 ≤ j → j < size → bad (.store_firmware_data j)) :
    (block P size).Keeps ok bad v :=
  .bind (by simp [ho.access]) fun _ => .ite
    (fun _ => .bind (setState.keeps hv.variables ho _) fun _ =>
      .bind (Endpoint_ClearOUT.keeps hv.toDriverView.endpoint ho) fun _ =>
      .bind (Endpoint_ClearStatusStage.keeps hv.toDriverView ho) fun _ => .pure _)
    (fun _ => .bind (by simp [ho.access, hv.firmware]) fun _ =>
      .bind (readBlock.keeps hv.toDriverView ho (fun j h hj => hb j h (by omega))) fun _ => .ite
        (fun _ => .bind (writeBlock.keeps hv.variables ho P hw) fun _ =>
          .bind (by simp [ho.access, hv.address]) fun _ => .pure _)
        (fun _ => .pure _))

theorem dnload.keeps (P : Platform ρ) {wValue size : Nat} (he : ok .iap_erase)
    (hw : 2 ≤ wValue → ok .iap_write)
    (hb : wValue ≠ 1 → ∀ j, 512 ≤ j → j < size → bad (.store_firmware_data j)) :
    (dnload P wValue size).Keeps ok bad v :=
  .bind (.ite (fun h => command.keeps hv ho P he (hb (by omega))) (fun _ => .pure _)) fun _ =>
    .ite
      (fun _ => .bind (.ite (fun h => block.keeps hv ho P (hw h) (hb (by omega))) (fun _ => .pure _))
        fun _ => .ite
          (fun _ => .bind (Endpoint_ClearOUT.keeps hv.toDriverView.endpoint ho) fun _ =>
            Endpoint_ClearStatusStage.keeps hv.toDriverView ho)
          (fun _ => .pure _))
      (fun _ => .pure _)

theorem clrStatus.keeps : clrStatus.Keeps ok bad v :=
  .bind (setStatus.keeps hv.variables ho _) fun _ => .bind (setState.keeps hv.variables ho _) fun _ =>
    Endpoint_ClearStatusStage.keeps hv.toDriverView ho

theorem abort.keeps : abort.Keeps ok bad v :=
  .bind (setState.keeps hv.variables ho _) fun _ => Endpoint_ClearStatusStage.keeps hv.toDriverView ho

theorem detach.keeps : detach.Keeps ok bad v :=
  .bind (by simp [ho.access, hv.detach]) fun _ =>
    Endpoint_ClearStatusStage.keeps hv.toDriverView ho

section Write

variable (hb : ∀ i, 512 ≤ i → bad (.store_usb_data_buffer i))
include hb

theorem upload.keeps (P : Platform ρ) (size : Nat) (hin : ok .Endpoint_IsINReady) :
    (upload P size).Keeps ok bad v :=
  .bind (by simp [hin]) fun _ => .ite
    (fun _ => .bind (by simp [ho.access]) fun _ =>
      .bind (Endpoint_Write_Stream_LE.keeps hv.toDriverView.endpoint ho hb _ size) fun _ =>
      .bind (by simp [ho.access, hv.address]) fun _ => .bind (setState.keeps hv.variables ho _) fun _ =>
      .bind (setStatus.keeps hv.variables ho _) fun _ =>
      .bind (Endpoint_ClearIN.keeps hv.toDriverView.endpoint ho) fun _ =>
        Endpoint_ClearStatusStage.keeps hv.toDriverView ho)
    (fun _ => .pure _)

theorem getStatus.keeps : getStatus.Keeps ok bad v :=
  have byte := Endpoint_Write_8.keeps hv.toDriverView.endpoint ho hb
  .bind (by simp [ho.access]) fun _ => .bind (byte _) fun _ => .bind (byte _) fun _ =>
    .bind (Endpoint_Write_16_LE.keeps hv.toDriverView.endpoint ho hb _) fun _ =>
    .bind (by simp [ho.access]) fun _ => .bind (byte _) fun _ => .bind (byte _) fun _ =>
    .bind (Endpoint_ClearIN.keeps hv.toDriverView.endpoint ho) fun _ =>
    .bind (Endpoint_ClearStatusStage.keeps hv.toDriverView ho) fun _ =>
    .bind (by simp [ho.access]) fun _ =>
      .ite (fun _ => setState.keeps hv.variables ho _) (fun _ => .pure _)

theorem getState.keeps : getState.Keeps ok bad v :=
  .bind (by simp [ho.access]) fun _ =>
    .bind (Endpoint_Write_8.keeps hv.toDriverView.endpoint ho hb _) fun _ =>
    .bind (Endpoint_ClearIN.keeps hv.toDriverView.endpoint ho) fun _ =>
      Endpoint_ClearStatusStage.keeps hv.toDriverView ho

end Write

theorem switch.keeps (P : Platform ρ) {wValue size : Nat} {q : Option DFU_REQ} (he : ok .iap_erase)
    (hw : q = some .DNLOAD → 2 ≤ wValue → ok .iap_write)
    (hin : q = some .UPLOAD → ok .Endpoint_IsINReady)
    (hb : ∀ i, 512 ≤ i → bad (.store_usb_data_buffer i))
    (hf : ∀ i, 512 ≤ i → bad (.store_firmware_data i)) :
    (switch P wValue size q).Keeps ok bad v := by
  cases q with
  | none => exact .pure _
  | some q =>
      cases q with
      | DETATCH => exact detach.keeps hv ho
      | DNLOAD => exact dnload.keeps hv ho P he (hw rfl) (fun _ j hj _ => hf j hj)
      | UPLOAD => exact upload.keeps hv ho hb P size (hin rfl)
      | GETSTATUS => exact getStatus.keeps hv ho hb
      | CLRSTATUS => exact clrStatus.keeps hv ho
      | GETSTATE => exact getState.keeps hv ho hb
      | ABORT => exact abort.keeps hv ho

end EVENT_USB_Device_ControlRequest

end DfuSeBootloader.Dfu
