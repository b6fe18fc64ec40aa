import DfuSeBootloader.Dfu.Lemmas.Block

/-!
# The handler without interruption

One lemma for each request: the device that the handler leaves when events come only while it
waits.
-/

namespace DfuSeBootloader.Dfu
open Program Memory Iap Usb
open EVENT_USB_Device_ControlRequest

variable {ρ : Type} {w : List (List Event)} {d : Device ρ} {P : Platform ρ}

/-! ## Entry -/

/-- The request that the handler takes a header for. -/
def dfuRequest (h : USB_Request_Header_t) : Option DFU_REQ :=
  if h.isClassInterface then DFU_REQ.ofCode h.bRequest else none

/-- The device behind the entry of the handler. -/
def accept (d : Device ρ) : Device ρ :=
  (d.note (.dispatch d.USB_ControlRequest)).onEp Endpoint.clearSETUP

theorem eval_EVENT_accepted (hs : d.ep.SETUPReceived = true)
    (hc : d.USB_ControlRequest.isClassInterface = true) :
    eval interrupt (EVENT_USB_Device_ControlRequest P) w d =
      eval interrupt (switch P d.USB_ControlRequest.wValue.toNat
        d.USB_ControlRequest.wLength.toNat (dfuRequest d.USB_ControlRequest.toUSB_Request_Header_t))
        w (accept d) := by
  simp [EVENT_USB_Device_ControlRequest, hs, hc, Device.note, Device.onEp, accept, dfuRequest]

theorem eval_EVENT_ignored (h : d.ep.SETUPReceived = false ∨
    d.USB_ControlRequest.isClassInterface = false) :
    eval interrupt (EVENT_USB_Device_ControlRequest P) w d =
      .done () w (d.note (.dispatch d.USB_ControlRequest)) := by
  simp only [EVENT_USB_Device_ControlRequest, eval_bind, eval_exec, Result.bind_done]
  cases hs : d.ep.SETUPReceived with
  | false => simp
  | true => simp [h.resolve_left (by simp [hs]), Device.note]

/-! ## Replies -/

/-- The bytes `l` are in the endpoint's buffer. -/
def wrote (l : List UInt8) (d : Device ρ) : Device ρ :=
  d.onEp (Endpoint.append l.length (padded 0 l))

/-- The bytes `l` are sent. -/
def reply (l : List UInt8) (d : Device ρ) : Device ρ := (wrote l d).onEp Endpoint.clearIN

theorem wrote_nil (d : Device ρ) : wrote [] d = d := by
  simp [wrote, Device.onEp, Endpoint.append]

theorem append_snoc (l : List UInt8) (b : UInt8) (e : Endpoint) :
    (e.append l.length (padded 0 l)).append 1 (fun _ => b) =
      e.append (l ++ [b]).length (padded 0 (l ++ [b])) := by
  simp only [Endpoint.append, List.length_append, List.length_singleton, Endpoint.mk.injEq, true_and,
    and_true, Nat.add_assoc]
  have hlast := update_fill e.usb_data_buffer (padded 0 (l ++ [b])) e.usb_data_buffer_index l.length
  have hone := update_fill
    (fill e.usb_data_buffer e.usb_data_buffer_index l.length (padded 0 l)) (fun _ => b)
    (e.usb_data_buffer_index + l.length) 0
  rw [fill_zero, Nat.add_zero, Nat.zero_add] at hone
  rw [← hone, ← hlast, fill_congr (g := padded 0 (l ++ [b]))]
  · simp [padded]
  · intro i hi
    simp [padded, List.getD_eq_getElem?_getD, List.getElem?_append_left hi]

/-- The reply of GETSTATUS. -/
def statusReply (status : DFU_Status_t) (state : DFU_State_t) : List UInt8 :=
  [status.code, 0, 0, 0, state.code, 0]

theorem eval_Endpoint_Write_8_wrote {l : List UInt8} {b : UInt8}
    (hi : d.ep.usb_data_buffer_index = 0) (hl : l.length < 512) :
    eval interrupt (Endpoint_Write_8 b) w (wrote l d) = .done () w (wrote (l ++ [b]) d) := by
  rw [wrote, eval_Endpoint_Write_8 (by simpa [Device.onEp, Endpoint.append, hi] using hl),
    Device.onEp_onEp]
  simp only [append_snoc, wrote]

theorem eval_Endpoint_Write_8_first {b : UInt8} (hi : d.ep.usb_data_buffer_index = 0) :
    eval interrupt (Endpoint_Write_8 b) w d = .done () w (wrote [b] d) := by
  have h := eval_Endpoint_Write_8_wrote (w := w) (l := []) (b := b) hi (by decide)
  rwa [wrote_nil] at h

/-- What every request ends with. -/
def finish (d : Device ρ) : Device ρ := d.clearStatusStage d.USB_ControlRequest.isDeviceToHost

theorem eval_getStatus (hi : d.ep.usb_data_buffer_index = 0) :
    eval interrupt getStatus w d = .done () w
      { finish (reply (statusReply d.DFU_Status d.DFU_State) d) with
        DFU_State := if d.DFU_State = .dfuDNBUSY then .dfuDNLOAD_IDLE else d.DFU_State } := by
  simp (disch := simp) only [getStatus, Endpoint_Write_16_LE, eval_bind, eval_get, Result.bind_done,
    eval_Endpoint_Write_8_first hi, eval_Endpoint_Write_8_wrote hi, List.cons_append,
    List.nil_append, eval_Endpoint_ClearIN, eval_Endpoint_ClearStatusStage]
  change eval interrupt (if d.DFU_State = .dfuDNBUSY then setState .dfuDNLOAD_IDLE else pure ()) w
    (finish (reply (statusReply d.DFU_Status d.DFU_State) d)) = _
  split <;> rfl

theorem eval_getState (hi : d.ep.usb_data_buffer_index = 0) :
    eval interrupt getState w d = .done () w (finish (reply [d.DFU_State.code] d)) := by
  simp only [getState, eval_bind, eval_get, Result.bind_done, eval_Endpoint_Write_8_first hi,
    eval_Endpoint_ClearIN, eval_Endpoint_ClearStatusStage]
  rfl

theorem eval_clrStatus :
    eval interrupt clrStatus w d =
      .done () w (finish { d with DFU_Status := .OK, DFU_State := .dfuIDLE }) := by
  simp [clrStatus, setStatus, setState, finish]

theorem eval_abort :
    eval interrupt abort w d = .done () w (finish { d with DFU_State := .dfuIDLE }) := by
  simp [abort, setState, finish]

theorem eval_detach :
    eval interrupt detach w d = .done () w (finish { d with need_detach := true }) := by
  simp [detach, finish]

/-! ## UPLOAD -/

/-- The device behind an UPLOAD of `size` bytes. -/
def uploaded (P : Platform ρ) (size : Nat) (d : Device ρ) : Device ρ :=
  finish
    { d.onEp (fun e =>
        (e.append size (fun i => P.memory d.rom (d.CurrentAddr + i.toUInt32))).clearIN) with
      CurrentAddr := d.CurrentAddr + size.toUInt32
      DFU_State := .dfuDNBUSY
      DFU_Status := .OK }

theorem index_events (es : List Event) (e : Endpoint) :
    (applyEvents Endpoint.interrupt es e).usb_data_buffer_index = e.usb_data_buffer_index := by
  refine applyEvents_induction
    (I := fun e' : Endpoint => e'.usb_data_buffer_index = e.usb_data_buffer_index) ?_ rfl
  intro ev _ e' h
  exact (Endpoint.index_interrupt ev e').trans h

theorem eval_upload {size : Nat} (hi : d.ep.usb_data_buffer_index = 0) (hsize : size ≤ 512)
    (hr : (afterWait w d).ep.isInReady = true) :
    eval interrupt (upload P size) w d = .done () w.tail (uploaded P size (afterWait w d)) := by
  have hidx : (afterWait w d).ep.usb_data_buffer_index = 0 :=
    (index_events (w.headD []) d.ep).trans hi
  simp only [upload, eval_bind, eval_poll, applyEvents_interrupt]
  change (if (afterWait w d).ep.isInReady = true then _ else _ : Result _ _ _ _).bind _ = _
  rw [if_pos hr]
  simp only [Result.bind_done, if_true, eval_bind, eval_get]
  change (eval interrupt _ w.tail (afterWait w d)).bind _ = _
  rw [eval_Endpoint_Write_Stream_LE (fun _ _ => rfl) (by omega)]
  simp only [setState, setStatus, Result.bind_done, eval_modify, eval_Endpoint_ClearIN,
    eval_Endpoint_ClearStatusStage]
  rfl

theorem eval_upload_fault {size : Nat} (hi : d.ep.usb_data_buffer_index = 0) (hsize : 512 < size)
    (hr : (afterWait w d).ep.isInReady = true) :
    eval interrupt (upload P size) w d = .fault (.store_usb_data_buffer 512) := by
  have hidx : (afterWait w d).ep.usb_data_buffer_index = 0 :=
    (index_events (w.headD []) d.ep).trans hi
  simp only [upload, eval_bind, eval_poll, applyEvents_interrupt]
  change (if (afterWait w d).ep.isInReady = true then _ else _ : Result _ _ _ _).bind _ = _
  rw [if_pos hr]
  simp only [Result.bind_done, if_true, eval_bind, eval_get]
  change (eval interrupt _ w.tail (afterWait w d)).bind _ = _
  rw [eval_Endpoint_Write_Stream_LE_fault (by omega) (by omega), Result.bind_fault]

/-! ## DNLOAD -/

/-- The device behind the `memset`. -/
def zeroed (d : Device ρ) : Device ρ :=
  { d with firmware_data := fill d.firmware_data 0 DFU_TRANSFER_SIZE (fun _ => 0) }

/-- The device behind the call of `iap_write` for a block and the assignments around it. -/
def programmed (P : Platform ρ) (d : Device ρ) : Device ρ :=
  let r := iap_write P d.CurrentAddr DFU_TRANSFER_SIZE d.firmware_data d.rom
  { d with
    DFU_State := if r.1 then .dfuDNBUSY else .dfuERROR
    DFU_Status := if r.1 then .OK else .errWRITE
    CurrentAddr := d.CurrentAddr + DFU_TRANSFER_SIZE.toUInt32
    rom := r.2
    calls := d.calls ++ [.iap_write d.CurrentAddr d.firmware_data r.1] }

/-- The block that ends a download: it carries no data and is expected. -/
def EndsDownload (size : Nat) (d : Device ρ) : Prop := d.DFU_State = .dfuDNLOAD_IDLE ∧ size = 0

theorem eval_block_end {size : Nat} (h : EndsDownload size d) :
    eval interrupt (block P size) w d = .done false w
      (finish ({ d with DFU_State := .dfuIDLE }.onEp Endpoint.clearOUT)) := by
  rw [block, eval_bind, eval_get, Result.bind_done,
    if_pos (show d.DFU_State = .dfuDNLOAD_IDLE ∧ size = 0 from h)]
  simp only [setState, eval_bind, eval_modify, Result.bind_done, eval_Endpoint_ClearOUT,
    eval_Endpoint_ClearStatusStage, eval_pure]
  rfl

theorem eval_block {size : Nat} (h : ¬ EndsDownload size d) :
    eval interrupt (block P size) w d =
      (eval interrupt (readBlock size size 0) w (zeroed d)).bind fun ready w d =>
        if ready then .done true w (programmed P d) else .done false w d := by
  rw [block, eval_bind, eval_get, Result.bind_done,
    if_neg (show ¬ (d.DFU_State = .dfuDNLOAD_IDLE ∧ size = 0) from h), eval_bind, eval_modify,
    Result.bind_done, eval_bind]
  change (eval interrupt (readBlock size size 0) w (zeroed d)).bind _ = _
  congr 1
  funext ready w d
  cases ready with
  | false => rfl
  | true =>
      simp only [if_true, writeBlock, callWrite, setState, setStatus, eval_bind, eval_modify,
        eval_exec, Result.bind_done, programmed]
      cases h : (iap_write P d.CurrentAddr DFU_TRANSFER_SIZE d.firmware_data d.rom).1 <;>
        simp [Device.note]

/-- `wValue = 0`: what `firmware_data` asks for is done. -/
def commanded (P : Platform ρ) (size : Nat) (d : Device ρ) : Device ρ :=
  if d.firmware_data 0 = 0x00 then
    if 1 < size then { d with DFU_State := .dfuDNBUSY, DFU_Status := .OK } else d
  else if d.firmware_data 0 = 0x21 then
    { d with
      DFU_State := .dfuDNBUSY, DFU_Status := .OK, CurrentAddr := addressAt d.firmware_data }
  else if d.firmware_data 0 = 0x41 then
    let r := iap_erase P (addressAt d.firmware_data) d.rom
    { d with
      DFU_State := if r.1 then .dfuDNBUSY else .dfuERROR
      DFU_Status := if r.1 then .OK else .errERASE
      rom := r.2
      calls := d.calls ++ [.iap_erase (addressAt d.firmware_data) r.1] }
  else d

theorem eval_command_ready {size : Nat} (h : (afterWait w d).ep.isOutReceived = true) :
    eval interrupt (command P size) w d =
      (eval interrupt (Endpoint_Read_Stream_LE 0 size) w.tail (afterWait w d)).bind fun _ w d =>
        .done true w (commanded P size (d.onEp Endpoint.clearOUT)) := by
  have hcode := Device.readyCode_eq_noError.mpr h
  rw [command, eval_bind, eval_wait, Result.bind_done, hcode, if_neg (by simp), eval_bind]
  congr 1
  funext _ w d
  have hfd : (d.onEp Endpoint.clearOUT).firmware_data = d.firmware_data := rfl
  simp only [eval_bind, eval_Endpoint_ClearOUT, Result.bind_done, getCommands, setAddress,
    eraseSector, callErase, setState, setStatus, eval_get, commanded, hfd]
  by_cases h0 : d.firmware_data 0 = 0x00
  · by_cases hs : 1 < size <;> simp [h0, hs, hfd]
  by_cases h1 : d.firmware_data 0 = 0x21
  · simp [h1, hfd]
  by_cases h2 : d.firmware_data 0 = 0x41
  · cases hr : (iap_erase P (addressAt d.firmware_data) d.rom).1 <;>
      simp [h2, Device.note, Device.onEp, hr]
  · simp [h0, h1, h2, hfd]

theorem eval_command_missed {size : Nat} (h : (afterWait w d).ep.isOutReceived = false) :
    eval interrupt (command P size) w d =
      .done false w.tail (finish ((afterWait w d).onEp Endpoint.clearOUT)) := by
  have hcode : (afterWait w d).readyCode ≠ .ENDPOINT_READYWAIT_NoError := by
    rw [Ne, Device.readyCode_eq_noError, h]
    simp
  rw [command, eval_bind, eval_wait, Result.bind_done, if_pos hcode, eval_endpointNotReady]
  rfl

/-- The tail that the branches of DNLOAD share. -/
def closed (d : Device ρ) : Device ρ := finish (d.onEp Endpoint.clearOUT)

theorem eval_closed :
    eval interrupt (do Endpoint_ClearOUT; Endpoint_ClearStatusStage) w d = .done () w (closed d) := by
  rw [eval_bind, eval_Endpoint_ClearOUT, Result.bind_done, eval_Endpoint_ClearStatusStage]
  rfl

theorem eval_ready_closed (r : Result (Device ρ) Op Event Bool) :
    (r.bind fun ready w d => eval interrupt
      (if ready then do Endpoint_ClearOUT; Endpoint_ClearStatusStage else pure ()) w d) =
      r.bind fun ready w d => .done () w (if ready then closed d else d) := by
  congr 1
  funext ready w d
  cases ready with
  | false => rfl
  | true => exact eval_closed

theorem eval_dnload_command {size : Nat} :
    eval interrupt (dnload P 0 size) w d =
      (eval interrupt (command P size) w d).bind fun ready w d =>
        .done () w (if ready then closed d else d) := by
  rw [dnload, if_pos rfl, eval_bind]
  exact eval_ready_closed _

theorem eval_dnload_ignored {size : Nat} :
    eval interrupt (dnload P 1 size) w d = .done () w (closed d) := eval_closed

theorem eval_dnload_block {wValue size : Nat} (h : 2 ≤ wValue) :
    eval interrupt (dnload P wValue size) w d =
      (eval interrupt (block P size) w d).bind fun ready w d =>
        .done () w (if ready then closed d else d) := by
  rw [dnload, if_neg (by omega), eval_bind, eval_pure, Result.bind_done, if_pos rfl, if_pos h,
    eval_bind]
  exact eval_ready_closed _

end DfuSeBootloader.Dfu
