import DfuSeBootloader.Program.Frame
import DfuSeBootloader.Usb.Endpoint

/-!
# The driver without interruption

What each driver function does when no interrupt comes between its accesses.
-/

namespace DfuSeBootloader.Usb
open Program Memory

variable {ρ : Type} {w : List (List Event)} {d : Device ρ}

/-! ## Effects as functions -/

namespace Endpoint

def clearSETUP (e : Endpoint) : Endpoint :=
  { e with
    SETUPReceived := false, usb_data_buffer_index := 0, usb_data_buffer_size := 0, rxFull := false }

def clearOUT (e : Endpoint) : Endpoint :=
  { e with usb_data_buffer_index := 0, rxFull := false, isOutReceived := false }

def clearIN (e : Endpoint) : Endpoint :=
  { e.WriteControlEndpoint 0 e.usb_data_buffer_index with
    usb_data_buffer_index := 0, usb_data_buffer_size := 0 }

@[simp] theorem SETUPReceived_clearIN (e : Endpoint) :
    e.clearIN.SETUPReceived = e.SETUPReceived := by
  unfold clearIN WriteControlEndpoint; split <;> rfl

@[simp] theorem isOutReceived_clearIN (e : Endpoint) :
    e.clearIN.isOutReceived = e.isOutReceived := by
  unfold clearIN WriteControlEndpoint; split <;> rfl

/-- `n` bytes are read. -/
def skip (n : Nat) (e : Endpoint) : Endpoint :=
  { e with
    usb_data_buffer_index := e.usb_data_buffer_index + n
    usb_data_buffer_size := e.usb_data_buffer_size - n }

/-- The first `n` bytes of `f` are written. -/
def append (n : Nat) (f : Nat → UInt8) (e : Endpoint) : Endpoint :=
  { e with
    usb_data_buffer := fill e.usb_data_buffer e.usb_data_buffer_index n f
    usb_data_buffer_index := e.usb_data_buffer_index + n }

end Endpoint

namespace Device

/-- The status stage, where `toHost` is the direction of the request. -/
def clearStatusStage (toHost : Bool) (d : Device ρ) : Device ρ :=
  (d.note .statusStage).onEp (if toHost then Endpoint.clearOUT else Endpoint.clearIN)

/-- The error code of `Endpoint_WaitUntilReady`. -/
def readyCode (d : Device ρ) : Endpoint_WaitUntilReady_ErrorCodes_t :=
  if d.ep.isOutReceived then .ENDPOINT_READYWAIT_NoError
  else if d.USB_DeviceState = .DEVICE_STATE_Unattached then .ENDPOINT_READYWAIT_DeviceDisconnected
  else if d.USB_DeviceState = .DEVICE_STATE_Suspended then .ENDPOINT_READYWAIT_BusSuspended
  else if d.ep.stalled then .ENDPOINT_READYWAIT_EndpointStalled
  else .ENDPOINT_READYWAIT_Timeout

theorem readyCode_eq_noError : d.readyCode = .ENDPOINT_READYWAIT_NoError ↔ d.ep.isOutReceived := by
  unfold readyCode
  split
  · simp_all
  · split <;> [simp_all; split <;> [simp_all; split <;> simp_all]]

theorem onEp_onEp (f g : Endpoint → Endpoint) : (d.onEp f).onEp g = d.onEp (fun e => g (f e)) := rfl

end Device

/-! ## Flags and packets -/

@[simp] theorem eval_Endpoint_IsSETUPReceived :
    eval interrupt Endpoint_IsSETUPReceived w d = .done d.ep.SETUPReceived w d := rfl

@[simp] theorem eval_Endpoint_ClearSETUP (c : Caller) :
    eval interrupt (Endpoint_ClearSETUP c) w d = .done () w (d.onEp Endpoint.clearSETUP) := rfl

@[simp] theorem eval_Endpoint_ClearOUT :
    eval interrupt Endpoint_ClearOUT w d = .done () w (d.onEp Endpoint.clearOUT) := rfl

@[simp] theorem eval_Endpoint_ClearIN :
    eval interrupt Endpoint_ClearIN w d = .done () w (d.onEp Endpoint.clearIN) := rfl

@[simp] theorem eval_Endpoint_ClearStatusStage :
    eval interrupt Endpoint_ClearStatusStage w d =
      .done () w (d.clearStatusStage d.USB_ControlRequest.isDeviceToHost) := by
  cases h : d.USB_ControlRequest.isDeviceToHost <;>
    simp [Endpoint_ClearStatusStage, Device.clearStatusStage, h]

@[simp] theorem eval_Endpoint_StallTransaction :
    eval interrupt Endpoint_StallTransaction w d =
      .done () w ((d.onEp fun e => { e with stalled := true }).note .stall) := rfl

theorem eval_Endpoint_WaitUntilReady :
    eval interrupt Endpoint_WaitUntilReady w d =
      .done (applyEvents interrupt (w.headD []) d).readyCode w.tail
        (applyEvents interrupt (w.headD []) d) := by
  simp only [Endpoint_WaitUntilReady, eval_bind, eval_poll, Device.readyCode]
  cases (applyEvents interrupt (w.headD []) d).ep.isOutReceived <;> simp

/-! ## Bytes and streams -/

theorem eval_store_usb_data_buffer (i : Nat) (Data : UInt8) :
    eval interrupt (store_usb_data_buffer i Data) w d =
      if i < 512 then
        .done () w (d.onEp fun e =>
          { e with usb_data_buffer := Function.update e.usb_data_buffer i Data })
      else .fault (.store_usb_data_buffer i) := by
  unfold store_usb_data_buffer
  split <;> simp_all

theorem eval_store_firmware_data (i : Nat) (Data : UInt8) :
    eval interrupt (store_firmware_data i Data) w d =
      if i < 512 then
        .done () w { d with firmware_data := Function.update d.firmware_data i Data }
      else .fault (.store_firmware_data i) := by
  unfold store_firmware_data
  split <;> simp_all

@[simp] theorem eval_Endpoint_Read_8 :
    eval interrupt Endpoint_Read_8 w d =
      .done (d.ep.usb_data_buffer d.ep.usb_data_buffer_index) w (d.onEp (Endpoint.skip 1)) := rfl

theorem eval_Endpoint_Write_8 {Data : UInt8} (h : d.ep.usb_data_buffer_index < 512) :
    eval interrupt (Endpoint_Write_8 Data) w d =
      .done () w (d.onEp (Endpoint.append 1 (fun _ => Data))) := by
  simp only [Endpoint_Write_8, eval_bind, eval_get, Result.bind_done, eval_store_usb_data_buffer,
    if_pos h, eval_modify]
  simp [Device.onEp, Endpoint.append, ← update_fill]

theorem eval_Endpoint_Write_8_fault {Data : UInt8} (h : 512 ≤ d.ep.usb_data_buffer_index) :
    eval interrupt (Endpoint_Write_8 Data) w d =
      .fault (.store_usb_data_buffer d.ep.usb_data_buffer_index) := by
  simp only [Endpoint_Write_8, eval_bind, eval_get, Result.bind_done, eval_store_usb_data_buffer,
    if_neg (Nat.not_lt.mpr h), Result.bind_fault]

/-- `n` bytes move from the endpoint's buffer to `firmware_data`. -/
def Device.readStream (a n : Nat) (d : Device ρ) : Device ρ :=
  { d.onEp (Endpoint.skip n) with
    firmware_data := fill d.firmware_data a n
      (fun j => d.ep.usb_data_buffer (d.ep.usb_data_buffer_index + j)) }

theorem eval_readStreamLoop {offset n i : Nat} (h : offset + i + n ≤ 512) :
    eval interrupt (readStreamLoop offset n i) w d = .done () w (d.readStream (offset + i) n) := by
  induction n generalizing i d with
  | zero => simp [readStreamLoop, Device.readStream, Device.onEp, Endpoint.skip]
  | succ n ih =>
      simp only [readStreamLoop, eval_bind, eval_Endpoint_Read_8, Result.bind_done,
        eval_store_firmware_data, if_pos (show offset + i < 512 by omega)]
      rw [ih (by omega)]
      congr 1
      simp only [Device.readStream, Device.onEp, Endpoint.skip, Device.mk.injEq, Endpoint.mk.injEq,
        true_and, and_true]
      refine ⟨⟨by omega, by omega⟩, ?_⟩
      rw [← fill_update_head]
      simp only [Nat.add_zero, Nat.add_assoc, Nat.add_comm 1]

theorem eval_readStreamLoop_fault {offset n i : Nat} (h : offset + i ≤ 512)
    (hn : 512 < offset + i + n) :
    eval interrupt (readStreamLoop offset n i) w d = .fault (.store_firmware_data 512) := by
  induction n generalizing i d with
  | zero => omega
  | succ n ih =>
      simp only [readStreamLoop, eval_bind, eval_Endpoint_Read_8, Result.bind_done,
        eval_store_firmware_data]
      rcases Nat.lt_or_ge (offset + i) 512 with hi | hi
      · rw [if_pos hi, Result.bind_done, ih (by omega) (by omega)]
      · rw [if_neg (by omega), Result.bind_fault, show offset + i = 512 by omega]

/-- A read of an empty buffer is skipped without a trace. -/
theorem eval_Endpoint_Read_Stream_LE_empty {offset Length : Nat}
    (h : d.ep.usb_data_buffer_size = 0) :
    eval interrupt (Endpoint_Read_Stream_LE offset Length) w d =
      .done .ENDPOINT_RWSTREAM_IncompleteTransfer w d := by
  simp [Endpoint_Read_Stream_LE, h]

theorem eval_Endpoint_Read_Stream_LE {offset Length : Nat} (h : d.ep.usb_data_buffer_size ≠ 0)
    (hn : offset + Length ≤ 512) :
    eval interrupt (Endpoint_Read_Stream_LE offset Length) w d =
      .done .ENDPOINT_RWSTREAM_NoError w (d.readStream offset Length) := by
  simp [Endpoint_Read_Stream_LE, h, eval_readStreamLoop (i := 0) hn]

theorem eval_Endpoint_Read_Stream_LE_fault {offset Length : Nat}
    (h : d.ep.usb_data_buffer_size ≠ 0) (ho : offset ≤ 512) (hn : 512 < offset + Length) :
    eval interrupt (Endpoint_Read_Stream_LE offset Length) w d =
      .fault (.store_firmware_data 512) := by
  simp [Endpoint_Read_Stream_LE, h, eval_readStreamLoop_fault (i := 0) ho hn]

section Write

variable {Buffer : Device ρ → Nat → UInt8}

theorem eval_writeStreamLoop (hB : ∀ d f, Buffer (Device.onEp f d) = Buffer d) {n i : Nat}
    (h : d.ep.usb_data_buffer_index + n ≤ 512) :
    eval interrupt (writeStreamLoop Buffer n i) w d =
      .done () w (d.onEp (Endpoint.append n (fun j => Buffer d (i + j)))) := by
  induction n generalizing i d with
  | zero => simp [writeStreamLoop, Device.onEp, Endpoint.append]
  | succ n ih =>
      simp only [writeStreamLoop, eval_bind, eval_get, Result.bind_done,
        eval_Endpoint_Write_8 (show d.ep.usb_data_buffer_index < 512 by omega)]
      rw [ih (by simp only [Device.onEp, Endpoint.append]; omega), Device.onEp_onEp]
      congr 2
      funext e
      simp only [Endpoint.append, hB, Endpoint.mk.injEq, true_and, and_true]
      refine ⟨?_, by omega⟩
      have hone := update_fill e.usb_data_buffer (fun _ => Buffer d i) e.usb_data_buffer_index 0
      rw [fill_zero, Nat.add_zero] at hone
      rw [← hone, ← fill_update_head]
      simp only [Nat.add_zero, Nat.add_assoc, Nat.add_comm 1]

theorem eval_writeStreamLoop_fault {n i : Nat} (h : d.ep.usb_data_buffer_index ≤ 512)
    (hn : 512 < d.ep.usb_data_buffer_index + n) :
    eval interrupt (writeStreamLoop Buffer n i) w d = .fault (.store_usb_data_buffer 512) := by
  induction n generalizing i d with
  | zero => omega
  | succ n ih =>
      simp only [writeStreamLoop, eval_bind, eval_get, Result.bind_done]
      rcases Nat.lt_or_ge d.ep.usb_data_buffer_index 512 with hi | hi
      · rw [eval_Endpoint_Write_8 hi, Result.bind_done]
        exact ih (by simp only [Device.onEp, Endpoint.append]; omega)
          (by simp only [Device.onEp, Endpoint.append]; omega)
      · rw [eval_Endpoint_Write_8_fault hi, Result.bind_fault,
          show d.ep.usb_data_buffer_index = 512 by omega]

theorem eval_Endpoint_Write_Stream_LE (hB : ∀ d f, Buffer (Device.onEp f d) = Buffer d)
    {Length : Nat} (h : d.ep.usb_data_buffer_index + Length ≤ 512) :
    eval interrupt (Endpoint_Write_Stream_LE Buffer Length) w d =
      .done .ENDPOINT_RWSTREAM_NoError w (d.onEp (Endpoint.append Length (Buffer d))) := by
  simp [Endpoint_Write_Stream_LE, eval_writeStreamLoop hB h]

theorem eval_Endpoint_Write_Stream_LE_fault {Length : Nat}
    (h : d.ep.usb_data_buffer_index ≤ 512) (hn : 512 < d.ep.usb_data_buffer_index + Length) :
    eval interrupt (Endpoint_Write_Stream_LE Buffer Length) w d =
      .fault (.store_usb_data_buffer 512) := by
  simp [Endpoint_Write_Stream_LE, eval_writeStreamLoop_fault h hn]

end Write

end DfuSeBootloader.Usb
