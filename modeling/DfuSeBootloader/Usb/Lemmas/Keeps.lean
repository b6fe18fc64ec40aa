import DfuSeBootloader.Program.Frame
import DfuSeBootloader.Usb.Endpoint

/-!
# What the driver leaves alone

The driver functions change the flags, counters and buffers of the endpoint, and `firmware_data`. They
never touch the rest of the device, nor what belongs to the host.
-/

namespace DfuSeBootloader.Usb
open Program Memory

variable {ρ τ : Type}

theorem dispatches_snoc {calls : List Call} {c : Call} (h : ∀ t, c ≠ .dispatch t) :
    dispatches (calls ++ [c]) = dispatches calls := by
  cases c with
  | dispatch t => exact absurd rfl (h t)
  | _ => simp [dispatches]

/-- A view that no driver function can change. -/
structure DriverView (v : Device ρ → τ) : Prop where
  onEp : ∀ d f, (f d.ep).inFlight = d.ep.inFlight → (f d.ep).SetupPackage = d.ep.SetupPackage →
    (f d.ep).sent = d.ep.sent → v (Device.onEp f d) = v d
  firmware : ∀ d m, v { d with firmware_data := m } = v d
  statusStage : ∀ d, v (Device.note .statusStage d) = v d
  stall : ∀ d, v (Device.note .stall d) = v d

/-- A view that can change only where a request is accepted or answered. -/
structure EndpointView (v : Device ρ → τ) : Prop where
  onEp : ∀ d f, (f d.ep).inFlight = d.ep.inFlight → (f d.ep).SetupPackage = d.ep.SetupPackage →
    (f d.ep).sent = d.ep.sent → (f d.ep).SETUPReceived = d.ep.SETUPReceived →
      v (Device.onEp f d) = v d
  firmware : ∀ d m, v { d with firmware_data := m } = v d

theorem DriverView.endpoint {v : Device ρ → τ} (hv : DriverView v) : EndpointView v :=
  ⟨fun d f hin hpkg hsent _ => hv.onEp d f hin hpkg hsent, hv.firmware⟩

/-- A view that a read of a stream cannot change. -/
structure ReaderView (v : Device ρ → τ) : Prop where
  index : ∀ d (i : Endpoint → Nat),
    v (Device.onEp (fun e => { e with usb_data_buffer_index := i e }) d) = v d
  size : ∀ d (n : Endpoint → Int),
    v (Device.onEp (fun e => { e with usb_data_buffer_size := n e }) d) = v d
  firmware : ∀ d m, v { d with firmware_data := m } = v d

theorem EndpointView.reader {v : Device ρ → τ} (hv : EndpointView v) : ReaderView v :=
  ⟨fun d _ => hv.onEp d _ rfl rfl rfl rfl, fun d _ => hv.onEp d _ rfl rfl rfl rfl, hv.firmware⟩

/-- The operations of the driver, save polls of the IN side and stores behind the end of a buffer. -/
structure DriverOps (ok : Op → Prop) : Prop where
  access : ok .access
  clr : ∀ c, ok (.CMD_CLR_BUF c)
  valid : ok .CMD_VALID_BUF
  wait : ok .Endpoint_WaitUntilReady
  stall : ok .Endpoint_StallTransaction
  store_usb_data_buffer : ∀ i < 512, ok (.store_usb_data_buffer i)
  store_firmware_data : ∀ i < 512, ok (.store_firmware_data i)

@[simp] theorem Endpoint.inFlight_WriteControlEndpoint (pData cnt : Nat) (e : Endpoint) :
    (e.WriteControlEndpoint pData cnt).inFlight = e.inFlight := by
  unfold WriteControlEndpoint; split <;> rfl

@[simp] theorem Endpoint.SetupPackage_WriteControlEndpoint (pData cnt : Nat) (e : Endpoint) :
    (e.WriteControlEndpoint pData cnt).SetupPackage = e.SetupPackage := by
  unfold WriteControlEndpoint; split <;> rfl

@[simp] theorem Endpoint.sent_WriteControlEndpoint (pData cnt : Nat) (e : Endpoint) :
    (e.WriteControlEndpoint pData cnt).sent = e.sent := by
  unfold WriteControlEndpoint; split <;> rfl

@[simp] theorem Endpoint.SETUPReceived_WriteControlEndpoint (pData cnt : Nat) (e : Endpoint) :
    (e.WriteControlEndpoint pData cnt).SETUPReceived = e.SETUPReceived := by
  unfold WriteControlEndpoint; split <;> rfl

section

variable {v : Device ρ → τ} {ok bad : Op → Prop}

theorem Endpoint_IsSETUPReceived.keeps (ho : DriverOps ok) :
    Endpoint_IsSETUPReceived.Keeps ok bad v := by
  simp [Endpoint_IsSETUPReceived, ho.access]

theorem Endpoint_WaitUntilReady.keeps (ho : DriverOps ok) :
    Endpoint_WaitUntilReady.Keeps ok bad v :=
  .bind (by simp [ho.wait]) (fun _ => .ite (fun _ => .pure _) (fun _ => by simp [ho.access]))

section Reader

variable (hv : ReaderView v) (ho : DriverOps ok)
include hv ho

theorem Endpoint_Read_8.keeps : Endpoint_Read_8.Keeps ok bad v := by
  simp [Endpoint_Read_8, ho.access, hv.index, hv.size]

theorem store_firmware_data.keeps {i : Nat} {Data : UInt8}
    (hb : 512 ≤ i → bad (.store_firmware_data i)) :
    (store_firmware_data i Data : Task ρ Unit).Keeps ok bad v := by
  refine .ite (fun h => ?_) (fun h => hb (Nat.le_of_not_lt h))
  simpa using ⟨ho.store_firmware_data i h, fun d => hv.firmware d _⟩

theorem readStreamLoop.keeps {offset n i : Nat}
    (hb : ∀ j, 512 ≤ j → j < offset + i + n → bad (.store_firmware_data j)) :
    (readStreamLoop offset n i : Task ρ Unit).Keeps ok bad v := by
  induction n generalizing i with
  | zero => exact .pure _
  | succ n ih =>
      exact .bind (Endpoint_Read_8.keeps hv ho) fun _ =>
        .bind (store_firmware_data.keeps hv ho fun h => hb _ h (by omega)) fun _ =>
        ih (fun j h hj => hb j h (by omega))

theorem Endpoint_Read_Stream_LE.keeps {offset Length : Nat}
    (hb : ∀ j, 512 ≤ j → j < offset + Length → bad (.store_firmware_data j)) :
    (Endpoint_Read_Stream_LE offset Length : Task ρ _).Keeps ok bad v :=
  .bind (by simp [ho.access]) fun _ => .ite (fun _ => .pure _)
    (fun _ => .bind (readStreamLoop.keeps hv ho hb) (fun _ => .pure _))

end Reader

section Endpoint

variable (hv : EndpointView v) (ho : DriverOps ok)
include hv ho

theorem Endpoint_ClearOUT.keeps : Endpoint_ClearOUT.Keeps ok bad v := by
  simp [Endpoint_ClearOUT, ho.access, ho.clr, hv.onEp]

theorem Endpoint_ClearIN.keeps : Endpoint_ClearIN.Keeps ok bad v := by
  simp [Endpoint_ClearIN, ho.access, ho.valid, hv.onEp]

theorem store_usb_data_buffer.keeps {i : Nat} {Data : UInt8}
    (hb : 512 ≤ i → bad (.store_usb_data_buffer i)) :
    (store_usb_data_buffer i Data : Task ρ Unit).Keeps ok bad v := by
  refine .ite (fun h => ?_) (fun h => hb (Nat.le_of_not_lt h))
  simpa [hv.onEp] using ho.store_usb_data_buffer i h

variable (hb : ∀ i, 512 ≤ i → bad (.store_usb_data_buffer i))
include hb

theorem Endpoint_Write_8.keeps (Data : UInt8) : (Endpoint_Write_8 Data : Task ρ Unit).Keeps ok bad v :=
  .bind (by simp [ho.access]) fun i => .bind (store_usb_data_buffer.keeps hv ho (hb i))
    (fun _ => by simp [ho.access, hv.onEp])

theorem Endpoint_Write_16_LE.keeps (Data : UInt16) :
    (Endpoint_Write_16_LE Data : Task ρ Unit).Keeps ok bad v :=
  .bind (Endpoint_Write_8.keeps hv ho hb _) (fun _ => Endpoint_Write_8.keeps hv ho hb _)

theorem writeStreamLoop.keeps (Buffer : Device ρ → Nat → UInt8) (n i : Nat) :
    (writeStreamLoop Buffer n i).Keeps ok bad v := by
  induction n generalizing i with
  | zero => exact .pure _
  | succ n ih =>
      exact .bind (by simp [ho.access]) fun _ =>
        .bind (Endpoint_Write_8.keeps hv ho hb _) fun _ => ih (i + 1)

theorem Endpoint_Write_Stream_LE.keeps (Buffer : Device ρ → Nat → UInt8) (Length : Nat) :
    (Endpoint_Write_Stream_LE Buffer Length).Keeps ok bad v :=
  .bind (writeStreamLoop.keeps hv ho hb Buffer Length 0) (fun _ => .pure _)

end Endpoint

variable (hv : DriverView v) (ho : DriverOps ok)
include hv ho

theorem Endpoint_ClearSETUP.keeps (c : Caller) : (Endpoint_ClearSETUP c).Keeps ok bad v := by
  simp [Endpoint_ClearSETUP, ho.access, ho.clr, hv.onEp]

theorem Endpoint_ClearStatusStage.keeps : Endpoint_ClearStatusStage.Keeps ok bad v :=
  .bind (by simp [ho.access, hv.statusStage]) fun _ => .ite
    (fun _ => Endpoint_ClearOUT.keeps hv.endpoint ho) (fun _ => Endpoint_ClearIN.keeps hv.endpoint ho)

theorem Endpoint_StallTransaction.keeps : Endpoint_StallTransaction.Keeps ok bad v := by
  simp [Endpoint_StallTransaction, ho.stall, hv.stall, hv.onEp]

end

end DfuSeBootloader.Usb
