import DfuSeBootloader.Dfu.Lemmas.Refine
import DfuSeBootloader.Program.Run

/-!
# Serial runs

The USB task passes through its loop again and again. In a serial run interrupts come between the
passes and while a pass waits in a polling loop.
-/

namespace DfuSeBootloader.Dfu
open Program Memory Iap Usb
open EVENT_USB_Device_ControlRequest

variable {ρ : Type} {P : Platform ρ} {w w' : List (List Event)} {d d' : Device ρ}

/-! ## Actions -/

inductive Action
  | interrupt (ev : Event)
  /-- One pass of the USB task, with the events of its waits. -/
  | task (w : List (List Event))

/-- A pass that never ends, or that does something undefined, leaves no device. -/
def perform (P : Platform ρ) : Action → Device ρ → Option (Device ρ)
  | .interrupt ev, d => some (interrupt ev d)
  | .task w, d =>
      match eval interrupt (USB_DeviceTask P) w d with
      | .done _ _ d' => some d'
      | .fault _ => none
      | .hang _ => none

theorem perform_task_eq_some : perform P (.task w) d = some d' ↔
    ∃ w', eval interrupt (USB_DeviceTask P) w d = .done () w' d' := by
  rw [perform]
  cases eval interrupt (USB_DeviceTask P) w d with
  | done a w₁ d₁ => simp
  | fault op => simp
  | hang op => simp

/-- The steps of a serial run. -/
def Serial (P : Platform ρ) (d : Device ρ) (a : Action) (d' : Device ρ) : Prop :=
  perform P a d = some d'

/-- A step of a serial run. -/
abbrev Turn (ρ : Type) : Type := Visit (Device ρ) Action

/-- The DFU request that the handler takes in a step. -/
def Turn.request (v : Turn ρ) : Option DFU_REQ :=
  match v.action with
  | .interrupt _ => none
  | .task _ => taken v.before

/-- The value of the request. -/
def Turn.wValue (v : Turn ρ) : Nat := v.before.ep.SetupPackage.wValue.toNat

theorem Serial.step {v : Turn ρ} (h : Serial P v.before v.action v.after) :
    Session.Step P v.request v.wValue (session v.before) (session v.after) := by
  obtain ⟨d, a, d'⟩ := v
  cases a with
  | interrupt ev =>
      obtain rfl : interrupt ev d = d' := Option.some.inj h
      exact .ignored
  | task w =>
      obtain ⟨w', htask⟩ := perform_task_eq_some.mp h
      exact step_task htask

/-! ## Requests of a host -/

/-- The direction of the data stage. -/
def DFU_REQ.isDeviceToHost : DFU_REQ → Bool
  | UPLOAD => true
  | GETSTATUS => true
  | GETSTATE => true
  | _ => false

/-- A request with its proper direction bit. -/
def DFU_REQ.transfer (q : DFU_REQ) (wValue wLength : UInt16) (data : List UInt8) : ControlTransfer :=
  ⟨⟨(if q.isDeviceToHost then REQDIR_DEVICETOHOST else REQDIR_HOSTTODEVICE) |||
    (REQTYPE_CLASS ||| REQREC_INTERFACE), q.code, wValue, 0, wLength⟩, data⟩

theorem DFU_REQ.ofCode_code (q : DFU_REQ) : DFU_REQ.ofCode q.code = some q := by
  cases q <;> decide

theorem DFU_REQ.isClassInterface_transfer (q : DFU_REQ) (wValue wLength : UInt16)
    (data : List UInt8) : (q.transfer wValue wLength data).isClassInterface = true := by
  unfold USB_Request_Header_t.isClassInterface DFU_REQ.transfer
  dsimp only
  cases q.isDeviceToHost <;> decide

theorem DFU_REQ.dfuRequest_transfer (q : DFU_REQ) (wValue wLength : UInt16) (data : List UInt8) :
    dfuRequest (q.transfer wValue wLength data).toUSB_Request_Header_t = some q := by
  unfold dfuRequest
  rw [if_pos (q.isClassInterface_transfer wValue wLength data)]
  exact q.ofCode_code

/-- The data of a command with an address, lowest byte first. -/
def commandData (code : UInt8) (address : UInt32) : List UInt8 :=
  [code, address.toUInt8, (address >>> 8).toUInt8, (address >>> 16).toUInt8,
    (address >>> 24).toUInt8]

/-- A request is sent and handled. -/
def send (t : ControlTransfer) (w : List (List Event)) : List Action :=
  [.interrupt (.setup t), .task w]

/-! ## A pass that handles a request -/

theorem taken_eq_some {q : DFU_REQ} : taken d = some q ↔
    d.USB_DeviceState ≠ .DEVICE_STATE_Unattached ∧ d.ep.SETUPReceived = true ∧
      d.ep.SetupPackage.isClassInterface = true ∧
      DFU_REQ.ofCode d.ep.SetupPackage.bRequest = some q := by
  unfold taken dfuRequest
  split
  · rename_i h
    split <;> simp_all
  · simp_all

/-- The device in which the `switch` of the handler begins. -/
def entered (d : Device ρ) : Device ρ := accept { d with USB_ControlRequest := d.ep.SetupPackage }

/-- Where no SETUP packet comes while the handler is at work, the library does nothing behind it. -/
theorem eval_process (hset : d.ep.SETUPReceived = true)
    (hc : d.ep.SetupPackage.isClassInterface = true)
    (h : eval interrupt (switch P d.ep.SetupPackage.wValue.toNat d.ep.SetupPackage.wLength.toNat
      (dfuRequest d.ep.SetupPackage.toUSB_Request_Header_t)) w (entered d) = .done () w' d')
    (hs : d'.ep.SETUPReceived = false) :
    eval interrupt (USB_Device_ProcessControlRequest P) w d = .done () w' d' := by
  have hev : eval interrupt (EVENT_USB_Device_ControlRequest P) w
      { d with USB_ControlRequest := d.ep.SetupPackage } = .done () w' d' :=
    (eval_EVENT_accepted (d := { d with USB_ControlRequest := d.ep.SetupPackage }) hset hc).trans h
  simp only [USB_Device_ProcessControlRequest, eval_Endpoint_GetSetupPackage, standardRequests,
    stallUnhandled, eval_bind, Result.bind_done, hev, eval_Endpoint_IsSETUPReceived, hs]
  rw [if_neg Bool.false_ne_true, eval_pure, Result.bind_done, hs, if_neg Bool.false_ne_true,
    eval_pure]

theorem perform_task (hatt : d.USB_DeviceState ≠ .DEVICE_STATE_Unattached)
    (hset : d.ep.SETUPReceived = true) (hc : d.ep.SetupPackage.isClassInterface = true)
    (h : eval interrupt (switch P d.ep.SetupPackage.wValue.toNat d.ep.SetupPackage.wLength.toNat
      (dfuRequest d.ep.SetupPackage.toUSB_Request_Header_t)) w (entered d) = .done () w' d')
    (hs : d'.ep.SETUPReceived = false) : perform P (.task w) d = some d' :=
  perform_task_eq_some.mpr ⟨w', (eval_task hatt hset).trans (eval_process hset hc h hs)⟩

/-- A pass that takes a request goes through the `switch`, and behind it the session stays. -/
theorem switch_of_perform {q : DFU_REQ} (h : perform P (.task w) d = some d')
    (hq : taken d = some q) : ∃ w₁ d₁,
      eval interrupt (switch P d.ep.SetupPackage.wValue.toNat d.ep.SetupPackage.wLength.toNat (some q))
        w (entered d) = .done () w₁ d₁ ∧ session d' = session d₁ := by
  obtain ⟨hatt, hset, hc, hcode⟩ := taken_eq_some.mp hq
  obtain ⟨w', htask⟩ := perform_task_eq_some.mp h
  obtain ⟨w₁, d₁, hevent, hsession⟩ := EVENT_of_task hatt hset htask
  have hacc := eval_EVENT_accepted (P := P) (w := w)
    (d := { d with USB_ControlRequest := d.ep.SetupPackage }) hset hc
  rw [dfuRequest, if_pos hc, hcode] at hacc
  exact ⟨w₁, d₁, hacc.symm.trans hevent, hsession⟩

/-- The handler ends, and so does the pass, whatever has come in the meantime. -/
theorem perform_of_switch {q : DFU_REQ} (hq : taken d = some q)
    (h : eval interrupt (switch P d.ep.SetupPackage.wValue.toNat d.ep.SetupPackage.wLength.toNat
      (some q)) w (entered d) = .done () w' d') : ∃ d₁, perform P (.task w) d = some d₁ := by
  obtain ⟨hatt, hset, hc, hcode⟩ := taken_eq_some.mp hq
  have hkeep : (switch P d.ep.SetupPackage.wValue.toNat d.ep.SetupPackage.wLength.toNat
      (some q)).Keeps (fun _ => True) (fun _ => True) (fun d : Device ρ => d.USB_ControlRequest) :=
    switch.keeps requestView anyOps P trivial (fun _ _ => trivial) (fun _ => trivial)
      (fun _ _ => trivial) (fun _ _ => trivial)
  have hreq : d'.USB_ControlRequest = (entered d).USB_ControlRequest :=
    hkeep.eval (fun (ev : Event) (d : Device ρ) =>
      (rfl : (interrupt ev d).USB_ControlRequest = d.USB_ControlRequest)) h
  have hacc := eval_EVENT_accepted (P := P) (w := w)
    (d := { d with USB_ControlRequest := d.ep.SetupPackage }) hset hc
  rw [dfuRequest, if_pos hc, hcode] at hacc
  have hevent := hacc.trans h
  have hstd : eval interrupt (standardRequests P) w' d' = .done () w' d' := by
    rw [standardRequests, eval_bind, eval_Endpoint_IsSETUPReceived, Result.bind_done]
    split
    · rw [eval_bind, eval_get, Result.bind_done, hreq,
        standardRequest_of_class P (show (entered d).USB_ControlRequest.isClassInterface = true from hc),
        eval_pure]
    · rfl
  have hstall : ∃ d₁, eval interrupt stallUnhandled w' d' = .done () w' d₁ := by
    rw [stallUnhandled, eval_bind, eval_Endpoint_IsSETUPReceived, Result.bind_done]
    split
    · exact ⟨_, by rw [eval_bind, eval_Endpoint_ClearSETUP, Result.bind_done,
        eval_Endpoint_StallTransaction]⟩
    · exact ⟨_, rfl⟩
  obtain ⟨d₁, hstall⟩ := hstall
  refine ⟨d₁, perform_task_eq_some.mpr ⟨w', (eval_task hatt hset).trans ?_⟩⟩
  simp only [USB_Device_ProcessControlRequest, eval_Endpoint_GetSetupPackage, eval_bind, Result.bind_done,
    hevent, hstd, hstall]

/-! ## GETSTATUS -/

@[simp] theorem setup_finish : (finish d).ep.SETUPReceived = d.ep.SETUPReceived := by
  unfold finish Device.clearStatusStage
  cases d.USB_ControlRequest.isDeviceToHost with
  | true => rfl
  | false => exact Endpoint.SETUPReceived_clearIN _

theorem setup_reply (l : List UInt8) : (reply l d).ep.SETUPReceived = d.ep.SETUPReceived :=
  Endpoint.SETUPReceived_clearIN _

theorem tx_reply {l : List UInt8} (hi : d.ep.usb_data_buffer_index = 0) (hl : l.length < 64) :
    (reply l d).ep.tx = d.ep.tx ++ [l] := by
  simp only [reply, wrote, Device.onEp, Endpoint.clearIN, Endpoint.WriteControlEndpoint,
    Endpoint.append, hi, Nat.zero_add, FIXED_CONTROL_ENDPOINT_SIZE, if_neg (Nat.not_le.mpr hl)]
  rw [slice_fill]
  congr 2
  exact List.ext_getElem (by simp) (fun i h₁ h₂ => by
    rw [getElem_slice, Nat.zero_add, padded_of_lt h₂])

theorem tx_finish (d : Device ρ) : ∃ more, (finish d).ep.tx = d.ep.tx ++ more := by
  unfold finish Device.clearStatusStage
  cases d.USB_ControlRequest.isDeviceToHost with
  | true => exact ⟨[], (List.append_nil _).symm⟩
  | false =>
      simp only [Bool.false_eq_true, if_false, Device.onEp, Endpoint.clearIN,
        Endpoint.WriteControlEndpoint]
      split <;> exact ⟨_, rfl⟩

/-- The first packet sent between `d` and `d'` is a GETSTATUS reply with this status and state. -/
def Reports (d d' : Device ρ) (status : DFU_Status_t) (state : DFU_State_t) : Prop :=
  ∃ more, d'.ep.tx = d.ep.tx ++ statusReply status state :: more

theorem DFU_Status_t.code_injective : Function.Injective DFU_Status_t.code := by
  intro s s' h
  cases s <;> cases s' <;> first | rfl | cases h

theorem Reports.status_eq {status status' : DFU_Status_t} {state state' : DFU_State_t}
    (h : Reports d d' status state) (h' : Reports d d' status' state') : status = status' := by
  obtain ⟨more, h⟩ := h
  obtain ⟨more', h'⟩ := h'
  rw [h, List.append_cancel_left_eq] at h'
  simp only [statusReply, List.cons.injEq] at h'
  exact DFU_Status_t.code_injective h'.1.1

theorem Serial.reports {v : Turn ρ} (h : Serial P v.before v.action v.after)
    (hq : v.request = some .GETSTATUS) :
      Reports v.before v.after v.before.DFU_Status v.before.DFU_State := by
  obtain ⟨d, a, d'⟩ := v
  cases a with
  | interrupt ev => cases hq
  | task w =>
      let l := statusReply (entered d).DFU_Status (entered d).DFU_State
      obtain ⟨hatt, hset, hc, hcode⟩ := taken_eq_some.mp hq
      have heval := eval_getStatus (w := w) (d := entered d) rfl
      have hend := perform_task (P := P) hatt hset hc
        (by simp only [dfuRequest, hc, if_true, hcode]; exact heval)
        (by change (finish (reply _ (entered d))).ep.SETUPReceived = false
            rw [setup_finish, setup_reply]; rfl)
      obtain rfl := Option.some.inj (hend.symm.trans h)
      obtain ⟨more, hmore⟩ := tx_finish (reply l (entered d))
      have hl : (reply l (entered d)).ep.tx = (entered d).ep.tx ++ [l] :=
        tx_reply rfl (show 6 < 64 by decide)
      exact ⟨more, hmore.trans (by rw [hl, List.append_assoc]; rfl)⟩

end DfuSeBootloader.Dfu
