import DfuSeBootloader.Dfu.Run

/-!
# Exchanges

A host that waits for the end of each request before it sends the next. An exchange is one request
with everything that happens while it is handled, or an interrupt between two requests.
-/

namespace DfuSeBootloader.Dfu
open Program Memory Iap Usb
open EVENT_USB_Device_ControlRequest

variable {ρ : Type} {P : Platform ρ} {w w' : List (List Event)} {d d' : Device ρ}
  {t : ControlTransfer} {l : List UInt8}

inductive Exchange
  /-- A request is sent and handled, with the events of the waits. -/
  | request (t : ControlTransfer) (w : List (List Event))
  | between (ev : Event)

def exchange (P : Platform ρ) : Exchange → Device ρ → Option (Device ρ)
  | .request t w, d => perform P (.task w) (interrupt (.setup t) d)
  | .between ev, d => perform P (.interrupt ev) d

/-- The steps of a run of exchanges. -/
def Exchanges (P : Platform ρ) (d : Device ρ) (x : Exchange) (d' : Device ρ) : Prop :=
  exchange P x d = some d'

abbrev Round (ρ : Type) : Type := Visit (Device ρ) Exchange

/-- The request goes to the DFU interface, and no other request comes while it is handled. The data
stage of a DNLOAD is as long as it says, and its packets come only while it is handled. -/
def Exchange.Orderly : Exchange → Prop
  | .request t w =>
      t.isClassInterface = true ∧ Undisturbed w ∧
        (if dfuRequest t.toUSB_Request_Header_t = some .DNLOAD then
          t.data.length = t.wLength.toNat
        else ∀ es ∈ w, ∀ ev ∈ es, ev.Quiet)
  | .between ev => ev.Quiet

instance : DecidablePred Exchange.Orderly
  | .request t w => inferInstanceAs (Decidable (t.isClassInterface = true ∧ Undisturbed w ∧
      (if dfuRequest t.toUSB_Request_Header_t = some .DNLOAD then
        t.data.length = t.wLength.toNat
      else ∀ es ∈ w, ∀ ev ∈ es, ev.Quiet)))
  | .between ev => inferInstanceAs (Decidable ev.Quiet)

/-- The device is attached, and no packet is left over. -/
structure Idle (d : Device ρ) : Prop where
  attached : d.USB_DeviceState ≠ .DEVICE_STATE_Unattached
  out : d.ep.isOutReceived = false

theorem idle_start (r : ρ) : Idle (Device.start r) := ⟨fun h => (nomatch h), rfl⟩

/-! ## Into the handler and out of it -/

/-- The device in which the `switch` begins for a request. -/
def begun (t : ControlTransfer) (d : Device ρ) : Device ρ := entered (interrupt (.setup t) d)

theorem begun_waiting (h : Idle d) : (begun t d).ep.Waiting t.data where
  setup := rfl
  out := by
    simp [begun, entered, accept, interrupt, Device.onEp, Device.note, Endpoint.clearSETUP,
      Endpoint.interrupt, Endpoint.setupISR, Endpoint.ReadControlEndpoint, h.out]
  index := rfl
  inFlight := rfl

@[simp] theorem session_begun : session (begun t d) = session d := by
  rw [begun, entered, session_accept]
  rfl

theorem exchange_of_switch (h : Idle d) (hc : t.isClassInterface = true)
    (heval : eval interrupt (switch P t.wValue.toNat t.wLength.toNat
      (dfuRequest t.toUSB_Request_Header_t)) w (begun t d) = .done () w' d')
    (hs : d'.ep.SETUPReceived = false) : exchange P (.request t w) d = some d' :=
  perform_task (d := interrupt (.setup t) d) h.attached rfl hc heval hs

theorem switch_of_exchange (h : Idle d) (hc : t.isClassInterface = true)
    (hx : exchange P (.request t w) d = some d') : ∃ w₁ d₁,
      eval interrupt (switch P t.wValue.toNat t.wLength.toNat
        (dfuRequest t.toUSB_Request_Header_t)) w (begun t d) = .done () w₁ d₁ ∧
      (d₁.ep.SETUPReceived = false → d' = d₁) := by
  obtain ⟨w', htask⟩ := perform_task_eq_some.mp hx
  obtain ⟨w₁, d₁, hevent, -⟩ :=
    EVENT_of_task (d := interrupt (.setup t) d) h.attached rfl htask
  have hacc := eval_EVENT_accepted (P := P) (w := w)
    (d := { interrupt (.setup t) d with USB_ControlRequest := t }) rfl hc
  have heval := hacc.symm.trans hevent
  exact ⟨w₁, d₁, heval, fun hs =>
    Option.some.inj (hx.symm.trans (exchange_of_switch h hc heval hs))⟩

end DfuSeBootloader.Dfu
