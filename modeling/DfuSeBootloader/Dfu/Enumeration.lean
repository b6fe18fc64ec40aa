import DfuSeBootloader.Dfu.Lemmas.Standard
import DfuSeBootloader.Dfu.Upload
import DfuSeBootloader.Iap.Reference
import DfuSeBootloader.Usb.DescriptorTable

/-!
# Enumeration

A host that knows nothing about the device asks for its descriptors, one request depending on the
answer to the one before, until it knows which sectors the flash has.
-/

namespace DfuSeBootloader.Dfu
open Program Memory Iap Usb Codec

variable {ρ : Type} {P : Platform ρ} {w w' : List (List Event)} {d d' : Device ρ} {x : Readout}

/-! ## One request -/

/-- A request that does not go to the DFU interface. Every full packet of its answer is collected
before the next request. -/
structure Readout.Enquiry (P : Platform ρ) (x : Readout) : Prop where
  notDfu : x.request.isClassInterface = false
  fit : replyBound P x.request.toUSB_Request_Header_t ≤ 512
  waits : ∀ es ∈ x.waits, ∀ ev ∈ es, ev.Quiet
  events : ∀ ev ∈ x.events, ev.Quiet
  collected : replyBound P x.request.toUSB_Request_Header_t / 64 ≤
    x.events.countP (· matches .inComplete)

/-- The packets that carry a reply. -/
def packetsOf : Reply → List (List UInt8)
  | none => []
  | some l => shortEnded 64 l

/-- What the host has heard between two states of the device. -/
def heard (d d' : Device ρ) : Reply :=
  if d'.ep.stalled then none else some (d'.ep.tx.drop d.ep.tx.length).flatten

theorem heard_of_packets {r : Reply} (htx : d'.ep.tx = d.ep.tx ++ packetsOf r)
    (hstalled : d'.ep.stalled = r.isNone) : heard d d' = r := by
  rw [heard, hstalled, htx, List.drop_left]
  cases r with
  | none => rfl
  | some l => exact congrArg some (flatten_shortEnded (by decide) l)

theorem attached_respond {h : USB_Request_Header_t} {s : Library}
    (hs : s.deviceState ≠ .DEVICE_STATE_Unattached) :
    (respond P h s).2.deviceState ≠ .DEVICE_STATE_Unattached := by
  unfold respond
  split
  · exact hs
  · rename_i q _
    cases q with
    | setAddress address =>
        simp only [StandardRequest.effect]
        split <;> simp
    | setConfiguration number =>
        simp only [StandardRequest.effect]
        split
        · simp
        · exact hs
    | deviceStatus => exact hs
    | endpointStatus number => exact hs
    | remoteWakeup enabled => exact hs
    | endpointFeature => exact hs
    | descriptor wValue wIndex => exact hs
    | getConfiguration => exact hs

/-- A pass of the task answers the request that waits, or stalls. -/
theorem eval_process_standard (h : d.ep.Asked) (hc : d.ep.SetupPackage.isClassInterface = false)
    (hw : ∀ ev ∈ w.headD [], ev.Quiet)
    (hfit : replyBound P d.ep.SetupPackage.toUSB_Request_Header_t ≤ 512) :
    ∃ w' d', eval interrupt (USB_Device_ProcessControlRequest P) w d = .done () w' d' ∧
      library d' = (respond P d.ep.SetupPackage.toUSB_Request_Header_t (library d)).2 ∧
      match (respond P d.ep.SetupPackage.toUSB_Request_Header_t (library d)).1 with
      | none => d'.ep = { d.ep.clearSETUP with stalled := true }
      | some l => d.ep.Answered l d'.ep := by
  obtain ⟨d₀, hd₀⟩ : ∃ d₀, d₀ = { d with USB_ControlRequest := d.ep.SetupPackage }.note
      (.dispatch d.ep.SetupPackage) := ⟨_, rfl⟩
  have hep₀ : d₀.ep = d.ep := by rw [hd₀]; rfl
  have hreq : d₀.USB_ControlRequest = d.ep.SetupPackage := by rw [hd₀]; rfl
  have hlib₀ : library d₀ = library d := by rw [hd₀]; rfl
  have hevent : eval interrupt (EVENT_USB_Device_ControlRequest P) w
      { d with USB_ControlRequest := d.ep.SetupPackage } = .done () w d₀ := by
    rw [hd₀]
    exact eval_EVENT_ignored (d := { d with USB_ControlRequest := d.ep.SetupPackage }) (.inr hc)
  obtain ⟨w₁, d₁, heval, hlib, hep⟩ := takes_standardRequest (P := P) (w := w) (d := d₀)
    (by rw [hep₀]; exact h) hw (by rw [hreq]; exact hfit)
  rw [hreq, hlib₀] at hlib hep
  rw [hep₀] at hep
  have hprocess : eval interrupt (USB_Device_ProcessControlRequest P) w d =
      eval interrupt stallUnhandled w₁ d₁ := by
    simp only [USB_Device_ProcessControlRequest, eval_Endpoint_GetSetupPackage, standardRequests, eval_bind,
      Result.bind_done, hevent, eval_Endpoint_IsSETUPReceived]
    rw [if_pos (by rw [hep₀]; exact h.setup)]
    simp only [eval_bind, eval_get, Result.bind_done, heval]
  rw [hprocess]
  cases hr : (respond P d.ep.SetupPackage.toUSB_Request_Header_t (library d)).1 with
  | none =>
      rw [hr] at hep
      refine ⟨w₁, (d₁.onEp Endpoint.clearSETUP).onEp (fun e => { e with stalled := true }) |>.note .stall,
        ?_, hlib, by rw [← hep]; rfl⟩
      simp only [stallUnhandled, eval_bind, eval_Endpoint_IsSETUPReceived, Result.bind_done]
      rw [if_pos (by rw [hep]; exact h.setup)]
      rfl
  | some l =>
      rw [hr] at hep
      refine ⟨w₁, d₁, ?_, hlib, hep⟩
      simp only [stallUnhandled, eval_bind, eval_Endpoint_IsSETUPReceived, Result.bind_done]
      rw [if_neg (by rw [hep.setup]; decide)]
      rfl

/-- The endpoint behind a request, when the host has collected the packets of the reply. -/
theorem collected_reply {e e' : Endpoint} {r : Reply} {es : List Event} (h : e.Asked)
    (he : match r with
      | none => e' = { e.clearSETUP with stalled := true }
      | some l => e.Answered l e')
    (hes : ∀ ev ∈ es, ev.Quiet)
    (hcol : ∀ l, r = some l → l.length / 64 ≤ es.countP (· matches .inComplete)) :
    (applyEvents Endpoint.interrupt es e').IdleIN ∧
      (applyEvents Endpoint.interrupt es e').isOutReceived = false ∧
      (applyEvents Endpoint.interrupt es e').tx = e.tx ++ packetsOf r ∧
      (applyEvents Endpoint.interrupt es e').stalled = r.isNone := by
  cases r with
  | none =>
      obtain rfl := he
      have hidle : Endpoint.IdleIN { e.clearSETUP with stalled := true } :=
        ⟨h.idleIN.count, h.idleIN.offset, h.idleIN.short, h.idleIN.ready⟩
      obtain ⟨hidle', htx⟩ := hidle.events fun ev hev => (hes ev hev).noSetup
      refine ⟨hidle', ?_, htx.trans (List.append_nil _).symm, ?_⟩
      · exact applyEvents_induction (I := fun e : Endpoint => e.isOutReceived = false)
          (fun ev hev _ h => (Quiet.interrupt (hes ev hev)).trans h) h.out
      · exact applyEvents_induction (I := fun e : Endpoint => e.stalled = true)
          (fun ev hev _ h => (Endpoint.stalled_interrupt (hes ev hev).noSetup).trans h) rfl
  | some l =>
      obtain ⟨-, hout, hstalled⟩ := he.events hes
      obtain ⟨hidle, htx⟩ := he.started.events hes (hcol l rfl)
      exact ⟨hidle, hout, htx, hstalled⟩

/-- A ready device answers every request of this kind with one reply, and the library is the only
thing that the request changes. -/
theorem Ready.enquiry (h : Ready d) (hx : x.Enquiry P) :
    ∃ d', Dfu.readout P x d = some d' ∧ Ready d' ∧
      library d' = (respond P x.request.toUSB_Request_Header_t (library d)).2 ∧
      heard d d' = (respond P x.request.toUSB_Request_Header_t (library d)).1 ∧
      d'.ep.tx = d.ep.tx ++
        packetsOf (respond P x.request.toUSB_Request_Header_t (library d)).1 ∧
      session d' = session d := by
  have hasked : (interrupt (.setup x.request) d).ep.Asked :=
    ⟨rfl, (show (d.ep.isOutReceived || (decide (0 < 8) && !true)) = false by rw [h.out]; rfl), rfl,
      ⟨h.idleIN.count, h.idleIN.offset, h.idleIN.short, h.idleIN.ready⟩⟩
  have hhead : ∀ ev ∈ x.waits.headD [], ev.Quiet := by
    cases hw : x.waits with
    | nil => simp
    | cons es w => exact hx.waits es (by rw [hw]; exact List.mem_cons_self)
  obtain ⟨w', d₁, hprocess, hlib, hep⟩ := eval_process_standard (P := P) hasked hx.notDfu hhead hx.fit
  have hlib₀ : library (interrupt (.setup x.request) d) = library d := rfl
  have hpackage : (interrupt (.setup x.request) d).ep.SetupPackage = x.request := rfl
  rw [hpackage, hlib₀] at hlib hep
  have hatt : (interrupt (.setup x.request) d).USB_DeviceState ≠ .DEVICE_STATE_Unattached := h.attached
  have htask := (eval_task (P := P) (w := x.waits) hatt hasked.setup).trans hprocess
  have hsession : session d₁ = session d := by
    obtain ⟨w₂, d₂, hevent, hs⟩ := EVENT_of_task hatt hasked.setup htask
    rw [eval_EVENT_ignored (.inr hx.notDfu)] at hevent
    cases hevent
    rw [hs]
    simp [session, Device.note, Call.isIap, interrupt, Device.onEp]
  have hread : Dfu.readout P x d =
      some (d₁.onEp (applyEvents Endpoint.interrupt x.events)) := by
    rw [Dfu.readout, exchange, perform_task_eq_some.mpr ⟨w', htask⟩, Option.map_some,
      applyEvents_interrupt]
  have hattached : d₁.USB_DeviceState ≠ .DEVICE_STATE_Unattached := by
    have hdevice : d₁.USB_DeviceState = (library d₁).deviceState := rfl
    rw [hdevice, hlib]
    exact attached_respond h.attached
  -- what the host collects
  obtain ⟨hidle, hout, htx, hstalled⟩ := collected_reply hasked hep hx.events fun l hl =>
    (Nat.div_le_div_right (length_le_replyBound hl)).trans hx.collected
  exact ⟨_, hread, ⟨⟨hattached, hout⟩, hidle⟩, hlib, heard_of_packets htx hstalled, htx, hsession⟩

/-! ## A run of requests -/

/-- The replies to a run of requests. -/
def replies (P : Platform ρ) : List Readout → Library → List Reply
  | [], _ => []
  | x :: xs, s =>
      (respond P x.request.toUSB_Request_Header_t s).1 ::
        replies P xs (respond P x.request.toUSB_Request_Header_t s).2

/-- The library behind a run of requests. -/
def libraryAfter (P : Platform ρ) (xs : List Readout) (s : Library) : Library :=
  xs.foldl (fun s x => (respond P x.request.toUSB_Request_Header_t s).2) s

/-- Requests that do not go to the DFU interface are answered one by one as `respond` says, packet by
packet, and the DFU side takes no notice of them. -/
theorem enquiries_answered {xs : List Readout} (h : Ready d) (hxs : ∀ x ∈ xs, x.Enquiry P) :
    ∃ vs d', Run (Readouts P) d vs d' ∧ vs.map Visit.action = xs ∧
      vs.map (fun v => heard v.before v.after) = replies P xs (library d) ∧
      d'.ep.tx = d.ep.tx ++ (replies P xs (library d)).flatMap packetsOf ∧
      library d' = libraryAfter P xs (library d) ∧ session d' = session d ∧ Ready d' := by
  induction xs generalizing d with
  | nil => exact ⟨[], d, .nil d, rfl, rfl, (List.append_nil _).symm, rfl, rfl, h⟩
  | cons x xs ih =>
      obtain ⟨d₁, hread, hready, hlib, hheard, htx, hsession⟩ :=
        h.enquiry (hxs x List.mem_cons_self)
      obtain ⟨vs, d', hrun, hvs, hreplies, htx', hlib', hsession', hready'⟩ :=
        ih hready fun y hy => hxs y (List.mem_cons_of_mem _ hy)
      rw [hlib] at hreplies htx' hlib'
      refine ⟨⟨d, x, d₁⟩ :: vs, d', .cons hread hrun, congrArg (x :: ·) hvs, ?_, ?_, hlib',
        hsession'.trans hsession, hready'⟩
      · rw [List.map_cons, hheard, hreplies]
        rfl
      · rw [htx', htx, replies, List.flatMap_cons, List.append_assoc]

/-- The reference ROM behind the descriptors of the program. -/
def described : Platform Rom :=
  { reference with
    CALLBACK_USB_GetDescriptor := fun wValue wIndex =>
      CALLBACK_USB_GetDescriptor wValue wIndex.toUInt8 }

def enquiryOf (bmRequestType bRequest : UInt8) (wValue wLength : UInt16) : Readout :=
  ⟨⟨⟨bmRequestType, bRequest, wValue, 0, wLength⟩, []⟩, [[.zlp]], [.inComplete]⟩

/-- The first bytes of the device descriptor, an address, a configuration that does not exist, and a
request to a vendor. -/
theorem four_enquiries_answered : ∃ vs d', Run (Readouts described) (Device.start Rom.blank) vs d' ∧
    vs.map (fun v => heard v.before v.after) =
      [some [18, 1, 0, 2, 0, 0, 0, 64], some [], none, none] ∧
    d'.USB_DeviceState = .DEVICE_STATE_Addressed := by
  have hready : Ready (Device.start Rom.blank) := ⟨idle_start _, ⟨rfl, rfl, rfl, rfl⟩⟩
  have hxs : ∀ x ∈ [enquiryOf 0x80 REQ_GetDescriptor 0x0100 8, enquiryOf 0x00 REQ_SetAddress 5 0,
      enquiryOf 0x00 REQ_SetConfiguration 2 0, enquiryOf 0xC0 7 0 0], x.Enquiry described := by
    simp only [List.forall_mem_cons, List.not_mem_nil, false_imp_iff, implies_true, and_true]
    exact ⟨⟨by decide, by decide, by decide, by decide, by decide⟩,
      ⟨by decide, by decide, by decide, by decide, by decide⟩,
      ⟨by decide, by decide, by decide, by decide, by decide⟩,
      ⟨by decide, by decide, by decide, by decide, by decide⟩⟩
  obtain ⟨vs, d', hrun, -, hreplies, -, hlib, -⟩ := enquiries_answered hready hxs
  exact ⟨vs, d', hrun, hreplies.trans (by decide), (congrArg Library.deviceState hlib).trans (by decide)⟩

/-! ## A conversation -/

/-- A host, with all that happens while it talks to the device. What it asks next may depend on the
answers so far. -/
inductive Host (α : Type) : Type
  | learns (a : α)
  | asks (x : Readout) (k : Reply → Host α)

namespace Host

variable {α β : Type}

def bind : Host α → (α → Host β) → Host β
  | learns a, g => g a
  | asks x k, g => asks x fun r => (k r).bind g

instance : Monad Host where
  pure := learns
  bind := bind

/-- The conversation with the device. -/
def converse (P : Platform ρ) : Host α → Device ρ → Option (α × Device ρ)
  | learns a, d => some (a, d)
  | asks x k, d => (readout P x d).bind fun d' => (k (heard d d')).converse P d'

/-- The conversation with a library that does what `respond` says. -/
def consult (P : Platform ρ) : Host α → Library → α × Library
  | learns a, s => (a, s)
  | asks x k, s =>
      (k (respond P x.request.toUSB_Request_Header_t s).1).consult P
        (respond P x.request.toUSB_Request_Header_t s).2

/-- Whatever the answers are, the host asks for nothing that belongs to the DFU interface, and collects
what it has asked for. -/
def Polite (P : Platform ρ) : Host α → Prop
  | learns _ => True
  | asks x k => x.Enquiry P ∧ ∀ r, (k r).Polite P

theorem consult_bind (p : Host α) (g : α → Host β) (s : Library) :
    (p >>= g).consult P s = (g (p.consult P s).1).consult P (p.consult P s).2 := by
  change (p.bind g).consult P s = _
  induction p generalizing s with
  | learns a => rfl
  | asks x k ih => exact ih _ _

theorem polite_bind {p : Host α} {g : α → Host β} (hp : p.Polite P) (hg : ∀ a, (g a).Polite P) :
    (p >>= g).Polite P := by
  change (p.bind g).Polite P
  induction p with
  | learns a => exact hg a
  | asks x k ih => exact ⟨hp.1, fun r => ih r (hp.2 r)⟩

theorem consult_run_bind {p : OptionT Host α} {g : α → OptionT Host β} {a : α} {s s' : Library}
    (hp : p.run.consult P s = (some a, s')) :
    (p >>= g).run.consult P s = (g a).run.consult P s' := by
  rw [OptionT.run_bind, Option.elimM, consult_bind, hp]
  rfl

theorem polite_run_bind {p : OptionT Host α} {g : α → OptionT Host β} (hp : p.run.Polite P)
    (hg : ∀ a, (g a).run.Polite P) : (p >>= g).run.Polite P := by
  rw [OptionT.run_bind, Option.elimM]
  refine polite_bind hp fun r => ?_
  cases r with
  | none => trivial
  | some a => exact hg a

theorem converse_polite {host : Host α} (hp : host.Polite P) (h : Ready d) :
    ∃ d', host.converse P d = some ((host.consult P (library d)).1, d') ∧ Ready d' ∧
      library d' = (host.consult P (library d)).2 ∧ session d' = session d := by
  induction host generalizing d with
  | learns a => exact ⟨d, rfl, h, rfl, rfl⟩
  | asks x k ih =>
      obtain ⟨d₁, hread, hready, hlib, hheard, -, hsession⟩ := h.enquiry hp.1
      obtain ⟨d', hconverse, hready', hlib', hsession'⟩ := ih (heard d d₁) (hp.2 _) hready
      rw [hheard, hlib] at hconverse hlib'
      refine ⟨d', ?_, hready', hlib', hsession'.trans hsession⟩
      rw [converse, hread, Option.bind_some, hheard]
      exact hconverse

end Host

/-! ## Requests for descriptors -/

open Host

/-- The descriptors of the program are the ones that the library asks for. -/
def Describes (P : Platform ρ) : Prop :=
  ∀ wValue wIndex, P.CALLBACK_USB_GetDescriptor wValue wIndex =
    CALLBACK_USB_GetDescriptor wValue wIndex.toUInt8

def getDescriptor (type number : UInt8) (wIndex wLength : UInt16) : USB_Request_Header_t :=
  ⟨0x80, REQ_GetDescriptor, word number type, wIndex, wLength⟩

def setAddress (address : UInt16) : USB_Request_Header_t := ⟨0x00, REQ_SetAddress, address, 0, 0⟩

def setConfiguration (number : UInt8) : USB_Request_Header_t :=
  ⟨0x00, REQ_SetConfiguration, number.toUInt16, 0, 0⟩

/-- What happens while a request is handled, and then up to the next request. -/
structure Timing where
  waits : List (List Event)
  events : List Event

/-- Nothing but the packets of the request goes over the bus, and the first of the answer is
collected. -/
structure Timing.Patient (τ : Timing) : Prop where
  waits : ∀ es ∈ τ.waits, ∀ ev ∈ es, ev.Quiet
  events : ∀ ev ∈ τ.events, ev.Quiet
  collected : 0 < τ.events.countP (· matches .inComplete)

def request (h : USB_Request_Header_t) (τ : Timing) : OptionT Host (List UInt8) :=
  .mk (.asks ⟨⟨h, []⟩, τ.waits, τ.events⟩ .learns)

def check {α : Type} (a : Option α) : OptionT Host α := .mk (.learns a)

/-- No descriptor has more than one full packet. -/
theorem length_CALLBACK_USB_GetDescriptor (wValue : UInt16) (wIndex : UInt8) :
    (CALLBACK_USB_GetDescriptor wValue wIndex).length ≤ 76 := by
  simp only [CALLBACK_USB_GetDescriptor]
  split
  · decide
  split
  · decide
  split
  · split
    · decide
    split
    · decide
    split
    · decide
    split
    · decide
    · decide
  · decide

theorem replyBound_le (hP : Describes P) (h : USB_Request_Header_t) : replyBound P h ≤ 76 := by
  unfold replyBound
  split
  · rename_i wValue wIndex _
    rw [hP]
    exact (Nat.min_le_left _ _).trans (length_CALLBACK_USB_GetDescriptor _ _)
  · decide

theorem isClassInterface_standard {h : USB_Request_Header_t}
    (hb : h.bmRequestType = 0x80 ∨ h.bmRequestType = 0x00) : h.isClassInterface = false := by
  rw [USB_Request_Header_t.isClassInterface]
  rcases hb with hb | hb
  · rw [hb]
    decide
  · rw [hb]
    decide

theorem consult_request {h : USB_Request_Header_t} {l : List UInt8} {s s' : Library} (τ : Timing)
    (hr : respond P h s = (some l, s')) : (request h τ).run.consult P s = (some l, s') := hr

theorem consult_check {α : Type} {a : Option α} {b : α} (ha : a = some b) (s : Library) :
    (check a).run.consult P s = (some b, s) := congrArg (·, s) ha

theorem polite_request (hP : Describes P) {h : USB_Request_Header_t} {τ : Timing}
    (hb : h.bmRequestType = 0x80 ∨ h.bmRequestType = 0x00) (hτ : τ.Patient) :
    (request h τ).run.Polite P := by
  have hbound := replyBound_le hP h
  refine ⟨⟨isClassInterface_standard hb, hbound.trans (by decide), hτ.waits, hτ.events, ?_⟩, fun _ => trivial⟩
  calc replyBound P h / 64 ≤ 76 / 64 := Nat.div_le_div_right hbound
    _ ≤ _ := hτ.collected

theorem respond_getDescriptor (hP : Describes P) {type number : UInt8} {wIndex wLength : UInt16}
    {l : List UInt8} (hl : (CALLBACK_USB_GetDescriptor (word number type) wIndex.toUInt8).take
      wLength.toNat = l) (hne : l.length ≠ 0) (s : Library) :
    respond P (getDescriptor type number wIndex wLength) s = (some l, s) := by
  have hlen : (CALLBACK_USB_GetDescriptor (word number type) wIndex.toUInt8).length ≠ 0 := by
    rw [← hl, List.length_take] at hne
    omega
  rw [respond_of_some (q := .descriptor (word number type) wIndex) rfl, StandardRequest.reply, hP,
    if_neg hlen]
  exact congrArg (fun l => (some l, s)) hl

/-! ## The host -/

/-- What a host knows about the device in the end. -/
structure Discovery where
  VendorID : UInt16
  ProductID : UInt16
  TransferSize : UInt16
  sectors : List (Nat × Nat)
  deriving DecidableEq, Repr

/-- The DFU interface of a configuration. -/
def dfuInterface (parts : List (List UInt8)) : Option USB_Descriptor_Interface_t :=
  (parts.filterMap USB_Descriptor_Interface_t.ofBytes).find? fun i =>
    i.Header.type == DTYPE_Interface && i.Class == 0xFE && i.SubClass == 0x01

def dfuFunctional (parts : List (List UInt8)) : Option USB_Descriptor_DFU_Functional_t :=
  (parts.filterMap USB_Descriptor_DFU_Functional_t.ofBytes).find? fun f =>
    f.Header.type == DTYPE_DFUFunctional

/-- The memory map in a string descriptor, which ends at its first zero. -/
def mapOf (characters : List UInt16) : Option (List (Nat × Nat)) :=
  MemoryMap.sectors (String.ofList ((characters.takeWhile (· ≠ 0)).map fun c => Char.ofNat c.toNat))

/-- The descriptors of the device and of its configuration, an address on the way, and then the name
of the DFU interface in the first language of the device. The host gives up at the first STALL and at
the first answer that it does not understand. -/
def enumerate (address : UInt16) (τ : Nat → Timing) : OptionT Host Discovery := do
  let bytes ← request (getDescriptor DTYPE_Device 0 0 18) (τ 0)
  let device ← check (USB_Descriptor_Device_t.ofBytes bytes)
  let _ ← request (setAddress address) (τ 1)
  let bytes ← request (getDescriptor DTYPE_Configuration 0 0 9) (τ 2)
  let config ← check (USB_Descriptor_Configuration_Header_t.ofBytes bytes)
  let bytes ← request (getDescriptor DTYPE_Configuration 0 0 config.TotalConfigurationSize) (τ 3)
  let parts ← check (records bytes)
  let interface ← check (dfuInterface parts)
  let functional ← check (dfuFunctional parts)
  let bytes ← request (getDescriptor DTYPE_String 0 0 255) (τ 4)
  let language ← check ((stringOfBytes bytes).bind List.head?)
  let bytes ← request (getDescriptor DTYPE_String interface.InterfaceStrIndex language 255) (τ 5)
  let name ← check (stringOfBytes bytes)
  let sectors ← check (mapOf name)
  let _ ← request (setConfiguration config.ConfigurationNumber) (τ 6)
  return ⟨device.VendorID, device.ProductID, functional.TransferSize, sectors⟩

/-! ## What it finds -/

theorem records_configuration : records DfuConfigurationDescriptor.bytes =
    some [DfuConfigurationDescriptor.Config.bytes, DfuConfigurationDescriptor.DFU_Interface.bytes,
      DfuConfigurationDescriptor.DFU_Functional.bytes] := by
  rw [records_eq_some]
  refine ⟨?_, rfl⟩
  simp only [List.forall_mem_cons, List.not_mem_nil, false_imp_iff, implies_true, and_true]
  exact ⟨by decide, by decide, by decide⟩

theorem dfuInterface_configuration : dfuInterface [DfuConfigurationDescriptor.Config.bytes,
    DfuConfigurationDescriptor.DFU_Interface.bytes, DfuConfigurationDescriptor.DFU_Functional.bytes] =
      some DfuConfigurationDescriptor.DFU_Interface := by
  decide

theorem dfuFunctional_configuration : dfuFunctional [DfuConfigurationDescriptor.Config.bytes,
    DfuConfigurationDescriptor.DFU_Interface.bytes, DfuConfigurationDescriptor.DFU_Functional.bytes] =
      some DfuConfigurationDescriptor.DFU_Functional := by
  decide

theorem stringOfBytes_bytes {h : USB_Descriptor_Header_t} (ht : h.type = DTYPE_String)
    (l : List UInt16) : stringOfBytes (h.bytes ++ l.flatMap le16) = some l := by
  rw [USB_Descriptor_Header_t.bytes, List.cons_append, List.cons_append, List.nil_append,
    stringOfBytes, if_pos ht, words_le16]

theorem mapOf_NameString : mapOf NameString.UnicodeString = some (expand flashLayout 0) := by
  decide

/-- The device that every host finds. -/
def discovery : Discovery := ⟨0x0483, 0xDF11, DFU_TRANSFER_SIZE.toUInt16, expand flashLayout 0⟩

theorem consult_enumerate (hP : Describes P) (address : UInt16) (τ : Nat → Timing) (s : Library) :
    (enumerate address τ).run.consult P s =
      (some discovery, { s with configuration := 1, deviceState := .DEVICE_STATE_Configured }) := by
  have hdevice : ∀ s, respond P (getDescriptor DTYPE_Device 0 0 18) s =
      (some DfuDeviceDescriptor.bytes, s) := respond_getDescriptor hP rfl (by decide)
  have haddress : ∀ s, respond P (setAddress address) s =
      (some [], StandardRequest.effect s (.setAddress (address &&& 0x7F))) :=
    fun _ => respond_of_some (q := .setAddress (address &&& 0x7F)) rfl
  have hheader : ∀ s, respond P (getDescriptor DTYPE_Configuration 0 0 9) s =
      (some DfuConfigurationDescriptor.Config.bytes, s) := respond_getDescriptor hP rfl (by decide)
  have hconfig : ∀ s, respond P (getDescriptor DTYPE_Configuration 0 0
      DfuConfigurationDescriptor.Config.TotalConfigurationSize) s =
        (some DfuConfigurationDescriptor.bytes, s) := respond_getDescriptor hP rfl (by decide)
  have hlanguage : ∀ s, respond P (getDescriptor DTYPE_String 0 0 255) s =
      (some (LanguageString.Header.bytes ++ [LANGUAGE_ID_ENG].flatMap le16), s) :=
    respond_getDescriptor hP (by decide) (by decide)
  have hname : ∀ s, respond P (getDescriptor DTYPE_String
      DfuConfigurationDescriptor.DFU_Interface.InterfaceStrIndex LANGUAGE_ID_ENG 255) s =
        (some (NameString.Header.bytes ++ NameString.UnicodeString.flatMap le16), s) :=
    respond_getDescriptor hP (by decide) (by decide)
  have hnumber : ∀ s, respond P (setConfiguration
      DfuConfigurationDescriptor.Config.ConfigurationNumber) s =
        (some [], StandardRequest.effect s (.setConfiguration 1)) :=
    fun _ => respond_of_some (q := .setConfiguration 1) rfl
  rw [enumerate, consult_run_bind (consult_request _ (hdevice _)),
    consult_run_bind (consult_check (USB_Descriptor_Device_t.ofBytes_bytes _) _),
    consult_run_bind (consult_request _ (haddress _)), consult_run_bind (consult_request _ (hheader _)),
    consult_run_bind (consult_check (USB_Descriptor_Configuration_Header_t.ofBytes_bytes _) _),
    consult_run_bind (consult_request _ (hconfig _)),
    consult_run_bind (consult_check records_configuration _),
    consult_run_bind (consult_check dfuInterface_configuration _),
    consult_run_bind (consult_check dfuFunctional_configuration _),
    consult_run_bind (consult_request _ (hlanguage _)),
    consult_run_bind (consult_check (b := LANGUAGE_ID_ENG)
      (by rw [stringOfBytes_bytes rfl]; rfl) _),
    consult_run_bind (consult_request _ (hname _)),
    consult_run_bind (consult_check (stringOfBytes_bytes rfl _) _),
    consult_run_bind (consult_check mapOf_NameString _),
    consult_run_bind (consult_request _ (hnumber _))]
  rfl

theorem polite_enumerate (hP : Describes P) (address : UInt16) {τ : Nat → Timing}
    (hτ : ∀ i, (τ i).Patient) : (enumerate address τ).run.Polite P := by
  have hcheck {α : Type} (a : Option α) : (check a).run.Polite P := trivial
  have hrequest {h : USB_Request_Header_t} (i : Nat)
      (hb : h.bmRequestType = 0x80 ∨ h.bmRequestType = 0x00) : (request h (τ i)).run.Polite P :=
    polite_request hP hb (hτ i)
  refine polite_run_bind (hrequest 0 (.inl rfl)) fun bytes => ?_
  refine polite_run_bind (hcheck _) fun device => ?_
  refine polite_run_bind (hrequest 1 (.inr rfl)) fun _ => ?_
  refine polite_run_bind (hrequest 2 (.inl rfl)) fun bytes => ?_
  refine polite_run_bind (hcheck _) fun config => ?_
  refine polite_run_bind (hrequest 3 (.inl rfl)) fun bytes => ?_
  refine polite_run_bind (hcheck _) fun parts => ?_
  refine polite_run_bind (hcheck _) fun interface => ?_
  refine polite_run_bind (hcheck _) fun functional => ?_
  refine polite_run_bind (hrequest 4 (.inl rfl)) fun bytes => ?_
  refine polite_run_bind (hcheck _) fun language => ?_
  refine polite_run_bind (hrequest 5 (.inl rfl)) fun bytes => ?_
  refine polite_run_bind (hcheck _) fun name => ?_
  refine polite_run_bind (hcheck _) fun sectors => ?_
  exact polite_run_bind (hrequest 6 (.inr rfl)) fun _ => trivial

/-- Whatever the timing is, enumeration ends with the sectors that the program erases, and leaves the
device configured. -/
theorem enumeration (hP : Describes P) (address : UInt16) {τ : Nat → Timing}
    (hτ : ∀ i, (τ i).Patient) (h : Ready d) :
    ∃ d', (enumerate address τ).run.converse P d = some (some discovery, d') ∧ Ready d' ∧
      d'.USB_DeviceState = .DEVICE_STATE_Configured ∧ d'.USB_Device_ConfigurationNumber = 1 ∧
      session d' = session d := by
  obtain ⟨d', hconverse, hready, hlib, hsession⟩ :=
    Host.converse_polite (polite_enumerate hP address hτ) h
  rw [consult_enumerate hP] at hconverse hlib
  exact ⟨d', hconverse, hready, congrArg Library.deviceState hlib,
    congrArg Library.configuration hlib, hsession⟩

/-- With empty packets of the host in between. -/
theorem enumeration_restless : ∃ d',
    (enumerate 5 fun _ => ⟨[[.zlp], [.inComplete]], [.zlp, .inComplete, .zlp]⟩).run.converse described
      (Device.start Rom.blank) = some (some discovery, d') ∧
      d'.USB_Device_ConfigurationNumber = 1 := by
  have hready : Ready (Device.start Rom.blank) := ⟨idle_start _, ⟨rfl, rfl, rfl, rfl⟩⟩
  obtain ⟨d', hconverse, -, -, hnumber, -⟩ := enumeration (P := described) (fun _ _ => rfl) 5
    (τ := fun _ => ⟨[[.zlp], [.inComplete]], [.zlp, .inComplete, .zlp]⟩)
    (fun _ => ⟨by decide, by decide, by decide⟩) hready
  exact ⟨d', hconverse, hnumber⟩

end DfuSeBootloader.Dfu
