import DfuSeBootloader.Dfu.Download
import DfuSeBootloader.Usb.Lemmas.DataIn
import Mathlib.Algebra.GroupWithZero.Nat

/-!
# Reading the memory

A host sets an address and reads from there on, request by request. It collects the packets of a
request before it sends the next one.
-/

namespace DfuSeBootloader.Dfu
open Program Memory Iap Usb
open EVENT_USB_Device_ControlRequest

variable {ρ : Type} {P : Platform ρ} {w : List (List Event)} {d d' : Device ρ} {t : ControlTransfer}

/-! ## What the host does -/

/-- An UPLOAD and the interrupts up to the next request. -/
structure Readout where
  request : ControlTransfer
  waits : List (List Event)
  events : List Event

def Readout.size (x : Readout) : Nat := x.request.wLength.toNat

/-- A request that fits, whose full packets are collected before the next request. -/
structure Readout.Collected (x : Readout) : Prop where
  bmRequestType : x.request.bmRequestType = 0xA1
  upload : dfuRequest x.request.toUSB_Request_Header_t = some .UPLOAD
  fit : x.size ≤ 512
  waits : ∀ es ∈ x.waits, ∀ ev ∈ es, ev.Quiet
  events : ∀ ev ∈ x.events, ev.Quiet
  collected : x.size / 64 ≤ x.events.countP (· matches .inComplete)

def readout (P : Platform ρ) (x : Readout) (d : Device ρ) : Option (Device ρ) :=
  (exchange P (.request x.request x.waits) d).map (applyEvents interrupt x.events)

/-- The steps of a run of readouts. -/
def Readouts (P : Platform ρ) (d : Device ρ) (x : Readout) (d' : Device ρ) : Prop :=
  readout P x d = some d'

/-! ## Memory -/

/-- The `n` bytes that loads from an address on return. -/
def bytes (P : Platform ρ) (r : ρ) (a : UInt32) (n : Nat) : List UInt8 :=
  slice (fun i => P.memory r (a + i.toUInt32)) 0 n

theorem toUInt32_add (n k : Nat) : (n + k).toUInt32 = n.toUInt32 + k.toUInt32 := UInt32.ofNat_add n k

theorem bytes_add (r : ρ) (a : UInt32) (n k : Nat) :
    bytes P r a (n + k) = bytes P r a n ++ bytes P r (a + n.toUInt32) k := by
  rw [bytes, slice_add]
  congr 1
  refine slice_congr fun i _ => ?_
  rw [Nat.zero_add, Nat.zero_add, toUInt32_add, UInt32.add_assoc]

/-! ## The IN side -/

theorem idleIN_begun (h : d.ep.IdleIN) : (begun t d).ep.IdleIN := ⟨h.count, h.offset, h.short, h.ready⟩

theorem idleIN_afterWait (h : d.ep.IdleIN) (hund : Undisturbed w) : (afterWait w d).ep.IdleIN :=
  (h.events hund.headD).1

theorem idleIN_finish (h : d.ep.IdleIN) (hi : d.ep.usb_data_buffer_index = 0) :
    (finish d).ep.IdleIN := by
  obtain ⟨hc, ho, hs, hr⟩ := h
  unfold finish Device.clearStatusStage
  cases d.USB_ControlRequest.isDeviceToHost with
  | true => exact ⟨hc, ho, hs, hr⟩
  | false =>
      simp only [Bool.false_eq_true, if_false, Device.onEp, Device.note, Endpoint.clearIN, hi,
        Endpoint.WriteControlEndpoint, FIXED_CONTROL_ENDPOINT_SIZE, if_neg (show ¬ 64 ≤ 0 by decide)]
      exact ⟨rfl, rfl, hs, rfl⟩

theorem idleIN_obeyed (h : d.ep.IdleIN) (hund : Undisturbed w) : (obeyed P t w d).ep.IdleIN := by
  have hwait := idleIN_afterWait (idleIN_begun (t := t) h) hund
  refine idleIN_finish (?_ : Endpoint.IdleIN (Endpoint.clearOUT _)) rfl
  rw [ep_commanded]
  exact ⟨hwait.count, hwait.offset, hwait.short, hwait.ready⟩

theorem sends_uploaded {n : Nat} {l : List UInt8} (h : d.ep.IdleIN)
    (hi : d.ep.usb_data_buffer_index = 0) (hin : d.USB_ControlRequest.isDeviceToHost = true)
    (hl : l = bytes P d.rom d.CurrentAddr n) :
    (uploaded P n d).ep.Started d.ep.tx l := by
  obtain ⟨e, he⟩ : ∃ e, e = d.ep.append n (fun i => P.memory d.rom (d.CurrentAddr + i.toUInt32)) :=
    ⟨_, rfl⟩
  have hlen : l.length = n := by rw [hl, bytes, length_slice]
  have hindex : e.usb_data_buffer_index = n := by simp only [he, Endpoint.append, hi, Nat.zero_add]
  have hoffset : e.DataInRemainOffset = 0 := by rw [he]; exact h.offset
  have hshort : e.shortpacket = false := by rw [he]; exact h.short
  have htx₀ : e.tx = d.ep.tx := by rw [he]; rfl
  have hclear : e.clearIN = { e.WriteControlEndpoint e.DataInRemainOffset l.length with
      usb_data_buffer_index := 0, usb_data_buffer_size := 0 } := by
    rw [Endpoint.clearIN, hindex, hoffset, hlen]
  have hep : (uploaded P n d).ep = e.clearIN.clearOUT := by
    simp only [uploaded, finish, Device.clearStatusStage, Device.onEp, Device.note, hin, if_true, he]
  have hwrite := Endpoint.started_write (e := e) (l := l) hshort (by
    rw [hoffset, hlen, hl, bytes, he]
    simp only [Endpoint.append, hi, slice_fill])
  rw [hep, hclear, ← htx₀]
  unfold Endpoint.Started at hwrite ⊢
  split at hwrite
  · rename_i hle
    obtain ⟨hsend, htx⟩ := hwrite
    rw [if_pos hle]
    exact ⟨⟨hsend.count, hsend.short, hsend.buffer⟩, htx⟩
  · rename_i hlt
    obtain ⟨hidle, htx⟩ := hwrite
    rw [if_neg hlt]
    exact ⟨⟨hidle.count, hidle.offset, hidle.short, hidle.ready⟩, htx⟩

/-! ## One readout -/

/-- Ready for a request, with nothing left to send. -/
structure Ready (d : Device ρ) : Prop extends Idle d where
  idleIN : d.ep.IdleIN

theorem Ready.obeyed {base : UInt32} (h : Ready d) (ht : SetsAddress base t w) :
    ∃ d', exchange P (.request t w) d = some d' ∧ Ready d' ∧ d'.rom = d.rom ∧
      d'.CurrentAddr = base := by
  obtain ⟨d', hx, hidle, hrom, haddr, -⟩ := exchange_setAddress (P := P) h.toIdle ht
  have hl : t.data.length = 5 := by rw [ht.data]; rfl
  have hd' := exchange_obeyed (P := P) h.toIdle ht.toDownload ht.wValue
    (List.length_pos_iff.mp (by omega)) (by omega) ht.arrives
  obtain rfl := Option.some.inj (hd'.symm.trans hx)
  exact ⟨_, hx, ⟨hidle, idleIN_obeyed h.idleIN ht.undisturbed⟩, hrom, haddr⟩

/-- The IN packets of a readout are the next bytes of the memory. -/
theorem Ready.readout {x : Readout} (h : Ready d) (hx : x.Collected) :
    ∃ d', readout P x d = some d' ∧ Ready d' ∧ d'.rom = d.rom ∧
      d'.CurrentAddr = d.CurrentAddr + x.size.toUInt32 ∧
      d'.ep.tx = d.ep.tx ++ shortEnded 64 (bytes P d.rom d.CurrentAddr x.size) := by
  have hund : Undisturbed x.waits := fun es hes ev hev => (hx.waits es hes ev hev).noSetup
  have hbegun : (begun x.request d).ep.IdleIN := idleIN_begun h.idleIN
  have hwait := idleIN_afterWait hbegun hund
  have htx : (afterWait x.waits (begun x.request d)).ep.tx = d.ep.tx := (hbegun.events hund.headD).2
  -- the handler writes the memory to the buffer and sends the first packet
  have heval : eval interrupt (switch P x.request.wValue.toNat x.request.wLength.toNat
      (dfuRequest x.request.toUSB_Request_Header_t)) x.waits (begun x.request d) =
      .done () x.waits.tail (uploaded P x.size (afterWait x.waits (begun x.request d))) := by
    rw [hx.upload]
    exact eval_upload rfl hx.fit hwait.ready
  have hset := (setup_uploaded (P := P) x.size).trans
    (setup_afterWait (w := x.waits) (begun_waiting (t := x.request) h.toIdle).setup hund)
  have hexchange := exchange_of_switch h.toIdle (isClassInterface_of_dfuRequest hx.upload) heval hset
  have hidle : Idle (uploaded P x.size (afterWait x.waits (begun x.request d))) :=
    (show (Exchange.request x.request x.waits).Orderly from
      ⟨isClassInterface_of_dfuRequest hx.upload, hund, by rw [hx.upload]; exact hx.waits⟩).idle h.toIdle
      hexchange
  -- the interrupts send the others
  have hsend := sends_uploaded (P := P) (n := x.size) hwait (index_events _ _)
    (show x.request.isDeviceToHost = true by
      rw [USB_Request_Header_t.isDeviceToHost, hx.bmRequestType]; decide) rfl
  have hout : (applyEvents Endpoint.interrupt x.events
      (uploaded P x.size (afterWait x.waits (begun x.request d))).ep).isOutReceived = false :=
    applyEvents_induction (I := fun e : Endpoint => e.isOutReceived = false)
      (fun ev hev _ h => (Quiet.interrupt (hx.events ev hev)).trans h) hidle.out
  have hlen : (bytes P (afterWait x.waits (begun x.request d)).rom
      (afterWait x.waits (begun x.request d)).CurrentAddr x.size).length = x.size := length_slice _ _ _
  obtain ⟨hin, hpackets⟩ := hsend.events hx.events (by rw [hlen]; exact hx.collected)
  rw [htx] at hpackets
  refine ⟨(uploaded P x.size (afterWait x.waits (begun x.request d))).onEp
    (applyEvents Endpoint.interrupt x.events), ?_, ⟨⟨hidle.attached, hout⟩, hin⟩, rfl, rfl, hpackets⟩
  rw [Dfu.readout, hexchange, Option.map_some, applyEvents_interrupt]

/-! ## A run of readouts -/

def total (xs : List Readout) : Nat := (xs.map Readout.size).sum

/-- The step from `d` to `d'` has sent exactly the data `l`: full packets and then a short one. -/
def Sends (l : List UInt8) (d d' : Device ρ) : Prop :=
  ∃ ps p, d'.ep.tx = d.ep.tx ++ (ps ++ [p]) ∧ (∀ q ∈ ps, q.length = 64) ∧
    p.length = l.length % 64 ∧ (ps ++ [p]).flatten = l

theorem sends_of_shortEnded {l : List UInt8} (h : d'.ep.tx = d.ep.tx ++ shortEnded 64 l) :
    Sends l d d' := by
  obtain ⟨ps, p, heq, hps, hp⟩ := shortEnded_eq_snoc (n := 64) (by decide) l
  rw [heq] at h
  exact ⟨ps, p, h, hps, hp, by rw [← heq, flatten_shortEnded (by decide)]⟩

/-- Readout by readout: what is sent starts where the readout before it has ended. -/
theorem run_readouts {xs : List Readout} (h : Ready d) (hxs : ∀ x ∈ xs, x.Collected) :
    ∃ vs d', Run (Readouts P) d vs d' ∧ vs.map Visit.action = xs ∧
      (∀ us v ws, vs = us ++ v :: ws → v.after.ep.IdleIN ∧
        Sends (bytes P d.rom (d.CurrentAddr + (total (us.map Visit.action)).toUInt32) v.action.size)
          v.before v.after) ∧
      (∃ ps, d'.ep.tx = d.ep.tx ++ ps ∧ ps.flatten = bytes P d.rom d.CurrentAddr (total xs)) ∧
      d'.CurrentAddr = d.CurrentAddr + (total xs).toUInt32 := by
  induction xs generalizing d with
  | nil =>
      refine ⟨[], d, .nil d, rfl, fun us v ws hvs => ?_, ⟨[], (List.append_nil _).symm, rfl⟩,
        (UInt32.add_zero _).symm⟩
      exact absurd (congrArg List.length hvs) (by simp)
  | cons x xs ih =>
      obtain ⟨d₁, hx, hready, hrom, haddr, htx⟩ := h.readout (P := P) (hxs x List.mem_cons_self)
      obtain ⟨vs, d', hrun, has, hsends, ⟨ps, hps, hflat⟩, hend⟩ :=
        ih hready (fun y hy => hxs y (List.mem_cons_of_mem _ hy))
      have hshift (n : Nat) :
          d₁.CurrentAddr + n.toUInt32 = d.CurrentAddr + (x.size + n).toUInt32 := by
        rw [haddr, toUInt32_add, UInt32.add_assoc]
      refine ⟨⟨d, x, d₁⟩ :: vs, d', .cons hx hrun, congrArg (x :: ·) has, ?_, ?_, ?_⟩
      · rintro (_ | ⟨u, us⟩) v ws hvs
        · obtain ⟨rfl, rfl⟩ := List.cons.inj hvs
          refine ⟨hready.idleIN, sends_of_shortEnded ?_⟩
          rw [htx, show total (([] : List (Visit (Device ρ) Readout)).map Visit.action) = 0 from rfl,
            show (0 : Nat).toUInt32 = 0 from rfl, UInt32.add_zero]
        · obtain ⟨rfl, rfl⟩ := List.cons.inj hvs
          have hv := hsends us v ws rfl
          rw [hshift, hrom] at hv
          exact hv
      · refine ⟨shortEnded 64 (bytes P d.rom d.CurrentAddr x.size) ++ ps, ?_, ?_⟩
        · rw [hps, htx, List.append_assoc]
        · rw [List.flatten_append, flatten_shortEnded (by decide), hflat, hrom, haddr, ← bytes_add]
          rfl
      · rw [hend, hshift]
        rfl

/-- A flash in which every byte is the low byte of its address. -/
def countingRom : Rom := { Rom.blank with flash := fun a => a.toUInt8 }

def readoutOf (wLength : UInt16) (events : List Event) : Readout :=
  ⟨DFU_REQ.UPLOAD.transfer 0 wLength [], [], events⟩

end DfuSeBootloader.Dfu
