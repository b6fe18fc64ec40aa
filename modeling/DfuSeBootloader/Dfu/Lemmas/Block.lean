import DfuSeBootloader.Dfu.Request
import DfuSeBootloader.Usb.Lemmas.DataStage

/-!
# Reading a block

The block loop of the handler, without a SETUP packet in between.
-/

namespace DfuSeBootloader.Dfu
open Program Memory Iap Usb
open EVENT_USB_Device_ControlRequest

variable {ρ : Type} {w : List (List Event)} {d : Device ρ} {l : List UInt8}

theorem toread_eq (size : Nat) : toread size = min 64 size := by
  unfold toread
  split
  · simp_all; omega
  · simp_all

theorem drop_toread (l : List UInt8) : l.drop (toread l.length) = l.drop 64 := by
  rw [toread_eq]
  rcases Nat.le_total 64 l.length with h | h
  · rw [Nat.min_eq_left h]
  · rw [Nat.min_eq_right h, List.drop_length, List.drop_of_length_le h]

theorem length_drop_toread (l : List UInt8) : (l.drop 64).length = l.length - toread l.length := by
  rw [← drop_toread, List.length_drop]

/-- One packet and then the rest of the data make the data. -/
theorem fill_toread (fd : Nat → UInt8) (k : Nat) (l : List UInt8) :
    fill (fill fd k (toread l.length) (padded 0 l)) (k + toread l.length) (l.drop 64).length
      (padded 0 (l.drop 64)) = fill fd k l.length (padded 0 l) := by
  have hle : toread l.length ≤ l.length := by rw [toread_eq]; omega
  rw [length_drop_toread, ← drop_toread]
  rw [show padded 0 (l.drop (toread l.length)) = fun i => padded 0 l (toread l.length + i) from
    funext (padded_drop 0 l _), fill_fill_add, Nat.add_sub_cancel' hle]

theorem eval_endpointNotReady :
    eval interrupt endpointNotReady w d = .done false w
      ((d.onEp Endpoint.clearOUT).clearStatusStage d.USB_ControlRequest.isDeviceToHost) := by
  simp [endpointNotReady, Device.onEp]

theorem eval_read_packet {k : Nat} (ha : d.ep.Arrived l) (hk : k + toread l.length ≤ 512) :
    eval interrupt (do let _ ← Endpoint_Read_Stream_LE k (toread l.length); Endpoint_ClearOUT) w d =
      .done () w
        { d.onEp (fun e => (e.skip (toread l.length)).clearOUT) with
          firmware_data := fill d.firmware_data k (toread l.length) (padded 0 l) } := by
  simp only [eval_bind, eval_Endpoint_Read_Stream_LE ha.size hk, Result.bind_done,
    eval_Endpoint_ClearOUT, Device.readStream, Device.onEp, ha.index, Nat.zero_add]
  congr 2
  exact fill_congr (fun i hi => ha.buffer i (by rw [toread_eq] at hi; omega))

/-- The device after a wait for a packet. -/
def afterWait (w : List (List Event)) (d : Device ρ) : Device ρ :=
  d.onEp (applyEvents Endpoint.interrupt (w.headD []))

/-- The device after a turn of the loop that has found the next packet of `l`. -/
def afterPacket (k : Nat) (l : List UInt8) (w : List (List Event)) (d : Device ρ) : Device ρ :=
  { (afterWait w d).onEp (fun e => (e.skip (toread l.length)).clearOUT) with
    firmware_data := fill d.firmware_data k (toread l.length) (padded 0 l) }

theorem eval_wait :
    eval interrupt Endpoint_WaitUntilReady w d =
      .done (afterWait w d).readyCode w.tail (afterWait w d) := by
  rw [eval_Endpoint_WaitUntilReady, applyEvents_interrupt, afterWait]

theorem eval_readBlock_turn {n k : Nat} (hl : l ≠ []) (ha : (afterWait w d).ep.Arrived l)
    (hk : k + toread l.length ≤ 512) :
    eval interrupt (readBlock (n + 1) l.length k) w d =
      eval interrupt (readBlock n (l.drop 64).length (k + toread l.length)) w.tail
        (afterPacket k l w d) := by
  have hpos : 0 < l.length := List.length_pos_iff.mpr hl
  have hcode := Device.readyCode_eq_noError.mpr ha.out
  have hpacket := eval_read_packet (w := w.tail) ha hk
  rw [length_drop_toread, readBlock, if_neg (by omega), eval_bind, eval_wait, Result.bind_done, hcode,
    if_neg (by simp), ← Prog.bind_assoc, eval_bind, hpacket]
  rfl

/-- A data stage that arrives in full goes to `firmware_data`, byte for byte. -/
theorem eval_readBlock_delivered {n k : Nat} (hn : l.length ≤ n)
    (hk : k + l.length ≤ 512) (hw : d.ep.Waiting l) (hr : l ≠ [] → d.ep.rxFull = false)
    (hund : Undisturbed w) (hdel : delivers (chunks 64 l).length w = true) :
    ∃ e' : Endpoint, e'.Waiting [] ∧
      eval interrupt (readBlock n l.length k) w d =
        .done true (w.drop (chunks 64 l).length)
          { d with ep := e', firmware_data := fill d.firmware_data k l.length (padded 0 l) } := by
  induction n generalizing l k w d with
  | zero =>
      have hl : l = [] := List.length_eq_zero_iff.mp (by omega)
      subst hl
      exact ⟨d.ep, hw, by simp [readBlock, chunks_nil (n := 64) (by decide)]⟩
  | succ n ih =>
      rcases eq_or_ne l [] with rfl | hl
      · exact ⟨d.ep, hw, by simp [readBlock, chunks_nil (n := 64) (by decide)]⟩
      have hpos : 0 < l.length := List.length_pos_iff.mpr hl
      have hread := toread_eq l.length
      have hdrop := length_drop_toread l
      rw [chunks_of_ne_nil (n := 64) (by decide) hl, List.length_cons, delivers,
        Bool.and_eq_true] at hdel
      -- the wait brings the packet, and the rest of the data is still to come
      have ha : (afterWait w d).ep.Arrived l := hw.arrived (hr hl) hl hund.headD hdel.1
      have hset := (Endpoint.SETUPReceived_events (e := d.ep) hund.headD).trans hw.setup
      obtain ⟨e', he', heval⟩ := ih (d := afterPacket k l w d) (by omega)
        (show k + toread l.length + (l.drop 64).length ≤ 512 by omega) (ha.release hset _) (fun _ => rfl)
        hund.tail hdel.2
      refine ⟨e', he', ?_⟩
      rw [eval_readBlock_turn hl ha (by omega), heval, chunks_of_ne_nil (n := 64) (by decide) hl]
      simp only [List.length_cons, List.drop_tail, afterPacket, fill_toread]
      rfl

theorem eval_readBlock_turn_fault {n k : Nat} (hl : l ≠ [])
    (ha : (afterWait w d).ep.Arrived l) (hk : k ≤ 512) (hlong : 512 < k + toread l.length) :
    eval interrupt (readBlock (n + 1) l.length k) w d = .fault (.store_firmware_data 512) := by
  have hpos : 0 < l.length := List.length_pos_iff.mpr hl
  have hcode := Device.readyCode_eq_noError.mpr ha.out
  rw [readBlock, if_neg (by omega), eval_bind, eval_wait, Result.bind_done, hcode,
    if_neg (by simp), eval_bind, eval_Endpoint_Read_Stream_LE_fault ha.size hk hlong,
    Result.bind_fault]

/-- The loop comes back with what the waits have brought: all of the data, which then has room, or
not all of it, and then the handler has acknowledged the request. -/
theorem eval_readBlock_done {n k : Nat} {ready : Bool} {w' : List (List Event)} {d' : Device ρ}
    (hn : l.length ≤ n) (hk : k ≤ 512) (hw : d.ep.Waiting l)
    (hr : l ≠ [] → d.ep.rxFull = false) (hund : Undisturbed w)
    (h : eval interrupt (readBlock n l.length k) w d = .done ready w' d') :
    ready = delivers (chunks 64 l).length w ∧ (ready = true → k + l.length ≤ 512) ∧
      (ready = false → ∃ (e : Endpoint) (fd : Nat → UInt8), e.SETUPReceived = false ∧
        d' = ({ d with ep := e, firmware_data := fd }.onEp Endpoint.clearOUT).clearStatusStage
          d.USB_ControlRequest.isDeviceToHost) := by
  induction n generalizing l k w d with
  | zero =>
      have hl : l = [] := List.length_eq_zero_iff.mp (by omega)
      subst hl
      cases h
      exact ⟨by simp [chunks_nil (n := 64) (by decide), delivers], fun _ => hk, fun h => (nomatch h)⟩
  | succ n ih =>
      rcases eq_or_ne l [] with rfl | hl
      · cases h
        exact ⟨by simp [chunks_nil (n := 64) (by decide), delivers], fun _ => hk,
          fun h => (nomatch h)⟩
      have hpos : 0 < l.length := List.length_pos_iff.mpr hl
      have hread := toread_eq l.length
      have hdrop := length_drop_toread l
      rw [chunks_of_ne_nil (n := 64) (by decide) hl, List.length_cons, delivers]
      cases harr : arrives (w.headD []) with
      | true =>
          have ha : (afterWait w d).ep.Arrived l := hw.arrived (hr hl) hl hund.headD harr
          have hset := (Endpoint.SETUPReceived_events (e := d.ep) hund.headD).trans hw.setup
          rcases Nat.lt_or_ge 512 (k + toread l.length) with hlong | hfit
          · rw [eval_readBlock_turn_fault hl ha hk hlong] at h
            cases h
          rw [eval_readBlock_turn hl ha hfit] at h
          obtain ⟨hready, hroom, hmissed⟩ := ih (d := afterPacket k l w d) (by omega) hfit
            (ha.release hset _) (fun _ => rfl) hund.tail h
          refine ⟨by simpa using hready, fun htrue => ?_, fun hfalse => ?_⟩
          · have := hroom htrue
            omega
          · exact hmissed hfalse
      | false =>
          have hwait : (afterWait w d).ep.Waiting l := hw.missed (hr hl) hund.headD harr
          have hcode : (afterWait w d).readyCode ≠ .ENDPOINT_READYWAIT_NoError := by
            rw [Ne, Device.readyCode_eq_noError, hwait.out]
            simp
          rw [readBlock, if_neg (by omega), eval_bind, eval_wait, Result.bind_done, if_pos hcode,
            eval_endpointNotReady] at h
          cases h
          exact ⟨by simp, fun h => (nomatch h), fun _ =>
            ⟨(afterWait w d).ep, d.firmware_data, hwait.setup, rfl⟩⟩

end DfuSeBootloader.Dfu
