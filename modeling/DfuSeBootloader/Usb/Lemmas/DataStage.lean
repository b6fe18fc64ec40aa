import DfuSeBootloader.Usb.Lemmas.Endpoint

/-!
# The data stage of a download

While the program reads the data stage of a request, the endpoint either waits for the rest of the
data or holds its next packet.
-/

namespace DfuSeBootloader.Usb
open Program Memory

namespace Endpoint

/-- Nothing has been received of the data `l`, which the host still has to send. -/
structure Waiting (l : List UInt8) (e : Endpoint) : Prop where
  setup : e.SETUPReceived = false
  out : e.isOutReceived = false
  index : e.usb_data_buffer_index = 0
  inFlight : e.inFlight = chunks 64 l

/-- The first packet of `l` has been received, and nothing was read of it. A SETUP packet may have
come after it. -/
structure Arrived (l : List UInt8) (e : Endpoint) : Prop where
  ne_nil : l ≠ []
  out : e.isOutReceived = true
  full : e.rxFull = true
  size : e.usb_data_buffer_size ≠ 0
  index : e.usb_data_buffer_index = 0
  buffer : ∀ i < min 64 l.length, e.usb_data_buffer i = padded 0 l i
  inFlight : e.SETUPReceived = true ∨ e.inFlight = chunks 64 (l.drop 64)

end Endpoint

/-- The event is no SETUP packet. -/
def Event.NoSetup : Event → Prop
  | .setup _ => False
  | _ => True

/-- No data packet comes with the event. -/
def Event.Quiet : Event → Prop
  | .zlp => True
  | .inComplete => True
  | _ => False

instance : DecidablePred Event.NoSetup
  | .setup _ => inferInstanceAs (Decidable False)
  | .out _ => inferInstanceAs (Decidable True)
  | .zlp => inferInstanceAs (Decidable True)
  | .inComplete => inferInstanceAs (Decidable True)

instance : DecidablePred Event.Quiet
  | .setup _ => inferInstanceAs (Decidable False)
  | .out _ => inferInstanceAs (Decidable False)
  | .zlp => inferInstanceAs (Decidable True)
  | .inComplete => inferInstanceAs (Decidable True)

theorem Event.noSetup_or (ev : Event) : ev.NoSetup ∨ ∃ t, ev = .setup t := by
  cases ev with
  | setup t => exact .inr ⟨t, rfl⟩
  | out junk => exact .inl trivial
  | zlp => exact .inl trivial
  | inComplete => exact .inl trivial

theorem Event.Quiet.noSetup {ev : Event} (h : ev.Quiet) : ev.NoSetup := by
  cases ev <;> trivial

/-! ## The IN side does not matter -/

section InISR

variable (e : Endpoint)

theorem Endpoint.WriteControlEndpoint_eq (a n : Nat) : ∃ r s c o t,
    e.WriteControlEndpoint a n =
      { e with
        isInReady := r, shortpacket := s, DataInRemainCount := c, DataInRemainOffset := o,
        tx := t } := by
  unfold WriteControlEndpoint
  split
  · exact ⟨_, _, _, _, _, rfl⟩
  · exact ⟨_, e.shortpacket, _, _, _, rfl⟩

/-- The IN interrupt changes the IN side only. -/
theorem Endpoint.inISR_eq : ∃ r s c o t,
    e.inISR =
      { e with
        isInReady := r, shortpacket := s, DataInRemainCount := c, DataInRemainOffset := o,
        tx := t } := by
  simp only [inISR]
  split
  · obtain ⟨r, s, c, o, t, h⟩ := WriteControlEndpoint_eq { e with isInReady := true }
      e.DataInRemainOffset e.DataInRemainCount
    exact ⟨r, s, c, o, t, h⟩
  · split
    · obtain ⟨r, s, c, o, t, h⟩ := WriteControlEndpoint_eq
        { e with isInReady := true, shortpacket := false } e.DataInRemainOffset e.DataInRemainCount
      exact ⟨r, s, c, 0, t, by simp only [h]⟩
    · exact ⟨true, e.shortpacket, e.DataInRemainCount, e.DataInRemainOffset, e.tx, rfl⟩

end InISR

/-! ## What an interrupt does -/

namespace Endpoint

variable {e : Endpoint}

/-- A SETUP packet comes, or the IN side changes at most, or a packet of the data stage is taken, or
an empty one. -/
theorem interrupt_cases (ev : Event) (e : Endpoint) : (∃ t, ev = .setup t) ∨
    (∃ r s c o t, interrupt ev e =
      { e with
        isInReady := r, shortpacket := s, DataInRemainCount := c, DataInRemainOffset := o,
        tx := t }) ∨
    (∃ junk p ps, ev = .out junk ∧ e.rxFull = false ∧ e.inFlight = p :: ps ∧
      interrupt ev e = { e with inFlight := ps }.outISR p junk) ∨
    (ev = .zlp ∧ e.rxFull = false ∧ interrupt ev e = e.outISR [] (fun _ => 0)) := by
  cases ev with
  | setup t => exact .inl ⟨t, rfl⟩
  | out junk =>
      right
      by_cases hr : e.rxFull = true
      · exact .inl ⟨_, _, _, _, _, if_pos hr⟩
      rw [interrupt, if_neg hr]
      split
      · exact .inl ⟨_, _, _, _, _, rfl⟩
      · rename_i p ps hf
        exact .inr (.inl ⟨junk, p, ps, rfl, Bool.eq_false_iff.mpr hr, hf, rfl⟩)
  | zlp =>
      right
      by_cases hr : e.rxFull = true
      · exact .inl ⟨_, _, _, _, _, if_pos hr⟩
      · exact .inr (.inr ⟨rfl, Bool.eq_false_iff.mpr hr, if_neg hr⟩)
  | inComplete => exact .inr (.inl (inISR_eq e))

/-- While the controller holds a packet it takes no other. -/
theorem interrupt_of_full (ev : Event) (hr : e.rxFull = true) : (∃ t, ev = .setup t) ∨
    ∃ r s c o t, interrupt ev e =
      { e with
        isInReady := r, shortpacket := s, DataInRemainCount := c, DataInRemainOffset := o,
        tx := t } := by
  obtain h | h | ⟨_, _, _, _, hfree, _⟩ | ⟨_, hfree, _⟩ := interrupt_cases ev e
  · exact .inl h
  · exact .inr h
  · cases hr.symm.trans hfree
  · cases hr.symm.trans hfree

end Endpoint

/-! ## Packets arrive -/

namespace Endpoint

variable {l : List UInt8} {e : Endpoint}

theorem getD_take_eq_padded {n i : Nat} (hi : i < min n l.length) (d : UInt8) :
    (l.take n).getD i d = padded 0 l i := by
  rw [padded_of_lt (by omega), List.getD_eq_getElem _ _ (by simpa using hi), List.getElem_take]

theorem arrived_out (hs : e.SETUPReceived = false) (hi : e.usb_data_buffer_index = 0)
    (hf : e.inFlight = chunks 64 l) (hl : l ≠ []) (hr : e.rxFull = false) (junk : Nat → UInt8) :
    Arrived l (interrupt (.out junk) e) ∧ (interrupt (.out junk) e).SETUPReceived = false := by
  have hpos : 0 < l.length := List.length_pos_iff.mpr hl
  simp only [interrupt, hr, Bool.false_eq_true, if_false, hf, chunks_of_ne_nil (n := 64) (by decide) hl]
  refine ⟨⟨hl, ?_, rfl, ?_, hi, fun i h => ?_, .inr rfl⟩, hs⟩
  · simp [outISR, ReadControlEndpoint, storePacket, hs, hpos]
  · simp only [outISR, ReadControlEndpoint, List.length_take]
    omega
  · simp only [outISR, ReadControlEndpoint, storePacket, List.length_take]
    rw [fill_of_mem (by omega), Nat.sub_zero]
    exact getD_take_eq_padded h _

theorem Waiting.interrupt {ev : Event} (h : Waiting l e) (hev : ev.NoSetup) :
    Waiting l (interrupt ev e) ∨
      Arrived l (Endpoint.interrupt ev e) ∧ (Endpoint.interrupt ev e).SETUPReceived = false := by
  obtain ⟨hs, ho, hi, hf⟩ := h
  obtain ⟨t, rfl⟩ | ⟨r, s, c, o, t, heq⟩ | ⟨junk, p, ps, rfl, hr, hcons, -⟩ | ⟨rfl, -, heq⟩ :=
    interrupt_cases ev e
  · exact hev.elim
  · left
    rw [heq]
    exact ⟨hs, ho, hi, hf⟩
  · right
    refine arrived_out hs hi hf ?_ hr junk
    rintro rfl
    rw [hf, chunks_nil (by decide)] at hcons
    cases hcons
  · left
    rw [heq]
    exact ⟨hs, by simp [outISR, ReadControlEndpoint, storePacket, ho], hi, hf⟩

theorem Arrived.interrupt {ev : Event} (h : Arrived l e) : Arrived l (interrupt ev e) := by
  obtain ⟨hl, ho, hr, hz, hi, hb, hf⟩ := h
  obtain ⟨t, rfl⟩ | ⟨r, s, c, o, t, heq⟩ := interrupt_of_full ev hr
  · exact ⟨hl, by simp [Endpoint.interrupt, setupISR, ReadControlEndpoint, ho], rfl,
      by simp [Endpoint.interrupt, setupISR, ReadControlEndpoint], hi, hb, .inl rfl⟩
  · rw [heq]
    exact ⟨hl, ho, hr, hz, hi, hb, hf⟩

theorem Arrived.events {es : List Event} (h : Arrived l e) :
    Arrived l (applyEvents Endpoint.interrupt es e) :=
  applyEvents_induction (fun _ _ _ h => h.interrupt) h

theorem SETUPReceived_interrupt {ev : Event} (hev : ev.NoSetup) :
    (Endpoint.interrupt ev e).SETUPReceived = e.SETUPReceived := by
  obtain ⟨t, rfl⟩ | ⟨r, s, c, o, t, heq⟩ | ⟨_, _, _, _, _, _, heq⟩ | ⟨_, _, heq⟩ :=
    interrupt_cases ev e
  · exact hev.elim
  · rw [heq]
  · rw [heq]
    rfl
  · rw [heq]
    rfl

theorem SETUPReceived_interrupt_of_true {ev : Event} (h : e.SETUPReceived = true) :
    (Endpoint.interrupt ev e).SETUPReceived = true := by
  rcases ev.noSetup_or with hev | ⟨t, rfl⟩
  · exact (SETUPReceived_interrupt hev).trans h
  · rfl

/-- The request and the history of requests change with a SETUP packet only. -/
theorem setup_interrupt {ev : Event} (hev : ev.NoSetup) :
    (Endpoint.interrupt ev e).SetupPackage = e.SetupPackage ∧
      (Endpoint.interrupt ev e).sent = e.sent := by
  obtain ⟨t, rfl⟩ | ⟨r, s, c, o, t, heq⟩ | ⟨_, _, _, _, _, _, heq⟩ | ⟨_, _, heq⟩ :=
    interrupt_cases ev e
  · exact hev.elim
  · rw [heq]
    exact ⟨rfl, rfl⟩
  · rw [heq]
    exact ⟨rfl, rfl⟩
  · rw [heq]
    exact ⟨rfl, rfl⟩

theorem index_interrupt (ev : Event) (e : Endpoint) :
    (Endpoint.interrupt ev e).usb_data_buffer_index = e.usb_data_buffer_index := by
  obtain ⟨t, rfl⟩ | ⟨r, s, c, o, t, heq⟩ | ⟨_, _, _, _, _, _, heq⟩ | ⟨_, _, heq⟩ :=
    interrupt_cases ev e
  · rfl
  · rw [heq]
  · rw [heq]
    rfl
  · rw [heq]
    rfl

theorem rxFull_interrupt {ev : Event} (hr : e.rxFull = true) :
    (Endpoint.interrupt ev e).rxFull = true := by
  obtain ⟨t, rfl⟩ | ⟨r, s, c, o, t, heq⟩ := interrupt_of_full ev hr
  · rfl
  · rwa [heq]

theorem SETUPReceived_events {es : List Event} (hes : ∀ ev ∈ es, ev.NoSetup) :
    (applyEvents Endpoint.interrupt es e).SETUPReceived = e.SETUPReceived :=
  applyEvents_induction (I := fun e' : Endpoint => e'.SETUPReceived = e.SETUPReceived)
    (fun ev hev _ h => (SETUPReceived_interrupt (hes ev hev)).trans h) rfl

/-- Behind an empty packet, and behind the last packet, nothing more is received. -/
theorem Waiting.blocked {es : List Event} (h : Waiting l e) (hes : ∀ ev ∈ es, ev.NoSetup)
    (hb : e.rxFull = true ∨ l = []) : Waiting l (applyEvents Endpoint.interrupt es e) := by
  suffices hI : Waiting l (applyEvents Endpoint.interrupt es e) ∧
      ((applyEvents Endpoint.interrupt es e).rxFull = true ∨ l = []) from hI.1
  refine applyEvents_induction (I := fun e => Waiting l e ∧ (e.rxFull = true ∨ l = [])) ?_ ⟨h, hb⟩
  rintro ev hev e ⟨hw, hb⟩
  refine ⟨?_, hb.imp_left rxFull_interrupt⟩
  rcases hw.interrupt (hes ev hev) with hw' | ⟨ha, -⟩
  · exact hw'
  · obtain ⟨t, rfl⟩ | ⟨r, s, c, o, t, heq⟩ := interrupt_of_full ev (hb.resolve_right ha.ne_nil)
    · exact (hes _ hev).elim
    · have hout := ha.out
      rw [heq] at hout
      cases hw.out.symm.trans hout

end Endpoint

/-! ## What a wait brings -/

/-- The first OUT packet that comes is one of the data stage. -/
def arrives : List Event → Bool
  | [] => false
  | .out _ :: _ => true
  | .zlp :: _ => false
  | .setup _ :: es => arrives es
  | .inComplete :: es => arrives es

/-- Each of the next `k` waits brings a packet of the data stage. -/
def delivers : Nat → List (List Event) → Bool
  | 0, _ => true
  | k + 1, w => arrives (w.headD []) && delivers k w.tail

/-- No SETUP packet comes in any of the waits. -/
def Undisturbed (w : List (List Event)) : Prop := ∀ es ∈ w, ∀ ev ∈ es, ev.NoSetup

instance (w : List (List Event)) : Decidable (Undisturbed w) :=
  inferInstanceAs (Decidable (∀ es ∈ w, ∀ ev ∈ es, ev.NoSetup))

theorem Undisturbed.headD {w : List (List Event)} (h : Undisturbed w) :
    ∀ ev ∈ w.headD [], ev.NoSetup := by
  cases w with
  | nil => simp
  | cons es w => exact h es List.mem_cons_self

theorem Undisturbed.tail {w : List (List Event)} (h : Undisturbed w) : Undisturbed w.tail :=
  fun es hes => h es (List.mem_of_mem_tail hes)

namespace Endpoint

variable {l : List UInt8} {e : Endpoint}

theorem Waiting.inComplete (h : Waiting l e) (hr : e.rxFull = false) :
    Waiting l (Endpoint.interrupt .inComplete e) ∧
      (Endpoint.interrupt .inComplete e).rxFull = false := by
  obtain ⟨r, s, c, o, t, heq⟩ := inISR_eq e
  rw [Endpoint.interrupt, heq]
  exact ⟨⟨h.setup, h.out, h.index, h.inFlight⟩, hr⟩

theorem Waiting.arrived {es : List Event} (h : Waiting l e) (hr : e.rxFull = false) (hl : l ≠ [])
    (hes : ∀ ev ∈ es, ev.NoSetup) (ha : arrives es = true) :
    Arrived l (applyEvents Endpoint.interrupt es e) := by
  induction es generalizing e with
  | nil => cases ha
  | cons ev es ih =>
      have htail : ∀ ev ∈ es, ev.NoSetup := fun ev' h' => hes ev' (List.mem_cons_of_mem _ h')
      cases ev with
      | setup t => exact (hes _ List.mem_cons_self).elim
      | out junk => exact (arrived_out h.setup h.index h.inFlight hl hr junk).1.events
      | zlp => cases ha
      | inComplete =>
          obtain ⟨hwait, hfree⟩ := h.inComplete hr
          rw [applyEvents_cons]
          exact ih hwait hfree htail ha

theorem Waiting.missed {es : List Event} (h : Waiting l e) (hr : e.rxFull = false)
    (hes : ∀ ev ∈ es, ev.NoSetup) (ha : arrives es = false) :
    Waiting l (applyEvents Endpoint.interrupt es e) := by
  induction es generalizing e with
  | nil => exact h
  | cons ev es ih =>
      have htail : ∀ ev ∈ es, ev.NoSetup := fun ev' h' => hes ev' (List.mem_cons_of_mem _ h')
      cases ev with
      | setup t => exact (hes _ List.mem_cons_self).elim
      | out junk => cases ha
      | zlp =>
          rw [applyEvents_cons]
          refine Waiting.blocked ?_ htail (.inl ?_)
          · simpa [Endpoint.interrupt, hr, outISR, ReadControlEndpoint, storePacket] using
              ⟨h.setup, h.out, h.index, h.inFlight⟩
          · simp [Endpoint.interrupt, hr, outISR, ReadControlEndpoint, storePacket]
      | inComplete =>
          obtain ⟨hwait, hfree⟩ := h.inComplete hr
          rw [applyEvents_cons]
          exact ih hwait hfree htail ha

theorem Arrived.release (h : Arrived l e) (hs : e.SETUPReceived = false) (n : Nat) :
    Waiting (l.drop 64) (clearOUT (skip n e)) :=
  ⟨hs, rfl, rfl, h.inFlight.resolve_left (by simp [hs])⟩

end Endpoint

theorem applyEvents_interrupt {ρ : Type} (es : List Event) (d : Device ρ) :
    applyEvents interrupt es d = d.onEp (applyEvents Endpoint.interrupt es) := by
  induction es generalizing d with
  | nil => rfl
  | cons ev es ih => exact ih (interrupt ev d)

end DfuSeBootloader.Usb
