import DfuSeBootloader.Usb.Lemmas.DataStage

/-!
# The data stage under any interrupts

What the program can still be told of the data stage of a request, whatever the host sends: all of the
data that is left, or fewer packets than are left.
-/

namespace DfuSeBootloader.Usb.Endpoint
open Program Memory

variable {l : List UInt8} {e : Endpoint} {ev : Event}

/-! ## Packets that are still to come -/

/-- The packets on their way are the last ones of the data stage of `SetupPackage`. -/
def Supplied (e : Endpoint) : Prop := e.inFlight <:+ chunks 64 e.SetupPackage.data

/-- How many packets the program can still be told of before the next request. -/
def coming (e : Endpoint) : Nat :=
  (if e.SETUPReceived then 0 else e.inFlight.length) + e.isOutReceived.toNat

/-- Packets of `l` are missing for good. -/
def Short (l : List UInt8) (e : Endpoint) : Prop := e.coming < (chunks 64 l).length

/-- The data `l` can still arrive in full, where any is left. -/
def Whole (l : List UInt8) (e : Endpoint) : Prop := l = [] ∨ e.Waiting l ∨ e.Arrived l

/-- A packet before `l` has been read, and its flag is still set. -/
structure Due (l : List UInt8) (e : Endpoint) : Prop where
  index : e.usb_data_buffer_index = 0
  inFlight : e.SETUPReceived = true ∨ e.inFlight = chunks 64 l ∨
    e.inFlight.length < (chunks 64 l).length

/-- The first packet of `l` is in the buffer. -/
structure Held (l : List UInt8) (e : Endpoint) : Prop where
  ne_nil : l ≠ []
  out : e.isOutReceived = true
  full : e.rxFull = true
  buffer : ∀ i < min 64 l.length, e.usb_data_buffer i = padded 0 l i
  inFlight : e.SETUPReceived = true ∨ e.inFlight = chunks 64 (l.drop 64)

theorem Arrived.held (h : Arrived l e) : Held l e := ⟨h.ne_nil, h.out, h.full, h.buffer, h.inFlight⟩

theorem Due.rest (h : Due l e) (ho : e.isOutReceived = false) : Whole l e ∨ Short l e := by
  rcases eq_or_ne l [] with rfl | hl
  · exact .inl (.inl rfl)
  cases hs : e.SETUPReceived with
  | true =>
      right
      simp only [Short, coming, hs, if_true, ho, Bool.toNat_false]
      exact List.length_pos_iff.mpr (chunks_ne_nil (n := 64) (by decide) hl)
  | false =>
      rcases h.inFlight.resolve_left (by simp [hs]) with hf | hf
      · exact .inl (.inr (.inl ⟨hs, ho, h.index, hf⟩))
      · right
        simpa only [Short, coming, hs, Bool.false_eq_true, if_false, ho, Bool.toNat_false, Nat.add_zero]
          using hf

theorem not_short_nil : ¬ Short [] e := by
  simp [Short]

/-! ## Interrupts -/

theorem isOutReceived_setup (t : ControlTransfer) :
    (interrupt (.setup t) e).isOutReceived = e.isOutReceived := by
  simp [interrupt, setupISR, ReadControlEndpoint]

theorem isOutReceived_interrupt (h : e.isOutReceived = true) :
    (interrupt ev e).isOutReceived = true := by
  obtain ⟨t, rfl⟩ | ⟨r, s, c, o, t, heq⟩ | ⟨_, _, _, _, _, _, heq⟩ | ⟨_, _, heq⟩ :=
    interrupt_cases ev e
  · exact (isOutReceived_setup t).trans h
  · rwa [heq]
  · rw [heq]
    simp [outISR, ReadControlEndpoint, storePacket, h]
  · rw [heq]
    simp [outISR, ReadControlEndpoint, storePacket, h]

/-- Without a SETUP packet, the packets on their way become fewer by at most one. -/
theorem inFlight_interrupt (hev : ev.NoSetup) : (interrupt ev e).inFlight = e.inFlight ∨
    ∃ p ps, e.inFlight = p :: ps ∧ (interrupt ev e).inFlight = ps := by
  obtain ⟨t, rfl⟩ | ⟨r, s, c, o, t, heq⟩ | ⟨_, p, ps, _, _, hcons, heq⟩ | ⟨_, _, heq⟩ :=
    interrupt_cases ev e
  · exact hev.elim
  · left
    rw [heq]
  · right
    exact ⟨p, ps, hcons, by rw [heq]; rfl⟩
  · left
    rw [heq]
    rfl

theorem Supplied.interrupt (h : Supplied e) : Supplied (interrupt ev e) := by
  rcases ev.noSetup_or with hev | ⟨t, rfl⟩
  · unfold Supplied at h ⊢
    rw [(setup_interrupt hev).1]
    rcases inFlight_interrupt (e := e) hev with heq | ⟨p, ps, hf, heq⟩
    · rwa [heq]
    · rw [hf] at h
      rw [heq]
      exact (List.suffix_cons p ps).trans h
  · exact List.suffix_rfl

theorem coming_interrupt : (interrupt ev e).coming ≤ e.coming := by
  obtain ⟨t, rfl⟩ | ⟨r, s, c, o, t, heq⟩ | ⟨_, p, ps, _, _, hf, heq⟩ | ⟨_, _, heq⟩ :=
    interrupt_cases ev e
  · have hset : (Endpoint.interrupt (.setup t) e).SETUPReceived = true := rfl
    simp only [coming, isOutReceived_setup, hset, if_true]
    omega
  · rw [heq]
    exact le_refl _
  · rw [heq]
    cases hs : e.SETUPReceived with
    | true => simp [coming, outISR, ReadControlEndpoint, storePacket, hs]
    | false =>
        have hbit := Bool.toNat_le (e.isOutReceived || decide (0 < p.length))
        simp only [coming, outISR, ReadControlEndpoint, storePacket, hs, hf, List.length_cons,
          Bool.not_false, Bool.and_true, Bool.false_eq_true, if_false]
        omega
  · rw [heq]
    simp [coming, outISR, ReadControlEndpoint, storePacket]

theorem Short.interrupt (h : Short l e) : Short l (interrupt ev e) :=
  Nat.lt_of_le_of_lt coming_interrupt h

theorem Whole.interrupt (h : Whole l e) :
    Whole l (interrupt ev e) ∨ Short l (interrupt ev e) := by
  rcases h with rfl | hw | ha
  · exact .inl (.inl rfl)
  · rcases ev.noSetup_or with hev | ⟨t, rfl⟩
    · exact .inl (.inr ((hw.interrupt hev).imp_right And.left))
    -- the SETUP packet ends the data stage
    · have hdue : Due l (Endpoint.interrupt (.setup t) e) := ⟨hw.index, .inl rfl⟩
      exact hdue.rest ((isOutReceived_setup t).trans hw.out)
  · exact .inl (.inr (.inr ha.interrupt))

theorem Due.interrupt (h : Due l e) : Due l (interrupt ev e) := by
  refine ⟨(index_interrupt ev e).trans h.index, ?_⟩
  rcases ev.noSetup_or with hev | ⟨t, rfl⟩
  · rw [SETUPReceived_interrupt hev]
    refine h.inFlight.imp_right fun hf => ?_
    rcases inFlight_interrupt (e := e) hev with heq | ⟨p, ps, hcons, heq⟩
    · rwa [heq]
    · right
      rw [heq]
      rw [hcons] at hf
      rcases hf with hf | hf
      · rw [← hf, List.length_cons]
        omega
      · rw [List.length_cons] at hf
        omega
  · exact .inl rfl

theorem Held.interrupt (h : Held l e) : Held l (interrupt ev e) := by
  obtain ⟨hl, ho, hr, hb, hf⟩ := h
  obtain ⟨t, rfl⟩ | ⟨r, s, c, o, t, heq⟩ := interrupt_of_full ev hr
  · exact ⟨hl, (isOutReceived_setup t).trans ho, rfl, hb, .inl rfl⟩
  · rw [heq]
    exact ⟨hl, ho, hr, hb, hf⟩

/-! ## What the program does -/

theorem Held.due (h : Held l e) (hi : e.usb_data_buffer_index = 0) (full : Bool) :
    Due (l.drop 64) { e with rxFull := full } :=
  ⟨hi, h.inFlight.imp_right .inl⟩

theorem Short.rest (h : Short l e) (hl : l ≠ []) (ho : e.isOutReceived = true) :
    Short (l.drop 64) { e with isOutReceived := false } := by
  unfold Short coming at h ⊢
  rw [chunks_of_ne_nil (n := 64) (by decide) hl, List.length_cons, ho] at h
  simp only [Bool.toNat_true, Bool.toNat_false] at h ⊢
  omega

/-- A wait that brings a flag has brought the next packet, or one that cannot complete the data. -/
theorem Whole.arrived (h : Whole l e) (hl : l ≠ []) (ho : e.isOutReceived = true) : Arrived l e :=
  (h.resolve_left hl).resolve_left fun hw => by rw [hw.out] at ho; cases ho

end DfuSeBootloader.Usb.Endpoint
