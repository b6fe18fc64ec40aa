import DfuSeBootloader.Usb.Lemmas.DataStage

/-!
# The data stage of an upload

The first packet is sent by the program, and each of the others by the interrupt handler when the
packet before it has been collected. A short packet ends the data stage.
-/

namespace DfuSeBootloader.Usb
open Program Memory

namespace Endpoint

/-- Nothing is left to send. -/
structure IdleIN (e : Endpoint) : Prop where
  count : e.DataInRemainCount = 0
  offset : e.DataInRemainOffset = 0
  short : e.shortpacket = false
  ready : e.isInReady = true

/-- A full packet has been sent, and the data `l` and the short packet are left. -/
structure Sending (l : List UInt8) (e : Endpoint) : Prop where
  count : e.DataInRemainCount = l.length
  short : e.shortpacket = true ↔ l = []
  buffer : slice e.usb_data_buffer e.DataInRemainOffset l.length = l

/-- The first packet of the data `l` has been sent, behind the packets `tx`. -/
def Started (tx : List (List UInt8)) (l : List UInt8) (e : Endpoint) : Prop :=
  if 64 ≤ l.length then Sending (l.drop 64) e ∧ e.tx = tx ++ [l.take 64]
  else IdleIN e ∧ e.tx = tx ++ [l]

variable {tx : List (List UInt8)} {l : List UInt8} {e : Endpoint} {ev : Event} {es : List Event}

/-! ## One packet -/

theorem started_write (hs : e.shortpacket = false)
    (hb : slice e.usb_data_buffer e.DataInRemainOffset l.length = l) :
    Started e.tx l (e.WriteControlEndpoint e.DataInRemainOffset l.length) := by
  unfold Started
  split
  · rename_i hle
    have hsplit : slice e.usb_data_buffer e.DataInRemainOffset 64 ++
        slice e.usb_data_buffer (e.DataInRemainOffset + 64) (l.length - 64) = l := by
      rw [← slice_add, Nat.add_sub_cancel' hle, hb]
    have hfirst : slice e.usb_data_buffer e.DataInRemainOffset 64 = l.take 64 := by
      rw [← hsplit, List.take_left' (length_slice _ _ _)]
    have hrest : slice e.usb_data_buffer (e.DataInRemainOffset + 64) (l.length - 64) = l.drop 64 := by
      rw [← hsplit, List.drop_left' (length_slice _ _ _), List.length_append, length_slice,
        length_slice, Nat.add_sub_cancel_left]
    simp only [WriteControlEndpoint, FIXED_CONTROL_ENDPOINT_SIZE, if_pos hle, hfirst, and_true]
    refine ⟨List.length_drop.symm, ?_, by rw [List.length_drop]; exact hrest⟩
    rw [hs, Bool.false_or, beq_iff_eq, List.drop_eq_nil_iff]
    exact ⟨fun h => h.le, fun h => Nat.le_antisymm h hle⟩
  · rename_i hlt
    simp only [WriteControlEndpoint, FIXED_CONTROL_ENDPOINT_SIZE, if_neg hlt, hb, and_true]
    exact ⟨rfl, rfl, hs, rfl⟩

theorem Sending.inISR (h : Sending l e) : Started e.tx l e.inISR := by
  rcases eq_or_ne l [] with rfl | hl
  · have hshort : e.shortpacket = true := h.short.mpr rfl
    have hcount : e.DataInRemainCount = 0 := h.count
    rw [Started, if_neg (by decide)]
    simp only [Endpoint.inISR, hcount, hshort, ne_eq, not_true_eq_false, if_false, if_true,
      WriteControlEndpoint, FIXED_CONTROL_ENDPOINT_SIZE, if_neg (show ¬ 64 ≤ 0 by decide)]
    exact ⟨⟨rfl, rfl, rfl, rfl⟩, rfl⟩
  · have hcount : e.DataInRemainCount ≠ 0 := by
      rw [h.count]
      exact List.length_eq_zero_iff.not.mpr hl
    have hisr : e.inISR =
        { e with isInReady := true }.WriteControlEndpoint e.DataInRemainOffset l.length := by
      rw [← h.count]
      simp only [Endpoint.inISR, ne_eq, hcount, not_false_eq_true, if_true]
    rw [hisr]
    exact started_write (e := { e with isInReady := true }) (l := l)
      (Bool.eq_false_iff.mpr (mt h.short.mp hl)) h.buffer

/-! ## Events -/

theorem IdleIN.interrupt (h : IdleIN e) (hev : ev.NoSetup) :
    IdleIN (interrupt ev e) ∧ (Endpoint.interrupt ev e).tx = e.tx := by
  obtain ⟨hc, ho, hs, hr⟩ := h
  cases ev with
  | setup t => exact hev.elim
  | out junk =>
      simp only [Endpoint.interrupt]
      split
      · exact ⟨⟨hc, ho, hs, hr⟩, rfl⟩
      · split <;> exact ⟨⟨hc, ho, hs, hr⟩, rfl⟩
  | zlp => simp only [Endpoint.interrupt]; split <;> exact ⟨⟨hc, ho, hs, hr⟩, rfl⟩
  | inComplete =>
      simp only [Endpoint.interrupt, inISR, hc, hs, ne_eq, not_true_eq_false, if_false,
        Bool.false_eq_true, and_true]
      exact ⟨rfl, ho, rfl, rfl⟩

theorem IdleIN.events (h : IdleIN e) (hes : ∀ ev ∈ es, ev.NoSetup) :
    IdleIN (applyEvents Endpoint.interrupt es e) ∧ (applyEvents Endpoint.interrupt es e).tx = e.tx :=
  applyEvents_induction (I := fun e' : Endpoint => IdleIN e' ∧ e'.tx = e.tx)
    (fun ev hev _ h' => (h'.1.interrupt (hes ev hev)).imp_right (·.trans h'.2)) ⟨h, rfl⟩

theorem Sending.zlp (h : Sending l e) :
    Sending l (Endpoint.interrupt .zlp e) ∧ (Endpoint.interrupt .zlp e).tx = e.tx := by
  obtain ⟨hc, hs, hb⟩ := h
  simp only [Endpoint.interrupt]
  split
  · exact ⟨⟨hc, hs, hb⟩, rfl⟩
  · refine ⟨⟨hc, hs, ?_⟩, rfl⟩
    simpa only [outISR, ReadControlEndpoint, storePacket, List.length_nil, Nat.zero_add,
      show 4 * (3 / 4) = 0 from rfl, fill_zero] using hb

/-- When the host has collected every full packet, all of the data has been sent. -/
theorem Started.events (h : Started tx l e) (hes : ∀ ev ∈ es, ev.Quiet)
    (hcol : l.length / 64 ≤ es.countP (· matches .inComplete)) :
    IdleIN (applyEvents Endpoint.interrupt es e) ∧
      (applyEvents Endpoint.interrupt es e).tx = tx ++ shortEnded 64 l := by
  induction es generalizing tx l e with
  | nil =>
      rw [List.countP_nil] at hcol
      rw [Started, if_neg (by omega)] at h
      rw [shortEnded_of_lt (by omega)]
      exact h
  | cons ev es ih =>
      have htail : ∀ ev ∈ es, ev.Quiet := fun ev' hev' => hes ev' (List.mem_cons_of_mem _ hev')
      rcases Nat.lt_or_ge l.length 64 with hlt | hle
      · rw [Started, if_neg (Nat.not_le.mpr hlt)] at h
        rw [shortEnded_of_lt hlt, ← h.2]
        exact h.1.events fun ev hev => (hes ev hev).noSetup
      rw [applyEvents_cons]
      cases ev with
      | setup t => exact (hes _ List.mem_cons_self).elim
      | out junk => exact (hes _ List.mem_cons_self).elim
      | zlp =>
          rw [Started, if_pos hle] at h
          obtain ⟨hsend, htx⟩ := h.1.zlp
          refine ih ?_ htail (by simpa using hcol)
          rw [Started, if_pos hle, htx]
          exact ⟨hsend, h.2⟩
      | inComplete =>
          rw [Started, if_pos hle] at h
          rw [List.countP_cons_of_pos (by rfl)] at hcol
          obtain ⟨hidle, htx⟩ := ih h.1.inISR htail (by rw [List.length_drop]; omega)
          refine ⟨hidle, htx.trans ?_⟩
          rw [h.2, shortEnded_of_le (by decide) hle, List.append_assoc, List.singleton_append]

end Endpoint

end DfuSeBootloader.Usb
