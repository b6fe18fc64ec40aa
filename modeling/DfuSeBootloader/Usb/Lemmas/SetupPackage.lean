import DfuSeBootloader.Program.Frame
import DfuSeBootloader.Usb.Lemmas.DataStage

/-!
# The copy of the header

`Endpoint_GetSetupPackage` copies byte by byte. A SETUP packet inside the copy leaves a header that is
neither the old one nor the new one; without it, the copy is the header that was received.
-/

namespace DfuSeBootloader.Usb
open Program Codec

variable {ρ : Type} {t u : ControlTransfer} {i : Nat}

/-! ## Bytes of a header -/

namespace USB_Request_Header_t

variable {h h' : USB_Request_Header_t}

theorem byte_ofBytes (b : Nat → UInt8) : ∀ j < 8, (ofBytes b).byte j = b j
  | 0, _ => rfl
  | 1, _ => rfl
  | 2, _ => low_word ..
  | 3, _ => high_word ..
  | 4, _ => low_word ..
  | 5, _ => high_word ..
  | 6, _ => low_word ..
  | 7, _ => high_word ..
  | j + 8, hj => absurd hj (by omega)

theorem ofBytes_byte (h : USB_Request_Header_t) : ofBytes h.byte = h := by
  simp only [ofBytes, byte, word_low_high]

theorem eq_of_byte (heq : ∀ j < 8, h.byte j = h'.byte j) : h = h' := by
  rw [← ofBytes_byte h, ← ofBytes_byte h']
  simp only [ofBytes, heq 0 (by omega), heq 1 (by omega), heq 2 (by omega), heq 3 (by omega),
    heq 4 (by omega), heq 5 (by omega), heq 6 (by omega), heq 7 (by omega)]

end USB_Request_Header_t

/-- The first `i` bytes of `t` are those of `u`, and with the first of them the data. -/
structure ControlTransfer.Agrees (i : Nat) (t u : ControlTransfer) : Prop where
  byte : ∀ j < i, t.byte j = u.byte j
  data : 0 < i → t.data = u.data

namespace ControlTransfer

theorem agrees_zero (t u : ControlTransfer) : Agrees 0 t u :=
  ⟨fun j hj => absurd hj (by omega), fun h => absurd h (by omega)⟩

theorem Agrees.copyByte (h : Agrees i t u) (hi : i < 8) : Agrees (i + 1) (t.copyByte i u) u := by
  refine ⟨fun j hj => ?_, fun _ => rfl⟩
  rw [ControlTransfer.copyByte, USB_Request_Header_t.byte_ofBytes _ j (by omega)]
  rcases Nat.lt_succ_iff_lt_or_eq.mp hj with hlt | rfl
  · rw [Function.update_of_ne (by omega)]
    exact h.byte j hlt
  · rw [Function.update_self]

theorem Agrees.eq (h : Agrees 8 t u) : t = u := by
  obtain ⟨ht, data⟩ := t
  obtain ⟨hu, data'⟩ := u
  obtain rfl : data = data' := h.data (by omega)
  obtain rfl : ht = hu := USB_Request_Header_t.eq_of_byte h.byte
  rfl

end ControlTransfer

/-! ## The copy -/

theorem eval_memcpy {n : Nat} (hn : i + n = 8) (w : List (List Event)) {d : Device ρ}
    (h : ControlTransfer.Agrees i d.USB_ControlRequest d.ep.SetupPackage) :
    eval interrupt (memcpy n i) w d =
      .done () w { d with USB_ControlRequest := d.ep.SetupPackage } := by
  induction n generalizing i d with
  | zero =>
      obtain rfl : i = 8 := hn
      rw [← h.eq]
      rfl
  | succ n ih =>
      rw [memcpy, eval_bind, eval_modify, Result.bind_done]
      exact ih (by omega) (h.copyByte (by omega))

/-- With nothing in between, the header is the one that was received. -/
@[simp] theorem eval_Endpoint_GetSetupPackage (w : List (List Event)) (d : Device ρ) :
    eval interrupt Endpoint_GetSetupPackage w d =
      .done () w { d with USB_ControlRequest := d.ep.SetupPackage } :=
  eval_memcpy (by omega) w (ControlTransfer.agrees_zero ..)

/-- Of a view that does not see the request, the copy changes nothing. -/
theorem Endpoint_GetSetupPackage.keeps {τ : Type} {ok bad : Op → Prop} {v : Device ρ → τ}
    (hv : ∀ d t, v { d with USB_ControlRequest := t } = v d) (hok : ∀ i, ok (.memcpy i)) :
    (Endpoint_GetSetupPackage : Task ρ Unit).Keeps ok bad v := by
  have hloop (n : Nat) : ∀ i, (memcpy n i : Task ρ Unit).Keeps ok bad v := by
    induction n with
    | zero => exact fun _ => .pure _
    | succ n ih => exact fun i => .bind (by simp [hok, hv]) fun _ => ih (i + 1)
  exact hloop 8 0

section Copy

variable {C : Contract (Device ρ) Op} {J : Device ρ → Prop}

/-- What does not speak of the request survives the copy. -/
theorem Endpoint_GetSetupPackage.stays (hJ : ∀ i, C.Stable (.memcpy i) J)
    (ha : ∀ i d, J d → C.assert (.memcpy i) d)
    (hcopy : ∀ d t, J d → J { d with USB_ControlRequest := t }) :
    Triple C J Endpoint_GetSetupPackage (fun _ => J) := by
  have hkeeps : (Endpoint_GetSetupPackage : Task ρ Unit).Keeps (fun op => ∃ i, op = .memcpy i)
      (fun _ => False) J := by
    refine Endpoint_GetSetupPackage.keeps (fun d t => propext ⟨fun h => ?_, hcopy d t⟩) fun i => ⟨i, rfl⟩
    exact hcopy { d with USB_ControlRequest := t } d.USB_ControlRequest h
  refine hkeeps.triple (fun _ _ heq h => heq.mp h) ?_ ?_ (fun _ h => h.elim)
  · rintro op (⟨i, rfl⟩ | h)
    · exact hJ i
    · exact h.elim
  · rintro op d (⟨i, rfl⟩ | h) hd
    · exact ha i d hd
    · exact h.elim

/-- Where no SETUP packet comes inside the copy, the header is the one that was received. -/
theorem Endpoint_GetSetupPackage.copies (hJ : ∀ i, C.Stable (.memcpy i) J)
    (ha : ∀ i d, J d → C.assert (.memcpy i) d)
    (hcopy : ∀ d t, J d → J { d with USB_ControlRequest := t })
    (hrely : ∀ i d d', 0 < i → C.rely (.memcpy i) d d' →
      ∃ ev : Event, ev.NoSetup ∧ d' = interrupt ev d) :
    Triple C J Endpoint_GetSetupPackage
      (fun _ d => J d ∧ d.USB_ControlRequest = d.ep.SetupPackage) := by
  have hstable (i : Nat) : C.Stable (.memcpy i) fun d =>
      J d ∧ ControlTransfer.Agrees i d.USB_ControlRequest d.ep.SetupPackage := by
    rintro d d' ⟨hd, hagree⟩ hr
    refine ⟨hJ i d d' hd hr, ?_⟩
    rcases Nat.eq_zero_or_pos i with rfl | hi
    · exact ControlTransfer.agrees_zero ..
    · obtain ⟨ev, hev, rfl⟩ := hrely i d d' hi hr
      have hpackage := (Endpoint.setup_interrupt (e := d.ep) hev).1
      exact hpackage.symm ▸ hagree
  have hloop (n : Nat) : ∀ i, i + n = 8 → Triple C
      (fun d => J d ∧ ControlTransfer.Agrees i d.USB_ControlRequest d.ep.SetupPackage) (memcpy n i)
      (fun _ d => J d ∧ d.USB_ControlRequest = d.ep.SetupPackage) := by
    induction n with
    | zero =>
        rintro i rfl
        exact Triple.pure fun d h => ⟨h.1, h.2.eq⟩
    | succ n ih =>
        intro i hi
        exact Triple.bind (Triple.modify (hstable i) (fun d h => ha i d h.1) fun d h _ =>
          ⟨hcopy d _ h.1, h.2.copyByte (by omega)⟩) fun _ => ih (i + 1) (by omega)
  exact (hloop 8 0 rfl).conseq (fun d h => ⟨h, ControlTransfer.agrees_zero ..⟩) fun _ _ h => h

end Copy

end DfuSeBootloader.Usb
