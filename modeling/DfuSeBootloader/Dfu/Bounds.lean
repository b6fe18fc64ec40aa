import DfuSeBootloader.Dfu.Lemmas.Handler
import DfuSeBootloader.Dfu.Lemmas.Keeps
import DfuSeBootloader.Iap.Reference

/-!
# Buffer bounds

The host chooses `wLength`. The copy loops of the handler stay inside the two buffers exactly when
the length fits.
-/

namespace DfuSeBootloader.Dfu
open Program Memory Iap Usb
open EVENT_USB_Device_ControlRequest

variable {ρ : Type} {P : Platform ρ} {t : ControlTransfer} {k : Nat}

/-- One interrupt. -/
def Interrupts (d d' : Device ρ) : Prop := ∃ ev, d' = interrupt ev d

/-- The lengths that the buffers have room for. -/
def BufferFits (h : USB_Request_Header_t) : Prop :=
  (DFU_REQ.ofCode h.bRequest = some .DNLOAD → h.wValue.toNat ≠ 1 → h.wLength.toNat ≤ 512) ∧
    (DFU_REQ.ofCode h.bRequest = some .UPLOAD → h.wLength.toNat ≤ 512)

instance (h : USB_Request_Header_t) : Decidable (BufferFits h) := inferInstanceAs (Decidable (_ ∧ _))

/-- The device when `USB_Device_ProcessControlRequest` calls the handler for `t`. -/
def called (t : ControlTransfer) (d : Device ρ) : Device ρ :=
  { interrupt (.setup t) d with USB_ControlRequest := t }

/-! ## Lengths that fit -/

/-- Interrupts come at any time, and every operation must have a defined behaviour. -/
def bounds : Contract (Device ρ) Op where
  rely _ := Interrupts
  assume _ _ := True
  assert _ _ := True
  undefined _ := False

/-- The request at work and the next cell of the endpoint's buffer. No interrupt changes them. -/
def At (t : ControlTransfer) (k : Nat) (d : Device ρ) : Prop :=
  d.USB_ControlRequest = t ∧ d.ep.usb_data_buffer_index = k

theorem At.stable {op : Op} : (bounds (ρ := ρ)).Stable op (At t k) := by
  rintro d _ ⟨ht, hk⟩ ⟨ev, rfl⟩
  exact ⟨ht, (index_events [ev] d.ep).trans hk⟩

theorem request_stable {op : Op} :
    (bounds (ρ := ρ)).Stable op (fun d => d.USB_ControlRequest = t) := by
  rintro d _ ht ⟨ev, rfl⟩
  exact ht

/-- A part of the handler that stores nothing behind a buffer. -/
theorem triple_of_keeps {α : Type} {p : Task ρ α}
    (h : p.Keeps (fun _ => True) (fun _ => False) (fun d => d.USB_ControlRequest)) :
    Triple bounds (fun d => d.USB_ControlRequest = t) p (fun _ d => d.USB_ControlRequest = t) :=
  h.triple (fun _ _ h ht => h ▸ ht) (fun _ _ => request_stable) (fun _ _ _ _ => trivial) (fun _ h => h)

theorem triple_rest {α : Type} {p : Task ρ α}
    (h : p.Keeps (fun _ => True) (fun _ => False) (fun d => d.USB_ControlRequest)) :
    Triple bounds (At t k) p (fun _ d => d.USB_ControlRequest = t) :=
  (triple_of_keeps h).conseq (fun _ hd => hd.1) (fun _ _ hd => hd)

theorem At.get {α : Type} {op : Op} {v : Device ρ → α} :
    Triple bounds (At t k) (Prog.get op v) (fun _ => At t k) :=
  Triple.get At.stable (fun _ _ => trivial) (fun _ h _ => h)

theorem Endpoint_Write_8.at {b : UInt8} (hk : k < 512) :
    Triple bounds (At (ρ := ρ) t k) (Endpoint_Write_8 b) (fun _ => At t (k + 1)) := by
  refine Triple.bind (R := fun i d => At t k d ∧ i = k)
    (Triple.get At.stable (fun _ _ => trivial) (fun d h _ => ⟨h, h.2⟩)) (fun i => ?_)
  intro d ⟨hd, hi⟩
  subst hi
  refine Triple.bind (P := At t i) (R := fun _ => At t i) ?_ (fun _ => ?_) d hd
  · rw [store_usb_data_buffer, if_pos (show i < USB_DATA_BUFFER_TEM_LENGTH from hk)]
    exact Triple.modify At.stable (fun _ _ => trivial) (fun d h _ => h)
  · exact Triple.modify At.stable (fun _ _ => trivial)
      (fun d h _ => ⟨h.1, congrArg (· + 1) h.2⟩)

theorem writeStreamLoop.at {Buffer : Device ρ → Nat → UInt8} {n i : Nat} (hk : k + n ≤ 512) :
    Triple bounds (At t k) (writeStreamLoop Buffer n i) (fun _ => At t (k + n)) := by
  induction n generalizing k i with
  | zero => exact Triple.pure (fun _ h => h)
  | succ n ih =>
      refine Triple.bind At.get (fun _ => Triple.bind (Endpoint_Write_8.at (by omega)) (fun _ => ?_))
      rw [show k + (n + 1) = k + 1 + n by omega]
      exact ih (by omega)

theorem upload.at {size : Nat} (hsize : size ≤ 512) :
    Triple bounds (At t 0) (upload P size) (fun _ d => d.USB_ControlRequest = t) := by
  have hv := requestView (ρ := ρ)
  refine Triple.bind (R := fun _ => At t 0) (Triple.poll At.stable (fun _ _ => trivial)
     (fun _ h _ => h) (fun _ h _ _ => h)) (fun ready => ?_)
  cases ready with
  | false => exact Triple.pure (fun _ h => h.1)
  | true =>
      refine Triple.bind At.get (fun _ => Triple.bind
        (Triple.bind (writeStreamLoop.at (by omega))
          (fun _ => Triple.pure (fun _ h => h)))
        (fun _ => triple_rest ?_))
      exact .bind (by simp) fun _ => .bind (setState.keeps hv.variables anyOps _) fun _ =>
        .bind (setStatus.keeps hv.variables anyOps _) fun _ =>
        .bind (Endpoint_ClearIN.keeps hv.toDriverView.endpoint anyOps) fun _ =>
          Endpoint_ClearStatusStage.keeps hv.toDriverView anyOps

theorem getStatus.at :
    Triple bounds (At (ρ := ρ) t 0) getStatus (fun _ d => d.USB_ControlRequest = t) := by
  have hv := requestView (ρ := ρ)
  have byte {k : Nat} (hk : k < 512) (b : UInt8) := Endpoint_Write_8.at (ρ := ρ) (t := t) (b := b) hk
  refine Triple.bind At.get (fun _ => Triple.bind (byte (by decide) _) (fun _ =>
    Triple.bind (byte (by decide) _) (fun _ => Triple.bind
      (Triple.bind (byte (by decide) _) (fun _ => byte (by decide) _)) (fun _ =>
    Triple.bind At.get (fun _ => Triple.bind (byte (by decide) _) (fun _ =>
    Triple.bind (byte (by decide) _) (fun _ => triple_rest ?_)))))))
  exact .bind (Endpoint_ClearIN.keeps hv.toDriverView.endpoint anyOps) fun _ =>
    .bind (Endpoint_ClearStatusStage.keeps hv.toDriverView anyOps) fun _ =>
    .bind (by simp) fun _ => .ite (fun _ => setState.keeps hv.variables anyOps _) (fun _ => .pure _)

theorem getState.at :
    Triple bounds (At (ρ := ρ) t 0) getState (fun _ d => d.USB_ControlRequest = t) := by
  have hv := requestView (ρ := ρ)
  refine Triple.bind At.get (fun _ => Triple.bind (Endpoint_Write_8.at (by decide)) (fun _ =>
    triple_rest ?_))
  exact .bind (Endpoint_ClearIN.keeps hv.toDriverView.endpoint anyOps) fun _ =>
    Endpoint_ClearStatusStage.keeps hv.toDriverView anyOps

theorem dnload.at {wValue size : Nat} (h : wValue ≠ 1 → size ≤ 512) :
    Triple bounds (At t 0) (dnload P wValue size) (fun _ d => d.USB_ControlRequest = t) :=
  triple_rest (dnload.keeps requestView anyOps P trivial (fun _ => trivial)
    (fun hne j hj hlt => by have := h hne; omega))

theorem switch.at {wValue size : Nat} {q : Option DFU_REQ}
    (hd : q = some .DNLOAD → wValue ≠ 1 → size ≤ 512) (hu : q = some .UPLOAD → size ≤ 512) :
    Triple bounds (At t 0) (switch P wValue size q) (fun _ d => d.USB_ControlRequest = t) := by
  have hv := requestView (ρ := ρ)
  cases q with
  | none => exact Triple.pure (fun _ h => h.1)
  | some q =>
      cases q with
      | DNLOAD => exact dnload.at (hd rfl)
      | UPLOAD => exact upload.at (hu rfl)
      | GETSTATUS => exact getStatus.at
      | GETSTATE => exact getState.at
      | CLRSTATUS => exact triple_rest (clrStatus.keeps hv anyOps)
      | ABORT => exact triple_rest (abort.keeps hv anyOps)
      | DETATCH => exact triple_rest (detach.keeps hv anyOps)

theorem Endpoint_ClearSETUP.at {c : Caller} :
    Triple bounds (fun d : Device ρ => d.USB_ControlRequest = t) (Endpoint_ClearSETUP c)
      (fun _ => At t 0) :=
  Triple.bind (R := fun _ d => d.USB_ControlRequest = t)
    (Triple.modify request_stable (fun _ _ => trivial) (fun _ h _ => h)) fun _ =>
  Triple.bind (R := fun _ => At t 0)
    (Triple.modify request_stable (fun _ _ => trivial) (fun _ h _ => ⟨h, rfl⟩)) fun _ =>
  Triple.bind (R := fun _ => At t 0)
    (Triple.modify At.stable (fun _ _ => trivial) (fun _ h _ => h)) fun _ =>
  Triple.modify At.stable (fun _ _ => trivial) (fun _ h _ => h)

theorem triple_header {α β : Type} {f : USB_Request_Header_t → α} {g : α → Task ρ β}
    {Q : β → Device ρ → Prop}
    (h : Triple bounds (fun d => d.USB_ControlRequest = t) (g (f t.toUSB_Request_Header_t)) Q) :
    Triple bounds (fun d => d.USB_ControlRequest = t)
      (Prog.get .access (fun d => f d.USB_ControlRequest.toUSB_Request_Header_t) >>= g) Q :=
  Triple.get_bind request_stable (fun _ _ => trivial) (fun _ ht => by rw [ht]) h

theorem EVENT_USB_Device_ControlRequest.at
    (h : t.isClassInterface = true → BufferFits t.toUSB_Request_Header_t) :
    Triple bounds (fun d => d.USB_ControlRequest = t) (EVENT_USB_Device_ControlRequest P)
      (fun _ d => d.USB_ControlRequest = t) := by
  refine Triple.bind (R := fun _ d => d.USB_ControlRequest = t) (Triple.exec request_stable
    (fun _ _ => trivial) (fun _ h _ => h)) (fun received => ?_)
  cases received with
  | false => exact Triple.pure (fun _ h => h)
  | true =>
      refine triple_header (f := (·.isClassInterface)) ?_
      cases hc : t.isClassInterface with
      | false => exact Triple.pure (fun _ h => h)
      | true =>
          refine triple_header (f := (·.wValue.toNat)) (triple_header (f := (·.wLength.toNat)) ?_)
          exact Triple.bind Endpoint_ClearSETUP.at fun _ => Triple.get_bind At.stable
            (fun _ _ => trivial) (fun _ ht => by rw [ht.1]) (switch.at (h hc).1 (h hc).2)

/-! ## Lengths that do not fit -/

variable {d : Device ρ} {l : List UInt8}

theorem inISR_ready {e : Endpoint} (h : e.inISR.isInReady = false) :
    64 ≤ e.DataInRemainCount ∧ e.inISR.DataInRemainCount = e.DataInRemainCount - 64 := by
  by_cases hc : e.DataInRemainCount = 0
  · simp only [Endpoint.inISR, hc, ne_eq, not_true_eq_false, if_false] at h
    split at h <;> simp [Endpoint.WriteControlEndpoint] at h
  · rcases Nat.lt_or_ge e.DataInRemainCount 64 with hlt | hle
    · simp [Endpoint.inISR, hc, Endpoint.WriteControlEndpoint, Nat.not_le.mpr hlt] at h
    · exact ⟨hle, by simp [Endpoint.inISR, hc, Endpoint.WriteControlEndpoint, hle]⟩

/-- A host that goes on collecting packets makes the IN side ready. -/
theorem exists_ready (e : Endpoint) : ∃ es : List Event, (∀ ev ∈ es, ev.NoSetup) ∧
    (applyEvents Endpoint.interrupt es e).isInReady = true := by
  induction hn : e.DataInRemainCount using Nat.strong_induction_on generalizing e with
  | _ n ih =>
      cases hr : e.inISR.isInReady with
      | true => exact ⟨[.inComplete], by simp [Event.NoSetup], hr⟩
      | false =>
          obtain ⟨hle, hsub⟩ := inISR_ready hr
          obtain ⟨es, hquiet, hes⟩ := ih _ (by omega) e.inISR rfl
          exact ⟨.inComplete :: es, List.forall_mem_cons.mpr ⟨trivial, hquiet⟩, hes⟩

/-- Every wait brings the next packet. -/
def packets (n : Nat) : List (List Event) := List.replicate n [.out (fun _ => 0)]

theorem undisturbed_packets (n : Nat) : Undisturbed (packets n) := by
  intro es hes ev hev
  rw [List.eq_of_mem_replicate hes, List.mem_singleton] at hev
  rw [hev]
  trivial

theorem arrived_packets {n : Nat} (hs : d.ep.SETUPReceived = false)
    (hi : d.ep.usb_data_buffer_index = 0) (hf : d.ep.inFlight = chunks 64 l) (hl : l ≠ [])
    (hr : d.ep.rxFull = false) :
    (afterWait (packets (n + 1)) d).ep.Arrived l ∧
      (afterWait (packets (n + 1)) d).ep.SETUPReceived = false :=
  Endpoint.arrived_out hs hi hf hl hr _

theorem eval_readBlock_fault {fuel off : Nat} (hfuel : l.length ≤ fuel)
    (hoff : off ≤ 512) (hlong : 512 < off + l.length) (hs : d.ep.SETUPReceived = false)
    (hi : d.ep.usb_data_buffer_index = 0) (hf : d.ep.inFlight = chunks 64 l)
    (hr : d.ep.rxFull = false) :
    eval interrupt (readBlock fuel l.length off) (packets fuel) d =
      .fault (.store_firmware_data 512) := by
  induction fuel generalizing l off d with
  | zero => omega
  | succ fuel ih =>
      have hl : l ≠ [] := List.length_pos_iff.mp (by omega)
      have hread := toread_eq l.length
      have hdrop := length_drop_toread l
      obtain ⟨ha, hset⟩ := arrived_packets (n := fuel) hs hi hf hl hr
      rcases Nat.lt_or_ge 512 (off + toread l.length) with h | h
      · exact eval_readBlock_turn_fault hl ha hoff h
      · have hnext := ha.release hset (toread l.length)
        rw [eval_readBlock_turn hl ha h]
        exact ih (by omega) h (by omega) hnext.setup hnext.index hnext.inFlight rfl

theorem eval_command_fault (hlong : 512 < l.length) (hs : d.ep.SETUPReceived = false)
    (hi : d.ep.usb_data_buffer_index = 0) (hf : d.ep.inFlight = chunks 64 l)
    (hr : d.ep.rxFull = false) :
    eval interrupt (command P l.length) (packets l.length) d = .fault (.store_firmware_data 512) := by
  have hl : l ≠ [] := List.length_pos_iff.mp (by omega)
  obtain ⟨n, hn⟩ := Nat.exists_eq_succ_of_ne_zero (show l.length ≠ 0 by omega)
  obtain ⟨ha, -⟩ := arrived_packets (n := n) hs hi hf hl hr
  have hcode := Device.readyCode_eq_noError.mpr ha.out
  rw [show packets l.length = packets (n + 1) from congrArg packets hn, command, eval_bind, eval_wait,
    Result.bind_done, hcode, if_neg (by simp), eval_bind,
    eval_Endpoint_Read_Stream_LE_fault ha.size (by decide) (by omega), Result.bind_fault]

theorem eval_dnload_fault {wValue : Nat} (hv : wValue ≠ 1) (hlong : 512 < l.length)
    (hs : d.ep.SETUPReceived = false) (hi : d.ep.usb_data_buffer_index = 0)
    (hf : d.ep.inFlight = chunks 64 l) (hr : d.ep.rxFull = false) :
    eval interrupt (dnload P wValue l.length) (packets l.length) d =
      .fault (.store_firmware_data 512) := by
  rcases Nat.eq_zero_or_pos wValue with rfl | hpos
  · rw [eval_dnload_command, eval_command_fault hlong hs hi hf hr, Result.bind_fault]
  · have hstate : ¬ EndsDownload l.length d := fun h => by have := h.2; omega
    rw [eval_dnload_block (by omega), eval_block hstate,
      eval_readBlock_fault (d := zeroed d) (Nat.le_refl _) (by decide) (by omega) hs hi hf hr,
      Result.bind_fault, Result.bind_fault]

/-- For a length that does not fit there is a host that makes the handler store behind a buffer. -/
theorem exists_fault {h : USB_Request_Header_t} (hacc : h.isClassInterface = true)
    (hfit : ¬ BufferFits h) (d : Device ρ) :
    ∃ (data : List UInt8) (w : List (List Event)) (op : Op), Undisturbed w ∧
      eval interrupt (EVENT_USB_Device_ControlRequest P) w (called ⟨h, data⟩ d) = .fault op := by
  simp only [BufferFits, not_and_or, Classical.not_imp, Nat.not_le] at hfit
  rcases hfit with ⟨hq, hv, hlong⟩ | ⟨hq, hlong⟩
  · refine ⟨List.replicate h.wLength.toNat 0, packets h.wLength.toNat, .store_firmware_data 512,
      undisturbed_packets _, ?_⟩
    rw [eval_EVENT_accepted rfl hacc]
    simp only [called, dfuRequest, hacc, if_true, hq, switch]
    have hlen := List.length_replicate (n := h.wLength.toNat) (a := (0 : UInt8))
    have hfault := eval_dnload_fault (P := P) (l := List.replicate h.wLength.toNat 0)
      (d := accept (called ⟨h, List.replicate h.wLength.toNat 0⟩ d)) hv (by omega) rfl rfl rfl rfl
    rwa [hlen] at hfault
  · obtain ⟨es, hquiet, hes⟩ := exists_ready (accept (called ⟨h, []⟩ d)).ep
    refine ⟨[], [es], .store_usb_data_buffer 512, by simpa [Undisturbed] using hquiet, ?_⟩
    rw [eval_EVENT_accepted rfl hacc]
    simp only [called, dfuRequest, hacc, if_true, hq, switch]
    exact eval_upload_fault (w := [es]) (d := accept (called ⟨h, []⟩ d)) rfl hlong hes

/-! ## The bound -/

/-- A request that the handler accepts is safe, whatever the host sends and whenever the interrupts
come, exactly when its length fits. -/
theorem stores_in_bounds_iff (P : Platform ρ) (h : USB_Request_Header_t)
    (hacc : h.isClassInterface = true) (d : Device ρ) :
    (∀ data op d', ¬ Prog.Steps Interrupts (fun _ _ => True)
        (EVENT_USB_Device_ControlRequest P, called ⟨h, data⟩ d) (.fault op, d')) ↔
      BufferFits h := by
  constructor
  · intro hsafe
    by_contra hfit
    obtain ⟨data, w, op, -, hop⟩ := exists_fault (P := P) hacc hfit d
    have hev : ∀ es ∈ w, ∀ ev ∈ es, ∀ d : Device ρ,
        Relation.ReflTransGen Interrupts d (interrupt ev d) := fun _ _ ev _ _ => .single ⟨ev, rfl⟩
    obtain ⟨d', hd'⟩ := (eval_follows _ w hev (called ⟨h, data⟩ d)).2 op hop
    exact hsafe data op d' hd'
  · intro hfit data op d' hsteps
    exact (EVENT_USB_Device_ControlRequest.at (P := P) (t := ⟨h, data⟩)
      (fun _ => hfit)).undefined_of_steps (fun _ _ _ h => h) rfl hsteps

/-- An UPLOAD of 512 bytes is safe. -/
theorem upload_512_in_bounds : BufferFits ⟨0xA1, 2, 2, 0, 512⟩ ∧
    ∀ data op d', ¬ Prog.Steps Interrupts (fun _ _ => True)
      (EVENT_USB_Device_ControlRequest reference,
        called ⟨⟨0xA1, 2, 2, 0, 512⟩, data⟩ (Device.start Rom.blank)) (.fault op, d') :=
  ⟨by decide, (stores_in_bounds_iff reference ⟨0xA1, 2, 2, 0, 512⟩ (by decide)
    (Device.start Rom.blank)).mpr (by decide)⟩

/-- A block of 513 bytes makes the handler store behind `firmware_data`. -/
theorem dnload_513_out_of_bounds :
    USB_Request_Header_t.isClassInterface ⟨0x21, 1, 2, 0, 513⟩ = true ∧
      ∃ d', Prog.Steps Interrupts (fun _ _ => True)
        (EVENT_USB_Device_ControlRequest reference,
          called ⟨⟨0x21, 1, 2, 0, 513⟩, List.replicate 513 0⟩ (Device.start Rom.blank))
        (.fault (.store_firmware_data 512), d') := by
  refine ⟨by decide, (eval_follows _ (packets 513) (fun _ _ ev _ _ => .single ⟨ev, rfl⟩) _).2 _ ?_⟩
  have hlen : (List.replicate 513 (0 : UInt8)).length = 513 := List.length_replicate
  generalize List.replicate 513 (0 : UInt8) = l at hlen
  have hfault := eval_dnload_fault (P := reference) (l := l)
    (d := accept (called ⟨⟨0x21, 1, 2, 0, 513⟩, l⟩ (Device.start Rom.blank)))
    (show 2 ≠ 1 by decide) (by omega) rfl rfl rfl rfl
  rw [hlen] at hfault
  have hc : USB_Request_Header_t.isClassInterface ⟨0x21, 1, 2, 0, 513⟩ = true := by decide
  have hq : dfuRequest ⟨0x21, 1, 2, 0, 513⟩ = some .DNLOAD := by decide
  rw [eval_EVENT_accepted rfl hc]
  change eval interrupt (switch reference 2 513 (dfuRequest ⟨0x21, 1, 2, 0, 513⟩)) _ _ = _
  rw [hq]
  exact hfault

end DfuSeBootloader.Dfu
