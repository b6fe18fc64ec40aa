import DfuSeBootloader.Dfu.Lemmas.Exchange
import DfuSeBootloader.Usb.Lemmas.DataIn
import DfuSeBootloader.Usb.Standard

/-!
# The standard requests without interruption

One lemma for each request of the library: the answer and the variables that it leaves.
-/

namespace DfuSeBootloader.Usb
open Program Memory Iap Dfu

variable {ρ : Type} {P : Platform ρ} {w : List (List Event)} {d d' : Device ρ} {e e' : Endpoint}
  {l : List UInt8}

/-! ## The endpoint -/

namespace Endpoint

/-- A request waits, and nothing is left of the request before it. -/
structure Asked (e : Endpoint) : Prop where
  setup : e.SETUPReceived = true
  out : e.isOutReceived = false
  stalled : e.stalled = false
  idleIN : e.IdleIN

/-- The request that waited has been answered with the data `l`. -/
structure Answered (e : Endpoint) (l : List UInt8) (e' : Endpoint) : Prop where
  setup : e'.SETUPReceived = false
  out : e'.isOutReceived = false
  stalled : e'.stalled = false
  started : e'.Started e.tx l

theorem Started.of_eq {tx : List (List UInt8)} (h : Started tx l e)
    (hcount : e'.DataInRemainCount = e.DataInRemainCount)
    (hoffset : e'.DataInRemainOffset = e.DataInRemainOffset)
    (hshort : e'.shortpacket = e.shortpacket) (hready : e'.isInReady = e.isInReady)
    (hbuffer : e'.usb_data_buffer = e.usb_data_buffer) (htx : e'.tx = e.tx) : Started tx l e' := by
  unfold Started at h ⊢
  split at h
  · rename_i hle
    obtain ⟨⟨hc, hs, hb⟩, ht⟩ := h
    rw [if_pos hle]
    exact ⟨⟨hcount.trans hc, by rw [hshort]; exact hs, by rw [hbuffer, hoffset]; exact hb⟩, htx.trans ht⟩
  · rename_i hlt
    obtain ⟨⟨hc, ho, hs, hr⟩, ht⟩ := h
    rw [if_neg hlt]
    exact ⟨⟨hcount.trans hc, hoffset.trans ho, hshort.trans hs, hready.trans hr⟩, htx.trans ht⟩

/-- The packet that `Endpoint_ClearIN` gives to the controller begins the data stage. -/
theorem started_clearIN (h : e.IdleIN) (hi : e.usb_data_buffer_index = l.length)
    (hb : slice e.usb_data_buffer 0 l.length = l) : e.clearIN.Started e.tx l := by
  have hwrite := started_write (e := e) (l := l) h.short (by rw [h.offset]; exact hb)
  rw [h.offset, ← hi] at hwrite
  exact hwrite.of_eq rfl rfl rfl rfl rfl rfl

theorem stalled_WriteControlEndpoint (a n : Nat) (e : Endpoint) :
    (e.WriteControlEndpoint a n).stalled = e.stalled := by
  obtain ⟨r, s, c, o, t, h⟩ := e.WriteControlEndpoint_eq a n
  rw [h]

theorem Asked.status (h : e.Asked) : e.Answered [] e.clearSETUP.clearIN where
  setup := by rw [SETUPReceived_clearIN]; rfl
  out := by rw [isOutReceived_clearIN]; exact h.out
  stalled := (stalled_WriteControlEndpoint _ _ _).trans h.stalled
  started := started_clearIN (e := e.clearSETUP) (l := [])
    ⟨h.idleIN.count, h.idleIN.offset, h.idleIN.short, h.idleIN.ready⟩ rfl rfl

theorem Asked.data (h : e.Asked) :
    e.Answered l (e.clearSETUP.append l.length (padded 0 l)).clearIN.clearOUT where
  setup := by
    rw [clearOUT, SETUPReceived_clearIN]
    rfl
  out := rfl
  stalled := (stalled_WriteControlEndpoint _ _ _).trans h.stalled
  started := by
    refine Started.of_eq (started_clearIN (e := e.clearSETUP.append l.length (padded 0 l)) ?_ ?_ ?_)
      rfl rfl rfl rfl rfl rfl
    · exact ⟨h.idleIN.count, h.idleIN.offset, h.idleIN.short, h.idleIN.ready⟩
    · exact Nat.zero_add _
    · exact (slice_fill _ _ _ _).trans (slice_padded 0 l)

theorem stalled_interrupt {ev : Event} (hev : ev.NoSetup) :
    (interrupt ev e).stalled = e.stalled := by
  cases ev with
  | setup t => exact hev.elim
  | out junk =>
      simp only [interrupt]
      split
      · rfl
      · split <;> rfl
  | zlp => simp only [interrupt]; split <;> rfl
  | inComplete =>
      obtain ⟨r, s, c, o, t, h⟩ := e.inISR_eq
      rw [interrupt, h]

/-- Interrupts without a packet of the host change nothing outside the IN side. -/
theorem Answered.events {es : List Event} (h : e.Answered l e') (hes : ∀ ev ∈ es, ev.Quiet) :
    (applyEvents interrupt es e').SETUPReceived = false ∧
      (applyEvents interrupt es e').isOutReceived = false ∧
      (applyEvents interrupt es e').stalled = false :=
  applyEvents_induction (I := fun e : Endpoint =>
      e.SETUPReceived = false ∧ e.isOutReceived = false ∧ e.stalled = false)
    (fun ev hev _ ⟨hs, ho, ht⟩ =>
      ⟨(SETUPReceived_interrupt (hes ev hev).noSetup).trans hs,
        (Quiet.interrupt (hes ev hev)).trans ho, (stalled_interrupt (hes ev hev).noSetup).trans ht⟩)
    ⟨h.setup, h.out, h.stalled⟩

theorem Answered.of_short {es : List Event} (h : e.Answered l e') (hl : l.length < 64)
    (hes : ∀ ev ∈ es, ev.Quiet) : e.Answered l (applyEvents interrupt es e') := by
  obtain ⟨hset, hout, hstalled⟩ := h.events hes
  have hstart := h.started
  rw [Started, if_neg (Nat.not_le.mpr hl)] at hstart
  obtain ⟨hidle, htx⟩ := hstart.1.events fun ev hev => (hes ev hev).noSetup
  refine ⟨hset, hout, hstalled, ?_⟩
  rw [Started, if_neg (Nat.not_le.mpr hl)]
  exact ⟨hidle, htx.trans hstart.2⟩

end Endpoint

/-! ## The device -/

/-- The library is left in a state, and the request that waited has its answer. Where the answer is a
STALL, the request still waits. -/
def Outcome (d : Device ρ) (r : Reply × Library) (d' : Device ρ) : Prop :=
  library d' = r.2 ∧
    match r.1 with
    | none => d'.ep = d.ep
    | some l => d.ep.Answered l d'.ep

theorem ep_finish (d : Device ρ) : (finish d).ep =
    if d.USB_ControlRequest.isDeviceToHost then d.ep.clearOUT else d.ep.clearIN := by
  unfold finish Device.clearStatusStage
  split <;> rfl

/-- The device that has sent the data `l` and taken the status stage. -/
theorem outcome_reply (h : d.ep.Asked) (hin : d.USB_ControlRequest.isDeviceToHost = true) :
    Outcome d (some l, library d) (finish (Dfu.reply l (d.onEp Endpoint.clearSETUP))) := by
  refine ⟨rfl, ?_⟩
  have hep : (finish (Dfu.reply l (d.onEp Endpoint.clearSETUP))).ep =
      (d.ep.clearSETUP.append l.length (padded 0 l)).clearIN.clearOUT := by
    rw [ep_finish]
    exact if_pos hin
  exact hep ▸ h.data

/-- The device that has taken the status stage of a request without data. -/
theorem outcome_status {s : Library} (h : d.ep.Asked) (hout : d.USB_ControlRequest.isDeviceToHost = false)
    (hep : d'.ep = d.ep) (hreq : d'.USB_ControlRequest = d.USB_ControlRequest) (hs : library d' = s) :
    Outcome d (some [], s) (finish (d'.onEp Endpoint.clearSETUP)) := by
  refine ⟨hs, ?_⟩
  have hfinish : (finish (d'.onEp Endpoint.clearSETUP)).ep = d.ep.clearSETUP.clearIN := by
    rw [ep_finish, Device.onEp, hreq, hout, hep]
    rfl
  exact hfinish ▸ h.status

/-! ## The requests -/

theorem low_toUInt16 (c : UInt8) : (c.toUInt16 &&& 0xFF).toUInt8 = c := by
  apply UInt8.toNat_inj.mp
  have hmask : c.toNat &&& 255 = c.toNat % 2 ^ 8 := Nat.and_two_pow_sub_one_eq_mod _ 8
  have hc := c.toNat_lt
  simp only [UInt16.toNat_toUInt8, UInt16.toNat_and, UInt8.toNat_toUInt16, UInt16.reduceToNat, hmask]
  omega

theorem high_toUInt16 (c : UInt8) : ((c.toUInt16 >>> 8) &&& 0xFF).toUInt8 = 0 := by
  have hshift : c.toUInt16 >>> 8 = 0 := by
    apply UInt16.toNat_inj.mp
    have hc := c.toNat_lt
    simp only [UInt16.toNat_shiftRight, UInt8.toNat_toUInt16, UInt16.reduceToNat,
      Nat.shiftRight_eq_div_pow, Nat.reduceMod, Nat.reducePow]
    omega
  rw [hshift]
  rfl

theorem eval_USB_Device_GetStatus {c : UInt8} (hc : currentStatus P d = some c) :
    eval interrupt (USB_Device_GetStatus P) w d =
      .done () w (finish (Dfu.reply [c, 0] (d.onEp Endpoint.clearSETUP))) := by
  have hi : (d.onEp Endpoint.clearSETUP).ep.usb_data_buffer_index = 0 := rfl
  simp (disch := simp) only [USB_Device_GetStatus, eval_bind, eval_get, Result.bind_done, hc,
    eval_Endpoint_ClearSETUP, Endpoint_Write_16_LE, eval_Endpoint_Write_8_first hi,
    eval_Endpoint_Write_8_wrote hi, List.cons_append, List.nil_append, eval_Endpoint_ClearIN,
    eval_Endpoint_ClearStatusStage, low_toUInt16, high_toUInt16]
  rfl

theorem eval_USB_Device_GetConfiguration :
    eval interrupt USB_Device_GetConfiguration w d = .done () w
      (finish (Dfu.reply [d.USB_Device_ConfigurationNumber] (d.onEp Endpoint.clearSETUP))) := by
  have hi : (d.onEp Endpoint.clearSETUP).ep.usb_data_buffer_index = 0 := rfl
  simp only [USB_Device_GetConfiguration, eval_bind, eval_get, Result.bind_done,
    eval_Endpoint_ClearSETUP, eval_Endpoint_Write_8_first hi, eval_Endpoint_ClearIN,
    eval_Endpoint_ClearStatusStage]
  rfl

theorem append_getD_take (l : List UInt8) (n : Nat) (e : Endpoint) :
    e.append (min l.length n) (fun i => l.getD i 0) =
      e.append (l.take n).length (padded 0 (l.take n)) := by
  rw [List.length_take, Nat.min_comm]
  simp only [Endpoint.append, Endpoint.mk.injEq, true_and, and_true]
  refine fill_congr fun i hi => ?_
  simp only [padded, List.getD_eq_getElem?_getD, List.getElem?_take]
  rw [if_pos (by omega)]

theorem eval_USB_Device_GetDescriptor {wLength : Nat}
    (hlen : d.USB_ControlRequest.wLength.toNat = wLength)
    (hl : P.CALLBACK_USB_GetDescriptor d.USB_ControlRequest.wValue d.USB_ControlRequest.wIndex = l)
    (hne : l.length ≠ 0) (hfit : min l.length wLength ≤ 512) :
    eval interrupt (USB_Device_GetDescriptor P) w d = .done () w
      ((Dfu.reply (l.take wLength) (d.onEp Endpoint.clearSETUP)).onEp Endpoint.clearOUT) := by
  have hstream : eval interrupt (Endpoint_Write_Stream_LE (fun _ i => l.getD i 0)
      (min l.length wLength)) w (d.onEp Endpoint.clearSETUP) = _ :=
    eval_Endpoint_Write_Stream_LE (fun _ _ => rfl)
      (by rw [show (d.onEp Endpoint.clearSETUP).ep.usb_data_buffer_index = 0 from rfl]; omega)
  have hreq : (d.onEp Endpoint.clearSETUP).USB_ControlRequest = d.USB_ControlRequest := rfl
  simp only [USB_Device_GetDescriptor, eval_bind, eval_get, Result.bind_done, hl, if_pos hne,
    eval_Endpoint_ClearSETUP, Endpoint_Write_Control_Stream_LE, hreq, hlen, hstream,
    eval_Endpoint_ClearIN, eval_Endpoint_ClearOUT, Device.onEp_onEp]
  simp only [append_getD_take]
  rfl

theorem eval_USB_Device_SetConfiguration :
    eval interrupt USB_Device_SetConfiguration w d =
      if d.USB_ControlRequest.wValue.toUInt8 ≤ FIXED_NUM_CONFIGURATIONS then
        .done () w { finish
          ({ d with USB_Device_ConfigurationNumber := d.USB_ControlRequest.wValue.toUInt8 }.onEp
            Endpoint.clearSETUP) with USB_DeviceState := .DEVICE_STATE_Configured }
      else .done () w d := by
  simp only [USB_Device_SetConfiguration, eval_bind, eval_get, Result.bind_done]
  split
  · simp only [eval_bind, eval_Endpoint_ClearSETUP, eval_modify, Result.bind_done,
      eval_Endpoint_ClearStatusStage, USB_Device_IsAddressSet, if_true, ite_self]
    rfl
  · rfl

theorem eval_USB_Device_SetAddress (h : d.ep.Asked)
    (hout : d.USB_ControlRequest.isDeviceToHost = false) (hw : ∀ ev ∈ w.headD [], ev.Quiet) :
    eval interrupt USB_Device_SetAddress w d = .done () w.tail
      { afterWait w (finish (d.onEp Endpoint.clearSETUP)) with
        USB_DeviceState :=
          if d.USB_ControlRequest.wValue &&& 0x7F ≠ 0 then .DEVICE_STATE_Addressed
          else .DEVICE_STATE_Default } := by
  have hcritical : (do Endpoint_ClearSETUP .libraryClearSETUP; Endpoint_ClearStatusStage :
      Task ρ Unit).atOnce d = some ((), finish (d.onEp Endpoint.clearSETUP)) := by
    rw [finish, Device.onEp, hout]
    change (Prog.atOnce (if d.USB_ControlRequest.isDeviceToHost then Endpoint_ClearOUT
      else Endpoint_ClearIN) _) = _
    rw [hout]
    rfl
  have hanswer : Outcome d (some [], library d) (finish (d.onEp Endpoint.clearSETUP)) :=
    outcome_status h hout rfl rfl rfl
  have hready : (afterWait w (finish (d.onEp Endpoint.clearSETUP))).ep.isInReady = true :=
    (hanswer.2.of_short (by decide) hw).started.1.ready
  have hafter : (finish (d.onEp Endpoint.clearSETUP)).onEp
      (applyEvents Endpoint.interrupt (w.headD [])) = afterWait w (finish (d.onEp Endpoint.clearSETUP)) :=
    rfl
  simp only [USB_Device_SetAddress, eval_bind, eval_get, Result.bind_done,
    eval_critical interrupt hcritical, eval_poll, applyEvents_interrupt, hafter, hready, if_true,
    eval_modify]

theorem eval_clearSetFeature :
    eval interrupt clearSetFeature w d =
      if d.USB_ControlRequest.bmRequestType &&& CONTROL_REQTYPE_RECIPIENT = REQREC_DEVICE then
        if d.USB_ControlRequest.wValue.toUInt8 = FEATURE_SEL_DeviceRemoteWakeup then
          .done true w { d with
            USB_Device_RemoteWakeupEnabled := d.USB_ControlRequest.bRequest = REQ_SetFeature }
        else .done false w d
      else if d.USB_ControlRequest.bmRequestType &&& CONTROL_REQTYPE_RECIPIENT = REQREC_ENDPOINT then
        .done (!(d.USB_ControlRequest.wValue.toUInt8 = FEATURE_SEL_EndpointHalt ∧
          d.USB_ControlRequest.wIndex.toUInt8 &&& ENDPOINT_EPNUM_MASK = ENDPOINT_CONTROLEP)) w d
      else .done false w d := by
  simp only [clearSetFeature, eval_bind, eval_get, Result.bind_done]
  split
  · split
    · rfl
    · rfl
  · split
    · rfl
    · rfl

/-! ## The answers -/

/-- The library takes up a request, or leaves it to the STALL behind the `switch`. -/
def Takes (P : Platform ρ) (p : Task ρ Unit) (w : List (List Event)) (d : Device ρ) : Prop :=
  ∃ w' d', eval interrupt p w d = .done () w' d' ∧
    Outcome d (respond P d.USB_ControlRequest.toUSB_Request_Header_t (library d)) d'

theorem respond_of_none {h : USB_Request_Header_t} {s : Library} (hq : h.standard = none) :
    respond P h s = (none, s) := by
  rw [respond, hq]

theorem respond_of_some {h : USB_Request_Header_t} {s : Library} {q : StandardRequest}
    (hq : h.standard = some q) : respond P h s = (q.reply P h.wLength.toNat s, q.effect s) := by
  rw [respond, hq]

theorem takes_pure (hq : d.USB_ControlRequest.standard = none) : Takes P (pure ()) w d :=
  ⟨w, d, rfl, by rw [respond_of_none hq]; exact ⟨rfl, rfl⟩⟩

theorem takes_getStatus (h : d.ep.Asked) (hb : d.USB_ControlRequest.bRequest = REQ_GetStatus) :
    Takes P (standardRequest P d.USB_ControlRequest.toUSB_Request_Header_t) w d := by
  rw [standardRequest, if_pos hb]
  by_cases h80 : d.USB_ControlRequest.bmRequestType = 0x80
  · have hq : d.USB_ControlRequest.standard = some .deviceStatus := by
      rw [USB_Request_Header_t.standard, if_pos hb, if_pos h80]
    have hin : d.USB_ControlRequest.isDeviceToHost = true := by
      rw [USB_Request_Header_t.isDeviceToHost, h80]
      rfl
    rw [if_pos (.inl h80)]
    refine ⟨w, _, eval_USB_Device_GetStatus (if_pos h80), ?_⟩
    rw [respond_of_some hq]
    exact outcome_reply h hin
  by_cases h82 : d.USB_ControlRequest.bmRequestType = 0x82
  · have hq : d.USB_ControlRequest.standard =
        some (.endpointStatus (d.USB_ControlRequest.wIndex.toUInt8 &&& ENDPOINT_EPNUM_MASK)) := by
      rw [USB_Request_Header_t.standard, if_pos hb, if_neg h80, if_pos h82]
    have hin : d.USB_ControlRequest.isDeviceToHost = true := by
      rw [USB_Request_Header_t.isDeviceToHost, h82]
      rfl
    rw [if_pos (.inr h82)]
    refine ⟨w, _, eval_USB_Device_GetStatus ((if_neg h80).trans (if_pos h82)), ?_⟩
    rw [respond_of_some hq, StandardRequest.reply, h.stalled]
    exact outcome_reply h hin
  · have hneg : ¬ (d.USB_ControlRequest.bmRequestType =
          REQDIR_DEVICETOHOST ||| REQTYPE_STANDARD ||| REQREC_DEVICE ∨
        d.USB_ControlRequest.bmRequestType =
          REQDIR_DEVICETOHOST ||| REQTYPE_STANDARD ||| REQREC_ENDPOINT) := fun hor => hor.elim h80 h82
    rw [if_neg hneg]
    exact takes_pure (by rw [USB_Request_Header_t.standard, if_pos hb, if_neg h80, if_neg h82])

theorem takes_feature (h : d.ep.Asked) (hb : d.USB_ControlRequest.bRequest = REQ_ClearFeature ∨
      d.USB_ControlRequest.bRequest = REQ_SetFeature) :
    Takes P (standardRequest P d.USB_ControlRequest.toUSB_Request_Header_t) w d := by
  have hne : d.USB_ControlRequest.bRequest ≠ REQ_GetStatus := by
    rcases hb with hb | hb <;> rw [hb] <;> decide
  have hstandard : d.USB_ControlRequest.standard = _ :=
    (if_neg hne).trans (if_pos hb)
  rw [standardRequest, if_neg hne, if_pos hb]
  by_cases h00 : d.USB_ControlRequest.bmRequestType = 0x00
  · have hout : d.USB_ControlRequest.isDeviceToHost = false := by
      rw [USB_Request_Header_t.isDeviceToHost, h00]
      rfl
    rw [if_pos (.inl h00)]
    have heval := eval_clearSetFeature (w := w) (d := d)
    rw [if_pos (by rw [h00]; rfl)] at heval
    by_cases hwake : d.USB_ControlRequest.wValue.toUInt8 = FEATURE_SEL_DeviceRemoteWakeup
    · rw [if_pos hwake] at heval
      refine ⟨w, finish ({ d with USB_Device_RemoteWakeupEnabled :=
        d.USB_ControlRequest.bRequest = REQ_SetFeature }.onEp Endpoint.clearSETUP), ?_, ?_⟩
      · simp only [USB_Device_ClearSetFeature, eval_bind, heval, Result.bind_done, if_true,
          eval_Endpoint_ClearSETUP, eval_Endpoint_ClearStatusStage]
        rfl
      · rw [respond_of_some (hstandard.trans (if_pos ⟨h00, hwake⟩))]
        exact outcome_status h hout rfl rfl rfl
    · rw [if_neg hwake] at heval
      refine ⟨w, d, ?_, ?_⟩
      · rw [USB_Device_ClearSetFeature, eval_bind, heval]
        rfl
      · rw [respond_of_none]
        · exact ⟨rfl, rfl⟩
        · rw [hstandard, if_neg fun hand => hwake hand.2, if_neg fun hand => ?_]
          rw [h00] at hand
          exact absurd hand.1 (by decide)
  by_cases h02 : d.USB_ControlRequest.bmRequestType = 0x02
  · have hout : d.USB_ControlRequest.isDeviceToHost = false := by
      rw [USB_Request_Header_t.isDeviceToHost, h02]
      rfl
    rw [if_pos (.inr h02)]
    have heval := eval_clearSetFeature (w := w) (d := d)
    rw [if_neg (by rw [h02]; decide), if_pos (by rw [h02]; rfl)] at heval
    by_cases hhalt : d.USB_ControlRequest.wValue.toUInt8 = FEATURE_SEL_EndpointHalt ∧
        d.USB_ControlRequest.wIndex.toUInt8 &&& ENDPOINT_EPNUM_MASK = ENDPOINT_CONTROLEP
    · refine ⟨w, d, ?_, ?_⟩
      · rw [USB_Device_ClearSetFeature, eval_bind, heval, decide_eq_true hhalt]
        rfl
      · rw [respond_of_none]
        · exact ⟨rfl, rfl⟩
        · rw [hstandard, if_neg fun hand => h00 hand.1, if_neg fun hand => hand.2 hhalt]
    · refine ⟨w, finish (d.onEp Endpoint.clearSETUP), ?_, ?_⟩
      · simp only [USB_Device_ClearSetFeature, eval_bind, heval, decide_eq_false hhalt, Bool.not_false,
          Result.bind_done, if_true, eval_Endpoint_ClearSETUP, eval_Endpoint_ClearStatusStage]
        rfl
      · rw [respond_of_some (hstandard.trans
          ((if_neg fun hand => h00 hand.1).trans (if_pos ⟨h02, hhalt⟩)))]
        exact outcome_status h hout rfl rfl rfl
  · rw [if_neg fun hor => hor.elim h00 h02]
    exact takes_pure
      (by rw [hstandard, if_neg fun hand => h00 hand.1, if_neg fun hand => h02 hand.1])

theorem takes_setAddress (h : d.ep.Asked) (hw : ∀ ev ∈ w.headD [], ev.Quiet)
    (hb : d.USB_ControlRequest.bRequest = REQ_SetAddress) :
    Takes P (standardRequest P d.USB_ControlRequest.toUSB_Request_Header_t) w d := by
  have hstandard : d.USB_ControlRequest.standard = _ :=
    (if_neg (by rw [hb]; decide)).trans ((if_neg (by rw [hb]; decide)).trans (if_pos hb))
  have hprogram : standardRequest P d.USB_ControlRequest.toUSB_Request_Header_t =
      if d.USB_ControlRequest.bmRequestType = 0x00 then USB_Device_SetAddress else pure () :=
    (if_neg (by rw [hb]; decide)).trans ((if_neg (by rw [hb]; decide)).trans (if_pos hb))
  rw [hprogram]
  by_cases h00 : d.USB_ControlRequest.bmRequestType = 0x00
  · have hout : d.USB_ControlRequest.isDeviceToHost = false := by
      rw [USB_Request_Header_t.isDeviceToHost, h00]
      rfl
    rw [if_pos h00]
    refine ⟨_, _, eval_USB_Device_SetAddress h hout hw, ?_⟩
    have hanswer : Outcome d (some [], library d) (finish (d.onEp Endpoint.clearSETUP)) :=
      outcome_status h hout rfl rfl rfl
    rw [respond_of_some (hstandard.trans (if_pos h00))]
    exact ⟨rfl, hanswer.2.of_short (by decide) hw⟩
  · rw [if_neg h00]
    exact takes_pure (hstandard.trans (if_neg h00))

theorem takes_getDescriptor (h : d.ep.Asked)
    (hfit : replyBound P d.USB_ControlRequest.toUSB_Request_Header_t ≤ 512)
    (hb : d.USB_ControlRequest.bRequest = REQ_GetDescriptor) :
    Takes P (standardRequest P d.USB_ControlRequest.toUSB_Request_Header_t) w d := by
  have hstandard : d.USB_ControlRequest.standard = _ :=
    (if_neg (by rw [hb]; decide)).trans ((if_neg (by rw [hb]; decide)).trans
      ((if_neg (by rw [hb]; decide)).trans (if_pos hb)))
  have hprogram : standardRequest P d.USB_ControlRequest.toUSB_Request_Header_t =
      if d.USB_ControlRequest.bmRequestType = 0x80 ∨ d.USB_ControlRequest.bmRequestType = 0x81 then
        USB_Device_GetDescriptor P
      else pure () :=
    (if_neg (by rw [hb]; decide)).trans ((if_neg (by rw [hb]; decide)).trans
      ((if_neg (by rw [hb]; decide)).trans (if_pos hb)))
  rw [hprogram]
  by_cases h80 : d.USB_ControlRequest.bmRequestType = 0x80 ∨
      d.USB_ControlRequest.bmRequestType = 0x81
  · have hq := hstandard.trans (if_pos h80)
    have hrespond := respond_of_some (P := P) (s := library d) hq
    rw [if_pos h80]
    by_cases hlen : (P.CALLBACK_USB_GetDescriptor d.USB_ControlRequest.wValue
        d.USB_ControlRequest.wIndex).length = 0
    · refine ⟨w, d, ?_, ?_⟩
      · rw [USB_Device_GetDescriptor, eval_bind, eval_get, Result.bind_done, if_neg (not_not.mpr hlen)]
        rfl
      · rw [hrespond, StandardRequest.reply, if_pos hlen]
        exact ⟨rfl, rfl⟩
    · rw [replyBound, hq] at hfit
      refine ⟨w, _, eval_USB_Device_GetDescriptor rfl rfl hlen hfit, ?_⟩
      rw [hrespond, StandardRequest.reply, if_neg hlen]
      exact ⟨rfl, h.data⟩
  · rw [if_neg h80]
    exact takes_pure (hstandard.trans (if_neg h80))

theorem takes_getConfiguration (h : d.ep.Asked)
    (hb : d.USB_ControlRequest.bRequest = REQ_GetConfiguration) :
    Takes P (standardRequest P d.USB_ControlRequest.toUSB_Request_Header_t) w d := by
  have hstandard : d.USB_ControlRequest.standard = _ :=
    (if_neg (by rw [hb]; decide)).trans ((if_neg (by rw [hb]; decide)).trans
      ((if_neg (by rw [hb]; decide)).trans ((if_neg (by rw [hb]; decide)).trans (if_pos hb))))
  have hprogram : standardRequest P d.USB_ControlRequest.toUSB_Request_Header_t =
      if d.USB_ControlRequest.bmRequestType = 0x80 then USB_Device_GetConfiguration else pure () :=
    (if_neg (by rw [hb]; decide)).trans ((if_neg (by rw [hb]; decide)).trans
      ((if_neg (by rw [hb]; decide)).trans ((if_neg (by rw [hb]; decide)).trans (if_pos hb))))
  rw [hprogram]
  by_cases h80 : d.USB_ControlRequest.bmRequestType = 0x80
  · have hin : d.USB_ControlRequest.isDeviceToHost = true := by
      rw [USB_Request_Header_t.isDeviceToHost, h80]
      rfl
    rw [if_pos h80]
    refine ⟨w, _, eval_USB_Device_GetConfiguration, ?_⟩
    rw [respond_of_some (hstandard.trans (if_pos h80))]
    exact outcome_reply h hin
  · rw [if_neg h80]
    exact takes_pure (hstandard.trans (if_neg h80))

theorem takes_setConfiguration (h : d.ep.Asked)
    (hb : d.USB_ControlRequest.bRequest = REQ_SetConfiguration) :
    Takes P (standardRequest P d.USB_ControlRequest.toUSB_Request_Header_t) w d := by
  have hstandard : d.USB_ControlRequest.standard = _ :=
    (if_neg (by rw [hb]; decide)).trans ((if_neg (by rw [hb]; decide)).trans
      ((if_neg (by rw [hb]; decide)).trans ((if_neg (by rw [hb]; decide)).trans
        ((if_neg (by rw [hb]; decide)).trans (if_pos hb)))))
  have hprogram : standardRequest P d.USB_ControlRequest.toUSB_Request_Header_t =
      if d.USB_ControlRequest.bmRequestType = 0x00 then USB_Device_SetConfiguration else pure () :=
    (if_neg (by rw [hb]; decide)).trans ((if_neg (by rw [hb]; decide)).trans
      ((if_neg (by rw [hb]; decide)).trans ((if_neg (by rw [hb]; decide)).trans
        ((if_neg (by rw [hb]; decide)).trans (if_pos hb)))))
  rw [hprogram]
  by_cases h00 : d.USB_ControlRequest.bmRequestType = 0x00
  · have hout : d.USB_ControlRequest.isDeviceToHost = false := by
      rw [USB_Request_Header_t.isDeviceToHost, h00]
      rfl
    have hrespond := respond_of_some (P := P) (s := library d) (hstandard.trans (if_pos h00))
    rw [if_pos h00]
    by_cases hn : d.USB_ControlRequest.wValue.toUInt8 ≤ FIXED_NUM_CONFIGURATIONS
    · refine ⟨w, _, eval_USB_Device_SetConfiguration.trans (if_pos hn), ?_⟩
      have hanswer : Outcome d (some [], _) (finish
          ({ d with USB_Device_ConfigurationNumber := d.USB_ControlRequest.wValue.toUInt8 }.onEp
            Endpoint.clearSETUP)) := outcome_status h hout rfl rfl rfl
      rw [hrespond, StandardRequest.reply, StandardRequest.effect, if_pos hn, if_pos hn]
      exact ⟨rfl, hanswer.2⟩
    · refine ⟨w, d, eval_USB_Device_SetConfiguration.trans (if_neg hn), ?_⟩
      rw [hrespond, StandardRequest.reply, StandardRequest.effect, if_neg hn, if_neg hn]
      exact ⟨rfl, rfl⟩
  · rw [if_neg h00]
    exact takes_pure (hstandard.trans (if_neg h00))

/-- The `switch` of the library does with a request what `respond` says. -/
theorem takes_standardRequest (h : d.ep.Asked) (hw : ∀ ev ∈ w.headD [], ev.Quiet)
    (hfit : replyBound P d.USB_ControlRequest.toUSB_Request_Header_t ≤ 512) :
    Takes P (standardRequest P d.USB_ControlRequest.toUSB_Request_Header_t) w d := by
  by_cases h0 : d.USB_ControlRequest.bRequest = REQ_GetStatus
  · exact takes_getStatus h h0
  by_cases h1 : d.USB_ControlRequest.bRequest = REQ_ClearFeature ∨
      d.USB_ControlRequest.bRequest = REQ_SetFeature
  · exact takes_feature h h1
  by_cases h5 : d.USB_ControlRequest.bRequest = REQ_SetAddress
  · exact takes_setAddress h hw h5
  by_cases h6 : d.USB_ControlRequest.bRequest = REQ_GetDescriptor
  · exact takes_getDescriptor h hfit h6
  by_cases h8 : d.USB_ControlRequest.bRequest = REQ_GetConfiguration
  · exact takes_getConfiguration h h8
  by_cases h9 : d.USB_ControlRequest.bRequest = REQ_SetConfiguration
  · exact takes_setConfiguration h h9
  rw [standardRequest, if_neg h0, if_neg h1, if_neg h5, if_neg h6, if_neg h8, if_neg h9]
  exact takes_pure
    (by rw [USB_Request_Header_t.standard, if_neg h0, if_neg h1, if_neg h5, if_neg h6, if_neg h8,
      if_neg h9])

end DfuSeBootloader.Usb
