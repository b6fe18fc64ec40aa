import DfuSeBootloader.Dfu.Exchange

/-!
# What an exchange does

The requests of a host that waits, one by one: what they leave of the session, and that no packet is
left over behind them.
-/

namespace DfuSeBootloader.Dfu
open Program Memory Iap Usb
open EVENT_USB_Device_ControlRequest

variable {ρ : Type} {P : Platform ρ} {w w' : List (List Event)} {d d' : Device ρ}
  {t : ControlTransfer} {l : List UInt8}

/-! ## The end of a request -/

@[simp] theorem out_finish (d : Device ρ) (h : d.ep.isOutReceived = false) :
    (finish d).ep.isOutReceived = false := by
  unfold finish Device.clearStatusStage
  cases d.USB_ControlRequest.isDeviceToHost with
  | true => rfl
  | false => exact (Endpoint.isOutReceived_clearIN _).trans h

theorem idle_closed (h : d.USB_DeviceState ≠ .DEVICE_STATE_Unattached) : Idle (closed d) where
  attached := h
  out := out_finish _ rfl

@[simp] theorem setup_closed : (closed d).ep.SETUPReceived = d.ep.SETUPReceived := by
  rw [closed, setup_finish]
  rfl

@[simp] theorem ep_commanded (size : Nat) : (commanded P size d).ep = d.ep := by
  unfold commanded
  repeat' split
  all_goals rfl

@[simp] theorem state_commanded (size : Nat) :
    (commanded P size d).USB_DeviceState = d.USB_DeviceState := by
  unfold commanded
  repeat' split
  all_goals rfl

/-! ## Commands -/

theorem addressAt_congr {m m' : Nat → UInt8} (h : ∀ i < 5, m i = m' i) :
    addressAt m = addressAt m' := by
  simp only [addressAt, h 1 (by decide), h 2 (by decide), h 3 (by decide), h 4 (by decide)]

/-- A command is read from five bytes. -/
theorem Session.obey_congr {m m' : Nat → UInt8} {n : Nat} (h : ∀ i < 5, m i = m' i)
    (s : Session ρ) : s.obey P n m = s.obey P n m' := by
  simp only [Session.obey, h 0 (by decide), addressAt_congr h]

theorem session_commanded (h : ∀ i < 5, d.firmware_data i = padded 0 l i) :
    session (commanded P l.length d) = (session d).command P l := by
  rw [session_commanded_obey, Session.obey_congr h]
  rfl

/-- The device behind the read of a command whose data begins with `l`. -/
def received (l : List UInt8) (w : List (List Event)) (d : Device ρ) : Device ρ :=
  ((afterWait w d).readStream 0 l.length).onEp Endpoint.clearOUT

theorem session_received : session (received l w d) = session d := rfl

theorem eval_command_arrived (hl : l ≠ []) (hw : d.ep.Waiting l) (hr : d.ep.rxFull = false)
    (hund : Undisturbed w) (harr : arrives (w.headD []) = true) :
    eval interrupt (command P l.length) w d =
      if l.length ≤ 512 then .done true w.tail (commanded P l.length (received l w d))
      else .fault (.store_firmware_data 512) := by
  have ha : (afterWait w d).ep.Arrived l := hw.arrived hr hl hund.headD harr
  rw [eval_command_ready ha.out]
  split
  · rw [eval_Endpoint_Read_Stream_LE ha.size (by omega), Result.bind_done]
    rfl
  · rw [eval_Endpoint_Read_Stream_LE_fault ha.size (by decide) (by omega), Result.bind_fault]

theorem firmware_received (hl : l ≠ []) (hw : d.ep.Waiting l) (hr : d.ep.rxFull = false)
    (hund : Undisturbed w) (harr : arrives (w.headD []) = true) (hlong : 5 ≤ l.length) :
    ∀ i < 5, (received l w d).firmware_data i = padded 0 l i := by
  intro i hi
  have ha : (afterWait w d).ep.Arrived l := hw.arrived hr hl hund.headD harr
  change fill (afterWait w d).firmware_data 0 l.length (fun j => (afterWait w d).ep.usb_data_buffer
    ((afterWait w d).ep.usb_data_buffer_index + j)) i = _
  rw [fill_of_mem (by omega), ha.index, Nat.zero_add, Nat.sub_zero]
  exact ha.buffer i (by omega)

/-! ## Downloads -/

/-- A DNLOAD whose data stage is as long as it says, and which no other request disturbs. -/
structure Download (t : ControlTransfer) (w : List (List Event)) : Prop where
  request : dfuRequest t.toUSB_Request_Header_t = some .DNLOAD
  length : t.data.length = t.wLength.toNat
  undisturbed : Undisturbed w

theorem isClassInterface_of_dfuRequest {h : USB_Request_Header_t} {q : DFU_REQ}
    (hq : dfuRequest h = some q) : h.isClassInterface = true := by
  unfold dfuRequest at hq
  split at hq
  · assumption
  · cases hq

theorem setup_afterWait (hs : d.ep.SETUPReceived = false) (hund : Undisturbed w) :
    (afterWait w d).ep.SETUPReceived = false :=
  (Endpoint.SETUPReceived_events (e := d.ep) hund.headD).trans hs

/-- The device behind a command whose data comes in full. -/
def obeyed (P : Platform ρ) (t : ControlTransfer) (w : List (List Event)) (d : Device ρ) :
    Device ρ :=
  closed (commanded P t.data.length (received t.data w (begun t d)))

theorem exchange_obeyed (h : Idle d) (ht : Download t w) (hv : t.wValue.toNat = 0)
    (hl : t.data ≠ []) (hfit : t.data.length ≤ 512) (harr : arrives (w.headD []) = true) :
    exchange P (.request t w) d = some (obeyed P t w d) := by
  have hw := begun_waiting (t := t) h
  have heval : eval interrupt (switch P t.wValue.toNat t.wLength.toNat
      (dfuRequest t.toUSB_Request_Header_t)) w (begun t d) =
      .done () w.tail (obeyed P t w d) := by
    rw [ht.request, switch, hv, ← ht.length, eval_dnload_command,
      eval_command_arrived hl hw rfl ht.undisturbed harr, if_pos hfit]
    rfl
  refine exchange_of_switch h (isClassInterface_of_dfuRequest ht.request) heval ?_
  rw [obeyed, setup_closed, ep_commanded]
  exact setup_afterWait hw.setup ht.undisturbed

theorem exchange_command (h : Idle d) (ht : Download t w) (hv : t.wValue.toNat = 0)
    (hlong : 5 ≤ t.data.length) (hfit : t.data.length ≤ 512) (harr : arrives (w.headD []) = true) :
    ∃ d', exchange P (.request t w) d = some d' ∧ Idle d' ∧
      session d' = (session d).command P t.data := by
  have hw := begun_waiting (t := t) h
  have hl : t.data ≠ [] := List.length_pos_iff.mp (by omega)
  refine ⟨_, exchange_obeyed h ht hv hl hfit harr, idle_closed ?_, ?_⟩
  · rw [state_commanded]
    exact h.attached
  · rw [obeyed, session_closed,
      session_commanded (firmware_received hl hw rfl ht.undisturbed harr hlong), session_received,
      session_begun]

/-- What `firmware_data` holds when a block is programmed: the data of the request, padded with
zeros. -/
def blockOf (t : ControlTransfer) (d : Device ρ) : Nat → UInt8 :=
  fill d.firmware_data 0 512 (padded 0 t.data)

theorem fill_zeroed (m : Nat → UInt8) (hfit : l.length ≤ 512) :
    fill (fill m 0 512 fun _ => 0) 0 l.length (padded 0 l) = fill m 0 512 (padded 0 l) := by
  funext i
  by_cases hlt : i < l.length
  · rw [fill_of_mem (by omega), fill_of_mem (by omega)]
  · rw [fill_of_notMem (by omega)]
    by_cases hi : i < 512
    · rw [fill_of_mem (by omega), fill_of_mem (by omega), padded_of_le (by omega)]
    · rw [fill_of_notMem (by omega), fill_of_notMem (by omega)]

theorem exchange_block (h : Idle d) (ht : Download t w) (hv : 2 ≤ t.wValue.toNat)
    (hend : ¬ EndsDownload t.data.length d) (hfit : t.data.length ≤ 512)
    (hdel : delivers (chunks 64 t.data).length w = true) :
    ∃ d', exchange P (.request t w) d = some d' ∧ Idle d' ∧
      session d' = (session d).programBlock P (blockOf t d) := by
  obtain ⟨e, he, hread⟩ := eval_readBlock_delivered (d := zeroed (begun t d)) (k := 0)
    (n := t.data.length) (Nat.le_refl _) (by omega) (begun_waiting h) (fun _ => rfl)
    ht.undisturbed hdel
  generalize hd₁ : ({ zeroed (begun t d) with
    ep := e
    firmware_data := fill (zeroed (begun t d)).firmware_data 0 t.data.length (padded 0 t.data) } :
      Device ρ) = d₁ at hread
  have hsession : session d₁ = session d := by
    rw [← session_begun (t := t) (d := d), ← hd₁]
    rfl
  have heval : eval interrupt (switch P t.wValue.toNat t.wLength.toNat
      (dfuRequest t.toUSB_Request_Header_t)) w (begun t d) =
      .done () (w.drop (chunks 64 t.data).length) (closed (programmed P d₁)) := by
    rw [ht.request, switch, ← ht.length, eval_dnload_block hv,
      eval_block (show ¬ EndsDownload t.data.length (begun t d) from hend), hread]
    rfl
  refine ⟨_, exchange_of_switch h (isClassInterface_of_dfuRequest ht.request) heval ?_,
    idle_closed ?_, ?_⟩
  · rw [setup_closed]
    exact (congrArg (fun d => d.ep.SETUPReceived) hd₁.symm).trans he.setup
  · exact (congrArg Device.USB_DeviceState hd₁).symm.trans_ne h.attached
  · rw [session_closed, session_programmed, hsession, ← hd₁]
    congr 1
    exact fill_zeroed _ hfit

/-- A block that comes to an end was delivered in full, or it has changed nothing. -/
theorem of_exchange_block (h : Idle d) (ht : Download t w) (hv : 2 ≤ t.wValue.toNat)
    (hend : ¬ EndsDownload t.data.length d) (hx : exchange P (.request t w) d = some d') :
    if delivers (chunks 64 t.data).length w then t.data.length ≤ 512
    else session d' = session d ∧ Idle d' := by
  obtain ⟨w₁, d₁, heval, hend'⟩ := switch_of_exchange h (isClassInterface_of_dfuRequest ht.request) hx
  rw [ht.request, switch, ← ht.length, eval_dnload_block hv,
    eval_block (show ¬ EndsDownload t.data.length (begun t d) from hend), Result.bind_eq_done] at heval
  obtain ⟨done, w₂, d₂, hblock, heval⟩ := heval
  rw [Result.bind_eq_done] at hblock
  obtain ⟨ready, w₃, d₃, hread, hblock⟩ := hblock
  obtain ⟨hready, hroom, hmissed⟩ := eval_readBlock_done (d := zeroed (begun t d)) (k := 0)
    (Nat.le_refl _) (by decide) (begun_waiting h) (fun _ => rfl) ht.undisturbed hread
  split
  · rename_i hdel
    have := hroom (hready.trans hdel)
    omega
  · rename_i hdel
    obtain rfl : ready = false := by rw [hready]; simpa using hdel
    obtain ⟨e, fd, hset, hd₃⟩ := hmissed rfl
    cases hblock
    cases heval
    obtain rfl := hend' (by rw [hd₃]; exact (setup_finish (d := Device.onEp Endpoint.clearOUT
      { zeroed (begun t d) with ep := e, firmware_data := fd })).trans hset)
    subst hd₃
    refine ⟨?_, ?_⟩
    · exact (session_closed (d := { zeroed (begun t d) with ep := e, firmware_data := fd })).trans
        (session_begun (t := t) (d := d))
    · exact idle_closed (d := { zeroed (begun t d) with ep := e, firmware_data := fd }) h.attached

/-! ## Uploads -/

/-- On an attached device an UPLOAD waits for the IN side as long as it takes. -/
theorem eval_upload_done {size : Nat} (hi : d.ep.usb_data_buffer_index = 0)
    (hatt : d.USB_DeviceState ≠ .DEVICE_STATE_Unattached)
    (h : eval interrupt (upload P size) w d = .done () w' d') :
    size ≤ 512 ∧ (afterWait w d).ep.isInReady = true ∧ d' = uploaded P size (afterWait w d) := by
  cases hr : (afterWait w d).ep.isInReady with
  | true =>
      rcases Nat.lt_or_ge 512 size with hlong | hfit
      · rw [eval_upload_fault hi hlong hr] at h
        cases h
      · rw [eval_upload hi hfit hr] at h
        cases h
        exact ⟨hfit, rfl, rfl⟩
  | false =>
      simp only [upload, eval_bind, eval_poll, applyEvents_interrupt, Result.bind_eq_done] at h
      obtain ⟨ready, w₁, d₁, hpoll, -⟩ := h
      change (if (afterWait w d).ep.isInReady = true then _ else _) = _ at hpoll
      rw [hr, if_neg Bool.false_ne_true] at hpoll
      split at hpoll
      · rename_i hg
        exact absurd (of_decide_eq_true hg) hatt
      · cases hpoll

/-! ## Nothing is left over -/

theorem Quiet.interrupt {ev : Event} {e : Endpoint} (hev : ev.Quiet) :
    (Endpoint.interrupt ev e).isOutReceived = e.isOutReceived := by
  cases ev with
  | setup t => exact hev.elim
  | out junk => exact hev.elim
  | zlp =>
      simp only [Endpoint.interrupt]
      split
      · rfl
      · simp [Endpoint.outISR, Endpoint.ReadControlEndpoint, Endpoint.storePacket]
  | inComplete =>
      obtain ⟨r, s, c, o, t, he⟩ := Endpoint.inISR_eq e
      simp only [Endpoint.interrupt, he]

theorem out_afterWait (ho : d.ep.isOutReceived = false) (hq : ∀ es ∈ w, ∀ ev ∈ es, ev.Quiet) :
    (afterWait w d).ep.isOutReceived = false := by
  have hhead : ∀ ev ∈ w.headD [], ev.Quiet := by
    cases w with
    | nil => simp
    | cons es w => exact hq es List.mem_cons_self
  exact applyEvents_induction (I := fun e : Endpoint => e.isOutReceived = false)
    (fun ev hev _ h => (Quiet.interrupt (hhead ev hev)).trans h) ho

@[simp] theorem setup_uploaded (size : Nat) :
    (uploaded P size d).ep.SETUPReceived = d.ep.SETUPReceived := by
  rw [uploaded, setup_finish]
  exact Endpoint.SETUPReceived_clearIN _

theorem idle_finish (hatt : d.USB_DeviceState ≠ .DEVICE_STATE_Unattached)
    (ho : d.ep.isOutReceived = false) : Idle (finish d) where
  attached := hatt
  out := out_finish d ho

theorem out_reply (l : List UInt8) : (reply l d).ep.isOutReceived = d.ep.isOutReceived :=
  Endpoint.isOutReceived_clearIN _

/-- A wait of a DNLOAD has found a packet only where one of its data stage came. -/
theorem arrives_of_out (hw : d.ep.Waiting l) (hr : d.ep.rxFull = false) (hund : Undisturbed w)
    (ho : (afterWait w d).ep.isOutReceived = true) : l ≠ [] ∧ arrives (w.headD []) = true := by
  constructor
  · rintro rfl
    exact absurd (ho.symm.trans (hw.blocked hund.headD (.inr rfl)).out) (by simp)
  · by_contra harr
    exact absurd (ho.symm.trans (hw.missed hr hund.headD (by simpa using harr)).out) (by simp)

section

variable (hw : d.ep.Waiting l) (hr : d.ep.rxFull = false)
  (hatt : d.USB_DeviceState ≠ .DEVICE_STATE_Unattached) (hund : Undisturbed w)
include hw hr hatt hund

theorem eval_dnload_command_idle
    (h : eval interrupt (dnload P 0 l.length) w d = .done () w' d') :
    d'.ep.SETUPReceived = false ∧ Idle d' := by
  rw [eval_dnload_command] at h
  cases ho : (afterWait w d).ep.isOutReceived with
  | false =>
      rw [eval_command_missed ho] at h
      cases h
      exact ⟨setup_finish.trans (setup_afterWait hw.setup hund), idle_closed hatt⟩
  | true =>
      obtain ⟨hl, harr⟩ := arrives_of_out hw hr hund ho
      rw [eval_command_arrived hl hw hr hund harr] at h
      split at h
      · cases h
        refine ⟨?_, idle_closed (by rw [state_commanded]; exact hatt)⟩
        rw [if_pos rfl, setup_closed, ep_commanded]
        exact setup_afterWait hw.setup hund
      · cases h

theorem eval_dnload_block_idle {wValue : Nat} (hv : 2 ≤ wValue)
    (h : eval interrupt (dnload P wValue l.length) w d = .done () w' d') :
    d'.ep.SETUPReceived = false ∧ Idle d' := by
  rw [eval_dnload_block hv] at h
  by_cases hend : EndsDownload l.length d
  · rw [eval_block_end hend] at h
    cases h
    exact ⟨setup_finish.trans hw.setup, idle_closed hatt⟩
  rw [eval_block hend, Result.bind_eq_done] at h
  obtain ⟨done, w₁, d₁, hblock, h⟩ := h
  rw [Result.bind_eq_done] at hblock
  obtain ⟨ready, w₂, d₂, hread, hblock⟩ := hblock
  obtain ⟨hready, hroom, hmissed⟩ := eval_readBlock_done (d := zeroed d) (k := 0)
    (Nat.le_refl _) (by decide) hw (fun _ => hr) hund hread
  cases ready with
  | true =>
      obtain ⟨e, he, hfull⟩ := eval_readBlock_delivered (d := zeroed d) (k := 0)
        (Nat.le_refl l.length) (hroom rfl) hw (fun _ => hr) hund hready.symm
      rw [hfull] at hread
      cases hread
      cases hblock
      cases h
      exact ⟨setup_closed.trans he.setup, idle_closed hatt⟩
  | false =>
      obtain ⟨e, fd, hset, rfl⟩ := hmissed rfl
      cases hblock
      cases h
      exact ⟨(setup_closed (d := { zeroed d with ep := e, firmware_data := fd })).trans hset,
        idle_closed (d := { zeroed d with ep := e, firmware_data := fd }) hatt⟩

/-- A DNLOAD leaves no packet, and no request that is not handled. -/
theorem eval_dnload_idle {wValue : Nat}
    (h : eval interrupt (dnload P wValue l.length) w d = .done () w' d') :
    d'.ep.SETUPReceived = false ∧ Idle d' := by
  rcases Nat.lt_trichotomy wValue 1 with hv | rfl | hv
  · obtain rfl : wValue = 0 := by omega
    exact eval_dnload_command_idle hw hr hatt hund h
  · rw [eval_dnload_ignored] at h
    cases h
    exact ⟨setup_closed.trans hw.setup, idle_closed hatt⟩
  · exact eval_dnload_block_idle hw hr hatt hund hv h

end

theorem eval_switch_idle {wValue size : Nat} {q : Option DFU_REQ} (hq : q ≠ some .DNLOAD)
    (hset : d.ep.SETUPReceived = false) (hidle : Idle d) (hi : d.ep.usb_data_buffer_index = 0)
    (hquiet : ∀ es ∈ w, ∀ ev ∈ es, ev.Quiet)
    (h : eval interrupt (switch P wValue size q) w d = .done () w' d') :
    d'.ep.SETUPReceived = false ∧ Idle d' := by
  have hund : Undisturbed w := fun es hes ev hev => (hquiet es hes ev hev).noSetup
  cases q with
  | none =>
      cases h
      exact ⟨hset, hidle⟩
  | some q =>
      cases q with
      | DNLOAD => exact absurd rfl hq
      | UPLOAD =>
          obtain ⟨-, -, rfl⟩ := eval_upload_done hi hidle.attached h
          exact ⟨(setup_uploaded size).trans (setup_afterWait hset hund), idle_finish hidle.attached
            ((Endpoint.isOutReceived_clearIN _).trans (out_afterWait hidle.out hquiet))⟩
      | GETSTATUS =>
          rw [switch, eval_getStatus hi] at h
          cases h
          have hend := idle_finish (d := reply (statusReply d.DFU_Status d.DFU_State) d)
            hidle.attached ((out_reply _).trans hidle.out)
          exact ⟨setup_finish.trans ((setup_reply _).trans hset), hend.attached, hend.out⟩
      | GETSTATE =>
          rw [switch, eval_getState hi] at h
          cases h
          exact ⟨setup_finish.trans ((setup_reply _).trans hset),
            idle_finish hidle.attached ((out_reply _).trans hidle.out)⟩
      | CLRSTATUS =>
          rw [switch, eval_clrStatus] at h
          cases h
          exact ⟨setup_finish.trans hset, idle_finish hidle.attached hidle.out⟩
      | ABORT =>
          rw [switch, eval_abort] at h
          cases h
          exact ⟨setup_finish.trans hset, idle_finish hidle.attached hidle.out⟩
      | DETATCH =>
          rw [switch, eval_detach] at h
          cases h
          exact ⟨setup_finish.trans hset, idle_finish hidle.attached hidle.out⟩

theorem Exchange.Orderly.idle {x : Exchange} (hx : x.Orderly) (h : Idle d)
    (he : exchange P x d = some d') : Idle d' := by
  cases x with
  | between ev =>
      obtain rfl : interrupt ev d = d' := Option.some.inj he
      exact ⟨h.attached, (Quiet.interrupt hx).trans h.out⟩
  | request t w =>
      obtain ⟨hc, hund, hdata⟩ := hx
      obtain ⟨w₁, d₁, heval, hend⟩ := switch_of_exchange h hc he
      have hw := begun_waiting (t := t) h
      suffices hidle : d₁.ep.SETUPReceived = false ∧ Idle d₁ by
        rw [hend hidle.1]
        exact hidle.2
      split at hdata
      · rename_i hq
        rw [hq, switch, ← hdata] at heval
        exact eval_dnload_idle hw rfl h.attached hund heval
      · rename_i hq
        exact eval_switch_idle hq hw.setup ⟨h.attached, hw.out⟩ rfl hdata heval

/-! ## Single requests -/

theorem step_exchange (hatt : d.USB_DeviceState ≠ .DEVICE_STATE_Unattached)
    (he : exchange P (.request t w) d = some d') :
    Session.Step P (dfuRequest t.toUSB_Request_Header_t) t.wValue.toNat (session d) (session d') := by
  have hstep := Serial.step (P := P) (v := ⟨interrupt (.setup t) d, .task w, d'⟩) he
  have hq : Turn.request ⟨interrupt (.setup t) d, .task w, d'⟩ =
      dfuRequest t.toUSB_Request_Header_t := if_pos ⟨hatt, rfl⟩
  rwa [hq] at hstep

theorem exchange_reports (hatt : d.USB_DeviceState ≠ .DEVICE_STATE_Unattached)
    (hq : dfuRequest t.toUSB_Request_Header_t = some .GETSTATUS)
    (he : exchange P (.request t w) d = some d') : Reports d d' d.DFU_Status d.DFU_State :=
  Serial.reports (v := ⟨interrupt (.setup t) d, .task w, d'⟩) he
    ((if_pos ⟨hatt, rfl⟩ : taken (interrupt (.setup t) d) = _).trans hq)

theorem of_exchange_upload (h : Idle d) (hq : dfuRequest t.toUSB_Request_Header_t = some .UPLOAD)
    (hund : Undisturbed w) (hx : exchange P (.request t w) d = some d') :
    t.wLength.toNat ≤ 512 ∧ (afterWait w (begun t d)).ep.isInReady = true ∧
      d' = uploaded P t.wLength.toNat (afterWait w (begun t d)) := by
  obtain ⟨w₁, d₁, heval, hend⟩ := switch_of_exchange h (isClassInterface_of_dfuRequest hq) hx
  rw [hq] at heval
  obtain ⟨hfit, hr, rfl⟩ := eval_upload_done (d := begun t d) rfl h.attached heval
  exact ⟨hfit, hr, hend ((setup_uploaded _).trans (setup_afterWait rfl hund))⟩

end DfuSeBootloader.Dfu
