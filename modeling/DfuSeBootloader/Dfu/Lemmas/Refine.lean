import DfuSeBootloader.Dfu.Lemmas.Handler
import DfuSeBootloader.Dfu.Lemmas.Keeps
import DfuSeBootloader.Dfu.Session
import DfuSeBootloader.Usb.Lemmas.SetupPackage
import DfuSeBootloader.Usb.Lemmas.Standard

/-!
# The handler refines the session

Whatever happens while the handler waits, it does to the session what one of the steps of
`Session.Step` does.
-/

namespace DfuSeBootloader.Dfu
open Program Memory Iap Usb
open EVENT_USB_Device_ControlRequest

variable {ρ : Type} {w w' : List (List Event)} {d d' : Device ρ} {P : Platform ρ}

theorem sessionView : DriverView (session (ρ := ρ)) where
  onEp _ _ _ _ _ := rfl
  firmware _ _ := rfl
  statusStage d := by simp [session, Device.note, Call.isIap]
  stall d := by simp [session, Device.note, Call.isIap]

theorem session_state (s : DFU_State_t) :
    session { d with DFU_State := s } = { session d with state := s } := rfl

@[simp] theorem session_onEp (f : Endpoint → Endpoint) : session (d.onEp f) = session d := rfl

@[simp] theorem session_interrupt (ev : Event) : session (interrupt ev d) = session d := rfl

@[simp] theorem session_afterWait : session (afterWait w d) = session d := rfl

@[simp] theorem session_zeroed : session (zeroed d) = session d := rfl

@[simp] theorem session_finish : session (finish d) = session d := by
  simp [finish, Device.clearStatusStage, session, Device.onEp, Device.note, Call.isIap]

@[simp] theorem session_closed : session (closed d) = session d := by
  rw [closed, session_finish, session_onEp]

@[simp] theorem session_reply (l : List UInt8) : session (reply l d) = session d := rfl

@[simp] theorem session_accept : session (accept d) = session d := by
  simp [accept, session, Device.onEp, Device.note, Call.isIap]

theorem session_of_keeps {α : Type} {p : Task ρ α} {a : α}
    (h : p.Keeps (fun _ => True) (fun _ => True) session)
    (heval : eval interrupt p w d = .done a w' d') : session d' = session d :=
  h.eval (fun ev d => session_interrupt (d := d) ev) heval

theorem filter_isIap_snoc {l : List Call} {c : Call} (h : c.isIap = true) :
    (l ++ [c]).filter Call.isIap = l.filter Call.isIap ++ [c] := by
  simp [h]

theorem session_programmed : session (programmed P d) =
    (session d).programBlock P d.firmware_data := by
  simp only [session, programmed, filter_isIap_snoc (c := .iap_write _ _ _) rfl]
  rfl

theorem session_commanded_obey (size : Nat) :
    session (commanded P size d) = (session d).obey P size d.firmware_data := by
  unfold commanded Session.obey
  split
  · split <;> rfl
  split
  · rfl
  split
  · simp only [session, filter_isIap_snoc (c := .iap_erase _ _) rfl]
    rfl
  · rfl

theorem step_commanded (size : Nat) :
    Session.Step P (some .DNLOAD) 0 (session d) (session (commanded P size d)) := by
  rw [session_commanded_obey]
  unfold Session.obey
  split
  · split
    · exact .getCommands
    · exact .skipped
  split
  · exact .setAddress _
  split
  · exact .eraseSector _
  · exact .skipped

theorem step_dnload_command {size : Nat}
    (h : eval interrupt (dnload P 0 size) w d = .done () w' d') :
    Session.Step P (some .DNLOAD) 0 (session d) (session d') := by
  rw [eval_dnload_command, Result.bind_eq_done] at h
  obtain ⟨ready, w₁, d₁, hcmd, h⟩ := h
  simp only [Result.done.injEq, true_and] at h
  obtain ⟨-, rfl⟩ := h
  cases ho : (afterWait w d).ep.isOutReceived with
  | false =>
      rw [eval_command_missed ho] at hcmd
      cases hcmd
      simpa using Session.Step.skipped
  | true =>
      rw [eval_command_ready ho, Result.bind_eq_done] at hcmd
      obtain ⟨_, w₂, d₂, hread, hcmd⟩ := hcmd
      cases hcmd
      have hkeep := session_of_keeps (Endpoint_Read_Stream_LE.keeps sessionView.endpoint.reader
        (by constructor <;> simp) (fun _ _ _ => trivial)) hread
      have hstep := step_commanded (P := P) (d := d₂.onEp Endpoint.clearOUT) size
      simpa [hkeep] using hstep

theorem step_dnload_block {wValue size : Nat} (hv : 2 ≤ wValue)
    (h : eval interrupt (dnload P wValue size) w d = .done () w' d') :
    Session.Step P (some .DNLOAD) wValue (session d) (session d') := by
  rw [eval_dnload_block hv, Result.bind_eq_done] at h
  obtain ⟨ready, w₁, d₁, hblock, h⟩ := h
  simp only [Result.done.injEq, true_and] at h
  obtain ⟨-, rfl⟩ := h
  by_cases hend : EndsDownload size d
  · rw [eval_block_end hend] at hblock
    cases hblock
    simp only [if_neg Bool.false_ne_true, session_finish, session_onEp]
    exact .endDownload hv hend.1
  · rw [eval_block hend, Result.bind_eq_done] at hblock
    obtain ⟨done, w₂, d₂, hread, hblock⟩ := hblock
    have hkeep := session_of_keeps (readBlock.keeps sessionView (by constructor <;> simp)
      (fun _ _ _ => trivial)) hread
    rw [session_zeroed] at hkeep
    cases done with
    | false =>
        cases hblock
        simpa [hkeep] using Session.Step.skipped
    | true =>
        cases hblock
        have hstep := Session.Step.programBlock (P := P) (s := session d₂) d₂.firmware_data hv
        simpa [session_programmed, hkeep] using hstep

theorem step_upload {wValue size : Nat} (hi : d.ep.usb_data_buffer_index = 0)
    (h : eval interrupt (upload P size) w d = .done () w' d') :
    Session.Step P (some .UPLOAD) wValue (session d) (session d') := by
  cases hr : (afterWait w d).ep.isInReady with
  | true =>
      rcases Nat.lt_or_ge 512 size with hsize | hsize
      · rw [eval_upload_fault hi hsize hr] at h
        cases h
      · rw [eval_upload hi hsize hr] at h
        cases h
        rw [uploaded, session_finish]
        exact .upload size
  | false =>
      simp only [upload, eval_bind, eval_poll, applyEvents_interrupt, Result.bind_eq_done] at h
      obtain ⟨ready, w₁, d₁, hpoll, h⟩ := h
      change (if (afterWait w d).ep.isInReady = true then _ else _) = _ at hpoll
      rw [hr, if_neg Bool.false_ne_true] at hpoll
      split at hpoll
      · cases hpoll
        cases h
        exact .uploadMissed
      · cases hpoll

theorem step_switch {wValue size : Nat} {q : Option DFU_REQ} (hi : d.ep.usb_data_buffer_index = 0)
    (h : eval interrupt (switch P wValue size q) w d = .done () w' d') :
    Session.Step P q wValue (session d) (session d') := by
  cases q with
  | none => cases h; exact .ignored
  | some q =>
      cases q with
      | DNLOAD =>
          rcases Nat.lt_trichotomy wValue 1 with hv | rfl | hv
          · obtain rfl : wValue = 0 := by omega
            exact step_dnload_command h
          · rw [switch, eval_dnload_ignored] at h
            cases h
            simpa using Session.Step.skipped
          · exact step_dnload_block hv h
      | UPLOAD => exact step_upload hi h
      | GETSTATUS =>
          rw [switch, eval_getStatus hi] at h
          cases h
          rw [session_state (d := finish (reply _ d)), session_finish, session_reply]
          exact .getStatus
      | CLRSTATUS =>
          rw [switch, eval_clrStatus] at h
          cases h
          rw [session_finish]
          exact .clrStatus
      | GETSTATE =>
          rw [switch, eval_getState hi] at h
          cases h
          rw [session_finish, session_reply]
          exact .getState
      | ABORT =>
          rw [switch, eval_abort] at h
          cases h
          rw [session_finish]
          exact .abort
      | DETATCH =>
          rw [switch, eval_detach] at h
          cases h
          rw [session_finish]
          exact .detach

theorem step_EVENT (h : eval interrupt (EVENT_USB_Device_ControlRequest P) w d = .done () w' d') :
    Session.Step P
      (if d.ep.SETUPReceived then dfuRequest d.USB_ControlRequest.toUSB_Request_Header_t else none)
      d.USB_ControlRequest.wValue.toNat (session d) (session d') := by
  by_cases hacc : d.ep.SETUPReceived = true ∧ d.USB_ControlRequest.isClassInterface = true
  · rw [eval_EVENT_accepted hacc.1 hacc.2] at h
    rw [if_pos hacc.1, ← session_accept]
    exact step_switch rfl h
  · have hign : d.ep.SETUPReceived = false ∨ d.USB_ControlRequest.isClassInterface = false := by
      simpa [Decidable.imp_iff_not_or] using hacc
    rw [eval_EVENT_ignored hign] at h
    cases h
    have hnone : (if d.ep.SETUPReceived = true then
        dfuRequest d.USB_ControlRequest.toUSB_Request_Header_t else none) = none := by
      rcases hign with hs | hc
      · simp [hs]
      · simp [dfuRequest, hc]
    rw [hnone]
    simpa [session, Device.note, Call.isIap] using Session.Step.ignored

theorem sessionLibraryView : LibraryView (session (ρ := ρ)) where
  toDriverView := sessionView
  deviceState _ _ := rfl
  configuration _ _ := rfl
  wakeup _ _ := rfl

theorem anyLibraryOps : LibraryOps (fun _ => True) (fun _ => True) where
  toDriverOps := by constructor <;> simp
  inReady := trivial
  critical := trivial
  critical_bad := trivial
  store_bad _ _ := trivial

/-- The request that one pass of the USB task hands to the handler. -/
def taken (d : Device ρ) : Option DFU_REQ :=
  if d.USB_DeviceState ≠ .DEVICE_STATE_Unattached ∧ d.ep.SETUPReceived = true then
    dfuRequest d.ep.SetupPackage.toUSB_Request_Header_t
  else none

theorem eval_task (hatt : d.USB_DeviceState ≠ .DEVICE_STATE_Unattached)
    (hset : d.ep.SETUPReceived = true) : eval interrupt (USB_DeviceTask P) w d =
      eval interrupt (USB_Device_ProcessControlRequest P) w d := by
  rw [USB_DeviceTask, eval_bind, eval_get, Result.bind_done, if_pos hatt, eval_bind, eval_get,
    Result.bind_done, if_pos hset]

theorem eval_task_idle
    (h : ¬ (d.USB_DeviceState ≠ .DEVICE_STATE_Unattached ∧ d.ep.SETUPReceived = true)) :
    eval interrupt (USB_DeviceTask P) w d = .done () w d := by
  rw [USB_DeviceTask, eval_bind, eval_get, Result.bind_done]
  split
  · rename_i hatt
    rw [eval_bind, eval_get, Result.bind_done, if_neg fun hset => h ⟨hatt, hset⟩, eval_pure]
  · rw [eval_pure]

/-- A pass that finds a request calls the handler, and behind the handler the session stays. -/
theorem EVENT_of_task (hatt : d.USB_DeviceState ≠ .DEVICE_STATE_Unattached)
    (hset : d.ep.SETUPReceived = true)
    (h : eval interrupt (USB_DeviceTask P) w d = .done () w' d') : ∃ w₁ d₁,
      eval interrupt (EVENT_USB_Device_ControlRequest P) w
        { d with USB_ControlRequest := d.ep.SetupPackage } = .done () w₁ d₁ ∧
      session d' = session d₁ := by
  rw [eval_task hatt hset] at h
  simp only [USB_Device_ProcessControlRequest, eval_Endpoint_GetSetupPackage, eval_bind,
    Result.bind_done, Result.bind_eq_done] at h
  obtain ⟨_, w₁, d₁, hevent, _, w₂, d₂, hstd, hstall⟩ := h
  refine ⟨w₁, d₁, hevent, ?_⟩
  rw [session_of_keeps (stallUnhandled.keeps anyLibraryOps sessionLibraryView.toDriverView) hstall,
    session_of_keeps (standardRequests.keeps sessionLibraryView anyLibraryOps P) hstd]

/-- One pass of the USB task is one step of the session. -/
theorem step_task (h : eval interrupt (USB_DeviceTask P) w d = .done () w' d') :
    Session.Step P (taken d) d.ep.SetupPackage.wValue.toNat (session d) (session d') := by
  unfold taken
  split
  · rename_i htaken
    obtain ⟨w₁, d₁, hevent, hsession⟩ := EVENT_of_task htaken.1 htaken.2 h
    have hstep := step_EVENT hevent
    rw [if_pos (by exact htaken.2)] at hstep
    rw [hsession]
    exact hstep
  · rename_i htaken
    rw [eval_task_idle htaken] at h
    cases h
    exact .ignored

end DfuSeBootloader.Dfu
