import DfuSeBootloader.Dfu.Coherence

/-!
# Failures

A failure of the flash is reported until a request starts something new. A DNLOAD whose data do not
come, or whose command is not known, starts nothing.
-/

namespace DfuSeBootloader.Dfu
open Program Memory Iap Usb
open EVENT_USB_Device_ControlRequest

variable {ρ : Type} {P : Platform ρ} {w w' : List (List Event)} {d d' : Device ρ} {v : Turn ρ}
  {vs : List (Turn ρ)} {size wValue : Nat} {s s' : Session ρ}

/-! ## What a DNLOAD comes to -/

inductive Outcome
  | skipped
  | getCommands
  | setAddress
  | eraseSector
  | endDownload
  | programBlock
  deriving DecidableEq, Repr

/-- The command that the handler finds in `firmware_data`. -/
def Outcome.ofCommand (size : Nat) (firmware_data : Nat → UInt8) : Outcome :=
  if firmware_data 0 = 0x00 then if 1 < size then .getCommands else .skipped
  else if firmware_data 0 = 0x21 then .setAddress
  else if firmware_data 0 = 0x41 then .eraseSector
  else .skipped

/-- What is in `firmware_data` when the handler looks for a command there, where a packet has come. -/
def commandRead (size : Nat) (w : List (List Event)) (d : Device ρ) : Option (Nat → UInt8) :=
  if (afterWait w d).ep.isOutReceived then
    match eval interrupt (Endpoint_Read_Stream_LE 0 size) w.tail (afterWait w d) with
    | .done _ _ d' => some d'.firmware_data
    | .fault _ => none
    | .hang _ => none
  else none

/-- All packets of a block have come. -/
def blockRead (size : Nat) (w : List (List Event)) (d : Device ρ) : Bool :=
  match eval interrupt (readBlock size size 0) w (zeroed d) with
  | .done ready _ _ => ready
  | .fault _ => false
  | .hang _ => false

/-- What becomes of a DNLOAD, from the request, the waits and the state before. -/
def outcome (wValue size : Nat) (w : List (List Event)) (d : Device ρ) : Outcome :=
  if wValue = 0 then ((commandRead size w d).map (Outcome.ofCommand size)).getD .skipped
  else if wValue = 1 then .skipped
  else if d.DFU_State = .dfuDNLOAD_IDLE ∧ size = 0 then .endDownload
  else if blockRead size w d then .programBlock
  else .skipped

/-- What it does to the session. -/
def Outcome.Leads (P : Platform ρ) (s s' : Session ρ) : Outcome → Prop
  | .skipped => s' = s
  | .getCommands => s' = { s with state := .dfuDNBUSY, status := .OK }
  | .setAddress => ∃ a, s' = { s with state := .dfuDNBUSY, status := .OK, address := a }
  | .eraseSector => ∃ a, s' = s.eraseSector P a
  | .endDownload => s.state = .dfuDNLOAD_IDLE ∧ s' = { s with state := .dfuIDLE }
  | .programBlock => ∃ block, s' = s.programBlock P block

theorem obey_leads (data : Nat → UInt8) :
    (Outcome.ofCommand size data).Leads P s (s.obey P size data) := by
  unfold Outcome.ofCommand Session.obey
  split
  · split <;> rfl
  split
  · exact ⟨_, rfl⟩
  split
  · exact ⟨_, rfl⟩
  · rfl

theorem command_leads (h : eval interrupt (dnload P 0 size) w d = .done () w' d') :
    (outcome 0 size w d).Leads P (session d) (session d') := by
  rw [eval_dnload_command, Result.bind_eq_done] at h
  obtain ⟨ready, w₁, d₁, hcmd, h⟩ := h
  simp only [Result.done.injEq, true_and] at h
  obtain ⟨-, rfl⟩ := h
  rw [outcome, if_pos rfl, commandRead]
  cases ho : (afterWait w d).ep.isOutReceived with
  | false =>
      rw [eval_command_missed ho] at hcmd
      cases hcmd
      simp [Outcome.Leads]
  | true =>
      rw [eval_command_ready ho, Result.bind_eq_done] at hcmd
      obtain ⟨_, w₂, d₂, hread, hcmd⟩ := hcmd
      cases hcmd
      have hkeep := session_of_keeps (Endpoint_Read_Stream_LE.keeps sessionView.endpoint.reader
        (by constructor <;> simp) (fun _ _ _ => trivial)) hread
      rw [session_afterWait] at hkeep
      rw [if_pos rfl, hread, if_pos rfl, session_closed, session_commanded_obey, session_onEp, hkeep]
      exact obey_leads _

theorem block_leads (hv : 2 ≤ wValue)
    (h : eval interrupt (dnload P wValue size) w d = .done () w' d') :
    (outcome wValue size w d).Leads P (session d) (session d') := by
  rw [eval_dnload_block hv, Result.bind_eq_done] at h
  obtain ⟨ready, w₁, d₁, hblock, h⟩ := h
  simp only [Result.done.injEq, true_and] at h
  obtain ⟨-, rfl⟩ := h
  rw [outcome, if_neg (show ¬ wValue = 0 by omega), if_neg (show ¬ wValue = 1 by omega)]
  by_cases hend : EndsDownload size d
  · rw [eval_block_end hend] at hblock
    cases hblock
    rw [if_pos (show d.DFU_State = .dfuDNLOAD_IDLE ∧ size = 0 from hend)]
    simp only [if_neg Bool.false_ne_true, session_finish, session_onEp]
    exact ⟨hend.1, rfl⟩
  · rw [eval_block hend, Result.bind_eq_done] at hblock
    obtain ⟨done, w₂, d₂, hread, hblock⟩ := hblock
    have hkeep := session_of_keeps (readBlock.keeps sessionView (by constructor <;> simp)
      (fun _ _ _ => trivial)) hread
    rw [session_zeroed] at hkeep
    rw [if_neg (show ¬ (d.DFU_State = .dfuDNLOAD_IDLE ∧ size = 0) from hend), blockRead, hread]
    cases done with
    | false =>
        cases hblock
        exact hkeep
    | true =>
        cases hblock
        simp only [if_true, session_closed, session_programmed, hkeep]
        exact ⟨_, rfl⟩

theorem dnload_leads (h : eval interrupt (dnload P wValue size) w d = .done () w' d') :
    (outcome wValue size w d).Leads P (session d) (session d') := by
  rcases Nat.lt_trichotomy wValue 1 with hv | rfl | hv
  · obtain rfl : wValue = 0 := by omega
    exact command_leads h
  · rw [eval_dnload_ignored] at h
    cases h
    exact session_closed
  · exact block_leads hv h

/-! ## Steps -/

/-- What becomes of the DNLOAD that is handled in a step. -/
def Turn.outcome (v : Turn ρ) : Option Outcome :=
  match v.action with
  | .interrupt _ => none
  | .task w =>
      if taken v.before = some .DNLOAD then
        some (Dfu.outcome v.wValue v.before.ep.SetupPackage.wLength.toNat w (entered v.before))
      else none

/-- A request that starts something new. -/
def Turn.Starts (v : Turn ρ) : Prop :=
  v.request = some .CLRSTATUS ∨ v.request = some .ABORT ∨ v.request = some .UPLOAD ∨
    ∃ o ∈ v.outcome, o ≠ .skipped

/-- A sector is erased or a block is programmed. -/
def Turn.Writes (v : Turn ρ) : Prop :=
  v.outcome = some .eraseSector ∨ v.outcome = some .programBlock

instance : DecidablePred (Turn.Starts (ρ := ρ)) := fun v =>
  inferInstanceAs (Decidable (_ ∨ _ ∨ _ ∨ ∃ o ∈ v.outcome, o ≠ .skipped))

instance : DecidablePred (Turn.Writes (ρ := ρ)) := fun _ => inferInstanceAs (Decidable (_ ∨ _))

theorem Serial.dnload (h : Serial P v.before v.action v.after) (hq : v.request = some .DNLOAD) :
    ∃ o, v.outcome = some o ∧ o.Leads P (session v.before) (session v.after) := by
  obtain ⟨d, a, d'⟩ := v
  cases a with
  | interrupt ev => cases hq
  | task w =>
      obtain ⟨w₁, d₁, hswitch, hsession⟩ := switch_of_perform h hq
      refine ⟨_, if_pos hq, ?_⟩
      have hleads := dnload_leads hswitch
      rwa [entered, session_accept, ← hsession] at hleads

/-- Only a sector that is erased or a block that is programmed reaches the flash. -/
theorem Serial.unwritten (h : Serial P v.before v.action v.after) (hw : ¬ v.Writes) :
    v.after.rom = v.before.rom ∧
      v.after.calls.filter Call.isIap = v.before.calls.filter Call.isIap := by
  suffices hs : (session v.after).rom = (session v.before).rom ∧
      (session v.after).flashCalls = (session v.before).flashCalls from hs
  by_cases hq : v.request = some .DNLOAD
  · obtain ⟨o, ho, hleads⟩ := Serial.dnload h hq
    cases o with
    | skipped => rw [show session v.after = _ from hleads]; exact ⟨rfl, rfl⟩
    | getCommands => rw [show session v.after = _ from hleads]; exact ⟨rfl, rfl⟩
    | setAddress =>
        obtain ⟨a, hs⟩ := hleads
        rw [hs]
        exact ⟨rfl, rfl⟩
    | eraseSector => exact absurd (.inl ho) hw
    | endDownload => rw [hleads.2]; exact ⟨rfl, rfl⟩
    | programBlock => exact absurd (.inr ho) hw
  · have hstep := Serial.step h
    generalize v.wValue = wValue at hstep
    generalize v.request = q at hq hstep
    generalize session v.before = s at hstep ⊢
    generalize session v.after = s' at hstep ⊢
    cases hstep with
    | eraseSector a => exact absurd rfl hq
    | programBlock block hv => exact absurd rfl hq
    | _ => exact ⟨rfl, rfl⟩

/-- The error state, and the status that came with it, stay. -/
theorem Serial.error (h : Serial P v.before v.action v.after) (hn : ¬ v.Starts)
    (hs : v.before.DFU_State = .dfuERROR) :
    v.after.DFU_State = .dfuERROR ∧ v.after.DFU_Status = v.before.DFU_Status := by
  suffices hsession : (session v.after).state = .dfuERROR ∧
      (session v.after).status = (session v.before).status from hsession
  have herror : (session v.before).state = .dfuERROR := hs
  obtain ⟨hclear, habort, hupload, hskip⟩ : v.request ≠ some .CLRSTATUS ∧ v.request ≠ some .ABORT ∧
      v.request ≠ some .UPLOAD ∧ ∀ o ∈ v.outcome, o = .skipped := by
    simpa [Turn.Starts] using hn
  by_cases hq : v.request = some .DNLOAD
  · obtain ⟨o, ho, hleads⟩ := Serial.dnload h hq
    obtain rfl := hskip o ho
    rw [show session v.after = _ from hleads]
    exact ⟨herror, rfl⟩
  · have hstep := Serial.step h
    generalize v.wValue = wValue at hstep
    generalize v.request = q at hq hclear habort hupload hstep
    generalize session v.before = s at hstep herror ⊢
    generalize session v.after = s' at hstep ⊢
    cases hstep with
    | getStatus => exact ⟨by simp [herror], rfl⟩
    | clrStatus => exact absurd rfl hclear
    | abort => exact absurd rfl habort
    | upload n => exact absurd rfl hupload
    | ignored => exact ⟨herror, rfl⟩
    | uploadMissed => exact ⟨herror, rfl⟩
    | getState => exact ⟨herror, rfl⟩
    | detach => exact ⟨herror, rfl⟩
    | _ => exact absurd rfl hq

/-! ## Runs -/

/-- After a failure the device stays in the error state with the status of the failure, and the flash
as it was left, until a CLRSTATUS, an ABORT or an UPLOAD, or until a command is obeyed or a block
programmed. A GETSTATUS up to then reports the failure. -/
theorem failure_persists {us : List (Turn ρ)} {status : DFU_Status_t}
    (hrun : Run (Serial P) d (us ++ v :: vs) d') (hfail : v.failure = some status) :
    (∀ ms u ws, vs = ms ++ u :: ws → (∀ m ∈ ms, ¬ m.Starts) →
      u.before.DFU_State = .dfuERROR ∧ u.before.DFU_Status = status ∧
        u.before.rom = v.after.rom ∧
        u.before.calls.filter Call.isIap = v.after.calls.filter Call.isIap ∧
        (u.request = some .GETSTATUS → Reports u.before u.after status .dfuERROR)) ∧
    ∀ u ∈ vs, ¬ u.Writes → u.after.rom = u.before.rom ∧
      u.after.calls.filter Call.isIap = u.before.calls.filter Call.isIap := by
  obtain ⟨-, hstep, hvs⟩ := hrun.split_cons
  refine ⟨?_, fun u hu hw => Serial.unwritten (hvs.step_of_mem hu) hw⟩
  rintro ms u ws rfl hms
  obtain ⟨hbefore, hstep', -⟩ := hvs.split_cons
  have herror : v.after.DFU_State = .dfuERROR ∧ v.after.DFU_Status = status :=
    (Serial.step hstep).of_failure hfail
  -- no step up to `u` leaves the error state or reaches the flash
  obtain ⟨-, hstate, hstatus, hrom, hcalls⟩ := hbefore.invariant
    (I := fun d => d.DFU_State = .dfuERROR ∧ d.DFU_Status = status ∧ d.rom = v.after.rom ∧
      d.calls.filter Call.isIap = v.after.calls.filter Call.isIap)
    (fun m hm hst hI => by
      obtain ⟨hstate, hstatus, hrom, hcalls⟩ := hI
      obtain ⟨hs, ht⟩ := Serial.error hst (hms m hm) hstate
      obtain ⟨hr, hc⟩ := Serial.unwritten hst fun hw => hms m hm (.inr (.inr (.inr (by
        rcases hw with ho | ho
        · exact ⟨_, ho, by decide⟩
        · exact ⟨_, ho, by decide⟩))))
      exact ⟨hs, ht.trans hstatus, hr.trans hrom, hc.trans hcalls⟩)
    ⟨herror.1, herror.2, rfl, rfl⟩
  refine ⟨hstate, hstatus, hrom, hcalls, fun hq => ?_⟩
  have hreports := Serial.reports hstep' hq
  rwa [hstate, hstatus] at hreports

/-- The host polls twice after the failure. In between it sends a block whose packet does not come, a
command that the handler does not know, and a DNLOAD with `wValue = 1`. -/
def polledRun : List Action :=
  failedErase ++ poll ++ send (DFU_REQ.DNLOAD.transfer 2 1 [0x00]) [[]] ++
    send (DFU_REQ.DNLOAD.transfer 0 1 [0x99]) [[.out fun _ => 0x99]] ++
    send (DFU_REQ.DNLOAD.transfer 1 0 []) [] ++ poll

theorem polledRun_persists : ∃ (vs : List (Turn Rom)) (d' : Device Rom),
    Run (Serial reference) (Device.start Rom.blank) vs d' ∧ vs.map Visit.action = polledRun ∧
      vs[1]?.bind Turn.failure = some .errERASE ∧
      (vs.drop 2).countP (·.request = some .GETSTATUS) = 2 ∧
      ∀ u ∈ vs.drop 2, u.request = some .GETSTATUS → Reports u.before u.after .errERASE .dfuERROR := by
  obtain ⟨vs, d', hrun, has, hv, hcount, hquiet⟩ := exists_run
    (perform reference) polledRun (Device.start Rom.blank) (fun (vs : List (Turn Rom)) _ =>
      vs[1]?.bind Turn.failure = some .errERASE ∧
      (vs.drop 2).countP (·.request = some .GETSTATUS) = 2 ∧ ∀ u ∈ vs.drop 2, ¬ u.Starts)
    (by decide +kernel)
  refine ⟨vs, d', hrun, has, hv, hcount, fun u hu hget => ?_⟩
  obtain ⟨v, hi, hfail⟩ := Option.bind_eq_some_iff.mp hv
  obtain ⟨ms, ws, hsplit⟩ := List.append_of_mem hu
  exact ((failure_persists (hrun.split_at hi) hfail).1 ms u ws hsplit
    (fun m hm => hquiet m (by rw [hsplit]; exact List.mem_append_left _ hm))).2.2.2.2 hget

/-- A block of one byte behind the failure. -/
def programmedRun : List Action :=
  failedErase ++ send (DFU_REQ.DNLOAD.transfer 2 1 [0x00]) [[.out fun _ => 0]]

/-- A failure does not keep a block from the flash, although neither CLRSTATUS nor ABORT came. -/
theorem programmedRun_programs : ∃ (vs : List (Turn Rom)) (d' : Device Rom),
    Run (Serial reference) (Device.start Rom.blank) vs d' ∧
    vs.map Visit.action = programmedRun ∧ vs[1]?.bind Turn.failure = some .errERASE ∧
      (∀ u ∈ vs.drop 2, u.request ≠ some .CLRSTATUS ∧ u.request ≠ some .ABORT) ∧
      ∃ u ∈ vs.drop 2, u.after.rom.flash 0 ≠ u.before.rom.flash 0 :=
  exists_run (perform reference) programmedRun (Device.start Rom.blank)
    (fun (vs : List (Turn Rom)) _ => vs[1]?.bind Turn.failure = some .errERASE ∧
      (∀ u ∈ vs.drop 2, u.request ≠ some .CLRSTATUS ∧ u.request ≠ some .ABORT) ∧
      ∃ u ∈ vs.drop 2, u.after.rom.flash 0 ≠ u.before.rom.flash 0) (by decide +kernel)

end DfuSeBootloader.Dfu
