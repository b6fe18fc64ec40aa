import DfuSeBootloader.Dfu.Run
import DfuSeBootloader.Iap.Reference

/-!
# State and status

What GETSTATUS tells the host about the session: the state and the status agree unless an ABORT comes
after a failure.
-/

namespace DfuSeBootloader.Dfu
open Program Memory Iap Usb

variable {ρ : Type} {P : Platform ρ} {d d' : Device ρ} {vs : List (Turn ρ)}

/-! ## Agreement -/

/-- The pairs that make sense to a host. -/
def Coherent (state : DFU_State_t) (status : DFU_Status_t) : Prop :=
  state ∈ [.dfuIDLE, .dfuDNBUSY, .dfuDNLOAD_IDLE, .dfuERROR] ∧
    status ∈ [.OK, .errWRITE, .errERASE] ∧ (state = .dfuERROR ↔ status ≠ .OK)

instance (state : DFU_State_t) (status : DFU_Status_t) : Decidable (Coherent state status) :=
  inferInstanceAs (Decidable (_ ∧ _ ∧ _))

theorem coherent_idle : Coherent .dfuIDLE .OK := by decide

theorem coherent_busy : Coherent .dfuDNBUSY .OK := by decide

theorem Coherent.ok {state : DFU_State_t} {status : DFU_Status_t} (h : Coherent state status)
    (hne : state ≠ .dfuERROR) : status = .OK :=
  not_not.mp (fun hs => hne (h.2.2.mpr hs))

namespace Session.Step

variable {q : Option DFU_REQ} {wValue : Nat} {s s' : Session ρ}

/-- Only an ABORT can tear state and status apart. -/
theorem coherent (h : Session.Step P q wValue s s') (hs : Coherent s.state s.status)
    (hq : q = some .ABORT → s.status = .OK) : Coherent s'.state s'.status := by
  cases h with
  | ignored => exact hs
  | skipped => exact hs
  | getCommands => exact coherent_busy
  | setAddress a => exact coherent_busy
  | eraseSector a =>
      simp only [Session.eraseSector]
      split <;> decide
  | endDownload hv hidle =>
      change Coherent .dfuIDLE s.status
      rw [hs.ok (by simp [hidle])]
      exact coherent_idle
  | programBlock block hv =>
      simp only [Session.programBlock]
      split <;> decide
  | uploadMissed => exact hs
  | upload n => exact coherent_busy
  | getStatus =>
      by_cases hbusy : s.state = .dfuDNBUSY
      · simp only [hbusy, if_true, hs.ok (by simp [hbusy])]
        decide
      · simpa only [if_neg hbusy] using hs
  | clrStatus => exact coherent_idle
  | getState => exact hs
  | abort =>
      change Coherent .dfuIDLE s.status
      rw [hq rfl]
      exact coherent_idle
  | detach => exact hs

theorem of_none (h : Session.Step P none wValue s s') : s' = s := by
  cases h; rfl

theorem of_abort (h : Session.Step P (some .ABORT) wValue s s') :
    s'.state = .dfuIDLE ∧ s'.status = s.status := by
  cases h; exact ⟨rfl, rfl⟩

theorem of_getStatus (h : Session.Step P (some .GETSTATUS) wValue s s') :
    s'.state ≠ .dfuDNBUSY := by
  cases h
  change (if s.state = .dfuDNBUSY then DFU_State_t.dfuDNLOAD_IDLE else s.state) ≠ .dfuDNBUSY
  split
  · exact fun h => nomatch h
  · assumption

end Session.Step

/-- What a host may rely on in the steps of a run. -/
structure Reliable (vs : List (Turn ρ)) : Prop where
  coherent : ∀ v ∈ vs, Coherent v.after.DFU_State v.after.DFU_Status
  reply : ∀ v ∈ vs, v.request = some .GETSTATUS →
    ∃ status state, Reports v.before v.after status state ∧ Coherent state status
  /-- The second of two GETSTATUS, with no other request between them. -/
  second : ∀ us v ms v' ws, vs = us ++ v :: (ms ++ v' :: ws) → v.request = some .GETSTATUS →
    (∀ m ∈ ms, m.request = none) → v'.request = some .GETSTATUS →
      ∃ status state, Reports v'.before v'.after status state ∧ state ≠ .dfuDNBUSY

/-- Between two GETSTATUS nothing makes the device busy. -/
theorem reports_second (hrun : Run (Serial P) d vs d') {us ms ws : List (Turn ρ)} {v v' : Turn ρ}
    (hvs : vs = us ++ v :: (ms ++ v' :: ws)) (hv : v.request = some .GETSTATUS)
    (hms : ∀ m ∈ ms, m.request = none) (hv' : v'.request = some .GETSTATUS) :
    ∃ status state, Reports v'.before v'.after status state ∧ state ≠ .dfuDNBUSY := by
  subst hvs
  obtain ⟨-, hstep, hrest⟩ := hrun.split_cons
  obtain ⟨hmid, hstep', -⟩ := hrest.split_cons
  refine ⟨_, _, Serial.reports hstep' hv', ?_⟩
  have hbusy : v.after.DFU_State ≠ .dfuDNBUSY := by
    have h := Serial.step hstep
    rw [hv] at h
    exact h.of_getStatus
  refine (hmid.invariant (I := fun d => d.DFU_State ≠ .dfuDNBUSY) (fun m hm hst hI => ?_) hbusy).2
  have h := Serial.step hst
  rw [hms m hm] at h
  rwa [show m.after.DFU_State = m.before.DFU_State from congrArg Session.state h.of_none]

/-- From `dfuIDLE` and `OK` on, a run is reliable exactly when no ABORT comes after a failure. -/
theorem reliable_iff (hrun : Run (Serial P) d vs d') (hstate : d.DFU_State = .dfuIDLE)
    (hstatus : d.DFU_Status = .OK) :
    Reliable vs ↔ ∀ v ∈ vs, v.request = some .ABORT → v.before.DFU_Status = .OK := by
  constructor
  · intro h v hv hq
    have hst := Serial.step (hrun.step_of_mem hv)
    rw [hq] at hst
    have hafter := h.coherent v hv
    have hidle : v.after.DFU_State = .dfuIDLE := hst.of_abort.1
    exact hst.of_abort.2.symm.trans (hafter.ok (by rw [hidle]; decide))
  · intro h
    have hinit : Coherent d.DFU_State d.DFU_Status := by
      rw [hstate, hstatus]
      exact coherent_idle
    obtain ⟨hall, -⟩ := hrun.invariant (I := fun d => Coherent d.DFU_State d.DFU_Status)
      (fun v hv hst hI => (Serial.step hst).coherent hI (h v hv)) hinit
    exact {
      coherent := fun v hv => (hall v hv).2.2
      reply := fun v hv hq => ⟨_, _, Serial.reports (hall v hv).1 hq, (hall v hv).2.1⟩
      second := fun us v ms v' ws => reports_second hrun }

/-- A command to erase the sector of an address behind the flash. -/
def failedErase : List Action :=
  send (DFU_REQ.DNLOAD.transfer 0 5 (commandData 0x41 0x80000)) [[.out fun _ => 0]]

def poll : List Action := send (DFU_REQ.GETSTATUS.transfer 0 6 []) []

def clearedRun : List Action :=
  failedErase ++ poll ++ send (DFU_REQ.CLRSTATUS.transfer 0 0 []) [] ++
    send (DFU_REQ.ABORT.transfer 0 0 []) []

/-- CLRSTATUS before the ABORT keeps the run reliable. -/
theorem clearedRun_reliable : ∃ vs d', Run (Serial reference) (Device.start Rom.blank) vs d' ∧
    vs.map Visit.action = clearedRun ∧ Reliable vs := by
  obtain ⟨vs, d', hrun, has, hok⟩ := exists_run (perform reference) clearedRun
    (Device.start Rom.blank) (fun (vs : List (Turn Rom)) _ =>
      ∀ v ∈ vs, v.request = some .ABORT → v.before.DFU_Status = .OK) (by decide +kernel)
  exact ⟨vs, d', hrun, has, (reliable_iff hrun rfl rfl).mpr hok⟩

def abortedRun : List Action :=
  failedErase ++ send (DFU_REQ.ABORT.transfer 0 0 []) [] ++ poll

/-- An ABORT behind a failure leaves `dfuIDLE` with the code of the failure, and GETSTATUS reports the
two. -/
theorem abortedRun_not_reliable : ∃ vs d', Run (Serial reference) (Device.start Rom.blank) vs d' ∧
    vs.map Visit.action = abortedRun ∧
    ¬ Reliable vs ∧ d'.ep.tx.getLast? = some (statusReply .errERASE .dfuIDLE) := by
  obtain ⟨vs, d', hrun, has, ⟨v, hv, hne⟩, htx⟩ := exists_run (perform reference)
    abortedRun (Device.start Rom.blank)
    (fun vs d' => (∃ v ∈ vs, ¬ Coherent v.after.DFU_State v.after.DFU_Status) ∧
      d'.ep.tx.getLast? = some (statusReply .errERASE .dfuIDLE)) (by decide +kernel)
  exact ⟨vs, d', hrun, has, fun h => hne (h.coherent v hv), htx⟩

/-! ## Failures -/

/-- The status that a failed call of an IAP function leads to. -/
def failureOf : Call → Option DFU_Status_t
  | .iap_write _ _ false => some .errWRITE
  | .iap_erase _ false => some .errERASE
  | _ => none

namespace Session

/-- The failure between two states of a session. -/
def failure (s s' : Session ρ) : Option DFU_Status_t :=
  (s'.flashCalls.drop s.flashCalls.length).head?.bind failureOf

variable {q : Option DFU_REQ} {wValue : Nat} {s s' : Session ρ}

theorem failure_of_snoc {c : Call} (h : s'.flashCalls = s.flashCalls ++ [c]) :
    s.failure s' = failureOf c := by
  simp [failure, h]

theorem Step.of_failure {status : DFU_Status_t} (h : Session.Step P q wValue s s')
    (hf : s.failure s' = some status) : s'.state = .dfuERROR ∧ s'.status = status := by
  cases h with
  | eraseSector a =>
      rw [failure_of_snoc rfl] at hf
      simp only [Session.eraseSector]
      cases hr : (iap_erase P a s.rom).1 with
      | true => rw [hr] at hf; cases hf
      | false => rw [hr] at hf; exact ⟨rfl, Option.some.inj hf⟩
  | programBlock block hv =>
      rw [failure_of_snoc rfl] at hf
      simp only [Session.programBlock]
      cases hr : (iap_write P s.address DFU_TRANSFER_SIZE block s.rom).1 with
      | true => rw [hr] at hf; cases hf
      | false => rw [hr] at hf; exact ⟨rfl, Option.some.inj hf⟩
  | _ => simp [failure] at hf

end Session

/-- The failure of an IAP function in a step. -/
def Turn.failure (v : Turn ρ) : Option DFU_Status_t := (session v.before).failure (session v.after)

end DfuSeBootloader.Dfu
