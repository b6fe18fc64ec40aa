import DfuSeBootloader.Dfu.Coherence

/-!
# Downloads without data

A DNLOAD with `wLength = 0` ends a download, but only in the state that a poll of the status leads to.
Otherwise it programs a block of zeros, or repeats the last command.
-/

namespace DfuSeBootloader.Dfu
open Program Memory Iap Usb
open EVENT_USB_Device_ControlRequest

variable {ρ : Type} {P : Platform ρ} {w w' : List (List Event)} {d d' : Device ρ} {v : Turn ρ}

/-! ## The effect of an empty request -/

/-- Nothing is erased or programmed, and the address stays. -/
structure Session.Untouched (s s' : Session ρ) : Prop where
  flashCalls : s'.flashCalls = s.flashCalls
  rom : s'.rom = s.rom
  address : s'.address = s.address

/-- What `firmware_data` holds makes a command do nothing. -/
def CommandHarmless (d : Device ρ) : Prop :=
  d.firmware_data 0 ≠ 0x41 ∧
    (d.firmware_data 0 = 0x21 → addressAt d.firmware_data = d.CurrentAddr)

theorem session_finish_state (s : DFU_State_t) (f : Endpoint → Endpoint) :
    session (finish ({ d with DFU_State := s }.onEp f)) = { session d with state := s } := by
  rw [session_finish, session_onEp, session_state]

theorem untouched_commanded_iff {size : Nat} :
    (session d).Untouched (session (commanded P size d)) ↔ CommandHarmless d := by
  rw [session_commanded_obey]
  unfold Session.obey CommandHarmless
  split
  · rename_i h0
    have hsame : (session d).Untouched (if 1 < size then
        { session d with state := .dfuDNBUSY, status := .OK } else session d) := by
      split <;> exact ⟨rfl, rfl, rfl⟩
    simp [hsame, h0]
  split
  · rename_i h1
    refine ⟨fun h => ⟨by simp [h1], fun _ => h.address⟩, fun h => ⟨rfl, rfl, h.2 h1⟩⟩
  split
  · rename_i h2
    refine iff_of_false (fun h => ?_) (fun h => h.1 h2)
    have hcalls := h.flashCalls
    simp [Session.eraseSector] at hcalls
  · rename_i h1 h2
    exact iff_of_true ⟨rfl, rfl, rfl⟩ ⟨h2, fun h => absurd h h1⟩

theorem not_untouched_programmed (block : Nat → UInt8) (s : Session ρ) :
    ¬ s.Untouched (s.programBlock P block) := by
  intro h
  have hcalls := h.flashCalls
  simp [Session.programBlock] at hcalls

/-! ## One pass -/

theorem eval_read_nothing : ∃ code,
    eval interrupt (Endpoint_Read_Stream_LE 0 0) w d = .done code w d := by
  by_cases hsize : d.ep.usb_data_buffer_size = 0
  · exact ⟨_, eval_Endpoint_Read_Stream_LE_empty hsize⟩
  · exact ⟨.ENDPOINT_RWSTREAM_NoError, by simp [Endpoint_Read_Stream_LE, readStreamLoop, hsize]⟩

theorem untouched_empty_command (h : eval interrupt (dnload P 0 0) w d = .done () w' d') :
    (session d).Untouched (session d') ↔
      ((afterWait w d).ep.isOutReceived = true → CommandHarmless d) := by
  rw [eval_dnload_command] at h
  cases ho : (afterWait w d).ep.isOutReceived with
  | false =>
      rw [eval_command_missed ho] at h
      cases h
      refine iff_of_true ?_ (fun h => nomatch h)
      rw [if_neg Bool.false_ne_true, session_finish, session_onEp, session_afterWait]
      exact ⟨rfl, rfl, rfl⟩
  | true =>
      have hread := eval_read_nothing (w := w.tail) (d := afterWait w d)
      obtain ⟨code, hread⟩ := hread
      rw [eval_command_ready ho, hread] at h
      cases h
      rw [if_pos rfl, session_closed]
      have hiff := @untouched_commanded_iff ρ P ((afterWait w d).onEp Endpoint.clearOUT) 0
      rw [session_onEp, session_afterWait] at hiff
      exact hiff.trans ⟨fun h _ => h, fun h => h rfl⟩

theorem untouched_empty_block {wValue : Nat} (hv : 2 ≤ wValue)
    (h : eval interrupt (dnload P wValue 0) w d = .done () w' d') :
    (session d).Untouched (session d') ↔ d.DFU_State = .dfuDNLOAD_IDLE := by
  rw [eval_dnload_block hv] at h
  by_cases hend : EndsDownload 0 d
  · rw [eval_block_end hend] at h
    cases h
    refine iff_of_true ?_ hend.1
    rw [if_neg Bool.false_ne_true, session_finish_state]
    exact ⟨rfl, rfl, rfl⟩
  · rw [eval_block hend] at h
    cases h
    refine iff_of_false ?_ (fun hstate => hend ⟨hstate, rfl⟩)
    rw [if_pos rfl, session_closed, session_programmed, session_zeroed]
    exact not_untouched_programmed _ _

/-! ## Runs -/

/-- An OUT packet with data is there when the wait of the handler ends. -/
def Turn.packetComes (v : Turn ρ) : Bool :=
  match v.action with
  | .interrupt _ => false
  | .task w => (afterWait w (entered v.before)).ep.isOutReceived

/-- The empty request is one that the handler passes over. -/
def Turn.Harmless (v : Turn ρ) : Prop :=
  v.wValue = 1 ∨ (2 ≤ v.wValue ∧ v.before.DFU_State = .dfuDNLOAD_IDLE) ∨
    (v.wValue = 0 ∧ (v.packetComes = true → CommandHarmless v.before))

def Turn.Untouched (v : Turn ρ) : Prop := (session v.before).Untouched (session v.after)

theorem Serial.untouched_iff (h : Serial P v.before v.action v.after)
    (hq : v.request = some .DNLOAD) (hlen : v.before.ep.SetupPackage.wLength = 0) :
    v.Untouched ↔ v.Harmless := by
  obtain ⟨d, a, d'⟩ := v
  cases a with
  | interrupt ev => cases hq
  | task w =>
      obtain ⟨w₁, d₁, heval, hsession⟩ := switch_of_perform h hq
      change d.ep.SetupPackage.wLength = 0 at hlen
      rw [hlen] at heval
      change eval interrupt (dnload P d.ep.SetupPackage.wValue.toNat 0) w (entered d) = _ at heval
      have hentered : session (entered d) = session d := session_accept
      simp only [Turn.Untouched, Turn.Harmless, Turn.wValue, Turn.packetComes, hsession]
      rcases Nat.lt_trichotomy d.ep.SetupPackage.wValue.toNat 1 with hv | hv | hv
      · rw [show d.ep.SetupPackage.wValue.toNat = 0 by omega] at heval ⊢
        have hiff := untouched_empty_command heval
        rw [hentered] at hiff
        refine hiff.trans ⟨fun h => .inr (.inr ⟨rfl, h⟩), ?_⟩
        rintro (h | h | h)
        · cases h
        · omega
        · exact h.2
      · rw [hv, eval_dnload_ignored] at heval
        cases heval
        refine iff_of_true ?_ (.inl hv)
        rw [session_closed, hentered]
        exact ⟨rfl, rfl, rfl⟩
      · have hiff := untouched_empty_block hv heval
        rw [hentered] at hiff
        refine hiff.trans ⟨fun hstate => .inr (.inl ⟨hv, hstate⟩), ?_⟩
        rintro (h | h | h)
        · omega
        · exact h.2
        · omega

/-- In every run, an empty DNLOAD leaves the flash and the address alone exactly where it is
harmless. -/
theorem empty_download_untouched_iff {vs : List (Turn ρ)} (hrun : Run (Serial P) d vs d') :
    ∀ v ∈ vs, v.request = some .DNLOAD → v.before.ep.SetupPackage.wLength = 0 →
      (v.Untouched ↔ v.Harmless) :=
  fun _ hv hq hlen => (hrun.step_of_mem hv).untouched_iff hq hlen

/-! ## The end of a download -/

/-- A block of three bytes at 0x1000. -/
def firstBlock : List Action :=
  send (DFU_REQ.DNLOAD.transfer 0 5 (commandData 0x21 0x1000)) [[.out fun _ => 0]] ++
    send (DFU_REQ.DNLOAD.transfer 2 3 [1, 2, 3]) [[.out fun _ => 0]]

def endDownload : List Action := send (DFU_REQ.DNLOAD.transfer 3 0 []) []

theorem polledEnd_untouched : ∃ (vs : List (Turn Rom)) (d' : Device Rom),
    Run (Serial reference) (Device.start Rom.blank) vs d' ∧
      vs.map Visit.action = firstBlock ++ poll ++ endDownload ∧
      ∃ v ∈ vs, v.request = some .DNLOAD ∧ v.before.ep.SetupPackage.wLength = 0 ∧ v.Untouched := by
  obtain ⟨vs, d', hrun, has, v, hv, hq, hlen, hvalue, hstate⟩ := exists_run (perform reference)
    (firstBlock ++ poll ++ endDownload) (Device.start Rom.blank) (fun (vs : List (Turn Rom)) _ =>
      ∃ v ∈ vs, v.request = some .DNLOAD ∧ v.before.ep.SetupPackage.wLength = 0 ∧
        2 ≤ v.wValue ∧ v.before.DFU_State = .dfuDNLOAD_IDLE) (by decide +kernel)
  exact ⟨vs, d', hrun, has, v, hv, hq, hlen,
    (empty_download_untouched_iff hrun v hv hq hlen).mpr (.inr (.inl ⟨hvalue, hstate⟩))⟩

/-- Without a poll the end of the download programs a block of zeros, and with it nothing. -/
theorem unpolledEnd_programs :
    (∃ (vs : List (Turn Rom)) (d' : Device Rom),
      Run (Serial reference) (Device.start Rom.blank) vs d' ∧
        vs.map Visit.action = firstBlock ++ endDownload ∧
        ∃ v ∈ vs, v.request = some .DNLOAD ∧ v.before.ep.SetupPackage.wLength = 0 ∧
          v.before.rom.flash 0x1200 = 0xFF ∧ v.after.rom.flash 0x1200 = 0 ∧
          v.before.CurrentAddr = 0x1200 ∧ v.after.CurrentAddr = 0x1400) ∧
    ∃ (vs : List (Turn Rom)) (d' : Device Rom),
      Run (Serial reference) (Device.start Rom.blank) vs d' ∧
        vs.map Visit.action = firstBlock ++ poll ++ endDownload ∧
        d'.rom.flash 0x1200 = 0xFF ∧ d'.CurrentAddr = 0x1200 :=
  ⟨exists_run (perform reference) (firstBlock ++ endDownload) (Device.start Rom.blank)
      (fun (vs : List (Turn Rom)) _ => ∃ v ∈ vs, v.request = some .DNLOAD ∧
        v.before.ep.SetupPackage.wLength = 0 ∧ v.before.rom.flash 0x1200 = 0xFF ∧
        v.after.rom.flash 0x1200 = 0 ∧ v.before.CurrentAddr = 0x1200 ∧
        v.after.CurrentAddr = 0x1400) (by decide +kernel),
    exists_run (perform reference) (firstBlock ++ poll ++ endDownload) (Device.start Rom.blank)
      (fun _ d' => d'.rom.flash 0x1200 = 0xFF ∧ d'.CurrentAddr = 0x1200) (by decide +kernel)⟩

end DfuSeBootloader.Dfu
