import DfuSeBootloader.Dfu.Lemmas.Exchange
import DfuSeBootloader.Iap.Lemmas.Flash
import DfuSeBootloader.Iap.Reference

/-!
# Where the flash changes

In a run of exchanges the flash changes only where the host has asked for it, and so does the address
of the next block.
-/

namespace DfuSeBootloader.Dfu
open Program Memory Iap Usb

variable {ρ : Type} {P : Platform ρ} {w : List (List Event)} {d d' : Device ρ} {t : ControlTransfer}
  {vs : List (Round ρ)}

/-! ## Requests -/

/-- The address of a command with this code. -/
def Exchange.command (code : UInt8) : Exchange → Option UInt32
  | .request t _ =>
      if dfuRequest t.toUSB_Request_Header_t = some .DNLOAD ∧ t.wValue.toNat = 0 ∧
          padded 0 t.data 0 = code then
        some (addressAt (padded 0 t.data))
      else none
  | .between _ => none

/-- A DNLOAD with `wValue >= 2`. -/
def Exchange.IsBlock : Exchange → Prop
  | .request t _ => dfuRequest t.toUSB_Request_Header_t = some .DNLOAD ∧ 2 ≤ t.wValue.toNat
  | .between _ => False

def Exchange.IsUpload : Exchange → Prop
  | .request t _ => dfuRequest t.toUSB_Request_Header_t = some .UPLOAD
  | .between _ => False

/-- A command carries at least five bytes. -/
def Exchange.LongCommand : Exchange → Prop
  | .request t _ => dfuRequest t.toUSB_Request_Header_t = some .DNLOAD → t.wValue.toNat = 0 →
      5 ≤ t.data.length
  | .between _ => True

instance : DecidablePred Exchange.LongCommand
  | .request t _ => inferInstanceAs (Decidable (dfuRequest t.toUSB_Request_Header_t = some .DNLOAD →
      t.wValue.toNat = 0 → 5 ≤ t.data.length))
  | .between _ => inferInstanceAs (Decidable True)

/-- The addresses that a round may touch: the sector of an erase command, or the window of a block. -/
def Round.window (v : Round ρ) : Set Nat :=
  {a | (∃ address, v.action.command 0x41 = some address ∧
        ∃ i, InSector i address.toNat ∧ InSector i a) ∨
      (v.action.IsBlock ∧ v.before.CurrentAddr.toNat ≤ a ∧ a < v.before.CurrentAddr.toNat + 512)}

/-- The round may change the address of the next block. -/
def Round.MovesAddress (v : Round ρ) : Prop :=
  (v.action.command 0x21).isSome = true ∨ v.action.IsBlock ∨ v.action.IsUpload

/-! ## One request -/

/-- A command that comes to an end was obeyed, or it has changed nothing. -/
theorem of_exchange_command (h : Idle d) (ht : Download t w) (hv : t.wValue.toNat = 0)
    (hlong : 5 ≤ t.data.length) (hx : exchange P (.request t w) d = some d') :
    session d' = (session d).command P t.data ∨ session d' = session d := by
  have hw := begun_waiting (t := t) h
  have hl : t.data ≠ [] := List.length_pos_iff.mp (by omega)
  obtain ⟨w₁, d₁, heval, hend⟩ := switch_of_exchange h (isClassInterface_of_dfuRequest ht.request) hx
  rw [ht.request, EVENT_USB_Device_ControlRequest.switch, hv, ← ht.length,
    eval_dnload_command] at heval
  cases harr : arrives (w.headD []) with
  | true =>
      rw [eval_command_arrived hl hw rfl ht.undisturbed harr] at heval
      split at heval
      · rename_i hfit
        obtain ⟨d₂, hd₂, -, hs⟩ := exchange_command (P := P) h ht hv hlong hfit harr
        obtain rfl := Option.some.inj (hx.symm.trans hd₂)
        exact .inl hs
      · cases heval
  | false =>
      rw [eval_command_missed (hw.missed rfl ht.undisturbed.headD harr).out] at heval
      cases heval
      right
      obtain rfl := hend (setup_finish.trans (setup_afterWait hw.setup ht.undisturbed))
      exact session_finish.trans session_begun

section Confined

variable (hP : Confined P)
include hP

/-- A request that is no command touches the window of a block, or nothing. -/
theorem Session.Step.confined {q : Option DFU_REQ} {wValue : Nat} {s s' : Session ρ}
    (h : Session.Step P q wValue s s') (hq : q = some .DNLOAD → wValue ≠ 0) :
    Changed (P.flash s.rom) (P.flash s'.rom) ⊆
        {a | (q = some .DNLOAD ∧ 2 ≤ wValue) ∧ s.address.toNat ≤ a ∧ a < s.address.toNat + 512} ∧
      (s'.address ≠ s.address → (q = some .DNLOAD ∧ 2 ≤ wValue) ∨ q = some .UPLOAD) := by
  cases h with
  | getCommands => exact absurd rfl (hq rfl)
  | setAddress a => exact absurd rfl (hq rfl)
  | eraseSector a => exact absurd rfl (hq rfl)
  | programBlock block hv =>
      exact ⟨fun a ha => ⟨⟨rfl, hv⟩, changed_iap_write hP ha⟩, fun _ => .inl ⟨rfl, hv⟩⟩
  | upload n =>
      rw [changed_self]
      exact ⟨Set.empty_subset _, fun _ => .inr rfl⟩
  | _ =>
      rw [changed_self]
      exact ⟨Set.empty_subset _, fun hne => absurd rfl hne⟩

/-- A command touches the sector that it names, where it is an erase. -/
theorem Session.command_confined (l : List UInt8) (s : Session ρ) :
    Changed (P.flash s.rom) (P.flash (s.command P l).rom) ⊆
        {a | padded 0 l 0 = 0x41 ∧ ∃ i, InSector i (addressAt (padded 0 l)).toNat ∧ InSector i a} ∧
      ((s.command P l).address ≠ s.address → padded 0 l 0 = 0x21) := by
  have hnone : Changed (P.flash s.rom) (P.flash s.rom) ⊆
      {a | padded 0 l 0 = 0x41 ∧ ∃ i, InSector i (addressAt (padded 0 l)).toNat ∧ InSector i a} := by
    rw [changed_self]
    exact Set.empty_subset _
  simp only [Session.command]
  split
  · split <;> exact ⟨hnone, fun hne => absurd rfl hne⟩
  split
  · exact ⟨hnone, fun _ => ‹_›⟩
  split
  · exact ⟨fun a ha => ⟨‹_›, changed_iap_erase hP ha⟩, fun hne => absurd rfl hne⟩
  · exact ⟨hnone, fun hne => absurd rfl hne⟩

theorem Exchanges.confined {v : Round ρ} (hx : Exchanges P v.before v.action v.after)
    (h : Idle v.before) (ho : v.action.Orderly) (hl : v.action.LongCommand) :
    Changed (P.flash v.before.rom) (P.flash v.after.rom) ⊆ v.window ∧
      (v.after.CurrentAddr ≠ v.before.CurrentAddr → v.MovesAddress) := by
  obtain ⟨d, x, d'⟩ := v
  cases x with
  | between ev =>
      obtain rfl : interrupt ev d = d' := Option.some.inj hx
      exact ⟨(changed_self _).le.trans (Set.empty_subset _), fun hne => absurd rfl hne⟩
  | request t w =>
      by_cases hcmd : dfuRequest t.toUSB_Request_Header_t = some .DNLOAD ∧ t.wValue.toNat = 0
      · obtain ⟨hq, hv⟩ := hcmd
        obtain ⟨-, hund, hdata⟩ := ho
        rw [if_pos hq] at hdata
        have hcases := of_exchange_command h ⟨hq, hdata, hund⟩ hv (hl hq hv) hx
        have hcommand (code : UInt8) (hcode : padded 0 t.data 0 = code) :
            (Exchange.request t w).command code = some (addressAt (padded 0 t.data)) :=
          if_pos ⟨hq, hv, hcode⟩
        have hrom : d'.rom = (session d').rom := rfl
        have haddr : d'.CurrentAddr = (session d').address := rfl
        obtain ⟨hflash, hmoves⟩ := Session.command_confined hP t.data (session d)
        rcases hcases with hs | hs
        · rw [hrom, haddr, hs]
          refine ⟨fun a ha => .inl ?_, fun hne => .inl ?_⟩
          · obtain ⟨hcode, hi⟩ := hflash ha
            exact ⟨_, hcommand _ hcode, hi⟩
          · rw [hcommand _ (hmoves hne)]
            rfl
        · rw [hrom, haddr, hs]
          exact ⟨(changed_self _).le.trans (Set.empty_subset _), fun hne => absurd rfl hne⟩
      · obtain ⟨hflash, hmoves⟩ := (step_exchange h.attached hx).confined hP
          (fun hq hv => hcmd ⟨hq, hv⟩)
        exact ⟨fun a ha => .inr (hflash ha), fun hne => .inr (hmoves hne)⟩

/-- In every run of exchanges the flash changes only in the sectors of erase commands and in the
windows of blocks, and the address only with a request that says so. -/
theorem flash_confined (hrun : Run (Exchanges P) d vs d') (hidle : Idle d)
    (horderly : ∀ v ∈ vs, v.action.Orderly) (hlong : ∀ v ∈ vs, v.action.LongCommand) :
    Changed (P.flash d.rom) (P.flash d'.rom) ⊆ {a | ∃ v ∈ vs, a ∈ Round.window v} ∧
      ∀ v ∈ vs, v.after.CurrentAddr ≠ v.before.CurrentAddr → Round.MovesAddress v := by
  obtain ⟨hidles, -⟩ := hrun.invariant (I := Idle) (fun v hv hx h => (horderly v hv).idle h hx) hidle
  refine ⟨?_, fun v hv => ((hidles v hv).1.confined hP (hidles v hv).2.1 (horderly v hv)
    (hlong v hv)).2⟩
  refine (hrun.invariant (I := fun d₁ : Device ρ => Changed (P.flash d.rom) (P.flash d₁.rom) ⊆
    {a | ∃ v ∈ vs, a ∈ Round.window v}) (fun v hv hx hI => ?_)
    ((changed_self _).le.trans (Set.empty_subset _))).2
  refine (changed_trans _ (P.flash v.before.rom) _).trans (Set.union_subset hI fun a ha => ⟨v, hv, ?_⟩)
  exact (hx.confined hP (hidles v hv).2.1 (horderly v hv) (hlong v hv)).1 ha

end Confined

/-- Sector 1 is erased, then a block of three bytes is programmed into it. -/
def eraseAndProgram : List Exchange :=
  [.request (DFU_REQ.DNLOAD.transfer 0 5 (commandData 0x41 0x1000)) [[.out fun _ => 0]],
    .request (DFU_REQ.DNLOAD.transfer 0 5 (commandData 0x21 0x1200)) [[.out fun _ => 0]],
    .between .inComplete,
    .request (DFU_REQ.DNLOAD.transfer 2 3 [1, 2, 3]) [[.out fun _ => 0]]]

theorem eraseAndProgram_confined : ∃ (vs : List (Round Rom)) (d' : Device Rom),
    Run (Exchanges reference) (Device.start Rom.blank) vs d' ∧
      vs.map Visit.action = eraseAndProgram ∧
      d'.rom.flash 0x1201 = 2 ∧
      Changed Rom.blank.flash d'.rom.flash ⊆ {a | ∃ v ∈ vs, a ∈ Round.window v} := by
  obtain ⟨vs, d', hrun, has, horderly, hlong, hflash⟩ := exists_run (exchange reference)
    eraseAndProgram (Device.start Rom.blank) (fun (vs : List (Round Rom)) d' =>
      (∀ v ∈ vs, v.action.Orderly) ∧ (∀ v ∈ vs, v.action.LongCommand) ∧
        d'.rom.flash 0x1201 = 2) (by decide +kernel)
  exact ⟨vs, d', hrun, has, hflash,
    (flash_confined reference_confined hrun (idle_start _) horderly hlong).1⟩

end DfuSeBootloader.Dfu
