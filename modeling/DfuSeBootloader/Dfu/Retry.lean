import DfuSeBootloader.Dfu.Coherence
import DfuSeBootloader.Iap.Operations

/-!
# Blocks that fail

A block whose write fails is reported, and the flash is as before, but the address has moved on: the
host that sends the block again has it written 512 bytes further.
-/

namespace DfuSeBootloader.Dfu
open Program Memory Iap Usb

variable {ρ : Type} {P : Platform ρ} {s s' : Session ρ} {q : Option DFU_REQ} {wValue : Nat}
  {v : Turn ρ}

/-- A failed write leaves everything but the status as it was. -/
structure Turn.Atomic (P : Platform ρ) (v : Turn ρ) : Prop where
  flash : P.flash v.after.rom = P.flash v.before.rom
  address : v.after.CurrentAddr = v.before.CurrentAddr
  state : v.after.DFU_State = .dfuERROR
  status : v.after.DFU_Status = .errWRITE

namespace Session

/-- A step in which a write fails is that of a block. -/
theorem Step.failed_write (h : Session.Step P q wValue s s') (hf : s.failure s' = some .errWRITE) :
    ∃ block, s' = s.programBlock P block ∧
      (iap_write P s.address DFU_TRANSFER_SIZE block s.rom).1 = false := by
  cases h with
  | eraseSector a =>
      rw [failure_of_snoc rfl] at hf
      cases hr : (iap_erase P a s.rom).1 <;> rw [hr] at hf <;> cases hf
  | programBlock block hv =>
      rw [failure_of_snoc rfl] at hf
      refine ⟨block, rfl, ?_⟩
      cases hr : (iap_write P s.address DFU_TRANSFER_SIZE block s.rom).1 with
      | true => rw [hr] at hf; cases hf
      | false => rfl
  | _ => simp [failure] at hf

theorem Step.address (h : Session.Step P q wValue s s') (hd : q ≠ some .DNLOAD)
    (hu : q ≠ some .UPLOAD) : s'.address = s.address := by
  cases h with
  | setAddress a => exact absurd rfl hd
  | programBlock block hv => exact absurd rfl hd
  | upload n => exact absurd rfl hu
  | _ => rfl

end Session

theorem add_512_ne (a : UInt32) : a + DFU_TRANSFER_SIZE.toUInt32 ≠ a := by
  intro h
  have h := congrArg UInt32.toNat h
  rw [UInt32.toNat_add] at h
  change (a.toNat + 512) % 2 ^ 32 = a.toNat at h
  have hlt := a.toNat_lt
  omega

theorem Serial.failed_write (h : Serial P v.before v.action v.after)
    (hfail : v.failure = some .errWRITE) :
    v.after.CurrentAddr = v.before.CurrentAddr + DFU_TRANSFER_SIZE.toUInt32 := by
  obtain ⟨block, hs, -⟩ := (Serial.step h).failed_write hfail
  exact congrArg Session.address hs

/-- On a ROM that does all or nothing, everything but the address is as it should be. -/
theorem failed_write_keeps_flash {prepared : ρ → Nat → Prop} (hP : AllOrNothing P prepared)
    (h : Serial P v.before v.action v.after) (hfail : v.failure = some .errWRITE) :
    P.flash v.after.rom = P.flash v.before.rom ∧ v.after.DFU_State = .dfuERROR ∧
      v.after.DFU_Status = .errWRITE := by
  obtain ⟨block, hs, hfalse⟩ := (Serial.step h).failed_write hfail
  have hrom : v.after.rom =
      (iap_write P v.before.CurrentAddr DFU_TRANSFER_SIZE block v.before.rom).2 :=
    congrArg Session.rom hs
  refine ⟨?_, (Serial.step h).of_failure hfail⟩
  rw [hrom]
  exact (iap_write_reports hP _ _ _ _).failure hfalse

/-- A write that fails is never atomic. -/
theorem failed_write_not_atomic (h : Serial P v.before v.action v.after)
    (hfail : v.failure = some .errWRITE) : ¬ v.Atomic P := by
  intro hatomic
  exact add_512_ne _ ((Serial.failed_write h hfail).symm.trans hatomic.address)

/-- The block that is sent again finds the address 512 bytes behind the first one. -/
theorem retried_block_moved {us : List (Turn ρ)} {d d' : Device ρ}
    (hrun : Run (Serial P) d (v :: us) d') (hfail : v.failure = some .errWRITE)
    (hd : ∀ u ∈ us, u.request ≠ some .DNLOAD) (hu : ∀ u ∈ us, u.request ≠ some .UPLOAD) :
    d'.CurrentAddr = v.before.CurrentAddr + DFU_TRANSFER_SIZE.toUInt32 := by
  have hsplit : Run (Serial P) d ([] ++ v :: us) d' := hrun
  obtain ⟨-, hstep, hus⟩ := hsplit.split_cons
  refine (hus.invariant (I := fun d₁ : Device ρ => d₁.CurrentAddr =
    v.before.CurrentAddr + DFU_TRANSFER_SIZE.toUInt32) (fun u hmem hst hI => ?_)
    (Serial.failed_write hstep hfail)).2
  have haddr : u.after.CurrentAddr = u.before.CurrentAddr :=
    (Serial.step hst).address (hd u hmem) (hu u hmem)
  exact haddr.trans hI

/-! ## A session with a retry -/

/-- The address is set to 0x0F00, where the ROM refuses a block because it reaches into the next
sector. After CLRSTATUS the block is sent again. -/
def retriedRun : List Action :=
  send (DFU_REQ.DNLOAD.transfer 0 5 (commandData 0x21 0x0F00)) [[.out fun _ => 0]] ++
    send (DFU_REQ.DNLOAD.transfer 2 3 [1, 2, 3]) [[.out fun _ => 0]] ++
    send (DFU_REQ.CLRSTATUS.transfer 0 0 []) [] ++
    send (DFU_REQ.DNLOAD.transfer 2 3 [1, 2, 3]) [[.out fun _ => 0]]

theorem retriedRun_not_atomic : ∃ (vs : List (Turn Rom)) (d' : Device Rom),
    Run (Serial reference) (Device.start Rom.blank) vs d' ∧ vs.map Visit.action = retriedRun ∧
      ∃ v ∈ vs, v.request = some .DNLOAD ∧ v.wValue = 2 ∧ v.failure = some .errWRITE ∧
        ¬ v.Atomic reference := by
  obtain ⟨vs, d', hrun, has, v, hv, hq, hvalue, hfail⟩ := exists_run (perform reference) retriedRun
    (Device.start Rom.blank) (fun (vs : List (Turn Rom)) _ => ∃ v ∈ vs,
      v.request = some .DNLOAD ∧ v.wValue = 2 ∧ v.failure = some .errWRITE) (by decide +kernel)
  exact ⟨vs, d', hrun, has, v, hv, hq, hvalue, hfail,
    failed_write_not_atomic (hrun.step_of_mem hv) hfail⟩

/-- The second attempt succeeds, and the block is at 0x1100 and not at 0x0F00. -/
theorem retriedRun_misplaces : ∃ (vs : List (Turn Rom)) (d' : Device Rom),
    Run (Serial reference) (Device.start Rom.blank) vs d' ∧ vs.map Visit.action = retriedRun ∧
      (∃ v ∈ vs, v.failure = some .errWRITE ∧ v.before.CurrentAddr = 0x0F00 ∧
        v.after.CurrentAddr = 0x1100) ∧
      d'.DFU_Status = .OK ∧ d'.rom.flash 0x1100 = 1 ∧ d'.rom.flash 0x0F00 = 0xFF :=
  exists_run (perform reference) retriedRun (Device.start Rom.blank)
    (fun (vs : List (Turn Rom)) d' => (∃ v ∈ vs, v.failure = some .errWRITE ∧
      v.before.CurrentAddr = 0x0F00 ∧ v.after.CurrentAddr = 0x1100) ∧
      d'.DFU_Status = .OK ∧ d'.rom.flash 0x1100 = 1 ∧ d'.rom.flash 0x0F00 = 0xFF) (by decide +kernel)

end DfuSeBootloader.Dfu
