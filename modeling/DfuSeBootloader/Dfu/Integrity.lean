import DfuSeBootloader.Dfu.Lemmas.Integrity
import DfuSeBootloader.Dfu.Run
import DfuSeBootloader.Iap.Reference

/-!
# What reaches the flash

Under any order of interrupts and accesses, a block that is programmed is the block that the host has
sent with the request, as long as the flags are in step when a block begins.
-/

namespace DfuSeBootloader.Dfu
open Program Memory Iap Usb

variable {ρ : Type} {P : Platform ρ} {d : Device ρ}

/-- The steps of the task and of the interrupts. -/
def TaskMoves (P : Platform ρ) (c : TaskConfig ρ) (m : Move Event) (c' : TaskConfig ρ) : Prop :=
  taskMove P m c = some c'

variable {c c' : TaskConfig ρ} {m : Move Event}

/-- The host sends a DNLOAD with its announced data. -/
def HostSupplies : Move Event → Prop
  | .event ev => Sendable ev
  | _ => True

/-- The flags are in step where a block begins. -/
def BeginsInStep : Move Event → TaskConfig ρ → Prop
  | .access, c => c.1.next = some (.CMD_CLR_BUF .handlerClearSETUP) →
      IsBlock c.2.USB_ControlRequest → InStep c.2
  | _, _ => True

instance : DecidablePred Sendable
  | .setup t => inferInstanceAs (Decidable (Announced t))
  | .out _ => .isTrue trivial
  | .zlp => .isTrue trivial
  | .inComplete => .isTrue trivial

instance : DecidablePred HostSupplies
  | .event ev => inferInstanceAs (Decidable (Sendable ev))
  | .access => .isTrue trivial
  | .again => .isTrue trivial

instance : (m : Move Event) → (c : TaskConfig ρ) → Decidable (BeginsInStep m c)
  | .event _, _ => .isTrue trivial
  | .access, c => inferInstanceAs (Decidable (c.1.next = _ → IsBlock c.2.USB_ControlRequest → InStep c.2))
  | .again, _ => .isTrue trivial

/-- The task keeps to its contract. -/
def Careful (c : TaskConfig ρ) : Prop := wp integrity (fun _ => Good) c.1 c.2

theorem Careful.step (h : Careful c) (hst : TaskMoves P c m c') (hhost : HostSupplies m)
    (hstep : BeginsInStep m c) : Careful c' := by
  refine wp_loop h hst (fun _ _ hd => task_loop_good _ hd) ?_ ?_ ?_
  · rintro ev rfl op -
    exact ⟨ev, hhost, rfl⟩
  · rintro ev rfl reset - hd
    exact hd.interrupt hhost
  · rintro rfl op hop rfl
    exact hstep hop

/-- Whatever the order of the steps, a block is intact when it is programmed. -/
theorem programmed_intact {vs : List (Visit (TaskConfig ρ) (Move Event))}
    (hrun : Run (TaskMoves P) (task_loop P, d) vs c') (hd : Good d)
    (hhost : ∀ v ∈ vs, HostSupplies v.action) (hstep : ∀ v ∈ vs, BeginsInStep v.action v.before) :
    ∀ v ∈ vs, v.before.1.next = some .iap_write → Intact v.before.2 := by
  obtain ⟨hall, -⟩ := hrun.invariant (I := Careful)
    (fun v hv hst h => h.step hst (hhost v hv) (hstep v hv)) (task_loop_good d hd)
  intro v hv hnext
  exact wp_next (hall v hv).2.1 hnext rfl

/-- A DNLOAD with one byte. -/
def oneByte (wValue : UInt16) (b : UInt8) : ControlTransfer := DFU_REQ.DNLOAD.transfer wValue 1 [b]

/-- The byte of a block comes while the handler waits for it. -/
def promptRun : List (Move Event) :=
  .event (.setup (oneByte 2 0xAA)) :: List.replicate 21 .access ++
    [.event (.out fun _ => 0)] ++ List.replicate 12 .access

theorem promptRun_intact : ∃ (vs : List (Visit (TaskConfig Rom) (Move Event))) (c' : TaskConfig Rom),
    Run (TaskMoves reference) (task_loop reference, Device.start Rom.blank) vs c' ∧
      vs.map Visit.action = promptRun ∧
      ∃ v ∈ vs, v.before.1.next = some .iap_write ∧ Intact v.before.2 := by
  obtain ⟨vs, c', hrun, has, hhost, hstep, v, hv, hnext⟩ := exists_run (taskMove reference) promptRun
    (task_loop reference, Device.start Rom.blank) (fun vs _ =>
      (∀ v ∈ vs, HostSupplies v.action) ∧ (∀ v ∈ vs, BeginsInStep v.action v.before) ∧
      ∃ v ∈ vs, v.before.1.next = some .iap_write) (by decide +kernel)
  have hgood : Good (Device.start Rom.blank) := ⟨List.nil_suffix, by decide, fun _ h => nomatch h⟩
  exact ⟨vs, c', hrun, has, v, hv, hnext, programmed_intact hrun hgood hhost hstep v hv hnext⟩

/-- A DNLOAD with `wValue = 1`, whose byte nobody reads and comes when the OUT buffer has been cleared,
and a block behind it. -/
def unreadRun : List (Move Event) :=
  .event (.setup (oneByte 1 0xBB)) :: List.replicate 22 .access ++ [.event (.out fun _ => 0)] ++
    List.replicate 7 .access ++ [.event .inComplete, .again, .event (.setup (oneByte 2 0xAA))] ++
    List.replicate 29 .access

/-- The flag of the unread byte stands for the packet of the block, and zeros are programmed in its
place. -/
theorem unreadRun_programs : ∃ (vs : List (Visit (TaskConfig Rom) (Move Event))) (c' : TaskConfig Rom),
    Run (TaskMoves reference) (task_loop reference, Device.start Rom.blank) vs c' ∧
      vs.map Visit.action = unreadRun ∧ (∀ v ∈ vs, HostSupplies v.action) ∧
      ∃ v ∈ vs, v.before.1.next = some .iap_write ∧
        v.before.2.USB_ControlRequest = oneByte 2 0xAA ∧ ¬ Intact v.before.2 := by
  obtain ⟨vs, c', hrun, has, hhost, v, hv, hnext, ht, hzero⟩ := exists_run (taskMove reference)
    unreadRun (task_loop reference, Device.start Rom.blank) (fun vs _ =>
      (∀ v ∈ vs, HostSupplies v.action) ∧ ∃ v ∈ vs, v.before.1.next = some .iap_write ∧
        v.before.2.USB_ControlRequest = oneByte 2 0xAA ∧ v.before.2.firmware_data 0 = 0)
    (by decide +kernel)
  refine ⟨vs, c', hrun, has, hhost, v, hv, hnext, ht, fun h => ?_⟩
  have hbyte := h 0 (by decide)
  rw [hzero, ht] at hbyte
  exact absurd hbyte (by decide)

end DfuSeBootloader.Dfu
