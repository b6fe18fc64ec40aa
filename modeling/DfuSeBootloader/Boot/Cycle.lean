import DfuSeBootloader.Boot.Detach
import DfuSeBootloader.Dfu.Run
import DfuSeBootloader.Iap.Reference

/-!
# From one application start to the next

Resets, application starts and sessions follow one another in any order. A boot request counts for one
start of the bootloader, and a DETACH leads to a reset.
-/

namespace DfuSeBootloader.Boot
open Program Memory Iap Usb Dfu

variable {ρ : Type} {P : Platform ρ} {b b' : Board ρ} {a : Action ρ}

abbrev Turn (ρ : Type) : Type := Visit (Board ρ) (Action ρ)

/-! ## The share section -/

/-- The application has not run since the share section was cleared. -/
structure Cleared (b : Board ρ) : Prop where
  share : ∀ i < share_section_size, b.share i = 0
  application : b.inApplication = false

theorem Cleared.step (h : Cleared b) (hst : Boards P b a b') (happ : b'.inApplication = false) :
    Cleared b' := by
  refine ⟨?_, happ⟩
  obtain ⟨share, phase⟩ := b
  cases a with
  | main pin =>
      cases phase with
      | reset r =>
          obtain rfl := Option.some.inj hst
          have hmain := @main_zero ρ P share pin r h.share
          refine share_main (hmain.2 fun h => ?_)
          rw [hmain.1 h] at happ
          cases happ
      | application r => cases hst
      | bootloader c => cases hst
  | application share' r =>
      cases phase with
      | reset r => cases hst
      | application r => cases h.application
      | bootloader c => cases hst
  | reset => cases phase <;> (obtain rfl := Option.some.inj hst; exact h.share)
  | session m =>
      cases phase with
      | reset r => cases hst
      | application r => cases hst
      | bootloader c =>
          obtain ⟨c', -, rfl⟩ := Option.map_eq_some_iff.mp hst
          exact h.share
  | NVIC_SystemReset =>
      simp only [Boards, board] at hst
      split at hst
      · cases hst
        exact h.share
      · cases hst

theorem inApplication_of_inBootloader (h : b.inBootloader = true) : b.inApplication = false := by
  obtain ⟨share, phase⟩ := b
  cases phase with
  | reset r => rfl
  | application r => cases h
  | bootloader c => rfl

theorem Cleared.of_main {pin : Bool} (hst : Boards P b (.main pin) b') (h : b'.inBootloader = true) :
    Cleared b' := by
  obtain ⟨share, phase⟩ := b
  cases phase with
  | reset r =>
      obtain rfl := Option.some.inj hst
      exact ⟨share_main h, inApplication_of_inBootloader h⟩
  | application r => cases hst
  | bootloader c => cases hst

/-! ## The session -/

/-- A session keeps to its contract. -/
def Serves (b : Board ρ) : Prop :=
  ∀ c, b.phase = .bootloader c → wp session (fun reset d => reset = true ∨ NoDetach d) c.1 c.2

theorem serves_main (pin : Bool) (share : Nat → UInt8) (r : ρ) : Serves (main P pin share r) := by
  have hstart (r : ρ) : Serves (bootmode_start P share r) := by
    rintro c hc
    obtain rfl := Phase.bootloader.inj hc
    exact task_loop_noted _ fun _ ht => nomatch ht
  unfold main
  split
  · exact hstart r
  · cases app_magic_is_existing P r with
    | mk existing r' =>
        cases existing with
        | true => exact fun c hc => nomatch hc
        | false => exact hstart r'

theorem Serves.step (h : Serves b) (hst : Boards P b a b') : Serves b' := by
  obtain ⟨share, phase⟩ := b
  cases a with
  | main pin =>
      cases phase with
      | reset r => obtain rfl := Option.some.inj hst; exact serves_main pin share r
      | application r => cases hst
      | bootloader c => cases hst
  | application share' r =>
      cases phase with
      | reset r => cases hst
      | application r => obtain rfl := Option.some.inj hst; exact fun c hc => nomatch hc
      | bootloader c => cases hst
  | reset => cases phase <;> (obtain rfl := Option.some.inj hst; exact fun c hc => nomatch hc)
  | session m =>
      cases phase with
      | reset r => cases hst
      | application r => cases hst
      | bootloader c =>
          obtain ⟨c', hloop, rfl⟩ := Option.map_eq_some_iff.mp hst
          rintro _ hc
          obtain rfl := Phase.bootloader.inj hc
          refine wp_loop (h c rfl) hloop ?_ (fun e _ op _ => ⟨e, rfl⟩) ?_ (fun _ _ _ => trivial)
          · intro reset hreset hend
            exact task_loop_noted _ (hend.resolve_left fun htrue => by rw [htrue] at hreset; cases hreset)
          · exact fun e _ reset _ hend => hend
  | NVIC_SystemReset =>
      simp only [Boards, board] at hst
      split at hst
      · cases hst
        exact fun c hc => nomatch hc
      · cases hst

/-! ## The cycle -/

/-- `main` has called `bootmode_start`. -/
def Starts (v : Turn ρ) : Prop := (∃ pin, v.action = .main pin) ∧ v.after.inBootloader = true

/-- From the start of a session until the application runs, the share section is zero and holds no
request, so that the boot pin and the application sector decide at every reset. In a session no request
is handled behind a DETACH, and the loop does not go on. -/
theorem boot_cycle {vs : List (Turn ρ)} {r : ρ} (hrun : Run (Boards P) b vs b')
    (hreset : b.phase = .reset r) :
    (∀ us v ms g ws, vs = us ++ v :: (ms ++ g :: ws) → Starts v →
      (∀ m ∈ ms, m.after.inApplication = false) →
        (∀ i < share_section_size, g.before.share i = 0) ∧
        (∀ pin, boot_mode_requested pin g.before.share = pin) ∧
        ∀ pin r, g.action = .main pin → g.before.phase = .reset r →
          (pin = false ∧ NotBlank P r → g.after.inApplication = true) ∧
          (¬ (pin = false ∧ NotBlank P r) → g.after.inBootloader = true)) ∧
    ∀ v ∈ vs, ∀ p d, v.before.phase = .bootloader (p, d) →
      (∃ t ∈ dispatches d.calls, dfuRequest t.toUSB_Request_Header_t = some .DETATCH) →
        p.next ≠ some .EVENT_USB_Device_ControlRequest ∧ p ≠ .ret false := by
  constructor
  · rintro us v ms g ws rfl ⟨⟨pin, hpin⟩, hboot⟩ happ
    obtain ⟨-, hv, hms⟩ := hrun.split_cons
    obtain ⟨hms, hg, -⟩ := hms.split_cons
    rw [hpin] at hv
    -- every step of `ms` keeps the section
    obtain ⟨-, hcleared⟩ := hms.invariant (I := Cleared)
      (fun m hm hst h => h.step hst (happ m hm)) (.of_main hv hboot)
    refine ⟨hcleared.share, fun pin => boot_mode_requested_zero hcleared.share, fun pin r ha hphase => ?_⟩
    have hmain := @main_zero ρ P g.before.share pin r hcleared.share
    have hafter : g.after = main P pin g.before.share r := by
      simp only [Boards, board, ha, hphase, Option.some.injEq] at hg
      exact hg.symm
    rwa [hafter]
  · intro v hv p d hphase hdetach
    have hinit : Serves b := fun c hc => by rw [hreset] at hc; cases hc
    obtain ⟨hall, -⟩ := hrun.invariant (I := Serves) (fun v _ hst h => h.step hst) hinit
    have hserves : wp session _ p d := (hall v hv).2.1 (p, d) hphase
    have hnot : ¬ NoDetach d := by
      obtain ⟨t, ht, hq⟩ := hdetach
      exact fun hno => hno t ht hq
    refine ⟨fun hnext => hnot (wp_next hserves hnext rfl), fun hret => hnot ?_⟩
    subst hret
    exact hserves.resolve_left Bool.false_ne_true

/-- A flash with a byte of an application. -/
def applicationRom : Rom := { Rom.blank with flash := Function.update Rom.blank.flash 0x10000 0 }

/-- The application has asked for the bootloader and has reset the board. -/
def requestedBoard : Board Rom where
  share := padded 0 (BOOT_SHARE_MAGIC ++ [0, 1])
  phase := .reset applicationRom

/-- A board that comes out of a reset has an application. -/
def Board.holdsApplication (b : Board Rom) : Bool :=
  match b.phase with
  | .reset r => decide (NotBlank reference r)
  | _ => true

/-- The turns between the start of a session with one DETACH and the start of `main` behind it. -/
def detachSession : List (Action Rom) :=
  .session (.event (.setup (DFU_REQ.DETATCH.transfer 0 0 []))) ::
    List.replicate 28 (.session .access) ++ [.NVIC_SystemReset]

/-- The boot request starts the bootloader once: behind the DETACH the application runs. -/
theorem detachSession_ends : ∃ (v g : Turn Rom) (ms : List (Turn Rom)) (b' : Board Rom),
    Run (Boards reference) requestedBoard (v :: (ms ++ [g])) b' ∧ v.after.inBootloader = true ∧
      ms.map Visit.action = detachSession ∧ g.after.inApplication = true := by
  obtain ⟨vs, b', hrun, has, hboot, happ, hblank⟩ := exists_run (board reference)
    (.main false :: (detachSession ++ [.main false])) requestedBoard
    (fun vs _ => (∀ v ∈ vs.take 1, v.after.inBootloader = true) ∧
      (∀ v ∈ vs.dropLast, v.after.inApplication = false) ∧
      ∀ v ∈ vs, v.before.holdsApplication = true) (by decide +kernel)
  obtain ⟨v, vs, rfl, hv, has⟩ := List.map_eq_cons_iff.mp has
  obtain ⟨ms, gs, rfl, hms, has⟩ := List.map_eq_append_iff.mp has
  obtain ⟨g, gs, rfl, hg, has⟩ := List.map_eq_cons_iff.mp has
  obtain rfl := List.map_eq_nil_iff.mp has
  have hsplit : Run (Boards reference) requestedBoard ([] ++ v :: (ms ++ g :: [])) b' := hrun
  have hvboot := hboot v (by simp)
  refine ⟨v, g, ms, b', hrun, hvboot, hms, ?_⟩
  obtain ⟨-, -, hmain⟩ := (boot_cycle hsplit rfl).1 [] v ms g [] rfl ⟨⟨false, hv⟩, hvboot⟩
    (fun m hm => happ m (by
      rw [← List.cons_append, List.dropLast_concat]
      exact List.mem_cons_of_mem _ hm))
  have hgst : board reference (.main false) g.before = some g.after := hg ▸ hrun.step_of_mem (by simp)
  have hgblank := hblank g (by simp)
  cases hphase : g.before.phase with
  | reset r =>
      rw [Board.holdsApplication, hphase] at hgblank
      exact (hmain false r hg hphase).1 ⟨rfl, of_decide_eq_true hgblank⟩
  | application r => simp [board, hphase] at hgst
  | bootloader c => simp [board, hphase] at hgst

end DfuSeBootloader.Boot
