import DfuSeBootloader.Boot.Basic
import DfuSeBootloader.Dfu.Reflash
import DfuSeBootloader.Iap.Reference

/-!
# An update of the application

The board starts the bootloader, a host replaces the application and sends a DETACH, and the board
starts again. Everything that the host does comes as interrupts between the accesses of the task.
-/

namespace DfuSeBootloader.Boot
open Program Memory Iap Usb Dfu

variable {ρ : Type} {P : Platform ρ} {share : Nat → UInt8} {pin : Bool} {r : ρ}
  {d d' : Device ρ} {t t' : ControlTransfer} {w w' : List (List Event)}

/-! ## The blank check -/

section Checks

variable {prepared : ρ → Nat → Prop} (hP : Checks P prepared)
include hP

theorem blankCheck_spec {sector : Nat} (hs : sector < 30) :
    P.flash (ExecuteCommand P (.CMD_BLANK_CHECK_SECTORS sector sector) r).2 = P.flash r ∧
      ((ExecuteCommand P (.CMD_BLANK_CHECK_SECTORS sector sector) r).1 = .STATUS_SECTOR_NOT_BLANK ↔
        ∃ a, InSector sector a ∧ P.flash r a ≠ 0xFF) := by
  obtain ⟨r₁, hretry, hbusy, heq⟩ :=
    ExecuteCommand_spec P (.CMD_BLANK_CHECK_SECTORS sector sector) r
  obtain ⟨hflash, -⟩ := hP.retry hretry
  rw [heq, ← hflash]
  exact hP.blankCheck sector r₁ hs hbusy

theorem notBlank_iff : NotBlank P r ↔ ∃ a, InSector 16 a ∧ P.flash r a ≠ 0xFF :=
  (blankCheck_spec hP (by decide)).2

theorem flash_app_magic_is_existing : P.flash (app_magic_is_existing P r).2 = P.flash r := by
  have hsector : sector_by_address USER_PROGRAM_START = 16 := by decide
  have hflash : P.flash (ExecuteCommand P (.CMD_BLANK_CHECK_SECTORS 16 16) r).2 = P.flash r :=
    (blankCheck_spec hP (by decide)).1
  simp only [app_magic_is_existing, iap_blank_check, hsector]
  split <;> exact hflash

/-- `main` leaves the flash alone. -/
theorem main_phase (pin : Bool) (share : Nat → UInt8) (r : ρ) : ∃ r', P.flash r' = P.flash r ∧
    ((main P pin share r).phase = .application r' ∨
      (main P pin share r).phase = .bootloader (task_loop P, Device.start r')) := by
  unfold main
  split
  · exact ⟨r, rfl, .inr rfl⟩
  · have hflash := flash_app_magic_is_existing hP (r := r)
    cases hexisting : app_magic_is_existing P r with
    | mk existing r' =>
        rw [hexisting] at hflash
        cases existing with
        | true => exact ⟨r', hflash, .inl rfl⟩
        | false => exact ⟨r', hflash, .inr rfl⟩

end Checks

/-! ## Exchanges are moves of the loop -/

/-- The steps of the loop of the task. -/
abbrev Turns (P : Platform ρ) : TaskConfig ρ → Move Event → TaskConfig ρ → Prop :=
  Loops interrupt (task_loop P) (! ·)

/-- The moves of the loop when a host waits for the end of each request: a request comes where the task
begins a turn, and everything else of the exchange in the waits of that turn. -/
def schedule (P : Platform ρ) : List Exchange → Device ρ → List (Move Event)
  | [], _ => []
  | .between ev :: xs, d => .event ev :: schedule P xs (interrupt ev d)
  | .request t w :: xs, d =>
      .event (.setup t) :: (served interrupt (task_loop P) w (interrupt (.setup t) d) ++
        match exchange P (.request t w) d with
        | some d' => if d'.need_detach then [] else .again :: schedule P xs d'
        | none => [])

/-- The board starts, has the exchanges handled, and starts once more. -/
def restart (P : Platform ρ) (pin : Bool) (xs : List Exchange) (d : Device ρ) : List (Action ρ) :=
  .main pin :: ((schedule P xs d).map .session ++ [.NVIC_SystemReset, .main false])

/-- A turn of the loop is a pass of the task, and says whether the system is reset. -/
theorem eval_task_loop (h : perform P (.task w) d = some d') :
    ∃ w', eval interrupt (task_loop P) w d = .done d'.need_detach w' d' := by
  obtain ⟨w', htask⟩ := perform_task_eq_some.mp h
  refine ⟨w', ?_⟩
  rw [task_loop, eval_bind, htask, Result.bind_done, eval_bind, eval_get, Result.bind_done]
  cases hneed : d'.need_detach with
  | false => rfl
  | true =>
      rw [if_pos rfl, eval_bind, eval_modify, Result.bind_done, eval_pure, ← hneed]

theorem turns_request (h : exchange P (.request t w) d = some d') :
    ∃ us, Run (Turns P) (task_loop P, d) us (.ret d'.need_detach, d') ∧
      us.map Visit.action = .event (.setup t) :: served interrupt (task_loop P) w
        (interrupt (.setup t) d) := by
  obtain ⟨w', hloop⟩ := eval_task_loop (d := interrupt (.setup t) d) h
  obtain ⟨us, hrun, hms⟩ := loops_eval (task_loop P) (! ·) hloop
  exact ⟨_, .cons (.event _ (.setup t) d) hrun, by rw [List.map_cons, hms]⟩

/-- The exchanges that have been handled, and those to come. -/
theorem turns_exchanges {vs : List (Round ρ)} (hrun : Run (Exchanges P) d vs d')
    (hneed : ∀ v ∈ vs, v.after.need_detach = false) (xs : List Exchange) :
    ∃ us, Run (Turns P) (task_loop P, d) us (task_loop P, d') ∧
      schedule P (vs.map Visit.action ++ xs) d = us.map Visit.action ++ schedule P xs d' := by
  induction hrun with
  | nil d => exact ⟨[], .nil _, rfl⟩
  | @cons d d₁ d' x vs hst _ ih =>
      obtain ⟨us, hus, hms⟩ := ih fun v hv => hneed v (List.mem_cons_of_mem _ hv)
      have hnext : d₁.need_detach = false := hneed _ List.mem_cons_self
      cases x with
      | between ev =>
          obtain rfl := Option.some.inj hst
          exact ⟨_, .cons (.event _ ev d) hus, congrArg (Move.event ev :: ·) hms⟩
      | request t w =>
          obtain ⟨us₁, hus₁, hms₁⟩ := turns_request hst
          rw [hnext] at hus₁
          have hagain : Turns P (.ret false, d₁) .again (task_loop P, d₁) := Loops.again rfl d₁
          refine ⟨_, hus₁.append (.cons hagain hus), ?_⟩
          have hfirst : schedule P (.request t w :: (vs.map Visit.action ++ xs)) d =
              us₁.map Visit.action ++ .again :: schedule P (vs.map Visit.action ++ xs) d₁ := by
            rw [schedule, show exchange P (.request t w) d = some d₁ from hst, hms₁]
            simp [hnext]
          rw [List.map_cons, List.cons_append, hfirst, hms]
          simp

/-! ## The update -/

/-- A session on the board. -/
theorem boards_turns {c c' : TaskConfig ρ} {us : List (Visit (TaskConfig ρ) (Move Event))}
    (h : Run (Turns P) c us c') (share : Nat → UInt8) : ∃ vs : List (Visit (Board ρ) (Action ρ)),
    Run (Boards P) ⟨share, .bootloader c⟩ vs ⟨share, .bootloader c'⟩ ∧
      vs.map Visit.action = (us.map Visit.action).map .session := by
  let onBoard (c : TaskConfig ρ) : Board ρ := ⟨share, .bootloader c⟩
  have hsim : ∀ c m c', Turns P c m c' → Boards P (onBoard c) (.session m) (onBoard c') := by
    intro c m c' hst
    change (taskMove P m c).map _ = _
    rw [show taskMove P m c = some c' from hst]
    rfl
  exact ⟨_, h.map (f := onBoard) (g := .session) hsim, by simp⟩

theorem ready_start (r : ρ) : Ready (Device.start r) := ⟨idle_start r, ⟨rfl, rfl, rfl, rfl⟩⟩

/-- What sector 16 holds when an image has been written from its start on. -/
theorem applicationSector {m m' : Nat → UInt8} {ss : List Nat} {ps : List (List UInt8)}
    (hm : m' = fillBlocks 0 512 (erasedIn ss m) USER_PROGRAM_START.toNat ps) (hss : 16 ∈ ss) :
    (∃ a, InSector 16 a ∧ m' a ≠ 0xFF) ↔ ∃ i < 0x8000, padded 0xFF (image ps) i ≠ 0xFF := by
  have hbyte (i : Nat) (hi : i < 0x8000) : m' (0x10000 + i) = padded 0xFF (image ps) i := by
    have hlen : (image ps).length = 512 * ps.length := length_flatMap_slice 0 512 ps
    rw [hm, fillBlocks_eq_fill]
    change fill _ 0x10000 _ (padded 0 (image ps)) _ = _
    by_cases hin : i < 512 * ps.length
    · rw [fill_of_mem (by omega), Nat.add_sub_cancel_left, padded_of_lt (by omega),
        padded_of_lt (by omega)]
    · have hsector : sectorOf (0x10000 + i) = 16 := by
        unfold sectorOf
        split <;> omega
      rw [fill_of_notMem (by omega), padded_of_le (by omega), erasedIn, hsector, if_pos hss]
  constructor
  · rintro ⟨a, ha, hne⟩
    obtain ⟨-, hlo, hhi⟩ := inSector_iff.mp ha
    change 0x10000 ≤ a at hlo
    change a < 0x10000 + 0x8000 at hhi
    obtain ⟨i, rfl⟩ := Nat.exists_eq_add_of_le hlo
    exact ⟨i, by omega, hbyte i (by omega) ▸ hne⟩
  · rintro ⟨i, hi, hne⟩
    refine ⟨0x10000 + i, inSector_iff.mpr ⟨by decide, ?_, ?_⟩, (hbyte i hi).symm ▸ hne⟩
    · exact Nat.le_add_right _ _
    · exact Nat.add_lt_add_left hi _

/-- The session: the host writes the image, and its DETACH ends the loop. -/
theorem session_reflash {prepared : ρ → Nat → Prop} (hP : Reflashes P prepared) {base : UInt32}
    {as : List UInt32} {ps : List (List UInt8)} {xs ys : List Exchange} (herase : Erasures as xs)
    (ht : SetsAddress base t w) (hdown : Downloads 2 ps ys)
    (hdetach : dfuRequest t'.toUSB_Request_Header_t = some .DETATCH)
    (has : ∀ a ∈ as, a.toNat < flashEnd)
    (hcover : ∀ a, base.toNat ≤ a → a < base.toNat + 512 * ps.length →
      ∃ b ∈ as, sectorOf b.toNat = sectorOf a)
    (hps : ∀ p ∈ ps, 1 ≤ p.length ∧ p.length ≤ 512) (hal : base.toNat % 512 = 0)
    (hend : base.toNat + 512 * ps.length ≤ flashEnd) (r : ρ) :
    ∃ us d', Run (Turns P) (task_loop P, Device.start r) us (.ret true, d') ∧
      us.map Visit.action =
        schedule P (xs ++ .request t w :: (ys ++ [.request t' w'])) (Device.start r) ∧
      P.flash d'.rom = fillBlocks 0 512
        (erasedIn (as.map fun a => sectorOf a.toNat) (P.flash r)) base.toNat ps := by
  obtain ⟨vs, d₁, hrun, hvs, hready, hflash⟩ :=
    run_reflash hP herase ht hdown has hcover hps hal hend (ready_start r)
  have hnoDetach : ∀ v ∈ vs, v.action.dfuRequest ≠ some .DETATCH := by
    intro v hv
    have hmem := List.mem_map_of_mem (f := Visit.action) hv
    rw [hvs, List.mem_append, List.mem_cons] at hmem
    rcases hmem with hmem | hmem | hmem
    · exact herase.noDetach _ hmem
    · simp [hmem, Exchange.dfuRequest, ht.request]
    · exact hdown.noDetach _ hmem
  obtain ⟨us, hturns, hms⟩ :=
    turns_exchanges hrun (need_detach_run hrun hnoDetach rfl) [.request t' w']
  obtain ⟨d₂, hx, hneed, hrom⟩ := exchange_detach (P := P) (w := w') hready.toIdle hdetach
  obtain ⟨us', hturns', hms'⟩ := turns_request hx
  rw [hneed] at hturns'
  refine ⟨us ++ us', d₂, hturns.append hturns', ?_, hrom ▸ hflash⟩
  have hlast : schedule P [.request t' w'] d₁ = us'.map Visit.action := by
    rw [schedule, hx, hms']
    simp [hneed]
  rw [List.map_append, ← hlast, ← hms, hvs, List.append_assoc, List.cons_append]

/-- An action of the board has one outcome. -/
theorem boards_unique (b : Board ρ) (a : Action ρ) (b₁ b₂ : Board ρ) (h₁ : Boards P b a b₁)
    (h₂ : Boards P b a b₂) : b₁ = b₂ := Option.some.inj (h₁.symm.trans h₂)

/-- The board runs the new application as soon as the image has a byte in its first sector that is not
blank, and otherwise starts the bootloader once more. -/
theorem update {prepared : ρ → Nat → Prop} (hP : Checks P prepared) (w' : List (List Event))
    {as : List UInt32} {ps : List (List UInt8)} {xs ys : List Exchange} {d₀ : Device ρ}
    (hboot : (main P pin share r).phase = .bootloader (task_loop P, d₀)) (herase : Erasures as xs)
    (ht : SetsAddress USER_PROGRAM_START t w) (hdown : Downloads 2 ps ys)
    (hdetach : dfuRequest t'.toUSB_Request_Header_t = some .DETATCH)
    (has : ∀ a ∈ as, a.toNat < flashEnd)
    (hcover : ∀ a, USER_PROGRAM_START.toNat ≤ a → a < USER_PROGRAM_START.toNat + 512 * ps.length →
      ∃ b ∈ as, sectorOf b.toNat = sectorOf a)
    (hne : ps ≠ []) (hps : ∀ p ∈ ps, 1 ≤ p.length ∧ p.length ≤ 512)
    (hend : USER_PROGRAM_START.toNat + 512 * ps.length ≤ flashEnd) :
    ∃ r', P.flash r' = fillBlocks 0 512 (erasedIn (as.map fun a => sectorOf a.toNat) (P.flash r))
        USER_PROGRAM_START.toNat ps ∧
      (∃ vs b', Run (Boards P) ⟨share, .reset r⟩ vs b' ∧
        vs.map Visit.action = restart P pin (xs ++ .request t w :: (ys ++ [.request t' w'])) d₀) ∧
      ∀ vs b', Run (Boards P) ⟨share, .reset r⟩ vs b' →
        vs.map Visit.action = restart P pin (xs ++ .request t w :: (ys ++ [.request t' w'])) d₀ →
          ((∃ i < 0x8000, padded 0xFF (image ps) i ≠ 0xFF) → b'.phase = .application r') ∧
          (¬ (∃ i < 0x8000, padded 0xFF (image ps) i ≠ 0xFF) →
            b'.phase = .bootloader (task_loop P, Device.start r')) := by
  obtain ⟨r₁, hr₁, hphase⟩ := main_phase hP pin share r
  have hin : (main P pin share r).inBootloader = true := by rw [Board.inBootloader, hboot]
  have hshare := share_main hin
  obtain rfl : d₀ = Device.start r₁ := by
    rcases hphase with happ | hphase
    · rw [hboot] at happ
      cases happ
    · rw [hboot] at hphase
      simpa using hphase
  obtain ⟨us, d', hturns, hms, hflash⟩ := session_reflash hP.toReflashes herase
    ht hdown hdetach has hcover hps (by decide) hend r₁
  obtain ⟨vs, hrun, hvs⟩ := boards_turns hturns (main P pin share r).share
  -- the reset, and `main` behind it
  obtain ⟨r₂, hr₂, hphase₂⟩ := main_phase hP false (main P pin share r).share d'.rom
  have hstart : Boards P ⟨share, .reset r⟩ (.main pin)
      ⟨(main P pin share r).share, .bootloader (task_loop P, Device.start r₁)⟩ := by
    rw [← hboot]
    rfl
  have hreset : Boards P ⟨(main P pin share r).share, .bootloader (.ret true, d')⟩ .NVIC_SystemReset
      ⟨(main P pin share r).share, .reset d'.rom⟩ := rfl
  have hagain : Boards P ⟨(main P pin share r).share, .reset d'.rom⟩ (.main false)
      (main P false (main P pin share r).share d'.rom) := rfl
  have hsector : 16 ∈ as.map fun a => sectorOf a.toNat := by
    have hpos := List.length_pos_iff.mpr hne
    obtain ⟨b, hb, heq⟩ := hcover USER_PROGRAM_START.toNat (Nat.le_refl _) (by omega)
    exact List.mem_map.mpr ⟨b, hb, heq⟩
  rw [hr₁] at hflash
  have hblank : NotBlank P d'.rom ↔ ∃ i < 0x8000, padded 0xFF (image ps) i ≠ 0xFF :=
    (notBlank_iff hP).trans (applicationSector hflash hsector)
  obtain ⟨happ, hno⟩ := @main_zero ρ P (main P pin share r).share false d'.rom hshare
  rw [← hblank]
  obtain ⟨vs₁, hall, hvs₁⟩ : ∃ vs₁,
      Run (Boards P) ⟨share, .reset r⟩ vs₁ (main P false (main P pin share r).share d'.rom) ∧
        vs₁.map Visit.action =
          restart P pin (xs ++ .request t w :: (ys ++ [.request t' w'])) (Device.start r₁) := by
    refine ⟨_, .cons hstart (hrun.append (.cons hreset (.cons hagain (.nil _)))), ?_⟩
    rw [restart, ← hms, List.map_cons, List.map_append, hvs]
    rfl
  refine ⟨r₂, hr₂.trans hflash, ⟨_, _, hall, hvs₁⟩, fun vs' b' hrun' hvs' => ?_⟩
  obtain ⟨-, rfl⟩ := hall.unique boards_unique hrun' (hvs₁.trans hvs'.symm)
  refine ⟨fun h => ?_, fun h => ?_⟩
  · refine hphase₂.resolve_right fun hboot => ?_
    have hin := happ ⟨rfl, h⟩
    rw [Board.inApplication, hboot] at hin
    cases hin
  · refine hphase₂.resolve_left fun happ => ?_
    have hin := hno fun hnot => h hnot.2
    rw [Board.inBootloader, happ] at hin
    cases hin

/-- The board of an empty flash, to which a host sends one block. -/
theorem update_blank_board : ∃ (vs : List (Visit (Board Rom) (Action Rom))) (b' : Board Rom) (r' : Rom),
    Run (Boards reference) ⟨fun _ => 0, .reset Rom.blank⟩ vs b' ∧ b'.phase = .application r' ∧
      r'.flash 0x10001 = 7 := by
  have herase : Erasures [0x10000]
      [.request (DFU_REQ.DNLOAD.transfer 0 5 (commandData 0x41 0x10000)) [[.out fun _ => 0]]] :=
    .sector ⟨⟨by decide, by decide, by decide⟩, by decide, rfl, by decide⟩ .nil
  have ht : SetsAddress USER_PROGRAM_START
      (DFU_REQ.DNLOAD.transfer 0 5 (commandData 0x21 USER_PROGRAM_START)) [[.out fun _ => 0]] :=
    ⟨⟨by decide, by decide, by decide⟩, by decide, rfl, by decide⟩
  have hdown : Downloads 2 [[6, 7]]
      [.request (DFU_REQ.DNLOAD.transfer 2 2 [6, 7]) [[.out fun _ => 0]]] :=
    .block (sendsBlock_transfer (n := 2) (by decide) (by decide) (by decide)) (.nil 3)
  have hcover : ∀ a, 0x10000 ≤ a → a < 0x10000 + 512 * 1 →
      ∃ b ∈ [(0x10000 : UInt32)], sectorOf b.toNat = sectorOf a := by
    intro a hlo hhi
    refine ⟨0x10000, List.mem_singleton.mpr rfl, ?_⟩
    have hge : ¬ a < 0x10000 := by omega
    rw [sectorOf, if_neg (by decide), sectorOf, if_neg hge]
    change 16 = _
    omega
  have hin : (main reference false (fun _ => 0) Rom.blank).inBootloader = true := by decide +kernel
  obtain ⟨r₁, -, hphase⟩ := main_phase reference_checks false (fun _ => 0) Rom.blank
  have hboot := hphase.resolve_left fun happ => by
    rw [Board.inBootloader, happ] at hin
    cases hin
  have hdetach : dfuRequest (DFU_REQ.DETATCH.transfer 0 0 []).toUSB_Request_Header_t = some .DETATCH :=
    by decide
  obtain ⟨r', hflash, ⟨vs, b', hrun, hvs⟩, hall⟩ :=
    update reference_checks [] hboot herase ht hdown hdetach (List.forall_mem_singleton.mpr (by decide))
      hcover (by decide) (by decide) (by decide)
  exact ⟨vs, b', r', hrun, (hall vs b' hrun hvs).1 ⟨0, by decide, by decide +kernel⟩,
    congrFun hflash 0x10001⟩

end DfuSeBootloader.Boot
