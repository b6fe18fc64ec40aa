import DfuSeBootloader.Os.Integrity

/-!
# Delays and ticks

A task that delays itself is ready again at one tick exactly, whatever the other tasks and the
interrupts do in the meantime.
-/

namespace DfuSeBootloader.Os
open Program
open Function (update)

variable {τ σ : Type} [DecidableEq τ] [DecidableEq σ] {own : Own τ} {strict : Prop} {t u : τ}
  {v v' : View τ σ} {e : Event τ σ} {n : UInt32} {c c' : System τ σ} {m : Move σ}
  {vs : List (Visit (System τ σ) (Move σ))} {apps : List (App τ)}

/-! ## One step -/

namespace View

omit [DecidableEq σ] in
theorem wakeAll_other {ts : List τ} (ht : t ∉ ts) :
    (ts.foldl (fun v t => v.wake t) v).status t = v.status t ∧
      (ts.foldl (fun v t => v.wake t) v).outcome t = v.outcome t := by
  induction ts generalizing v with
  | nil => exact ⟨rfl, rfl⟩
  | cons u ts ih =>
      obtain ⟨hne, hts⟩ := not_or.mp fun hm => ht (List.mem_cons.mpr hm)
      rw [List.foldl_cons, (ih hts).1, (ih hts).2]
      simp [wake, hne]

theorem post_other {s : σ} {all : Bool} (ht : t ∉ v.waiting s) :
    (v.post s all).status t = v.status t ∧ (v.post s all).outcome t = v.outcome t := by
  unfold post
  split
  · split <;> exact ⟨rfl, rfl⟩
  · rename_i u us hl
    rw [hl] at ht
    refine wakeAll_other fun hm => ht ?_
    split at hm
    · exact hm
    · exact List.mem_singleton.mp hm ▸ List.mem_cons_self

/-- A service changes a task that waits for no semaphore only where that task calls it. -/
theorem Does.other (h : v.Does u v') (ht : v.status t = .ready → t ≠ u)
    (hw : ∀ s, t ∉ v.waiting s) : v'.status t = v.status t ∧ v'.outcome t = v.outcome t := by
  cases h with
  | stay => exact ⟨rfl, rfl⟩
  | delay n hr hn =>
      have hne : t ≠ u := fun he => ht (he ▸ hr) he
      simp [View.delay, hne]
  | pend on timeout hr htime hp =>
      have hne : t ≠ u := fun he => ht (he ▸ hr) he
      simp [View.pend, hne]
  | take s h0 => exact ⟨rfl, rfl⟩
  | post s all => exact post_other (hw s)
  | set s n h0 => exact ⟨rfl, rfl⟩

/-- Only ticks end a delay. -/
theorem Step.delayed (h : View.Step own v e v') (hw : ∀ s, t ∉ v.waiting s)
    (hs : v.status t = .delayed n) :
    v'.status t = if e = .tick then (Status.delayed n : Status σ).tick else .delayed n := by
  cases e with
  | silent =>
      obtain rfl : v' = v := h
      simpa using hs
  | signal =>
      obtain rfl : v' = v.signal own.OSTickTaskTCB := h
      simp only [reduceCtorEq, if_false]
      unfold signal
      split
      · rename_i hp
        have hne : t ≠ own.OSTickTaskTCB := fun he => by simp [← he, hs] at hp
        simpa [wake, hne] using hs
      · exact hs
  | tick =>
      obtain rfl : v' = v.tick := h
      simp [tick, hs]
  | task u call op locked =>
      have hdoes : v.Does u v' := View.Performs.does h
      simp only [reduceCtorEq, if_false]
      rw [(hdoes.other (fun hr => absurd (hr.symm.trans hs) (by simp)) hw).1, hs]

end View

/-! ## Runs -/

/-- The ticks of a run. -/
def ticks (vs : List (Visit (System τ σ) (Move σ))) : Nat :=
  vs.countP fun v => v.before.event v.action = .tick

theorem ticks_cons (w : Visit (System τ σ) (Move σ)) :
    ticks (w :: vs) = ticks vs + if w.before.event w.action = .tick then 1 else 0 := by
  simp [ticks, List.countP_cons]

/-- The ticks left after one of them, where more than one is left. -/
theorem pred_of_lt {k : Nat} (h : k + 1 < n.toNat) : n ≠ 1 ∧ (n - 1).toNat + 1 = n.toNat := by
  have hone : (1 : UInt32) ≤ n := UInt32.le_iff_toNat_le.mpr (Nat.one_le_of_lt h)
  refine ⟨?_, ?_⟩
  · rintro rfl
    exact absurd (Nat.lt_of_add_lt_add_right h) (Nat.not_lt_zero _)
  · rw [UInt32.toNat_sub_of_le n 1 hone]
    exact Nat.sub_add_cancel (Nat.one_le_of_lt h)

namespace System.Safe

/-- A task that sleeps waits for nothing. -/
theorem not_waiting (h : c.Safe own strict) (hs : c.kernel.view.status t = .delayed n) (s : σ) :
    t ∉ c.kernel.view.waiting s := fun hm => by
  have hp := h.steady.coherent.pending_of_mem hm
  rw [show c.kernel.status t = .delayed n from hs] at hp
  cases hp

theorem delayed_move (h : c.Safe own False) (hm : Moves own c m c')
    (hs : c.kernel.view.status t = .delayed n) : c'.kernel.view.status t =
      if c.event m = .tick then (Status.delayed n : Status σ).tick else .delayed n :=
  (h.move hm fun hf => hf.elim).2.delayed (h.not_waiting hs) hs

/-- While there are less than `n` ticks. -/
theorem delayed_run (h : c.Safe own False) (hrun : Run (Moves own) c vs c')
    (hs : c.kernel.view.status t = .delayed n) (hn : ticks vs < n.toNat) :
    ∃ n', c'.kernel.view.status t = .delayed n' ∧ n'.toNat + ticks vs = n.toNat := by
  induction hrun generalizing n with
  | nil => exact ⟨n, hs, rfl⟩
  | @cons c c₁ c' m vs hm hrun ih =>
      have h' := (h.move hm fun hf => hf.elim).1
      have hs' := h.delayed_move hm hs
      rw [ticks_cons] at hn ⊢
      dsimp only at hn ⊢
      by_cases he : c.event m = .tick
      · rw [if_pos he] at hs' hn
        obtain ⟨hne, hpred⟩ := pred_of_lt hn
        rw [Status.tick_delayed, if_neg hne] at hs'
        obtain ⟨n', hend, hsum⟩ := ih h' hs' (by omega)
        exact ⟨n', hend, by rw [if_pos he]; omega⟩
      · rw [if_neg he] at hs' hn
        obtain ⟨n', hend, hsum⟩ := ih h' hs' hn
        exact ⟨n', hend, by rw [if_neg he]; exact hsum⟩

/-- `OSTimeDly` and `OSTimeDlyHMSM` begin a delay of the ticks that they are told. -/
theorem delay_begins {dly : UInt32} {opt : UInt16} (h : c.Safe own strict)
    (hrun : c.running = some t) (hcode : c.code t = OSTimeDly.block dly opt)
    (hopt : opt ≠ OS_OPT_TIME_MATCH ∧ opt ≠ OS_OPT_TIME_PERIODIC) (hdly : dly ≠ 0)
    (hm : Moves own c .access c') : c'.kernel.status t = .delayed dly := by
  obtain ⟨hs, hpre⟩ := h.running_of hrun
  have hnext : (c.code t).next = some .OS_CRITICAL := by rw [hcode]; rfl
  have hready : c.kernel.ready.Has t := (hpre.leads (by rw [hnext]; simp)).1.1
  have hkernel : c'.kernel = (OSTimeDly.delay dly opt c.kernel).elim c.kernel Prod.snd := by
    simp only [Moves, Os.move, hrun, hcode, Option.bind_eq_bind, Option.bind_some] at hm
    cases hm
    rfl
  obtain ⟨err, k', heq, -, -, hcase⟩ := h.steady.coherent.delay hpre.1 hready dly opt
  rw [hkernel, heq]
  change k'.view.status t = _
  rcases hcase with ⟨-, n, -, hview, hn⟩ | ⟨-, -, hzero⟩
  · rw [hview, hn hopt.1 hopt.2]
    exact Function.update_self _ _ _
  · exact absurd hzero (not_or.mpr ⟨hopt.1, hdly⟩)

end System.Safe

/-! ## Every run from the start -/

/-- A task that sleeps for `n` ticks does so until the `n`-th tick, and is ready then. -/
theorem delay_ends (own : Own τ) (ha : own.Admits apps) (cnt : σ → UInt32) :
    ∃ c₀, boot own apps cnt = some c₀ ∧ ∀ us c, Run (Moves own) c₀ us c → ∀ t,
      (∀ dly opt c₁, c.running = some t → c.code t = OSTimeDly.block dly opt →
        opt ≠ OS_OPT_TIME_MATCH ∧ opt ≠ OS_OPT_TIME_PERIODIC → dly ≠ 0 →
          Moves own c .access c₁ → c₁.kernel.status t = .delayed dly) ∧
      ∀ n vs c', c.kernel.status t = .delayed n → Run (Moves own) c vs c' →
        ∀ ws v xs, vs = ws ++ v :: xs → ticks ws < n.toNat →
          (∃ n', v.before.kernel.status t = .delayed n' ∧ n'.toNat + ticks ws = n.toNat) ∧
            (v.after.kernel.status t = .ready ↔
              v.before.event v.action = .tick ∧ ticks ws + 1 = n.toNat) := by
  obtain ⟨c₀, hboot, h₀, -⟩ := System.Safe.boot ha (fun hf : False => hf.elim) cnt
  refine ⟨c₀, hboot, fun us c hus t => ?_⟩
  obtain ⟨h, -, -⟩ := h₀.run hus fun hf => hf.elim
  refine ⟨fun dly opt c₁ hrun hcode hopt hdly hm => h.delay_begins hrun hcode hopt hdly hm, ?_⟩
  rintro n vs c' hs hrun ws v xs rfl hn
  obtain ⟨hws, hm, -⟩ := hrun.split_cons
  obtain ⟨n', hs', hsum⟩ := h.delayed_run hws hs hn
  obtain ⟨hv, -, -⟩ := h.run hws fun hf => hf.elim
  refine ⟨⟨n', hs', hsum⟩, ?_⟩
  rw [show v.after.kernel.status t = _ from hv.delayed_move hm hs']
  by_cases he : v.before.event v.action = .tick
  · rw [if_pos he, Status.tick_delayed]
    by_cases hone : n' = 1
    · subst hone
      simpa [he, Nat.add_comm] using hsum
    · have hne : n'.toNat ≠ 1 := fun h1 => hone (UInt32.toNat_inj.mp h1)
      refine iff_of_false (by simp [hone]) fun hr => hne ?_
      omega
  · simp [he]

/-- The task of the USB begins a delay of two ticks. -/
def delayRun : List (Move (Fin 1)) :=
  [.PendSV, .turn, .access, .access, .PendSV, .call (.OSTimeDly 2 0), .access, .access, .access,
    .PendSV]

/-- An interrupt of the timer, and what the tick task does then. -/
def tickRun : List (Move (Fin 1)) :=
  [.SysTick, .PendSV, .access, .access, .access, .turn, .access, .access, .PendSV]

/-- The second tick ends the delay. -/
theorem bootloader_delay_ends : ∃ c₀ us c vs c',
    boot bootloader bootloaderApps (fun _ : Fin 1 => 0) = some c₀ ∧ Run (Moves bootloader) c₀ us c ∧
      us.map Visit.action = delayRun ∧ c.kernel.status 3 = .delayed 2 ∧
      Run (Moves bootloader) c vs c' ∧ vs.map Visit.action = tickRun ++ tickRun ∧
      ∃ v ∈ vs, v.before.kernel.status 3 = .delayed 1 ∧ v.after.kernel.status 3 = .ready := by
  obtain ⟨c₀, hboot, hall⟩ := delay_ends bootloader bootloader_admits (fun _ : Fin 1 => 0)
  obtain ⟨us, c, vs, c', hus, hvs, has, hbs, hdelayed, hbefore, hlast⟩ := exists_bootloader_run hboot
    delayRun (tickRun ++ tickRun) (fun _ c vs => c.kernel.status 3 = .delayed 2 ∧
      ticks (vs.take 13) = 1 ∧ (vs[13]?).any (fun v => v.before.event v.action = .tick) = true)
    (by decide +kernel)
  obtain ⟨v, hv, htick⟩ := (Option.any_eq_true _ _).mp hlast
  obtain ⟨hi, rfl⟩ := List.getElem?_eq_some_iff.mp hv
  have hsplit : vs = vs.take 13 ++ vs[13] :: vs.drop 14 := by
    rw [← List.drop_eq_getElem_cons hi, List.take_append_drop]
  obtain ⟨⟨n, hn, hsum⟩, hready⟩ := (hall us c hus 3).2 2 vs c' hdelayed hvs _ _ _ hsplit
    (by rw [hbefore]; decide)
  rw [hbefore] at hsum hready
  have hone : n = 1 := UInt32.toNat_inj.mp (Nat.succ.inj hsum)
  exact ⟨c₀, us, c, vs, c', hboot, hus, has, hdelayed, hvs, hbs, _, List.getElem_mem hi, hone ▸ hn,
    hready.mpr ⟨of_decide_eq_true htick, rfl⟩⟩

end DfuSeBootloader.Os
