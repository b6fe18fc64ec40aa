import DfuSeBootloader.Os.Ticks

/-!
# Timeouts

A task that waits for a semaphore with a timeout becomes ready at the latest when its ticks have
passed, and the status it finds then tells which of the two ended the wait.
-/

namespace DfuSeBootloader.Os
open Program
open Function (update)

variable {τ σ : Type} [DecidableEq τ] [DecidableEq σ] {own : Own τ} {strict : Prop} {t u : τ}
  {v v' : View τ σ} {e : Event τ σ} {n : UInt32} {on : Option σ} {c c' : System τ σ} {m : Move σ}
  {vs : List (Visit (System τ σ) (Move σ))} {apps : List (App τ)}

/-! ## One step -/

/-- A task stays as it is, or it gets what it waits for. -/
def Stays (t : τ) (v v' : View τ σ) : Prop :=
  v'.status t = v.status t ∧ v'.outcome t = v.outcome t ∨
    v'.status t = .ready ∧ v'.outcome t = .OS_STATUS_PEND_OK

omit [DecidableEq τ] [DecidableEq σ] in
theorem Stays.refl : Stays t v v := .inl ⟨rfl, rfl⟩

omit [DecidableEq τ] [DecidableEq σ] in
theorem Stays.trans {v'' : View τ σ} (h : Stays t v v') (h' : Stays t v' v'') : Stays t v v'' := by
  rcases h' with ⟨hs, ho⟩ | h'
  · rwa [Stays, hs, ho]
  · exact .inr h'

namespace View

omit [DecidableEq σ] in
theorem stays_wake : Stays t v (v.wake u) := by
  by_cases h : t = u
  · exact .inr (by simp [wake, h])
  · exact .inl (by simp [wake, h])

omit [DecidableEq σ] in
theorem stays_wakeAll {ts : List τ} : Stays t v (ts.foldl (fun v t => v.wake t) v) := by
  induction ts generalizing v with
  | nil => exact .refl
  | cons u ts ih => exact stays_wake.trans ih

theorem stays_post {s : σ} {all : Bool} : Stays t v (v.post s all) := by
  unfold post
  split
  · split <;> exact .refl
  · exact stays_wakeAll

/-- Only a tick ends a wait by its timeout. -/
theorem Step.pending (h : View.Step own v e v') (hs : v.status t = .pending on (some n)) :
    if e = .tick then v' = v.tick else Stays t v v' := by
  cases e with
  | silent =>
      obtain rfl : v' = v := h
      exact .refl
  | signal =>
      obtain rfl : v' = v.signal own.OSTickTaskTCB := h
      simp only [reduceCtorEq, if_false]
      unfold signal
      split
      · exact stays_wake
      · exact .refl
  | tick => exact h
  | task u call op locked =>
      have hdoes : v.Does u v' := View.Performs.does h
      simp only [reduceCtorEq, if_false]
      cases hdoes with
      | stay => exact .refl
      | delay n hr hn =>
          have hne : t ≠ u := fun he => by simp [← he, hs] at hr
          exact .inl (by simp [delay, hne])
      | pend on timeout hr ht hp =>
          have hne : t ≠ u := fun he => by simp [← he, hs] at hr
          exact .inl (by simp [pend, hne])
      | take s h0 => exact .refl
      | post s all => exact stays_post
      | set s n h0 => exact .refl

end View

/-! ## Runs -/

namespace System.Safe

/-- The last tick of a timeout ends the wait by it, and each other one takes a tick from it. -/
theorem pending_move (h : c.Safe own False) (hm : Moves own c m c')
    (hs : c.kernel.view.status t = .pending on (some n)) :
    (c.event m = .tick ∧ if n = 1 then
        c'.kernel.view.status t = .ready ∧ c'.kernel.view.outcome t = .OS_STATUS_PEND_TIMEOUT
      else c'.kernel.view.status t = .pending on (some (n - 1))) ∨
    (c.event m ≠ .tick ∧ Stays t c.kernel.view c'.kernel.view) := by
  have hstep := (h.move hm fun hf => hf.elim).2.pending hs
  by_cases he : c.event m = .tick
  · rw [if_pos he] at hstep
    have htick : c'.kernel.view.status t = (Status.pending on (some n)).tick := by
      rw [hstep]
      exact congrArg Status.tick hs
    rw [Status.tick_pending] at htick
    refine .inl ⟨he, ?_⟩
    split at htick
    · rename_i hone
      rw [if_pos hone]
      exact ⟨htick, by rw [hstep]; simp [View.tick, hs, hone, Status.due, Status.isPending]⟩
    · rwa [if_neg ‹_›]
  · rw [if_neg he] at hstep
    exact .inr ⟨he, hstep⟩

/-- While there are less than `n` ticks and nothing else ends the wait. -/
theorem pending_run (h : c.Safe own False) (hrun : Run (Moves own) c vs c')
    (hs : c.kernel.view.status t = .pending on (some n)) (hn : ticks vs < n.toNat)
    (hall : ∀ x ∈ vs, x.after.kernel.view.status t ≠ .ready) :
    ∃ n', c'.kernel.view.status t = .pending on (some n') ∧ n'.toNat + ticks vs = n.toNat := by
  induction hrun generalizing n with
  | nil => exact ⟨n, hs, rfl⟩
  | @cons c c₁ c' m vs hm hrun ih =>
      have h' := (h.move hm fun hf => hf.elim).1
      have hready : c₁.kernel.view.status t ≠ .ready := hall _ List.mem_cons_self
      have hall' := fun x hx => hall x (List.mem_cons_of_mem _ hx)
      rw [ticks_cons] at hn ⊢
      dsimp only at hn ⊢
      rcases h.pending_move hm hs with ⟨he, hnext⟩ | ⟨he, ⟨hsame, -⟩ | ⟨hend, -⟩⟩
      · rw [if_pos he] at hn ⊢
        obtain ⟨hne, hpred⟩ := pred_of_lt hn
        rw [if_neg hne] at hnext
        obtain ⟨n', hend, hsum⟩ := ih h' hnext (by omega) hall'
        exact ⟨n', hend, by omega⟩
      · rw [if_neg he] at hn ⊢
        exact ih h' (hsame.trans hs) hn hall'
      · exact absurd hend hready

/-- `OSSemPend` begins a wait with the timeout that it is told, where it has to wait. -/
theorem pend_begins {s : σ} {timeout : UInt32} {opt : UInt16} (h : c.Safe own strict)
    (hrun : c.running = some t) (hcode : c.code t = OSSemPend s timeout opt) (htime : timeout ≠ 0)
    (hopt : opt &&& OS_OPT_PEND_NON_BLOCKING = 0) (htok : c.kernel.Ctr s = 0)
    (hlock : c.kernel.OSSchedLockNestingCtr = 0) (hm : Moves own c .access c') :
    c'.kernel.status t = .pending (some s) (some timeout) := by
  obtain ⟨-, hpre⟩ := h.running_of hrun
  have hready : c.kernel.ready.Has t := (hpre.leads (by rw [hcode]; exact fun he => by cases he)).1.1
  have hkernel : c'.kernel = (OSSemPend.pend s timeout opt c.kernel).elim c.kernel Prod.snd := by
    simp only [Moves, Os.move, hrun, hcode, Option.bind_eq_bind, Option.bind_some] at hm
    cases hm
    rfl
  obtain ⟨err, k', heq, -, -, hcase⟩ := h.steady.coherent.semPend hpre.1 hready s timeout opt
  rw [hkernel, heq]
  change k'.view.status t = _
  rcases hcase with ⟨-, htok', -⟩ | ⟨-, -, hrefuse, -⟩ | ⟨-, -, -, -, hview⟩
  · exact absurd htok htok'
  · exact absurd hrefuse (not_or.mpr ⟨not_not.mpr hopt, Nat.not_lt.mpr (Nat.le_of_eq hlock)⟩)
  · rw [hview, if_pos (UInt32.pos_iff_ne_zero.mpr htime)]
    exact Function.update_self _ _ _

end System.Safe

/-! ## Every run from the start -/

/-- A wait with a timeout of `n` ticks ends by it at the `n`-th tick, unless it has ended before. -/
theorem wait_ends (own : Own τ) (ha : own.Admits apps) (cnt : σ → UInt32) :
    ∃ c₀, boot own apps cnt = some c₀ ∧ ∀ us c, Run (Moves own) c₀ us c → ∀ t,
      (∀ s timeout opt c₁, c.running = some t → c.code t = OSSemPend s timeout opt →
        timeout ≠ 0 → opt &&& OS_OPT_PEND_NON_BLOCKING = 0 → c.kernel.Ctr s = 0 →
          c.kernel.OSSchedLockNestingCtr = 0 → Moves own c .access c₁ →
            c₁.kernel.status t = .pending (some s) (some timeout)) ∧
      ∀ on n vs c', c.kernel.status t = .pending on (some n) → Run (Moves own) c vs c' →
        ∀ ws v xs, vs = ws ++ v :: xs → ticks ws < n.toNat →
          (∀ x ∈ ws, x.after.kernel.status t ≠ .ready) →
            if v.before.event v.action = .tick ∧ ticks ws + 1 = n.toNat then
              v.after.kernel.status t = .ready ∧ v.after.kernel.PendStatus t = .OS_STATUS_PEND_TIMEOUT
            else v.after.kernel.status t = .ready →
              v.after.kernel.PendStatus t = .OS_STATUS_PEND_OK := by
  obtain ⟨c₀, hboot, h₀, -⟩ := System.Safe.boot ha (fun hf : False => hf.elim) cnt
  refine ⟨c₀, hboot, fun us c hus t => ?_⟩
  obtain ⟨h, -, -⟩ := h₀.run hus fun hf => hf.elim
  refine ⟨fun s timeout opt c₁ hrun hcode htime hopt htok hlock hm =>
    h.pend_begins hrun hcode htime hopt htok hlock hm, ?_⟩
  rintro on n vs c' hs hrun ws v xs rfl hn hall
  obtain ⟨hws, hm, -⟩ := hrun.split_cons
  obtain ⟨n', hs', hsum⟩ := h.pending_run hws hs hn hall
  obtain ⟨hv, -, -⟩ := h.run hws fun hf => hf.elim
  have hlast : ticks ws + 1 = n.toNat ↔ n' = 1 := by
    rw [← UInt32.toNat_inj, UInt32.toNat_one]
    omega
  simp only [hlast]
  rcases hv.pending_move hm hs' with ⟨he, hnext⟩ | ⟨he, hstays⟩
  · by_cases hone : n' = 1
    · rw [if_pos hone] at hnext
      rwa [if_pos ⟨he, hone⟩]
    · rw [if_neg hone] at hnext
      rw [if_neg fun hr => hone hr.2]
      exact fun hready => by cases hready.symm.trans hnext
  · rw [if_neg fun hr => he hr.1]
    rcases hstays with ⟨hsame, -⟩ | ⟨-, hout⟩
    · exact fun hready => by cases hready.symm.trans (hsame.trans hs')
    · exact fun _ => hout

/-- The task of the USB begins to wait for a semaphore, for one tick at most. -/
def waitRun : List (Move (Fin 1)) :=
  [.PendSV, .turn, .access, .access, .PendSV, .call (.OSSemPend sem 1 0), .access, .access, .PendSV]

/-- Nobody posts the semaphore. -/
theorem bootloader_wait_ends : ∃ c₀ us c vs c',
    boot bootloader bootloaderApps (fun _ : Fin 1 => 0) = some c₀ ∧ Run (Moves bootloader) c₀ us c ∧
      us.map Visit.action = waitRun ∧ c.kernel.status 3 = .pending (some sem) (some 1) ∧
      Run (Moves bootloader) c vs c' ∧ vs.map Visit.action = tickRun ∧
      ∃ v ∈ vs, v.after.kernel.status 3 = .ready ∧
        v.after.kernel.PendStatus 3 = .OS_STATUS_PEND_TIMEOUT := by
  obtain ⟨c₀, hboot, hall⟩ := wait_ends bootloader bootloader_admits (fun _ : Fin 1 => 0)
  obtain ⟨us, c, vs, c', hus, hvs, has, hbs, hwaits, hbefore, hquiet, hlast⟩ :=
    exists_bootloader_run hboot waitRun tickRun
      (fun _ c vs => c.kernel.status 3 = .pending (some sem) (some 1) ∧ ticks (vs.take 4) = 0 ∧
        (∀ x ∈ vs.take 4, x.after.kernel.status 3 ≠ .ready) ∧
        (vs[4]?).any (fun v => v.before.event v.action = .tick) = true)
      (by decide +kernel)
  obtain ⟨v, hv, htick⟩ := (Option.any_eq_true _ _).mp hlast
  obtain ⟨hi, rfl⟩ := List.getElem?_eq_some_iff.mp hv
  have hsplit : vs = vs.take 4 ++ vs[4] :: vs.drop 5 := by
    rw [← List.drop_eq_getElem_cons hi, List.take_append_drop]
  have hend := (hall us c hus 3).2 (some sem) 1 vs c' hwaits hvs _ _ _ hsplit
    (by rw [hbefore]; decide) hquiet
  rw [if_pos ⟨of_decide_eq_true htick, by rw [hbefore]; rfl⟩] at hend
  exact ⟨c₀, us, c, vs, c', hboot, hus, has, hwaits, hvs, hbs, _, List.getElem_mem hi, hend⟩

end DfuSeBootloader.Os
