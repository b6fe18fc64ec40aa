import DfuSeBootloader.Os.Lemmas.Switch

/-!
# Interrupts

What holds between any two steps of the system, and what an interrupt does: it may wake the tick task,
and it asks for a switch where another task than the running one should run.
-/

namespace DfuSeBootloader.Os
open Function (update)

variable {τ σ : Type} {own : Own τ} {strict : Prop} {k k' : Kernel τ σ} {t u : τ}

/-- `strict` is for systems in which no task has a higher priority than the tick task. -/
structure Steady (own : Own τ) (strict : Prop) (k : Kernel τ σ) : Prop where
  coherent : k.Coherent
  running : k.OSRunning = true
  nesting : k.OSIntNestingCtr = 0
  idle : k.ready.Has own.OSIdleTaskTCB
  /-- A switch is to the right task. -/
  switch : k.PENDSVSET = true → k.OSSchedLockNestingCtr = 0 ∧
    ∃ u, k.OSTCBHighRdyPtr = some u ∧ k.OSPrioHighRdy = k.ready.Prio u ∧ k.Highest u
  top : strict → ∀ u, k.ready.Prio own.OSTickTaskTCB ≤ k.ready.Prio u

/-- The running task goes on, or a switch has been asked for. -/
structure Interrupted (k k' : Kernel τ σ) : Prop where
  cur : k'.OSTCBCurPtr = k.OSTCBCurPtr
  prioCur : k'.OSPrioCur = k.OSPrioCur
  prio : k'.ready.Prio = k.ready.Prio
  lock : k'.OSSchedLockNestingCtr = k.OSSchedLockNestingCtr
  has : ∀ u, k.ready.Has u → k'.ready.Has u
  runs : k'.PENDSVSET = false → k.PENDSVSET = false ∧
    (k.OSSchedLockNestingCtr = 0 → ∃ u, k.OSTCBCurPtr = some u ∧ k'.Highest u)

namespace View

variable [DecidableEq τ] {v : View τ σ}

theorem wake_ready (h : v.status u = .ready) : (v.wake t).status u = .ready := by
  by_cases hu : u = t
  · simp [wake, hu]
  · simpa [wake, hu] using h

theorem wakeAll_ready {ts : List τ} (h : v.status u = .ready) :
    (ts.foldl (fun v t => v.wake t) v).status u = .ready := by
  induction ts generalizing v with
  | nil => exact h
  | cons t ts ih => exact ih (wake_ready h)

theorem signal_ready (h : v.status u = .ready) : (v.signal t).status u = .ready := by
  unfold signal
  split
  · exact wake_ready h
  · exact h

end View

namespace Kernel

variable [DecidableEq τ]

/-- The end of the outermost interrupt. -/
theorem Coherent.intExit (h : k.Coherent) (hrun : k.OSRunning = true) (hn : k.OSIntNestingCtr = 1)
    (hidle : k.ready.Has own.OSIdleTaskTCB)
    (hpend : k.PENDSVSET = true → k.OSSchedLockNestingCtr = 0)
    (htop : strict → ∀ u, k.ready.Prio own.OSTickTaskTCB ≤ k.ready.Prio u) :
    ∃ k', OSIntExit k = some k' ∧ Steady own strict k' ∧ Interrupted k k' ∧ k'.view = k.view := by
  have hexit : OSIntExit k = if k.OSSchedLockNestingCtr > 0 then some { k with OSIntNestingCtr := 0 }
      else OSSched.switch { k with OSIntNestingCtr := 0 } := by
    simp [OSIntExit, hrun, hn]
  have hk : Coherent { k with OSIntNestingCtr := 0 } :=
    ⟨⟨h.ready, h.wheel, h.pends, h.placed, h.tokens⟩, h.future⟩
  rw [hexit]
  by_cases hlock : k.OSSchedLockNestingCtr > 0
  · have hset : k.PENDSVSET = false := by
      by_contra hset
      have := hpend (by simpa using hset)
      omega
    rw [if_pos hlock]
    refine ⟨_, rfl, ⟨hk, hrun, rfl, hidle, fun hs => ?_, htop⟩,
      ⟨rfl, rfl, rfl, rfl, fun _ => id, fun _ => ⟨hset, fun h0 => ?_⟩⟩, rfl⟩
    · exact absurd hs (by simp [hset])
    · omega
  · obtain ⟨u, heq, hu⟩ := hk.switch hidle
    have h0 : k.OSSchedLockNestingCtr = 0 := Nat.eq_zero_of_not_pos hlock
    rw [if_neg hlock, heq]
    refine ⟨_, rfl, ⟨?_, hrun, rfl, hidle, fun _ => ⟨h0, u, rfl, rfl, hu⟩, htop⟩,
      ⟨rfl, rfl, rfl, rfl, fun _ => id, fun hs => ?_⟩, rfl⟩
    · exact ⟨⟨h.ready, h.wheel, h.pends, h.placed, h.tokens⟩, h.future⟩
    · simp only [Bool.or_eq_false_iff, bne_eq_false_iff_eq] at hs
      exact ⟨hs.1, fun _ => ⟨u, hs.2.symm, hu⟩⟩

end Kernel

namespace Steady

variable [DecidableEq τ] [DecidableEq σ]

theorem sysTick (h : Steady own strict k) : ∃ k',
    OS_CPU_SysTickHandler own.OSIdleTaskTCB own.OSTickTaskTCB k = some k' ∧
      Steady own strict k' ∧ Interrupted k k' ∧ k'.view = k.view.signal own.OSTickTaskTCB := by
  have hc := h.coherent
  obtain ⟨k₁, heq₁, h₁, hsched₁, hview₁⟩ := Kernel.Coherent.taskSemPost
    (k := { k with OSIntNestingCtr := k.OSIntNestingCtr + 1 })
    ⟨⟨hc.ready, hc.wheel, hc.pends, hc.placed, hc.tokens⟩, hc.future⟩ (Nat.succ_pos _)
    own.OSTickTaskTCB
  obtain ⟨k₂, heq₂, h₂⟩ := h₁.schedRoundRobin own.OSIdleTaskTCB k₁.OSPrioCur
  have hsched := h₂.scheduler.trans hsched₁
  have hview : k₂.view = k.view.signal own.OSTickTaskTCB := h₂.view.trans hview₁
  have hprio : k₂.ready.Prio = k.ready.Prio := congrArg Kernel.Scheduler.Prio hsched
  have hlock : k₂.OSSchedLockNestingCtr = k.OSSchedLockNestingCtr :=
    congrArg Kernel.Scheduler.OSSchedLockNestingCtr hsched
  have hset : k₂.PENDSVSET = k.PENDSVSET := congrArg Kernel.Scheduler.PENDSVSET hsched
  have hcur : k₂.OSTCBCurPtr = k.OSTCBCurPtr := congrArg Kernel.Scheduler.OSTCBCurPtr hsched
  have hn : k₂.OSIntNestingCtr = k.OSIntNestingCtr + 1 :=
    congrArg Kernel.Scheduler.OSIntNestingCtr hsched
  have hhas {u : τ} : k.ready.Has u → k₂.ready.Has u :=
    hc.has_mono h₂.coherent.toConsistent hprio fun hu => by
      change k₂.view.status u = .ready
      rw [hview]
      exact View.signal_ready hu
  have htop : strict → ∀ u, k₂.ready.Prio own.OSTickTaskTCB ≤ k₂.ready.Prio u := fun hs =>
    hprio ▸ h.top hs
  obtain ⟨k', heq, h', hint, hview'⟩ := h₂.coherent.intExit
    ((congrArg Kernel.Scheduler.OSRunning hsched).trans h.running) (by rw [hn, h.nesting])
    (hhas h.idle) (fun hs => hlock.trans (h.switch (hset ▸ hs)).1) htop
  refine ⟨k', ?_, h', ⟨hint.cur.trans hcur,
    hint.prioCur.trans (congrArg Kernel.Scheduler.OSPrioCur hsched), hint.prio.trans hprio,
    hint.lock.trans hlock, fun u hu => hint.has u (hhas hu), fun hs => ?_⟩, hview'.trans hview⟩
  · simp only [OS_CPU_SysTickHandler, OSTimeTick, Option.bind_eq_bind, heq₁, Option.bind_some,
      heq₂, heq]
  · rw [← hset, ← hlock, ← hcur]
    exact hint.runs hs

omit [DecidableEq σ] in
/-- An interrupt that asks nothing of the kernel. -/
theorem interrupt (h : Steady own strict k) : ∃ k', OSIntExit (OSIntEnter k) = some k' ∧
    Steady own strict k' ∧ Interrupted k k' ∧ k'.view = k.view := by
  have hc := h.coherent
  have henter : OSIntEnter k = { k with OSIntNestingCtr := 1 } := by
    simp [OSIntEnter, h.running, h.nesting]
  obtain ⟨k', heq, h', hint, hview⟩ := Kernel.Coherent.intExit
    (k := { k with OSIntNestingCtr := 1 })
    ⟨⟨hc.ready, hc.wheel, hc.pends, hc.placed, hc.tokens⟩, hc.future⟩ h.running rfl h.idle
    (fun hs => (h.switch hs).1) h.top
  exact ⟨k', by rw [henter, heq], h', ⟨hint.cur, hint.prioCur, hint.prio, hint.lock, hint.has,
    hint.runs⟩, hview⟩

omit [DecidableEq τ] [DecidableEq σ] in
/-- The switch. -/
theorem pendSV (h : Steady own strict k) (hs : k.PENDSVSET = true) :
    Steady own strict (OS_CPU_PendSVHandler k) ∧ (OS_CPU_PendSVHandler k).view = k.view ∧
      k.OSSchedLockNestingCtr = 0 ∧ ∃ u, (OS_CPU_PendSVHandler k).OSTCBCurPtr = some u ∧
        (OS_CPU_PendSVHandler k).OSPrioCur = k.ready.Prio u ∧ k.Highest u := by
  have hc := h.coherent
  obtain ⟨hlock, u, hu, hprio, hhigh⟩ := h.switch hs
  refine ⟨⟨⟨⟨hc.ready, hc.wheel, hc.pends, hc.placed, hc.tokens⟩, hc.future⟩, h.running, h.nesting,
    h.idle, fun hf => ?_, h.top⟩, rfl, hlock, u, hu, hprio, hhigh⟩
  cases hf

end Steady

end DfuSeBootloader.Os
