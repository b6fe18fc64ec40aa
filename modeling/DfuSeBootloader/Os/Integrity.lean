import DfuSeBootloader.Os.Lemmas.Create
import DfuSeBootloader.Os.Services
import DfuSeBootloader.Program.Run

/-!
# The kernel in every run

The tasks and the interrupts move in any order. The lists of the kernel stay sound, nothing goes
through a null pointer, the task that runs can go on, and every move is one that the abstract view of
the kernel allows.
-/

namespace DfuSeBootloader.Os
open Program
open Function (update)

variable {τ σ : Type} {own : Own τ} {strict : Prop} {k k' : Kernel τ σ} {t u : τ}
  {c c' : System τ σ} {m : Move σ} {apps : List (App τ)} {cnt : σ → UInt32}

/-! ## Between two moves -/

section

variable [DecidableEq τ] [DecidableEq σ]

/-- What holds between any two moves. -/
structure System.Safe (own : Own τ) (strict : Prop) (c : System τ σ) : Prop where
  steady : Steady own strict c.kernel
  code : ∀ t, (c.code t).Obeys (discipline own strict t (c.call t))
  idle : (c.code own.OSIdleTaskTCB).next = none
  runs : c.kernel.PENDSVSET = false → ∃ t, pre strict t (c.code t).next c.kernel

end

theorem Kernel.Highest.pre {op : Option Op} (h : k.Highest t) (hcur : k.OSTCBCurPtr = some t)
    (hprio : k.OSPrioCur = k.ready.Prio t) (hlock : k.OSSchedLockNestingCtr = 0) :
    Os.pre strict t op k :=
  Leads.toPre ⟨h.1, fun _ _ => h.2⟩ hcur hprio (tested_of_unlocked op hlock)

/-- The task that runs goes on behind an interrupt as if there had been none. -/
theorem Interrupted.pre {op : Option Op} (h : Interrupted k k') (hs : k'.PENDSVSET = false)
    (hpre : Os.pre strict t op k) : Os.pre strict t op k' := by
  obtain ⟨hcur, hprio, hop⟩ := hpre
  have hcur' : k'.OSTCBCurPtr = some t := h.cur.trans hcur
  have hprio' : k'.OSPrioCur = k'.ready.Prio t := by rw [h.prioCur, hprio, h.prio]
  by_cases hlock : k.OSSchedLockNestingCtr = 0
  · obtain ⟨u, hu, hhigh⟩ := (h.runs hs).2 hlock
    obtain rfl : t = u := Option.some.inj (hcur.symm.trans hu)
    exact hhigh.pre hcur' hprio' (h.lock.trans hlock)
  · refine ⟨hcur', hprio', ?_⟩
    by_cases hsched : op = some .OSSched
    · rw [if_pos hsched] at hop ⊢
      exact .inl (h.has t (hop.resolve_right hlock))
    · rw [if_neg hsched] at hop ⊢
      refine ⟨⟨h.has t hop.1.1, fun _ h0 => absurd (h.lock.symm.trans h0) hlock⟩, ?_⟩
      have htested := hop.2
      unfold Tested at htested ⊢
      rwa [h.lock]

/-- Multitasking begins with a switch to the first task. -/
theorem Kernel.Starting.start [DecidableEq τ] (h : k.Starting cnt)
    (hidle : k.ready.Has own.OSIdleTaskTCB)
    (htop : strict → ∀ u, k.ready.Prio own.OSTickTaskTCB ≤ k.ready.Prio u) : ∃ k',
      OSStart k = some k' ∧ Steady own strict k' ∧ k'.PENDSVSET = true ∧
        k'.view = View.initial k'.ready.Prio cnt := by
  obtain ⟨u, hprio, hhead, hu, hleast⟩ := h.coherent.ready.highest hidle
  have hc := h.coherent
  have hsched := h.scheduler
  simp only [Kernel.scheduler, Kernel.Scheduler.mk.injEq] at hsched
  obtain ⟨-, -, -, -, hn, hlock, -, -⟩ := hsched
  refine ⟨{ k with
      OSPrioHighRdy := k.ready.Prio u
      OSPrioCur := k.ready.Prio u
      OSTCBHighRdyPtr := some u
      OSTCBCurPtr := some u
      OSRunning := true
      PENDSVSET := true }, ?_, ⟨?_, rfl, hn, hidle, fun _ => ⟨hlock, u, rfl, rfl, hu, hleast⟩, htop⟩,
    rfl, h.view⟩
  · simp only [OSStart, hprio, Option.bind_eq_bind, Option.bind_some, hhead]
  · exact ⟨⟨hc.ready, hc.wheel, hc.pends, hc.placed, hc.tokens⟩, hc.future⟩

/-! ## The moves -/

/-- What a move is for the view of the kernel. -/
inductive Event (τ σ : Type)
  | silent
  /-- The interrupt of the timer. -/
  | signal
  /-- The tick task updates the delays. -/
  | tick
  /-- An operation of a task in a call, and whether the scheduler is locked. -/
  | task (t : τ) (call : Option (Call σ)) (op : Op) (locked : Bool)
  deriving DecidableEq

def System.event (c : System τ σ) : Move σ → Event τ σ
  | .SysTick => .signal
  | .access =>
      match c.running with
      | some t =>
          match (c.code t).next with
          | some .OS_TickListUpdate => .tick
          | some op => .task t (c.call t) op c.kernel.locked
          | none => .silent
      | none => .silent
  | _ => .silent

variable [DecidableEq τ] [DecidableEq σ]

def View.Step (own : Own τ) (v : View τ σ) : Event τ σ → View τ σ → Prop
  | .silent, v' => v' = v
  | .signal, v' => v' = v.signal own.OSTickTaskTCB
  | .tick, v' => v' = v.tick
  | .task t call op locked, v' => v.Performs t locked call op v'

theorem Call.next_code (c : Call σ) :
    (c.code (τ := τ)).next = some .access ∨ (c.code (τ := τ)).next = some .CPU_CRITICAL := by
  cases c with
  | OSSemPend p_sem timeout opt => exact .inr rfl
  | OSSemPost p_sem opt => exact .inr rfl
  | OSSemSet p_sem cnt => exact .inr rfl
  | OSSchedRoundRobinCfg en dflt_time_quanta => exact .inr rfl
  | _ => exact .inl rfl

/-- A strict system lets no task keep the processor from one that it has made ready. -/
def Move.prompt : Move σ → Prop
  | .call c => c.prompt
  | _ => True

/-- No move is stuck: a function of the kernel that failed would stop an interrupt or a task. The task
that runs is ready, save between the section that blocks it and the call of the scheduler. -/
structure System.Live (own : Own τ) (c : System τ σ) : Prop where
  sysTick : ∃ c', Moves own c .SysTick c'
  interrupt : ∃ c', Moves own c .interrupt c'
  task : (∃ c', Moves own c .PendSV c') ∨ ∃ t, c.running = some t ∧
    (c.kernel.ready.Has t ∨ (c.code t).next = some .OSSched) ∧
      ((c.code t).next = none ∨ ∃ c', Moves own c .access c')

namespace System.Safe

theorem interrupted (h : c.Safe own strict) (hk : Steady own strict k')
    (hint : Interrupted c.kernel k') : System.Safe own strict { c with kernel := k' } :=
  ⟨hk, h.code, h.idle, fun hs => by
    obtain ⟨t, hpre⟩ := h.runs (hint.runs hs).1
    exact ⟨t, hint.pre hs hpre⟩⟩

theorem running_of (h : c.Safe own strict) (hrun : c.running = some t) :
    c.kernel.PENDSVSET = false ∧ pre strict t (c.code t).next c.kernel := by
  unfold System.running at hrun
  split at hrun
  · cases hrun
  · have hs : c.kernel.PENDSVSET = false := Bool.eq_false_iff.mpr ‹_›
    obtain ⟨u, hpre⟩ := h.runs hs
    obtain rfl : t = u := Option.some.inj (hrun.symm.trans hpre.1)
    exact ⟨hs, hpre⟩

/-- The rest of the code of one task changes. -/
theorem resume {p : Code τ σ OS_ERR} {call : Option (Call σ)} (h : c.Safe own strict)
    (hk : Steady own strict k') (hp : p.Obeys (discipline own strict t call))
    (ht : t ≠ own.OSIdleTaskTCB) (hpre : k'.PENDSVSET = false → pre strict t p.next k') :
    System.Safe own strict ⟨k', update c.code t p, update c.call t call⟩ := by
  refine ⟨hk, fun u => ?_, ?_, fun hs => ⟨t, ?_⟩⟩
  · change (update c.code t p u).Obeys (discipline own strict u (update c.call t call u))
    by_cases hu : u = t
    · subst hu
      rwa [Function.update_self, Function.update_self]
    · rw [Function.update_of_ne hu, Function.update_of_ne hu]
      exact h.code u
  · change (update c.code t p _).next = none
    rw [Function.update_of_ne ht.symm]
    exact h.idle
  · change pre strict t (update c.code t p t).next k'
    rw [Function.update_self]
    exact hpre hs

/-- A task that is not in a call begins one. -/
theorem begin {p : Code τ σ OS_ERR} {call : Option (Call σ)} (h : c.Safe own strict)
    (hrun : c.running = some t) (hp : p.Obeys (discipline own strict t call))
    (hnext : p.next = some .access ∨ p.next = some .CPU_CRITICAL)
    (ht : t ≠ own.OSIdleTaskTCB) (hb : c.begin t call p = some c') :
    c'.Safe own strict ∧ c'.kernel.view = c.kernel.view := by
  obtain ⟨hs, hpre⟩ := h.running_of hrun
  unfold System.begin at hb
  split at hb
  · rename_i a hret
    cases hb
    have hleads : Leads strict t c.kernel := by
      rw [hret] at hpre
      exact (hpre.leads (by simp [Prog.next])).1
    refine ⟨h.resume h.steady hp ht fun _ => hleads.toPre hpre.1 hpre.2.1 ?_, rfl⟩
    rcases hnext with hnext | hnext <;> rw [hnext] <;> trivial
  · cases hb

theorem access (h : c.Safe own strict) (hm : Moves own c .access c') :
    c'.Safe own strict ∧ View.Step own c.kernel.view (c.event .access) c'.kernel.view := by
  simp only [Moves, Os.move, Option.bind_eq_bind, Option.bind_eq_some_iff, Option.some.injEq,
    Prod.exists] at hm
  obtain ⟨t, hrun, p, k', hstep, rfl⟩ := hm
  obtain ⟨hs, hpre⟩ := h.running_of hrun
  obtain ⟨op, hop, hk', hpre', hdoes, hp⟩ := (h.code t).step h.steady hs hpre hstep
  have ht : t ≠ own.OSIdleTaskTCB := fun e => by
    rw [e, h.idle] at hop
    cases hop
  have hsafe := h.resume hk' hp ht hpre'
  rw [Function.update_eq_self] at hsafe
  refine ⟨hsafe, ?_⟩
  change does own t (c.call t) op c.kernel k' at hdoes
  simp only [System.event, hrun, hop]
  cases op with
  | OS_TickListUpdate => exact hdoes.2
  | _ => exact hdoes

theorem move (h : c.Safe own strict) (hm : Moves own c m c') (hp : strict → m.prompt) :
    c'.Safe own strict ∧ View.Step own c.kernel.view (c.event m) c'.kernel.view := by
  cases m with
  | SysTick =>
      obtain ⟨k', heq, hk', hint, hview⟩ := h.steady.sysTick
      simp only [Moves, Os.move, heq, Option.map_some, Option.some.injEq] at hm
      subst hm
      exact ⟨h.interrupted hk' hint, hview⟩
  | interrupt =>
      obtain ⟨k', heq, hk', hint, hview⟩ := h.steady.interrupt
      simp only [Moves, Os.move, heq, Option.map_some, Option.some.injEq] at hm
      subst hm
      exact ⟨h.interrupted hk' hint, hview⟩
  | PendSV =>
      simp only [Moves, Os.move] at hm
      split at hm
      · cases hm
        obtain ⟨hk', hview, hlock, u, hcur, hprio, hhigh⟩ := h.steady.pendSV ‹_›
        exact ⟨⟨hk', h.code, h.idle, fun _ => ⟨u, Kernel.Highest.pre hhigh hcur hprio hlock⟩⟩, hview⟩
      · cases hm
  | call call =>
      simp only [Moves, Os.move, Option.bind_eq_bind, Option.bind_eq_some_iff] at hm
      obtain ⟨t, hrun, hm⟩ := hm
      split at hm
      · cases hm
      · rename_i hne
        have ht : t ≠ own.OSIdleTaskTCB := fun e => hne (.inl e)
        exact h.begin hrun (call.obeys hp ht) call.next_code ht hm
  | turn =>
      simp only [Moves, Os.move, Option.bind_eq_bind, Option.bind_eq_some_iff] at hm
      obtain ⟨t, hrun, hm⟩ := hm
      split at hm
      · subst t
        exact h.begin hrun obeys_OS_TickTask (.inr rfl) own.ne hm
      · cases hm
  | access => exact h.access hm

theorem live (h : c.Safe own strict) : c.Live own := by
  obtain ⟨k₁, heq₁, -⟩ := h.steady.sysTick
  obtain ⟨k₂, heq₂, -⟩ := h.steady.interrupt
  refine ⟨⟨_, by rw [Moves, Os.move, heq₁, Option.map_some]⟩,
    ⟨_, by rw [Moves, Os.move, heq₂, Option.map_some]⟩, ?_⟩
  by_cases hs : c.kernel.PENDSVSET = true
  · exact .inl ⟨_, if_pos hs⟩
  · obtain ⟨t, hpre⟩ := h.runs (Bool.eq_false_iff.mpr hs)
    have hrun : c.running = some t := (if_neg hs).trans hpre.1
    refine .inr ⟨t, hrun, ?_, ?_⟩
    · by_cases hsched : (c.code t).next = some .OSSched
      · exact .inr hsched
      · exact .inl (hpre.leads hsched).1.1
    by_cases hn : (c.code t).next = none
    · exact .inl hn
    · obtain ⟨r, hr⟩ := (h.code t).exists_step hn c.kernel
      refine .inr ⟨⟨r.2, update c.code t r.1, c.call⟩, ?_⟩
      simp only [Moves, Os.move, hrun, hr, Option.bind_eq_bind, Option.bind_some]

/-- Every run, from any state in which the invariant holds. -/
theorem run {vs : List (Visit (System τ σ) (Move σ))} (h : c.Safe own strict)
    (hrun : Run (Moves own) c vs c') (hp : strict → ∀ v ∈ vs, v.action.prompt) :
    c'.Safe own strict ∧ (∀ v ∈ vs, v.before.Safe own strict) ∧
      Run (View.Step own) c.kernel.view
        (vs.map fun v => ⟨v.before.kernel.view, v.before.event v.action, v.after.kernel.view⟩)
        c'.kernel.view := by
  induction hrun with
  | nil c => exact ⟨h, fun _ hv => absurd hv List.not_mem_nil, .nil _⟩
  | cons hm _ ih =>
      obtain ⟨h', hstep⟩ := h.move hm fun hs => hp hs _ List.mem_cons_self
      obtain ⟨hend, hall, hview⟩ := ih h' fun hs v hv => hp hs v (List.mem_cons_of_mem _ hv)
      exact ⟨hend, List.forall_mem_cons.mpr ⟨h, hall⟩, .cons hstep hview⟩

theorem boot (ha : own.Admits apps)
    (hs : strict → ∀ a ∈ apps, OS_CFG_TICK_TASK_PRIO ≤ a.prio) (cnt : σ → UInt32) :
    ∃ c, Os.boot own apps cnt = some c ∧ c.Safe own strict ∧
      c.kernel.view = View.initial c.kernel.ready.Prio cnt ∧ c.code = fun _ => .ret .OS_ERR_NONE := by
  obtain ⟨k₁, k, heq₁, heq, hk, hidle, htop⟩ := Kernel.starting_boot own ha cnt
  obtain ⟨k', hstart, hk', hset, hview⟩ := hk.start hidle fun hf => htop (hs hf)
  refine ⟨⟨k', fun _ => .ret .OS_ERR_NONE, fun _ => none⟩, ?_,
    ⟨hk', fun _ => .pure _, rfl, fun hf => ?_⟩, hview, rfl⟩
  · simp only [Os.boot, heq₁, heq, hstart, Option.bind_eq_bind, Option.bind_some]
  · rw [show k'.PENDSVSET = false from hf] at hset
    cases hset

end System.Safe

/-! ## Every run from the start -/

/-- The tasks of the bootloader: the idle task, the tick task, `AppTaskStart` and the task of the
USB. -/
def bootloader : Own (Fin 4) := ⟨0, 1, by decide⟩

def bootloaderApps : List (App (Fin 4)) := [⟨2, 49, 0⟩, ⟨3, 4, 0⟩]

/-- A semaphore that the tasks share. -/
def sem : Fin 1 := 0

theorem bootloader_admits : bootloader.Admits bootloaderApps := by
  constructor
  · decide
  · simp [bootloaderApps, bootloader]
  · simp [bootloaderApps, OS_CFG_PRIO_MAX]

/-- A run of the tasks of the bootloader and its continuation, both computed. -/
theorem exists_bootloader_run {c₀ : System (Fin 4) (Fin 1)}
    (hboot : boot bootloader bootloaderApps (fun _ => 0) = some c₀) (as bs : List (Move (Fin 1)))
    (Q : List (Visit (System (Fin 4) (Fin 1)) (Move (Fin 1))) → System (Fin 4) (Fin 1) →
      List (Visit (System (Fin 4) (Fin 1)) (Move (Fin 1))) → Prop) [∀ us c vs, Decidable (Q us c vs)]
    (h : ((boot bootloader bootloaderApps fun _ => 0).any fun c₀ =>
      (trace (move bootloader) as c₀).any fun r => (trace (move bootloader) bs r.2).any fun r' =>
        decide (Q r.1 r.2 r'.1)) = true) :
    ∃ us c vs c', Run (Moves bootloader) c₀ us c ∧ Run (Moves bootloader) c vs c' ∧
      us.map Visit.action = as ∧ vs.map Visit.action = bs ∧ Q us c vs := by
  rw [hboot, Option.any_some] at h
  cases has : trace (move bootloader) as c₀ with
  | none =>
      rw [has] at h
      cases h
  | some r =>
      obtain ⟨hus, has'⟩ := run_of_trace has
      rw [has, Option.any_some] at h
      obtain ⟨vs, c', hvs, hbs, hQ⟩ := exists_run (move bootloader) bs r.2 (fun vs _ => Q r.1 r.2 vs) h
      exact ⟨r.1, r.2, vs, c', hus, hvs, has', hbs, hQ⟩

/-- The lists stay sound, and no move is stuck. -/
theorem kernel_integrity (own : Own τ) (ha : own.Admits apps) (cnt : σ → UInt32) :
    ∃ c₀, boot own apps cnt = some c₀ ∧ ∀ vs c, Run (Moves own) c₀ vs c →
      c.kernel.Coherent ∧ c.Live own := by
  obtain ⟨c₀, hboot, h₀, -⟩ := System.Safe.boot ha (fun hf : False => hf.elim) cnt
  refine ⟨c₀, hboot, fun vs c hrun => ?_⟩
  obtain ⟨h, -, -⟩ := h₀.run hrun fun hf => hf.elim
  exact ⟨h.steady.coherent, h.live⟩

theorem bootloader_kernel_integrity : bootloader.Admits bootloaderApps ∧
    ∃ c₀, boot bootloader bootloaderApps (fun _ : Fin 1 => 0) = some c₀ ∧
      ∀ vs c, Run (Moves bootloader) c₀ vs c → c.kernel.Coherent ∧ c.Live bootloader :=
  ⟨bootloader_admits, kernel_integrity bootloader bootloader_admits _⟩

/-- The view of the kernel takes a step of its own at every move. -/
theorem kernel_refines_view (own : Own τ) (ha : own.Admits apps) (cnt : σ → UInt32) :
    ∃ c₀, boot own apps cnt = some c₀ ∧ ∀ vs c, Run (Moves own) c₀ vs c →
      Run (View.Step own) (View.initial c₀.kernel.ready.Prio cnt)
        (vs.map fun v => ⟨v.before.kernel.view, v.before.event v.action, v.after.kernel.view⟩)
        c.kernel.view := by
  obtain ⟨c₀, hboot, h₀, hview, -⟩ := System.Safe.boot ha (fun hf : False => hf.elim) cnt
  refine ⟨c₀, hboot, fun vs c hrun => ?_⟩
  obtain ⟨-, -, h⟩ := h₀.run hrun fun hf => hf.elim
  rwa [hview] at h

theorem bootloader_kernel_refines_view : bootloader.Admits bootloaderApps ∧
    ∃ c₀, boot bootloader bootloaderApps (fun _ : Fin 1 => 0) = some c₀ ∧
      ∀ vs c, Run (Moves bootloader) c₀ vs c →
        Run (View.Step bootloader) (View.initial c₀.kernel.ready.Prio fun _ => 0)
          (vs.map fun v => ⟨v.before.kernel.view, v.before.event v.action, v.after.kernel.view⟩)
          c.kernel.view :=
  ⟨bootloader_admits, kernel_refines_view bootloader bootloader_admits _⟩

/-- Where the scheduler is not locked, no ready task has a higher priority than the one that runs,
until it calls the scheduler itself. -/
theorem highest_priority_runs (own : Own τ) (ha : own.Admits apps)
    (hp : ∀ a ∈ apps, OS_CFG_TICK_TASK_PRIO ≤ a.prio) (cnt : σ → UInt32) :
    ∃ c₀, boot own apps cnt = some c₀ ∧ ∀ vs c, Run (Moves own) c₀ vs c →
      (∀ v ∈ vs, v.action.prompt) → ∀ t, c.running = some t → (c.code t).next ≠ some .OSSched →
        c.kernel.OSSchedLockNestingCtr = 0 →
          ∀ u, c.kernel.ready.Has u → c.kernel.ready.Prio t ≤ c.kernel.ready.Prio u := by
  obtain ⟨c₀, hboot, h₀, -⟩ := System.Safe.boot ha (fun _ : True => hp) cnt
  refine ⟨c₀, hboot, fun vs c hrun hprompt t ht hsched hlock => ?_⟩
  obtain ⟨h, -, -⟩ := h₀.run hrun fun _ => hprompt
  exact ((h.running_of ht).2.leads hsched).1.2 trivial hlock

/-- The task of the USB posts a semaphore that `AppTaskStart` does not wait for. -/
def postRun : List (Move (Fin 1)) :=
  [.PendSV, .turn, .access, .access, .PendSV, .call (.OSSemPost sem 0), .access]

/-- Both tasks are ready, and the task of the USB runs. -/
theorem bootloader_highest_priority_runs : ∃ c₀ us c,
    boot bootloader bootloaderApps (fun _ : Fin 1 => 0) = some c₀ ∧ Run (Moves bootloader) c₀ us c ∧
      us.map Visit.action = postRun ∧ c.running = some 3 ∧ c.kernel.ready.Has 2 ∧
      c.kernel.ready.Prio 3 ≤ c.kernel.ready.Prio 2 := by
  have hp : ∀ a ∈ bootloaderApps, OS_CFG_TICK_TASK_PRIO ≤ a.prio := by
    simp [bootloaderApps, OS_CFG_TICK_TASK_PRIO]
  obtain ⟨c₀, hboot, hall⟩ :=
    highest_priority_runs bootloader bootloader_admits hp (fun _ : Fin 1 => 0)
  obtain ⟨us, c, -, -, hus, -, has, -, hrun, hnext, hlock, hready⟩ := exists_bootloader_run hboot
    postRun [] (fun _ c _ => c.running = some 3 ∧ (c.code 3).next ≠ some .OSSched ∧
      c.kernel.OSSchedLockNestingCtr = 0 ∧ 2 ∈ c.kernel.ready.list (c.kernel.ready.Prio 2))
    (by decide +kernel)
  have hprompt : ∀ m ∈ postRun, m.prompt := by
    simp [postRun, Move.prompt, Call.prompt, OS_OPT_POST_NO_SCHED]
  have hmoves : ∀ v ∈ us, v.action.prompt := fun v hv =>
    hprompt _ (has ▸ List.mem_map_of_mem hv)
  exact ⟨c₀, us, c, hboot, hus, has, hrun, hready, hall us c hus hmoves 3 hrun hnext hlock 2 hready⟩

end DfuSeBootloader.Os
