import DfuSeBootloader.Os.Steady
import DfuSeBootloader.Program.Threads

/-!
# The services

A task that is in a service obeys a discipline, whatever the others do between its accesses: where it
runs it is ready, save between the critical section that blocks it and the call of the scheduler
behind it, and nothing blocks it while the scheduler is locked.
-/

namespace DfuSeBootloader.Os
open Program
open Function (update)

variable {τ σ α β : Type} {own : Own τ} {strict : Prop} {k k' : Kernel τ σ} {t u : τ}
  {call : Option (Call σ)}

/-! ## What a service is for -/

/-- The ticks and the option that a delay is called with. -/
def Call.delay : Call σ → Option (UInt32 × UInt16)
  | .OSTimeDly dly opt => some (dly, opt)
  | .OSTimeDlyHMSM hours minutes seconds milli opt =>
      some (OSTimeDlyHMSM.ticks hours minutes seconds milli, opt &&& OS_OPT_TIME_MASK)
  | _ => none

/-- The calls whose critical section is about the scheduler only. -/
def Call.schedules : Call σ → Bool
  | .OSSchedUnlock => true
  | .OSSchedRoundRobinCfg _ _ => true
  | .OSSchedRoundRobinYield => true
  | _ => false

/-- What the operation of task `t` is for, in the call that the task is in, or in a turn of the tick
task. `locked` tells whether the scheduler is locked. -/
inductive View.Performs [DecidableEq τ] [DecidableEq σ] (t : τ) (locked : Bool) (v : View τ σ) :
    Option (Call σ) → Op → View τ σ → Prop
  | quiet {call : Option (Call σ)} {op : Op} : op ≠ .CPU_CRITICAL → op ≠ .OS_CRITICAL →
      op ≠ .OS_TickListUpdate → Performs t locked v call op v
  | schedules {c : Call σ} : c.schedules → Performs t locked v (some c) .CPU_CRITICAL v
  | delays {c : Call σ} {dly n : UInt32} {opt : UInt16} : c.delay = some (dly, opt) →
      v.status t = .ready → n ≠ 0 →
        (opt ≠ OS_OPT_TIME_MATCH → opt ≠ OS_OPT_TIME_PERIODIC → n = dly) →
          Performs t locked v (some c) .OS_CRITICAL (v.delay t n)
  | noDelay {c : Call σ} {dly : UInt32} {opt : UInt16} : c.delay = some (dly, opt) →
      opt = OS_OPT_TIME_MATCH ∨ dly = 0 → Performs t locked v (some c) .OS_CRITICAL v
  | takes {s : σ} {timeout : UInt32} {opt : UInt16} : v.tokens s ≠ 0 →
      Performs t locked v (some (.OSSemPend s timeout opt)) .CPU_CRITICAL
        (v.setTokens s (v.tokens s - 1))
  | noWait {s : σ} {timeout : UInt32} {opt : UInt16} : v.tokens s = 0 →
      opt &&& OS_OPT_PEND_NON_BLOCKING ≠ 0 ∨ locked →
        Performs t locked v (some (.OSSemPend s timeout opt)) .CPU_CRITICAL v
  | waits {s : σ} {timeout : UInt32} {opt : UInt16} : v.tokens s = 0 →
      opt &&& OS_OPT_PEND_NON_BLOCKING = 0 → locked = false → v.status t = .ready →
        Performs t locked v (some (.OSSemPend s timeout opt)) .CPU_CRITICAL
          (v.pend t (some s) (if timeout > 0 then some timeout else none))
  | posts {s : σ} {opt : UInt16} : Performs t locked v (some (.OSSemPost s opt)) .CPU_CRITICAL
      (v.post s (opt &&& OS_OPT_POST_ALL ≠ 0))
  | sets {s : σ} {cnt : UInt32} : v.waiting s = [] →
      Performs t locked v (some (.OSSemSet s cnt)) .CPU_CRITICAL (v.setTokens s cnt)
  | noSet {s : σ} {cnt : UInt32} : v.waiting s ≠ [] →
      Performs t locked v (some (.OSSemSet s cnt)) .CPU_CRITICAL v
  | listens : locked = false → v.status t = .ready →
      Performs t locked v none .CPU_CRITICAL (v.pend t none none)
  | noSignal : locked → Performs t locked v none .CPU_CRITICAL v

/-- What a service may do, whichever it is. -/
inductive View.Does [DecidableEq τ] [DecidableEq σ] (t : τ) (v : View τ σ) : View τ σ → Prop
  | stay : Does t v v
  | delay (n : UInt32) : v.status t = .ready → n ≠ 0 → Does t v (v.delay t n)
  | pend (on : Option σ) (timeout : Option UInt32) : v.status t = .ready → timeout ≠ some 0 →
      (∀ s ∈ on, v.tokens s = 0) → Does t v (v.pend t on timeout)
  | take (s : σ) : v.tokens s ≠ 0 → Does t v (v.setTokens s (v.tokens s - 1))
  | post (s : σ) (all : Bool) : Does t v (v.post s all)
  | set (s : σ) (n : UInt32) : v.waiting s = [] → Does t v (v.setTokens s n)

/-- The task is ready, and in a strict system no ready task has a higher priority, unless the
scheduler is locked. -/
def Leads (strict : Prop) (t : τ) (k : Kernel τ σ) : Prop :=
  k.ready.Has t ∧
    (strict → k.OSSchedLockNestingCtr = 0 → ∀ u, k.ready.Has u → k.ready.Prio t ≤ k.ready.Prio u)

/-- What a task has tested before the operation. -/
def Tested (op : Option Op) (k : Kernel τ σ) : Prop :=
  match op with
  | some .OS_CRITICAL => k.OSSchedLockNestingCtr = 0
  | some .OSSchedLock => k.OSSchedLockNestingCtr < 250
  | _ => True

/-- Where task `t` runs and is about to perform the operation. -/
def pre (strict : Prop) (t : τ) (op : Option Op) (k : Kernel τ σ) : Prop :=
  k.OSTCBCurPtr = some t ∧ k.OSPrioCur = k.ready.Prio t ∧
    if op = some .OSSched then k.ready.Has t ∨ k.OSSchedLockNestingCtr = 0
    else Leads strict t k ∧ Tested op k

/-- Whether the scheduler is locked. -/
def Kernel.locked (k : Kernel τ σ) : Bool := k.OSSchedLockNestingCtr > 0

variable [DecidableEq τ] [DecidableEq σ]

/-- What the operation of task `t` may do. -/
def does (own : Own τ) (t : τ) (call : Option (Call σ)) (op : Op) (k k' : Kernel τ σ) : Prop :=
  match op with
  | .OS_TickListUpdate => t = own.OSTickTaskTCB ∧ k'.view = k.view.tick
  | op => k.view.Performs t k.locked call op k'.view

def discipline (own : Own τ) (strict : Prop) (t : τ) (call : Option (Call σ)) :
    Discipline (Kernel τ σ) Op where
  inv := Steady own strict
  runs k := k.PENDSVSET = false
  pre := pre strict t
  step := does own t call

/-! ## Where a task goes on -/

section

omit [DecidableEq τ] [DecidableEq σ]

theorem tested_of_unlocked (op : Option Op) (h : k.OSSchedLockNestingCtr = 0) : Tested op k := by
  unfold Tested
  split
  · exact h
  · rw [h]
    decide
  · trivial

theorem pre.leads {op : Option Op} (h : pre strict t op k) (hop : op ≠ some .OSSched) :
    Leads strict t k ∧ Tested op k := by
  have hpre := h.2.2
  rwa [if_neg hop] at hpre

theorem Leads.toPre {op : Option Op} (h : Leads strict t k) (hcur : k.OSTCBCurPtr = some t)
    (hprio : k.OSPrioCur = k.ready.Prio t) (hop : Tested op k) : pre strict t op k := by
  refine ⟨hcur, hprio, ?_⟩
  split
  · exact .inl h.1
  · exact ⟨h, hop⟩

end

/-! ## What an access leaves ready -/

namespace View

variable {v v' : View τ σ} {s : σ}

theorem post_ready (all : Bool) (h : v.status u = .ready) : (v.post s all).status u = .ready := by
  unfold post
  split
  · split
    · exact h
    · exact h
  · exact wakeAll_ready h

theorem performs_access {locked : Bool} : v.Performs t locked call .access v :=
  .quiet (by simp) (by simp) (by simp)

theorem Performs.does {locked : Bool} {op : Op} (h : v.Performs t locked call op v') :
    v.Does t v' := by
  cases h with
  | quiet _ _ _ => exact .stay
  | schedules _ => exact .stay
  | delays _ hr hn _ => exact .delay _ hr hn
  | noDelay _ _ => exact .stay
  | takes h0 => exact .take _ h0
  | noWait _ _ => exact .stay
  | waits h0 _ _ hr =>
      refine .pend _ _ hr (fun he => ?_) fun s hs => ?_
      · split at he
        · rename_i hpos
          cases he
          exact absurd hpos (by simp)
        · cases he
      · cases hs
        exact h0
  | posts => exact .post _ _
  | sets hl => exact .set _ _ hl
  | noSet _ => exact .stay
  | listens _ hr => exact .pend none none hr (by simp) (by simp)
  | noSignal _ => exact .stay

/-- A service does not keep another task from running. -/
theorem Does.ready (h : v.Does t v') (hu : u ≠ t) (hr : v.status u = .ready) :
    v'.status u = .ready := by
  cases h with
  | stay => exact hr
  | delay n => simpa [View.delay, hu] using hr
  | pend on timeout => simpa [View.pend, hu] using hr
  | take s => exact hr
  | post s all => exact post_ready all hr
  | set s n => exact hr

end View

/-- A steady state again, where only the tasks have changed. -/
theorem Steady.of_does (h : Steady own strict k) (hruns : k.PENDSVSET = false)
    (h' : k'.Coherent) (hsched : k'.scheduler = k.scheduler) (hdoes : k.view.Does t k'.view)
    (ht : t ≠ own.OSIdleTaskTCB) : Steady own strict k' := by
  have hprio : k'.ready.Prio = k.ready.Prio := Kernel.scheduler_prio hsched
  have hset : k'.PENDSVSET = false := (Kernel.scheduler_set hsched).trans hruns
  refine ⟨h', (Kernel.scheduler_running hsched).trans h.running,
    (Kernel.scheduler_nesting hsched).trans h.nesting,
    h.coherent.has_mono h'.toConsistent hprio (hdoes.ready ht.symm) h.idle, fun hs => ?_,
    fun hs => hprio ▸ h.top hs⟩
  rw [hset] at hs
  cases hs

omit [DecidableEq τ] [DecidableEq σ] in
theorem Steady.nest (h : Steady own strict k) (hruns : k.PENDSVSET = false) (n : Nat) :
    Steady own strict { k with OSSchedLockNestingCtr := n } := by
  have hc := h.coherent
  refine ⟨⟨⟨hc.ready, hc.wheel, hc.pends, hc.placed, hc.tokens⟩, hc.future⟩, h.running, h.nesting,
    h.idle, fun hs => ?_, h.top⟩
  rw [show k.PENDSVSET = true from hs] at hruns
  cases hruns

omit [DecidableEq τ] [DecidableEq σ] in
/-- The task that makes the access goes on, where nobody else has become ready. -/
theorem Leads.after {op : Option Op} (h : Leads strict t k) (hcur : k.OSTCBCurPtr = some t)
    (hprioCur : k.OSPrioCur = k.ready.Prio t) (hk : k.Coherent) (hk' : k'.Coherent)
    (hsched : k'.scheduler = k.scheduler) (hstatus : k'.view.status = k.view.status)
    (hop : Tested op k') : Os.pre strict t op k' := by
  have hprio := Kernel.scheduler_prio hsched
  have hhas (u : τ) : k'.ready.Has u ↔ k.ready.Has u := by
    rw [hk'.has_iff, hk.has_iff, hprio]
    exact and_congr_left fun _ => by rw [show k'.status = k.status from hstatus]
  refine Leads.toPre ⟨(hhas t).mpr h.1, fun hs hl u hu => ?_⟩
    ((Kernel.scheduler_cur hsched).trans hcur) ?_ hop
  · rw [hprio]
    exact h.2 hs (Kernel.scheduler_lock hsched ▸ hl) u ((hhas u).mp hu)
  · rw [Kernel.scheduler_prioCur hsched, hprioCur, hprio]

omit [DecidableEq τ] [DecidableEq σ] in
/-- The task that makes the access calls the scheduler next. -/
theorem pre_OSSched (hcur : k.OSTCBCurPtr = some t) (hprioCur : k.OSPrioCur = k.ready.Prio t)
    (hsched : k'.scheduler = k.scheduler)
    (h : k'.ready.Has t ∨ k.OSSchedLockNestingCtr = 0) : pre strict t (some .OSSched) k' := by
  refine ⟨(Kernel.scheduler_cur hsched).trans hcur, ?_, ?_⟩
  · rw [Kernel.scheduler_prioCur hsched, hprioCur, Kernel.scheduler_prio hsched]
  · rw [if_pos rfl]
    exact h.imp_right (Kernel.scheduler_lock hsched).trans

/-! ## One access -/

theorem obeys_atomically {op : Op} {f : Kernel τ σ → Option (α × Kernel τ σ)}
    {g : α → Code τ σ β}
    (h : ∀ k, Steady own strict k → k.PENDSVSET = false → pre strict t (some op) k → ∃ a k',
      f k = some (a, k') ∧ Steady own strict k' ∧
        (k'.PENDSVSET = false → pre strict t (g a).next k') ∧ does own t call op k k')
    (hg : ∀ a, (g a).Obeys (discipline own strict t call)) :
    (atomically op f >>= g).Obeys (discipline own strict t call) := by
  intro k hk hruns hpre
  obtain ⟨a, k', heq, hk', hpre', hdoes⟩ := h k hk hruns hpre
  have hcode : Prog.bind ((f k).elim (.fault op) fun r => .ret r.1) g = g a := by rw [heq]; rfl
  have hstate : (f k).elim k Prod.snd = k' := by rw [heq]; rfl
  beta_reduce
  rw [hcode, hstate]
  exact ⟨hk', hpre', hdoes, hg a⟩

/-- A test of a variable of the kernel. -/
theorem obeys_get {v : Kernel τ σ → α} {g : α → Code τ σ β}
    (h : ∀ k : Kernel τ σ, Tested (g (v k)).next k)
    (hg : ∀ a, (g a).Obeys (discipline own strict t call)) :
    (Prog.get .access v >>= g).Obeys (discipline own strict t call) :=
  Prog.Obeys.get_bind
    (fun k _ _ hpre => ⟨(hpre.leads (by simp)).1.toPre hpre.1 hpre.2.1 (h k), View.performs_access⟩) hg

/-- Such a test is followed by others, or by nothing. -/
theorem obeys_unlocked {a : α} {p : Code τ σ α} (hp : p.Obeys (discipline own strict t call)) :
    (Prog.get .access (·.OSSchedLockNestingCtr) >>= fun lock =>
      if lock > 0 then pure a else p).Obeys (discipline own strict t call) := by
  refine obeys_get (fun k => ?_) fun lock => .ite (fun _ => .pure a) fun _ => hp
  by_cases hlock : k.OSSchedLockNestingCtr > 0
  · rw [if_pos hlock]
    trivial
  · exact tested_of_unlocked _ (Nat.eq_zero_of_not_pos hlock)

omit [DecidableEq τ] [DecidableEq σ] in
theorem atomically_eq_bind {op : Op} {f : Kernel τ σ → Option (α × Kernel τ σ)} :
    atomically op f = atomically op f >>= pure := by
  change Prog.atom _ _ _ = Prog.atom _ _ _
  congr 1
  funext k
  change (f k).elim (.fault op) (fun r => .ret r.1) =
    Prog.bind ((f k).elim (.fault op) fun r => .ret r.1) pure
  cases f k <;> rfl

/-- What a critical section of a service leaves behind where the operation comes next. Without a call
of the scheduler, a task that has become ready may have a higher priority. -/
inductive Leaves (strict : Prop) (t : τ) (k k' : Kernel τ σ) : Option Op → Prop
  | quiet {op : Option Op} : k'.view.status = k.view.status → Tested op k' → Leaves strict t k k' op
  | sched : k'.ready.Has t ∨ k.OSSchedLockNestingCtr = 0 → Leaves strict t k k' (some .OSSched)
  | noSched {op : Option Op} : ¬ strict → k'.ready.Has t → Tested op k' → Leaves strict t k k' op

/-- A critical section of a service. -/
theorem obeys_section {op : Op} {f : Kernel τ σ → Option (α × Kernel τ σ)} {g : α → Code τ σ β}
    (hop : op = .CPU_CRITICAL ∨ op = .OS_CRITICAL ∨ op = .PendStatus) (ht : t ≠ own.OSIdleTaskTCB)
    (h : ∀ k, k.Coherent → k.OSTCBCurPtr = some t → k.ready.Has t → Tested (some op) k →
      ∃ a k', f k = some (a, k') ∧ k'.Coherent ∧ k'.scheduler = k.scheduler ∧
        k.view.Performs t k.locked call op k'.view ∧ Leaves strict t k k' (g a).next)
    (hg : ∀ a, (g a).Obeys (discipline own strict t call)) :
    (atomically op f >>= g).Obeys (discipline own strict t call) := by
  refine obeys_atomically (fun k hk hruns hpre => ?_) hg
  obtain ⟨hleads, htested⟩ := hpre.leads (by rintro ⟨⟩; simp at hop)
  obtain ⟨a, k', heq, h', hsched, hdoes, hnext⟩ := h k hk.coherent hpre.1 hleads.1 htested
  refine ⟨a, k', heq, hk.of_does hruns h' hsched hdoes.does ht, fun _ => ?_, ?_⟩
  · generalize (g a).next = op at hnext
    cases hnext with
    | quiet hstatus htested =>
        exact hleads.after hpre.1 hpre.2.1 hk.coherent h' hsched hstatus htested
    | sched hready => exact pre_OSSched hpre.1 hpre.2.1 hsched hready
    | noSched hs hready htested =>
        refine Leads.toPre ⟨hready, fun h => absurd h hs⟩
          ((Kernel.scheduler_cur hsched).trans hpre.1) ?_ htested
        rw [Kernel.scheduler_prioCur hsched, hpre.2.1, Kernel.scheduler_prio hsched]
  · rcases hop with rfl | rfl | rfl <;> exact hdoes

/-- The call of the scheduler. The task goes on where it is still the one that should run. -/
theorem obeys_callOSSched {g : Unit → Code τ σ β}
    (hnext : ∀ k : Kernel τ σ, Tested (g ()).next k)
    (hg : (g ()).Obeys (discipline own strict t call)) :
    (callOSSched >>= g).Obeys (discipline own strict t call) := by
  refine obeys_atomically (fun k hk hruns hpre => ?_) fun _ => hg
  obtain ⟨hcur, hprio, hready⟩ := hpre
  rw [if_pos rfl] at hready
  have hsched : OSSched k = if k.OSSchedLockNestingCtr > 0 then some k else OSSched.switch k := by
    simp [OSSched, hk.nesting]
  rw [hsched]
  by_cases hlock : k.OSSchedLockNestingCtr > 0
  · have hleads : Leads strict t k :=
      ⟨hready.resolve_right (Nat.ne_of_gt hlock), fun _ h0 => absurd h0 (Nat.ne_of_gt hlock)⟩
    rw [if_pos hlock]
    exact ⟨(), k, rfl, hk, fun _ => hleads.toPre hcur hprio (hnext k),
      .quiet (by simp) (by simp) (by simp)⟩
  · obtain ⟨u, heq, hu⟩ := hk.coherent.switch hk.idle
    have hc := hk.coherent
    rw [if_neg hlock, heq]
    refine ⟨(), _, rfl, ⟨⟨⟨hc.ready, hc.wheel, hc.pends, hc.placed, hc.tokens⟩, hc.future⟩,
      hk.running, hk.nesting, hk.idle, fun _ => ⟨Nat.eq_zero_of_not_pos hlock, u, rfl, rfl, hu⟩,
      hk.top⟩, fun hs => ?_, .quiet (by simp) (by simp) (by simp)⟩
    simp only [Bool.or_eq_false_iff, bne_eq_false_iff_eq, hcur, Option.some.injEq] at hs
    obtain rfl := hs.2
    exact Leads.toPre ⟨hu.1, fun _ _ => hu.2⟩ hcur hprio (hnext _)

/-! ## Delays -/

theorem obeys_OSTimeDly_block {c : Call σ} {dly : UInt32} {opt : UInt16}
    (hc : c.delay = some (dly, opt)) (ht : t ≠ own.OSIdleTaskTCB) :
    (OSTimeDly.block dly opt).Obeys (discipline own strict t (some c)) := by
  refine obeys_section (.inr (.inl rfl)) ht (fun k hk hcur hready hlock => ?_) fun err => ?_
  · obtain ⟨err, k', heq, h', hsched, hcase⟩ := hk.delay hcur hready dly opt
    rcases hcase with ⟨rfl, n, hn, hview, htime⟩ | ⟨rfl, hview, hzero⟩
    · have hdoes : k.view.Performs t k.locked (some c) .OS_CRITICAL k'.view :=
        hview ▸ .delays hc (hk.has_iff.mp hready).1 hn htime
      exact ⟨_, k', heq, h', hsched, hdoes, .sched (.inr hlock)⟩
    · exact ⟨_, k', heq, h', hsched, hview ▸ .noDelay hc hzero,
        .quiet (congrArg View.status hview) trivial⟩
  · split
    · exact .pure _
    · exact obeys_callOSSched (fun _ => trivial) (.pure _)

theorem obeys_OSTimeDly (dly : UInt32) (opt : UInt16) (ht : t ≠ own.OSIdleTaskTCB) :
    (OSTimeDly dly opt).Obeys (discipline (σ := σ) own strict t (some (.OSTimeDly dly opt))) := by
  have hblock : (OSTimeDly.block dly opt).Obeys
      (discipline (σ := σ) own strict t (some (.OSTimeDly dly opt))) := obeys_OSTimeDly_block rfl ht
  exact obeys_unlocked (.ite (fun _ => .ite (fun _ => .pure _) fun _ => hblock) fun _ =>
    .ite (fun _ => hblock) fun _ => .pure _)

theorem obeys_OSTimeDlyHMSM (hours minutes seconds : UInt16) (milli : UInt32) (opt : UInt16)
    (ht : t ≠ own.OSIdleTaskTCB) :
    (OSTimeDlyHMSM hours minutes seconds milli opt).Obeys (discipline (σ := σ) own strict t
      (some (.OSTimeDlyHMSM hours minutes seconds milli opt))) := by
  have hdelay : (if OSTimeDlyHMSM.ticks hours minutes seconds milli > 0 then
      OSTimeDly.block (OSTimeDlyHMSM.ticks hours minutes seconds milli) (opt &&& OS_OPT_TIME_MASK)
      else pure .OS_ERR_TIME_ZERO_DLY : Code τ σ OS_ERR).Obeys (discipline own strict t
        (some (.OSTimeDlyHMSM hours minutes seconds milli opt))) :=
    .ite (fun _ => obeys_OSTimeDly_block rfl ht) fun _ => .pure _
  exact obeys_unlocked (.ite (fun _ => .ite (fun _ => .pure _) fun _ => hdelay) fun _ =>
    .ite (fun _ => hdelay) fun _ => .pure _)

/-! ## Semaphores and signals -/

/-- What the task that has waited does when it runs again. -/
theorem obeys_waited {result : OS_STATUS → OS_ERR} (ht : t ≠ own.OSIdleTaskTCB) :
    (callOSSched >>= fun _ => pendStatus >>= fun st => pure (result st)).Obeys
      (discipline (σ := σ) own strict t call) := by
  refine obeys_callOSSched (fun _ => trivial) ?_
  refine obeys_section (.inr (.inr rfl)) ht (fun k hk hcur _ _ => ?_) fun _ => .pure _
  exact ⟨k.PendStatus t, k, by simp [hcur], hk, rfl, .quiet (by simp) (by simp) (by simp),
    .quiet rfl trivial⟩

theorem obeys_OSSemPend (p_sem : σ) (timeout : UInt32) (opt : UInt16)
    (ht : t ≠ own.OSIdleTaskTCB) : (OSSemPend p_sem timeout opt).Obeys
      (discipline own strict t (some (.OSSemPend p_sem timeout opt))) := by
  refine obeys_section (.inl rfl) ht (fun k hk hcur hready _ => ?_) fun err => ?_
  · obtain ⟨err, k', heq, h', hsched, hcase⟩ := hk.semPend hcur hready p_sem timeout opt
    refine ⟨err, k', heq, h', hsched, ?_⟩
    rcases hcase with ⟨rfl, htok, hview⟩ | ⟨herr, htok, hrefuse, hview⟩ |
      ⟨rfl, htok, hblock, hlock, hview⟩
    · rw [hview]
      exact ⟨.takes htok, .quiet (by rw [hview]; rfl) trivial⟩
    · rw [hview]
      refine ⟨.noWait htok (by simpa [Kernel.locked] using hrefuse),
        .quiet (congrArg View.status hview) ?_⟩
      rcases herr with rfl | rfl <;> trivial
    · rw [hview]
      exact ⟨.waits htok hblock (by simp [Kernel.locked, hlock]) (hk.has_iff.mp hready).1,
        .sched (.inr hlock)⟩
  · cases err with
    | none => exact obeys_waited ht
    | some err => exact .pure err

/-- In a strict system the scheduler has to be called where a task has become ready. -/
theorem obeys_OSSemPost (p_sem : σ) (opt : UInt16)
    (hopt : strict → opt &&& OS_OPT_POST_NO_SCHED = 0) (ht : t ≠ own.OSIdleTaskTCB) :
    (OSSemPost p_sem opt).Obeys (discipline own strict t (some (.OSSemPost p_sem opt))) := by
  refine obeys_section (.inl rfl) ht (fun k hk hcur hready _ => ?_) fun err => ?_
  · obtain ⟨err, k', heq, h', hsched, hview, herr⟩ := hk.semPost p_sem opt
    have hdoes : k.view.Performs t k.locked (some (.OSSemPost p_sem opt)) .CPU_CRITICAL k'.view :=
      hview ▸ .posts
    have hready' : k'.ready.Has t :=
      hk.has_mono h'.toConsistent (Kernel.scheduler_prio hsched)
        (fun hs => by
          change k'.view.status t = .ready
          rw [hview]
          exact View.post_ready _ hs) hready
    refine ⟨_, k', heq, h', hsched, hdoes, ?_⟩
    cases err with
    | none =>
        by_cases h0 : opt &&& OS_OPT_POST_NO_SCHED = 0
        · simp only [h0]
          exact .sched (.inl hready')
        · simp only [h0]
          exact .noSched (fun hs => h0 (hopt hs)) hready' trivial
    | some err =>
        have hnone : k.view.waiting p_sem = [] := by
          by_contra hne
          simpa using herr.mpr hne
        refine .quiet ?_ trivial
        rw [hview, View.post, hnone]
        dsimp only
        split <;> rfl
  · cases err with
    | none =>
        refine .ite (fun _ => ?_) fun _ => .pure _
        exact obeys_callOSSched (fun _ => trivial) (.pure _)
    | some err => exact .pure err

theorem obeys_OSSemSet (p_sem : σ) (cnt : UInt32) (ht : t ≠ own.OSIdleTaskTCB) :
    (OSSemSet p_sem cnt).Obeys (discipline own strict t (some (.OSSemSet p_sem cnt))) := by
  rw [OSSemSet, atomically_eq_bind]
  refine obeys_section (.inl rfl) ht (fun k hk _ _ _ => ?_) fun err => .pure err
  obtain ⟨h', hsched, hview⟩ := hk.semSet p_sem cnt
  generalize OSSemSet.set p_sem cnt k = r at h' hsched hview
  refine ⟨r.1, r.2, rfl, h', hsched, ?_⟩
  rcases hview with ⟨hsome, hview⟩ | ⟨hnone, hview⟩
  · rw [hview]
    exact ⟨.noSet hsome, .quiet (congrArg View.status hview) trivial⟩
  · rw [hview]
    exact ⟨.sets hnone, .quiet (by rw [hview]; rfl) trivial⟩

/-- The tick task waits for its signal. -/
theorem obeys_OSTaskSemPend (ht : t ≠ own.OSIdleTaskTCB) :
    (OSTaskSemPend 0 0).Obeys (discipline (σ := σ) own strict t none) := by
  refine obeys_section (.inl rfl) ht (fun k hk hcur hready _ => ?_) fun err => ?_
  · obtain ⟨err, k', heq, h', hsched, hcase⟩ := hk.taskSemPend hcur hready 0 0
    refine ⟨err, k', heq, h', hsched, ?_⟩
    rcases hcase with ⟨herr, hrefuse, hview⟩ | ⟨rfl, hlock, hview⟩
    · rw [hview]
      refine ⟨.noSignal (by simpa [Kernel.locked, OS_OPT_PEND_NON_BLOCKING] using hrefuse),
        .quiet (congrArg View.status hview) ?_⟩
      rcases herr with rfl | rfl <;> trivial
    · rw [hview]
      exact ⟨.listens (by simp [Kernel.locked, hlock]) (hk.has_iff.mp hready).1,
        .sched (.inr hlock)⟩
  · cases err with
    | none => exact obeys_waited ht
    | some err => exact .pure err

/-! ## The lock of the scheduler -/

theorem obeys_OSSchedLock : OSSchedLock.Obeys (discipline (σ := σ) own strict t call) := by
  refine obeys_get (fun k => ?_) fun running => .ite (fun _ => .pure _) fun _ =>
    Prog.Obeys.get_bind (fun k _ _ hpre => ⟨?_, View.performs_access⟩) fun lock =>
      .ite (fun _ => .pure _) fun _ => ?_
  · split <;> trivial
  · refine (hpre.leads (by simp)).1.toPre hpre.1 hpre.2.1 ?_
    split
    · trivial
    · exact Nat.lt_of_not_ge ‹_›
  · rw [atomically_eq_bind]
    refine obeys_atomically (fun k hk hruns hpre => ?_) fun err => .pure err
    obtain ⟨hleads, hlock⟩ := hpre.leads (by simp)
    refine ⟨_, _, rfl, hk.nest hruns _, fun _ => ?_, .quiet (by simp) (by simp) (by simp)⟩
    refine Leads.toPre ⟨hleads.1, fun _ h0 => ?_⟩ hpre.1 hpre.2.1 trivial
    simp only [Tested] at hlock
    dsimp only at h0
    omega

theorem obeys_OSSchedUnlock :
    OSSchedUnlock.Obeys (discipline (σ := σ) own strict t (some .OSSchedUnlock)) := by
  refine obeys_get (fun k => ?_) fun running => .ite (fun _ => .pure _) fun _ =>
    obeys_get (fun k => ?_) fun lock => .ite (fun _ => .pure _) fun _ =>
      obeys_atomically (fun k hk hruns hpre => ?_) fun nesting => .ite (fun _ => .pure _) fun _ =>
        obeys_callOSSched (fun _ => trivial) (.pure _)
  · split <;> trivial
  · split <;> trivial
  · obtain ⟨hleads, -⟩ := hpre.leads (by simp)
    refine ⟨_, _, rfl, hk.nest hruns _, fun _ => ?_, .schedules rfl⟩
    by_cases hn : (k.OSSchedLockNestingCtr + 255) % 256 > 0
    · rw [if_pos hn]
      exact Leads.toPre ⟨hleads.1, fun _ h0 => absurd h0 (Nat.ne_of_gt hn)⟩ hpre.1 hpre.2.1 trivial
    · rw [if_neg hn]
      exact ⟨hpre.1, hpre.2.1, .inl hleads.1⟩

/-! ## Time slices -/

theorem obeys_OSSchedRoundRobinCfg (en : Bool) (dflt_time_quanta : UInt32)
    (ht : t ≠ own.OSIdleTaskTCB) :
    (OSSchedRoundRobinCfg en dflt_time_quanta).Obeys (discipline (σ := σ) own strict t
      (some (.OSSchedRoundRobinCfg en dflt_time_quanta))) := by
  rw [OSSchedRoundRobinCfg, atomically_eq_bind]
  refine obeys_section (.inl rfl) ht (fun k hk _ _ _ => ?_) fun err => .pure err
  exact ⟨_, _, rfl, ⟨⟨hk.ready, hk.wheel, hk.pends, hk.placed, hk.tokens⟩, hk.future⟩, rfl,
    .schedules rfl, .quiet rfl trivial⟩

theorem obeys_OSSchedRoundRobinYield (ht : t ≠ own.OSIdleTaskTCB) :
    OSSchedRoundRobinYield.Obeys
      (discipline (σ := σ) own strict t (some .OSSchedRoundRobinYield)) := by
  refine obeys_unlocked (obeys_get (fun k => ?_) fun en => .ite (fun _ => .pure _) fun _ =>
    obeys_section (.inl rfl) ht (fun k hk _ hready _ => ?_) fun yields =>
      .ite (fun _ => obeys_callOSSched (fun _ => trivial) (.pure _)) fun _ => .pure _)
  · split <;> trivial
  · obtain ⟨yields, k', heq, hidles⟩ := hk.yield
    have hdoes : k.view.Performs t k.locked (some .OSSchedRoundRobinYield) .CPU_CRITICAL k'.view :=
      hidles.view ▸ .schedules rfl
    refine ⟨_, k', heq, hidles.coherent, hidles.scheduler, hdoes, ?_⟩
    cases yields with
    | true =>
        refine .sched (.inl (hk.has_mono hidles.coherent.toConsistent
          (Kernel.scheduler_prio hidles.scheduler) (fun hs => ?_) hready))
        change k'.view.status t = .ready
        rw [hidles.view]
        exact hs
    | false => exact .quiet (congrArg View.status hidles.view) trivial

/-! ## The tick task -/

/-- Nobody has a higher priority than the tick task in a strict system. -/
theorem tick_leads {k : Kernel τ σ} (hk : Steady own strict k) (hruns : k.PENDSVSET = false)
    (hpre : pre strict own.OSTickTaskTCB (some .OS_TickListUpdate) k) : ∃ k',
      OS_TickListUpdate k = some k' ∧ Steady own strict k' ∧
        pre strict own.OSTickTaskTCB none k' ∧ k'.view = k.view.tick := by
  obtain ⟨k', heq, h', hsched, hview⟩ := hk.coherent.tickListUpdate
  have hprio := Kernel.scheduler_prio hsched
  have hhas {u : τ} : k.ready.Has u → k'.ready.Has u :=
    hk.coherent.has_mono h'.toConsistent hprio fun hs => by
      change k'.view.status u = .ready
      rw [hview]
      change (k.status u).tick = .ready
      rw [hs]
      rfl
  have hset : k'.PENDSVSET = false := (Kernel.scheduler_set hsched).trans hruns
  refine ⟨k', heq, ⟨h', (Kernel.scheduler_running hsched).trans hk.running,
    (Kernel.scheduler_nesting hsched).trans hk.nesting, hhas hk.idle, fun hs => ?_,
    fun hs => hprio ▸ hk.top hs⟩, ?_, hview⟩
  · rw [hset] at hs
    cases hs
  · refine Leads.toPre ⟨hhas (hpre.leads (by simp)).1.1, fun hs _ u _ => ?_⟩
      ((Kernel.scheduler_cur hsched).trans hpre.1) ?_ trivial
    · rw [hprio]
      exact hk.top hs u
    · rw [Kernel.scheduler_prioCur hsched, hpre.2.1, hprio]

theorem obeys_OS_TickTask :
    OS_TickTask.Obeys (discipline (σ := σ) own strict own.OSTickTaskTCB none) := by
  refine Prog.Obeys.bind (obeys_OSTaskSemPend own.ne) (fun err k hk => ?_) fun err => ?_
  · refine (pre.leads hk (by simp)).1.toPre hk.1 hk.2.1 ?_
    dsimp only
    split <;> trivial
  · refine .ite (fun _ => obeys_get (fun k => ?_) fun running => .ite (fun _ => ?_) fun _ =>
      .pure _) fun _ => .pure _
    · split <;> trivial
    · refine obeys_atomically (fun k hk hruns hpre => ?_) fun _ => .pure _
      obtain ⟨k', heq, hk', hpre', hview⟩ := tick_leads hk hruns hpre
      exact ⟨(), k', by rw [heq]; rfl, hk', fun _ => hpre', rfl, hview⟩

/-! ## All of them -/

/-- A strict system lets no task keep the processor from one that it has made ready. -/
def Call.prompt : Call σ → Prop
  | .OSSemPost _ opt => opt &&& OS_OPT_POST_NO_SCHED = 0
  | _ => True

theorem Call.obeys (c : Call σ) (hc : strict → c.prompt) (ht : t ≠ own.OSIdleTaskTCB) :
    c.code.Obeys (discipline own strict t (some c)) := by
  cases c with
  | OSTimeDly dly opt => exact obeys_OSTimeDly dly opt ht
  | OSTimeDlyHMSM hours minutes seconds milli opt =>
      exact obeys_OSTimeDlyHMSM hours minutes seconds milli opt ht
  | OSSemPend p_sem timeout opt => exact obeys_OSSemPend p_sem timeout opt ht
  | OSSemPost p_sem opt => exact obeys_OSSemPost p_sem opt hc ht
  | OSSemSet p_sem cnt => exact obeys_OSSemSet p_sem cnt ht
  | OSSchedLock => exact obeys_OSSchedLock
  | OSSchedUnlock => exact obeys_OSSchedUnlock
  | OSSchedRoundRobinCfg en dflt_time_quanta =>
      exact obeys_OSSchedRoundRobinCfg en dflt_time_quanta ht
  | OSSchedRoundRobinYield => exact obeys_OSSchedRoundRobinYield ht

end DfuSeBootloader.Os
