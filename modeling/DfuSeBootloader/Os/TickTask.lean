import DfuSeBootloader.Os.Ticks

/-!
# The tick task

The interrupts of the timer and the updates of the delays. A signal to the tick task is not counted:
the interrupt does nothing where the task is not waiting for it.
-/

namespace DfuSeBootloader.Os
open Program
open Function (update)

variable {τ σ : Type} [DecidableEq τ] [DecidableEq σ] {own : Own τ} {strict : Prop} {t u : τ}
  {v v' : View τ σ} {n : Nat} {o : OS_STATUS} {c c' : System τ σ} {m : Move σ} {k k' : Kernel τ σ}
  {vs : List (Visit (System τ σ) (Move σ))} {apps : List (App τ)}

/-! ## Its code -/

namespace OS_TickTask

/-- Behind the wait. -/
def waited (err : OS_ERR) : Code τ σ OS_ERR := do
  if err = .OS_ERR_NONE then
    if ← Prog.get .access (·.OSRunning) then
      atomically .OS_TickListUpdate fun k => (OS_TickListUpdate k).map ((), ·)
  pure err

/-- The tick task has been made ready again and has not yet looked why. -/
def outcome : Code τ σ OS_ERR := pendStatus >>= fun st => waited (OSTaskSemPend.result st)

def blocked : Code τ σ OS_ERR := callOSSched >>= fun _ => outcome

def updates : Code τ σ OS_ERR := do
  atomically .OS_TickListUpdate fun k => (OS_TickListUpdate k).map ((), ·)
  pure .OS_ERR_NONE

theorem pend_eq : (OSTaskSemPend 0 0 : Code τ σ OS_ERR) =
    atomically .CPU_CRITICAL (OSTaskSemPend.pend 0 0) >>= fun r =>
      r.elim (callOSSched >>= fun _ => pendStatus >>= fun st =>
        pure (OSTaskSemPend.result st)) pure := by
  unfold OSTaskSemPend
  congr 1
  funext r
  cases r <;> rfl

theorem eq_bind : (OS_TickTask : Code τ σ OS_ERR) =
    atomically .CPU_CRITICAL (OSTaskSemPend.pend 0 0) >>= fun r => r.elim blocked waited := by
  change OSTaskSemPend 0 0 >>= waited = _
  rw [pend_eq, Prog.bind_assoc]
  congr 1
  funext r
  cases r with
  | none =>
      dsimp only [Option.elim]
      rw [Prog.bind_assoc]
      congr 1
      funext _
      rw [Prog.bind_assoc]
      rfl
  | some err => rfl

/-- The code of the tick task, its status, how its last wait has ended, and whether it owes an update
of the delays. -/
inductive Phase : Code τ σ OS_ERR → Status σ → OS_STATUS → Nat → Prop
  | idle (err : OS_ERR) (st : OS_STATUS) : Phase (.ret err) .ready st 0
  | begun (st : OS_STATUS) : Phase OS_TickTask .ready st 0
  | blocked : Phase OS_TickTask.blocked (.pending none none) .OS_STATUS_PEND_OK 0
  | sleeps : Phase OS_TickTask.outcome (.pending none none) .OS_STATUS_PEND_OK 0
  | signalled : Phase OS_TickTask.blocked .ready .OS_STATUS_PEND_OK 1
  | woken : Phase OS_TickTask.outcome .ready .OS_STATUS_PEND_OK 1
  | told (st : OS_STATUS) : Phase (OS_TickTask.waited .OS_ERR_NONE) .ready st 1
  | updates (st : OS_STATUS) : Phase OS_TickTask.updates .ready st 1

end OS_TickTask

/-! ## One move -/

/-- The task waits for a signal. -/
def View.listens (t : τ) (v : View τ σ) : Bool :=
  match v.status t with
  | .pending none _ => true
  | _ => false

omit [DecidableEq τ] [DecidableEq σ] in
theorem OSSched_view [DecidableEq τ] (h : OSSched k = some k') : k'.view = k.view := by
  unfold OSSched at h
  split at h
  · cases h
    rfl
  · split at h
    · cases h
      rfl
    · simp only [OSSched.switch, Option.bind_eq_bind, Option.bind_eq_some_iff] at h
      obtain ⟨prio, -, heq⟩ := h
      cases heq
      rfl

omit [DecidableEq σ] in
theorem OSSched_section {a : Unit} (h : (OSSched k).map ((), ·) = some (a, k')) :
    k'.view = k.view := by
  obtain ⟨k₁, heq, hk⟩ := Option.map_eq_some_iff.mp h
  cases hk
  exact OSSched_view heq

/-- The next access of the running task. -/
theorem System.Safe.atomically_move {α : Type} {op : Op} {f : Kernel τ σ → Option (α × Kernel τ σ)}
    {g : α → Code τ σ OS_ERR} (h : c'.Safe own strict) (hrun : c.running = some t)
    (hcode : c.code t = atomically op f >>= g) (hm : Moves own c .access c') : ∃ a,
      f c.kernel = some (a, c'.kernel) ∧ c'.code = update c.code t (g a) := by
  have hstep : c' = ⟨(f c.kernel).elim c.kernel Prod.snd, update c.code t
      (Prog.bind ((f c.kernel).elim (.fault op) fun r => .ret r.1) g), c.call⟩ := by
    simp only [Moves, Os.move, hrun, hcode, Option.bind_eq_bind, Option.bind_some] at hm
    cases hm
    rfl
  subst hstep
  cases hf : f c.kernel with
  | none =>
      have hobeys := h.code t
      simp only [hf, Option.elim_none, Function.update_self] at hobeys
      exact hobeys.elim
  | some r => exact ⟨r.1, rfl, rfl⟩

namespace OS_TickTask

/-- A signal is for a tick task that waits for one. -/
theorem Phase.signal {p : Code τ σ OS_ERR} (h : Phase p (v.status t) (v.outcome t) n) :
    ∃ n', Phase p ((v.signal t).status t) ((v.signal t).outcome t) n' ∧
      n' = n + if v.listens t then 1 else 0 := by
  generalize hs : v.status t = st at h
  generalize ho : v.outcome t = o at h
  have hready (hr : st = .ready) : v.signal t = v ∧ v.listens t = false := by
    subst hr
    simp [View.signal, View.listens, hs]
  have hwaits (hp : st = .pending none none) : v.signal t = v.wake t ∧ v.listens t = true := by
    subst hp
    simp [View.signal, View.listens, hs]
  cases h with
  | blocked =>
      rw [(hwaits rfl).1, (hwaits rfl).2]
      exact ⟨1, by simpa [View.wake] using .signalled, rfl⟩
  | sleeps =>
      rw [(hwaits rfl).1, (hwaits rfl).2]
      exact ⟨1, by simpa [View.wake] using .woken, rfl⟩
  | idle err st =>
      rw [(hready rfl).1, (hready rfl).2, hs, ho]
      exact ⟨0, .idle err _, rfl⟩
  | begun st =>
      rw [(hready rfl).1, (hready rfl).2, hs, ho]
      exact ⟨0, .begun _, rfl⟩
  | signalled =>
      rw [(hready rfl).1, (hready rfl).2, hs, ho]
      exact ⟨1, .signalled, rfl⟩
  | woken =>
      rw [(hready rfl).1, (hready rfl).2, hs, ho]
      exact ⟨1, .woken, rfl⟩
  | told st =>
      rw [(hready rfl).1, (hready rfl).2, hs, ho]
      exact ⟨1, .told _, rfl⟩
  | updates st =>
      rw [(hready rfl).1, (hready rfl).2, hs, ho]
      exact ⟨1, .updates _, rfl⟩

theorem Phase.bound {p : Code τ σ OS_ERR} (h : Phase p (v.status t) o n) :
    n ≤ 1 ∧ (v.listens t → n = 0) := by
  generalize hs : v.status t = st at h
  cases h <;> simp [View.listens, hs]

theorem Phase.of_ret {p : Code τ σ OS_ERR} {st : Status σ} {o : OS_STATUS} (h : Phase p st o n)
    (hp : p.next = none) : st = .ready ∧ n = 0 := by
  cases h with
  | idle err o => exact ⟨rfl, rfl⟩
  | _ => cases hp

theorem Phase.status {p : Code τ σ OS_ERR} {st : Status σ} {o : OS_STATUS} (h : Phase p st o n) :
    st = .ready ∨ st = .pending none none := by
  cases h <;> simp

end OS_TickTask

namespace System.Safe

/-- The tick task waits for no semaphore. -/
theorem phase_not_waiting {p : Code τ σ OS_ERR} (h : c.Safe own strict)
    (hph : OS_TickTask.Phase p (c.kernel.view.status t) (c.kernel.view.outcome t) n) (s : σ) :
    t ∉ c.kernel.view.waiting s := fun hm => by
  have hobj := h.steady.coherent.pends.obj.mp hm
  have hp := h.steady.coherent.pending_of_mem hm
  rcases hph.status with hs | hs
  · rw [show c.kernel.status t = .ready from hs] at hp
    cases hp
  · have hon : c.kernel.pendsOn t = some s := by simp [Kernel.pendsOn, hobj]
    rcases Kernel.isPending_iff.mp hp with hst | hst
    · simp [Kernel.view, Kernel.status, hst, hon] at hs
    · simp [Kernel.view, Kernel.status, hst] at hs

theorem access_other (h : c.Safe own strict) (hrun : c.running = some t)
    (hm : Moves own c .access c') : (∀ u ≠ t, c'.code u = c.code u) ∧
      (c.event .access = .tick → t = own.OSTickTaskTCB) := by
  simp only [Moves, Os.move, hrun, Option.bind_eq_bind, Option.bind_some,
    Option.bind_eq_some_iff, Option.some.injEq, Prod.exists] at hm
  obtain ⟨p, k', hstep, rfl⟩ := hm
  obtain ⟨hs, hpre⟩ := h.running_of hrun
  obtain ⟨op, hop, -, -, hdoes, -⟩ := (h.code t).step h.steady hs hpre hstep
  refine ⟨fun u hu => Function.update_of_ne hu _ _, fun he => ?_⟩
  cases op with
  | OS_TickListUpdate => exact hdoes.1
  | _ => simp [System.event, hrun, hop] at he

theorem access_next (hrun : c.running = some t) (hm : Moves own c .access c') :
    ∃ op, (c.code t).next = some op := by
  cases hn : (c.code t).next with
  | none =>
      obtain ⟨err, hret⟩ := Prog.eq_ret_of_next hn
      simp only [Moves, Os.move, hrun, hret, Option.bind_eq_bind, Option.bind_some] at hm
      cases hm
  | some op => exact ⟨op, rfl⟩

omit [DecidableEq τ] [DecidableEq σ] in
theorem event_access (hrun : c.running = some t) {op : Op} (hop : (c.code t).next = some op)
    (hne : op ≠ .OS_TickListUpdate) :
    c.event .access = .task t (c.call t) op c.kernel.locked := by
  simp only [System.event, hrun, hop]

omit [DecidableEq τ] [DecidableEq σ] in
theorem event_update (hrun : c.running = some t)
    (hop : (c.code t).next = some .OS_TickListUpdate) : c.event .access = .tick := by
  simp only [System.event, hrun, hop]

theorem access_phase (h : c.Safe own False) (hm : Moves own c .access c')
    (hrun : c.running = some own.OSTickTaskTCB)
    (hph : OS_TickTask.Phase (c.code own.OSTickTaskTCB) (c.kernel.view.status own.OSTickTaskTCB)
      (c.kernel.view.outcome own.OSTickTaskTCB) n) :
    ∃ n', OS_TickTask.Phase (c'.code own.OSTickTaskTCB) (c'.kernel.view.status own.OSTickTaskTCB)
      (c'.kernel.view.outcome own.OSTickTaskTCB) n' ∧
      n' + (if c.event .access = .tick then 1 else 0) = n := by
  have h' := (h.move hm fun hf => hf.elim).1
  obtain ⟨-, hpre⟩ := h.running_of hrun
  generalize hcode : c.code own.OSTickTaskTCB = p at hph
  generalize hs : c.kernel.view.status own.OSTickTaskTCB = st at hph
  generalize ho : c.kernel.view.outcome own.OSTickTaskTCB = o at hph
  cases hph with
  | idle err o => simp [Moves, Os.move, hrun, hcode, Prog.step] at hm
  | begun o =>
      rw [OS_TickTask.eq_bind] at hcode
      obtain ⟨err, hf, hcode'⟩ := h'.atomically_move hrun hcode hm
      rw [event_access hrun (show (c.code _).next = some .CPU_CRITICAL by rw [hcode]; rfl) (by simp)]
      have hready : c.kernel.ready.Has own.OSTickTaskTCB :=
        (hpre.leads (by rw [hcode]; exact fun he => by cases he)).1.1
      obtain ⟨err', k', heq, -, -, hcase⟩ := h.steady.coherent.taskSemPend hpre.1 hready 0 0
      cases heq.symm.trans hf
      rw [hcode', Function.update_self]
      rcases hcase with ⟨herr, hview⟩ | ⟨rfl, -, hview⟩
      · rw [hview.2, hs]
        rcases herr with rfl | rfl <;> exact ⟨0, .idle _ _, rfl⟩
      · rw [hview]
        exact ⟨0, by simpa [View.pend] using .blocked, rfl⟩
  | blocked =>
      obtain ⟨_, hf, hcode'⟩ := h'.atomically_move hrun hcode hm
      rw [event_access hrun (show (c.code _).next = some .OSSched by rw [hcode]; rfl) (by simp), hcode',
        Function.update_self, OSSched_section hf, hs, ho]
      exact ⟨0, .sleeps, rfl⟩
  | sleeps =>
      have hready : c.kernel.ready.Has own.OSTickTaskTCB :=
        (hpre.leads (by rw [hcode]; exact fun he => by cases he)).1.1
      have hst : c.kernel.status own.OSTickTaskTCB = .ready :=
        (h.steady.coherent.has_iff.mp hready).1
      cases hs.symm.trans hst
  | signalled =>
      obtain ⟨_, hf, hcode'⟩ := h'.atomically_move hrun hcode hm
      rw [event_access hrun (show (c.code _).next = some .OSSched by rw [hcode]; rfl) (by simp), hcode',
        Function.update_self, OSSched_section hf, hs, ho]
      exact ⟨1, .woken, rfl⟩
  | woken =>
      obtain ⟨st, hf, hcode'⟩ := h'.atomically_move hrun hcode hm
      rw [event_access hrun (show (c.code _).next = some .PendStatus by rw [hcode]; rfl) (by simp)]
      simp only [hpre.1, Option.map_some, Option.some.injEq, Prod.mk.injEq] at hf
      obtain ⟨rfl, hk⟩ := hf
      rw [hcode', Function.update_self, ← hk, hs,
        show c.kernel.PendStatus own.OSTickTaskTCB = .OS_STATUS_PEND_OK from ho]
      exact ⟨1, .told _, rfl⟩
  | told o =>
      rw [event_access hrun (show (c.code _).next = some .access by rw [hcode]; rfl) (by simp)]
      simp only [Moves, Os.move, hrun, hcode, Option.bind_eq_bind, Option.bind_some] at hm
      cases hm
      change ∃ n', OS_TickTask.Phase (Function.update c.code own.OSTickTaskTCB
        (if c.kernel.OSRunning then OS_TickTask.updates else pure .OS_ERR_NONE) _)
        (c.kernel.view.status _) _ n' ∧ _
      rw [Function.update_self, if_pos h.steady.running, hs]
      exact ⟨1, .updates _, rfl⟩
  | updates o =>
      obtain ⟨_, hf, hcode'⟩ := h'.atomically_move hrun hcode hm
      have hstep := (h.move hm fun hf => hf.elim).2
      rw [event_update hrun (by rw [hcode]; rfl)] at hstep ⊢
      rw [hcode', Function.update_self, show c'.kernel.view = c.kernel.view.tick from hstep]
      refine ⟨0, ?_, rfl⟩
      change OS_TickTask.Phase _ (c.kernel.view.status _).tick _ 0
      rw [hs]
      exact .idle _ _

omit [DecidableEq σ] in
/-- A task that is not in a call begins one, and the others stay where they are. -/
theorem begin_code {q : Code τ σ OS_ERR} {call : Option (Call σ)}
    (hb : c.begin t call q = some c') :
    (∃ err, c.code t = .ret err) ∧ c'.code = update c.code t q := by
  unfold System.begin at hb
  split at hb
  · cases hb
    exact ⟨⟨_, ‹_›⟩, rfl⟩
  · cases hb

theorem tick_move (h : c.Safe own False) (hm : Moves own c m c')
    (hph : OS_TickTask.Phase (c.code own.OSTickTaskTCB) (c.kernel.view.status own.OSTickTaskTCB)
      (c.kernel.view.outcome own.OSTickTaskTCB) n) :
    ∃ n', OS_TickTask.Phase (c'.code own.OSTickTaskTCB) (c'.kernel.view.status own.OSTickTaskTCB)
      (c'.kernel.view.outcome own.OSTickTaskTCB) n' ∧
      n' + (if c.event m = .tick then 1 else 0) = n +
        if c.event m = .signal ∧ c.kernel.view.listens own.OSTickTaskTCB then 1 else 0 := by
  have hview := (h.move hm fun hf => hf.elim).2
  cases m with
  | SysTick =>
      have hcode : c'.code = c.code := by
        simp only [Moves, Os.move, Option.map_eq_some_iff] at hm
        obtain ⟨k', -, rfl⟩ := hm
        rfl
      obtain ⟨n', hph', hn⟩ := hph.signal
      rw [hcode, show c'.kernel.view = _ from hview]
      exact ⟨n', hph', by simpa [System.event] using hn⟩
  | interrupt =>
      have hcode : c'.code = c.code := by
        simp only [Moves, Os.move, Option.map_eq_some_iff] at hm
        obtain ⟨k', -, rfl⟩ := hm
        rfl
      rw [hcode, show c'.kernel.view = _ from hview]
      exact ⟨n, hph, by simp [System.event]⟩
  | PendSV =>
      have hcode : c'.code = c.code := by
        simp only [Moves, Os.move] at hm
        split at hm
        · cases hm
          rfl
        · cases hm
      rw [hcode, show c'.kernel.view = _ from hview]
      exact ⟨n, hph, by simp [System.event]⟩
  | call call =>
      simp only [Moves, Os.move, Option.bind_eq_bind, Option.bind_eq_some_iff] at hm
      obtain ⟨t, -, hm⟩ := hm
      split at hm
      · cases hm
      · rename_i hne
        rw [(begin_code hm).2, Function.update_of_ne fun he => hne (.inr he.symm),
          show c'.kernel.view = _ from hview]
        exact ⟨n, hph, by simp [System.event]⟩
  | turn =>
      simp only [Moves, Os.move, Option.bind_eq_bind, Option.bind_eq_some_iff] at hm
      obtain ⟨t, -, hm⟩ := hm
      split at hm
      · subst t
        obtain ⟨⟨err, hret⟩, hcode⟩ := begin_code hm
        rw [hcode, Function.update_self, show c'.kernel.view = _ from hview]
        obtain ⟨hs, rfl⟩ := hph.of_ret (by rw [hret]; rfl)
        rw [hs]
        exact ⟨0, .begun _, by simp [System.event]⟩
      · cases hm
  | access =>
      obtain ⟨t, hrun⟩ : ∃ t, c.running = some t := by
        cases hr : c.running with
        | none => simp [Moves, Os.move, hr] at hm
        | some t => exact ⟨t, rfl⟩
      have hsignal : c.event .access ≠ .signal := by
        simp only [System.event, hrun]
        split <;> simp
      by_cases ht : t = own.OSTickTaskTCB
      · subst ht
        obtain ⟨n', hph', hn⟩ := h.access_phase hm hrun hph
        exact ⟨n', hph', by simpa [hsignal] using hn⟩
      · obtain ⟨hcode, htick⟩ := h.access_other hrun hm
        have hne : c.event .access ≠ .tick := fun he => ht (htick he)
        obtain ⟨op, hop⟩ := access_next hrun hm
        have hevent := event_access hrun hop fun he => hne (event_update hrun (he ▸ hop))
        rw [hevent] at hview
        obtain ⟨hs, ho⟩ := (View.Performs.does hview).other (fun _ he => ht he.symm)
          (h.phase_not_waiting hph)
        rw [hcode _ (Ne.symm ht), hs, ho]
        exact ⟨n, hph, by simp [hne, hsignal]⟩

end System.Safe

/-! ## The ticks that are counted -/

/-- The interrupts of the timer that find the tick task waiting. -/
def signals (own : Own τ) (vs : List (Visit (System τ σ) (Move σ))) : Nat :=
  vs.countP fun v =>
    v.before.event v.action = .signal ∧ v.before.kernel.view.listens own.OSTickTaskTCB

theorem signals_cons (w : Visit (System τ σ) (Move σ)) : signals own (w :: vs) = signals own vs +
    if w.before.event w.action = .signal ∧ w.before.kernel.view.listens own.OSTickTaskTCB
    then 1 else 0 := by
  simp [signals, List.countP_cons]

theorem System.Safe.ticks_run (h : c.Safe own False) (hrun : Run (Moves own) c vs c')
    (hph : OS_TickTask.Phase (c.code own.OSTickTaskTCB) (c.kernel.view.status own.OSTickTaskTCB)
      (c.kernel.view.outcome own.OSTickTaskTCB) n) :
    ∃ n', OS_TickTask.Phase (c'.code own.OSTickTaskTCB) (c'.kernel.view.status own.OSTickTaskTCB)
      (c'.kernel.view.outcome own.OSTickTaskTCB) n' ∧ n' + ticks vs = n + signals own vs := by
  induction hrun generalizing n with
  | nil => exact ⟨n, hph, rfl⟩
  | @cons c c₁ c' m vs hm hrun ih =>
      obtain ⟨n₁, hph₁, hn₁⟩ := h.tick_move hm hph
      obtain ⟨n', hph', hn'⟩ := ih (h.move hm fun hf => hf.elim).1 hph₁
      refine ⟨n', hph', ?_⟩
      rw [ticks_cons, signals_cons]
      dsimp only
      omega

/-- Every interrupt of the timer that finds the tick task waiting leads to one update of the delays,
and nothing else does. At most one update is still to come. -/
theorem ticks_counted (own : Own τ) (ha : own.Admits apps) (cnt : σ → UInt32) :
    ∃ c₀, boot own apps cnt = some c₀ ∧ ∀ vs c, Run (Moves own) c₀ vs c →
      ticks vs ≤ signals own vs ∧ signals own vs ≤ ticks vs + 1 ∧
        (c.kernel.view.listens own.OSTickTaskTCB → ticks vs = signals own vs) := by
  obtain ⟨c₀, hboot, h₀, hview, hcode⟩ := System.Safe.boot ha (fun hf : False => hf.elim) cnt
  refine ⟨c₀, hboot, fun vs c hrun => ?_⟩
  have hph₀ : OS_TickTask.Phase (c₀.code own.OSTickTaskTCB)
      (c₀.kernel.view.status own.OSTickTaskTCB) (c₀.kernel.view.outcome own.OSTickTaskTCB) 0 := by
    rw [hview, hcode]
    exact .idle _ _
  obtain ⟨n, hph, hn⟩ := h₀.ticks_run hrun hph₀
  obtain ⟨hle, hzero⟩ := hph.bound
  refine ⟨by omega, by omega, fun hl => ?_⟩
  have hn0 := hzero hl
  omega

/-- An interrupt comes before the tick task waits for the first time, and another one behind that. -/
def signalledRun : List (Move (Fin 1)) :=
  [.PendSV, .turn, .SysTick, .access, .access, .PendSV, .SysTick, .PendSV, .access, .access, .access,
    .turn, .access]

/-- The first interrupt is lost, and the other one leads to an update. -/
theorem bootloader_ticks_counted : ∃ c₀ vs c,
    boot bootloader bootloaderApps (fun _ : Fin 1 => 0) = some c₀ ∧ Run (Moves bootloader) c₀ vs c ∧
      vs.map Visit.action = signalledRun ∧ signals bootloader vs = 1 ∧ ticks vs = 1 := by
  obtain ⟨c₀, hboot, hall⟩ :=
    ticks_counted bootloader bootloader_admits (fun _ : Fin 1 => 0)
  obtain ⟨us, c, -, -, hus, -, has, -, hsignals, hlistens⟩ := exists_bootloader_run hboot
    signalledRun [] (fun us c _ => signals bootloader us = 1 ∧
      c.kernel.view.listens bootloader.OSTickTaskTCB = true) (by decide +kernel)
  obtain ⟨-, -, hcounted⟩ := hall us c hus
  exact ⟨c₀, us, c, hboot, hus, has, hsignals, (hcounted hlistens).trans hsignals⟩

end DfuSeBootloader.Os
