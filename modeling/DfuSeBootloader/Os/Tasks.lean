import DfuSeBootloader.Os.Core

/-!
# Tasks and interrupts

The services of the kernel as the tasks call them: an interrupt may come between any two critical
sections. The tasks share the processor: the task that `OSTCBCurPtr` points to runs, and the lowest
interrupt, PendSV, switches to another one. A task of the application calls what it likes, whenever
it is not in a call.
-/

namespace DfuSeBootloader.Os
open Program
open Function (update)

variable {τ σ α : Type} [DecidableEq τ] [DecidableEq σ]

/-- Names for the accesses of a task. -/
inductive Op
  | access
  | CPU_CRITICAL
  /-- A critical section that blocks the task, behind a test that the scheduler is not locked. -/
  | OS_CRITICAL
  /-- The critical section of `OSSchedLock`, behind a test of the nesting. -/
  | OSSchedLock
  | OSSched
  /-- The critical section in which a task that has waited looks how its wait has ended. -/
  | PendStatus
  | OS_TickListUpdate
  deriving DecidableEq, Repr

/-- A part of a task. -/
abbrev Code (τ σ : Type) : Type → Type := Prog (Kernel τ σ) Op

/-- With the interrupts disabled. -/
def atomically (op : Op) (f : Kernel τ σ → Option (α × Kernel τ σ)) : Code τ σ α :=
  .atom op (fun k => (f k).elim k Prod.snd) (fun k => (f k).elim (.fault op) fun r => .ret r.1)

def callOSSched : Code τ σ Unit := atomically .OSSched fun k => (OSSched k).map ((), ·)

/-! ## Delays -/

/-- What `OSTimeDly` and `OSTimeDlyHMSM` do once they have checked their arguments. -/
def OSTimeDly.block (dly : UInt32) (opt : UInt16) : Code τ σ OS_ERR := do
  let err ← atomically .OS_CRITICAL (OSTimeDly.delay dly opt)
  if err ≠ .OS_ERR_NONE then pure err
  else do
    callOSSched
    pure .OS_ERR_NONE

def OSTimeDly (dly : UInt32) (opt : UInt16) : Code τ σ OS_ERR := do
  if (← Prog.get .access (·.OSSchedLockNestingCtr)) > 0 then pure .OS_ERR_SCHED_LOCKED
  else if opt = OS_OPT_TIME_DLY ∨ opt = OS_OPT_TIME_TIMEOUT ∨ opt = OS_OPT_TIME_PERIODIC then
    if dly = 0 then pure .OS_ERR_TIME_ZERO_DLY else OSTimeDly.block dly opt
  else if opt = OS_OPT_TIME_MATCH then OSTimeDly.block dly opt
  else pure .OS_ERR_OPT_INVALID

def OSCfg_TickRate_Hz : UInt32 := 1000

/-- The total number of ticks, rounded to the nearest one. -/
def OSTimeDlyHMSM.ticks (hours minutes seconds : UInt16) (milli : UInt32) : UInt32 :=
  (hours.toUInt32 * 3600 + minutes.toUInt32 * 60 + seconds.toUInt32) * OSCfg_TickRate_Hz +
    (OSCfg_TickRate_Hz * (milli + 500 / OSCfg_TickRate_Hz)) / 1000

def OSTimeDlyHMSM (hours minutes seconds : UInt16) (milli : UInt32) (opt : UInt16) :
    Code τ σ OS_ERR := do
  let opt_time := opt &&& OS_OPT_TIME_MASK
  let ticks := OSTimeDlyHMSM.ticks hours minutes seconds milli
  let delay : Code τ σ OS_ERR :=
    if ticks > 0 then OSTimeDly.block ticks opt_time else pure .OS_ERR_TIME_ZERO_DLY
  if (← Prog.get .access (·.OSSchedLockNestingCtr)) > 0 then pure .OS_ERR_SCHED_LOCKED
  else if opt_time = OS_OPT_TIME_DLY ∨ opt_time = OS_OPT_TIME_TIMEOUT ∨
      opt_time = OS_OPT_TIME_PERIODIC then
    if milli = 0 ∧ seconds = 0 ∧ minutes = 0 ∧ hours = 0 then pure .OS_ERR_TIME_ZERO_DLY else delay
  else if opt_time = OS_OPT_TIME_MATCH then delay
  else pure .OS_ERR_OPT_INVALID

/-! ## Semaphores -/

/-- The code for what the task finds when it runs again. -/
def OSSemPend.result : OS_STATUS → OS_ERR
  | .OS_STATUS_PEND_OK => .OS_ERR_NONE
  | .OS_STATUS_PEND_ABORT => .OS_ERR_PEND_ABORT
  | .OS_STATUS_PEND_TIMEOUT => .OS_ERR_TIMEOUT
  | .OS_STATUS_PEND_DEL => .OS_ERR_OBJ_DEL

/-- `OSTCBCurPtr->PendStatus`. -/
def pendStatus : Code τ σ OS_STATUS :=
  atomically .PendStatus fun k => k.OSTCBCurPtr.map fun p_tcb => (k.PendStatus p_tcb, k)

def OSSemPend (p_sem : σ) (timeout : UInt32) (opt : UInt16) : Code τ σ OS_ERR := do
  match ← atomically .CPU_CRITICAL (OSSemPend.pend p_sem timeout opt) with
  | some err => pure err
  | none => do
      callOSSched
      pure (OSSemPend.result (← pendStatus))

def OSSemPost (p_sem : σ) (opt : UInt16) : Code τ σ OS_ERR := do
  match ← atomically .CPU_CRITICAL (OS_SemPost.post p_sem opt) with
  | some err => pure err
  | none => do
      if opt &&& OS_OPT_POST_NO_SCHED = 0 then callOSSched
      pure .OS_ERR_NONE

def OSSemSet (p_sem : σ) (cnt : UInt32) : Code τ σ OS_ERR :=
  atomically .CPU_CRITICAL fun k => some (OSSemSet.set p_sem cnt k)

/-! ## The lock of the scheduler

The nesting has eight bits.
-/

def OSSchedLock : Code τ σ OS_ERR := do
  if !(← Prog.get .access (·.OSRunning)) then pure .OS_ERR_OS_NOT_RUNNING
  else if (← Prog.get .access (·.OSSchedLockNestingCtr)) ≥ 250 then pure .OS_ERR_LOCK_NESTING_OVF
  else
    atomically .OSSchedLock fun k =>
      some (.OS_ERR_NONE, { k with OSSchedLockNestingCtr := (k.OSSchedLockNestingCtr + 1) % 256 })

def OSSchedUnlock : Code τ σ OS_ERR := do
  if !(← Prog.get .access (·.OSRunning)) then pure .OS_ERR_OS_NOT_RUNNING
  else if (← Prog.get .access (·.OSSchedLockNestingCtr)) = 0 then pure .OS_ERR_SCHED_NOT_LOCKED
  else do
    let nesting ← atomically .CPU_CRITICAL fun k =>
      some ((k.OSSchedLockNestingCtr + 255) % 256,
        { k with OSSchedLockNestingCtr := (k.OSSchedLockNestingCtr + 255) % 256 })
    if nesting > 0 then pure .OS_ERR_SCHED_LOCKED
    else do
      callOSSched
      pure .OS_ERR_NONE

/-! ## Time slices -/

def OSSchedRoundRobinCfg (en : Bool) (dflt_time_quanta : UInt32) : Code τ σ OS_ERR :=
  atomically .CPU_CRITICAL fun k =>
    some (.OS_ERR_NONE, { k with
      OSSchedRoundRobinEn := en
      OSSchedRoundRobinDfltTimeQuanta :=
        if dflt_time_quanta > 0 then dflt_time_quanta else OSCfg_TickRate_Hz / 10 })

/-- The critical section of `OSSchedRoundRobinYield`: `false` where there is no other task. -/
def OSSchedRoundRobinYield.yield (k : Kernel τ σ) : Option (Bool × Kernel τ σ) :=
  if (k.ready.OSRdyList k.OSPrioCur).NbrEntries < 2 then some (false, k)
  else do
    let r ← OS_RdyListMoveHeadToTail k.OSPrioCur k.ready
    let p_tcb ← (r.OSRdyList k.OSPrioCur).HeadPtr
    some (true, renewQuanta p_tcb { k with ready := r })

def OSSchedRoundRobinYield : Code τ σ OS_ERR := do
  if (← Prog.get .access (·.OSSchedLockNestingCtr)) > 0 then pure .OS_ERR_SCHED_LOCKED
  else if !(← Prog.get .access (·.OSSchedRoundRobinEn)) then pure .OS_ERR_ROUND_ROBIN_DISABLED
  else if ← atomically .CPU_CRITICAL OSSchedRoundRobinYield.yield then do
    callOSSched
    pure .OS_ERR_NONE
  else pure .OS_ERR_ROUND_ROBIN_1

/-! ## The tick task -/

/-- The signals of a task are not counted: the task waits for the next one. -/
def OSTaskSemPend.pend (timeout : UInt32) (opt : UInt16) (k : Kernel τ σ) :
    Option (Option OS_ERR × Kernel τ σ) :=
  if opt &&& OS_OPT_PEND_NON_BLOCKING ≠ 0 then some (some .OS_ERR_PEND_WOULD_BLOCK, k)
  else if k.OSSchedLockNestingCtr > 0 then some (some .OS_ERR_SCHED_LOCKED, k)
  else (OS_Pend none .OS_TASK_PEND_ON_TASK_SEM timeout k).map (none, ·)

def OSTaskSemPend.result : OS_STATUS → OS_ERR
  | .OS_STATUS_PEND_OK => .OS_ERR_NONE
  | .OS_STATUS_PEND_ABORT => .OS_ERR_PEND_ABORT
  | .OS_STATUS_PEND_TIMEOUT => .OS_ERR_TIMEOUT
  | .OS_STATUS_PEND_DEL => .OS_ERR_STATUS_INVALID

def OSTaskSemPend (timeout : UInt32) (opt : UInt16) : Code τ σ OS_ERR := do
  match ← atomically .CPU_CRITICAL (OSTaskSemPend.pend timeout opt) with
  | some err => pure err
  | none => do
      callOSSched
      pure (OSTaskSemPend.result (← pendStatus))

/-- One turn of the loop in `OS_TickTask`. -/
def OS_TickTask : Code τ σ OS_ERR := do
  let err ← OSTaskSemPend 0 0
  if err = .OS_ERR_NONE then
    if ← Prog.get .access (·.OSRunning) then
      atomically .OS_TickListUpdate fun k => (OS_TickListUpdate k).map ((), ·)
  pure err

/-! ## The system -/

/-- The services that a task of the application calls. -/
inductive Call (σ : Type)
  | OSTimeDly (dly : UInt32) (opt : UInt16)
  | OSTimeDlyHMSM (hours minutes seconds : UInt16) (milli : UInt32) (opt : UInt16)
  | OSSemPend (p_sem : σ) (timeout : UInt32) (opt : UInt16)
  | OSSemPost (p_sem : σ) (opt : UInt16)
  | OSSemSet (p_sem : σ) (cnt : UInt32)
  | OSSchedLock
  | OSSchedUnlock
  | OSSchedRoundRobinCfg (en : Bool) (dflt_time_quanta : UInt32)
  | OSSchedRoundRobinYield
  deriving DecidableEq

def Call.code : Call σ → Code τ σ OS_ERR
  | .OSTimeDly dly opt => Os.OSTimeDly dly opt
  | .OSTimeDlyHMSM hours minutes seconds milli opt =>
      Os.OSTimeDlyHMSM hours minutes seconds milli opt
  | .OSSemPend p_sem timeout opt => Os.OSSemPend p_sem timeout opt
  | .OSSemPost p_sem opt => Os.OSSemPost p_sem opt
  | .OSSemSet p_sem cnt => Os.OSSemSet p_sem cnt
  | .OSSchedLock => Os.OSSchedLock
  | .OSSchedUnlock => Os.OSSchedUnlock
  | .OSSchedRoundRobinCfg en dflt_time_quanta => Os.OSSchedRoundRobinCfg en dflt_time_quanta
  | .OSSchedRoundRobinYield => Os.OSSchedRoundRobinYield

/-- The two tasks that the kernel creates itself. -/
structure Own (τ : Type) where
  OSIdleTaskTCB : τ
  OSTickTaskTCB : τ
  ne : OSTickTaskTCB ≠ OSIdleTaskTCB

structure System (τ σ : Type) where
  kernel : Kernel τ σ
  /-- What is left of the call that a task is in. -/
  code : τ → Code τ σ OS_ERR
  /-- The last call that a task has begun. The tick task makes none: it begins turns of its loop. -/
  call : τ → Option (Call σ)

namespace System

/-- The task that makes the next access. None does while a switch is pending. -/
def running (c : System τ σ) : Option τ :=
  if c.kernel.PENDSVSET then none else c.kernel.OSTCBCurPtr

/-- A task that is not in a call begins the code `p`. -/
def begin (t : τ) (call : Option (Call σ)) (p : Code τ σ OS_ERR) (c : System τ σ) :
    Option (System τ σ) :=
  match c.code t with
  | .ret _ => some { c with code := update c.code t p, call := update c.call t call }
  | _ => none

end System

inductive Move (σ : Type)
  | SysTick
  /-- An interrupt that asks nothing of the kernel. -/
  | interrupt
  | PendSV
  /-- A task of the application calls a service. -/
  | call (c : Call σ)
  /-- The tick task begins the next turn of its loop. -/
  | turn
  /-- The next access of the running task. -/
  | access
  deriving DecidableEq

/-- An interrupt handler runs as one step. The idle task calls nothing. -/
def move (own : Own τ) : Move σ → System τ σ → Option (System τ σ)
  | .SysTick, c =>
      (OS_CPU_SysTickHandler own.OSIdleTaskTCB own.OSTickTaskTCB c.kernel).map
        fun k => { c with kernel := k }
  | .interrupt, c => (OSIntExit (OSIntEnter c.kernel)).map fun k => { c with kernel := k }
  | .PendSV, c =>
      if c.kernel.PENDSVSET then some { c with kernel := OS_CPU_PendSVHandler c.kernel } else none
  | .call call, c => do
      let t ← c.running
      if t = own.OSIdleTaskTCB ∨ t = own.OSTickTaskTCB then none
      else c.begin t (some call) call.code
  | .turn, c => do
      let t ← c.running
      if t = own.OSTickTaskTCB then c.begin t none OS_TickTask else none
  | .access, c => do
      let t ← c.running
      let (p, k) ← (c.code t).step c.kernel
      some { c with kernel := k, code := update c.code t p }

/-- The steps of a run of the tasks and interrupts. -/
def Moves (own : Own τ) (c : System τ σ) (m : Move σ) (c' : System τ σ) : Prop :=
  move own m c = some c'

/-- A task of the application, as it is created. -/
structure App (τ : Type) where
  p_tcb : τ
  prio : Nat
  time_quanta : UInt32

def createTasks (own : Own τ) : List (App τ) → Kernel τ σ → Option (Kernel τ σ)
  | [], k => some k
  | a :: as, k => do
      let (_, k) ← OSTaskCreate own.OSIdleTaskTCB a.p_tcb a.prio a.time_quanta k
      createTasks own as k

/-- The system behind `OSStart`. -/
def boot (own : Own τ) (apps : List (App τ)) (cnt : σ → UInt32) : Option (System τ σ) := do
  let k ← OSInit own.OSIdleTaskTCB own.OSTickTaskTCB cnt
  let k ← createTasks own apps k
  let k ← OSStart k
  some { kernel := k, code := fun _ => .ret .OS_ERR_NONE, call := fun _ => none }

end DfuSeBootloader.Os
