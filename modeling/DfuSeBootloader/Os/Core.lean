import DfuSeBootloader.Os.Lists
import DfuSeBootloader.Program.Basic

/-!
# The kernel

The state of the kernel and the functions of `os_core.c`, `os_tick.c`, `os_time.c`, `os_sem.c` and
`os_task.c` that run with the interrupts disabled, for the configuration of `os_cfg.h`: no mutexes,
event flags, timers or waits for several objects. Every one of them is a function on the state.
-/

namespace DfuSeBootloader.Os
open Function (update)

/-! ## The state -/

inductive OS_TASK_STATE
  | OS_TASK_STATE_RDY
  | OS_TASK_STATE_DLY
  | OS_TASK_STATE_PEND
  | OS_TASK_STATE_PEND_TIMEOUT
  | OS_TASK_STATE_SUSPENDED
  | OS_TASK_STATE_DLY_SUSPENDED
  | OS_TASK_STATE_PEND_SUSPENDED
  | OS_TASK_STATE_PEND_TIMEOUT_SUSPENDED
  deriving DecidableEq, Repr

def OS_TASK_STATE.code : OS_TASK_STATE → UInt8
  | OS_TASK_STATE_RDY => 0
  | OS_TASK_STATE_DLY => 1
  | OS_TASK_STATE_PEND => 2
  | OS_TASK_STATE_PEND_TIMEOUT => 3
  | OS_TASK_STATE_SUSPENDED => 4
  | OS_TASK_STATE_DLY_SUSPENDED => 5
  | OS_TASK_STATE_PEND_SUSPENDED => 6
  | OS_TASK_STATE_PEND_TIMEOUT_SUSPENDED => 7

def OS_TASK_STATE_BIT_SUSPENDED : UInt8 := 4

inductive OS_TASK_PEND_ON
  | OS_TASK_PEND_ON_NOTHING
  | OS_TASK_PEND_ON_SEM
  | OS_TASK_PEND_ON_TASK_SEM
  deriving DecidableEq, Repr

inductive OS_STATUS
  | OS_STATUS_PEND_OK
  | OS_STATUS_PEND_ABORT
  | OS_STATUS_PEND_DEL
  | OS_STATUS_PEND_TIMEOUT
  deriving DecidableEq, Repr

/-- `τ` are the task control blocks, `σ` the semaphores. -/
structure Kernel (τ σ : Type) where
  ready : Ready τ
  wheel : Wheel τ
  pends : Pends τ σ
  TaskState : τ → OS_TASK_STATE
  PendOn : τ → OS_TASK_PEND_ON
  PendStatus : τ → OS_STATUS
  TimeQuanta : τ → UInt32
  TimeQuantaCtr : τ → UInt32
  /-- The counters of the semaphores. -/
  Ctr : σ → UInt32
  OSPrioCur : Nat
  OSPrioHighRdy : Nat
  OSTCBCurPtr : Option τ
  OSTCBHighRdyPtr : Option τ
  OSIntNestingCtr : Nat
  OSSchedLockNestingCtr : Nat
  OSRunning : Bool
  OSSchedRoundRobinEn : Bool
  OSSchedRoundRobinDfltTimeQuanta : UInt32
  /-- The exception that switches the context is pending. -/
  PENDSVSET : Bool

variable {τ σ : Type} [DecidableEq τ] [DecidableEq σ]

namespace Kernel

/-- `p_tcb->TaskState = s`. -/
def setState (p_tcb : τ) (s : OS_TASK_STATE) (k : Kernel τ σ) : Kernel τ σ :=
  { k with TaskState := update k.TaskState p_tcb s }

/-- What a pending task finds when it runs again. -/
def endPend (p_tcb : τ) (s : OS_TASK_STATE) (status : OS_STATUS) (k : Kernel τ σ) : Kernel τ σ :=
  { k with
    TaskState := update k.TaskState p_tcb s
    PendStatus := update k.PendStatus p_tcb status
    PendOn := update k.PendOn p_tcb .OS_TASK_PEND_ON_NOTHING }

end Kernel

/-! ## Ready, blocked, pending -/

def OS_TaskRdy (p_tcb : τ) (k : Kernel τ σ) : Option (Kernel τ σ) := do
  let w ← OS_TickListRemove p_tcb k.wheel
  if (k.TaskState p_tcb).code &&& OS_TASK_STATE_BIT_SUSPENDED = 0 then do
    let r ← OS_RdyListInsert k.OSPrioCur p_tcb k.ready
    some { k with wheel := w, ready := r }
  else some { k with wheel := w }

def OS_TaskBlock (p_tcb : τ) (timeout : UInt32) (k : Kernel τ σ) : Option (Kernel τ σ) := do
  let k ←
    if timeout > 0 then do
      let (err, w) ← OS_TickListInsert p_tcb timeout OS_OPT_TIME_TIMEOUT k.wheel
      some ({ k with wheel := w }.setState p_tcb
        (if err = OS_ERR.OS_ERR_NONE then .OS_TASK_STATE_PEND_TIMEOUT else .OS_TASK_STATE_PEND))
    else some (k.setState p_tcb .OS_TASK_STATE_PEND)
  some { k with ready := OS_RdyListRemove p_tcb k.ready }

def OS_Pend (p_obj : Option σ) (pending_on : OS_TASK_PEND_ON) (timeout : UInt32)
    (k : Kernel τ σ) : Option (Kernel τ σ) := do
  let p_tcb ← k.OSTCBCurPtr
  let k ← OS_TaskBlock p_tcb timeout { k with
    PendOn := update k.PendOn p_tcb pending_on
    PendStatus := update k.PendStatus p_tcb .OS_STATUS_PEND_OK }
  match p_obj with
  | some p_obj => do
      let q ← OS_PendListInsertPrio k.ready.Prio p_obj p_tcb (OS_PendDataInit p_tcb
        { k.pends with PendObjPtr := update k.pends.PendObjPtr p_tcb (some p_obj) })
      some { k with pends := q }
  | none =>
      some { k with pends := { k.pends with
        PendDataTblEntries := update k.pends.PendDataTblEntries p_tcb 0 } }

def OS_Post (p_obj : Option σ) (p_tcb : τ) (k : Kernel τ σ) : Option (Kernel τ σ) :=
  match k.TaskState p_tcb with
  | .OS_TASK_STATE_RDY
  | .OS_TASK_STATE_DLY
  | .OS_TASK_STATE_SUSPENDED
  | .OS_TASK_STATE_DLY_SUSPENDED => some k
  | .OS_TASK_STATE_PEND
  | .OS_TASK_STATE_PEND_TIMEOUT => do
      let q ← if p_obj.isSome then OS_PendListRemove p_tcb k.pends else some k.pends
      let k ← OS_TaskRdy p_tcb { k with pends := q }
      some (k.endPend p_tcb .OS_TASK_STATE_RDY .OS_STATUS_PEND_OK)
  | .OS_TASK_STATE_PEND_SUSPENDED
  | .OS_TASK_STATE_PEND_TIMEOUT_SUSPENDED => do
      let w ← OS_TickListRemove p_tcb k.wheel
      let q ← if p_obj.isSome then OS_PendListRemove p_tcb k.pends else some k.pends
      some ({ k with wheel := w, pends := q }.endPend p_tcb .OS_TASK_STATE_SUSPENDED
        .OS_STATUS_PEND_OK)

/-! ## The scheduler -/

/-- `OSPrioHighRdy` and `OSTCBHighRdyPtr`, and the switch to another task. -/
def OSSched.switch (k : Kernel τ σ) : Option (Kernel τ σ) := do
  let prio ← OS_PrioGetHighest k.ready.OSPrioTbl
  let p_tcb := (k.ready.OSRdyList prio).HeadPtr
  some { k with
    OSPrioHighRdy := prio
    OSTCBHighRdyPtr := p_tcb
    PENDSVSET := k.PENDSVSET || p_tcb != k.OSTCBCurPtr }

def OSSched (k : Kernel τ σ) : Option (Kernel τ σ) :=
  if k.OSIntNestingCtr > 0 then some k
  else if k.OSSchedLockNestingCtr > 0 then some k
  else OSSched.switch k

def OSIntEnter (k : Kernel τ σ) : Kernel τ σ :=
  if !k.OSRunning then k
  else if k.OSIntNestingCtr ≥ 250 then k
  else { k with OSIntNestingCtr := k.OSIntNestingCtr + 1 }

def OSIntExit (k : Kernel τ σ) : Option (Kernel τ σ) :=
  if !k.OSRunning then some k
  else if k.OSIntNestingCtr = 0 then some k
  else
    let k := { k with OSIntNestingCtr := k.OSIntNestingCtr - 1 }
    if k.OSIntNestingCtr > 0 then some k
    else if k.OSSchedLockNestingCtr > 0 then some k
    else OSSched.switch k

def OS_CPU_PendSVHandler (k : Kernel τ σ) : Kernel τ σ :=
  { k with
    OSPrioCur := k.OSPrioHighRdy
    OSTCBCurPtr := k.OSTCBHighRdyPtr
    PENDSVSET := false }

/-- The time slice that a task begins. -/
def renewQuanta (p_tcb : τ) (k : Kernel τ σ) : Kernel τ σ :=
  { k with
    TimeQuantaCtr := update k.TimeQuantaCtr p_tcb
      (if k.TimeQuanta p_tcb = 0 then k.OSSchedRoundRobinDfltTimeQuanta else k.TimeQuanta p_tcb) }

/-- The list is `OSRdyList[prio]`. -/
def OS_SchedRoundRobin (OSIdleTaskTCB : τ) (prio : Nat) (k : Kernel τ σ) : Option (Kernel τ σ) :=
  if !k.OSSchedRoundRobinEn then some k
  else
    match (k.ready.OSRdyList prio).HeadPtr with
    | none => some k
    | some p_tcb =>
        if p_tcb = OSIdleTaskTCB then some k
        else
          let k := { k with
            TimeQuantaCtr := update k.TimeQuantaCtr p_tcb (k.TimeQuantaCtr p_tcb -
              if k.TimeQuantaCtr p_tcb > 0 then 1 else 0) }
          if k.TimeQuantaCtr p_tcb > 0 then some k
          else if (k.ready.OSRdyList prio).NbrEntries < 2 then some k
          else if k.OSSchedLockNestingCtr > 0 then some k
          else do
            let r ← OS_RdyListMoveHeadToTail prio k.ready
            let p_tcb ← (r.OSRdyList prio).HeadPtr
            some (renewQuanta p_tcb { k with ready := r })

/-! ## Ticks -/

/-- A task that signals the tick task while it is not waiting signals nothing: there is no counter of
signals. -/
def OS_TaskSemPost (p_tcb : τ) (k : Kernel τ σ) : Option (Kernel τ σ) :=
  match k.TaskState p_tcb with
  | .OS_TASK_STATE_RDY
  | .OS_TASK_STATE_DLY
  | .OS_TASK_STATE_SUSPENDED
  | .OS_TASK_STATE_DLY_SUSPENDED => some k
  | .OS_TASK_STATE_PEND
  | .OS_TASK_STATE_PEND_TIMEOUT
  | .OS_TASK_STATE_PEND_SUSPENDED
  | .OS_TASK_STATE_PEND_TIMEOUT_SUSPENDED =>
      if k.PendOn p_tcb = .OS_TASK_PEND_ON_TASK_SEM then do
        let k ← OS_Post none p_tcb k
        OSSched k
      else some k

def OSTimeTick (OSIdleTaskTCB OSTickTaskTCB : τ) (k : Kernel τ σ) : Option (Kernel τ σ) := do
  let k ← OS_TaskSemPost OSTickTaskTCB k
  OS_SchedRoundRobin OSIdleTaskTCB k.OSPrioCur k

def OS_CPU_SysTickHandler (OSIdleTaskTCB OSTickTaskTCB : τ) (k : Kernel τ σ) :
    Option (Kernel τ σ) := do
  let k ← OSTimeTick OSIdleTaskTCB OSTickTaskTCB
    { k with OSIntNestingCtr := k.OSIntNestingCtr + 1 }
  OSIntExit k

/-- `p_tcb->TickRemain = p_tcb->TickCtrMatch - OSTickCtr`. -/
def updateRemain (p_tcb : τ) (k : Kernel τ σ) : Kernel τ σ :=
  { k with wheel := { k.wheel with
      TickRemain :=
        update k.wheel.TickRemain p_tcb (k.wheel.TickCtrMatch p_tcb - k.wheel.OSTickCtr) } }

/-- The loop of `OS_TickListUpdate`, where `n` bounds the entries that are left. -/
def OS_TickListUpdate.loop : (n : Nat) → (p_tcb : Option τ) → Kernel τ σ → Option (Kernel τ σ)
  | _, none, k => some k
  | 0, some _, _ => none
  | n + 1, some p_tcb, k =>
      let p_tcb_next := k.wheel.TickNextPtr p_tcb
      let expired := k.wheel.OSTickCtr = k.wheel.TickCtrMatch p_tcb
      match k.TaskState p_tcb with
      | .OS_TASK_STATE_RDY
      | .OS_TASK_STATE_PEND
      | .OS_TASK_STATE_SUSPENDED
      | .OS_TASK_STATE_PEND_SUSPENDED => loop n p_tcb_next k
      | .OS_TASK_STATE_DLY =>
          if expired then do
            let k ← OS_TaskRdy p_tcb ((updateRemain p_tcb k).setState p_tcb .OS_TASK_STATE_RDY)
            loop n p_tcb_next k
          else some (updateRemain p_tcb k)
      | .OS_TASK_STATE_PEND_TIMEOUT =>
          if expired then do
            let k := updateRemain p_tcb k
            let q ← OS_PendListRemove p_tcb k.pends
            let k ← OS_TaskRdy p_tcb { k with pends := q }
            loop n p_tcb_next (k.endPend p_tcb .OS_TASK_STATE_RDY .OS_STATUS_PEND_TIMEOUT)
          else some (updateRemain p_tcb k)
      | .OS_TASK_STATE_DLY_SUSPENDED =>
          if expired then do
            let k := (updateRemain p_tcb k).setState p_tcb .OS_TASK_STATE_SUSPENDED
            let w ← OS_TickListRemove p_tcb k.wheel
            loop n p_tcb_next { k with wheel := w }
          else some (updateRemain p_tcb k)
      | .OS_TASK_STATE_PEND_TIMEOUT_SUSPENDED =>
          if expired then do
            let k := updateRemain p_tcb k
            let q ← OS_PendListRemove p_tcb k.pends
            let w ← OS_TickListRemove p_tcb k.wheel
            loop n p_tcb_next
              ({ k with pends := q, wheel := w }.endPend p_tcb .OS_TASK_STATE_SUSPENDED
                .OS_STATUS_PEND_TIMEOUT)
          else some (updateRemain p_tcb k)

def OS_TickListUpdate (k : Kernel τ σ) : Option (Kernel τ σ) :=
  let k := { k with wheel := { k.wheel with OSTickCtr := k.wheel.OSTickCtr + 1 } }
  let p_spoke := k.wheel.OSCfg_TickWheel (k.wheel.OSTickCtr % OSCfg_TickWheelSize).toNat
  OS_TickListUpdate.loop p_spoke.NbrEntries p_spoke.FirstPtr k

/-! ## Semaphores -/

def OS_OPT_PEND_NON_BLOCKING : UInt16 := 0x8000
def OS_OPT_POST_ALL : UInt16 := 0x0200
def OS_OPT_POST_NO_SCHED : UInt16 := 0x8000
def DEF_INT_32U_MAX_VAL : UInt32 := 0xFFFFFFFF

/-- The loop of `OS_SemPost`. -/
def OS_SemPost.loop (p_sem : σ) :
    (cnt : Nat) → (p_pend_data : Option τ) → Kernel τ σ → Option (Kernel τ σ)
  | 0, _, k => some k
  | cnt + 1, p_pend_data, k => do
      let p_tcb ← p_pend_data
      let p_pend_data_next := k.pends.NextPtr p_tcb
      let k ← OS_Post (some p_sem) p_tcb k
      loop p_sem cnt p_pend_data_next k

/-- The critical section of `OS_SemPost`. The code is that of the exit taken in it. -/
def OS_SemPost.post (p_sem : σ) (opt : UInt16) (k : Kernel τ σ) :
    Option (Option OS_ERR × Kernel τ σ) :=
  let p_pend_list := k.pends.PendList p_sem
  if p_pend_list.NbrEntries = 0 then
    if k.Ctr p_sem = DEF_INT_32U_MAX_VAL then some (some .OS_ERR_SEM_OVF, k)
    else some (some .OS_ERR_NONE, { k with Ctr := update k.Ctr p_sem (k.Ctr p_sem + 1) })
  else
    let cnt := if opt &&& OS_OPT_POST_ALL ≠ 0 then p_pend_list.NbrEntries else 1
    (OS_SemPost.loop p_sem cnt p_pend_list.HeadPtr k).map (none, ·)

/-- The critical section that `OSSemPend` begins with. The code is that of the exit taken in it. -/
def OSSemPend.pend (p_sem : σ) (timeout : UInt32) (opt : UInt16) (k : Kernel τ σ) :
    Option (Option OS_ERR × Kernel τ σ) :=
  if k.Ctr p_sem > 0 then
    some (some .OS_ERR_NONE, { k with Ctr := update k.Ctr p_sem (k.Ctr p_sem - 1) })
  else if opt &&& OS_OPT_PEND_NON_BLOCKING ≠ 0 then some (some .OS_ERR_PEND_WOULD_BLOCK, k)
  else if k.OSSchedLockNestingCtr > 0 then some (some .OS_ERR_SCHED_LOCKED, k)
  else (OS_Pend (some p_sem) .OS_TASK_PEND_ON_SEM timeout k).map (none, ·)

/-- The critical section of `OSSemSet`. -/
def OSSemSet.set (p_sem : σ) (cnt : UInt32) (k : Kernel τ σ) : OS_ERR × Kernel τ σ :=
  if k.Ctr p_sem > 0 then (.OS_ERR_NONE, { k with Ctr := update k.Ctr p_sem cnt })
  else if (k.pends.PendList p_sem).NbrEntries = 0 then
    (.OS_ERR_NONE, { k with Ctr := update k.Ctr p_sem cnt })
  else (.OS_ERR_TASK_WAITING, k)

/-! ## Delays -/

/-- The critical section of `OSTimeDly` and of `OSTimeDlyHMSM`. -/
def OSTimeDly.delay (dly : UInt32) (opt : UInt16) (k : Kernel τ σ) :
    Option (OS_ERR × Kernel τ σ) := do
  let p_tcb ← k.OSTCBCurPtr
  let k := k.setState p_tcb .OS_TASK_STATE_DLY
  let (err, w) ← OS_TickListInsert p_tcb dly opt k.wheel
  let k := { k with wheel := w }
  if err ≠ OS_ERR.OS_ERR_NONE then some (err, k)
  else some (.OS_ERR_NONE, { k with ready := OS_RdyListRemove p_tcb k.ready })

/-! ## Start -/

def OS_PRIO_INIT : Nat := OS_CFG_PRIO_MAX

/-- The part of `OSInit` that sets variables. `OSSemCreate` gives the semaphores the counts `cnt`. -/
def OSInit.variables (cnt : σ → UInt32) : Kernel τ σ where
  ready :=
    { Prio := fun _ => OS_PRIO_INIT
      NextPtr := fun _ => none
      PrevPtr := fun _ => none
      OSPrioTbl := OS_PrioInit
      OSRdyList := OS_RdyListInit }
  wheel :=
    { TickNextPtr := fun _ => none
      TickPrevPtr := fun _ => none
      TickSpokePtr := fun _ => none
      TickCtrPrev := fun _ => OS_TICK_TH_INIT
      TickCtrMatch := fun _ => 0
      TickRemain := fun _ => 0
      OSCfg_TickWheel := OS_TickListInit
      OSTickCtr := 0 }
  pends :=
    { NextPtr := fun _ => none
      PrevPtr := fun _ => none
      PendObjPtr := fun _ => none
      PendDataTblEntries := fun _ => 0
      PendList := fun _ => OS_PendListInit }
  TaskState := fun _ => .OS_TASK_STATE_RDY
  PendOn := fun _ => .OS_TASK_PEND_ON_NOTHING
  PendStatus := fun _ => .OS_STATUS_PEND_OK
  TimeQuanta := fun _ => 0
  TimeQuantaCtr := fun _ => 0
  Ctr := cnt
  OSPrioCur := 0
  OSPrioHighRdy := 0
  OSTCBCurPtr := none
  OSTCBHighRdyPtr := none
  OSIntNestingCtr := 0
  OSSchedLockNestingCtr := 0
  OSRunning := false
  OSSchedRoundRobinEn := false
  OSSchedRoundRobinDfltTimeQuanta := 1000 / 10
  PENDSVSET := false

def OS_TaskInitTCB (p_tcb : τ) (k : Kernel τ σ) : Kernel τ σ :=
  { k with
    ready := { k.ready with
      Prio := update k.ready.Prio p_tcb OS_PRIO_INIT
      NextPtr := update k.ready.NextPtr p_tcb none
      PrevPtr := update k.ready.PrevPtr p_tcb none }
    wheel := { k.wheel with
      TickNextPtr := update k.wheel.TickNextPtr p_tcb none
      TickPrevPtr := update k.wheel.TickPrevPtr p_tcb none
      TickSpokePtr := update k.wheel.TickSpokePtr p_tcb none
      TickCtrPrev := update k.wheel.TickCtrPrev p_tcb OS_TICK_TH_INIT
      TickCtrMatch := update k.wheel.TickCtrMatch p_tcb 0
      TickRemain := update k.wheel.TickRemain p_tcb 0 }
    TaskState := update k.TaskState p_tcb .OS_TASK_STATE_RDY
    PendOn := update k.PendOn p_tcb .OS_TASK_PEND_ON_NOTHING
    PendStatus := update k.PendStatus p_tcb .OS_STATUS_PEND_OK
    TimeQuanta := update k.TimeQuanta p_tcb 0
    TimeQuantaCtr := update k.TimeQuantaCtr p_tcb 0 }

/-- `OSTaskCreate` before `OSStart`. -/
def OSTaskCreate (OSIdleTaskTCB p_tcb : τ) (prio : Nat) (time_quanta : UInt32) (k : Kernel τ σ) :
    Option (OS_ERR × Kernel τ σ) :=
  if prio = OS_CFG_PRIO_MAX - 1 ∧ p_tcb ≠ OSIdleTaskTCB then some (.OS_ERR_PRIO_INVALID, k)
  else do
    let k := OS_TaskInitTCB p_tcb k
    let r ← OS_RdyListInsertTail p_tcb { k.ready with
      Prio := update k.ready.Prio p_tcb prio
      OSPrioTbl := OS_PrioInsert prio k.ready.OSPrioTbl }
    some (.OS_ERR_NONE, { k with
      ready := r
      TimeQuanta := update k.TimeQuanta p_tcb time_quanta
      TimeQuantaCtr := update k.TimeQuantaCtr p_tcb
        (if time_quanta = 0 then k.OSSchedRoundRobinDfltTimeQuanta else time_quanta) })

def OS_CFG_TICK_TASK_PRIO : Nat := 2

def OSInit (OSIdleTaskTCB OSTickTaskTCB : τ) (cnt : σ → UInt32) : Option (Kernel τ σ) := do
  let (_, k) ← OSTaskCreate OSIdleTaskTCB OSIdleTaskTCB (OS_CFG_PRIO_MAX - 1) 0
    (OSInit.variables cnt)
  let (_, k) ← OSTaskCreate OSIdleTaskTCB OSTickTaskTCB OS_CFG_TICK_TASK_PRIO 0 k
  some k

/-- `OSStartHighRdy` makes the exception that switches the context pending. -/
def OSStart (k : Kernel τ σ) : Option (Kernel τ σ) := do
  let prio ← OS_PrioGetHighest k.ready.OSPrioTbl
  let p_tcb := (k.ready.OSRdyList prio).HeadPtr
  some { k with
    OSPrioHighRdy := prio
    OSPrioCur := prio
    OSTCBHighRdyPtr := p_tcb
    OSTCBCurPtr := p_tcb
    OSRunning := true
    PENDSVSET := true }

end DfuSeBootloader.Os
