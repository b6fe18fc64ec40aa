import DfuSeBootloader.Os.Core
import DfuSeBootloader.Os.Lemmas.Pends

/-!
# What the kernel is for

A task is ready, or it sleeps for a number of ticks, or it waits for a semaphore, which may end after
a number of ticks too. A tick takes one from every number at once. A token that is given to a
semaphore goes to the task of the highest priority that has waited longest, where any task waits.
-/

namespace DfuSeBootloader.Os
open Function (update)

/-- `on` is the semaphore, or `none` for a signal to the task itself. -/
inductive Status (σ : Type)
  | ready
  | delayed (ticks : UInt32)
  | pending (on : Option σ) (timeout : Option UInt32)
  | suspended
  deriving DecidableEq, Repr

@[ext] structure View (τ σ : Type) where
  Prio : τ → Nat
  status : τ → Status σ
  /-- How the last wait of a task has ended. -/
  outcome : τ → OS_STATUS
  /-- The tasks that wait for a semaphore, the next one to get it first. -/
  waiting : σ → List τ
  tokens : σ → UInt32

namespace View

variable {τ σ : Type} [DecidableEq τ] [DecidableEq σ]

def delay (t : τ) (n : UInt32) (v : View τ σ) : View τ σ :=
  { v with status := update v.status t (.delayed n) }

def pend (t : τ) (on : Option σ) (timeout : Option UInt32) (v : View τ σ) : View τ σ :=
  { v with
    status := update v.status t (.pending on timeout)
    outcome := update v.outcome t .OS_STATUS_PEND_OK
    waiting := on.elim v.waiting fun s =>
      update v.waiting s (Pends.enqueue v.Prio t (v.waiting s)) }

/-- The wait of a task ends. -/
def wake (t : τ) (v : View τ σ) : View τ σ :=
  { v with
    status := update v.status t .ready
    outcome := update v.outcome t .OS_STATUS_PEND_OK
    waiting := fun s => (v.waiting s).erase t }

def setTokens (s : σ) (n : UInt32) (v : View τ σ) : View τ σ :=
  { v with tokens := update v.tokens s n }

/-- A token is given to a task that waits, or to all of them, or it is kept. -/
def post (s : σ) (all : Bool) (v : View τ σ) : View τ σ :=
  match v.waiting s with
  | [] =>
      if v.tokens s = DEF_INT_32U_MAX_VAL then v else v.setTokens s (v.tokens s + 1)
  | t :: ts => (if all then t :: ts else [t]).foldl (fun v t => v.wake t) v

/-- Only a task that waits for a signal gets one. -/
def signal (t : τ) (v : View τ σ) : View τ σ :=
  match v.status t with
  | .pending none _ => v.wake t
  | _ => v

end View

/-- The time of a delay or a timeout is up at the next tick. -/
def Status.due {σ : Type} : Status σ → Bool
  | .delayed n => n == 1
  | .pending _ (some n) => n == 1
  | _ => false

def Status.tick {σ : Type} (x : Status σ) : Status σ :=
  if x.due then .ready
  else
    match x with
    | .delayed n => .delayed (n - 1)
    | .pending on timeout => .pending on (timeout.map (· - 1))
    | x => x

theorem Status.tick_of_due {σ : Type} {x : Status σ} (h : x.due) : x.tick = .ready := if_pos h

theorem Status.tick_delayed {σ : Type} (n : UInt32) :
    (Status.delayed n : Status σ).tick = if n = 1 then .ready else .delayed (n - 1) := by
  simp [Status.tick, Status.due]

theorem Status.tick_pending {σ : Type} (on : Option σ) (n : UInt32) :
    (Status.pending on (some n)).tick = if n = 1 then .ready else .pending on (some (n - 1)) := by
  simp [Status.tick, Status.due]

def Status.isPending {σ : Type} : Status σ → Bool
  | .pending _ _ => true
  | _ => false

namespace View

variable {τ σ : Type}

def tick (v : View τ σ) : View τ σ :=
  { v with
    status := fun t => (v.status t).tick
    outcome := fun t =>
      if (v.status t).due && (v.status t).isPending then .OS_STATUS_PEND_TIMEOUT else v.outcome t
    waiting := fun s => (v.waiting s).filter fun t => !(v.status t).due }

end View

namespace Kernel

variable {τ σ : Type}

/-- The semaphore that a task waits for. -/
def pendsOn (k : Kernel τ σ) (t : τ) : Option σ :=
  if k.pends.PendDataTblEntries t = 0 then none else k.pends.PendObjPtr t

/-- `TickCtrMatch - OSTickCtr`. -/
def remain (k : Kernel τ σ) (t : τ) : UInt32 := k.wheel.TickCtrMatch t - k.wheel.OSTickCtr

def status (k : Kernel τ σ) (t : τ) : Status σ :=
  match k.TaskState t with
  | .OS_TASK_STATE_RDY => .ready
  | .OS_TASK_STATE_DLY => if k.wheel.TickSpokePtr t = none then .ready else .delayed (k.remain t)
  | .OS_TASK_STATE_PEND => .pending (k.pendsOn t) none
  | .OS_TASK_STATE_PEND_TIMEOUT => .pending (k.pendsOn t) (some (k.remain t))
  | _ => .suspended

def view (k : Kernel τ σ) : View τ σ where
  Prio := k.ready.Prio
  status := k.status
  outcome := k.PendStatus
  waiting := k.pends.list
  tokens := k.Ctr

end Kernel

end DfuSeBootloader.Os
