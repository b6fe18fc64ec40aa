import Mathlib.Logic.Function.Basic

/-!
# The lists of the kernel

`os_prio.c`, the ready lists and pend lists of `os_core.c`, and the tick lists of `os_tick.c`. A
pointer to a task control block is an `Option τ`. The fields of the blocks are functions on `τ`, so
that a store into one field leaves the others alone by definition. `none` is the result of a function
that reads or writes through a null pointer, or whose loop does not end.
-/

namespace DfuSeBootloader.Os
open Function (update)

variable {τ σ : Type} [DecidableEq τ] [DecidableEq σ]

/-! ## The priority table -/

def OS_CFG_PRIO_MAX : Nat := 64

def OS_PRIO_TBL_SIZE : Nat := 2

def OS_PrioInit : Nat → BitVec 32 := fun _ => 0

/-- The loop of `OS_PrioGetHighest`. It must not leave the table, which has `n` words left. -/
def OS_PrioGetHighest.search (OSPrioTbl : Nat → BitVec 32) : (n ix prio : Nat) → Option Nat
  | 0, _, _ => none
  | n + 1, ix, prio =>
      if OSPrioTbl ix = 0 then search OSPrioTbl n (ix + 1) (prio + 32)
      else some (prio + (OSPrioTbl ix).clz.toNat)

def OS_PrioGetHighest (OSPrioTbl : Nat → BitVec 32) : Option Nat :=
  OS_PrioGetHighest.search OSPrioTbl OS_PRIO_TBL_SIZE 0 0

def OS_PrioInsert (prio : Nat) (OSPrioTbl : Nat → BitVec 32) : Nat → BitVec 32 :=
  let ix := prio / 32
  let bit_nbr := prio % 32
  let bit : BitVec 32 := 1#32 <<< (31 - bit_nbr)
  update OSPrioTbl ix (OSPrioTbl ix ||| bit)

def OS_PrioRemove (prio : Nat) (OSPrioTbl : Nat → BitVec 32) : Nat → BitVec 32 :=
  let ix := prio / 32
  let bit_nbr := prio % 32
  let bit : BitVec 32 := 1#32 <<< (31 - bit_nbr)
  update OSPrioTbl ix (OSPrioTbl ix &&& ~~~bit)

/-! ## The ready lists -/

structure OS_RDY_LIST (τ : Type) where
  NbrEntries : Nat
  HeadPtr : Option τ
  TailPtr : Option τ

structure Ready (τ : Type) where
  Prio : τ → Nat
  NextPtr : τ → Option τ
  PrevPtr : τ → Option τ
  OSPrioTbl : Nat → BitVec 32
  OSRdyList : Nat → OS_RDY_LIST τ

def OS_RdyListInit : Nat → OS_RDY_LIST τ := fun _ => ⟨0, none, none⟩

def OS_RdyListInsertHead (p_tcb : τ) (r : Ready τ) : Option (Ready τ) :=
  let prio := r.Prio p_tcb
  let p_rdy_list := r.OSRdyList prio
  if p_rdy_list.NbrEntries = 0 then
    some { r with
      NextPtr := update r.NextPtr p_tcb none
      PrevPtr := update r.PrevPtr p_tcb none
      OSRdyList := update r.OSRdyList prio ⟨1, some p_tcb, some p_tcb⟩ }
  else do
    let p_tcb2 ← p_rdy_list.HeadPtr
    some { r with
      NextPtr := update r.NextPtr p_tcb p_rdy_list.HeadPtr
      PrevPtr := update (update r.PrevPtr p_tcb none) p_tcb2 (some p_tcb)
      OSRdyList := update r.OSRdyList prio
        ⟨p_rdy_list.NbrEntries + 1, some p_tcb, p_rdy_list.TailPtr⟩ }

def OS_RdyListInsertTail (p_tcb : τ) (r : Ready τ) : Option (Ready τ) :=
  let prio := r.Prio p_tcb
  let p_rdy_list := r.OSRdyList prio
  if p_rdy_list.NbrEntries = 0 then
    some { r with
      NextPtr := update r.NextPtr p_tcb none
      PrevPtr := update r.PrevPtr p_tcb none
      OSRdyList := update r.OSRdyList prio ⟨1, some p_tcb, some p_tcb⟩ }
  else do
    let p_tcb2 ← p_rdy_list.TailPtr
    some { r with
      NextPtr := update (update r.NextPtr p_tcb none) p_tcb2 (some p_tcb)
      PrevPtr := update r.PrevPtr p_tcb (some p_tcb2)
      OSRdyList := update r.OSRdyList prio
        ⟨p_rdy_list.NbrEntries + 1, p_rdy_list.HeadPtr, some p_tcb⟩ }

def OS_RdyListInsert (OSPrioCur : Nat) (p_tcb : τ) (r : Ready τ) : Option (Ready τ) :=
  let r := { r with OSPrioTbl := OS_PrioInsert (r.Prio p_tcb) r.OSPrioTbl }
  if r.Prio p_tcb = OSPrioCur then OS_RdyListInsertTail p_tcb r else OS_RdyListInsertHead p_tcb r

/-- The list is `OSRdyList[prio]`. -/
def OS_RdyListMoveHeadToTail (prio : Nat) (r : Ready τ) : Option (Ready τ) :=
  let p_rdy_list := r.OSRdyList prio
  match p_rdy_list.NbrEntries with
  | 0 => some r
  | 1 => some r
  | 2 => do
      let p_tcb1 ← p_rdy_list.HeadPtr
      let p_tcb2 ← p_rdy_list.TailPtr
      some { r with
        PrevPtr := update (update r.PrevPtr p_tcb1 (some p_tcb2)) p_tcb2 none
        NextPtr := update (update r.NextPtr p_tcb1 none) p_tcb2 (some p_tcb1)
        OSRdyList := update r.OSRdyList prio ⟨2, some p_tcb2, some p_tcb1⟩ }
  | n => do
      let p_tcb1 ← p_rdy_list.HeadPtr
      let p_tcb2 ← p_rdy_list.TailPtr
      let p_tcb3 ← r.NextPtr p_tcb1
      some { r with
        PrevPtr := update (update r.PrevPtr p_tcb3 none) p_tcb1 (some p_tcb2)
        NextPtr := update (update r.NextPtr p_tcb1 none) p_tcb2 (some p_tcb1)
        OSRdyList := update r.OSRdyList prio ⟨n, some p_tcb3, some p_tcb1⟩ }

def OS_RdyListRemove (p_tcb : τ) (r : Ready τ) : Ready τ :=
  let prio := r.Prio p_tcb
  let p_rdy_list := r.OSRdyList prio
  let r :=
    match r.PrevPtr p_tcb, r.NextPtr p_tcb with
    | none, none =>
        { r with
          OSRdyList := update r.OSRdyList prio ⟨0, none, none⟩
          OSPrioTbl := OS_PrioRemove prio r.OSPrioTbl }
    | none, some p_tcb2 =>
        { r with
          PrevPtr := update r.PrevPtr p_tcb2 none
          OSRdyList := update r.OSRdyList prio
            ⟨p_rdy_list.NbrEntries - 1, some p_tcb2, p_rdy_list.TailPtr⟩ }
    | some p_tcb1, none =>
        { r with
          NextPtr := update r.NextPtr p_tcb1 none
          OSRdyList := update r.OSRdyList prio
            ⟨p_rdy_list.NbrEntries - 1, p_rdy_list.HeadPtr, some p_tcb1⟩ }
    | some p_tcb1, some p_tcb2 =>
        { r with
          NextPtr := update r.NextPtr p_tcb1 (some p_tcb2)
          PrevPtr := update r.PrevPtr p_tcb2 (some p_tcb1)
          OSRdyList := update r.OSRdyList prio
            { p_rdy_list with NbrEntries := p_rdy_list.NbrEntries - 1 } }
  { r with
    PrevPtr := update r.PrevPtr p_tcb none
    NextPtr := update r.NextPtr p_tcb none }

/-! ## The tick lists -/

/-- The codes that the services of the kernel leave in `*p_err`. -/
inductive OS_ERR
  | OS_ERR_NONE
  | OS_ERR_LOCK_NESTING_OVF
  | OS_ERR_OBJ_DEL
  | OS_ERR_OPT_INVALID
  | OS_ERR_OS_NOT_RUNNING
  | OS_ERR_PEND_ABORT
  | OS_ERR_PEND_WOULD_BLOCK
  | OS_ERR_PRIO_INVALID
  | OS_ERR_ROUND_ROBIN_1
  | OS_ERR_ROUND_ROBIN_DISABLED
  | OS_ERR_SCHED_LOCKED
  | OS_ERR_SCHED_NOT_LOCKED
  | OS_ERR_SEM_OVF
  | OS_ERR_STATUS_INVALID
  | OS_ERR_TASK_WAITING
  | OS_ERR_TIMEOUT
  | OS_ERR_TIME_ZERO_DLY
  deriving DecidableEq, Repr

def OS_OPT_TIME_DLY : UInt16 := 0x00
def OS_OPT_TIME_TIMEOUT : UInt16 := 0x02
def OS_OPT_TIME_MATCH : UInt16 := 0x04
def OS_OPT_TIME_PERIODIC : UInt16 := 0x08
def OS_OPT_TIME_MASK : UInt16 := 0x0E

def OSCfg_TickWheelSize : UInt32 := 11
def OS_TICK_TH_RDY : UInt32 := 0xFFFF0000
def OS_TICK_TH_INIT : UInt32 := 0x80000000

structure OS_TICK_SPOKE (τ : Type) where
  FirstPtr : Option τ
  NbrEntries : Nat
  NbrEntriesMax : Nat

structure Wheel (τ : Type) where
  TickNextPtr : τ → Option τ
  TickPrevPtr : τ → Option τ
  /-- The index of the spoke. -/
  TickSpokePtr : τ → Option Nat
  TickCtrPrev : τ → UInt32
  TickCtrMatch : τ → UInt32
  TickRemain : τ → UInt32
  OSCfg_TickWheel : Nat → OS_TICK_SPOKE τ
  OSTickCtr : UInt32

def OS_TickListInit : Nat → OS_TICK_SPOKE τ := fun _ => ⟨none, 0, 0⟩

/-- The loop of `OS_TickListInsert`, where `n` bounds the entries that are left. -/
def OS_TickListInsert.walk (p_tcb : τ) (spoke : Nat) :
    (n : Nat) → (p_tcb1 : τ) → Wheel τ → Option (Wheel τ)
  | 0, _, _ => none
  | n + 1, p_tcb1, w =>
      let w := { w with
        TickRemain := update w.TickRemain p_tcb1 (w.TickCtrMatch p_tcb1 - w.OSTickCtr) }
      if w.TickRemain p_tcb > w.TickRemain p_tcb1 then
        match w.TickNextPtr p_tcb1 with
        | some p_tcb1 => walk p_tcb spoke n p_tcb1 w
        | none =>
            some { w with
              TickNextPtr := update (update w.TickNextPtr p_tcb none) p_tcb1 (some p_tcb)
              TickPrevPtr := update w.TickPrevPtr p_tcb (some p_tcb1) }
      else
        match w.TickPrevPtr p_tcb1 with
        | none =>
            some { w with
              TickPrevPtr := update (update w.TickPrevPtr p_tcb none) p_tcb1 (some p_tcb)
              TickNextPtr := update w.TickNextPtr p_tcb (some p_tcb1)
              OSCfg_TickWheel := update w.OSCfg_TickWheel spoke
                { w.OSCfg_TickWheel spoke with FirstPtr := some p_tcb } }
        | some p_tcb0 =>
            some { w with
              TickPrevPtr := update (update w.TickPrevPtr p_tcb (some p_tcb0)) p_tcb1 (some p_tcb)
              TickNextPtr := update (update w.TickNextPtr p_tcb (some p_tcb1)) p_tcb0 (some p_tcb) }

/-- `OS_TickListInsert` from the choice of the spoke on. -/
def OS_TickListInsert.link (p_tcb : τ) (w : Wheel τ) : Option (Wheel τ) := do
  let spoke := (w.TickCtrMatch p_tcb % OSCfg_TickWheelSize).toNat
  let p_spoke := w.OSCfg_TickWheel spoke
  let w ←
    if p_spoke.NbrEntries = 0 then
      some { w with
        TickNextPtr := update w.TickNextPtr p_tcb none
        TickPrevPtr := update w.TickPrevPtr p_tcb none
        OSCfg_TickWheel := update w.OSCfg_TickWheel spoke
          { p_spoke with FirstPtr := some p_tcb, NbrEntries := 1 } }
    else do
      let w ←
        match p_spoke.FirstPtr with
        | none => some w
        | some p_tcb1 => walk p_tcb spoke p_spoke.NbrEntries p_tcb1 w
      some { w with
        OSCfg_TickWheel := update w.OSCfg_TickWheel spoke
          { w.OSCfg_TickWheel spoke with
            NbrEntries := (w.OSCfg_TickWheel spoke).NbrEntries + 1 } }
  let p_spoke := w.OSCfg_TickWheel spoke
  some { w with
    OSCfg_TickWheel := update w.OSCfg_TickWheel spoke
      { p_spoke with NbrEntriesMax := max p_spoke.NbrEntriesMax p_spoke.NbrEntries }
    TickSpokePtr := update w.TickSpokePtr p_tcb (some spoke) }

/-- The exit of `OS_TickListInsert` that does not delay. -/
def OS_TickListInsert.zero (p_tcb : τ) (w : Wheel τ) : Wheel τ :=
  { w with
    TickCtrMatch := update w.TickCtrMatch p_tcb 0
    TickRemain := update w.TickRemain p_tcb 0
    TickSpokePtr := update w.TickSpokePtr p_tcb none }

open OS_TickListInsert in
def OS_TickListInsert (p_tcb : τ) (time : UInt32) (opt : UInt16) (w : Wheel τ) :
    Option (OS_ERR × Wheel τ) :=
  if opt = OS_OPT_TIME_MATCH then
    let tick_delta := time - w.OSTickCtr - 1
    if tick_delta > OS_TICK_TH_RDY then some (.OS_ERR_TIME_ZERO_DLY, zero p_tcb w)
    else
      (link p_tcb { w with
        TickCtrMatch := update w.TickCtrMatch p_tcb time
        TickRemain := update w.TickRemain p_tcb (tick_delta + 1) }).map (.OS_ERR_NONE, ·)
  else if time > 0 then
    if opt = OS_OPT_TIME_PERIODIC then
      let tick_next := w.TickCtrPrev p_tcb + time
      let tick_delta := tick_next - w.OSTickCtr - 1
      let tick_match := if tick_delta < time then tick_next else w.OSTickCtr + time
      (link p_tcb { w with
        TickCtrMatch := update w.TickCtrMatch p_tcb tick_match
        TickRemain := update w.TickRemain p_tcb (tick_match - w.OSTickCtr)
        TickCtrPrev := update w.TickCtrPrev p_tcb tick_match }).map (.OS_ERR_NONE, ·)
    else
      (link p_tcb { w with
        TickCtrMatch := update w.TickCtrMatch p_tcb (w.OSTickCtr + time)
        TickRemain := update w.TickRemain p_tcb time }).map (.OS_ERR_NONE, ·)
  else some (.OS_ERR_TIME_ZERO_DLY, zero p_tcb w)

def OS_TickListRemove (p_tcb : τ) (w : Wheel τ) : Option (Wheel τ) :=
  match w.TickSpokePtr p_tcb with
  | none => some w
  | some spoke => do
      let p_spoke := w.OSCfg_TickWheel spoke
      let w ←
        if p_spoke.FirstPtr = some p_tcb then
          some { w with
            TickPrevPtr := (w.TickNextPtr p_tcb).elim w.TickPrevPtr
              fun p_tcb1 => update w.TickPrevPtr p_tcb1 none
            OSCfg_TickWheel := update w.OSCfg_TickWheel spoke
              { p_spoke with FirstPtr := w.TickNextPtr p_tcb } }
        else do
          let p_tcb1 ← w.TickPrevPtr p_tcb
          some { w with
            TickNextPtr := update w.TickNextPtr p_tcb1 (w.TickNextPtr p_tcb)
            TickPrevPtr := (w.TickNextPtr p_tcb).elim w.TickPrevPtr
              fun p_tcb2 => update w.TickPrevPtr p_tcb2 (some p_tcb1) }
      some { w with
        TickRemain := update w.TickRemain p_tcb 0
        TickNextPtr := update w.TickNextPtr p_tcb none
        TickPrevPtr := update w.TickPrevPtr p_tcb none
        TickSpokePtr := update w.TickSpokePtr p_tcb none
        TickCtrMatch := update w.TickCtrMatch p_tcb 0
        OSCfg_TickWheel := update w.OSCfg_TickWheel spoke
          { w.OSCfg_TickWheel spoke with
            NbrEntries := (w.OSCfg_TickWheel spoke).NbrEntries - 1 } }

/-! ## The pend lists -/

structure OS_PEND_LIST (τ : Type) where
  HeadPtr : Option τ
  TailPtr : Option τ
  NbrEntries : Nat

/-- A task waits for one object at a time, so that the pointer to the task stands for the pointer to
its `OS_PEND_DATA`. -/
structure Pends (τ σ : Type) where
  /-- `NextPtr` of the task's pend data. -/
  NextPtr : τ → Option τ
  /-- `PrevPtr` of the task's pend data. -/
  PrevPtr : τ → Option τ
  PendObjPtr : τ → Option σ
  PendDataTblEntries : τ → Nat
  PendList : σ → OS_PEND_LIST τ

def OS_PendListInit : OS_PEND_LIST τ := ⟨none, none, 0⟩

/-- The table has one entry. -/
def OS_PendDataInit (p_tcb : τ) (q : Pends τ σ) : Pends τ σ :=
  { q with
    PendDataTblEntries := update q.PendDataTblEntries p_tcb 1
    NextPtr := update q.NextPtr p_tcb none
    PrevPtr := update q.PrevPtr p_tcb none }

/-- The loop of `OS_PendListInsertPrio`: the entry in front of which the new one goes. -/
def OS_PendListInsertPrio.walk (Prio : τ → Nat) (prio : Nat) (q : Pends τ σ) :
    (n : Nat) → (p_pend_data_next : Option τ) → Option (Option τ)
  | _, none => some none
  | 0, some _ => none
  | n + 1, some p_next =>
      if prio < Prio p_next then some (some p_next) else walk Prio prio q n (q.NextPtr p_next)

def OS_PendListInsertPrio (Prio : τ → Nat) (p_obj : σ) (p_pend_data : τ) (q : Pends τ σ) :
    Option (Pends τ σ) :=
  let p_pend_list := q.PendList p_obj
  if p_pend_list.NbrEntries = 0 then
    some { q with
      NextPtr := update q.NextPtr p_pend_data none
      PrevPtr := update q.PrevPtr p_pend_data none
      PendList := update q.PendList p_obj ⟨some p_pend_data, some p_pend_data, 1⟩ }
  else do
    let n := p_pend_list.NbrEntries
    match ← OS_PendListInsertPrio.walk Prio (Prio p_pend_data) q n p_pend_list.HeadPtr with
    | none => do
        let p_prev ← p_pend_list.TailPtr
        some { q with
          NextPtr := update (update q.NextPtr p_pend_data none) p_prev (some p_pend_data)
          PrevPtr := update q.PrevPtr p_pend_data (some p_prev)
          PendList := update q.PendList p_obj ⟨p_pend_list.HeadPtr, some p_pend_data, n + 1⟩ }
    | some p_next =>
        match q.PrevPtr p_next with
        | none =>
            some { q with
              PrevPtr := update (update q.PrevPtr p_next (some p_pend_data)) p_pend_data none
              NextPtr := update q.NextPtr p_pend_data (some p_next)
              PendList := update q.PendList p_obj ⟨some p_pend_data, p_pend_list.TailPtr, n + 1⟩ }
        | some p_prev =>
            some { q with
              PrevPtr := update (update q.PrevPtr p_pend_data (some p_prev)) p_next (some p_pend_data)
              NextPtr := update (update q.NextPtr p_pend_data (some p_next)) p_prev (some p_pend_data)
              PendList := update q.PendList p_obj { p_pend_list with NbrEntries := n + 1 } }

def OS_PendListRemove1 (p_obj : σ) (p_pend_data : τ) (q : Pends τ σ) : Option (Pends τ σ) := do
  let p_pend_list := q.PendList p_obj
  let n := p_pend_list.NbrEntries
  let q ←
    if n = 1 then
      some { q with PendList := update q.PendList p_obj ⟨none, none, 0⟩ }
    else
      match q.PrevPtr p_pend_data with
      | none => do
          let p_next ← q.NextPtr p_pend_data
          some { q with
            PrevPtr := update q.PrevPtr p_next none
            PendList := update q.PendList p_obj ⟨some p_next, p_pend_list.TailPtr, n - 1⟩ }
      | some p_prev =>
          match q.NextPtr p_pend_data with
          | none =>
              some { q with
                NextPtr := update q.NextPtr p_prev none
                PendList := update q.PendList p_obj ⟨p_pend_list.HeadPtr, some p_prev, n - 1⟩ }
          | some p_next =>
              some { q with
                NextPtr := update q.NextPtr p_prev (some p_next)
                PrevPtr := update q.PrevPtr p_next (some p_prev)
                PendList := update q.PendList p_obj { p_pend_list with NbrEntries := n - 1 } }
  some { q with
    NextPtr := update q.NextPtr p_pend_data none
    PrevPtr := update q.PrevPtr p_pend_data none }

/-- The loop runs over a table that has one entry at most. -/
def OS_PendListRemove (p_tcb : τ) (q : Pends τ σ) : Option (Pends τ σ) := do
  let q ←
    match q.PendDataTblEntries p_tcb with
    | 0 => some q
    | 1 => do
        let p_obj ← q.PendObjPtr p_tcb
        OS_PendListRemove1 p_obj p_tcb q
    | _ => none
  some { q with PendDataTblEntries := update q.PendDataTblEntries p_tcb 0 }

end DfuSeBootloader.Os
