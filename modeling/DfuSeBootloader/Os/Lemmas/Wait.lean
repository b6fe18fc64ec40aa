import DfuSeBootloader.Os.Lemmas.Kernel
import DfuSeBootloader.Os.Tasks

/-!
# Delays, semaphores and signals

The critical sections of the services, and what each of them is for.
-/

namespace DfuSeBootloader.Os
open Function (update)

variable {τ σ : Type} {k k' : Kernel τ σ} {t u : τ} {s : σ} {l : Nat → List τ}

namespace Kernel

theorem Consistent.of_has (h : k.Consistent) (ht : k.ready.Has t) :
    k.wheel.TickSpokePtr t = none ∧ k.pends.PendDataTblEntries t = 0 := by
  have hplaced := h.placed t
  unfold Placed at hplaced
  cases hs : k.TaskState t with
  | OS_TASK_STATE_RDY =>
      simp only [hs] at hplaced
      exact hplaced.2
  | OS_TASK_STATE_DLY =>
      simp only [hs] at hplaced
      exact ⟨hplaced.2.1.mp ht, hplaced.2.2⟩
  | OS_TASK_STATE_PEND =>
      simp only [hs] at hplaced
      exact absurd ht hplaced.2.1
  | OS_TASK_STATE_PEND_TIMEOUT =>
      simp only [hs] at hplaced
      exact absurd ht hplaced.2.1
  | _ => simp only [hs] at hplaced

/-- The task that has changed is not late. -/
theorem Changes.coherent (h : k.Coherent) (hk : Changes t k k') (hc : k'.Consistent)
    (ht : k'.wheel.TickSpokePtr t ≠ none → k'.remain t ≠ 0) : k'.Coherent := by
  refine ⟨hc, fun u hu => ?_⟩
  by_cases hut : u = t
  · subst hut
    exact ht hu
  · rw [(hk.same u hut).remain hk.ctr]
    rw [(hk.same u hut).spoke] at hu
    exact h.future u hu

variable [DecidableEq τ] [DecidableEq σ]

/-! ## Delays -/

omit [DecidableEq σ] in
theorem Coherent.delay (h : k.Coherent) (hcur : k.OSTCBCurPtr = some t) (ht : k.ready.Has t)
    (dly : UInt32) (opt : UInt16) : ∃ err k', OSTimeDly.delay dly opt k = some (err, k') ∧
      k'.Coherent ∧ k'.scheduler = k.scheduler ∧
      (err = .OS_ERR_NONE ∧ (∃ n, n ≠ 0 ∧ k'.view = k.view.delay t n ∧
          (opt ≠ OS_OPT_TIME_MATCH → opt ≠ OS_OPT_TIME_PERIODIC → n = dly)) ∨
        err = .OS_ERR_TIME_ZERO_DLY ∧ k'.view = k.view ∧
          (opt = OS_OPT_TIME_MATCH ∨ dly = 0)) := by
  obtain ⟨hspoke, hentries⟩ := h.of_has ht
  obtain ⟨hready, hprio⟩ := h.has_iff.mp ht
  obtain ⟨err, w, heq, hw, hothers, hcase⟩ := h.wheel.insert hspoke dly opt
  simp only [OSTimeDly.delay, hcur, Option.bind_eq_bind, Option.bind_some]
  rw [show (k.setState t .OS_TASK_STATE_DLY).wheel = k.wheel from rfl, heq]
  simp only [Option.bind_some]
  rcases hcase with ⟨rfl, hin, hrem, htime⟩ | ⟨rfl, hout, hzero⟩
  · obtain ⟨hrprio, hr, hhas⟩ := h.ready.remove ht
    rw [if_neg (by simp)]
    obtain ⟨k', hk'⟩ : ∃ k' : Kernel τ σ, k' = { k.setState t .OS_TASK_STATE_DLY with
      wheel := w, ready := OS_RdyListRemove t k.ready } := ⟨_, rfl⟩
    have hk : Changes t k k' := by
      subst hk'
      refine ⟨by simp [scheduler, setState, hrprio], hothers.ctr, fun u hu => ?_⟩
      constructor <;> simp [setState, hu, hhas, hothers.spoke u hu, hothers.ticks u hu]
    have hc : k'.Consistent := by
      subst hk'
      refine h.of_same hrprio hk.same hr hw h.pends ?_ h.tokens
      simp [Placed, setState, hrprio, hprio, hhas, hin, hentries]
    have hstatus : k'.status t = .delayed (w.remain t) := by
      subst hk'
      simp [Kernel.status, setState, hin]
      rfl
    refine ⟨_, k', by rw [hk']; rfl, hk.coherent h hc fun _ => ?_, hk.scheduler,
      .inl ⟨rfl, w.remain t, hrem, View.ext hk.prio ?_ ?_ ?_ ?_, htime⟩⟩
    · subst hk'
      exact hrem
    · exact hk.status.trans (by rw [hstatus]; rfl)
    all_goals
      subst hk'
      rfl
  · rw [if_pos (by simp)]
    obtain ⟨k', hk'⟩ : ∃ k' : Kernel τ σ,
      k' = { k.setState t .OS_TASK_STATE_DLY with wheel := w } := ⟨_, rfl⟩
    have hk : Changes t k k' := by
      subst hk'
      refine ⟨rfl, hothers.ctr, fun u hu => ?_⟩
      constructor <;> simp [setState, hu, hothers.spoke u hu, hothers.ticks u hu]
    have hc : k'.Consistent := by
      subst hk'
      refine h.of_same hk.prio hk.same h.ready hw h.pends ?_ h.tokens
      simp [Placed, setState, hprio, ht, hout, hentries]
    have hstatus : k'.status t = k.status t := by
      rw [hready]
      subst hk'
      simp [Kernel.status, setState, hout]
    refine ⟨_, k', by rw [hk'], hk.coherent h hc fun hs => ?_, hk.scheduler,
      .inr ⟨rfl, View.ext hk.prio ?_ ?_ ?_ ?_, hzero⟩⟩
    · subst hk'
      exact absurd hout hs
    · exact hk.status.trans (by rw [hstatus, Function.update_eq_self]; rfl)
    all_goals
      subst hk'
      rfl

/-! ## Waiting -/

omit [DecidableEq σ] in
theorem taskBlock (hr : k.ready.Sound) (hw : k.wheel.Sound) (ht : k.ready.Has t)
    (hspoke : k.wheel.TickSpokePtr t = none) (timeout : UInt32) : ∃ r w,
      OS_TaskBlock t timeout k = some ({ k with ready := r, wheel := w }.setState t
        (if timeout > 0 then .OS_TASK_STATE_PEND_TIMEOUT else .OS_TASK_STATE_PEND)) ∧
      r.Prio = k.ready.Prio ∧ r.Sound ∧ (∀ u, r.Has u ↔ k.ready.Has u ∧ u ≠ t) ∧
      w.Sound ∧ Wheel.Others t k.wheel w ∧
      (if timeout > 0 then w.TickSpokePtr t ≠ none ∧ w.remain t = timeout
        else w.TickSpokePtr t = none) := by
  obtain ⟨hrprio, hr, hhas⟩ := hr.remove ht
  unfold OS_TaskBlock
  by_cases h0 : timeout > 0
  · obtain ⟨err, w, heq, hw', hothers, hcase⟩ := hw.insert hspoke timeout OS_OPT_TIME_TIMEOUT
    rcases hcase with ⟨rfl, hin, -, htime⟩ | ⟨-, -, hno | h0'⟩
    · refine ⟨_, w, ?_, hrprio, hr, hhas, hw', hothers, ?_⟩
      · simp only [if_pos h0, heq]
        rfl
      · rw [if_pos h0]
        exact ⟨hin, htime (by decide) (by decide)⟩
    · exact absurd hno (by decide)
    · exact absurd h0 (by simp [h0'])
  · refine ⟨_, k.wheel, ?_, hrprio, hr, hhas, hw, ⟨rfl, fun _ _ => rfl, fun _ _ => rfl⟩, ?_⟩
    · simp only [if_neg h0]
      rfl
    · simpa only [if_neg h0] using hspoke

/-- The code for what a task waits for. -/
def pendingOn : Option σ → OS_TASK_PEND_ON
  | some _ => .OS_TASK_PEND_ON_SEM
  | none => .OS_TASK_PEND_ON_TASK_SEM

/-- A task comes into the pend list of what it waits for, where that has one. -/
theorem Consistent.pendListInsert (h : k.Consistent) (hentries : k.pends.PendDataTblEntries t = 0)
    (obj : Option σ) : ∃ q,
      obj.elim (some { k.pends with
          PendDataTblEntries := update k.pends.PendDataTblEntries t 0 })
        (fun p_obj => OS_PendListInsertPrio k.ready.Prio p_obj t (OS_PendDataInit t
          { k.pends with PendObjPtr := update k.pends.PendObjPtr t (some p_obj) })) = some q ∧
      q.Holds k.ready.Prio (k.view.pend t obj none).waiting ∧
      q.PendDataTblEntries = update k.pends.PendDataTblEntries t (if obj.isSome then 1 else 0) ∧
      (∀ u ≠ t, q.PendObjPtr u = k.pends.PendObjPtr u) ∧ (∀ s ∈ obj, q.PendObjPtr t = some s) := by
  cases obj with
  | none =>
      have hsame : update k.pends.PendDataTblEntries t 0 = k.pends.PendDataTblEntries := by
        rw [← hentries, Function.update_eq_self]
      refine ⟨_, rfl, ?_, rfl, fun _ _ => rfl, by simp⟩
      rw [hsame]
      exact h.pends
  | some s =>
      obtain ⟨q, heq, hholds, hentries', hobj⟩ := h.pends.insert hentries s
      refine ⟨q, heq, hholds, hentries', fun u hu => by simp [hobj, hu], ?_⟩
      simp [hobj]

theorem Coherent.pend (h : k.Coherent) (hcur : k.OSTCBCurPtr = some t) (ht : k.ready.Has t)
    (obj : Option σ) (htok : ∀ s ∈ obj, k.Ctr s = 0) (timeout : UInt32) :
    ∃ k', OS_Pend obj (pendingOn obj) timeout k = some k' ∧ k'.Coherent ∧
      k'.scheduler = k.scheduler ∧
      k'.view = k.view.pend t obj (if timeout > 0 then some timeout else none) := by
  obtain ⟨hspoke, hentries⟩ := h.of_has ht
  obtain ⟨hready, hprio⟩ := h.has_iff.mp ht
  obtain ⟨r, w, heq, hrprio, hr, hhas, hw, hothers, htime⟩ := taskBlock (k := { k with
    PendOn := update k.PendOn t (pendingOn obj)
    PendStatus := update k.PendStatus t .OS_STATUS_PEND_OK }) h.ready h.wheel ht hspoke timeout
  obtain ⟨q, heq', hq, hentries', hobj, hobj'⟩ := h.pendListInsert hentries obj
  obtain ⟨k', hk'⟩ : ∃ k' : Kernel τ σ, k' = { { k with
      PendOn := update k.PendOn t (pendingOn obj)
      PendStatus := update k.PendStatus t .OS_STATUS_PEND_OK
      ready := r, wheel := w }.setState t
        (if timeout > 0 then .OS_TASK_STATE_PEND_TIMEOUT else .OS_TASK_STATE_PEND) with
      pends := q } := ⟨_, rfl⟩
  have hk : Changes t k k' := by
    subst hk'
    refine ⟨by simp [scheduler, setState, hrprio], hothers.ctr, fun u hu => ?_⟩
    constructor <;> simp [setState, hu, hhas, hothers.spoke u hu, hothers.ticks u hu, hentries',
      hobj u hu]
  have hc : k'.Consistent := by
    subst hk'
    refine h.of_same hk.prio hk.same hr hw hq ?_ fun s hs => ?_
    · split at htime <;> cases obj <;> simp [Placed, Waits, setState, *, pendingOn]
    · change k.Ctr s ≠ 0 at hs
      cases obj with
      | none => exact h.tokens s hs
      | some s' =>
          have hne : s ≠ s' := fun e => hs (e ▸ htok s' rfl)
          exact (Function.update_of_ne hne _ _).trans (h.tokens s hs)
  have hpendsOn : k'.pendsOn t = obj := by
    subst hk'
    cases obj with
    | none => simp [pendsOn, hentries']
    | some s => simp [pendsOn, hentries', hobj' s rfl]
  have hstatus : k'.status t = .pending obj (if timeout > 0 then some timeout else none) := by
    unfold Kernel.status
    rw [hpendsOn]
    subst hk'
    split at htime
    · have hrem : w.remain t = timeout := htime.2
      simp [setState, *]
      exact hrem
    · simp [setState, *]
  refine ⟨k', ?_, hk.coherent h hc fun hs => ?_, hk.scheduler, View.ext hk.prio ?_ ?_ ?_ ?_⟩
  · subst hk'
    have hbind (f : τ → Option (Kernel τ σ)) : k.OSTCBCurPtr >>= f = f t := by rw [hcur]; rfl
    rw [OS_Pend, hbind, heq]
    simp only [Option.bind_eq_bind, Option.bind_some, setState]
    cases obj with
    | none =>
        obtain rfl := Option.some.inj heq'
        rfl
    | some s =>
        rw [Option.elim_some] at heq'
        simp only
        rw [hrprio, heq']
        rfl
  · rw [hk'] at hs ⊢
    change w.TickSpokePtr t ≠ none at hs
    split at htime
    · rename_i h0
      change w.remain t ≠ 0
      rw [htime.2]
      exact fun e => absurd h0 (by simp [e])
    · exact absurd htime hs
  · exact hk.status.trans (by rw [hstatus]; rfl)
  · subst hk'
    rfl
  · subst hk'
    exact hq.list_eq
  · subst hk'
    rfl

/-! ## Tokens -/

omit [DecidableEq σ] in
theorem Wakes.coherent (h : k.Coherent) (hw : Wakes t l k k') : k'.Coherent :=
  hw.changes.coherent h hw.consistent fun hs =>
    absurd (hw.consistent.spoke_of_ready hw.status) hs

omit [DecidableEq σ] in
theorem Wakes.view (hw : Wakes t l k k')
    (hout : k'.PendStatus = update k.PendStatus t .OS_STATUS_PEND_OK) :
    k'.view = k.view.wake t :=
  View.ext hw.changes.prio (hw.changes.status.trans (by rw [hw.status]; rfl)) hout hw.waiting
    hw.tokens

omit [DecidableEq τ] [DecidableEq σ] in
theorem Consistent.pending_of_mem (h : k.Consistent) (ht : t ∈ k.pends.list s) :
    (k.status t).isPending := by
  have hplaced := h.placed t
  have hentries := (h.pends.obj.mp ht).1
  unfold Placed at hplaced
  rw [isPending_iff]
  cases hs : k.TaskState t <;> simp [hs, hentries] at hplaced ⊢

theorem Coherent.postTo (h : k.Coherent) (hp : (k.status t).isPending) (p_obj : Option σ)
    (hobj : p_obj = none → k.pends.PendDataTblEntries t = 0) : ∃ k', OS_Post p_obj t k = some k' ∧
      k'.Coherent ∧ k'.scheduler = k.scheduler ∧ k'.view = k.view.wake t := by
  obtain ⟨l, hw⟩ := h.wheel
  obtain ⟨k', heq, hwakes, hout⟩ := h.post hw hp hobj
  exact ⟨k', heq, hwakes.coherent h, hwakes.changes.scheduler, hwakes.view hout⟩

theorem Coherent.semPostLoop (h : k.Coherent) (ts rest : List τ)
    (hl : k.pends.list s = ts ++ rest) : ∃ k',
      OS_SemPost.loop s ts.length (ts ++ rest).head? k = some k' ∧ k'.Coherent ∧
        k'.scheduler = k.scheduler ∧ k'.view = ts.foldl (fun v t => v.wake t) k.view := by
  induction ts generalizing k with
  | nil => exact ⟨k, rfl, h, rfl, rfl⟩
  | cons t ts ih =>
      have hp := h.pending_of_mem (t := t) (s := s) (by simp [hl])
      obtain ⟨k₁, heq, h₁, hsched, hview⟩ := h.postTo hp (some s) (by simp)
      have hnext : k.pends.NextPtr t = (ts ++ rest).head? := h.pends.links.next_eq (a := []) hl
      have hl₁ : k₁.pends.list s = ts ++ rest := by
        rw [show k₁.pends.list = k₁.view.waiting from rfl, hview]
        change (k.pends.list s).erase t = _
        rw [hl, List.cons_append, List.erase_cons_head]
      obtain ⟨k', heq', h', hsched', hview'⟩ := ih h₁ hl₁
      refine ⟨k', ?_, h', hsched'.trans hsched, by rw [hview', hview]; rfl⟩
      simp only [List.length_cons, List.cons_append, List.head?_cons, OS_SemPost.loop,
        Option.bind_eq_bind, Option.bind_some, heq, hnext, heq']

omit [DecidableEq τ] in
theorem Coherent.setTokens (h : k.Coherent) (hs : k.pends.list s = []) (n : UInt32) :
    Coherent { k with Ctr := update k.Ctr s n } := by
  refine ⟨⟨h.ready, h.wheel, h.pends, h.placed, fun s' hs' => ?_⟩, h.future⟩
  by_cases he : s' = s
  · exact he ▸ hs
  · exact h.tokens s' (by simpa [he] using hs')

theorem Coherent.semPost (h : k.Coherent) (s : σ) (opt : UInt16) : ∃ err k',
    OS_SemPost.post s opt k = some (err, k') ∧ k'.Coherent ∧ k'.scheduler = k.scheduler ∧
      k'.view = k.view.post s (opt &&& OS_OPT_POST_ALL ≠ 0) ∧
      (err = none ↔ k.pends.list s ≠ []) := by
  have hcount : (k.pends.PendList s).NbrEntries = (k.pends.list s).length :=
    h.pends.links.count s
  have hhead : (k.pends.PendList s).HeadPtr = (k.pends.list s).head? := h.pends.links.head s
  have hwaiting : k.view.waiting s = k.pends.list s := rfl
  have htokens : k.view.tokens s = k.Ctr s := rfl
  unfold OS_SemPost.post View.post
  rw [hwaiting, htokens]
  cases hl : k.pends.list s with
  | nil =>
      rw [hl, List.length_nil] at hcount
      simp only [if_pos hcount]
      by_cases hmax : k.Ctr s = DEF_INT_32U_MAX_VAL
      · rw [if_pos hmax, if_pos hmax]
        exact ⟨_, k, rfl, h, rfl, rfl, by simp⟩
      · rw [if_neg hmax, if_neg hmax]
        exact ⟨_, _, rfl, h.setTokens hl _, rfl, rfl, by simp⟩
  | cons t ts =>
      rw [hl] at hcount hhead
      have hn : (k.pends.PendList s).NbrEntries ≠ 0 := by simp [hcount]
      simp only [if_neg hn, hhead]
      by_cases hall : opt &&& OS_OPT_POST_ALL ≠ 0
      · obtain ⟨k', heq, h', hsched, hview⟩ := h.semPostLoop (s := s) (t :: ts) [] (by simp [hl])
        rw [List.append_nil] at heq
        rw [if_pos hall, hcount, heq]
        refine ⟨_, k', rfl, h', hsched, ?_, by simp⟩
        simpa [hall] using hview
      · obtain ⟨k', heq, h', hsched, hview⟩ := h.semPostLoop (s := s) [t] ts hl
        rw [if_neg hall]
        refine ⟨_, k', congrArg (Option.map _) heq, h', hsched, ?_, by simp⟩
        simpa [hall] using hview

theorem Coherent.semPend (h : k.Coherent) (hcur : k.OSTCBCurPtr = some t) (ht : k.ready.Has t)
    (s : σ) (timeout : UInt32) (opt : UInt16) : ∃ err k',
    OSSemPend.pend s timeout opt k = some (err, k') ∧ k'.Coherent ∧ k'.scheduler = k.scheduler ∧
      (err = some .OS_ERR_NONE ∧ k.Ctr s ≠ 0 ∧ k'.view = k.view.setTokens s (k.Ctr s - 1) ∨
        (err = some .OS_ERR_PEND_WOULD_BLOCK ∨ err = some .OS_ERR_SCHED_LOCKED) ∧ k.Ctr s = 0 ∧
          (opt &&& OS_OPT_PEND_NON_BLOCKING ≠ 0 ∨ k.OSSchedLockNestingCtr > 0) ∧
          k'.view = k.view ∨
        err = none ∧ k.Ctr s = 0 ∧ opt &&& OS_OPT_PEND_NON_BLOCKING = 0 ∧
          k.OSSchedLockNestingCtr = 0 ∧ k'.view =
            k.view.pend t (some s) (if timeout > 0 then some timeout else none)) := by
  unfold OSSemPend.pend
  by_cases h0 : k.Ctr s > 0
  · have hne : k.Ctr s ≠ 0 := fun e => absurd h0 (by simp [e])
    rw [if_pos h0]
    exact ⟨_, _, rfl, h.setTokens (h.tokens s hne) _, rfl, .inl ⟨rfl, hne, rfl⟩⟩
  · rw [if_neg h0]
    have hzero : k.Ctr s = 0 := UInt32.le_zero_iff.mp (UInt32.not_lt.mp h0)
    by_cases hblock : opt &&& OS_OPT_PEND_NON_BLOCKING ≠ 0
    · rw [if_pos hblock]
      exact ⟨_, k, rfl, h, rfl, .inr (.inl ⟨.inl rfl, hzero, .inl hblock, rfl⟩)⟩
    · rw [if_neg hblock]
      by_cases hlock : k.OSSchedLockNestingCtr > 0
      · rw [if_pos hlock]
        exact ⟨_, k, rfl, h, rfl, .inr (.inl ⟨.inr rfl, hzero, .inr hlock, rfl⟩)⟩
      · rw [if_neg hlock]
        obtain ⟨k', heq, h', hsched, hview⟩ := h.pend hcur ht (some s) (by simp [hzero]) timeout
        exact ⟨_, k', congrArg (Option.map _) heq, h', hsched, .inr (.inr
          ⟨rfl, hzero, not_not.mp hblock, Nat.eq_zero_of_not_pos hlock, hview⟩)⟩

omit [DecidableEq τ] in
theorem Coherent.semSet (h : k.Coherent) (s : σ) (cnt : UInt32) :
    (OSSemSet.set s cnt k).2.Coherent ∧ (OSSemSet.set s cnt k).2.scheduler = k.scheduler ∧
      (k.pends.list s ≠ [] ∧ (OSSemSet.set s cnt k).2.view = k.view ∨
        k.pends.list s = [] ∧ (OSSemSet.set s cnt k).2.view = k.view.setTokens s cnt) := by
  have hcount : (k.pends.PendList s).NbrEntries = (k.pends.list s).length :=
    h.pends.links.count s
  unfold OSSemSet.set
  by_cases h0 : k.Ctr s > 0
  · have hl := h.tokens s fun e => absurd h0 (by simp [e])
    rw [if_pos h0]
    exact ⟨h.setTokens hl cnt, rfl, .inr ⟨hl, rfl⟩⟩
  · rw [if_neg h0]
    by_cases hn : (k.pends.PendList s).NbrEntries = 0
    · have hl : k.pends.list s = [] := List.length_eq_zero_iff.mp (hcount ▸ hn)
      rw [if_pos hn]
      exact ⟨h.setTokens hl cnt, rfl, .inr ⟨hl, rfl⟩⟩
    · rw [if_neg hn]
      exact ⟨h, rfl, .inl ⟨fun hl => hn (hcount.trans (by rw [hl, List.length_nil])), rfl⟩⟩

/-! ## Signals -/

theorem Coherent.taskSemPend (h : k.Coherent) (hcur : k.OSTCBCurPtr = some t) (ht : k.ready.Has t)
    (timeout : UInt32) (opt : UInt16) : ∃ err k',
    OSTaskSemPend.pend timeout opt k = some (err, k') ∧ k'.Coherent ∧
      k'.scheduler = k.scheduler ∧
      ((err = some .OS_ERR_PEND_WOULD_BLOCK ∨ err = some .OS_ERR_SCHED_LOCKED) ∧
          (opt &&& OS_OPT_PEND_NON_BLOCKING ≠ 0 ∨ k.OSSchedLockNestingCtr > 0) ∧
          k'.view = k.view ∨
        err = none ∧ k.OSSchedLockNestingCtr = 0 ∧ k'.view =
          k.view.pend t none (if timeout > 0 then some timeout else none)) := by
  unfold OSTaskSemPend.pend
  by_cases hblock : opt &&& OS_OPT_PEND_NON_BLOCKING ≠ 0
  · rw [if_pos hblock]
    exact ⟨_, k, rfl, h, rfl, .inl ⟨.inl rfl, .inl hblock, rfl⟩⟩
  · rw [if_neg hblock]
    by_cases hlock : k.OSSchedLockNestingCtr > 0
    · rw [if_pos hlock]
      exact ⟨_, k, rfl, h, rfl, .inl ⟨.inr rfl, .inr hlock, rfl⟩⟩
    · rw [if_neg hlock]
      obtain ⟨k', heq, h', hsched, hview⟩ := h.pend hcur ht none (by simp) timeout
      exact ⟨_, k', congrArg (Option.map _) heq, h', hsched,
        .inr ⟨rfl, Nat.eq_zero_of_not_pos hlock, hview⟩⟩

omit [DecidableEq τ] [DecidableEq σ] in
theorem Consistent.waits_iff (h : k.Consistent) (hw : k.Waits t) :
    k.PendOn t = .OS_TASK_PEND_ON_TASK_SEM ↔ k.pendsOn t = none := by
  rcases hw with ⟨hon, hentries⟩ | ⟨hon, hentries⟩
  · obtain h0 | ⟨s, hs⟩ := h.pends.entries t
    · omega
    · simp [pendsOn, hon, hentries, (h.pends.obj.mp hs).2]
  · simp [pendsOn, hon, hentries]

/-- In an interrupt. -/
theorem Coherent.taskSemPost (h : k.Coherent) (hint : 0 < k.OSIntNestingCtr) (t : τ) : ∃ k',
    OS_TaskSemPost t k = some k' ∧ k'.Coherent ∧ k'.scheduler = k.scheduler ∧
      k'.view = k.view.signal t := by
  have hplaced := h.placed t
  have hpost (hw : k.Waits t) (hp : (k.status t).isPending)
      (hon : k.PendOn t = .OS_TASK_PEND_ON_TASK_SEM) : ∃ k',
      (OS_Post none t k).bind OSSched = some k' ∧ k'.Coherent ∧ k'.scheduler = k.scheduler ∧
        k'.view = k.view.wake t := by
    have hentries : k.pends.PendDataTblEntries t = 0 := by
      rcases hw with ⟨hon', -⟩ | ⟨-, hentries⟩
      · rw [hon] at hon'
        cases hon'
      · exact hentries
    obtain ⟨k', heq, h', hsched, hview⟩ := h.postTo hp none fun _ => hentries
    have hint' : k'.OSIntNestingCtr > 0 :=
      Nat.lt_of_lt_of_eq hint (scheduler_nesting hsched).symm
    refine ⟨k', ?_, h', hsched, hview⟩
    rw [heq, Option.bind_some, OSSched, if_pos hint']
  have hstatus : k.view.status t = k.status t := rfl
  unfold OS_TaskSemPost View.signal
  rw [hstatus]
  unfold Kernel.status at hpost ⊢
  cases hs : k.TaskState t with
  | OS_TASK_STATE_RDY => exact ⟨k, rfl, h, rfl, rfl⟩
  | OS_TASK_STATE_DLY =>
      refine ⟨k, rfl, h, rfl, ?_⟩
      cases k.wheel.TickSpokePtr t <;> rfl
  | OS_TASK_STATE_PEND =>
      simp only [Placed, hs] at hplaced hpost
      have hw := hplaced.2.2.2
      by_cases hon : k.PendOn t = .OS_TASK_PEND_ON_TASK_SEM
      · simp only [if_pos hon, (h.waits_iff hw).mp hon]
        exact hpost hw rfl hon
      · obtain ⟨s, hs⟩ := Option.ne_none_iff_exists'.mp (mt (h.waits_iff hw).mpr hon)
        simp only [if_neg hon, hs]
        exact ⟨k, rfl, h, rfl, rfl⟩
  | OS_TASK_STATE_PEND_TIMEOUT =>
      simp only [Placed, hs] at hplaced hpost
      have hw := hplaced.2.2.2
      by_cases hon : k.PendOn t = .OS_TASK_PEND_ON_TASK_SEM
      · simp only [if_pos hon, (h.waits_iff hw).mp hon]
        exact hpost hw rfl hon
      · obtain ⟨s, hs⟩ := Option.ne_none_iff_exists'.mp (mt (h.waits_iff hw).mpr hon)
        simp only [if_neg hon, hs]
        exact ⟨k, rfl, h, rfl, rfl⟩
  | _ => simp only [Placed, hs] at hplaced

end Kernel

end DfuSeBootloader.Os
