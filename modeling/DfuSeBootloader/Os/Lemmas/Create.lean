import DfuSeBootloader.Os.Lemmas.Kernel
import DfuSeBootloader.Os.Tasks

/-!
# The start

The tasks are created one by one, each of them ready at once, and the kernel is coherent all along.
-/

namespace DfuSeBootloader.Os
open Function (update)

variable {τ σ : Type} {k k' : Kernel τ σ} {r : Ready τ} {t u : τ} {cnt : σ → UInt32}

/-- Nobody waits, and the semaphores have the tokens `cnt`. -/
def View.initial (Prio : τ → Nat) (cnt : σ → UInt32) : View τ σ where
  Prio := Prio
  status := fun _ => .ready
  outcome := fun _ => .OS_STATUS_PEND_OK
  waiting := fun _ => []
  tokens := cnt

namespace Kernel

/-- The kernel before `OSStart`. -/
structure Starting (cnt : σ → UInt32) (k : Kernel τ σ) : Prop where
  coherent : k.Coherent
  view : k.view = View.initial k.ready.Prio cnt
  scheduler : k.scheduler = ⟨k.ready.Prio, 0, none, none, 0, 0, false, false⟩

theorem Starting.has_iff (h : k.Starting cnt) : k.ready.Has t ↔ k.ready.Prio t < OS_CFG_PRIO_MAX := by
  rw [h.coherent.has_iff]
  have hs : k.status t = .ready := congrArg (fun v => v.status t) h.view
  simp [hs]

/-! ## The empty kernel -/

theorem starting_variables : (OSInit.variables (τ := τ) cnt).Starting cnt := by
  have hready : (OSInit.variables (τ := τ) cnt).ready.Holds fun _ => [] := by
    refine ⟨Linked.Lists.nil fun _ => rfl, ?_, ?_, fun p => ?_⟩
    · simp
    · simp
    · simp [OSInit.variables, OS_PrioInit, Bitmap.Mem]
  have hwheel : (OSInit.variables (τ := τ) cnt).wheel.Holds fun _ => [] := by
    refine ⟨Linked.Lists.nil fun _ => rfl, ?_, ?_, fun _ => .nil⟩
    · simp [OSInit.variables]
    · simp
  have hpends : (OSInit.variables (τ := τ) cnt).pends.Holds (fun _ => OS_PRIO_INIT) fun _ => [] := by
    refine ⟨Linked.Lists.nil fun _ => rfl, fun t => .inl rfl, ?_, fun _ => .nil⟩
    simp [OSInit.variables]
  refine ⟨⟨⟨hready.sound, ⟨_, hwheel⟩, ?_, fun t => ?_, fun s _ => ?_⟩, fun t ht => absurd rfl ht⟩,
    ?_, rfl⟩
  · rw [hpends.list_eq]
    exact hpends
  · have hnot : ¬ (OSInit.variables (τ := τ) cnt).ready.Has t := by simp [hready.has_iff]
    exact ⟨iff_of_false hnot (Nat.lt_irrefl _), rfl, rfl⟩
  · rw [hpends.list_eq]
  · rw [view, hpends.list_eq]
    rfl

/-! ## One more task -/

variable [DecidableEq τ]

theorem create_ready (h : r.Sound) (ht : ¬ r.Has t) {prio : Nat} (hp : prio < OS_CFG_PRIO_MAX) :
    ∃ r', OS_RdyListInsertTail t { r with
        Prio := update (update r.Prio t OS_PRIO_INIT) t prio
        NextPtr := update r.NextPtr t none
        PrevPtr := update r.PrevPtr t none
        OSPrioTbl := OS_PrioInsert prio r.OSPrioTbl } = some r' ∧
      r'.Prio = update r.Prio t prio ∧ r'.Sound ∧ ∀ u, r'.Has u ↔ r.Has u ∨ u = t := by
  have hnot := Ready.Holds.not_mem h ht
  have hne {p : Nat} {u : τ} (hu : u ∈ r.list p) : u ≠ t := fun e => hnot p (e ▸ hu)
  have hfresh : Ready.Holds { r with
      Prio := update r.Prio t prio
      NextPtr := update r.NextPtr t none
      PrevPtr := update r.PrevPtr t none } r.list :=
    ⟨h.links.fresh hnot none, fun hu => (Function.update_of_ne (hne hu) _ _).trans (h.prio hu),
      fun hu => Ready.Holds.bound h hu,
      h.bits⟩
  obtain ⟨r', heq, hprio, hr', hhas⟩ := hfresh.sound.insert (t := t)
    (by rw [hfresh.has_iff]; exact hnot _) (by simpa using hp) prio
  refine ⟨r', ?_, hprio, hr', fun u => ?_⟩
  · simpa [OS_RdyListInsert] using heq
  · rw [hhas, hfresh.has_iff]
    by_cases hu : u = t
    · simp [hu]
    · simp [hu, Ready.Has]

theorem create_wheel {w : Wheel τ} (h : w.Sound) (ht : w.TickSpokePtr t = none) :
    Wheel.Sound { w with
      TickNextPtr := update w.TickNextPtr t none
      TickPrevPtr := update w.TickPrevPtr t none
      TickSpokePtr := update w.TickSpokePtr t none
      TickCtrPrev := update w.TickCtrPrev t OS_TICK_TH_INIT
      TickCtrMatch := update w.TickCtrMatch t 0
      TickRemain := update w.TickRemain t 0 } := by
  obtain ⟨l, hw⟩ := h
  have hnot (i : Nat) : t ∉ l i := fun hm => by
    rw [← hw.spoke, ht] at hm
    cases hm
  have hm := hw.setMatch ht 0 (update w.TickRemain t 0) (update w.TickCtrPrev t OS_TICK_TH_INIT)
  refine ⟨l, hm.links.fresh hnot none, ?_, hm.index, hm.sorted⟩
  rw [← ht, Function.update_eq_self]
  exact hm.spoke

/-- The new task is ready. -/
theorem Starting.create (h : k.Starting cnt) (ht : k.ready.Prio t = OS_PRIO_INIT) {prio : Nat}
    (hp : prio < OS_CFG_PRIO_MAX) (idle : τ) (hidle : prio = OS_CFG_PRIO_MAX - 1 → t = idle)
    (time_quanta : UInt32) : ∃ k', OSTaskCreate idle t prio time_quanta k = some (.OS_ERR_NONE, k') ∧
      k'.Starting cnt ∧ k'.ready.Prio = update k.ready.Prio t prio := by
  have hc := h.coherent
  have hnot : ¬ k.ready.Has t := by
    rw [h.has_iff, ht]
    exact Nat.lt_irrefl _
  have hplaced := hc.placed t
  have hstate : k.TaskState t = .OS_TASK_STATE_RDY ∧ k.wheel.TickSpokePtr t = none ∧
      k.pends.PendDataTblEntries t = 0 := by
    unfold Placed at hplaced
    cases hs : k.TaskState t with
    | OS_TASK_STATE_RDY =>
        simp only [hs] at hplaced
        exact ⟨rfl, hplaced.2⟩
    | _ =>
        simp only [hs, ht, OS_PRIO_INIT, Nat.lt_irrefl, false_and] at hplaced
  obtain ⟨hstate, hspoke, hentries⟩ := hstate
  obtain ⟨r, heq, hprio, hr, hhas⟩ := create_ready hc.ready hnot hp
  have hcreate : OSTaskCreate idle t prio time_quanta k = some (.OS_ERR_NONE,
      { OS_TaskInitTCB t k with
        ready := r
        TimeQuanta := update (OS_TaskInitTCB t k).TimeQuanta t time_quanta
        TimeQuantaCtr := update (OS_TaskInitTCB t k).TimeQuantaCtr t (if time_quanta = 0 then
          (OS_TaskInitTCB t k).OSSchedRoundRobinDfltTimeQuanta else time_quanta) }) := by
    rw [OSTaskCreate, if_neg fun hbad => hbad.2 (hidle hbad.1)]
    simp only [OS_TaskInitTCB, heq]
    rfl
  have hlist : k.pends.list = fun _ => [] := congrArg View.waiting h.view
  have hout : k.PendStatus = fun _ => .OS_STATUS_PEND_OK := congrArg View.outcome h.view
  have htok : k.Ctr = cnt := congrArg View.tokens h.view
  have hready (u : τ) : k.status u = .ready := congrArg (fun v => v.status u) h.view
  refine ⟨_, hcreate, ⟨⟨⟨hr, create_wheel hc.wheel hspoke, ?_, fun u => ?_, hc.tokens⟩,
    fun u hu => ?_⟩, ?_, ?_⟩, hprio⟩
  · refine ⟨hc.pends.links, hc.pends.entries, hc.pends.obj, fun s => ?_⟩
    change (k.pends.list s).Pairwise _
    rw [hlist]
    exact .nil
  · by_cases hu : u = t
    · subst hu
      simp [Placed, OS_TaskInitTCB, hhas, hprio, hp, hentries]
    · have hplaced := hc.placed u
      simpa [Placed, Waits, OS_TaskInitTCB, hhas, hprio, hu] using hplaced
  · by_cases hut : u = t
    · simp [hut, OS_TaskInitTCB] at hu
    · have hfuture := hc.future u
      simp [OS_TaskInitTCB, hut] at hu
      simpa [Kernel.remain, OS_TaskInitTCB, hut] using hfuture hu
  · refine View.ext rfl (funext fun u => ?_) ?_ hlist htok
    · by_cases hu : u = t
      · subst hu
        simp [View.initial, Kernel.view, Kernel.status, OS_TaskInitTCB]
      · simpa [View.initial, Kernel.view, Kernel.status, pendsOn, Kernel.remain, OS_TaskInitTCB, hu]
          using hready u
    · simp [View.initial, Kernel.view, OS_TaskInitTCB, hout]
  · have hsched := h.scheduler
    simp only [Kernel.scheduler, Scheduler.mk.injEq] at hsched
    simp [Kernel.scheduler, OS_TaskInitTCB, hsched]

end Kernel

/-! ## All tasks -/

/-- The tasks of the application are none of the kernel's, and each is created once. -/
structure Own.Admits (own : Own τ) (apps : List (App τ)) : Prop where
  distinct : (apps.map App.p_tcb).Nodup
  others : ∀ a ∈ apps, a.p_tcb ≠ own.OSIdleTaskTCB ∧ a.p_tcb ≠ own.OSTickTaskTCB
  prio : ∀ a ∈ apps, a.prio < OS_CFG_PRIO_MAX

variable [DecidableEq τ] {own : Own τ} {apps : List (App τ)}

namespace Kernel

/-- A task of the priority of the idle task is not created. -/
theorem Starting.createTasks (h : k.Starting cnt) (ha : own.Admits apps)
    (hnew : ∀ a ∈ apps, k.ready.Prio a.p_tcb = OS_PRIO_INIT) :
    ∃ k', Os.createTasks own apps k = some k' ∧ k'.Starting cnt ∧
      (∀ u, (∀ a ∈ apps, a.p_tcb ≠ u) → k'.ready.Prio u = k.ready.Prio u) ∧
      ∀ m, (∀ a ∈ apps, m ≤ a.prio) → (∀ u, m ≤ k.ready.Prio u) → ∀ u, m ≤ k'.ready.Prio u := by
  induction apps generalizing k with
  | nil => exact ⟨k, rfl, h, fun _ _ => rfl, fun _ _ hm => hm⟩
  | cons a as ih =>
      obtain ⟨hnot, hdistinct⟩ := List.nodup_cons.mp ha.distinct
      have has : own.Admits as := ⟨hdistinct, fun b hb => ha.others b (List.mem_cons_of_mem _ hb),
        fun b hb => ha.prio b (List.mem_cons_of_mem _ hb)⟩
      have hcreate : ∃ err k₁,
          OSTaskCreate own.OSIdleTaskTCB a.p_tcb a.prio a.time_quanta k = some (err, k₁) ∧
          k₁.Starting cnt ∧ (∀ u ≠ a.p_tcb, k₁.ready.Prio u = k.ready.Prio u) ∧
          (k₁.ready.Prio a.p_tcb = a.prio ∨ k₁.ready.Prio a.p_tcb = k.ready.Prio a.p_tcb) := by
        by_cases hp : a.prio = OS_CFG_PRIO_MAX - 1
        · have hne := (ha.others a List.mem_cons_self).1
          exact ⟨_, k, if_pos ⟨hp, hne⟩, h, fun _ _ => rfl, .inr rfl⟩
        · obtain ⟨k₁, heq, h₁, hprio⟩ := h.create (hnew a List.mem_cons_self)
            (ha.prio a List.mem_cons_self) own.OSIdleTaskTCB (fun hp' => absurd hp' hp) a.time_quanta
          refine ⟨_, k₁, heq, h₁, fun u hu => ?_, .inl ?_⟩
          · rw [hprio, Function.update_of_ne hu]
          · rw [hprio, Function.update_self]
      obtain ⟨err, k₁, heq, h₁, hother, hself⟩ := hcreate
      have hne {b : App τ} (hb : b ∈ as) : b.p_tcb ≠ a.p_tcb := fun e =>
        hnot (e ▸ List.mem_map_of_mem hb)
      obtain ⟨k', heq', h', hrest, htop⟩ := ih h₁ has fun b hb => by
        rw [hother _ (hne hb)]
        exact hnew b (List.mem_cons_of_mem _ hb)
      refine ⟨k', ?_, h', fun u hu => ?_, fun m hm hk u => htop m ?_ (fun u => ?_) u⟩
      · simp only [Os.createTasks, heq, Option.bind_eq_bind, Option.bind_some, heq']
      · rw [hrest u fun b hb => hu b (List.mem_cons_of_mem _ hb),
          hother u (hu a List.mem_cons_self).symm]
      · exact fun b hb => hm b (List.mem_cons_of_mem _ hb)
      · by_cases hu : u = a.p_tcb
        · subst hu
          rcases hself with hself | hself
          · exact hself ▸ hm a List.mem_cons_self
          · exact hself ▸ hk _
        · exact hother u hu ▸ hk u

/-- The kernel's own tasks and those of the application. -/
theorem starting_boot (own : Own τ) (ha : own.Admits apps) (cnt : σ → UInt32) : ∃ k₁ k,
    OSInit own.OSIdleTaskTCB own.OSTickTaskTCB cnt = some k₁ ∧ createTasks own apps k₁ = some k ∧
      k.Starting cnt ∧ k.ready.Has own.OSIdleTaskTCB ∧
      ((∀ a ∈ apps, OS_CFG_TICK_TASK_PRIO ≤ a.prio) →
        ∀ u, k.ready.Prio own.OSTickTaskTCB ≤ k.ready.Prio u) := by
  have hvars : (OSInit.variables (τ := τ) cnt).Starting cnt := starting_variables
  obtain ⟨k₀, heq₀, h₀, hprio₀⟩ := hvars.create (t := own.OSIdleTaskTCB) rfl
    (show OS_CFG_PRIO_MAX - 1 < OS_CFG_PRIO_MAX by decide) _ (fun _ => rfl) 0
  obtain ⟨k₁, heq₁, h₁, hprio₁⟩ := h₀.create (t := own.OSTickTaskTCB)
    (by rw [hprio₀, Function.update_of_ne own.ne]; rfl)
    (show OS_CFG_TICK_TASK_PRIO < OS_CFG_PRIO_MAX by decide) own.OSIdleTaskTCB
    (fun hp => by cases hp) 0
  have hnew (u : τ) (hi : u ≠ own.OSIdleTaskTCB) (ht : u ≠ own.OSTickTaskTCB) :
      k₁.ready.Prio u = OS_PRIO_INIT := by
    rw [hprio₁, Function.update_of_ne ht, hprio₀, Function.update_of_ne hi]
    rfl
  obtain ⟨k, heq, hk, hrest, htop⟩ := h₁.createTasks ha fun a hm =>
    hnew _ (ha.others a hm).1 (ha.others a hm).2
  have hidle : k.ready.Prio own.OSIdleTaskTCB = OS_CFG_PRIO_MAX - 1 := by
    rw [hrest _ fun a hm => (ha.others a hm).1, hprio₁, Function.update_of_ne own.ne.symm, hprio₀,
      Function.update_self]
  have htick : k.ready.Prio own.OSTickTaskTCB = OS_CFG_TICK_TASK_PRIO := by
    rw [hrest _ fun a hm => (ha.others a hm).2, hprio₁, Function.update_self]
  refine ⟨k₁, k, ?_, heq, hk, ?_, fun hp u => ?_⟩
  · simp only [OSInit, heq₀, Option.bind_eq_bind, Option.bind_some, heq₁]
  · rw [hk.has_iff, hidle]
    decide
  · rw [htick]
    refine htop _ hp (fun u => ?_) u
    by_cases ht : u = own.OSTickTaskTCB
    · rw [ht, hprio₁, Function.update_self]
    · by_cases hi : u = own.OSIdleTaskTCB
      · rw [hi, hprio₁, Function.update_of_ne own.ne.symm, hprio₀, Function.update_self]
        decide
      · rw [hnew u hi ht]
        decide

end Kernel

end DfuSeBootloader.Os
