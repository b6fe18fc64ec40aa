import DfuSeBootloader.Os.Lemmas.Kernel

/-!
# One tick

`OS_TickListUpdate` looks at one spoke only, and there only as far as the first task whose time is
not up. It is the tick of all delays and timeouts at once.
-/

namespace DfuSeBootloader.Os
open Function (update)

variable {τ σ : Type} {k k' : Kernel τ σ} {t u : τ} {l : Nat → List τ} {i n : Nat}

namespace Kernel

theorem eq_of_remain (h : k.remain t = 0) : k.wheel.TickCtrMatch t = k.wheel.OSTickCtr := by
  have := UInt32.sub_eq_iff_eq_add.mp h
  rwa [UInt32.zero_add] at this

variable [DecidableEq τ]

/-! ## The count that is left is only for show -/

theorem Consistent.updateRemain (h : k.Consistent) (t : τ) : (updateRemain t k).Consistent := by
  obtain ⟨l, hl⟩ := h.wheel
  exact ⟨h.ready, ⟨l, hl.links, hl.spoke, hl.index, hl.sorted⟩, h.pends, h.placed, h.tokens⟩

theorem Wakes.of_updateRemain (h : Wakes t l (updateRemain u k) k') : Wakes t l k k' where
  consistent := h.consistent
  changes := ⟨h.changes.scheduler, h.changes.ctr, fun v hv =>
    have hs := h.changes.same v hv
    ⟨hs.state, hs.pendOn, hs.outcome, hs.has, hs.spoke, hs.ticks, hs.entries, hs.obj⟩⟩
  status := h.status
  waiting := h.waiting
  tokens := h.tokens
  wheel := h.wheel

variable [DecidableEq σ]

/-! ## One entry of the spoke -/

theorem loop_expired (h : k.Consistent) (hw : k.wheel.Holds l) (ht : k.wheel.TickSpokePtr t ≠ none)
    (hrem : k.remain t = 0) (n : Nat) : ∃ k₁,
      OS_TickListUpdate.loop (n + 1) (some t) k =
        OS_TickListUpdate.loop n (k.wheel.TickNextPtr t) k₁ ∧
      Wakes t l k k₁ ∧ k₁.PendStatus =
        if (k.status t).isPending then update k.PendStatus t .OS_STATUS_PEND_TIMEOUT
        else k.PendStatus := by
  have hctr := (eq_of_remain hrem).symm
  have hw' : (Os.updateRemain t k).wheel.Holds l := ⟨hw.links, hw.spoke, hw.index, hw.sorted⟩
  rcases h.timed ht with hs | hs
  · obtain ⟨k₁, heq, hwakes, hstatus⟩ := (h.updateRemain t).endDelay hw' hs ht
    have hpend : (k.status t).isPending = false := by simp [Kernel.status, hs, ht, Status.isPending]
    refine ⟨k₁, ?_, hwakes.of_updateRemain, ?_⟩
    · simp only [OS_TickListUpdate.loop, hs, if_pos hctr, Option.bind_eq_bind]
      rw [heq, Option.bind_some]
    · rw [hstatus, hpend]
      rfl
  · have hpend : (k.status t).isPending := isPending_iff.mpr (.inr hs)
    obtain ⟨q, hq, hholds, hentries, hobj⟩ := h.pends.remove t
    obtain ⟨k₁, heq, hwakes, hstatus⟩ := (h.updateRemain t).endPend hw' hpend
      .OS_STATUS_PEND_TIMEOUT hholds hentries hobj
    refine ⟨_, ?_, hwakes.of_updateRemain, ?_⟩
    · simp only [OS_TickListUpdate.loop, hs, if_pos hctr, Option.bind_eq_bind]
      rw [show (Os.updateRemain t k).pends = k.pends from rfl, hq, Option.bind_some, heq,
        Option.bind_some]
    · rw [if_pos hpend, Kernel.endPend, hstatus]
      rfl

theorem loop_waits (h : k.Consistent) (ht : k.wheel.TickSpokePtr t ≠ none) (hrem : k.remain t ≠ 0) :
    OS_TickListUpdate.loop (n + 1) (some t) k = some (Os.updateRemain t k) := by
  have hctr : k.wheel.OSTickCtr ≠ k.wheel.TickCtrMatch t := fun e => hrem (by simp [remain, e])
  rcases h.timed ht with hs | hs <;> simp only [OS_TickListUpdate.loop, hs, if_neg hctr]

/-! ## The rest of the spoke -/

/-- The tasks of `rest` whose time is up have been woken, and nothing else has changed. -/
structure Ticked (rest : List τ) (k k' : Kernel τ σ) : Prop where
  consistent : k'.Consistent
  scheduler : k'.scheduler = k.scheduler
  ctr : k'.wheel.OSTickCtr = k.wheel.OSTickCtr
  tokens : k'.Ctr = k.Ctr
  expired : ∀ t ∈ rest, k.remain t = 0 → k'.status t = .ready ∧ k'.PendStatus t =
    if (k.status t).isPending then .OS_STATUS_PEND_TIMEOUT else k.PendStatus t
  same : ∀ t, (t ∈ rest → k.remain t ≠ 0) → Same k k' t
  waiting : ∀ s, k'.pends.list s =
    (k.pends.list s).filter fun t => decide (t ∈ rest → k.remain t ≠ 0)

omit [DecidableEq σ] in
theorem Ticked.nobody {rest : List τ} (h : k.Consistent) (hrest : ∀ t ∈ rest, k.remain t ≠ 0)
    (t : τ) : Ticked rest k (Os.updateRemain t k) where
  consistent := h.updateRemain t
  scheduler := rfl
  ctr := rfl
  tokens := rfl
  expired u hu h0 := absurd h0 (hrest u hu)
  same _ _ := ⟨rfl, rfl, rfl, .rfl, rfl, rfl, rfl, rfl⟩
  waiting _ := (List.filter_eq_self.mpr fun u _ => decide_eq_true (hrest u)).symm

omit [DecidableEq σ] in
theorem Ticked.cons {rest : List τ} {k₁ : Kernel τ σ} (h : k.Consistent) (hnot : t ∉ rest)
    (hrem : k.remain t = 0) (hwakes : Wakes t l k k₁) (hstatus : k₁.PendStatus =
      if (k.status t).isPending then update k.PendStatus t .OS_STATUS_PEND_TIMEOUT
      else k.PendStatus) (ht : Ticked rest k₁ k') : Ticked (t :: rest) k k' := by
  have hsame {u : τ} (hu : u ≠ t) := hwakes.changes.same u hu
  have hremain {u : τ} (hu : u ≠ t) := (hsame hu).remain hwakes.changes.ctr
  have hne {u : τ} (hu : u ∈ rest) : u ≠ t := fun e => hnot (e ▸ hu)
  constructor
  · exact ht.consistent
  · exact ht.scheduler.trans hwakes.changes.scheduler
  · exact ht.ctr.trans hwakes.changes.ctr
  · exact ht.tokens.trans hwakes.tokens
  · intro u hu h0
    rcases List.mem_cons.mp hu with rfl | hu
    · have hlast := ht.same u fun hm => absurd hm hnot
      refine ⟨(hlast.status ht.ctr).trans hwakes.status, ?_⟩
      rw [hlast.outcome, hstatus]
      split <;> simp
    · obtain ⟨hready, hout⟩ := ht.expired u hu ((hremain (hne hu)).trans h0)
      refine ⟨hready, ?_⟩
      rw [hout, (hsame (hne hu)).status hwakes.changes.ctr, (hsame (hne hu)).outcome]
  · intro u hu
    have hut : u ≠ t := fun e => hu (by simp [e]) (e ▸ hrem)
    exact (hsame hut).trans (ht.same u fun hm => hremain hut ▸ hu (List.mem_cons_of_mem t hm))
  · intro s
    have herase : k₁.pends.list s = (k.pends.list s).filter (· != t) := by
      rw [hwakes.waiting]
      exact (h.pends.links.holds s).nodup.erase_eq_filter t
    rw [ht.waiting, herase, List.filter_filter]
    refine List.filter_congr fun u _ => ?_
    by_cases hut : u = t
    · subst hut
      simp [hrem]
    · simp [hut, hremain hut]

theorem loop_eq {rest : List τ} (h : k.Consistent) (hw : k.wheel.Holds l) (hl : l i = rest)
    (hn : rest.length ≤ n) :
    ∃ k', OS_TickListUpdate.loop n rest.head? k = some k' ∧ Ticked rest k k' := by
  induction rest generalizing k l n with
  | nil =>
      refine ⟨k, by cases n <;> rfl, h, rfl, rfl, rfl, by simp, fun _ _ => ?_, by simp⟩
      exact ⟨rfl, rfl, rfl, .rfl, rfl, rfl, rfl, rfl⟩
  | cons t rest ih =>
      obtain ⟨n, rfl⟩ := Nat.exists_eq_succ_of_ne_zero (n := n) (by rintro rfl; simp at hn)
      have hspoke : k.wheel.TickSpokePtr t ≠ none := by
        rw [hw.spoke.mpr (hl ▸ List.mem_cons_self)]
        simp
      have hnext : k.wheel.TickNextPtr t = rest.head? := hw.links.next_eq (a := []) hl
      rw [List.head?_cons]
      by_cases hrem : k.remain t = 0
      · obtain ⟨k₁, heq, hwakes, hstatus⟩ := loop_expired h hw hspoke hrem n
        have hl' : (l i).erase t = rest := by rw [hl, List.erase_cons_head]
        obtain ⟨k', heq', hticked⟩ := ih hwakes.consistent hwakes.wheel hl' (by simpa using hn)
        rw [heq, hnext]
        have hnot : t ∉ rest := (List.nodup_cons.mp (hl ▸ (hw.links.holds i).nodup)).1
        exact ⟨k', heq', .cons h hnot hrem hwakes hstatus hticked⟩
      · refine ⟨_, loop_waits h hspoke hrem, .nobody h ?_ t⟩
        have hsorted := List.pairwise_cons.mp (hl ▸ hw.sorted i)
        refine List.forall_mem_cons.mpr ⟨hrem, fun u hu h0 => hrem ?_⟩
        have hle : k.remain t ≤ k.remain u := hsorted.1 u hu
        rw [h0] at hle
        exact UInt32.le_zero_iff.mp hle

/-! ## The whole function -/

omit [DecidableEq τ] [DecidableEq σ]

/-- The counter goes on. -/
def advance (k : Kernel τ σ) : Kernel τ σ :=
  { k with wheel := { k.wheel with OSTickCtr := k.wheel.OSTickCtr + 1 } }

theorem advance_remain (k : Kernel τ σ) (t : τ) : k.advance.remain t = k.remain t - 1 :=
  Wheel.remain_tick k.wheel t

theorem sub_one_eq_zero {x : UInt32} : x - 1 = 0 ↔ x = 1 := by
  rw [UInt32.sub_eq_iff_eq_add, UInt32.zero_add]

theorem Consistent.due_iff (h : k.Consistent) :
    (k.status t).due ↔ k.wheel.TickSpokePtr t ≠ none ∧ k.advance.remain t = 0 := by
  have hplaced := h.placed t
  unfold Placed at hplaced
  rw [advance_remain, sub_one_eq_zero]
  unfold Kernel.status
  cases hs : k.TaskState t with
  | OS_TASK_STATE_RDY =>
      simp only [hs] at hplaced
      simp [Status.due, hplaced.2.1]
  | OS_TASK_STATE_DLY => cases k.wheel.TickSpokePtr t <;> simp [Status.due]
  | OS_TASK_STATE_PEND =>
      simp only [hs] at hplaced
      simp [Status.due, hplaced.2.2.1]
  | OS_TASK_STATE_PEND_TIMEOUT =>
      simp only [hs] at hplaced
      simp [Status.due, hplaced.2.2.1]
  | _ => simp only [hs] at hplaced

theorem advance_status (hd : ¬ (k.status t).due) : k.advance.status t = (k.status t).tick := by
  have hstate : k.advance.TaskState t = k.TaskState t := rfl
  have hspoke : k.advance.wheel.TickSpokePtr t = k.wheel.TickSpokePtr t := rfl
  have hon : k.advance.pendsOn t = k.pendsOn t := rfl
  unfold Status.tick
  rw [if_neg hd]
  unfold Kernel.status
  rw [hstate, hspoke, hon, advance_remain]
  cases k.TaskState t with
  | OS_TASK_STATE_DLY => cases k.wheel.TickSpokePtr t <;> simp
  | _ => rfl

variable [DecidableEq τ] [DecidableEq σ]

theorem Coherent.tickListUpdate (h : k.Coherent) : ∃ k', OS_TickListUpdate k = some k' ∧
    k'.Coherent ∧ k'.scheduler = k.scheduler ∧ k'.view = k.view.tick := by
  obtain ⟨l, hw⟩ := h.wheel
  have hw₁ : k.advance.wheel.Holds l := hw.tick h.future
  have h₁ : k.advance.Consistent := ⟨h.ready, ⟨l, hw₁⟩, h.pends, h.placed, h.tokens⟩
  obtain ⟨k', heq, ht⟩ := loop_eq (i := (k.advance.wheel.OSTickCtr % OSCfg_TickWheelSize).toNat)
    h₁ hw₁ rfl (Nat.le_of_eq (hw₁.links.count _).symm)
  generalize hi : (k.advance.wheel.OSTickCtr % OSCfg_TickWheelSize).toNat = i at heq ht
  have hfirst : (k.advance.wheel.OSCfg_TickWheel i).FirstPtr = (l i).head? := hw₁.links.first i
  have hdue (t : τ) : (k.status t).due ↔ t ∈ l i ∧ k.advance.remain t = 0 := by
    rw [h.due_iff]
    refine and_congr_left fun h0 => ⟨fun hs => ?_, fun hm => by simp [hw.spoke.mpr hm]⟩
    obtain ⟨j, hj⟩ := Option.ne_none_iff_exists'.mp hs
    have hm := hw.spoke.mp hj
    have hindex := hw₁.index hm
    rw [eq_of_remain h0, hi] at hindex
    exact hindex ▸ hm
  have hsame (t : τ) (hd : ¬ (k.status t).due) : Same k.advance k' t :=
    ht.same t fun hm h0 => hd ((hdue t).mpr ⟨hm, h0⟩)
  have hwoken (t : τ) (hd : (k.status t).due) := ht.expired t ((hdue t).mp hd).1 ((hdue t).mp hd).2
  have hpending (t : τ) : (k.advance.status t).isPending = (k.status t).isPending :=
    Bool.eq_iff_iff.mpr ((isPending_iff (k := k.advance)).trans (isPending_iff (k := k)).symm)
  refine ⟨k', ?_, ⟨ht.consistent, fun t hs h0 => ?_⟩, ht.scheduler, View.ext ?_ ?_ ?_ ?_ ht.tokens⟩
  · rw [← heq, ← hfirst, ← hi]
    rfl
  · by_cases hd : (k.status t).due
    · exact absurd (ht.consistent.spoke_of_ready (hwoken t hd).1) hs
    · have hk := hsame t hd
      rw [hk.spoke] at hs
      rw [hk.remain ht.ctr] at h0
      exact hd (h.due_iff.mpr ⟨hs, h0⟩)
  · exact scheduler_prio ht.scheduler
  · funext t
    change k'.status t = (k.status t).tick
    by_cases hd : (k.status t).due
    · rw [(hwoken t hd).1, Status.tick_of_due hd]
    · rw [(hsame t hd).status ht.ctr, advance_status hd]
  · funext t
    change k'.PendStatus t = if (k.status t).due && (k.status t).isPending then _ else _
    by_cases hd : (k.status t).due
    · rw [(hwoken t hd).2, hpending, hd, Bool.true_and]
      rfl
    · rw [(hsame t hd).outcome, Bool.eq_false_iff.mpr hd]
      rfl
  · funext s
    change k'.pends.list s = (k.pends.list s).filter _
    rw [ht.waiting]
    refine List.filter_congr fun t _ => ?_
    change _ = !(k.status t).due
    by_cases hd : (k.status t).due
    · simp [hd, (hdue t).mp hd]
    · rw [Bool.eq_false_iff.mpr hd]
      exact decide_eq_true fun hm h0 => hd ((hdue t).mpr ⟨hm, h0⟩)

end Kernel

end DfuSeBootloader.Os
