import DfuSeBootloader.Os.Ticks

/-!
# Who gets a semaphore

The tasks that wait for a semaphore get it in the order of their priorities, and those of one
priority in the order in which they began to wait.
-/

namespace DfuSeBootloader.Os
open Program
open Function (update)

variable {τ σ : Type} {own : Own τ} {strict : Prop} {t u w : τ} {s : σ}
  {v v' : View τ σ} {e : Event τ σ} {c c' : System τ σ} {k : Kernel τ σ} {l : List τ}
  {vs : List (Visit (System τ σ) (Move σ))} {apps : List (App τ)}

/-! ## The queues -/

namespace View

/-- The tasks that wait for a semaphore stand in its queue, and in no other. -/
structure Queues (v : View τ σ) : Prop where
  nodup : ∀ s, (v.waiting s).Nodup
  sorted : ∀ s, (v.waiting s).Pairwise fun t u => v.Prio t ≤ v.Prio u
  pending : ∀ {t s}, t ∈ v.waiting s → ∃ timeout, v.status t = .pending (some s) timeout

theorem Queues.not_mem (h : v.Queues) (hs : ∀ timeout, v.status t ≠ .pending (some s) timeout) :
    t ∉ v.waiting s := fun hm => by
  obtain ⟨timeout, ht⟩ := h.pending hm
  exact hs timeout ht

theorem Queues.unique (h : v.Queues) {s' : σ} (ht : t ∈ v.waiting s) (ht' : t ∈ v.waiting s') :
    s = s' := by
  obtain ⟨n, hs⟩ := h.pending ht
  obtain ⟨n', hs'⟩ := h.pending ht'
  rw [hs] at hs'
  cases hs'
  rfl

end View

theorem Kernel.Coherent.queues (h : k.Coherent) : k.view.Queues := by
  refine ⟨fun s => (h.pends.links.holds s).nodup, h.pends.sorted, fun {t s} hm => ?_⟩
  have hobj := h.pends.obj.mp hm
  have hon : k.pendsOn t = some s := by simp [Kernel.pendsOn, hobj]
  rcases Kernel.isPending_iff.mp (h.pending_of_mem hm) with hs | hs
  · exact ⟨none, by simp [Kernel.view, Kernel.status, hs, hon]⟩
  · exact ⟨some (k.remain t), by simp [Kernel.view, Kernel.status, hs, hon]⟩

/-! ## The order in a queue -/

/-- Task `t` is ahead of `u`. -/
def Ahead (t u : τ) (l : List τ) : Prop := [t, u].Sublist l

theorem Ahead.filter {p : τ → Bool} (h : Ahead t u l) (ht : p t) (hu : p u) :
    Ahead t u (l.filter p) := by
  have hf := List.Sublist.filter p h
  rwa [List.filter_cons_of_pos ht, List.filter_cons_of_pos hu] at hf

theorem Ahead.tail (h : Ahead t u (w :: l)) (ht : t ≠ w) : Ahead t u l := by
  cases h with
  | cons _ h => exact h
  | cons_cons _ h => exact absurd rfl ht

theorem Ahead.mem (h : Ahead t u l) : u ∈ l := h.subset (by simp)

/-- A task goes behind those of its own priority and of higher ones. -/
theorem ahead_enqueue {Prio : τ → Nat}
    (hl : l.Pairwise fun t u => Prio t ≤ Prio u) (ht : t ∈ l) (hp : Prio t ≤ Prio u) :
    Ahead t u (Pends.enqueue Prio u l) := by
  have hm : t ∈ Pends.before Prio (Prio u) l := by
    induction l with
    | nil => cases ht
    | cons x l ih =>
        obtain ⟨hx, hl⟩ := List.pairwise_cons.mp hl
        have hxu : Prio x ≤ Prio u := by
          rcases List.mem_cons.mp ht with rfl | ht
          · exact hp
          · exact Nat.le_trans (hx t ht) hp
        rw [Pends.before, List.takeWhile_cons_of_pos (by simpa using hxu)]
        rcases List.mem_cons.mp ht with rfl | ht
        · exact List.mem_cons_self
        · exact List.mem_cons_of_mem _ (ih hl ht)
  exact (List.singleton_sublist.mpr hm).append (List.singleton_sublist.mpr List.mem_cons_self)

theorem mem_enqueue {Prio : τ → Nat} : u ∈ Pends.enqueue Prio w l ↔ u = w ∨ u ∈ l := by
  have hl : Pends.before Prio (Prio w) l ++ Pends.behind Prio (Prio w) l = l :=
    Pends.before_append_behind (Prio w) l
  conv_rhs => rw [← hl]
  simp [Pends.enqueue, or_left_comm]

theorem sublist_enqueue {Prio : τ → Nat} : l.Sublist (Pends.enqueue Prio u l) := by
  have hl : Pends.before Prio (Prio u) l ++ Pends.behind Prio (Prio u) l = l :=
    Pends.before_append_behind (Prio u) l
  conv_lhs => rw [← hl]
  exact (List.Sublist.refl _).append (List.sublist_cons_self _ _)

/-! ## One step -/

/-- Where `u` stands while `t` waits. -/
structure Keeps (t u : τ) (s : σ) (v v' : View τ σ) : Prop where
  prio : v'.Prio = v.Prio
  order : u ∈ v'.waiting s → Ahead t u (v'.waiting s)
  outcome : u ∈ v.waiting s → u ∉ v'.waiting s → v'.outcome u = .OS_STATUS_PEND_TIMEOUT

namespace View

/-- The queue of a semaphore stays as it is. -/
theorem keeps_of_eq (hprio : v'.Prio = v.Prio) (hw : v'.waiting s = v.waiting s)
    (hu : u ∈ v.waiting s → Ahead t u (v.waiting s)) : Keeps t u s v v' :=
  ⟨hprio, by rwa [hw], fun hm hn => absurd (hw ▸ hm) hn⟩

/-- A tick takes from a queue only those whose time is up. -/
theorem Queues.tick (h : v.Queues) (ht' : t ∈ v.tick.waiting s)
    (hu : u ∈ v.waiting s → Ahead t u (v.waiting s)) : Keeps t u s v v.tick := by
  refine ⟨rfl, fun hm => ?_, fun hm hn => ?_⟩
  · obtain ⟨hm, hd⟩ := List.mem_filter.mp hm
    exact (hu hm).filter (List.mem_filter.mp ht').2 hd
  · have hd : (v.status u).due = true := by
      by_contra hd
      exact hn (List.mem_filter.mpr ⟨hm, by simpa using hd⟩)
    obtain ⟨timeout, hs⟩ := h.pending hm
    have hp : (v.status u).isPending = true := by rw [hs]; rfl
    simp [View.tick, hd, hp]

variable [DecidableEq τ]

theorem wakeAll_prio {ts : List τ} : (ts.foldl (fun v t => v.wake t) v).Prio = v.Prio := by
  induction ts generalizing v with
  | nil => rfl
  | cons u ts ih => exact ih

theorem wakeAll_waiting {ts : List τ} (hts : ∀ x ∈ ts, x ∉ v.waiting s) :
    (ts.foldl (fun v t => v.wake t) v).waiting s = v.waiting s := by
  induction ts generalizing v with
  | nil => rfl
  | cons x ts ih =>
      have hx : (v.wake x).waiting s = v.waiting s :=
        List.erase_of_not_mem (hts x List.mem_cons_self)
      rw [List.foldl_cons, ih fun y hy => by rw [hx]; exact hts y (List.mem_cons_of_mem _ hy), hx]

theorem wakeAll_subset {ts : List τ} :
    (ts.foldl (fun v t => v.wake t) v).waiting s ⊆ v.waiting s := by
  induction ts generalizing v with
  | nil => exact List.Subset.refl _
  | cons x ts ih => exact List.Subset.trans ih List.erase_subset

theorem not_mem_wakeAll {ts : List τ} (hnd : (v.waiting s).Nodup) (ht : t ∈ ts) :
    t ∉ (ts.foldl (fun v t => v.wake t) v).waiting s := by
  induction ts generalizing v with
  | nil => cases ht
  | cons x ts ih =>
      rcases List.mem_cons.mp ht with rfl | ht
      · intro hm
        have hsub : t ∈ (v.wake t).waiting s := wakeAll_subset hm
        exact hnd.not_mem_erase hsub
      · exact ih (hnd.erase x) ht

variable [DecidableEq σ]

/-- A token that is given does not pass the first task of the queue. -/
theorem Queues.post (h : v.Queues) {s' : σ} {all : Bool} (ht : t ∈ v.waiting s)
    (ht' : t ∈ (v.post s' all).waiting s) (hu : u ∈ v.waiting s → Ahead t u (v.waiting s)) :
    Keeps t u s v (v.post s' all) := by
  unfold View.post at ht' ⊢
  split at ht'
  · split <;> exact keeps_of_eq rfl rfl hu
  · rename_i x xs hl
    by_cases hs : s' = s
    · subst hs
      have hnd := h.nodup s'
      rw [hl] at hu hnd ht
      obtain ⟨hx, -⟩ := List.nodup_cons.mp hnd
      cases all with
      | true => exact absurd ht' (not_mem_wakeAll (h.nodup s') ht)
      | false =>
          have hw : (v.wake x).waiting s' = xs := by
            change (v.waiting s').erase x = xs
            rw [hl, List.erase_cons_head]
          change t ∈ (v.wake x).waiting s' at ht'
          change Keeps t u s' v (v.wake x)
          rw [hw] at ht'
          have htx : t ≠ x := fun he => hx (he ▸ ht')
          refine ⟨rfl, fun hm => ?_, fun hm hn => ?_⟩
          · rw [hw] at hm ⊢
            exact (hu (List.mem_cons_of_mem _ hm)).tail htx
          · rw [hl] at hm
            rw [hw] at hn
            exact absurd ((hu hm).tail htx).mem hn
    · refine keeps_of_eq wakeAll_prio (wakeAll_waiting fun y hy hm => hs ?_) hu
      refine h.unique ?_ hm
      rw [hl]
      split at hy
      · exact hy
      · exact List.mem_singleton.mp hy ▸ List.mem_cons_self

theorem Queues.pend (h : v.Queues) {on : Option σ} {timeout : Option UInt32}
    (hr : v.status w = .ready) (ht : t ∈ v.waiting s) (hp : v.Prio t ≤ v.Prio u)
    (hu : u ∈ v.waiting s → Ahead t u (v.waiting s)) : Keeps t u s v (v.pend w on timeout) := by
  have hw : w ∉ v.waiting s := h.not_mem fun timeout hs => by simp [hr] at hs
  cases on with
  | none => exact keeps_of_eq rfl rfl hu
  | some s' =>
      by_cases hs : s' = s
      · subst hs
        have hwait : (v.pend w (some s') timeout).waiting s' =
            Pends.enqueue v.Prio w (v.waiting s') := Function.update_self _ _ _
        refine ⟨rfl, fun hm => ?_, fun hm hn => ?_⟩
        · rw [hwait] at hm ⊢
          rcases mem_enqueue.mp hm with rfl | hm
          · exact ahead_enqueue (h.sorted s') ht hp
          · exact (hu hm).trans sublist_enqueue
        · rw [hwait] at hn
          exact absurd (mem_enqueue.mpr (.inr hm)) hn
      · exact keeps_of_eq rfl (Function.update_of_ne (Ne.symm hs) _ _) hu

theorem Step.keeps (hst : Step own v e v') (h : v.Queues) (ht : t ∈ v.waiting s)
    (ht' : t ∈ v'.waiting s) (hp : v.Prio t ≤ v.Prio u)
    (hu : u ∈ v.waiting s → Ahead t u (v.waiting s)) : Keeps t u s v v' := by
  cases e with
  | silent =>
      obtain rfl : v' = v := hst
      exact keeps_of_eq rfl rfl hu
  | signal =>
      obtain rfl : v' = v.signal own.OSTickTaskTCB := hst
      unfold View.signal
      split
      · rename_i hs
        have hn : own.OSTickTaskTCB ∉ v.waiting s := h.not_mem fun timeout hs' => by simp [hs] at hs'
        exact keeps_of_eq rfl (List.erase_of_not_mem hn) hu
      · exact keeps_of_eq rfl rfl hu
  | tick =>
      obtain rfl : v' = v.tick := hst
      exact h.tick ht' hu
  | task w call op locked =>
      have hdoes : v.Does w v' := View.Performs.does hst
      cases hdoes with
      | stay => exact keeps_of_eq rfl rfl hu
      | delay n hr hn => exact keeps_of_eq rfl rfl hu
      | pend on timeout hr htime htok => exact h.pend hr ht hp hu
      | take s' h0 => exact keeps_of_eq rfl rfl hu
      | post s' all => exact h.post ht ht' hu
      | set s' n h0 => exact keeps_of_eq rfl rfl hu

end View

/-! ## Runs -/

variable [DecidableEq τ] [DecidableEq σ]

theorem System.Safe.keeps_run (h : c.Safe own False) (hrun : Run (Moves own) c vs c')
    (ht : t ∈ c.kernel.view.waiting s) (hall : ∀ x ∈ vs, t ∈ x.after.kernel.view.waiting s)
    (hp : c.kernel.view.Prio t ≤ c.kernel.view.Prio u)
    (hu : u ∈ c.kernel.view.waiting s → Ahead t u (c.kernel.view.waiting s)) :
    ∀ x ∈ vs, x.after.kernel.view.tokens s = 0 ∧
      (u ∈ x.before.kernel.view.waiting s → u ∉ x.after.kernel.view.waiting s →
        x.after.kernel.view.outcome u = .OS_STATUS_PEND_TIMEOUT) := by
  induction hrun with
  | nil => exact fun x hx => absurd hx List.not_mem_nil
  | @cons c c₁ c' m vs hm hrun ih =>
      obtain ⟨h₁, hstep⟩ := h.move hm fun hf => hf.elim
      have ht₁ : t ∈ c₁.kernel.view.waiting s := hall _ List.mem_cons_self
      have hk := hstep.keeps h.steady.coherent.queues ht ht₁ hp hu
      have hrest := ih h₁ ht₁ (fun x hx => hall x (List.mem_cons_of_mem _ hx))
        (by rw [hk.prio]; exact hp) hk.order
      have htok : c₁.kernel.view.tokens s = 0 := by
        by_contra h0
        rw [show c₁.kernel.view.waiting s = [] from h₁.steady.coherent.tokens s h0] at ht₁
        cases ht₁
      exact List.forall_mem_cons.mpr ⟨⟨htok, hk.outcome⟩, hrest⟩

/-- While a task waits for a semaphore, the semaphore has no token that another task could take, and
a task that comes later with the same priority or a lower one does not get it first: its wait can
only end by its timeout. -/
theorem semaphore_in_order (own : Own τ) (ha : own.Admits apps) (cnt : σ → UInt32) :
    ∃ c₀, boot own apps cnt = some c₀ ∧ ∀ us c, Run (Moves own) c₀ us c → ∀ vs c',
      Run (Moves own) c vs c' → ∀ s t u, t ∈ c.kernel.view.waiting s →
        u ∉ c.kernel.view.waiting s → c.kernel.ready.Prio t ≤ c.kernel.ready.Prio u →
          (∀ x ∈ vs, t ∈ x.after.kernel.view.waiting s) →
            ∀ x ∈ vs, x.after.kernel.view.tokens s = 0 ∧
              (u ∈ x.before.kernel.view.waiting s → u ∉ x.after.kernel.view.waiting s →
                x.after.kernel.view.outcome u = .OS_STATUS_PEND_TIMEOUT) := by
  obtain ⟨c₀, hboot, h₀, -⟩ := System.Safe.boot ha (fun hf : False => hf.elim) cnt
  refine ⟨c₀, hboot, fun us c hus vs c' hrun s t u ht hu hp hall => ?_⟩
  obtain ⟨h, -, -⟩ := h₀.run hus fun hf => hf.elim
  exact h.keeps_run hrun ht hall hp fun hm => absurd hm hu

/-- The task of the USB waits for a semaphore, without a timeout. -/
def aheadRun : List (Move (Fin 1)) :=
  [.PendSV, .turn, .access, .access, .PendSV, .call (.OSSemPend sem 0 0), .access, .access, .PendSV]

/-- `AppTaskStart` waits behind it, for one tick at most. -/
def behindRun : List (Move (Fin 1)) :=
  [.call (.OSSemPend sem 1 0), .access, .access, .PendSV, .SysTick, .PendSV, .access, .access, .access]

/-- The wait of `AppTaskStart` ends by its timeout, while the other task still waits. -/
theorem bootloader_semaphore_in_order : ∃ c₀ us c vs c',
    boot bootloader bootloaderApps (fun _ : Fin 1 => 0) = some c₀ ∧ Run (Moves bootloader) c₀ us c ∧
      us.map Visit.action = aheadRun ∧ Run (Moves bootloader) c vs c' ∧
      vs.map Visit.action = behindRun ∧ 3 ∈ c.kernel.view.waiting sem ∧
      ∃ v ∈ vs, v.before.kernel.view.waiting sem = [3, 2] ∧ v.after.kernel.view.waiting sem = [3] ∧
        v.after.kernel.view.outcome 2 = .OS_STATUS_PEND_TIMEOUT := by
  obtain ⟨c₀, hboot, hall⟩ := semaphore_in_order bootloader bootloader_admits (fun _ : Fin 1 => 0)
  obtain ⟨us, c, vs, c', hus, hvs, has, hbs, hwaits, hnot, hprio, hstays, hleaves⟩ :=
    exists_bootloader_run hboot aheadRun behindRun
      (fun _ c vs => 3 ∈ c.kernel.view.waiting sem ∧ 2 ∉ c.kernel.view.waiting sem ∧
        c.kernel.ready.Prio 3 ≤ c.kernel.ready.Prio 2 ∧
        (∀ x ∈ vs, 3 ∈ x.after.kernel.view.waiting sem) ∧
        ∃ v ∈ vs, v.before.kernel.view.waiting sem = [3, 2] ∧ v.after.kernel.view.waiting sem = [3])
      (by decide +kernel)
  obtain ⟨v, hv, hbefore, hafter⟩ := hleaves
  obtain ⟨-, hout⟩ := hall us c hus vs c' hvs sem 3 2 hwaits hnot hprio hstays v hv
  exact ⟨c₀, us, c, vs, c', hboot, hus, has, hvs, hbs, hwaits, v, hv, hbefore, hafter,
    hout (by simp [hbefore]) (by simp [hafter])⟩

end DfuSeBootloader.Os
