import DfuSeBootloader.Linked.Basic
import DfuSeBootloader.Os.Lists

/-!
# The tick lists

A spoke of the wheel holds the tasks whose time is up at a count of the ticks that belongs to the
spoke, the earliest first. The order is that of the ticks that are left, so that it does not matter
where the counter overflows.
-/

namespace DfuSeBootloader.Os
open Linked
open Function (update)

variable {τ : Type} {w : Wheel τ} {l : Nat → List τ} {t u : τ} {i : Nat}

namespace Wheel

/-- The ticks that are left. -/
def remain (w : Wheel τ) (t : τ) : UInt32 := w.TickCtrMatch t - w.OSTickCtr

def header (OSCfg_TickWheel : Nat → OS_TICK_SPOKE τ) (l : Nat → List τ) (i : Nat) : Header τ :=
  ⟨(OSCfg_TickWheel i).FirstPtr, (l i).getLast?, (OSCfg_TickWheel i).NbrEntries⟩

/-- The pointers make up the lists `l`. -/
def Links (w : Wheel τ) (l : Nat → List τ) : Prop :=
  Lists w.TickNextPtr w.TickPrevPtr (header w.OSCfg_TickWheel l) l

structure Holds (w : Wheel τ) (l : Nat → List τ) : Prop where
  links : w.Links l
  spoke : ∀ {t i}, w.TickSpokePtr t = some i ↔ t ∈ l i
  index : ∀ {t i}, t ∈ l i → (w.TickCtrMatch t % OSCfg_TickWheelSize).toNat = i
  sorted : ∀ i, (l i).Pairwise fun t u => w.remain t ≤ w.remain u

theorem Links.count (h : w.Links l) (i : Nat) : (w.OSCfg_TickWheel i).NbrEntries = (l i).length :=
  (h.holds i).count

theorem Links.first (h : w.Links l) (i : Nat) : (w.OSCfg_TickWheel i).FirstPtr = (l i).head? :=
  (h.holds i).head

/-! ## Insertion -/

theorem header_update (c : Nat → OS_TICK_SPOKE τ) (s : OS_TICK_SPOKE τ) (k : List τ) :
    header (update c i s) (update l i k) =
      update (header c l) i ⟨s.FirstPtr, k.getLast?, s.NbrEntries⟩ := by
  funext j
  by_cases hj : j = i
  · subst hj
    simp [header]
  · simp [header, hj]

section Holding

variable [DecidableEq τ]

/-- The wheel with `t` between the lists `a` and `b` of spoke `i`. -/
def between (t : τ) (i : Nat) (a b : List τ) (rem : τ → UInt32) (w : Wheel τ) : Wheel τ :=
  { w with
    TickRemain := rem
    TickNextPtr := update (point w.TickNextPtr a.getLast? (some t)) t b.head?
    TickPrevPtr := update (point w.TickPrevPtr b.head? (some t)) t a.getLast?
    OSCfg_TickWheel := update w.OSCfg_TickWheel i
      { w.OSCfg_TickWheel i with FirstPtr := a.head?.or (some t) } }

/-- The walk ends in front of the first task that has as many ticks left, or behind the last one. -/
theorem walk_eq {n : Nat} {a b : List τ} (h : w.Links l) (hl : l i = a ++ u :: b)
    (ht : t ∉ l i) (hn : b.length < n) (ha : ∀ v ∈ a, w.remain v < w.remain t)
    (hrem : w.TickRemain t = w.remain t) : ∃ c d rem, l i = c ++ d ∧
      (∀ v ∈ c, w.remain v < w.remain t) ∧ (∀ v ∈ d.head?, w.remain t ≤ w.remain v) ∧
      OS_TickListInsert.walk t i n u w = some (w.between t i c d rem) := by
  induction n generalizing a b u w with
  | zero => omega
  | succ n ih =>
      have hut : u ≠ t := fun e => ht (by simp [hl, e])
      have hnext : w.TickNextPtr u = b.head? := h.next_eq hl
      have hprev : w.TickPrevPtr u = a.getLast? := h.prev_eq hl
      have hfirst : (w.OSCfg_TickWheel i).FirstPtr = (a ++ u :: b).head? := by rw [h.first, hl]
      have htu : update w.TickRemain u (w.TickCtrMatch u - w.OSTickCtr) t = w.remain t := by
        rw [Function.update_of_ne hut.symm, hrem]
      simp only [OS_TickListInsert.walk, Function.update_self, htu, hnext, hprev]
      generalize update w.TickRemain u (w.TickCtrMatch u - w.OSTickCtr) = rem at htu ⊢
      by_cases hlt : w.TickCtrMatch u - w.OSTickCtr < w.remain t
      · have ha' : ∀ v ∈ a ++ [u], w.remain v < w.remain t := by
          rw [List.forall_mem_append, List.forall_mem_singleton]
          exact ⟨ha, hlt⟩
        cases b with
        | nil =>
            have hkeep : (a ++ [u]).head?.or (some t) = (w.OSCfg_TickWheel i).FirstPtr := by
              rw [hfirst]
              cases a <;> rfl
            refine ⟨a ++ [u], [], rem, by simpa using hl, ha', by simp, ?_⟩
            rw [if_pos hlt, between, hkeep, Function.update_eq_self]
            simp [Function.update_comm hut]
        | cons v b =>
            have hlen : b.length < n := by simpa using hn
            simp only [if_pos hlt, List.head?_cons]
            exact ih (w := { w with TickRemain := rem }) (a := a ++ [u]) h (by simpa using hl) hlen
              ha' htu
      · refine ⟨a, u :: b, rem, hl, ha, by simpa [remain] using hlt, ?_⟩
        rw [if_neg hlt, between]
        rcases List.eq_nil_or_concat' a with rfl | ⟨a, v, rfl⟩
        · simp [Function.update_comm hut]
        · have hvt : v ≠ t := fun e => ht (by simp [hl, e])
          have hkeep : (a ++ [v]).head?.or (some t) = (w.OSCfg_TickWheel i).FirstPtr := by
            rw [hfirst]
            cases a <;> rfl
          rw [hkeep, Function.update_eq_self]
          simp [Function.update_comm hut, Function.update_comm hvt]

theorem link_eq (h : w.Links l) (hi : (w.TickCtrMatch t % OSCfg_TickWheelSize).toNat = i)
    (ht : t ∉ l i) (hrem : w.TickRemain t = w.remain t) : ∃ a b rem, l i = a ++ b ∧
      (∀ v ∈ a, w.remain v < w.remain t) ∧ (∀ v ∈ b.head?, w.remain t ≤ w.remain v) ∧
      OS_TickListInsert.link t w = some { w.between t i a b rem with
        TickSpokePtr := update w.TickSpokePtr t (some i)
        OSCfg_TickWheel := update w.OSCfg_TickWheel i
          ⟨a.head?.or (some t), (w.OSCfg_TickWheel i).NbrEntries + 1,
            max (w.OSCfg_TickWheel i).NbrEntriesMax ((w.OSCfg_TickWheel i).NbrEntries + 1)⟩ } := by
  cases hl : l i with
  | nil =>
      have hn : (w.OSCfg_TickWheel i).NbrEntries = 0 := by rw [h.count, hl]; rfl
      refine ⟨[], [], w.TickRemain, rfl, by simp, by simp, ?_⟩
      simp only [OS_TickListInsert.link, hi]
      rw [if_pos hn]
      simp [between, hn]
  | cons u b =>
      have hn : (w.OSCfg_TickWheel i).NbrEntries = b.length + 1 := by rw [h.count, hl]; rfl
      have hfirst : (w.OSCfg_TickWheel i).FirstPtr = some u := by rw [h.first, hl]; rfl
      obtain ⟨c, d, rem, hcd, hc, hd, hwalk⟩ := walk_eq (a := []) h hl ht (Nat.lt_succ_self _)
        (by simp) hrem
      refine ⟨c, d, rem, hl ▸ hcd, hc, hd, ?_⟩
      simp only [OS_TickListInsert.link, hi]
      rw [if_neg (by simp [hn]), hfirst, hn]
      simp only [hwalk]
      simp [between, hn]

theorem Holds.link (h : w.Holds l) (ht : w.TickSpokePtr t = none)
    (hrem : w.TickRemain t = w.remain t) : ∃ w' l' i, OS_TickListInsert.link t w = some w' ∧
      w'.Holds l' ∧ w'.TickSpokePtr = update w.TickSpokePtr t (some i) ∧
      w'.TickCtrMatch = w.TickCtrMatch ∧ w'.OSTickCtr = w.OSTickCtr := by
  have hnot (j : Nat) : t ∉ l j := fun hm => by simp [h.spoke.mpr hm] at ht
  obtain ⟨a, b, rem, hl, ha, hb, hlink⟩ := link_eq h.links rfl (hnot _) hrem
  generalize hi : (w.TickCtrMatch t % OSCfg_TickWheelSize).toNat = i at hl hlink
  refine ⟨_, update l i (a ++ t :: b), i, hlink, ⟨?_, fun {u j} => ?_, fun {u j} hu => ?_,
    fun j => ?_⟩, rfl, rfl, rfl⟩
  · simpa [Links, header_update, header, between, List.getLast?_cons] using h.links.insert hl hnot
  · rw [Lists.mem_insert hl, ← h.spoke]
    by_cases hu : u = t
    · subst hu
      simp [ht, eq_comm]
    · simp [hu]
  · rcases (Lists.mem_insert hl).mp hu with hu | ⟨rfl, rfl⟩
    · exact h.index hu
    · exact hi
  · by_cases hj : j = i
    · subst hj
      rw [Function.update_self]
      exact pairwise_insert UInt32.le_trans (hl ▸ h.sorted j) (fun v hv => UInt32.le_of_lt (ha v hv)) hb
    · rw [Function.update_of_ne hj]
      exact h.sorted j

/-- Only the times of `t` differ. -/
structure Others (t : τ) (w w' : Wheel τ) : Prop where
  ctr : w'.OSTickCtr = w.OSTickCtr
  spoke : ∀ u ≠ t, w'.TickSpokePtr u = w.TickSpokePtr u
  ticks : ∀ u ≠ t, w'.TickCtrMatch u = w.TickCtrMatch u

theorem Holds.setMatch (h : w.Holds l) (ht : w.TickSpokePtr t = none) (m : UInt32)
    (rem prev : τ → UInt32) :
    Holds { w with
      TickCtrMatch := update w.TickCtrMatch t m, TickRemain := rem, TickCtrPrev := prev } l := by
  have hne {u : τ} {i : Nat} (hu : u ∈ l i) : u ≠ t := fun e => by
    simp [← h.spoke, e, ht] at hu
  refine ⟨h.links, h.spoke, fun hu => ?_, fun i => (h.sorted i).imp_of_mem fun hu hv huv => ?_⟩
  · simpa only [Function.update_of_ne (hne hu)] using h.index hu
  · simpa only [remain, Function.update_of_ne (hne hu), Function.update_of_ne (hne hv)] using huv

omit [DecidableEq τ] in
theorem ne_zero_of_sub_one_lt {x y : UInt32} (h : x - 1 < y) : x ≠ 0 := by
  rintro rfl
  have hlt : (0 - 1 : UInt32).toNat < y.toNat := UInt32.lt_iff_toNat_lt.mp h
  have hmax : (0 - 1 : UInt32).toNat = 2 ^ 32 - 1 := rfl
  have := y.toNat_lt
  omega

/-- The delay begins, or the time has passed. -/
theorem Holds.insert (h : w.Holds l) (ht : w.TickSpokePtr t = none) (time : UInt32) (opt : UInt16) :
    ∃ err w' l', OS_TickListInsert t time opt w = some (err, w') ∧ w'.Holds l' ∧ Others t w w' ∧
      (err = .OS_ERR_NONE ∧ w'.TickSpokePtr t ≠ none ∧ w'.remain t ≠ 0 ∧
          (opt ≠ OS_OPT_TIME_MATCH → opt ≠ OS_OPT_TIME_PERIODIC → w'.remain t = time) ∨
        err = .OS_ERR_TIME_ZERO_DLY ∧ w'.TickSpokePtr t = none ∧
          (opt = OS_OPT_TIME_MATCH ∨ time = 0)) := by
  have hzero : (OS_TickListInsert.zero t w).Holds l ∧ Others t w (OS_TickListInsert.zero t w) ∧
      (OS_TickListInsert.zero t w).TickSpokePtr t = none := by
    have hspoke : update w.TickSpokePtr t none = w.TickSpokePtr := by
      rw [← ht, Function.update_eq_self]
    unfold OS_TickListInsert.zero
    rw [hspoke]
    exact ⟨h.setMatch ht 0 _ _, ⟨rfl, fun _ _ => rfl, fun u hu => Function.update_of_ne hu _ _⟩, ht⟩
  have hlink (m : UInt32) (prev : τ → UInt32) : ∃ w' l',
      OS_TickListInsert.link t { w with
        TickCtrMatch := update w.TickCtrMatch t m
        TickRemain := update w.TickRemain t (m - w.OSTickCtr)
        TickCtrPrev := prev } = some w' ∧ w'.Holds l' ∧ Others t w w' ∧
      w'.TickSpokePtr t ≠ none ∧ w'.remain t = m - w.OSTickCtr := by
    obtain ⟨w', l', i, heq, hw, hspoke, hmatch, hctr⟩ :=
      (h.setMatch ht m (update w.TickRemain t (m - w.OSTickCtr)) prev).link ht (by simp [remain])
    refine ⟨w', l', heq, hw, ⟨hctr, fun u hu => ?_, fun u hu => ?_⟩, ?_, ?_⟩
    · simp [hspoke, hu]
    · simp [hmatch, hu]
    · simp [hspoke]
    · simp [remain, hmatch, hctr]
  unfold OS_TickListInsert
  by_cases hmatch : opt = OS_OPT_TIME_MATCH
  · rw [if_pos hmatch]
    by_cases hpast : time - w.OSTickCtr - 1 > OS_TICK_TH_RDY
    · simp only [if_pos hpast]
      exact ⟨_, _, l, rfl, hzero.1, hzero.2.1, .inr ⟨rfl, hzero.2.2, .inl hmatch⟩⟩
    · have hne : time - w.OSTickCtr ≠ 0 := fun h0 => hpast (by rw [h0]; decide)
      obtain ⟨w', l', heq, hw, hothers, hspoke, hrem⟩ := hlink time w.TickCtrPrev
      simp only [if_neg hpast, UInt32.sub_add_cancel, heq]
      exact ⟨_, w', l', rfl, hw, hothers, .inl ⟨rfl, hspoke, hrem ▸ hne, fun hm => absurd hmatch hm⟩⟩
  · rw [if_neg hmatch]
    by_cases h0 : time > 0
    · rw [if_pos h0]
      have hne : time ≠ 0 := fun e => absurd h0 (by simp [e])
      have htime : w.OSTickCtr + time - w.OSTickCtr = time := by
        rw [UInt32.add_comm, UInt32.add_sub_cancel]
      by_cases hper : opt = OS_OPT_TIME_PERIODIC
      · have hnext : (if w.TickCtrPrev t + time - w.OSTickCtr - 1 < time then
            w.TickCtrPrev t + time else w.OSTickCtr + time) - w.OSTickCtr ≠ 0 := by
          split
          · exact ne_zero_of_sub_one_lt ‹_›
          · rwa [htime]
        simp only [if_pos hper]
        generalize (if w.TickCtrPrev t + time - w.OSTickCtr - 1 < time then
            w.TickCtrPrev t + time else w.OSTickCtr + time) = m at hnext ⊢
        obtain ⟨w', l', heq, hw, hothers, hspoke, hrem⟩ := hlink m (update w.TickCtrPrev t m)
        rw [heq]
        exact ⟨_, w', l', rfl, hw, hothers, .inl ⟨rfl, hspoke, hrem ▸ hnext,
          fun _ hp => absurd hper hp⟩⟩
      · obtain ⟨w', l', heq, hw, hothers, hspoke, hrem⟩ := hlink (w.OSTickCtr + time) w.TickCtrPrev
        rw [htime] at heq hrem
        simp only [if_neg hper, heq]
        exact ⟨_, w', l', rfl, hw, hothers, .inl ⟨rfl, hspoke, hrem ▸ hne, fun _ _ => hrem⟩⟩
    · have ht0 : time = 0 := UInt32.le_zero_iff.mp (UInt32.not_lt.mp h0)
      rw [if_neg h0]
      exact ⟨_, _, l, rfl, hzero.1, hzero.2.1, .inr ⟨rfl, hzero.2.2, .inr ht0⟩⟩

/-! ## Removal -/

theorem remove_eq {a b : List τ} (h : w.Links l) (hi : w.TickSpokePtr t = some i)
    (hl : l i = a ++ t :: b) : OS_TickListRemove t w = some { w with
      TickRemain := update w.TickRemain t 0
      TickCtrMatch := update w.TickCtrMatch t 0
      TickSpokePtr := update w.TickSpokePtr t none
      TickNextPtr := update (point w.TickNextPtr a.getLast? b.head?) t none
      TickPrevPtr := update (point w.TickPrevPtr b.head? a.getLast?) t none
      OSCfg_TickWheel := update w.OSCfg_TickWheel i { w.OSCfg_TickWheel i with
        FirstPtr := a.head?.or b.head?
        NbrEntries := (w.OSCfg_TickWheel i).NbrEntries - 1 } } := by
  have hta : t ∉ a := fun hm =>
    (List.nodup_append.mp (hl ▸ (h.holds i).nodup)).2.2 t hm t (by simp) rfl
  have hnext : w.TickNextPtr t = b.head? := h.next_eq hl
  have hprev : w.TickPrevPtr t = a.getLast? := h.prev_eq hl
  have hfirst : (w.OSCfg_TickWheel i).FirstPtr = (a ++ t :: b).head? := by rw [h.first, hl]
  simp only [OS_TickListRemove, hi, hnext, hprev]
  cases a with
  | nil =>
      have hfirst' : (w.OSCfg_TickWheel i).FirstPtr = some t := hfirst
      rw [if_pos hfirst']
      cases b <;> simp
  | cons u a =>
      have hne : (w.OSCfg_TickWheel i).FirstPtr ≠ some t := by
        rw [hfirst]
        rintro ⟨⟩
        simp at hta
      obtain ⟨v, hv⟩ : ∃ v, (u :: a).getLast? = some v :=
        ⟨_, List.getLast?_eq_some_getLast (by simp)⟩
      rw [if_neg hne, hv]
      cases b <;> simp [hfirst]

theorem Holds.remove (h : w.Holds l) (t : τ) : ∃ w', OS_TickListRemove t w = some w' ∧
    w'.Holds (fun j => (l j).erase t) ∧ Others t w w' ∧ w'.TickSpokePtr t = none := by
  cases hi : w.TickSpokePtr t with
  | none =>
      have heq : OS_TickListRemove t w = some w := by simp only [OS_TickListRemove, hi]
      have hnot (j : Nat) : t ∉ l j := fun hm => by simp [h.spoke.mpr hm] at hi
      simp only [List.erase_of_not_mem (hnot _)]
      exact ⟨w, heq, h, ⟨rfl, fun _ _ => rfl, fun _ _ => rfl⟩, hi⟩
  | some i =>
      obtain ⟨a, b, hl⟩ := List.append_of_mem (h.spoke.mp hi)
      have hmem {u : τ} {j : Nat} : u ∈ (l j).erase t ↔ u ∈ l j ∧ u ≠ t := by
        rw [(h.links.holds j).nodup.mem_erase_iff, and_comm]
      refine ⟨_, remove_eq h.links hi hl, ⟨?_, fun {u j} => ?_, fun {u j} hu => ?_, fun j => ?_⟩,
        ⟨rfl, fun u hu => ?_, fun u hu => ?_⟩, ?_⟩
      · rw [← h.links.erase_eq hl]
        simpa [Links, header_update, header] using h.links.remove hl
      · rw [hmem, ← h.spoke]
        by_cases hu : u = t
        · simp [hu]
        · simp [hu]
      · obtain ⟨hu, hne⟩ := hmem.mp hu
        simpa only [Function.update_of_ne hne] using h.index hu
      · refine ((h.sorted j).sublist List.erase_sublist).imp_of_mem fun hu hv huv => ?_
        simpa only [remain, Function.update_of_ne (hmem.mp hu).2,
          Function.update_of_ne (hmem.mp hv).2] using huv
      · exact Function.update_of_ne hu _ _
      · exact Function.update_of_ne hu _ _
      · exact Function.update_self _ _ _

end Holding

/-! ## The delayed tasks -/

/-- The lists are consistent. -/
def Sound (w : Wheel τ) : Prop := ∃ l, w.Holds l

variable [DecidableEq τ]

theorem Sound.insert (h : w.Sound) (ht : w.TickSpokePtr t = none) (time : UInt32) (opt : UInt16) :
    ∃ err w', OS_TickListInsert t time opt w = some (err, w') ∧ w'.Sound ∧ Others t w w' ∧
      (err = .OS_ERR_NONE ∧ w'.TickSpokePtr t ≠ none ∧ w'.remain t ≠ 0 ∧
          (opt ≠ OS_OPT_TIME_MATCH → opt ≠ OS_OPT_TIME_PERIODIC → w'.remain t = time) ∨
        err = .OS_ERR_TIME_ZERO_DLY ∧ w'.TickSpokePtr t = none ∧
          (opt = OS_OPT_TIME_MATCH ∨ time = 0)) := by
  obtain ⟨l, h⟩ := h
  obtain ⟨err, w', l', heq, hw', hothers, hcase⟩ := h.insert ht time opt
  exact ⟨err, w', heq, ⟨l', hw'⟩, hothers, hcase⟩

/-! ## The count of the ticks -/

omit [DecidableEq τ] in
theorem remain_tick (w : Wheel τ) (t : τ) :
    remain { w with OSTickCtr := w.OSTickCtr + 1 } t = w.remain t - 1 := by
  simp only [remain]
  grind

theorem sub_one_le_sub_one {x y : UInt32} (hx : x ≠ 0) (h : x ≤ y) : x - 1 ≤ y - 1 := by
  have hx₁ : (1 : UInt32) ≤ x := by
    rw [UInt32.le_iff_toNat_le]
    exact Nat.pos_of_ne_zero fun h0 => hx (UInt32.toNat_inj.mp h0)
  have hy₁ := UInt32.le_trans hx₁ h
  rw [UInt32.le_iff_toNat_le, UInt32.toNat_sub_of_le _ _ hx₁, UInt32.toNat_sub_of_le _ _ hy₁]
  exact Nat.sub_le_sub_right (UInt32.le_iff_toNat_le.mp h) _

omit [DecidableEq τ] in
/-- Nobody's time is up, so that the order of the times stays when the counter goes on. -/
theorem Holds.tick (h : w.Holds l) (hrem : ∀ t, w.TickSpokePtr t ≠ none → w.remain t ≠ 0) :
    Holds { w with OSTickCtr := w.OSTickCtr + 1 } l := by
  refine ⟨h.links, h.spoke, h.index, fun i => (h.sorted i).imp_of_mem fun ht hu htu => ?_⟩
  rw [remain_tick, remain_tick]
  exact sub_one_le_sub_one (hrem _ (by simp [h.spoke.mpr ht])) htu

end Wheel

end DfuSeBootloader.Os
