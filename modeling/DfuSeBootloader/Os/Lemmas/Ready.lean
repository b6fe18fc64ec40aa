import DfuSeBootloader.Bitmap.Basic
import DfuSeBootloader.Linked.Basic
import DfuSeBootloader.Os.Lists

/-!
# The ready lists

The tasks of each priority that are ready, in the order of `OSRdyList`, and the priority table, which
says at which priorities there are any.
-/

namespace DfuSeBootloader.Os
open Linked
open Function (update)

variable {τ : Type} {r : Ready τ} {l : Nat → List τ} {t u : τ} {p q : Nat}

def OS_RDY_LIST.header (x : OS_RDY_LIST τ) : Header τ := ⟨x.HeadPtr, x.TailPtr, x.NbrEntries⟩

namespace Ready

/-- The pointers make up the lists `l`. -/
def Links (r : Ready τ) (l : Nat → List τ) : Prop :=
  Lists r.NextPtr r.PrevPtr (OS_RDY_LIST.header ∘ r.OSRdyList) l

structure Holds (r : Ready τ) (l : Nat → List τ) : Prop where
  links : r.Links l
  prio : ∀ {p t}, t ∈ l p → r.Prio t = p
  bound : ∀ {p t}, t ∈ l p → p < OS_CFG_PRIO_MAX
  bits : ∀ p, Bitmap.Mem r.OSPrioTbl p ↔ ∃ t, t ∈ l p

theorem Links.count (h : r.Links l) (p : Nat) : (r.OSRdyList p).NbrEntries = (l p).length :=
  (h.holds p).count

theorem Links.head (h : r.Links l) (p : Nat) : (r.OSRdyList p).HeadPtr = (l p).head? :=
  (h.holds p).head

theorem Links.tail (h : r.Links l) (p : Nat) : (r.OSRdyList p).TailPtr = (l p).getLast? :=
  (h.holds p).tail

/-! ## The highest priority -/

theorem search_eq {tbl : Nat → BitVec 32} {n ix prio k : Nat} (hk : k < n)
    (hz : ∀ m < k, tbl (ix + m) = 0) (hne : tbl (ix + k) ≠ 0) :
    OS_PrioGetHighest.search tbl n ix prio = some (prio + 32 * k + (tbl (ix + k)).clz.toNat) := by
  induction k generalizing n ix prio with
  | zero =>
      obtain ⟨n, rfl⟩ := Nat.exists_eq_succ_of_ne_zero (Nat.ne_of_gt hk)
      exact if_neg hne
  | succ k ih =>
      obtain ⟨n, rfl⟩ := Nat.exists_eq_succ_of_ne_zero (by omega : n ≠ 0)
      have h0 : tbl ix = 0 := hz 0 (by omega)
      have hix : ix + 1 + k = ix + (k + 1) := by omega
      have hrest : ∀ m < k, tbl (ix + 1 + m) = 0 := by
        intro m hm
        rw [show ix + 1 + m = ix + (m + 1) by omega]
        exact hz (m + 1) (by omega)
      rw [OS_PrioGetHighest.search, if_pos h0, ih (by omega) hrest (hix ▸ hne), hix]
      congr 1
      omega

/-- The first task of the first list that is not empty. -/
theorem Holds.highest (h : r.Holds l) (ht : t ∈ l p) :
    ∃ q u, OS_PrioGetHighest r.OSPrioTbl = some q ∧ (r.OSRdyList q).HeadPtr = some u ∧
      u ∈ l q ∧ ∀ i, ∀ v ∈ l i, q ≤ i := by
  have hlt : p < 32 * OS_PRIO_TBL_SIZE := h.bound ht
  obtain ⟨k, hk, hz, hne⟩ := Bitmap.exists_first hlt ((h.bits p).mpr ⟨t, ht⟩)
  obtain ⟨hmem, hleast⟩ := Bitmap.mem_first hz hne
  obtain ⟨u, hu⟩ := (h.bits _).mp hmem
  obtain ⟨v, vs, hl⟩ := List.exists_cons_of_ne_nil (List.ne_nil_of_mem hu)
  refine ⟨32 * k + (r.OSPrioTbl k).clz.toNat, v, ?_, ?_, hl ▸ List.mem_cons_self, fun i w hw => ?_⟩
  · have hsearch : OS_PrioGetHighest r.OSPrioTbl =
        some (0 + 32 * k + (r.OSPrioTbl (0 + k)).clz.toNat) :=
      search_eq hk (by simpa using hz) (by simpa using hne)
    simpa using hsearch
  · rw [h.links.head, hl]
    rfl
  · exact Nat.le_of_not_lt fun hi => hleast i hi ((h.bits i).mpr ⟨w, hw⟩)

section Holding

variable [DecidableEq τ]

/-! ## The list of one priority -/

theorem insertHead (h : r.Links l) (ht : ∀ p, t ∉ l p) :
    ∃ r', OS_RdyListInsertHead t r = some r' ∧ r'.Prio = r.Prio ∧ r'.OSPrioTbl = r.OSPrioTbl ∧
      r'.Links (update l (r.Prio t) (t :: l (r.Prio t))) := by
  have hins := h.insert (i := r.Prio t) (a := []) (List.nil_append _).symm ht
  rw [Function.comp_apply] at hins
  unfold OS_RdyListInsertHead
  cases hl : l (r.Prio t) with
  | nil =>
      have hn : (r.OSRdyList (r.Prio t)).NbrEntries = 0 := by rw [h.count, hl]; rfl
      rw [if_pos hn]
      refine ⟨_, rfl, rfl, rfl, ?_⟩
      rw [hl] at hins
      simpa [Links, Function.comp_update, OS_RDY_LIST.header, hn] using hins
  | cons u us =>
      have hne : u ≠ t := fun e => ht (r.Prio t) (by simp [hl, e])
      have hn : (r.OSRdyList (r.Prio t)).NbrEntries ≠ 0 := by rw [h.count, hl]; simp
      have hhead : (r.OSRdyList (r.Prio t)).HeadPtr = some u := by rw [h.head, hl]; rfl
      have htail := h.tail (r.Prio t)
      rw [if_neg hn, hhead]
      refine ⟨_, rfl, rfl, rfl, ?_⟩
      rw [hl] at hins htail
      obtain ⟨v, hv⟩ : ∃ v, (u :: us).getLast? = some v := ⟨_, List.getLast?_eq_some_getLast (by simp)⟩
      rw [hv] at hins htail
      simpa [Links, Function.comp_update, OS_RDY_LIST.header, htail,
        Function.update_comm hne.symm] using hins

theorem insertTail (h : r.Links l) (ht : ∀ p, t ∉ l p) :
    ∃ r', OS_RdyListInsertTail t r = some r' ∧ r'.Prio = r.Prio ∧ r'.OSPrioTbl = r.OSPrioTbl ∧
      r'.Links (update l (r.Prio t) (l (r.Prio t) ++ [t])) := by
  have hins := h.insert (i := r.Prio t) (b := []) (List.append_nil _).symm ht
  rw [Function.comp_apply] at hins
  unfold OS_RdyListInsertTail
  rcases List.eq_nil_or_concat' (l (r.Prio t)) with hl | ⟨us, u, hl⟩
  · have hn : (r.OSRdyList (r.Prio t)).NbrEntries = 0 := by rw [h.count, hl]; rfl
    rw [if_pos hn]
    refine ⟨_, rfl, rfl, rfl, ?_⟩
    rw [hl] at hins ⊢
    simpa [Links, Function.comp_update, OS_RDY_LIST.header, hn] using hins
  · have hne : u ≠ t := fun e => ht (r.Prio t) (by simp [hl, e])
    have hn : (r.OSRdyList (r.Prio t)).NbrEntries ≠ 0 := by rw [h.count, hl]; simp
    have htail : (r.OSRdyList (r.Prio t)).TailPtr = some u := by rw [h.tail, hl]; simp
    have hhead := h.head (r.Prio t)
    rw [if_neg hn, htail]
    refine ⟨_, rfl, rfl, rfl, ?_⟩
    rw [hl] at hins hhead ⊢
    obtain ⟨v, hv⟩ : ∃ v, (us ++ [u]).head? = some v := ⟨_, List.head?_eq_some_head (by simp)⟩
    rw [hv] at hins hhead
    simpa [Links, Function.comp_update, OS_RDY_LIST.header, hhead,
      Function.update_comm hne.symm] using hins

theorem remove_cons {a b : List τ} (h : r.Links l) (hl : l (r.Prio t) = a ++ t :: b) :
    (OS_RdyListRemove t r).Links (update l (r.Prio t) (a ++ b)) ∧
      (OS_RdyListRemove t r).Prio = r.Prio ∧
      (OS_RdyListRemove t r).OSPrioTbl =
        if a ++ b = [] then OS_PrioRemove (r.Prio t) r.OSPrioTbl else r.OSPrioTbl := by
  have hrem := h.remove hl
  have hprev := h.prev_eq hl
  have hnext := h.next_eq hl
  have hcount := h.count (r.Prio t)
  have hhead := h.head (r.Prio t)
  have htail := h.tail (r.Prio t)
  rw [Function.comp_apply] at hrem
  rw [hl] at hcount hhead htail
  unfold OS_RdyListRemove
  rw [hprev, hnext]
  cases a using List.reverseRecOn <;> cases b <;>
    simpa [Links, Function.comp_update, OS_RDY_LIST.header, hcount, hhead, htail,
      List.getLast?_cons] using hrem

/-- The head of a list goes to its end. -/
def rotate : List τ → List τ
  | [] => []
  | t :: us => us ++ [t]

theorem moveHeadToTail (h : r.Links l) :
    ∃ r', OS_RdyListMoveHeadToTail p r = some r' ∧ r'.Prio = r.Prio ∧ r'.OSPrioTbl = r.OSPrioTbl ∧
      r'.Links (update l p (rotate (l p))) := by
  have hcount := h.count p
  unfold OS_RdyListMoveHeadToTail
  rcases hl : l p with - | ⟨t, us⟩
  · rw [hl] at hcount
    simp only [hcount, List.length_nil]
    refine ⟨r, rfl, rfl, rfl, ?_⟩
    rwa [rotate, ← hl, Function.update_eq_self]
  rcases List.eq_nil_or_concat' us with rfl | ⟨us, z, rfl⟩
  · rw [hl] at hcount
    simp only [hcount, List.length_singleton]
    refine ⟨r, rfl, rfl, rfl, ?_⟩
    rwa [rotate, List.nil_append, ← hl, Function.update_eq_self]
  have htz : t ≠ z := fun e => by
    have := (List.nodup_cons.mp (hl ▸ (h.holds p).nodup)).1
    simp [e] at this
  have hnot (j : Nat) : t ∉ update l p ([] ++ (us ++ [z])) j := fun hm =>
    ((h.mem_remove (a := []) hl).mp hm).2 rfl
  have hins := (h.remove (a := []) hl).insert (i := p) (a := us ++ [z]) (b := []) (by simp) hnot
  rw [List.getLast?_concat] at hins
  have hnext : update (update (update r.NextPtr t none) z (some t)) t none =
      update (update r.NextPtr t none) z (some t) := by
    rw [Function.update_comm htz.symm, Function.update_idem]
  have hhead : (r.OSRdyList p).HeadPtr = some t := by rw [h.head, hl]; rfl
  have htail : (r.OSRdyList p).TailPtr = some z := by
    rw [h.tail, hl, ← List.cons_append, List.getLast?_concat]
  rw [hl] at hcount
  simp only [hhead, htail]
  cases us with
  | nil =>
      simp only [hcount]
      refine ⟨_, rfl, rfl, rfl, ?_⟩
      simpa [Links, Function.comp_update, OS_RDY_LIST.header, rotate, hcount, hnext,
        Function.update_comm htz] using hins
  | cons u us =>
      have hu : r.NextPtr t = some u := h.next_eq (a := []) hl
      have hlen : (r.OSRdyList p).NbrEntries = us.length + 3 := by simp [hcount]
      simp only [hlen, Option.bind_eq_bind, Option.bind_some, hu]
      refine ⟨_, rfl, rfl, rfl, ?_⟩
      simpa [Links, Function.comp_update, OS_RDY_LIST.header, rotate, hcount, hnext] using hins

/-! ## All lists -/

/-- Where `OS_RdyListInsert` puts a task. -/
def enqueue (OSPrioCur prio : Nat) (t : τ) (l : List τ) : List τ :=
  if prio = OSPrioCur then l ++ [t] else t :: l

omit [DecidableEq τ] in
theorem mem_enqueue {cur : Nat} {l : List τ} : u ∈ enqueue cur p t l ↔ u = t ∨ u ∈ l := by
  unfold enqueue
  split <;> simp [or_comm]

omit [DecidableEq τ] in
theorem Holds.not_mem (h : r.Holds l) (ht : t ∉ l (r.Prio t)) (p : Nat) : t ∉ l p :=
  fun hm => ht (h.prio hm ▸ hm)

theorem Holds.insert (h : r.Holds l) (ht : t ∉ l (r.Prio t)) (hp : r.Prio t < OS_CFG_PRIO_MAX)
    (cur : Nat) : ∃ r', OS_RdyListInsert cur t r = some r' ∧ r'.Prio = r.Prio ∧
      r'.Holds (update l (r.Prio t) (enqueue cur (r.Prio t) t (l (r.Prio t)))) := by
  have hlinks : Ready.Links { r with OSPrioTbl := OS_PrioInsert (r.Prio t) r.OSPrioTbl } l :=
    h.links
  have hins : ∃ r', OS_RdyListInsert cur t r = some r' ∧ r'.Prio = r.Prio ∧
      r'.OSPrioTbl = OS_PrioInsert (r.Prio t) r.OSPrioTbl ∧
      r'.Links (update l (r.Prio t) (enqueue cur (r.Prio t) t (l (r.Prio t)))) := by
    by_cases hc : r.Prio t = cur
    · simp only [OS_RdyListInsert, enqueue, if_pos hc]
      exact insertTail hlinks (h.not_mem ht)
    · simp only [OS_RdyListInsert, enqueue, if_neg hc]
      exact insertHead hlinks (h.not_mem ht)
  obtain ⟨r', heq, hprio, hbits, hlinks'⟩ := hins
  have hmem {p : Nat} {u : τ} : u ∈ update l (r.Prio t) (enqueue cur (r.Prio t) t (l (r.Prio t))) p ↔
      u ∈ l p ∨ u = t ∧ p = r.Prio t := by
    by_cases hq : p = r.Prio t
    · subst hq
      rw [Function.update_self, mem_enqueue]
      tauto
    · rw [Function.update_of_ne hq]
      tauto
  refine ⟨r', heq, hprio, hlinks', fun hu => ?_, fun hu => ?_, fun p => ?_⟩
  · rw [hprio]
    rcases hmem.mp hu with hu | ⟨rfl, rfl⟩
    · exact h.prio hu
    · rfl
  · rcases hmem.mp hu with hu | ⟨rfl, rfl⟩
    · exact h.bound hu
    · exact hp
  · have hset : Bitmap.Mem (OS_PrioInsert (r.Prio t) r.OSPrioTbl) p ↔
        Bitmap.Mem r.OSPrioTbl p ∨ p = r.Prio t := Bitmap.mem_set (by decide)
    simp only [hbits, hset, h.bits, hmem, exists_or, exists_eq_left]

omit [DecidableEq τ] in
/-- The lists become shorter or change their order. -/
theorem Holds.of_subset {r' : Ready τ} {l' : Nat → List τ} (h : r.Holds l) (hlinks : r'.Links l')
    (hprio : r'.Prio = r.Prio) (hmem : ∀ p, ∀ u ∈ l' p, u ∈ l p)
    (hbits : ∀ p, Bitmap.Mem r'.OSPrioTbl p ↔ ∃ t, t ∈ l' p) : r'.Holds l' := by
  refine ⟨hlinks, fun hu => ?_, fun hu => h.bound (hmem _ _ hu), hbits⟩
  rw [hprio]
  exact h.prio (hmem _ _ hu)

theorem Holds.remove (h : r.Holds l) (ht : t ∈ l (r.Prio t)) :
    (OS_RdyListRemove t r).Prio = r.Prio ∧
      (OS_RdyListRemove t r).Holds fun p => (l p).erase t := by
  obtain ⟨a, b, hl⟩ := List.append_of_mem ht
  obtain ⟨hlinks, hprio, hbits⟩ := remove_cons h.links hl
  rw [← h.links.erase_eq hl]
  refine ⟨hprio, h.of_subset hlinks hprio (fun p u hu => ((h.links.mem_remove hl).mp hu).1)
    fun p => ?_⟩
  rw [hbits]
  by_cases hab : a ++ b = []
  · have hclear : Bitmap.Mem (OS_PrioRemove (r.Prio t) r.OSPrioTbl) p ↔
        Bitmap.Mem r.OSPrioTbl p ∧ p ≠ r.Prio t := Bitmap.mem_clear (by decide)
    rw [if_pos hab, hclear, h.bits, hab]
    by_cases hq : p = r.Prio t
    · simp [hq]
    · simp [hq]
  · rw [if_neg hab, h.bits]
    by_cases hq : p = r.Prio t
    · subst hq
      rw [Function.update_self]
      exact iff_of_true ⟨t, ht⟩ (List.exists_mem_of_ne_nil _ hab)
    · rw [Function.update_of_ne hq]

omit [DecidableEq τ] in
theorem mem_rotate {l : List τ} : u ∈ rotate l ↔ u ∈ l := by
  cases l <;> simp [Ready.rotate, or_comm]

theorem Holds.moveHeadToTail (h : r.Holds l) (p : Nat) :
    ∃ r', OS_RdyListMoveHeadToTail p r = some r' ∧ r'.Prio = r.Prio ∧
      r'.Holds (update l p (rotate (l p))) := by
  obtain ⟨r', heq, hprio, hbits, hlinks⟩ := Ready.moveHeadToTail (p := p) h.links
  have hmem {q : Nat} {u : τ} : u ∈ update l p (Ready.rotate (l p)) q ↔ u ∈ l q := by
    by_cases hq : q = p
    · subst hq
      rw [Function.update_self, mem_rotate]
    · rw [Function.update_of_ne hq]
  refine ⟨r', heq, hprio, h.of_subset hlinks hprio (fun q u => hmem.mp) fun q => ?_⟩
  simp only [hbits, h.bits, hmem]

end Holding

/-! ## The ready tasks -/

/-- The tasks of priority `p` that are ready. -/
def list (r : Ready τ) (p : Nat) : List τ :=
  collect r.NextPtr (r.OSRdyList p).NbrEntries (r.OSRdyList p).HeadPtr

/-- The lists and the priority table are consistent. -/
def Sound (r : Ready τ) : Prop := r.Holds r.list

def Has (r : Ready τ) (t : τ) : Prop := t ∈ r.list (r.Prio t)

theorem Holds.list_eq (h : r.Holds l) : r.list = l := funext fun p => (h.links.holds p).collect_eq

theorem Holds.sound (h : r.Holds l) : r.Sound := by rwa [Sound, h.list_eq]

theorem Holds.has_iff (h : r.Holds l) : r.Has t ↔ t ∈ l (r.Prio t) := by rw [Has, h.list_eq]

namespace Sound

theorem bound (h : r.Sound) (ht : r.Has t) : r.Prio t < OS_CFG_PRIO_MAX := Holds.bound h ht

/-- The ready task that is the first of its priority, where no ready task has a higher one. -/
theorem highest (h : r.Sound) (ht : r.Has t) :
    ∃ u, OS_PrioGetHighest r.OSPrioTbl = some (r.Prio u) ∧
      (r.OSRdyList (r.Prio u)).HeadPtr = some u ∧ r.Has u ∧ ∀ v, r.Has v → r.Prio u ≤ r.Prio v := by
  obtain ⟨q, u, hget, hhead, hu, hleast⟩ := Holds.highest h ht
  obtain rfl := Holds.prio h hu
  exact ⟨u, hget, hhead, hu, fun v hv => hleast _ v hv⟩

variable [DecidableEq τ]

theorem insert (h : r.Sound) (ht : ¬ r.Has t) (hp : r.Prio t < OS_CFG_PRIO_MAX) (cur : Nat) :
    ∃ r', OS_RdyListInsert cur t r = some r' ∧ r'.Prio = r.Prio ∧ r'.Sound ∧
      ∀ u, r'.Has u ↔ r.Has u ∨ u = t := by
  obtain ⟨r', heq, hprio, hr'⟩ := Holds.insert h ht hp cur
  refine ⟨r', heq, hprio, hr'.sound, fun u => ?_⟩
  rw [hr'.has_iff, hprio]
  by_cases hu : r.Prio u = r.Prio t
  · rw [hu, Function.update_self, mem_enqueue, or_comm, Has, hu]
  · have hne : u ≠ t := fun e => hu (e ▸ rfl)
    rw [Function.update_of_ne hu, Has]
    simp [hne]

theorem remove (h : r.Sound) (ht : r.Has t) :
    (OS_RdyListRemove t r).Prio = r.Prio ∧ (OS_RdyListRemove t r).Sound ∧
      ∀ u, (OS_RdyListRemove t r).Has u ↔ r.Has u ∧ u ≠ t := by
  obtain ⟨hprio, hr'⟩ := Holds.remove h ht
  refine ⟨hprio, hr'.sound, fun u => ?_⟩
  rw [hr'.has_iff, hprio, (h.links.holds _).nodup.mem_erase_iff, and_comm]
  rfl

theorem moveHeadToTail (h : r.Sound) (p : Nat) :
    ∃ r', OS_RdyListMoveHeadToTail p r = some r' ∧ r'.Prio = r.Prio ∧ r'.Sound ∧
      (∀ u, r'.Has u ↔ r.Has u) ∧
      ((r.OSRdyList p).NbrEntries ≠ 0 → ∃ u, (r'.OSRdyList p).HeadPtr = some u) := by
  obtain ⟨r', heq, hprio, hr'⟩ := Holds.moveHeadToTail h p
  refine ⟨r', heq, hprio, hr'.sound, fun u => ?_, fun hn => ?_⟩
  · rw [hr'.has_iff, hprio]
    by_cases hu : r.Prio u = p
    · rw [hu, Function.update_self, mem_rotate, Has, hu]
    · rw [Function.update_of_ne hu, Has]
  · rw [hr'.links.head, Function.update_self]
    rw [h.links.count] at hn
    cases hl : r.list p with
    | nil => simp [hl] at hn
    | cons t us => exact ⟨_, List.head?_eq_some_head (by simp [Ready.rotate])⟩

end Sound

end Ready

end DfuSeBootloader.Os
