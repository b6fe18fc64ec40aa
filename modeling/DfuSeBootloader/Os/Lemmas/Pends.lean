import DfuSeBootloader.Linked.Basic
import DfuSeBootloader.Os.Lists

/-!
# The pend lists

The tasks that wait for an object stand in the order of their priorities, and those of one priority in
the order in which they came.
-/

namespace DfuSeBootloader.Os
open Linked
open Function (update)

variable {τ σ : Type} {q : Pends τ σ} {l : σ → List τ} {Prio : τ → Nat} {t u : τ} {s : σ}

def OS_PEND_LIST.header (x : OS_PEND_LIST τ) : Header τ := ⟨x.HeadPtr, x.TailPtr, x.NbrEntries⟩

namespace Pends

/-- The pointers make up the lists `l`. -/
def Links (q : Pends τ σ) (l : σ → List τ) : Prop :=
  Lists q.NextPtr q.PrevPtr (OS_PEND_LIST.header ∘ q.PendList) l

structure Holds (q : Pends τ σ) (Prio : τ → Nat) (l : σ → List τ) : Prop where
  links : q.Links l
  entries : ∀ t, q.PendDataTblEntries t = 0 ∨ ∃ s, t ∈ l s
  obj : ∀ {t s}, t ∈ l s ↔ q.PendDataTblEntries t = 1 ∧ q.PendObjPtr t = some s
  sorted : ∀ s, (l s).Pairwise fun t u => Prio t ≤ Prio u

theorem Links.count (h : q.Links l) (s : σ) : (q.PendList s).NbrEntries = (l s).length :=
  (h.holds s).count

theorem Links.head (h : q.Links l) (s : σ) : (q.PendList s).HeadPtr = (l s).head? :=
  (h.holds s).head

theorem Links.tail (h : q.Links l) (s : σ) : (q.PendList s).TailPtr = (l s).getLast? :=
  (h.holds s).tail

/-- The tasks that wait for an object. -/
def list (q : Pends τ σ) (s : σ) : List τ :=
  collect q.NextPtr (q.PendList s).NbrEntries (q.PendList s).HeadPtr

theorem Holds.list_eq (h : q.Holds Prio l) : q.list = l :=
  funext fun s => (h.links.holds s).collect_eq

theorem Holds.not_mem (h : q.Holds Prio l) (ht : q.PendDataTblEntries t = 0) (s : σ) : t ∉ l s :=
  fun hm => by simp [(h.obj.mp hm).1] at ht

/-! ## Insertion -/

/-- The tasks that stay in front of a task of priority `prio`, and the others. -/
def before (Prio : τ → Nat) (prio : Nat) (l : List τ) : List τ := l.takeWhile (Prio · ≤ prio)

def behind (Prio : τ → Nat) (prio : Nat) (l : List τ) : List τ := l.dropWhile (Prio · ≤ prio)

theorem before_append_behind (prio : Nat) (l : List τ) :
    before Prio prio l ++ behind Prio prio l = l :=
  List.takeWhile_append_dropWhile

theorem walk_eq {n prio : Nat} {a b : List τ} (h : q.Links l) (hl : l s = a ++ b)
    (hn : b.length ≤ n) :
    OS_PendListInsertPrio.walk Prio prio q n b.head? = some (behind Prio prio b).head? := by
  induction b generalizing a n with
  | nil => cases n <;> rfl
  | cons u b ih =>
      obtain ⟨n, rfl⟩ := Nat.exists_eq_succ_of_ne_zero (n := n) (by rintro rfl; simp at hn)
      rw [List.head?_cons, OS_PendListInsertPrio.walk, h.next_eq hl]
      by_cases hlt : prio < Prio u
      · rw [if_pos hlt]
        simp [behind, Nat.not_le.mpr hlt]
      · rw [if_neg hlt, ih (a := a ++ [u]) (by simpa using hl) (by simpa using hn)]
        simp [behind, Nat.not_lt.mp hlt]

variable [DecidableEq τ]

theorem Holds.erase_eq (h : q.Holds Prio l) (ht : q.PendDataTblEntries t = 0) :
    (fun s => (l s).erase t) = l :=
  funext fun s => List.erase_of_not_mem (h.not_mem ht s)

variable [DecidableEq σ]

theorem insert_eq {a b : List τ} (h : q.Links l) (ht : ∀ s, t ∉ l s) (hl : l s = a ++ b)
    (hwalk : b = behind Prio (Prio t) (l s)) :
    ∃ q', OS_PendListInsertPrio Prio s t q = some q' ∧ q'.Links (update l s (a ++ t :: b)) ∧
      q'.PendDataTblEntries = q.PendDataTblEntries ∧ q'.PendObjPtr = q.PendObjPtr := by
  have hins := h.insert hl ht
  have hcount := h.count s
  have hhead := h.head s
  have htail := h.tail s
  rw [Function.comp_apply] at hins
  unfold OS_PendListInsertPrio
  by_cases hn : (q.PendList s).NbrEntries = 0
  · have hnil : l s = [] := List.length_eq_zero_iff.mp (hcount ▸ hn)
    obtain ⟨rfl, rfl⟩ := List.append_eq_nil_iff.mp (hl ▸ hnil)
    rw [if_pos hn]
    refine ⟨_, rfl, ?_, rfl, rfl⟩
    simpa [Links, Function.comp_update, OS_PEND_LIST.header, hn] using hins
  · have hw : OS_PendListInsertPrio.walk Prio (Prio t) q (q.PendList s).NbrEntries (l s).head? =
        some (behind Prio (Prio t) (l s)).head? :=
      walk_eq (a := []) h rfl (Nat.le_of_eq hcount.symm)
    rw [← hwalk, ← hhead] at hw
    rw [if_neg hn]
    simp only [hw]
    rw [hl] at hcount hhead htail
    have hne {v : τ} (hv : v ∈ a ++ b) : v ≠ t := fun e => ht s (hl ▸ e ▸ hv)
    cases b with
    | nil =>
        obtain ⟨a, z, rfl⟩ := (List.eq_nil_or_concat' a).resolve_left fun e => hn (by simp [hcount, e])
        have hzt : z ≠ t := hne (by simp)
        rw [List.append_nil, List.getLast?_concat] at htail
        simp only [List.head?_nil, Option.bind_eq_bind, Option.bind_some, htail]
        refine ⟨_, rfl, ?_, rfl, rfl⟩
        obtain ⟨v, hv⟩ : ∃ v, (a ++ [z]).head? = some v := ⟨_, List.head?_eq_some_head (by simp)⟩
        rw [hv] at hins
        rw [List.append_nil, hv] at hhead
        simpa [Links, Function.comp_update, OS_PEND_LIST.header, hhead,
          Function.update_comm hzt.symm] using hins
    | cons u b =>
        have hut : u ≠ t := hne (by simp)
        have hprev : q.PrevPtr u = a.getLast? := h.prev_eq hl
        simp only [List.head?_cons, Option.bind_eq_bind, Option.bind_some, hprev]
        rcases List.eq_nil_or_concat' a with rfl | ⟨a, v, rfl⟩
        · refine ⟨_, rfl, ?_, rfl, rfl⟩
          simpa [Links, Function.comp_update, OS_PEND_LIST.header, htail, List.getLast?_cons] using hins
        · have hvt : v ≠ t := hne (by simp)
          rw [List.getLast?_concat]
          refine ⟨_, rfl, ?_, rfl, rfl⟩
          obtain ⟨z, hz⟩ : ∃ z, (a ++ [v]).head? = some z := ⟨_, List.head?_eq_some_head (by simp)⟩
          rw [hz] at hins
          rw [List.head?_append, hz] at hhead
          simpa [Links, Function.comp_update, OS_PEND_LIST.header, hhead, htail, List.getLast?_cons,
            Function.update_comm hut.symm, Function.update_comm hvt.symm] using hins

/-! ## Removal -/

theorem remove1_eq {a b : List τ} (h : q.Links l) (hl : l s = a ++ t :: b) :
    ∃ q', OS_PendListRemove1 s t q = some q' ∧ q'.Links (update l s (a ++ b)) ∧
      q'.PendDataTblEntries = q.PendDataTblEntries ∧ q'.PendObjPtr = q.PendObjPtr := by
  have hrem := h.remove hl
  have hnext : q.NextPtr t = b.head? := h.next_eq hl
  have hprev : q.PrevPtr t = a.getLast? := h.prev_eq hl
  have hcount := h.count s
  have hhead := h.head s
  have htail := h.tail s
  rw [Function.comp_apply] at hrem
  rw [hl] at hcount hhead htail
  simp only [OS_PendListRemove1, hnext, hprev]
  by_cases hn : (q.PendList s).NbrEntries = 1
  · obtain ⟨rfl, rfl⟩ : a = [] ∧ b = [] := by
      rw [hn] at hcount
      constructor <;> apply List.eq_nil_of_length_eq_zero <;> simp at hcount <;> omega
    rw [if_pos hn]
    refine ⟨_, rfl, ?_, rfl, rfl⟩
    simpa [Links, Function.comp_update, OS_PEND_LIST.header, hn] using hrem
  · rw [if_neg hn]
    rcases List.eq_nil_or_concat' a with rfl | ⟨a, u, rfl⟩
    · cases b with
      | nil => exact absurd hcount hn
      | cons v b =>
          refine ⟨_, rfl, ?_, rfl, rfl⟩
          simpa [Links, Function.comp_update, OS_PEND_LIST.header, htail, List.getLast?_cons] using hrem
    · rw [List.getLast?_concat]
      cases b with
      | nil =>
          refine ⟨_, rfl, ?_, rfl, rfl⟩
          simpa [Links, Function.comp_update, OS_PEND_LIST.header, hhead] using hrem
      | cons v b =>
          refine ⟨_, rfl, ?_, rfl, rfl⟩
          simpa [Links, Function.comp_update, OS_PEND_LIST.header, hhead, htail,
            List.getLast?_cons] using hrem

/-! ## All lists -/

/-- The queue of an object, with one more task. -/
def enqueue (Prio : τ → Nat) (t : τ) (l : List τ) : List τ :=
  before Prio (Prio t) l ++ t :: behind Prio (Prio t) l

theorem Holds.insert (h : q.Holds Prio l) (ht : q.PendDataTblEntries t = 0) (s : σ) :
    ∃ q', OS_PendListInsertPrio Prio s t (OS_PendDataInit t
        { q with PendObjPtr := update q.PendObjPtr t (some s) }) = some q' ∧
      q'.Holds Prio (update l s (enqueue Prio t (l s))) ∧
      q'.PendDataTblEntries = update q.PendDataTblEntries t 1 ∧
      q'.PendObjPtr = update q.PendObjPtr t (some s) := by
  have hnot := h.not_mem ht
  have hl : l s = before Prio (Prio t) (l s) ++ behind Prio (Prio t) (l s) :=
    (before_append_behind (Prio t) (l s)).symm
  obtain ⟨q', heq, hlinks, hentries, hobj⟩ := insert_eq (q := OS_PendDataInit t
    { q with PendObjPtr := update q.PendObjPtr t (some s) }) (h.links.fresh hnot none) hnot hl rfl
  simp only [OS_PendDataInit] at hentries hobj
  have hmem {u : τ} {s' : σ} : u ∈ update l s (enqueue Prio t (l s)) s' ↔
      u ∈ l s' ∨ u = t ∧ s' = s := Lists.mem_insert hl
  refine ⟨q', heq, ⟨hlinks, fun u => ?_, fun {u s'} => ?_, fun s' => ?_⟩, hentries, hobj⟩
  · rw [hentries]
    by_cases hu : u = t
    · exact .inr ⟨s, hmem.mpr (.inr ⟨hu, rfl⟩)⟩
    · rw [Function.update_of_ne hu]
      exact (h.entries u).imp_right fun ⟨s', hs'⟩ => ⟨s', hmem.mpr (.inl hs')⟩
  · rw [hmem, hentries, hobj]
    by_cases hu : u = t
    · subst hu
      simp [hnot, eq_comm]
    · simp [hu, h.obj]
  · by_cases hs : s' = s
    · subst hs
      rw [Function.update_self]
      refine pairwise_insert Nat.le_trans (hl ▸ h.sorted s') (fun v hv => ?_) fun v hv => ?_
      · simpa using List.all_eq_true.mp List.all_takeWhile v hv
      · have hnot := List.head?_dropWhile_not (fun u => decide (Prio u ≤ Prio t)) (l s')
        rw [behind, Option.mem_def] at hv
        rw [hv] at hnot
        simp at hnot
        omega
    · rw [Function.update_of_ne hs]
      exact h.sorted s'

theorem Holds.remove (h : q.Holds Prio l) (t : τ) : ∃ q', OS_PendListRemove t q = some q' ∧
    q'.Holds Prio (fun s => (l s).erase t) ∧ 
    q'.PendDataTblEntries = update q.PendDataTblEntries t 0 ∧ q'.PendObjPtr = q.PendObjPtr := by
  have hmem {u : τ} {s : σ} : u ∈ (l s).erase t ↔ u ∈ l s ∧ u ≠ t := by
    rw [(h.links.holds s).nodup.mem_erase_iff]
    exact and_comm
  have hlinks : ∃ q', OS_PendListRemove t q = some q' ∧ q'.Links (fun s => (l s).erase t) ∧
      q'.PendDataTblEntries = update q.PendDataTblEntries t 0 ∧ q'.PendObjPtr = q.PendObjPtr := by
    rcases h.entries t with h0 | ⟨s, hs⟩
    · simp only [OS_PendListRemove, h0, h.erase_eq h0]
      exact ⟨_, rfl, h.links, rfl, rfl⟩
    · obtain ⟨a, b, hl⟩ := List.append_of_mem hs
      obtain ⟨h1, hobj⟩ := h.obj.mp hs
      obtain ⟨q', heq, hlinks, hentries, hobj'⟩ := remove1_eq h.links hl
      rw [← h.links.erase_eq hl]
      simp only [OS_PendListRemove, h1, hobj, Option.bind_eq_bind, Option.bind_some, heq]
      exact ⟨_, rfl, hlinks, by rw [hentries], hobj'⟩
  obtain ⟨q', heq, hlinks, hentries, hobj⟩ := hlinks
  refine ⟨q', heq, ⟨hlinks, fun u => ?_, fun {u s} => ?_,
    fun s => (h.sorted s).sublist List.erase_sublist⟩, hentries, hobj⟩
  · rw [hentries]
    by_cases hu : u = t
    · simp [hu]
    · rw [Function.update_of_ne hu]
      exact (h.entries u).imp_right fun ⟨s, hs⟩ => ⟨s, hmem.mpr ⟨hs, hu⟩⟩
  · rw [hmem, hentries, hobj, h.obj]
    by_cases hu : u = t
    · simp [hu]
    · simp [hu]

end Pends

end DfuSeBootloader.Os
