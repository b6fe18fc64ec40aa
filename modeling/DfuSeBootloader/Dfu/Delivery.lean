import DfuSeBootloader.Dfu.Lemmas.Exchange
import DfuSeBootloader.Iap.Reference

/-!
# What becomes of a block

A block that the handler acknowledges was programmed, or the next GETSTATUS says that something went
wrong: this is so exactly when the data came in full, or an error was recorded before, and no UPLOAD
has covered it up.
-/

namespace DfuSeBootloader.Dfu
open Program Memory Iap Usb

variable {ρ : Type} {P : Platform ρ} {w : List (List Event)} {d d' : Device ρ} {t : ControlTransfer}
  {vs : List (Round ρ)}

/-- The DFU request of an exchange. -/
def Exchange.dfuRequest : Exchange → Option DFU_REQ
  | .request t _ => Dfu.dfuRequest t.toUSB_Request_Header_t
  | .between _ => none

/-! ## Blocks -/

/-- The block of `t` was programmed at the address held before the request. -/
def Programmed (t : ControlTransfer) (d d' : Device ρ) : Prop :=
  ∃ block : Nat → UInt8, (∀ i < 512, block i = padded 0 t.data i) ∧
    (session d').flashCalls = (session d).flashCalls ++ [.iap_write d.CurrentAddr block true]

/-- The packets of the data stage came in time. -/
def Delivered (t : ControlTransfer) (w : List (List Event)) : Prop :=
  delivers (chunks 64 t.data).length w = true

/-- The ROM accepts both commands of the write. -/
def WriteSucceeds (P : Platform ρ) (t : ControlTransfer) (d : Device ρ) : Prop :=
  (iap_write P d.CurrentAddr DFU_TRANSFER_SIZE (blockOf t d) d.rom).1 = true

theorem blockOf_eq {i : Nat} (hi : i < 512) : blockOf t d i = padded 0 t.data i := by
  rw [blockOf, fill_of_mem (by omega), Nat.sub_zero]

theorem not_programmed_of_eq (h : session d' = session d) : ¬ Programmed t d d' := by
  rintro ⟨block, -, hcalls⟩
  simp [h] at hcalls

theorem programmed_iff (h : session d' = (session d).programBlock P (blockOf t d)) :
    Programmed t d d' ↔ WriteSucceeds P t d := by
  have hcalls : (session d').flashCalls = (session d).flashCalls ++ [.iap_write d.CurrentAddr
      (blockOf t d) (iap_write P d.CurrentAddr DFU_TRANSFER_SIZE (blockOf t d) d.rom).1] := by
    rw [h]
    rfl
  constructor
  · rintro ⟨block, -, hblock⟩
    rw [hcalls, List.append_cancel_left_eq] at hblock
    simp only [List.cons.injEq, Call.iap_write.injEq] at hblock
    exact hblock.1.2.2
  · intro hok
    refine ⟨blockOf t d, fun i hi => blockOf_eq hi, ?_⟩
    rw [hcalls, show (iap_write P d.CurrentAddr DFU_TRANSFER_SIZE (blockOf t d) d.rom).1 = true from hok]

/-! ## The status up to the next GETSTATUS -/

theorem Session.Step.status {q : Option DFU_REQ} {wValue : Nat} {s s' : Session ρ}
    (h : Session.Step P q wValue s s') (hu : q ≠ some .UPLOAD) (hd : q ≠ some .DNLOAD)
    (hc : q ≠ some .CLRSTATUS) : s'.status = s.status := by
  cases h <;> first | rfl | exact absurd rfl hu | exact absurd rfl hd | exact absurd rfl hc

theorem Exchanges.status {x : Exchange} (hx : Exchanges P d x d') (h : Idle d) (ho : x.Orderly)
    (hd : x.dfuRequest ≠ some .DNLOAD) (hc : x.dfuRequest ≠ some .CLRSTATUS) :
    d'.DFU_Status = if x.dfuRequest = some .UPLOAD then .OK else d.DFU_Status := by
  cases x with
  | between ev =>
      obtain rfl : interrupt ev d = d' := Option.some.inj hx
      rfl
  | request t w =>
      split
      · rename_i hq
        obtain ⟨-, -, rfl⟩ := of_exchange_upload h hq ho.2.1 hx
        rfl
      · rename_i hq
        exact (step_exchange h.attached hx).status hq hd hc

/-- Behind an UPLOAD the status is `OK`; without one it stays. -/
theorem status_of_run (hrun : Run (Exchanges P) d vs d') (hidle : Idle d)
    (horderly : ∀ v ∈ vs, v.action.Orderly) (hd : ∀ v ∈ vs, v.action.dfuRequest ≠ some .DNLOAD)
    (hc : ∀ v ∈ vs, v.action.dfuRequest ≠ some .CLRSTATUS) :
    d'.DFU_Status = if ∃ v ∈ vs, v.action.dfuRequest = some .UPLOAD then .OK else d.DFU_Status := by
  induction hrun with
  | nil => simp
  | @cons d d₁ d₂ x vs hx hrun ih =>
      have hfirst := Exchanges.status hx hidle (horderly _ List.mem_cons_self)
        (hd _ List.mem_cons_self) (hc _ List.mem_cons_self)
      have hrest := ih ((horderly _ List.mem_cons_self).idle hidle hx)
        (fun v hv => horderly v (List.mem_cons_of_mem _ hv))
        (fun v hv => hd v (List.mem_cons_of_mem _ hv)) (fun v hv => hc v (List.mem_cons_of_mem _ hv))
      rw [hrest, hfirst]
      by_cases hu : x.dfuRequest = some .UPLOAD <;> simp [hu]

/-! ## One block -/

/-- What a block leaves: the write and its status where the data came in full, nothing otherwise. -/
theorem block_outcome (h : Idle d) (ht : Download t w) (hblock : 2 ≤ t.wValue.toNat)
    (hne : t.data ≠ []) (hx : exchange P (.request t w) d = some d') :
    (Programmed t d d' ↔ Delivered t w ∧ WriteSucceeds P t d) ∧
      (Delivered t w → ¬ WriteSucceeds P t d → d'.DFU_Status = .errWRITE) ∧
      (¬ Delivered t w → d'.DFU_Status = d.DFU_Status) := by
  have hend : ¬ EndsDownload t.data.length d :=
    fun h => hne (List.length_eq_zero_iff.mp h.2)
  have hcases := of_exchange_block h ht hblock hend hx
  split at hcases
  · rename_i hdel
    obtain ⟨d₁, hd₁, -, hs⟩ := exchange_block (P := P) h ht hblock hend hcases hdel
    obtain rfl := Option.some.inj (hx.symm.trans hd₁)
    refine ⟨(programmed_iff hs).trans (and_iff_right hdel).symm, fun _ hfail => ?_,
      fun hmissed => absurd hdel hmissed⟩
    have hstatus : d'.DFU_Status = ((session d).programBlock P (blockOf t d)).status :=
      congrArg Session.status hs
    rw [hstatus]
    exact if_neg hfail
  · rename_i hmissed
    exact ⟨⟨fun h => absurd h (not_programmed_of_eq hcases.1), fun h => absurd h.1 hmissed⟩,
      fun hdel => absurd hdel hmissed, fun _ => congrArg Session.status hcases.1⟩

/-- In a run of exchanges a block is programmed, or the GETSTATUS behind it does not report `OK`,
exactly when the write succeeds, or no UPLOAD comes in between and the data came in full or an error was
recorded before. -/
theorem programmed_or_reported_iff {us ms ws : List (Round ρ)} {v g : Round ρ}
    (hrun : Run (Exchanges P) d (us ++ v :: (ms ++ g :: ws)) d') (hidle : Idle d)
    (horderly : ∀ u ∈ us ++ v :: (ms ++ g :: ws), u.action.Orderly)
    (hv : v.action = .request t w)
    (hq : dfuRequest t.toUSB_Request_Header_t = some .DNLOAD) (hblock : 2 ≤ t.wValue.toNat)
    (hne : t.data ≠ []) (hdnload : ∀ m ∈ ms, m.action.dfuRequest ≠ some .DNLOAD)
    (hclear : ∀ m ∈ ms, m.action.dfuRequest ≠ some .CLRSTATUS)
    (hg : g.action.dfuRequest = some .GETSTATUS) :
    (Programmed t v.before v.after ∨
        ∃ status state, Reports g.before g.after status state ∧ status ≠ .OK) ↔
      (Delivered t w ∧ WriteSucceeds P t v.before) ∨
        ((Delivered t w ∨ v.before.DFU_Status ≠ .OK) ∧
          ∀ m ∈ ms, m.action.dfuRequest ≠ some .UPLOAD) := by
  obtain ⟨hidles, -⟩ := hrun.invariant (I := Idle) (fun u hu hx h => (horderly u hu).idle h hx) hidle
  have hvmem : v ∈ us ++ v :: (ms ++ g :: ws) := by simp
  have hgmem : g ∈ us ++ v :: (ms ++ g :: ws) := by simp
  obtain ⟨hvx, hvidle, hvafter⟩ := hidles v hvmem
  obtain ⟨hgx, hgidle, -⟩ := hidles g hgmem
  obtain ⟨-, hund, hdata⟩ := hv ▸ horderly v hvmem
  rw [if_pos hq] at hdata
  rw [hv] at hvx
  obtain ⟨hprogrammed, hfailed, hmissed⟩ := block_outcome hvidle ⟨hq, hdata, hund⟩ hblock hne hvx
  -- what the GETSTATUS reports is the status before it
  have hreport : (∃ status state, Reports g.before g.after status state ∧ status ≠ .OK) ↔
      g.before.DFU_Status ≠ .OK := by
    have hreports : Reports g.before g.after g.before.DFU_Status g.before.DFU_State := by
      cases hga : g.action with
      | between ev => rw [hga] at hg; cases hg
      | request t' w' =>
          rw [hga] at hg hgx
          exact exchange_reports hgidle.attached hg hgx
    exact ⟨fun ⟨_, _, h, hs⟩ => h.status_eq hreports ▸ hs, fun h => ⟨_, _, hreports, h⟩⟩
  -- and this is what the block has left, unless an UPLOAD came
  have hstatus := status_of_run hrun.split_cons.2.2.split_cons.1 hvafter
    (fun m hm => horderly m (by simp [hm])) hdnload hclear
  rw [hreport, hprogrammed, hstatus]
  by_cases hu : ∃ m ∈ ms, m.action.dfuRequest = some .UPLOAD
  · simp only [hu, if_true, ne_eq, not_true_eq_false, or_false]
    obtain ⟨m, hm, hup⟩ := hu
    exact ⟨.inl, fun h => h.resolve_right fun hno => hno.2 m hm hup⟩
  · have hno : ∀ m ∈ ms, m.action.dfuRequest ≠ some .UPLOAD := fun m hm h => hu ⟨m, hm, h⟩
    rw [if_neg hu, and_iff_left hno]
    by_cases hdel : Delivered t w
    · by_cases hok : WriteSucceeds P t v.before
      · simp [hdel, hok]
      · simp [hdel, hok, hfailed hdel hok]
    · simp [hdel, hmissed hdel]

/-- The call has written to the flash. -/
def wroteFlash : Call → Bool
  | .iap_write _ _ result => result
  | _ => false

/-- A block behind the end of the flash, and a GETSTATUS. -/
def refusedBlock : List Exchange :=
  [.request (DFU_REQ.DNLOAD.transfer 0 5 (commandData 0x21 0x80000)) [[.out fun _ => 0]],
    .request (DFU_REQ.DNLOAD.transfer 2 3 [1, 2, 3]) [[.out fun _ => 0]],
    .request (DFU_REQ.GETSTATUS.transfer 0 6 []) []]

/-- The write fails, and the host is told. -/
theorem refusedBlock_reported : ∃ (u v g : Round Rom) (d' : Device Rom),
    Run (Exchanges reference) (Device.start Rom.blank) [u, v, g] d' ∧
      [u, v, g].map Visit.action = refusedBlock ∧
      ∃ status state, Reports g.before g.after status state ∧ status ≠ .OK := by
  obtain ⟨vs, d', hrun, has, horderly, hcalls⟩ := exists_run (exchange reference) refusedBlock
    (Device.start Rom.blank) (fun vs _ => (∀ v ∈ vs, v.action.Orderly) ∧
      ∀ v ∈ vs, ∀ c ∈ v.after.calls, wroteFlash c = false) (by decide +kernel)
  obtain ⟨u, vs, rfl, hu, has'⟩ := List.map_eq_cons_iff.mp has
  obtain ⟨v, vs, rfl, hv, has'⟩ := List.map_eq_cons_iff.mp has'
  obtain ⟨g, vs, rfl, hg, has'⟩ := List.map_eq_cons_iff.mp has'
  obtain rfl := List.map_eq_nil_iff.mp has'
  refine ⟨u, v, g, d', hrun, has, ?_⟩
  have hsplit : Run (Exchanges reference) (Device.start Rom.blank) ([u] ++ v :: ([] ++ g :: [])) d' :=
    hrun
  have hiff := programmed_or_reported_iff hsplit (idle_start _) horderly hv (by decide) (by decide)
    (by decide) (by simp) (by simp) (by rw [hg]; decide)
  have hdelivered : Delivered (DFU_REQ.DNLOAD.transfer 2 3 [1, 2, 3]) [[.out fun _ => 0]] := by
    unfold Delivered
    decide
  refine (hiff.mpr (.inr ⟨.inl hdelivered, by simp⟩)).resolve_left ?_
  rintro ⟨block, -, hwrite⟩
  have hmem : Call.iap_write v.before.CurrentAddr block true ∈ (session v.after).flashCalls := by
    rw [hwrite]
    simp
  have := hcalls v (by simp) _ (List.mem_of_mem_filter hmem)
  cases this

/-- `Endpoint_ClearStatusStage` was called. -/
def Acknowledged (d d' : Device ρ) : Bool :=
  (d'.calls.drop d.calls.length).any (· matches .statusStage)

/-- A block whose packet does not come is acknowledged and lost, and GETSTATUS reports `OK`. -/
theorem missedBlock_unreported : ∃ (v g : Round Rom) (d' : Device Rom),
    Run (Exchanges reference) (Device.start Rom.blank) [v, g] d' ∧
      v.action = .request (DFU_REQ.DNLOAD.transfer 2 3 [1, 2, 3]) [] ∧
      g.action = .request (DFU_REQ.GETSTATUS.transfer 0 6 []) [] ∧
      Acknowledged v.before v.after = true ∧
      ¬ (Programmed (DFU_REQ.DNLOAD.transfer 2 3 [1, 2, 3]) v.before v.after ∨
        ∃ status state, Reports g.before g.after status state ∧ status ≠ .OK) := by
  obtain ⟨vs, d', hrun, has, hack, hall⟩ := exists_run (exchange reference)
    [.request (DFU_REQ.DNLOAD.transfer 2 3 [1, 2, 3]) [],
      .request (DFU_REQ.GETSTATUS.transfer 0 6 []) []]
    (Device.start Rom.blank) (fun vs _ => (∀ v ∈ vs, Acknowledged v.before v.after = true) ∧
      ∀ v ∈ vs, (session v.after).flashCalls.length = 0 ∧ v.before.DFU_Status = .OK ∧
        v.before.USB_DeviceState ≠ .DEVICE_STATE_Unattached) (by decide +kernel)
  obtain ⟨v, vs, rfl, hv, has⟩ := List.map_eq_cons_iff.mp has
  obtain ⟨g, vs, rfl, hg, has⟩ := List.map_eq_cons_iff.mp has
  obtain rfl := List.map_eq_nil_iff.mp has
  refine ⟨v, g, d', hrun, hv, hg, hack v (by simp), ?_⟩
  rintro (⟨block, -, hwrite⟩ | ⟨status, state, hreports, hne⟩)
  · have hlen := (hall v (by simp)).1
    rw [hwrite] at hlen
    simp at hlen
  · obtain ⟨-, hok, hatt⟩ := hall g (by simp)
    have hgx := hrun.step_of_mem (v := g) (by simp)
    rw [hg] at hgx
    have htrue := exchange_reports hatt (by decide) hgx
    exact hne ((hreports.status_eq htrue).trans hok)

end DfuSeBootloader.Dfu
