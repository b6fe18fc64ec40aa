import DfuSeBootloader.Dfu.Delivery
import DfuSeBootloader.Dfu.Upload

/-!
# A firmware is replaced and read back

A host erases sectors, sends an image to an address in them, and reads it back. What was in the flash
before plays no part.
-/

namespace DfuSeBootloader.Dfu
open Program Memory Iap Usb
open EVENT_USB_Device_ControlRequest

variable {ρ : Type} {P : Platform ρ} {w w' : List (List Event)} {d d' : Device ρ}
  {t t' : ControlTransfer}

/-! ## What the host sends -/

/-- The command that erases the sector of an address. -/
structure ErasesSector (address : UInt32) (t : ControlTransfer) (w : List (List Event)) : Prop
    extends Download t w where
  wValue : t.wValue.toNat = 0
  data : t.data = commandData 0x41 address
  arrives : arrives (w.headD []) = true

/-- Erase commands for the addresses `as`, with any number of polls and of quiet interrupts. -/
inductive Erasures : List UInt32 → List Exchange → Prop
  | nil : Erasures [] []
  | sector {a as xs t w} : ErasesSector a t w → Erasures as xs →
      Erasures (a :: as) (.request t w :: xs)
  | getStatus {as xs t w} : dfuRequest t.toUSB_Request_Header_t = some .GETSTATUS →
      Erasures as xs → Erasures as (.request t w :: xs)
  | getState {as xs t w} : dfuRequest t.toUSB_Request_Header_t = some .GETSTATE →
      Erasures as xs → Erasures as (.request t w :: xs)
  | between {as xs ev} : ev.Quiet → Erasures as xs → Erasures as (.between ev :: xs)

/-- The blocks as they are programmed, one behind the other. -/
def image (ps : List (List UInt8)) : List UInt8 := ps.flatMap fun p => slice (padded 0 p) 0 512

/-! ## The IN side between two requests -/

theorem idleIN_closed (h : d.ep.IdleIN) : (closed d).ep.IdleIN :=
  idleIN_finish (d := d.onEp Endpoint.clearOUT) ⟨h.count, h.offset, h.short, h.ready⟩ rfl

/-- A short reply is one packet. -/
theorem idleIN_reply {l : List UInt8} (h : d.ep.IdleIN) (hi : d.ep.usb_data_buffer_index = 0)
    (hl : l.length < 64) : (reply l d).ep.IdleIN := by
  simp only [reply, wrote, Device.onEp, Endpoint.clearIN, Endpoint.WriteControlEndpoint,
    Endpoint.append, hi, Nat.zero_add, FIXED_CONTROL_ENDPOINT_SIZE, if_neg (Nat.not_le.mpr hl)]
  exact ⟨rfl, rfl, h.short, rfl⟩

theorem idleIN_readBlock {n k : Nat} {l : List UInt8} {w₁ : List (List Event)} (hl : l.length ≤ n)
    (hk : k + l.length ≤ 512) (hw : d.ep.Waiting l) (hr : l ≠ [] → d.ep.rxFull = false)
    (hund : Undisturbed w) (h : d.ep.IdleIN)
    (heval : eval interrupt (readBlock n l.length k) w d = .done true w₁ d') : d'.ep.IdleIN := by
  induction n generalizing l k w d with
  | zero =>
      cases heval
      exact h
  | succ n ih =>
      rcases eq_or_ne l [] with rfl | hne
      · cases heval
        exact h
      have hpos : 0 < l.length := List.length_pos_iff.mpr hne
      have hread := toread_eq l.length
      have hdrop := length_drop_toread l
      obtain ⟨hready, -⟩ := eval_readBlock_done hl (by omega) hw hr hund heval
      rw [chunks_of_ne_nil (n := 64) (by decide) hne, List.length_cons, delivers, eq_comm,
        Bool.and_eq_true] at hready
      have ha : (afterWait w d).ep.Arrived l := hw.arrived (hr hne) hne hund.headD hready.1
      have hset := (Endpoint.SETUPReceived_events (e := d.ep) hund.headD).trans hw.setup
      have hwait := idleIN_afterWait h hund
      rw [eval_readBlock_turn hne ha (by omega)] at heval
      exact ih (d := afterPacket k l w d) (by omega) (by omega) (ha.release hset _) (fun _ => rfl)
        hund.tail ⟨hwait.count, hwait.offset, hwait.short, hwait.ready⟩ heval

theorem idleIN_block (h : Ready d) (ht : Download t w) (hv : 2 ≤ t.wValue.toNat)
    (hpos : 1 ≤ t.data.length) (hfit : t.data.length ≤ 512)
    (hdel : delivers (chunks 64 t.data).length w = true)
    (hx : exchange P (.request t w) d = some d') : d'.ep.IdleIN := by
  have hend : ¬ EndsDownload t.data.length (begun t d) := fun hends => by have := hends.2; omega
  obtain ⟨w₁, d₁, heval, hend'⟩ :=
    switch_of_exchange h.toIdle (isClassInterface_of_dfuRequest ht.request) hx
  obtain ⟨e, he, hread⟩ := eval_readBlock_delivered (d := zeroed (begun t d)) (k := 0) (l := t.data)
    (n := t.data.length) (Nat.le_refl _) (by omega) (begun_waiting h.toIdle) (fun _ => rfl)
    ht.undisturbed hdel
  have hidle := idleIN_readBlock (d := zeroed (begun t d)) (k := 0) (l := t.data) (Nat.le_refl _)
    (by omega) (begun_waiting h.toIdle) (fun _ => rfl) ht.undisturbed (idleIN_begun h.idleIN) hread
  rw [ht.request, switch, ← ht.length, eval_dnload_block hv, eval_block hend, hread] at heval
  cases heval
  rw [hend' ?_]
  · exact idleIN_closed hidle
  · exact setup_closed.trans he.setup

/-! ## One exchange -/

theorem Ready.poll (h : Ready d) (hq : dfuRequest t.toUSB_Request_Header_t = some .GETSTATUS ∨
      dfuRequest t.toUSB_Request_Header_t = some .GETSTATE) :
    ∃ d', exchange P (.request t w) d = some d' ∧ Ready d' ∧ d'.rom = d.rom ∧
      d'.CurrentAddr = d.CurrentAddr ∧ d'.DFU_Status = d.DFU_Status := by
  obtain ⟨d', hx, hidle, hrest⟩ := exchange_poll (P := P) (w := w) h.toIdle hq
  refine ⟨d', hx, ⟨hidle, ?_⟩, hrest⟩
  have hin {l : List UInt8} (hl : l.length < 64) : (finish (reply l (begun t d))).ep.IdleIN :=
    idleIN_finish (idleIN_reply (idleIN_begun h.idleIN) rfl hl) rfl
  have hset (l : List UInt8) : (finish (reply l (begun t d))).ep.SETUPReceived = false :=
    setup_finish.trans (setup_reply l)
  obtain ⟨w₁, d₁, heval, hend⟩ := switch_of_exchange h.toIdle
    (hq.elim isClassInterface_of_dfuRequest isClassInterface_of_dfuRequest) hx
  rcases hq with hq | hq
  · rw [hq, switch, eval_getStatus rfl] at heval
    cases heval
    rw [hend (hset _)]
    exact hin (show 6 < 64 by decide)
  · rw [hq, switch, eval_getState rfl] at heval
    cases heval
    rw [hend (hset _)]
    exact hin (show 1 < 64 by decide)

theorem Ready.between {ev : Event} (h : Ready d) (hev : ev.Quiet) : Ready (interrupt ev d) where
  attached := h.attached
  out := (Quiet.interrupt hev).trans h.out
  idleIN := (h.idleIN.interrupt hev.noSetup).1

theorem Download.orderly (ht : Download t w) : (Exchange.request t w).Orderly :=
  ⟨isClassInterface_of_dfuRequest ht.request, ht.undisturbed, by rw [if_pos ht.request]; exact ht.length⟩

theorem Ready.sendsBlock {n : Nat} {p : List UInt8} (h : Ready d) (ht : SendsBlock n p t w)
    (hn : 2 ≤ n) (hpos : 1 ≤ p.length) (hfit : p.length ≤ 512)
    (hx : exchange P (.request t w) d = some d') : Ready d' where
  toIdle := ht.toDownload.orderly.idle h.toIdle hx
  idleIN := idleIN_block h ht.toDownload (by rw [ht.wValue]; exact hn) (by rw [ht.data]; exact hpos)
    (by rw [ht.data]; exact hfit) (by rw [ht.data]; exact ht.delivers) hx

theorem Ready.downloads {n : Nat} {ps : List (List UInt8)} {xs : List Exchange}
    {vs : List (Round ρ)} (h : Downloads n ps xs) (hn : 2 ≤ n)
    (hps : ∀ p ∈ ps, 1 ≤ p.length ∧ p.length ≤ 512) (hready : Ready d)
    (hrun : Run (Exchanges P) d vs d') (hxs : vs.map Visit.action = xs) : Ready d' := by
  induction h generalizing d vs with
  | nil n =>
      obtain rfl := List.map_eq_nil_iff.mp hxs
      cases hrun
      exact hready
  | @block n p ps xs t w hblock _ ih =>
      obtain ⟨d₁, ws, hst, hrun, hws⟩ := hrun.of_map_cons hxs
      obtain ⟨hpos, hfit⟩ := hps p List.mem_cons_self
      exact ih (by omega) (fun q hq => hps q (List.mem_cons_of_mem _ hq))
        (hready.sendsBlock hblock hn hpos hfit hst) hrun hws
  | @getStatus n ps xs t w hq _ ih =>
      obtain ⟨d₁, ws, hst, hrun, hws⟩ := hrun.of_map_cons hxs
      obtain ⟨d₂, hx, hready₂, -⟩ := hready.poll (P := P) (w := w) (.inl hq)
      obtain rfl := Option.some.inj (hx.symm.trans hst)
      exact ih hn hps hready₂ hrun hws
  | @getState n ps xs t w hq _ ih =>
      obtain ⟨d₁, ws, hst, hrun, hws⟩ := hrun.of_map_cons hxs
      obtain ⟨d₂, hx, hready₂, -⟩ := hready.poll (P := P) (w := w) (.inr hq)
      obtain rfl := Option.some.inj (hx.symm.trans hst)
      exact ih hn hps hready₂ hrun hws
  | @between n ps xs ev hev _ ih =>
      obtain ⟨d₁, ws, hst, hrun, hws⟩ := hrun.of_map_cons hxs
      obtain rfl := Option.some.inj hst
      exact ih hn hps (hready.between hev) hrun hws

theorem rom_of_readouts {zs : List Readout} {us : List (Visit (Device ρ) Readout)} (h : Ready d)
    (hzs : ∀ z ∈ zs, z.Collected) (hrun : Run (Readouts P) d us d')
    (hus : us.map Visit.action = zs) : d'.rom = d.rom := by
  refine (hrun.invariant (I := fun e => Ready e ∧ e.rom = d.rom) (fun v hv hst hI => ?_) ⟨h, rfl⟩).2.2
  obtain ⟨d₁, hx, hready, hrom, -⟩ :=
    hI.1.readout (P := P) (hzs v.action (hus ▸ List.mem_map_of_mem hv))
  obtain rfl := Option.some.inj (hx.symm.trans hst)
  exact ⟨hready, hrom.trans hI.2⟩

/-- Inside the flash the bytes that are read are those of the flash. -/
theorem bytes_of_flash {r : ρ} {a : UInt32} {n : Nat} (h : a.toNat + n ≤ flashEnd) :
    bytes P r a n = slice (P.flash r) a.toNat n := by
  refine slice_congr fun i hi => ?_
  have hlt : a.toNat + i < 0x80000 := by
    unfold flashEnd at h
    omega
  have haddr : (a + i.toUInt32).toNat = a.toNat + i := by
    have hi32 : i.toUInt32.toNat = i := Nat.mod_eq_of_lt (by omega)
    rw [UInt32.toNat_add, hi32]
    exact Nat.mod_eq_of_lt (by omega)
  rw [Nat.zero_add, Platform.memory, haddr, if_pos (by omega)]

/-! ## No DETACH before its time -/

theorem Session.Step.detach_eq {q : Option DFU_REQ} {wValue : Nat} {s s' : Session ρ}
    (h : Session.Step P q wValue s s') (hq : q ≠ some .DETATCH) : s'.detach = s.detach := by
  cases h <;> first | rfl | exact absurd rfl hq

theorem need_detach_exchange {x : Exchange} (h : exchange P x d = some d')
    (hq : x.dfuRequest ≠ some .DETATCH) : d'.need_detach = d.need_detach := by
  cases x with
  | between ev =>
      obtain rfl := Option.some.inj h
      rfl
  | request t w =>
      have hstep := Serial.step (P := P) (v := ⟨interrupt (.setup t) d, .task w, d'⟩) h
      refine Session.Step.detach_eq hstep fun htaken => hq ?_
      obtain ⟨-, -, hc, hcode⟩ := taken_eq_some.mp htaken
      exact (if_pos hc).trans hcode

theorem need_detach_run {vs : List (Round ρ)} (hrun : Run (Exchanges P) d vs d')
    (hq : ∀ v ∈ vs, v.action.dfuRequest ≠ some .DETATCH) (hneed : d.need_detach = false) :
    ∀ v ∈ vs, v.after.need_detach = false := by
  obtain ⟨hall, -⟩ := hrun.invariant (I := fun d => d.need_detach = false)
    (fun v hv hst h => (need_detach_exchange hst (hq v hv)).trans h) hneed
  exact fun v hv => (hall v hv).2.2

theorem Erasures.noDetach {as : List UInt32} {xs : List Exchange} (h : Erasures as xs) :
    ∀ x ∈ xs, x.dfuRequest ≠ some .DETATCH := by
  induction h with
  | nil => simp
  | sector ht _ ih => simpa [Exchange.dfuRequest, ht.request] using ih
  | getStatus hq _ ih => simpa [Exchange.dfuRequest, hq] using ih
  | getState hq _ ih => simpa [Exchange.dfuRequest, hq] using ih
  | between _ _ ih => simpa [Exchange.dfuRequest] using ih

theorem Downloads.noDetach {n : Nat} {ps : List (List UInt8)} {xs : List Exchange}
    (h : Downloads n ps xs) : ∀ x ∈ xs, x.dfuRequest ≠ some .DETATCH := by
  induction h with
  | nil n => simp
  | block ht _ ih => simpa [Exchange.dfuRequest, ht.request] using ih
  | getStatus hq _ ih => simpa [Exchange.dfuRequest, hq] using ih
  | getState hq _ ih => simpa [Exchange.dfuRequest, hq] using ih
  | between _ _ ih => simpa [Exchange.dfuRequest] using ih

/-- A DETACH changes nothing but its flag. -/
theorem exchange_detach (h : Idle d) (hq : dfuRequest t.toUSB_Request_Header_t = some .DETATCH) :
    ∃ d', exchange P (.request t w) d = some d' ∧ d'.need_detach = true ∧ d'.rom = d.rom := by
  have heval : eval interrupt (EVENT_USB_Device_ControlRequest.switch P t.wValue.toNat
      t.wLength.toNat (dfuRequest t.toUSB_Request_Header_t)) w (begun t d) =
      .done () w (finish { begun t d with need_detach := true }) := by
    rw [hq, EVENT_USB_Device_ControlRequest.switch, eval_detach]
  refine ⟨_, exchange_of_switch h (isClassInterface_of_dfuRequest hq) heval ?_, rfl, rfl⟩
  exact setup_finish.trans rfl

section Reflashes

variable {prepared : ρ → Nat → Prop} (hP : Reflashes P prepared)
include hP

theorem Ready.erasesSector {a : UInt32} (h : Ready d) (ht : ErasesSector a t w)
    (ha : a.toNat < flashEnd) :
    ∃ d', exchange P (.request t w) d = some d' ∧ Ready d' ∧
      P.flash d'.rom = erasedIn [sectorOf a.toNat] (P.flash d.rom) := by
  have hlen : t.data.length = 5 := by rw [ht.data]; rfl
  obtain ⟨d', hx, hidle, hs⟩ := exchange_command (P := P) h.toIdle ht.toDownload ht.wValue (by omega)
    (by omega) ht.arrives
  have hd' := exchange_obeyed (P := P) h.toIdle ht.toDownload ht.wValue
    (List.length_pos_iff.mp (by omega)) (by omega) ht.arrives
  have hin : d'.ep.IdleIN := by
    obtain rfl := Option.some.inj (hd'.symm.trans hx)
    exact idleIN_obeyed h.idleIN ht.undisturbed
  have hcommand : (session d).command P t.data = (session d).eraseSector P a := by
    have hcode : padded 0 (commandData 0x41 a) 0 = 0x41 := rfl
    rw [ht.data, Session.command]
    simp only [hcode, addressAt_commandData]
    rfl
  rw [hcommand] at hs
  have hrom : d'.rom = (iap_erase P a d.rom).2 := congrArg Session.rom hs
  exact ⟨d', hx, ⟨hidle, hin⟩, hrom ▸ (iap_erase_sector hP ha).2⟩

/-- Sector by sector. -/
theorem run_erasures {as : List UInt32} {xs : List Exchange} (h : Erasures as xs)
    (has : ∀ a ∈ as, a.toNat < flashEnd) (hready : Ready d) :
    ∃ vs d', Run (Exchanges P) d vs d' ∧ vs.map Visit.action = xs ∧ Ready d' ∧
      P.flash d'.rom = erasedIn (as.map fun a => sectorOf a.toNat) (P.flash d.rom) := by
  induction h generalizing d with
  | nil => exact ⟨[], d, .nil d, rfl, hready, (erasedIn_nil _).symm⟩
  | @sector a as xs t w ht _ ih =>
      obtain ⟨d₁, hx, hready₁, hflash₁⟩ := hready.erasesSector hP ht (has a List.mem_cons_self)
      obtain ⟨vs, d', hrun, hxs, hready', hflash⟩ :=
        ih (fun b hb => has b (List.mem_cons_of_mem _ hb)) hready₁
      refine ⟨_, d', .cons hx hrun, congrArg (_ :: ·) hxs, hready', ?_⟩
      rw [hflash, hflash₁, ← erasedIn_append]
      rfl
  | @getStatus as xs t w hq _ ih =>
      obtain ⟨d₁, hx, hready₁, hrom, -⟩ := hready.poll (P := P) (w := w) (.inl hq)
      obtain ⟨vs, d', hrun, hxs, hrest⟩ := ih has hready₁
      exact ⟨_, d', .cons hx hrun, congrArg (_ :: ·) hxs, hrom ▸ hrest⟩
  | @getState as xs t w hq _ ih =>
      obtain ⟨d₁, hx, hready₁, hrom, -⟩ := hready.poll (P := P) (w := w) (.inr hq)
      obtain ⟨vs, d', hrun, hxs, hrest⟩ := ih has hready₁
      exact ⟨_, d', .cons hx hrun, congrArg (_ :: ·) hxs, hrom ▸ hrest⟩
  | @between as xs ev hev _ ih =>
      have hx : exchange P (.between ev) d = some (interrupt ev d) := rfl
      obtain ⟨vs, d', hrun, hxs, hrest⟩ := ih has (hready.between hev)
      exact ⟨_, d', .cons hx hrun, congrArg (_ :: ·) hxs, hrest⟩

/-- What the flash holds behind the erases and the download. -/
theorem run_reflash {base : UInt32} {as : List UInt32} {ps : List (List UInt8)}
    {xs ys : List Exchange} (herase : Erasures as xs) (ht : SetsAddress base t w)
    (hdown : Downloads 2 ps ys) (has : ∀ a ∈ as, a.toNat < flashEnd)
    (hcover : ∀ a, base.toNat ≤ a → a < base.toNat + 512 * ps.length →
      ∃ b ∈ as, sectorOf b.toNat = sectorOf a)
    (hps : ∀ p ∈ ps, 1 ≤ p.length ∧ p.length ≤ 512) (hal : base.toNat % 512 = 0)
    (hend : base.toNat + 512 * ps.length ≤ flashEnd) (hready : Ready d) :
    ∃ vs d', Run (Exchanges P) d vs d' ∧ vs.map Visit.action = xs ++ .request t w :: ys ∧ Ready d' ∧
      P.flash d'.rom = fillBlocks 0 512
        (erasedIn (as.map fun a => sectorOf a.toNat) (P.flash d.rom)) base.toNat ps := by
  obtain ⟨us, d₁, hrun₁, hus, hready₁, hflash₁⟩ := run_erasures hP herase has hready
  obtain ⟨d₂, hx, hready₂, hrom₂, haddr₂⟩ := hready₁.obeyed (P := P) ht
  obtain ⟨d₂', hx', -, -, -, hok₂⟩ := exchange_setAddress (P := P) hready₁.toIdle ht
  obtain rfl := Option.some.inj (hx.symm.trans hx')
  have hblank : ∀ a, base.toNat ≤ a → a < base.toNat + 512 * ps.length → P.flash d₂.rom a = 0xFF := by
    intro a hlo hhi
    obtain ⟨b, hb, hsector⟩ := hcover a hlo hhi
    rw [hrom₂, hflash₁, erasedIn, if_pos (List.mem_map.mpr ⟨b, hb, hsector⟩)]
  obtain ⟨vs, d', hrun, hvs, hflash, -, -⟩ := run_downloads hP.toPrograms hdown (Nat.le_refl 2) hps
    hready₂.toIdle hok₂ (by rwa [haddr₂]) (by rwa [haddr₂]) (by rwa [haddr₂])
  refine ⟨us ++ ⟨d₁, .request t w, d₂⟩ :: vs, d', hrun₁.append (.cons hx hrun), ?_,
    hready₂.downloads hdown (Nat.le_refl 2) hps hrun hvs, ?_⟩
  · rw [List.map_append, List.map_cons, hus, hvs]
  · rw [hflash, haddr₂, hrom₂, hflash₁]

/-- The flash holds the image, the sectors that were erased are blank elsewhere, the other sectors are
as before, and the host reads back what it has sent. -/
theorem reflash {base : UInt32} {as : List UInt32} {ps : List (List UInt8)} {xs ys : List Exchange}
    {zs : List Readout} (herase : Erasures as xs) (ht : SetsAddress base t w)
    (hdown : Downloads 2 ps ys) (ht' : SetsAddress base t' w') (hzs : ∀ z ∈ zs, z.Collected)
    (htotal : total zs = 512 * ps.length) (has : ∀ a ∈ as, a.toNat < flashEnd)
    (hcover : ∀ a, base.toNat ≤ a → a < base.toNat + 512 * ps.length →
      ∃ b ∈ as, sectorOf b.toNat = sectorOf a)
    (hps : ∀ p ∈ ps, 1 ≤ p.length ∧ p.length ≤ 512) (hal : base.toNat % 512 = 0)
    (hend : base.toNat + 512 * ps.length ≤ flashEnd) (hready : Ready d) :
    ∃ vs d₁ us d₂,
      Run (Exchanges P) d vs d₁ ∧
      vs.map Visit.action = xs ++ .request t w :: (ys ++ [.request t' w']) ∧
      Run (Readouts P) d₁ us d₂ ∧ us.map Visit.action = zs ∧
      (∀ a, P.flash d₂.rom a =
        if base.toNat ≤ a ∧ a < base.toNat + 512 * ps.length then padded 0 (image ps) (a - base.toNat)
        else if ∃ b ∈ as, sectorOf b.toNat = sectorOf a then 0xFF
        else P.flash d.rom a) ∧
      ∃ packets, d₂.ep.tx = d₁.ep.tx ++ packets ∧ packets.flatten = image ps := by
  obtain ⟨vs, d₀, hrun, hvs, hready₀, hflash⟩ :=
    run_reflash hP herase ht hdown has hcover hps hal hend hready
  obtain ⟨d₁, hx, hready₁, hrom₁, haddr₁⟩ := hready₀.obeyed (P := P) ht'
  obtain ⟨us, d₂, hreads, hus, -, ⟨packets, htx, hflat⟩, -⟩ := run_readouts (P := P) hready₁ hzs
  have hrom₂ : d₂.rom = d₁.rom := rom_of_readouts hready₁ hzs hreads hus
  rw [fillBlocks_eq_fill] at hflash
  refine ⟨vs ++ [⟨d₀, .request t' w', d₁⟩], d₁, us, d₂, hrun.append (.cons hx (.nil d₁)), ?_, hreads,
    hus, fun a => ?_, packets, htx, ?_⟩
  · rw [List.map_append, hvs, List.append_assoc]
    rfl
  · rw [hrom₂, hrom₁, hflash, fill]
    simp only [erasedIn, List.mem_map]
    rfl
  · have hlen := length_flatMap_slice 0 512 ps
    rw [hflat, haddr₁, htotal, bytes_of_flash hend, hrom₁, hflash, ← hlen, slice_fill, slice_padded]
    rfl

end Reflashes

/-- A flash full of another firmware. -/
def occupiedRom : Rom := { Rom.blank with flash := fun _ => 0x77 }

/-- One sector is erased, two blocks are sent to it and read back. -/
theorem reflash_two_blocks : ∃ (d₁ d₂ : Device Rom) (vs : List (Round Rom)),
    Run (Exchanges reference) (Device.start occupiedRom) vs d₁ ∧ vs.length = 5 ∧
      d₂.rom.flash 0x1202 = 6 ∧ d₂.rom.flash 0x1203 = 0 ∧ d₂.rom.flash 0x1400 = 0xFF ∧
      d₂.rom.flash 0x2000 = 0x77 ∧
      ∃ packets, d₂.ep.tx = d₁.ep.tx ++ packets ∧ packets.flatten = image [[1, 2, 3], [4, 5, 6]] := by
  have herase : Erasures [0x1000]
      [.request (DFU_REQ.DNLOAD.transfer 0 5 (commandData 0x41 0x1000)) [[.out fun _ => 0]]] :=
    .sector ⟨⟨by decide, by decide, by decide⟩, by decide, rfl, by decide⟩ .nil
  have ht : SetsAddress 0x1000 (DFU_REQ.DNLOAD.transfer 0 5 (commandData 0x21 0x1000))
      [[.out fun _ => 0]] :=
    ⟨⟨by decide, by decide, by decide⟩, by decide, rfl, by decide⟩
  have hdown : Downloads 2 [[1, 2, 3], [4, 5, 6]]
      [.request (DFU_REQ.DNLOAD.transfer 2 3 [1, 2, 3]) [[.out fun _ => 0]],
        .request (DFU_REQ.DNLOAD.transfer 3 3 [4, 5, 6]) [[.out fun _ => 0]]] :=
    .block (sendsBlock_transfer (n := 2) (by decide) (by decide) (by decide))
      (.block (sendsBlock_transfer (n := 3) (by decide) (by decide) (by decide)) (.nil 4))
  have hzs : ∀ z ∈ List.replicate 2 (readoutOf 512 (List.replicate 8 .inComplete)), z.Collected := by
    intro z hz
    obtain rfl := List.eq_of_mem_replicate hz
    exact ⟨by decide, by decide, by decide, by decide, by decide, by decide⟩
  have hcover : ∀ a, 0x1000 ≤ a → a < 0x1000 + 512 * 2 →
      ∃ b ∈ [(0x1000 : UInt32)], sectorOf b.toNat = sectorOf a := by
    intro a hlo hhi
    refine ⟨0x1000, List.mem_singleton.mpr rfl, ?_⟩
    have hlt : a < 0x10000 := by omega
    rw [sectorOf, if_pos (by decide), sectorOf, if_pos hlt]
    change 1 = _
    omega
  obtain ⟨vs, d₁, us, d₂, hrun, hvs, -, -, hflash, hread⟩ :=
    reflash (d := Device.start occupiedRom) reference_reflashes herase ht hdown ht hzs (by decide)
      (List.forall_mem_singleton.mpr (by decide)) hcover (by decide) (by decide) (by decide)
      ⟨idle_start _, ⟨rfl, rfl, rfl, rfl⟩⟩
  refine ⟨d₁, d₂, vs, hrun, ?_, (hflash 0x1202).trans (by decide +kernel),
    (hflash 0x1203).trans (by decide +kernel), hflash 0x1400, hflash 0x2000, hread⟩
  rw [← List.length_map, hvs]
  rfl

end DfuSeBootloader.Dfu
