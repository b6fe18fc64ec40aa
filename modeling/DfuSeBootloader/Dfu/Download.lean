import DfuSeBootloader.Dfu.Lemmas.Exchange
import DfuSeBootloader.Iap.Lemmas.Flash
import DfuSeBootloader.Iap.Reference

/-!
# A download from end to end

A host sends an address and then blocks, one request for each, and polls in between as often as it
likes. The blocks are in the flash behind it, one behind the other.
-/

namespace DfuSeBootloader.Dfu
open Program Memory Iap Usb
open EVENT_USB_Device_ControlRequest

variable {ρ : Type} {P : Platform ρ} {w w' : List (List Event)} {d d' : Device ρ}
  {t : ControlTransfer}

/-! ## What the host sends -/

/-- The command that sets the address. -/
structure SetsAddress (base : UInt32) (t : ControlTransfer) (w : List (List Event)) : Prop
    extends Download t w where
  wValue : t.wValue.toNat = 0
  data : t.data = commandData 0x21 base
  arrives : arrives (w.headD []) = true

/-- Block number `n` with the payload `p`, which comes in full. -/
structure SendsBlock (n : Nat) (p : List UInt8) (t : ControlTransfer) (w : List (List Event)) : Prop
    extends Download t w where
  wValue : t.wValue.toNat = n
  data : t.data = p
  delivers : delivers (chunks 64 p).length w = true

/-- The blocks `ps` from number `n` on, with any number of polls and of quiet interrupts. -/
inductive Downloads : Nat → List (List UInt8) → List Exchange → Prop
  | nil (n : Nat) : Downloads n [] []
  | block {n p ps xs t w} : SendsBlock n p t w → Downloads (n + 1) ps xs →
      Downloads n (p :: ps) (.request t w :: xs)
  | getStatus {n ps xs t w} : dfuRequest t.toUSB_Request_Header_t = some .GETSTATUS →
      Downloads n ps xs → Downloads n ps (.request t w :: xs)
  | getState {n ps xs t w} : dfuRequest t.toUSB_Request_Header_t = some .GETSTATE →
      Downloads n ps xs → Downloads n ps (.request t w :: xs)
  | between {n ps xs ev} : ev.Quiet → Downloads n ps xs → Downloads n ps (.between ev :: xs)

/-! ## Addresses -/

theorem addressAt_commandData (code : UInt8) (a : UInt32) :
    addressAt (padded 0 (commandData code a)) = a := by
  have hbytes : addressAt (padded 0 (commandData code a)) =
      (a.toUInt8.toUInt32 <<< 0) + ((a >>> 8).toUInt8.toUInt32 <<< 8) +
        ((a >>> 16).toUInt8.toUInt32 <<< 16) + ((a >>> 24).toUInt8.toUInt32 <<< 24) := rfl
  have hlt := a.toNat_lt
  rw [hbytes, ← UInt32.toNat_inj]
  simp [UInt32.toNat_add, UInt32.toNat_shiftLeft, UInt32.toNat_shiftRight, Nat.shiftLeft_eq,
    Nat.shiftRight_eq_div_pow]
  omega

/-! ## One exchange -/

theorem exchange_poll (h : Idle d) (hq : dfuRequest t.toUSB_Request_Header_t = some .GETSTATUS ∨
      dfuRequest t.toUSB_Request_Header_t = some .GETSTATE) :
    ∃ d', exchange P (.request t w) d = some d' ∧ Idle d' ∧ d'.rom = d.rom ∧
      d'.CurrentAddr = d.CurrentAddr ∧ d'.DFU_Status = d.DFU_Status := by
  have hw := begun_waiting (t := t) h
  have hidle (l : List UInt8) : Idle (finish (reply l (begun t d))) :=
    idle_finish h.attached ((out_reply l).trans hw.out)
  have hset (l : List UInt8) : (finish (reply l (begun t d))).ep.SETUPReceived = false :=
    setup_finish.trans (setup_reply l)
  have hswitch {q : DFU_REQ} (hq : dfuRequest t.toUSB_Request_Header_t = some q) :
      eval interrupt (switch P t.wValue.toNat t.wLength.toNat
        (dfuRequest t.toUSB_Request_Header_t)) w (begun t d) =
      eval interrupt (switch P t.wValue.toNat t.wLength.toNat (some q)) w (begun t d) := by rw [hq]
  rcases hq with hq | hq
  · let l := statusReply (begun t d).DFU_Status (begun t d).DFU_State
    have hx := exchange_of_switch h (isClassInterface_of_dfuRequest hq)
      ((hswitch hq).trans (eval_getStatus rfl)) (hset l)
    exact ⟨_, hx, ⟨(hidle l).attached, (hidle l).out⟩, rfl, rfl, rfl⟩
  · have hx := exchange_of_switch h (isClassInterface_of_dfuRequest hq)
      ((hswitch hq).trans (eval_getState rfl)) (hset _)
    exact ⟨_, hx, hidle _, rfl, rfl, rfl⟩

theorem exchange_setAddress {base : UInt32} (h : Idle d) (ht : SetsAddress base t w) :
    ∃ d', exchange P (.request t w) d = some d' ∧ Idle d' ∧ d'.rom = d.rom ∧
      d'.CurrentAddr = base ∧ d'.DFU_Status = .OK := by
  have hlen : t.data.length = 5 := by rw [ht.data]; rfl
  obtain ⟨d', hx, hidle, hs⟩ := exchange_command (P := P) h ht.toDownload ht.wValue (by omega)
    (by omega) ht.arrives
  have hcommand : (session d).command P t.data =
      { session d with state := .dfuDNBUSY, status := .OK, address := base } := by
    have hcode : padded 0 (commandData 0x21 base) 0 = 0x21 := rfl
    rw [ht.data, Session.command]
    simp only [hcode, addressAt_commandData]
    rfl
  rw [hcommand] at hs
  exact ⟨d', hx, hidle, congrArg Session.rom hs, congrArg Session.address hs,
    congrArg Session.status hs⟩

section Programs

variable {prepared : ρ → Nat → Prop} (hP : Programs P prepared)
include hP

/-- A block goes to the address, and the address to the next block. -/
theorem exchange_sendsBlock {n : Nat} {p : List UInt8} (h : Idle d) (ht : SendsBlock n p t w)
    (hn : 2 ≤ n) (hpos : 1 ≤ p.length) (hfit : p.length ≤ 512)
    (hal : d.CurrentAddr.toNat % 512 = 0) (hend : d.CurrentAddr.toNat + 512 ≤ flashEnd)
    (herased : ∀ a, d.CurrentAddr.toNat ≤ a → a < d.CurrentAddr.toNat + 512 →
      P.flash d.rom a = 0xFF) :
    ∃ d', exchange P (.request t w) d = some d' ∧ Idle d' ∧
      P.flash d'.rom = fill (P.flash d.rom) d.CurrentAddr.toNat 512 (padded 0 p) ∧
      d'.CurrentAddr.toNat = d.CurrentAddr.toNat + 512 ∧ d'.DFU_Status = .OK := by
  obtain ⟨d', hx, hidle, hs⟩ := exchange_block (P := P) h ht.toDownload (by rw [ht.wValue]; exact hn)
    (fun hends => by have := hends.2; rw [ht.data] at this; omega) (by rw [ht.data]; exact hfit)
    (by rw [ht.data]; exact ht.delivers)
  obtain ⟨hok, hflash⟩ := iap_write_block (r := d.rom) (m := blockOf t d) hP hal hend herased
  refine ⟨d', hx, hidle, ?_, ?_, ?_⟩
  · have hrom : d'.rom = (iap_write P d.CurrentAddr 512 (blockOf t d) d.rom).2 :=
      congrArg Session.rom hs
    rw [hrom, hflash]
    refine fill_congr (fun i hi => ?_)
    rw [blockOf, fill_of_mem (by omega), Nat.sub_zero, ht.data]
  · have haddr : d'.CurrentAddr = d.CurrentAddr + (512 : Nat).toUInt32 := congrArg Session.address hs
    rw [haddr, UInt32.toNat_add]
    unfold flashEnd at hend
    exact Nat.mod_eq_of_lt (by change _ + 512 < _; omega)
  · have hstatus : d'.DFU_Status = if (iap_write P d.CurrentAddr 512 (blockOf t d) d.rom).1 then .OK
        else .errWRITE := congrArg Session.status hs
    rw [hstatus, if_pos hok]

/-! ## The whole download -/

/-- Block by block: what is written so far stays, and the rest is still erased. -/
theorem run_downloads {n : Nat} {ps : List (List UInt8)} {xs : List Exchange}
    (h : Downloads n ps xs) (hn : 2 ≤ n) (hps : ∀ p ∈ ps, 1 ≤ p.length ∧ p.length ≤ 512)
    (hidle : Idle d) (hok : d.DFU_Status = .OK) (hal : d.CurrentAddr.toNat % 512 = 0)
    (hend : d.CurrentAddr.toNat + 512 * ps.length ≤ flashEnd)
    (herased : ∀ a, d.CurrentAddr.toNat ≤ a → a < d.CurrentAddr.toNat + 512 * ps.length →
      P.flash d.rom a = 0xFF) :
    ∃ vs d', Run (Exchanges P) d vs d' ∧ vs.map Visit.action = xs ∧
      P.flash d'.rom = fillBlocks 0 512 (P.flash d.rom) d.CurrentAddr.toNat ps ∧
      d'.CurrentAddr.toNat = d.CurrentAddr.toNat + 512 * ps.length ∧ d'.DFU_Status = .OK := by
  induction h generalizing d with
  | nil n => exact ⟨[], d, .nil d, rfl, rfl, rfl, hok⟩
  | @block n p ps xs t w hblock _ ih =>
      obtain ⟨hpos, hfit⟩ := hps p List.mem_cons_self
      rw [List.length_cons, Nat.mul_succ, ← Nat.add_assoc] at hend herased ⊢
      obtain ⟨d₁, hx, hidle₁, hflash₁, haddr₁, hok₁⟩ := exchange_sendsBlock hP hidle hblock hn hpos
        hfit hal (by omega) (fun a hlo hhi => herased a hlo (by omega))
      obtain ⟨vs, d', hrun, hxs, hflash, haddr, hok'⟩ := ih (d := d₁) (by omega)
        (fun q hq => hps q (List.mem_cons_of_mem _ hq)) hidle₁ hok₁ (by omega) (by omega)
        (fun a hlo hhi => by
          rw [hflash₁, fill_of_notMem (by omega)]
          exact herased a (by omega) (by omega))
      refine ⟨_, d', .cons hx hrun, congrArg (_ :: ·) hxs, ?_, by omega, hok'⟩
      rw [hflash, hflash₁, haddr₁, fillBlocks]
  | @getStatus n ps xs t w hq _ ih =>
      obtain ⟨d₁, hx, hidle₁, hrom, haddr, hstatus⟩ := exchange_poll (P := P) (w := w) hidle (.inl hq)
      obtain ⟨vs, d', hrun, hxs, hrest⟩ := ih (d := d₁) hn hps hidle₁ (hstatus.trans hok)
        (by rwa [haddr]) (by rwa [haddr]) (by rwa [haddr, hrom])
      rw [haddr, hrom] at hrest
      exact ⟨_, d', .cons hx hrun, congrArg (_ :: ·) hxs, hrest⟩
  | @getState n ps xs t w hq _ ih =>
      obtain ⟨d₁, hx, hidle₁, hrom, haddr, hstatus⟩ := exchange_poll (P := P) (w := w) hidle (.inr hq)
      obtain ⟨vs, d', hrun, hxs, hrest⟩ := ih (d := d₁) hn hps hidle₁ (hstatus.trans hok)
        (by rwa [haddr]) (by rwa [haddr]) (by rwa [haddr, hrom])
      rw [haddr, hrom] at hrest
      exact ⟨_, d', .cons hx hrun, congrArg (_ :: ·) hxs, hrest⟩
  | @between n ps xs ev hev _ ih =>
      have hx : exchange P (.between ev) d = some (interrupt ev d) := rfl
      obtain ⟨vs, d', hrun, hxs, hrest⟩ := ih (d := interrupt ev d) hn hps
        ((show (Exchange.between ev).Orderly from hev).idle hidle hx) hok hal hend herased
      exact ⟨_, d', .cons hx hrun, congrArg (_ :: ·) hxs, hrest⟩

/-- After the address and the blocks, the flash holds block number `i` of the image, padded with zeros,
at `base + 512 * i`, and nothing else has changed. -/
theorem download {base : UInt32} {ps : List (List UInt8)} {xs : List Exchange}
    (ht : SetsAddress base t w) (h : Downloads 2 ps xs)
    (hps : ∀ p ∈ ps, 1 ≤ p.length ∧ p.length ≤ 512) (hidle : Idle d)
    (hal : base.toNat % 512 = 0) (hend : base.toNat + 512 * ps.length ≤ flashEnd)
    (herased : ∀ a, base.toNat ≤ a → a < base.toNat + 512 * ps.length → P.flash d.rom a = 0xFF) :
    ∃ vs d', Run (Exchanges P) d vs d' ∧ vs.map Visit.action = .request t w :: xs ∧
      (∀ (i : Nat) (hi : i < ps.length), ∀ j < 512,
        P.flash d'.rom (base.toNat + 512 * i + j) = padded 0 ps[i] j) ∧
      (∀ a, a < base.toNat ∨ base.toNat + 512 * ps.length ≤ a →
        P.flash d'.rom a = P.flash d.rom a) ∧
      d'.CurrentAddr.toNat = base.toNat + 512 * ps.length ∧ d'.DFU_Status = .OK := by
  obtain ⟨d₁, hx, hidle₁, hrom, haddr, hok⟩ := exchange_setAddress (P := P) hidle ht
  obtain ⟨vs, d', hrun, hxs, hflash, haddr', hok'⟩ := run_downloads hP (d := d₁) h (Nat.le_refl 2) hps
    hidle₁ hok (by rwa [haddr]) (by rwa [haddr]) (by rwa [haddr, hrom])
  rw [haddr, hrom] at hflash
  rw [haddr] at haddr'
  refine ⟨_, d', .cons hx hrun, congrArg (_ :: ·) hxs, fun i hi j hj => ?_, fun a ha => ?_, haddr', hok'⟩
  · rw [hflash]
    exact fillBlocks_block 0 512 _ _ ps hi hj
  · rw [hflash]
    rcases ha with ha | ha
    · exact fillBlocks_of_lt 0 512 _ _ ps ha
    · exact fillBlocks_of_le 0 512 _ _ ps ha

end Programs

theorem sendsBlock_transfer {n : UInt16} {p : List UInt8} (hfit : p.length ≤ 512)
    (hdel : delivers (chunks 64 p).length w = true) (hund : Undisturbed w) :
    SendsBlock n.toNat p (DFU_REQ.DNLOAD.transfer n p.length.toUInt16 p) w where
  request := DFU_REQ.DNLOAD.dfuRequest_transfer _ _ _
  length := (Nat.mod_eq_of_lt (show p.length < 65536 by omega)).symm
  undisturbed := hund
  wValue := rfl
  data := rfl
  delivers := hdel

/-- Two blocks with a poll between them, from address 0x1000 on. -/
theorem download_two_blocks : ∃ (vs : List (Round Rom)) (d' : Device Rom),
    Run (Exchanges reference) (Device.start Rom.blank) vs d' ∧ vs.length = 4 ∧
      d'.rom.flash 0x1002 = 3 ∧ d'.rom.flash 0x1200 = 4 ∧ d'.rom.flash 0x1201 = 0 ∧
      d'.CurrentAddr.toNat = 0x1400 := by
  have ht : SetsAddress 0x1000 (DFU_REQ.DNLOAD.transfer 0 5 (commandData 0x21 0x1000))
      [[.out fun _ => 0]] :=
    ⟨⟨by decide, by decide, by decide⟩, by decide, rfl, by decide⟩
  have h : Downloads 2 [[1, 2, 3], [4]]
      [.request (DFU_REQ.DNLOAD.transfer 2 3 [1, 2, 3]) [[.out fun _ => 0]],
        .request (DFU_REQ.GETSTATUS.transfer 0 6 []) [],
        .request (DFU_REQ.DNLOAD.transfer 3 1 [4]) [[.inComplete, .out fun _ => 0]]] :=
    .block (sendsBlock_transfer (n := 2) (by decide) (by decide) (by decide))
      (.getStatus (by decide)
        (.block (sendsBlock_transfer (n := 3) (by decide) (by decide) (by decide)) (.nil 4)))
  obtain ⟨vs, d', hrun, has, hblocks, -, haddr, -⟩ := download (d := Device.start Rom.blank)
    reference_programs ht h (by decide) (idle_start _) (by decide) (by decide) (fun _ _ _ => rfl)
  refine ⟨vs, d', hrun, ?_, hblocks 0 (by decide) 2 (by decide), hblocks 1 (by decide) 0 (by decide),
    hblocks 1 (by decide) 1 (by decide), haddr⟩
  rw [← List.length_map, has]
  rfl

end DfuSeBootloader.Dfu
