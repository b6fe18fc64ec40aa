import DfuSeBootloader.Dfu.Lemmas.Exchange
import DfuSeBootloader.Iap.Layout
import DfuSeBootloader.Iap.Operations
import Mathlib.Data.Nat.Digits.Defs

/-!
# Commands and their payload

The handler looks for a command at fixed places of `firmware_data`. A payload of fewer than five bytes
leaves some of them as an earlier request has left them.
-/

namespace DfuSeBootloader.Dfu
open Program Memory Iap Usb
open EVENT_USB_Device_ControlRequest

variable {ρ : Type} {P : Platform ρ} {w w' : List (List Event)} {d d' : Device ρ} {l : List UInt8}

/-! ## The payload of a command -/

/-- The payload `l` of a command is in the buffer of the endpoint when the wait of the handler ends. -/
structure HasPayload (l : List UInt8) (w : List (List Event)) (d : Device ρ) : Prop where
  request : taken d = some .DNLOAD
  wValue : d.ep.SetupPackage.wValue = 0
  wLength : d.ep.SetupPackage.wLength.toNat = l.length
  out : (afterWait w (entered d)).ep.isOutReceived = true
  size : (afterWait w (entered d)).ep.usb_data_buffer_size ≠ 0
  buffer : ∀ i < l.length, (afterWait w (entered d)).ep.usb_data_buffer i = padded 0 l i

/-- The payload in `firmware_data`, in front of what was there before. -/
def overlaid (l : List UInt8) (firmware_data : Nat → UInt8) : Nat → UInt8 :=
  fill firmware_data 0 l.length (padded 0 l)

theorem HasPayload.firmware (h : HasPayload l w d) :
    (received l w (entered d)).firmware_data = overlaid l d.firmware_data := by
  have hindex : (afterWait w (entered d)).ep.usb_data_buffer_index = 0 := index_events _ _
  change fill d.firmware_data 0 l.length (fun j => (afterWait w (entered d)).ep.usb_data_buffer
    ((afterWait w (entered d)).ep.usb_data_buffer_index + j)) = _
  refine fill_congr fun i hi => ?_
  rw [hindex, Nat.zero_add]
  exact h.buffer i hi

theorem HasPayload.eval (h : HasPayload l w d) (hle : l.length ≤ 512) :
    eval interrupt (switch P d.ep.SetupPackage.wValue.toNat d.ep.SetupPackage.wLength.toNat
      (some .DNLOAD)) w (entered d) =
      .done () w.tail (closed (commanded P l.length (received l w (entered d)))) := by
  rw [h.wValue, h.wLength, switch]
  change Program.eval interrupt (dnload P 0 l.length) w (entered d) = _
  rw [eval_dnload_command, eval_command_ready h.out,
    eval_Endpoint_Read_Stream_LE h.size (by omega), Result.bind_done, Result.bind_done]
  rfl

theorem HasPayload.returns (h : HasPayload l w d) (hle : l.length ≤ 512) :
    ∃ d', perform P (.task w) d = some d' := perform_of_switch h.request (h.eval hle)

theorem HasPayload.session (h : HasPayload l w d) (hle : l.length ≤ 512)
    (hd : perform P (.task w) d = some d') :
    session d' = (session d).obey P l.length (overlaid l d.firmware_data) := by
  obtain ⟨w₁, d₁, heval, hsession⟩ := switch_of_perform hd h.request
  rw [h.eval hle] at heval
  cases heval
  rw [hsession, session_closed, session_commanded_obey, h.firmware, session_received]
  exact congrArg (Session.obey P l.length (overlaid l d.firmware_data)) session_accept

/-! ## The address -/

/-- The bytes 1 to 4 of a payload, lowest first. -/
def addressIn (l : List UInt8) : Nat := Nat.ofDigits 256 (((l.drop 1).take 4).map UInt8.toNat)

theorem toNat_addressAt (m : Nat → UInt8) : (addressAt m).toNat = (m 1).toNat +
    256 * ((m 2).toNat + 256 * ((m 3).toNat + 256 * (m 4).toNat)) := by
  have h1 := (m 1).toNat_lt
  have h2 := (m 2).toNat_lt
  have h3 := (m 3).toNat_lt
  have h4 := (m 4).toNat_lt
  simp [addressAt, UInt32.toNat_add, Nat.shiftLeft_eq]
  omega

theorem toNat_addressAt_padded (hlong : 5 ≤ l.length) :
    (addressAt (padded 0 l)).toNat = addressIn l := by
  match l, hlong with
  | _ :: b₁ :: b₂ :: b₃ :: b₄ :: _, _ =>
      rw [toNat_addressAt, addressIn]
      simp [padded, Nat.ofDigits_cons]

/-! ## Payloads that speak for themselves -/

/-- What a command may read and change. The state of the ROM holds the flash and decides the next
replies. -/
def Session.outcome (s : Session ρ) : DFU_State_t × DFU_Status_t × UInt32 × ρ :=
  (s.state, s.status, s.address, s.rom)

/-- A history of the bootloader leads to this device. -/
def Reachable (P : Platform ρ) (d : Device ρ) : Prop :=
  ∃ r vs, Run (Serial P) (Device.start r) vs d

/-- Behind some history, a command with the payload `l` is handled. -/
structure Commands (P : Platform ρ) (l : List UInt8) (d d' : Device ρ) : Prop where
  reachable : Reachable P d
  performed : ∃ w, HasPayload l w d ∧ perform P (.task w) d = some d'

/-- The sector of `address` is erased, or an error is reported. No other sector is named to the
ROM. -/
structure EraseRequested (P : Platform ρ) (address : UInt32) (d d' : Device ρ) : Prop where
  rom : d'.rom = (iap_erase P address d.rom).2
  state : d'.DFU_State = if (iap_erase P address d.rom).1 then .dfuDNBUSY else .dfuERROR
  status : d'.DFU_Status = if (iap_erase P address d.rom).1 then .OK else .errERASE
  sector : ∀ first last cclk st,
    (IapCommand.CMD_ERASE_SECTORS first last cclk, st) ∈ eraseLog P address d.rom →
      ∀ i < 30, first ≤ i ∧ i ≤ last ↔ InSector i address.toNat

/-- A command with the payload `l` is always handled, by what is in `l` and by nothing else. -/
structure OwnPayload (l : List UInt8) : Prop where
  returns : ∀ {ρ : Type} {P : Platform ρ} {w : List (List Event)} {d : Device ρ},
    Reachable P d → HasPayload l w d → ∃ d', perform P (.task w) d = some d'
  determined : ∀ {ρ : Type} {P : Platform ρ} {d d' e e' : Device ρ},
    Commands P l d d' → Commands P l e e' → (session d).outcome = (session e).outcome →
      (session d').outcome = (session e').outcome
  setAddress : ∀ {ρ : Type} {P : Platform ρ} {d d' : Device ρ}, Commands P l d d' →
    5 ≤ l.length → l[0]? = some 0x21 → d'.CurrentAddr.toNat = addressIn l
  eraseSector : ∀ {ρ : Type} {P : Platform ρ} {d d' : Device ρ}, Commands P l d d' →
    5 ≤ l.length → l[0]? = some 0x41 →
      ∃ address, address.toNat = addressIn l ∧ EraseRequested P address d d'
  short : ∀ {ρ : Type} {P : Platform ρ} {d d' : Device ρ}, Commands P l d d' → l.length < 5 →
    d'.CurrentAddr = d.CurrentAddr ∧ P.flash d'.rom = P.flash d.rom

/-- No byte behind the payload matters. -/
def SelfContained (l : List UInt8) : Prop :=
  5 ≤ l.length ∨ (l[0]? ≠ some 0x21 ∧ l[0]? ≠ some 0x41)

theorem overlaid_of_lt {fd : Nat → UInt8} {i : Nat} (hi : i < l.length) :
    overlaid l fd i = padded 0 l i := fill_of_mem (by omega)

theorem overlaid_of_le {fd : Nat → UInt8} {i : Nat} (hi : l.length ≤ i) : overlaid l fd i = fd i :=
  fill_of_notMem (by omega)

theorem padded_zero_eq {b : UInt8} (hpos : 1 ≤ l.length) :
    padded 0 l 0 = b ↔ l[0]? = some b := by
  rw [padded_of_lt hpos, List.getElem?_eq_getElem hpos, Option.some.injEq]

/-- What was in `firmware_data` plays no part. -/
theorem SelfContained.obey (h : SelfContained l) (hpos : 1 ≤ l.length) (fd : Nat → UInt8)
    (s : Session ρ) : s.obey P l.length (overlaid l fd) = s.command P l := by
  rcases h with hlong | ⟨hset, herase⟩
  · exact Session.obey_congr (fun i hi => overlaid_of_lt (by omega)) s
  · have hset' := mt (padded_zero_eq hpos).mp hset
    have herase' := mt (padded_zero_eq hpos).mp herase
    unfold Session.obey Session.command
    rw [overlaid_of_lt hpos]
    simp only [hset', herase', if_false]

theorem Commands.session (h : Commands P l d d') (hself : SelfContained l) (hpos : 1 ≤ l.length)
    (hle : l.length ≤ 512) : session d' = (session d).command P l := by
  obtain ⟨-, w, hpay, hperf⟩ := h
  rw [hpay.session hle hperf, hself.obey hpos]

theorem outcome_command {s s' : Session ρ} (h : s.outcome = s'.outcome) :
    (s.command P l).outcome = (s'.command P l).outcome := by
  obtain ⟨state, status, address, detach, rom, calls⟩ := s
  obtain ⟨state', status', address', detach', rom', calls'⟩ := s'
  simp only [Session.outcome, Prod.mk.injEq] at h
  obtain ⟨rfl, rfl, rfl, rfl⟩ := h
  unfold Session.command
  dsimp only
  split
  · split <;> rfl
  split
  · rfl
  split <;> rfl

/-- Only two commands touch the address or the flash. -/
theorem Commands.unchanged (h : Commands P l d d') (hset : l[0]? ≠ some 0x21)
    (herase : l[0]? ≠ some 0x41) (hpos : 1 ≤ l.length) (hle : l.length ≤ 512) :
    d'.CurrentAddr = d.CurrentAddr ∧ P.flash d'.rom = P.flash d.rom := by
  have hs := h.session (.inr ⟨hset, herase⟩) hpos hle
  have hset' := mt (padded_zero_eq hpos).mp hset
  have herase' := mt (padded_zero_eq hpos).mp herase
  simp only [Session.command, hset', herase', if_false] at hs
  have hkeep : (Dfu.session d').address = (Dfu.session d).address ∧
      (Dfu.session d').rom = (Dfu.session d).rom := by
    rw [hs]
    split
    · split <;> exact ⟨rfl, rfl⟩
    · exact ⟨rfl, rfl⟩
  exact ⟨hkeep.1, congrArg P.flash hkeep.2⟩

theorem sector_eraseLog {address : UInt32} {r : ρ} {first last cclk : Nat} {st : IapStatus}
    (h : (IapCommand.CMD_ERASE_SECTORS first last cclk, st) ∈ eraseLog P address r) :
    ∀ i < 30, first ≤ i ∧ i ≤ last ↔ InSector i address.toNat := by
  intro i hi
  obtain ⟨rfl, rfl⟩ := erases_eraseLog h
  rw [sector_by_address_eq]
  constructor
  · intro hbetween
    obtain rfl : i = sectorOf address.toNat := by omega
    refine inSector_sectorOf (Nat.lt_of_not_le fun hout => ?_)
    have := le_sectorOf hout
    omega
  · intro hin
    have := hin.eq
    omega

theorem SelfContained.ownPayload (h : SelfContained l) (hpos : 1 ≤ l.length)
    (hle : l.length ≤ 64) : OwnPayload l where
  returns _ hpay := hpay.returns (by omega)
  determined hd he heq := by
    rw [hd.session h hpos (by omega), he.session h hpos (by omega)]
    exact outcome_command heq
  setAddress hd hlong hset := by
    have haddr := congrArg Session.address (hd.session h hpos (by omega))
    rw [← padded_zero_eq hpos] at hset
    rw [← toNat_addressAt_padded hlong]
    refine congrArg UInt32.toNat (haddr.trans ?_)
    simp [Session.command, hset]
  eraseSector hd hlong herase := by
    have hs := hd.session h hpos (by omega)
    rw [← padded_zero_eq hpos] at herase
    refine ⟨addressAt (padded 0 l), toNat_addressAt_padded hlong, ?_⟩
    rw [Session.command, herase] at hs
    exact ⟨congrArg Session.rom hs, congrArg Session.state hs, congrArg Session.status hs,
      fun _ _ _ _ => sector_eraseLog⟩
  short hd hshort := by
    have hother := h.resolve_left (by omega)
    exact hd.unchanged hother.1 hother.2 hpos (by omega)

/-! ## Payloads that do not -/

theorem Reachable.interrupt (h : Reachable P d) (ev : Event) :
    Reachable P (Usb.interrupt ev d) := by
  obtain ⟨r, vs, hrun⟩ := h
  have hstep : Serial P d (.interrupt ev) (Usb.interrupt ev d) := rfl
  exact ⟨r, _, hrun.append (.cons hstep (.nil _))⟩

theorem Reachable.exchange {t : ControlTransfer} (h : Reachable P d)
    (hx : exchange P (.request t w) d = some d') : Reachable P d' := by
  obtain ⟨r, vs, hrun⟩ := h.interrupt (.setup t)
  have hstep : Serial P (Usb.interrupt (.setup t) d) (.task w) d' := hx
  exact ⟨r, _, hrun.append (.cons hstep (.nil _))⟩

/-- A command with the payload `l`. -/
def commandTransfer (l : List UInt8) : ControlTransfer :=
  DFU_REQ.DNLOAD.transfer 0 l.length.toUInt16 l

theorem toNat_length (hle : l.length ≤ 64) : l.length.toUInt16.toNat = l.length := by
  simp only [Nat.toUInt16, UInt16.toNat_ofNat']
  omega

theorem hasPayload_setup (h : Idle d) (hpos : 1 ≤ l.length) (hle : l.length ≤ 64)
    (junk : Nat → UInt8) :
    HasPayload l [[.out junk]] (interrupt (.setup (commandTransfer l)) d) := by
  have hund : ∀ ev ∈ [Event.out junk], ev.NoSetup := by simp [Event.NoSetup]
  have harr := (begun_waiting (t := commandTransfer l) h).arrived rfl
    (List.length_pos_iff.mp hpos) hund rfl
  refine ⟨taken_eq_some.mpr ⟨h.attached, rfl, ?_, ?_⟩, rfl, toNat_length hle, harr.out, harr.size,
    fun i hi => harr.buffer i (by change i < min 64 l.length; omega)⟩
  · exact DFU_REQ.isClassInterface_transfer _ _ _ _
  · exact DFU_REQ.ofCode_code .DNLOAD

@[simp] theorem firmware_commanded (size : Nat) :
    (commanded P size d).firmware_data = d.firmware_data := by
  unfold commanded
  repeat' split
  all_goals rfl

/-- A payload without meaning stays in `firmware_data`. -/
theorem exists_leftover (P : Platform ρ) (r : ρ) {l : List UInt8} (hlong : 5 ≤ l.length)
    (hle : l.length ≤ 64) : ∃ d, Reachable P d ∧ Idle d ∧
      session d = (session (Device.start r)).command P l ∧
      ∀ i < 5, d.firmware_data i = padded 0 l i := by
  have hidle := idle_start r
  have hne : l ≠ [] := List.length_pos_iff.mp (by omega)
  have hfit : l.length ≤ 512 := by omega
  have ht : Download (commandTransfer l) [[.out fun _ => 0]] :=
    ⟨DFU_REQ.dfuRequest_transfer _ _ _ _, (toNat_length hle).symm, by
      simp [Undisturbed, Event.NoSetup]⟩
  obtain ⟨d, hx, hd, hs⟩ := exchange_command (P := P) hidle ht rfl hlong hfit rfl
  have hobeyed := exchange_obeyed (P := P) hidle ht rfl hne hfit rfl
  obtain rfl := Option.some.inj (hx.symm.trans hobeyed)
  refine ⟨_, Reachable.exchange ⟨r, [], .nil _⟩ hx, hd, hs, fun i hi => ?_⟩
  change (commanded P _ (received l _ (begun (commandTransfer l) _))).firmware_data i = _
  rw [firmware_commanded]
  have hw : (begun (commandTransfer l) (Device.start r)).ep.Waiting l :=
    begun_waiting (t := commandTransfer l) hidle
  exact firmware_received hne hw rfl ht.undisturbed rfl hlong i hi

theorem command_unknown (s : Session ρ) (bs : List UInt8) : s.command P (0x99 :: bs) = s := by
  simp [Session.command, padded]

/-- A command may find any byte where its payload ends. -/
theorem exists_commands (P : Platform ρ) (r : ρ) (b : UInt8) (hpos : 1 ≤ l.length)
    (hle : l.length ≤ 64) : ∃ d d' m, Commands P l d d' ∧ session d = session (Device.start r) ∧
      session d' = (session d).obey P l.length (overlaid l m) ∧ ∀ i < 5, 1 ≤ i → m i = b := by
  obtain ⟨d, hreach, hidle, hsession, hleft⟩ := exists_leftover P r
    (l := [0x99, b, b, b, b]) (by simp) (by simp)
  rw [command_unknown] at hsession
  have hpay := hasPayload_setup hidle hpos hle fun _ => 0
  obtain ⟨d', hd'⟩ := hpay.returns (P := P) (by omega)
  refine ⟨_, d', d.firmware_data, ⟨hreach.interrupt _, _, hpay, hd'⟩, hsession,
    hpay.session (by omega) hd', fun i hi hlo => ?_⟩
  rw [hleft i hi]
  have hcases : i = 1 ∨ i = 2 ∨ i = 3 ∨ i = 4 := by omega
  rcases hcases with rfl | rfl | rfl | rfl <;> rfl

theorem obey_setAddress {m : Nat → UInt8} (hfirst : m 0 = 0x21) (n : Nat) (s : Session ρ) :
    (s.obey P n m).address = addressAt m := by
  simp [Session.obey, hfirst]

theorem not_ownPayload_setAddress (hpos : 1 ≤ l.length) (hshort : l.length < 5)
    (hset : l[0]? = some 0x21) : ¬ OwnPayload l := by
  intro h
  obtain ⟨d, d', m, hd, hs, hs', hm⟩ := exists_commands reference Rom.blank 1 hpos (by omega)
  rw [← padded_zero_eq hpos] at hset
  have haddr : d'.CurrentAddr = addressAt (overlaid l m) :=
    (congrArg Session.address hs').trans (obey_setAddress ((overlaid_of_lt hpos).trans hset) _ _)
  have hzero : d.CurrentAddr = 0 := congrArg Session.address hs
  -- the highest byte of the address is not one of the payload
  have hlast : overlaid l m 4 = 1 := (overlaid_of_le (by omega)).trans (hm 4 (by decide) (by decide))
  have hvalue := toNat_addressAt (overlaid l m)
  rw [← haddr, (h.short hd hshort).1, hzero, hlast] at hvalue
  change 0 = _ + 256 * (_ + 256 * (_ + 256 * 1)) at hvalue
  omega

/-- The address in a short payload depends on what stands behind it. -/
theorem overlaid_address_lt {m m' : Nat → UInt8} (hshort : l.length < 5)
    (hm : ∀ i < 5, 1 ≤ i → m i = 0) (hm' : ∀ i < 5, 1 ≤ i → m' i = 1) :
    (addressAt (overlaid l m)).toNat + 0x8000 ≤ (addressAt (overlaid l m')).toNat := by
  have hle (i : Nat) (hi : i < 5) (hlo : 1 ≤ i) :
      (overlaid l m i).toNat ≤ (overlaid l m' i).toNat := by
    rcases Nat.lt_or_ge i l.length with hlt | hge
    · rw [overlaid_of_lt hlt, overlaid_of_lt hlt]
    · rw [overlaid_of_le hge, hm i hi hlo]
      exact Nat.zero_le _
  have h1 := hle 1 (by decide) (by decide)
  have h2 := hle 2 (by decide) (by decide)
  have h3 := hle 3 (by decide) (by decide)
  have h4 : overlaid l m 4 = 0 := (overlaid_of_le (by omega)).trans (hm 4 (by decide) (by decide))
  have h4' : overlaid l m' 4 = 1 :=
    (overlaid_of_le (by omega)).trans (hm' 4 (by decide) (by decide))
  rw [toNat_addressAt, toNat_addressAt, h4, h4']
  change _ + 256 * (_ + 256 * (_ + 256 * 0)) + 0x8000 ≤ _ + 256 * (_ + 256 * (_ + 256 * 1))
  omega

theorem obey_erase_state {r : ρ} {m : Nat → UInt8} (hfirst : overlaid l m 0 = 0x41) :
    ((session (Device.start r)).obey P l.length (overlaid l m)).state =
      if (iap_erase P (addressAt (overlaid l m)) r).1 then .dfuDNBUSY else .dfuERROR := by
  rw [Session.obey, hfirst]
  rfl

theorem not_ownPayload_eraseSector (hpos : 1 ≤ l.length) (hshort : l.length < 5)
    (herase : l[0]? = some 0x41) : ¬ OwnPayload l := by
  intro h
  -- the ROM knows the sector of the lower address, but not that of the higher one
  let n := sector_by_address (addressAt (overlaid l fun _ => 1))
  obtain ⟨d, d', m, hd, hs, hs', hm⟩ := exists_commands (sectorsBelow n) () 0 hpos (by omega)
  obtain ⟨e, e', m', he, ht, ht', hm'⟩ := exists_commands (sectorsBelow n) () 1 hpos (by omega)
  have hsame := congrArg Prod.fst (h.determined hd he (by rw [hs, ht]))
  change (session d').state = (session e').state at hsame
  rw [← padded_zero_eq hpos] at herase
  have hfirst (m : Nat → UInt8) : overlaid l m 0 = 0x41 := (overlaid_of_lt hpos).trans herase
  rw [hs', ht', hs, ht, obey_erase_state (hfirst m), obey_erase_state (hfirst m'),
    sectorsBelow_erase, sectorsBelow_erase] at hsame
  have hlt := sectorOf_lt (overlaid_address_lt hshort hm hm')
  have haddr : addressAt (overlaid l m') = addressAt (overlaid l fun _ => 1) := by
    refine addressAt_congr fun i hi => ?_
    rcases Nat.lt_or_ge i l.length with hin | hout
    · rw [overlaid_of_lt hin, overlaid_of_lt hin]
    · rw [overlaid_of_le hout, overlaid_of_le hout, hm' i hi (by omega)]
  rw [← sector_by_address_eq, ← sector_by_address_eq, haddr] at hlt
  rw [haddr, decide_eq_true hlt, decide_eq_false (Nat.lt_irrefl _)] at hsame
  cases hsame

/-- A payload is obeyed for what it is exactly when it holds an address or does not need one. -/
theorem ownPayload_iff (hpos : 1 ≤ l.length) (hle : l.length ≤ 64) :
    OwnPayload l ↔ 5 ≤ l.length ∨ (l[0]? ≠ some 0x21 ∧ l[0]? ≠ some 0x41) := by
  refine ⟨fun h => ?_, fun h => SelfContained.ownPayload h hpos hle⟩
  by_contra hno
  rw [not_or] at hno
  have hshort : l.length < 5 := Nat.lt_of_not_le hno.1
  by_cases hset : l[0]? = some 0x21
  · exact not_ownPayload_setAddress hpos hshort hset h
  · refine not_ownPayload_eraseSector hpos hshort ?_ h
    by_contra herase
    exact hno.2 ⟨hset, herase⟩

theorem eraseCommand_ownPayload : OwnPayload (commandData 0x41 0x1000) :=
  (ownPayload_iff (by decide) (by decide)).mpr (.inl (by decide))

/-- The address is set to 0x1000. -/
def setAddressRun : List Action :=
  send (DFU_REQ.DNLOAD.transfer 0 5 (commandData 0x21 0x1000)) [[.out fun _ => 0]]

/-- A command that is not known, with an address of its own. -/
def unknownRun : List Action :=
  send (DFU_REQ.DNLOAD.transfer 0 5 (commandData 0x99 0x2000)) [[.out fun _ => 0]]

/-- ERASE SECTOR without an address. -/
def shortErase : List Action := send (DFU_REQ.DNLOAD.transfer 0 1 [0x41]) [[.out fun _ => 0]]

/-- The sector that an ERASE SECTOR without an address erases is that of an earlier request, even of
one that was passed over. -/
theorem shortErase_erases_leftover : ¬ OwnPayload [0x41] ∧
    (∃ (vs : List (Turn Rom)) (d' : Device Rom),
      Run (Serial reference) (Device.start ⟨fun _ => 0, fun _ => false⟩) vs d' ∧
        vs.map Visit.action = setAddressRun ++ shortErase ∧
        d'.rom.flash 0x1000 = 0xFF ∧ d'.rom.flash 0x2000 = 0) ∧
    ∃ (vs : List (Turn Rom)) (d' : Device Rom),
      Run (Serial reference) (Device.start ⟨fun _ => 0, fun _ => false⟩) vs d' ∧
        vs.map Visit.action = setAddressRun ++ unknownRun ++ shortErase ∧
        d'.rom.flash 0x1000 = 0 ∧ d'.rom.flash 0x2000 = 0xFF :=
  ⟨not_ownPayload_eraseSector (by decide) (by decide) rfl,
    exists_run (perform reference) (setAddressRun ++ shortErase)
      (Device.start ⟨fun _ => 0, fun _ => false⟩)
      (fun _ d' => d'.rom.flash 0x1000 = 0xFF ∧ d'.rom.flash 0x2000 = 0) (by decide +kernel),
    exists_run (perform reference) (setAddressRun ++ unknownRun ++ shortErase)
      (Device.start ⟨fun _ => 0, fun _ => false⟩)
      (fun _ d' => d'.rom.flash 0x1000 = 0 ∧ d'.rom.flash 0x2000 = 0xFF) (by decide +kernel)⟩

end DfuSeBootloader.Dfu
