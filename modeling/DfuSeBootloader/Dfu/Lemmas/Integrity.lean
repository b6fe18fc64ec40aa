import DfuSeBootloader.Dfu.Lemmas.Block
import DfuSeBootloader.Dfu.Lemmas.Dispatch
import DfuSeBootloader.Dfu.Lemmas.Handler
import DfuSeBootloader.Usb.Lemmas.Stage

/-!
# Blocks under any interrupts

Where the flags are in step with the controller when a block begins, only a block that came in full
reaches the flash.
-/

namespace DfuSeBootloader.Dfu
open Program Memory Iap Usb
open EVENT_USB_Device_ControlRequest

variable {ρ : Type} {P : Platform ρ} {d : Device ρ} {t : ControlTransfer}

/-! ## The contract -/

/-- A DNLOAD comes with the data that its header announces, and with no more than a block. -/
def Announced (t : ControlTransfer) : Prop :=
  dfuRequest t.toUSB_Request_Header_t = some .DNLOAD →
    t.data.length = t.wLength.toNat ∧ t.wLength.toNat ≤ 512

/-- A DNLOAD that programs a block. -/
def IsBlock (t : ControlTransfer) : Prop :=
  dfuRequest t.toUSB_Request_Header_t = some .DNLOAD ∧ 2 ≤ t.wValue.toNat

/-- The flags belong to the request at work: no flag of an earlier packet is set where data are to be
read, and the request is the last one that came, or one of those before where a further one waits. -/
def InStep (d : Device ρ) : Prop :=
  (d.USB_ControlRequest.wLength ≠ 0 → d.ep.isOutReceived = false) ∧
    (d.ep.SETUPReceived = true ∧ d.USB_ControlRequest ∈ d.ep.sent ∨
      d.ep.SetupPackage = d.USB_ControlRequest)

/-- `firmware_data` holds the data of the request at work, padded with zeros. -/
def Intact (d : Device ρ) : Prop := ∀ i < 512, d.firmware_data i = padded 0 d.USB_ControlRequest.data i

instance (t : ControlTransfer) : Decidable (Announced t) := inferInstanceAs (Decidable (_ → _))

instance (t : ControlTransfer) : Decidable (IsBlock t) := inferInstanceAs (Decidable (_ ∧ _))

instance (d : Device ρ) : Decidable (InStep d) := inferInstanceAs (Decidable (_ ∧ _))

/-- What the host may send. -/
def Sendable : Event → Prop
  | .setup t => Announced t
  | _ => True

/-- Interrupts come at any time. The flags are in step whenever the handler releases the SETUP packet
of a block, and a block must be intact when it is programmed. -/
def integrity : Contract (Device ρ) Op where
  rely _ d d' := ∃ ev, Sendable ev ∧ d' = interrupt ev d
  assume op d := op = .CMD_CLR_BUF .handlerClearSETUP → IsBlock d.USB_ControlRequest → InStep d
  assert op d := op = .iap_write → Intact d
  undefined _ := True

/-! ## What always holds -/

/-- The packets on their way, the request that they belong to, and all that have come. -/
def supply (d : Device ρ) : List (List UInt8) × ControlTransfer × List ControlTransfer :=
  (d.ep.inFlight, d.ep.SetupPackage, d.ep.sent)

structure Good (d : Device ρ) : Prop where
  supplied : d.ep.Supplied
  announced : Announced d.ep.SetupPackage
  sent : ∀ t ∈ d.ep.sent, Announced t

theorem Good.interrupt {ev : Event} (h : Good d) (hev : Sendable ev) : Good (interrupt ev d) := by
  rcases ev.noSetup_or with hno | ⟨t, rfl⟩
  · obtain ⟨hpackage, hsent⟩ := Endpoint.setup_interrupt (e := d.ep) hno
    exact ⟨h.supplied.interrupt, hpackage.symm ▸ h.announced, hsent.symm ▸ h.sent⟩
  · refine ⟨h.supplied.interrupt, hev, fun u hu => ?_⟩
    rcases List.mem_append.mp hu with hu | hu
    · exact h.sent u hu
    · obtain rfl : u = t := List.mem_singleton.mp hu
      exact hev

theorem Good.of_eq {d' : Device ρ} (h : Good d) (heq : supply d = supply d') : Good d' := by
  simp only [supply, Prod.mk.injEq] at heq
  obtain ⟨hin, hsetup, hsent⟩ := heq
  obtain ⟨hs, ha, hall⟩ := h
  refine ⟨?_, hsetup ▸ ha, hsent ▸ hall⟩
  unfold Endpoint.Supplied at hs ⊢
  rwa [← hin, ← hsetup]

/-- A request in step with the flags came with its data. -/
theorem Good.announced_of_inStep (h : Good d) (hstep : InStep d) : Announced d.USB_ControlRequest := by
  rcases hstep.2 with ⟨-, hsent⟩ | hpackage
  · exact h.sent _ hsent
  · exact hpackage ▸ h.announced

/-- The request `t` is at work, and `J` holds. -/
structure Working (t : ControlTransfer) (J : Device ρ → Prop) (d : Device ρ) : Prop where
  request : d.USB_ControlRequest = t
  good : Good d
  holds : J d

section Working

variable {J J' : Device ρ → Prop} {op : Op}

/-- No interrupt touches `J`. -/
def Lasting (J : Device ρ → Prop) : Prop := ∀ ev d, J d → J (interrupt ev d)

theorem lasting_true : Lasting (fun _ : Device ρ => True) := fun _ _ _ => trivial

theorem lasting_firmware {m : Nat → UInt8} : Lasting (fun d : Device ρ => d.firmware_data = m) :=
  fun _ _ h => h

theorem Working.stable (hJ : Lasting J) : integrity.Stable op (Working t J) := by
  rintro d _ ⟨ht, hg, hd⟩ ⟨ev, hev, rfl⟩
  exact ⟨ht, hg.interrupt hev, hJ ev d hd⟩

theorem good_stable : integrity.Stable op (Good (ρ := ρ)) := by
  rintro d _ hg ⟨ev, hev, rfl⟩
  exact hg.interrupt hev

theorem Working.mono (h : Working t J d) (hJ : J d → J' d) : Working t J' d :=
  ⟨h.request, h.good, hJ h.holds⟩

/-- What an assignment of the program leaves alone. -/
def Keeping (f : Device ρ → Device ρ) : Prop :=
  ∀ d, (f d).USB_ControlRequest = d.USB_ControlRequest ∧ supply (f d) = supply d

theorem Working.of_keeping {f : Device ρ → Device ρ} (h : Working t J d) (hf : Keeping f)
    (hd : J' (f d)) : Working t J' (f d) := by
  obtain ⟨ht, hsupply⟩ := hf d
  exact ⟨ht.trans h.request, h.good.of_eq hsupply.symm, hd⟩

theorem Working.modify {f : Device ρ → Device ρ} (hop : op ≠ .iap_write) (hJ : Lasting J)
    (hf : Keeping f) (h : ∀ d, J d → J' (f d)) :
    Triple integrity (Working t J) (Prog.modify op f) (fun _ => Working t J') :=
  Triple.modify (stable hJ) (fun _ _ h => absurd h hop) fun d hd _ => hd.of_keeping hf (h d hd.holds)

theorem Working.get {α : Type} {v : Device ρ → α} (hop : op ≠ .iap_write) (hJ : Lasting J) :
    Triple integrity (Working t J) (Prog.get op v)
      (fun a d => Working t J d ∧ v d = a) :=
  Triple.get (stable hJ) (fun _ _ h => absurd h hop) fun _ hd _ => ⟨hd, rfl⟩

theorem Working.get_header {α β : Type} {f : USB_Request_Header_t → α} {g : α → Task ρ β}
    {Q : β → Device ρ → Prop} (hJ : Lasting J)
    (h : Triple integrity (Working t J) (g (f t.toUSB_Request_Header_t)) Q) :
    Triple integrity (Working t J)
      (Prog.get .access (fun d => f d.USB_ControlRequest.toUSB_Request_Header_t) >>= g) Q :=
  Triple.get_bind (stable hJ) (fun _ _ h => nomatch h) (fun _ hd => by rw [hd.request]) h

end Working

/-! ## What does not concern the blocks -/

/-- An operation that programs nothing. -/
def Harmless (op : Op) : Prop := op ≠ .iap_write

theorem harmless_ops : LibraryOps Harmless Harmless := by
  constructor <;> (try constructor) <;> simp [Harmless]

theorem supplyView : HandlerView (supply (ρ := ρ)) where
  onEp _ _ hin hsetup hsent := Prod.ext hin (Prod.ext hsetup hsent)
  firmware _ _ := rfl
  statusStage _ := rfl
  stall _ := rfl
  state _ _ := rfl
  status _ _ := rfl
  address _ _ := rfl
  detach _ _ := rfl
  iap _ _ _ _ := rfl

theorem supplyLibraryView : LibraryView (supply (ρ := ρ)) where
  toDriverView := supplyView.toDriverView
  deviceState _ _ := rfl
  configuration _ _ := rfl
  wakeup _ _ := rfl

theorem good_keeps {α : Type} {p : Task ρ α} (h : p.Keeps Harmless Harmless supply) :
    Triple integrity Good p (fun _ => Good) :=
  h.triple (fun _ _ hv hd => hd.of_eq hv)
    (fun _ _ => good_stable) (fun _ _ hop _ h => absurd h (hop.elim id id)) (fun _ _ => trivial)

/-! ## One packet -/

variable {m : Nat → UInt8} {l : List UInt8} {k : Nat}

/-- `i` bytes of the packet in the buffer have been read. -/
structure Reading (m : Nat → UInt8) (l : List UInt8) (i : Nat) (d : Device ρ) : Prop where
  firmware : d.firmware_data = m
  held : d.ep.Held l
  index : d.ep.usb_data_buffer_index = i

theorem Reading.lasting {i : Nat} : Lasting (Reading (ρ := ρ) m l i) := fun ev d h =>
  ⟨h.firmware, h.held.interrupt, (Endpoint.index_interrupt ev d.ep).trans h.index⟩

/-- A flag is set, but packets are missing for good. -/
structure Flagged (l : List UInt8) (d : Device ρ) : Prop where
  short : d.ep.Short l
  out : d.ep.isOutReceived = true

theorem Flagged.lasting : Lasting (Flagged (ρ := ρ) l) := fun _ _ h =>
  ⟨h.short.interrupt, Endpoint.isOutReceived_interrupt h.out⟩

/-- Either what has come is in `m` and the data `l` can still come, or packets are missing. -/
def Stage (m : Nat → UInt8) (l : List UInt8) (d : Device ρ) : Prop :=
  d.firmware_data = m ∧ d.ep.Whole l ∨ d.ep.Short l

theorem Stage.lasting : Lasting (Stage (ρ := ρ) m l) := by
  rintro ev d (⟨hm, hw⟩ | hs)
  · exact hw.interrupt.imp_left fun hw => ⟨hm, hw⟩
  · exact .inr hs.interrupt

theorem Endpoint_Read_8.working {i : Nat} (hi : i < min 64 l.length) :
    Triple integrity (Working (ρ := ρ) t (Reading m l i)) Endpoint_Read_8
      (fun tem d => Working t (Reading m l (i + 1)) d ∧ padded 0 l i = tem) := by
  refine Triple.bind (R := fun tem d => Working t (Reading m l i) d ∧ padded 0 l i = tem)
    ((Working.get (by simp) Reading.lasting).conseq (fun _ h => h) fun tem d h => ⟨h.1, ?_⟩)
    fun tem => ?_
  · rw [← h.2, h.1.holds.index]
    exact (h.1.holds.held.buffer i hi).symm
  · refine Triple.assuming fun htem => ?_
    refine Triple.bind (R := fun _ => Working t (Reading m l (i + 1))) (Working.modify (by simp)
      Reading.lasting (fun _ => ⟨rfl, rfl⟩) fun d h => ⟨h.firmware, ?_, ?_⟩) fun _ =>
      Triple.bind (R := fun _ => Working t (Reading m l (i + 1))) (Working.modify (by simp)
        Reading.lasting (fun _ => ⟨rfl, rfl⟩) fun d h => ⟨h.firmware, ?_, h.index⟩) fun _ =>
        Triple.pure fun _ h => ⟨h, htem⟩
    · exact ⟨h.held.ne_nil, h.held.out, h.held.full, h.held.buffer, h.held.inFlight⟩
    · exact congrArg (· + 1) h.index
    · exact ⟨h.held.ne_nil, h.held.out, h.held.full, h.held.buffer, h.held.inFlight⟩

theorem store_firmware_data.working {i j : Nat} {b : UInt8} (hj : j < 512) :
    Triple integrity (Working (ρ := ρ) t (Reading m l i)) (store_firmware_data j b)
      (fun _ => Working t (Reading (Function.update m j b) l i)) := by
  rw [store_firmware_data, if_pos (show j < DFU_TRANSFER_SIZE from hj)]
  exact Working.modify (by simp) Reading.lasting (fun _ => ⟨rfl, rfl⟩) fun d h =>
    ⟨by rw [h.firmware], h.held, h.index⟩

theorem readStreamLoop.working {n i : Nat} (hn : i + n ≤ min 64 l.length) (hk : k + i + n ≤ 512) :
    Triple integrity (Working (ρ := ρ) t (Reading m l i)) (readStreamLoop k n i)
      (fun _ => Working t (Reading (fill m (k + i) n fun j => padded 0 l (i + j)) l (i + n))) := by
  induction n generalizing i m with
  | zero =>
      rw [fill_zero]
      exact Triple.pure fun _ h => h
  | succ n ih =>
      refine Triple.bind (Endpoint_Read_8.working (by omega)) fun tem =>
        Triple.assuming fun htem => ?_
      subst htem
      refine Triple.bind (store_firmware_data.working (by omega)) fun _ => ?_
      have hih := ih (m := Function.update m (k + i) (padded 0 l i)) (i := i + 1) (by omega)
        (by omega)
      rw [show i + (n + 1) = i + 1 + n by omega, ← fill_update_head]
      simpa only [Nat.add_zero, Nat.add_assoc, Nat.add_comm 1] using hih

theorem Endpoint_Read_Stream_LE.working {n : Nat} (hn : n ≤ min 64 l.length) (hk : k + n ≤ 512) :
    Triple integrity
      (Working (ρ := ρ) t fun d => d.firmware_data = m ∧ d.ep.Arrived l) (Endpoint_Read_Stream_LE k n)
      (fun _ => Working t (Reading (fill m k n (padded 0 l)) l n)) := by
  have hlasting : Lasting (fun d : Device ρ => d.firmware_data = m ∧ d.ep.Arrived l) :=
    fun _ _ h => ⟨h.1, h.2.interrupt⟩
  have hloop := readStreamLoop.working (ρ := ρ) (t := t) (m := m) (l := l) (k := k) (n := n) (i := 0)
    (by omega) (by omega)
  simp only [Nat.add_zero, Nat.zero_add] at hloop
  refine Triple.bind (R := fun size d => Working t (fun d => d.firmware_data = m ∧ d.ep.Arrived l) d ∧
    size ≠ 0) ((Working.get (by simp) hlasting).conseq (fun _ h => h) fun size d h => ⟨h.1, ?_⟩)
    fun size => Triple.assuming fun hsize => ?_
  · rw [← h.2]
    exact h.1.holds.2.size
  rw [if_neg hsize]
  exact Triple.conseq (P := Working t (Reading m l 0)) (Triple.bind hloop fun _ => Triple.pure
    fun _ h => h) (fun _ hd => hd.mono fun h => ⟨h.1, h.2.held, h.2.index⟩) fun _ _ h => h

/-- The packet is released, and what is left of the data can come, or not. -/
theorem Endpoint_ClearOUT.working {i : Nat} :
    Triple integrity (Working (ρ := ρ) t (Reading m l i)) Endpoint_ClearOUT
      (fun _ => Working t (Stage m (l.drop 64))) := by
  have hdue : Lasting (fun d : Device ρ => d.firmware_data = m ∧ d.ep.Due (l.drop 64)) :=
    fun _ _ h => ⟨h.1, h.2.interrupt⟩
  refine Triple.bind (R := fun _ => Working t (Reading m l 0)) (Working.modify (by simp)
    Reading.lasting (fun _ => ⟨rfl, rfl⟩) fun d h => ⟨h.firmware, ?_, rfl⟩) fun _ => ?_
  · exact ⟨h.held.ne_nil, h.held.out, h.held.full, h.held.buffer, h.held.inFlight⟩
  refine Triple.bind (R := fun _ => Working t fun d => d.firmware_data = m ∧ d.ep.Due (l.drop 64))
    (Working.modify (by simp) Reading.lasting (fun _ => ⟨rfl, rfl⟩) fun d h =>
      ⟨h.firmware, h.held.due h.index false⟩) fun _ => ?_
  refine Working.modify (by simp) hdue (fun _ => ⟨rfl, rfl⟩) fun d h => ?_
  have hrest : Endpoint.Due (l.drop 64) { d.ep with isOutReceived := false } :=
    ⟨h.2.index, h.2.inFlight⟩
  exact (hrest.rest rfl).imp_left fun hw => ⟨h.1, hw⟩

/-! ## Packets that are missing -/

theorem shortView : ReaderView (fun d : Device ρ => (d.USB_ControlRequest, d.ep.SETUPReceived,
    d.ep.isOutReceived, supply d)) :=
  ⟨fun _ _ => rfl, fun _ _ => rfl, fun _ _ => rfl⟩

theorem Endpoint_Read_Stream_LE.flagged {n : Nat} :
    Triple integrity (Working (ρ := ρ) t (Flagged l)) (Endpoint_Read_Stream_LE k n)
      (fun _ => Working t (Flagged l)) :=
  (Endpoint_Read_Stream_LE.keeps shortView harmless_ops.toDriverOps
    (fun _ _ _ => nofun)).triple
    (fun d d' hv hd => by
      simp only [Prod.mk.injEq] at hv
      obtain ⟨ht, hset, hout, hsupply⟩ := hv
      obtain ⟨hr, hg, hshort, hflag⟩ := hd
      refine ⟨ht ▸ hr, hg.of_eq hsupply, ?_, hout ▸ hflag⟩
      have hin : d.ep.inFlight = d'.ep.inFlight := congrArg Prod.fst hsupply
      unfold Endpoint.Short Endpoint.coming at hshort ⊢
      rwa [← hset, ← hin, ← hout])
    (fun _ _ => Working.stable Flagged.lasting) (fun _ _ hop _ h => absurd h (hop.elim id id))
    (fun _ _ => trivial)

theorem Endpoint_ClearOUT.flagged (hl : l ≠ []) :
    Triple integrity (Working (ρ := ρ) t (Flagged l)) Endpoint_ClearOUT
      (fun _ => Working t fun d => d.ep.Short (l.drop 64)) :=
  Triple.bind (R := fun _ => Working t (Flagged l)) (Working.modify (by simp) Flagged.lasting
    (fun _ => ⟨rfl, rfl⟩) fun _ h => ⟨h.short, h.out⟩) fun _ =>
  Triple.bind (R := fun _ => Working t (Flagged l)) (Working.modify (by simp) Flagged.lasting
    (fun _ => ⟨rfl, rfl⟩) fun _ h => ⟨h.short, h.out⟩) fun _ =>
  Working.modify (by simp) Flagged.lasting (fun _ => ⟨rfl, rfl⟩) fun _ h => h.short.rest hl h.out

/-! ## A block -/

/-- A wait that ends well has brought the next packet, or a flag that is of no use. -/
def Loaded (m : Nat → UInt8) (l : List UInt8) (d : Device ρ) : Prop :=
  (d.firmware_data = m ∧ d.ep.Arrived l) ∨ Flagged l d

theorem Stage.loaded (h : Stage m l d) (hl : l ≠ []) (ho : d.ep.isOutReceived = true) :
    Loaded m l d :=
  h.imp (fun h => ⟨h.1, h.2.arrived hl ho⟩) fun h => ⟨h, ho⟩

theorem Endpoint_WaitUntilReady.working (hl : l ≠ []) :
    Triple integrity (Working (ρ := ρ) t (Stage m l)) Endpoint_WaitUntilReady
      (fun code => Working t fun d => code = .ENDPOINT_READYWAIT_NoError → Loaded m l d) := by
  refine Triple.bind (R := fun ready => Working t fun d => Stage m l d ∧
      (ready = true → Loaded m l d)) (Triple.poll (Working.stable Stage.lasting)
    (fun _ _ h => nomatch h) (fun d hd hr => hd.mono fun h => ⟨h, fun _ => h.loaded hl hr⟩)
    fun _ hd _ _ => hd.mono fun h => ⟨h, fun h => nomatch h⟩) fun ready => ?_
  cases ready with
  | true => exact Triple.pure fun _ hd => hd.mono fun h _ => h.2 rfl
  | false =>
      refine Triple.conseq (P := Working t (Stage m l)) (Triple.get (Working.stable Stage.lasting)
        (fun _ _ h => nomatch h) fun _ hd _ => hd.mono fun _ hcode => absurd hcode ?_)
        (fun _ hd => hd.mono And.left) fun _ _ h => h
      split_ifs <;> simp

/-- The packet that was found goes to `firmware_data`. -/
theorem readPacket (hl : l ≠ []) (hk : k + toread l.length ≤ 512) :
    Triple integrity (Working (ρ := ρ) t (Loaded m l))
      (do let _ ← Endpoint_Read_Stream_LE k (toread l.length); Endpoint_ClearOUT)
      (fun _ => Working t (Stage (fill m k (toread l.length) (padded 0 l)) (l.drop 64))) := by
  have hcases (d : Device ρ) (hd : Working t (Loaded m l) d) :
      Working t (fun d => d.firmware_data = m ∧ d.ep.Arrived l) d ∨ Working t (Flagged l) d :=
    hd.holds.imp (fun h => hd.mono fun _ => h) fun h => hd.mono fun _ => h
  refine Triple.conseq (Triple.or ?_ ?_) hcases fun _ _ h => h
  · exact Triple.bind (Endpoint_Read_Stream_LE.working (by rw [toread_eq]) hk) fun _ =>
      Endpoint_ClearOUT.working
  · exact Triple.bind Endpoint_Read_Stream_LE.flagged fun _ =>
      (Endpoint_ClearOUT.flagged hl).conseq (fun _ h => h) fun _ _ hd => hd.mono .inr

theorem requestSupplyView : HandlerView
    (fun d : Device ρ => (d.USB_ControlRequest, supply d)) where
  onEp d f hin hsetup hsent := congrArg (d.USB_ControlRequest, ·) (supplyView.onEp d f hin hsetup hsent)
  firmware _ _ := rfl
  statusStage _ := rfl
  stall _ := rfl
  state _ _ := rfl
  status _ _ := rfl
  address _ _ := rfl
  detach _ _ := rfl
  iap _ _ _ _ := rfl

theorem working_keeps {α : Type} {p : Task ρ α}
    (h : p.Keeps Harmless Harmless (fun d => (d.USB_ControlRequest, supply d))) :
    Triple integrity (Working t fun _ => True) p (fun _ => Working t fun _ => True) :=
  h.triple (fun _ _ hv hd => by
      obtain ⟨ht, hsupply⟩ := Prod.mk.inj hv
      exact ⟨ht ▸ hd.request, hd.good.of_eq hsupply, trivial⟩)
    (fun _ _ => Working.stable lasting_true) (fun _ _ hop _ h => absurd h (hop.elim id id))
    (fun _ _ => trivial)

theorem endpointNotReady.working {J : Bool → Device ρ → Prop} (hJ : ∀ d, J false d) :
    Triple integrity (Working t fun _ => True) endpointNotReady (fun ready => Working t (J ready)) := by
  have hv := (requestSupplyView (ρ := ρ)).toDriverView
  have ho := harmless_ops.toDriverOps
  exact Triple.bind (working_keeps (Endpoint_ClearOUT.keeps hv.endpoint ho)) fun _ =>
    Triple.bind (working_keeps (Endpoint_ClearStatusStage.keeps hv ho)) fun _ =>
      Triple.pure fun _ hd => hd.mono fun _ => hJ _

/-- A block loop that comes to its end has read all of the data. -/
theorem readBlock.working {n : Nat} (hn : l.length ≤ n) (hk : k + l.length ≤ 512) :
    Triple integrity (Working (ρ := ρ) t (Stage m l)) (readBlock n l.length k) (fun ready =>
      Working t fun d => ready = true → d.firmware_data = fill m k l.length (padded 0 l)) := by
  have hnil (m : Nat → UInt8) (k : Nat) : Triple integrity (Working (ρ := ρ) t (Stage m []))
      (Pure.pure true) (fun ready => Working t fun d =>
        ready = true → d.firmware_data = fill m k 0 (padded 0 [])) :=
    Triple.pure fun _ hd => hd.mono fun h _ => by
      rw [fill_zero]
      exact (h.resolve_right Endpoint.not_short_nil).1
  induction n generalizing l k m with
  | zero =>
      obtain rfl := List.length_eq_zero_iff.mp (by omega : l.length = 0)
      exact hnil m k
  | succ n ih =>
      rcases eq_or_ne l [] with rfl | hl
      · exact hnil m k
      have hpos : 0 < l.length := List.length_pos_iff.mpr hl
      have hread := toread_eq l.length
      have hdrop := length_drop_toread l
      rw [readBlock, if_neg (by omega)]
      refine Triple.bind (Endpoint_WaitUntilReady.working hl) fun code => Triple.ite (fun _ => ?_)
        fun hcode => ?_
      · exact (endpointNotReady.working (J := fun ready d => ready = true →
          d.firmware_data = fill m k l.length (padded 0 l)) fun _ h => by cases h).conseq
          (fun _ hd => hd.mono fun _ => trivial) fun _ _ h => h
      · have hrest := ih (l := l.drop 64) (k := k + toread l.length)
          (m := fill m k (toread l.length) (padded 0 l)) (by omega) (by omega)
        rw [fill_toread, hdrop] at hrest
        rw [← Prog.bind_assoc]
        exact Triple.conseq (P := Working t (Loaded m l)) (Triple.bind (readPacket hl (by omega))
          fun _ => hrest) (fun _ hd => hd.mono fun h => h (not_not.mp hcode)) fun _ _ h => h

/-- Only a block that is intact is programmed. -/
theorem writeBlock.working (hm : ∀ i < 512, m i = padded 0 t.data i) :
    Triple integrity (Working t fun d => d.firmware_data = m) (writeBlock P)
      (fun _ => Working (ρ := ρ) t fun _ => True) := by
  have hv := requestSupplyView (ρ := ρ)
  have hassign {f : Device ρ → Device ρ} (hf : Keeping f)
      (hfirm : ∀ d, (f d).firmware_data = d.firmware_data) :
      Triple integrity (Working t fun d => d.firmware_data = m) (Prog.modify .access f)
        (fun _ => Working t fun d => d.firmware_data = m) :=
    Working.modify (by simp) lasting_firmware hf fun d h => (hfirm d).trans h
  refine Triple.bind (hassign (fun _ => ⟨rfl, rfl⟩) fun _ => rfl) fun _ =>
    Triple.bind (hassign (fun _ => ⟨rfl, rfl⟩) fun _ => rfl) fun _ =>
    Triple.bind (R := fun _ => Working t fun _ => True) (Triple.exec (Working.stable lasting_firmware)
      (fun d hd _ i hi => ?_) fun d hd _ => ?_) fun result => ?_
  · rw [hd.holds, hd.request]
    exact hm i hi
  · exact ⟨hd.request, hd.good.of_eq rfl, trivial⟩
  · have ho := harmless_ops.toDriverOps
    exact working_keeps (.ite (fun _ => .bind (setState.keeps hv.variables ho _) fun _ =>
      setStatus.keeps hv.variables ho _) fun _ => .pure _)

theorem block.working (ht : t.data.length ≤ 512) :
    Triple integrity (Working t (Stage m t.data)) (block P t.data.length)
      (fun _ => Working (ρ := ρ) t fun _ => True) := by
  have hv := requestSupplyView (ρ := ρ)
  refine Triple.bind (R := fun _ => Working t (Stage m t.data)) (Triple.get
    (Working.stable Stage.lasting) (fun _ _ h => nomatch h) fun _ hd _ => hd) fun state =>
    Triple.ite (fun _ => ?_) fun _ => ?_
  · refine Triple.conseq (P := Working t fun _ => True) (working_keeps ?_)
      (fun _ hd => hd.mono fun _ => trivial) fun _ _ h => h
    exact .bind (setState.keeps hv.variables harmless_ops.toDriverOps _) fun _ =>
      .bind (Endpoint_ClearOUT.keeps hv.toDriverView.endpoint harmless_ops.toDriverOps) fun _ =>
      .bind (Endpoint_ClearStatusStage.keeps hv.toDriverView harmless_ops.toDriverOps) fun _ => .pure _
  · -- the zeros behind the data are written first
    refine Triple.bind (R := fun _ => Working t (Stage (fill m 0 512 fun _ => 0) t.data))
      (Working.modify (by simp) Stage.lasting (fun _ => ⟨rfl, rfl⟩) fun d h => ?_) fun _ =>
      Triple.bind (readBlock.working (le_refl _) (by omega)) fun ready => ?_
    · exact h.imp_left fun h => ⟨by rw [h.1]; rfl, h.2⟩
    cases ready with
    | false =>
        exact Triple.pure fun _ hd => hd.mono fun _ => trivial
    | true =>
        refine Triple.conseq (P := Working t fun d => d.firmware_data =
          fill (fill m 0 512 fun _ => 0) 0 t.data.length (padded 0 t.data)) (Triple.bind
          (writeBlock.working fun i hi => ?_) fun _ => working_keeps ?_)
          (fun _ hd => hd.mono fun h => h rfl) fun _ _ h => h
        · unfold fill
          split
          · rfl
          · rw [if_pos (by omega), padded_of_le (by omega)]
        · exact .bind (by simp [supply, harmless_ops.access]) fun _ => .pure _

theorem dnload.working {wValue : Nat} (hw : 2 ≤ wValue) (ht : t.data.length ≤ 512) :
    Triple integrity (Working t (Stage m t.data)) (dnload P wValue t.data.length)
      (fun _ => Working (ρ := ρ) t fun _ => True) := by
  have hv := (requestSupplyView (ρ := ρ)).toDriverView
  rw [dnload, if_neg (by omega), if_pos hw]
  refine Triple.bind (R := fun _ => Working t (Stage m t.data)) (Triple.pure fun _ h => h) fun _ =>
    Triple.ite (fun _ => ?_) (fun _ => ?_)
  · refine Triple.bind (block.working ht) fun _ => Triple.ite (fun _ => ?_) fun _ =>
      Triple.pure fun _ h => h
    exact working_keeps (.bind (Endpoint_ClearOUT.keeps hv.endpoint harmless_ops.toDriverOps) fun _ =>
      Endpoint_ClearStatusStage.keeps hv harmless_ops.toDriverOps)
  · exact Triple.pure fun _ hd => hd.mono fun _ => trivial

/-! ## One turn -/

/-- Where the flags are in step, all of the data can come, or packets are missing already. -/
theorem Good.stage (h : Good d) (hblock : IsBlock d.USB_ControlRequest)
    (hi : d.ep.usb_data_buffer_index = 0) (hstep : InStep d) :
    d.ep.Whole d.USB_ControlRequest.data ∨ d.ep.Short d.USB_ControlRequest.data := by
  by_cases hlength : d.USB_ControlRequest.wLength = 0
  · have hlen := (h.announced_of_inStep hstep hblock.1).1
    rw [hlength] at hlen
    exact .inl (.inl (List.length_eq_zero_iff.mp hlen))
  refine Endpoint.Due.rest ⟨hi, hstep.2.imp And.left fun hsetup => ?_⟩ (hstep.1 hlength)
  have hsupplied := h.supplied
  rw [Endpoint.Supplied, hsetup] at hsupplied
  exact (Nat.lt_or_eq_of_le hsupplied.length_le).symm.imp_left hsupplied.eq_of_length

theorem Endpoint_ClearSETUP.working (hblock : IsBlock t) :
    Triple integrity (Working t fun d => d.firmware_data = m) (Endpoint_ClearSETUP .handlerClearSETUP)
      (fun _ d => Working (ρ := ρ) t (Stage m t.data) d ∧ Announced t) := by
  have hindex : Lasting (fun d : Device ρ => d.firmware_data = m ∧ d.ep.usb_data_buffer_index = 0) :=
    fun ev d h => ⟨h.1, (Endpoint.index_interrupt ev d.ep).trans h.2⟩
  refine Triple.bind (R := fun _ => Working t fun d => d.firmware_data = m) (Working.modify (by simp)
    lasting_firmware (fun _ => ⟨rfl, rfl⟩) fun _ h => h) fun _ =>
    Triple.bind (R := fun _ => Working t fun d => d.firmware_data = m ∧
      d.ep.usb_data_buffer_index = 0) (Working.modify (by simp) lasting_firmware
      (fun _ => ⟨rfl, rfl⟩) fun _ h => ⟨h, rfl⟩) fun _ =>
    Triple.bind (R := fun _ => Working t fun d => d.firmware_data = m ∧
      d.ep.usb_data_buffer_index = 0) (Working.modify (by simp) hindex
      (fun _ => ⟨rfl, rfl⟩) fun _ h => h) fun _ => ?_
  refine Triple.modify (Working.stable hindex) (fun _ _ h => nomatch h) fun d hd hstep => ?_
  have hin : InStep d := hstep rfl (hd.request ▸ hblock)
  have hgood : Good (d.onEp fun e => { e with rxFull := false }) := hd.good.of_eq rfl
  have hannounced : Announced t := hd.request ▸ hd.good.announced_of_inStep hin
  refine ⟨⟨hd.request, hgood, ?_⟩, hannounced⟩
  have hreq : (d.onEp fun e => { e with rxFull := false }).USB_ControlRequest = t := hd.request
  have hstage := hgood.stage (hreq ▸ hblock) hd.holds.2 hin
  rw [hreq] at hstage
  exact hstage.imp_left fun h => ⟨hd.holds.1, h⟩

theorem EVENT_USB_Device_ControlRequest.good :
    Triple integrity (Working t fun d => d.firmware_data = m) (EVENT_USB_Device_ControlRequest P)
      (fun _ => Good (ρ := ρ)) := by
  refine Triple.bind (R := fun _ => Working t fun d => d.firmware_data = m) (Triple.exec
    (Working.stable lasting_firmware) (fun _ _ h => nomatch h) fun d hd _ =>
      ⟨hd.request, hd.good.of_eq rfl, hd.holds⟩) fun received =>
    Triple.ite (fun _ => ?_) fun _ => Triple.pure fun _ hd => hd.good
  refine Working.get_header (f := (·.isClassInterface)) lasting_firmware (Triple.ite (fun hc => ?_)
    fun _ => Triple.pure fun _ hd => hd.good)
  refine Working.get_header (f := (·.wValue.toNat)) lasting_firmware
    (Working.get_header (f := (·.wLength.toNat)) lasting_firmware ?_)
  have hq : DFU_REQ.ofCode t.bRequest = dfuRequest t.toUSB_Request_Header_t := (if_pos hc).symm
  by_cases hblock : IsBlock t
  · refine Triple.bind (Endpoint_ClearSETUP.working hblock) fun _ => Triple.assuming fun ht =>
      Working.get_header (f := (·.bRequest)) Stage.lasting ?_
    obtain ⟨hlen, hfit⟩ := ht hblock.1
    rw [hq, hblock.1, ← hlen]
    exact (dnload.working hblock.2 (by omega)).conseq (fun _ h => h) fun _ _ hd => hd.good
  · refine Triple.bind (R := fun _ => Working t fun _ => True) (Triple.conseq (working_keeps
      (Endpoint_ClearSETUP.keeps requestSupplyView.toDriverView harmless_ops.toDriverOps _))
      (fun _ hd => hd.mono fun _ => trivial) fun _ _ h => h) fun _ =>
      Working.get_header (f := (·.bRequest)) lasting_true ?_
    rw [hq]
    exact Triple.conseq (good_keeps (switch.keeps supplyView harmless_ops.toDriverOps P
      (by simp [Harmless]) (fun hdn hw => absurd ⟨hdn, hw⟩ hblock)
      (fun _ => harmless_ops.inReady) (by simp [Harmless]) (by simp [Harmless]))) (fun _ hd => hd.good) fun _ _ h => h

/-- Whatever header has been copied, it is the request that the handler works on. -/
theorem USB_Device_ProcessControlRequest_good :
    Triple integrity Good (USB_Device_ProcessControlRequest P) (fun _ => Good (ρ := ρ)) := by
  have hcopy : Triple integrity Good Endpoint_GetSetupPackage (fun _ => Good (ρ := ρ)) :=
    Endpoint_GetSetupPackage.stays (fun _ => good_stable) (fun _ _ _ h => nomatch h)
      fun _ _ h => h.of_eq rfl
  exact Triple.bind hcopy fun _ => Triple.bind (R := fun _ => Good) (fun d hd =>
    EVENT_USB_Device_ControlRequest.good d ⟨rfl, hd, rfl⟩) fun _ =>
    Triple.bind (good_keeps (standardRequests.keeps supplyLibraryView harmless_ops P)) fun _ =>
      good_keeps (stallUnhandled.keeps harmless_ops supplyView.toDriverView)

theorem task_loop_good : Triple integrity Good (task_loop P) (fun _ => Good (ρ := ρ)) := by
  refine task_loop_invariant (fun _ _ => good_stable) (fun op d hout _ hwrite => ?_)
    (fun _ hd => hd.of_eq rfl)
    (USB_Device_ProcessControlRequest_good.conseq (fun _ h => h.1) fun _ _ h => h)
  rw [hwrite] at hout
  simp [Outside] at hout

end DfuSeBootloader.Dfu
