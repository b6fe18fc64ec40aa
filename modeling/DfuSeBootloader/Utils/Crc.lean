import DfuSeBootloader.Crc.Polynomial

/-!
# The checksum of a buffer

`utils_calc_crc` and `utils_calc_crc_feed` of `utils_srv.c`: a register of 8 bits, the lowest bit of
every byte first.
-/

namespace DfuSeBootloader.Utils
open Crc Polynomial

/-! ## The functions -/

/-- The loop over the bits of a byte, with `n` turns to go. -/
def utils_calc_crc.bits : (n : Nat) → (tmp tmp1 crc : UInt8) → UInt8
  | 0, _, _, crc => crc
  | n + 1, tmp, tmp1, crc =>
      let tmp := tmp ^^^ crc
      let crc := if 0x01 &&& tmp ≠ 0 then (crc >>> 1) ^^^ 0x8c else crc >>> 1
      let tmp1 := tmp1 >>> 1
      let tmp := tmp1
      utils_calc_crc.bits n tmp tmp1 crc

/-- The loop over the buffer. -/
def utils_calc_crc.bytes : (from_buffer : List UInt8) → (crc : UInt8) → UInt8
  | [], crc => crc
  | byte :: from_buffer, crc =>
      let tmp1 := byte
      let tmp := tmp1
      utils_calc_crc.bytes from_buffer (utils_calc_crc.bits 8 tmp tmp1 crc)

/-- `from_buffer` holds the `buffer_size` bytes that the loop reads. -/
def utils_calc_crc (from_buffer : List UInt8) : UInt8 := utils_calc_crc.bytes from_buffer 0

/-- The loop over the bits of the byte, with `n` turns to go. -/
def utils_calc_crc_feed.bits : (n : Nat) → (tmp tmp1 crc_old : UInt8) → UInt8
  | 0, _, _, crc_old => crc_old
  | n + 1, tmp, tmp1, crc_old =>
      let tmp := tmp ^^^ crc_old
      let crc_old := if 0x01 &&& tmp ≠ 0 then (crc_old >>> 1) ^^^ 0x8c else crc_old >>> 1
      let tmp1 := tmp1 >>> 1
      let tmp := tmp1
      utils_calc_crc_feed.bits n tmp tmp1 crc_old

def utils_calc_crc_feed (from_buffer_char crc_old : UInt8) : UInt8 :=
  let tmp1 := from_buffer_char
  let tmp := tmp1
  utils_calc_crc_feed.bits 8 tmp tmp1 crc_old

/-- A buffer is fed byte by byte. -/
def feed (buffer : List UInt8) (crc_old : UInt8) : UInt8 :=
  buffer.foldl (fun crc byte => utils_calc_crc_feed byte crc) crc_old

/-! ## The register -/

/-- The feedback mask of both functions. -/
def crcMask : BitVec 8 := 0x8c

/-- The lowest `n` bits of a byte, the lowest first. -/
def bitsOf (n : Nat) (byte : UInt8) : List Bool :=
  (List.range n).map fun i => byte.toBitVec.getLsbD i

/-- The bits of a buffer in the order in which they are taken in. -/
def bitStream (buffer : List UInt8) : List Bool := buffer.flatMap (bitsOf 8)

theorem bitsOf_succ {n : Nat} {byte : UInt8} :
    bitsOf (n + 1) byte = byte.toBitVec.getLsbD 0 :: bitsOf n (byte >>> 1) := by
  simp [bitsOf, List.range_succ_eq_map, Function.comp_def, Nat.add_comm 1]

theorem lowBit_iff {byte : UInt8} : 0x01 &&& byte ≠ 0 ↔ byte.toBitVec.getLsbD 0 = true := by
  have h : (0x01 &&& byte).toBitVec = (BitVec.ofBool (byte.toBitVec.getLsbD 0)).setWidth 8 := by
    rw [UInt8.toBitVec_and, BitVec.and_comm]
    exact BitVec.and_one_eq_setWidth_ofBool_getLsbD
  rw [Ne, ← UInt8.toBitVec_inj, h]
  cases byte.toBitVec.getLsbD 0 <;> decide

theorem bits_eq_run {n : Nat} {byte crc : UInt8} :
    (utils_calc_crc.bits n byte byte crc).toBitVec = run crcMask (bitsOf n byte) crc.toBitVec := by
  induction n generalizing byte crc with
  | zero => rfl
  | succ n ih =>
      have hfeed : 0x01 &&& (byte ^^^ crc) ≠ 0 ↔
          (crc.toBitVec.getLsbD 0 ^^ byte.toBitVec.getLsbD 0) = true := by
        rw [lowBit_iff, UInt8.toBitVec_xor, BitVec.getLsbD_xor, Bool.xor_comm]
      rw [utils_calc_crc.bits, ih, bitsOf_succ, run_cons]
      congr 1
      simp only [hfeed, shift]
      split <;> rfl

theorem feed_bits_eq (n : Nat) (tmp tmp1 crc : UInt8) :
    utils_calc_crc_feed.bits n tmp tmp1 crc = utils_calc_crc.bits n tmp tmp1 crc := by
  induction n generalizing tmp tmp1 crc with
  | zero => rfl
  | succ n ih => exact ih _ _ _

theorem bytes_eq_run {buffer : List UInt8} {crc : UInt8} :
    (utils_calc_crc.bytes buffer crc).toBitVec = run crcMask (bitStream buffer) crc.toBitVec := by
  induction buffer generalizing crc with
  | nil => rfl
  | cons byte buffer ih =>
      rw [utils_calc_crc.bytes, ih, bits_eq_run, ← run_append]
      rfl

theorem crc_eq_run (buffer : List UInt8) :
    (utils_calc_crc buffer).toBitVec = run crcMask (bitStream buffer) 0 := bytes_eq_run

theorem feed_eq_bytes (buffer : List UInt8) (crc : UInt8) :
    feed buffer crc = utils_calc_crc.bytes buffer crc := by
  induction buffer generalizing crc with
  | nil => rfl
  | cons byte buffer ih =>
      rw [feed, List.foldl_cons, ← feed, ih, utils_calc_crc_feed, feed_bits_eq]
      rfl

theorem bytes_append (a b : List UInt8) (crc : UInt8) :
    utils_calc_crc.bytes (a ++ b) crc = utils_calc_crc.bytes b (utils_calc_crc.bytes a crc) := by
  rw [← feed_eq_bytes, ← feed_eq_bytes, ← feed_eq_bytes, feed, List.foldl_append]
  rfl

/-! ## Polynomial division -/

theorem generator_crcMask : generator crcMask = X ^ 8 + X ^ 5 + X ^ 4 + 1 := by
  have hbits : ∀ i ∈ Finset.range 8, crcMask.getLsbD i = decide (i = 2 ∨ i = 3 ∨ i = 7) := by decide
  have hsum : registerPoly crcMask =
      ∑ i ∈ Finset.range 8, C (bit (decide (i = 2 ∨ i = 3 ∨ i = 7))) * X ^ (8 - 1 - i) :=
    Finset.sum_congr rfl fun i hi => by rw [hbits i hi]
  rw [generator, hsum]
  simp [Finset.sum_range_succ, bit, add_assoc]

/-- The remainder of the division by `X ^ 8 + X ^ 5 + X ^ 4 + 1`. -/
noncomputable def crc8 (buffer : List UInt8) : UInt8 :=
  ⟨polynomialCrc 8 (X ^ 8 + X ^ 5 + X ^ 4 + 1) (bitStream buffer)⟩

theorem crc_eq_crc8 (buffer : List UInt8) : utils_calc_crc buffer = crc8 buffer := by
  rw [← UInt8.toBitVec_inj, crc_eq_run, crc8, ← generator_crcMask]
  exact run_eq_polynomialCrc

/-- A buffer may be cut into chunks in any way, and both functions divide polynomials. -/
theorem whole_buffer_and_feed_agree :
    (∀ chunks : List (List UInt8),
      chunks.foldl (fun crc chunk => feed chunk crc) 0 = utils_calc_crc chunks.flatten) ∧
    (∀ a b, utils_calc_crc (a ++ b) = feed b (utils_calc_crc a)) ∧
    (∀ buffer, utils_calc_crc buffer = crc8 buffer ∧ feed buffer 0 = crc8 buffer) := by
  have happend (a b : List UInt8) : utils_calc_crc (a ++ b) = feed b (utils_calc_crc a) := by
    rw [feed_eq_bytes, utils_calc_crc, bytes_append]
    rfl
  have hchunks (a : List UInt8) (chunks : List (List UInt8)) :
      chunks.foldl (fun crc chunk => feed chunk crc) (utils_calc_crc a) =
        utils_calc_crc (a ++ chunks.flatten) := by
    induction chunks generalizing a with
    | nil => rw [List.foldl_nil, List.flatten_nil, List.append_nil]
    | cons chunk chunks ih =>
        rw [List.foldl_cons, ← happend, ih, List.flatten_cons, List.append_assoc]
  refine ⟨hchunks [], happend, fun buffer => ⟨crc_eq_crc8 buffer, ?_⟩⟩
  rw [← crc_eq_crc8, feed_eq_bytes]
  rfl

/-! ## Burst errors -/

/-- A buffer with its checksum behind it. -/
def frame (m : List UInt8) : List UInt8 := m ++ [utils_calc_crc m]

/-- The bit streams differ in bit number `i`. -/
def DifferAt (f g : List UInt8) (i : Nat) : Prop := (bitStream f)[i]? ≠ (bitStream g)[i]?

instance (f g : List UInt8) (i : Nat) : Decidable (DifferAt f g i) :=
  inferInstanceAs (Decidable (_ ≠ _))

theorem length_bitStream (buffer : List UInt8) : (bitStream buffer).length = 8 * buffer.length := by
  induction buffer with
  | nil => rfl
  | cons byte buffer ih =>
      have hbyte : (bitsOf 8 byte).length = 8 := by simp [bitsOf]
      rw [bitStream, List.flatMap_cons, List.length_append, hbyte, ← bitStream, ih, List.length_cons]
      omega

theorem load_bitsOf (byte : UInt8) : load 8 (bitsOf 8 byte) = byte.toBitVec := by
  refine BitVec.eq_of_getLsbD_eq fun i hi => ?_
  rw [getLsbD_load hi]
  simp [bitsOf, hi]

theorem crc_frame (m : List UInt8) : utils_calc_crc (frame m) = 0 := by
  have hstream : bitStream (frame m) = bitStream m ++ bitsOf 8 (utils_calc_crc m) := by
    simp [frame, bitStream]
  rw [← UInt8.toBitVec_inj, crc_eq_run, hstream, run_append, ← crc_eq_run]
  exact run_self (by simp [bitsOf]) (load_bitsOf _)

/-- Where two buffers differ is a burst of their difference. -/
theorem burst_of_differAt {f g : List UInt8} {k : Nat} (hlen : g.length = f.length)
    (hsome : ∃ i, DifferAt f g i) (hnear : ∀ i, DifferAt f g i → k ≤ i ∧ i < k + 8) :
    Burst 8 (List.zipWith (· ^^ ·) (bitStream g) (bitStream f)) := by
  have hlen' : (bitStream g).length = (bitStream f).length := by
    rw [length_bitStream, length_bitStream, hlen]
  have hiff (i : Nat) :
      (List.zipWith (· ^^ ·) (bitStream g) (bitStream f))[i]? = some true ↔ DifferAt f g i := by
    rw [List.getElem?_zipWith, DifferAt]
    rcases Nat.lt_or_ge i (bitStream f).length with hi | hi
    · rw [List.getElem?_eq_getElem hi, List.getElem?_eq_getElem (hlen' ▸ hi)]
      cases (bitStream f)[i] <;> cases (bitStream g)[i] <;> simp
    · rw [List.getElem?_eq_none hi, List.getElem?_eq_none (hlen' ▸ hi)]
      simp
  obtain ⟨i, hi⟩ := hsome
  exact ⟨List.mem_of_getElem? ((hiff i).mpr hi), k, fun j hj => hnear j ((hiff j).mp hj)⟩

/-- A frame checks out, and no frame does that a burst of up to 8 bits has changed. -/
theorem crc_detects_bursts (m : List UInt8) : utils_calc_crc (frame m) = 0 ∧
    ∀ (g : List UInt8) (k : Nat), g.length = (frame m).length → (∃ i, DifferAt (frame m) g i) →
      (∀ i, DifferAt (frame m) g i → k ≤ i ∧ i < k + 8) → utils_calc_crc g ≠ 0 := by
  refine ⟨crc_frame m, fun g k hlen hsome hnear hzero => ?_⟩
  have hburst := burst_of_differAt hlen hsome hnear
  have hxor := @run_xor 8 crcMask 0 0 (bitStream g) (bitStream (frame m))
    (by rw [length_bitStream, length_bitStream, hlen])
  rw [← crc_eq_run, ← crc_eq_run, hzero, crc_frame] at hxor
  exact hburst.run_ne_zero (by decide) hxor

/-- A burst that begins in the data and ends in the checksum. -/
theorem altered_frame_detected :
    utils_calc_crc [0x80 ^^^ 0xC0, utils_calc_crc [0x80] ^^^ 0x21] ≠ 0 := by
  refine (crc_detects_bursts [0x80]).2 _ 6 rfl ⟨6, by decide⟩ fun i hi => ?_
  rcases Nat.lt_or_ge i 16 with h | h
  · have hbits : ∀ i < 16, DifferAt (frame [0x80])
        [0x80 ^^^ 0xC0, utils_calc_crc [0x80] ^^^ 0x21] i → 6 ≤ i ∧ i < 6 + 8 := by decide
    exact hbits i h hi
  · refine absurd ?_ hi
    rw [List.getElem?_eq_none h, List.getElem?_eq_none h]

end DfuSeBootloader.Utils
