import IndoorRobot.FrameStream
import Mathlib.Data.List.Basic

/-!
# The checksum detects every burst of sixteen bits

A turn of the checksum loop is linear in exclusive or and injective, so what an
error does to the remainder does not depend on the frame. A burst touches three
neighbouring bytes at most; the zeros before them leave the remainder at zero and
the zeros behind them cannot bring it back there.
-/
namespace IndoorRobot

open ProtocolFrameFormat ByteCodec

/-! ### The remainder is linear -/

/-- The feedback depends on the top bit alone. -/
theorem crc16Bit_eq (crc : UInt16) :
    crc16Bit crc = crc <<< 1 ^^^ if crc.toBitVec.getLsbD 15 then 0x1021 else 0 := by
  have hand : crc &&& 0x8000 = if crc.toBitVec.getLsbD 15 then 0x8000 else 0 := by
    apply UInt16.toBitVec_inj.mp
    have htop := BitVec.and_twoPow crc.toBitVec 15
    rw [UInt16.toBitVec_and, show (0x8000 : UInt16).toBitVec = BitVec.twoPow 16 15 by rfl, htop]
    split <;> rfl
  rw [crc16Bit, hand]
  cases crc.toBitVec.getLsbD 15 <;> simp

theorem crc16Bit_xor (first second : UInt16) :
    crc16Bit (first ^^^ second) = crc16Bit first ^^^ crc16Bit second := by
  rw [crc16Bit_eq, crc16Bit_eq, crc16Bit_eq, UInt16.shiftLeft_xor, UInt16.toBitVec_xor,
    BitVec.getLsbD_xor]
  cases first.toBitVec.getLsbD 15 <;> cases second.toBitVec.getLsbD 15
  · simp
  · simp only [Bool.false_xor, if_true, Bool.false_eq_true, if_false, UInt16.xor_zero]
    ac_rfl
  · simp only [Bool.xor_false, if_true, Bool.false_eq_true, if_false, UInt16.xor_zero]
    ac_rfl
  · have hcancel (feedback : UInt16) : first <<< 1 ^^^ feedback ^^^ (second <<< 1 ^^^ feedback) =
        first <<< 1 ^^^ second <<< 1 ^^^ (feedback ^^^ feedback) := by ac_rfl
    simp only [Bool.xor_self, Bool.false_eq_true, if_false, if_true]
    rw [hcancel, UInt16.xor_self]

/-- The polynomial has a constant term, so no remainder but zero is shifted to zero. -/
theorem crc16Bit_eq_zero {crc : UInt16} (h : crc16Bit crc = 0) : crc = 0 := by
  rw [crc16Bit_eq, UInt16.xor_eq_zero_iff] at h
  have hbits : ∀ i, (crc <<< 1).toBitVec.getLsbD i =
      (if crc.toBitVec.getLsbD 15 then (0x1021 : UInt16) else 0).toBitVec.getLsbD i :=
    fun i => by rw [h]
  have htop : crc.toBitVec.getLsbD 15 = false := by
    by_contra hset
    rw [Bool.not_eq_false] at hset
    have hzero := hbits 0
    simp [hset] at hzero
  apply UInt16.toBitVec_inj.mp
  apply BitVec.eq_of_getLsbD_eq
  intro i hi
  by_cases h15 : i = 15
  · rw [h15, htop]
    rfl
  · have hshift : (crc <<< 1).toBitVec.getLsbD (i + 1) = crc.toBitVec.getLsbD i := by
      have hin : i + 1 < 16 := by omega
      simp [hin, -BitVec.getLsbD_eq_getElem]
    rw [← hshift, hbits, htop]
    simp

theorem crc16Bit_iterate_xor (turns : ℕ) (first second : UInt16) :
    crc16Bit^[turns] (first ^^^ second) = crc16Bit^[turns] first ^^^ crc16Bit^[turns] second := by
  induction turns generalizing first second with
  | zero => rfl
  | succ turns ih => rw [Function.iterate_succ_apply, crc16Bit_xor, ih]; rfl

theorem crc16Bit_iterate_eq_zero {turns : ℕ} {crc : UInt16} (h : crc16Bit^[turns] crc = 0) :
    crc = 0 := by
  induction turns generalizing crc with
  | zero => exact h
  | succ turns ih => exact crc16Bit_eq_zero (ih h)

theorem crc16Byte_xor (first second : UInt16) (byte error : UInt8) :
    crc16Byte (first ^^^ second) (byte ^^^ error) =
      crc16Byte first byte ^^^ crc16Byte second error := by
  have hmix : first ^^^ second ^^^ (byte ^^^ error).toUInt16 <<< 8 =
      (first ^^^ byte.toUInt16 <<< 8) ^^^ (second ^^^ error.toUInt16 <<< 8) := by
    rw [UInt8.toUInt16_xor, UInt16.shiftLeft_xor]
    ac_rfl
  rw [crc16Byte, hmix, crc16Bit_iterate_xor]
  rfl

/-- An error changes the remainder by what it gives from zero. -/
theorem crc16CcittFalseUpdate_xor (data error : List UInt8) (hlength : error.length = data.length)
    (first second : UInt16) :
    crc16CcittFalseUpdate (first ^^^ second) (List.zipWith (· ^^^ ·) data error) =
      crc16CcittFalseUpdate first data ^^^ crc16CcittFalseUpdate second error := by
  induction data generalizing error first second with
  | nil =>
    obtain rfl : error = [] := List.eq_nil_of_length_eq_zero hlength
    rfl
  | cons byte data ih =>
    obtain ⟨bad, error, rfl⟩ : ∃ bad rest, error = bad :: rest :=
      List.exists_cons_of_length_eq_add_one hlength
    rw [List.zipWith_cons_cons, crc16CcittFalseUpdate_cons, crc16Byte_xor, ih error (by simpa using hlength)]
    rfl

theorem crc16Byte_zero_zero : crc16Byte 0 0 = 0 := by decide

/-- Zeros in front of an error. -/
theorem crc16CcittFalseUpdate_zeros (n : ℕ) :
    crc16CcittFalseUpdate 0 (List.replicate n 0) = 0 := by
  induction n with
  | zero => rfl
  | succ n ih => rw [List.replicate_succ, crc16CcittFalseUpdate_cons, crc16Byte_zero_zero, ih]

theorem crc16CcittFalseUpdate_append_zeros {error : List UInt8}
    (h : crc16CcittFalseUpdate 0 error = 0) (n : ℕ) :
    crc16CcittFalseUpdate 0 (error ++ List.replicate n 0) = 0 := by
  rw [crc16CcittFalseUpdate_append, h, crc16CcittFalseUpdate_zeros]

/-- Zeros behind an error. -/
theorem crc16CcittFalseUpdate_zeros_eq_zero {n : ℕ} {crc : UInt16}
    (h : crc16CcittFalseUpdate crc (List.replicate n 0) = 0) : crc = 0 := by
  induction n generalizing crc with
  | zero => exact h
  | succ n ih =>
    have hbyte := crc16Bit_iterate_eq_zero (ih h)
    simpa using hbyte

/-- Eight turns move a lone low byte up, with nothing to feed back. -/
theorem crc16Bit_iterate_low (low : UInt8) : crc16Bit^[8] low.toUInt16 = low.toUInt16 <<< 8 := by
  have hall : ∀ n < 256, crc16Bit^[8] (UInt8.ofNat n).toUInt16 =
      (UInt8.ofNat n).toUInt16 <<< 8 := by decide +kernel
  simpa using hall low.toNat low.toNat_lt

/-- The two bytes of a word do not overlap. -/
theorem join_eq_xor (high low : UInt8) :
    high.toUInt16 <<< 8 ||| low.toUInt16 = high.toUInt16 <<< 8 ^^^ low.toUInt16 := by
  apply UInt16.toBitVec_inj.mp
  apply BitVec.eq_of_getLsbD_eq
  intro i hi
  by_cases h8 : i < 8
  · simp [h8]
  · have hlow : low.toBitVec.getLsbD i = false := BitVec.getLsbD_of_ge _ _ (by omega)
    simp [hlow]

/-- Feeding a remainder its own two bytes brings it to zero, and nothing else does. -/
theorem crc16CcittFalseUpdate_pair_eq_zero (crc : UInt16) (high low : UInt8) :
    crc16CcittFalseUpdate crc [high, low] = 0 ↔ crc = high.toUInt16 <<< 8 ||| low.toUInt16 := by
  have hfold : crc16CcittFalseUpdate crc [high, low] =
      crc16Bit^[8] (crc16Bit^[8] (crc ^^^ high.toUInt16 <<< 8 ^^^ low.toUInt16)) := by
    rw [crc16Bit_iterate_xor 8 (crc ^^^ _), crc16Bit_iterate_low]
    rfl
  have hzero : crc16Bit^[8] 0 = 0 := by decide
  rw [hfold, join_eq_xor]
  constructor
  · intro h
    have hdiff := crc16Bit_iterate_eq_zero (crc16Bit_iterate_eq_zero h)
    rwa [UInt16.xor_assoc, UInt16.xor_eq_zero_iff] at hdiff
  · rintro rfl
    rw [UInt16.xor_assoc, UInt16.xor_self, hzero, hzero]

/-! ### Bursts -/

/-- Which end of a byte counts as first. -/
inductive BitOrder where
  | mostSignificantFirst | leastSignificantFirst
  deriving DecidableEq

/-- The place in its byte of the bit that comes `j`-th. -/
def BitOrder.place : BitOrder → ℕ → ℕ
  | .mostSignificantFirst, j => 7 - j
  | .leastSignificantFirst, j => j

/-- Bit `k` of a sequence of bytes. -/
def bitAt (order : BitOrder) (bytes : List UInt8) (k : ℕ) : Bool :=
  (bytes.getD (k / 8) 0).toNat.testBit (order.place (k % 8))

/-- The bits set are among sixteen consecutive ones. -/
def WithinSixteenBits (order : BitOrder) (error : List UInt8) : Prop :=
  ∃ start, ∀ k, bitAt order error k = true → start ≤ k ∧ k < start + 16

/-- The first byte of a burst has bits from its place `s` on, the third before it; the
remainder the first leaves cannot be cancelled by the other two. -/
theorem first_byte_remainder (order : BitOrder) (s : ℕ) (first : UInt8)
    (hfirst : ∀ j < 8, first.toNat.testBit (order.place j) = true → s ≤ j)
    (hlast : ∀ j < 8, (crc16Byte 0 first).toUInt8.toNat.testBit (order.place j) = true → j < s) :
    first = 0 := by
  -- Some bit of the remainder does not come before some bit of the byte.
  have hall : ∀ n < 256, n ≠ 0 → ∃ i < 8, n.testBit (order.place i) = true ∧ ∃ j < 8, i ≤ j ∧
      (crc16Byte 0 (UInt8.ofNat n)).toUInt8.toNat.testBit (order.place j) = true := by
    cases order <;> decide +kernel
  by_contra hne
  have hpos : first.toNat ≠ 0 := fun hz => hne (UInt8.toNat_inj.mp hz)
  obtain ⟨i, hi, hbyte, j, hj, hle, hbit⟩ := hall first.toNat first.toNat_lt hpos
  rw [UInt8.ofNat_toNat] at hbit
  have hge := hfirst i hi hbyte
  have hlt := hlast j hj hbit
  omega

/-- Three bytes of a burst. -/
theorem three_bytes_remainder (order : BitOrder) (s : ℕ) (first middle last : UInt8)
    (hfirst : ∀ j < 8, first.toNat.testBit (order.place j) = true → s ≤ j)
    (hlast : ∀ j < 8, last.toNat.testBit (order.place j) = true → j < s)
    (hzero : crc16CcittFalseUpdate 0 [first, middle, last] = 0) :
    first = 0 ∧ middle = 0 ∧ last = 0 := by
  rw [crc16CcittFalseUpdate_cons, crc16CcittFalseUpdate_pair_eq_zero] at hzero
  have hpair := hzero
  have hlow : (crc16Byte 0 first).toUInt8 = last := by rw [hpair, low_of_join]
  have hfirst0 := first_byte_remainder order s first hfirst (by rw [hlow]; exact hlast)
  rw [hfirst0, crc16Byte_zero_zero] at hpair
  have hmiddle := high_of_join middle last
  have hlast' := low_of_join middle last
  rw [← hpair] at hmiddle hlast'
  exact ⟨hfirst0, hmiddle.symm, hlast'.symm⟩

theorem eq_replicate_of_getD {bytes : List UInt8} (h : ∀ i, bytes.getD i 0 = 0) :
    bytes = List.replicate bytes.length 0 := by
  refine List.eq_replicate_of_mem ?_
  intro byte hbyte
  obtain ⟨i, hi, rfl⟩ := List.getElem_of_mem hbyte
  simpa [hi] using h i

/-- Bytes that vanish outside three neighbours leave the remainder those three leave. -/
theorem three_bytes_of_remainder (error : List UInt8) (q : ℕ)
    (hbefore : ∀ i < q, error.getD i 0 = 0) (hafter : ∀ i, q + 3 ≤ i → error.getD i 0 = 0)
    (hzero : crc16CcittFalseUpdate 0 error = 0) :
    crc16CcittFalseUpdate 0 [error.getD q 0, error.getD (q + 1) 0, error.getD (q + 2) 0] = 0 := by
  induction error generalizing q with
  | nil => simpa using crc16CcittFalseUpdate_zeros 3
  | cons first rest ih =>
    cases q with
    | succ q =>
      have hfirst : first = 0 := by simpa using hbefore 0 (by omega)
      rw [hfirst, crc16CcittFalseUpdate_cons, crc16Byte_zero_zero] at hzero
      have hrest := ih q (fun i hi => by simpa using hbefore (i + 1) (by omega))
        (fun i hi => by simpa using hafter (i + 1) (by omega)) hzero
      simpa using hrest
    | zero =>
      rcases rest with _ | ⟨middle, _ | ⟨last, zeros⟩⟩
      · exact crc16CcittFalseUpdate_append_zeros hzero 2
      · exact crc16CcittFalseUpdate_append_zeros hzero 1
      · have hzeros : zeros = List.replicate zeros.length 0 :=
          eq_replicate_of_getD fun i => by simpa using hafter (i + 3) (by omega)
        rw [hzeros, show first :: middle :: last :: List.replicate zeros.length 0 =
          [first, middle, last] ++ List.replicate zeros.length 0 by rfl,
          crc16CcittFalseUpdate_append] at hzero
        exact crc16CcittFalseUpdate_zeros_eq_zero hzero

theorem bitAt_place (order : BitOrder) (bytes : List UInt8) (i j : ℕ) (hj : j < 8) :
    bitAt order bytes (8 * i + j) = (bytes.getD i 0).toNat.testBit (order.place j) := by
  rw [bitAt, show (8 * i + j) / 8 = i by omega, show (8 * i + j) % 8 = j by omega]

/-- A byte none of whose eight bits is set. -/
theorem eq_zero_of_place (order : BitOrder) (byte : UInt8)
    (h : ∀ j < 8, byte.toNat.testBit (order.place j) = false) : byte = 0 := by
  have hplace : ∀ t < 8, ∃ j < 8, order.place j = t := by cases order <;> decide
  apply UInt8.toNat_inj.mp
  apply Nat.eq_of_testBit_eq
  intro t
  by_cases ht : t < 8
  · obtain ⟨j, hj, rfl⟩ := hplace t ht
    rw [h j hj]
    simp
  · have hlt : byte.toNat < 2 ^ t :=
      Nat.lt_of_lt_of_le byte.toNat_lt (Nat.pow_le_pow_right (by decide) (by omega))
    rw [Nat.testBit_lt_two_pow hlt]
    simp

/-- No error within sixteen consecutive bits leaves the remainder as it was. -/
theorem burst_remainder_ne_zero (order : BitOrder) (error : List UInt8)
    (hburst : WithinSixteenBits order error) (hne : ∃ byte ∈ error, byte ≠ 0) :
    crc16CcittFalseUpdate 0 error ≠ 0 := by
  intro hzero
  obtain ⟨start, hstart⟩ := hburst
  have houtside : ∀ i, (∀ j < 8, ¬ (start ≤ 8 * i + j ∧ 8 * i + j < start + 16)) →
      error.getD i 0 = 0 := by
    intro i hi
    refine eq_zero_of_place order _ fun j hj => ?_
    rw [← bitAt_place order error i j hj, Bool.eq_false_iff]
    exact fun hbit => hi j hj (hstart _ hbit)
  have hbefore : ∀ i < start / 8, error.getD i 0 = 0 := fun i hi => houtside i (by omega)
  have hafter : ∀ i, start / 8 + 3 ≤ i → error.getD i 0 = 0 := fun i hi => houtside i (by omega)
  have hthree := three_bytes_of_remainder error (start / 8) hbefore hafter hzero
  obtain ⟨h0, h1, h2⟩ := three_bytes_remainder order (start % 8) _ _ _
    (fun j hj hbit => by
      have hin := hstart (8 * (start / 8) + j) (by rw [bitAt_place order error _ j hj]; exact hbit)
      omega)
    (fun j hj hbit => by
      have hin := hstart (8 * (start / 8 + 2) + j)
        (by rw [bitAt_place order error _ j hj]; exact hbit)
      omega) hthree
  have hall : ∀ i, error.getD i 0 = 0 := by
    intro i
    by_cases hlt : i < start / 8
    · exact hbefore i hlt
    · by_cases hge : start / 8 + 3 ≤ i
      · exact hafter i hge
      · obtain rfl | rfl | rfl : i = start / 8 ∨ i = start / 8 + 1 ∨ i = start / 8 + 2 := by omega
        · exact h0
        · exact h1
        · exact h2
  obtain ⟨byte, hbyte, hnonzero⟩ := hne
  rw [eq_replicate_of_getD hall] at hbyte
  exact hnonzero (List.eq_of_mem_replicate hbyte)

/-! ### Corrupted frames -/

/-- An encoding with some of its bits inverted. -/
def corrupt (image error : List UInt8) : List UInt8 := List.zipWith (· ^^^ ·) image error

/-- The parts of an error that spares magic, version and length. -/
theorem error_parts (error : List UInt8) (n : ℕ) (hlength : error.length = 10 + n)
    (hkept : ∀ i ∈ [0, 1, 2, 6, 7], error.getD i 0 = 0) :
    ∃ messageType sequenceHigh sequenceLow payload crcHigh crcLow,
      payload.length = n ∧
      error = [0, 0, 0, messageType, sequenceHigh, sequenceLow, 0, 0] ++ payload ++
        [crcHigh, crcLow] := by
  obtain ⟨e0, e1, e2, e3, e4, e5, e6, e7, rest, rfl⟩ : ∃ e0 e1 e2 e3 e4 e5 e6 e7 rest,
      error = [e0, e1, e2, e3, e4, e5, e6, e7] ++ rest := by
    rcases error with _ | ⟨e0, _ | ⟨e1, _ | ⟨e2, _ | ⟨e3, _ | ⟨e4, _ | ⟨e5, _ | ⟨e6, _ |
      ⟨e7, rest⟩⟩⟩⟩⟩⟩⟩⟩
    case cons.cons.cons.cons.cons.cons.cons.cons =>
      exact ⟨e0, e1, e2, e3, e4, e5, e6, e7, rest, rfl⟩
    all_goals
      simp only [List.length_cons, List.length_nil] at hlength
      omega
  simp only [List.length_append, List.length_cons, List.length_nil] at hlength
  have hcrc : (rest.drop n).length = 2 := by
    rw [List.length_drop]
    omega
  obtain ⟨crcHigh, crcLow, hend⟩ := List.length_eq_two.mp hcrc
  refine ⟨e3, e4, e5, rest.take n, crcHigh, crcLow, ?_, ?_⟩
  · rw [List.length_take]
    omega
  · simp at hkept
    rw [hkept.1, hkept.2.1, hkept.2.2.1, hkept.2.2.2.1, hkept.2.2.2.2, List.append_assoc, ← hend,
      List.take_append_drop]

/-- The frame whose fields and payload carry the error. -/
def corruptedFrame (f : ProtocolFrame) (messageType sequenceHigh sequenceLow : UInt8)
    (payload : List UInt8) : ProtocolFrame where
  messageType := f.messageType ^^^ messageType
  sequence := ((f.sequence >>> 8).toUInt8 ^^^ sequenceHigh).toUInt16 <<< 8 |||
    (f.sequence.toUInt8 ^^^ sequenceLow).toUInt16
  payloadLength := f.payloadLength
  payload := .ofBytes (corrupt f.content payload)

theorem corruptedFrame_checked (f : ProtocolFrame) (hf : f.payloadLength ≤ maxPayloadSize)
    (messageType sequenceHigh sequenceLow : UInt8) (payload : List UInt8)
    (hpayload : payload.length = f.payloadLength.toNat) :
    (corruptedFrame f messageType sequenceHigh sequenceLow payload).checkedHeader ++
        (corruptedFrame f messageType sequenceHigh sequenceLow payload).content =
      corrupt (f.checkedHeader ++ f.content)
        ([0, messageType, sequenceHigh, sequenceLow, 0, 0] ++ payload) := by
  have hcontent := f.content_length hf
  have hlength : (corrupt f.content payload).length = f.payloadLength.toNat := by
    rw [corrupt, List.length_zipWith, hcontent, hpayload, Nat.min_self]
  have hle : f.payloadLength.toNat ≤ 64 := by
    simpa [UInt16.le_iff_toNat_le, maxPayloadSize] using hf
  have hbytes : (corruptedFrame f messageType sequenceHigh sequenceLow payload).content =
      corrupt f.content payload := by
    rw [ProtocolFrame.content, corruptedFrame, PayloadBuffer.ofBytes_bytes (by omega), ← hlength,
      List.take_left]
  rw [hbytes, ProtocolFrame.checkedHeader, corruptedFrame, encodeU16Be_join]
  simp [corrupt, ProtocolFrame.checkedHeader, encodeU16Be]

/-- The checksum sent does not fit a frame hit by a burst, whether or not it was hit as well. -/
theorem burst_breaks_crc (checked error : List UInt8) (hlength : error.length = checked.length)
    (crcHigh crcLow : UInt8) (hremainder : crc16CcittFalseUpdate 0 (error ++ [crcHigh, crcLow]) ≠ 0) :
    ((crc16CcittFalse checked >>> 8).toUInt8 ^^^ crcHigh).toUInt16 <<< 8 |||
        ((crc16CcittFalse checked).toUInt8 ^^^ crcLow).toUInt16 ≠
      crc16CcittFalse (corrupt checked error) := by
  intro hmatch
  apply hremainder
  have hsent : crc16CcittFalseUpdate crc16CcittFalseInitial
      (checked ++ encodeU16Be (crc16CcittFalse checked)) = 0 := by
    rw [crc16CcittFalseUpdate_append, encodeU16Be, crc16CcittFalseUpdate_pair_eq_zero,
      join_high_low, crc16CcittFalse]
  have hreceived : crc16CcittFalseUpdate crc16CcittFalseInitial (corrupt checked error ++
      [(crc16CcittFalse checked >>> 8).toUInt8 ^^^ crcHigh,
        (crc16CcittFalse checked).toUInt8 ^^^ crcLow]) = 0 := by
    rw [crc16CcittFalseUpdate_append, crc16CcittFalseUpdate_pair_eq_zero, hmatch, crc16CcittFalse]
  have hzip : corrupt checked error ++ [(crc16CcittFalse checked >>> 8).toUInt8 ^^^ crcHigh,
      (crc16CcittFalse checked).toUInt8 ^^^ crcLow] =
      List.zipWith (· ^^^ ·) (checked ++ encodeU16Be (crc16CcittFalse checked))
        (error ++ [crcHigh, crcLow]) := by
    rw [List.zipWith_append hlength.symm]
    rfl
  have hlinear := crc16CcittFalseUpdate_xor (checked ++ encodeU16Be (crc16CcittFalse checked))
    (error ++ [crcHigh, crcLow]) (by simp [hlength]) crc16CcittFalseInitial 0
  rw [UInt16.xor_zero, ← hzip, hreceived, hsent, UInt16.zero_xor] at hlinear
  exact hlinear.symm

namespace ProtocolFrameDecoder

/-- An encoding hit by a burst of up to sixteen bits that spares magic, version and length is
reported by no byte, and counted as one checksum error. -/
theorem burst_error_detected (f : ProtocolFrame) (hf : f.payloadLength ≤ maxPayloadSize)
    (order : BitOrder) (error : List UInt8)
    (hlength : error.length = (protocolFrameEncode f).length)
    (hne : ∃ byte ∈ error, byte ≠ 0) (hburst : WithinSixteenBits order error)
    (hkept : ∀ i ∈ [0, 1, 2, 6, 7], error.getD i 0 = 0)
    (d : ProtocolFrameDecoder) (hstate : d.state = .waitMagic0)
    (hcrc : d.calculatedCrc = crc16CcittFalseInitial) :
    (∀ answer ∈ (d.feedBytes (corrupt (protocolFrameEncode f) error)).1, answer = none) ∧
      (d.feedBytes (corrupt (protocolFrameEncode f) error)).2.crcErrorCount =
        d.crcErrorCount + 1 := by
  have hremainder := burst_remainder_ne_zero order error hburst hne
  rw [protocolFrameEncode_length f hf] at hlength
  obtain ⟨messageType, sequenceHigh, sequenceLow, payload, crcHigh, crcLow, hpayload, rfl⟩ :=
    error_parts error _ hlength hkept
  obtain ⟨checked, hchecked⟩ : ∃ checked, f.checkedHeader ++ f.content = checked := ⟨_, rfl⟩
  have hframe := corruptedFrame_checked f hf messageType sequenceHigh sequenceLow payload hpayload
  have hcheckedLength : ([0, messageType, sequenceHigh, sequenceLow, 0, 0] ++ payload).length =
      checked.length := by
    rw [← hchecked, List.length_append, List.length_append, f.content_length hf, hpayload]
    simp [ProtocolFrame.checkedHeader]
  have himage : corrupt (protocolFrameEncode f) ([0, 0, 0, messageType, sequenceHigh, sequenceLow,
      0, 0] ++ payload ++ [crcHigh, crcLow]) = [magic0, magic1] ++
        corrupt checked ([0, messageType, sequenceHigh, sequenceLow, 0, 0] ++ payload) ++
        [(crc16CcittFalse checked >>> 8).toUInt8 ^^^ crcHigh,
          (crc16CcittFalse checked).toUInt8 ^^^ crcLow] := by
    rw [protocolFrameEncode_of_le f hf, hchecked, corrupt, List.zipWith_append
      (by rw [List.length_append, ← hcheckedLength]; simp; omega)]
    simp [corrupt, encodeU16Be]
  have hafterMagic : crc16CcittFalseUpdate 0 ([0, messageType, sequenceHigh, sequenceLow, 0, 0] ++
      payload ++ [crcHigh, crcLow]) ≠ 0 := by
    intro hzero
    apply hremainder
    simp only [List.cons_append] at hzero ⊢
    rw [crc16CcittFalseUpdate_cons, crc16Byte_zero_zero, crc16CcittFalseUpdate_cons,
      crc16Byte_zero_zero, hzero]
  have hbreak := burst_breaks_crc checked _ hcheckedLength crcHigh crcLow hafterMagic
  rw [hchecked] at hframe
  rw [← hframe] at himage hbreak
  obtain ⟨e, hcount, hfeed⟩ := feedBytes_corrupted d ⟨hstate, hcrc⟩
    (corruptedFrame f messageType sequenceHigh sequenceLow payload) hf _ _ hbreak
  rw [himage, hfeed]
  refine ⟨fun answer ha => List.eq_of_mem_replicate ha, ?_⟩
  rw [frameRejected_crcErrorCount, hcount]

/-- Sixteen inverted bits that reach from the last payload byte of a heartbeat into its checksum. -/
def straddlingBurst : List UInt8 := List.replicate 12 0 ++ [0x0F, 0xFF, 0xF0]

theorem burst_error_detected_heartbeat :
    WithinSixteenBits .mostSignificantFirst straddlingBurst ∧
      (init.feedBytes (corrupt (protocolFrameEncode
        { messageType := .heartbeat, payloadLength := 5 }) straddlingBurst)).2.crcErrorCount = 1 := by
  have hburst : WithinSixteenBits .mostSignificantFirst straddlingBurst := by
    refine ⟨100, fun k hk => ?_⟩
    by_cases hlt : k < 120
    · have hall : ∀ k < 120, bitAt .mostSignificantFirst straddlingBurst k = true →
          100 ≤ k ∧ k < 116 := by decide
      exact hall k hlt hk
    · have hlength : straddlingBurst.length ≤ k / 8 := by
        simp only [straddlingBurst, List.length_append, List.length_replicate, List.length_cons,
          List.length_nil]
        omega
      simp [bitAt, List.getElem?_eq_none hlength] at hk
  exact ⟨hburst, (burst_error_detected { messageType := .heartbeat, payloadLength := 5 } (by decide)
    .mostSignificantFirst straddlingBurst (by decide) (by decide) hburst (by decide) init rfl
    rfl).2⟩

end ProtocolFrameDecoder

end IndoorRobot
