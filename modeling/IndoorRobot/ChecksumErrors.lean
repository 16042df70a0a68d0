import IndoorRobot.CrcBursts
import IndoorRobot.CrsfStreams
import IndoorRobot.FeedbackRegisters

/-!
# What the two checksums detect

The checksum of the protocol and that of the radio are shift registers with feedback.
Both polynomials have an even number of terms, so both tell every error that inverts an
odd number of bits. The first one comes back to a bit only after more turns than a frame
has bits, so two inverted bits do not escape it either, wherever they are. The second one
is shorter; errors in as many neighbouring bits as it has do not escape it.
-/
namespace IndoorRobot

open ProtocolFrameFormat ByteCodec FeedbackRegisters

/-- The bits of a byte, the most significant one first. -/
def byteBits (byte : UInt8) : List Bool := (List.range 8).map fun j => byte.toBitVec.getLsbD (7 - j)

def messageBits (bytes : List UInt8) : List Bool := bytes.flatMap byteBits

/-- How many bits an error inverts. -/
def invertedBits (error : List UInt8) : ℕ := (messageBits error).count true

theorem messageBits_cons (byte : UInt8) (bytes : List UInt8) :
    messageBits (byte :: bytes) = byteBits byte ++ messageBits bytes :=
  List.flatMap_cons

theorem length_messageBits (bytes : List UInt8) : (messageBits bytes).length = 8 * bytes.length := by
  induction bytes with
  | nil => rfl
  | cons byte bytes ih =>
    rw [messageBits_cons, List.length_append, ih, List.length_cons, byteBits, List.length_map,
      List.length_range]
    omega

/-! ### The checksum of the protocol -/

def crc16Feedback : BitVec 16 := 0x1021#16

theorem crc16Bit_toBitVec (crc : UInt16) : (crc16Bit crc).toBitVec = turn crc16Feedback crc.toBitVec := by
  rw [crc16Bit_eq, turn, UInt16.toBitVec_xor]
  cases crc.toBitVec.getLsbD 15 <;> rfl

theorem place_byteBits16 (byte : UInt8) :
    (place (byteBits byte) : BitVec 16) = (byte.toUInt16 <<< 8).toBitVec := by
  apply BitVec.eq_of_getLsbD_eq
  intro i hi
  rw [getLsbD_place]
  by_cases h8 : i < 8
  · have hnone : (byteBits byte)[15 - i]? = none := by
      rw [List.getElem?_eq_none]
      simp only [byteBits, List.length_map, List.length_range]
      omega
    simp [hnone, h8]
  · have hindex : 7 - (15 - i) = i - 8 := by omega
    have hlt : 15 - i < 8 := by omega
    simp [byteBits, h8, hlt, hindex, show i ≤ 15 by omega, hi, -BitVec.getLsbD_eq_getElem]
    intro _
    omega

theorem crc16Byte_toBitVec (crc : UInt16) (byte : UInt8) :
    (crc16Byte crc byte).toBitVec = divide crc16Feedback crc.toBitVec (byteBits byte) := by
  have hiterate : ∀ (turns : ℕ) (crc : UInt16),
      (crc16Bit^[turns] crc).toBitVec = (turn crc16Feedback)^[turns] crc.toBitVec := by
    intro turns
    induction turns with
    | zero => exact fun _ => rfl
    | succ turns ih =>
      intro crc
      rw [Function.iterate_succ_apply, ih, crc16Bit_toBitVec]
      rfl
  rw [divide_eq_iterate crc16Feedback (by simp [byteBits]), place_byteBits16, ← UInt16.toBitVec_xor,
    ← hiterate]
  rfl

theorem crc16CcittFalseUpdate_toBitVec (crc : UInt16) (bytes : List UInt8) :
    (crc16CcittFalseUpdate crc bytes).toBitVec =
      divide crc16Feedback crc.toBitVec (messageBits bytes) := by
  induction bytes generalizing crc with
  | nil => rfl
  | cons byte bytes ih =>
    rw [crc16CcittFalseUpdate_cons, ih, crc16Byte_toBitVec, messageBits_cons, divide_append]

/-- The register is elsewhere for as long as a frame lasts. -/
theorem crc16_period : ∀ k < 592, 0 < k → (turn crc16Feedback)^[k] (top true) ≠ top true := by
  have hcheck : avoids crc16Feedback (top true) 591 (turn crc16Feedback (top true)) = true := by
    decide +kernel
  intro k hk hpos
  obtain ⟨k, rfl⟩ := Nat.exists_eq_succ_of_ne_zero (Nat.ne_of_gt hpos)
  exact iterate_ne_of_avoids hcheck k (Nat.lt_of_succ_lt_succ hk)

theorem few_bits_remainder_ne_zero {error : List UInt8} (hlength : error.length ≤ 74)
    (hfew : Odd (invertedBits error) ∨ invertedBits error = 2) :
    crc16CcittFalseUpdate 0 error ≠ 0 := by
  intro hzero
  have hdivide := crc16CcittFalseUpdate_toBitVec 0 error
  rw [hzero] at hdivide
  obtain hodd | htwo := hfew
  · exact divide_ne_zero_of_odd (by decide) hodd hdivide.symm
  · refine divide_ne_zero_of_two (by decide) (fun k hk => crc16_period k ?_) htwo hdivide.symm
    rw [length_messageBits] at hk
    omega

namespace ProtocolFrameDecoder

/-- An error that spares magic, version and length and leaves a remainder is found. -/
theorem remainder_error_detected (f : ProtocolFrame) (hf : f.payloadLength ≤ maxPayloadSize)
    (error : List UInt8) (hlength : error.length = (protocolFrameEncode f).length)
    (hremainder : crc16CcittFalseUpdate 0 error ≠ 0)
    (hkept : ∀ i ∈ [0, 1, 2, 6, 7], error.getD i 0 = 0) (d : ProtocolFrameDecoder) (hd : d.Ready) :
    (∀ answer ∈ (d.feedBytes (corrupt (protocolFrameEncode f) error)).1, answer = none) ∧
      (d.feedBytes (corrupt (protocolFrameEncode f) error)).2.crcErrorCount =
        d.crcErrorCount + 1 := by
  rw [protocolFrameEncode_length f hf] at hlength
  obtain ⟨messageType, sequenceHigh, sequenceLow, payload, crcHigh, crcLow, hpayload, rfl⟩ :=
    error_parts error _ hlength hkept
  have hframe := corruptedFrame_checked f hf messageType sequenceHigh sequenceLow payload hpayload
  have hchecked : ([0, messageType, sequenceHigh, sequenceLow, 0, 0] ++ payload).length =
      (f.checkedHeader ++ f.content).length := by
    rw [List.length_append, List.length_append, f.content_length hf, hpayload]
    simp [ProtocolFrame.checkedHeader]
  have himage : corrupt (protocolFrameEncode f) ([0, 0, 0, messageType, sequenceHigh, sequenceLow,
      0, 0] ++ payload ++ [crcHigh, crcLow]) = [magic0, magic1] ++
        corrupt (f.checkedHeader ++ f.content)
          ([0, messageType, sequenceHigh, sequenceLow, 0, 0] ++ payload) ++
        [(crc16CcittFalse (f.checkedHeader ++ f.content) >>> 8).toUInt8 ^^^ crcHigh,
          (crc16CcittFalse (f.checkedHeader ++ f.content)).toUInt8 ^^^ crcLow] := by
    rw [protocolFrameEncode_of_le f hf, corrupt, List.zipWith_append
      (by rw [List.length_append, ← hchecked]; simp; omega)]
    simp [corrupt, encodeU16Be]
  have hafterMagic : crc16CcittFalseUpdate 0 ([0, messageType, sequenceHigh, sequenceLow, 0, 0] ++
      payload ++ [crcHigh, crcLow]) ≠ 0 := by
    intro hzero
    apply hremainder
    simp only [List.cons_append] at hzero ⊢
    rw [crc16CcittFalseUpdate_cons, crc16Byte_zero_zero, crc16CcittFalseUpdate_cons,
      crc16Byte_zero_zero, hzero]
  have hbreak := burst_breaks_crc _ _ hchecked crcHigh crcLow hafterMagic
  rw [← hframe] at himage hbreak
  obtain ⟨e, hcount, hfeed⟩ := feedBytes_corrupted d hd
    (corruptedFrame f messageType sequenceHigh sequenceLow payload) hf _ _ hbreak
  rw [himage, hfeed]
  refine ⟨fun answer ha => List.eq_of_mem_replicate ha, ?_⟩
  rw [frameRejected_crcErrorCount, hcount]

/-- An encoding in which two bits, or an odd number of bits, have been inverted anywhere but in
magic, version and length is reported by no byte, and counted as one checksum error; so any three
inverted bits are found. -/
theorem few_inverted_bits_detected (f : ProtocolFrame) (hf : f.payloadLength ≤ maxPayloadSize)
    (error : List UInt8) (hlength : error.length = (protocolFrameEncode f).length)
    (hfew : Odd (invertedBits error) ∨ invertedBits error = 2)
    (hkept : ∀ i ∈ [0, 1, 2, 6, 7], error.getD i 0 = 0)
    (d : ProtocolFrameDecoder) (hstate : d.state = .waitMagic0)
    (hcrc : d.calculatedCrc = crc16CcittFalseInitial) :
    (∀ answer ∈ (d.feedBytes (corrupt (protocolFrameEncode f) error)).1, answer = none) ∧
      (d.feedBytes (corrupt (protocolFrameEncode f) error)).2.crcErrorCount =
        d.crcErrorCount + 1 := by
  have hle : f.payloadLength.toNat ≤ 64 := by
    simpa [UInt16.le_iff_toNat_le, maxPayloadSize] using hf
  have hsize := protocolFrameEncode_length f hf
  exact remainder_error_detected f hf error hlength (few_bits_remainder_ne_zero (by omega) hfew)
    hkept d ⟨hstate, hcrc⟩

/-- The first bit of the message type and the last one of the checksum of a full frame. -/
def farApart : List UInt8 := [0, 0, 0, 0x80] ++ List.replicate 69 0 ++ [0x01]

theorem few_inverted_bits_detected_far_apart :
    invertedBits farApart = 2 ∧
      (init.feedBytes (corrupt (protocolFrameEncode
        { messageType := .heartbeat, payloadLength := 64 }) farApart)).2.crcErrorCount = 1 := by
  have htwo : invertedBits farApart = 2 := by decide +kernel
  exact ⟨htwo, (few_inverted_bits_detected { messageType := .heartbeat, payloadLength := 64 }
    (by decide) farApart (by decide +kernel) (.inr htwo) (by decide) init rfl rfl).2⟩

end ProtocolFrameDecoder

/-! ### The checksum of the radio -/

def crsfFeedback : BitVec 8 := 0xD5#8

theorem crsfCrc8Bit_toBitVec (crc : UInt8) : (crsfCrc8Bit crc).toBitVec = turn crsfFeedback crc.toBitVec := by
  have hand : crc &&& 0x80 = if crc.toBitVec.getLsbD 7 then 0x80 else 0 := by
    apply UInt8.toBitVec_inj.mp
    have htop := BitVec.and_twoPow crc.toBitVec 7
    rw [UInt8.toBitVec_and, show (0x80 : UInt8).toBitVec = BitVec.twoPow 8 7 by rfl, htop]
    split <;> rfl
  rw [crsfCrc8Bit, hand, turn]
  cases crc.toBitVec.getLsbD 7 with
  | true => rfl
  | false => exact (BitVec.xor_zero (x := crc.toBitVec <<< 1)).symm

theorem place_byteBits8 (byte : UInt8) : (place (byteBits byte) : BitVec 8) = byte.toBitVec := by
  apply BitVec.eq_of_getLsbD_eq
  intro i hi
  have hindex : 7 - (7 - i) = i := by omega
  rw [getLsbD_place]
  simp [byteBits, hindex, show i ≤ 7 by omega, show 7 - i < 8 by omega, -BitVec.getLsbD_eq_getElem]

theorem crsfCrc8Update_toBitVec (crc byte : UInt8) :
    (crsfCrc8Update crc byte).toBitVec = divide crsfFeedback crc.toBitVec (byteBits byte) := by
  have hiterate : ∀ (turns : ℕ) (crc : UInt8),
      (crsfCrc8Bit^[turns] crc).toBitVec = (turn crsfFeedback)^[turns] crc.toBitVec := by
    intro turns
    induction turns with
    | zero => exact fun _ => rfl
    | succ turns ih =>
      intro crc
      rw [Function.iterate_succ_apply, ih, crsfCrc8Bit_toBitVec]
      rfl
  rw [divide_eq_iterate crsfFeedback (by simp [byteBits]), place_byteBits8, ← UInt8.toBitVec_xor,
    ← hiterate]
  rfl

theorem foldl_crsfCrc8Update_toBitVec (crc : UInt8) (bytes : List UInt8) :
    (bytes.foldl crsfCrc8Update crc).toBitVec =
      divide crsfFeedback crc.toBitVec (messageBits bytes) := by
  induction bytes generalizing crc with
  | nil => rfl
  | cons byte bytes ih =>
    rw [List.foldl_cons, ih, crsfCrc8Update_toBitVec, messageBits_cons, divide_append]

theorem byteBits_xor (first second : UInt8) :
    byteBits (first ^^^ second) = List.zipWith (· ^^ ·) (byteBits first) (byteBits second) := by
  simp [byteBits, List.zipWith_map, List.zipWith_self, UInt8.toBitVec_xor, BitVec.getLsbD_xor]

theorem messageBits_corrupt {image error : List UInt8} (hlength : error.length = image.length) :
    messageBits (corrupt image error) =
      List.zipWith (· ^^ ·) (messageBits image) (messageBits error) := by
  induction image generalizing error with
  | nil => simp [corrupt, messageBits]
  | cons byte image ih =>
    obtain ⟨bad, error, rfl⟩ : ∃ bad rest, error = bad :: rest :=
      List.exists_cons_of_length_eq_add_one hlength
    rw [messageBits_cons, messageBits_cons, List.zipWith_append (by simp [byteBits]),
      ← byteBits_xor, ← ih (by simpa using hlength), ← messageBits_cons]
    rfl

/-- The remainder of what follows the header of an encoding. -/
theorem divide_crsfFrameEncode (f : CrsfFrame) :
    divide crsfFeedback 0#8 (messageBits ((crsfFrameEncode f).drop 2)) = 0#8 := by
  have hlast (crc : UInt8) : crsfCrc8Update crc crc = 0 := by
    rw [crsfCrc8Update, UInt8.xor_self]
    rfl
  have hfold : ((crsfFrameEncode f).drop 2).foldl crsfCrc8Update 0 = 0 := by
    change (f.type :: (f.content ++ [crsfCrc8 (f.type :: f.content)])).foldl crsfCrc8Update 0 = 0
    rw [← List.cons_append, List.foldl_append]
    exact hlast _
  rw [← UInt8.toBitVec_zero, ← foldl_crsfCrc8Update_toBitVec, hfold]

/-- The inverted bits are among eight that follow each other on the wire. -/
def WithinEightBits (error : List UInt8) : Prop :=
  ∃ before bits after, messageBits error =
    List.replicate before false ++ bits ++ List.replicate after false ∧
      bits.length ≤ 8 ∧ true ∈ bits

theorem corrupted_remainder_ne_zero {error : List UInt8}
    (h : Odd (invertedBits error) ∨ WithinEightBits error) :
    divide crsfFeedback 0#8 (messageBits error) ≠ 0#8 := by
  obtain hodd | ⟨before, bits, after, hbits, hlength, hset⟩ := h
  · exact divide_ne_zero_of_odd (by decide) hodd
  · rw [hbits]
    exact divide_ne_zero_of_burst (by decide) before after hlength hset

namespace CrsfFrameDecoder

variable {d : CrsfFrameDecoder}

/-- A buffer that will not hold an encoding is dropped once it is full. -/
theorem feedBytes_dropped (h : d.Collected) (hd : d.state = .collecting) (frame : CrsfFrame)
    (bytes : List UInt8) (hlength : d.used + bytes.length = d.expectedSize)
    (hother : ∀ g, crsfFrameEncode g ≠ d.candidate ++ bytes) :
    (∀ answer ∈ (d.feedBytes frame bytes).1, answer = none) ∧
      (d.feedBytes frame bytes).2.1 = frame ∧
      (d.feedBytes frame bytes).2.2.state = .waitingForAddress := by
  induction bytes generalizing d with
  | nil =>
    have hused := h.wellFormed.used hd
    simp only [List.length_nil] at hlength
    omega
  | cons byte rest ih =>
    have hused := h.wellFormed.used hd
    have hsize := h.wellFormed.size hd
    rw [List.length_cons] at hlength
    rw [feedBytes_cons]
    cases rest with
    | nil =>
      have hstep := feedByte_explained h byte frame
      have hsilent : (d.feedByte byte frame).1 = false := by
        by_contra hreport
        exact hother _ (hstep.reported (Bool.eq_true_of_not_eq_false hreport)).2.1
      have hfull : ¬ d.used + 1 < d.expectedSize := Nat.not_lt.mpr (Nat.le_of_eq hlength.symm)
      have hstate : (d.feedByte byte frame).2.2.state = .waitingForAddress := by
        rw [feedByte_of_collecting hd, if_neg hfull]
        split_ifs <;> rfl
      exact ⟨by simp [hsilent, feedBytes], (hstep.silent hsilent).1, hstate⟩
    | cons next rest =>
      have hopen : d.used + 1 < d.expectedSize := by
        rw [List.length_cons] at hlength
        omega
      obtain ⟨hanswers, hframe, hstate⟩ := ih (collect_collected h hd hopen byte) hd
        (by simp only [collect]; omega)
        (by
          rw [collect_candidate hd (by omega), List.append_assoc]
          exact hother)
      rw [feedByte_of_collecting hd, if_pos hopen]
      exact ⟨by simpa using hanswers, hframe, hstate⟩

/-- An encoding in which an odd number of bits, or some of eight bits that follow each other
on the wire, have been inverted behind the header is never reported. The caller keeps its frame,
and the decoder is ready for the next one. -/
theorem corrupted_encodings_are_dropped (f : CrsfFrame) (hf : f.payloadLength ≤ 60)
    (error : List UInt8) (hlength : error.length = (crsfFrameEncode f).length)
    (herror : Odd (invertedBits error) ∨ WithinEightBits error)
    (hkept : error.take 2 = [0, 0]) (d : CrsfFrameDecoder) (hd : d.state = .waitingForAddress)
    (frame : CrsfFrame) :
    (∀ answer ∈ (d.feedBytes frame (corrupt (crsfFrameEncode f) error)).1, answer = none) ∧
      (d.feedBytes frame (corrupt (crsfFrameEncode f) error)).2.1 = frame ∧
      (d.feedBytes frame (corrupt (crsfFrameEncode f) error)).2.2.state = .waitingForAddress := by
  have hremainder := corrupted_remainder_ne_zero herror
  obtain ⟨rest, rfl⟩ : ∃ rest, error = [0, 0] ++ rest :=
    ⟨error.drop 2, by rw [← hkept, List.take_append_drop]⟩
  have htail : rest.length = ((crsfFrameEncode f).drop 2).length := by
    rw [List.length_drop, ← hlength]
    rfl
  have himage : corrupt (crsfFrameEncode f) ([0, 0] ++ rest) =
      [0xC8, UInt8.ofNat (f.payloadLength + 2)] ++ corrupt ((crsfFrameEncode f).drop 2) rest := by
    simp [crsfFrameEncode, corrupt]
  have hheader := feedBytes_header hd frame hf
  have hcollected : (d.headerRead f).Collected := by
    have hread := feedBytes_collected (collected_of_waitingForAddress hd) frame
      [0xC8, UInt8.ofNat (f.payloadLength + 2)]
    rwa [hheader] at hread
  have hother : ∀ g, crsfFrameEncode g ≠
      (d.headerRead f).candidate ++ corrupt ((crsfFrameEncode f).drop 2) rest := by
    intro g hg
    rw [show (d.headerRead f).candidate = _ from hcollected.header rfl] at hg
    have hdropped : (crsfFrameEncode g).drop 2 = corrupt ((crsfFrameEncode f).drop 2) rest := by
      rw [hg]
      rfl
    have hbits : (messageBits rest).length = (messageBits ((crsfFrameEncode f).drop 2)).length := by
      rw [length_messageBits, length_messageBits, htail]
    have hdivide := divide_xor crsfFeedback 0#8 0#8 hbits
    rw [← messageBits_corrupt htail, ← hdropped, BitVec.xor_zero, divide_crsfFrameEncode,
      divide_crsfFrameEncode, BitVec.zero_xor] at hdivide
    exact hremainder hdivide.symm
  have hfull : (d.headerRead f).used + (corrupt ((crsfFrameEncode f).drop 2) rest).length =
      (d.headerRead f).expectedSize := by
    rw [corrupt, List.length_zipWith, htail, Nat.min_self, List.length_drop,
      crsfFrameEncode_length hf]
    simp only [headerRead]
    omega
  obtain ⟨hanswers, hframe, hstate⟩ := feedBytes_dropped hcollected rfl frame _ hfull hother
  rw [himage, feedBytes_append, hheader]
  refine ⟨?_, hframe, hstate⟩
  intro answer hanswer
  obtain hfirst | hlater := List.mem_append.mp hanswer
  · simpa using hfirst
  · exact hanswers answer hlater

/-- Eight bits across two bytes of the channels. -/
def acrossTwoBytes : List UInt8 := List.replicate 12 0 ++ [0x0F, 0xF0] ++ List.replicate 12 0

theorem corrupted_encodings_are_dropped_across_two_bytes :
    invertedBits acrossTwoBytes = 8 ∧
      (feedBytes {} {} (corrupt (crsfFrameEncode { type := 0x16, payloadLength := 22 })
        acrossTwoBytes)).2.1 = {} := by
  have hwithin : WithinEightBits acrossTwoBytes :=
    ⟨100, List.replicate 8 true, 100, by decide +kernel, by decide, by decide⟩
  exact ⟨by decide +kernel, (corrupted_encodings_are_dropped { type := 0x16, payloadLength := 22 }
    (by decide) acrossTwoBytes (by decide +kernel) (.inr hwithin) (by decide) {} rfl {}).2.1⟩

end CrsfFrameDecoder

end IndoorRobot
