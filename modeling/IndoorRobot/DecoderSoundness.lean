import IndoorRobot.FrameStream

/-!
# What the decoder reports was on the wire

The bytes of the frame the decoder believes to be reading are a function of its
state. Each byte either extends them, cuts them down to a suffix, or completes an
encoding; so they are always a suffix of what has been fed since the last reset
and the last report, through every restart inside a broken frame.
-/
namespace IndoorRobot

open ProtocolFrameFormat ByteCodec

namespace ProtocolFrameDecoder

/-- The bytes under the checksum that have been read of the present frame. -/
def checkedBytes (d : ProtocolFrameDecoder) : List UInt8 :=
  match d.state with
  | .waitMagic0 | .waitMagic1 | .readVersion => []
  | .readMessageType => [version]
  | .readSequenceHigh => [version, d.frame.messageType]
  | .readSequenceLow => [version, d.frame.messageType, (d.frame.sequence >>> 8).toUInt8]
  | .readLengthHigh => [version, d.frame.messageType] ++ encodeU16Be d.frame.sequence
  | .readLengthLow =>
    [version, d.frame.messageType] ++ encodeU16Be d.frame.sequence ++
      [(d.frame.payloadLength >>> 8).toUInt8]
  | .readPayload => d.frame.checkedHeader ++ d.frame.payload.bytes.take d.payloadIndex
  | .readCrcHigh | .readCrcLow => d.frame.checkedHeader ++ d.frame.content

/-- The bytes of the present frame, as far as they have been read. -/
def candidate (d : ProtocolFrameDecoder) : List UInt8 :=
  match d.state with
  | .waitMagic0 => []
  | .waitMagic1 => [magic0]
  | .readCrcLow => [magic0, magic1] ++ d.checkedBytes ++ [(d.receivedCrc >>> 8).toUInt8]
  | _ => [magic0, magic1] ++ d.checkedBytes

/-- The checksum is that of the bytes read, half-read fields have no low byte yet,
and the payload index is inside the announced payload. -/
structure WellFormed (d : ProtocolFrameDecoder) : Prop where
  crc : d.calculatedCrc = crc16CcittFalse d.checkedBytes
  sequenceHigh : d.state = .readSequenceLow →
    d.frame.sequence = (d.frame.sequence >>> 8).toUInt8.toUInt16 <<< 8
  lengthHigh : d.state = .readLengthLow →
    d.frame.payloadLength = (d.frame.payloadLength >>> 8).toUInt8.toUInt16 <<< 8
  crcHigh : d.state = .readCrcLow →
    d.receivedCrc = (d.receivedCrc >>> 8).toUInt8.toUInt16 <<< 8
  index : d.state = .readPayload → d.payloadIndex < d.frame.payloadLength.toNat
  length : d.state = .readPayload ∨ d.state = .readCrcHigh ∨ d.state = .readCrcLow →
    d.frame.payloadLength ≤ maxPayloadSize

theorem init_wellFormed : init.WellFormed := by
  constructor <;> simp [init, checkedBytes, crc16CcittFalse]

theorem reset_wellFormed (d : ProtocolFrameDecoder) : d.reset.WellFormed := by
  constructor <;> simp [reset, checkedBytes, crc16CcittFalse]

theorem WellFormed.ready {d : ProtocolFrameDecoder} (h : d.WellFormed)
    (hd : d.state = .waitMagic0) : d.Ready :=
  ⟨hd, by rw [h.crc]; simp [checkedBytes, hd, crc16CcittFalse]⟩

theorem beginFrame_wellFormed (d : ProtocolFrameDecoder) : d.beginFrame.WellFormed := by
  constructor <;> simp [beginFrame, checkedBytes, crc16CcittFalse]

@[simp] theorem candidate_beginFrame (d : ProtocolFrameDecoder) :
    d.beginFrame.candidate = [magic0, magic1] := rfl

/-- Wherever the search goes on, it is well formed. -/
theorem resetSearch_wellFormed (d : ProtocolFrameDecoder) (previousByte currentByte : UInt8) :
    (d.resetSearch previousByte currentByte).WellFormed := by
  rw [resetSearch]
  split
  · exact beginFrame_wellFormed _
  · split
    · constructor <;> simp [checkedBytes, crc16CcittFalse]
    · constructor <;> simp [checkedBytes, crc16CcittFalse]

/-- The search keeps at most the two bytes it is given. -/
theorem candidate_resetSearch (d : ProtocolFrameDecoder) (previousByte currentByte : UInt8) :
    (d.resetSearch previousByte currentByte).candidate <:+ [previousByte, currentByte] := by
  rw [resetSearch]
  split
  case isTrue h =>
    exact ⟨[], by rw [candidate_beginFrame, h.1, h.2]; rfl⟩
  case isFalse =>
    split
    case isTrue h => exact ⟨[previousByte], by simp [candidate, h]⟩
    case isFalse => exact ⟨[previousByte, currentByte], by simp [candidate]⟩

/-- The answer to a byte is borne out by the bytes of the present frame. -/
structure Explained (d : ProtocolFrameDecoder) (byte : UInt8)
    (result : Option ProtocolFrame × ProtocolFrameDecoder) : Prop where
  wellFormed : result.2.WellFormed
  silent : result.1 = none → result.2.candidate <:+ d.candidate ++ [byte]
  reported : ∀ f, result.1 = some f →
    f.payloadLength ≤ maxPayloadSize ∧ protocolFrameEncode f = d.candidate ++ [byte] ∧
      result.2.candidate = []

theorem Explained.of_silent {d d' : ProtocolFrameDecoder} {byte : UInt8} (h : d'.WellFormed)
    (hc : d'.candidate <:+ d.candidate ++ [byte]) : d.Explained byte (none, d') :=
  ⟨h, fun _ => hc, fun _ hf => nomatch hf⟩

/-- A broken frame whose last two bytes go back to the search. -/
theorem Explained.of_search {d e : ProtocolFrameDecoder} {previousByte byte : UInt8}
    (hlast : [previousByte] <:+ d.candidate) :
    d.Explained byte (none, e.resetSearch previousByte byte) := by
  refine .of_silent (resetSearch_wellFormed _ _ _) ((candidate_resetSearch _ _ _).trans ?_)
  obtain ⟨front, hfront⟩ := hlast
  exact ⟨front, by rw [← hfront]; simp⟩

theorem feedByte_waitMagic0 (d : ProtocolFrameDecoder) (h : d.WellFormed) (byte : UInt8)
    (hd : d.state = .waitMagic0) : d.Explained byte (d.feedByte byte) := by
  have hcrc := h.crc
  have hc : d.candidate = [] := by simp [candidate, hd]
  by_cases hb : byte = magic0
  · have hstep : d.feedByte byte = (none, { d with state := .waitMagic1 }) := by
      simp [feedByte, hd, hb]
    rw [hstep]
    refine .of_silent ?_ ?_
    · constructor <;> simp [checkedBytes, hcrc, hd]
    · rw [hc, hb]
      exact List.suffix_refl _
  · have hstep : d.feedByte byte = (none, d) := by simp [feedByte, hd, hb]
    rw [hstep]
    refine .of_silent h ?_
    rw [hc]
    exact List.nil_suffix

theorem feedByte_waitMagic1 (d : ProtocolFrameDecoder) (h : d.WellFormed) (byte : UInt8)
    (hd : d.state = .waitMagic1) : d.Explained byte (d.feedByte byte) := by
  have hcrc := h.crc
  have hc : d.candidate = [magic0] := by simp [candidate, hd]
  by_cases h1 : byte = magic1
  · have hstep : d.feedByte byte = (none, d.beginFrame) := by simp [feedByte, hd, h1]
    rw [hstep]
    refine .of_silent (beginFrame_wellFormed d) ?_
    rw [hc, h1]
    exact List.suffix_refl _
  · by_cases h0 : byte = magic0
    · have hstep : d.feedByte byte = (none, d) := by
        simp [feedByte, hd, h0, show magic0 ≠ magic1 by decide]
      rw [hstep]
      refine .of_silent h ?_
      rw [hc, h0]
      exact List.suffix_append [magic0] [magic0]
    · have hstep : d.feedByte byte = (none, { d with state := .waitMagic0 }) := by
        simp [feedByte, hd, h1, h0]
      rw [hstep]
      refine .of_silent ?_ List.nil_suffix
      constructor <;> simp [checkedBytes, hcrc, hd]

theorem feedByte_readVersion (d : ProtocolFrameDecoder) (h : d.WellFormed) (byte : UInt8)
    (hd : d.state = .readVersion) : d.Explained byte (d.feedByte byte) := by
  have hcrc := h.crc
  have hc : d.candidate = [magic0, magic1] := by simp [candidate, hd, checkedBytes]
  by_cases hb : byte = version
  · have hstep : d.feedByte byte = (none, { d with
        calculatedCrc := crc16Byte d.calculatedCrc byte
        state := .readMessageType }) := by
      simp [feedByte, hd, updateCrc, hb]
    rw [hstep]
    refine .of_silent ?_ ?_
    · constructor <;> simp [checkedBytes, hcrc, hd, crc16CcittFalse, hb]
    · rw [hc, hb]
      exact List.suffix_refl _
  · have hstep : d.feedByte byte =
        (none, resetSearch { d with formatErrorCount := d.formatErrorCount + 1 } magic1 byte) := by
      simp [feedByte, hd, hb]
    rw [hstep]
    exact .of_search ⟨[magic0], by rw [hc]; rfl⟩

/-- The four header bytes that cannot be wrong. -/
theorem feedByte_header (d : ProtocolFrameDecoder) (h : d.WellFormed) (byte : UInt8)
    (hd : d.state = .readMessageType ∨ d.state = .readSequenceHigh ∨
      d.state = .readSequenceLow ∨ d.state = .readLengthHigh) :
    d.Explained byte (d.feedByte byte) := by
  have hcrc := h.crc
  obtain hd | hd | hd | hd := hd
  · have hstep : d.feedByte byte = (none, { d with
        frame := { d.frame with messageType := byte }
        calculatedCrc := crc16Byte d.calculatedCrc byte
        state := .readSequenceHigh }) := by
      simp [feedByte, hd, updateCrc]
    rw [hstep]
    refine .of_silent ?_ ?_
    · constructor <;> simp [checkedBytes, hcrc, hd, crc16CcittFalse]
    · simp [candidate, hd, checkedBytes]
  · have hstep : d.feedByte byte = (none, { d with
        frame := { d.frame with sequence := byte.toUInt16 <<< 8 }
        calculatedCrc := crc16Byte d.calculatedCrc byte
        state := .readSequenceLow }) := by
      simp [feedByte, hd, updateCrc]
    rw [hstep]
    refine .of_silent ?_ ?_
    · constructor <;> simp [checkedBytes, hcrc, hd, crc16CcittFalse, high_of_shift]
    · simp [candidate, hd, checkedBytes, high_of_shift]
  · have hjoin := encodeU16Be_join (d.frame.sequence >>> 8).toUInt8 byte
    rw [← h.sequenceHigh hd] at hjoin
    have hstep : d.feedByte byte = (none, { d with
        frame := { d.frame with sequence := d.frame.sequence ||| byte.toUInt16 }
        calculatedCrc := crc16Byte d.calculatedCrc byte
        state := .readLengthHigh }) := by
      simp [feedByte, hd, updateCrc]
    rw [hstep]
    refine .of_silent ?_ ?_
    · constructor <;> simp [checkedBytes, hcrc, hd, crc16CcittFalse, hjoin]
    · simp [candidate, hd, checkedBytes, hjoin]
  · have hstep : d.feedByte byte = (none, { d with
        frame := { d.frame with payloadLength := byte.toUInt16 <<< 8 }
        calculatedCrc := crc16Byte d.calculatedCrc byte
        state := .readLengthLow }) := by
      simp [feedByte, hd, updateCrc]
    rw [hstep]
    refine .of_silent ?_ ?_
    · constructor <;>
        simp [checkedBytes, hcrc, hd, crc16CcittFalse, crc16CcittFalseUpdate_append, high_of_shift]
    · simp [candidate, hd, checkedBytes, high_of_shift]

/-- The length is complete: too long, empty, or a payload to come. -/
theorem feedByte_readLengthLow (d : ProtocolFrameDecoder) (h : d.WellFormed) (byte : UInt8)
    (hd : d.state = .readLengthLow) : d.Explained byte (d.feedByte byte) := by
  have hcrc := h.crc
  have hjoin := encodeU16Be_join (d.frame.payloadLength >>> 8).toUInt8 byte
  have hhigh := high_of_join (d.frame.payloadLength >>> 8).toUInt8 byte
  rw [← h.lengthHigh hd] at hjoin hhigh
  obtain ⟨length, hlength⟩ : ∃ length, d.frame.payloadLength ||| byte.toUInt16 = length := ⟨_, rfl⟩
  rw [hlength] at hjoin hhigh
  by_cases hlong : length > maxPayloadSize
  · have hstep : d.feedByte byte = (none, resetSearch { d with
        frame := { d.frame with payloadLength := length }
        calculatedCrc := crc16Byte d.calculatedCrc byte
        formatErrorCount := d.formatErrorCount + 1 }
        (d.frame.payloadLength >>> 8).toUInt8 byte) := by
      simp [feedByte, hd, updateCrc, hlength, hlong, hhigh]
    rw [hstep]
    exact .of_search ⟨[magic0, magic1, version, d.frame.messageType] ++
      encodeU16Be d.frame.sequence, by simp [candidate, hd, checkedBytes]⟩
  · have hle : length ≤ maxPayloadSize := by simpa using hlong
    by_cases hzero : length = 0
    · have hstep : d.feedByte byte = (none, { d with
          frame := { d.frame with payloadLength := length }
          calculatedCrc := crc16Byte d.calculatedCrc byte
          state := .readCrcHigh }) := by
        simp [feedByte, hd, updateCrc, hlength, hzero, maxPayloadSize]
      have hnil : d.frame.payload.bytes.take length.toNat = [] := by simp [hzero]
      rw [hstep]
      refine .of_silent ?_ ?_
      · constructor <;>
          simp [checkedBytes, hcrc, hd, crc16CcittFalse, crc16CcittFalseUpdate_append,
            ProtocolFrame.checkedHeader, ProtocolFrame.content, hjoin, hle, hnil]
      · simp [candidate, hd, checkedBytes, ProtocolFrame.checkedHeader, ProtocolFrame.content,
          hjoin, hnil]
    · have hpos : 0 < length.toNat :=
        Nat.pos_of_ne_zero fun hz => hzero (UInt16.toNat_inj.mp (by simpa using hz))
      have hstep : d.feedByte byte = (none, { d with
          frame := { d.frame with payloadLength := length }
          calculatedCrc := crc16Byte d.calculatedCrc byte
          payloadIndex := 0
          state := .readPayload }) := by
        simp [feedByte, hd, updateCrc, hlength, hzero, hlong]
      rw [hstep]
      refine .of_silent ?_ ?_
      · constructor <;>
          simp [checkedBytes, hcrc, hd, crc16CcittFalse, crc16CcittFalseUpdate_append,
            ProtocolFrame.checkedHeader, hjoin, hle, hpos]
      · simp [candidate, hd, checkedBytes, ProtocolFrame.checkedHeader, hjoin]

/-- The index is inside the buffer, so the write is. -/
theorem feedByte_readPayload (d : ProtocolFrameDecoder) (h : d.WellFormed) (byte : UInt8)
    (hd : d.state = .readPayload) : d.Explained byte (d.feedByte byte) := by
  have hcrc := h.crc
  have hindex := h.index hd
  have hle := h.length (.inl hd)
  have hfit : d.frame.payloadLength.toNat ≤ 64 := by
    simpa [UInt16.le_iff_toNat_le, maxPayloadSize] using hle
  have hwrite : (d.frame.payload.write d.payloadIndex byte).bytes.take (d.payloadIndex + 1) =
      d.frame.payload.bytes.take d.payloadIndex ++ [byte] :=
    d.frame.payload.writeAll_take d.payloadIndex [byte] (by simp only [List.length_singleton]; omega)
  by_cases hlast : d.payloadIndex + 1 ≥ d.frame.payloadLength.toNat
  · have hend : d.frame.payloadLength.toNat = d.payloadIndex + 1 := by omega
    have hstep : d.feedByte byte = (none, { d with
        frame := { d.frame with payload := d.frame.payload.write d.payloadIndex byte }
        payloadIndex := d.payloadIndex + 1
        calculatedCrc := crc16Byte d.calculatedCrc byte
        state := .readCrcHigh }) := by
      simp [feedByte, hd, updateCrc, hlast]
    rw [hstep]
    refine .of_silent ?_ ?_
    · constructor <;>
        simp [checkedBytes, hcrc, hd, crc16CcittFalse, crc16CcittFalseUpdate_append,
          ProtocolFrame.checkedHeader, ProtocolFrame.content, hend, hwrite, hle]
    · simp [candidate, hd, checkedBytes, ProtocolFrame.checkedHeader, ProtocolFrame.content, hend,
        hwrite]
  · have hstep : d.feedByte byte = (none, { d with
        frame := { d.frame with payload := d.frame.payload.write d.payloadIndex byte }
        payloadIndex := d.payloadIndex + 1
        calculatedCrc := crc16Byte d.calculatedCrc byte }) := by
      simp [feedByte, hd, updateCrc, hlast]
    rw [hstep]
    refine .of_silent ?_ ?_
    · constructor <;>
        simp [checkedBytes, hcrc, hd, crc16CcittFalse, crc16CcittFalseUpdate_append,
          ProtocolFrame.checkedHeader, hwrite, hle]
      omega
    · simp [candidate, hd, checkedBytes, ProtocolFrame.checkedHeader, hwrite]

theorem feedByte_readCrcHigh (d : ProtocolFrameDecoder) (h : d.WellFormed) (byte : UInt8)
    (hd : d.state = .readCrcHigh) : d.Explained byte (d.feedByte byte) := by
  have hcrc := h.crc
  have hle := h.length (.inr (.inl hd))
  have hstep : d.feedByte byte = (none, { d with
      receivedCrc := byte.toUInt16 <<< 8
      state := .readCrcLow }) := by
    simp [feedByte, hd]
  rw [hstep]
  refine .of_silent ?_ ?_
  · constructor <;> simp [checkedBytes, hcrc, hd, high_of_shift, hle]
  · simp [candidate, hd, checkedBytes, high_of_shift]

/-- The last byte completes an encoding or sends its two checksum bytes back to the search. -/
theorem feedByte_readCrcLow (d : ProtocolFrameDecoder) (h : d.WellFormed) (byte : UInt8)
    (hd : d.state = .readCrcLow) : d.Explained byte (d.feedByte byte) := by
  have hcrc := h.crc
  have hle := h.length (.inr (.inr hd))
  have hjoin := encodeU16Be_join (d.receivedCrc >>> 8).toUInt8 byte
  have hhigh := high_of_join (d.receivedCrc >>> 8).toUInt8 byte
  rw [← h.crcHigh hd] at hjoin hhigh
  by_cases hmatch : d.receivedCrc ||| byte.toUInt16 = d.calculatedCrc
  · have hstep : d.feedByte byte = (some d.frame, frameReported { d with
        receivedCrc := d.receivedCrc ||| byte.toUInt16 }) := by
      simp [feedByte, hd, hmatch, frameReported]
    rw [hstep]
    refine ⟨?_, by simp, ?_⟩
    · constructor <;> simp [frameReported, checkedBytes, crc16CcittFalse]
    · intro f hf
      obtain rfl : d.frame = f := Option.some.inj hf
      refine ⟨hle, ?_, rfl⟩
      rw [hmatch, hcrc] at hjoin
      have hchecked : d.checkedBytes = d.frame.checkedHeader ++ d.frame.content := by
        simp [checkedBytes, hd]
      rw [hchecked] at hjoin
      rw [protocolFrameEncode_of_le d.frame hle, hjoin]
      simp [candidate, hd, checkedBytes]
  · have hstep : d.feedByte byte = (none, resetSearch { d with
        receivedCrc := d.receivedCrc ||| byte.toUInt16
        crcErrorCount := d.crcErrorCount + 1 }
        (d.receivedCrc >>> 8).toUInt8 byte) := by
      simp [feedByte, hd, hmatch, hhigh]
    rw [hstep]
    exact .of_search ⟨[magic0, magic1] ++ d.checkedBytes, by simp [candidate, hd]⟩

/-- Every byte from every well-formed state. -/
theorem feedByte_explained (d : ProtocolFrameDecoder) (h : d.WellFormed) (byte : UInt8) :
    d.Explained byte (d.feedByte byte) := by
  cases hd : d.state with
  | waitMagic0 => exact feedByte_waitMagic0 d h byte hd
  | waitMagic1 => exact feedByte_waitMagic1 d h byte hd
  | readVersion => exact feedByte_readVersion d h byte hd
  | readMessageType => exact feedByte_header d h byte (.inl hd)
  | readSequenceHigh => exact feedByte_header d h byte (.inr (.inl hd))
  | readSequenceLow => exact feedByte_header d h byte (.inr (.inr (.inl hd)))
  | readLengthHigh => exact feedByte_header d h byte (.inr (.inr (.inr hd)))
  | readLengthLow => exact feedByte_readLengthLow d h byte hd
  | readPayload => exact feedByte_readPayload d h byte hd
  | readCrcHigh => exact feedByte_readCrcHigh d h byte hd
  | readCrcLow => exact feedByte_readCrcLow d h byte hd

theorem feedByte_wellFormed {d : ProtocolFrameDecoder} (h : d.WellFormed) (byte : UInt8) :
    (d.feedByte byte).2.WellFormed :=
  (feedByte_explained d h byte).wellFormed

theorem feedBytes_wellFormed {d : ProtocolFrameDecoder} (h : d.WellFormed) (bytes : List UInt8) :
    (d.feedBytes bytes).2.WellFormed := by
  induction bytes generalizing d with
  | nil => exact h
  | cons byte rest ih => exact ih (feedByte_wellFormed h byte)

end ProtocolFrameDecoder

/-- A call on a decoder. -/
inductive DecoderCall where
  | feed (byte : UInt8)
  | reset
  deriving DecidableEq

/-- A frame handed out, with the number of bytes fed by then and by the reset before it. -/
structure FrameReport where
  frame : ProtocolFrame
  latestReset : ℕ
  stop : ℕ
  deriving DecidableEq

/-- Where the bytes of a reported frame begin. -/
def FrameReport.start (report : FrameReport) : ℕ :=
  report.stop - (10 + report.frame.payloadLength.toNat)

/-- The bytes of the report are after the reset, among those fed, and encode its frame. -/
structure FrameReport.Genuine (report : FrameReport) (fed : List UInt8) : Prop where
  length : report.frame.payloadLength ≤ maxPayloadSize
  afterReset : report.latestReset + (10 + report.frame.payloadLength.toNat) ≤ report.stop
  received : report.stop ≤ fed.length
  encoded : (fed.take report.stop).drop report.start = protocolFrameEncode report.frame

/-- A decoder with everything that has been fed to it and that it has reported. -/
structure DecoderRun where
  decoder : ProtocolFrameDecoder := .init
  fed : List UInt8 := []
  latestReset : ℕ := 0
  reports : List FrameReport := []

namespace DecoderRun

def call (r : DecoderRun) : DecoderCall → DecoderRun
  | .feed byte =>
    let (answer, decoder) := r.decoder.feedByte byte
    { r with
      decoder := decoder
      fed := r.fed ++ [byte]
      reports := r.reports ++ answer.toList.map fun f => ⟨f, r.latestReset, r.fed.length + 1⟩ }
  | .reset => { r with decoder := r.decoder.reset, latestReset := r.fed.length }

def calls (r : DecoderRun) (cs : List DecoderCall) : DecoderRun := cs.foldl call r

/-- The present frame lies after the latest reset and after every reported frame. -/
structure Sound (r : DecoderRun) : Prop where
  wellFormed : r.decoder.WellFormed
  candidate : ∃ base, r.latestReset ≤ base ∧ (∀ report ∈ r.reports, report.stop ≤ base) ∧
    base ≤ r.fed.length ∧ r.decoder.candidate <:+ r.fed.drop base
  genuine : ∀ report ∈ r.reports, report.Genuine r.fed
  ordered : r.reports.Pairwise fun first second => first.stop ≤ second.start

end DecoderRun

theorem FrameReport.Genuine.append {report : FrameReport} {fed : List UInt8}
    (h : report.Genuine fed) (more : List UInt8) : report.Genuine (fed ++ more) where
  length := h.length
  afterReset := h.afterReset
  received := by
    rw [List.length_append]
    exact Nat.le_add_right_of_le h.received
  encoded := by
    rw [List.take_append_of_le_length h.received]
    exact h.encoded

namespace DecoderRun

theorem init_sound : Sound {} where
  wellFormed := ProtocolFrameDecoder.init_wellFormed
  candidate := ⟨0, Nat.le_refl _, by simp, Nat.le_refl _, List.nil_suffix⟩
  genuine := by simp
  ordered := .nil

theorem reset_sound {r : DecoderRun} (h : r.Sound) : (r.call .reset).Sound where
  wellFormed := ProtocolFrameDecoder.reset_wellFormed _
  candidate := ⟨r.fed.length, Nat.le_refl _, fun report hr => (h.genuine report hr).received,
    Nat.le_refl _, List.nil_suffix⟩
  genuine := h.genuine
  ordered := h.ordered

/-- What a byte that completes a frame adds to the run. -/
theorem feed_reported {r : DecoderRun} (h : r.Sound) (byte : UInt8) (f : ProtocolFrame)
    (hf : (r.decoder.feedByte byte).1 = some f) :
    f.payloadLength ≤ maxPayloadSize ∧
      protocolFrameEncode f <:+ r.fed.drop r.latestReset ++ [byte] ∧
      (FrameReport.mk f r.latestReset (r.fed.length + 1)).Genuine (r.fed ++ [byte]) ∧
      ∀ report ∈ r.reports,
        report.stop ≤ (FrameReport.mk f r.latestReset (r.fed.length + 1)).start := by
  obtain ⟨base, hreset, hreports, hbase, front, hfront⟩ := h.candidate
  obtain ⟨hle, hencode, -⟩ :=
    (ProtocolFrameDecoder.feedByte_explained _ h.wellFormed byte).reported f hf
  have hlength := protocolFrameEncode_length f hle
  have hsplit : r.fed ++ [byte] = r.fed.take base ++ front ++ protocolFrameEncode f := by
    rw [hencode, List.append_assoc, ← List.append_assoc front, hfront, ← List.append_assoc,
      List.take_append_drop]
  have hcount := congrArg List.length hsplit
  simp only [List.length_append, List.length_singleton, hlength, List.length_take,
    Nat.min_eq_left hbase] at hcount
  have hstart : (FrameReport.mk f r.latestReset (r.fed.length + 1)).start =
      base + front.length := by
    simp only [FrameReport.start]
    omega
  refine ⟨hle, ?_, ⟨hle, ?_, ?_, ?_⟩, ?_⟩
  · refine ⟨(r.fed.take base).drop r.latestReset ++ front, ?_⟩
    have hdrop := congrArg (List.drop r.latestReset) hsplit
    rw [List.drop_append_of_le_length (by omega), List.append_assoc,
      List.drop_append_of_le_length (by rw [List.length_take]; omega)] at hdrop
    rw [hdrop, List.append_assoc]
  · simp only
    omega
  · simp
  · have htake : (r.fed ++ [byte]).take (r.fed.length + 1) = r.fed ++ [byte] :=
      List.take_of_length_le (by simp)
    rw [htake, hstart, hsplit]
    apply List.drop_left'
    rw [List.length_append, List.length_take, Nat.min_eq_left hbase]
  · intro report hr
    rw [hstart]
    exact Nat.le_add_right_of_le (hreports report hr)

theorem feed_sound {r : DecoderRun} (h : r.Sound) (byte : UInt8) : (r.call (.feed byte)).Sound := by
  have hexplained := ProtocolFrameDecoder.feedByte_explained _ h.wellFormed byte
  have hgenuine : ∀ report ∈ r.reports, report.Genuine (r.fed ++ [byte]) :=
    fun report hr => (h.genuine report hr).append [byte]
  cases hf : (r.decoder.feedByte byte).1 with
  | none =>
    have hcall : r.call (.feed byte) =
        { r with decoder := (r.decoder.feedByte byte).2, fed := r.fed ++ [byte] } := by
      simp [call, hf]
    obtain ⟨base, hreset, hreports, hbase, hcandidate⟩ := h.candidate
    rw [hcall]
    refine ⟨hexplained.wellFormed, ⟨base, hreset, hreports, ?_, ?_⟩, hgenuine, h.ordered⟩
    · simp only [List.length_append]
      omega
    · rw [List.drop_append_of_le_length hbase]
      obtain ⟨front, hfront⟩ := hcandidate
      refine (hexplained.silent hf).trans ⟨front, ?_⟩
      rw [← List.append_assoc, hfront]
  | some f =>
    obtain ⟨-, -, hnew, hstart⟩ := feed_reported h byte f hf
    have hcall : r.call (.feed byte) = { r with
        decoder := (r.decoder.feedByte byte).2
        fed := r.fed ++ [byte]
        reports := r.reports ++ [⟨f, r.latestReset, r.fed.length + 1⟩] } := by
      simp [call, hf]
    rw [hcall]
    refine ⟨hexplained.wellFormed, ⟨r.fed.length + 1, ?_, ?_, by simp, ?_⟩, ?_, ?_⟩
    · have hreset := hnew.afterReset
      simp only at hreset ⊢
      omega
    · intro report hr
      rcases List.mem_append.mp hr with hr | hr
      · exact Nat.le_succ_of_le (h.genuine report hr).received
      · exact Nat.le_of_eq (by rw [List.mem_singleton.mp hr])
    · rw [(hexplained.reported f hf).2.2]
      exact List.nil_suffix
    · intro report hr
      rcases List.mem_append.mp hr with hr | hr
      · exact hgenuine report hr
      · rw [List.mem_singleton.mp hr]
        exact hnew
    · refine List.pairwise_append.mpr ⟨h.ordered, List.pairwise_singleton _ _, ?_⟩
      intro first hfirst second hsecond
      rw [List.mem_singleton.mp hsecond]
      exact hstart first hfirst

theorem calls_sound {r : DecoderRun} (h : r.Sound) (cs : List DecoderCall) : (r.calls cs).Sound := by
  induction cs generalizing r with
  | nil => exact h
  | cons c cs ih =>
    apply ih
    cases c with
    | feed byte => exact feed_sound h byte
    | reset => exact reset_sound h

/-- Whatever is fed and whenever the decoder is reset, a reported frame is what the
last bytes since the reset encode, reports do not overlap, and the payload buffer is
written inside its bounds. -/
theorem decoder_reports_only_received_encodings (cs : List DecoderCall) :
    (∀ byte f, ((calls {} cs).decoder.feedByte byte).1 = some f →
      f.payloadLength ≤ maxPayloadSize ∧
        (protocolFrameEncode f).length = 10 + f.payloadLength.toNat ∧
        protocolFrameEncode f <:+ (calls {} cs).fed.drop (calls {} cs).latestReset ++ [byte]) ∧
      (∀ report ∈ (calls {} cs).reports, report.Genuine (calls {} cs).fed) ∧
      (calls {} cs).reports.Pairwise (fun first second => first.stop ≤ second.start) ∧
      ((calls {} cs).decoder.state = .readPayload →
        (calls {} cs).decoder.payloadIndex < (calls {} cs).decoder.frame.payloadLength.toNat ∧
          (calls {} cs).decoder.frame.payloadLength.toNat ≤ 64) := by
  have h := calls_sound init_sound cs
  refine ⟨?_, h.genuine, h.ordered, ?_⟩
  · intro byte f hf
    obtain ⟨hle, hsuffix, -⟩ := feed_reported h byte f hf
    exact ⟨hle, protocolFrameEncode_length f hle, hsuffix⟩
  · intro hstate
    refine ⟨h.wellFormed.index hstate, ?_⟩
    simpa [UInt16.le_iff_toNat_le, maxPayloadSize] using h.wellFormed.length (.inl hstate)

end DecoderRun

end IndoorRobot
