import IndoorRobot.ProtocolFrame

/-!
# The decoder inverts the encoder on streams

Feeding an encoding byte by byte walks the decoder through the header, the
payload and the checksum. The payload loop is an induction on the bytes still to
come, the stream an induction on the frames.
-/
namespace IndoorRobot

open ProtocolFrameFormat ByteCodec

namespace ProtocolFrameDecoder

/-- Waiting for a frame, with nothing of an earlier one under the checksum. -/
structure Ready (d : ProtocolFrameDecoder) : Prop where
  state : d.state = .waitMagic0
  calculatedCrc : d.calculatedCrc = crc16CcittFalseInitial

/-- The decoder once the eight header bytes have been read. -/
def headerRead (d : ProtocolFrameDecoder) (messageType : ProtocolMessageType)
    (sequence payloadLength crc : UInt16) : ProtocolFrameDecoder :=
  { d with
    state := if payloadLength = 0 then .readCrcHigh else .readPayload
    frame :=
      { messageType := messageType
        sequence := sequence
        payloadLength := payloadLength
        payload := d.frame.payload }
    payloadIndex := 0
    receivedCrc := 0
    calculatedCrc := crc }

theorem feedBytes_headerBytes (d : ProtocolFrameDecoder) (hd : d.state = .waitMagic0)
    (messageType sequenceHigh sequenceLow lengthHigh lengthLow : UInt8)
    (hlong : ¬ lengthHigh.toUInt16 <<< 8 ||| lengthLow.toUInt16 > maxPayloadSize) :
    d.feedBytes [magic0, magic1, version, messageType, sequenceHigh, sequenceLow, lengthHigh,
        lengthLow] =
      (List.replicate 8 none,
        d.headerRead messageType (sequenceHigh.toUInt16 <<< 8 ||| sequenceLow.toUInt16)
          (lengthHigh.toUInt16 <<< 8 ||| lengthLow.toUInt16)
          (crc16CcittFalse [version, messageType, sequenceHigh, sequenceLow, lengthHigh,
            lengthLow])) := by
  by_cases hz : lengthHigh.toUInt16 <<< 8 ||| lengthLow.toUInt16 = 0
  · rw [hz] at hlong
    simp [feedByte, hd, beginFrame, updateCrc, headerRead, crc16CcittFalse, hz, hlong,
      List.replicate_succ]
  · simp [feedByte, hd, beginFrame, updateCrc, headerRead, crc16CcittFalse, hz, hlong,
      List.replicate_succ]

theorem feedBytes_header (d : ProtocolFrameDecoder) (hd : d.state = .waitMagic0)
    (f : ProtocolFrame) (hf : f.payloadLength ≤ maxPayloadSize) :
    d.feedBytes ([magic0, magic1] ++ f.checkedHeader) =
      (List.replicate 8 none,
        d.headerRead f.messageType f.sequence f.payloadLength
          (crc16CcittFalse f.checkedHeader)) := by
  have h := feedBytes_headerBytes d hd f.messageType (f.sequence >>> 8).toUInt8 f.sequence.toUInt8
    (f.payloadLength >>> 8).toUInt8 f.payloadLength.toUInt8
  rw [join_high_low, join_high_low] at h
  exact h (by simpa using hf)

/-- The decoder once all payload bytes have been read. -/
def payloadRead (d : ProtocolFrameDecoder) (bytes : List UInt8) : ProtocolFrameDecoder :=
  { d with
    state := .readCrcHigh
    frame := { d.frame with payload := d.frame.payload.writeAll d.payloadIndex bytes }
    payloadIndex := d.payloadIndex + bytes.length
    calculatedCrc := crc16CcittFalseUpdate d.calculatedCrc bytes }

theorem feedBytes_payload (d : ProtocolFrameDecoder) (bytes : List UInt8)
    (hd : d.state = .readPayload) (hne : bytes ≠ [])
    (hlen : d.payloadIndex + bytes.length = d.frame.payloadLength.toNat) :
    d.feedBytes bytes = (List.replicate bytes.length none, d.payloadRead bytes) := by
  induction bytes generalizing d with
  | nil => exact absurd rfl hne
  | cons byte rest ih =>
    cases rest with
    | nil =>
      have hlast : d.payloadIndex + 1 ≥ d.frame.payloadLength.toNat := by
        simp only [List.length_cons, List.length_nil] at hlen
        omega
      simp [feedByte, hd, updateCrc, hlast, payloadRead, PayloadBuffer.writeAll]
    | cons next rest =>
      have hmore : ¬ d.payloadIndex + 1 ≥ d.frame.payloadLength.toNat := by
        simp only [List.length_cons] at hlen
        omega
      have hstep : d.feedByte byte =
          (none, { d with
            frame := { d.frame with payload := d.frame.payload.write d.payloadIndex byte }
            payloadIndex := d.payloadIndex + 1
            calculatedCrc := crc16Byte d.calculatedCrc byte }) := by
        simp [feedByte, hd, updateCrc, hmore]
      have hrest := ih (d.feedByte byte).2 (by rw [hstep]; exact hd) (by simp)
        (by rw [hstep]; simp only [List.length_cons] at hlen ⊢; omega)
      rw [feedBytes_cons, hrest, hstep]
      simp only [payloadRead, List.length_cons, List.replicate_succ, PayloadBuffer.writeAll,
        crc16CcittFalseUpdate_cons]
      congr 2
      omega

/-- The decoder after a frame with a matching checksum. -/
def frameReported (d : ProtocolFrameDecoder) : ProtocolFrameDecoder :=
  { d with
    validFrameCount := d.validFrameCount + 1
    state := .waitMagic0
    payloadIndex := 0
    receivedCrc := 0
    calculatedCrc := crc16CcittFalseInitial }

theorem feedBytes_crc (d : ProtocolFrameDecoder) (hd : d.state = .readCrcHigh) (high low : UInt8)
    (hcrc : high.toUInt16 <<< 8 ||| low.toUInt16 = d.calculatedCrc) :
    d.feedBytes [high, low] = ([none, some d.frame], d.frameReported) := by
  simp [feedByte, hd, frameReported, hcrc]

/-- The decoder after a frame whose two checksum bytes do not match. -/
def frameRejected (d : ProtocolFrameDecoder) (high low : UInt8) : ProtocolFrameDecoder :=
  resetSearch { d with
    receivedCrc := high.toUInt16 <<< 8 ||| low.toUInt16
    crcErrorCount := d.crcErrorCount + 1
    state := .readCrcLow } high low

theorem feedBytes_badCrc (d : ProtocolFrameDecoder) (hd : d.state = .readCrcHigh)
    (high low : UInt8) (hcrc : high.toUInt16 <<< 8 ||| low.toUInt16 ≠ d.calculatedCrc) :
    d.feedBytes [high, low] = ([none, none], d.frameRejected high low) := by
  simp [feedByte, hd, frameRejected, hcrc, high_of_join]

/-- The payload loop after the header of `f`, which an empty payload skips. -/
theorem feedBytes_content (d : ProtocolFrameDecoder) (f : ProtocolFrame) (crc : UInt16)
    (hf : f.payloadLength ≤ maxPayloadSize) :
    (d.headerRead f.messageType f.sequence f.payloadLength crc).feedBytes f.content =
      (List.replicate f.content.length none,
        (d.headerRead f.messageType f.sequence f.payloadLength crc).payloadRead f.content) := by
  have hlen := f.content_length hf
  by_cases hz : f.payloadLength = 0
  · have hnil : f.content = [] := by simp [ProtocolFrame.content, hz]
    simp [hnil, payloadRead, headerRead, hz, PayloadBuffer.writeAll]
  · have hpos : f.payloadLength.toNat ≠ 0 := fun h => hz (UInt16.toNat_inj.mp (by simpa using h))
    refine feedBytes_payload _ _ (by simp [headerRead, hz]) ?_ (by simp [headerRead, hlen])
    intro hnil
    rw [hnil] at hlen
    exact hpos hlen.symm

theorem payloadRead_sameContent (d : ProtocolFrameDecoder) (f : ProtocolFrame) (crc : UInt16)
    (hf : f.payloadLength ≤ maxPayloadSize) :
    f.SameContent ((d.headerRead f.messageType f.sequence f.payloadLength crc).payloadRead
      f.content).frame := by
  have hlen := f.content_length hf
  have hle : f.payloadLength.toNat ≤ 64 := by
    simpa [UInt16.le_iff_toNat_le, maxPayloadSize] using hf
  refine ⟨rfl, rfl, rfl, ?_⟩
  have h := d.frame.payload.writeAll_take 0 f.content (by omega)
  rw [Nat.zero_add, hlen, List.take_zero, List.nil_append] at h
  exact h

/-- One encoding, from any decoder that waits for a frame, whatever its payload buffer holds. -/
theorem feedBytes_encode (d : ProtocolFrameDecoder) (hd : d.state = .waitMagic0) (f : ProtocolFrame)
    (hf : f.payloadLength ≤ maxPayloadSize) :
    ∃ reported, f.SameContent reported ∧
      (d.feedBytes (protocolFrameEncode f)).1 =
        List.replicate ((protocolFrameEncode f).length - 1) none ++ [some reported] ∧
      (d.feedBytes (protocolFrameEncode f)).2.Ready ∧
      (d.feedBytes (protocolFrameEncode f)).2.crcErrorCount = d.crcErrorCount ∧
      (d.feedBytes (protocolFrameEncode f)).2.formatErrorCount = d.formatErrorCount := by
  have hlen := protocolFrameEncode_length f hf
  have hcontent := f.content_length hf
  have henc : protocolFrameEncode f = ([magic0, magic1] ++ f.checkedHeader) ++
      (f.content ++ encodeU16Be (crc16CcittFalse (f.checkedHeader ++ f.content))) := by
    rw [protocolFrameEncode_of_le f hf]
    simp
  have hcrc : crc16CcittFalse (f.checkedHeader ++ f.content) =
      ((d.headerRead f.messageType f.sequence f.payloadLength
        (crc16CcittFalse f.checkedHeader)).payloadRead f.content).calculatedCrc := by
    simp [crc16CcittFalse, crc16CcittFalseUpdate_append, payloadRead, headerRead]
  have hfeed : d.feedBytes (protocolFrameEncode f) =
      (List.replicate 8 none ++ (List.replicate f.content.length none ++
        [none, some ((d.headerRead f.messageType f.sequence f.payloadLength
          (crc16CcittFalse f.checkedHeader)).payloadRead f.content).frame]),
        ((d.headerRead f.messageType f.sequence f.payloadLength
          (crc16CcittFalse f.checkedHeader)).payloadRead f.content).frameReported) := by
    rw [henc, feedBytes_append, feedBytes_header d hd f hf, feedBytes_append,
      feedBytes_content d f _ hf, hcrc, encodeU16Be,
      feedBytes_crc _ rfl _ _ (join_high_low _)]
  refine ⟨_, payloadRead_sameContent d f (crc16CcittFalse f.checkedHeader) hf, ?_, ?_, ?_, ?_⟩
  · rw [hfeed, hlen, hcontent, show 10 + f.payloadLength.toNat - 1 =
      8 + (f.payloadLength.toNat + 1) by omega]
    rw [← List.replicate_append_replicate, ← List.replicate_append_replicate]
    simp
  · rw [hfeed]
    exact ⟨rfl, rfl⟩
  · rw [hfeed]
    rfl
  · rw [hfeed]
    rfl

theorem frameRejected_crcErrorCount (d : ProtocolFrameDecoder) (high low : UInt8) :
    (d.frameRejected high low).crcErrorCount = d.crcErrorCount + 1 := by
  simp only [frameRejected, resetSearch]
  split
  · rfl
  · split <;> rfl

/-- A frame with the wrong checksum is read to its end and counted once. -/
theorem feedBytes_corrupted (d : ProtocolFrameDecoder) (hd : d.Ready) (f : ProtocolFrame)
    (hf : f.payloadLength ≤ maxPayloadSize) (high low : UInt8)
    (hcrc : high.toUInt16 <<< 8 ||| low.toUInt16 ≠ crc16CcittFalse (f.checkedHeader ++ f.content)) :
    ∃ e : ProtocolFrameDecoder, e.crcErrorCount = d.crcErrorCount ∧
      d.feedBytes ([magic0, magic1] ++ (f.checkedHeader ++ f.content) ++ [high, low]) =
        (List.replicate (10 + f.payloadLength.toNat) none, e.frameRejected high low) := by
  have hcontent := f.content_length hf
  refine ⟨(d.headerRead f.messageType f.sequence f.payloadLength
    (crc16CcittFalse f.checkedHeader)).payloadRead f.content, rfl, ?_⟩
  have hcalculated : ((d.headerRead f.messageType f.sequence f.payloadLength
      (crc16CcittFalse f.checkedHeader)).payloadRead f.content).calculatedCrc =
        crc16CcittFalse (f.checkedHeader ++ f.content) := by
    simp [crc16CcittFalse, crc16CcittFalseUpdate_append, payloadRead, headerRead]
  rw [← List.append_assoc, List.append_assoc, feedBytes_append, feedBytes_header d hd.state f hf,
    feedBytes_append, feedBytes_content d f _ hf,
    feedBytes_badCrc _ rfl _ _ (by rw [hcalculated]; exact hcrc), hcontent,
    show 10 + f.payloadLength.toNat = 8 + (f.payloadLength.toNat + 2) by omega,
    ← List.replicate_append_replicate, ← List.replicate_append_replicate]
  rfl

/-- Concatenated encodings are reported frame by frame, each at its last byte. -/
theorem stream_round_trip (frames : List ProtocolFrame)
    (hframes : ∀ f ∈ frames, f.payloadLength ≤ maxPayloadSize) (d : ProtocolFrameDecoder)
    (hstate : d.state = .waitMagic0) (hcrc : d.calculatedCrc = crc16CcittFalseInitial) :
    ∃ reported, List.Forall₂ ProtocolFrame.SameContent frames reported ∧
      (d.feedBytes (frames.flatMap protocolFrameEncode)).1 =
        (List.zipWith (fun f r => List.replicate ((protocolFrameEncode f).length - 1) none ++
          [some r]) frames reported).flatten ∧
      (d.feedBytes (frames.flatMap protocolFrameEncode)).2.state = .waitMagic0 ∧
      (d.feedBytes (frames.flatMap protocolFrameEncode)).2.calculatedCrc =
        crc16CcittFalseInitial ∧
      (d.feedBytes (frames.flatMap protocolFrameEncode)).2.crcErrorCount = d.crcErrorCount ∧
      (d.feedBytes (frames.flatMap protocolFrameEncode)).2.formatErrorCount =
        d.formatErrorCount := by
  induction frames generalizing d with
  | nil => exact ⟨[], .nil, rfl, hstate, hcrc, rfl, rfl⟩
  | cons f frames ih =>
    obtain ⟨r, hr, hanswers, hready, hcrcErrors, hformatErrors⟩ :=
      feedBytes_encode d hstate f (hframes f (by simp))
    obtain ⟨reported, hall, hrest, hstate', hcrc', hcrcErrors', hformatErrors'⟩ :=
      ih (fun g hg => hframes g (by simp [hg])) _ hready.state hready.calculatedCrc
    simp only [List.flatMap_cons, feedBytes_append]
    refine ⟨r :: reported, .cons hr hall, ?_, hstate', hcrc', hcrcErrors'.trans hcrcErrors,
      hformatErrors'.trans hformatErrors⟩
    rw [hanswers, hrest]
    simp

/-- A full payload, then an empty one that finds its bytes still in the buffer. -/
def reusedBuffer : List ProtocolFrame :=
  [{ messageType := .linkSync, sequence := 0xFFFF, payloadLength := 64,
     payload := .ofBytes (List.replicate 64 0xA5) },
    { messageType := .heartbeat }]

theorem stream_round_trip_reused_buffer :
    (∀ f ∈ reusedBuffer, f.payloadLength ≤ maxPayloadSize) ∧
      ∃ reported, List.Forall₂ ProtocolFrame.SameContent reusedBuffer reported ∧
        (init.feedBytes (reusedBuffer.flatMap protocolFrameEncode)).1 =
          (List.zipWith (fun f r => List.replicate ((protocolFrameEncode f).length - 1) none ++
            [some r]) reusedBuffer reported).flatten := by
  have hframes : ∀ f ∈ reusedBuffer, f.payloadLength ≤ maxPayloadSize := by decide
  obtain ⟨reported, hall, hanswers, _⟩ := stream_round_trip reusedBuffer hframes init rfl rfl
  exact ⟨hframes, reported, hall, hanswers⟩

end ProtocolFrameDecoder

end IndoorRobot
