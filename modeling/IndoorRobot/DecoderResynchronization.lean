import IndoorRobot.DecoderSoundness

/-!
# How the decoder finds its way back into the stream

After noise the decoder may be anywhere inside a frame that was never sent. Idle
bytes lead it out within one frame length. Back-to-back traffic does so when the
start of a frame can be told from the bytes inside one; a payload that looks like
a header can hide every frame of a stream.
-/
namespace IndoorRobot

open ProtocolFrameFormat ByteCodec

namespace ProtocolFrameDecoder

/-! ### Idle bytes -/

/-- How many bytes other than the first magic byte can pass before the search is idle. A
first magic byte that was read as half of a field may still begin a frame. -/
def idleBound (d : ProtocolFrameDecoder) : ℕ :=
  match d.state with
  | .waitMagic0 => 0
  | .waitMagic1 => 73
  | .readVersion => 72
  | .readMessageType => 71
  | .readSequenceHigh => 70
  | .readSequenceLow => 69
  | .readLengthHigh => 68
  | .readLengthLow => if (d.frame.payloadLength >>> 8).toUInt8 = magic0 then 73 else 67
  | .readPayload => d.frame.payloadLength.toNat - d.payloadIndex + 2
  | .readCrcHigh => 2
  | .readCrcLow => if (d.receivedCrc >>> 8).toUInt8 = magic0 then 73 else 1

theorem WellFormed.payloadLength_le {d : ProtocolFrameDecoder} (h : d.WellFormed)
    (hd : d.state = .readPayload ∨ d.state = .readCrcHigh ∨ d.state = .readCrcLow) :
    d.frame.payloadLength.toNat ≤ 64 := by
  simpa [UInt16.le_iff_toNat_le, maxPayloadSize] using h.length hd

theorem idleBound_le {d : ProtocolFrameDecoder} (h : d.WellFormed) : d.idleBound ≤ 73 := by
  rw [idleBound]
  split
  case h_9 hd =>
    have hle := h.payloadLength_le (.inl hd)
    omega
  all_goals first | omega | (split <;> omega)

theorem idleBound_resetSearch (d : ProtocolFrameDecoder) (previousByte byte : UInt8)
    (hb : byte ≠ magic0) :
    (d.resetSearch previousByte byte).idleBound = if previousByte = magic0 ∧ byte = magic1 then 72
      else 0 := by
  by_cases hm : previousByte = magic0 ∧ byte = magic1
  · rw [resetSearch, if_pos hm, if_pos hm]
    rfl
  · rw [resetSearch, if_neg hm, if_neg hb, if_neg hm]
    rfl

/-- Only a first magic byte before the idle bytes lets the search restart. -/
theorem idleBound_resetSearch_le (d : ProtocolFrameDecoder) (previousByte byte : UInt8)
    (hb : byte ≠ magic0) (rest : ℕ) :
    (d.resetSearch previousByte byte).idleBound ≤
      (if previousByte = magic0 then 73 else rest) - 1 := by
  rw [idleBound_resetSearch d previousByte byte hb]
  by_cases hp : previousByte = magic0
  · rw [if_pos hp]
    split <;> omega
  · rw [if_neg (fun h => hp h.1)]
    exact Nat.zero_le _

theorem idleBound_readLengthLow {d : ProtocolFrameDecoder} (h : d.WellFormed) (byte : UInt8)
    (hb : byte ≠ magic0) (hd : d.state = .readLengthLow) :
    (d.feedByte byte).2.idleBound ≤ d.idleBound - 1 := by
  have hhigh := high_of_join (d.frame.payloadLength >>> 8).toUInt8 byte
  rw [← h.lengthHigh hd] at hhigh
  have hbound : d.idleBound = if (d.frame.payloadLength >>> 8).toUInt8 = magic0 then 73 else 67 := by
    simp [idleBound, hd]
  obtain ⟨length, hlength⟩ : ∃ length, d.frame.payloadLength ||| byte.toUInt16 = length := ⟨_, rfl⟩
  rw [hlength] at hhigh
  rw [hbound]
  by_cases hlong : length > maxPayloadSize
  · have hstep : (d.feedByte byte).2 = resetSearch { d with
        frame := { d.frame with payloadLength := length }
        calculatedCrc := crc16Byte d.calculatedCrc byte
        formatErrorCount := d.formatErrorCount + 1 }
        (d.frame.payloadLength >>> 8).toUInt8 byte := by
      simp [feedByte, hd, updateCrc, hlength, hlong, hhigh]
    rw [hstep]
    exact idleBound_resetSearch_le _ _ _ hb _
  · have hle : length.toNat ≤ 64 := by
      simpa [UInt16.lt_iff_toNat_lt, maxPayloadSize] using hlong
    have hnext : (d.feedByte byte).2.idleBound ≤ 66 := by
      by_cases hzero : length = 0
      · simp [feedByte, hd, updateCrc, hlength, hzero, maxPayloadSize, idleBound]
      · simp [feedByte, hd, updateCrc, hlength, hzero, hlong, idleBound]
        omega
    split <;> omega

theorem idleBound_readPayload {d : ProtocolFrameDecoder} (h : d.WellFormed) (byte : UInt8)
    (hd : d.state = .readPayload) : (d.feedByte byte).2.idleBound ≤ d.idleBound - 1 := by
  have hindex := h.index hd
  have hbound : d.idleBound = d.frame.payloadLength.toNat - d.payloadIndex + 2 := by
    simp [idleBound, hd]
  by_cases hlast : d.payloadIndex + 1 ≥ d.frame.payloadLength.toNat
  · have hnext : (d.feedByte byte).2.idleBound = 2 := by
      simp [feedByte, hd, updateCrc, hlast, idleBound]
    omega
  · have hnext : (d.feedByte byte).2.idleBound =
        d.frame.payloadLength.toNat - (d.payloadIndex + 1) + 2 := by
      simp [feedByte, hd, updateCrc, hlast, idleBound]
    omega

theorem idleBound_readCrcLow {d : ProtocolFrameDecoder} (h : d.WellFormed) (byte : UInt8)
    (hb : byte ≠ magic0) (hd : d.state = .readCrcLow) :
    (d.feedByte byte).2.idleBound ≤ d.idleBound - 1 := by
  have hhigh := high_of_join (d.receivedCrc >>> 8).toUInt8 byte
  rw [← h.crcHigh hd] at hhigh
  have hbound : d.idleBound = if (d.receivedCrc >>> 8).toUInt8 = magic0 then 73 else 1 := by
    simp [idleBound, hd]
  by_cases hmatch : d.receivedCrc ||| byte.toUInt16 = d.calculatedCrc
  · have hnext : (d.feedByte byte).2.idleBound = 0 := by
      simp [feedByte, hd, hmatch, idleBound]
    omega
  · have hstep : (d.feedByte byte).2 = resetSearch { d with
        receivedCrc := d.receivedCrc ||| byte.toUInt16
        crcErrorCount := d.crcErrorCount + 1 }
        (d.receivedCrc >>> 8).toUInt8 byte := by
      simp [feedByte, hd, hmatch, hhigh]
    rw [hstep, hbound]
    exact idleBound_resetSearch_le _ _ _ hb _

/-- Every idle byte brings the search nearer to its start. -/
theorem idleBound_feedByte {d : ProtocolFrameDecoder} (h : d.WellFormed) (byte : UInt8)
    (hb : byte ≠ magic0) : (d.feedByte byte).2.idleBound ≤ d.idleBound - 1 := by
  cases hd : d.state with
  | waitMagic0 => simp [feedByte, hd, hb, idleBound]
  | waitMagic1 =>
    by_cases h1 : byte = magic1
    · simp [feedByte, hd, h1, idleBound, beginFrame]
    · simp [feedByte, hd, h1, hb, idleBound]
  | readVersion =>
    by_cases hv : byte = version
    · simp [feedByte, hd, hv, idleBound, updateCrc]
    · have hstep : (d.feedByte byte).2 =
          resetSearch { d with formatErrorCount := d.formatErrorCount + 1 } magic1 byte := by
        simp [feedByte, hd, hv]
      rw [hstep, idleBound_resetSearch _ _ _ hb, if_neg (fun hm => absurd hm.1 (by decide))]
      exact Nat.zero_le _
  | readMessageType => simp [feedByte, hd, idleBound, updateCrc]
  | readSequenceHigh => simp [feedByte, hd, idleBound, updateCrc]
  | readSequenceLow => simp [feedByte, hd, idleBound, updateCrc]
  | readLengthHigh => simp [feedByte, hd, idleBound, updateCrc, high_of_shift, hb]
  | readLengthLow => exact idleBound_readLengthLow h byte hb hd
  | readPayload => exact idleBound_readPayload h byte hd
  | readCrcHigh => simp [feedByte, hd, idleBound, high_of_shift, hb]
  | readCrcLow => exact idleBound_readCrcLow h byte hb hd

theorem idleBound_feedBytes {d : ProtocolFrameDecoder} (h : d.WellFormed) (idle : List UInt8)
    (hidle : ∀ byte ∈ idle, byte ≠ magic0) :
    (d.feedBytes idle).2.idleBound ≤ d.idleBound - idle.length := by
  induction idle generalizing d with
  | nil => simp
  | cons byte rest ih =>
    have hstep := idleBound_feedByte h byte (hidle byte (by simp))
    have hrest := ih (feedByte_wellFormed h byte) (fun b hb => hidle b (by simp [hb]))
    simp only [feedBytes_cons, List.length_cons]
    omega

theorem state_of_idleBound {d : ProtocolFrameDecoder} (h : d.idleBound = 0) :
    d.state = .waitMagic0 := by
  cases hd : d.state <;> simp [idleBound, hd] at h ⊢ <;> split at h <;> omega

end ProtocolFrameDecoder

namespace DecoderRun

open ProtocolFrameDecoder

/-- From every state a stream can lead to, seventy-three idle bytes end the search, and the
next frame is reported once, at its last byte. -/
theorem idle_bytes_resynchronize (cs : List DecoderCall) (idle : List UInt8)
    (hidle : ∀ byte ∈ idle, byte ≠ magic0) (hlong : 73 ≤ idle.length) :
    ((calls {} cs).decoder.feedBytes idle).2.state = .waitMagic0 ∧
      ((calls {} cs).decoder.feedBytes idle).2.calculatedCrc = crc16CcittFalseInitial ∧
      ∀ f : ProtocolFrame, f.payloadLength ≤ maxPayloadSize → ∃ reported, f.SameContent reported ∧
        (((calls {} cs).decoder.feedBytes idle).2.feedBytes (protocolFrameEncode f)).1 =
          List.replicate ((protocolFrameEncode f).length - 1) none ++ [some reported] := by
  have hformed := (calls_sound init_sound cs).wellFormed
  have hbound := idleBound_feedBytes hformed idle hidle
  have hstart := idleBound_le hformed
  have hready := (feedBytes_wellFormed hformed idle).ready (state_of_idleBound (by omega))
  refine ⟨hready.state, hready.calculatedCrc, ?_⟩
  intro f hf
  obtain ⟨reported, hsame, hanswers, -⟩ := feedBytes_encode _ hready.state f hf
  exact ⟨reported, hsame, hanswers⟩

/-- A header whose length begins with the first magic byte. -/
def halfReadLength : List DecoderCall :=
  [magic0, magic1, version, ProtocolMessageType.heartbeat, 0, 0, magic0].map .feed

/-- The second magic byte, then zeros enough for a whole frame of them. -/
def idleAfterMagic : List UInt8 := magic1 :: List.replicate 72 0

theorem idle_bytes_resynchronize_half_read_length :
    (∀ byte ∈ idleAfterMagic, byte ≠ magic0) ∧ 73 ≤ idleAfterMagic.length ∧
      ((calls {} halfReadLength).decoder.feedBytes idleAfterMagic).2.state = .waitMagic0 := by
  have hidle : ∀ byte ∈ idleAfterMagic, byte ≠ magic0 := by
    intro byte hbyte
    rcases List.mem_cons.mp hbyte with rfl | hzero
    · decide
    · rw [List.eq_of_mem_replicate hzero]
      decide
  have hlong : 73 ≤ idleAfterMagic.length := by decide
  exact ⟨hidle, hlong, (idle_bytes_resynchronize halfReadLength idleAfterMagic hidle hlong).1⟩

end DecoderRun

/-! ### Back-to-back frames -/

namespace ProtocolFrameDecoder

/-- What the decoder is reading is at the end of what it has been fed. -/
theorem feedBytes_candidate {d : ProtocolFrameDecoder} (h : d.WellFormed) (bytes : List UInt8) :
    (d.feedBytes bytes).2.candidate <:+ d.candidate ++ bytes := by
  induction bytes generalizing d with
  | nil => simp
  | cons byte rest ih =>
    have hexplained := feedByte_explained d h byte
    have hstep : (d.feedByte byte).2.candidate <:+ d.candidate ++ [byte] := by
      cases hf : (d.feedByte byte).1 with
      | none => exact hexplained.silent hf
      | some f =>
        rw [(hexplained.reported f hf).2.2]
        exact List.nil_suffix
    obtain ⟨front, hfront⟩ := hstep
    refine (ih hexplained.wellFormed).trans ⟨front, ?_⟩
    rw [← List.append_assoc, hfront]
    simp

theorem checkedHeader_length (f : ProtocolFrame) : f.checkedHeader.length = 6 := by
  simp [ProtocolFrame.checkedHeader]

/-- The present frame is shorter than it will be, and never longer than the longest. -/
theorem candidate_length {d : ProtocolFrameDecoder} (h : d.WellFormed) :
    d.candidate.length ≤ 7 ∨
      ∃ read, d.candidate = [magic0, magic1] ++ d.frame.checkedHeader ++ read ∧
        read.length ≤ d.frame.payloadLength.toNat + 1 ∧ d.frame.payloadLength.toNat ≤ 64 := by
  cases hd : d.state with
  | readPayload =>
    have hindex := h.index hd
    have hle := h.payloadLength_le (.inl hd)
    refine .inr ⟨d.frame.payload.bytes.take d.payloadIndex, by simp [candidate, hd, checkedBytes],
      ?_, hle⟩
    rw [List.length_take]
    omega
  | readCrcHigh =>
    have hlen := d.frame.content_length (h.length (.inr (.inl hd)))
    refine .inr ⟨d.frame.content, by simp [candidate, hd, checkedBytes], ?_,
      h.payloadLength_le (.inr (.inl hd))⟩
    omega
  | readCrcLow =>
    have hlen := d.frame.content_length (h.length (.inr (.inr hd)))
    refine .inr ⟨d.frame.content ++ [(d.receivedCrc >>> 8).toUInt8],
      by simp [candidate, hd, checkedBytes], ?_, h.payloadLength_le (.inr (.inr hd))⟩
    rw [List.length_append, List.length_singleton]
    omega
  | _ => exact .inl (by simp [candidate, hd, checkedBytes])

theorem candidate_length_le {d : ProtocolFrameDecoder} (h : d.WellFormed) :
    d.candidate.length ≤ 73 := by
  obtain hshort | ⟨read, hread, hlen, hle⟩ := candidate_length h
  · omega
  · rw [hread, List.length_append, List.length_append, checkedHeader_length]
    simp only [List.length_cons, List.length_nil]
    omega

/-- A frame that has been read to its end is no longer under way. -/
theorem not_encode_isPrefix_candidate {d : ProtocolFrameDecoder} (h : d.WellFormed)
    (f : ProtocolFrame) (hf : f.payloadLength ≤ maxPayloadSize) :
    ¬ protocolFrameEncode f <+: d.candidate := by
  intro hp
  have hlength := protocolFrameEncode_length f hf
  have hle := hp.length_le
  obtain hshort | ⟨read, hread, hlen, -⟩ := candidate_length h
  · omega
  · have hheader : f.checkedHeader = d.frame.checkedHeader := by
      obtain ⟨rest, hrest⟩ := hp
      rw [protocolFrameEncode_of_le f hf, hread] at hrest
      have htake := congrArg (fun bytes => (bytes.drop 2).take 6) hrest
      simpa [List.take_append_of_le_length, checkedHeader_length, List.take_of_length_le] using htake
    have hpayload : f.payloadLength = d.frame.payloadLength := by
      simp only [ProtocolFrame.checkedHeader, encodeU16Be, List.cons_append, List.nil_append,
        List.cons.injEq] at hheader
      rw [← join_high_low f.payloadLength, ← join_high_low d.frame.payloadLength,
        hheader.2.2.2.2.1, hheader.2.2.2.2.2.1]
    rw [hread, List.length_append, List.length_append, checkedHeader_length, hlength,
      hpayload] at hle
    simp only [List.length_cons, List.length_nil] at hle
    omega

/-- A longer candidate begins like a frame. -/
theorem candidate_mark {d : ProtocolFrameDecoder} (h : 3 ≤ d.candidate.length) :
    [magic0, magic1, version] <+: d.candidate := by
  cases hd : d.state <;>
    simp [candidate, hd, checkedBytes, ProtocolFrame.checkedHeader] at h ⊢

/-- With at most the two magic bytes read, a first magic byte starts afresh. -/
theorem feedByte_magic0_of_short {d : ProtocolFrameDecoder} (h : d.WellFormed)
    (hshort : d.candidate.length ≤ 2) :
    ∃ e : ProtocolFrameDecoder, e.Ready ∧ e.feedByte magic0 = d.feedByte magic0 := by
  cases hd : d.state with
  | waitMagic0 => exact ⟨d, h.ready hd, rfl⟩
  | waitMagic1 =>
    have hcrc := h.crc
    refine ⟨{ d with state := .waitMagic0 }, ⟨rfl, ?_⟩, ?_⟩
    · rw [hcrc]
      simp [checkedBytes, hd, crc16CcittFalse]
    · have hstay : d.feedByte magic0 = (none, d) := by
        simp [feedByte, hd, show magic0 ≠ magic1 by decide]
      have hsame : { d with state := .waitMagic1 } = d := by rw [← hd]
      rw [hstay]
      simpa [feedByte] using hsame
  | readVersion =>
    refine ⟨{ d with
      state := .waitMagic0
      payloadIndex := 0
      receivedCrc := 0
      calculatedCrc := crc16CcittFalseInitial
      formatErrorCount := d.formatErrorCount + 1 }, ⟨rfl, rfl⟩, ?_⟩
    simp [feedByte, hd, resetSearch, show magic0 ≠ version by decide,
      show magic1 ≠ magic0 by decide]
  | _ =>
    simp [candidate, hd, checkedBytes, ProtocolFrame.checkedHeader] at hshort

theorem feedBytes_encode_of_short {d : ProtocolFrameDecoder} (h : d.WellFormed)
    (hshort : d.candidate.length ≤ 2) (f : ProtocolFrame) (hf : f.payloadLength ≤ maxPayloadSize) :
    ∃ reported, f.SameContent reported ∧ (d.feedBytes (protocolFrameEncode f)).1 =
      List.replicate ((protocolFrameEncode f).length - 1) none ++ [some reported] := by
  obtain ⟨e, hready, hsame⟩ := feedByte_magic0_of_short h hshort
  have hfeed : d.feedBytes (protocolFrameEncode f) = e.feedBytes (protocolFrameEncode f) := by
    rw [protocolFrameEncode_of_le f hf]
    simp only [List.cons_append, feedBytes_cons, hsame]
  obtain ⟨reported, hcontent, hanswers, -⟩ := feedBytes_encode e hready.state f hf
  exact ⟨reported, hcontent, by rw [hfeed, hanswers]⟩

/-- The bytes of frames sent one right after the other. -/
def traffic (frames : List ProtocolFrame) : List UInt8 := frames.flatMap protocolFrameEncode

theorem traffic_append (first second : List ProtocolFrame) :
    traffic (first ++ second) = traffic first ++ traffic second := by
  simp [traffic]

/-- The start of a frame, up to its version, occurs only where a frame starts. -/
def MarksOnlyStarts (frames : List ProtocolFrame) : Prop :=
  ∀ i < (traffic frames).length, [magic0, magic1, version] <+: (traffic frames).drop i →
    ∃ k < frames.length, (traffic (frames.take k)).length = i

/-- After the noise, one of the frames is reported, at its last byte. -/
def SomeFrameReported (noise : List UInt8) (frames : List ProtocolFrame) : Prop :=
  ∃ before f after reported, frames = before ++ f :: after ∧ f.SameContent reported ∧
    (init.feedBytes (noise ++ traffic (before ++ [f]))).1.getLast? = some (some reported)

theorem length_traffic_ge (frames : List ProtocolFrame)
    (hframes : ∀ f ∈ frames, f.payloadLength ≤ maxPayloadSize) :
    10 * frames.length ≤ (traffic frames).length := by
  induction frames with
  | nil => simp [traffic]
  | cons f frames ih =>
    have hlen := protocolFrameEncode_length f (hframes f (by simp))
    have hrest := ih (fun g hg => hframes g (by simp [hg]))
    rw [traffic, List.flatMap_cons, List.length_append, ← traffic, List.length_cons]
    omega

/-- Between two frames of marked traffic the decoder has read at most two bytes of a frame, once
what it was reading no longer reaches back into the noise. -/
theorem candidate_between_frames (noise : List UInt8) {before after : List ProtocolFrame}
    (hframes : ∀ f ∈ before, f.payloadLength ≤ maxPayloadSize)
    (hmarks : MarksOnlyStarts (before ++ after)) (hlong : 8 ≤ before.length) :
    (init.feedBytes (noise ++ traffic before)).2.candidate.length ≤ 2 := by
  have hformed := feedBytes_wellFormed init_wellFormed (noise ++ traffic before)
  obtain ⟨d, hd⟩ : ∃ d, (init.feedBytes (noise ++ traffic before)).2 = d := ⟨_, rfl⟩
  have hsuffix := feedBytes_candidate init_wellFormed (noise ++ traffic before)
  rw [hd] at hformed hsuffix ⊢
  have hbefore := length_traffic_ge before hframes
  have hcount := candidate_length_le hformed
  obtain ⟨front, hfront⟩ : d.candidate <:+ traffic before :=
    List.suffix_of_suffix_length_le hsuffix (List.suffix_append noise (traffic before)) (by omega)
  by_contra hthree
  have hmark := candidate_mark (d := d) (by omega)
  have hsplit := congrArg List.length hfront
  rw [List.length_append] at hsplit
  obtain ⟨k, hk, hstart⟩ := hmarks front.length
    (by rw [traffic_append, List.length_append]; omega)
    (by
      rw [traffic_append, ← hfront, List.append_assoc, List.drop_left]
      exact hmark.trans (List.prefix_append _ _))
  have hinside : k < before.length := by
    by_contra hge
    have hall : (traffic before).length ≤ front.length := by
      rw [← hstart, List.take_append, List.take_of_length_le (by omega), traffic_append,
        List.length_append]
      omega
    omega
  have hsame : traffic (before.take k) = front := by
    rw [List.take_append_of_le_length (Nat.le_of_lt hinside)] at hstart
    have hprefix : traffic (before.take k) <+: traffic before := by
      rw [← List.take_append_drop k before, traffic_append, List.take_append_drop]
      exact List.prefix_append _ _
    exact (List.prefix_of_prefix_length_le hprefix ⟨d.candidate, hfront⟩ (Nat.le_of_eq hstart)).eq_of_length hstart
  have hrest : d.candidate = traffic (before.drop k) := by
    rw [← List.take_append_drop k before, traffic_append, hsame] at hfront
    exact List.append_cancel_left hfront
  rw [List.drop_eq_getElem_cons hinside, traffic, List.flatMap_cons] at hrest
  exact not_encode_isPrefix_candidate hformed before[k] (hframes _ (List.getElem_mem hinside))
    ⟨_, hrest.symm⟩

/-- Every frame of marked traffic after the first eight is reported at its last byte. -/
theorem frame_reported_after_eight (noise : List UInt8) {before after : List ProtocolFrame}
    {f : ProtocolFrame} (hframes : ∀ g ∈ before ++ f :: after, g.payloadLength ≤ maxPayloadSize)
    (hmarks : MarksOnlyStarts (before ++ f :: after)) (hlong : 8 ≤ before.length) :
    ∃ reported, f.SameContent reported ∧
      (init.feedBytes (noise ++ traffic (before ++ [f]))).1.getLast? = some (some reported) := by
  have hshort := candidate_between_frames noise
    (fun g hg => hframes g (by simp [hg])) hmarks hlong
  obtain ⟨reported, hsame, hanswers⟩ := feedBytes_encode_of_short
    (feedBytes_wellFormed init_wellFormed (noise ++ traffic before)) hshort f (hframes f (by simp))
  refine ⟨reported, hsame, ?_⟩
  have htraffic : traffic [f] = protocolFrameEncode f := by simp [traffic]
  rw [traffic_append, htraffic, ← List.append_assoc, feedBytes_append, hanswers]
  simp

/-- Nine frames are enough to be heard after any noise, if no byte inside them can be taken for
the start of a frame. -/
theorem marked_traffic_resynchronizes (noise : List UInt8) (frames : List ProtocolFrame)
    (hframes : ∀ f ∈ frames, f.payloadLength ≤ maxPayloadSize) (hmarks : MarksOnlyStarts frames)
    (hlong : 9 ≤ frames.length) : SomeFrameReported noise frames := by
  have hsplit : frames = frames.take 8 ++ frames[8] :: frames.drop 9 := by
    rw [← List.drop_eq_getElem_cons, List.take_append_drop]
  rw [hsplit] at hframes hmarks
  obtain ⟨reported, hsame, hlast⟩ := frame_reported_after_eight noise hframes hmarks
    (by rw [List.length_take]; omega)
  exact ⟨frames.take 8, frames[8], frames.drop 9, reported, hsplit, hsame, hlast⟩

/-- Nine heartbeats without payload. -/
def heartbeats : List ProtocolFrame := List.replicate 9 { messageType := .heartbeat }

theorem heartbeats_marked : MarksOnlyStarts heartbeats := by
  have hlength : (traffic heartbeats).length = 90 := by decide +kernel
  have hpositions : ∀ i < 90, [magic0, magic1, version] <+: (traffic heartbeats).drop i →
      ∃ k < 9, (traffic (heartbeats.take k)).length = i := by decide +kernel
  intro i hi
  rw [hlength] at hi
  exact hpositions i hi

theorem marked_traffic_resynchronizes_heartbeats :
    (∀ f ∈ heartbeats, f.payloadLength ≤ maxPayloadSize) ∧ 9 ≤ heartbeats.length ∧
      SomeFrameReported [magic0, magic1, version, 0, 0, 0, 0, 64] heartbeats := by
  have hframes : ∀ f ∈ heartbeats, f.payloadLength ≤ maxPayloadSize := by decide
  have hlong : 9 ≤ heartbeats.length := by decide
  exact ⟨hframes, hlong, marked_traffic_resynchronizes _ heartbeats hframes heartbeats_marked hlong⟩

/-- A frame whose payload is the header of a frame of the same size. -/
def headerInPayload : ProtocolFrame where
  messageType := .motionCommand
  payloadLength := 8
  payload := .ofBytes [magic0, magic1, version, ProtocolMessageType.motionCommand, 0, 0, 0, 8]

/-- The frame read from the false header on: it runs over the next true one. -/
def straddlingFrame : ProtocolFrame where
  messageType := .motionCommand
  payloadLength := 8
  payload := .ofBytes (((protocolFrameEncode headerInPayload).drop 16) ++
    (protocolFrameEncode headerInPayload).take 6)

/-- From the false header of one frame to that of the next. -/
def straddle : List UInt8 :=
  (protocolFrameEncode headerInPayload).drop 8 ++ (protocolFrameEncode headerInPayload).take 8

theorem straddle_eq : straddle = [magic0, magic1] ++
    (straddlingFrame.checkedHeader ++ straddlingFrame.content) ++ [0, 8] := by
  decide +kernel

theorem straddlingFrame_crc : (0 : UInt8).toUInt16 <<< 8 ||| (8 : UInt8).toUInt16 ≠
    crc16CcittFalse (straddlingFrame.checkedHeader ++ straddlingFrame.content) := by
  decide +kernel

theorem frameRejected_zero_ready (e : ProtocolFrameDecoder) : (e.frameRejected 0 8).Ready := by
  rw [frameRejected, resetSearch, if_neg (by decide), if_neg (by decide)]
  exact ⟨rfl, rfl⟩

theorem feedBytes_straddle {d : ProtocolFrameDecoder} (hd : d.Ready) :
    (∀ answer ∈ (d.feedBytes straddle).1, answer = none) ∧ (d.feedBytes straddle).2.Ready := by
  obtain ⟨e, -, he⟩ := feedBytes_corrupted d hd straddlingFrame (by decide) 0 8 straddlingFrame_crc
  rw [straddle_eq, he]
  exact ⟨fun answer ha => List.eq_of_mem_replicate ha, frameRejected_zero_ready e⟩

/-- Entered at a false header, the stream shows nothing but false frames. -/
theorem feedBytes_straddled {d : ProtocolFrameDecoder} (hd : d.Ready) (n : ℕ) :
    ∀ answer ∈ (d.feedBytes ((protocolFrameEncode headerInPayload).drop 8 ++
      traffic (List.replicate n headerInPayload))).1, answer = none := by
  induction n generalizing d with
  | zero =>
    intro answer ha
    apply (feedBytes_straddle hd).1 answer
    rw [straddle, feedBytes_append]
    exact List.mem_append_left _ (by simpa [traffic] using ha)
  | succ n ih =>
    have hturn : (protocolFrameEncode headerInPayload).drop 8 ++
        traffic (List.replicate (n + 1) headerInPayload) =
        straddle ++ ((protocolFrameEncode headerInPayload).drop 8 ++
          traffic (List.replicate n headerInPayload)) := by
      have hframe := List.take_append_drop 8 (protocolFrameEncode headerInPayload)
      rw [List.replicate_succ, traffic, List.flatMap_cons, ← traffic, straddle,
        List.append_assoc, ← List.append_assoc (List.take 8 _), hframe]
    intro answer ha
    rw [hturn, feedBytes_append] at ha
    rcases List.mem_append.mp ha with ha | ha
    · exact (feedBytes_straddle hd).1 answer ha
    · exact ih (feedBytes_straddle hd).2 answer ha

/-- No number of frames is enough whatever they carry. -/
theorem traffic_may_never_resynchronize :
    ¬ ∃ bound, ∀ noise frames, (∀ f ∈ frames, f.payloadLength ≤ maxPayloadSize) →
      bound ≤ frames.length → SomeFrameReported noise frames := by
  rintro ⟨bound, hbound⟩
  obtain ⟨before, f, after, reported, hframes, -, hlast⟩ :=
    hbound ((protocolFrameEncode headerInPayload).drop 8) (List.replicate bound headerInPayload)
      (fun f hf => by rw [List.eq_of_mem_replicate hf]; decide) (by simp)
  have hall : before ++ [f] = List.replicate (before ++ [f]).length headerInPayload := by
    refine List.eq_replicate_iff.mpr ⟨rfl, fun g hg => ?_⟩
    refine List.eq_of_mem_replicate (n := bound) ?_
    rw [hframes]
    rcases List.mem_append.mp hg with hg | hg
    · exact List.mem_append_left _ hg
    · rw [List.mem_singleton.mp hg]
      exact List.mem_append_right _ List.mem_cons_self
  rw [hall] at hlast
  have hnone := feedBytes_straddled (d := init) ⟨rfl, rfl⟩ _ _ (List.mem_of_getLast? hlast)
  exact absurd hnone (by simp)

end ProtocolFrameDecoder

end IndoorRobot
