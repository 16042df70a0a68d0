import IndoorRobot.ClientSessions
import IndoorRobot.FrameStream

/-!
# What is sent is what is understood

The frames of both ends are made with the payload codecs. A frame that was decoded holds
the payload and, behind it, whatever the buffer held before; a payload decoder does not
reach that far.
-/
namespace IndoorRobot

open FixedSizeCodecs ProtocolFrameFormat

/-- The encoding of `f` makes the decoder report `reported` at its last byte, and nothing
before. -/
structure ProtocolFrameDecoder.Receives (d : ProtocolFrameDecoder) (f reported : ProtocolFrame) :
    Prop where
  answers : (d.feedBytes (protocolFrameEncode f)).1 =
    List.replicate ((protocolFrameEncode f).length - 1) none ++ [some reported]
  ready : (d.feedBytes (protocolFrameEncode f)).2.Ready

/-- What the receiver makes of a frame: its route, its sequence and its payload. -/
structure ProtocolFrame.Means {α : Type*} (f : ProtocolFrame) (route : ProtocolIngressRoute)
    (sequence : UInt16) (decode : List UInt8 → α) (payload : α) : Prop where
  route : protocolIngressRoute f = route
  sequence : f.sequence = sequence
  payload : decode f.payload.bytes = payload

/-- The route depends on the type and the length only. -/
theorem protocolIngressRoute_congr {f g : ProtocolFrame} (htype : g.messageType = f.messageType)
    (hlength : g.payloadLength = f.payloadLength) :
    protocolIngressRoute g = protocolIngressRoute f := by
  simp only [protocolIngressRoute, ProtocolFrame.routeSized, htype, hlength]

section Frames

variable {α : Type*} {encode : α → List UInt8} {decode : List UInt8 → α} {size : UInt16}

/-- The stale bytes of the buffer come after the payload. -/
theorem decode_of_content (h : IsCodec size.toNat encode decode) {f : ProtocolFrame} {payload : α}
    (hlength : f.payloadLength = size) (hcontent : f.content = encode payload) :
    decode f.payload.bytes = payload := by
  rw [ProtocolFrame.content, hlength] at hcontent
  rw [← List.take_append_drop size.toNat f.payload.bytes, hcontent, h.decode_encode]

theorem content_ofBytes (h : IsCodec size.toNat encode decode) (hsize : size ≤ maxPayloadSize)
    {f : ProtocolFrame} {payload : α} (hlength : f.payloadLength = size)
    (hpayload : f.payload = .ofBytes (encode payload)) : f.content = encode payload := by
  have hle : (encode payload).length ≤ 64 := by
    rw [h.length]
    simpa [UInt16.le_iff_toNat_le, maxPayloadSize] using hsize
  rw [ProtocolFrame.content, hlength, hpayload, PayloadBuffer.ofBytes_bytes hle,
    List.take_left' (h.length payload)]

/-- A frame made by an encoder is understood by its decoder, whatever frame came before. -/
theorem receives_encoded (h : IsCodec size.toNat encode decode) (hsize : size ≤ maxPayloadSize)
    {d : ProtocolFrameDecoder} (hd : d.state = .waitMagic0) {f : ProtocolFrame} {payload : α}
    (hlength : f.payloadLength = size) (hpayload : f.payload = .ofBytes (encode payload)) :
    ∃ reported, d.Receives f reported ∧
      reported.Means (protocolIngressRoute f) f.sequence decode payload := by
  obtain ⟨reported, hsame, hanswers, hready, -⟩ := d.feedBytes_encode hd f (hlength ▸ hsize)
  refine ⟨reported, ⟨hanswers, hready⟩, ?_, hsame.sequence, ?_⟩
  · exact protocolIngressRoute_congr hsame.messageType hsame.payloadLength
  · have hcontent := hsame.content.trans (content_ofBytes h hsize hlength hpayload)
    exact decode_of_content h (hsame.payloadLength.trans hlength) hcontent

end Frames

section Builders

variable {d : ProtocolFrameDecoder}

theorem receives_motionLifecycleCommand (hd : d.state = .waitMagic0) (t : MotionTransaction) :
    ∃ reported, d.Receives (motionLifecycleCommandFrame t) reported ∧
      reported.Means .motionCommand t.sequence motionLifecycleCommandDecode
        { command := t.command, motionSessionId := t.motionSessionId } :=
  receives_encoded isCodec_motionLifecycleCommand (by decide) hd rfl rfl

theorem receives_wheelVelocity (hd : d.state = .waitMagic0) (sequence : UInt16)
    (p : WheelVelocityPayload) :
    ∃ reported, d.Receives (Stm32MotionSession.wheelVelocityFrame sequence p) reported ∧
      reported.Means .wheelVelocity sequence wheelVelocityPayloadDecode p :=
  receives_encoded isCodec_wheelVelocityPayload (by decide) hd rfl rfl

theorem receives_motionAck (hd : d.state = .waitMagic0) (t : MotionTransaction) :
    ∃ reported, d.Receives (motionAckFrame t) reported ∧
      reported.Means .motionAck t.sequence motionAckDecode { status := .accepted } :=
  receives_encoded isCodec_motionAck (by decide) hd rfl rfl

theorem receives_motionResponse (hd : d.state = .waitMagic0) (t : MotionTransaction)
    (result : MotionResponseResult) :
    ∃ reported, d.Receives (motionResponseFrame t result) reported ∧
      reported.Means .motionResponse t.sequence motionResponseDecode
        { command := t.command, motionSessionId := t.motionSessionId, result := result } :=
  receives_encoded isCodec_motionResponse (by decide) hd rfl rfl

theorem receives_begins (hd : d.state = .waitMagic0) {s t : Stm32MotionSession}
    {command : MotionLifecycleCommandType} {motionSessionId : UInt32} {f : ProtocolFrame}
    (h : s.Begins command motionSessionId f t) :
    ∃ reported, d.Receives f reported ∧
      reported.Means .motionCommand s.nextSequence motionLifecycleCommandDecode
        { command := command, motionSessionId := motionSessionId } := by
  rw [h.frame, h.transaction]
  exact receives_motionLifecycleCommand hd _

theorem receives_buildWheelVelocity (hd : d.state = .waitMagic0) {s : Stm32MotionSession}
    {left right : Int16} {f : ProtocolFrame} (h : (s.buildWheelVelocity left right).1 = some f) :
    ∃ reported, d.Receives f reported ∧
      reported.Means .wheelVelocity s.nextWheelSequence wheelVelocityPayloadDecode
        { motionSessionId := s.activeSessionId
          command := { leftVelocityMmS := left, rightVelocityMmS := right } } := by
  rw [Stm32MotionSession.buildWheelVelocity] at h
  split_ifs at h
  cases h
  exact receives_wheelVelocity hd _ _

theorem receives_ackFrame (hd : d.state = .waitMagic0) {a : MotionLifecycleAction}
    {f : ProtocolFrame} (h : (motionCommandFramesBuild a).ackFrame = some f) :
    ∃ reported, d.Receives f reported ∧
      reported.Means .motionAck a.ackTransaction.sequence motionAckDecode
        { status := .accepted } := by
  simp only [motionCommandFramesBuild] at h
  split_ifs at h
  cases h
  exact receives_motionAck hd _

theorem receives_responseFrame (hd : d.state = .waitMagic0) {a : MotionLifecycleAction}
    {f : ProtocolFrame} (h : (motionCommandFramesBuild a).responseFrame = some f) :
    ∃ reported, d.Receives f reported ∧
      reported.Means .motionResponse a.responseTransaction.sequence motionResponseDecode
        { command := a.responseTransaction.command
          motionSessionId := a.responseTransaction.motionSessionId
          result := a.responseResult } := by
  simp only [motionCommandFramesBuild] at h
  split_ifs at h
  cases h
  exact receives_motionResponse hd _ _

end Builders

/-- Both ends mean the same: every frame either of them builds is reported, routed and read
back by a decoder whose buffer may hold anything, and no codec leaves a value or a byte
string out. -/
theorem same_meaning_on_both_ends :
    (∀ d : ProtocolFrameDecoder, d.state = .waitMagic0 →
      (∀ (s : Stm32MotionSession) (motionSessionId : UInt32) (f : ProtocolFrame),
        (s.beginStartSession motionSessionId).1 = some f →
        ∃ reported, d.Receives f reported ∧
          reported.Means .motionCommand s.nextSequence motionLifecycleCommandDecode
            { command := .startSession, motionSessionId := motionSessionId }) ∧
      (∀ (s : Stm32MotionSession) (motionSessionId : UInt32) (f : ProtocolFrame),
        (s.beginEndSession motionSessionId).1 = some f →
        ∃ reported, d.Receives f reported ∧
          reported.Means .motionCommand s.nextSequence motionLifecycleCommandDecode
            { command := .endSession, motionSessionId := motionSessionId }) ∧
      (∀ (s : Stm32MotionSession) (left right : Int16) (f : ProtocolFrame),
        (s.buildWheelVelocity left right).1 = some f →
        ∃ reported, d.Receives f reported ∧
          reported.Means .wheelVelocity s.nextWheelSequence wheelVelocityPayloadDecode
            { motionSessionId := s.activeSessionId
              command := { leftVelocityMmS := left, rightVelocityMmS := right } }) ∧
      ∀ (a : MotionLifecycleAction) (f : ProtocolFrame),
        ((motionCommandFramesBuild a).ackFrame = some f →
          ∃ reported, d.Receives f reported ∧
            reported.Means .motionAck a.ackTransaction.sequence motionAckDecode
              { status := .accepted }) ∧
        ((motionCommandFramesBuild a).responseFrame = some f →
          ∃ reported, d.Receives f reported ∧
            reported.Means .motionResponse a.responseTransaction.sequence motionResponseDecode
              { command := a.responseTransaction.command
                motionSessionId := a.responseTransaction.motionSessionId
                result := a.responseResult })) ∧
    Bijection heartbeatWireSize.toNat heartbeatEncode heartbeatDecode ∧
    Bijection linkSyncWireSize.toNat linkSyncEncode linkSyncDecode ∧
    Bijection motionAckWireSize.toNat motionAckEncode motionAckDecode ∧
    Bijection motionLifecycleCommandWireSize.toNat motionLifecycleCommandEncode
      motionLifecycleCommandDecode ∧
    Bijection motionResponseWireSize.toNat motionResponseEncode motionResponseDecode ∧
    Bijection wheelVelocityCommandWireSize.toNat wheelVelocityCommandEncode
      wheelVelocityCommandDecode ∧
    Bijection wheelVelocityPayloadWireSize.toNat wheelVelocityPayloadEncode
      wheelVelocityPayloadDecode := by
  refine ⟨fun d hd => ?_, isCodec_heartbeat.bijection, isCodec_linkSync.bijection,
    isCodec_motionAck.bijection, isCodec_motionLifecycleCommand.bijection,
    isCodec_motionResponse.bijection, isCodec_wheelVelocityCommand.bijection,
    isCodec_wheelVelocityPayload.bijection⟩
  refine ⟨fun s motionSessionId f hf => ?_, fun s motionSessionId f hf => ?_,
    fun s left right f hf => receives_buildWheelVelocity hd hf,
    fun a f => ⟨fun hf => receives_ackFrame hd hf, fun hf => receives_responseFrame hd hf⟩⟩
  · exact receives_begins hd (s.beginStartSession_begins motionSessionId f hf).1
  · exact receives_begins hd (s.beginEndSession_begins motionSessionId f hf).1

/-- A decoder that has just read an END command, and the answers to two commands. -/
theorem same_meaning_on_both_ends_stale :
    ∃ reported,
      ProtocolFrameDecoder.Receives
          { ProtocolFrameDecoder.init with
            frame := motionLifecycleCommandFrame
              { sequence := 6, command := .endSession, motionSessionId := 0x01020304 } }
          (motionResponseFrame
            { sequence := 0xFFFF, command := 0xAB, motionSessionId := 0x80000001 } 0x7F) reported ∧
        reported.Means .motionResponse 0xFFFF motionResponseDecode
          { command := 0xAB, motionSessionId := 0x80000001, result := 0x7F } :=
  ((same_meaning_on_both_ends.1 _ rfl).2.2.2
    { sendAck := true
      ackTransaction := { sequence := 7, command := .startSession, motionSessionId := 9 }
      sendResponse := true
      responseTransaction := { sequence := 0xFFFF, command := 0xAB, motionSessionId := 0x80000001 }
      responseResult := 0x7F } _).2 rfl

end IndoorRobot
