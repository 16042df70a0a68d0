import IndoorRobot.MotionTransactions
import IndoorRobot.ProtocolFrame

/-!
# Payloads, routing and the frames that carry them

The payload codecs of `src/protocol`, `protocol_ingress_route` and
`motion_command_frames_build`. A decoder reads the payload buffer from its start
and never looks at the length; the router has checked that before. The codecs are put
together from those of bytes and integers.
-/
namespace IndoorRobot

open ByteCodec FixedSizeCodecs

abbrev LinkState := UInt8

def LinkState.unsynchronized : LinkState := 0x00
def LinkState.synchronized : LinkState := 0x01

structure HeartbeatPayload where
  linkState : LinkState
  uptimeMs : UInt32
  deriving DecidableEq, Repr

def heartbeatWireSize : UInt16 := 5

/-- `heartbeat_encode`. -/
def heartbeatEncode (p : HeartbeatPayload) : List UInt8 := p.linkState :: encodeU32Be p.uptimeMs

/-- `heartbeat_decode`. -/
def heartbeatDecode (input : List UInt8) : HeartbeatPayload :=
  { linkState := input.getD 0 0, uptimeMs := decodeU32Be (input.drop 1) }

structure LinkSyncPayload where
  syncToken : UInt64
  deriving DecidableEq, Repr

def linkSyncWireSize : UInt16 := 8

/-- `link_sync_encode`. -/
def linkSyncEncode (p : LinkSyncPayload) : List UInt8 := encodeU64Be p.syncToken

/-- `link_sync_decode`. -/
def linkSyncDecode (input : List UInt8) : LinkSyncPayload := { syncToken := decodeU64Be input }

abbrev MotionAckStatus := UInt8

def MotionAckStatus.accepted : MotionAckStatus := 0x00

structure MotionAckPayload where
  status : MotionAckStatus
  deriving DecidableEq, Repr

def motionAckWireSize : UInt16 := 1

/-- `motion_ack_encode`. -/
def motionAckEncode (p : MotionAckPayload) : List UInt8 := [p.status]

/-- `motion_ack_decode`. -/
def motionAckDecode (input : List UInt8) : MotionAckPayload := { status := input.getD 0 0 }

structure MotionLifecycleCommandPayload where
  command : MotionLifecycleCommandType
  motionSessionId : UInt32
  deriving DecidableEq, Repr

def motionLifecycleCommandWireSize : UInt16 := 5

/-- `motion_lifecycle_command_encode`. -/
def motionLifecycleCommandEncode (p : MotionLifecycleCommandPayload) : List UInt8 :=
  p.command :: encodeU32Be p.motionSessionId

/-- `motion_lifecycle_command_decode`. -/
def motionLifecycleCommandDecode (input : List UInt8) : MotionLifecycleCommandPayload :=
  { command := input.getD 0 0, motionSessionId := decodeU32Be (input.drop 1) }

structure MotionResponsePayload where
  command : MotionLifecycleCommandType
  motionSessionId : UInt32
  result : MotionResponseResult
  deriving DecidableEq, Repr

def motionResponseWireSize : UInt16 := 6

/-- `motion_response_encode`. -/
def motionResponseEncode (p : MotionResponsePayload) : List UInt8 :=
  p.command :: (encodeU32Be p.motionSessionId ++ [p.result])

/-- `motion_response_decode`. -/
def motionResponseDecode (input : List UInt8) : MotionResponsePayload :=
  { command := input.getD 0 0
    motionSessionId := decodeU32Be (input.drop 1)
    result := input.getD 5 0 }

structure WheelVelocityCommand where
  leftVelocityMmS : Int16 := 0
  rightVelocityMmS : Int16 := 0
  deriving DecidableEq, Repr, Inhabited

structure WheelVelocityPayload where
  motionSessionId : UInt32
  command : WheelVelocityCommand
  deriving DecidableEq, Repr

def wheelVelocityCommandWireSize : UInt16 := 4

def wheelVelocityPayloadWireSize : UInt16 := 8

/-- `wheel_velocity_command_encode`. -/
def wheelVelocityCommandEncode (c : WheelVelocityCommand) : List UInt8 :=
  encodeI16Be c.leftVelocityMmS ++ encodeI16Be c.rightVelocityMmS

/-- `wheel_velocity_command_decode`. -/
def wheelVelocityCommandDecode (input : List UInt8) : WheelVelocityCommand :=
  { leftVelocityMmS := decodeI16Be input, rightVelocityMmS := decodeI16Be (input.drop 2) }

/-- `wheel_velocity_payload_encode`. -/
def wheelVelocityPayloadEncode (p : WheelVelocityPayload) : List UInt8 :=
  encodeU32Be p.motionSessionId ++ wheelVelocityCommandEncode p.command

/-- `wheel_velocity_payload_decode`. -/
def wheelVelocityPayloadDecode (input : List UInt8) : WheelVelocityPayload :=
  { motionSessionId := decodeU32Be input
    command := wheelVelocityCommandDecode (input.drop 4) }

theorem isCodec_heartbeat : IsCodec heartbeatWireSize.toNat heartbeatEncode heartbeatDecode :=
  ((isCodec_singleton 0).append isCodec_u32).map (fun p => HeartbeatPayload.mk p.1 p.2)
    (fun p : HeartbeatPayload => (p.linkState, p.uptimeMs)) (fun _ => rfl) (fun _ => rfl)

theorem isCodec_linkSync : IsCodec linkSyncWireSize.toNat linkSyncEncode linkSyncDecode :=
  isCodec_u64.map LinkSyncPayload.mk LinkSyncPayload.syncToken (fun _ => rfl) (fun _ => rfl)

theorem isCodec_motionAck : IsCodec motionAckWireSize.toNat motionAckEncode motionAckDecode :=
  (isCodec_singleton 0).map MotionAckPayload.mk MotionAckPayload.status (fun _ => rfl)
    (fun _ => rfl)

theorem isCodec_motionLifecycleCommand :
    IsCodec motionLifecycleCommandWireSize.toNat motionLifecycleCommandEncode
      motionLifecycleCommandDecode :=
  ((isCodec_singleton 0).append isCodec_u32).map
    (fun p => MotionLifecycleCommandPayload.mk p.1 p.2)
    (fun p : MotionLifecycleCommandPayload => (p.command, p.motionSessionId)) (fun _ => rfl)
    (fun _ => rfl)

theorem isCodec_motionResponse :
    IsCodec motionResponseWireSize.toNat motionResponseEncode motionResponseDecode := by
  have h := ((isCodec_singleton (0 : UInt8)).append
    (isCodec_u32.append (isCodec_singleton (0 : UInt8)))).map
    (fun p => MotionResponsePayload.mk p.1 p.2.1 p.2.2)
    (fun p : MotionResponsePayload => (p.command, p.motionSessionId, p.result)) (fun _ => rfl)
    (fun _ => rfl)
  have hdecode : motionResponseDecode = fun l : List UInt8 =>
      ⟨l.getD 0 0, decodeU32Be (l.drop 1), ((l.drop 1).drop 4).getD 0 0⟩ := by
    funext l
    simp [motionResponseDecode, List.getD]
  rw [hdecode]
  exact h

theorem isCodec_wheelVelocityCommand :
    IsCodec wheelVelocityCommandWireSize.toNat wheelVelocityCommandEncode
      wheelVelocityCommandDecode :=
  (isCodec_i16.append isCodec_i16).map (fun p => WheelVelocityCommand.mk p.1 p.2)
    (fun c : WheelVelocityCommand => (c.leftVelocityMmS, c.rightVelocityMmS)) (fun _ => rfl)
    (fun _ => rfl)

theorem isCodec_wheelVelocityPayload :
    IsCodec wheelVelocityPayloadWireSize.toNat wheelVelocityPayloadEncode
      wheelVelocityPayloadDecode :=
  (isCodec_u32.append isCodec_wheelVelocityCommand).map (fun p => WheelVelocityPayload.mk p.1 p.2)
    (fun p : WheelVelocityPayload => (p.motionSessionId, p.command)) (fun _ => rfl) (fun _ => rfl)

/-- What an encoder put into a zeroed buffer is read back. -/
theorem FixedSizeCodecs.IsCodec.decode_ofBytes {α : Type*} {size : ℕ} {encode : α → List UInt8}
    {decode : List UInt8 → α} (h : IsCodec size encode decode) (hsize : size ≤ 64) (payload : α) :
    decode (PayloadBuffer.ofBytes (encode payload)).bytes = payload := by
  rw [PayloadBuffer.ofBytes_bytes ((h.length payload).trans_le hsize), h.decode_encode]

inductive ProtocolIngressRoute where
  | unsupportedMessageType | invalidPayloadLength
  | linkSync | linkSyncOk | heartbeat
  | motionCommand | motionAck | motionResponse
  | wheelVelocity
  deriving DecidableEq, Repr

/-- The one shape of every case of `protocol_ingress_route`. -/
def ProtocolFrame.routeSized (f : ProtocolFrame) (wireSize : UInt16) (route : ProtocolIngressRoute) :
    ProtocolIngressRoute :=
  if f.payloadLength ≠ wireSize then .invalidPayloadLength else route

/-- `protocol_ingress_route`, for a frame that is there. -/
def protocolIngressRoute (f : ProtocolFrame) : ProtocolIngressRoute :=
  if f.messageType = .linkSync then f.routeSized linkSyncWireSize .linkSync
  else if f.messageType = .linkSyncOk then f.routeSized linkSyncWireSize .linkSyncOk
  else if f.messageType = .heartbeat then f.routeSized heartbeatWireSize .heartbeat
  else if f.messageType = .motionCommand then
    f.routeSized motionLifecycleCommandWireSize .motionCommand
  else if f.messageType = .motionAck then f.routeSized motionAckWireSize .motionAck
  else if f.messageType = .motionResponse then f.routeSized motionResponseWireSize .motionResponse
  else if f.messageType = .wheelVelocity then
    f.routeSized wheelVelocityPayloadWireSize .wheelVelocity
  else .unsupportedMessageType

/-- The transaction `motion_command_handler_handle` reads off a frame. -/
def ProtocolFrame.transaction (f : ProtocolFrame) : MotionTransaction :=
  let payload := motionLifecycleCommandDecode f.payload.bytes
  { sequence := f.sequence
    command := payload.command
    motionSessionId := payload.motionSessionId }

/-- The MOTION_COMMAND frame of a transaction. -/
def motionLifecycleCommandFrame (t : MotionTransaction) : ProtocolFrame :=
  { messageType := .motionCommand
    sequence := t.sequence
    payloadLength := motionLifecycleCommandWireSize
    payload := .ofBytes (motionLifecycleCommandEncode
      { command := t.command, motionSessionId := t.motionSessionId }) }

/-- `MotionCommandFrames`: each frame is present when its `valid` flag is set. -/
structure MotionCommandFrames where
  ackFrame : Option ProtocolFrame := none
  responseFrame : Option ProtocolFrame := none
  deriving DecidableEq

/-- The MOTION_ACK frame of a transaction. -/
def motionAckFrame (t : MotionTransaction) : ProtocolFrame :=
  { messageType := .motionAck
    sequence := t.sequence
    payloadLength := motionAckWireSize
    payload := .ofBytes (motionAckEncode { status := .accepted }) }

/-- The MOTION_RESPONSE frame of a transaction and its terminal result. -/
def motionResponseFrame (t : MotionTransaction) (result : MotionResponseResult) : ProtocolFrame :=
  { messageType := .motionResponse
    sequence := t.sequence
    payloadLength := motionResponseWireSize
    payload := .ofBytes (motionResponseEncode
      { command := t.command, motionSessionId := t.motionSessionId, result := result }) }

theorem motionResponseDecode_frame (t : MotionTransaction) (result : MotionResponseResult) :
    motionResponseDecode (motionResponseFrame t result).payload.bytes =
      { command := t.command, motionSessionId := t.motionSessionId, result := result } :=
  isCodec_motionResponse.decode_ofBytes (by decide) _

@[simp] theorem motionLifecycleCommandFrame_transaction (t : MotionTransaction) :
    (motionLifecycleCommandFrame t).transaction = t := by
  simp only [ProtocolFrame.transaction, motionLifecycleCommandFrame]
  rw [isCodec_motionLifecycleCommand.decode_ofBytes (by decide)]

/-- `motion_command_frames_build`. -/
def motionCommandFramesBuild (a : MotionLifecycleAction) : MotionCommandFrames :=
  { ackFrame := if a.sendAck then some (motionAckFrame a.ackTransaction) else none
    responseFrame :=
      if a.sendResponse then some (motionResponseFrame a.responseTransaction a.responseResult)
      else none }

end IndoorRobot
