import IndoorRobot.ByteCodec
import Mathlib.Logic.Function.Iterate

/-!
# Protocol frames, their checksum, encoder and streaming decoder

`protocol_frame.h`, `crc16_ccitt_false.c`, `protocol_frame_encoder.c` and
`protocol_frame_decoder.c`. The payload buffer always holds sixty-four bytes; the
bytes past `payloadLength` are whatever the previous frame left there.
-/
namespace IndoorRobot

/-- `uint8_t payload[PROTOCOL_FRAME_MAX_PAYLOAD_SIZE]`. -/
structure PayloadBuffer where
  bytes : List UInt8
  size : bytes.length = 64
  deriving DecidableEq

namespace PayloadBuffer

/-- The zeroed buffer. -/
def zero : PayloadBuffer := ⟨List.replicate 64 0, by simp⟩

instance : Inhabited PayloadBuffer := ⟨zero⟩

/-- `payload[index] = byte`. -/
def write (p : PayloadBuffer) (index : ℕ) (byte : UInt8) : PayloadBuffer :=
  ⟨p.bytes.set index byte, by simp [p.size]⟩

/-- A zeroed buffer whose first bytes an encoder has filled in. -/
def ofBytes (bytes : List UInt8) : PayloadBuffer :=
  ⟨(bytes ++ List.replicate 64 0).take 64, by simp⟩

/-- Successive writes from an index on. -/
def writeAll (p : PayloadBuffer) (index : ℕ) : List UInt8 → PayloadBuffer
  | [] => p
  | byte :: rest => (p.write index byte).writeAll (index + 1) rest

theorem writeAll_take (p : PayloadBuffer) (index : ℕ) (bytes : List UInt8)
    (h : index + bytes.length ≤ 64) :
    (p.writeAll index bytes).bytes.take (index + bytes.length) = p.bytes.take index ++ bytes := by
  induction bytes generalizing p index with
  | nil => simp [writeAll]
  | cons byte rest ih =>
    have hlt : index < p.bytes.length := by
      rw [p.size]
      simp only [List.length_cons] at h
      omega
    have hwrite : (p.write index byte).bytes.take (index + 1) = p.bytes.take index ++ [byte] := by
      rw [write, List.take_add_one, List.take_set_of_le (Nat.le_refl index)]
      simp [hlt]
    have hrest := ih (p.write index byte) (index + 1) (by simp only [List.length_cons] at h; omega)
    rw [hwrite, show index + 1 + rest.length = index + (byte :: rest).length by
      simp only [List.length_cons]; omega] at hrest
    simpa [writeAll] using hrest

/-- A decoder reads back what an encoder wrote at the start of a zeroed buffer. -/
theorem ofBytes_bytes {bytes : List UInt8} (h : bytes.length ≤ 64) :
    (PayloadBuffer.ofBytes bytes).bytes = bytes ++ List.replicate (64 - bytes.length) 0 := by
  change (bytes ++ List.replicate 64 0).take 64 = _
  rw [List.take_append, List.take_of_length_le h, List.take_replicate,
    Nat.min_eq_left (Nat.sub_le 64 bytes.length)]

end PayloadBuffer

/-- `ProtocolMessageType`: any byte can arrive on the wire. -/
abbrev ProtocolMessageType := UInt8

namespace ProtocolMessageType

def invalid : ProtocolMessageType := 0x00
def linkSync : ProtocolMessageType := 0x01
def linkSyncOk : ProtocolMessageType := 0x02
def heartbeat : ProtocolMessageType := 0x03
def motionCommand : ProtocolMessageType := 0x10
def motionAck : ProtocolMessageType := 0x11
def motionResponse : ProtocolMessageType := 0x12
def wheelVelocity : ProtocolMessageType := 0x20

end ProtocolMessageType

/-- `ProtocolFrame`; the defaults are a frame cleared by `= {0}`. -/
structure ProtocolFrame where
  messageType : ProtocolMessageType := .invalid
  sequence : UInt16 := 0
  payloadLength : UInt16 := 0
  payload : PayloadBuffer := .zero
  deriving DecidableEq, Inhabited

/-- The bytes a frame carries, without what lies behind them in the buffer. -/
def ProtocolFrame.content (f : ProtocolFrame) : List UInt8 := f.payload.bytes.take f.payloadLength.toNat

/-- Equal in every field, on the payload up to its length. -/
structure ProtocolFrame.SameContent (f g : ProtocolFrame) : Prop where
  messageType : g.messageType = f.messageType
  sequence : g.sequence = f.sequence
  payloadLength : g.payloadLength = f.payloadLength
  content : g.content = f.content

namespace ProtocolFrameFormat

def magic0 : UInt8 := 0xA5
def magic1 : UInt8 := 0x5A
def version : UInt8 := 0x01
def maxPayloadSize : UInt16 := 64

end ProtocolFrameFormat

open ProtocolFrameFormat ByteCodec

/-- `CRC16_CCITT_FALSE_INITIAL`. -/
def crc16CcittFalseInitial : UInt16 := 0xFFFF

/-- One turn of the inner loop of `crc16_ccitt_false_update`. -/
def crc16Bit (crc : UInt16) : UInt16 :=
  if crc &&& 0x8000 ≠ 0 then crc <<< 1 ^^^ 0x1021 else crc <<< 1

/-- One turn of the outer loop of `crc16_ccitt_false_update`. -/
def crc16Byte (crc : UInt16) (byte : UInt8) : UInt16 := crc16Bit^[8] (crc ^^^ byte.toUInt16 <<< 8)

/-- `crc16_ccitt_false_update`. -/
def crc16CcittFalseUpdate (crc : UInt16) (data : List UInt8) : UInt16 := data.foldl crc16Byte crc

/-- `crc16_ccitt_false`. -/
def crc16CcittFalse (data : List UInt8) : UInt16 := crc16CcittFalseUpdate crc16CcittFalseInitial data

@[simp] theorem crc16CcittFalseUpdate_nil (crc : UInt16) : crc16CcittFalseUpdate crc [] = crc := rfl

@[simp] theorem crc16CcittFalseUpdate_cons (crc : UInt16) (byte : UInt8) (rest : List UInt8) :
    crc16CcittFalseUpdate crc (byte :: rest) = crc16CcittFalseUpdate (crc16Byte crc byte) rest := rfl

theorem crc16CcittFalseUpdate_append (crc : UInt16) (first second : List UInt8) :
    crc16CcittFalseUpdate crc (first ++ second) =
      crc16CcittFalseUpdate (crc16CcittFalseUpdate crc first) second := by
  simp [crc16CcittFalseUpdate]

/-- The six header bytes under the checksum. -/
def ProtocolFrame.checkedHeader (f : ProtocolFrame) : List UInt8 :=
  [version, f.messageType] ++ encodeU16Be f.sequence ++ encodeU16Be f.payloadLength

/-- `protocol_frame_encode`: the bytes written to `output`, none if it returns zero. -/
def protocolFrameEncode (f : ProtocolFrame) : List UInt8 :=
  if f.payloadLength > maxPayloadSize then []
  else
    let crcData := f.checkedHeader ++ f.content
    [magic0, magic1] ++ crcData ++ encodeU16Be (crc16CcittFalse crcData)

theorem ProtocolFrame.content_length (f : ProtocolFrame) (h : f.payloadLength ≤ maxPayloadSize) :
    f.content.length = f.payloadLength.toNat := by
  have hle : f.payloadLength.toNat ≤ 64 := by
    simpa [UInt16.le_iff_toNat_le, maxPayloadSize] using h
  simp [content, f.payload.size, hle]

theorem protocolFrameEncode_of_le (f : ProtocolFrame) (h : f.payloadLength ≤ maxPayloadSize) :
    protocolFrameEncode f = [magic0, magic1] ++ (f.checkedHeader ++ f.content) ++
      encodeU16Be (crc16CcittFalse (f.checkedHeader ++ f.content)) := by
  rw [protocolFrameEncode, if_neg (by simpa using h)]

theorem protocolFrameEncode_length (f : ProtocolFrame) (h : f.payloadLength ≤ maxPayloadSize) :
    (protocolFrameEncode f).length = 10 + f.payloadLength.toNat := by
  have hlen := f.content_length h
  rw [protocolFrameEncode_of_le f h]
  simp [ProtocolFrame.checkedHeader, hlen]
  omega

inductive ProtocolFrameDecoderState where
  | waitMagic0 | waitMagic1 | readVersion | readMessageType | readSequenceHigh | readSequenceLow
  | readLengthHigh | readLengthLow | readPayload | readCrcHigh | readCrcLow
  deriving DecidableEq, Repr, Inhabited

/-- `ProtocolFrameDecoder`; the defaults are `protocol_frame_decoder_init`. -/
structure ProtocolFrameDecoder where
  state : ProtocolFrameDecoderState := .waitMagic0
  frame : ProtocolFrame := {}
  calculatedCrc : UInt16 := crc16CcittFalseInitial
  receivedCrc : UInt16 := 0
  payloadIndex : ℕ := 0
  validFrameCount : UInt32 := 0
  crcErrorCount : UInt32 := 0
  formatErrorCount : UInt32 := 0
  deriving DecidableEq, Inhabited

namespace ProtocolFrameDecoder

/-- `protocol_frame_decoder_init`. -/
def init : ProtocolFrameDecoder := {}

/-- `protocol_frame_decoder_reset`: stream state only, the diagnostics survive. -/
def reset (d : ProtocolFrameDecoder) : ProtocolFrameDecoder :=
  { d with
    state := .waitMagic0
    payloadIndex := 0
    receivedCrc := 0
    calculatedCrc := crc16CcittFalseInitial }

/-- `protocol_frame_decoder_update_crc`. -/
def updateCrc (d : ProtocolFrameDecoder) (byte : UInt8) : ProtocolFrameDecoder :=
  { d with calculatedCrc := crc16CcittFalseUpdate d.calculatedCrc [byte] }

/-- `protocol_frame_decoder_begin_frame`: the payload buffer is not cleared. -/
def beginFrame (d : ProtocolFrameDecoder) : ProtocolFrameDecoder :=
  { d with
    frame := { d.frame with messageType := .invalid, sequence := 0, payloadLength := 0 }
    payloadIndex := 0
    receivedCrc := 0
    calculatedCrc := crc16CcittFalseInitial
    state := .readVersion }

/-- `protocol_frame_decoder_reset_search`: a new frame may begin inside a broken one. -/
def resetSearch (d : ProtocolFrameDecoder) (previousByte currentByte : UInt8) :
    ProtocolFrameDecoder :=
  let cleared := { d with
    payloadIndex := 0
    receivedCrc := 0
    calculatedCrc := crc16CcittFalseInitial }
  if previousByte = magic0 ∧ currentByte = magic1 then cleared.beginFrame
  else if currentByte = magic0 then { cleared with state := .waitMagic1 }
  else { cleared with state := .waitMagic0 }

/-- `protocol_frame_decoder_feed_byte`. The frame is reported by value where the
source hands out a pointer to `decoder->frame`. -/
def feedByte (d : ProtocolFrameDecoder) (byte : UInt8) :
    Option ProtocolFrame × ProtocolFrameDecoder :=
  match d.state with
  | .waitMagic0 => (none, if byte = magic0 then { d with state := .waitMagic1 } else d)
  | .waitMagic1 =>
    (none,
      if byte = magic1 then d.beginFrame
      else if byte ≠ magic0 then { d with state := .waitMagic0 }
      else d)
  | .readVersion =>
    if byte ≠ version then
      let d := { d with formatErrorCount := d.formatErrorCount + 1 }
      (none, d.resetSearch magic1 byte)
    else (none, { d.updateCrc byte with state := .readMessageType })
  | .readMessageType =>
    let d := { d with frame := { d.frame with messageType := byte } }
    (none, { d.updateCrc byte with state := .readSequenceHigh })
  | .readSequenceHigh =>
    let d := { d with frame := { d.frame with sequence := byte.toUInt16 <<< 8 } }
    (none, { d.updateCrc byte with state := .readSequenceLow })
  | .readSequenceLow =>
    let d := { d with frame := { d.frame with sequence := d.frame.sequence ||| byte.toUInt16 } }
    (none, { d.updateCrc byte with state := .readLengthHigh })
  | .readLengthHigh =>
    let d := { d with frame := { d.frame with payloadLength := byte.toUInt16 <<< 8 } }
    (none, { d.updateCrc byte with state := .readLengthLow })
  | .readLengthLow =>
    let d := { d with
      frame := { d.frame with payloadLength := d.frame.payloadLength ||| byte.toUInt16 } }
    let d := d.updateCrc byte
    if d.frame.payloadLength > maxPayloadSize then
      let d := { d with formatErrorCount := d.formatErrorCount + 1 }
      (none, d.resetSearch (d.frame.payloadLength >>> 8).toUInt8 byte)
    else if d.frame.payloadLength = (0 : UInt16) then (none, { d with state := .readCrcHigh })
    else (none, { d with payloadIndex := 0, state := .readPayload })
  | .readPayload =>
    let d := { d with
      frame := { d.frame with payload := d.frame.payload.write d.payloadIndex byte }
      payloadIndex := d.payloadIndex + 1 }
    let d := d.updateCrc byte
    if d.payloadIndex ≥ d.frame.payloadLength.toNat then (none, { d with state := .readCrcHigh })
    else (none, d)
  | .readCrcHigh => (none, { d with receivedCrc := byte.toUInt16 <<< 8, state := .readCrcLow })
  | .readCrcLow =>
    let d := { d with receivedCrc := d.receivedCrc ||| byte.toUInt16 }
    if d.receivedCrc ≠ d.calculatedCrc then
      let d := { d with crcErrorCount := d.crcErrorCount + 1 }
      (none, d.resetSearch (d.receivedCrc >>> 8).toUInt8 byte)
    else
      (some d.frame,
        { d with
          validFrameCount := d.validFrameCount + 1
          state := .waitMagic0
          payloadIndex := 0
          receivedCrc := 0
          calculatedCrc := crc16CcittFalseInitial })

/-- The answers to a sequence of bytes, one for each, and the decoder after them. -/
def feedBytes (d : ProtocolFrameDecoder) : List UInt8 → List (Option ProtocolFrame) × ProtocolFrameDecoder
  | [] => ([], d)
  | byte :: rest =>
    let (reported, d) := d.feedByte byte
    let (answers, d) := d.feedBytes rest
    (reported :: answers, d)

@[simp] theorem feedBytes_nil (d : ProtocolFrameDecoder) : d.feedBytes [] = ([], d) := rfl

@[simp] theorem feedBytes_cons (d : ProtocolFrameDecoder) (byte : UInt8) (rest : List UInt8) :
    d.feedBytes (byte :: rest) =
      ((d.feedByte byte).1 :: ((d.feedByte byte).2.feedBytes rest).1,
        ((d.feedByte byte).2.feedBytes rest).2) := rfl

theorem feedBytes_append (d : ProtocolFrameDecoder) (first second : List UInt8) :
    d.feedBytes (first ++ second) =
      ((d.feedBytes first).1 ++ ((d.feedBytes first).2.feedBytes second).1,
        ((d.feedBytes first).2.feedBytes second).2) := by
  induction first generalizing d with
  | nil => simp
  | cons byte rest ih => simp [ih]

end ProtocolFrameDecoder

end IndoorRobot
