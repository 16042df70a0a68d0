import Mathlib.Data.Int.Notation
import Mathlib.Logic.Function.Iterate
import Mathlib.Tactic.Common

/-!
# The radio receiver's frames

`crsf_crc8.cpp`, `crsf_frame_decoder.cpp` and `crsf_channels.cpp`.
-/
namespace IndoorRobot

/-- One turn of the loop of `crsf_crc8_update`. -/
def crsfCrc8Bit (crc : UInt8) : UInt8 :=
  if crc &&& 0x80 ≠ 0 then crc <<< 1 ^^^ 0xD5 else crc <<< 1

/-- `crsf_crc8_update`. -/
def crsfCrc8Update (crc byte : UInt8) : UInt8 := crsfCrc8Bit^[8] (crc ^^^ byte)

structure CrsfFrame where
  type : UInt8 := 0
  payload : Vector UInt8 60 := .replicate 60 0
  payloadLength : ℕ := 0
  deriving DecidableEq

inductive CrsfDecoderState where
  | waitingForAddress | waitingForLength | collecting
  deriving DecidableEq, Repr

/-- `CrsfFrameDecoder`. A write or read past the buffer has no effect here; it does not
happen. -/
structure CrsfFrameDecoder where
  state : CrsfDecoderState := .waitingForAddress
  buffer : Vector UInt8 64 := .replicate 64 0
  used : ℕ := 0
  expectedSize : ℕ := 0

namespace CrsfFrameDecoder

def reset (d : CrsfFrameDecoder) : CrsfFrameDecoder :=
  { d with state := .waitingForAddress, used := 0, expectedSize := 0 }

/-- The address byte has been found. -/
def beginFrame (d : CrsfFrameDecoder) (byte : UInt8) : CrsfFrameDecoder :=
  { d with buffer := d.buffer.setIfInBounds 0 byte, used := 1, state := .waitingForLength }

/-- The checksum over the type and the payload. -/
def calculatedCrc (d : CrsfFrameDecoder) : UInt8 :=
  ((d.buffer.toList.drop 2).take (d.expectedSize - 3)).foldl crsfCrc8Update 0

/-- The frame in a full buffer. -/
def localFrame (d : CrsfFrameDecoder) : CrsfFrame :=
  { type := d.buffer[2]
    payload := .ofFn fun i => if i < d.expectedSize - 4 then d.buffer.getD (3 + i) 0 else 0
    payloadLength := d.expectedSize - 4 }

/-- `feed_byte`: whether a frame is complete, the caller's frame and the decoder. -/
def feedByte (d : CrsfFrameDecoder) (byte : UInt8) (frame : CrsfFrame) :
    Bool × CrsfFrame × CrsfFrameDecoder :=
  match d.state with
  | .waitingForAddress =>
    if byte ≠ 0xC8 then (false, frame, d) else (false, frame, d.beginFrame byte)
  | .waitingForLength =>
    if 2 ≤ byte ∧ byte ≤ 62 then
      (false, frame,
        { d with
          buffer := d.buffer.setIfInBounds 1 byte
          used := 2
          expectedSize := byte.toNat + 2
          state := .collecting })
    else if byte = 0xC8 then (false, frame, d.reset.beginFrame byte)
    else (false, frame, d.reset)
  | .collecting =>
    let d := { d with buffer := d.buffer.setIfInBounds d.used byte, used := d.used + 1 }
    if d.used < d.expectedSize then (false, frame, d)
    else if d.calculatedCrc = d.buffer.getD (d.expectedSize - 1) 0 then
      (true, d.localFrame, d.reset)
    else (false, frame, d.reset)

/-- The counters while bytes are collected. -/
structure WellFormed (d : CrsfFrameDecoder) : Prop where
  used : d.state = .collecting → 2 ≤ d.used ∧ d.used < d.expectedSize
  size : d.state = .collecting → d.expectedSize ≤ 64

theorem wellFormed_of_waiting {d : CrsfFrameDecoder} (h : d.state ≠ .collecting) : d.WellFormed :=
  ⟨fun hc => absurd hc h, fun hc => absurd hc h⟩

end CrsfFrameDecoder

structure CrsfChannels where
  values : Vector UInt16 16 := .replicate 16 0
  deriving DecidableEq

/-- The bits taken from the payload and not yet used. -/
structure BitAccumulator where
  bits : UInt32 := 0
  availableBits : ℕ := 0
  byteIndex : ℕ := 0

namespace BitAccumulator

variable (payload : Vector UInt8 60)

/-- A turn of the inner loop of `crsf_channels_decode`, while its condition holds. -/
def fillTurn (a : BitAccumulator) : BitAccumulator :=
  if a.availableBits < 11 then
    { bits := a.bits ||| (payload.getD a.byteIndex 0).toUInt32 <<< UInt32.ofNat a.availableBits
      availableBits := a.availableBits + 8
      byteIndex := a.byteIndex + 1 }
  else a

/-- The inner loop, which takes two turns at most. -/
def fill (a : BitAccumulator) : BitAccumulator := fillTurn payload (fillTurn payload a)

theorem fill_availableBits (a : BitAccumulator) : 11 ≤ (fill payload a).availableBits := by
  have hturn (b : BitAccumulator) : min 11 (b.availableBits + 8) ≤ (fillTurn payload b).availableBits := by
    rw [fillTurn]
    split_ifs
    · dsimp only
      omega
    · omega
  have hfirst := hturn a
  have hsecond := hturn (fillTurn payload a)
  rw [fill]
  omega

/-- The next `n` channels. -/
def channels : ℕ → BitAccumulator → List UInt16
  | 0, _ => []
  | n + 1, a =>
    let a := fill payload a
    (a.bits &&& 0x07FF).toUInt16 ::
      channels n { a with bits := a.bits >>> 11, availableBits := a.availableBits - 11 }

theorem length_channels (n : ℕ) (a : BitAccumulator) : (channels payload n a).length = n := by
  induction n generalizing a with
  | zero => rfl
  | succ n ih => simp [channels, ih]

end BitAccumulator

/-- `crsf_channels_decode`: whether the frame holds channels, and the caller's channels. -/
def crsfChannelsDecode (frame : CrsfFrame) (channels : CrsfChannels) : Bool × CrsfChannels :=
  if frame.type ≠ 0x16 ∨ frame.payloadLength ≠ 22 then (false, channels)
  else
    (true,
      { values := ⟨(BitAccumulator.channels frame.payload 16 {}).toArray,
          by simp [BitAccumulator.length_channels]⟩ })

end IndoorRobot
