import IndoorRobot.FixedSizeCodecs
import Mathlib.Algebra.Group.Nat.Defs
import Mathlib.Data.Int.Notation
import Mathlib.Tactic.Common

/-!
# Big-endian integers in byte buffers

`byte_codec.c`. A pointer into a buffer is the list of bytes from there on, so
reading at `bytes + k` is reading `bytes.drop k`. Each pair of an encoder and a decoder is
a codec of its fixed size.
-/
namespace IndoorRobot.ByteCodec

open FixedSizeCodecs

/-- `byte_codec_decode_u16_be`. -/
def decodeU16Be (bytes : List UInt8) : UInt16 :=
  ((bytes.getD 0 0).toUInt32 <<< 8 ||| (bytes.getD 1 0).toUInt32).toUInt16

/-- `byte_codec_decode_i16_be`. -/
def decodeI16Be (bytes : List UInt8) : Int16 :=
  let value := decodeU16Be bytes
  Int16.ofInt (if value ≤ 32767 then (value.toNat : ℤ) else (value.toNat : ℤ) - 65536)

/-- `byte_codec_decode_u32_be`. -/
def decodeU32Be (bytes : List UInt8) : UInt32 :=
  (bytes.getD 0 0).toUInt32 <<< 24 ||| (bytes.getD 1 0).toUInt32 <<< 16 |||
    (bytes.getD 2 0).toUInt32 <<< 8 ||| (bytes.getD 3 0).toUInt32

/-- `byte_codec_decode_u64_be`. -/
def decodeU64Be (bytes : List UInt8) : UInt64 :=
  (decodeU32Be bytes).toUInt64 <<< 32 ||| (decodeU32Be (bytes.drop 4)).toUInt64

/-- `byte_codec_encode_u16_be`. -/
def encodeU16Be (value : UInt16) : List UInt8 := [(value >>> 8).toUInt8, value.toUInt8]

/-- `byte_codec_encode_i16_be`. -/
def encodeI16Be (value : Int16) : List UInt8 := encodeU16Be value.toUInt16

/-- `byte_codec_encode_u32_be`. -/
def encodeU32Be (value : UInt32) : List UInt8 :=
  [(value >>> 24).toUInt8, (value >>> 16).toUInt8, (value >>> 8).toUInt8, value.toUInt8]

/-- `byte_codec_encode_u64_be`. -/
def encodeU64Be (value : UInt64) : List UInt8 :=
  encodeU32Be (value >>> 32).toUInt32 ++ encodeU32Be value.toUInt32

@[simp] theorem encodeU16Be_length (value : UInt16) : (encodeU16Be value).length = 2 := rfl

/-- Joining a high part to a low part below it is their positional sum. -/
private theorem high_or_low (k high low : ℕ) (h : low < 2 ^ k) :
    high * 2 ^ k ||| low = high * 2 ^ k + low := by
  rw [← Nat.shiftLeft_eq, Nat.shiftLeft_add_eq_or_of_lt h]

theorem decodeU16Be_toNat (high low : UInt8) (rest : List UInt8) :
    (decodeU16Be (high :: low :: rest)).toNat = high.toNat * 256 + low.toNat := by
  have hhigh := high.toNat_lt
  have hlow := low.toNat_lt
  have hfit : high.toNat <<< 8 % 2 ^ 32 = high.toNat * 2 ^ 8 := by
    rw [Nat.shiftLeft_eq]
    omega
  simp only [decodeU16Be, List.getD_cons_zero, List.getD_cons_succ, UInt32.toNat_toUInt16,
    UInt32.toNat_or, UInt32.toNat_shiftLeft, UInt8.toNat_toUInt32, UInt32.reduceToNat,
    Nat.reduceMod, hfit]
  rw [high_or_low 8 _ _ hlow]
  omega

theorem decodeU32Be_toNat (b0 b1 b2 b3 : UInt8) (rest : List UInt8) :
    (decodeU32Be (b0 :: b1 :: b2 :: b3 :: rest)).toNat =
      ((b0.toNat * 256 + b1.toNat) * 256 + b2.toNat) * 256 + b3.toNat := by
  have h0 := b0.toNat_lt
  have h1 := b1.toNat_lt
  have h2 := b2.toNat_lt
  have h3 := b3.toNat_lt
  have hf0 : b0.toNat <<< 24 % 2 ^ 32 = b0.toNat * 2 ^ 24 := by
    rw [Nat.shiftLeft_eq]
    omega
  have hf1 : b1.toNat <<< 16 % 2 ^ 32 = b1.toNat * 2 ^ 16 := by
    rw [Nat.shiftLeft_eq]
    omega
  have hf2 : b2.toNat <<< 8 % 2 ^ 32 = b2.toNat * 2 ^ 8 := by
    rw [Nat.shiftLeft_eq]
    omega
  simp only [decodeU32Be, List.getD_cons_zero, List.getD_cons_succ, UInt32.toNat_or,
    UInt32.toNat_shiftLeft, UInt8.toNat_toUInt32, UInt32.reduceToNat, Nat.reduceMod, hf0, hf1, hf2]
  have e1 : b0.toNat * 2 ^ 24 ||| b1.toNat * 2 ^ 16 = (b0.toNat * 256 + b1.toNat) * 2 ^ 16 := by
    rw [high_or_low 24 _ _ (by omega)]
    omega
  have e2 : (b0.toNat * 256 + b1.toNat) * 2 ^ 16 ||| b2.toNat * 2 ^ 8 =
      ((b0.toNat * 256 + b1.toNat) * 256 + b2.toNat) * 2 ^ 8 := by
    rw [high_or_low 16 _ _ (by omega)]
    omega
  have e3 : ((b0.toNat * 256 + b1.toNat) * 256 + b2.toNat) * 2 ^ 8 ||| b3.toNat =
      ((b0.toNat * 256 + b1.toNat) * 256 + b2.toNat) * 256 + b3.toNat := by
    rw [high_or_low 8 _ _ h3]
    omega
  rw [e1, e2, e3]

@[simp] theorem decodeU16Be_encodeU16Be (value : UInt16) (rest : List UInt8) :
    decodeU16Be (encodeU16Be value ++ rest) = value := by
  apply UInt16.toNat_inj.mp
  have hv := value.toNat_lt
  simp only [encodeU16Be, List.cons_append, List.nil_append, decodeU16Be_toNat,
    UInt16.toNat_toUInt8, UInt16.toNat_shiftRight, UInt16.reduceToNat, Nat.reduceMod,
    Nat.shiftRight_eq_div_pow]
  omega

/-- Two bytes shifted in one after the other. -/
theorem join_toNat (high low : UInt8) :
    (high.toUInt16 <<< 8 ||| low.toUInt16).toNat = high.toNat * 2 ^ 8 + low.toNat := by
  have hhigh := high.toNat_lt
  have hfit : high.toNat <<< 8 % 2 ^ 16 = high.toNat * 2 ^ 8 := by
    rw [Nat.shiftLeft_eq]
    omega
  simp only [UInt16.toNat_or, UInt16.toNat_shiftLeft, UInt8.toNat_toUInt16, UInt16.reduceToNat,
    Nat.reduceMod, hfit]
  exact high_or_low 8 _ _ low.toNat_lt

/-- The two bytes of a value restore it. -/
theorem join_high_low (value : UInt16) :
    (value >>> 8).toUInt8.toUInt16 <<< 8 ||| value.toUInt8.toUInt16 = value := by
  apply UInt16.toNat_inj.mp
  have hv := value.toNat_lt
  rw [join_toNat]
  simp only [UInt16.toNat_toUInt8, UInt16.toNat_shiftRight, UInt16.reduceToNat, Nat.reduceMod,
    Nat.shiftRight_eq_div_pow]
  omega

theorem high_of_join (high low : UInt8) :
    ((high.toUInt16 <<< 8 ||| low.toUInt16) >>> 8).toUInt8 = high := by
  apply UInt8.toNat_inj.mp
  have hhigh := high.toNat_lt
  have hlow := low.toNat_lt
  simp only [UInt16.toNat_toUInt8, UInt16.toNat_shiftRight, join_toNat, UInt16.reduceToNat,
    Nat.reduceMod, Nat.shiftRight_eq_div_pow]
  omega

theorem low_of_join (high low : UInt8) :
    (high.toUInt16 <<< 8 ||| low.toUInt16).toUInt8 = low := by
  apply UInt8.toNat_inj.mp
  have hlow := low.toNat_lt
  simp only [UInt16.toNat_toUInt8, join_toNat]
  omega

/-- A high byte alone, before the low one is shifted in. -/
theorem high_of_shift (high : UInt8) : (high.toUInt16 <<< 8 >>> 8).toUInt8 = high := by
  simpa using high_of_join high 0

theorem encodeU16Be_join (high low : UInt8) :
    encodeU16Be (high.toUInt16 <<< 8 ||| low.toUInt16) = [high, low] := by
  rw [encodeU16Be, high_of_join, low_of_join]

@[simp] theorem decodeU32Be_encodeU32Be (value : UInt32) (rest : List UInt8) :
    decodeU32Be (encodeU32Be value ++ rest) = value := by
  apply UInt32.toNat_inj.mp
  have hv := value.toNat_lt
  simp only [encodeU32Be, List.cons_append, List.nil_append, decodeU32Be_toNat,
    UInt32.toNat_toUInt8, UInt32.toNat_shiftRight, UInt32.reduceToNat, Nat.reduceMod,
    Nat.shiftRight_eq_div_pow]
  omega

theorem isCodec_u16 : IsCodec 2 encodeU16Be decodeU16Be where
  length _ := rfl
  decode_encode := decodeU16Be_encodeU16Be
  encode_decode l hl := by
    obtain ⟨high, low, rest, rfl⟩ : ∃ high low rest, l = high :: low :: rest := by
      rcases l with _ | ⟨high, _ | ⟨low, rest⟩⟩
      · simp at hl
      · simp at hl
      · exact ⟨high, low, rest, rfl⟩
    have hvalue := decodeU16Be_toNat high low rest
    have hlow := low.toNat_lt
    have hhigh := high.toNat_lt
    simp only [encodeU16Be, List.take_succ_cons, List.take_zero, List.cons.injEq, and_true]
    constructor
    · apply UInt8.toNat_inj.mp
      simp only [UInt16.toNat_toUInt8, UInt16.toNat_shiftRight, UInt16.reduceToNat, Nat.reduceMod,
        Nat.shiftRight_eq_div_pow, hvalue]
      omega
    · apply UInt8.toNat_inj.mp
      simp only [UInt16.toNat_toUInt8, hvalue]
      omega

theorem isCodec_u32 : IsCodec 4 encodeU32Be decodeU32Be where
  length _ := rfl
  decode_encode := decodeU32Be_encodeU32Be
  encode_decode l hl := by
    obtain ⟨b0, b1, b2, b3, rest, rfl⟩ :
        ∃ b0 b1 b2 b3 rest, l = b0 :: b1 :: b2 :: b3 :: rest := by
      rcases l with _ | ⟨b0, _ | ⟨b1, _ | ⟨b2, _ | ⟨b3, rest⟩⟩⟩⟩
      · simp at hl
      · simp at hl
      · simp at hl
      · simp at hl
      · exact ⟨b0, b1, b2, b3, rest, rfl⟩
    have hvalue := decodeU32Be_toNat b0 b1 b2 b3 rest
    have h0 := b0.toNat_lt
    have h1 := b1.toNat_lt
    have h2 := b2.toNat_lt
    have h3 := b3.toNat_lt
    simp only [encodeU32Be, List.take_succ_cons, List.take_zero, List.cons.injEq, and_true]
    refine ⟨?_, ?_, ?_, ?_⟩
    all_goals
      apply UInt8.toNat_inj.mp
      simp only [UInt32.toNat_toUInt8, UInt32.toNat_shiftRight, UInt32.reduceToNat, Nat.reduceMod,
        Nat.shiftRight_eq_div_pow, hvalue]
      omega

/-- The value that two's complement gives sixteen bits. -/
def signed (value : UInt16) : Int16 :=
  Int16.ofInt (if value ≤ 32767 then (value.toNat : ℤ) else (value.toNat : ℤ) - 65536)

theorem signed_toUInt16 (value : Int16) : signed value.toUInt16 = value := by
  have hv := value.toUInt16.toNat_lt
  have hsigned : value.toInt =
      if 2 * value.toUInt16.toNat < 2 ^ 16 then (value.toUInt16.toNat : ℤ)
      else (value.toUInt16.toNat : ℤ) - 2 ^ 16 :=
    BitVec.toInt_eq_toNat_cond value.toBitVec
  apply Int16.toInt_inj.mp
  rw [hsigned, signed]
  by_cases hle : value.toUInt16 ≤ 32767
  · have hnat : value.toUInt16.toNat ≤ 32767 := by simpa [UInt16.le_iff_toNat_le] using hle
    rw [if_pos hle, if_pos (by omega), Int16.toInt_ofInt_of_le (by omega) (by omega)]
  · have hnat : ¬ value.toUInt16.toNat ≤ 32767 := by simpa [UInt16.le_iff_toNat_le] using hle
    rw [if_neg hle, if_neg (by omega), Int16.toInt_ofInt_of_le (by omega) (by omega)]
    rfl

theorem toUInt16_signed (value : UInt16) : (signed value).toUInt16 = value := by
  have h := signed_toUInt16 value.toInt16
  rw [UInt16.toUInt16_toInt16] at h
  rw [h, UInt16.toUInt16_toInt16]

/-- Both halves of the signed range survive the wire, the minimum included. -/
theorem isCodec_i16 : IsCodec 2 encodeI16Be decodeI16Be :=
  isCodec_u16.map signed Int16.toUInt16 signed_toUInt16 toUInt16_signed

/-- Two halves of a word, the high one first. -/
def joinHalves (halves : UInt32 × UInt32) : UInt64 :=
  halves.1.toUInt64 <<< 32 ||| halves.2.toUInt64

def halves (value : UInt64) : UInt32 × UInt32 := ((value >>> 32).toUInt32, value.toUInt32)

theorem joinHalves_toNat (high low : UInt32) :
    (joinHalves (high, low)).toNat = high.toNat * 2 ^ 32 + low.toNat := by
  have hhigh := high.toNat_lt
  have hfit : high.toNat <<< 32 % 2 ^ 64 = high.toNat <<< 32 := by
    rw [Nat.shiftLeft_eq]
    omega
  simp only [joinHalves, UInt64.toNat_or, UInt64.toNat_shiftLeft, UInt32.toNat_toUInt64,
    UInt64.reduceToNat, Nat.reduceMod, hfit]
  rw [← Nat.shiftLeft_add_eq_or_of_lt low.toNat_lt, Nat.shiftLeft_eq]

theorem joinHalves_halves (value : UInt64) : joinHalves (halves value) = value := by
  have hv := value.toNat_lt
  apply UInt64.toNat_inj.mp
  rw [halves, joinHalves_toNat]
  simp only [UInt64.toNat_toUInt32, UInt64.toNat_shiftRight, UInt64.reduceToNat, Nat.reduceMod,
    Nat.shiftRight_eq_div_pow]
  omega

theorem halves_joinHalves (pair : UInt32 × UInt32) : halves (joinHalves pair) = pair := by
  obtain ⟨high, low⟩ := pair
  have hvalue := joinHalves_toNat high low
  have hhigh := high.toNat_lt
  have hlow := low.toNat_lt
  rw [halves, Prod.mk.injEq]
  constructor
  · apply UInt32.toNat_inj.mp
    simp only [UInt64.toNat_toUInt32, UInt64.toNat_shiftRight, UInt64.reduceToNat, Nat.reduceMod,
      Nat.shiftRight_eq_div_pow, hvalue]
    omega
  · apply UInt32.toNat_inj.mp
    simp only [UInt64.toNat_toUInt32, hvalue]
    omega

theorem isCodec_u64 : IsCodec 8 encodeU64Be decodeU64Be :=
  (isCodec_u32.append isCodec_u32).map joinHalves halves joinHalves_halves halves_joinHalves

end IndoorRobot.ByteCodec
