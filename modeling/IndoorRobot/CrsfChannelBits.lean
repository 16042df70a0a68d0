import IndoorRobot.CrsfReceiver
import IndoorRobot.PackedDigits

/-!
# The channels are the digits of the payload

The 22 bytes of a channel frame are one number of 176 bits, low byte first, and the
channels are its sixteen digits of 11 bits. The accumulator of `crsf_channels_decode` is
a window on that number that is refilled by bytes and emptied by channels.
-/
namespace IndoorRobot

open PackedDigits

/-- The bytes a channel frame is made of. -/
def packedBytes (payload : Vector UInt8 60) : List ℕ := (payload.toList.take 22).map UInt8.toNat

/-- The payload of a channel frame as a little-endian number. -/
def packedNumber (payload : Vector UInt8 60) : ℕ := Nat.ofDigits 256 (packedBytes payload)

theorem packedBytes_length (payload : Vector UInt8 60) : (packedBytes payload).length = 22 := by
  simp [packedBytes]

theorem packedBytes_lt (payload : Vector UInt8 60) : ∀ byte ∈ packedBytes payload, byte < 256 := by
  intro byte hbyte
  obtain ⟨b, -, rfl⟩ := List.mem_map.mp hbyte
  exact b.toNat_lt

theorem packedNumber_lt (payload : Vector UInt8 60) : packedNumber payload < 2048 ^ 16 := by
  have hlt := Nat.ofDigits_lt_base_pow_length (by decide) (packedBytes_lt payload)
  rw [packedBytes_length] at hlt
  exact hlt

/-- The byte that is read next, and the rest of the number behind it. -/
theorem packedBytes_drop (payload : Vector UInt8 60) {index : ℕ} (h : index < 22) :
    Nat.ofDigits 256 ((packedBytes payload).drop index) = (payload.getD index 0).toNat +
      2 ^ 8 * Nat.ofDigits 256 ((packedBytes payload).drop (index + 1)) := by
  have hlength : index < (packedBytes payload).length := by rwa [packedBytes_length]
  have hbyte : (packedBytes payload)[index] = (payload.getD index 0).toNat := by
    simp [packedBytes, show index < 60 by omega, Vector.getD]
  rw [List.drop_eq_getElem_cons hlength, Nat.ofDigits_cons, hbyte]
  rfl

namespace BitAccumulator

variable (payload : Vector UInt8 60)

/-- The states of the two nested loops, with the number of channels written. -/
inductive Visited : ℕ → BitAccumulator → Prop where
  | start : Visited 0 {}
  | turn {n : ℕ} {a : BitAccumulator} (h : Visited n a) (hn : n < 16) (ha : a.availableBits < 11) :
      Visited n (fillTurn payload a)
  | channel {n : ℕ} {a : BitAccumulator} (h : Visited n a) (hn : n < 16)
      (ha : 11 ≤ a.availableBits) :
      Visited (n + 1) { a with bits := a.bits >>> 11, availableBits := a.availableBits - 11 }

/-- The accumulator is a window on the payload, and reads inside it. -/
structure Tracks (n : ℕ) (a : BitAccumulator) : Prop where
  window : Window (packedNumber payload) (11 * n) a.bits.toNat a.availableBits
    (Nat.ofDigits 256 ((packedBytes payload).drop a.byteIndex))
  position : 8 * a.byteIndex = 11 * n + a.availableBits
  available : a.availableBits ≤ 18
  index : a.byteIndex ≤ 22

variable {payload} {n : ℕ} {a : BitAccumulator}

/-- A byte shifted above the bits of the window is added to them. -/
theorem bits_refill (hbits : a.bits.toNat < 2 ^ a.availableBits) (ha : a.availableBits < 11)
    (byte : UInt8) : (a.bits ||| byte.toUInt32 <<< UInt32.ofNat a.availableBits).toNat =
      a.bits.toNat + byte.toNat * 2 ^ a.availableBits := by
  have hbyte := byte.toNat_lt
  have hshift : (UInt32.ofNat a.availableBits).toNat % 32 = a.availableBits := by
    rw [UInt32.toNat_ofNat', Nat.mod_eq_of_lt (by omega), Nat.mod_eq_of_lt (by omega)]
  have hpow : 2 ^ a.availableBits ≤ 2 ^ 10 := Nat.pow_le_pow_right (by decide) (by omega)
  have hfits : byte.toNat * 2 ^ a.availableBits < 2 ^ 32 := by
    calc byte.toNat * 2 ^ a.availableBits ≤ 2 ^ 8 * 2 ^ 10 := Nat.mul_le_mul (by omega) hpow
      _ < 2 ^ 32 := by decide
  rw [UInt32.toNat_or, UInt32.toNat_shiftLeft, UInt8.toNat_toUInt32, hshift, Nat.shiftLeft_eq,
    Nat.mod_eq_of_lt hfits, Nat.or_comm, ← Nat.shiftLeft_eq,
    ← Nat.shiftLeft_add_eq_or_of_lt hbits, Nat.shiftLeft_eq, Nat.add_comm]

theorem Tracks.turn (h : Tracks payload n a) (hn : n < 16) (ha : a.availableBits < 11) :
    Tracks payload n (fillTurn payload a) := by
  have hposition := h.position
  have hindex : a.byteIndex < 22 := by omega
  rw [fillTurn, if_pos ha]
  refine ⟨?_, ?_, ?_, hindex⟩
  · have hrefill := h.window.refill (UInt8.toNat_lt _) (packedBytes_drop payload hindex)
    rw [← bits_refill h.window.small ha] at hrefill
    exact hrefill
  · dsimp only
    omega
  · dsimp only
    omega

theorem Tracks.channel (h : Tracks payload n a) (ha : 11 ≤ a.availableBits) :
    Tracks payload (n + 1)
      { a with bits := a.bits >>> 11, availableBits := a.availableBits - 11 } := by
  have hposition := h.position
  have havailable := h.available
  refine ⟨?_, ?_, ?_, h.index⟩
  · have hdrop := h.window.drop ha
    rw [show 11 * n + 11 = 11 * (n + 1) by ring] at hdrop
    simpa [UInt32.toNat_shiftRight, Nat.shiftRight_eq_div_pow] using hdrop
  · dsimp only
    omega
  · dsimp only
    omega

theorem Visited.tracks (h : Visited payload n a) : Tracks payload n a := by
  induction h with
  | start => exact ⟨Window.start _, rfl, Nat.zero_le _, Nat.zero_le _⟩
  | turn _ hn ha ih => exact ih.turn hn ha
  | channel _ _ ha ih => exact ih.channel ha

/-- The inner loop goes on to where it stops. -/
theorem Visited.fill (h : Visited payload n a) (hn : n < 16) :
    Visited payload n (fill payload a) := by
  have hturn {b : BitAccumulator} (hb : Visited payload n b) :
      Visited payload n (fillTurn payload b) := by
    by_cases havailable : b.availableBits < 11
    · exact hb.turn hn havailable
    · rw [fillTurn, if_neg havailable]
      exact hb
  exact hturn (hturn h)

/-- The low bits of a window that is full enough are the next channel. -/
theorem Tracks.value (h : Tracks payload n a) (ha : 11 ≤ a.availableBits) :
    (a.bits &&& 0x07FF).toUInt16.toNat = packedNumber payload / 2048 ^ n % 2048 := by
  have hfield := h.window.field ha
  have hmask := Nat.and_two_pow_sub_one_eq_mod a.bits.toNat 11
  have hvalue : (a.bits &&& 0x07FF).toNat = packedNumber payload / 2048 ^ n % 2048 := by
    rw [UInt32.toNat_and, show (2048 : ℕ) = 2 ^ 11 by rfl, ← pow_mul, ← hfield, ← hmask]
    rfl
  have hlt : packedNumber payload / 2048 ^ n % 2048 < 2048 := Nat.mod_lt _ (by decide)
  rw [UInt32.toNat_toUInt16, hvalue, Nat.mod_eq_of_lt (by omega)]

/-- The channels from one on are the digits of the payload from that one on. -/
theorem Visited.channels (h : Visited payload n a) (count : ℕ) (hcount : n + count ≤ 16) :
    (channels payload count a).map UInt16.toNat =
      (List.range' n count).map fun i => packedNumber payload / 2048 ^ i % 2048 := by
  induction count generalizing n a with
  | zero => rfl
  | succ count ih =>
    have hfill := h.fill (by omega)
    have hfull := fill_availableBits payload a
    have hrest := ih (hfill.channel (by omega) hfull) (by omega)
    rw [BitAccumulator.channels, List.map_cons, hfill.tracks.value hfull, hrest, List.range'_succ,
      List.map_cons]

end BitAccumulator

/-- The channels decoded from a frame that holds them. -/
theorem crsfChannelsDecode_toNat (frame : CrsfFrame) (htype : frame.type = 0x16)
    (hlength : frame.payloadLength = 22) (channels : CrsfChannels) :
    (crsfChannelsDecode frame channels).1 = true ∧
      (crsfChannelsDecode frame channels).2.values.toList.map UInt16.toNat =
        (List.range 16).map fun i => packedNumber frame.payload / 2048 ^ i % 2048 := by
  have hstart : BitAccumulator.Visited frame.payload 0 {} := .start
  rw [crsfChannelsDecode, if_neg (by simp [htype, hlength]), List.range_eq_range']
  exact ⟨rfl, hstart.channels 16 (by decide)⟩

/-- A channel frame. -/
def channelsFrame (payload : Vector UInt8 22) : CrsfFrame :=
  { type := 0x16
    payload := (payload ++ (Vector.replicate 38 0 : Vector UInt8 38)).cast (by decide)
    payloadLength := 22 }

theorem packedBytes_channelsFrame (payload : Vector UInt8 22) :
    packedBytes (channelsFrame payload).payload = payload.toList.map UInt8.toNat := by
  have htoList : (channelsFrame payload).payload.toList =
      payload.toList ++ List.replicate 38 0 := by
    rw [channelsFrame, Vector.toList_cast, Vector.toList_append, Vector.toList_replicate]
  rw [packedBytes, htoList, List.take_left' (by simp)]

/-- The channels of a payload. -/
def unpackChannels (payload : Vector UInt8 22) : CrsfChannels :=
  (crsfChannelsDecode (channelsFrame payload) {}).2

theorem unpackChannels_lt (payload : Vector UInt8 22) :
    ∀ value ∈ (unpackChannels payload).values.toList, value < 2048 := by
  intro value hvalue
  have hdigits := (crsfChannelsDecode_toNat (channelsFrame payload) rfl rfl {}).2
  have hmem : value.toNat ∈ (unpackChannels payload).values.toList.map UInt16.toNat :=
    List.mem_map_of_mem hvalue
  rw [unpackChannels, hdigits] at hmem
  obtain ⟨i, -, hi⟩ := List.mem_map.mp hmem
  rw [UInt16.lt_iff_toNat_lt, ← hi]
  exact Nat.mod_lt _ (by decide)

/-- Both sides are digits of the same number. -/
theorem ofDigits_unpackChannels (payload : Vector UInt8 22) :
    Nat.ofDigits 2048 ((unpackChannels payload).values.toList.map UInt16.toNat) =
      Nat.ofDigits 256 (payload.toList.map UInt8.toNat) := by
  have hdigits := (crsfChannelsDecode_toNat (channelsFrame payload) rfl rfl {}).2
  rw [unpackChannels, hdigits, ofDigits_low_digits, Nat.mod_eq_of_lt (packedNumber_lt _),
    packedNumber, packedBytes_channelsFrame]

/-- Values of 11 bits for all channels. -/
def ChannelValues : Type := { c : CrsfChannels // ∀ value ∈ c.values.toList, value < 2048 }

def unpackValues (payload : Vector UInt8 22) : ChannelValues :=
  ⟨unpackChannels payload, unpackChannels_lt payload⟩

theorem unpackValues_injective : Function.Injective unpackValues := by
  intro payload other h
  have hchannels : unpackChannels payload = unpackChannels other := congrArg Subtype.val h
  have hnumber := ofDigits_unpackChannels payload
  rw [hchannels, ofDigits_unpackChannels other] at hnumber
  have hsmall (p : Vector UInt8 22) : ∀ byte ∈ p.toList.map UInt8.toNat, byte < 256 := by
    rw [← packedBytes_channelsFrame]
    exact packedBytes_lt _
  have hbytes := Nat.ofDigits_inj_of_len_eq (by decide) (by simp) (hsmall other) (hsmall payload)
    hnumber
  have hinj : Function.Injective UInt8.toNat := fun _ _ => UInt8.toNat_inj.mp
  exact Vector.toList_inj.mp (hinj.list_map hbytes).symm

theorem values_toNat_lt {c : CrsfChannels} (h : ∀ value ∈ c.values.toList, value < 2048) :
    ∀ value ∈ c.values.toList.map UInt16.toNat, value < 2048 := by
  intro value hvalue
  obtain ⟨v, hv, rfl⟩ := List.mem_map.mp hvalue
  exact UInt16.lt_iff_toNat_lt.mp (h v hv)

/-- Every number below `256 ^ 22` is that of a payload. -/
theorem exists_payload {N : ℕ} (hN : N < 256 ^ 22) :
    ∃ payload : Vector UInt8 22, Nat.ofDigits 256 (payload.toList.map UInt8.toNat) = N := by
  have hlength := Nat.length_digitsAppend (b := 256) (by decide) 22 hN
  let payload : Vector UInt8 22 :=
    ⟨((Nat.digitsAppend 256 22 N).map UInt8.ofNat).toArray, by simp [hlength]⟩
  have hbytes : payload.toList.map UInt8.toNat = Nat.digitsAppend 256 22 N := by
    calc payload.toList.map UInt8.toNat
        = (Nat.digitsAppend 256 22 N).map (UInt8.toNat ∘ UInt8.ofNat) := List.map_map
      _ = (Nat.digitsAppend 256 22 N).map id := by
        refine List.map_congr_left fun digit hdigit => ?_
        have hlt := Nat.lt_of_mem_digitsAppend (by decide) 22 digit hdigit
        exact UInt8.toNat_ofNat_of_lt' hlt
      _ = Nat.digitsAppend 256 22 N := List.map_id _
  refine ⟨payload, ?_⟩
  rw [hbytes]
  exact (Nat.setInvOn_digitsAppend_ofDigits (by decide) 22).2 hN

/-- The payload of some channels has their number. -/
theorem unpackValues_surjective : Function.Surjective unpackValues := by
  rintro ⟨channels, hsmall⟩
  have hvalues := values_toNat_lt hsmall
  have hN : Nat.ofDigits 2048 (channels.values.toList.map UInt16.toNat) < 256 ^ 22 := by
    have hlt := Nat.ofDigits_lt_base_pow_length (by decide) hvalues
    simpa using hlt
  obtain ⟨payload, hpayload⟩ := exists_payload hN
  have hnumber := ofDigits_unpackChannels payload
  rw [hpayload] at hnumber
  have hlist := Nat.ofDigits_inj_of_len_eq (by decide) (by simp)
    (values_toNat_lt (unpackChannels_lt payload)) hvalues hnumber
  have hinj : Function.Injective UInt16.toNat := fun _ _ => UInt16.toNat_inj.mp
  have hequal : (unpackChannels payload).values = channels.values :=
    Vector.toList_inj.mp (hinj.list_map hlist)
  refine ⟨payload, Subtype.ext ?_⟩
  show unpackChannels payload = channels
  cases hunpacked : unpackChannels payload
  cases channels
  simp only [hunpacked] at hequal
  rw [hequal]

/-- The channels of a frame are the digits of 11 bits of its payload, so payloads and values of 11
bits correspond; on the way the accumulator holds at most 18 bits and the index stays inside the
payload. Other frames are refused. -/
theorem channels_are_digits :
    (∀ (frame : CrsfFrame) (channels : CrsfChannels), frame.type = 0x16 →
      frame.payloadLength = 22 → (crsfChannelsDecode frame channels).1 = true ∧
        ∀ i (h : i < 16), ((crsfChannelsDecode frame channels).2.values.get ⟨i, h⟩).toNat =
          packedNumber frame.payload >>> (11 * i) % 2048) ∧
    Function.Bijective unpackValues ∧
    (∀ payload n a, BitAccumulator.Visited payload n a →
      a.bits.toNat < 2 ^ a.availableBits ∧ a.availableBits ≤ 18 ∧ a.byteIndex ≤ 22) ∧
    ∀ (frame : CrsfFrame) (channels : CrsfChannels),
      frame.type ≠ 0x16 ∨ frame.payloadLength ≠ 22 →
        crsfChannelsDecode frame channels = (false, channels) := by
  refine ⟨?_, ⟨unpackValues_injective, unpackValues_surjective⟩, ?_, ?_⟩
  · intro frame channels htype hlength
    obtain ⟨hdecoded, hdigits⟩ := crsfChannelsDecode_toNat frame htype hlength channels
    refine ⟨hdecoded, ?_⟩
    intro i hi
    have hdigit := congrArg (fun values => values[i]?) hdigits
    rw [Nat.shiftRight_eq_div_pow, pow_mul]
    simpa [hi, Vector.get] using hdigit
  · intro payload n a h
    exact ⟨h.tracks.window.small, h.tracks.available, h.tracks.index⟩
  · intro frame channels hother
    rw [crsfChannelsDecode, if_pos hother]

end IndoorRobot
