import IndoorRobot.CrsfReceiver

/-!
# The radio receiver's decoder on byte streams

The bytes collected of the present frame are the start of the buffer. Each byte extends
them, drops them or completes a frame, so a frame that is reported is the encoding that
was fed last. Bytes other than the address bring every state back to the search for it,
and from there encodings are reported one by one.
-/
namespace IndoorRobot

/-- The bytes a frame carries. -/
def CrsfFrame.content (f : CrsfFrame) : List UInt8 := f.payload.toList.take f.payloadLength

/-- Equal in every field, on the payload up to its length. -/
structure CrsfFrame.SameContent (f g : CrsfFrame) : Prop where
  type : g.type = f.type
  payloadLength : g.payloadLength = f.payloadLength
  content : g.content = f.content

/-- The checksum of some bytes. -/
def crsfCrc8 (bytes : List UInt8) : UInt8 := bytes.foldl crsfCrc8Update 0

/-- A frame on the wire: address, length, type, payload and checksum. -/
def crsfFrameEncode (f : CrsfFrame) : List UInt8 :=
  [0xC8, UInt8.ofNat (f.payloadLength + 2)] ++
    f.type :: (f.content ++ [crsfCrc8 (f.type :: f.content)])

theorem CrsfFrame.content_length {f : CrsfFrame} (h : f.payloadLength ≤ 60) :
    f.content.length = f.payloadLength := by
  simp [content, h]

theorem crsfFrameEncode_length {f : CrsfFrame} (h : f.payloadLength ≤ 60) :
    (crsfFrameEncode f).length = f.payloadLength + 4 := by
  simp [crsfFrameEncode, CrsfFrame.content_length h]

namespace CrsfFrameDecoder

/-- The bytes of the present frame. -/
def candidate (d : CrsfFrameDecoder) : List UInt8 :=
  match d.state with
  | .waitingForAddress => []
  | .waitingForLength => [0xC8]
  | .collecting => d.buffer.toList.take d.used

/-- The header is in the buffer, and the counters are inside what it announces. -/
structure Collected (d : CrsfFrameDecoder) : Prop where
  wellFormed : d.WellFormed
  address : d.state = .waitingForLength → d.buffer.toList.take 1 = [0xC8]
  header : d.state = .collecting →
    d.buffer.toList.take 2 = [0xC8, UInt8.ofNat (d.expectedSize - 2)]
  size : d.state = .collecting → 4 ≤ d.expectedSize

theorem collected_of_waitingForAddress {d : CrsfFrameDecoder} (h : d.state = .waitingForAddress) :
    d.Collected := by
  constructor
  · exact wellFormed_of_waiting (by simp [h])
  · simp [h]
  · simp [h]
  · simp [h]

theorem reset_collected (d : CrsfFrameDecoder) : d.reset.Collected :=
  collected_of_waitingForAddress rfl

theorem beginFrame_collected (d : CrsfFrameDecoder) : (d.beginFrame 0xC8).Collected := by
  constructor
  · exact wellFormed_of_waiting (by simp [beginFrame])
  · intro _
    simp [beginFrame, List.take_one, List.head?_eq_getElem?]
  · simp [beginFrame]
  · simp [beginFrame]

/-- A buffer that is full, field by field. -/
theorem take_expectedSize {L : List UInt8} {size : ℕ} (hsize : 4 ≤ size) (hlength : size ≤ L.length) :
    L.take size = L.take 2 ++
      L.getD 2 0 :: ((L.drop 3).take (size - 4) ++ [L.getD (size - 1) 0]) := by
  obtain ⟨n, rfl⟩ := Nat.exists_eq_add_of_le hsize
  have htwo : (L.drop 2).take 1 = [L.getD 2 0] := by
    rw [List.take_one]
    simp [List.getD, show 2 < L.length by omega]
  have hlast : (L.drop (3 + n)).take 1 = [L.getD (3 + n) 0] := by
    rw [List.take_one]
    simp [List.getD, show 3 + n < L.length by omega]
  rw [show 4 + n = 2 + (1 + (n + 1)) by omega, List.take_add, List.take_add, List.take_add,
    List.drop_drop, List.drop_drop, htwo, hlast, show 2 + (1 + (n + 1)) - 4 = n by omega,
    show 2 + (1 + (n + 1)) - 1 = 3 + n by omega]
  rfl

theorem content_localFrame {d : CrsfFrameDecoder} (hsize : d.expectedSize ≤ 64) :
    d.localFrame.content = (d.buffer.toList.drop 3).take (d.expectedSize - 4) := by
  apply List.ext_getElem?
  intro i
  rw [CrsfFrame.content, localFrame, List.getElem?_take, List.getElem?_take, List.getElem?_drop]
  by_cases hi : i < d.expectedSize - 4
  · rw [if_pos hi, if_pos hi]
    simp [hi, show i < 60 by omega, show 3 + i < 64 by omega, Vector.getD]
  · rw [if_neg hi, if_neg hi]

/-- The checksum covers the type and the content. -/
theorem calculatedCrc_eq {d : CrsfFrameDecoder} (h : 4 ≤ d.expectedSize)
    (hsize : d.expectedSize ≤ 64) :
    d.calculatedCrc = crsfCrc8 (d.localFrame.type :: d.localFrame.content) := by
  rw [content_localFrame hsize, calculatedCrc, crsfCrc8]
  congr 1
  obtain ⟨n, hn⟩ := Nat.exists_eq_add_of_le h
  rw [hn, show 4 + n - 3 = 1 + n by omega, show 4 + n - 4 = n by omega, List.take_add,
    List.drop_drop, List.take_one]
  simp [localFrame]

theorem lastByte_eq {d : CrsfFrameDecoder} (h : 4 ≤ d.expectedSize) (hsize : d.expectedSize ≤ 64) :
    d.buffer.toList.getD (d.expectedSize - 1) 0 = d.buffer.getD (d.expectedSize - 1) 0 := by
  simp [List.getD, Vector.getD, show d.expectedSize - 1 < 64 by omega]

/-- A full buffer with a matching checksum is the encoding of the frame in it. -/
theorem encode_localFrame {d : CrsfFrameDecoder} (h : 4 ≤ d.expectedSize)
    (hsize : d.expectedSize ≤ 64)
    (hheader : d.buffer.toList.take 2 = [0xC8, UInt8.ofNat (d.expectedSize - 2)])
    (hcrc : d.calculatedCrc = d.buffer.getD (d.expectedSize - 1) 0) :
    crsfFrameEncode d.localFrame = d.buffer.toList.take d.expectedSize := by
  have htype : d.localFrame.type = d.buffer.toList.getD 2 0 := by
    simp [localFrame, List.getD]
  have hlength : d.localFrame.payloadLength + 2 = d.expectedSize - 2 := by
    simp only [localFrame]
    omega
  rw [take_expectedSize h (by simpa using hsize), hheader, lastByte_eq h hsize, ← hcrc,
    calculatedCrc_eq h hsize, ← htype, ← content_localFrame hsize, crsfFrameEncode, hlength]

/-- The answer to a byte is borne out by the bytes of the present frame. -/
structure Explained (d : CrsfFrameDecoder) (byte : UInt8) (frame : CrsfFrame)
    (result : Bool × CrsfFrame × CrsfFrameDecoder) : Prop where
  collected : result.2.2.Collected
  silent : result.1 = false → result.2.1 = frame ∧
    result.2.2.candidate <:+ d.candidate ++ [byte]
  reported : result.1 = true → result.2.1.payloadLength ≤ 60 ∧
    crsfFrameEncode result.2.1 = d.candidate ++ [byte] ∧ result.2.2.candidate = []

theorem Explained.of_silent {d d' : CrsfFrameDecoder} {byte : UInt8} {frame : CrsfFrame}
    (h : d'.Collected) (hc : d'.candidate <:+ d.candidate ++ [byte]) :
    d.Explained byte frame (false, frame, d') :=
  ⟨h, fun _ => ⟨rfl, hc⟩, fun hreported => absurd hreported Bool.false_ne_true⟩

variable {d : CrsfFrameDecoder}

/-- A byte written behind those collected so far. -/
theorem take_setIfInBounds (buffer : Vector UInt8 64) {used : ℕ} (h : used < 64) (byte : UInt8) :
    (buffer.setIfInBounds used byte).toList.take (used + 1) =
      buffer.toList.take used ++ [byte] := by
  rw [Vector.toList_setIfInBounds, List.take_add_one, List.take_set_of_le (Nat.le_refl used)]
  simp [h]

theorem feedByte_waitingForAddress (hd : d.state = .waitingForAddress) (byte : UInt8)
    (frame : CrsfFrame) : d.Explained byte frame (d.feedByte byte frame) := by
  rw [feedByte, hd]
  dsimp only
  split_ifs with hbyte
  · exact .of_silent (collected_of_waitingForAddress hd) (by simp [candidate, hd])
  · rw [not_not.mp hbyte]
    exact .of_silent (beginFrame_collected d) (by simp [candidate, beginFrame, hd])

theorem feedByte_waitingForLength (h : d.Collected) (hd : d.state = .waitingForLength)
    (byte : UInt8) (frame : CrsfFrame) : d.Explained byte frame (d.feedByte byte frame) := by
  have hcandidate : d.candidate = [0xC8] := by simp [candidate, hd]
  rw [feedByte, hd]
  dsimp only
  split_ifs with hbyte hagain
  · have hlow : 2 ≤ byte.toNat := UInt8.le_iff_toNat_le.mp hbyte.1
    have hhigh : byte.toNat ≤ 62 := UInt8.le_iff_toNat_le.mp hbyte.2
    have htake : (d.buffer.setIfInBounds 1 byte).toList.take 2 = [0xC8, byte] := by
      rw [take_setIfInBounds d.buffer (by decide), h.address hd]
      rfl
    have hsize : UInt8.ofNat (byte.toNat + 2 - 2) = byte := by simp
    refine .of_silent ⟨⟨?_, ?_⟩, ?_, ?_, ?_⟩ ?_
    · intro _
      dsimp only
      omega
    · intro _
      dsimp only
      omega
    · simp
    · intro _
      rw [hsize]
      exact htake
    · intro _
      dsimp only
      omega
    · rw [hcandidate]
      simp only [candidate, htake]
      exact List.suffix_rfl
  · rw [hagain]
    exact .of_silent (beginFrame_collected _) (by simp [candidate, beginFrame, hd])
  · exact .of_silent (reset_collected d) (by simp [candidate, reset])

/-- The decoder with one more byte in its buffer. -/
def collect (d : CrsfFrameDecoder) (byte : UInt8) : CrsfFrameDecoder :=
  { d with buffer := d.buffer.setIfInBounds d.used byte, used := d.used + 1 }

theorem feedByte_of_collecting (hd : d.state = .collecting) (byte : UInt8) (frame : CrsfFrame) :
    d.feedByte byte frame =
      if d.used + 1 < d.expectedSize then (false, frame, d.collect byte)
      else if (d.collect byte).calculatedCrc =
          (d.collect byte).buffer.getD (d.expectedSize - 1) 0 then
        (true, (d.collect byte).localFrame, (d.collect byte).reset)
      else (false, frame, (d.collect byte).reset) := by
  simp only [feedByte, hd, collect]

theorem collect_candidate (hd : d.state = .collecting) (hused : d.used < 64) (byte : UInt8) :
    (d.collect byte).candidate = d.candidate ++ [byte] := by
  simp only [candidate, collect, hd]
  exact take_setIfInBounds d.buffer hused byte

/-- The last byte fills the buffer. -/
theorem collect_full (hd : d.state = .collecting) (hused : d.used < 64)
    (hfull : d.used + 1 = d.expectedSize) (byte : UInt8) :
    (d.collect byte).buffer.toList.take (d.collect byte).expectedSize = d.candidate ++ [byte] := by
  rw [← collect_candidate hd hused byte]
  simp only [candidate, collect, hd, hfull]

theorem collect_header (h : d.Collected) (hd : d.state = .collecting) (byte : UInt8) :
    (d.collect byte).buffer.toList.take 2 = [0xC8, UInt8.ofNat (d.expectedSize - 2)] := by
  rw [collect, Vector.toList_setIfInBounds, List.take_set_of_le (h.wellFormed.used hd).1]
  exact h.header hd

theorem collect_collected (h : d.Collected) (hd : d.state = .collecting)
    (hopen : d.used + 1 < d.expectedSize) (byte : UInt8) : (d.collect byte).Collected where
  wellFormed := by
    have hused := (h.wellFormed.used hd).1
    exact ⟨fun _ => ⟨Nat.le_succ_of_le hused, hopen⟩, fun _ => h.wellFormed.size hd⟩
  address := by simp [collect, hd]
  header := fun _ => collect_header h hd byte
  size := fun _ => h.size hd

theorem feedByte_collecting (h : d.Collected) (hd : d.state = .collecting) (byte : UInt8)
    (frame : CrsfFrame) : d.Explained byte frame (d.feedByte byte frame) := by
  have hmore := (h.wellFormed.used hd).2
  have hsize := h.wellFormed.size hd
  have hfour := h.size hd
  rw [feedByte_of_collecting hd]
  split_ifs with hopen hcrc
  · have hcandidate := collect_candidate hd (by omega) byte
    exact .of_silent (collect_collected h hd hopen byte) ⟨[], hcandidate⟩
  · -- The buffer is full, and its last byte is the checksum of the others.
    have hencode : crsfFrameEncode (d.collect byte).localFrame = d.candidate ++ [byte] := by
      rw [← collect_full hd (by omega) (by omega)]
      exact encode_localFrame (d := d.collect byte) hfour hsize (collect_header h hd byte) hcrc
    refine ⟨reset_collected _, fun hsilent => absurd hsilent.symm Bool.false_ne_true,
      fun _ => ⟨?_, hencode, rfl⟩⟩
    simp only [localFrame, collect]
    omega
  · exact .of_silent (reset_collected _) (by simp [candidate, reset])

theorem feedByte_explained (h : d.Collected) (byte : UInt8) (frame : CrsfFrame) :
    d.Explained byte frame (d.feedByte byte frame) := by
  cases hd : d.state with
  | waitingForAddress => exact feedByte_waitingForAddress hd byte frame
  | waitingForLength => exact feedByte_waitingForLength h hd byte frame
  | collecting => exact feedByte_collecting h hd byte frame

/-- The indices `feed_byte` may use on its buffer. -/
def bufferIndices (d : CrsfFrameDecoder) : List ℕ :=
  match d.state with
  | .waitingForAddress => [0]
  | .waitingForLength => [0, 1]
  | .collecting =>
    d.used ::
      if d.used + 1 < d.expectedSize then []
      else
        List.range' 2 (d.expectedSize - 3) ++ [d.expectedSize - 1, 2] ++
          List.range' 3 (d.expectedSize - 4)

theorem bufferIndices_lt (h : d.Collected) {i : ℕ} (hi : i ∈ d.bufferIndices) : i < 64 := by
  rw [bufferIndices] at hi
  cases hd : d.state with
  | waitingForAddress =>
    simp only [hd, List.mem_singleton] at hi
    omega
  | waitingForLength =>
    simp only [hd, List.mem_cons, List.not_mem_nil, or_false] at hi
    omega
  | collecting =>
    have hused := h.wellFormed.used hd
    have hsize := h.wellFormed.size hd
    have hfour := h.size hd
    simp only [hd, List.mem_cons] at hi
    split_ifs at hi with hopen
    · simp only [List.not_mem_nil, or_false] at hi
      omega
    · simp only [List.mem_append, List.mem_range'_1, List.mem_cons, List.not_mem_nil,
        or_false] at hi
      omega

/-- The calls of the two public functions. -/
inductive Call where
  | feedByte (byte : UInt8) (frame : CrsfFrame)
  | reset

def call (d : CrsfFrameDecoder) : Call → CrsfFrameDecoder
  | .feedByte byte frame => (d.feedByte byte frame).2.2
  | .reset => d.reset

/-- A decoder after some calls. -/
def calls (d : CrsfFrameDecoder) (cs : List Call) : CrsfFrameDecoder := cs.foldl call d

/-- The bytes fed since the latest reset, with `fed` before the calls. -/
def fedSinceReset (fed : List UInt8) : List Call → List UInt8
  | [] => fed
  | .feedByte byte _ :: cs => fedSinceReset (fed ++ [byte]) cs
  | .reset :: cs => fedSinceReset [] cs

theorem calls_collected (h : d.Collected) (cs : List Call) : (d.calls cs).Collected := by
  induction cs generalizing d with
  | nil => exact h
  | cons c cs ih =>
    cases c with
    | feedByte byte frame => exact ih (feedByte_explained h byte frame).collected
    | reset => exact ih (reset_collected d)

theorem Explained.candidate_suffix {byte : UInt8} {frame : CrsfFrame}
    {result : Bool × CrsfFrame × CrsfFrameDecoder} (h : d.Explained byte frame result) :
    result.2.2.candidate <:+ d.candidate ++ [byte] := by
  cases hr : result.1 with
  | false => exact (h.silent hr).2
  | true =>
    rw [(h.reported hr).2.2]
    exact List.nil_suffix

/-- The present frame is the end of what was fed. -/
theorem candidate_calls (h : d.Collected) {fed : List UInt8} (hfed : d.candidate <:+ fed)
    (cs : List Call) : (d.calls cs).candidate <:+ fedSinceReset fed cs := by
  induction cs generalizing d fed with
  | nil => exact hfed
  | cons c cs ih =>
    cases c with
    | feedByte byte frame =>
      have hstep := feedByte_explained h byte frame
      refine ih hstep.collected (hstep.candidate_suffix.trans ?_)
      exact List.suffix_append_self_iff.mpr hfed
    | reset => exact ih (reset_collected d) List.nil_suffix

/-- Whatever is fed and whenever the decoder is reset: a frame that is reported is, byte
for byte, what was fed last, otherwise the caller keeps its frame, and the sizes taken
from the wire stay inside the two buffers. -/
theorem reports_only_what_was_fed (cs : List Call) (byte : UInt8) (frame : CrsfFrame) :
    (((calls {} cs).feedByte byte frame).1 = true →
      ((calls {} cs).feedByte byte frame).2.1.payloadLength ≤ 60 ∧
      (crsfFrameEncode ((calls {} cs).feedByte byte frame).2.1).length =
        ((calls {} cs).feedByte byte frame).2.1.payloadLength + 4 ∧
      crsfFrameEncode ((calls {} cs).feedByte byte frame).2.1 <:+ fedSinceReset [] cs ++ [byte]) ∧
    (((calls {} cs).feedByte byte frame).1 = false →
      ((calls {} cs).feedByte byte frame).2.1 = frame) ∧
    ((calls {} cs).state = .collecting →
      (calls {} cs).used < (calls {} cs).expectedSize ∧ (calls {} cs).expectedSize ≤ 64 ∧
      4 ≤ (calls {} cs).expectedSize ∧ (calls {} cs).expectedSize - 4 ≤ 60) ∧
    ∀ i ∈ (calls {} cs).bufferIndices, i < 64 := by
  have hinit : Collected {} := collected_of_waitingForAddress rfl
  have hcollected := calls_collected hinit cs
  have hsuffix : (calls {} cs).candidate <:+ fedSinceReset [] cs :=
    candidate_calls hinit List.nil_suffix cs
  have hstep := feedByte_explained hcollected byte frame
  refine ⟨fun hreport => ?_, fun hsilent => (hstep.silent hsilent).1, fun hd => ?_,
    fun i hi => bufferIndices_lt hcollected hi⟩
  · obtain ⟨hlength, hencode, -⟩ := hstep.reported hreport
    refine ⟨hlength, crsfFrameEncode_length hlength, ?_⟩
    rw [hencode]
    exact List.suffix_append_self_iff.mpr hsuffix
  · have hused := hcollected.wellFormed.used hd
    have hsize := hcollected.wellFormed.size hd
    have hfour := hcollected.size hd
    omega

/-- The answers to some bytes, and the caller's frame and the decoder after them. -/
def feedBytes (d : CrsfFrameDecoder) (frame : CrsfFrame) :
    List UInt8 → List (Option CrsfFrame) × CrsfFrame × CrsfFrameDecoder
  | [] => ([], frame, d)
  | byte :: rest =>
    let result := d.feedByte byte frame
    let later := result.2.2.feedBytes result.2.1 rest
    ((if result.1 then some result.2.1 else none) :: later.1, later.2)

theorem feedBytes_cons (d : CrsfFrameDecoder) (frame : CrsfFrame) (byte : UInt8)
    (rest : List UInt8) :
    d.feedBytes frame (byte :: rest) =
      ((if (d.feedByte byte frame).1 then some (d.feedByte byte frame).2.1 else none) ::
        ((d.feedByte byte frame).2.2.feedBytes (d.feedByte byte frame).2.1 rest).1,
        ((d.feedByte byte frame).2.2.feedBytes (d.feedByte byte frame).2.1 rest).2) :=
  rfl

theorem feedBytes_append (d : CrsfFrameDecoder) (frame : CrsfFrame) (first second : List UInt8) :
    d.feedBytes frame (first ++ second) =
      ((d.feedBytes frame first).1 ++
        ((d.feedBytes frame first).2.2.feedBytes (d.feedBytes frame first).2.1 second).1,
        ((d.feedBytes frame first).2.2.feedBytes (d.feedBytes frame first).2.1 second).2) := by
  induction first generalizing d frame with
  | nil => rfl
  | cons byte first ih => rw [List.cons_append, feedBytes_cons, ih, feedBytes_cons, List.cons_append]

theorem feedBytes_collected (h : d.Collected) (frame : CrsfFrame) (bytes : List UInt8) :
    (d.feedBytes frame bytes).2.2.Collected := by
  induction bytes generalizing d frame with
  | nil => exact h
  | cons byte rest ih => exact ih (feedByte_explained h byte frame).collected _

/-- How many bytes other than the address it may take to be back at the search for it. -/
def remaining (d : CrsfFrameDecoder) : ℕ :=
  match d.state with
  | .waitingForAddress => 0
  | .waitingForLength => 63
  | .collecting => d.expectedSize - d.used

theorem remaining_le (h : d.Collected) : d.remaining ≤ 63 := by
  rw [remaining]
  cases hd : d.state with
  | waitingForAddress => exact Nat.zero_le 63
  | waitingForLength => exact Nat.le_refl 63
  | collecting =>
    have hused := h.wellFormed.used hd
    have hsize := h.wellFormed.size hd
    dsimp only
    omega

theorem waitingForAddress_of_remaining (h : d.Collected) (hzero : d.remaining = 0) :
    d.state = .waitingForAddress := by
  rw [remaining] at hzero
  cases hd : d.state with
  | waitingForAddress => rfl
  | waitingForLength => simp [hd] at hzero
  | collecting =>
    have hused := h.wellFormed.used hd
    simp only [hd] at hzero
    omega

theorem feedByte_remaining {byte : UInt8} (hbyte : byte ≠ 0xC8) (frame : CrsfFrame) :
    (d.feedByte byte frame).2.2.remaining ≤ d.remaining - 1 := by
  cases hd : d.state with
  | waitingForAddress => simp [feedByte, hd, hbyte, remaining]
  | waitingForLength =>
    rw [feedByte, hd]
    dsimp only
    split_ifs with hlength
    · have hhigh : byte.toNat ≤ 62 := UInt8.le_iff_toNat_le.mp hlength.2
      simp only [remaining, hd]
      omega
    · simp [remaining, reset]
  | collecting =>
    rw [feedByte_of_collecting hd]
    split_ifs with hopen hcrc
    · simp only [remaining, collect, hd]
      omega
    · simp [remaining, reset]
    · simp [remaining, reset]

/-- Bytes other than the address run a frame down, whatever it announced. -/
theorem feedBytes_remaining (frame : CrsfFrame) {idle : List UInt8}
    (hidle : ∀ byte ∈ idle, byte ≠ 0xC8) :
    (d.feedBytes frame idle).2.2.remaining ≤ d.remaining - idle.length := by
  induction idle generalizing d frame with
  | nil => exact Nat.le_refl _
  | cons byte idle ih =>
    have hstep := feedByte_remaining (d := d) (hidle byte (by simp)) frame
    have hrest := ih (d := (d.feedByte byte frame).2.2) (d.feedByte byte frame).2.1
      (fun b hb => hidle b (by simp [hb]))
    rw [feedBytes_cons]
    refine Nat.le_trans hrest ?_
    rw [List.length_cons]
    omega

/-- From every state, 63 such bytes lead back to the search for the address. -/
theorem feedBytes_idle (h : d.Collected) (frame : CrsfFrame) {idle : List UInt8}
    (hidle : ∀ byte ∈ idle, byte ≠ 0xC8)
    (hsync : 63 ≤ idle.length ∨ d.state = .waitingForAddress) :
    (d.feedBytes frame idle).2.2.state = .waitingForAddress := by
  apply waitingForAddress_of_remaining (feedBytes_collected h frame idle)
  have hrun := feedBytes_remaining (d := d) frame hidle
  rcases hsync with hlong | hd
  · have hremaining := remaining_le h
    omega
  · have hremaining : d.remaining = 0 := by simp [remaining, hd]
    omega

/-- A buffer that holds an encoding has its fields in their places. -/
theorem sameContent_localFrame {f : CrsfFrame} (h : 4 ≤ d.expectedSize)
    (hsize : d.expectedSize ≤ 64) (hf : f.payloadLength ≤ 60)
    (hencode : d.buffer.toList.take d.expectedSize = crsfFrameEncode f) :
    f.SameContent d.localFrame ∧
      d.calculatedCrc = d.buffer.getD (d.expectedSize - 1) 0 := by
  have hlength : d.expectedSize = f.payloadLength + 4 := by
    have hlengths := congrArg List.length hencode
    rw [crsfFrameEncode_length hf, List.length_take, Vector.length_toList] at hlengths
    omega
  rw [take_expectedSize h (by simpa using hsize), crsfFrameEncode] at hencode
  obtain ⟨-, hfields⟩ := List.append_inj hencode (by simp)
  obtain ⟨htype, htail⟩ := List.cons.inj hfields
  obtain ⟨hcontent, hcrc⟩ := List.append_inj' htail rfl
  have hsame : f.SameContent d.localFrame := by
    refine ⟨?_, ?_, ?_⟩
    · rw [← htype]
      simp [localFrame, List.getD]
    · simp only [localFrame]
      omega
    · rw [content_localFrame hsize, hcontent]
  refine ⟨hsame, ?_⟩
  rw [calculatedCrc_eq h hsize, hsame.type, hsame.content, ← lastByte_eq h hsize]
  exact (List.cons.inj hcrc).1.symm

/-- The last byte of an encoding whose other bytes are in the buffer. -/
theorem feedByte_last {f : CrsfFrame} (hf : f.payloadLength ≤ 60) (h : d.Collected)
    (hd : d.state = .collecting) (frame : CrsfFrame) {byte : UInt8}
    (hfull : d.used + 1 = d.expectedSize) (hencode : d.candidate ++ [byte] = crsfFrameEncode f) :
    f.SameContent (d.collect byte).localFrame ∧
      d.feedByte byte frame = (true, (d.collect byte).localFrame, (d.collect byte).reset) := by
  have hsize := h.wellFormed.size hd
  have htake := (collect_full hd (by omega) hfull byte).trans hencode
  obtain ⟨hsame, hcrc⟩ := sameContent_localFrame (d := d.collect byte) (h.size hd) hsize hf htake
  refine ⟨hsame, ?_⟩
  rw [feedByte_of_collecting hd, if_neg (Nat.not_lt.mpr (Nat.le_of_eq hfull.symm))]
  exact if_pos hcrc

/-- The rest of an encoding whose first bytes are in the buffer. -/
theorem feedBytes_collecting {f : CrsfFrame} (hf : f.payloadLength ≤ 60) (h : d.Collected)
    (hd : d.state = .collecting) (frame : CrsfFrame) (bytes : List UInt8)
    (hlength : d.used + bytes.length = d.expectedSize)
    (hencode : d.candidate ++ bytes = crsfFrameEncode f) :
    ∃ reported, f.SameContent reported ∧
      (d.feedBytes frame bytes).1 = List.replicate (bytes.length - 1) none ++ [some reported] ∧
      (d.feedBytes frame bytes).2.2.state = .waitingForAddress := by
  -- The bytes still to come are counted by the decoder, so the last one finds the buffer full.
  induction bytes generalizing d with
  | nil =>
    have hused := h.wellFormed.used hd
    simp only [List.length_nil] at hlength
    omega
  | cons byte rest ih =>
    have hused := h.wellFormed.used hd
    have hsize := h.wellFormed.size hd
    rw [List.length_cons] at hlength
    cases rest with
    | nil =>
      obtain ⟨hsame, hstep⟩ := feedByte_last hf h hd frame hlength hencode
      rw [feedBytes_cons, hstep]
      exact ⟨_, hsame, rfl, rfl⟩
    | cons next rest =>
      have hopen : d.used + 1 < d.expectedSize := by
        rw [List.length_cons] at hlength
        omega
      obtain ⟨reported, hsame, hanswers, hstate⟩ := ih (collect_collected h hd hopen byte) hd
        (by simp only [collect]; omega)
        (by rw [collect_candidate hd (by omega), ← hencode, List.append_assoc]; rfl)
      rw [feedBytes_cons, feedByte_of_collecting hd, if_pos hopen]
      refine ⟨reported, hsame, ?_, hstate⟩
      dsimp only
      rw [hanswers]
      rfl

/-- The decoder once an address and the length of `f` have been read. -/
def headerRead (d : CrsfFrameDecoder) (f : CrsfFrame) : CrsfFrameDecoder :=
  { d.beginFrame 0xC8 with
    buffer := (d.beginFrame 0xC8).buffer.setIfInBounds 1 (UInt8.ofNat (f.payloadLength + 2))
    used := 2
    expectedSize := f.payloadLength + 4
    state := .collecting }

theorem feedBytes_header (hd : d.state = .waitingForAddress) (frame : CrsfFrame) {f : CrsfFrame}
    (hf : f.payloadLength ≤ 60) :
    d.feedBytes frame [0xC8, UInt8.ofNat (f.payloadLength + 2)] =
      ([none, none], frame, d.headerRead f) := by
  have hlength : (UInt8.ofNat (f.payloadLength + 2)).toNat = f.payloadLength + 2 := by
    rw [UInt8.toNat_ofNat']
    omega
  have hbyte : 2 ≤ UInt8.ofNat (f.payloadLength + 2) ∧ UInt8.ofNat (f.payloadLength + 2) ≤ 62 := by
    rw [UInt8.le_iff_toNat_le, UInt8.le_iff_toNat_le, hlength]
    exact ⟨Nat.le_add_left 2 f.payloadLength, Nat.add_le_add_right hf 2⟩
  have haddress : d.feedByte 0xC8 frame = (false, frame, d.beginFrame 0xC8) := by
    simp [feedByte, hd]
  have hread : (d.beginFrame 0xC8).feedByte (UInt8.ofNat (f.payloadLength + 2)) frame =
      (false, frame, d.headerRead f) := by
    rw [feedByte, show (d.beginFrame 0xC8).state = .waitingForLength from rfl]
    dsimp only
    rw [if_pos hbyte, hlength]
    rfl
  rw [feedBytes_cons, haddress, feedBytes_cons, hread]
  rfl

/-- One encoding, from the search for the address. -/
theorem feedBytes_encode (hd : d.state = .waitingForAddress) (frame : CrsfFrame) {f : CrsfFrame}
    (hf : f.payloadLength ≤ 60) :
    ∃ reported, f.SameContent reported ∧
      (d.feedBytes frame (crsfFrameEncode f)).1 =
        List.replicate ((crsfFrameEncode f).length - 1) none ++ [some reported] ∧
      (d.feedBytes frame (crsfFrameEncode f)).2.2.state = .waitingForAddress := by
  have hheader := feedBytes_header hd frame hf
  have hcollected : (d.headerRead f).Collected := by
    have hread := feedBytes_collected (collected_of_waitingForAddress hd) frame
      [0xC8, UInt8.ofNat (f.payloadLength + 2)]
    rwa [hheader] at hread
  have hcandidate : (d.headerRead f).candidate = [0xC8, UInt8.ofNat (f.payloadLength + 2)] :=
    hcollected.header rfl
  obtain ⟨reported, hsame, hanswers, hstate⟩ := feedBytes_collecting hf hcollected rfl frame
    (f.type :: (f.content ++ [crsfCrc8 (f.type :: f.content)]))
    (by simp [headerRead, CrsfFrame.content_length hf]; omega) (by rw [hcandidate, crsfFrameEncode])
  rw [crsfFrameEncode, feedBytes_append, hheader]
  refine ⟨reported, hsame, ?_, hstate⟩
  dsimp only
  rw [hanswers]
  simp [List.replicate_succ]

/-- Encodings one after the other, from the search for the address. -/
theorem feedBytes_encodings (hd : d.state = .waitingForAddress) (frame : CrsfFrame)
    {frames : List CrsfFrame} (hframes : ∀ f ∈ frames, f.payloadLength ≤ 60) :
    ∃ reported, List.Forall₂ CrsfFrame.SameContent frames reported ∧
      (d.feedBytes frame (frames.flatMap crsfFrameEncode)).1 =
        (List.zipWith (fun f r => List.replicate ((crsfFrameEncode f).length - 1) none ++
          [some r]) frames reported).flatten := by
  induction frames generalizing d frame with
  | nil => exact ⟨[], .nil, rfl⟩
  | cons f frames ih =>
    obtain ⟨r, hr, hanswers, hstate⟩ := feedBytes_encode hd frame (hframes f (by simp))
    obtain ⟨reported, hall, hrest⟩ := ih hstate (d.feedBytes frame (crsfFrameEncode f)).2.1
      (fun g hg => hframes g (by simp [hg]))
    refine ⟨r :: reported, .cons hr hall, ?_⟩
    simp only [List.flatMap_cons, feedBytes_append, List.zipWith_cons_cons, List.flatten_cons]
    rw [hanswers, hrest]

/-- Whatever the decoder went through before: once 63 bytes other than the address have
passed, or at once in the search for it, encodings are reported one by one, each at its
last byte. -/
theorem recovers_and_reports (cs : List Call) (idle : List UInt8)
    (hidle : ∀ byte ∈ idle, byte ≠ 0xC8)
    (hsync : 63 ≤ idle.length ∨ (calls {} cs).state = .waitingForAddress)
    (frames : List CrsfFrame) (hframes : ∀ f ∈ frames, f.payloadLength ≤ 60)
    (frame frame' : CrsfFrame) :
    ∃ reported, List.Forall₂ CrsfFrame.SameContent frames reported ∧
      (((calls {} cs).feedBytes frame idle).2.2.feedBytes frame'
          (frames.flatMap crsfFrameEncode)).1 =
        (List.zipWith (fun f r => List.replicate ((crsfFrameEncode f).length - 1) none ++
          [some r]) frames reported).flatten :=
  have hcollected : (calls {} cs).Collected :=
    calls_collected (collected_of_waitingForAddress rfl) cs
  feedBytes_encodings (feedBytes_idle hcollected frame hidle hsync) frame' hframes

/-- A header that announces 64 bytes, and then nothing but zeros before two frames. -/
theorem recovers_and_reports_longest :
    (calls {} [.feedByte 0xC8 {}, .feedByte 62 {}]).state = .collecting ∧
      ∃ reported, List.Forall₂ CrsfFrame.SameContent
          [{ type := 0x16, payloadLength := 60 }, { type := 0xC8 }] reported ∧
        (((calls {} [.feedByte 0xC8 {}, .feedByte 62 {}]).feedBytes {}
            (List.replicate 63 0)).2.2.feedBytes {}
            (List.flatMap crsfFrameEncode
              [{ type := 0x16, payloadLength := 60 }, { type := 0xC8 }])).1 =
          (List.zipWith (fun f r => List.replicate ((crsfFrameEncode f).length - 1) none ++
            [some r]) [{ type := 0x16, payloadLength := 60 }, { type := 0xC8 }] reported).flatten :=
  ⟨rfl, recovers_and_reports _ (List.replicate 63 0)
    (fun byte hbyte => by rw [List.eq_of_mem_replicate hbyte]; decide) (.inl (by decide)) _
    (by simp) {} {}⟩

end CrsfFrameDecoder

end IndoorRobot
