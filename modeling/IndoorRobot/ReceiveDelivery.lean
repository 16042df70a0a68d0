import IndoorRobot.DecoderResynchronization
import IndoorRobot.ReceivePath

/-!
# What a main loop that keeps up receives

If no event finds more than 256 bytes that the polls have not taken, the queue refuses
none. Then the polls return what the decoder reports on the received bytes, in this
order and nothing else, and once the events stop they come to an end of it.
-/
namespace IndoorRobot

/-- No reset is under way and none is reported. -/
def PollPoint.undisturbed : PollPoint → Bool
  | .resetLatch | .resetRead | .resetRelease | .resetDecoder | .returning .overflow
  | .returning .invalidArgument => false
  | _ => true

/-- How many bytes the next step takes from the queue. -/
def PollPoint.pops : PollPoint → ℕ
  | .popAdvance _ => 1
  | _ => 0

/-- The steps to the end of a poll that finds the queue empty. -/
def PollPoint.toEnd : PollPoint → ℕ
  | .returning _ => 1
  | .frameCheck _ | .finalCheck => 2
  | .popEmpty => 3
  | .popOverflowed => 4
  | .entryCheck | .feed _ => 5
  | _ => 0

/-- A bound on the steps before a byte is taken, if one waits. -/
def PollPoint.toPop : PollPoint → ℕ
  | .popRead => 1
  | .popEmpty => 2
  | .popOverflowed => 3
  | .entryCheck => 4
  | .idle => 5
  | .returning _ => 6
  | .frameCheck _ | .finalCheck => 7
  | .feed _ => 8
  | _ => 0

theorem UartRxQueue.push_of_room {q : UartRxQueue} {bytes : List UInt8} (h : q.Holds bytes)
    (hclear : q.overflowed = false) (hroom : bytes.length < 256) (byte : UInt8) :
    (q.push byte).1 = true ∧ (q.push byte).2.overflowed = false := by
  have hfits : ¬ q.writeCount - q.readCount ≥ 256 := by
    simpa [UInt32.le_iff_toNat_le, used_toNat h] using hroom
  simp [push, hclear, hfits]

namespace ReceiverRun

/-- The frames the polls have returned. -/
def frames (r : ReceiverRun) : List ProtocolFrame := r.returns.filterMap (·.result.frame?)

/-- The decoder has read the bytes offered so far, and all it has reported was returned, or is
about to be. -/
structure Exact (r : ReceiverRun) : Prop where
  clear : r.receiver.queue.overflowed = false
  undisturbed : r.receiver.point.undisturbed = true
  decoder : r.receiver.decoder =
    (ProtocolFrameDecoder.init.feedBytes (r.offered.take r.position)).2
  frames : r.frames ++ r.receiver.point.carried.toList =
    (ProtocolFrameDecoder.init.feedBytes (r.offered.take r.position)).1.filterMap id
  results : ∀ ret ∈ r.returns, ret.result ≠ .overflow ∧ ret.result ≠ .invalidArgument

theorem init_exact : Exact {} where
  clear := rfl
  undisturbed := rfl
  decoder := rfl
  frames := rfl
  results := by simp

/-- How many bytes the polls have taken. -/
def taken (r : ReceiverRun) : ℕ := r.position + r.receiver.point.hand.length

/-- The bytes in the queue are those offered and not yet taken. -/
theorem Exact.queued {r : ReceiverRun} (h : r.Exact) (ht : r.Tracked) :
    ∃ queued, r.receiver.queue.Holds queued ∧ r.receiver.point.Fits queued ∧
      r.taken + queued.length = r.offered.length := by
  obtain ⟨queued, hholds, hfits, -, hall⟩ := ht.queue.contents
  have hlength := congrArg List.length (hall h.clear)
  have hposition := ht.queue.position
  rw [List.length_append, List.length_drop] at hlength
  exact ⟨queued, hholds, hfits, by rw [taken]; omega⟩

theorem push_exact {r : ReceiverRun} (h : r.Exact) (ht : r.Tracked) (byte : UInt8)
    (hroom : r.offered.length < r.taken + 256) :
    (r.push byte).Exact ∧ (r.push byte).taken = r.taken := by
  obtain ⟨queued, hholds, -, hcount⟩ := h.queued ht
  obtain ⟨haccepted, hclear⟩ := UartRxQueue.push_of_room hholds h.clear (by omega) byte
  have hread : (r.offered ++ [byte]).take r.position = r.offered.take r.position :=
    List.take_append_of_le_length ht.queue.position
  rw [push_accepted haccepted]
  refine ⟨⟨hclear, h.undisturbed, ?_, ?_, h.results⟩, rfl⟩
  · rw [hread]
    exact h.decoder
  · rw [hread]
    exact h.frames

/-- Bytes for which there is room are all taken in. -/
theorem pushes_exact {r : ReceiverRun} (h : r.Exact) (ht : r.Tracked) (bytes : List UInt8)
    (hroom : r.offered.length + bytes.length ≤ r.taken + 256) :
    (r.moves (bytes.map .push)).Exact ∧ (r.moves (bytes.map .push)).taken = r.taken := by
  induction bytes generalizing r with
  | nil => exact ⟨h, rfl⟩
  | cons byte rest ih =>
    rw [List.length_cons] at hroom
    obtain ⟨hexact, htaken⟩ := push_exact h ht byte (by omega)
    have hoffered : (r.push byte).offered.length = r.offered.length + 1 := by
      simp [(push_frame (r := r) byte).2.2.2.2.2]
    obtain ⟨hrest, hsame⟩ := ih hexact (push_tracked ht byte) (by omega)
    exact ⟨hrest, hsame.trans htaken⟩

/-- A step that only moves on. -/
theorem goto_exact {r : ReceiverRun} (h : r.Exact) (point : PollPoint)
    (hstep : r.advance = { r with receiver := { r.receiver with point := point } })
    (hundisturbed : point.undisturbed = true)
    (hcarried : point.carried = r.receiver.point.carried)
    (hhand : point.hand = r.receiver.point.hand) : r.advance.Exact ∧ r.advance.taken = r.taken := by
  rw [hstep]
  refine ⟨⟨h.clear, hundisturbed, h.decoder, ?_, h.results⟩, ?_⟩
  · rw [hcarried]
    exact h.frames
  · rw [taken, taken, hhand]

/-- The decoder reads the byte in hand. -/
theorem feed_exact {r : ReceiverRun} (h : r.Exact) (ht : r.Tracked) (byte : UInt8)
    (hp : r.receiver.point = .feed byte) : r.advance.Exact := by
  obtain ⟨queued, -, -, hnext, -⟩ := ht.queue.contents
  rw [hp] at hnext
  obtain ⟨htake, -, -⟩ := take_succ_of_hand hnext
  have hfed := ProtocolFrameDecoder.init.feedBytes_append (r.offered.take r.position) [byte]
  rw [← htake, ← h.decoder] at hfed
  have hframes : r.frames = (ProtocolFrameDecoder.init.feedBytes
      (r.offered.take r.position)).1.filterMap id := by
    rw [← h.frames, hp]
    exact (List.append_nil _).symm
  have hstep : r.advance = { r with
      receiver := { r.receiver with
        decoder := (r.receiver.decoder.feedByte byte).2
        point := (r.receiver.decoder.feedByte byte).1.elim .popOverflowed .frameCheck }
      position := r.position + 1 } := by
    simp [advance, UartProtocolReceiver.advance, hp]
  rw [hstep]
  cases hf : (r.receiver.decoder.feedByte byte).1 with
  | none =>
    refine ⟨h.clear, rfl, ?_, ?_, h.results⟩
    · simp [hfed]
    · change r.frames ++ [] = _
      simp [hfed, hf, hframes]
  | some f =>
    refine ⟨h.clear, rfl, ?_, ?_, h.results⟩
    · simp [hfed]
    · change r.frames ++ [f] = _
      simp [hfed, hf, hframes]

/-- A poll returns: what it carried is now among the returned. -/
theorem returning_exact {r : ReceiverRun} (h : r.Exact) (result : UartProtocolReceiverResult)
    (hp : r.receiver.point = .returning result) : r.advance.Exact := by
  have hundisturbed := h.undisturbed
  have hframes := h.frames
  rw [hp] at hundisturbed hframes
  have hreturns : r.advance.returns = r.returns ++ [⟨result, r.position, r.offered.length⟩] := by
    simp only [advance, hp]
  have hcarried : (PollPoint.returning result).carried = result.frame? := by
    cases result <;> rfl
  have hreceiver : r.advance.receiver = { r.receiver with point := .idle } := by
    simp only [advance, UartProtocolReceiver.advance, hp]
  have hplace : r.advance.position = r.position ∧ r.advance.offered = r.offered := by
    simp only [advance, hp, and_self]
  have hresult : result ≠ .overflow ∧ result ≠ .invalidArgument := by
    cases result <;> simp_all [PollPoint.undisturbed]
  constructor
  · rw [hreceiver]
    exact h.clear
  · rw [hreceiver]
    rfl
  · rw [hreceiver, hplace.1, hplace.2]
    exact h.decoder
  · rw [hreceiver, hplace.1, hplace.2, ← hframes, hcarried, ReceiverRun.frames, hreturns]
    cases result <;> simp [PollPoint.carried, UartProtocolReceiverResult.frame?, ReceiverRun.frames]
  · intro ret hret
    rw [hreturns] at hret
    rcases List.mem_append.mp hret with hret | hret
    · exact h.results ret hret
    · rw [List.mem_singleton.mp hret]
      exact hresult

/-- A step of the main loop, and how many bytes the polls have taken after it. -/
theorem advance_exact {r : ReceiverRun} (h : r.Exact) (ht : r.Tracked) :
    r.advance.Exact ∧ r.advance.taken = r.taken + r.receiver.point.pops := by
  have hundisturbed := h.undisturbed
  cases hp : r.receiver.point with
  | idle =>
    refine goto_exact h .entryCheck ?_ rfl (by rw [hp]; rfl) (by rw [hp]; rfl)
    simp [advance, UartProtocolReceiver.advance, hp]
  | entryCheck =>
    refine goto_exact h .popOverflowed ?_ rfl (by rw [hp]; rfl) (by rw [hp]; rfl)
    simp [advance, UartProtocolReceiver.advance, UartProtocolReceiver.handleOverflow, hp, h.clear]
  | popOverflowed =>
    refine goto_exact h .popEmpty ?_ rfl (by rw [hp]; rfl) (by rw [hp]; rfl)
    simp [advance, UartProtocolReceiver.advance, hp, h.clear]
  | popEmpty =>
    by_cases hempty : r.receiver.queue.readCount = r.receiver.queue.writeCount
    · refine goto_exact h .finalCheck ?_ rfl (by rw [hp]; rfl) (by rw [hp]; rfl)
      simp [advance, UartProtocolReceiver.advance, hp, hempty]
    · refine goto_exact h .popRead ?_ rfl (by rw [hp]; rfl) (by rw [hp]; rfl)
      simp [advance, UartProtocolReceiver.advance, hp, hempty]
  | popRead =>
    refine goto_exact h
      (.popAdvance (r.receiver.queue.data (UartRxQueue.slot r.receiver.queue.readCount))) ?_ rfl
      (by rw [hp]; rfl) (by rw [hp]; rfl)
    simp [advance, UartProtocolReceiver.advance, hp]
  | popAdvance byte =>
    have hstep : r.advance = { r with receiver := { r.receiver with
        queue := { r.receiver.queue with readCount := r.receiver.queue.readCount + 1 }
        point := .feed byte } } := by
      simp [advance, UartProtocolReceiver.advance, hp]
    have hframes := h.frames
    rw [hp] at hframes
    rw [hstep]
    exact ⟨⟨h.clear, rfl, h.decoder, hframes, h.results⟩, by rw [taken, taken, hp]; rfl⟩
  | feed byte =>
    refine ⟨feed_exact h ht byte hp, ?_⟩
    have hposition : r.advance.position = r.position + 1 := by simp only [advance, hp]
    have hhand : r.advance.receiver.point.hand = [] := by
      simp only [advance, UartProtocolReceiver.advance, hp]
      cases (r.receiver.decoder.feedByte byte).1 <;> rfl
    rw [taken, taken, hposition, hhand, hp]
    rfl
  | frameCheck f =>
    refine goto_exact h (.returning (.frame f)) ?_ rfl (by rw [hp]; rfl) (by rw [hp]; rfl)
    simp [advance, UartProtocolReceiver.advance, UartProtocolReceiver.handleOverflow, hp, h.clear]
  | finalCheck =>
    refine goto_exact h (.returning .none) ?_ rfl (by rw [hp]; rfl) (by rw [hp]; rfl)
    simp [advance, UartProtocolReceiver.advance, UartProtocolReceiver.handleOverflow, hp, h.clear]
  | returning result =>
    refine ⟨returning_exact h result hp, ?_⟩
    have hposition : r.advance.position = r.position := by simp only [advance, hp]
    have hpoint : r.advance.receiver.point = .idle := by
      simp only [advance, UartProtocolReceiver.advance, hp]
    rw [taken, taken, hposition, hpoint, hp]
    rfl
  | resetLatch => simp [hp, PollPoint.undisturbed] at hundisturbed
  | resetRead => simp [hp, PollPoint.undisturbed] at hundisturbed
  | resetRelease => simp [hp, PollPoint.undisturbed] at hundisturbed
  | resetDecoder => simp [hp, PollPoint.undisturbed] at hundisturbed

/-! ### The way to an empty queue -/

def waiting (r : ReceiverRun) : ℕ := r.offered.length - r.taken

/-- A bound on the steps until a poll has ended with the queue empty. -/
def remaining (r : ReceiverRun) : ℕ :=
  if r.waiting = 0 then r.receiver.point.toEnd else 9 * r.waiting + r.receiver.point.toPop

theorem remaining_le (r : ReceiverRun) : r.remaining ≤ 9 * r.waiting + 8 := by
  have hend : r.receiver.point.toEnd ≤ 5 := by cases r.receiver.point <;> simp [PollPoint.toEnd]
  have hpop : r.receiver.point.toPop ≤ 8 := by cases r.receiver.point <;> simp [PollPoint.toPop]
  rw [remaining]
  split_ifs <;> omega

theorem advance_offered (r : ReceiverRun) : r.advance.offered = r.offered := by
  rw [advance]
  cases r.receiver.point <;> rfl

/-- A step that takes nothing comes nearer to the end and to the next byte. -/
theorem remaining_lt_of_goto {r : ReceiverRun} (htaken : r.advance.taken = r.taken)
    (hend : r.waiting = 0 → r.advance.receiver.point.toEnd < r.receiver.point.toEnd)
    (hpop : r.waiting ≠ 0 → r.advance.receiver.point.toPop < r.receiver.point.toPop) :
    r.advance.remaining < r.remaining := by
  have hwaiting : r.advance.waiting = r.waiting := by
    rw [waiting, waiting, htaken, advance_offered]
  rw [remaining, remaining, hwaiting]
  split_ifs with hzero
  · exact hend hzero
  · exact Nat.add_lt_add_left (hpop hzero) _

theorem remaining_lt_of_next {r : ReceiverRun} {point next : PollPoint}
    (hp : r.receiver.point = point) (hnext : r.advance.receiver.point = next)
    (htaken : r.advance.taken = r.taken) (hend : point.toEnd = next.toEnd + 1)
    (hpop : point.toPop = next.toPop + 1) : r.advance.remaining < r.remaining := by
  refine remaining_lt_of_goto htaken (fun _ => ?_) fun _ => ?_
  · rw [hp, hnext, hend]
    exact Nat.lt_succ_self _
  · rw [hp, hnext, hpop]
    exact Nat.lt_succ_self _

theorem Exact.empty_iff {r : ReceiverRun} (h : r.Exact) (ht : r.Tracked) :
    r.receiver.queue.readCount = r.receiver.queue.writeCount ↔ r.waiting = 0 := by
  obtain ⟨queued, hholds, -, hcount⟩ := h.queued ht
  rw [UartRxQueue.empty_iff hholds, waiting, ← hcount, Nat.add_sub_cancel_left,
    List.length_eq_zero_iff]

/-- A byte is at hand once the queue was seen to hold one. -/
theorem Exact.waiting_pos {r : ReceiverRun} (h : r.Exact) (ht : r.Tracked)
    (hp : r.receiver.point = .popRead ∨ ∃ byte, r.receiver.point = .popAdvance byte) :
    0 < r.waiting := by
  obtain ⟨queued, -, hfits, hcount⟩ := h.queued ht
  have hqueued : queued ≠ [] := by
    obtain hp | ⟨byte, hp⟩ := hp
    · rw [hp] at hfits
      exact hfits
    · rw [hp] at hfits
      intro hnil
      rw [hnil] at hfits
      cases hfits
  have hlength := List.length_pos_iff.mpr hqueued
  rw [waiting]
  omega

theorem advance_remaining {r : ReceiverRun} (h : r.Exact) (ht : r.Tracked)
    (hwork : r.receiver.point ≠ .idle ∨ r.waiting ≠ 0) : r.advance.remaining < r.remaining := by
  have hundisturbed := h.undisturbed
  obtain ⟨-, htaken⟩ := advance_exact h ht
  cases hp : r.receiver.point with
  | idle =>
    have hpoint : r.advance.receiver.point = .entryCheck := by
      simp [advance, UartProtocolReceiver.advance, hp]
    rw [hp] at htaken hwork
    refine remaining_lt_of_goto htaken (fun hzero => ?_) fun _ => ?_
    · exact absurd hzero (hwork.resolve_left (absurd rfl))
    · simp [hpoint, hp, PollPoint.toPop]
  | entryCheck =>
    have hpoint : r.advance.receiver.point = .popOverflowed := by
      simp [advance, UartProtocolReceiver.advance, UartProtocolReceiver.handleOverflow, hp, h.clear]
    rw [hp] at htaken
    exact remaining_lt_of_next hp hpoint htaken rfl rfl
  | popOverflowed =>
    have hpoint : r.advance.receiver.point = .popEmpty := by
      simp [advance, UartProtocolReceiver.advance, hp, h.clear]
    rw [hp] at htaken
    exact remaining_lt_of_next hp hpoint htaken rfl rfl
  | popEmpty =>
    have hempty := h.empty_iff ht
    rw [hp] at htaken
    refine remaining_lt_of_goto htaken (fun hzero => ?_) fun hsome => ?_
    · simp [advance, UartProtocolReceiver.advance, hp, hempty.mpr hzero, PollPoint.toEnd]
    · have hmore : r.receiver.queue.readCount ≠ r.receiver.queue.writeCount :=
        fun he => hsome (hempty.mp he)
      simp [advance, UartProtocolReceiver.advance, hp, hmore, PollPoint.toPop]
  | popRead =>
    have hpos := h.waiting_pos ht (.inl hp)
    rw [hp] at htaken
    refine remaining_lt_of_goto htaken (fun hzero => ?_) fun _ => ?_
    · exact absurd hzero (Nat.ne_of_gt hpos)
    · simp [advance, UartProtocolReceiver.advance, hp, PollPoint.toPop]
  | popAdvance byte =>
    have hpos := h.waiting_pos ht (.inr ⟨byte, hp⟩)
    have hpoint : r.advance.receiver.point = .feed byte := by
      simp [advance, UartProtocolReceiver.advance, hp]
    rw [hp] at htaken
    have hless : r.advance.waiting = r.waiting - 1 := by
      rw [waiting, waiting, htaken, advance_offered]
      exact Nat.sub_add_eq _ _ 1
    rw [remaining, remaining, hless, hpoint, hp, if_neg (Nat.ne_of_gt hpos)]
    simp only [PollPoint.toEnd, PollPoint.toPop]
    split_ifs <;> omega
  | feed byte =>
    rw [hp] at htaken
    refine remaining_lt_of_goto htaken (fun _ => ?_) fun _ => ?_
    · simp only [advance, UartProtocolReceiver.advance, hp]
      cases (r.receiver.decoder.feedByte byte).1 <;> simp [PollPoint.toEnd]
    · simp only [advance, UartProtocolReceiver.advance, hp]
      cases (r.receiver.decoder.feedByte byte).1 <;> simp [PollPoint.toPop]
  | frameCheck f =>
    have hpoint : r.advance.receiver.point = .returning (.frame f) := by
      simp [advance, UartProtocolReceiver.advance, UartProtocolReceiver.handleOverflow, hp, h.clear]
    rw [hp] at htaken
    exact remaining_lt_of_next hp hpoint htaken rfl rfl
  | finalCheck =>
    have hpoint : r.advance.receiver.point = .returning .none := by
      simp [advance, UartProtocolReceiver.advance, UartProtocolReceiver.handleOverflow, hp, h.clear]
    rw [hp] at htaken
    exact remaining_lt_of_next hp hpoint htaken rfl rfl
  | returning result =>
    have hpoint : r.advance.receiver.point = .idle := by
      simp only [advance, UartProtocolReceiver.advance, hp]
    rw [hp] at htaken
    exact remaining_lt_of_next hp hpoint htaken rfl rfl
  | resetLatch => simp [hp, PollPoint.undisturbed] at hundisturbed
  | resetRead => simp [hp, PollPoint.undisturbed] at hundisturbed
  | resetRelease => simp [hp, PollPoint.undisturbed] at hundisturbed
  | resetDecoder => simp [hp, PollPoint.undisturbed] at hundisturbed

end ReceiverRun

namespace ProtocolFrameDecoder

/-- The frames reported on the encodings of frames. -/
theorem feedBytes_traffic (frames : List ProtocolFrame)
    (hframes : ∀ f ∈ frames, f.payloadLength ≤ ProtocolFrameFormat.maxPayloadSize)
    (d : ProtocolFrameDecoder) (hd : d.state = .waitMagic0) :
    List.Forall₂ ProtocolFrame.SameContent frames ((d.feedBytes (traffic frames)).1.filterMap id) := by
  induction frames generalizing d with
  | nil => exact .nil
  | cons f frames ih =>
    obtain ⟨reported, hsame, hanswers, hready, -⟩ := feedBytes_encode d hd f (hframes f (by simp))
    have hrest := ih (fun g hg => hframes g (by simp [hg])) _ hready.state
    rw [traffic, List.flatMap_cons, ← traffic, feedBytes_append, hanswers]
    simpa using List.Forall₂.cons hsame hrest

end ProtocolFrameDecoder

namespace ReceivePath

/-- The hardware does what is asked of it, and an event finds at most 256 bytes that the polls have
not taken. -/
def Timely (p : ReceivePath) (s : ReceiveStep) : Prop :=
  p.Allowed s ∧ match s with
    | .event upTo => upTo ≤ p.popped + 256
    | _ => True

instance (p : ReceivePath) : (s : ReceiveStep) → Decidable (p.Timely s)
  | .event upTo => inferInstanceAs (Decidable (p.Allowed (.event upTo) ∧ upTo ≤ p.popped + 256))
  | .byte byte => inferInstanceAs (Decidable (p.Allowed (.byte byte) ∧ True))
  | .foreign size => inferInstanceAs (Decidable (p.Allowed (.foreign size) ∧ True))
  | .poll => inferInstanceAs (Decidable (p.Allowed .poll ∧ True))

/-- The frames that the polls have returned. -/
def frames (p : ReceivePath) : List ProtocolFrame := p.returned.filterMap (·.frame?)

/-- The path with the run of the receiver it stands for, which loses nothing. -/
structure Lossless (p : ReceivePath) (r : ReceiverRun) : Prop where
  simulates : p.Simulates r
  tracked : r.Tracked
  exact : r.Exact
  popped : p.popped = r.taken

theorem poll_lossless {p : ReceivePath} {r : ReceiverRun} (h : p.Lossless r) :
    (p.step .poll).Lossless r.advance := by
  obtain ⟨hexact, htaken⟩ := ReceiverRun.advance_exact h.exact h.tracked
  refine ⟨poll_simulates h.simulates, ReceiverRun.advance_tracked h.tracked, hexact, ?_⟩
  rw [htaken, ← h.popped]
  have hreceiver := h.simulates.receiver
  cases hp : r.receiver.point <;> simp only [step, hreceiver, hp] <;> rfl

theorem Reaches.lossless {p : ReceivePath} (h : Reaches Timely p) : ∃ r, p.Lossless r := by
  induction h with
  | start => exact ⟨{}, start_simulates, ReceiverRun.init_tracked, ReceiverRun.init_exact, rfl⟩
  | @step p h s hs ih =>
    obtain ⟨r, hr⟩ := ih
    obtain ⟨hallowed, htimely⟩ := hs
    cases s with
    | byte byte => exact ⟨r, byte_simulates hr.simulates byte hallowed, hr.tracked, hr.exact, hr.popped⟩
    | event upTo =>
      have hroom : upTo ≤ p.popped + 256 := htimely
      have hnext := event_simulates hr.simulates hallowed
      obtain ⟨-, hfrom, hupTo, -⟩ := hallowed
      have hoffered : r.offered.length = p.announced := by
        rw [hr.simulates.offered, List.length_take, Nat.min_eq_left hr.simulates.announced]
      obtain ⟨hexact, htaken⟩ := ReceiverRun.pushes_exact hr.exact hr.tracked
        ((p.received.take upTo).drop p.announced) (by
          rw [hoffered, List.length_drop, List.length_take, ← hr.popped]
          omega)
      exact ⟨_, hnext, ReceiverRun.moves_tracked hr.tracked _, hexact, hr.popped.trans htaken.symm⟩
    | foreign size =>
      rw [foreign_step]
      exact ⟨r, hr⟩
    | poll => exact ⟨_, poll_lossless hr⟩

/-- What the decoder has been fed, in terms of the path. -/
theorem Lossless.read {p : ReceivePath} {r : ReceiverRun} (h : p.Lossless r) :
    r.offered.take r.position = p.received.take (p.popped - p.receiver.point.hand.length) ∧
      p.popped ≤ p.announced := by
  obtain ⟨queued, -, -, hcount⟩ := h.exact.queued h.tracked
  have hoffered : r.offered.length = p.announced := by
    rw [h.simulates.offered, List.length_take, Nat.min_eq_left h.simulates.announced]
  have hposition : p.popped - p.receiver.point.hand.length = r.position := by
    rw [h.popped, h.simulates.receiver, ReceiverRun.taken]
    omega
  have hpopped := h.popped
  rw [hposition, h.simulates.offered, List.take_take, Nat.min_eq_left]
  · exact ⟨rfl, by omega⟩
  · have hread := h.tracked.queue.position
    omega

theorem Lossless.frames {p : ReceivePath} {r : ReceiverRun} (h : p.Lossless r) :
    p.frames = r.frames := by
  rw [ReceivePath.frames, h.simulates.returned, ReceiverRun.frames, List.filterMap_map]
  rfl

/-- A main loop that keeps up is told of no overflow, and the frames it has returned, with the one
it may be about to return, are what the decoder reports on the bytes received up to the last one
fed: none is lost, none comes twice and none is out of order. -/
theorem timely_polls_return_decoded_frames {p : ReceivePath} (h : Reaches Timely p) :
    (∀ result ∈ p.returned, result ≠ .overflow ∧ result ≠ .invalidArgument) ∧
      p.popped ≤ p.announced ∧
      p.frames ++ p.receiver.point.carried.toList = (ProtocolFrameDecoder.init.feedBytes
        (p.received.take (p.popped - p.receiver.point.hand.length))).1.filterMap id := by
  obtain ⟨r, hr⟩ := h.lossless
  obtain ⟨hread, hpopped⟩ := hr.read
  refine ⟨?_, hpopped, ?_⟩
  · intro result hresult
    rw [hr.simulates.returned] at hresult
    obtain ⟨ret, hret, rfl⟩ := List.mem_map.mp hresult
    exact hr.exact.results ret hret
  · rw [← hread, hr.frames, hr.simulates.receiver]
    exact hr.exact.frames

/-- Some steps of the main loop with nothing between them. -/
def polls (p : ReceivePath) (n : ℕ) : ReceivePath := (fun p : ReceivePath => p.step .poll)^[n] p

theorem polls_succ (p : ReceivePath) (n : ℕ) : p.polls (n + 1) = (p.step .poll).polls n := rfl

theorem poll_received (p : ReceivePath) :
    (p.step .poll).received = p.received ∧ (p.step .poll).announced = p.announced := by
  simp only [step]
  split <;> exact ⟨rfl, rfl⟩

theorem polls_received (p : ReceivePath) (n : ℕ) :
    (p.polls n).received = p.received ∧ (p.polls n).announced = p.announced := by
  induction n generalizing p with
  | zero => exact ⟨rfl, rfl⟩
  | succ n ih =>
    obtain ⟨hreceived, hannounced⟩ := ih (p.step .poll)
    rw [polls_succ, hreceived, hannounced]
    exact poll_received p

/-- The main loop comes to an empty queue. -/
theorem Lossless.drains {p : ReceivePath} {r : ReceiverRun} (h : p.Lossless r) :
    ∃ n ≤ r.remaining, ∃ r', (p.polls n).Lossless r' ∧ r'.receiver.point = .idle ∧
      r'.waiting = 0 := by
  -- Each step that is not the last brings the bound down.
  induction hm : r.remaining using Nat.strong_induction_on generalizing p r with
  | _ m ih =>
    by_cases hdone : r.receiver.point = .idle ∧ r.waiting = 0
    · exact ⟨0, Nat.zero_le _, r, h, hdone.1, hdone.2⟩
    · have hless := ReceiverRun.advance_remaining h.exact h.tracked (by
        rw [← not_and_or]
        exact hdone)
      rw [hm] at hless
      obtain ⟨n, hn, hrest⟩ := ih _ hless (poll_lossless h) rfl
      exact ⟨n + 1, by omega, hrest⟩

/-- The encodings of frames that have come in, and been announced to a main loop that keeps up, are
returned as these frames, each once and in order, within nine steps for each byte still waiting and
eight more. -/
theorem received_frames_are_returned {p : ReceivePath} (h : Reaches Timely p)
    (frames : List ProtocolFrame)
    (hframes : ∀ f ∈ frames, f.payloadLength ≤ ProtocolFrameFormat.maxPayloadSize)
    (hreceived : p.received = frames.flatMap protocolFrameEncode)
    (hannounced : p.announced = p.received.length) :
    ∃ n ≤ 9 * (p.announced - p.popped) + 8,
      List.Forall₂ ProtocolFrame.SameContent frames (p.polls n).frames ∧
        (p.polls n).receiver.point = .idle := by
  obtain ⟨r, hr⟩ := h.lossless
  obtain ⟨n, hn, r', hr', hidle, hwaiting⟩ := hr.drains
  have hoffered : r.offered.length = p.announced := by
    rw [hr.simulates.offered, List.length_take, Nat.min_eq_left hr.simulates.announced]
  have hbound := r.remaining_le
  rw [ReceiverRun.waiting, hoffered, ← hr.popped] at hbound
  have hpoint : (p.polls n).receiver.point = .idle := by rw [hr'.simulates.receiver, hidle]
  refine ⟨n, by omega, ?_, hpoint⟩
  -- All of what was received has been read.
  obtain ⟨hsame, hall⟩ := p.polls_received n
  obtain ⟨hread, hpopped⟩ := hr'.read
  have hoffered' : r'.offered.length = (p.polls n).announced := by
    rw [hr'.simulates.offered, List.length_take, Nat.min_eq_left hr'.simulates.announced]
  have hend : (p.polls n).popped = (p.polls n).received.length := by
    rw [ReceiverRun.waiting, hoffered', ← hr'.popped] at hwaiting
    rw [hsame, ← hannounced, ← hall]
    omega
  have hexact := hr'.exact.frames
  rw [hread, hpoint, hend, hsame, hreceived, ← hr'.frames, hidle] at hexact
  have htraffic := ProtocolFrameDecoder.feedBytes_traffic frames hframes .init rfl
  rw [ProtocolFrameDecoder.traffic] at htraffic
  simp only [PollPoint.hand, List.length_nil, Nat.sub_zero, List.take_length] at hexact
  rw [← hexact] at htraffic
  simpa [PollPoint.carried] using htraffic

/-- Two heartbeats, the second of which is announced while the first is read. -/
def heartbeatsRun : List ReceiveStep :=
  let bytes := protocolFrameEncode { messageType := .heartbeat }
  bytes.map .byte ++ [.event 10] ++ List.replicate 23 .poll ++ bytes.map .byte ++ [.event 20]

theorem timely_polls_return_decoded_frames_halfway :
    ∃ p : ReceivePath, p.popped = 4 ∧ p.announced = 20 ∧ p.frames ++ p.receiver.point.carried.toList =
      (ProtocolFrameDecoder.init.feedBytes
        (p.received.take (p.popped - p.receiver.point.hand.length))).1.filterMap id := by
  have hrun : (run Timely {} heartbeatsRun).map (fun p => (p.popped, p.announced)) =
      some (4, 20) := by
    decide +kernel
  obtain ⟨p, hp, hcounts⟩ := Option.map_eq_some_iff.mp hrun
  obtain ⟨hpopped, hannounced⟩ := Prod.mk.inj hcounts
  exact ⟨p, hpopped, hannounced, (timely_polls_return_decoded_frames (Reaches.start.run hp)).2.2⟩

theorem received_frames_are_returned_heartbeats :
    ∃ p : ReceivePath, ∃ n ≤ 152,
      List.Forall₂ ProtocolFrame.SameContent (List.replicate 2 { messageType := .heartbeat })
        (p.polls n).frames := by
  have hrun : (run Timely {} heartbeatsRun).map (fun p => (p.received, p.announced, p.popped)) =
      some ((List.replicate 2 { messageType := .heartbeat }).flatMap protocolFrameEncode, 20, 4) := by
    decide +kernel
  obtain ⟨p, hp, hcounts⟩ := Option.map_eq_some_iff.mp hrun
  simp only [Prod.mk.injEq] at hcounts
  obtain ⟨hreceived, hannounced, hpopped⟩ := hcounts
  have hall : p.announced = p.received.length := by
    rw [hreceived, hannounced]
    decide
  obtain ⟨n, hn, hframes, -⟩ := received_frames_are_returned (Reaches.start.run hp)
    (List.replicate 2 { messageType := .heartbeat }) (by decide) hreceived hall
  rw [hannounced, hpopped] at hn
  exact ⟨p, n, hn, hframes⟩

end ReceivePath

end IndoorRobot
