import IndoorRobot.DecoderSoundness
import IndoorRobot.UartRxQueue

/-!
# The receiver under interrupts

`uart_protocol_receiver.c` with every access to the queue that the interrupt can
see as a step of its own. Between any two steps the interrupt may offer bytes. A
full queue refuses them and latches the overflow until the receiver has emptied
the queue and reset the decoder, so what the decoder reads between two resets was
offered without a gap.
-/
namespace IndoorRobot

open ProtocolFrameFormat

/-- What `uart_protocol_receiver_poll` reports, with the frame handed out. -/
inductive UartProtocolReceiverResult where
  | none | frame (f : ProtocolFrame) | overflow | invalidArgument
  deriving DecidableEq

/-- The frame handed out with a result. -/
def UartProtocolReceiverResult.frame? : UartProtocolReceiverResult → Option ProtocolFrame
  | .frame f => .some f
  | _ => .none

/-- Where `uart_protocol_receiver_poll` stands. -/
inductive PollPoint where
  | idle
  | entryCheck
  | popOverflowed
  | popEmpty
  | popRead
  | popAdvance (byte : UInt8)
  | feed (byte : UInt8)
  | frameCheck (f : ProtocolFrame)
  | finalCheck
  | resetLatch
  | resetRead
  | resetRelease
  | resetDecoder
  | returning (result : UartProtocolReceiverResult)
  deriving DecidableEq

/-- `UartProtocolReceiver` and the queue it reads; the defaults are the two `init` functions. -/
structure UartProtocolReceiver where
  queue : UartRxQueue := {}
  decoder : ProtocolFrameDecoder := .init
  point : PollPoint := .idle

namespace UartProtocolReceiver

/-- The test of `uart_protocol_receiver_handle_overflow`: the three stores of
`uart_rx_queue_reset` and the reset of the decoder follow, or the poll goes on. -/
def handleOverflow (m : UartProtocolReceiver) (otherwise : PollPoint) : UartProtocolReceiver :=
  { m with point := if m.queue.overflowed then .resetLatch else otherwise }

/-- The next step of the main loop: of `uart_protocol_receiver_poll`, or the call of it. -/
def advance (m : UartProtocolReceiver) : UartProtocolReceiver :=
  match m.point with
  | .idle => { m with point := .entryCheck }
  | .entryCheck => m.handleOverflow .popOverflowed
  | .popOverflowed => { m with point := if m.queue.overflowed then .finalCheck else .popEmpty }
  | .popEmpty =>
    { m with point := if m.queue.readCount = m.queue.writeCount then .finalCheck else .popRead }
  | .popRead => { m with point := .popAdvance (m.queue.data (UartRxQueue.slot m.queue.readCount)) }
  | .popAdvance byte =>
    { m with
      queue := { m.queue with readCount := m.queue.readCount + 1 }
      point := .feed byte }
  | .feed byte =>
    let (decoded, decoder) := m.decoder.feedByte byte
    { m with
      decoder := decoder
      point := decoded.elim .popOverflowed .frameCheck }
  | .frameCheck f => m.handleOverflow (.returning (.frame f))
  | .finalCheck => m.handleOverflow (.returning .none)
  | .resetLatch => { m with queue := { m.queue with overflowed := true }, point := .resetRead }
  | .resetRead =>
    { m with queue := { m.queue with readCount := m.queue.writeCount }, point := .resetRelease }
  | .resetRelease =>
    { m with queue := { m.queue with overflowed := false }, point := .resetDecoder }
  | .resetDecoder => { m with decoder := m.decoder.reset, point := .returning .overflow }
  | .returning _ => { m with point := .idle }

end UartProtocolReceiver

/-- The result of a poll, with how many of the offered bytes the decoder had passed and how many
had been offered when it was returned. -/
structure PollReturn where
  result : UartProtocolReceiverResult
  position : ℕ
  offered : ℕ

/-- Where the bytes of a returned frame begin among those offered. -/
def PollReturn.start (ret : PollReturn) : ℕ :=
  match ret.result with
  | .frame f => ret.position - (10 + f.payloadLength.toNat)
  | _ => ret.position

def PollReturn.isFrame (ret : PollReturn) : Prop := ∃ f, ret.result = .frame f

/-- A receiver with the bytes the interrupt has offered, the places of those refused, how far the
decoder has got in them, where the part it can use begins, and what the polls returned. -/
structure ReceiverRun where
  receiver : UartProtocolReceiver := {}
  offered : List UInt8 := []
  refused : List ℕ := []
  position : ℕ := 0
  barrier : ℕ := 0
  returns : List PollReturn := []

/-- The interrupt offers a byte, or the main loop makes a step. -/
inductive ReceiverMove where
  | push (byte : UInt8)
  | advance

namespace ReceiverRun

def push (r : ReceiverRun) (byte : UInt8) : ReceiverRun :=
  let (accepted, queue) := r.receiver.queue.push byte
  { r with
    receiver := { r.receiver with queue := queue }
    offered := r.offered ++ [byte]
    refused := if accepted then r.refused else r.refused ++ [r.offered.length] }

def advance (r : ReceiverRun) : ReceiverRun :=
  let next := { r with receiver := r.receiver.advance }
  match r.receiver.point with
  | .feed _ => { next with position := r.position + 1 }
  | .resetRelease => { next with position := r.offered.length, barrier := r.offered.length }
  | .returning result =>
    { next with
      barrier := match result with
        | .frame _ => r.position
        | _ => r.barrier
      returns := r.returns ++ [⟨result, r.position, r.offered.length⟩] }
  | _ => next

def move (r : ReceiverRun) : ReceiverMove → ReceiverRun
  | .push byte => r.push byte
  | .advance => r.advance

def moves (r : ReceiverRun) (ms : List ReceiverMove) : ReceiverRun := ms.foldl move r

end ReceiverRun

namespace PollPoint

/-- The byte popped and not yet fed. -/
def hand : PollPoint → List UInt8
  | .feed byte => [byte]
  | _ => []

/-- The frame decoded and not yet returned. -/
def carried : PollPoint → Option ProtocolFrame
  | .frameCheck f => some f
  | .returning (.frame f) => some f
  | _ => none

/-- Past the first test of a poll, and not in a reset. -/
def entered : PollPoint → Bool
  | .popOverflowed | .popEmpty | .popRead | .popAdvance _ | .feed _ | .frameCheck _ | .finalCheck
  | .returning (.frame _) => true
  | _ => false

/-- What has been tested of the queue still holds of its bytes. -/
def Fits : PollPoint → List UInt8 → Prop
  | .popRead, queued => queued ≠ []
  | .popAdvance byte, queued => queued.head? = some byte
  | .resetRelease, queued => queued = []
  | _, _ => True

end PollPoint

namespace ReceiverRun

/-- The byte in hand and the bytes queued come next among those offered, and nothing is missing
behind them unless the overflow is latched. -/
structure QueueTracked (r : ReceiverRun) : Prop where
  position : r.position ≤ r.offered.length
  contents : ∃ queued, r.receiver.queue.Holds queued ∧ r.receiver.point.Fits queued ∧
    r.receiver.point.hand ++ queued <+: r.offered.drop r.position ∧
    (r.receiver.queue.overflowed = false →
      r.receiver.point.hand ++ queued = r.offered.drop r.position)
  latched : r.receiver.point = .resetRead ∨ r.receiver.point = .resetRelease →
    r.receiver.queue.overflowed = true

/-- The frame under way, or decoded and not yet returned, lies behind the barrier. -/
structure DecoderTracked (r : ReceiverRun) : Prop where
  wellFormed : r.receiver.decoder.WellFormed
  barrier : r.barrier ≤ r.position
  candidate : r.receiver.point ≠ .resetDecoder →
    r.receiver.decoder.candidate <:+ (r.offered.take r.position).drop r.barrier
  carried : ∀ f, r.receiver.point.carried = some f → f.payloadLength ≤ maxPayloadSize ∧
    protocolFrameEncode f <:+ (r.offered.take r.position).drop r.barrier ∧
    r.receiver.decoder.candidate = []

/-- Refused bytes are before the barrier unless the overflow is latched. -/
structure LossTracked (r : ReceiverRun) : Prop where
  refused : ∀ k ∈ r.refused, k < r.offered.length
  lost : ∀ k ∈ r.refused, k < r.barrier ∨ r.receiver.queue.overflowed = true
  entered : r.receiver.point.entered = true → ∀ ret ∈ r.returns, ret.result = .overflow →
    ∀ k ∈ r.refused, k < ret.offered → k < r.barrier

/-- What the polls have returned. -/
structure ReturnsTracked (r : ReceiverRun) : Prop where
  offered : ∀ ret ∈ r.returns, ret.offered ≤ r.offered.length
  before : ∀ ret ∈ r.returns, ret.isFrame → ret.position ≤ r.barrier
  frames : ∀ ret ∈ r.returns, ∀ f, ret.result = .frame f →
    (FrameReport.mk f 0 ret.position).Genuine r.offered
  ordered : r.returns.Pairwise fun first second =>
    first.isFrame → second.isFrame → first.position ≤ second.start
  afterLoss : r.returns.Pairwise fun first second => first.result = .overflow → second.isFrame →
    ∀ k ∈ r.refused, k < first.offered → k < second.start

structure Tracked (r : ReceiverRun) : Prop where
  queue : r.QueueTracked
  decoder : r.DecoderTracked
  loss : r.LossTracked
  returns : r.ReturnsTracked

theorem init_queueTracked : QueueTracked {} where
  position := Nat.le_refl _
  contents := ⟨[], UartRxQueue.init_holds, trivial, List.nil_prefix, fun _ => rfl⟩
  latched := by simp

theorem init_decoderTracked : DecoderTracked {} where
  wellFormed := ProtocolFrameDecoder.init_wellFormed
  barrier := Nat.le_refl _
  candidate := fun _ => List.nil_suffix
  carried := nofun

theorem init_lossTracked : LossTracked {} where
  refused := by simp
  lost := by simp
  entered := by simp

theorem init_returnsTracked : ReturnsTracked {} where
  offered := by simp
  before := by simp
  frames := by simp
  ordered := .nil
  afterLoss := .nil

/-! ### The interrupt -/

theorem fits_push {point : PollPoint} {queued : List UInt8} (h : point.Fits queued) (byte : UInt8)
    (hp : point ≠ .resetRelease) : point.Fits (queued ++ [byte]) := by
  cases point with
  | popRead =>
    change queued ++ [byte] ≠ []
    simp
  | popAdvance front =>
    cases queued with
    | nil => cases h
    | cons first rest => exact h
  | resetRelease => exact absurd rfl hp
  | _ => trivial

theorem push_accepted {r : ReceiverRun} {byte : UInt8} (h : (r.receiver.queue.push byte).1 = true) :
    r.push byte = { r with
      receiver := { r.receiver with queue := (r.receiver.queue.push byte).2 }
      offered := r.offered ++ [byte] } := by
  simp [push, h]

theorem push_refused {r : ReceiverRun} {byte : UInt8}
    (h : (r.receiver.queue.push byte).1 = false) :
    r.push byte = { r with
      receiver := { r.receiver with queue := (r.receiver.queue.push byte).2 }
      offered := r.offered ++ [byte]
      refused := r.refused ++ [r.offered.length] } := by
  simp [push, h]

theorem push_queueTracked {r : ReceiverRun} (h : r.QueueTracked) (byte : UInt8) :
    (r.push byte).QueueTracked := by
  obtain ⟨queued, hholds, hfits, hnext, hall⟩ := h.contents
  have hposition : r.position ≤ (r.offered ++ [byte]).length := by
    rw [List.length_append]
    exact Nat.le_add_right_of_le h.position
  obtain ⟨haccepted, hclear, hclear', hholds'⟩ | ⟨hrefused, hlatch, hholds'⟩ :=
    UartRxQueue.push_cases hholds byte
  · have hpoint : r.receiver.point ≠ .resetRelease := by
      intro hp
      rw [h.latched (.inr hp)] at hclear
      cases hclear
    have hexact : r.receiver.point.hand ++ (queued ++ [byte]) =
        (r.offered ++ [byte]).drop r.position := by
      rw [List.drop_append_of_le_length h.position, ← hall hclear, List.append_assoc]
    rw [push_accepted haccepted]
    refine ⟨hposition, ⟨queued ++ [byte], hholds', fits_push hfits byte hpoint, ?_, fun _ => hexact⟩, ?_⟩
    · exact ⟨[], by rw [List.append_nil, hexact]⟩
    · intro hp
      rw [h.latched hp] at hclear
      cases hclear
  · rw [push_refused hrefused]
    refine ⟨hposition, ⟨queued, hholds', hfits, ?_, fun hclear => ?_⟩, fun _ => hlatch⟩
    · rw [List.drop_append_of_le_length h.position]
      exact hnext.trans (List.prefix_append _ _)
    · rw [hlatch] at hclear
      cases hclear

theorem push_frame {r : ReceiverRun} (byte : UInt8) :
    (r.push byte).receiver.decoder = r.receiver.decoder ∧
      (r.push byte).receiver.point = r.receiver.point ∧ (r.push byte).position = r.position ∧
      (r.push byte).barrier = r.barrier ∧ (r.push byte).returns = r.returns ∧
      (r.push byte).offered = r.offered ++ [byte] :=
  ⟨rfl, rfl, rfl, rfl, rfl, rfl⟩

theorem push_decoderTracked {r : ReceiverRun} (hq : r.QueueTracked) (h : r.DecoderTracked)
    (byte : UInt8) : (r.push byte).DecoderTracked := by
  have hread : (r.offered ++ [byte]).take r.position = r.offered.take r.position :=
    List.take_append_of_le_length hq.position
  obtain ⟨hdecoder, hpoint, hposition, hbarrier, -, hoffered⟩ := push_frame (r := r) byte
  constructor
  · exact h.wellFormed
  · exact h.barrier
  · rw [hdecoder, hpoint, hposition, hbarrier, hoffered, hread]
    exact h.candidate
  · rw [hdecoder, hpoint, hposition, hbarrier, hoffered, hread]
    exact h.carried

theorem push_lossTracked {r : ReceiverRun} {queued : List UInt8}
    (hq : r.receiver.queue.Holds queued) (hr : r.ReturnsTracked) (h : r.LossTracked)
    (byte : UInt8) : (r.push byte).LossTracked := by
  obtain ⟨haccepted, hclear, -, -⟩ | ⟨hrefused, hlatch, -⟩ := UartRxQueue.push_cases hq byte
  · rw [push_accepted haccepted]
    refine ⟨?_, ?_, h.entered⟩
    · intro k hk
      simp only [List.length_append, List.length_singleton]
      exact Nat.lt_succ_of_lt (h.refused k hk)
    · intro k hk
      obtain hbefore | hlatched := h.lost k hk
      · exact .inl hbefore
      · rw [hclear] at hlatched
        cases hlatched
  · rw [push_refused hrefused]
    refine ⟨?_, fun k hk => .inr hlatch, ?_⟩
    · intro k hk
      simp only [List.length_append, List.length_singleton]
      rcases List.mem_append.mp hk with hk | hk
      · exact Nat.lt_succ_of_lt (h.refused k hk)
      · rw [List.mem_singleton.mp hk]
        exact Nat.lt_succ_self _
    · intro hentered ret hret hresult k hk hlt
      rcases List.mem_append.mp hk with hk | hk
      · exact h.entered hentered ret hret hresult k hk hlt
      · rw [List.mem_singleton.mp hk] at hlt
        exact absurd (hr.offered ret hret) (Nat.not_le_of_lt hlt)

theorem push_returnsTracked {r : ReceiverRun} (h : r.ReturnsTracked) (byte : UInt8) :
    (r.push byte).ReturnsTracked := by
  obtain ⟨-, -, -, hbarrier, hreturns, hoffered⟩ := push_frame (r := r) byte
  have hrefused : ∀ k ∈ (r.push byte).refused, k ∈ r.refused ∨ k = r.offered.length := by
    intro k hk
    cases haccepted : (r.receiver.queue.push byte).1 with
    | true =>
      rw [push_accepted haccepted] at hk
      exact .inl hk
    | false =>
      rw [push_refused haccepted] at hk
      rcases List.mem_append.mp hk with hk | hk
      · exact .inl hk
      · exact .inr (List.mem_singleton.mp hk)
  constructor
  · intro ret hret
    rw [hoffered, List.length_append]
    exact Nat.le_add_right_of_le (h.offered ret hret)
  · exact h.before
  · intro ret hret f hf
    rw [hoffered]
    exact (h.frames ret hret f hf).append [byte]
  · exact h.ordered
  · rw [hreturns]
    refine h.afterLoss.imp_of_mem ?_
    intro first second hfirst hsecond hrest hoverflow hframe k hk hlt
    obtain hk | rfl := hrefused k hk
    · exact hrest hoverflow hframe k hk hlt
    · exact absurd (h.offered first hfirst) (Nat.not_le_of_lt hlt)

theorem push_tracked {r : ReceiverRun} (h : r.Tracked) (byte : UInt8) : (r.push byte).Tracked := by
  obtain ⟨queued, hholds, -⟩ := h.queue.contents
  exact ⟨push_queueTracked h.queue byte, push_decoderTracked h.queue h.decoder byte,
    push_lossTracked hholds h.returns h.loss byte, push_returnsTracked h.returns byte⟩

/-! ### The main loop -/

/-- Steps that test the queue and go on. -/
theorem goto_tracked {r : ReceiverRun} (h : r.Tracked) (point : PollPoint)
    (hhand : point.hand = r.receiver.point.hand)
    (hfits : ∀ queued, r.receiver.queue.Holds queued → r.receiver.point.Fits queued →
      point.Fits queued)
    (hlatched : point = .resetRead ∨ point = .resetRelease → r.receiver.queue.overflowed = true)
    (hdecoder : r.receiver.point ≠ .resetDecoder)
    (hcarried : ∀ f, point.carried = some f → r.receiver.point.carried = some f)
    (hentered : point.entered = true →
      r.receiver.point.entered = true ∨ r.receiver.queue.overflowed = false) :
    Tracked { r with receiver := { r.receiver with point := point } } := by
  obtain ⟨queued, hholds, hold, hnext, hall⟩ := h.queue.contents
  refine ⟨⟨h.queue.position, ⟨queued, hholds, hfits queued hholds hold, ?_, ?_⟩, hlatched⟩,
    ⟨h.decoder.wellFormed, h.decoder.barrier, fun _ => h.decoder.candidate hdecoder,
      fun f hf => h.decoder.carried f (hcarried f hf)⟩,
    ⟨h.loss.refused, h.loss.lost, ?_⟩,
    ⟨h.returns.offered, h.returns.before, h.returns.frames, h.returns.ordered, h.returns.afterLoss⟩⟩
  · rw [hhand]
    exact hnext
  · rw [hhand]
    exact hall
  · intro hpoint ret hret hresult k hk hlt
    obtain hin | hclear := hentered hpoint
    · exact h.loss.entered hin ret hret hresult k hk hlt
    · obtain hbefore | hlatch := h.loss.lost k hk
      · exact hbefore
      · rw [hclear] at hlatch
        cases hlatch

/-- The test of `handle_overflow` on the way to `otherwise`. -/
theorem handleOverflow_tracked {r : ReceiverRun} (h : r.Tracked) (otherwise : PollPoint)
    (hhand : r.receiver.point.hand = []) (hother : otherwise.hand = [])
    (hfits : ∀ queued, otherwise.Fits queued)
    (hlatched : otherwise ≠ .resetRead ∧ otherwise ≠ .resetRelease)
    (hdecoder : r.receiver.point ≠ .resetDecoder)
    (hcarried : ∀ f, otherwise.carried = some f → r.receiver.point.carried = some f) :
    Tracked { r with receiver := r.receiver.handleOverflow otherwise } := by
  cases hover : r.receiver.queue.overflowed with
  | true =>
    rw [UartProtocolReceiver.handleOverflow, hover]
    exact goto_tracked h .resetLatch hhand.symm (fun _ _ _ => trivial) (by simp) hdecoder
      nofun nofun
  | false =>
    rw [UartProtocolReceiver.handleOverflow, hover]
    exact goto_tracked h otherwise (hother.trans hhand.symm) (fun queued _ _ => hfits queued)
      (fun hp => hp.elim (absurd · hlatched.1) (absurd · hlatched.2)) hdecoder hcarried
      (fun _ => .inr hover)

/-- A step within a poll that only moves on. -/
theorem moveOn_tracked {r : ReceiverRun} (h : r.Tracked) (point : PollPoint)
    (hstep : r.advance = { r with receiver := { r.receiver with point := point } })
    (hhand : point.hand = r.receiver.point.hand) (hin : r.receiver.point.entered = true)
    (hfits : ∀ queued, r.receiver.queue.Holds queued → r.receiver.point.Fits queued →
      point.Fits queued)
    (hlatched : point ≠ .resetRead ∧ point ≠ .resetRelease)
    (hdecoder : r.receiver.point ≠ .resetDecoder)
    (hcarried : point.carried = none) : r.advance.Tracked := by
  rw [hstep]
  apply goto_tracked h point hhand hfits
  · exact fun hp => hp.elim (absurd · hlatched.1) (absurd · hlatched.2)
  · exact hdecoder
  · simp [hcarried]
  · exact fun _ => .inl hin

theorem popOverflowed_tracked {r : ReceiverRun} (h : r.Tracked)
    (hp : r.receiver.point = .popOverflowed) : r.advance.Tracked := by
  have hin : r.receiver.point.entered = true := by rw [hp]; rfl
  have hstep : r.advance = { r with receiver := { r.receiver with
      point := if r.receiver.queue.overflowed then .finalCheck else .popEmpty } } := by
    simp [advance, UartProtocolReceiver.advance, hp]
  cases hover : r.receiver.queue.overflowed with
  | true =>
    rw [hover] at hstep
    exact moveOn_tracked h .finalCheck hstep (by rw [hp]; rfl) hin (fun _ _ _ => trivial) (by simp)
      (by simp [hp]) rfl
  | false =>
    rw [hover] at hstep
    exact moveOn_tracked h .popEmpty hstep (by rw [hp]; rfl) hin (fun _ _ _ => trivial) (by simp)
      (by simp [hp]) rfl

theorem popEmpty_tracked {r : ReceiverRun} (h : r.Tracked) (hp : r.receiver.point = .popEmpty) :
    r.advance.Tracked := by
  have hin : r.receiver.point.entered = true := by rw [hp]; rfl
  by_cases hempty : r.receiver.queue.readCount = r.receiver.queue.writeCount
  · have hstep : r.advance = { r with receiver := { r.receiver with point := .finalCheck } } := by
      simp [advance, UartProtocolReceiver.advance, hp, hempty]
    exact moveOn_tracked h .finalCheck hstep (by rw [hp]; rfl) hin (fun _ _ _ => trivial) (by simp)
      (by simp [hp]) rfl
  · have hstep : r.advance = { r with receiver := { r.receiver with point := .popRead } } := by
      simp [advance, UartProtocolReceiver.advance, hp, hempty]
    exact moveOn_tracked h .popRead hstep (by rw [hp]; rfl) hin
      (fun queued hholds _ hnil => hempty ((UartRxQueue.empty_iff hholds).mpr hnil)) (by simp)
      (by simp [hp]) rfl

theorem popRead_tracked {r : ReceiverRun} (h : r.Tracked) (hp : r.receiver.point = .popRead) :
    r.advance.Tracked := by
  have hin : r.receiver.point.entered = true := by rw [hp]; rfl
  have hstep : r.advance = { r with receiver := { r.receiver with
      point := .popAdvance (r.receiver.queue.data (UartRxQueue.slot r.receiver.queue.readCount)) } } := by
    simp [advance, UartProtocolReceiver.advance, hp]
  refine moveOn_tracked h _ hstep (by rw [hp]; rfl) hin ?_ (by simp) (by simp [hp]) rfl
  intro queued hholds hfits
  rw [hp] at hfits
  cases queued with
  | nil => exact absurd rfl hfits
  | cons first rest => exact congrArg some (UartRxQueue.pop_holds hholds).1.symm

theorem popAdvance_tracked {r : ReceiverRun} (h : r.Tracked) (byte : UInt8)
    (hp : r.receiver.point = .popAdvance byte) : r.advance.Tracked := by
  obtain ⟨queued, hholds, hfits, hnext, hall⟩ := h.queue.contents
  rw [hp] at hfits hnext hall
  obtain ⟨rest, rfl⟩ : ∃ rest, queued = byte :: rest := by
    cases queued with
    | nil => cases hfits
    | cons first rest => exact ⟨rest, by rw [Option.some.inj hfits]⟩
  have hstep : r.advance = { r with receiver := { r.receiver with
      queue := { r.receiver.queue with readCount := r.receiver.queue.readCount + 1 }
      point := .feed byte } } := by
    simp [advance, UartProtocolReceiver.advance, hp]
  rw [hstep]
  refine ⟨⟨h.queue.position, ⟨rest, (UartRxQueue.pop_holds hholds).2, trivial, hnext, hall⟩, by simp⟩,
    ⟨h.decoder.wellFormed, h.decoder.barrier, fun _ => h.decoder.candidate (by simp [hp]),
      nofun⟩,
    ⟨h.loss.refused, h.loss.lost, fun _ => h.loss.entered (by rw [hp]; rfl)⟩,
    ⟨h.returns.offered, h.returns.before, h.returns.frames, h.returns.ordered, h.returns.afterLoss⟩⟩

/-- The byte in hand is the next one offered. -/
theorem take_succ_of_hand {offered queued : List UInt8} {position : ℕ} {byte : UInt8}
    (h : byte :: queued <+: offered.drop position) :
    offered.take (position + 1) = offered.take position ++ [byte] ∧ position + 1 ≤ offered.length ∧
      queued <+: offered.drop (position + 1) := by
  obtain ⟨rest, hrest⟩ := h
  have hlength := congrArg List.length hrest
  simp only [List.cons_append, List.length_cons, List.length_append, List.length_drop] at hlength
  refine ⟨?_, by omega, ⟨rest, ?_⟩⟩
  · rw [List.take_add, ← hrest]
    rfl
  · rw [← List.drop_drop, ← hrest]
    rfl

theorem feed_tracked {r : ReceiverRun} (h : r.Tracked) (byte : UInt8)
    (hp : r.receiver.point = .feed byte) : r.advance.Tracked := by
  obtain ⟨queued, hholds, -, hnext, hall⟩ := h.queue.contents
  rw [hp] at hnext hall
  obtain ⟨htake, hposition, hrest⟩ := take_succ_of_hand hnext
  have hexplained := ProtocolFrameDecoder.feedByte_explained _ h.decoder.wellFormed byte
  obtain ⟨front, hfront⟩ := h.decoder.candidate (by simp [hp])
  have hbarrier := h.decoder.barrier
  have hread : (r.offered.take (r.position + 1)).drop r.barrier =
      front ++ (r.receiver.decoder.candidate ++ [byte]) := by
    rw [htake, List.drop_append_of_le_length (by rw [List.length_take]; omega), ← hfront,
      List.append_assoc]
  have hexact : r.receiver.queue.overflowed = false → queued = r.offered.drop (r.position + 1) := by
    intro hclear
    rw [← List.drop_drop, ← hall hclear]
    rfl
  have hstep : r.advance = { r with
      receiver := { r.receiver with
        decoder := (r.receiver.decoder.feedByte byte).2
        point := (r.receiver.decoder.feedByte byte).1.elim .popOverflowed .frameCheck }
      position := r.position + 1 } := by
    simp [advance, UartProtocolReceiver.advance, hp]
  have hloss := h.loss.entered (by rw [hp]; rfl)
  rw [hstep]
  cases hf : (r.receiver.decoder.feedByte byte).1 with
  | none =>
    refine ⟨⟨hposition, ⟨queued, hholds, trivial, hrest, hexact⟩, by simp⟩,
      ⟨hexplained.wellFormed, Nat.le_succ_of_le hbarrier, fun _ => ?_, nofun⟩,
      ⟨h.loss.refused, h.loss.lost, fun _ => hloss⟩,
      ⟨h.returns.offered, h.returns.before, h.returns.frames, h.returns.ordered,
        h.returns.afterLoss⟩⟩
    rw [hread]
    exact (hexplained.silent hf).trans (List.suffix_append _ _)
  | some f =>
    obtain ⟨hle, hencode, hempty⟩ := hexplained.reported f hf
    refine ⟨⟨hposition, ⟨queued, hholds, trivial, hrest, hexact⟩, by simp⟩,
      ⟨hexplained.wellFormed, Nat.le_succ_of_le hbarrier, fun _ => ?_, ?_⟩,
      ⟨h.loss.refused, h.loss.lost, fun _ => hloss⟩,
      ⟨h.returns.offered, h.returns.before, h.returns.frames, h.returns.ordered,
        h.returns.afterLoss⟩⟩
    · rw [hempty]
      exact List.nil_suffix
    · intro g hg
      obtain rfl : f = g := by simpa [PollPoint.carried] using hg
      rw [hread, hencode]
      exact ⟨hle, List.suffix_append _ _, hempty⟩

theorem resetLatch_tracked {r : ReceiverRun} (h : r.Tracked)
    (hp : r.receiver.point = .resetLatch) : r.advance.Tracked := by
  obtain ⟨queued, hholds, -, hnext, -⟩ := h.queue.contents
  rw [hp] at hnext
  have hstep : r.advance = { r with receiver := { r.receiver with
      queue := { r.receiver.queue with overflowed := true }
      point := .resetRead } } := by
    simp [advance, UartProtocolReceiver.advance, hp]
  rw [hstep]
  refine ⟨⟨h.queue.position, ⟨queued, ⟨hholds.count, hholds.size, hholds.data⟩, trivial, hnext,
      by simp⟩, fun _ => rfl⟩,
    ⟨h.decoder.wellFormed, h.decoder.barrier, fun _ => h.decoder.candidate (by simp [hp]),
      nofun⟩,
    ⟨h.loss.refused, fun _ _ => .inr rfl, nofun⟩,
    ⟨h.returns.offered, h.returns.before, h.returns.frames, h.returns.ordered, h.returns.afterLoss⟩⟩

theorem resetRead_tracked {r : ReceiverRun} (h : r.Tracked)
    (hp : r.receiver.point = .resetRead) : r.advance.Tracked := by
  have hlatch := h.queue.latched (.inl hp)
  have hstep : r.advance = { r with receiver := { r.receiver with
      queue := { r.receiver.queue with readCount := r.receiver.queue.writeCount }
      point := .resetRelease } } := by
    simp [advance, UartProtocolReceiver.advance, hp]
  rw [hstep]
  refine ⟨⟨h.queue.position, ⟨[], UartRxQueue.discard_holds _, rfl, List.nil_prefix, ?_⟩,
      fun _ => hlatch⟩,
    ⟨h.decoder.wellFormed, h.decoder.barrier, fun _ => h.decoder.candidate (by simp [hp]),
      nofun⟩,
    ⟨h.loss.refused, h.loss.lost, nofun⟩,
    ⟨h.returns.offered, h.returns.before, h.returns.frames, h.returns.ordered, h.returns.afterLoss⟩⟩
  intro hclear
  rw [hlatch] at hclear
  cases hclear

/-- The overflow is released: all bytes offered so far are given up. -/
theorem resetRelease_tracked {r : ReceiverRun} (h : r.Tracked)
    (hp : r.receiver.point = .resetRelease) : r.advance.Tracked := by
  obtain ⟨queued, hholds, hfits, -, -⟩ := h.queue.contents
  rw [hp] at hfits
  obtain rfl : queued = [] := hfits
  have hstep : r.advance = { r with
      receiver := { r.receiver with
        queue := { r.receiver.queue with overflowed := false }
        point := .resetDecoder }
      position := r.offered.length
      barrier := r.offered.length } := by
    simp [advance, UartProtocolReceiver.advance, hp]
  rw [hstep]
  refine ⟨⟨Nat.le_refl _, ⟨[], ⟨hholds.count, hholds.size, hholds.data⟩, trivial, List.nil_prefix,
      by simp [PollPoint.hand]⟩, by simp⟩,
    ⟨h.decoder.wellFormed, Nat.le_refl _, by simp, nofun⟩,
    ⟨h.loss.refused, fun k hk => .inl (h.loss.refused k hk), nofun⟩,
    ⟨h.returns.offered, ?_, h.returns.frames, h.returns.ordered, h.returns.afterLoss⟩⟩
  intro ret hret hframe
  have hbefore := h.returns.before ret hret hframe
  have hbarrier := h.decoder.barrier
  have hposition := h.queue.position
  simp only
  omega

theorem resetDecoder_tracked {r : ReceiverRun} (h : r.Tracked)
    (hp : r.receiver.point = .resetDecoder) : r.advance.Tracked := by
  obtain ⟨queued, hholds, -, hnext, hall⟩ := h.queue.contents
  rw [hp] at hnext hall
  have hstep : r.advance = { r with receiver := { r.receiver with
      decoder := r.receiver.decoder.reset
      point := .returning .overflow } } := by
    simp [advance, UartProtocolReceiver.advance, hp]
  rw [hstep]
  exact ⟨⟨h.queue.position, ⟨queued, hholds, trivial, hnext, hall⟩, by simp⟩,
    ⟨ProtocolFrameDecoder.reset_wellFormed _, h.decoder.barrier, fun _ => List.nil_suffix,
      nofun⟩,
    ⟨h.loss.refused, h.loss.lost, nofun⟩,
    ⟨h.returns.offered, h.returns.before, h.returns.frames, h.returns.ordered, h.returns.afterLoss⟩⟩

/-- A frame read behind the barrier, as it is about to be returned. -/
theorem carried_genuine {r : ReceiverRun} (h : r.Tracked) {f : ProtocolFrame}
    (hf : r.receiver.point.carried = some f) :
    (FrameReport.mk f 0 r.position).Genuine r.offered ∧
      r.barrier ≤ (FrameReport.mk f 0 r.position).start := by
  obtain ⟨hle, ⟨front, hfront⟩, -⟩ := h.decoder.carried f hf
  have hlength := protocolFrameEncode_length f hle
  have hbarrier := h.decoder.barrier
  have hposition := h.queue.position
  have hcount := congrArg List.length hfront
  simp only [List.length_append, hlength, List.length_drop, List.length_take] at hcount
  have hstart : (FrameReport.mk f 0 r.position).start = r.barrier + front.length := by
    simp only [FrameReport.start]
    omega
  refine ⟨⟨hle, ?_, hposition, ?_⟩, ?_⟩
  · simp only
    omega
  · simp only [hstart]
    rw [← List.drop_drop, ← hfront, List.drop_left]
  · rw [hstart]
    exact Nat.le_add_right _ _

/-- A poll returns without a frame. -/
theorem returning_tracked {r : ReceiverRun} (h : r.Tracked) (result : UartProtocolReceiverResult)
    (hp : r.receiver.point = .returning result) (hresult : ∀ f, result ≠ .frame f) :
    r.advance.Tracked := by
  obtain ⟨queued, hholds, -, hnext, hall⟩ := h.queue.contents
  rw [hp] at hnext hall
  have hstep : r.advance = { r with
      receiver := { r.receiver with point := .idle }
      returns := r.returns ++ [⟨result, r.position, r.offered.length⟩] } := by
    cases result with
    | frame f => exact absurd rfl (hresult f)
    | _ => simp [advance, UartProtocolReceiver.advance, hp]
  have hnew : ∀ ret ∈ r.returns ++ [⟨result, r.position, r.offered.length⟩],
      ret ∈ r.returns ∨ (¬ ret.isFrame ∧ ret.offered ≤ r.offered.length) := by
    intro ret hret
    rcases List.mem_append.mp hret with hret | hret
    · exact .inl hret
    · rw [List.mem_singleton.mp hret]
      exact .inr ⟨fun hframe => hframe.elim hresult, Nat.le_refl _⟩
  rw [hstep]
  refine ⟨⟨h.queue.position, ⟨queued, hholds, trivial, hnext, hall⟩, by simp⟩,
    ⟨h.decoder.wellFormed, h.decoder.barrier, fun _ => h.decoder.candidate (by simp [hp]),
      nofun⟩,
    ⟨h.loss.refused, h.loss.lost, nofun⟩, ⟨?_, ?_, ?_, ?_, ?_⟩⟩
  · intro ret hret
    obtain hold | ⟨-, hoffered⟩ := hnew ret hret
    · exact h.returns.offered ret hold
    · exact hoffered
  · intro ret hret hframe
    obtain hold | ⟨hnone, -⟩ := hnew ret hret
    · exact h.returns.before ret hold hframe
    · exact absurd hframe hnone
  · intro ret hret f hf
    obtain hold | ⟨hnone, -⟩ := hnew ret hret
    · exact h.returns.frames ret hold f hf
    · exact absurd ⟨f, hf⟩ hnone
  · refine List.pairwise_append.mpr ⟨h.returns.ordered, List.pairwise_singleton _ _, ?_⟩
    intro first _ second hsecond _ hframe
    rw [List.mem_singleton.mp hsecond] at hframe
    exact hframe.elim fun f hf => absurd hf (hresult f)
  · refine List.pairwise_append.mpr ⟨h.returns.afterLoss, List.pairwise_singleton _ _, ?_⟩
    intro first _ second hsecond _ hframe
    rw [List.mem_singleton.mp hsecond] at hframe
    exact hframe.elim fun f hf => absurd hf (hresult f)

/-- A poll returns a frame: the barrier moves behind it. -/
theorem returningFrame_tracked {r : ReceiverRun} (h : r.Tracked) (f : ProtocolFrame)
    (hp : r.receiver.point = .returning (.frame f)) : r.advance.Tracked := by
  obtain ⟨queued, hholds, -, hnext, hall⟩ := h.queue.contents
  obtain ⟨hgenuine, hstart⟩ := carried_genuine h (f := f) (by rw [hp]; rfl)
  have hempty := (h.decoder.carried f (by rw [hp]; rfl)).2.2
  have hloss := h.loss.entered (by rw [hp]; rfl)
  have hbarrier := h.decoder.barrier
  rw [hp] at hnext hall
  have hstep : r.advance = { r with
      receiver := { r.receiver with point := .idle }
      barrier := r.position
      returns := r.returns ++ [⟨.frame f, r.position, r.offered.length⟩] } := by
    simp [advance, UartProtocolReceiver.advance, hp]
  rw [hstep]
  refine ⟨⟨h.queue.position, ⟨queued, hholds, trivial, hnext, hall⟩, by simp⟩,
    ⟨h.decoder.wellFormed, Nat.le_refl _, ?_, nofun⟩,
    ⟨h.loss.refused, ?_, nofun⟩, ⟨?_, ?_, ?_, ?_, ?_⟩⟩
  · intro _
    rw [hempty]
    exact List.nil_suffix
  · intro k hk
    exact (h.loss.lost k hk).imp_left fun hlt => Nat.lt_of_lt_of_le hlt hbarrier
  · intro ret hret
    rcases List.mem_append.mp hret with hret | hret
    · exact h.returns.offered ret hret
    · exact Nat.le_of_eq (by rw [List.mem_singleton.mp hret])
  · intro ret hret hframe
    rcases List.mem_append.mp hret with hret | hret
    · exact Nat.le_trans (h.returns.before ret hret hframe) hbarrier
    · exact Nat.le_of_eq (by rw [List.mem_singleton.mp hret])
  · intro ret hret g hg
    rcases List.mem_append.mp hret with hret | hret
    · exact h.returns.frames ret hret g hg
    · rw [List.mem_singleton.mp hret] at hg ⊢
      obtain rfl : f = g := UartProtocolReceiverResult.frame.inj hg
      exact hgenuine
  · refine List.pairwise_append.mpr ⟨h.returns.ordered, List.pairwise_singleton _ _, ?_⟩
    intro first hfirst second hsecond hframe _
    rw [List.mem_singleton.mp hsecond]
    exact Nat.le_trans (h.returns.before first hfirst hframe) hstart
  · refine List.pairwise_append.mpr ⟨h.returns.afterLoss, List.pairwise_singleton _ _, ?_⟩
    intro first hfirst second hsecond hoverflow _ k hk hlt
    rw [List.mem_singleton.mp hsecond]
    exact Nat.lt_of_lt_of_le (hloss first hfirst hoverflow k hk hlt) hstart

theorem advance_tracked {r : ReceiverRun} (h : r.Tracked) : r.advance.Tracked := by
  cases hp : r.receiver.point with
  | idle =>
    have hstep : r.advance = { r with receiver := { r.receiver with point := .entryCheck } } := by
      simp [advance, UartProtocolReceiver.advance, hp]
    rw [hstep]
    exact goto_tracked h .entryCheck (by rw [hp]; rfl) (fun _ _ _ => trivial) (by simp) (by simp [hp])
      nofun nofun
  | entryCheck =>
    have hstep : r.advance = { r with receiver := r.receiver.handleOverflow .popOverflowed } := by
      simp [advance, UartProtocolReceiver.advance, hp]
    rw [hstep]
    exact handleOverflow_tracked h .popOverflowed (by rw [hp]; rfl) rfl (fun _ => trivial) (by simp)
      (by simp [hp]) nofun
  | popOverflowed => exact popOverflowed_tracked h hp
  | popEmpty => exact popEmpty_tracked h hp
  | popRead => exact popRead_tracked h hp
  | popAdvance byte => exact popAdvance_tracked h byte hp
  | feed byte => exact feed_tracked h byte hp
  | frameCheck f =>
    have hstep : r.advance =
        { r with receiver := r.receiver.handleOverflow (.returning (.frame f)) } := by
      simp [advance, UartProtocolReceiver.advance, hp]
    rw [hstep]
    exact handleOverflow_tracked h _ (by rw [hp]; rfl) rfl (fun _ => trivial) (by simp)
      (by simp [hp]) (fun _ hf => by rw [hp]; exact hf)
  | finalCheck =>
    have hstep : r.advance = { r with receiver := r.receiver.handleOverflow (.returning .none) } := by
      simp [advance, UartProtocolReceiver.advance, hp]
    rw [hstep]
    exact handleOverflow_tracked h _ (by rw [hp]; rfl) rfl (fun _ => trivial) (by simp)
      (by simp [hp]) nofun
  | resetLatch => exact resetLatch_tracked h hp
  | resetRead => exact resetRead_tracked h hp
  | resetRelease => exact resetRelease_tracked h hp
  | resetDecoder => exact resetDecoder_tracked h hp
  | returning result =>
    cases result with
    | none => exact returning_tracked h .none hp (by simp)
    | frame f => exact returningFrame_tracked h f hp
    | overflow => exact returning_tracked h .overflow hp (by simp)
    | invalidArgument => exact returning_tracked h .invalidArgument hp (by simp)

theorem moves_tracked {r : ReceiverRun} (h : r.Tracked) (ms : List ReceiverMove) :
    (r.moves ms).Tracked := by
  induction ms generalizing r with
  | nil => exact h
  | cons m ms ih =>
    apply ih
    cases m with
    | push byte => exact push_tracked h byte
    | advance => exact advance_tracked h

theorem init_tracked : Tracked {} :=
  ⟨init_queueTracked, init_decoderTracked, init_lossTracked, init_returnsTracked⟩

/-- However the interrupt comes between the steps of the polls, a frame that is returned was
offered as one block, the blocks follow one another, and none reaches back over a byte that had
been refused when an overflow was reported before it. -/
theorem receiver_returns_contiguous_frames (ms : List ReceiverMove) :
    (∀ ret ∈ (moves {} ms).returns, ∀ f, ret.result = .frame f →
      f.payloadLength ≤ maxPayloadSize ∧ ret.position = ret.start + (10 + f.payloadLength.toNat) ∧
        ret.position ≤ (moves {} ms).offered.length ∧
        ((moves {} ms).offered.take ret.position).drop ret.start = protocolFrameEncode f) ∧
      (moves {} ms).returns.Pairwise (fun first second =>
        first.isFrame → second.isFrame → first.position ≤ second.start) ∧
      (moves {} ms).returns.Pairwise (fun first second =>
        first.result = .overflow → second.isFrame →
          ∀ k ∈ (moves {} ms).refused, k < first.offered → k < second.start) := by
  have h := (moves_tracked init_tracked ms).returns
  refine ⟨?_, h.ordered, h.afterLoss⟩
  intro ret hret f hf
  have hgenuine := h.frames ret hret f hf
  have hfits := hgenuine.afterReset
  have hstart : ret.start = (FrameReport.mk f 0 ret.position).start := by
    simp [PollReturn.start, hf, FrameReport.start]
  simp only at hfits
  refine ⟨hgenuine.length, ?_, hgenuine.received, ?_⟩
  · rw [hstart, FrameReport.start]
    simp only
    omega
  · rw [hstart]
    exact hgenuine.encoded

end ReceiverRun

end IndoorRobot
