import IndoorRobot.UartProtocolReceiver
import IndoorRobot.UartRxPort

/-!
# From the UART to the frames the main loop reads

The DMA channel writes received bytes into the ring buffer, the event callback moves
them to the queue, and `uart_protocol_receiver_poll` takes them from there to the
decoder; the three run beside one another. The callback stops at the first byte the
queue refuses, but the latch would have refused the others too. So an event is as good
as the pushes of all its bytes, and the whole path is a run of the receiver in which
the interrupt offers what the UART has received.
-/
namespace IndoorRobot

namespace UartRxQueue

/-- The queue after some pushes, whatever they answered. -/
def pushEach (q : UartRxQueue) (bytes : List UInt8) : UartRxQueue :=
  bytes.foldl (fun q byte => (q.push byte).2) q

theorem pushEach_append (q : UartRxQueue) (first second : List UInt8) :
    q.pushEach (first ++ second) = (q.pushEach first).pushEach second := by
  simp [pushEach]

/-- A latched queue stays as it is. -/
theorem pushEach_latched {q : UartRxQueue} (h : q.overflowed = true) (bytes : List UInt8) :
    q.pushEach bytes = q := by
  induction bytes with
  | nil => rfl
  | cons byte rest ih =>
    have hpush : (q.push byte).2 = q := by simp [push, h]
    change pushEach (q.push byte).2 rest = q
    rw [hpush, ih]

theorem push_refused_latched {q : UartRxQueue} {byte : UInt8} (h : (q.push byte).1 = false) :
    (q.push byte).2.overflowed = true := by
  by_cases hover : q.overflowed = true
  · simp [push, hover]
  · by_cases hfull : q.writeCount - q.readCount ≥ 256
    · simp [push, hover, hfull]
    · simp [push, hover, hfull] at h

end UartRxQueue

namespace UartRxPort

variable {p : UartRxPort} {q : UartRxQueue}

/-- The loop ends at a refusal, after which the queue would not have changed any more. -/
theorem pushAll_queue (hq : p.rxQueue = some q) (bytes : List UInt8) :
    (p.pushAll bytes).2.rxQueue = some (q.pushEach bytes) ∧
      ((p.pushAll bytes).1 = false → (q.pushEach bytes).overflowed = true) := by
  induction bytes generalizing p q with
  | nil => exact ⟨hq, by simp [pushAll]⟩
  | cons byte rest ih =>
    change _ = some ((q.push byte).2.pushEach rest) ∧
      (_ → ((q.push byte).2.pushEach rest).overflowed = true)
    cases haccepted : (q.push byte).1 with
    | false =>
      have hlatch := UartRxQueue.push_refused_latched haccepted
      rw [UartRxQueue.pushEach_latched hlatch]
      exact ⟨by simp [pushAll, push, hq, haccepted], fun _ => hlatch⟩
    | true =>
      let next : UartRxPort := { p with
        rxQueue := some (q.push byte).2
        pushes := p.pushes ++ [(byte, true)] }
      have hall : p.pushAll (byte :: rest) = next.pushAll rest := by
        simp [pushAll, push, hq, haccepted, next]
      rw [hall]
      exact ih rfl

theorem enqueueRange_queue (hq : p.rxQueue = some q) (dmaBuffer : Vector UInt8 128)
    {first last : UInt16} (horder : first ≤ last) (hlast : last ≤ dmaBufferSize) :
    (p.enqueueRange dmaBuffer first last).2.rxQueue =
        some (q.pushEach ((dmaBuffer.toList.take last.toNat).drop first.toNat)) ∧
      ((p.enqueueRange dmaBuffer first last).1 = false →
        (q.pushEach ((dmaBuffer.toList.take last.toNat).drop first.toNat)).overflowed = true) := by
  have hvalid : ¬ (p.rxQueue.isNone ∨ first > last ∨ last > dmaBufferSize) := by
    simp only [not_or, gt_iff_lt, UInt16.not_lt]
    exact ⟨by simp [hq], horder, hlast⟩
  rw [enqueueRange, if_neg hvalid]
  exact pushAll_queue hq _

/-- An event is as good as the pushes of all bytes since the previous one. -/
theorem Between.rxQueue {fresh : List UInt8} {dmaBuffer : Vector UInt8 128} {size : UInt16}
    (h : Between p.previousPosition.toNat size.toNat fresh dmaBuffer) (hq : p.rxQueue = some q)
    (hprevious : p.previousPosition.toNat ≤ 128) (hsize : size.toNat ≤ 128) :
    (p.rxEventCallback dmaBuffer true size).rxQueue = some (q.pushEach fresh) ∧
      (p.rxEventCallback dmaBuffer true size).previousPosition = size := by
  have hfits : size ≤ dmaBufferSize := UInt16.le_iff_toNat_le.mpr hsize
  have hvalid : ¬ (¬ true = true ∨ p.rxQueue.isNone ∨ size > dmaBufferSize) := by
    simp only [not_true_eq_false, false_or, not_or, gt_iff_lt, UInt16.not_lt]
    exact ⟨by simp [hq], hfits⟩
  rw [UartRxPort.rxEventCallback, if_neg hvalid]
  refine ⟨?_, rfl⟩
  cases h with
  | ahead horder hbytes =>
    have hrange := (enqueueRange_queue hq dmaBuffer
      (UInt16.le_iff_toNat_le.mpr (Nat.le_of_lt horder)) hfits).1
    rw [hbytes] at hrange
    simpa only [gt_iff_lt, UInt16.lt_iff_toNat_lt, horder, if_true] using hrange
  | wrapped horder hbytes =>
    obtain ⟨hend, hlatch⟩ := enqueueRange_queue hq dmaBuffer (UInt16.le_iff_toNat_le.mpr hprevious)
      (UInt16.le_refl dmaBufferSize)
    have hzero : 0 ≤ size := UInt16.le_iff_toNat_le.mpr (Nat.zero_le size.toNat)
    have hstart := (enqueueRange_queue hend dmaBuffer hzero hfits).1
    rw [← UartRxQueue.pushEach_append, show (dmaBuffer.toList.take dmaBufferSize.toNat).drop
      p.previousPosition.toNat ++ (dmaBuffer.toList.take size.toNat).drop (UInt16.toNat 0) = fresh
      from hbytes] at hstart
    simp only [gt_iff_lt, UInt16.lt_iff_toNat_lt, Nat.not_lt_of_lt horder, horder, if_true,
      if_false]
    cases hdone : (p.enqueueRange dmaBuffer p.previousPosition dmaBufferSize).1 with
    | true => exact hstart
    | false =>
      -- The start of the buffer is not read then; the latch would have refused it.
      rw [show dmaBufferSize.toNat = 128 from rfl] at hend hlatch
      rw [← hbytes, UartRxQueue.pushEach_append, UartRxQueue.pushEach_latched (hlatch hdone)]
      exact hend
  | still hsame hbytes =>
    simp only [gt_iff_lt, UInt16.lt_iff_toNat_lt, hsame, Nat.lt_irrefl, if_false, hbytes]
    exact hq

end UartRxPort

/-- The receive path: the buffer, the static state of the port, and the receiver with the queue
both share. Beside it, what the UART has received, how much of it the events have told the port,
how many bytes the polls have taken and what they have returned. -/
structure ReceivePath where
  dmaBuffer : Vector UInt8 128 := .replicate 128 0
  previousPosition : UInt16 := 0
  receiver : UartProtocolReceiver := {}
  received : List UInt8 := []
  announced : ℕ := 0
  popped : ℕ := 0
  returned : List UartProtocolReceiverResult := []

/-- The UART receives a byte, an event tells the port of the first `upTo` bytes, there is an event
of another UART, or the main loop makes a step. -/
inductive ReceiveStep where
  | byte (byte : UInt8)
  | event (upTo : ℕ)
  | foreign (size : UInt16)
  | poll

namespace ReceivePath

/-- The port with the queue it pushes to. -/
def port (p : ReceivePath) : UartRxPort where
  rxQueue := some p.receiver.queue
  previousPosition := p.previousPosition

/-- `HAL_UARTEx_RxEventCallback`, as the interrupt calls it. -/
def rxEventCallback (usart2 : Bool) (size : UInt16) (p : ReceivePath) : ReceivePath :=
  let port := p.port.rxEventCallback p.dmaBuffer usart2 size
  { p with
    previousPosition := port.previousPosition
    receiver := { p.receiver with queue := port.rxQueue.getD p.receiver.queue } }

def step (p : ReceivePath) : ReceiveStep → ReceivePath
  | .byte byte =>
    { p with
      dmaBuffer := p.dmaBuffer.set (p.received.length % 128) byte
      received := p.received ++ [byte] }
  | .event upTo =>
    { p.rxEventCallback true (UInt16.ofNat (UartRxPort.writePosition upTo)) with announced := upTo }
  | .foreign size => p.rxEventCallback false size
  | .poll =>
    let next := { p with receiver := p.receiver.advance }
    match p.receiver.point with
    | .popAdvance _ => { next with popped := p.popped + 1 }
    | .returning result => { next with returned := p.returned ++ [result] }
    | _ => next

/-- What the hardware sees to. The UART does not run over bytes that no event has told the port of,
and an event does not pass over a full round; only the first one may. A half-transfer event may
report a position that the UART has left behind already. -/
def Allowed (p : ReceivePath) : ReceiveStep → Prop
  | .byte _ => p.received.length < p.announced + 128
  | .event upTo => 0 < upTo ∧ p.announced ≤ upTo ∧ upTo ≤ p.received.length ∧
      (upTo < p.announced + 128 ∨ p.announced = 0)
  | _ => True

instance (p : ReceivePath) : (s : ReceiveStep) → Decidable (p.Allowed s)
  | .byte _ => inferInstanceAs (Decidable (_ < _))
  | .event _ => inferInstanceAs (Decidable (_ ∧ _))
  | .foreign _ => inferInstanceAs (Decidable True)
  | .poll => inferInstanceAs (Decidable True)

/-- The states the path reaches by steps that are `ok`. -/
inductive Reaches (ok : ReceivePath → ReceiveStep → Prop) : ReceivePath → Prop where
  | start : Reaches ok {}
  | step {p : ReceivePath} (h : Reaches ok p) (s : ReceiveStep) (hs : ok p s) : Reaches ok (p.step s)

/-! ### The path as a run of the receiver -/

/-- The buffer holds the last round of bytes. -/
def Buffered (p : ReceivePath) : Prop :=
  ∀ k byte, p.received[k]? = some byte → p.received.length ≤ k + 128 →
    p.dmaBuffer.toList[k % 128]? = some byte

/-- The path stands where a run of the receiver does that was offered the announced bytes. -/
structure Simulates (p : ReceivePath) (r : ReceiverRun) : Prop where
  receiver : p.receiver = r.receiver
  offered : r.offered = p.received.take p.announced
  returned : p.returned = r.returns.map PollReturn.result
  announced : p.announced ≤ p.received.length
  unread : p.received.length ≤ p.announced + 128
  buffered : p.Buffered
  follows : p.port.Follows (p.received.take p.announced)

theorem start_simulates : Simulates {} {} where
  receiver := rfl
  offered := rfl
  returned := rfl
  announced := Nat.le_refl _
  unread := Nat.zero_le _
  buffered := by simp [Buffered]
  follows := ⟨rfl, rfl⟩

/-- The UART writes behind the bytes of the last round. -/
theorem byte_buffered {p : ReceivePath} (h : p.Buffered) (byte : UInt8) :
    (p.step (.byte byte)).Buffered := by
  intro k old hk hround
  simp only [step, List.length_append, List.length_singleton] at hk hround ⊢
  rw [Vector.toList_set]
  by_cases hlast : k < p.received.length
  · rw [List.getElem?_append_left hlast] at hk
    rw [List.getElem?_set_ne (by omega)]
    exact h k old hk (by omega)
  · have hlength := (List.getElem?_eq_some_iff.mp hk).1
    rw [List.length_append, List.length_singleton] at hlength
    obtain rfl : k = p.received.length := by omega
    rw [List.getElem?_concat_length] at hk
    rw [List.getElem?_set_self (by simp; omega)]
    exact hk

theorem byte_simulates {p : ReceivePath} {r : ReceiverRun} (h : p.Simulates r) (byte : UInt8)
    (hs : p.Allowed (.byte byte)) : (p.step (.byte byte)).Simulates r := by
  have hroom : p.received.length < p.announced + 128 := hs
  have htake : (p.received ++ [byte]).take p.announced = p.received.take p.announced :=
    List.take_append_of_le_length h.announced
  have hlength : (p.received ++ [byte]).length = p.received.length + 1 := by simp
  refine ⟨h.receiver, ?_, h.returned, ?_, ?_, byte_buffered h.buffered byte, ?_⟩
  · exact h.offered.trans htake.symm
  · exact Nat.le_trans h.announced (by simp [step])
  · change (p.received ++ [byte]).length ≤ p.announced + 128
    omega
  · change p.port.Follows ((p.received ++ [byte]).take p.announced)
    rw [htake]
    exact h.follows

/-- What an event finds is what came since the one before it. -/
theorem event_delivers {p : ReceivePath} {r : ReceiverRun} (h : p.Simulates r) {upTo : ℕ}
    (hs : p.Allowed (.event upTo)) :
    UartRxPort.Delivers (p.received.take p.announced) ((p.received.take upTo).drop p.announced)
      p.dmaBuffer := by
  obtain ⟨hpos, hfrom, hupTo, hfew⟩ := hs
  have hannounced := h.announced
  have hunread := h.unread
  have hcount : ((p.received.take upTo).drop p.announced).length = upTo - p.announced := by
    rw [List.length_drop, List.length_take, Nat.min_eq_left hupTo]
  refine ⟨?_, ?_, ?_⟩
  · intro hnil
    have hlength := congrArg List.length hnil
    simp only [List.length_append, hcount, List.length_take, List.length_nil] at hlength
    omega
  · rw [hcount]
    by_cases hfirst : p.announced = 0
    · have hfull : upTo - p.announced < 128 ∨ upTo - p.announced = 128 := by omega
      exact hfull.imp_right fun heq => ⟨by rw [hfirst]; rfl, heq⟩
    · exact .inl (by omega)
  · intro i byte hi
    rw [List.getElem?_drop, List.getElem?_take] at hi
    split_ifs at hi with hlt
    rw [List.length_take, Nat.min_eq_left h.announced]
    exact h.buffered _ byte hi (by omega)

/-- The interrupt offers bytes one after the other. -/
theorem moves_push (r : ReceiverRun) (bytes : List UInt8) :
    (r.moves (bytes.map .push)).receiver =
        { r.receiver with queue := r.receiver.queue.pushEach bytes } ∧
      (r.moves (bytes.map .push)).offered = r.offered ++ bytes ∧
      (r.moves (bytes.map .push)).returns = r.returns := by
  induction bytes generalizing r with
  | nil => exact ⟨rfl, (List.append_nil _).symm, rfl⟩
  | cons byte rest ih =>
    obtain ⟨hreceiver, hoffered, hreturns⟩ := ih (r.push byte)
    refine ⟨hreceiver, ?_, hreturns⟩
    change ((r.push byte).moves (rest.map .push)).offered = _
    rw [hoffered]
    exact List.append_assoc _ _ _

theorem event_simulates {p : ReceivePath} {r : ReceiverRun} (h : p.Simulates r) {upTo : ℕ}
    (hs : p.Allowed (.event upTo)) :
    (p.step (.event upTo)).Simulates
      (r.moves (((p.received.take upTo).drop p.announced).map .push)) := by
  have hsplit : p.received.take p.announced ++ (p.received.take upTo).drop p.announced =
      p.received.take upTo := by
    obtain ⟨-, hfrom, -, -⟩ := hs
    have hfirst := List.take_append_drop p.announced (p.received.take upTo)
    rwa [List.take_take, Nat.min_eq_left hfrom] at hfirst
  have hdelivers := event_delivers h hs
  have hbetween := h.follows.between hdelivers
  have hnew := (h.follows.rxEventCallback hdelivers).choose_spec.choose_spec.2.2
  obtain ⟨hpos, hfrom, hupTo, hfew⟩ := hs
  have hlength : (p.received.take upTo).length = upTo := by
    rw [List.length_take, Nat.min_eq_left hupTo]
  rw [hsplit, hlength] at hbetween hnew
  have hbounds := UartRxPort.writePosition_bounds upTo
  have hposition : (UInt16.ofNat (UartRxPort.writePosition upTo)).toNat =
      UartRxPort.writePosition upTo := by
    rw [UInt16.toNat_ofNat', Nat.mod_eq_of_lt (by omega)]
  rw [← hposition] at hbetween
  obtain ⟨hqueue, hsize⟩ := hbetween.rxQueue rfl h.follows.previous_le (by omega)
  obtain ⟨hreceiver, hoffered, hreturns⟩ :=
    moves_push r ((p.received.take upTo).drop p.announced)
  refine ⟨?_, ?_, ?_, hupTo, ?_, h.buffered, ⟨rfl, hnew.position⟩⟩
  · rw [hreceiver, ← h.receiver]
    simp only [step, rxEventCallback, hqueue, Option.getD_some]
  · rw [hoffered, h.offered]
    exact hsplit
  · rw [hreturns]
    exact h.returned
  · exact Nat.le_trans h.unread (Nat.add_le_add_right hfrom 128)

theorem foreign_step (p : ReceivePath) (size : UInt16) : p.step (.foreign size) = p := by
  simp [step, rxEventCallback, UartRxPort.rxEventCallback, port]

theorem poll_simulates {p : ReceivePath} {r : ReceiverRun} (h : p.Simulates r) :
    (p.step .poll).Simulates r.advance := by
  have hfollows : ∀ next : ReceivePath, next.previousPosition = p.previousPosition →
      next.port.Follows (p.received.take p.announced) := by
    intro next hnext
    exact ⟨rfl, by rw [port, hnext]; exact h.follows.position⟩
  have hreturned := h.returned
  obtain ⟨hreceiver, hoffered⟩ := And.intro h.receiver h.offered
  cases hp : r.receiver.point with
  | returning result =>
    simp only [step, ReceiverRun.advance, hreceiver, hp]
    exact ⟨rfl, hoffered, by simp [hreturned], h.announced, h.unread, h.buffered, hfollows _ rfl⟩
  | _ =>
    simp only [step, ReceiverRun.advance, hreceiver, hp]
    exact ⟨rfl, hoffered, hreturned, h.announced, h.unread, h.buffered, hfollows _ rfl⟩

/-- Every run of the path is one of the receiver, with the announced bytes as those offered. -/
theorem Reaches.simulates {p : ReceivePath} (h : Reaches Allowed p) :
    ∃ ms, p.Simulates (ReceiverRun.moves {} ms) := by
  induction h with
  | start => exact ⟨[], start_simulates⟩
  | step h s hs ih =>
    obtain ⟨ms, hsim⟩ := ih
    cases s with
    | byte byte => exact ⟨ms, byte_simulates hsim byte hs⟩
    | event upTo =>
      have hnext := event_simulates hsim hs
      rw [ReceiverRun.moves, ReceiverRun.moves, ← List.foldl_append] at hnext
      exact ⟨_, hnext⟩
    | foreign size =>
      rw [foreign_step]
      exact ⟨ms, hsim⟩
    | poll =>
      refine ⟨ms ++ [.advance], ?_⟩
      rw [ReceiverRun.moves, List.foldl_append]
      exact poll_simulates hsim

/-- However the bytes, the events and the steps of the polls interleave, and whether the queue has
overflowed or not, the returned frames lie in what the UART received, each as one block that some
event has told of and the blocks one behind the other. -/
theorem returned_frames_are_received_blocks {p : ReceivePath} (h : Reaches Allowed p) :
    ∃ returns : List PollReturn, returns.map PollReturn.result = p.returned ∧
      (∀ ret ∈ returns, ∀ f, ret.result = .frame f →
        f.payloadLength ≤ ProtocolFrameFormat.maxPayloadSize ∧
          ret.position = ret.start + (10 + f.payloadLength.toNat) ∧ ret.position ≤ p.announced ∧
          (p.received.take ret.position).drop ret.start = protocolFrameEncode f) ∧
      returns.Pairwise fun first second =>
        first.isFrame → second.isFrame → first.position ≤ second.start := by
  obtain ⟨ms, hsim⟩ := h.simulates
  have htracked := (ReceiverRun.moves_tracked ReceiverRun.init_tracked ms).returns
  have hlength : (ReceiverRun.moves {} ms).offered.length = p.announced := by
    rw [hsim.offered, List.length_take, Nat.min_eq_left hsim.announced]
  refine ⟨_, hsim.returned.symm, ?_, htracked.ordered⟩
  intro ret hret f hf
  have hgenuine := htracked.frames ret hret f hf
  have hstart : (FrameReport.mk f 0 ret.position).start = ret.start := by
    simp [PollReturn.start, hf, FrameReport.start]
  have hfits := hgenuine.afterReset
  have hreceived : ret.position ≤ p.announced := Nat.le_trans hgenuine.received (Nat.le_of_eq hlength)
  have hencoded := hgenuine.encoded
  rw [hstart] at hencoded
  simp only [hsim.offered, List.take_take, Nat.min_eq_left hreceived] at hencoded
  refine ⟨hgenuine.length, ?_, hreceived, hencoded⟩
  rw [← hstart, FrameReport.start]
  simp only at hfits ⊢
  omega

/-- The state after some steps, if each of them is `ok`. -/
def run (ok : ReceivePath → ReceiveStep → Prop) [∀ p s, Decidable (ok p s)] (p : ReceivePath) :
    List ReceiveStep → Option ReceivePath
  | [] => some p
  | s :: rest => if ok p s then run ok (p.step s) rest else none

theorem Reaches.run {ok : ReceivePath → ReceiveStep → Prop} [∀ p s, Decidable (ok p s)]
    {p p' : ReceivePath} (h : Reaches ok p) {steps : List ReceiveStep}
    (hsteps : ReceivePath.run ok p steps = some p') : Reaches ok p' := by
  induction steps generalizing p with
  | nil => exact Option.some.inj hsteps ▸ h
  | cons s rest ih =>
    rw [ReceivePath.run] at hsteps
    split_ifs at hsteps with hs
    exact ih (h.step s hs) hsteps

/-- A heartbeat that is announced in two parts, with a poll under way at the second event. -/
def heartbeatRun : List ReceiveStep :=
  let bytes := protocolFrameEncode { messageType := .heartbeat }
  (bytes.take 6).map .byte ++ [.event 6] ++ List.replicate 20 .poll ++ (bytes.drop 6).map .byte ++
    [.foreign 3, .event 10] ++ List.replicate 34 .poll

theorem returned_frames_are_received_blocks_heartbeat :
    ∃ p : ReceivePath, p.returned = [.frame { messageType := .heartbeat }] ∧
      ∃ returns : List PollReturn, returns.map PollReturn.result = p.returned ∧
        ∀ ret ∈ returns, ∀ f, ret.result = .frame f →
          (p.received.take ret.position).drop ret.start = protocolFrameEncode f := by
  have hrun : (run Allowed {} heartbeatRun).map returned =
      some [.frame { messageType := .heartbeat }] := by
    decide +kernel
  obtain ⟨p, hp, hreturned⟩ := Option.map_eq_some_iff.mp hrun
  obtain ⟨returns, hreturns, hblocks, -⟩ :=
    returned_frames_are_received_blocks (Reaches.start.run hp)
  exact ⟨p, hreturned, returns, hreturns, fun ret hret f hf => (hblocks ret hret f hf).2.2.2⟩

end ReceivePath

end IndoorRobot
