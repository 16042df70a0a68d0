import IndoorRobot.UartRxQueue

/-!
# The DMA ring between the UART and the receive queue

`uart_rx_port_stm32.c`. The UART writes the received bytes round and round into a
buffer of 128 bytes; an event callback tells how far it has come, and the bytes since
the previous event are pushed to the queue in one range or in two. The end of the buffer
is reported as position 128, never as position 0.
-/
namespace IndoorRobot

/-- The file-static state of the port: the queue behind `rx_queue`, once there is one. The calls
of `uart_rx_queue_push` are recorded with their answers. -/
structure UartRxPort where
  rxQueue : Option UartRxQueue := none
  previousPosition : UInt16 := 0
  pushes : List (UInt8 × Bool) := []

namespace UartRxPort

def dmaBufferSize : UInt16 := 128

/-- One call of `uart_rx_queue_push`. -/
def push (p : UartRxPort) (byte : UInt8) : Bool × UartRxPort :=
  match p.rxQueue with
  | none => (false, p)
  | some queue =>
    let (accepted, queue) := queue.push byte
    (accepted, { p with rxQueue := some queue, pushes := p.pushes ++ [(byte, accepted)] })

/-- The loop of `uart_rx_port_enqueue_range` over the bytes it reads. -/
def pushAll (p : UartRxPort) : List UInt8 → Bool × UartRxPort
  | [] => (true, p)
  | byte :: rest =>
    let (accepted, p) := p.push byte
    if ¬ accepted then (false, p) else p.pushAll rest

/-- `uart_rx_port_enqueue_range`, with the DMA buffer as it reads it. -/
def enqueueRange (dmaBuffer : Vector UInt8 128) (first last : UInt16) (p : UartRxPort) :
    Bool × UartRxPort :=
  if p.rxQueue.isNone ∨ first > last ∨ last > dmaBufferSize then (false, p)
  else p.pushAll ((dmaBuffer.toList.take last.toNat).drop first.toNat)

/-- `HAL_UARTEx_RxEventCallback`, for USART2 or another one. -/
def rxEventCallback (dmaBuffer : Vector UInt8 128) (usart2 : Bool) (size : UInt16)
    (p : UartRxPort) : UartRxPort :=
  if ¬ usart2 ∨ p.rxQueue.isNone ∨ size > dmaBufferSize then p
  else
    let p :=
      if size > p.previousPosition then (p.enqueueRange dmaBuffer p.previousPosition size).2
      else if size < p.previousPosition then
        let (done, p) := p.enqueueRange dmaBuffer p.previousPosition dmaBufferSize
        if done then (p.enqueueRange dmaBuffer 0 size).2 else p
      else p
    { p with previousPosition := size }

/-- `uart_rx_port_init`, for a UART that is USART2 or not and a reception that starts or not. -/
def init (usart2 started : Bool) (p : UartRxPort) : Bool × UartRxPort :=
  if ¬ usart2 then (false, p)
  else if ¬ started then (false, { p with rxQueue := none, previousPosition := 0 })
  else (true, { p with rxQueue := some {}, previousPosition := 0 })

/-- The calls made for some bytes: each is accepted, or the first refusal is the last call. -/
inductive Enqueued : List UInt8 → Bool → List (UInt8 × Bool) → Prop where
  | all (bytes : List UInt8) : Enqueued bytes true (bytes.map (·, true))
  | refused (front : List UInt8) (byte : UInt8) (rest : List UInt8) :
      Enqueued (front ++ byte :: rest) false (front.map (·, true) ++ [(byte, false)])

namespace Enqueued

variable {bytes more : List UInt8} {done : Bool} {calls later : List (UInt8 × Bool)}

theorem append (h : Enqueued bytes true calls) (h' : Enqueued more done later) :
    Enqueued (bytes ++ more) done (calls ++ later) := by
  cases h with
  | all =>
    cases h' with
    | all => simpa using all (bytes ++ more)
    | refused front byte rest => simpa using refused (bytes ++ front) byte rest

theorem skip (h : Enqueued bytes false calls) (more : List UInt8) :
    Enqueued (bytes ++ more) false calls := by
  cases h with
  | refused front byte rest => simpa using refused front byte (rest ++ more)

theorem isPrefix (h : Enqueued bytes done calls) : calls.map Prod.fst <+: bytes := by
  cases h with
  | all => simp [Function.comp_def]
  | refused front byte rest => exact ⟨rest, by simp [Function.comp_def]⟩

/-- Nothing is pushed after a refusal. -/
theorem refused_last (h : Enqueued bytes done calls) {before after : List (UInt8 × Bool)}
    {byte : UInt8} (hcalls : calls = before ++ (byte, false) :: after) : after = [] := by
  cases h with
  | all =>
    have hmem : (byte, false) ∈ bytes.map (·, true) := by simp [hcalls]
    simp at hmem
  | refused front last rest =>
    rcases List.append_eq_append_iff.mp hcalls with ⟨inner, -, htail⟩ | ⟨inner, hfront, htail⟩
    · cases inner with
      | nil => simpa using (List.cons.inj htail).2.symm
      | cons x inner => simp at htail
    · cases inner with
      | nil => simpa using (List.cons.inj htail).2
      | cons x inner =>
        obtain ⟨rfl, -⟩ := List.cons.inj htail
        have hmem : (byte, false) ∈ front.map (·, true) := by simp [hfront]
        simp at hmem

theorem bytes_eq (h : Enqueued bytes done calls) (haccepted : ∀ x ∈ calls, x.2 = true) :
    calls.map Prod.fst = bytes := by
  cases h with
  | all => simp [Function.comp_def]
  | refused front byte rest => simpa using haccepted (byte, false) (by simp)

end Enqueued

/-- What some pushes do to the port. -/
structure Pushed (p : UartRxPort) (bytes : List UInt8) (result : Bool × UartRxPort) : Prop where
  calls : ∃ calls, result.2.pushes = p.pushes ++ calls ∧ Enqueued bytes result.1 calls
  position : result.2.previousPosition = p.previousPosition
  queue : result.2.rxQueue.isSome

variable {p : UartRxPort} {bytes more : List UInt8}

theorem pushAll_pushed (hp : p.rxQueue.isSome) (bytes : List UInt8) :
    Pushed p bytes (p.pushAll bytes) := by
  induction bytes generalizing p with
  | nil => exact ⟨⟨[], by simp [pushAll], .all []⟩, rfl, hp⟩
  | cons byte rest ih =>
    obtain ⟨queue, hqueue⟩ := Option.isSome_iff_exists.mp hp
    cases haccepted : (queue.push byte).1 with
    | false =>
      have hall : p.pushAll (byte :: rest) = (false, { p with
          rxQueue := some (queue.push byte).2
          pushes := p.pushes ++ [(byte, false)] }) := by
        simp [pushAll, push, hqueue, haccepted]
      rw [hall]
      exact ⟨⟨_, rfl, .refused [] byte rest⟩, rfl, rfl⟩
    | true =>
      let next : UartRxPort := { p with
        rxQueue := some (queue.push byte).2
        pushes := p.pushes ++ [(byte, true)] }
      have hall : p.pushAll (byte :: rest) = next.pushAll rest := by
        simp [pushAll, push, hqueue, haccepted, next]
      obtain ⟨⟨calls, hcalls, henqueued⟩, hposition, hsome⟩ := ih (p := next) rfl
      rw [hall]
      refine ⟨⟨(byte, true) :: calls, by simp [hcalls, next], ?_⟩, hposition, hsome⟩
      exact (Enqueued.all [byte]).append henqueued

theorem enqueueRange_pushed (hp : p.rxQueue.isSome) (dmaBuffer : Vector UInt8 128)
    {first last : UInt16} (horder : first ≤ last) (hlast : last ≤ dmaBufferSize) :
    Pushed p ((dmaBuffer.toList.take last.toNat).drop first.toNat)
      (p.enqueueRange dmaBuffer first last) := by
  have hvalid : ¬ (p.rxQueue.isNone ∨ first > last ∨ last > dmaBufferSize) := by
    simp only [not_or, gt_iff_lt, UInt16.not_lt]
    exact ⟨by simpa [Option.isSome_iff_ne_none] using hp, horder, hlast⟩
  rw [enqueueRange, if_neg hvalid]
  exact pushAll_pushed hp _

/-- The second range follows the first if that one was taken whole. -/
theorem Pushed.andThen {result : Bool × UartRxPort} (h : Pushed p bytes result)
    {next : UartRxPort → Bool × UartRxPort}
    (hnext : ∀ p : UartRxPort, p.rxQueue.isSome → Pushed p more (next p)) :
    ∃ done, Pushed p (bytes ++ more)
      (done, if result.1 then (next result.2).2 else result.2) := by
  obtain ⟨done, q⟩ := result
  obtain ⟨⟨calls, hcalls, henqueued⟩, hposition, hqueue⟩ := h
  cases done with
  | false => exact ⟨false, ⟨calls, hcalls, henqueued.skip more⟩, hposition, hqueue⟩
  | true =>
    obtain ⟨⟨later, hlater, henqueued'⟩, hposition', hqueue'⟩ := hnext q hqueue
    refine ⟨(next q).1, ⟨calls ++ later, ?_, henqueued.append henqueued'⟩,
      hposition'.trans hposition, hqueue'⟩
    rw [if_pos rfl, hlater, hcalls, List.append_assoc]

/-! ### Where the UART has come to -/

/-- The position the UART reports once it has written `total` bytes. -/
def writePosition (total : ℕ) : ℕ := if total % 128 = 0 then 128 else total % 128

/-- The bytes since the previous event are in the buffer. A full round must not pass unseen; the
first one may, as the port starts from position 0. -/
structure Delivers (received fresh : List UInt8) (dmaBuffer : Vector UInt8 128) : Prop where
  begun : received ++ fresh ≠ []
  few : fresh.length < 128 ∨ received = [] ∧ fresh.length = 128
  held : ∀ i byte, fresh[i]? = some byte →
    dmaBuffer.toList[(received.length + i) % 128]? = some byte

/-- The bytes in a range of the buffer. -/
theorem range_eq {dmaBuffer : Vector UInt8 128} {xs : List UInt8} {first last : ℕ}
    (hlength : first + xs.length = last)
    (hheld : ∀ i byte, xs[i]? = some byte → dmaBuffer.toList[first + i]? = some byte) :
    (dmaBuffer.toList.take last).drop first = xs := by
  apply List.ext_getElem?
  intro i
  rw [List.getElem?_drop, List.getElem?_take]
  by_cases hi : i < xs.length
  · rw [if_pos (by omega), List.getElem?_eq_getElem hi]
    exact hheld i _ (List.getElem?_eq_getElem hi)
  · rw [if_neg (by omega), List.getElem?_eq_none (by omega)]

/-- The two ranges of an event that has wrapped. -/
theorem ranges_eq {dmaBuffer : Vector UInt8 128} {xs : List UInt8} {first size : ℕ}
    (hfirst : first ≤ 128) (hlength : first + xs.length = 128 + size)
    (hheld : ∀ i byte, xs[i]? = some byte →
      dmaBuffer.toList[(first + i) % 128]? = some byte) (hsize : size < 128) :
    (dmaBuffer.toList.take 128).drop first ++ (dmaBuffer.toList.take size).drop 0 = xs := by
  have hend : (dmaBuffer.toList.take 128).drop first = xs.take (128 - first) := by
    apply range_eq
    · rw [List.length_take]
      omega
    · intro i byte hi
      rw [List.getElem?_take] at hi
      split_ifs at hi with hlt
      have hbyte := hheld i byte hi
      rwa [Nat.mod_eq_of_lt (by omega)] at hbyte
  have hstart : (dmaBuffer.toList.take size).drop 0 = xs.drop (128 - first) := by
    apply range_eq
    · rw [List.length_drop]
      omega
    · intro i byte hi
      rw [List.getElem?_drop] at hi
      have hlt := (List.getElem?_eq_some_iff.mp hi).1
      have hbyte := hheld _ byte hi
      rwa [show (first + (128 - first + i)) % 128 = 0 + i by omega] at hbyte
  rw [hend, hstart, List.take_append_drop]

theorem writePosition_bounds (total : ℕ) : 1 ≤ writePosition total ∧ writePosition total ≤ 128 ∧
    writePosition total % 128 = total % 128 := by
  rw [writePosition]
  split_ifs <;> omega

/-- The port knows where the previous event ended. -/
structure Follows (p : UartRxPort) (received : List UInt8) : Prop where
  queue : p.rxQueue.isSome
  position : p.previousPosition.toNat = if received = [] then 0 else writePosition received.length

/-- What the event at `size` finds between the two positions is `fresh`. -/
inductive Between (previous size : ℕ) (fresh : List UInt8) (dmaBuffer : Vector UInt8 128) : Prop where
  | ahead (horder : previous < size)
      (hbytes : (dmaBuffer.toList.take size).drop previous = fresh)
  | wrapped (horder : size < previous) (hbytes : (dmaBuffer.toList.take 128).drop previous ++
      (dmaBuffer.toList.take size).drop 0 = fresh)
  | still (hsame : size = previous) (hbytes : fresh = [])

variable {received fresh : List UInt8} {dmaBuffer : Vector UInt8 128}

theorem Follows.between (hp : p.Follows received) (h : Delivers received fresh dmaBuffer) :
    Between p.previousPosition.toNat (writePosition (received ++ fresh).length) fresh
      dmaBuffer := by
  obtain ⟨hlow, hhigh, hmod⟩ := writePosition_bounds (received ++ fresh).length
  have hbegun : 0 < received.length + fresh.length := by
    rw [← List.length_append]
    exact List.length_pos_iff.mpr h.begun
  have hfew : fresh.length < 128 ∨ received.length = 0 ∧ fresh.length = 128 := by
    simpa using h.few
  -- Position 0 stands for a port that has not had an event yet.
  have hprevious : (p.previousPosition.toNat = 0 ↔ received.length = 0) ∧
      p.previousPosition.toNat ≤ 128 ∧
      p.previousPosition.toNat % 128 = received.length % 128 := by
    have hbounds := writePosition_bounds received.length
    rw [hp.position]
    by_cases hnil : received = []
    · simp [hnil]
    · have hpos := List.length_pos_iff.mpr hnil
      rw [if_neg hnil]
      omega
  have hheld : ∀ i byte, fresh[i]? = some byte →
      dmaBuffer.toList[(p.previousPosition.toNat + i) % 128]? = some byte := by
    intro i byte hi
    rw [Nat.add_mod, hprevious.2.2, ← Nat.add_mod]
    exact h.held i byte hi
  rw [List.length_append] at hlow hhigh hmod ⊢
  generalize writePosition (received.length + fresh.length) = size at hlow hhigh hmod ⊢
  generalize p.previousPosition.toNat = previous at hprevious hheld ⊢
  rcases Nat.lt_trichotomy previous size with hlt | heq | hgt
  · refine .ahead hlt (range_eq (by omega) ?_)
    intro i byte hi
    have hin := (List.getElem?_eq_some_iff.mp hi).1
    have hbyte := hheld i byte hi
    rwa [Nat.mod_eq_of_lt (by omega)] at hbyte
  · exact .still heq.symm (List.eq_nil_of_length_eq_zero (by omega))
  · exact .wrapped hgt (ranges_eq (by omega) (by omega) hheld (by omega))

theorem Follows.previous_le (hp : p.Follows received) : p.previousPosition.toNat ≤ 128 := by
  rw [hp.position]
  split_ifs
  · exact Nat.zero_le _
  · exact (writePosition_bounds received.length).2.1

/-- In each of the three cases the callback makes some pushes and then stores the position. -/
theorem Between.rxEventCallback {size : UInt16}
    (h : Between p.previousPosition.toNat size.toNat fresh dmaBuffer) (hp : p.rxQueue.isSome)
    (hprevious : p.previousPosition.toNat ≤ 128) (hsize : size.toNat ≤ 128) :
    ∃ result, Pushed p fresh result ∧
      p.rxEventCallback dmaBuffer true size = { result.2 with previousPosition := size } := by
  have hfits : size ≤ dmaBufferSize := UInt16.le_iff_toNat_le.mpr hsize
  have hvalid : ¬ (¬ true = true ∨ p.rxQueue.isNone ∨ size > dmaBufferSize) := by
    simp only [not_true_eq_false, false_or, not_or, gt_iff_lt, UInt16.not_lt]
    exact ⟨by simpa [Option.isSome_iff_ne_none] using hp, hfits⟩
  rw [UartRxPort.rxEventCallback, if_neg hvalid]
  cases h with
  | ahead horder hbytes =>
    have hpushed := enqueueRange_pushed hp dmaBuffer
      (UInt16.le_iff_toNat_le.mpr (Nat.le_of_lt horder)) hfits
    rw [hbytes] at hpushed
    refine ⟨_, hpushed, ?_⟩
    simp only [gt_iff_lt, UInt16.lt_iff_toNat_lt, horder, if_true]
  | wrapped horder hbytes =>
    have hfirst := enqueueRange_pushed hp dmaBuffer (UInt16.le_iff_toNat_le.mpr hprevious)
      (UInt16.le_refl dmaBufferSize)
    have hzero : 0 ≤ size := UInt16.le_iff_toNat_le.mpr (Nat.zero_le size.toNat)
    obtain ⟨done, hpushed⟩ := hfirst.andThen fun q hq => enqueueRange_pushed hq dmaBuffer hzero hfits
    rw [show (dmaBuffer.toList.take dmaBufferSize.toNat).drop p.previousPosition.toNat ++
      (dmaBuffer.toList.take size.toNat).drop (UInt16.toNat 0) = fresh from hbytes] at hpushed
    refine ⟨_, hpushed, ?_⟩
    simp only [gt_iff_lt, UInt16.lt_iff_toNat_lt, Nat.not_lt_of_lt horder, horder, if_true,
      if_false]
  | still hsame hbytes =>
    have hpushed : Pushed p fresh (true, p) := by
      rw [hbytes]
      exact ⟨⟨[], by simp, .all []⟩, rfl, hp⟩
    refine ⟨_, hpushed, ?_⟩
    simp only [gt_iff_lt, UInt16.lt_iff_toNat_lt, hsame, Nat.lt_irrefl, if_false]

/-- An event pushes the bytes that have come since the one before it. -/
theorem Follows.rxEventCallback (hp : p.Follows received)
    (h : Delivers received fresh dmaBuffer) :
    ∃ done calls, (p.rxEventCallback dmaBuffer true
        (UInt16.ofNat (writePosition (received ++ fresh).length))).pushes = p.pushes ++ calls ∧
      Enqueued fresh done calls ∧
      (p.rxEventCallback dmaBuffer true
        (UInt16.ofNat (writePosition (received ++ fresh).length))).Follows (received ++ fresh) := by
  have hbetween := hp.between h
  have hhigh := (writePosition_bounds (received ++ fresh).length).2.1
  have hposition : (UInt16.ofNat (writePosition (received ++ fresh).length)).toNat =
      writePosition (received ++ fresh).length := by
    rw [UInt16.toNat_ofNat', Nat.mod_eq_of_lt (by omega)]
  rw [← hposition] at hbetween hhigh
  obtain ⟨result, ⟨⟨calls, hcalls, henqueued⟩, -, hqueue⟩, heq⟩ :=
    hbetween.rxEventCallback hp.queue hp.previous_le hhigh
  rw [heq]
  exact ⟨_, calls, hcalls, henqueued, hqueue, by rw [if_neg h.begun]; exact hposition⟩

end UartRxPort

/-- The port, and everything the UART has received up to the last event. -/
structure UartRxRun where
  port : UartRxPort := {}
  received : List UInt8 := []

namespace UartRxRun

open UartRxPort

/-- An event of USART2 after `fresh` bytes. -/
def event (r : UartRxRun) (fresh : List UInt8) (dmaBuffer : Vector UInt8 128) : UartRxRun :=
  { port := r.port.rxEventCallback dmaBuffer true
      (UInt16.ofNat (writePosition (r.received ++ fresh).length))
    received := r.received ++ fresh }

/-- The runs of the port. Between two events the main loop may do anything to the queue, and
there may be events of other UARTs. -/
inductive Reachable : UartRxRun → Prop where
  | start : Reachable { port := (UartRxPort.init true true {}).2 }
  | event {r : UartRxRun} (h : Reachable r) (fresh : List UInt8) (dmaBuffer : Vector UInt8 128)
      (hd : Delivers r.received fresh dmaBuffer) : Reachable (r.event fresh dmaBuffer)
  | foreign {r : UartRxRun} (h : Reachable r) (size : UInt16) (dmaBuffer : Vector UInt8 128) :
      Reachable { r with port := r.port.rxEventCallback dmaBuffer false size }
  | mainLoop {r : UartRxRun} (h : Reachable r) (queue : UartRxQueue) :
      Reachable { r with port := { r.port with rxQueue := some queue } }

/-- The port follows the UART, and until a push is refused it has pushed every byte. -/
structure Drained (r : UartRxRun) : Prop where
  follows : r.port.Follows r.received
  bytes : (∀ x ∈ r.port.pushes, x.2 = true) → r.port.pushes.map Prod.fst = r.received

theorem Reachable.drained {r : UartRxRun} (h : r.Reachable) : r.Drained := by
  induction h with
  | start => exact ⟨⟨rfl, rfl⟩, fun _ => rfl⟩
  | event _ fresh dmaBuffer hd ih =>
    obtain ⟨done, calls, hcalls, henqueued, hfollows⟩ := ih.follows.rxEventCallback hd
    refine ⟨hfollows, ?_⟩
    intro haccepted
    simp only [UartRxRun.event, hcalls] at haccepted ⊢
    rw [List.map_append, ih.bytes fun x hx => haccepted x (List.mem_append_left _ hx),
      henqueued.bytes_eq fun x hx => haccepted x (List.mem_append_right _ hx)]
  | foreign _ size dmaBuffer ih =>
    rw [rxEventCallback, if_pos (.inl (by simp))]
    exact ih
  | mainLoop _ queue ih => exact ⟨⟨rfl, ih.follows.position⟩, ih.bytes⟩

/-- As long as the queue takes every byte, it gets the received bytes, all of them, once and in
order; an event in which it refuses one pushes nothing after that. -/
theorem dma_ring_is_drained_once {r : UartRxRun} (h : r.Reachable) :
    ((∀ x ∈ r.port.pushes, x.2 = true) → r.port.pushes.map Prod.fst = r.received) ∧
      ∀ fresh dmaBuffer, Delivers r.received fresh dmaBuffer →
        ∃ calls, (r.event fresh dmaBuffer).port.pushes = r.port.pushes ++ calls ∧
          calls.map Prod.fst <+: fresh ∧
          ∀ before byte after, calls = before ++ (byte, false) :: after → after = [] := by
  refine ⟨h.drained.bytes, ?_⟩
  intro fresh dmaBuffer hd
  obtain ⟨done, calls, hcalls, henqueued, -⟩ := h.drained.follows.rxEventCallback hd
  exact ⟨calls, hcalls, henqueued.isPrefix, fun _ _ _ => henqueued.refused_last⟩

/-- A buffer in which the UART is about to start its second round. -/
def fullBuffer : Vector UInt8 128 := .ofFn fun i => UInt8.ofNat i

/-- The first event finds 127 bytes, the second one two more, of which one is at the end of the
buffer and one at its start. -/
theorem dma_ring_is_drained_once_wrapped :
    ∃ r : UartRxRun, r.Reachable ∧ r.received.length = 129 ∧
      r.port.pushes.map Prod.fst = r.received := by
  have hfirst : Delivers [] ((List.range 127).map UInt8.ofNat) fullBuffer := by
    refine ⟨by simp, .inl (by simp), ?_⟩
    intro i byte hi
    obtain ⟨hlt, rfl⟩ := List.getElem?_eq_some_iff.mp hi
    simp only [List.length_map, List.length_range] at hlt
    simp [fullBuffer, Nat.mod_eq_of_lt (show i < 128 by omega), show i < 128 by omega]
  have hsecond : Delivers ((List.range 127).map UInt8.ofNat) [127, 0] fullBuffer := by
    refine ⟨by simp, .inl (by simp), ?_⟩
    intro i byte hi
    obtain _ | _ | i := i
    · simpa [fullBuffer] using hi
    · simpa [fullBuffer] using hi
    · simp at hi
  have hreachable := (Reachable.start.event _ _ hfirst).event _ _ hsecond
  refine ⟨_, hreachable, by simp [event], (dma_ring_is_drained_once hreachable).1 ?_⟩
  decide +kernel

end UartRxRun

end IndoorRobot
