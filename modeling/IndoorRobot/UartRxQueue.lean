import IndoorRobot.BoundedFifos
import Mathlib.Logic.Function.Basic
import Mathlib.Tactic.Common
import Mathlib.Data.Nat.Notation

/-!
# The receive queue between the interrupt and the main loop

`uart_rx_queue.c`. The two counts run freely and wrap with the machine word; the
capacity divides it, so their low bits stay the index into the ring. Held against
the list of bytes waiting, a push appends and a pop takes the head; so the ring
answers every sequence of calls as a bounded queue of bytes does.
-/
namespace IndoorRobot

/-- `UartRxQueue`; the defaults are `uart_rx_queue_init`. -/
structure UartRxQueue where
  data : Fin 256 → UInt8 := fun _ => 0
  readCount : UInt32 := 0
  writeCount : UInt32 := 0
  overflowed : Bool := false

namespace UartRxQueue

/-- `count & (UART_RX_QUEUE_CAPACITY - 1U)`. -/
def slot (count : UInt32) : Fin 256 :=
  ⟨(count &&& 255).toNat, by
    rw [UInt32.toNat_and]
    exact Nat.lt_succ_of_le Nat.and_le_right⟩

/-- `uart_rx_queue_push`. -/
def push (q : UartRxQueue) (byte : UInt8) : Bool × UartRxQueue :=
  if q.overflowed then (false, q)
  else if q.writeCount - q.readCount ≥ 256 then (false, { q with overflowed := true })
  else
    (true, { q with
      data := Function.update q.data (slot q.writeCount) byte
      writeCount := q.writeCount + 1 })

/-- `uart_rx_queue_pop`: the byte, if it returns true. -/
def pop (q : UartRxQueue) : Option UInt8 × UartRxQueue :=
  if q.overflowed then (none, q)
  else if q.readCount = q.writeCount then (none, q)
  else (some (q.data (slot q.readCount)), { q with readCount := q.readCount + 1 })

/-- `uart_rx_queue_reset`. -/
def reset (q : UartRxQueue) : UartRxQueue :=
  { q with readCount := q.writeCount, overflowed := false }

/-- The ring holds these bytes, the oldest first. -/
structure Holds (q : UartRxQueue) (bytes : List UInt8) : Prop where
  count : q.writeCount = q.readCount + UInt32.ofNat bytes.length
  size : bytes.length ≤ 256
  data : ∀ i byte, bytes[i]? = some byte → q.data (slot (q.readCount + UInt32.ofNat i)) = byte

theorem slot_val (count : UInt32) : (slot count).val = count.toNat % 256 := by
  have hmask := Nat.and_two_pow_sub_one_eq_mod count.toNat 8
  simpa [slot, UInt32.toNat_and] using hmask

theorem slot_add (count : UInt32) (i : ℕ) :
    (slot (count + UInt32.ofNat i)).val = (count.toNat + i) % 256 := by
  rw [slot_val, UInt32.toNat_add, UInt32.toNat_ofNat']
  omega

theorem init_holds : Holds {} [] := by
  refine ⟨by decide, by decide, ?_⟩
  intro i byte h
  simp at h

theorem used_toNat {q : UartRxQueue} {bytes : List UInt8} (h : q.Holds bytes) :
    (q.writeCount - q.readCount).toNat = bytes.length := by
  have hsize := h.size
  have hread := q.readCount.toNat_lt
  rw [h.count, UInt32.toNat_sub, UInt32.toNat_add, UInt32.toNat_ofNat']
  omega

theorem push_accepted_holds {q : UartRxQueue} {bytes : List UInt8} (h : q.Holds bytes)
    (hroom : bytes.length < 256) (byte : UInt8) :
    Holds { q with
      data := Function.update q.data (slot q.writeCount) byte
      writeCount := q.writeCount + 1 } (bytes ++ [byte]) where
  count := by
    apply UInt32.toNat_inj.mp
    simp only [h.count, List.length_append, List.length_singleton, UInt32.toNat_add,
      UInt32.toNat_ofNat', UInt32.toNat_one]
    omega
  size := by
    rw [List.length_append, List.length_singleton]
    omega
  data := by
    intro i old hi
    by_cases hlt : i < bytes.length
    · have hslot : slot (q.readCount + UInt32.ofNat i) ≠ slot q.writeCount := by
        intro heq
        have hval := congrArg Fin.val heq
        rw [h.count, slot_add, slot_add] at hval
        omega
      rw [List.getElem?_append_left hlt] at hi
      simpa [Function.update_of_ne hslot] using h.data i old hi
    · have hlength : i < (bytes ++ [byte]).length := (List.getElem?_eq_some_iff.mp hi).1
      rw [List.length_append, List.length_singleton] at hlength
      obtain rfl : i = bytes.length := by omega
      rw [List.getElem?_concat_length, Option.some.injEq] at hi
      simp [← h.count, hi]

/-- What a push does to a queue that holds `bytes`. -/
theorem push_cases {q : UartRxQueue} {bytes : List UInt8} (h : q.Holds bytes) (byte : UInt8) :
    ((q.push byte).1 = true ∧ q.overflowed = false ∧ (q.push byte).2.overflowed = false ∧
        (q.push byte).2.Holds (bytes ++ [byte])) ∨
      ((q.push byte).1 = false ∧ (q.push byte).2.overflowed = true ∧
        (q.push byte).2.Holds bytes) := by
  have hused := used_toNat h
  by_cases hover : q.overflowed = true
  · have hpush : q.push byte = (false, q) := by simp [push, hover]
    rw [hpush]
    exact .inr ⟨rfl, hover, h⟩
  · by_cases hfull : q.writeCount - q.readCount ≥ 256
    · have hpush : q.push byte = (false, { q with overflowed := true }) := by
        simp [push, hover, hfull]
      rw [hpush]
      exact .inr ⟨rfl, rfl, ⟨h.count, h.size, h.data⟩⟩
    · have hroom : bytes.length < 256 := by
        rw [← hused]
        simpa [UInt32.lt_iff_toNat_lt] using hfull
      have hpush : q.push byte = (true, { q with
          data := Function.update q.data (slot q.writeCount) byte
          writeCount := q.writeCount + 1 }) := by
        simp [push, hover, hfull]
      rw [hpush]
      exact .inl ⟨rfl, by simpa using hover, by simpa using hover, push_accepted_holds h hroom byte⟩

theorem empty_iff {q : UartRxQueue} {bytes : List UInt8} (h : q.Holds bytes) :
    q.readCount = q.writeCount ↔ bytes = [] := by
  have hused := used_toNat h
  constructor
  · intro heq
    rw [heq, UInt32.sub_self] at hused
    exact List.eq_nil_of_length_eq_zero hused.symm
  · rintro rfl
    simpa using h.count.symm

/-- The front of the queue, and the queue once the read count has moved past it. -/
theorem pop_holds {q : UartRxQueue} {byte : UInt8} {rest : List UInt8} (h : q.Holds (byte :: rest)) :
    q.data (slot q.readCount) = byte ∧ Holds { q with readCount := q.readCount + 1 } rest := by
  refine ⟨by simpa using h.data 0 byte rfl, ?_, ?_, ?_⟩
  · apply UInt32.toNat_inj.mp
    simp only [h.count, List.length_cons, UInt32.toNat_add, UInt32.toNat_ofNat', UInt32.toNat_one]
    omega
  · have hsize := h.size
    rw [List.length_cons] at hsize
    omega
  · intro i old hi
    have hslot : slot (q.readCount + 1 + UInt32.ofNat i) =
        slot (q.readCount + UInt32.ofNat (i + 1)) := by
      apply Fin.ext
      rw [slot_add, slot_add, UInt32.toNat_add, UInt32.toNat_one]
      omega
    simp only [hslot]
    exact h.data (i + 1) old (by simpa using hi)

/-- The queue once the read count has been moved to the write count. -/
theorem discard_holds (q : UartRxQueue) : Holds { q with readCount := q.writeCount } [] := by
  refine ⟨by simp, by decide, ?_⟩
  intro i byte h
  simp at h

open BoundedFifos

/-- One call of the queue. -/
def answer (q : UartRxQueue) : Call UInt8 → Answer UInt8 × UartRxQueue
  | .init => (.done, {})
  | .push byte => (.pushed (q.push byte).1, (q.push byte).2)
  | .pop => (.popped q.pop.1, q.pop.2)
  | .reset => (.done, q.reset)

/-- The ring stands for a bounded queue. -/
structure Represents (q : UartRxQueue) (f : Fifo UInt8) : Prop where
  holds : q.Holds f.items
  latch : q.overflowed = f.latched

theorem Represents.push {q : UartRxQueue} {f : Fifo UInt8} (h : q.Represents f) (byte : UInt8) :
    (q.push byte).1 = (f.push 256 byte).1 ∧ (q.push byte).2.Represents (f.push 256 byte).2 := by
  have hused := used_toNat h.holds
  rw [UartRxQueue.push, Fifo.push, ← h.latch]
  by_cases hover : q.overflowed = true
  · rw [if_pos hover, if_neg (by simp [hover])]
    exact ⟨rfl, h.holds, hover⟩
  · have hclear : q.overflowed = false := by simpa using hover
    rw [if_neg hover]
    by_cases hroom : f.items.length < 256
    · have hfits : ¬ q.writeCount - q.readCount ≥ 256 := by
        simpa [UInt32.le_iff_toNat_le, hused] using hroom
      rw [if_neg hfits, if_pos ⟨hclear, hroom⟩]
      exact ⟨rfl, push_accepted_holds h.holds hroom byte, rfl⟩
    · have hfull : q.writeCount - q.readCount ≥ 256 := by
        simpa [UInt32.le_iff_toNat_le, hused] using hroom
      rw [if_pos hfull, if_neg fun hand => hroom hand.2]
      exact ⟨rfl, ⟨h.holds.count, h.holds.size, h.holds.data⟩, rfl⟩

theorem Represents.pop {q : UartRxQueue} {f : Fifo UInt8} (h : q.Represents f) :
    q.pop.1 = f.pop.1 ∧ q.pop.2.Represents f.pop.2 := by
  rw [UartRxQueue.pop, Fifo.pop, ← h.latch]
  by_cases hover : q.overflowed = true
  · rw [if_pos hover, if_pos hover]
    exact ⟨rfl, h⟩
  · rw [if_neg hover, if_neg hover]
    cases hitems : f.items with
    | nil =>
      rw [if_pos ((empty_iff h.holds).mpr hitems)]
      exact ⟨rfl, by simpa [hitems] using h.holds, rfl⟩
    | cons byte rest =>
      have hholds : q.Holds (byte :: rest) := by simpa [hitems] using h.holds
      rw [if_neg fun hempty => by simp [(empty_iff h.holds).mp hempty] at hitems]
      obtain ⟨hfront, hrest⟩ := pop_holds hholds
      exact ⟨congrArg some hfront, hrest, rfl⟩

theorem Represents.answer {q : UartRxQueue} {f : Fifo UInt8} (h : q.Represents f)
    (call : Call UInt8) : (q.answer call).1 = (f.answer 256 call).1 ∧
      (q.answer call).2.Represents (f.answer 256 call).2 := by
  cases call with
  | init => exact ⟨rfl, init_holds, rfl⟩
  | push byte =>
    obtain ⟨hanswer, hnext⟩ := h.push byte
    exact ⟨congrArg Answer.pushed hanswer, hnext⟩
  | pop =>
    obtain ⟨hanswer, hnext⟩ := h.pop
    exact ⟨congrArg Answer.popped hanswer, hnext⟩
  | reset => exact ⟨rfl, ⟨(discard_holds q).count, Nat.zero_le _, (discard_holds q).data⟩, rfl⟩

/-- However often the counts wrap, the ring answers as a queue of capacity 256 with an overflow
latch, and the difference of the counts is the number of bytes waiting. -/
theorem ring_refines_bounded_fifo (calls : List (Call UInt8)) :
    let ring := answers answer {} calls
    let fifo := answers (Fifo.answer 256) {} calls
    ring.1 = fifo.1 ∧ ring.2.overflowed = fifo.2.latched ∧ ring.2.Holds fifo.2.items ∧
      (ring.2.writeCount - ring.2.readCount).toNat = fifo.2.items.length ∧
      fifo.2.items.length ≤ 256 := by
  intro ring fifo
  have hstart : Represents {} {} := ⟨init_holds, rfl⟩
  obtain ⟨hanswers, hend⟩ := answers_eq_of_simulates (fun _ _ call h => h.answer call) hstart calls
  exact ⟨hanswers, hend.latch, hend.holds, used_toNat hend.holds, hend.holds.size⟩

end UartRxQueue

end IndoorRobot
