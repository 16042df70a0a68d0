import Mathlib.Data.Nat.Notation
import Mathlib.Tactic.Common

/-!
# Bounded queues with an overflow latch

A queue of bounded capacity that refuses everything from its first overflow until it is
emptied. It is a machine that answers calls; another machine that keeps a relation to it
through every call gives the same answers.
-/
namespace IndoorRobot.BoundedFifos

section Machines
variable {σ τ ι ο : Type*}

/-- The answers to a sequence of calls, and the state after them. -/
def answers (step : σ → ι → ο × σ) (s : σ) : List ι → List ο × σ
  | [] => ([], s)
  | call :: calls =>
    let (answer, s) := step s call
    let (rest, s) := answers step s calls
    (answer :: rest, s)

/-- A relation that every call keeps, with equal answers, is kept by all runs. -/
theorem answers_eq_of_simulates {step : σ → ι → ο × σ} {spec : τ → ι → ο × τ} {R : σ → τ → Prop}
    (hstep : ∀ s t call, R s t → (step s call).1 = (spec t call).1 ∧
      R (step s call).2 (spec t call).2) {s : σ} {t : τ} (h : R s t) (calls : List ι) :
    (answers step s calls).1 = (answers spec t calls).1 ∧
      R (answers step s calls).2 (answers spec t calls).2 := by
  induction calls generalizing s t with
  | nil => exact ⟨rfl, h⟩
  | cons call calls ih =>
    obtain ⟨hanswer, hrelated⟩ := hstep s t call h
    obtain ⟨hrest, hend⟩ := ih hrelated
    refine ⟨?_, hend⟩
    simp only [answers, hanswer, hrest]

end Machines

variable {α : Type*}

/-- The waiting items, the oldest first, and the latch. -/
structure Fifo (α : Type*) where
  items : List α := []
  latched : Bool := false

inductive Call (α : Type*) where
  | init
  | push (item : α)
  | pop
  | reset

inductive Answer (α : Type*) where
  | done
  | pushed (accepted : Bool)
  | popped (oldest : Option α)

namespace Fifo

/-- Appends to a queue with room that is not latched, else latches. -/
def push (capacity : ℕ) (f : Fifo α) (item : α) : Bool × Fifo α :=
  if f.latched = false ∧ f.items.length < capacity then
    (true, { f with items := f.items ++ [item] })
  else (false, { f with latched := true })

/-- Takes the oldest item of a queue that is not latched. -/
def pop (f : Fifo α) : Option α × Fifo α :=
  if f.latched then (none, f) else (f.items.head?, { f with items := f.items.tail })

def answer (capacity : ℕ) (f : Fifo α) : Call α → Answer α × Fifo α
  | .init => (.done, {})
  | .push item => (.pushed (f.push capacity item).1, (f.push capacity item).2)
  | .pop => (.popped f.pop.1, f.pop.2)
  | .reset => (.done, {})

end Fifo

end IndoorRobot.BoundedFifos
