import IndoorRobot.MotionTransactions

/-!
# The reliable receiver

One sequence frontier, one pending transaction and one cached terminal result.
The slots are matched to the frontier by their bare sequence numbers.
-/
namespace IndoorRobot

inductive MotionReliableDecision where
  | invalid | new | pendingRetry | completedRetry | stale | collision
  deriving DecidableEq, Repr

/-- `MotionReliableReceiver`. The defaults are the cleared receiver of
`motion_reliable_receiver_init` and `motion_reliable_receiver_reset`. -/
structure MotionReliableReceiver where
  latestSequenceValid : Bool := false
  latestSequence : UInt16 := 0
  pendingValid : Bool := false
  pendingTransaction : MotionTransaction := {}
  terminalValid : Bool := false
  terminalTransaction : MotionTransaction := {}
  terminalResult : MotionResponseResult := 0
  deriving DecidableEq, Repr, Inhabited

namespace MotionReliableReceiver

/-- `motion_reliable_receiver_classify`. -/
def classify (r : MotionReliableReceiver) (t : MotionTransaction) : MotionReliableDecision :=
  if ¬ r.latestSequenceValid then .new
  else
    match motionSequenceClassify r.latestSequence t.sequence with
    | .newer => .new
    | .stale => .stale
    | .same =>
      if r.terminalValid ∧ r.terminalTransaction.sequence = r.latestSequence then
        if r.terminalTransaction.equal t then .completedRetry else .collision
      else if r.pendingValid ∧ r.pendingTransaction.sequence = r.latestSequence then
        if r.pendingTransaction.equal t then .pendingRetry else .collision
      else .invalid

/-- `motion_reliable_receiver_reset`. -/
def reset (_ : MotionReliableReceiver) : MotionReliableReceiver := {}

/-- `motion_reliable_receiver_begin_pending`. -/
def beginPending (r : MotionReliableReceiver) (t : MotionTransaction) : MotionReliableReceiver :=
  { r with
    terminalValid := false
    terminalTransaction := {}
    terminalResult := 0
    pendingTransaction := t
    latestSequence := t.sequence
    latestSequenceValid := true
    pendingValid := true }

/-- `motion_reliable_receiver_record_immediate_terminal`. -/
def recordImmediateTerminal (r : MotionReliableReceiver) (t : MotionTransaction)
    (result : MotionResponseResult) : MotionReliableReceiver :=
  { r with
    latestSequence := t.sequence
    terminalTransaction := t
    terminalResult := result
    terminalValid := true
    latestSequenceValid := true }

/-- `motion_reliable_receiver_complete_pending`. The caller ignores the flag. -/
def completePending (r : MotionReliableReceiver) (t : MotionTransaction)
    (result : MotionResponseResult) : Bool × MotionReliableReceiver :=
  if ¬ r.pendingValid ∨ ¬ r.pendingTransaction.equal t then (false, r)
  else
    let cleared := { r with pendingValid := false, pendingTransaction := {} }
    if r.latestSequenceValid ∧ r.pendingTransaction.sequence = r.latestSequence then
      (true, { cleared with
        terminalTransaction := r.pendingTransaction
        terminalResult := result
        terminalValid := true })
    else (true, cleared)

theorem classify_new_iff (r : MotionReliableReceiver) (t : MotionTransaction) :
    r.classify t = .new ↔ r.latestSequenceValid = false ∨
      motionSequenceClassify r.latestSequence t.sequence = .newer := by
  rw [classify]
  cases hv : r.latestSequenceValid with
  | false => simp
  | true =>
    cases hs : motionSequenceClassify r.latestSequence t.sequence with
    | newer => simp
    | stale => simp
    | same =>
      simp only [not_true_eq_false, if_false]
      split_ifs <;> simp

theorem classify_stale (r : MotionReliableReceiver) (t : MotionTransaction)
    (hv : r.latestSequenceValid = true)
    (hs : motionSequenceClassify r.latestSequence t.sequence = .stale) : r.classify t = .stale := by
  simp [classify, hv, hs]

/-- A cached terminal at the frontier answers exactly its own transaction. -/
theorem classify_terminal (r : MotionReliableReceiver) (t : MotionTransaction)
    (hv : r.latestSequenceValid = true) (ht : r.terminalValid = true)
    (hseq : r.terminalTransaction.sequence = r.latestSequence) (hs : t.sequence = r.latestSequence) :
    r.classify t = if r.terminalTransaction = t then .completedRetry else .collision := by
  simp [classify, hv, hs, ht, hseq]

/-- A pending transaction at the frontier with no cached terminal there. -/
theorem classify_pending (r : MotionReliableReceiver) (t : MotionTransaction)
    (hv : r.latestSequenceValid = true)
    (hno : ¬ (r.terminalValid = true ∧ r.terminalTransaction.sequence = r.latestSequence))
    (hp : r.pendingValid = true) (hseq : r.pendingTransaction.sequence = r.latestSequence)
    (hs : t.sequence = r.latestSequence) :
    r.classify t = if r.pendingTransaction = t then .pendingRetry else .collision := by
  simp only [classify, hv, hs, not_true_eq_false, if_false, motionSequenceClassify_self]
  rw [if_neg hno]
  simp [hp, hseq]

theorem terminalValid_of_completedRetry {r : MotionReliableReceiver} {t : MotionTransaction}
    (h : r.classify t = .completedRetry) : r.terminalValid = true := by
  rw [classify] at h
  cases hv : r.latestSequenceValid with
  | false => simp [hv] at h
  | true =>
    cases hs : motionSequenceClassify r.latestSequence t.sequence with
    | newer => simp [hv, hs] at h
    | stale => simp [hv, hs] at h
    | same =>
      simp only [hv, hs, not_true_eq_false, if_false] at h
      split_ifs at h with hterminal
      exact hterminal.1

/-- Completing the pending transaction itself always succeeds. -/
theorem completePending_self (r : MotionReliableReceiver) (result : MotionResponseResult)
    (hp : r.pendingValid = true) :
    r.completePending r.pendingTransaction result =
      (true,
        if r.latestSequenceValid = true ∧ r.pendingTransaction.sequence = r.latestSequence then
          { r with
            pendingValid := false
            pendingTransaction := {}
            terminalTransaction := r.pendingTransaction
            terminalResult := result
            terminalValid := true }
        else { r with pendingValid := false, pendingTransaction := {} }) := by
  rw [completePending]
  have he : r.pendingTransaction.equal r.pendingTransaction = true := by simp
  simp only [hp, he, not_true_eq_false, or_self, if_false]
  split_ifs <;> rfl

end MotionReliableReceiver

end IndoorRobot
