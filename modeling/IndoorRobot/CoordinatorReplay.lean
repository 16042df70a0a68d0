import IndoorRobot.CoordinatorLedger

/-!
# Handling a transaction twice

A lifecycle command may arrive any number of times. The second call finds the
transaction in the pending slot, in the terminal cache or out of order, and in each
case it repeats what the first call promised without doing anything new.
-/
namespace IndoorRobot

open MotionLifecycleCommandType MotionResponseResult

namespace MotionLifecycleCoordinator

/-- What a second call may do after the first one. A SUPERSEDED response of the first call is
owed to the transaction that was pending before it, even if that one has the same identity. -/
structure Repeats (before : MotionLifecycleCoordinator) (t : MotionTransaction)
    (first second : MotionLifecycleAction × MotionLifecycleCoordinator) : Prop where
  unchanged : second.2 = first.2
  noOperation : second.1.operation = .none
  acknowledged : first.1.sendAck = true →
    first.1.ackTransaction = t ∧ second.1.sendAck = true ∧ second.1.ackTransaction = t
  answered : first.1.sendResponse = true →
    first.1.responseTransaction = t ∧ second.1.sendResponse = true ∧
        second.1.responseTransaction = t ∧ second.1.responseResult = first.1.responseResult ∨
      first.1.responseResult = superseded ∧ before.reliableReceiver.pendingValid = true ∧
        first.1.responseTransaction = before.reliableReceiver.pendingTransaction

variable {c : MotionLifecycleCoordinator} {t : MotionTransaction}

theorem terminalTransaction_of_completedRetry (h : c.reliableReceiver.classify t = .completedRetry) :
    c.reliableReceiver.terminalTransaction = t := by
  rw [MotionReliableReceiver.classify] at h
  cases hv : c.reliableReceiver.latestSequenceValid with
  | false => simp [hv] at h
  | true =>
    cases hs : motionSequenceClassify c.reliableReceiver.latestSequence t.sequence with
    | newer => simp [hv, hs] at h
    | stale => simp [hv, hs] at h
    | same =>
      simp only [hv, hs, not_true_eq_false, if_false] at h
      split_ifs at h with _ hequal
      exact (MotionTransaction.equal_iff _ _).mp hequal

/-- A transaction in the terminal cache is acknowledged and answered again. -/
theorem handleTransaction_completed (hv : c.reliableReceiver.latestSequenceValid = true)
    (hterminal : c.reliableReceiver.terminalValid = true)
    (htransaction : c.reliableReceiver.terminalTransaction = t)
    (hlatest : c.reliableReceiver.latestSequence = t.sequence) :
    c.handleTransaction t = ({ MotionLifecycleAction.none with
      sendAck := true
      ackTransaction := t
      sendResponse := true
      responseTransaction := t
      responseResult := c.reliableReceiver.terminalResult }, c) := by
  have hretry := c.reliableReceiver.classify_terminal t hv hterminal
    (by rw [htransaction, hlatest]) hlatest.symm
  rw [if_pos htransaction] at hretry
  rw [handleTransaction, hretry]
  simp only [htransaction]

/-- A transaction in the pending slot is acknowledged again. -/
theorem handleTransaction_pending (hv : c.reliableReceiver.latestSequenceValid = true)
    (hterminal : c.reliableReceiver.terminalValid = false)
    (hpending : c.reliableReceiver.pendingValid = true)
    (htransaction : c.reliableReceiver.pendingTransaction = t)
    (hlatest : c.reliableReceiver.latestSequence = t.sequence) :
    c.handleTransaction t =
      ({ MotionLifecycleAction.none with sendAck := true, ackTransaction := t }, c) := by
  have hretry := c.reliableReceiver.classify_pending t hv (by simp [hterminal]) hpending
    (by rw [htransaction, hlatest]) hlatest.symm
  rw [if_pos htransaction] at hretry
  rw [handleTransaction, hretry]

/-- The first call changed nothing, so the second one is the first one again. -/
theorem repeats_of_not_new (h : c.reliableReceiver.classify t ≠ .new) :
    Repeats c t (c.handleTransaction t) ((c.handleTransaction t).2.handleTransaction t) := by
  rw [handleTransaction_unchanged c t h]
  cases hd : c.reliableReceiver.classify t with
  | new => exact absurd hd h
  | pendingRetry =>
    simp only [handleTransaction, hd]
    exact ⟨rfl, rfl, fun _ => ⟨rfl, rfl, rfl⟩,
      fun hsent => absurd hsent Bool.false_ne_true⟩
  | completedRetry =>
    simp only [handleTransaction, hd, terminalTransaction_of_completedRetry hd]
    exact ⟨rfl, rfl, fun _ => ⟨rfl, rfl, rfl⟩, fun _ => .inl ⟨rfl, rfl, rfl, rfl⟩⟩
  | invalid | stale | collision =>
    simp only [handleTransaction, hd]
    exact ⟨rfl, rfl, fun hacked => absurd hacked Bool.false_ne_true,
      fun hsent => absurd hsent Bool.false_ne_true⟩

/-- An accepted command is found again in the slot it was put into. -/
theorem repeats_of_new (hc : c.Coherent) (h : c.reliableReceiver.classify t = .new) :
    Repeats c t (c.handleTransaction t) ((c.handleTransaction t).2.handleTransaction t) := by
  have hout := handleTransaction_outcome c t h
  generalize c.handleTransaction t = first at hout ⊢
  cases hout with
  | immediate result _ _ =>
    rw [handleTransaction_completed (t := t) rfl rfl rfl rfl]
    exact ⟨rfl, rfl, fun _ => ⟨rfl, rfl, rfl⟩, fun _ => .inl ⟨rfl, rfl, rfl, rfl⟩⟩
  | request state sessionId _ _ =>
    rw [handleTransaction_pending (t := t) rfl rfl rfl rfl rfl]
    exact ⟨rfl, rfl, fun _ => ⟨rfl, rfl, rfl⟩,
      fun hsent => absurd hsent Bool.false_ne_true⟩
  | transfer state sessionId hbusy _ =>
    rw [handleTransaction_pending (t := t) rfl rfl rfl rfl rfl]
    exact ⟨rfl, rfl, fun _ => ⟨rfl, rfl, rfl⟩,
      fun _ => .inr ⟨rfl, hc.pending_iff.trans hbusy, rfl⟩⟩

/-- In every reachable state a transaction may be handled again: the second call changes nothing,
starts nothing, and repeats the acknowledgement and the terminal response of the first. -/
theorem handling_is_idempotent {c : MotionLifecycleCoordinator} (hfresh : c.Fresh)
    (calls : List Call) (t : MotionTransaction) :
    let before := (c.run calls).1
    let first := before.handleTransaction t
    Repeats before t first (first.2.handleTransaction t) := by
  intro before first
  by_cases hnew : before.reliableReceiver.classify t = .new
  · exact repeats_of_new (hfresh.coherent.run calls) hnew
  · exact repeats_of_not_new hnew

theorem handling_is_idempotent_start :
    Fresh init ∧ Repeats init ⟨7, startSession, 42⟩ (init.handleTransaction ⟨7, startSession, 42⟩)
      ((init.handleTransaction ⟨7, startSession, 42⟩).2.handleTransaction ⟨7, startSession, 42⟩) :=
  ⟨.init, handling_is_idempotent .init [] ⟨7, startSession, 42⟩⟩

end MotionLifecycleCoordinator

end IndoorRobot
