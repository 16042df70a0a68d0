import IndoorRobot.FirmwareSteps
import IndoorRobot.StopAndWait

/-!
# The coordinator as the receiver of a stop-and-wait exchange

Between a LINK_SYNC and the next failure the coordinator rests after its last settled
transaction or works on the current one, as long as it is only ever asked to repeat
the last transaction or to take up a fitting next one.
-/
namespace IndoorRobot

open MotionLifecycleCommandType MotionResponseResult StopAndWait

namespace MotionLifecycleCoordinator

/-- The commands a client sends next: a START without a session, the END of its session. -/
def Fits : Option MotionTransaction → MotionTransaction → Prop
  | none, t => t.command = startSession
  | some last, t => t.sequence = last.sequence + 1 ∧
      (t.command = startSession ∧ last.command ≠ startSession ∨
        t.command = endSession ∧ last.command = startSession ∧
          t.motionSessionId = last.motionSessionId)

/-- Nothing has been received since the last reset. -/
structure Untouched (c : MotionLifecycleCoordinator) : Prop where
  valid : c.reliableReceiver.latestSequenceValid = false
  state : c.state = .noSession

/-- The last transaction has been answered OK. -/
structure Settled (c : MotionLifecycleCoordinator) (t : MotionTransaction) : Prop where
  valid : c.reliableReceiver.latestSequenceValid = true
  latest : t.sequence = c.reliableReceiver.latestSequence
  terminal : c.reliableReceiver.terminalValid = true
  transaction : c.reliableReceiver.terminalTransaction = t
  result : c.reliableReceiver.terminalResult = ok
  state : t.command = startSession ∧ c.state = .active ∧ c.motionSessionId = t.motionSessionId ∨
    t.command ≠ startSession ∧ c.state = .noSession

/-- The last transaction owns the running stop. -/
structure Working (c : MotionLifecycleCoordinator) (t : MotionTransaction) : Prop where
  valid : c.reliableReceiver.latestSequenceValid = true
  latest : t.sequence = c.reliableReceiver.latestSequence
  terminal : c.reliableReceiver.terminalValid = false
  pending : c.reliableReceiver.pendingValid = true
  transaction : c.reliableReceiver.pendingTransaction = t
  owner : Owner c.state c.motionSessionId t

def Rests (c : MotionLifecycleCoordinator) : Option MotionTransaction → Prop
  | none => c.Untouched
  | some t => c.Settled t

variable {c : MotionLifecycleCoordinator} {t : MotionTransaction}

theorem Rests.free {last : Option MotionTransaction} (h : c.Rests last) :
    c.state.stopping = false := by
  cases last with
  | none =>
    rw [h.state]
    rfl
  | some t =>
    rcases h.state with ⟨_, hstate, _⟩ | ⟨_, hstate⟩ <;> rw [hstate] <;> rfl

theorem reset_rests (c : MotionLifecycleCoordinator) : c.reset.Rests none := ⟨rfl, rfl⟩

theorem Settled.handleTransaction (h : c.Settled t) :
    c.handleTransaction t =
      ({ MotionLifecycleAction.none with
          sendAck := true
          ackTransaction := t
          sendResponse := true
          responseTransaction := t
          responseResult := ok }, c) := by
  have hclass : c.reliableReceiver.classify t = .completedRetry := by
    rw [MotionReliableReceiver.classify_terminal _ t h.valid h.terminal
      (by rw [h.transaction]; exact h.latest) h.latest, if_pos h.transaction]
  simp only [MotionLifecycleCoordinator.handleTransaction, hclass, h.transaction, h.result]

theorem Working.handleTransaction (h : c.Working t) :
    c.handleTransaction t =
      ({ MotionLifecycleAction.none with sendAck := true, ackTransaction := t }, c) := by
  have hclass : c.reliableReceiver.classify t = .pendingRetry := by
    rw [MotionReliableReceiver.classify_pending _ t h.valid (by simp [h.terminal]) h.pending
      (by rw [h.transaction]; exact h.latest) h.latest, if_pos h.transaction]
  simp only [MotionLifecycleCoordinator.handleTransaction, hclass]

/-- A fitting command requests a new stop. -/
theorem Rests.handleTransaction {last : Option MotionTransaction} (h : c.Rests last)
    (hfits : Fits last t) :
    ∃ state sessionId, Owner state sessionId t ∧
      c.handleTransaction t = c.requestStop t state sessionId := by
  have hse : endSession ≠ startSession := by decide
  have hnew : c.reliableReceiver.classify t = .new := by
    rw [MotionReliableReceiver.classify_new_iff]
    cases last with
    | none => exact .inl h.valid
    | some l => exact .inr (by rw [← h.latest, hfits.1]; exact motionSequenceClassify_succ l.sequence)
  rw [MotionLifecycleCoordinator.handleTransaction, hnew]
  have hstart (hcommand : t.command = startSession) (hstate : c.state = .noSession) :
      ∃ state sessionId, Owner state sessionId t ∧
        c.handleNew t = c.requestStop t state sessionId :=
    ⟨.starting, t.motionSessionId, ⟨.inl ⟨rfl, hcommand⟩, rfl⟩,
      by simp [handleNew, hcommand, hstate, handleStartNoSession]⟩
  cases last with
  | none => exact hstart hfits h.state
  | some l =>
    rcases hfits.2 with ⟨hcommand, hlast⟩ | ⟨hcommand, hlast, hsession⟩
    · exact hstart hcommand (h.state.resolve_left fun h => hlast h.1).2
    · obtain ⟨-, hstate, hid⟩ := h.state.resolve_right fun h => h.1 hlast
      have hsame : t.motionSessionId = c.motionSessionId := hsession.trans hid.symm
      exact ⟨.ending, c.motionSessionId, ⟨.inr ⟨rfl, hcommand⟩, hsame⟩,
        by simp [handleNew, hcommand, hstate, hsame, hse, handleEndActive]⟩

theorem requestStop_working (c : MotionLifecycleCoordinator) (t : MotionTransaction)
    {state : MotionLifecycleState} {sessionId : UInt32} (howner : Owner state sessionId t) :
    (c.requestStop t state sessionId).2.Working t :=
  ⟨rfl, rfl, rfl, rfl, rfl, howner⟩

/-- A confirmed stop settles its transaction. -/
theorem Working.completeOperation (h : c.Working t) {operationId : UInt32}
    (hcompletes : c.Completes operationId) :
    (c.completeOperation operationId .success).2.Settled t := by
  have hlatest : c.reliableReceiver.latestSequenceValid = true ∧
      c.reliableReceiver.pendingTransaction.sequence = c.reliableReceiver.latestSequence :=
    ⟨h.valid, by rw [h.transaction]; exact h.latest⟩
  rw [completeOperation_accepted c operationId .success hcompletes,
    MotionReliableReceiver.completePending_self _ _ h.pending, if_pos hlatest]
  refine ⟨h.valid, h.latest, rfl, h.transaction, rfl, ?_⟩
  rcases h.owner with ⟨⟨hstate, hcommand⟩ | ⟨hstate, hcommand⟩, hsession⟩
  · exact .inl ⟨hcommand, by simp [completionState, hstate], by simp [completionState, hstate, hsession]⟩
  · refine .inr ⟨?_, by simp [completionState, hstate]⟩
    rw [hcommand]
    decide

end MotionLifecycleCoordinator

end IndoorRobot
