import IndoorRobot.MotionReliableReceiver

/-!
# The motion lifecycle coordinator

A transition function on the coordinator state for every entry point of
`motion_lifecycle_coordinator.c`. The thirteen handlers come in three families:
an immediate terminal answer, a new physical stop, and a transfer of the running
stop to a superseding transaction. The inversion results at the end say once what
an accepted command, a completion and every other call can do.
-/
namespace IndoorRobot

open MotionLifecycleCommandType MotionResponseResult

/-- `MotionLifecycleCoordinator`; the defaults are `motion_lifecycle_coordinator_init`. -/
structure MotionLifecycleCoordinator where
  state : MotionLifecycleState := .noSession
  motionSessionId : UInt32 := 0
  reliableReceiver : MotionReliableReceiver := {}
  nextOperationId : UInt32 := 0
  activeOperationId : UInt32 := 0
  deriving DecidableEq, Repr, Inhabited

namespace MotionLifecycleCoordinator

/-- `motion_lifecycle_coordinator_init`. -/
def init : MotionLifecycleCoordinator := {}

/-- `motion_lifecycle_coordinator_reset`: the generation counter survives. -/
def reset (c : MotionLifecycleCoordinator) : MotionLifecycleCoordinator :=
  { c with
    state := .noSession
    motionSessionId := 0
    activeOperationId := 0
    reliableReceiver := c.reliableReceiver.reset }

/-- The identifier `begin_new_operation` moves to: the successor, skipping zero. -/
def nextId (id : UInt32) : UInt32 := if id + 1 = 0 then id + 1 + 1 else id + 1

/-- `begin_new_operation`. -/
def beginNewOperation (c : MotionLifecycleCoordinator) : UInt32 × MotionLifecycleCoordinator :=
  let id := nextId c.nextOperationId
  (id, { c with nextOperationId := id, activeOperationId := id })

/-- The shared body of the handlers that answer at once. -/
def answerImmediately (c : MotionLifecycleCoordinator) (t : MotionTransaction)
    (result : MotionResponseResult) : MotionLifecycleAction × MotionLifecycleCoordinator :=
  ({ MotionLifecycleAction.none with
      sendAck := true
      ackTransaction := t
      sendResponse := true
      responseTransaction := t
      responseResult := result },
    { c with reliableReceiver := c.reliableReceiver.recordImmediateTerminal t result })

/-- The shared body of the handlers that request a new physical stop. -/
def requestStop (c : MotionLifecycleCoordinator) (t : MotionTransaction)
    (state : MotionLifecycleState) (sessionId : UInt32) :
    MotionLifecycleAction × MotionLifecycleCoordinator :=
  let moved := { c with
    reliableReceiver := c.reliableReceiver.beginPending t
    state := state
    motionSessionId := sessionId }
  let (id, started) := moved.beginNewOperation
  ({ MotionLifecycleAction.none with
      sendAck := true
      ackTransaction := t
      operation := .ensureStopped
      operationId := id }, started)

/-- The shared body of the handlers that take over the running physical stop. -/
def supersede (c : MotionLifecycleCoordinator) (t : MotionTransaction)
    (state : MotionLifecycleState) (sessionId : UInt32) :
    MotionLifecycleAction × MotionLifecycleCoordinator :=
  let supersededTransaction := c.reliableReceiver.pendingTransaction
  ({ MotionLifecycleAction.none with
      sendAck := true
      ackTransaction := t
      sendResponse := true
      responseTransaction := supersededTransaction
      responseResult := superseded },
    { c with
      reliableReceiver := c.reliableReceiver.beginPending t
      state := state
      motionSessionId := sessionId })

section Handlers
variable (c : MotionLifecycleCoordinator) (t : MotionTransaction)

def handleStartNoSession := c.requestStop t .starting t.motionSessionId
def handleStartAlreadyActive := c.answerImmediately t alreadyActive
def handleStartReplacingActive := c.requestStop t .starting t.motionSessionId
def handleEndActive := c.requestStop t .ending c.motionSessionId
def handleEndSessionMismatch := c.answerImmediately t sessionMismatch
def handleEndNoSession := c.answerImmediately t alreadyEnded
def handleStartWhileStarting := c.supersede t c.state t.motionSessionId
def handleEndWhileStarting := c.supersede t .ending c.motionSessionId
def handleEndSessionMismatchWhileStarting := c.answerImmediately t sessionMismatch
def handleStartWhileEnding := c.answerImmediately t busyStopping
def handleEndWhileEnding := c.supersede t c.state c.motionSessionId
def handleEndSessionMismatchWhileEnding := c.answerImmediately t sessionMismatch
def handleInvalidCommand := c.answerImmediately t invalidCommand

end Handlers

/-- `motion_lifecycle_coordinator_complete_operation`. -/
def completeOperation (c : MotionLifecycleCoordinator) (operationId : UInt32)
    (result : MotionLifecycleOperationResult) :
    MotionLifecycleAction × MotionLifecycleCoordinator :=
  if operationId = 0 ∨ operationId ≠ c.activeOperationId then (.none, c)
  else if ¬ c.reliableReceiver.pendingValid then (.none, c)
  else if c.state ≠ .starting ∧ c.state ≠ .ending then (.none, c)
  else
    let t := c.reliableReceiver.pendingTransaction
    let respond (responseResult : MotionResponseResult) : MotionLifecycleAction :=
      { MotionLifecycleAction.none with
        sendResponse := true
        responseTransaction := t
        responseResult := responseResult }
    if c.state = .ending then
      let responseResult := if result = .success then ok else stopFailed
      (respond responseResult,
        { c with
          activeOperationId := 0
          state := .noSession
          motionSessionId := 0
          reliableReceiver := (c.reliableReceiver.completePending t responseResult).2 })
    else if result = .success then
      (respond ok,
        { c with
          activeOperationId := 0
          state := .active
          reliableReceiver := (c.reliableReceiver.completePending t ok).2 })
    else
      (respond stopFailed,
        { c with
          activeOperationId := 0
          state := .noSession
          motionSessionId := 0
          reliableReceiver := (c.reliableReceiver.completePending t stopFailed).2 })

/-- The lifecycle rules for a command classified NEW, in the order of the source. -/
def handleNew (c : MotionLifecycleCoordinator) (t : MotionTransaction) :
    MotionLifecycleAction × MotionLifecycleCoordinator :=
  if c.state = .active ∧ t.command = startSession ∧ t.motionSessionId = c.motionSessionId then
    c.handleStartAlreadyActive t
  else if c.state = .active ∧ t.command = startSession then
    c.handleStartReplacingActive t
  else if c.state = .active ∧ t.command = endSession ∧ t.motionSessionId = c.motionSessionId then
    c.handleEndActive t
  else if c.state = .active ∧ t.command = endSession then
    c.handleEndSessionMismatch t
  else if c.state = .starting ∧ t.command = startSession then
    c.handleStartWhileStarting t
  else if c.state = .noSession ∧ t.command = startSession then
    c.handleStartNoSession t
  else if c.state = .noSession ∧ t.command = endSession then
    c.handleEndNoSession t
  else if c.state = .starting ∧ t.command = endSession ∧
      t.motionSessionId = c.motionSessionId then
    c.handleEndWhileStarting t
  else if c.state = .starting ∧ t.command = endSession then
    c.handleEndSessionMismatchWhileStarting t
  else if c.state = .ending ∧ t.command = startSession then
    c.handleStartWhileEnding t
  else if c.state = .ending ∧ t.command = endSession ∧
      t.motionSessionId = c.motionSessionId then
    c.handleEndWhileEnding t
  else if c.state = .ending ∧ t.command = endSession then
    c.handleEndSessionMismatchWhileEnding t
  else if t.command ≠ startSession ∧ t.command ≠ endSession then
    c.handleInvalidCommand t
  else (.none, c)

/-- `motion_lifecycle_coordinator_handle_transaction`. -/
def handleTransaction (c : MotionLifecycleCoordinator) (t : MotionTransaction) :
    MotionLifecycleAction × MotionLifecycleCoordinator :=
  match c.reliableReceiver.classify t with
  | .pendingRetry =>
    ({ MotionLifecycleAction.none with sendAck := true, ackTransaction := t }, c)
  | .new => c.handleNew t
  | .completedRetry =>
    ({ MotionLifecycleAction.none with
        sendAck := true
        ackTransaction := c.reliableReceiver.terminalTransaction
        sendResponse := true
        responseTransaction := c.reliableReceiver.terminalTransaction
        responseResult := c.reliableReceiver.terminalResult }, c)
  | .invalid | .stale | .collision => (.none, c)

/-- The transaction that may own the physical stop of a STARTING or ENDING session. -/
def Owner (state : MotionLifecycleState) (sessionId : UInt32) (t : MotionTransaction) : Prop :=
  (state = .starting ∧ t.command = startSession ∨ state = .ending ∧ t.command = endSession) ∧
    t.motionSessionId = sessionId

/-- Everything an accepted command can do. -/
inductive NewOutcome (c : MotionLifecycleCoordinator) (t : MotionTransaction) :
    MotionLifecycleAction × MotionLifecycleCoordinator → Prop where
  | immediate (result : MotionResponseResult)
      (hresult : result ∈ [alreadyActive, alreadyEnded, sessionMismatch, busyStopping, invalidCommand])
      (hother : ¬ Owner c.state c.motionSessionId t) :
      NewOutcome c t (c.answerImmediately t result)
  | request (state : MotionLifecycleState) (sessionId : UInt32)
      (hfree : c.state.stopping = false) (howner : Owner state sessionId t) :
      NewOutcome c t (c.requestStop t state sessionId)
  | transfer (state : MotionLifecycleState) (sessionId : UInt32)
      (hbusy : c.state.stopping = true) (howner : Owner state sessionId t) :
      NewOutcome c t (c.supersede t state sessionId)

private theorem start_ne_end : startSession ≠ endSession := by decide

/-- The final fall-through of the source is unreachable: every accepted command
is answered, starts a stop, or takes over the running one. -/
theorem handleNew_outcome (c : MotionLifecycleCoordinator) (t : MotionTransaction) :
    NewOutcome c t (c.handleNew t) := by
  have hse := start_ne_end
  rw [handleNew]
  cases hs : c.state with
  | noSession =>
    by_cases h1 : t.command = startSession
    · simpa [h1, hse, handleStartNoSession] using
        NewOutcome.request (c := c) .starting t.motionSessionId (by simp [hs, MotionLifecycleState.stopping])
          ⟨.inl ⟨rfl, h1⟩, rfl⟩
    · by_cases h2 : t.command = endSession
      · simpa [h1, h2, hse.symm, handleEndNoSession] using
          NewOutcome.immediate (c := c) (t := t) alreadyEnded (by decide) (by simp [Owner, hs])
      · simpa [h1, h2, handleInvalidCommand] using
          NewOutcome.immediate (c := c) (t := t) invalidCommand (by decide) (by simp [Owner, hs])
  | active =>
    by_cases h1 : t.command = startSession
    · by_cases h3 : t.motionSessionId = c.motionSessionId
      · simpa [h1, h3, hse, handleStartAlreadyActive] using
          NewOutcome.immediate (c := c) (t := t) alreadyActive (by decide) (by simp [Owner, hs])
      · simpa [h1, h3, hse, handleStartReplacingActive] using
          NewOutcome.request (c := c) .starting t.motionSessionId
            (by simp [hs, MotionLifecycleState.stopping]) ⟨.inl ⟨rfl, h1⟩, rfl⟩
    · by_cases h2 : t.command = endSession
      · by_cases h3 : t.motionSessionId = c.motionSessionId
        · simpa [h1, h2, h3, hse.symm, handleEndActive] using
            NewOutcome.request (c := c) .ending c.motionSessionId
              (by simp [hs, MotionLifecycleState.stopping]) ⟨.inr ⟨rfl, h2⟩, h3⟩
        · simpa [h1, h2, h3, hse.symm, handleEndSessionMismatch] using
            NewOutcome.immediate (c := c) (t := t) sessionMismatch (by decide) (by simp [Owner, hs])
      · simpa [h1, h2, handleInvalidCommand] using
          NewOutcome.immediate (c := c) (t := t) invalidCommand (by decide) (by simp [Owner, hs])
  | starting =>
    by_cases h1 : t.command = startSession
    · simpa [h1, hse, hs, handleStartWhileStarting] using
        NewOutcome.transfer (c := c) .starting t.motionSessionId
          (by simp [hs, MotionLifecycleState.stopping]) ⟨.inl ⟨rfl, h1⟩, rfl⟩
    · by_cases h2 : t.command = endSession
      · by_cases h3 : t.motionSessionId = c.motionSessionId
        · simpa [h1, h2, h3, hse.symm, handleEndWhileStarting] using
            NewOutcome.transfer (c := c) .ending c.motionSessionId
              (by simp [hs, MotionLifecycleState.stopping]) ⟨.inr ⟨rfl, h2⟩, h3⟩
        · simpa [h1, h2, h3, hse.symm, handleEndSessionMismatchWhileStarting] using
            NewOutcome.immediate (c := c) (t := t) sessionMismatch (by decide) (by simp [Owner, hs, h1])
      · simpa [h1, h2, handleInvalidCommand] using
          NewOutcome.immediate (c := c) (t := t) invalidCommand (by decide) (by simp [Owner, hs, h1])
  | ending =>
    by_cases h1 : t.command = startSession
    · simpa [h1, hse, handleStartWhileEnding] using
        NewOutcome.immediate (c := c) (t := t) busyStopping (by decide) (by simp [Owner, hs, h1, hse])
    · by_cases h2 : t.command = endSession
      · by_cases h3 : t.motionSessionId = c.motionSessionId
        · simpa [h1, h2, h3, hse.symm, hs, handleEndWhileEnding] using
            NewOutcome.transfer (c := c) .ending c.motionSessionId
              (by simp [hs, MotionLifecycleState.stopping]) ⟨.inr ⟨rfl, h2⟩, h3⟩
        · simpa [h1, h2, h3, hse.symm, handleEndSessionMismatchWhileEnding] using
            NewOutcome.immediate (c := c) (t := t) sessionMismatch (by decide) (by simp [Owner, hs, h3])
      · simpa [h1, h2, handleInvalidCommand] using
          NewOutcome.immediate (c := c) (t := t) invalidCommand (by decide) (by simp [Owner, hs, h2])

/-- Anything but an accepted command leaves the coordinator alone. -/
theorem handleTransaction_unchanged (c : MotionLifecycleCoordinator) (t : MotionTransaction)
    (h : c.reliableReceiver.classify t ≠ .new) : (c.handleTransaction t).2 = c := by
  rw [handleTransaction]
  cases hd : c.reliableReceiver.classify t <;> simp_all

theorem handleTransaction_outcome (c : MotionLifecycleCoordinator) (t : MotionTransaction)
    (h : c.reliableReceiver.classify t = .new) : NewOutcome c t (c.handleTransaction t) := by
  simpa [handleTransaction, h] using handleNew_outcome c t

/-- The completion is for the running stop and finds its owner. -/
def Completes (c : MotionLifecycleCoordinator) (operationId : UInt32) : Prop :=
  operationId ≠ 0 ∧ operationId = c.activeOperationId ∧
    c.reliableReceiver.pendingValid = true ∧ c.state.stopping = true

instance (c : MotionLifecycleCoordinator) (operationId : UInt32) :
    Decidable (c.Completes operationId) :=
  inferInstanceAs (Decidable (_ ∧ _ ∧ _ ∧ _))

/-- The terminal result that reports a physical outcome. -/
def completionResult (result : MotionLifecycleOperationResult) : MotionResponseResult :=
  if result = .success then ok else stopFailed

/-- A confirmed START activates its session; everything else ends it. -/
def completionState (c : MotionLifecycleCoordinator) (result : MotionLifecycleOperationResult) :
    MotionLifecycleState :=
  if c.state = .starting ∧ result = .success then .active else .noSession

theorem completeOperation_ignored (c : MotionLifecycleCoordinator) (operationId : UInt32)
    (result : MotionLifecycleOperationResult) (h : ¬ c.Completes operationId) :
    c.completeOperation operationId result = (.none, c) := by
  rw [completeOperation]
  split_ifs with h1 h2 h3 <;> try rfl
  all_goals
    refine absurd ⟨?_, ?_, ?_, ?_⟩ h
    · exact fun hz => h1 (.inl hz)
    · exact not_not.mp fun hz => h1 (.inr hz)
    · simpa using h2
    · cases hs : c.state <;> simp_all [MotionLifecycleState.stopping]

theorem completeOperation_accepted (c : MotionLifecycleCoordinator) (operationId : UInt32)
    (result : MotionLifecycleOperationResult) (h : c.Completes operationId) :
    c.completeOperation operationId result =
      ({ MotionLifecycleAction.none with
          sendResponse := true
          responseTransaction := c.reliableReceiver.pendingTransaction
          responseResult := completionResult result },
        { c with
          activeOperationId := 0
          state := c.completionState result
          motionSessionId := if c.completionState result = .active then c.motionSessionId else 0
          reliableReceiver := (c.reliableReceiver.completePending
            c.reliableReceiver.pendingTransaction (completionResult result)).2 }) := by
  obtain ⟨hz, ha, hp, hs⟩ := h
  rw [completeOperation]
  rw [if_neg (by simp [← ha, hz]), if_neg (by simp [hp])]
  cases hstate : c.state with
  | noSession => simp [hstate, MotionLifecycleState.stopping] at hs
  | active => simp [hstate, MotionLifecycleState.stopping] at hs
  | starting => cases result <;> simp [completionResult, completionState, hstate]
  | ending => cases result <;> simp [completionResult, completionState, hstate]

theorem nextId_ne_zero (id : UInt32) : nextId id ≠ 0 := by
  rw [nextId]
  split_ifs with h
  · rw [h]
    decide
  · exact h

/-- The facts that hold between any two calls. -/
structure Coherent (c : MotionLifecycleCoordinator) : Prop where
  pending_iff : c.reliableReceiver.pendingValid = c.state.stopping
  operation_iff : c.activeOperationId ≠ 0 ↔ c.state.stopping = true
  owner : c.state.stopping = true →
    Owner c.state c.motionSessionId c.reliableReceiver.pendingTransaction
  frontier : c.reliableReceiver.latestSequenceValid = true →
    c.reliableReceiver.terminalValid = true ∧
        c.reliableReceiver.terminalTransaction.sequence = c.reliableReceiver.latestSequence ∨
      c.reliableReceiver.pendingValid = true ∧
        c.reliableReceiver.pendingTransaction.sequence = c.reliableReceiver.latestSequence
  terminal_frontier : c.reliableReceiver.terminalValid = true →
    c.reliableReceiver.latestSequenceValid = true ∧
      c.reliableReceiver.terminalTransaction.sequence = c.reliableReceiver.latestSequence
  empty : c.reliableReceiver.latestSequenceValid = false →
    c.reliableReceiver.pendingValid = false

theorem init_coherent : init.Coherent := by
  constructor <;> simp [init, MotionLifecycleState.stopping]

theorem reset_coherent (c : MotionLifecycleCoordinator) : c.reset.Coherent := by
  constructor <;> simp [reset, MotionReliableReceiver.reset, MotionLifecycleState.stopping]

theorem Owner.stopping {state : MotionLifecycleState} {sessionId : UInt32} {t : MotionTransaction}
    (h : Owner state sessionId t) : state.stopping = true := by
  rcases h.1 with ⟨rfl, _⟩ | ⟨rfl, _⟩ <;> rfl

theorem Coherent.handleTransaction {c : MotionLifecycleCoordinator} (h : c.Coherent)
    (t : MotionTransaction) : (c.handleTransaction t).2.Coherent := by
  by_cases hnew : c.reliableReceiver.classify t = .new
  · have hout := handleTransaction_outcome c t hnew
    generalize c.handleTransaction t = out at hout ⊢
    cases hout with
    | immediate result _ _ =>
      refine ⟨h.pending_iff, h.operation_iff, h.owner, ?_, ?_, ?_⟩ <;>
        simp [answerImmediately, MotionReliableReceiver.recordImmediateTerminal]
    | request state sessionId _ howner =>
      refine ⟨?_, ?_, fun _ => howner, ?_, ?_, ?_⟩ <;>
        simp [requestStop, beginNewOperation, MotionReliableReceiver.beginPending, howner.stopping,
          nextId_ne_zero]
    | transfer state sessionId hbusy howner =>
      refine ⟨?_, ?_, fun _ => howner, ?_, ?_, ?_⟩ <;>
        simp [supersede, MotionReliableReceiver.beginPending, howner.stopping,
          h.operation_iff.mpr hbusy]
  · rw [handleTransaction_unchanged c t hnew]
    exact h

theorem completionState_free (c : MotionLifecycleCoordinator)
    (result : MotionLifecycleOperationResult) : (c.completionState result).stopping = false := by
  rw [completionState]
  split_ifs <;> rfl

theorem Coherent.completeOperation {c : MotionLifecycleCoordinator} (h : c.Coherent)
    (operationId : UInt32) (result : MotionLifecycleOperationResult) :
    (c.completeOperation operationId result).2.Coherent := by
  by_cases hc : c.Completes operationId
  · have hp := hc.2.2.1
    have hv : c.reliableReceiver.latestSequenceValid = true := by
      cases hl : c.reliableReceiver.latestSequenceValid with
      | false => simp [h.empty hl] at hp
      | true => rfl
    rw [completeOperation_accepted c operationId result hc,
      MotionReliableReceiver.completePending_self _ _ hp]
    have hfree := c.completionState_free result
    by_cases hseq : c.reliableReceiver.pendingTransaction.sequence =
        c.reliableReceiver.latestSequence
    · refine ⟨?_, ?_, ?_, ?_, ?_, ?_⟩ <;> simp [hfree, hv, hseq]
    · have hterm := (h.frontier hv).resolve_right fun hr => hseq hr.2
      refine ⟨?_, ?_, ?_, ?_, ?_, ?_⟩ <;> simp [hfree, hv, hseq, hterm.1, hterm.2]
  · rw [completeOperation_ignored c operationId result hc]
    exact h

/-- Under coherence the running identifier always completes. -/
theorem Coherent.completes {c : MotionLifecycleCoordinator} (h : c.Coherent)
    (ha : c.activeOperationId ≠ 0) : c.Completes c.activeOperationId :=
  ⟨ha, rfl, h.pending_iff.trans (h.operation_iff.mp ha), h.operation_iff.mp ha⟩

end MotionLifecycleCoordinator

end IndoorRobot
