import IndoorRobot.ProtocolPayloads

/-!
# The link and motion sessions of the Pi

`stm32_link_session.cpp` and `stm32_motion_session.cpp`. Each method is a function
from the session to its answer and the session after the call.
-/
namespace IndoorRobot

open MotionLifecycleCommandType MotionResponseResult

inductive Stm32LinkState where
  | disconnected | syncPending | synchronized
  deriving DecidableEq, Repr, Inhabited

structure Stm32LinkSession where
  state : Stm32LinkState := .disconnected
  nextSequence : UInt16 := 1
  pendingSyncSequence : UInt16 := 0
  pendingSyncToken : UInt64 := 0
  pendingHeartbeatSequence : UInt16 := 0
  lastValidResponseMs : UInt32 := 0
  lastHeartbeatTxMs : UInt32 := 0
  heartbeatResponsePending : Bool := false
  deriving DecidableEq, Repr, Inhabited

namespace Stm32LinkSession

def heartbeatPeriodMs : UInt32 := 250
def linkTimeoutMs : UInt32 := 1000

/-- The LINK_SYNC frame of `begin_synchronization`. -/
def linkSyncFrame (sequence : UInt16) (syncToken : UInt64) : ProtocolFrame :=
  { messageType := .linkSync
    sequence := sequence
    payloadLength := linkSyncWireSize
    payload := .ofBytes (linkSyncEncode { syncToken := syncToken }) }

/-- The HEARTBEAT frame of `heartbeat_if_due`. -/
def clientHeartbeatFrame (sequence : UInt16) (nowMs : UInt32) : ProtocolFrame :=
  { messageType := .heartbeat
    sequence := sequence
    payloadLength := heartbeatWireSize
    payload := .ofBytes (heartbeatEncode { linkState := .synchronized, uptimeMs := nowMs }) }

/-- `heartbeat_if_due`. -/
def heartbeatIfDue (s : Stm32LinkSession) (nowMs : UInt32) : Option ProtocolFrame × Stm32LinkSession :=
  if s.state ≠ .synchronized then (none, s)
  else if nowMs - s.lastHeartbeatTxMs < heartbeatPeriodMs then (none, s)
  else
    (some (clientHeartbeatFrame s.nextSequence nowMs),
      { s with
        nextSequence := s.nextSequence + 1
        pendingHeartbeatSequence := s.nextSequence
        heartbeatResponsePending := true
        lastHeartbeatTxMs := nowMs })

/-- `begin_synchronization`. -/
def beginSynchronization (s : Stm32LinkSession) (syncToken : UInt64) :
    ProtocolFrame × Stm32LinkSession :=
  (linkSyncFrame s.nextSequence syncToken,
    { s with
      heartbeatResponsePending := false
      nextSequence := s.nextSequence + 1
      pendingSyncSequence := s.nextSequence
      pendingSyncToken := syncToken
      state := .syncPending })

/-- `handle_link_sync_ok`. -/
def handleLinkSyncOk (s : Stm32LinkSession) (f : ProtocolFrame) (nowMs : UInt32) :
    Bool × Stm32LinkSession :=
  if s.state ≠ .syncPending then (false, s)
  else if f.messageType ≠ .linkSyncOk then (false, s)
  else if f.payloadLength ≠ linkSyncWireSize then (false, s)
  else if f.sequence ≠ s.pendingSyncSequence then (false, s)
  else if (linkSyncDecode f.payload.bytes).syncToken ≠ s.pendingSyncToken then (false, s)
  else
    (true,
      { s with
        state := .synchronized
        lastHeartbeatTxMs := nowMs
        lastValidResponseMs := nowMs })

/-- `handle_heartbeat_response`. -/
def handleHeartbeatResponse (s : Stm32LinkSession) (f : ProtocolFrame) (nowMs : UInt32) :
    Bool × Stm32LinkSession :=
  if ¬ s.heartbeatResponsePending then (false, s)
  else if s.state ≠ .synchronized then (false, s)
  else if f.messageType ≠ .heartbeat then (false, s)
  else if f.payloadLength ≠ heartbeatWireSize then (false, s)
  else if f.sequence ≠ s.pendingHeartbeatSequence then (false, s)
  else
    let payload := heartbeatDecode f.payload.bytes
    if payload.linkState = .unsynchronized then
      (false, { s with heartbeatResponsePending := false, state := .disconnected })
    else if payload.linkState ≠ .synchronized then (false, s)
    else (true, { s with heartbeatResponsePending := false, lastValidResponseMs := nowMs })

/-- `check_link_timeout`. -/
def checkLinkTimeout (s : Stm32LinkSession) (nowMs : UInt32) : Stm32LinkSession :=
  if s.state ≠ .synchronized then s
  else if nowMs - s.lastValidResponseMs ≥ linkTimeoutMs then
    { s with heartbeatResponsePending := false, state := .disconnected }
  else s

/-- `disconnect`. -/
def disconnect (s : Stm32LinkSession) : Stm32LinkSession :=
  { s with
    state := .disconnected
    heartbeatResponsePending := false
    pendingSyncSequence := 0
    pendingSyncToken := 0
    lastHeartbeatTxMs := 0
    lastValidResponseMs := 0 }

theorem handleHeartbeatResponse_pendingSyncToken (s : Stm32LinkSession) (f : ProtocolFrame)
    (nowMs : UInt32) :
    (s.handleHeartbeatResponse f nowMs).2.pendingSyncToken = s.pendingSyncToken := by
  simp only [handleHeartbeatResponse]
  split_ifs <;> rfl

/-- Synchronization is granted only by the answer to the pending token. -/
theorem handleLinkSyncOk_accepts (s : Stm32LinkSession) (f : ProtocolFrame) (nowMs : UInt32)
    (h : (s.handleLinkSyncOk f nowMs).1 = true) :
    s.state = .syncPending ∧ f.messageType = .linkSyncOk ∧
      (linkSyncDecode f.payload.bytes).syncToken = s.pendingSyncToken ∧
      (s.handleLinkSyncOk f nowMs).2.state = .synchronized := by
  rw [handleLinkSyncOk] at h ⊢
  split_ifs at h ⊢
  simp_all

theorem handleLinkSyncOk_refuses (s : Stm32LinkSession) (f : ProtocolFrame) (nowMs : UInt32)
    (h : (s.handleLinkSyncOk f nowMs).1 = false) : (s.handleLinkSyncOk f nowMs).2 = s := by
  rw [handleLinkSyncOk] at h ⊢
  split_ifs at h ⊢ <;> rfl

end Stm32LinkSession

inductive Stm32MotionSessionState where
  | inactive | startPending | active | endPending
  deriving DecidableEq, Repr, Inhabited

structure Stm32MotionSession where
  nextSequence : UInt16 := 1
  pendingSequence : UInt16 := 0
  pendingSessionId : UInt32 := 0
  transactionPending : Bool := false
  pendingCommand : MotionLifecycleCommandType := 0
  pendingFrame : ProtocolFrame := {}
  ackReceived : Bool := false
  retryTimerRunning : Bool := false
  retryCount : UInt8 := 0
  lastTransmitMs : UInt32 := 0
  nextWheelSequence : UInt16 := 1
  state : Stm32MotionSessionState := .inactive
  activeSessionId : UInt32 := 0
  deriving DecidableEq, Inhabited

namespace Stm32MotionSession

def ackTimeoutMs : UInt32 := 100
def terminalTimeoutMs : UInt32 := 750
def maxRetries : UInt8 := 3

/-- The WHEEL_VELOCITY frame of `build_wheel_velocity`. -/
def wheelVelocityFrame (sequence : UInt16) (payload : WheelVelocityPayload) : ProtocolFrame :=
  { messageType := .wheelVelocity
    sequence := sequence
    payloadLength := wheelVelocityPayloadWireSize
    payload := .ofBytes (wheelVelocityPayloadEncode payload) }

/-- `build_wheel_velocity`. -/
def buildWheelVelocity (s : Stm32MotionSession) (leftVelocityMmS rightVelocityMmS : Int16) :
    Option ProtocolFrame × Stm32MotionSession :=
  if s.state ≠ .active then (none, s)
  else
    (some (wheelVelocityFrame s.nextWheelSequence
      { motionSessionId := s.activeSessionId
        command :=
          { leftVelocityMmS := leftVelocityMmS, rightVelocityMmS := rightVelocityMmS } }),
      { s with nextWheelSequence := s.nextWheelSequence + 1 })

/-- The shared end of `begin_start_session` and `begin_end_session`. -/
def beginTransaction (s : Stm32MotionSession) (command : MotionLifecycleCommandType)
    (motionSessionId : UInt32) : ProtocolFrame × Stm32MotionSession :=
  let frame := motionLifecycleCommandFrame
    { sequence := s.nextSequence, command := command, motionSessionId := motionSessionId }
  (frame,
    { s with
      nextSequence := s.nextSequence + 1
      pendingSequence := frame.sequence
      pendingSessionId := motionSessionId
      pendingCommand := command
      pendingFrame := frame
      ackReceived := false
      retryTimerRunning := false
      retryCount := 0
      transactionPending := true })

/-- `begin_start_session`. -/
def beginStartSession (s : Stm32MotionSession) (motionSessionId : UInt32) :
    Option ProtocolFrame × Stm32MotionSession :=
  if s.transactionPending then (none, s)
  else
    let (frame, s) := s.beginTransaction startSession motionSessionId
    (some frame, { s with state := .startPending, activeSessionId := 0 })

/-- `begin_end_session`. -/
def beginEndSession (s : Stm32MotionSession) (motionSessionId : UInt32) :
    Option ProtocolFrame × Stm32MotionSession :=
  if s.transactionPending ∨ s.state ≠ .active ∨ motionSessionId ≠ s.activeSessionId then (none, s)
  else
    let (frame, s) := s.beginTransaction endSession motionSessionId
    (some frame, { s with state := .endPending })

/-- `handle_ack`. -/
def handleAck (s : Stm32MotionSession) (f : ProtocolFrame) (nowMs : UInt32) :
    Bool × Stm32MotionSession :=
  if ¬ s.transactionPending then (false, s)
  else if f.messageType ≠ .motionAck then (false, s)
  else if f.sequence ≠ s.pendingSequence then (false, s)
  else if f.payloadLength ≠ motionAckWireSize then (false, s)
  else if (motionAckDecode f.payload.bytes).status ≠ .accepted then (false, s)
  else if ¬ s.ackReceived then (true, { s with ackReceived := true, lastTransmitMs := nowMs })
  else (true, s)

/-- The session after the pending transaction has been answered. -/
def settle (s : Stm32MotionSession) (result : MotionResponseResult) : Stm32MotionSession :=
  let s :=
    if s.pendingCommand = startSession then
      if result = ok ∨ result = alreadyActive then
        { s with state := .active, activeSessionId := s.pendingSessionId }
      else { s with state := .inactive, activeSessionId := 0 }
    else if s.pendingCommand = endSession then
      { s with state := .inactive, activeSessionId := 0 }
    else s
  { s with transactionPending := false, retryTimerRunning := false }

/-- `handle_response`. -/
def handleResponse (s : Stm32MotionSession) (f : ProtocolFrame) :
    Option MotionResponseResult × Stm32MotionSession :=
  if ¬ s.transactionPending then (none, s)
  else if f.messageType ≠ .motionResponse then (none, s)
  else if f.sequence ≠ s.pendingSequence then (none, s)
  else if f.payloadLength ≠ motionResponseWireSize then (none, s)
  else
    let payload := motionResponseDecode f.payload.bytes
    if payload.command ≠ s.pendingCommand then (none, s)
    else if payload.motionSessionId ≠ s.pendingSessionId then (none, s)
    else (some payload.result, s.settle payload.result)

/-- `mark_pending_transmitted`. -/
def markPendingTransmitted (s : Stm32MotionSession) (nowMs : UInt32) : Stm32MotionSession :=
  if ¬ s.transactionPending then s
  else { s with lastTransmitMs := nowMs, retryTimerRunning := true }

/-- The timeout that applies to the pending transaction. -/
def retryTimeoutMs (s : Stm32MotionSession) : UInt32 :=
  if s.ackReceived then terminalTimeoutMs else ackTimeoutMs

/-- `retry_if_due`. -/
def retryIfDue (s : Stm32MotionSession) (nowMs : UInt32) :
    Option ProtocolFrame × Stm32MotionSession :=
  if ¬ s.transactionPending ∨ ¬ s.retryTimerRunning then (none, s)
  else if nowMs - s.lastTransmitMs < s.retryTimeoutMs then (none, s)
  else if s.retryCount ≥ maxRetries then (none, s)
  else
    (some s.pendingFrame, { s with retryCount := s.retryCount + 1, retryTimerRunning := false })

/-- `retry_exhausted`. -/
def retryExhausted (s : Stm32MotionSession) (nowMs : UInt32) : Bool :=
  s.transactionPending && s.retryTimerRunning && decide (s.retryCount ≥ maxRetries) &&
    decide (nowMs - s.lastTransmitMs ≥ s.retryTimeoutMs)

/-- `reset`: the sequence counters survive. -/
def reset (s : Stm32MotionSession) : Stm32MotionSession :=
  { s with
    pendingSequence := 0
    pendingSessionId := 0
    pendingCommand := 0
    pendingFrame := {}
    transactionPending := false
    ackReceived := false
    retryTimerRunning := false
    retryCount := 0
    lastTransmitMs := 0
    state := .inactive
    activeSessionId := 0 }

/-- The identity of the pending command. -/
def pendingTransaction (s : Stm32MotionSession) : MotionTransaction :=
  { sequence := s.pendingSequence
    command := s.pendingCommand
    motionSessionId := s.pendingSessionId }

/-- Two sessions that differ in timers, retries and the wheel sequence only. -/
structure SameLifecycle (s t : Stm32MotionSession) : Prop where
  state : t.state = s.state
  activeSessionId : t.activeSessionId = s.activeSessionId
  transactionPending : t.transactionPending = s.transactionPending
  pendingTransaction : t.pendingTransaction = s.pendingTransaction
  pendingFrame : t.pendingFrame = s.pendingFrame
  nextSequence : t.nextSequence = s.nextSequence

theorem SameLifecycle.refl (s : Stm32MotionSession) : s.SameLifecycle s :=
  ⟨rfl, rfl, rfl, rfl, rfl, rfl⟩

theorem buildWheelVelocity_sameLifecycle (s : Stm32MotionSession) (left right : Int16) :
    s.SameLifecycle (s.buildWheelVelocity left right).2 := by
  rw [buildWheelVelocity]
  split_ifs <;> exact ⟨rfl, rfl, rfl, rfl, rfl, rfl⟩

theorem buildWheelVelocity_active (s : Stm32MotionSession) (hs : s.state = .active)
    (left right : Int16) : (s.buildWheelVelocity left right).1 =
      some (wheelVelocityFrame s.nextWheelSequence
        { motionSessionId := s.activeSessionId,
          command := { leftVelocityMmS := left, rightVelocityMmS := right } }) := by
  simp [buildWheelVelocity, hs]

theorem handleAck_sameLifecycle (s : Stm32MotionSession) (f : ProtocolFrame) (nowMs : UInt32) :
    s.SameLifecycle (s.handleAck f nowMs).2 := by
  rw [handleAck]
  split_ifs <;> exact ⟨rfl, rfl, rfl, rfl, rfl, rfl⟩

theorem markPendingTransmitted_sameLifecycle (s : Stm32MotionSession) (nowMs : UInt32) :
    s.SameLifecycle (s.markPendingTransmitted nowMs) := by
  rw [markPendingTransmitted]
  split_ifs <;> exact ⟨rfl, rfl, rfl, rfl, rfl, rfl⟩

theorem retryIfDue_sameLifecycle (s : Stm32MotionSession) (nowMs : UInt32) :
    s.SameLifecycle (s.retryIfDue nowMs).2 := by
  rw [retryIfDue]
  split_ifs <;> exact ⟨rfl, rfl, rfl, rfl, rfl, rfl⟩

theorem handleAck_cases (s : Stm32MotionSession) (f : ProtocolFrame) (nowMs : UInt32) :
    s.handleAck f nowMs = (false, s) ∨ s.transactionPending = true ∧
      (s.handleAck f nowMs = (true, s) ∧ s.ackReceived = true ∨
        s.handleAck f nowMs = (true, { s with ackReceived := true, lastTransmitMs := nowMs }) ∧
          s.ackReceived = false) := by
  rw [handleAck]
  split_ifs with hpending htype hsequence hlength hstatus hfirst
  · exact .inl rfl
  · exact .inl rfl
  · exact .inl rfl
  · exact .inl rfl
  · exact .inr ⟨hpending, .inl ⟨rfl, hfirst⟩⟩
  · exact .inr ⟨hpending, .inr ⟨rfl, by simpa using hfirst⟩⟩
  · exact .inl rfl

theorem retryIfDue_cases (s : Stm32MotionSession) (nowMs : UInt32) :
    s.retryIfDue nowMs = (none, s) ∨ s.transactionPending = true ∧ s.retryCount < maxRetries ∧
      s.retryIfDue nowMs = (some s.pendingFrame,
        { s with retryCount := s.retryCount + 1, retryTimerRunning := false }) := by
  rw [retryIfDue]
  split_ifs with hidle hearly hspent
  · exact .inl rfl
  · exact .inl rfl
  · exact .inl rfl
  · simp only [not_or, not_not] at hidle
    exact .inr ⟨hidle.1, UInt8.not_le.mp hspent, rfl⟩

/-- Only the frame of a pending transaction is ever sent again. -/
theorem retryIfDue_frame (s : Stm32MotionSession) (nowMs : UInt32) (f : ProtocolFrame)
    (h : (s.retryIfDue nowMs).1 = some f) : s.transactionPending = true ∧ f = s.pendingFrame := by
  rw [retryIfDue] at h
  split_ifs at h with hpending
  · simp_all

/-- Bookkeeping shared by all states of a session. -/
structure Consistent (s : Stm32MotionSession) : Prop where
  pending : s.transactionPending = true →
    (s.state = .startPending ∧ s.pendingCommand = startSession ∨
      s.state = .endPending ∧ s.pendingCommand = endSession) ∧
    s.pendingFrame = motionLifecycleCommandFrame s.pendingTransaction ∧
    s.nextSequence = s.pendingSequence + 1
  settled : s.transactionPending = false → s.state = .inactive ∨ s.state = .active

theorem SameLifecycle.consistent {s t : Stm32MotionSession} (h : s.SameLifecycle t)
    (hs : s.Consistent) : t.Consistent := by
  obtain ⟨hstate, -, hpending, htransaction, hframe, hnext⟩ := h
  have hsequence : t.pendingSequence = s.pendingSequence :=
    congrArg MotionTransaction.sequence htransaction
  have hcommand : t.pendingCommand = s.pendingCommand :=
    congrArg MotionTransaction.command htransaction
  constructor
  · rw [hstate, hpending, hframe, hnext, htransaction, hsequence, hcommand]
    exact hs.pending
  · rw [hstate, hpending]
    exact hs.settled

theorem default_consistent : ({} : Stm32MotionSession).Consistent :=
  ⟨fun h => (Bool.false_ne_true h).elim, fun _ => .inl rfl⟩

theorem reset_consistent (s : Stm32MotionSession) : s.reset.Consistent :=
  ⟨fun h => (Bool.false_ne_true h).elim, fun _ => .inl rfl⟩

/-- What `begin_start_session` and `begin_end_session` leave behind. -/
structure Begins (s : Stm32MotionSession) (command : MotionLifecycleCommandType)
    (motionSessionId : UInt32) (f : ProtocolFrame) (t : Stm32MotionSession) : Prop where
  unpended : s.transactionPending = false
  pending : t.transactionPending = true
  transaction : t.pendingTransaction =
    { sequence := s.nextSequence, command := command, motionSessionId := motionSessionId }
  frame : f = motionLifecycleCommandFrame t.pendingTransaction
  pendingFrame : t.pendingFrame = f
  nextSequence : t.nextSequence = s.nextSequence + 1

theorem beginStartSession_begins (s : Stm32MotionSession) (motionSessionId : UInt32)
    (f : ProtocolFrame) (h : (s.beginStartSession motionSessionId).1 = some f) :
    s.Begins startSession motionSessionId f (s.beginStartSession motionSessionId).2 ∧
      (s.beginStartSession motionSessionId).2.state = .startPending := by
  rw [beginStartSession] at h ⊢
  split_ifs at h ⊢ with hpending
  cases h
  exact ⟨⟨by simpa using hpending, rfl, rfl, rfl, rfl, rfl⟩, rfl⟩

theorem beginEndSession_begins (s : Stm32MotionSession) (motionSessionId : UInt32)
    (f : ProtocolFrame) (h : (s.beginEndSession motionSessionId).1 = some f) :
    s.Begins endSession motionSessionId f (s.beginEndSession motionSessionId).2 ∧
      (s.beginEndSession motionSessionId).2.state = .endPending ∧ s.state = .active ∧
      motionSessionId = s.activeSessionId := by
  rw [beginEndSession] at h ⊢
  split_ifs at h ⊢ with hrefused
  cases h
  simp only [not_or, ne_eq, not_not] at hrefused
  exact ⟨⟨by simpa using hrefused.1, rfl, rfl, rfl, rfl, rfl⟩, rfl, hrefused.2.1, hrefused.2.2⟩

theorem beginStartSession_none (s : Stm32MotionSession) (motionSessionId : UInt32)
    (h : (s.beginStartSession motionSessionId).1 = none) :
    (s.beginStartSession motionSessionId).2 = s := by
  rw [beginStartSession] at h ⊢
  split_ifs at h ⊢
  rfl

theorem beginEndSession_none (s : Stm32MotionSession) (motionSessionId : UInt32)
    (h : (s.beginEndSession motionSessionId).1 = none) :
    (s.beginEndSession motionSessionId).2 = s := by
  rw [beginEndSession] at h ⊢
  split_ifs at h ⊢
  rfl

theorem Begins.sessionId {s t : Stm32MotionSession} {command : MotionLifecycleCommandType}
    {motionSessionId : UInt32} {f : ProtocolFrame} (h : s.Begins command motionSessionId f t) :
    t.pendingSessionId = motionSessionId :=
  congrArg MotionTransaction.motionSessionId h.transaction

theorem Begins.consistent {s t : Stm32MotionSession} {command : MotionLifecycleCommandType}
    {motionSessionId : UInt32} {f : ProtocolFrame} (h : s.Begins command motionSessionId f t)
    (hstate : t.state = .startPending ∧ command = startSession ∨
      t.state = .endPending ∧ command = endSession) : t.Consistent := by
  have hcommand : t.pendingCommand = command := congrArg MotionTransaction.command h.transaction
  have hsequence : t.pendingSequence = s.nextSequence :=
    congrArg MotionTransaction.sequence h.transaction
  constructor
  · intro _
    rw [hcommand, hsequence, h.pendingFrame]
    exact ⟨hstate, h.frame, h.nextSequence⟩
  · intro hsettled
    simp [h.pending] at hsettled

/-- A response that `handle_response` accepts with this result. -/
structure Answers (s : Stm32MotionSession) (f : ProtocolFrame) (result : MotionResponseResult) :
    Prop where
  pending : s.transactionPending = true
  response : f.messageType = .motionResponse
  sequence : f.sequence = s.pendingSequence
  payload : motionResponseDecode f.payload.bytes =
    { command := s.pendingCommand, motionSessionId := s.pendingSessionId, result := result }

theorem handleResponse_cases (s : Stm32MotionSession) (f : ProtocolFrame) :
    s.handleResponse f = (none, s) ∨
      ∃ result, s.handleResponse f = (some result, s.settle result) ∧ s.Answers f result := by
  simp only [handleResponse]
  split_ifs with hpending htype hsequence hlength hcommand hsession
  · exact .inl rfl
  · exact .inl rfl
  · exact .inl rfl
  · exact .inl rfl
  · exact .inl rfl
  · refine .inr ⟨_, rfl, hpending, not_not.mp htype, not_not.mp hsequence, ?_⟩
    rw [← not_not.mp hcommand, ← not_not.mp hsession]
  · exact .inl rfl

@[simp] theorem settle_transactionPending (s : Stm32MotionSession) (result : MotionResponseResult) :
    (s.settle result).transactionPending = false := rfl

theorem settle_nextSequence (s : Stm32MotionSession) (result : MotionResponseResult) :
    (s.settle result).nextSequence = s.nextSequence := by
  rw [settle]
  split_ifs <;> rfl

/-- The session is granted by its START alone, with one of two results. -/
theorem settle_state (s : Stm32MotionSession) (hs : s.Consistent)
    (hpending : s.transactionPending = true) (result : MotionResponseResult) :
    (s.settle result).state = .active ∧ (s.settle result).activeSessionId = s.pendingSessionId ∧
        s.state = .startPending ∧ s.pendingCommand = startSession ∧
        (result = ok ∨ result = alreadyActive) ∨
      (s.settle result).state = .inactive ∧
        ¬ (s.pendingCommand = startSession ∧ (result = ok ∨ result = alreadyActive)) := by
  obtain ⟨⟨hstate, hcommand⟩ | ⟨hstate, hcommand⟩, -⟩ := hs.pending hpending
  · by_cases hresult : result = ok ∨ result = alreadyActive
    · left
      simp [settle, hcommand, hresult, hstate]
    · right
      simp [settle, hcommand, hresult]
  · right
    have hne : endSession ≠ startSession := by decide
    simp [settle, hcommand, hne]

theorem settle_consistent (s : Stm32MotionSession) (hs : s.Consistent)
    (hpending : s.transactionPending = true) (result : MotionResponseResult) :
    (s.settle result).Consistent := by
  constructor
  · intro h
    simp at h
  · intro _
    rcases s.settle_state hs hpending result with h | h
    · exact .inr h.1
    · exact .inl h.1

end Stm32MotionSession

end IndoorRobot
