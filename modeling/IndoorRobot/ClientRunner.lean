import IndoorRobot.ClientSessions

/-!
# The client runner of the Pi

`stm32_client_runner.cpp`. The operating system is an oracle like the ports of the
board: its n-th answer is `env n`, and every question advances the count of calls.
The steady clock is kept in nanoseconds and moves forward by the answer, so it
never decreases; the time point zero is the default-constructed one. One poll is a
chain of stages, each of which may end it by returning the iteration's result.
-/
namespace IndoorRobot

/-- One answer of the operating system. The random session identifier is the first
nonzero draw, as the loop of the source takes it. -/
structure ClientAnswer where
  advanceNs : ℕ := 0
  ok : Bool := true
  disconnected : Bool := false
  readable : Bool := false
  bytes : Option (List UInt8) := none
  syncToken : UInt64 := 0
  sessionId : UInt32 := 1
  sessionId_ne_zero : sessionId ≠ 0 := by decide

/-- What can be observed of a run of the client. A frame is logged with the time at
which it was decided to send it. -/
inductive ClientEvent where
  | wheelCommand (command : WheelVelocityCommand) (time : ℤ)
  | epochBegan
  | startBegun (sessionId : UInt32)
  | endBegun (sessionId : UInt32)
  | sent (frame : ProtocolFrame) (decidedAt : ℤ)
  | responseAccepted (command : MotionLifecycleCommandType) (sessionId : UInt32)
      (result : MotionResponseResult)
  deriving DecidableEq

inductive ClientState where
  | disconnected | synchronizing | synchronized
  deriving DecidableEq, Repr, Inhabited

structure Stm32ClientRunner where
  decoder : ProtocolFrameDecoder := {}
  epochStart : ℤ := 0
  syncDeadline : ℤ := 0
  reconnectDeadline : ℤ := 0
  state : ClientState := .disconnected
  transportFailed : Bool := false
  linkSession : Stm32LinkSession := {}
  motionSession : Stm32MotionSession := {}
  motionSessionId : UInt32 := 0
  latestWheelCommand : Option WheelVelocityCommand := none
  latestWheelCommandTime : ℤ := 0
  lastWheelTransmitTime : ℤ := 0
  clock : ℤ := 0
  calls : ℕ := 0
  log : List ClientEvent := []

namespace Stm32ClientRunner

def millisecondNs : ℤ := 1000000
def wheelTxPeriod : ℤ := 50 * millisecondNs
def wheelCommandFreshness : ℤ := 200 * millisecondNs

def emit (r : Stm32ClientRunner) (event : ClientEvent) : Stm32ClientRunner :=
  { r with log := r.log ++ [event] }

/-- The milliseconds since the epoch began, converted to `uint32_t`. -/
def elapsedMs (r : Stm32ClientRunner) (time : ℤ) : UInt32 :=
  UInt32.ofNat ((time - r.epochStart).tdiv millisecondNs % 4294967296).toNat

/-- `has_fresh_wheel_command`. -/
def hasFreshWheelCommand (r : Stm32ClientRunner) (now : ℤ) : Bool :=
  r.latestWheelCommand.isSome && decide (now - r.latestWheelCommandTime < wheelCommandFreshness)

/-- `is_zero_wheel_command`. -/
def isZeroWheelCommand (c : WheelVelocityCommand) : Bool :=
  c.leftVelocityMmS == 0 && c.rightVelocityMmS == 0

/-- There is a fresh command that is not all zero. -/
def demandsMotion (r : Stm32ClientRunner) (now : ℤ) : Bool :=
  r.hasFreshWheelCommand now && !isZeroWheelCommand (r.latestWheelCommand.getD {})

/-- `disconnect_current_epoch`. -/
def disconnectCurrentEpoch (r : Stm32ClientRunner) : Stm32ClientRunner :=
  { r with
    state := .disconnected
    linkSession := r.linkSession.disconnect
    motionSession := r.motionSession.reset
    motionSessionId := 0
    latestWheelCommand := none
    latestWheelCommandTime := 0
    lastWheelTransmitTime := 0 }

/-- The response branch of the frame dispatch. -/
def handleMotionResponse (frame : ProtocolFrame) (r : Stm32ClientRunner) : Stm32ClientRunner :=
  let previous := r.motionSession
  let (result, session) := previous.handleResponse frame
  let r := { r with motionSession := session }
  match result with
  | none => r
  | some result =>
    let r := r.emit (.responseAccepted previous.pendingCommand previous.pendingSessionId result)
    if previous.state = .startPending then
      if session.state ≠ .active then { r with motionSessionId := 0, lastWheelTransmitTime := 0 }
      else r
    else if previous.state = .endPending then
      { r with motionSessionId := 0, lastWheelTransmitTime := 0 }
    else r

section Calls
variable (env : ℕ → ClientAnswer)

/-- `std::chrono::steady_clock::now`. -/
def now (r : Stm32ClientRunner) : ℤ × Stm32ClientRunner :=
  let clock := r.clock + (env r.calls).advanceNs
  (clock, { r with clock := clock, calls := r.calls + 1 })

/-- The current time in milliseconds of the epoch. -/
def currentMs (r : Stm32ClientRunner) : UInt32 × Stm32ClientRunner :=
  let (time, r) := r.now env
  (r.elapsedMs time, r)

/-- `send_frame`. -/
def sendFrame (frame : ProtocolFrame) (decidedAt : ℤ) (r : Stm32ClientRunner) :
    Bool × Stm32ClientRunner :=
  ((env r.calls).ok, { r.emit (.sent frame decidedAt) with calls := r.calls + 1 })

/-- `set_wheel_command`. -/
def setWheelCommand (command : WheelVelocityCommand) (r : Stm32ClientRunner) : Stm32ClientRunner :=
  let (time, r) := r.now env
  { r.emit (.wheelCommand command time) with
    latestWheelCommand := some command
    latestWheelCommandTime := time }

/-- The end of an iteration on a frame that could not be sent. -/
def transportLost (r : Stm32ClientRunner) : Option Bool × Stm32ClientRunner :=
  (some false, { r with transportFailed := true })

/-- Sends the pending lifecycle command and starts its retry timer. -/
def transmitPending (frame : ProtocolFrame) (decidedAt : ℤ) (r : Stm32ClientRunner) :
    Option Bool × Stm32ClientRunner :=
  let (ok, r) := r.sendFrame env frame decidedAt
  if ¬ ok then r.transportLost
  else
    let (nowMs, r) := r.currentMs env
    (none, { r with motionSession := r.motionSession.markPendingTransmitted nowMs })

/-- The link timeout and the exhausted retries. -/
def checkTimeouts (nowMs : UInt32) (r : Stm32ClientRunner) : Option Bool × Stm32ClientRunner :=
  let r := { r with linkSession := r.linkSession.checkLinkTimeout nowMs }
  if r.linkSession.state ≠ .synchronized then (some false, r)
  else if r.motionSession.retryExhausted nowMs then (some false, r)
  else (none, r)

/-- The retry of a pending lifecycle command. -/
def retryMotion (nowMs : UInt32) (r : Stm32ClientRunner) : Option Bool × Stm32ClientRunner :=
  let (retry, session) := r.motionSession.retryIfDue nowMs
  let r := { r with motionSession := session }
  match retry with
  | none => (none, r)
  | some frame => r.transmitPending env frame r.clock

/-- The START of a new session. -/
def startMotion (r : Stm32ClientRunner) : Option Bool × Stm32ClientRunner :=
  let (startDecisionTime, r) := r.now env
  if r.motionSession.state = .inactive ∧ r.demandsMotion startDecisionTime then
    let sessionId := (env r.calls).sessionId
    let (start, session) := r.motionSession.beginStartSession sessionId
    let r := { r with
      calls := r.calls + 1
      motionSession := session
      motionSessionId := sessionId }
    match start with
    | none =>
      (some true, { r with
        latestWheelCommand := none
        latestWheelCommandTime := 0
        motionSessionId := 0 })
    | some frame => (r.emit (.startBegun sessionId)).transmitPending env frame startDecisionTime
  else (none, r)

/-- The wheel command of an active session. -/
def sendWheel (wheelDecisionTime : ℤ) (r : Stm32ClientRunner) : Option Bool × Stm32ClientRunner :=
  if r.motionSession.state = .active ∧ r.demandsMotion wheelDecisionTime ∧
      (r.lastWheelTransmitTime = 0 ∨
        wheelDecisionTime - r.lastWheelTransmitTime ≥ wheelTxPeriod) then
    let command := r.latestWheelCommand.getD {}
    let (wheel, session) :=
      r.motionSession.buildWheelVelocity command.leftVelocityMmS command.rightVelocityMmS
    let r := { r with motionSession := session }
    match wheel with
    | none => (some true, r)
    | some frame =>
      let (ok, r) := r.sendFrame env frame wheelDecisionTime
      if ¬ ok then r.transportLost
      else
        let (time, r) := r.now env
        (none, { r with lastWheelTransmitTime := time })
  else (none, r)

/-- The END of an active session without demand. -/
def endMotion (wheelDecisionTime : ℤ) (r : Stm32ClientRunner) : Option Bool × Stm32ClientRunner :=
  if r.motionSession.state = .active ∧ ¬ r.demandsMotion wheelDecisionTime then
    let (stop, session) := r.motionSession.beginEndSession r.motionSessionId
    let r := { r with motionSession := session }
    match stop with
    | none => (some true, r)
    | some frame =>
      let (flow, r) :=
        (r.emit (.endBegun r.motionSessionId)).transmitPending env frame wheelDecisionTime
      (flow, if flow = none then { r with lastWheelTransmitTime := 0 } else r)
  else (none, r)

/-- The periodic heartbeat. -/
def sendHeartbeat (nowMs : UInt32) (r : Stm32ClientRunner) : Option Bool × Stm32ClientRunner :=
  let (heartbeat, session) := r.linkSession.heartbeatIfDue nowMs
  let r := { r with linkSession := session }
  match heartbeat with
  | none => (none, r)
  | some frame =>
    let (ok, r) := r.sendFrame env frame r.clock
    if ¬ ok then r.transportLost else (none, r)

/-- A frame received on a synchronized link. -/
def handleFrame (frame : ProtocolFrame) (r : Stm32ClientRunner) : Option Bool × Stm32ClientRunner :=
  let (nowMs, r) := r.currentMs env
  let (accepted, link) := r.linkSession.handleHeartbeatResponse frame nowMs
  let r := { r with linkSession := link }
  if accepted then (none, r)
  else if link.state = .disconnected then (some false, r)
  else
    let (acked, session) := r.motionSession.handleAck frame nowMs
    let r := { r with motionSession := session }
    if acked then (none, r) else (none, r.handleMotionResponse frame)

/-- A frame received while the link is synchronizing. -/
def handleSyncFrame (frame : ProtocolFrame) (r : Stm32ClientRunner) :
    Option Bool × Stm32ClientRunner :=
  let (nowMs, r) := r.currentMs env
  let (accepted, link) := r.linkSession.handleLinkSyncOk frame nowMs
  let r := { r with linkSession := link }
  if accepted then (some false, { r with state := .synchronized }) else (none, r)

/-- The byte loop of both iterations. -/
def feedBytes (handler : ProtocolFrame → Stm32ClientRunner → Option Bool × Stm32ClientRunner)
    (r : Stm32ClientRunner) : List UInt8 → Option Bool × Stm32ClientRunner
  | [] => (none, r)
  | byte :: rest =>
    let (reported, decoder) := r.decoder.feedByte byte
    let r := { r with decoder := decoder }
    match reported with
    | none => feedBytes handler r rest
    | some frame =>
      match handler frame r with
      | (none, r) => feedBytes handler r rest
      | (some result, r) => (some result, r)

/-- The wait and the read of both iterations, followed by the byte loop. -/
def receive (handler : ProtocolFrame → Stm32ClientRunner → Option Bool × Stm32ClientRunner)
    (r : Stm32ClientRunner) : Option Bool × Stm32ClientRunner :=
  let wait := env r.calls
  let r := { r with calls := r.calls + 1 }
  if wait.disconnected then r.transportLost
  else if ¬ wait.readable then (some true, r)
  else
    match (env r.calls).bytes with
    | none => transportLost { r with calls := r.calls + 1 }
    | some bytes => feedBytes handler { r with calls := r.calls + 1 } bytes

/-- The next stage, unless the iteration has ended. -/
def andThen (p : Option Bool × Stm32ClientRunner)
    (stage : Stm32ClientRunner → Option Bool × Stm32ClientRunner) :
    Option Bool × Stm32ClientRunner :=
  match p with
  | (none, r) => stage r
  | (some result, r) => (some result, r)

/-- The wheel stage and the end stage, which share their decision time. -/
def driveMotion (r : Stm32ClientRunner) : Option Bool × Stm32ClientRunner :=
  let (wheelDecisionTime, r) := r.now env
  andThen (r.sendWheel env wheelDecisionTime) (endMotion env wheelDecisionTime)

/-- `run_synchronized_iteration`; running off the end returns `true`. -/
def runSynchronizedIteration (r : Stm32ClientRunner) : Bool × Stm32ClientRunner :=
  let (nowMs, r) := r.currentMs env
  let p := r.checkTimeouts nowMs
  let p := andThen p (retryMotion env nowMs)
  let p := andThen p (startMotion env)
  let p := andThen p (driveMotion env)
  let p := andThen p (sendHeartbeat env nowMs)
  let p := andThen p (receive env (handleFrame env))
  (p.1.getD true, p.2)

/-- `run_synchronizing_iteration`. -/
def runSynchronizingIteration (r : Stm32ClientRunner) : Bool × Stm32ClientRunner :=
  let (time, r) := r.now env
  if time ≥ r.syncDeadline then (false, r)
  else
    let p := r.receive env (handleSyncFrame env)
    (p.1.getD true, p.2)

/-- `schedule_reconnect`. -/
def scheduleReconnect (r : Stm32ClientRunner) : Stm32ClientRunner :=
  let (time, r) := r.now env
  { r with reconnectDeadline := time + 500 * millisecondNs }

/-- The state `begin_connection_epoch` builds before it sends LINK_SYNC. -/
def clearEpoch (r : Stm32ClientRunner) : Stm32ClientRunner :=
  { r.emit .epochBegan with
    linkSession := r.linkSession.disconnect
    motionSession := r.motionSession.reset
    motionSessionId := 0
    latestWheelCommand := none
    latestWheelCommandTime := 0
    lastWheelTransmitTime := 0
    state := .disconnected
    decoder := .init }

/-- `begin_connection_epoch`. -/
def beginConnectionEpoch (r : Stm32ClientRunner) : Bool × Stm32ClientRunner :=
  let opened := (env r.calls).ok
  let r := { r with calls := r.calls + 1 }
  if ¬ opened then (false, r.scheduleReconnect env)
  else
    let (time, r) := r.clearEpoch.now env
    let r := { r with epochStart := time }
    let (frame, link) := r.linkSession.beginSynchronization (env r.calls).syncToken
    let r := { r with linkSession := link, calls := r.calls + 1 }
    let (ok, r) := r.sendFrame env frame time
    if ¬ ok then
      (false, scheduleReconnect env { r with
        transportFailed := true
        state := .disconnected
        motionSession := r.motionSession.reset
        linkSession := r.linkSession.disconnect })
    else
      let (time, r) := now env { r with state := .synchronizing }
      (true, { r with syncDeadline := time + 1000 * millisecondNs })

/-- The end of an epoch in `poll`. -/
def endEpoch (r : Stm32ClientRunner) : Stm32ClientRunner :=
  r.disconnectCurrentEpoch.scheduleReconnect env

/-- `poll`. -/
def poll (r : Stm32ClientRunner) : Stm32ClientRunner :=
  match r.state with
  | .synchronized =>
    let (kept, r) := r.runSynchronizedIteration env
    if kept then r else r.endEpoch env
  | .synchronizing =>
    let (kept, r) := r.runSynchronizingIteration env
    if kept then r
    else if r.state = .synchronized then r
    else r.endEpoch env
  | .disconnected =>
    let (time, r) := r.now env
    if r.reconnectDeadline ≠ 0 ∧ time < r.reconnectDeadline then r
    else (beginConnectionEpoch env { r with reconnectDeadline := 0, transportFailed := false }).2

end Calls

end Stm32ClientRunner

end IndoorRobot
