import IndoorRobot.MotionCommandGuard
import IndoorRobot.MotionLifecycleCoordinator
import IndoorRobot.ProtocolPayloads

/-!
# The physical-stop verifier and the motion protocol manager

`motion_stop.c`, `wheel_velocity_feedforward.c` and
`stm32_motion_protocol_manager.c`. The three file-static states the manager works
with are gathered in one record; every entry point is a function on it.
-/
namespace IndoorRobot

/-- `MotionStopState`. -/
structure MotionStop where
  active : Bool := false
  operationId : UInt32 := 0
  startedAtMs : UInt32 := 0
  lastMovementAtMs : UInt32 := 0
  previousCounts : WheelEncoderCounts := {}
  deriving DecidableEq, Repr, Inhabited

inductive MotionStopResult where
  | none | success | failed
  deriving DecidableEq, Repr, Inhabited

structure MotionStopCompletion where
  completed : Bool := false
  operationId : UInt32 := 0
  result : MotionStopResult := .none
  deriving DecidableEq, Repr, Inhabited

def motionStopSettleTimeMs : UInt32 := 200
def motionStopTimeoutMs : UInt32 := 1000

section Stop
variable (env : ℕ → PortAnswer)

/-- `wheel_encoder_read`, called by the verifier at `nowMs`. -/
def wheelEncoderRead (nowMs : UInt32) (b : Board) : WheelEncoderCounts × Board :=
  let counts := (env b.log.length).counts
  (counts, b.emit (.stopSample counts nowMs))

/-- `motion_stop_begin`. -/
def motionStopBegin (operationId nowMs : UInt32) (s : MotionStop) (b : Board) :
    Bool × MotionStop × Board :=
  if operationId = 0 then (false, s, b)
  else
    let (counts, b) := wheelEncoderRead env nowMs (b.emit (.stopBegin operationId nowMs))
    (true,
      { active := true
        operationId := operationId
        startedAtMs := nowMs
        lastMovementAtMs := nowMs
        previousCounts := counts }, b)

/-- The comparison of `motion_stop_update` with the previous counters. -/
def MotionStop.observe (s : MotionStop) (counts : WheelEncoderCounts) (nowMs : UInt32) :
    MotionStop :=
  if counts.left ≠ s.previousCounts.left ∨ counts.right ≠ s.previousCounts.right then
    { s with previousCounts := counts, lastMovementAtMs := nowMs }
  else s

/-- `motion_stop_update`. -/
def motionStopUpdate (nowMs : UInt32) (s : MotionStop) (b : Board) :
    MotionStopCompletion × MotionStop × Board :=
  if ¬ s.active then ({}, s, b)
  else
    let (counts, b) := wheelEncoderRead env nowMs b
    let s := s.observe counts nowMs
    if nowMs - s.startedAtMs ≥ motionStopTimeoutMs then
      ({ completed := true, operationId := s.operationId, result := .failed },
        { s with active := false }, b)
    else if nowMs - s.lastMovementAtMs ≥ motionStopSettleTimeMs then
      ({ completed := true, operationId := s.operationId, result := .success },
        { s with active := false }, b)
    else ({}, s, b)

end Stop

structure WheelVelocityFeedforwardConfig where
  maxVelocityMmS : UInt16 := 0
  minimumStartCommand : UInt16 := 0
  deriving DecidableEq, Repr, Inhabited

/-- `wheel_velocity_feedforward_convert_one`. -/
def wheelVelocityFeedforwardConvertOne (config : WheelVelocityFeedforwardConfig)
    (velocityMmS : Int16) : Option Int16 :=
  if config.maxVelocityMmS = 0 ∨ config.minimumStartCommand > 1000 then none
  else if velocityMmS = 0 then some 0
  else
    let signedVelocity := velocityMmS.toInt32
    let magnitude :=
      if signedVelocity < 0 then (-signedVelocity).toUInt32 else signedVelocity.toUInt32
    let maximum := config.maxVelocityMmS.toUInt32
    let magnitude := if magnitude > maximum then maximum else magnitude
    let commandRange := 1000 - config.minimumStartCommand.toUInt32
    let commandMagnitude :=
      config.minimumStartCommand.toUInt32 + magnitude * commandRange / maximum
    let command := commandMagnitude.toUInt16.toInt16
    some (if signedVelocity < 0 then -command else command)

/-- `wheel_velocity_feedforward_convert`. -/
def wheelVelocityFeedforwardConvert (config : WheelVelocityFeedforwardConfig)
    (velocity : WheelVelocityCommand) : Option MotorDriverCommand := do
  let left ← wheelVelocityFeedforwardConvertOne config velocity.leftVelocityMmS
  let right ← wheelVelocityFeedforwardConvertOne config velocity.rightVelocityMmS
  pure { left := left, right := right }

inductive Stm32MotionProtocolManagerResult where
  | notInitialized | notSynchronized | notMotionMessage
  | noActiveSession | sessionMismatch | conversionFailed | applyFailed
  | processed | stopPending | stopFailed | transmitFailed
  deriving DecidableEq, Repr

structure Stm32MotionProtocolManager where
  initialized : Bool := false
  coordinator : MotionLifecycleCoordinator := {}
  pendingStopOperationId : UInt32 := 0
  stopConfirmationStarted : Bool := false
  feedforwardConfig : WheelVelocityFeedforwardConfig := {}
  deriving DecidableEq, Repr, Inhabited

/-- `stm32_motion_protocol_manager_init`. -/
def Stm32MotionProtocolManager.init (config : WheelVelocityFeedforwardConfig) :
    Bool × Stm32MotionProtocolManager :=
  if config.maxVelocityMmS = 0 ∨ config.minimumStartCommand > 1000 then (false, {})
  else (true, { coordinator := .init, feedforwardConfig := config, initialized := true })

/-- The manager with the board and the verifier it drives. -/
structure MotionSystem where
  board : Board := {}
  stop : MotionStop := {}
  manager : Stm32MotionProtocolManager := {}
  deriving Inhabited

namespace MotionSystem

open Stm32MotionProtocolManagerResult

/-- `stm32_motion_protocol_manager_reset`, with its call of `motion_stop_cancel`. -/
def reset (m : MotionSystem) : MotionSystem :=
  if ¬ m.manager.initialized then m
  else
    { m with
      stop := {}
      manager := { m.manager with
        coordinator := m.manager.coordinator.reset
        pendingStopOperationId := 0
        stopConfirmationStarted := false } }

theorem reset_board (m : MotionSystem) : m.reset.board = m.board := by
  rw [reset]
  split_ifs <;> rfl

section Calls
variable (env : ℕ → PortAnswer)

/-- Sends a frame that is there; the flag says that a transmission failed. -/
def sendIfValid (frame : Option ProtocolFrame) (b : Board) : Bool × Board :=
  match frame with
  | none => (false, b)
  | some f =>
    let (ok, b) := uartProtocolTransmitterSend env b f
    (!ok, b)

/-- `process_action`. -/
def processAction (a : MotionLifecycleAction) (m : MotionSystem) :
    Stm32MotionProtocolManagerResult × MotionSystem :=
  let frames := motionCommandFramesBuild a
  let (ackFailed, board) := sendIfValid env frames.ackFrame m.board
  let (responseFailed, board) := sendIfValid env frames.responseFrame board
  let transmitFailed := ackFailed || responseFailed
  if a.operation = .ensureStopped then
    let manager := { m.manager with
      pendingStopOperationId := a.operationId
      stopConfirmationStarted := false }
    let (stopped, board) := motionCommandGuardStop env board
    let m := { m with board := board, manager := manager }
    if ¬ stopped then (if transmitFailed then .transmitFailed else .stopPending, m)
    else (if transmitFailed then .transmitFailed else .stopPending, m)
  else (if transmitFailed then .transmitFailed else .processed, { m with board := board })

/-- `stm32_motion_protocol_manager_handle`. -/
def handle (frame : ProtocolFrame) (linkSynchronized : Bool) (nowMs : UInt32) (m : MotionSystem) :
    Stm32MotionProtocolManagerResult × MotionSystem :=
  if ¬ m.manager.initialized then (.notInitialized, m)
  else
    let route := protocolIngressRoute frame
    if route ≠ .motionCommand ∧ route ≠ .wheelVelocity then (.notMotionMessage, m)
    else if ¬ linkSynchronized then (.notSynchronized, m)
    else if route = .motionCommand then
      let (action, coordinator) := m.manager.coordinator.handleTransaction frame.transaction
      processAction env action { m with manager := { m.manager with coordinator := coordinator } }
    else if m.manager.coordinator.state ≠ .active then (.noActiveSession, m)
    else
      let payload := wheelVelocityPayloadDecode frame.payload.bytes
      if payload.motionSessionId ≠ m.manager.coordinator.motionSessionId then (.sessionMismatch, m)
      else
        match wheelVelocityFeedforwardConvert m.manager.feedforwardConfig payload.command with
        | none => (.conversionFailed, m)
        | some command =>
          let (applied, board) := motionCommandGuardApply env command nowMs m.board
          (if ¬ applied then .applyFailed else .processed, { m with board := board })

/-- The start of the confirmation in `stm32_motion_protocol_manager_update`. -/
def beginConfirmation (nowMs : UInt32) (m : MotionSystem) : Bool × MotionSystem :=
  if m.manager.stopConfirmationStarted then (true, m)
  else
    let (begun, stop, board) :=
      motionStopBegin env m.manager.pendingStopOperationId nowMs m.stop m.board
    (begun,
      { board := board
        stop := stop
        manager := { m.manager with stopConfirmationStarted := begun } })

/-- The branch of `stm32_motion_protocol_manager_update` for a refused begin. -/
def confirmationRefused (m : MotionSystem) : Stm32MotionProtocolManagerResult × MotionSystem :=
  let operationId := m.manager.pendingStopOperationId
  let (action, coordinator) := m.manager.coordinator.completeOperation operationId .failed
  let manager := { m.manager with pendingStopOperationId := 0, coordinator := coordinator }
  let (result, m) := processAction env action { m with manager := manager }
  if result = .transmitFailed then (result, m) else (.stopFailed, m)

/-- The rest of `stm32_motion_protocol_manager_update`, from `motion_stop_update` on. -/
def advanceConfirmation (nowMs : UInt32) (m : MotionSystem) :
    Stm32MotionProtocolManagerResult × MotionSystem :=
  let (completion, stop, board) := motionStopUpdate env nowMs m.stop m.board
  let m := { m with stop := stop, board := board }
  if ¬ completion.completed then (.stopPending, m)
  else
    let operationResult := if completion.result = .success then .success else .failed
    let (action, coordinator) :=
      m.manager.coordinator.completeOperation completion.operationId operationResult
    let manager := { m.manager with
      pendingStopOperationId := 0
      stopConfirmationStarted := false
      coordinator := coordinator }
    let (result, m) := processAction env action { m with manager := manager }
    if result = .transmitFailed then (result, m)
    else if completion.result = .success then (result, m)
    else (.stopFailed, m)

/-- `stm32_motion_protocol_manager_update`. -/
def update (nowMs : UInt32) (m : MotionSystem) : Stm32MotionProtocolManagerResult × MotionSystem :=
  if ¬ m.manager.initialized then (.notInitialized, m)
  else
    let (guardUpdate, board) := motionCommandGuardUpdate env nowMs m.board
    let m := { m with board := board }
    if guardUpdate = .stopFailed then (.stopFailed, m)
    else if m.manager.pendingStopOperationId = 0 then (.processed, m)
    else
      let (begun, m) := m.beginConfirmation env nowMs
      if ¬ begun then m.confirmationRefused env else m.advanceConfirmation env nowMs

end Calls

/-- The frames an action asks for, in the order they are sent. -/
def framesOf (a : MotionLifecycleAction) : List ProtocolFrame :=
  (motionCommandFramesBuild a).ackFrame.toList ++ (motionCommandFramesBuild a).responseFrame.toList

/-- The events of transmitting the given frames, each with an outcome of its own. -/
def Transmits (frames : List ProtocolFrame) (events : List BoardEvent) : Prop :=
  List.Forall₂ (fun f e => ∃ ok, e = BoardEvent.transmit f ok) frames events

theorem Transmits.transmit {frames : List ProtocolFrame} {events : List BoardEvent}
    (h : Transmits frames events) {e : BoardEvent} (he : e ∈ events) :
    ∃ f ∈ frames, ∃ ok, e = .transmit f ok := by
  induction h with
  | nil => simp at he
  | cons hhead htail ih =>
    rcases List.mem_cons.mp he with rfl | he
    · exact ⟨_, by simp, hhead⟩
    · obtain ⟨f, hf, ok, h⟩ := ih he
      exact ⟨f, by simp [hf], ok, h⟩

theorem sendIfValid_transmits (env : ℕ → PortAnswer) (frame : Option ProtocolFrame) (b : Board) :
    ∃ events, Transmits frame.toList events ∧
      (sendIfValid env frame b).2 = { b with log := b.log ++ events } := by
  cases frame with
  | none => exact ⟨[], .nil, by simp [sendIfValid]⟩
  | some f =>
    exact ⟨[.transmit f (decide (f.payloadLength ≤ ProtocolFrameFormat.maxPayloadSize) &&
      (env b.log.length).ok)], .cons ⟨_, rfl⟩ .nil, rfl⟩

/-- Everything `process_action` does: the frames of the action go out, and a
requested stop is attempted once and recorded as pending either way. -/
theorem processAction_cases (env : ℕ → PortAnswer) (a : MotionLifecycleAction) (m : MotionSystem) :
    ∃ events, Transmits (framesOf a) events ∧
      (a.operation = .none ∧
          (processAction env a m).2 =
            { m with board := { m.board with log := m.board.log ++ events } } ∨
        a.operation = .ensureStopped ∧
          (processAction env a m).2 =
            { m with
              board := (motionCommandGuardStop env
                { m.board with log := m.board.log ++ events }).2
              manager := { m.manager with
                pendingStopOperationId := a.operationId
                stopConfirmationStarted := false } }) := by
  obtain ⟨acks, hacks, hackBoard⟩ :=
    sendIfValid_transmits env (motionCommandFramesBuild a).ackFrame m.board
  obtain ⟨responses, hresponses, hresponseBoard⟩ :=
    sendIfValid_transmits env (motionCommandFramesBuild a).responseFrame
      { m.board with log := m.board.log ++ acks }
  refine ⟨acks ++ responses, List.rel_append hacks hresponses, ?_⟩
  unfold processAction
  rcases hsend : sendIfValid env (motionCommandFramesBuild a).ackFrame m.board with ⟨ackFailed, b⟩
  rw [hsend] at hackBoard
  rcases hsend' : sendIfValid env (motionCommandFramesBuild a).responseFrame
    { m.board with log := m.board.log ++ acks } with ⟨responseFailed, b'⟩
  rw [hsend'] at hresponseBoard
  simp only at hackBoard hresponseBoard
  subst hackBoard
  subst hresponseBoard
  simp only [hsend, hsend', List.append_assoc]
  cases hop : a.operation with
  | none => exact .inl ⟨rfl, by simp⟩
  | ensureStopped =>
    refine .inr ⟨rfl, ?_⟩
    simp only [if_true]
    split_ifs <;> rfl

/-- Everything a handled frame can do. -/
inductive HandleOutcome (env : ℕ → PortAnswer) (frame : ProtocolFrame) (linkSynchronized : Bool)
    (nowMs : UInt32) (m : MotionSystem) : MotionSystem → Prop where
  | ignored (hunread : m.manager.initialized = true →
        protocolIngressRoute frame = .motionCommand → linkSynchronized = false) :
      HandleOutcome env frame linkSynchronized nowMs m m
  | command (hroute : protocolIngressRoute frame = .motionCommand)
      (hsynchronized : linkSynchronized = true) :
      HandleOutcome env frame linkSynchronized nowMs m
        (processAction env (m.manager.coordinator.handleTransaction frame.transaction).1
          { m with manager := { m.manager with
              coordinator :=
                (m.manager.coordinator.handleTransaction frame.transaction).2 } }).2
  | wheel (command : MotorDriverCommand) (hroute : protocolIngressRoute frame = .wheelVelocity)
      (hsynchronized : linkSynchronized = true) (hactive : m.manager.coordinator.state = .active) :
      HandleOutcome env frame linkSynchronized nowMs m
        { m with board := (motionCommandGuardApply env command nowMs m.board).2 }

theorem handle_outcome (env : ℕ → PortAnswer) (frame : ProtocolFrame) (linkSynchronized : Bool)
    (nowMs : UInt32) (m : MotionSystem) :
    HandleOutcome env frame linkSynchronized nowMs m
      (handle env frame linkSynchronized nowMs m).2 := by
  rw [handle]
  by_cases hi : m.manager.initialized = true
  · rw [if_neg (by simp [hi])]
    simp only
    by_cases hother : protocolIngressRoute frame ≠ .motionCommand ∧
        protocolIngressRoute frame ≠ .wheelVelocity
    · rw [if_pos hother]
      exact .ignored fun _ h => absurd h hother.1
    rw [if_neg hother]
    cases hsync : linkSynchronized with
    | false => exact .ignored fun _ _ => rfl
    | true =>
      rw [if_neg (by simp)]
      by_cases hcommand : protocolIngressRoute frame = .motionCommand
      · rw [if_pos hcommand]
        exact .command hcommand rfl
      rw [if_neg hcommand]
      by_cases hactive : m.manager.coordinator.state = .active
      · have hroute : protocolIngressRoute frame = .wheelVelocity :=
          not_not.mp fun h => hother ⟨hcommand, h⟩
        rw [if_neg (by simp [hactive])]
        split
        · exact .ignored fun _ h => absurd h hcommand
        · split
          · exact .ignored fun _ h => absurd h hcommand
          · exact .wheel _ hroute rfl hactive
      · rw [if_pos hactive]
        exact .ignored fun _ h => absurd h hcommand
  · rw [if_pos (by simp [hi])]
    exact .ignored fun h => absurd h hi

/-- The verifier refuses only the identifier zero. -/
theorem beginConfirmation_succeeds (env : ℕ → PortAnswer) (nowMs : UInt32) (m : MotionSystem)
    (hp : m.manager.pendingStopOperationId ≠ 0) : (m.beginConfirmation env nowMs).1 = true := by
  rw [beginConfirmation]
  split_ifs
  · rfl
  · simp [motionStopBegin, hp]

/-- Everything an update can do before the verifier is asked. -/
theorem update_cases (env : ℕ → PortAnswer) (nowMs : UInt32) (m : MotionSystem)
    (hi : m.manager.initialized = true) :
    let guarded := { m with board := (motionCommandGuardUpdate env nowMs m.board).2 }
    (motionCommandGuardUpdate env nowMs m.board).1 = .stopFailed ∧
        update env nowMs m = (.stopFailed, guarded) ∨
      (motionCommandGuardUpdate env nowMs m.board).1 ≠ .stopFailed ∧
        (m.manager.pendingStopOperationId = 0 ∧ update env nowMs m = (.processed, guarded) ∨
          m.manager.pendingStopOperationId ≠ 0 ∧
            (guarded.beginConfirmation env nowMs).1 = true ∧
            update env nowMs m =
              (guarded.beginConfirmation env nowMs).2.advanceConfirmation env nowMs) := by
  intro guarded
  have hupdate : update env nowMs m =
      if (motionCommandGuardUpdate env nowMs m.board).1 = .stopFailed then (.stopFailed, guarded)
      else if m.manager.pendingStopOperationId = 0 then (.processed, guarded)
      else if ¬ (guarded.beginConfirmation env nowMs).1 then
        (guarded.beginConfirmation env nowMs).2.confirmationRefused env
      else (guarded.beginConfirmation env nowMs).2.advanceConfirmation env nowMs := by
    rw [update, if_neg (by simp [hi])]
  rw [hupdate]
  by_cases hfailed : (motionCommandGuardUpdate env nowMs m.board).1 = .stopFailed
  · exact .inl ⟨hfailed, by rw [if_pos hfailed]⟩
  · refine .inr ⟨hfailed, ?_⟩
    rw [if_neg hfailed]
    by_cases hp : m.manager.pendingStopOperationId = 0
    · exact .inl ⟨hp, by rw [if_pos hp]⟩
    · have hbegun := beginConfirmation_succeeds env nowMs guarded hp
      refine .inr ⟨hp, hbegun, ?_⟩
      rw [if_neg hp, if_neg (by simp [hbegun])]

/-- The verifier's answer, read off the state it has after the new sample. -/
theorem advanceConfirmation_cases (env : ℕ → PortAnswer) (nowMs : UInt32) (m : MotionSystem)
    (hactive : m.stop.active = true) :
    ∃ counts,
      nowMs - (m.stop.observe counts nowMs).startedAtMs < motionStopTimeoutMs ∧
          nowMs - (m.stop.observe counts nowMs).lastMovementAtMs < motionStopSettleTimeMs ∧
          advanceConfirmation env nowMs m =
            (.stopPending, { m with
              stop := m.stop.observe counts nowMs
              board := m.board.emit (.stopSample counts nowMs) }) ∨
        ∃ result,
          (result = .success →
            nowMs - (m.stop.observe counts nowMs).startedAtMs < motionStopTimeoutMs ∧
            nowMs - (m.stop.observe counts nowMs).lastMovementAtMs ≥ motionStopSettleTimeMs) ∧
          (result = .failed → (advanceConfirmation env nowMs m).1 = .stopFailed ∨
            (advanceConfirmation env nowMs m).1 = .transmitFailed) ∧
          (advanceConfirmation env nowMs m).2 =
            (processAction env
              (m.manager.coordinator.completeOperation m.stop.operationId result).1
              { board := m.board.emit (.stopSample counts nowMs)
                stop := { m.stop.observe counts nowMs with active := false }
                manager := { m.manager with
                  pendingStopOperationId := 0
                  stopConfirmationStarted := false
                  coordinator := (m.manager.coordinator.completeOperation m.stop.operationId
                    result).2 } }).2 := by
  have hid : ∀ counts, (m.stop.observe counts nowMs).operationId = m.stop.operationId := by
    intro counts
    rw [MotionStop.observe]
    split_ifs <;> rfl
  refine ⟨(env m.board.log.length).counts, ?_⟩
  rw [advanceConfirmation, motionStopUpdate, wheelEncoderRead]
  simp only [hactive, not_true_eq_false, if_false]
  generalize hs : m.stop.observe (env m.board.log.length).counts nowMs = s
  have hsid : s.operationId = m.stop.operationId := by rw [← hs, hid]
  by_cases htimeout : nowMs - s.startedAtMs ≥ motionStopTimeoutMs
  · refine .inr ⟨.failed, by simp, ?_, ?_⟩
    · simp only [htimeout, if_true, hsid, reduceCtorEq, if_false, not_true_eq_false]
      intro _
      split_ifs with h
      · exact .inr h
      · exact .inl rfl
    · simp only [htimeout, if_true, hsid, reduceCtorEq, if_false, not_true_eq_false]
      split_ifs <;> rfl
  · by_cases hsettled : nowMs - s.lastMovementAtMs ≥ motionStopSettleTimeMs
    · refine .inr ⟨.success, fun _ => ⟨UInt32.not_le.mp htimeout, hsettled⟩, by simp, ?_⟩
      simp only [htimeout, if_false, hsettled, if_true, hsid, not_true_eq_false]
      split_ifs <;> rfl
    · refine .inl ⟨UInt32.not_le.mp htimeout, UInt32.not_le.mp hsettled, ?_⟩
      simp [htimeout, hsettled]

end MotionSystem

end IndoorRobot
