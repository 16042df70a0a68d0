import IndoorRobot.ProtocolFrame

/-!
# The board below the managers and its motor driver

The file-static state of the motor driver, the watchdog and the command guard,
together with the log of everything that crossed a hardware port. The hardware is
an oracle: its n-th answer is `env n`, and every question writes an event, so no
answer is used twice. The driver is `motor_driver_dri0041.c`.
-/
namespace IndoorRobot

structure MotorDriverCommand where
  left : Int16 := 0
  right : Int16 := 0
  deriving DecidableEq, Repr, Inhabited

structure Dri0041PortControl where
  leftDuty : UInt16 := 0
  leftIn1 : Bool := false
  leftIn2 : Bool := false
  rightDuty : UInt16 := 0
  rightIn3 : Bool := false
  rightIn4 : Bool := false
  deriving DecidableEq, Repr, Inhabited

structure WheelEncoderCounts where
  left : UInt32 := 0
  right : UInt32 := 0
  deriving DecidableEq, Repr, Inhabited

/-- What can be observed at the ports and at the driver interface. -/
inductive BoardEvent where
  | portApply (control : Dri0041PortControl) (ok : Bool)
  | driverApply (command : MotorDriverCommand) (ok : Bool)
  | driverStop (ok : Bool)
  | transmit (frame : ProtocolFrame) (ok : Bool)
  | stopBegin (operationId nowMs : UInt32)
  | stopSample (counts : WheelEncoderCounts) (nowMs : UInt32)
  | speedSample (counts : WheelEncoderCounts) (nowMs : UInt32)
  deriving DecidableEq

/-- One answer of the hardware: the success of a write, the motor port's clock,
the encoder counters. -/
structure PortAnswer where
  ok : Bool := true
  nowMs : UInt32 := 0
  counts : WheelEncoderCounts := {}
  deriving Inhabited

inductive Dri0041Direction where
  | stopped | forward | reverse
  deriving DecidableEq, Repr, Inhabited

/-- The static variables of `motor_driver_dri0041.c`. -/
structure MotorDriver where
  initialized : Bool := false
  leftDirection : Dri0041Direction := .stopped
  rightDirection : Dri0041Direction := .stopped
  leftReversalPending : Bool := false
  rightReversalPending : Bool := false
  leftReversalDirection : Dri0041Direction := .stopped
  rightReversalDirection : Dri0041Direction := .stopped
  leftReversalStartedMs : UInt32 := 0
  rightReversalStartedMs : UInt32 := 0
  deriving DecidableEq, Repr, Inhabited

/-- `MotionWatchdogState`. -/
structure MotionWatchdog where
  armed : Bool := false
  initialized : Bool := false
  timeoutMs : UInt32 := 0
  lastRefreshMs : UInt32 := 0
  deriving DecidableEq, Repr, Inhabited

/-- `MotionCommandGuardState`. -/
structure MotionCommandGuard where
  initialized : Bool := false
  stopPending : Bool := false
  deriving DecidableEq, Repr, Inhabited

structure Board where
  motor : MotorDriver := {}
  watchdog : MotionWatchdog := {}
  guard : MotionCommandGuard := {}
  log : List BoardEvent := []
  deriving Inhabited

def Board.emit (b : Board) (event : BoardEvent) : Board := { b with log := b.log ++ [event] }

section Ports
variable (env : ℕ → PortAnswer) (b : Board)

/-- `motor_driver_dri0041_port_apply`. -/
def motorDriverDri0041PortApply (control : Dri0041PortControl) : Bool × Board :=
  let ok := (env b.log.length).ok
  (ok, b.emit (.portApply control ok))

/-- `uart_protocol_transmitter_send`: a frame that does not encode is refused. -/
def uartProtocolTransmitterSend (frame : ProtocolFrame) : Bool × Board :=
  let ok := decide (frame.payloadLength ≤ ProtocolFrameFormat.maxPayloadSize) &&
    (env b.log.length).ok
  (ok, b.emit (.transmit frame ok))

end Ports

namespace MotorDriver

def directionFromCommand (command : Int16) : Dri0041Direction :=
  if command > 0 then .forward else if command < 0 then .reverse else .stopped

def directionReverses (current requested : Dri0041Direction) : Bool :=
  current ≠ .stopped ∧ requested ≠ .stopped ∧ current ≠ requested

/-- `dri0041_control_from_command`. -/
def dri0041ControlFromCommand (c : MotorDriverCommand) : Option Dri0041PortControl :=
  if c.left > 1000 ∨ c.left < -1000 ∨ c.right > 1000 ∨ c.right < -1000 then none
  else
    let control : Dri0041PortControl := {}
    let control :=
      if c.left > 0 then { control with leftDuty := c.left.toUInt16, leftIn1 := true }
      else if c.left < 0 then { control with leftDuty := (-c.left).toUInt16, leftIn2 := true }
      else control
    let control :=
      if c.right > 0 then { control with rightDuty := c.right.toUInt16, rightIn3 := true }
      else if c.right < 0 then { control with rightDuty := (-c.right).toUInt16, rightIn4 := true }
      else control
    some control

def dri0041ReversalBrakeMs : UInt32 := 100

/-- `motor_driver_init`, given the answer of the port. -/
def init (portInit : Bool) : Bool × MotorDriver := (portInit, { initialized := portInit })

def brakeLeft (control : Dri0041PortControl) : Dri0041PortControl :=
  { control with leftDuty := 0, leftIn1 := false, leftIn2 := false }

def brakeRight (control : Dri0041PortControl) : Dri0041PortControl :=
  { control with rightDuty := 0, rightIn3 := false, rightIn4 := false }

/-- The left half of `motor_driver_apply` before the port: the control to apply,
whether a reversal starts, and the driver, which may drop a reversal here. -/
def prepareLeft (m : MotorDriver) (requested : Dri0041Direction) (nowMs : UInt32)
    (control : Dri0041PortControl) : Dri0041PortControl × Bool × MotorDriver :=
  if m.leftReversalPending then
    if requested = .stopped then (brakeLeft control, false, m)
    else if requested = m.leftDirection then (control, false, { m with leftReversalPending := false })
    else if requested = m.leftReversalDirection then
      if nowMs - m.leftReversalStartedMs < dri0041ReversalBrakeMs then (brakeLeft control, false, m)
      else (control, false, m)
    else (control, false, m)
  else if directionReverses m.leftDirection requested then (brakeLeft control, true, m)
  else (control, false, m)

/-- The right half of `motor_driver_apply` before the port. -/
def prepareRight (m : MotorDriver) (requested : Dri0041Direction) (nowMs : UInt32)
    (control : Dri0041PortControl) : Dri0041PortControl × Bool × MotorDriver :=
  if m.rightReversalPending then
    if requested = .stopped then (brakeRight control, false, m)
    else if requested = m.rightDirection then
      (control, false, { m with rightReversalPending := false })
    else if requested = m.rightReversalDirection then
      if nowMs - m.rightReversalStartedMs < dri0041ReversalBrakeMs then
        (brakeRight control, false, m)
      else (control, false, m)
    else (control, false, m)
  else if directionReverses m.rightDirection requested then (brakeRight control, true, m)
  else (control, false, m)

/-- The left half of `motor_driver_apply` after a successful port write. -/
def commitLeft (m : MotorDriver) (requested : Dri0041Direction) (nowMs : UInt32)
    (startReversal : Bool) : MotorDriver :=
  if startReversal then
    { m with
      leftReversalPending := true
      leftReversalDirection := requested
      leftReversalStartedMs := nowMs }
  else if m.leftReversalPending then
    if requested = .stopped then { m with leftReversalPending := false, leftDirection := .stopped }
    else if requested = m.leftDirection then { m with leftReversalPending := false }
    else if requested = m.leftReversalDirection ∧
        nowMs - m.leftReversalStartedMs ≥ dri0041ReversalBrakeMs then
      { m with leftReversalPending := false, leftDirection := requested }
    else m
  else { m with leftDirection := requested }

/-- The right half of `motor_driver_apply` after a successful port write. -/
def commitRight (m : MotorDriver) (requested : Dri0041Direction) (nowMs : UInt32)
    (startReversal : Bool) : MotorDriver :=
  if startReversal then
    { m with
      rightReversalPending := true
      rightReversalDirection := requested
      rightReversalStartedMs := nowMs }
  else if m.rightReversalPending then
    if requested = .stopped then { m with rightReversalPending := false, rightDirection := .stopped }
    else if requested = m.rightDirection then { m with rightReversalPending := false }
    else if requested = m.rightReversalDirection ∧
        nowMs - m.rightReversalStartedMs ≥ dri0041ReversalBrakeMs then
      { m with rightReversalPending := false, rightDirection := requested }
    else m
  else { m with rightDirection := requested }

end MotorDriver

open MotorDriver

section Driver
variable (env : ℕ → PortAnswer)

/-- The body of `motor_driver_apply`, without the entry in the log. -/
def motorDriverApplyBody (c : MotorDriverCommand) (b : Board) : Bool × Board :=
  if ¬ b.motor.initialized then (false, b)
  else
    match dri0041ControlFromCommand c with
    | none => (false, b)
    | some control =>
      let requestedLeft := directionFromCommand c.left
      let requestedRight := directionFromCommand c.right
      let nowMs := (env b.log.length).nowMs
      let (control, startLeft, motor) := b.motor.prepareLeft requestedLeft nowMs control
      let (control, startRight, motor) := motor.prepareRight requestedRight nowMs control
      let (ok, b) := motorDriverDri0041PortApply env { b with motor := motor } control
      if ¬ ok then (false, b)
      else
        let motor := b.motor.commitLeft requestedLeft nowMs startLeft
        let motor := motor.commitRight requestedRight nowMs startRight
        (true, { b with motor := motor })

/-- `motor_driver_apply`. -/
def motorDriverApply (c : MotorDriverCommand) (b : Board) : Bool × Board :=
  let (ok, b) := motorDriverApplyBody env c b
  (ok, b.emit (.driverApply c ok))

/-- The body of `motor_driver_stop`, without the entry in the log. -/
def motorDriverStopBody (b : Board) : Bool × Board :=
  if ¬ b.motor.initialized then (false, b)
  else
    let (ok, b) := motorDriverDri0041PortApply env b {}
    if ¬ ok then (false, b)
    else
      (true, { b with
        motor := { b.motor with
          leftReversalPending := false
          rightReversalPending := false
          leftDirection := .stopped
          rightDirection := .stopped } })

/-- `motor_driver_stop`. -/
def motorDriverStop (b : Board) : Bool × Board :=
  let (ok, b) := motorDriverStopBody env b
  (ok, b.emit (.driverStop ok))

end Driver

/-- Neither wheel is driven. -/
def Dri0041PortControl.idle (control : Dri0041PortControl) : Prop :=
  control.leftDuty = 0 ∧ control.rightDuty = 0

instance (control : Dri0041PortControl) : Decidable control.idle :=
  inferInstanceAs (Decidable (_ ∧ _))

theorem MotorDriver.prepareLeft_idle (m : MotorDriver) (requested : Dri0041Direction)
    (nowMs : UInt32) (control : Dri0041PortControl) (h : control.idle) :
    (m.prepareLeft requested nowMs control).1.idle := by
  rw [prepareLeft]
  split_ifs <;> first | exact h | exact ⟨rfl, h.2⟩

theorem MotorDriver.prepareRight_idle (m : MotorDriver) (requested : Dri0041Direction)
    (nowMs : UInt32) (control : Dri0041PortControl) (h : control.idle) :
    (m.prepareRight requested nowMs control).1.idle := by
  rw [prepareRight]
  split_ifs <;> first | exact h | exact ⟨h.1, rfl⟩

theorem MotorDriver.dri0041ControlFromCommand_zero : dri0041ControlFromCommand {} = some {} := by
  decide

/-- Everything `motor_driver_stop` can do. -/
theorem motorDriverStop_cases (env : ℕ → PortAnswer) (b : Board) :
    (∃ motor, motorDriverStop env b =
      (true, { b with motor := motor, log := b.log ++ [.portApply {} true, .driverStop true] })) ∨
    ∃ events, (∀ e ∈ events, e = .portApply {} false ∨ e = .driverStop false) ∧
      motorDriverStop env b = (false, { b with log := b.log ++ events }) := by
  rw [motorDriverStop, motorDriverStopBody]
  by_cases hi : b.motor.initialized = true
  · cases hok : (env b.log.length).ok with
    | true =>
      refine .inl ⟨{ b.motor with
        leftReversalPending := false
        rightReversalPending := false
        leftDirection := .stopped
        rightDirection := .stopped }, ?_⟩
      simp [hi, motorDriverDri0041PortApply, hok, Board.emit]
    | false =>
      refine .inr ⟨[.portApply {} false, .driverStop false], by simp, ?_⟩
      simp [hi, motorDriverDri0041PortApply, hok, Board.emit]
  · refine .inr ⟨[.driverStop false], by simp, ?_⟩
    simp [hi, Board.emit]

/-- Everything `motor_driver_apply` can do. A zero command never drives a wheel. -/
theorem motorDriverApply_cases (env : ℕ → PortAnswer) (c : MotorDriverCommand) (b : Board) :
    (∃ motor control, (c = {} → control.idle) ∧ motorDriverApply env c b =
      (true, { b with
        motor := motor
        log := b.log ++ [.portApply control true, .driverApply c true] })) ∨
    ∃ motor events, (∀ e ∈ events, (∃ control, e = .portApply control false) ∨
        e = .driverApply c false) ∧
      motorDriverApply env c b = (false, { b with motor := motor, log := b.log ++ events }) := by
  rw [motorDriverApply, motorDriverApplyBody]
  by_cases hi : b.motor.initialized = true
  · cases hcontrol : dri0041ControlFromCommand c with
    | none =>
      refine .inr ⟨b.motor, [.driverApply c false], by simp, ?_⟩
      simp [hi, Board.emit]
    | some control =>
      have hidle : c = {} → control.idle := by
        intro hc
        rw [hc, dri0041ControlFromCommand_zero] at hcontrol
        rw [← Option.some.inj hcontrol]
        exact ⟨rfl, rfl⟩
      have hidleLeft := b.motor.prepareLeft_idle (directionFromCommand c.left)
        (env b.log.length).nowMs control
      rcases hleft : b.motor.prepareLeft (directionFromCommand c.left) (env b.log.length).nowMs
        control with ⟨controlLeft, startLeft, motorLeft⟩
      have hidleRight := motorLeft.prepareRight_idle (directionFromCommand c.right)
        (env b.log.length).nowMs controlLeft
      rcases hright : motorLeft.prepareRight (directionFromCommand c.right) (env b.log.length).nowMs
        controlLeft with ⟨applied, startRight, motor⟩
      rw [hleft] at hidleLeft
      rw [hright] at hidleRight
      cases hok : (env b.log.length).ok with
      | true =>
        refine .inl ⟨(motor.commitLeft (directionFromCommand c.left) (env b.log.length).nowMs
          startLeft).commitRight (directionFromCommand c.right) (env b.log.length).nowMs startRight,
          applied, fun hc => hidleRight (hidleLeft (hidle hc)), ?_⟩
        simp [hi, hleft, hright, motorDriverDri0041PortApply, hok, Board.emit]
      | false =>
        refine .inr ⟨motor, [.portApply applied false, .driverApply c false], by simp, ?_⟩
        simp [hi, hleft, hright, motorDriverDri0041PortApply, hok, Board.emit]
  · refine .inr ⟨b.motor, [.driverApply c false], by simp, ?_⟩
    simp [hi, Board.emit]

end IndoorRobot
