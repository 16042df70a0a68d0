import Mathlib.Data.Int.Notation
import Mathlib.Tactic.Common

/-!
# The motion coordinator of the Raspberry Pi

`motion_coordinator.cpp` with the control, safety and watchdog state it keeps
(`control_state.cpp`, `safety_state.cpp`, `motion_watchdog.cpp`). The tests of a
command and the kinematics are parameters; the motor controller is a record of the
calls made to it, each with an outcome that can be any.
-/
namespace IndoorRobot.Pi

inductive ControlAuthority where
  | none | manual | autonomous
  deriving DecidableEq, Repr

inductive ControlRequestResult where
  | accepted | alreadyActive | alreadyReleased | rejectedManualActive
  deriving DecidableEq

inductive ControlTransitionResult where
  | accepted | alreadyActive | alreadyReleased | motorStopFailed | internalStateError
  deriving DecidableEq

inductive SafetyStateResult where
  | updated | alreadyActive | alreadyClear
  deriving DecidableEq

inductive SafetyActionResult where
  | updated | alreadyActive | alreadyClear | motorStopFailed
  deriving DecidableEq

inductive MotionTickResult where
  | noAction | timeoutStopped | motorStopFailed
  deriving DecidableEq

inductive MotionCommandResult where
  | accepted | rejectedWrongAuthority | rejectedUnsafe | invalidCommand | motorCommandFailed
  deriving DecidableEq

namespace ControlAuthority

/-- `ControlState::request_manual_control`. -/
def requestManualControl (authority : ControlAuthority) : ControlRequestResult × ControlAuthority :=
  if authority = .manual then (.alreadyActive, authority) else (.accepted, .manual)

/-- `ControlState::request_autonomous_control`. -/
def requestAutonomousControl (authority : ControlAuthority) :
    ControlRequestResult × ControlAuthority :=
  if authority = .autonomous then (.alreadyActive, authority)
  else if authority = .manual then (.rejectedManualActive, authority)
  else (.accepted, .autonomous)

/-- `ControlState::request_release_control`. -/
def requestReleaseControl (authority : ControlAuthority) : ControlRequestResult × ControlAuthority :=
  if authority = .none then (.alreadyReleased, authority) else (.accepted, .none)

end ControlAuthority

/-- `SafetyState`. -/
structure SafetyState where
  estopActive : Bool := false
  hardwareFaultActive : Bool := false
  deriving DecidableEq

namespace SafetyState

def safe (s : SafetyState) : Bool := !(s.estopActive || s.hardwareFaultActive)

def reportEstop (s : SafetyState) : SafetyStateResult × SafetyState :=
  if s.estopActive then (.alreadyActive, s) else (.updated, { s with estopActive := true })

def reportHardwareFault (s : SafetyState) : SafetyStateResult × SafetyState :=
  if s.hardwareFaultActive then (.alreadyActive, s)
  else (.updated, { s with hardwareFaultActive := true })

def clearEstop (s : SafetyState) : SafetyStateResult × SafetyState :=
  if ¬ s.estopActive then (.alreadyClear, s) else (.updated, { s with estopActive := false })

def clearHardwareFault (s : SafetyState) : SafetyStateResult × SafetyState :=
  if ¬ s.hardwareFaultActive then (.alreadyClear, s)
  else (.updated, { s with hardwareFaultActive := false })

end SafetyState

/-- `MotionWatchdog`, with time as an integer. -/
structure MotionWatchdog where
  timeout : ℤ
  lastRefresh : ℤ := 0
  armed : Bool := false
  deriving DecidableEq

namespace MotionWatchdog

def refresh (w : MotionWatchdog) (now : ℤ) : MotionWatchdog :=
  { w with lastRefresh := now, armed := true }

def disarm (w : MotionWatchdog) : MotionWatchdog := { w with armed := false }

def expired (w : MotionWatchdog) (now : ℤ) : Bool :=
  w.armed && decide (now - w.lastRefresh ≥ w.timeout)

end MotionWatchdog

/-- A call of the motor controller and whether it succeeded. -/
inductive MotorControllerCall (Velocities : Type*) where
  | stop (ok : Bool)
  | setWheelVelocities (velocities : Velocities) (ok : Bool)

/-- The floating-point tests of a command, and the kinematics. -/
structure CommandTests (Command Velocities : Type*) where
  isFinite : Command → Bool
  belowStopEpsilon : Command → Bool
  toWheelVelocities : Command → Velocities
  wheelsFinite : Velocities → Bool

/-- `MotionCoordinator` and the state it works on. -/
structure MotionCoordinator (Velocities : Type*) where
  authority : ControlAuthority := .none
  safety : SafetyState := {}
  watchdog : MotionWatchdog
  motorCalls : List (MotorControllerCall Velocities) := []

namespace MotionCoordinator

variable {Command Velocities : Type*}

/-- `motor_controller_.stop()`. -/
def motorStop (c : MotionCoordinator Velocities) (ok : Bool) : MotionCoordinator Velocities :=
  { c with motorCalls := c.motorCalls ++ [MotorControllerCall.stop ok] }

/-- `motor_controller_.set_wheel_velocities`. -/
def setWheelVelocities (c : MotionCoordinator Velocities) (velocities : Velocities) (ok : Bool) :
    MotionCoordinator Velocities :=
  { c with motorCalls := c.motorCalls ++ [MotorControllerCall.setWheelVelocities velocities ok] }

def disarm (c : MotionCoordinator Velocities) : MotionCoordinator Velocities :=
  { c with watchdog := c.watchdog.disarm }

def latchFault (c : MotionCoordinator Velocities) : MotionCoordinator Velocities :=
  { c with safety := c.safety.reportHardwareFault.2 }

/-- `request_manual_control`. -/
def requestManualControl (c : MotionCoordinator Velocities) :
    ControlTransitionResult × MotionCoordinator Velocities :=
  let (result, authority) := c.authority.requestManualControl
  let c := { c with authority := authority }
  match result with
  | .accepted => (.accepted, c)
  | .alreadyActive => (.alreadyActive, c)
  | _ => (.internalStateError, c)

/-- `stop_and_release_control`. -/
def stopAndReleaseControl (c : MotionCoordinator Velocities) (stopOk : Bool) :
    ControlTransitionResult × MotionCoordinator Velocities :=
  let c := c.motorStop stopOk
  if ¬ stopOk then (.motorStopFailed, c.latchFault)
  else
    let c := c.disarm
    let (result, authority) := c.authority.requestReleaseControl
    let c := { c with authority := authority }
    match result with
    | .accepted => (.accepted, c)
    | .alreadyReleased => (.alreadyReleased, c)
    | _ => (.internalStateError, c)

/-- The last part of `request_autonomous_control`. -/
def takeAutonomousControl (c : MotionCoordinator Velocities) :
    ControlTransitionResult × MotionCoordinator Velocities :=
  let (result, authority) := c.authority.requestAutonomousControl
  let c := { c with authority := authority }
  match result with
  | .accepted => (.accepted, c)
  | .alreadyActive => (.alreadyActive, c)
  | _ => (.internalStateError, c)

/-- `request_autonomous_control`. -/
def requestAutonomousControl (c : MotionCoordinator Velocities) (stopOk : Bool) :
    ControlTransitionResult × MotionCoordinator Velocities :=
  if c.authority = .manual then
    let c := c.motorStop stopOk
    if ¬ stopOk then (.motorStopFailed, c.latchFault)
    else
      let c := c.disarm
      let (result, authority) := c.authority.requestReleaseControl
      let c := { c with authority := authority }
      if result ≠ .accepted then (.internalStateError, c) else c.takeAutonomousControl
  else c.takeAutonomousControl

/-- `request_motion`, given the outcomes of the motor calls it may make. -/
def requestMotion (tests : CommandTests Command Velocities) (c : MotionCoordinator Velocities)
    (requester : ControlAuthority) (command : Command) (now : ℤ) (setOk stopOk : Bool) :
    MotionCommandResult × MotionCoordinator Velocities :=
  if requester = .none ∨ requester ≠ c.authority then (.rejectedWrongAuthority, c)
  else if ¬ tests.isFinite command then (.invalidCommand, c)
  else if tests.belowStopEpsilon command then
    let c := c.motorStop stopOk
    if stopOk then (.accepted, c.disarm) else (.motorCommandFailed, c.latchFault)
  else if ¬ c.safety.safe then (.rejectedUnsafe, c)
  else
    let velocities := tests.toWheelVelocities command
    if ¬ tests.wheelsFinite velocities then (.invalidCommand, c)
    else
      let c := c.setWheelVelocities velocities setOk
      if setOk then (.accepted, { c with watchdog := c.watchdog.refresh now })
      else (.motorCommandFailed, c.latchFault.motorStop stopOk)

/-- `tick`. -/
def tick (c : MotionCoordinator Velocities) (now : ℤ) (stopOk : Bool) :
    MotionTickResult × MotionCoordinator Velocities :=
  if ¬ c.watchdog.expired now then (.noAction, c)
  else
    let c := c.disarm.motorStop stopOk
    if stopOk then (.timeoutStopped, c) else (.motorStopFailed, c.latchFault)

/-- `report_estop`. -/
def reportEstop (c : MotionCoordinator Velocities) (stopOk : Bool) :
    SafetyActionResult × MotionCoordinator Velocities :=
  let (result, safety) := c.safety.reportEstop
  let c := { c with safety := safety }.disarm.motorStop stopOk
  if ¬ stopOk then (.motorStopFailed, c.latchFault)
  else if result = .updated then (.updated, c)
  else (.alreadyActive, c)

/-- `report_hardware_fault`. -/
def reportHardwareFault (c : MotionCoordinator Velocities) (stopOk : Bool) :
    SafetyActionResult × MotionCoordinator Velocities :=
  let (result, safety) := c.safety.reportHardwareFault
  let c := { c with safety := safety }.disarm.motorStop stopOk
  if ¬ stopOk then (.motorStopFailed, c)
  else if result = .updated then (.updated, c)
  else (.alreadyActive, c)

/-- `clear_estop`. -/
def clearEstop (c : MotionCoordinator Velocities) (stopOk : Bool) :
    SafetyActionResult × MotionCoordinator Velocities :=
  if ¬ c.safety.estopActive then (.alreadyClear, c)
  else
    let c := c.disarm.motorStop stopOk
    if ¬ stopOk then (.motorStopFailed, c.latchFault)
    else (.updated, { c with safety := c.safety.clearEstop.2 })

/-- `clear_hardware_fault`. -/
def clearHardwareFault (c : MotionCoordinator Velocities) (stopOk : Bool) :
    SafetyActionResult × MotionCoordinator Velocities :=
  if ¬ c.safety.hardwareFaultActive then (.alreadyClear, c)
  else
    let c := c.disarm.motorStop stopOk
    if ¬ stopOk then (.motorStopFailed, c)
    else (.updated, { c with safety := c.safety.clearHardwareFault.2 })

end MotionCoordinator

/-- A call of the coordinator, with the outcomes of the motor calls it may make. -/
inductive CoordinatorCall (Command : Type*) where
  | requestManualControl
  | requestAutonomousControl (stopOk : Bool)
  | stopAndReleaseControl (stopOk : Bool)
  | requestMotion (requester : ControlAuthority) (command : Command) (now : ℤ) (setOk stopOk : Bool)
  | tick (now : ℤ) (stopOk : Bool)
  | reportEstop (stopOk : Bool)
  | clearEstop (stopOk : Bool)
  | reportHardwareFault (stopOk : Bool)
  | clearHardwareFault (stopOk : Bool)

inductive CoordinatorResult where
  | control (result : ControlTransitionResult)
  | motion (result : MotionCommandResult)
  | tick (result : MotionTickResult)
  | safety (result : SafetyActionResult)
  deriving DecidableEq

namespace MotionCoordinator

variable {Command Velocities : Type*} (tests : CommandTests Command Velocities)

def call (c : MotionCoordinator Velocities) :
    CoordinatorCall Command → CoordinatorResult × MotionCoordinator Velocities
  | .requestManualControl => c.requestManualControl.map .control id
  | .requestAutonomousControl stopOk => (c.requestAutonomousControl stopOk).map .control id
  | .stopAndReleaseControl stopOk => (c.stopAndReleaseControl stopOk).map .control id
  | .requestMotion requester command now setOk stopOk =>
    (c.requestMotion tests requester command now setOk stopOk).map .motion id
  | .tick now stopOk => (c.tick now stopOk).map .tick id
  | .reportEstop stopOk => (c.reportEstop stopOk).map .safety id
  | .clearEstop stopOk => (c.clearEstop stopOk).map .safety id
  | .reportHardwareFault stopOk => (c.reportHardwareFault stopOk).map .safety id
  | .clearHardwareFault stopOk => (c.clearHardwareFault stopOk).map .safety id

def calls (c : MotionCoordinator Velocities) (cs : List (CoordinatorCall Command)) :
    MotionCoordinator Velocities :=
  cs.foldl (fun c request => (c.call tests request).2) c

end MotionCoordinator

/-- Whether the wheels may be moving, after one more motor call. -/
def movingAfter {Velocities : Type*} (moving : Bool) : MotorControllerCall Velocities → Bool
  | .setWheelVelocities _ _ => true
  | .stop ok => moving && !ok

namespace MotionCoordinator

variable {Command Velocities : Type*}

/-- A velocity was set, successfully or not, after the last successful stop. -/
def possiblyMoving (c : MotionCoordinator Velocities) : Bool := c.motorCalls.foldl movingAfter false

/-- What holds between any two calls. -/
structure Guarded (c : MotionCoordinator Velocities) : Prop where
  watched : c.possiblyMoving = true →
    c.watchdog.armed = true ∨ c.safety.hardwareFaultActive = true
  halted : c.safety.estopActive = true ∨ c.authority = .none →
    c.possiblyMoving = false ∨ c.safety.hardwareFaultActive = true
  armed : c.watchdog.armed = true → c.authority ≠ .none

theorem guarded_of_stopped {c : MotionCoordinator Velocities} (h : c.possiblyMoving = false)
    (ha : c.watchdog.armed = false) : c.Guarded where
  watched := fun hmoving => absurd hmoving (by simp [h])
  halted := fun _ => .inl h
  armed := fun harmed => absurd harmed (by simp [ha])

theorem guarded_of_fault {c : MotionCoordinator Velocities}
    (h : c.safety.hardwareFaultActive = true)
    (ha : c.watchdog.armed = true → c.authority ≠ .none) : c.Guarded where
  watched := fun _ => .inr h
  halted := fun _ => .inr h
  armed := ha

@[simp] theorem possiblyMoving_motorStop (c : MotionCoordinator Velocities) (ok : Bool) :
    (c.motorStop ok).possiblyMoving = (c.possiblyMoving && !ok) := by
  simp [possiblyMoving, motorStop, movingAfter]

@[simp] theorem possiblyMoving_disarm (c : MotionCoordinator Velocities) :
    c.disarm.possiblyMoving = c.possiblyMoving := rfl

@[simp] theorem latchFault_active (c : MotionCoordinator Velocities) :
    c.latchFault.safety.hardwareFaultActive = true := by
  simp only [latchFault, SafetyState.reportHardwareFault]
  split_ifs with h
  · exact h
  · rfl

theorem guarded_latchFault {c : MotionCoordinator Velocities}
    (ha : c.watchdog.armed = true → c.authority ≠ .none) : c.latchFault.Guarded :=
  guarded_of_fault c.latchFault_active ha

/-- A stop made with the watchdog off: it succeeded, or there is a fault. -/
theorem guarded_motorStop {c : MotionCoordinator Velocities} {stopOk : Bool}
    (hunarmed : c.watchdog.armed = false)
    (hfailed : stopOk = false → c.safety.hardwareFaultActive = true) :
    (c.motorStop stopOk).Guarded := by
  cases stopOk with
  | true => exact guarded_of_stopped (by simp) hunarmed
  | false =>
    have harmed : (c.motorStop false).watchdog.armed = false := hunarmed
    apply guarded_of_fault (c := c.motorStop false) (hfailed rfl)
    simp [harmed]

/-- The same when the fault is latched after the stop. -/
theorem guarded_motorStop_latchFault {c : MotionCoordinator Velocities}
    (hunarmed : c.watchdog.armed = false) : (c.motorStop false).latchFault.Guarded := by
  have harmed : (c.motorStop false).watchdog.armed = false := hunarmed
  apply guarded_latchFault
  simp [harmed]

/-- Taking the authority leaves everything else as it was. -/
theorem Guarded.withAuthority {c : MotionCoordinator Velocities} (h : c.Guarded)
    {authority : ControlAuthority} (ha : authority ≠ .none) :
    Guarded { c with authority := authority } where
  watched := h.watched
  halted := by
    rintro (hestop | hnone)
    · exact h.halted (.inl hestop)
    · exact absurd hnone ha
  armed := fun _ => ha

theorem requestManualControl_state (c : MotionCoordinator Velocities) :
    c.requestManualControl.2 = { c with authority := .manual } := by
  rcases c with ⟨authority, safety, watchdog, motorCalls⟩
  cases authority <;> rfl

theorem stopAndReleaseControl_state (c : MotionCoordinator Velocities) (stopOk : Bool) :
    (c.stopAndReleaseControl stopOk).2 =
      if stopOk then { (c.motorStop true).disarm with authority := .none }
      else (c.motorStop false).latchFault := by
  rcases c with ⟨authority, safety, watchdog, motorCalls⟩
  cases stopOk <;> cases authority <;> rfl

theorem requestAutonomousControl_state (c : MotionCoordinator Velocities) (stopOk : Bool) :
    (c.requestAutonomousControl stopOk).2 =
      if c.authority ≠ .manual then { c with authority := .autonomous }
      else if stopOk then { (c.motorStop true).disarm with authority := .autonomous }
      else (c.motorStop false).latchFault := by
  rcases c with ⟨authority, safety, watchdog, motorCalls⟩
  cases stopOk <;> cases authority <;> rfl

theorem requestManualControl_guarded {c : MotionCoordinator Velocities} (h : c.Guarded) :
    c.requestManualControl.2.Guarded := by
  rw [requestManualControl_state]
  apply h.withAuthority
  simp

theorem requestAutonomousControl_guarded {c : MotionCoordinator Velocities} (h : c.Guarded)
    (stopOk : Bool) : (c.requestAutonomousControl stopOk).2.Guarded := by
  rw [requestAutonomousControl_state]
  split_ifs with hm hok
  · apply h.withAuthority
    simp
  · have hstopped : (c.motorStop true).disarm.Guarded := guarded_of_stopped (by simp) rfl
    apply hstopped.withAuthority
    simp
  · exact guarded_latchFault h.armed

theorem stopAndReleaseControl_guarded {c : MotionCoordinator Velocities} (h : c.Guarded)
    (stopOk : Bool) : (c.stopAndReleaseControl stopOk).2.Guarded := by
  rw [stopAndReleaseControl_state]
  split_ifs with hok
  · have hstopped : (c.motorStop true).possiblyMoving = false := by simp
    exact guarded_of_stopped hstopped rfl
  · exact guarded_latchFault h.armed

/-- Every way `request_motion` can end. -/
theorem requestMotion_cases (tests : CommandTests Command Velocities)
    (c : MotionCoordinator Velocities) (requester : ControlAuthority) (command : Command) (now : ℤ)
    (setOk stopOk : Bool) :
    let outcome := c.requestMotion tests requester command now setOk stopOk
    (outcome.2 = c ∧ (outcome.1 = .rejectedWrongAuthority ∨ outcome.1 = .invalidCommand ∨
      outcome.1 = .rejectedUnsafe)) ∨
    (requester = c.authority ∧ c.authority ≠ .none ∧
      (outcome = (.accepted, (c.motorStop true).disarm) ∨
        outcome = (.motorCommandFailed, (c.motorStop false).latchFault) ∨
        (c.safety.safe = true ∧ outcome = (.accepted,
          { (c.setWheelVelocities (tests.toWheelVelocities command) true) with
            watchdog := c.watchdog.refresh now })) ∨
        outcome = (.motorCommandFailed,
          (c.setWheelVelocities (tests.toWheelVelocities command) false).latchFault.motorStop
            stopOk))) := by
  intro outcome
  by_cases hrequester : requester = .none ∨ requester ≠ c.authority
  · left
    simp [outcome, requestMotion, hrequester]
  obtain ⟨hnone, hauthority⟩ := not_or.mp hrequester
  rw [not_not] at hauthority
  by_cases hfinite : tests.isFinite command = true
  swap
  · left
    simp [outcome, requestMotion, hrequester, hfinite]
  by_cases hstop : tests.belowStopEpsilon command = true
  · right
    refine ⟨hauthority, hauthority ▸ hnone, ?_⟩
    cases stopOk with
    | true =>
      left
      simp [outcome, requestMotion, hrequester, hfinite, hstop]
    | false =>
      right
      left
      simp [outcome, requestMotion, hrequester, hfinite, hstop]
  by_cases hsafe : c.safety.safe = true
  swap
  · left
    simp [outcome, requestMotion, hrequester, hfinite, hstop, hsafe]
  by_cases hwheels : tests.wheelsFinite (tests.toWheelVelocities command) = true
  swap
  · left
    simp [outcome, requestMotion, hrequester, hfinite, hstop, hsafe, hwheels]
  right
  refine ⟨hauthority, hauthority ▸ hnone, .inr (.inr ?_)⟩
  cases setOk with
  | true =>
    left
    refine ⟨hsafe, ?_⟩
    simp only [outcome, requestMotion, hrequester, hfinite, hstop, hsafe, hwheels]
    rfl
  | false =>
    right
    simp [outcome, requestMotion, hrequester, hfinite, hstop, hsafe, hwheels]

theorem safe_iff (s : SafetyState) :
    s.safe = true ↔ s.estopActive = false ∧ s.hardwareFaultActive = false := by
  simp [SafetyState.safe]

theorem requestMotion_guarded (tests : CommandTests Command Velocities)
    {c : MotionCoordinator Velocities} (h : c.Guarded) (requester : ControlAuthority)
    (command : Command) (now : ℤ) (setOk stopOk : Bool) :
    (c.requestMotion tests requester command now setOk stopOk).2.Guarded := by
  obtain ⟨hsame, _⟩ | ⟨_, hauthority, heq | heq | ⟨hsafe, heq⟩ | heq⟩ :=
    c.requestMotion_cases tests requester command now setOk stopOk
  · rwa [hsame]
  · rw [heq]
    exact guarded_of_stopped (by simp) rfl
  · rw [heq]
    exact guarded_latchFault h.armed
  · rw [heq]
    rw [safe_iff] at hsafe
    refine ⟨fun _ => .inl rfl, ?_, fun _ => hauthority⟩
    rintro (hestop | hnone)
    · have hclear : c.safety.estopActive = true := hestop
      simp [hsafe.1] at hclear
    · exact absurd hnone hauthority
  · rw [heq]
    exact guarded_of_fault (latchFault_active _) fun _ => hauthority

theorem tick_eq (c : MotionCoordinator Velocities) (now : ℤ) (stopOk : Bool) :
    c.tick now stopOk =
      if c.watchdog.expired now then
        if stopOk then (.timeoutStopped, c.disarm.motorStop true)
        else (.motorStopFailed, (c.disarm.motorStop false).latchFault)
      else (.noAction, c) := by
  rw [tick]
  cases stopOk <;> cases c.watchdog.expired now <;> rfl

theorem clearEstop_eq (c : MotionCoordinator Velocities) (stopOk : Bool) :
    c.clearEstop stopOk =
      if c.safety.estopActive then
        if stopOk then
          (.updated, { (c.disarm.motorStop true) with safety := c.safety.clearEstop.2 })
        else (.motorStopFailed, (c.disarm.motorStop false).latchFault)
      else (.alreadyClear, c) := by
  rw [clearEstop]
  cases stopOk <;> cases c.safety.estopActive <;> rfl

theorem clearHardwareFault_eq (c : MotionCoordinator Velocities) (stopOk : Bool) :
    c.clearHardwareFault stopOk =
      if c.safety.hardwareFaultActive then
        if stopOk then
          (.updated, { (c.disarm.motorStop true) with safety := c.safety.clearHardwareFault.2 })
        else (.motorStopFailed, c.disarm.motorStop false)
      else (.alreadyClear, c) := by
  rw [clearHardwareFault]
  cases stopOk <;> cases c.safety.hardwareFaultActive <;> rfl

theorem tick_guarded {c : MotionCoordinator Velocities} (h : c.Guarded) (now : ℤ) (stopOk : Bool) :
    (c.tick now stopOk).2.Guarded := by
  rw [tick_eq]
  split_ifs with hexpired hok
  · exact guarded_motorStop rfl (by simp)
  · exact guarded_motorStop_latchFault rfl
  · exact h

theorem reportEstop_guarded (c : MotionCoordinator Velocities) (stopOk : Bool) :
    (c.reportEstop stopOk).2.Guarded := by
  cases stopOk with
  | false => exact guarded_motorStop_latchFault rfl
  | true =>
    have hstate : (c.reportEstop true).2 =
        ({ c with safety := c.safety.reportEstop.2 }.disarm.motorStop true) := by
      rcases c with ⟨authority, ⟨estop, fault⟩, watchdog, motorCalls⟩
      cases estop <;> rfl
    rw [hstate]
    exact guarded_motorStop rfl (by simp)

theorem reportHardwareFault_guarded (c : MotionCoordinator Velocities) (stopOk : Bool) :
    (c.reportHardwareFault stopOk).2.Guarded := by
  have hstate : (c.reportHardwareFault stopOk).2 = c.latchFault.disarm.motorStop stopOk := by
    rcases c with ⟨authority, ⟨estop, fault⟩, watchdog, motorCalls⟩
    cases stopOk <;> cases fault <;> rfl
  rw [hstate]
  exact guarded_motorStop rfl fun _ => c.latchFault_active

theorem clearEstop_guarded {c : MotionCoordinator Velocities} (h : c.Guarded) (stopOk : Bool) :
    (c.clearEstop stopOk).2.Guarded := by
  rw [clearEstop_eq]
  split_ifs with hestop hok
  · have hstopped : (c.disarm.motorStop true).possiblyMoving = false := by simp
    exact guarded_of_stopped hstopped rfl
  · exact guarded_motorStop_latchFault rfl
  · exact h

theorem clearHardwareFault_guarded {c : MotionCoordinator Velocities} (h : c.Guarded)
    (stopOk : Bool) : (c.clearHardwareFault stopOk).2.Guarded := by
  rw [clearHardwareFault_eq]
  split_ifs with hfault hok
  · have hstopped : (c.disarm.motorStop true).possiblyMoving = false := by simp
    exact guarded_of_stopped hstopped rfl
  · exact guarded_motorStop rfl fun _ => hfault
  · exact h

variable (tests : CommandTests Command Velocities)

theorem call_guarded {c : MotionCoordinator Velocities} (h : c.Guarded)
    (request : CoordinatorCall Command) : (c.call tests request).2.Guarded := by
  cases request with
  | requestManualControl => exact requestManualControl_guarded h
  | requestAutonomousControl stopOk => exact requestAutonomousControl_guarded h stopOk
  | stopAndReleaseControl stopOk => exact stopAndReleaseControl_guarded h stopOk
  | requestMotion requester command now setOk stopOk =>
    exact requestMotion_guarded tests h requester command now setOk stopOk
  | tick now stopOk => exact tick_guarded h now stopOk
  | reportEstop stopOk => exact c.reportEstop_guarded stopOk
  | clearEstop stopOk => exact clearEstop_guarded h stopOk
  | reportHardwareFault stopOk => exact c.reportHardwareFault_guarded stopOk
  | clearHardwareFault stopOk => exact clearHardwareFault_guarded h stopOk

theorem calls_guarded {c : MotionCoordinator Velocities} (h : c.Guarded)
    (requests : List (CoordinatorCall Command)) : (c.calls tests requests).Guarded := by
  induction requests generalizing c with
  | nil => exact h
  | cons request requests ih => exact ih (call_guarded tests h request)

theorem call_ne_internalStateError (c : MotionCoordinator Velocities)
    (request : CoordinatorCall Command) :
    (c.call tests request).1 ≠ .control .internalStateError := by
  rcases c with ⟨authority, safety, watchdog, motorCalls⟩
  cases request with
  | requestManualControl => cases authority <;> exact nofun
  | requestAutonomousControl stopOk => cases stopOk <;> cases authority <;> exact nofun
  | stopAndReleaseControl stopOk => cases stopOk <;> cases authority <;> exact nofun
  | _ => exact nofun

/-- A clear that makes the safety state safe again has stopped the motors. -/
theorem clear_stops {c : MotionCoordinator Velocities} (hblocked : c.safety.safe = false)
    {request : CoordinatorCall Command}
    (hrequest : ∃ stopOk, request = .clearEstop stopOk ∨ request = .clearHardwareFault stopOk)
    (hsafe : (c.call tests request).2.safety.safe = true) :
    (c.call tests request).2.possiblyMoving = false := by
  have hstopped : (c.disarm.motorStop true).possiblyMoving = false := by simp
  obtain ⟨stopOk, rfl | rfl⟩ := hrequest
  · simp only [call, Prod.map_snd, id_eq, clearEstop_eq] at hsafe ⊢
    split_ifs at hsafe ⊢ with hestop hok
    · exact hstopped
    · rw [safe_iff, latchFault_active] at hsafe
      simp at hsafe
    · simp [hblocked] at hsafe
  · simp only [call, Prod.map_snd, id_eq, clearHardwareFault_eq] at hsafe ⊢
    split_ifs at hsafe ⊢ with hfault hok
    · exact hstopped
    · have hactive : (c.disarm.motorStop false).safety.hardwareFaultActive = true := hfault
      rw [safe_iff, hactive] at hsafe
      simp at hsafe
    · simp [hblocked] at hsafe

/-- What the result of `request_motion` says about the state it leaves. -/
structure MotionOutcome (c : MotionCoordinator Velocities) (requester : ControlAuthority)
    (now : ℤ) (result : MotionCommandResult) (after : MotionCoordinator Velocities) : Prop where
  rejected : result = .rejectedWrongAuthority ∨ result = .invalidCommand ∨
    result = .rejectedUnsafe → after = c
  failed : result = .motorCommandFailed → after.safety.hardwareFaultActive = true
  accepted : result = .accepted →
    requester = c.authority ∧ c.authority ≠ .none ∧ after.authority = c.authority ∧
      after.safety = c.safety ∧
      ((after.possiblyMoving = false ∧ after.watchdog.armed = false) ∨
        (c.safety.safe = true ∧ after.watchdog = c.watchdog.refresh now))

theorem requestMotion_outcome (c : MotionCoordinator Velocities) (requester : ControlAuthority)
    (command : Command) (now : ℤ) (setOk stopOk : Bool) :
    MotionOutcome c requester now (c.requestMotion tests requester command now setOk stopOk).1
      (c.requestMotion tests requester command now setOk stopOk).2 := by
  obtain ⟨hsame, hresult⟩ | ⟨hrequester, hauthority, heq | heq | ⟨hsafe, heq⟩ | heq⟩ :=
    c.requestMotion_cases tests requester command now setOk stopOk
  · refine ⟨fun _ => hsame, ?_, ?_⟩
    · rcases hresult with h | h | h <;> simp [h]
    · rcases hresult with h | h | h <;> simp [h]
  · rw [heq]
    refine ⟨by simp, by simp, fun _ => ⟨hrequester, hauthority, rfl, rfl, .inl ⟨?_, rfl⟩⟩⟩
    simp
  · rw [heq]
    exact ⟨by simp, fun _ => latchFault_active _, by simp⟩
  · rw [heq]
    exact ⟨by simp, by simp, fun _ => ⟨hrequester, hauthority, rfl, rfl, .inr ⟨hsafe, rfl⟩⟩⟩
  · rw [heq]
    exact ⟨by simp, fun _ => latchFault_active _, by simp⟩

/-- **Safety of the coordinator.** From a coordinator that has made no motor call,
whatever is asked and whichever motor calls fail: wheels that may be moving are
watched or reported, an emergency stop or the lack of an authority leaves them halted
or reported, and the watchdog runs only under an authority. A clear that makes the
state safe again leaves them halted, no call finds the control state inconsistent,
and a motion request is refused without effect, fails into a fault, or is carried
out. -/
theorem coordinator_guards_motion (timeout refreshed : ℤ)
    (requests : List (CoordinatorCall Command)) :
    let start : MotionCoordinator Velocities := { watchdog := ⟨timeout, refreshed, false⟩ }
    let c := start.calls tests requests
    c.Guarded ∧
    (∀ request, (∃ stopOk, request = .clearEstop stopOk ∨ request = .clearHardwareFault stopOk) →
      c.safety.safe = false → (c.call tests request).2.safety.safe = true →
      (c.call tests request).2.possiblyMoving = false) ∧
    (∀ request, (c.call tests request).1 ≠ .control .internalStateError) ∧
    ∀ requester command now setOk stopOk,
      MotionOutcome c requester now (c.requestMotion tests requester command now setOk stopOk).1
        (c.requestMotion tests requester command now setOk stopOk).2 := by
  intro start c
  have hstart : start.Guarded := guarded_of_stopped rfl rfl
  refine ⟨calls_guarded tests hstart requests, ?_, ?_, ?_⟩
  · intro request hrequest hblocked hsafe
    exact clear_stops tests hblocked hrequest hsafe
  · exact c.call_ne_internalStateError tests
  · exact c.requestMotion_outcome tests

end MotionCoordinator

end IndoorRobot.Pi
