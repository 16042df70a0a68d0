import IndoorRobot.EventLogs
import IndoorRobot.MotorDriver
import IndoorRobot.WrappingClocks

/-!
# Reversing a wheel

The two halves of the motor driver treat their wheels alike. Seen through one
wheel, a call either brakes it, drives it as requested or leaves the port alone. A
wheel recorded as turning is braked for the whole interval before it turns the
other way; a wheel recorded as stopped is not, however short ago it was braked.
-/
namespace IndoorRobot

open MotorDriver

inductive Wheel where
  | left | right
  deriving DecidableEq

/-- What the driver keeps for one wheel. -/
structure WheelReversal where
  direction : Dri0041Direction
  pending : Bool
  reversalDirection : Dri0041Direction
  startedMs : UInt32
  deriving DecidableEq

namespace MotorDriver

def wheel (m : MotorDriver) : Wheel → WheelReversal
  | .left =>
    ⟨m.leftDirection, m.leftReversalPending, m.leftReversalDirection, m.leftReversalStartedMs⟩
  | .right =>
    ⟨m.rightDirection, m.rightReversalPending, m.rightReversalDirection, m.rightReversalStartedMs⟩

end MotorDriver

def MotorDriverCommand.requested (c : MotorDriverCommand) : Wheel → Dri0041Direction
  | .left => directionFromCommand c.left
  | .right => directionFromCommand c.right

def MotorDriverCommand.wheel (c : MotorDriverCommand) : Wheel → Int16
  | .left => c.left
  | .right => c.right

/-- What a control tells one wheel: the duty and the pins of the two directions. -/
structure WheelOutput where
  duty : UInt16
  forward : Bool
  reverse : Bool
  deriving DecidableEq

def WheelOutput.brake : WheelOutput := ⟨0, false, false⟩

/-- The output that carries out a command. -/
def WheelOutput.drive (command : Int16) : WheelOutput where
  duty := if command > 0 then command.toUInt16 else if command < 0 then (-command).toUInt16 else 0
  forward := decide (command > 0)
  reverse := decide (command < 0)

def Dri0041PortControl.output (control : Dri0041PortControl) : Wheel → WheelOutput
  | .left => ⟨control.leftDuty, control.leftIn1, control.leftIn2⟩
  | .right => ⟨control.rightDuty, control.rightIn3, control.rightIn4⟩

/-- The way a control drives a wheel. -/
def Dri0041PortControl.direction (control : Dri0041PortControl) : Wheel → Dri0041Direction
  | .left => if control.leftDuty = 0 then .stopped else if control.leftIn1 then .forward else .reverse
  | .right =>
    if control.rightDuty = 0 then .stopped else if control.rightIn3 then .forward else .reverse

namespace WheelReversal

/-- One wheel before the port: whether it is braked, whether a reversal starts, what is kept. -/
def prepare (w : WheelReversal) (requested : Dri0041Direction) (nowMs : UInt32) :
    Bool × Bool × WheelReversal :=
  if w.pending then
    if requested = .stopped then (true, false, w)
    else if requested = w.direction then (false, false, { w with pending := false })
    else if requested = w.reversalDirection then
      if nowMs - w.startedMs < dri0041ReversalBrakeMs then (true, false, w) else (false, false, w)
    else (false, false, w)
  else if directionReverses w.direction requested then (true, true, w)
  else (false, false, w)

/-- One wheel after a successful port write. -/
def commit (w : WheelReversal) (requested : Dri0041Direction) (nowMs : UInt32)
    (startReversal : Bool) : WheelReversal :=
  if startReversal then
    { w with pending := true, reversalDirection := requested, startedMs := nowMs }
  else if w.pending then
    if requested = .stopped then { w with pending := false, direction := .stopped }
    else if requested = w.direction then { w with pending := false }
    else if requested = w.reversalDirection ∧ nowMs - w.startedMs ≥ dri0041ReversalBrakeMs then
      { w with pending := false, direction := requested }
    else w
  else { w with direction := requested }

end WheelReversal

namespace MotorDriver

theorem prepareLeft_wheel (m : MotorDriver) (requested : Dri0041Direction) (nowMs : UInt32)
    (control : Dri0041PortControl) :
    (m.prepareLeft requested nowMs control).1 =
        (if ((m.wheel .left).prepare requested nowMs).1 then brakeLeft control else control) ∧
      (m.prepareLeft requested nowMs control).2.1 = ((m.wheel .left).prepare requested nowMs).2.1 ∧
      (m.prepareLeft requested nowMs control).2.2.wheel .left =
        ((m.wheel .left).prepare requested nowMs).2.2 ∧
      (m.prepareLeft requested nowMs control).2.2.wheel .right = m.wheel .right ∧
      (m.prepareLeft requested nowMs control).2.2.initialized = m.initialized := by
  by_cases hp : m.leftReversalPending = true
  · by_cases h0 : requested = .stopped
    · simp [prepareLeft, WheelReversal.prepare, wheel, hp, h0]
    · by_cases h1 : requested = m.leftDirection
      · simp [prepareLeft, WheelReversal.prepare, wheel, hp, h1, h1 ▸ h0]
      · by_cases h2 : requested = m.leftReversalDirection
        · by_cases h3 : nowMs - m.leftReversalStartedMs < dri0041ReversalBrakeMs
          · simp [prepareLeft, WheelReversal.prepare, wheel, hp, h2 ▸ h0, h2 ▸ h1, h2, h3]
          · simp [prepareLeft, WheelReversal.prepare, wheel, hp, h2 ▸ h0, h2 ▸ h1, h2, h3]
        · simp [prepareLeft, WheelReversal.prepare, wheel, hp, h0, h1, h2]
  · by_cases hr : directionReverses m.leftDirection requested = true
    · simp [prepareLeft, WheelReversal.prepare, wheel, hp, hr]
    · simp [prepareLeft, WheelReversal.prepare, wheel, hp, hr]

theorem prepareRight_wheel (m : MotorDriver) (requested : Dri0041Direction) (nowMs : UInt32)
    (control : Dri0041PortControl) :
    (m.prepareRight requested nowMs control).1 =
        (if ((m.wheel .right).prepare requested nowMs).1 then brakeRight control else control) ∧
      (m.prepareRight requested nowMs control).2.1 = ((m.wheel .right).prepare requested nowMs).2.1 ∧
      (m.prepareRight requested nowMs control).2.2.wheel .right =
        ((m.wheel .right).prepare requested nowMs).2.2 ∧
      (m.prepareRight requested nowMs control).2.2.wheel .left = m.wheel .left ∧
      (m.prepareRight requested nowMs control).2.2.initialized = m.initialized := by
  by_cases hp : m.rightReversalPending = true
  · by_cases h0 : requested = .stopped
    · simp [prepareRight, WheelReversal.prepare, wheel, hp, h0]
    · by_cases h1 : requested = m.rightDirection
      · simp [prepareRight, WheelReversal.prepare, wheel, hp, h1, h1 ▸ h0]
      · by_cases h2 : requested = m.rightReversalDirection
        · by_cases h3 : nowMs - m.rightReversalStartedMs < dri0041ReversalBrakeMs
          · simp [prepareRight, WheelReversal.prepare, wheel, hp, h2 ▸ h0, h2 ▸ h1, h2, h3]
          · simp [prepareRight, WheelReversal.prepare, wheel, hp, h2 ▸ h0, h2 ▸ h1, h2, h3]
        · simp [prepareRight, WheelReversal.prepare, wheel, hp, h0, h1, h2]
  · by_cases hr : directionReverses m.rightDirection requested = true
    · simp [prepareRight, WheelReversal.prepare, wheel, hp, hr]
    · simp [prepareRight, WheelReversal.prepare, wheel, hp, hr]

theorem commitLeft_wheel (m : MotorDriver) (requested : Dri0041Direction) (nowMs : UInt32)
    (startReversal : Bool) :
    (m.commitLeft requested nowMs startReversal).wheel .left =
        (m.wheel .left).commit requested nowMs startReversal ∧
      (m.commitLeft requested nowMs startReversal).wheel .right = m.wheel .right ∧
      (m.commitLeft requested nowMs startReversal).initialized = m.initialized := by
  simp only [commitLeft, WheelReversal.commit, wheel]
  split_ifs <;> simp_all

theorem commitRight_wheel (m : MotorDriver) (requested : Dri0041Direction) (nowMs : UInt32)
    (startReversal : Bool) :
    (m.commitRight requested nowMs startReversal).wheel .right =
        (m.wheel .right).commit requested nowMs startReversal ∧
      (m.commitRight requested nowMs startReversal).wheel .left = m.wheel .left ∧
      (m.commitRight requested nowMs startReversal).initialized = m.initialized := by
  simp only [commitRight, WheelReversal.commit, wheel]
  split_ifs <;> simp_all

end MotorDriver

theorem brakeLeft_output (control : Dri0041PortControl) :
    (brakeLeft control).output .left = .brake ∧
      (brakeLeft control).output .right = control.output .right :=
  ⟨rfl, rfl⟩

theorem brakeRight_output (control : Dri0041PortControl) :
    (brakeRight control).output .right = .brake ∧
      (brakeRight control).output .left = control.output .left :=
  ⟨rfl, rfl⟩

theorem toUInt16_eq_zero {v : Int16} (h : v.toUInt16 = 0) : v = 0 :=
  Int16.toBitVec_inj.mp (congrArg UInt16.toBitVec h)

theorem neg_toUInt16_eq_zero {v : Int16} (h : (-v).toUInt16 = 0) : v = 0 := by
  have hneg := congrArg Neg.neg (toUInt16_eq_zero h)
  simpa using hneg

theorem duty_ne_zero (v : Int16) :
    (0 < v → v.toUInt16 ≠ 0) ∧ (v < 0 → (-v).toUInt16 ≠ 0) := by
  constructor
  · intro hpos hz
    rw [toUInt16_eq_zero hz] at hpos
    exact absurd hpos (by decide)
  · intro hneg hz
    rw [neg_toUInt16_eq_zero hz] at hneg
    exact absurd hneg (by decide)

namespace WheelOutput

variable {v : Int16}

theorem drive_forward (h : v > 0) : drive v = ⟨v.toUInt16, true, false⟩ := by
  have hneg : ¬ v < 0 := Int16.not_lt.mpr (Int16.le_of_lt h)
  simp [drive, h, hneg]

theorem drive_reverse (h : v < 0) : drive v = ⟨(-v).toUInt16, false, true⟩ := by
  have hpos : ¬ v > 0 := Int16.not_lt.mpr (Int16.le_of_lt h)
  simp [drive, h, hpos]

theorem drive_stopped (hpos : ¬ v > 0) (hneg : ¬ v < 0) : drive v = brake := by
  simp [drive, hpos, hneg, brake]

end WheelOutput

/-- An accepted command asks each wheel for what it is told to do. -/
theorem control_output {c : MotorDriverCommand} {control : Dri0041PortControl}
    (h : dri0041ControlFromCommand c = some control) (w : Wheel) :
    control.output w = .drive (c.wheel w) := by
  rw [dri0041ControlFromCommand] at h
  split at h
  · cases h
  obtain rfl := Option.some.inj h
  cases w with
  | left =>
    rw [MotorDriverCommand.wheel]
    by_cases hpos : c.left > 0
    · rw [WheelOutput.drive_forward hpos]
      simp only [hpos, if_true]
      split_ifs <;> rfl
    · by_cases hneg : c.left < 0
      · rw [WheelOutput.drive_reverse hneg]
        simp only [hpos, hneg, if_true, if_false]
        split_ifs <;> rfl
      · rw [WheelOutput.drive_stopped hpos hneg]
        simp only [hpos, hneg, if_false]
        split_ifs <;> rfl
  | right =>
    rw [MotorDriverCommand.wheel]
    by_cases hpos : c.right > 0
    · rw [WheelOutput.drive_forward hpos]
      simp only [hpos, if_true]
      split_ifs <;> rfl
    · by_cases hneg : c.right < 0
      · rw [WheelOutput.drive_reverse hneg]
        simp only [hpos, hneg, if_true, if_false]
        split_ifs <;> rfl
      · rw [WheelOutput.drive_stopped hpos hneg]
        simp only [hpos, hneg, if_false]
        split_ifs <;> rfl

/-- The way an output drives its wheel. -/
def WheelOutput.direction (out : WheelOutput) : Dri0041Direction :=
  if out.duty = 0 then .stopped else if out.forward then .forward else .reverse

theorem direction_eq (control : Dri0041PortControl) (w : Wheel) :
    control.direction w = (control.output w).direction := by
  cases w <;> rfl

@[simp] theorem direction_brake : WheelOutput.brake.direction = .stopped := rfl

@[simp] theorem direction_drive (v : Int16) :
    (WheelOutput.drive v).direction = directionFromCommand v := by
  obtain ⟨hforward, hreverse⟩ := duty_ne_zero v
  rw [directionFromCommand]
  by_cases hpos : v > 0
  · rw [WheelOutput.drive_forward hpos, if_pos hpos]
    simp [WheelOutput.direction, hforward hpos]
  · by_cases hneg : v < 0
    · rw [WheelOutput.drive_reverse hneg, if_neg hpos, if_pos hneg]
      simp only [WheelOutput.direction, if_neg (hreverse hneg), Bool.false_eq_true, if_false]
    · rw [WheelOutput.drive_stopped hpos hneg, if_neg hpos, if_neg hneg, direction_brake]

theorem requested_eq (c : MotorDriverCommand) (w : Wheel) :
    c.requested w = directionFromCommand (c.wheel w) := by
  cases w <;> rfl

/-- What `motor_driver_apply` makes of one wheel when it reaches the port. -/
structure WheelApplied (b : Board) (c : MotorDriverCommand) (answer : PortAnswer)
    (control : Dri0041PortControl) (motor : MotorDriver) (w : Wheel) : Prop where
  direction : control.direction w =
    if ((b.motor.wheel w).prepare (c.requested w) answer.nowMs).1 then .stopped else c.requested w
  wheel : motor.wheel w =
    if answer.ok then
      ((b.motor.wheel w).prepare (c.requested w) answer.nowMs).2.2.commit (c.requested w) answer.nowMs
        ((b.motor.wheel w).prepare (c.requested w) answer.nowMs).2.1
    else ((b.motor.wheel w).prepare (c.requested w) answer.nowMs).2.2

theorem wheelApplied_direction {control : Dri0041PortControl} {c : MotorDriverCommand} {w : Wheel}
    {braked : Bool} (h : control.output w = if braked then .brake else .drive (c.wheel w)) :
    control.direction w = if braked then .stopped else c.requested w := by
  rw [direction_eq, h, requested_eq]
  cases braked <;> simp

/-- Both wheels before the port: each is prepared as if it were alone. -/
theorem MotorDriver.prepare_wheels {c : MotorDriverCommand} {control : Dri0041PortControl}
    (hcontrol : dri0041ControlFromCommand c = some control) (m : MotorDriver) (nowMs : UInt32) :
    let left := m.prepareLeft (c.requested .left) nowMs control
    let right := left.2.2.prepareRight (c.requested .right) nowMs left.1
    left.2.1 = ((m.wheel .left).prepare (c.requested .left) nowMs).2.1 ∧
      right.2.1 = ((m.wheel .right).prepare (c.requested .right) nowMs).2.1 ∧
      right.2.2.initialized = m.initialized ∧
      ∀ w, right.1.output w =
          (if ((m.wheel w).prepare (c.requested w) nowMs).1 then .brake else .drive (c.wheel w)) ∧
        right.2.2.wheel w = ((m.wheel w).prepare (c.requested w) nowMs).2.2 := by
  intro left right
  obtain ⟨hl1, hl2, hl3, hl4, hl5⟩ := m.prepareLeft_wheel (c.requested .left) nowMs control
  obtain ⟨hr1, hr2, hr3, hr4, hr5⟩ := left.2.2.prepareRight_wheel (c.requested .right) nowMs left.1
  rw [show left.2.2.wheel .right = m.wheel .right from hl4] at hr1 hr2 hr3
  refine ⟨hl2, hr2, hr5.trans hl5, ?_⟩
  intro w
  cases w with
  | left =>
    refine ⟨?_, hr4.trans hl3⟩
    rw [hr1, apply_ite (Dri0041PortControl.output · .left), (brakeRight_output _).2, ite_self,
      hl1, apply_ite (Dri0041PortControl.output · .left), (brakeLeft_output _).1,
      control_output hcontrol]
  | right =>
    refine ⟨?_, hr3⟩
    rw [hr1, apply_ite (Dri0041PortControl.output · .right), (brakeRight_output _).1,
      hl1, apply_ite (Dri0041PortControl.output · .right), (brakeLeft_output _).2, ite_self,
      control_output hcontrol]

/-- Both wheels after a successful port write. -/
theorem MotorDriver.commit_wheels (m : MotorDriver) (c : MotorDriverCommand) (nowMs : UInt32)
    (startLeft startRight : Bool) :
    let motor := (m.commitLeft (c.requested .left) nowMs startLeft).commitRight (c.requested .right)
      nowMs startRight
    motor.initialized = m.initialized ∧
      motor.wheel .left = (m.wheel .left).commit (c.requested .left) nowMs startLeft ∧
      motor.wheel .right = (m.wheel .right).commit (c.requested .right) nowMs startRight := by
  obtain ⟨hl1, hl2, hl3⟩ := m.commitLeft_wheel (c.requested .left) nowMs startLeft
  obtain ⟨hr1, hr2, hr3⟩ := (m.commitLeft (c.requested .left) nowMs startLeft).commitRight_wheel
    (c.requested .right) nowMs startRight
  refine ⟨hr3.trans hl3, hr2.trans hl1, ?_⟩
  rw [hr1, hl2]

/-- What `motor_driver_apply` does, wheel by wheel. -/
theorem motorDriverApply_wheel (env : ℕ → PortAnswer) (c : MotorDriverCommand) (b : Board)
    (hi : b.motor.initialized = true) :
    (dri0041ControlFromCommand c = none ∧
        (motorDriverApply env c b).2 = b.emit (.driverApply c false)) ∨
      ∃ control motor, (dri0041ControlFromCommand c).isSome ∧ motor.initialized = true ∧
        (motorDriverApply env c b).2 = { b with
          motor := motor
          log := b.log ++ [.portApply control (env b.log.length).ok] ++
            [.driverApply c (env b.log.length).ok] } ∧
        ∀ w, WheelApplied b c (env b.log.length) control motor w ∧
          control.output w =
            if ((b.motor.wheel w).prepare (c.requested w) (env b.log.length).nowMs).1 then .brake
            else .drive (c.wheel w) := by
  cases hcontrol : dri0041ControlFromCommand c with
  | none =>
    refine .inl ⟨rfl, ?_⟩
    simp [motorDriverApply, motorDriverApplyBody, hi, hcontrol]
  | some control =>
    right
    obtain ⟨hstartLeft, hstartRight, hinitialized, hwheels⟩ :=
      MotorDriver.prepare_wheels hcontrol b.motor (env b.log.length).nowMs
    rcases hleft : b.motor.prepareLeft (c.requested .left) (env b.log.length).nowMs control with
      ⟨controlLeft, startLeft, motorLeft⟩
    rw [hleft] at hstartLeft hstartRight hinitialized hwheels
    rcases hright : motorLeft.prepareRight (c.requested .right) (env b.log.length).nowMs
      controlLeft with ⟨applied, startRight, motor⟩
    rw [hright] at hstartRight hinitialized hwheels
    simp only at hstartLeft hstartRight hinitialized hwheels
    simp only [MotorDriverCommand.requested] at hleft hright
    cases hok : (env b.log.length).ok with
    | true =>
      obtain ⟨hcommitted, hcommitLeft, hcommitRight⟩ := motor.commit_wheels c
        (env b.log.length).nowMs startLeft startRight
      refine ⟨applied, (motor.commitLeft (c.requested .left) (env b.log.length).nowMs
        startLeft).commitRight (c.requested .right) (env b.log.length).nowMs startRight, rfl,
        by rw [hcommitted, hinitialized, hi], ?_, ?_⟩
      · simp [motorDriverApply, motorDriverApplyBody, hi, hcontrol, hleft, hright,
          motorDriverDri0041PortApply, hok, Board.emit, MotorDriverCommand.requested]
      · intro w
        refine ⟨⟨wheelApplied_direction (hwheels w).1, ?_⟩, (hwheels w).1⟩
        rw [if_pos hok]
        cases w with
        | left => rw [hcommitLeft, (hwheels .left).2, hstartLeft]
        | right => rw [hcommitRight, (hwheels .right).2, hstartRight]
    | false =>
      refine ⟨applied, motor, rfl, by rw [hinitialized, hi], ?_, ?_⟩
      · simp [motorDriverApply, motorDriverApplyBody, hi, hcontrol, hleft, hright,
          motorDriverDri0041PortApply, hok, Board.emit]
      · intro w
        refine ⟨⟨wheelApplied_direction (hwheels w).1, ?_⟩, (hwheels w).1⟩
        rw [(hwheels w).2, if_neg (by simp [hok])]

/-! ### What a wheel was last made to do -/

/-- The last way a wheel was driven and when it was first braked since. -/
structure WheelHistory where
  lastDriven : Dri0041Direction := .stopped
  brakedAt : Option ℕ := none
  deriving DecidableEq

/-- A control that drives the wheel `direction`, applied at `time`. -/
def WheelHistory.applied (h : WheelHistory) (direction : Dri0041Direction) (time : ℕ) : WheelHistory :=
  if direction = .stopped then { h with brakedAt := h.brakedAt.or (some time) }
  else { lastDriven := direction }

/-- At least the brake interval has passed since the first brake. -/
def WheelHistory.Rested (h : WheelHistory) (time : ℕ) : Prop := ∃ t, h.brakedAt = some t ∧ t + 100 ≤ time

section Histories
variable (clock : ℕ → ℕ) (w : Wheel)

/-- The event at place `i` of the log, which happened at `clock i`. -/
def historyStep (h : WheelHistory) (entry : BoardEvent × ℕ) : WheelHistory :=
  match entry.1 with
  | .portApply control true => h.applied (control.direction w) (clock entry.2)
  | _ => h

def wheelHistory (log : List BoardEvent) : WheelHistory := log.zipIdx.foldl (historyStep clock w) {}

theorem wheelHistory_concat (log : List BoardEvent) (event : BoardEvent) :
    wheelHistory clock w (log ++ [event]) =
      historyStep clock w (wheelHistory clock w log) (event, log.length) := by
  simp [wheelHistory, List.zipIdx_append]

/-- A control that drives the wheel against the way it was last driven comes only once the wheel
has been braked for the interval. -/
def RestedBefore (earlier : List BoardEvent) : BoardEvent → Prop
  | .portApply control true =>
    directionReverses (wheelHistory clock w earlier).lastDriven (control.direction w) = true →
      (wheelHistory clock w earlier).Rested (clock earlier.length)
  | _ => True

/-- Every reversal in the log was preceded by the brake interval. -/
def ReversalsBraked (log : List BoardEvent) : Prop := EventLogs.Always (RestedBefore clock w) log

end Histories

inductive MotorCall where
  | apply (command : MotorDriverCommand)
  | stop
  deriving DecidableEq

def motorCall (env : ℕ → PortAnswer) (b : Board) : MotorCall → Board
  | .apply c => (motorDriverApply env c b).2
  | .stop => (motorDriverStop env b).2

def motorCalls (env : ℕ → PortAnswer) (b : Board) (calls : List MotorCall) : Board :=
  calls.foldl (motorCall env) b

/-- The board once `motor_driver_init` has succeeded. -/
def initializedBoard : Board := { motor := (MotorDriver.init true).2 }

/-- A request that reaches the port turns a wheel recorded as stopped against the way it was last
driven, before the brake interval is over. -/
def EarlyRestart (env : ℕ → PortAnswer) (clock : ℕ → ℕ) (w : Wheel) (b : Board) : MotorCall → Prop
  | .stop => False
  | .apply c => (b.motor.wheel w).direction = .stopped ∧
      directionReverses (wheelHistory clock w b.log).lastDriven (c.requested w) = true ∧
      ¬ (wheelHistory clock w b.log).Rested (clock b.log.length) ∧
      (dri0041ControlFromCommand c).isSome ∧ (env b.log.length).ok = true

/-- The port's clock shows a time that does not run backwards and spans less than its range. -/
structure Clocked (env : ℕ → PortAnswer) (clock : ℕ → ℕ) : Prop where
  shown : ∀ i, (env i).nowMs = UInt32.ofNat (clock i)
  forward : ∀ i j, i ≤ j → clock i ≤ clock j
  span : ∀ i, clock i < clock 0 + 2 ^ 32

/-- The code's difference of two clock readings is the time between them. -/
theorem Clocked.elapsed {env : ℕ → PortAnswer} {clock : ℕ → ℕ} (h : Clocked env clock) {s n : ℕ}
    (hs : s ≤ n) :
    (UInt32.ofNat (clock n) - UInt32.ofNat (clock s)).toNat = clock n - clock s := by
  have hforward := h.forward s n hs
  have hspan : clock n - clock s < 2 ^ 32 := by
    have hfirst := h.forward 0 s (Nat.zero_le s)
    have hlast := h.span n
    omega
  exact WrappingClocks.toNat_elapsed_of_lt hforward hspan

/-- A wheel recorded as turning was last driven that way; one with a reversal pending has been
braked since before the reversal started. -/
structure WheelReversal.Tracked (clock : ℕ → ℕ) (n : ℕ) (v : WheelReversal) (h : WheelHistory) :
    Prop where
  turning : v.direction ≠ .stopped → h.lastDriven = v.direction
  pending : v.pending = true → directionReverses v.direction v.reversalDirection = true ∧
    ∃ t s, h.brakedAt = some t ∧ t ≤ clock s ∧ s ≤ n ∧ v.startedMs = UInt32.ofNat (clock s)

namespace WheelReversal

theorem Tracked.mono {clock : ℕ → ℕ} {n n' : ℕ} {v : WheelReversal} {h : WheelHistory}
    (ht : v.Tracked clock n h) (hn : n ≤ n') : v.Tracked clock n' h where
  turning := ht.turning
  pending := by
    intro hp
    obtain ⟨hreverses, t, s, hbraked, hle, hs, hstarted⟩ := ht.pending hp
    exact ⟨hreverses, t, s, hbraked, hle, Nat.le_trans hs hn, hstarted⟩

/-- A refused port write can only have dropped a reversal. -/
theorem Tracked.prepare {clock : ℕ → ℕ} {n : ℕ} {v : WheelReversal} {h : WheelHistory}
    (ht : v.Tracked clock n h) (requested : Dri0041Direction) (nowMs : UInt32) :
    (v.prepare requested nowMs).2.2.Tracked clock n h := by
  have hkept : (v.prepare requested nowMs).2.2 = v ∨
      (v.prepare requested nowMs).2.2 = { v with pending := false } := by
    rw [WheelReversal.prepare]
    split_ifs <;> simp
  obtain hsame | hdropped := hkept
  · rw [hsame]
    exact ht
  · rw [hdropped]
    exact ⟨ht.turning, fun hp => nomatch hp⟩

theorem not_reverses_stopped (direction : Dri0041Direction) :
    directionReverses direction .stopped = false := by
  simp [directionReverses]

theorem turning_of_reverses {current requested : Dri0041Direction}
    (h : directionReverses current requested = true) : current ≠ .stopped ∧ requested ≠ .stopped := by
  simp only [directionReverses, decide_eq_true_eq] at h
  exact ⟨h.1, h.2.1⟩

/-- A brake keeps the first brake since the wheel was driven. -/
theorem applied_stopped (h : WheelHistory) (time : ℕ) :
    (h.applied .stopped time).lastDriven = h.lastDriven ∧
      ∃ t, (h.applied .stopped time).brakedAt = some t ∧
        (h.brakedAt = some t ∨ (h.brakedAt = none ∧ t = time)) := by
  refine ⟨by simp [WheelHistory.applied], ?_⟩
  cases hb : h.brakedAt with
  | none => exact ⟨time, by simp [WheelHistory.applied, hb], .inr ⟨rfl, rfl⟩⟩
  | some t => exact ⟨t, by simp [WheelHistory.applied, hb], .inl rfl⟩

/-- What an accepted request has to leave behind: the wheel is still tracked, and the port saw an
early reversal exactly if the wheel was recorded as stopped too short ago. -/
structure Steps (clock : ℕ → ℕ) (n : ℕ) (v : WheelReversal) (h : WheelHistory)
    (requested direction : Dri0041Direction) (next : WheelReversal) : Prop where
  tracked : next.Tracked clock n (h.applied direction (clock n))
  rested : (directionReverses h.lastDriven direction = true → h.Rested (clock n)) ↔
    ¬ (v.direction = .stopped ∧ directionReverses h.lastDriven requested = true ∧
      ¬ h.Rested (clock n))

/-- A wheel without a pending reversal, braked to start one. -/
theorem steps_start {clock : ℕ → ℕ} {n : ℕ} {v : WheelReversal} {h : WheelHistory}
    (hbefore : ∀ t, h.brakedAt = some t → t ≤ clock n) (ht : v.Tracked clock n h)
    (requested : Dri0041Direction) (hr : directionReverses v.direction requested = true) :
    Steps clock n v h requested .stopped
      { v with
        pending := true
        reversalDirection := requested
        startedMs := UInt32.ofNat (clock n) } := by
  have hturning := (turning_of_reverses hr).1
  obtain ⟨hlast, t, hbraked, hfirst⟩ := applied_stopped h (clock n)
  refine ⟨⟨fun _ => hlast.trans (ht.turning hturning), fun _ => ⟨hr, t, n, hbraked, ?_,
    Nat.le_refl n, rfl⟩⟩, ?_⟩
  · obtain hold | ⟨-, rfl⟩ := hfirst
    · exact hbefore t hold
    · exact Nat.le_refl _
  · rw [not_reverses_stopped]
    simp [hturning]

/-- A wheel without a pending reversal, left to the request. -/
theorem steps_direct {clock : ℕ → ℕ} {n : ℕ} {v : WheelReversal} {h : WheelHistory}
    (ht : v.Tracked clock n h) (hp : v.pending = false) (requested : Dri0041Direction)
    (hr : directionReverses v.direction requested = false) :
    Steps clock n v h requested requested { v with direction := requested } := by
  refine ⟨⟨?_, fun hpending => ?_⟩, ?_⟩
  · intro hturning
    simp only [ne_eq] at hturning
    simp [WheelHistory.applied, hturning]
  · rw [hp] at hpending
    cases hpending
  · by_cases hstopped : v.direction = .stopped
    · simp [hstopped]
    · rw [ht.turning hstopped, hr]
      simp

/-- A wheel that waits out its reversal, or whose request is withdrawn. -/
theorem steps_brake {clock : ℕ → ℕ} {n : ℕ} {v next : WheelReversal} {h : WheelHistory}
    (ht : v.Tracked clock n h) (hp : v.pending = true) (requested : Dri0041Direction)
    (hnext : next = v ∨ next = { v with pending := false, direction := .stopped }) :
    Steps clock n v h requested .stopped next := by
  obtain ⟨hreverses, t, s, hbraked, hle, hs, hstarted⟩ := ht.pending hp
  have hturning := (turning_of_reverses hreverses).1
  obtain ⟨hlast, t', hbraked', hfirst⟩ := applied_stopped h (clock n)
  refine ⟨?_, ?_⟩
  · obtain rfl | rfl := hnext
    · refine ⟨fun _ => hlast.trans (ht.turning hturning), fun _ => ⟨hreverses, t', s, hbraked', ?_,
        hs, hstarted⟩⟩
      obtain hold | ⟨hnone, -⟩ := hfirst
      · rw [hbraked] at hold
        rw [← Option.some.inj hold]
        exact hle
      · rw [hbraked] at hnone
        cases hnone
    · exact ⟨fun hne => absurd rfl hne, fun hpending => nomatch hpending⟩
  · rw [not_reverses_stopped]
    simp [hturning]

/-- A wheel with a pending reversal driven on, or at last driven the other way. -/
theorem steps_drive {clock : ℕ → ℕ} {n : ℕ} {v : WheelReversal} {h : WheelHistory}
    (ht : v.Tracked clock n h) (hp : v.pending = true) (requested : Dri0041Direction)
    (hmoving : requested ≠ .stopped) (hrested : requested = v.direction ∨ h.Rested (clock n)) :
    Steps clock n v h requested requested { v with pending := false, direction := requested } := by
  obtain ⟨hreverses, -⟩ := ht.pending hp
  have hturning := (turning_of_reverses hreverses).1
  refine ⟨⟨fun _ => by simp [WheelHistory.applied, hmoving], fun hpending => nomatch hpending⟩, ?_⟩
  rw [ht.turning hturning]
  obtain rfl | hrested := hrested
  · simp [directionReverses]
  · simp [hrested, hturning]

/-- The code's test of the brake interval. -/
theorem Tracked.rested {env : ℕ → PortAnswer} {clock : ℕ → ℕ} {n : ℕ} {v : WheelReversal}
    {h : WheelHistory} (hclock : Clocked env clock) (ht : v.Tracked clock n h)
    (hp : v.pending = true)
    (hlate : UInt32.ofNat (clock n) - v.startedMs ≥ dri0041ReversalBrakeMs) :
    h.Rested (clock n) := by
  obtain ⟨-, t, s, hbraked, hle, hs, hstarted⟩ := ht.pending hp
  have hms := UInt32.le_iff_toNat_le.mp hlate
  rw [hstarted, hclock.elapsed hs] at hms
  have hinterval : dri0041ReversalBrakeMs.toNat = 100 := rfl
  refine ⟨t, hbraked, ?_⟩
  omega

/-- The other way of a pending reversal. -/
theorem eq_reversalDirection {v : WheelReversal} {requested : Dri0041Direction}
    (hreverses : directionReverses v.direction v.reversalDirection = true)
    (hstop : requested ≠ .stopped) (hsame : requested ≠ v.direction) :
    requested = v.reversalDirection := by
  revert hreverses hstop hsame
  cases requested <;> cases v.direction <;> cases v.reversalDirection <;> simp [directionReverses]

/-- A request that the port accepted, with a reversal pending. -/
theorem Tracked.applyPending {env : ℕ → PortAnswer} {clock : ℕ → ℕ} {n : ℕ} {v : WheelReversal}
    {h : WheelHistory} (hclock : Clocked env clock) (ht : v.Tracked clock n h)
    (hp : v.pending = true) (requested : Dri0041Direction) :
    Steps clock n v h requested
      (if (v.prepare requested (UInt32.ofNat (clock n))).1 then .stopped else requested)
      ((v.prepare requested (UInt32.ofNat (clock n))).2.2.commit requested (UInt32.ofNat (clock n))
        (v.prepare requested (UInt32.ofNat (clock n))).2.1) := by
  obtain ⟨hreverses, -⟩ := ht.pending hp
  have hturning := (turning_of_reverses hreverses).1
  by_cases hstop : requested = .stopped
  · have hprepare : v.prepare requested (UInt32.ofNat (clock n)) = (true, false, v) := by
      simp [WheelReversal.prepare, hp, hstop]
    rw [hprepare]
    exact steps_brake ht hp requested (.inr (by simp [commit, hp, hstop]))
  by_cases hsame : requested = v.direction
  · have hprepare : v.prepare requested (UInt32.ofNat (clock n)) =
        (false, false, { v with pending := false }) := by
      simp [WheelReversal.prepare, hp, hsame, hturning]
    rw [hprepare]
    simpa [commit] using steps_drive ht hp requested hstop (.inl hsame)
  have hother := eq_reversalDirection hreverses hstop hsame
  by_cases hearly : UInt32.ofNat (clock n) - v.startedMs < dri0041ReversalBrakeMs
  · have hprepare : v.prepare requested (UInt32.ofNat (clock n)) = (true, false, v) := by
      simp [WheelReversal.prepare, hp, hother ▸ hstop, hother ▸ hsame, hother, hearly]
    have hwait : ¬ UInt32.ofNat (clock n) - v.startedMs ≥ dri0041ReversalBrakeMs := by
      simpa using hearly
    rw [hprepare]
    apply steps_brake ht hp requested
    left
    rw [commit, if_neg (by simp), if_pos hp, if_neg hstop, if_neg hsame,
      if_neg fun hlate => hwait hlate.2]
  · have hprepare : v.prepare requested (UInt32.ofNat (clock n)) = (false, false, v) := by
      simp [WheelReversal.prepare, hp, hother ▸ hstop, hother ▸ hsame, hother, hearly]
    have hlate : UInt32.ofNat (clock n) - v.startedMs ≥ dri0041ReversalBrakeMs := by
      simpa using hearly
    have hcommit : v.commit requested (UInt32.ofNat (clock n)) false =
        { v with pending := false, direction := requested } := by
      rw [commit, if_neg (by simp), if_pos hp, if_neg hstop, if_neg hsame, if_pos ⟨hother, hlate⟩]
    rw [hprepare]
    simpa [hcommit] using steps_drive ht hp requested hstop (.inr (ht.rested hclock hp hlate))

/-- A request that the port accepted. -/
theorem Tracked.apply {env : ℕ → PortAnswer} {clock : ℕ → ℕ} {n : ℕ} {v : WheelReversal}
    {h : WheelHistory} (hclock : Clocked env clock)
    (hbefore : ∀ t, h.brakedAt = some t → t ≤ clock n) (ht : v.Tracked clock n h)
    (requested : Dri0041Direction) :
    Steps clock n v h requested
      (if (v.prepare requested (UInt32.ofNat (clock n))).1 then .stopped else requested)
      ((v.prepare requested (UInt32.ofNat (clock n))).2.2.commit requested (UInt32.ofNat (clock n))
        (v.prepare requested (UInt32.ofNat (clock n))).2.1) := by
  by_cases hp : v.pending = true
  · exact ht.applyPending hclock hp requested
  have hpending : v.pending = false := by simpa using hp
  by_cases hr : directionReverses v.direction requested = true
  · have hprepare : v.prepare requested (UInt32.ofNat (clock n)) = (true, true, v) := by
      simp [WheelReversal.prepare, hpending, hr]
    rw [hprepare]
    exact steps_start hbefore ht requested hr
  · have hprepare : v.prepare requested (UInt32.ofNat (clock n)) = (false, false, v) := by
      simp [WheelReversal.prepare, hpending, hr]
    rw [hprepare]
    simpa [commit, hpending] using steps_direct ht hpending requested (by simpa using hr)

end WheelReversal

/-- What holds between two calls. -/
structure WheelTracked (clock : ℕ → ℕ) (w : Wheel) (b : Board) : Prop where
  initialized : b.motor.initialized = true
  wheel : (b.motor.wheel w).Tracked clock b.log.length (wheelHistory clock w b.log)
  braked : ∀ t, (wheelHistory clock w b.log).brakedAt = some t → t ≤ clock b.log.length

theorem brakedAt_applied {clock : ℕ → ℕ} {h : WheelHistory} {direction : Dri0041Direction} {n : ℕ}
    (hbefore : ∀ t, h.brakedAt = some t → t ≤ clock n) :
    ∀ t, (h.applied direction (clock n)).brakedAt = some t → t ≤ clock n := by
  intro t ht
  rw [WheelHistory.applied] at ht
  split at ht
  · cases hb : h.brakedAt with
    | none =>
      simp only [hb, Option.none_or, Option.some.injEq] at ht
      exact Nat.le_of_eq ht.symm
    | some t' =>
      simp only [hb, Option.some_or, Option.some.injEq] at ht
      rw [← ht]
      exact hbefore t' hb
  · cases ht

/-- A call that writes `control` to the port and `last` to the log. -/
theorem history_port (clock : ℕ → ℕ) (w : Wheel) (b : Board) (control : Dri0041PortControl) (ok : Bool) (last : BoardEvent)
    (hlast : ∀ c a, last ≠ .portApply c a) :
    wheelHistory clock w (b.log ++ [.portApply control ok] ++ [last]) =
        (if ok then (wheelHistory clock w b.log).applied (control.direction w) (clock b.log.length)
          else wheelHistory clock w b.log) ∧
      (ReversalsBraked clock w (b.log ++ [.portApply control ok] ++ [last]) ↔
        ReversalsBraked clock w b.log ∧ (ok = true →
          directionReverses (wheelHistory clock w b.log).lastDriven (control.direction w) = true →
            (wheelHistory clock w b.log).Rested (clock b.log.length))) := by
  have hrest : ∀ earlier, RestedBefore clock w earlier last := by
    intro earlier
    cases last with
    | portApply c a => exact absurd rfl (hlast c a)
    | _ => trivial
  constructor
  · rw [wheelHistory_concat, wheelHistory_concat]
    cases last with
    | portApply c a => exact absurd rfl (hlast c a)
    | _ => cases ok <;> rfl
  · rw [ReversalsBraked, EventLogs.always_concat_iff, EventLogs.always_concat_iff,
      and_iff_left (hrest _)]
    cases ok with
    | true => simp [RestedBefore, ReversalsBraked]
    | false => simp [RestedBefore, ReversalsBraked]

/-- A request the driver does not accept leaves only its own entry in the log. -/
theorem history_rejected (clock : ℕ → ℕ) (w : Wheel) (b : Board) (c : MotorDriverCommand) :
    wheelHistory clock w (b.log ++ [.driverApply c false]) = wheelHistory clock w b.log ∧
      (ReversalsBraked clock w (b.log ++ [.driverApply c false]) ↔ ReversalsBraked clock w b.log) := by
  refine ⟨wheelHistory_concat clock w _ _, ?_⟩
  rw [ReversalsBraked, EventLogs.always_concat_iff]
  exact and_iff_left trivial

section Calls
variable {env : ℕ → PortAnswer} {clock : ℕ → ℕ} {w : Wheel} {b : Board}

/-- A call that writes to the port keeps the wheel tracked if the wheel alone is. -/
theorem WheelTracked.port (hclock : Clocked env clock) (h : WheelTracked clock w b)
    {motor : MotorDriver} (hinit : motor.initialized = true) {control : Dri0041PortControl}
    {ok : Bool} {last : BoardEvent} (hlast : ∀ c a, last ≠ .portApply c a)
    (hwheel : (motor.wheel w).Tracked clock b.log.length
      (if ok then (wheelHistory clock w b.log).applied (control.direction w) (clock b.log.length)
        else wheelHistory clock w b.log)) :
    WheelTracked clock w
      { b with motor := motor, log := b.log ++ [.portApply control ok] ++ [last] } := by
  have hlonger : b.log.length ≤ (b.log ++ [BoardEvent.portApply control ok] ++ [last]).length := by simp
  have hhistory := (history_port clock w b control ok last hlast).1
  refine ⟨hinit, ?_, ?_⟩
  · rw [hhistory]
    exact hwheel.mono hlonger
  · rw [hhistory]
    intro t ht
    refine Nat.le_trans ?_ (hclock.forward _ _ hlonger)
    split at ht
    · exact brakedAt_applied h.braked t ht
    · exact h.braked t ht

/-- A command out of range. -/
theorem motorCall_rejected (hclock : Clocked env clock) (h : WheelTracked clock w b)
    {c : MotorDriverCommand} (hnone : dri0041ControlFromCommand c = none) :
    WheelTracked clock w (b.emit (.driverApply c false)) ∧
      (ReversalsBraked clock w (b.emit (.driverApply c false)).log ↔
        ReversalsBraked clock w b.log ∧ ¬ EarlyRestart env clock w b (.apply c)) := by
  obtain ⟨hhistory, hbraked⟩ := history_rejected clock w b c
  refine ⟨⟨h.initialized, ?_, ?_⟩, ?_⟩
  · rw [Board.emit, hhistory]
    exact h.wheel.mono (by simp)
  · rw [Board.emit, hhistory]
    intro t ht
    exact Nat.le_trans (h.braked t ht) (hclock.forward _ _ (by simp))
  · rw [Board.emit, hbraked]
    simp [EarlyRestart, hnone]

theorem motorCall_apply (hclock : Clocked env clock) (h : WheelTracked clock w b)
    (c : MotorDriverCommand) :
    WheelTracked clock w (motorCall env b (.apply c)) ∧
      (ReversalsBraked clock w (motorCall env b (.apply c)).log ↔
        ReversalsBraked clock w b.log ∧ ¬ EarlyRestart env clock w b (.apply c)) := by
  obtain ⟨hnone, hboard⟩ | ⟨control, motor, hsome, hinit, hboard, hwheel⟩ :=
    motorDriverApply_wheel env c b h.initialized
  · rw [motorCall, hboard]
    exact motorCall_rejected hclock h hnone
  have hrecord : ∀ o a, BoardEvent.driverApply c (env b.log.length).ok ≠ .portApply o a := by simp
  have hbraked := (history_port clock w b control (env b.log.length).ok _ hrecord).2
  have hnext := (hwheel w).1.wheel
  rw [motorCall, hboard]
  by_cases hok : (env b.log.length).ok = true
  · have hsteps := h.wheel.apply hclock h.braked (c.requested w)
    rw [if_pos hok] at hnext
    rw [← hclock.shown, ← (hwheel w).1.direction, ← hnext] at hsteps
    refine ⟨h.port hclock hinit hrecord ?_, ?_⟩
    · rw [if_pos hok]
      exact hsteps.tracked
    · rw [hbraked, EarlyRestart]
      simp only [hsome, hok, and_true, true_implies]
      rw [hsteps.rested]
  · rw [if_neg hok] at hnext
    refine ⟨h.port hclock hinit hrecord ?_, ?_⟩
    · rw [if_neg hok, hnext]
      exact h.wheel.prepare _ _
    · rw [hbraked]
      simp [EarlyRestart, hok]

/-- What `motor_driver_stop` does to a board. -/
theorem motorCall_stop_eq (env : ℕ → PortAnswer) {b : Board} (hi : b.motor.initialized = true) :
    motorCall env b .stop = { b with
      motor := if (env b.log.length).ok then { b.motor with
          leftReversalPending := false
          rightReversalPending := false
          leftDirection := .stopped
          rightDirection := .stopped } else b.motor
      log := b.log ++ [.portApply {} (env b.log.length).ok] ++
        [.driverStop (env b.log.length).ok] } := by
  rw [motorCall, motorDriverStop, motorDriverStopBody]
  cases hok : (env b.log.length).ok <;> simp [hi, motorDriverDri0041PortApply, hok, Board.emit]

theorem motorCall_stop (hclock : Clocked env clock) (h : WheelTracked clock w b) :
    WheelTracked clock w (motorCall env b .stop) ∧
      (ReversalsBraked clock w (motorCall env b .stop).log ↔
        ReversalsBraked clock w b.log ∧ ¬ EarlyRestart env clock w b .stop) := by
  have hboard := motorCall_stop_eq env h.initialized
  have hrecord : ∀ o a, BoardEvent.driverStop (env b.log.length).ok ≠ .portApply o a := by simp
  have hbraked := (history_port clock w b {} (env b.log.length).ok _ hrecord).2
  have hdirection : Dri0041PortControl.direction {} w = .stopped := by cases w <;> rfl
  rw [hboard]
  refine ⟨h.port hclock ?_ hrecord ?_, ?_⟩
  · cases (env b.log.length).ok <;> exact h.initialized
  · cases (env b.log.length).ok with
    | true => exact ⟨fun hturning => absurd (by cases w <;> rfl) hturning,
        fun hp => by cases w <;> cases hp⟩
    | false => exact h.wheel
  · rw [hbraked, hdirection, WheelReversal.not_reverses_stopped]
    simp [EarlyRestart]

theorem motorCall_wheel (hclock : Clocked env clock) (h : WheelTracked clock w b)
    (call : MotorCall) :
    WheelTracked clock w (motorCall env b call) ∧
      (ReversalsBraked clock w (motorCall env b call).log ↔
        ReversalsBraked clock w b.log ∧ ¬ EarlyRestart env clock w b call) := by
  cases call with
  | apply c => exact motorCall_apply hclock h c
  | stop => exact motorCall_stop hclock h

theorem motorCalls_wheel (hclock : Clocked env clock) (h : WheelTracked clock w b)
    (calls : List MotorCall) :
    ReversalsBraked clock w (motorCalls env b calls).log ↔
      ReversalsBraked clock w b.log ∧ ∀ before call after, calls = before ++ call :: after →
        ¬ EarlyRestart env clock w (motorCalls env b before) call := by
  induction calls generalizing b with
  | nil => simp [motorCalls]
  | cons first calls ih =>
    obtain ⟨htracked, hfirst⟩ := motorCall_wheel hclock h first
    have hrest := ih htracked
    rw [hfirst] at hrest
    rw [show motorCalls env b (first :: calls) = motorCalls env (motorCall env b first) calls from rfl,
      hrest]
    constructor
    · rintro ⟨⟨hbraked, hnow⟩, hlater⟩
      refine ⟨hbraked, ?_⟩
      intro before call after hsplit
      cases before with
      | nil =>
        obtain ⟨rfl, -⟩ := List.cons.inj hsplit
        exact hnow
      | cons head before =>
        obtain ⟨rfl, htail⟩ := List.cons.inj hsplit
        exact hlater before call after htail
    · rintro ⟨hbraked, hall⟩
      refine ⟨⟨hbraked, hall [] first calls rfl⟩, ?_⟩
      intro before call after hsplit
      exact hall (first :: before) call after (by rw [hsplit]; rfl)

end Calls

theorem initializedBoard_tracked (clock : ℕ → ℕ) (w : Wheel) :
    WheelTracked clock w initializedBoard := by
  refine ⟨rfl, ⟨fun hturning => absurd ?_ hturning, fun hp => ?_⟩, ?_⟩
  · cases w <;> rfl
  · cases w <;> cases hp
  · intro t ht
    cases ht

/-- The port sees every reversal of a wheel only after the brake interval if and only if no
request turns a wheel that is recorded as stopped back before the interval is over. -/
theorem reversals_braked_iff_no_early_restart (env : ℕ → PortAnswer) (clock : ℕ → ℕ)
    (hclock : Clocked env clock) (w : Wheel) (calls : List MotorCall) :
    ReversalsBraked clock w (motorCalls env initializedBoard calls).log ↔
      ∀ before call after, calls = before ++ call :: after →
        ¬ EarlyRestart env clock w (motorCalls env initializedBoard before) call := by
  rw [motorCalls_wheel hclock (initializedBoard_tracked clock w)]
  exact and_iff_right EventLogs.always_nil

/-- A clock that runs for a second, and a port that never fails. -/
def secondClock (i : ℕ) : ℕ := min i 1000

def secondPort (i : ℕ) : PortAnswer := { nowMs := UInt32.ofNat (secondClock i) }

theorem secondPort_clocked : Clocked secondPort secondClock where
  shown := fun _ => rfl
  forward := by
    intro i j hij
    simp only [secondClock]
    omega
  span := by
    intro i
    simp only [secondClock]
    omega

/-- Full ahead, then full astern. -/
def reverseAtOnce : List MotorCall := [.apply ⟨1000, 1000⟩, .apply ⟨-1000, -1000⟩]

theorem reversals_braked_iff_no_early_restart_at_once :
    Clocked secondPort secondClock ∧
      ReversalsBraked secondClock .left (motorCalls secondPort initializedBoard reverseAtOnce).log := by
  refine ⟨secondPort_clocked, ?_⟩
  refine (reversals_braked_iff_no_early_restart secondPort secondClock secondPort_clocked .left
    reverseAtOnce).mpr ?_
  intro before call after hsplit
  rcases before with _ | ⟨first, _ | ⟨second, before⟩⟩
  · obtain ⟨rfl, -⟩ := List.cons.inj hsplit
    intro hearly
    exact absurd hearly.2.1 (by decide)
  · obtain ⟨rfl, hrest⟩ := List.cons.inj hsplit
    obtain ⟨rfl, -⟩ := List.cons.inj hrest
    intro hearly
    exact absurd hearly.1 (by decide)
  · simp [reverseAtOnce] at hsplit

/-- The same with a stop in between. -/
def reverseAfterStop : List MotorCall := [.apply ⟨1000, 1000⟩, .stop, .apply ⟨-1000, -1000⟩]

/-- After a stop the opposite direction goes to the port two milliseconds later. -/
theorem stop_forgets_the_brake_interval :
    Clocked secondPort secondClock ∧ ¬ ReversalsBraked secondClock .left
      (motorCalls secondPort initializedBoard reverseAfterStop).log := by
  refine ⟨secondPort_clocked, ?_⟩
  intro hbraked
  have hrested := hbraked
    [.portApply { leftDuty := 1000, leftIn1 := true, rightDuty := 1000, rightIn3 := true } true,
      .driverApply ⟨1000, 1000⟩ true, .portApply {} true, .driverStop true]
    (.portApply { leftDuty := 1000, leftIn2 := true, rightDuty := 1000, rightIn4 := true } true)
    [.driverApply ⟨-1000, -1000⟩ true] (by decide)
  obtain ⟨t, -, hle⟩ := hrested (by decide)
  simp only [secondClock, List.length_cons, List.length_nil] at hle
  omega

end IndoorRobot
