import IndoorRobot.WheelReversal

/-!
# The motor driver as two wheel machines

Seen from one wheel, the driver is a machine that reads the wheel's own commands, the
port's clock and the port's answers. The driver is two copies of this machine side by
side, and nothing passes from one to the other. The machine also shows the one thing a
refused write may change: a reversal that the command would have called off is dropped
before the port is asked.
-/
namespace IndoorRobot

open MotorDriver

/-- A call as one wheel sees it. -/
inductive WheelCall where
  | apply (command : Int16)
  | stop
  deriving DecidableEq

def MotorCall.wheel : MotorCall → Wheel → WheelCall
  | .apply c, w => .apply (c.wheel w)
  | .stop, _ => .stop

/-- Every command of the call is in range. -/
def MotorCall.InRange : MotorCall → Prop
  | .apply c => ∀ w, -1000 ≤ c.wheel w ∧ c.wheel w ≤ 1000
  | .stop => True

namespace WheelReversal

/-- One call: what is written to the port for this wheel, and what the wheel is afterwards. -/
def respond (v : WheelReversal) (answer : PortAnswer) : WheelCall → WheelOutput × WheelReversal
  | .apply command =>
    let (braked, startReversal, prepared) :=
      v.prepare (directionFromCommand command) answer.nowMs
    (if braked then .brake else .drive command,
      if answer.ok then
        prepared.commit (directionFromCommand command) answer.nowMs startReversal
      else prepared)
  | .stop => (.brake, if answer.ok then { v with pending := false, direction := .stopped } else v)

/-- The machine of one wheel; a driver that is not initialised leaves the port alone. -/
def machine (initialized : Bool) (v : WheelReversal) (input : WheelCall × PortAnswer) :
    Option WheelOutput × WheelReversal :=
  if initialized then ((v.respond input.2 input.1).1, (v.respond input.2 input.1).2) else (none, v)

/-- The outputs of one wheel over a run, one for every call, and what the wheel is at the end. -/
def machineRun (initialized : Bool) (v : WheelReversal) :
    List (WheelCall × PortAnswer) → List (Option WheelOutput) × WheelReversal
  | [] => ([], v)
  | input :: rest =>
    let (out, next) := v.machine initialized input
    let (outs, last) := machineRun initialized next rest
    (out :: outs, last)

end WheelReversal

/-- The control that a call passed to the port. -/
def passedControl (before after : Board) : Option Dri0041PortControl :=
  match (after.log.drop before.log.length).head? with
  | some (.portApply control _) => some control
  | _ => none

/-- A run of the driver in which every call has an answer of the port of its own: the controls
passed to the port, one for every call, and the board at the end. -/
def driverRun (b : Board) :
    List (MotorCall × PortAnswer) → List (Option Dri0041PortControl) × Board
  | [] => ([], b)
  | (call, answer) :: rest =>
    let next := motorCall (fun _ => answer) b call
    let (controls, last) := driverRun next rest
    (passedControl b next :: controls, last)

theorem accepted_of_inRange {c : MotorDriverCommand}
    (h : ∀ w, -1000 ≤ c.wheel w ∧ c.wheel w ≤ 1000) : (dri0041ControlFromCommand c).isSome := by
  obtain ⟨hleft, hleft'⟩ := h .left
  obtain ⟨hright, hright'⟩ := h .right
  simp only [MotorDriverCommand.wheel] at hleft hleft' hright hright'
  rw [dri0041ControlFromCommand, if_neg]
  · rfl
  · simp only [gt_iff_lt, not_or, Int16.not_lt]
    exact ⟨hleft', hleft, hright', hright⟩

theorem passedControl_port (b : Board) (motor : MotorDriver) (control : Dri0041PortControl)
    (ok : Bool) (last : BoardEvent) :
    passedControl b { b with motor := motor, log := b.log ++ [.portApply control ok] ++ [last] } =
      some control := by
  simp [passedControl]

/-- What one call does, wheel by wheel. -/
theorem motorCall_machine (b : Board) (answer : PortAnswer) (call : MotorCall)
    (hrange : call.InRange) (w : Wheel) :
    let next := motorCall (fun _ => answer) b call
    (passedControl b next).map (·.output w) =
        ((b.motor.wheel w).machine b.motor.initialized (call.wheel w, answer)).1 ∧
      next.motor.wheel w =
        ((b.motor.wheel w).machine b.motor.initialized (call.wheel w, answer)).2 ∧
      next.motor.initialized = b.motor.initialized := by
  intro next
  cases hi : b.motor.initialized with
  | false =>
    have hnext : next.motor = b.motor ∧ passedControl b next = none := by
      cases call with
      | apply c =>
        simp [next, motorCall, motorDriverApply, motorDriverApplyBody, hi, Board.emit, passedControl]
      | stop =>
        simp [next, motorCall, motorDriverStop, motorDriverStopBody, hi, Board.emit, passedControl]
    rw [hnext.1, hnext.2]
    exact ⟨rfl, rfl, hi⟩
  | true =>
    cases call with
    | apply c =>
      obtain ⟨hnone, -⟩ | ⟨control, motor, -, hinit, hboard, hwheel⟩ :=
        motorDriverApply_wheel (fun _ => answer) c b hi
      · have haccepted := accepted_of_inRange hrange
        simp [hnone] at haccepted
      · obtain ⟨happlied, hout⟩ := hwheel w
        have hkept := happlied.wheel
        rw [requested_eq] at hout hkept
        rw [show next = _ from hboard, passedControl_port]
        exact ⟨congrArg some hout, hkept, hinit⟩
    | stop =>
      rw [show next = _ from motorCall_stop_eq (fun _ => answer) hi, passedControl_port]
      refine ⟨?_, ?_, ?_⟩
      · cases w <;> rfl
      · simp only [WheelReversal.machine, WheelReversal.respond, MotorCall.wheel, if_true]
        cases answer.ok <;> cases w <;> rfl
      · cases answer.ok <;> exact hi

/-- The driver is two wheel machines side by side. -/
theorem driverRun_machine (b : Board) (calls : List (MotorCall × PortAnswer))
    (hrange : ∀ x ∈ calls, x.1.InRange) (w : Wheel) :
    (driverRun b calls).1.map (Option.map (·.output w)) =
        ((b.motor.wheel w).machineRun b.motor.initialized
          (calls.map fun x => (x.1.wheel w, x.2))).1 ∧
      (driverRun b calls).2.motor.wheel w =
        ((b.motor.wheel w).machineRun b.motor.initialized
          (calls.map fun x => (x.1.wheel w, x.2))).2 := by
  induction calls generalizing b with
  | nil => exact ⟨rfl, rfl⟩
  | cons first rest ih =>
    obtain ⟨call, answer⟩ := first
    obtain ⟨hout, hwheel, hinit⟩ := motorCall_machine b answer call
      (hrange (call, answer) List.mem_cons_self) w
    obtain ⟨houts, hlast⟩ := ih (motorCall (fun _ => answer) b call)
      fun x hx => hrange x (List.mem_cons_of_mem _ hx)
    rw [hwheel, hinit] at houts hlast
    simp only [driverRun, List.map_cons, WheelReversal.machineRun]
    exact ⟨by rw [hout, houts], hlast⟩

/-! ### Exchanging the wheels -/

def Wheel.other : Wheel → Wheel
  | .left => .right
  | .right => .left

/-- The same call with the commands of the two wheels exchanged. -/
def MotorCall.swap : MotorCall → MotorCall
  | .apply c => .apply ⟨c.right, c.left⟩
  | .stop => .stop

theorem swap_wheel (call : MotorCall) (w : Wheel) : call.swap.wheel w = call.wheel w.other := by
  cases call <;> cases w <;> rfl

theorem swap_inRange {call : MotorCall} (h : call.InRange) : call.swap.InRange := by
  cases call with
  | apply c =>
    intro w
    cases w with
    | left => exact h .right
    | right => exact h .left
  | stop => trivial

/-- Exchanged commands find the exchanged machine. -/
theorem driverRun_swap {b b' : Board} (calls : List (MotorCall × PortAnswer))
    (hrange : ∀ x ∈ calls, x.1.InRange)
    (hwheel : ∀ w, b'.motor.wheel w = b.motor.wheel w.other)
    (hinit : b'.motor.initialized = b.motor.initialized) (w : Wheel) :
    (driverRun b' (calls.map fun x => (x.1.swap, x.2))).1.map (Option.map (·.output w)) =
        (driverRun b calls).1.map (Option.map (·.output w.other)) ∧
      (driverRun b' (calls.map fun x => (x.1.swap, x.2))).2.motor.wheel w =
        (driverRun b calls).2.motor.wheel w.other := by
  have hswapped : ∀ x ∈ calls.map fun x => (x.1.swap, x.2), x.1.InRange := by
    intro x hx
    obtain ⟨y, hy, rfl⟩ := List.mem_map.mp hx
    exact swap_inRange (hrange y hy)
  have hinputs : (calls.map fun x => (x.1.swap, x.2)).map (fun x => (x.1.wheel w, x.2)) =
      calls.map fun x => (x.1.wheel w.other, x.2) := by
    rw [List.map_map]
    apply List.map_congr_left
    intro x _
    simp [swap_wheel]
  obtain ⟨houts, hlast⟩ := driverRun_machine b calls hrange w.other
  obtain ⟨houts', hlast'⟩ := driverRun_machine b' _ hswapped w
  rw [hinputs, hwheel, hinit] at houts' hlast'
  exact ⟨houts'.trans houts.symm, hlast'.trans hlast.symm⟩

/-! ### What is passed to the port -/

/-- The output has the magnitude of the command, and only the pin of its direction is set. -/
structure WheelOutput.CarriesOut (out : WheelOutput) (command : Int16) : Prop where
  magnitude : out.duty.toNat = command.toInt.natAbs
  limit : out.duty.toNat ≤ 1000
  forward : out.forward = true ↔ 0 < command
  reverse : out.reverse = true ↔ command < 0

theorem toNat_toUInt16 {v : Int16} (h : 0 ≤ v.toInt) : (v.toUInt16.toNat : ℤ) = v.toInt := by
  have hle : 0 ≤ v := by rwa [Int16.le_iff_toInt_le]
  rw [Int16.toNat_toUInt16_of_le hle, Int16.cast_toNatClampNeg v hle]

theorem drive_carriesOut {v : Int16} (h : -1000 ≤ v) (h' : v ≤ 1000) :
    (WheelOutput.drive v).CarriesOut v := by
  have hlow : -1000 ≤ v.toInt := Int16.le_iff_toInt_le.mp h
  have hhigh : v.toInt ≤ 1000 := Int16.le_iff_toInt_le.mp h'
  have hzero : (0 : Int16).toInt = 0 := rfl
  by_cases hpos : v > 0
  · have hsign := Int16.lt_iff_toInt_lt.mp hpos
    have hduty := toNat_toUInt16 (v := v) (by omega)
    have hneg : ¬ v < 0 := Int16.not_lt.mpr (Int16.le_of_lt hpos)
    rw [WheelOutput.drive_forward hpos]
    refine ⟨?_, ?_, by simp [hpos], by simp [hneg]⟩
    · show v.toUInt16.toNat = v.toInt.natAbs
      omega
    · show v.toUInt16.toNat ≤ 1000
      omega
  · by_cases hneg : v < 0
    · have hsign := Int16.lt_iff_toInt_lt.mp hneg
      have hopposite : (-v).toInt = -v.toInt := by
        rw [Int16.toInt_neg, Int.bmod_eq_of_le (by omega) (by omega)]
      have hduty := toNat_toUInt16 (v := -v) (by omega)
      rw [WheelOutput.drive_reverse hneg]
      refine ⟨?_, ?_, by simp [hpos], by simp [hneg]⟩
      · show (-v).toUInt16.toNat = v.toInt.natAbs
        omega
      · show (-v).toUInt16.toNat ≤ 1000
        omega
    · have hstill : v.toInt = 0 := by
        have h1 := Int16.le_iff_toInt_le.mp (Int16.not_lt.mp hpos)
        have h2 := Int16.le_iff_toInt_le.mp (Int16.not_lt.mp hneg)
        omega
      rw [WheelOutput.drive_stopped hpos hneg]
      exact ⟨by simp [WheelOutput.brake, hstill], by simp [WheelOutput.brake],
        by simp [WheelOutput.brake, hpos], by simp [WheelOutput.brake, hneg]⟩

/-- A control brakes a wheel or carries out the command of its call. -/
def AsCommanded (call : MotorCall) (control : Dri0041PortControl) : Prop :=
  ∀ w, control.output w = .brake ∨
    ∃ command, call.wheel w = .apply command ∧ (control.output w).CarriesOut command

theorem motorCall_asCommanded (b : Board) (answer : PortAnswer) {call : MotorCall}
    (hrange : call.InRange) {control : Dri0041PortControl}
    (h : passedControl b (motorCall (fun _ => answer) b call) = some control) :
    AsCommanded call control := by
  intro w
  obtain ⟨hout, -⟩ := motorCall_machine b answer call hrange w
  rw [h, WheelReversal.machine] at hout
  cases hi : b.motor.initialized with
  | false => simp [hi] at hout
  | true =>
    rw [hi, if_pos rfl] at hout
    have hsame : control.output w = ((b.motor.wheel w).respond answer (call.wheel w)).1 :=
      Option.some.inj hout
    cases call with
    | stop => exact .inl hsame
    | apply c =>
      rw [hsame]
      simp only [MotorCall.wheel, WheelReversal.respond]
      split_ifs
      · exact .inl rfl
      · exact .inr ⟨c.wheel w, rfl, drive_carriesOut (hrange w).1 (hrange w).2⟩

theorem driverRun_asCommanded (b : Board) (calls : List (MotorCall × PortAnswer))
    (hrange : ∀ x ∈ calls, x.1.InRange) :
    List.Forall₂ (fun x passed => ∀ control ∈ passed, AsCommanded x.1 control) calls
      (driverRun b calls).1 := by
  induction calls generalizing b with
  | nil => exact .nil
  | cons first rest ih =>
    obtain ⟨call, answer⟩ := first
    refine .cons ?_ (ih _ fun x hx => hrange x (List.mem_cons_of_mem _ hx))
    intro control hcontrol
    exact motorCall_asCommanded b answer (hrange (call, answer) List.mem_cons_self) hcontrol

/-- The two wheels are copies of one machine that never hear of each other, exchanging their
commands exchanges them, and each is only ever braked or driven as commanded. -/
theorem wheels_are_independent_machines (b : Board) (calls : List (MotorCall × PortAnswer))
    (hrange : ∀ x ∈ calls, x.1.InRange) :
    (∀ w, (driverRun b calls).1.map (Option.map (·.output w)) =
          ((b.motor.wheel w).machineRun b.motor.initialized
            (calls.map fun x => (x.1.wheel w, x.2))).1 ∧
        (driverRun b calls).2.motor.wheel w =
          ((b.motor.wheel w).machineRun b.motor.initialized
            (calls.map fun x => (x.1.wheel w, x.2))).2) ∧
      (∀ b' : Board, (∀ w, b'.motor.wheel w = b.motor.wheel w.other) →
        b'.motor.initialized = b.motor.initialized → ∀ w,
          (driverRun b' (calls.map fun x => (x.1.swap, x.2))).1.map (Option.map (·.output w)) =
              (driverRun b calls).1.map (Option.map (·.output w.other)) ∧
            (driverRun b' (calls.map fun x => (x.1.swap, x.2))).2.motor.wheel w =
              (driverRun b calls).2.motor.wheel w.other) ∧
      List.Forall₂ (fun x passed => ∀ control ∈ passed, AsCommanded x.1 control) calls
        (driverRun b calls).1 :=
  ⟨driverRun_machine b calls hrange,
    fun _ hwheel hinit => driverRun_swap calls hrange hwheel hinit,
    driverRun_asCommanded b calls hrange⟩

/-- The left wheel reversed while the right one drives on. -/
def turnOnTheSpot : List (MotorCall × PortAnswer) :=
  [(.apply ⟨400, 300⟩, {}), (.apply ⟨-400, 300⟩, { nowMs := 20 }),
    (.apply ⟨-400, 300⟩, { nowMs := 120 })]

theorem wheels_are_independent_machines_turn :
    (∀ x ∈ turnOnTheSpot, x.1.InRange) ∧
      (driverRun initializedBoard turnOnTheSpot).1.map (Option.map (·.output .left)) =
        [some (.drive 400), some .brake, some (.drive (-400))] := by
  have hrange : ∀ x ∈ turnOnTheSpot, x.1.InRange := by
    intro x hx
    simp only [turnOnTheSpot, List.mem_cons, List.not_mem_nil, or_false] at hx
    rcases hx with rfl | rfl | rfl
    · exact fun w => by cases w <;> decide
    · exact fun w => by cases w <;> decide
    · exact fun w => by cases w <;> decide
  exact ⟨hrange, ((wheels_are_independent_machines initializedBoard turnOnTheSpot hrange).1
    .left).1.trans (by decide)⟩

/-! ### Refused calls -/

/-- What a call returns. -/
def motorAnswer (env : ℕ → PortAnswer) (b : Board) : MotorCall → Bool
  | .apply c => (motorDriverApply env c b).1
  | .stop => (motorDriverStop env b).1

/-- A call that returns `false` leaves the driver as it was. -/
def KeepsOnFailure (env : ℕ → PortAnswer) (b : Board) (call : MotorCall) : Prop :=
  motorAnswer env b call = false → (motorCall env b call).motor = b.motor

/-- The port refuses a command that calls off the pending reversal of a wheel. -/
def DropsReversal (env : ℕ → PortAnswer) (b : Board) : MotorCall → Prop
  | .stop => False
  | .apply c => b.motor.initialized = true ∧ (dri0041ControlFromCommand c).isSome ∧
      (env b.log.length).ok = false ∧
      ∃ w, (b.motor.wheel w).pending = true ∧ c.requested w ≠ .stopped ∧
        c.requested w = (b.motor.wheel w).direction

theorem MotorDriver.eq_of_wheels {m m' : MotorDriver} (hinit : m.initialized = m'.initialized)
    (hwheel : ∀ w, m.wheel w = m'.wheel w) : m = m' := by
  have hleft := hwheel .left
  have hright := hwheel .right
  cases m
  cases m'
  simp_all [wheel]

/-- Before the port is asked, a wheel can only lose a reversal that is called off. -/
theorem WheelReversal.prepare_keeps_iff (v : WheelReversal) (requested : Dri0041Direction)
    (nowMs : UInt32) :
    (v.prepare requested nowMs).2.2 = v ↔
      ¬ (v.pending = true ∧ requested ≠ .stopped ∧ requested = v.direction) := by
  by_cases hp : v.pending = true
  · by_cases hstop : requested = .stopped
    · simp [prepare, hp, hstop]
    · by_cases hsame : requested = v.direction
      · have hdropped : (v.prepare requested nowMs).2.2 = { v with pending := false } := by
          rw [prepare, if_pos hp, if_neg hstop, if_pos hsame]
        rw [hdropped]
        constructor
        · intro hkept
          have hpending := congrArg WheelReversal.pending hkept
          rw [hp] at hpending
          cases hpending
        · intro hno
          exact absurd ⟨hp, hstop, hsame⟩ hno
      · rw [prepare, if_pos hp, if_neg hstop, if_neg hsame]
        simp only [hsame, and_false, not_false_eq_true, iff_true]
        split_ifs <;> rfl
  · rw [prepare, if_neg hp]
    simp only [hp, Bool.false_eq_true, false_and, not_false_eq_true, iff_true]
    split_ifs <;> rfl

/-- The entry a call leaves at the end of the log tells what it returned. -/
theorem motorDriverApply_last (env : ℕ → PortAnswer) (c : MotorDriverCommand) (b : Board) :
    (motorDriverApply env c b).2.log.getLast? =
      some (.driverApply c (motorDriverApply env c b).1) := by
  simp [motorDriverApply, Board.emit]

theorem keepsOnFailure_stop (env : ℕ → PortAnswer) (b : Board) : KeepsOnFailure env b .stop := by
  rw [KeepsOnFailure, motorAnswer, motorCall, motorDriverStop, motorDriverStopBody]
  by_cases hi : b.motor.initialized = true
  · cases hok : (env b.log.length).ok <;>
      simp [hi, motorDriverDri0041PortApply, hok, Board.emit]
  · simp [hi, Board.emit]

/-- A call keeps the driver on failure exactly if it does not drop a reversal. -/
theorem keepsOnFailure_iff (env : ℕ → PortAnswer) (b : Board) (call : MotorCall) :
    KeepsOnFailure env b call ↔ ¬ DropsReversal env b call := by
  cases call with
  | stop => simp [keepsOnFailure_stop, DropsReversal]
  | apply c =>
    by_cases hi : b.motor.initialized = true
    · have hlast := motorDriverApply_last env c b
      obtain ⟨hnone, hboard⟩ | ⟨control, motor, hsome, hinit, hboard, hwheel⟩ :=
        motorDriverApply_wheel env c b hi
      · simp [KeepsOnFailure, motorCall, hboard, Board.emit, DropsReversal, hnone]
      rw [hboard] at hlast
      have hanswer : motorAnswer env b (.apply c) = (env b.log.length).ok := by
        simpa [motorAnswer, eq_comm] using hlast
      rw [KeepsOnFailure, hanswer, motorCall, hboard, DropsReversal]
      cases hok : (env b.log.length).ok with
      | true => simp
      | false =>
        have hkept : ∀ w, motor.wheel w = b.motor.wheel w ↔ ¬ ((b.motor.wheel w).pending = true ∧
            c.requested w ≠ .stopped ∧ c.requested w = (b.motor.wheel w).direction) := by
          intro w
          rw [(hwheel w).1.wheel, if_neg (by simp [hok]), WheelReversal.prepare_keeps_iff]
        simp only [hi, hsome, true_implies, true_and, not_exists]
        constructor
        · intro hsame w
          exact (hkept w).mp (by rw [hsame])
        · intro hnone
          exact MotorDriver.eq_of_wheels (hinit.trans hi.symm) fun w => (hkept w).mpr (hnone w)
    · simp [KeepsOnFailure, motorCall, motorDriverApply, motorDriverApplyBody, hi, Board.emit,
        DropsReversal]

/-- Over every run from `motor_driver_init` on: all failed calls leave the driver as it was if and
only if none of them drops a reversal. -/
theorem failed_calls_change_nothing_iff (env : ℕ → PortAnswer) (b : Board) (portInit : Bool)
    (calls : List MotorCall) :
    let start := { b with motor := (MotorDriver.init portInit).2 }
    (∀ before call after, calls = before ++ call :: after →
        KeepsOnFailure env (motorCalls env start before) call) ↔
      ∀ before call after, calls = before ++ call :: after →
        ¬ DropsReversal env (motorCalls env start before) call := by
  intro start
  constructor
  · intro hkeeps before call after hsplit
    exact (keepsOnFailure_iff env _ call).mp (hkeeps before call after hsplit)
  · intro hdrops before call after hsplit
    exact (keepsOnFailure_iff env _ call).mpr (hdrops before call after hsplit)

/-- A port that refuses its third write. -/
def thirdWriteFails (i : ℕ) : PortAnswer := { ok := decide (i ≠ 4) }

/-- A reversal is under way, the wheel is asked to go on as before, and the port refuses. -/
theorem refused_command_drops_the_reversal :
    let b := motorCalls thirdWriteFails initializedBoard [.apply ⟨400, 0⟩, .apply ⟨-400, 0⟩]
    motorAnswer thirdWriteFails b (.apply ⟨400, 0⟩) = false ∧ b.motor.leftReversalPending = true ∧
      (motorCall thirdWriteFails b (.apply ⟨400, 0⟩)).motor.leftReversalPending = false ∧
      ¬ KeepsOnFailure thirdWriteFails b (.apply ⟨400, 0⟩) := by
  intro b
  have hanswer : motorAnswer thirdWriteFails b (.apply ⟨400, 0⟩) = false := by decide
  have hbefore : b.motor.leftReversalPending = true := by decide
  have hafter : (motorCall thirdWriteFails b (.apply ⟨400, 0⟩)).motor.leftReversalPending =
      false := by decide
  refine ⟨hanswer, hbefore, hafter, ?_⟩
  intro hkeeps
  rw [hkeeps hanswer, hbefore] at hafter
  cases hafter

end IndoorRobot
