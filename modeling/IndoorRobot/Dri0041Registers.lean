import IndoorRobot.PreloadRegisters
import IndoorRobot.WheelMachines

/-!
# The registers behind the motor driver

`motor_driver_dri0041_port_stm32.c` with every access to a pin or to TIM8 as a step of
its own. The timer takes over the compare values at its update events, which come at any
time, also between two accesses of one call; the pins change at once. The driver brakes
a wheel between the two directions, and so the two direction pins of a wheel are never
both set, not even between the writes of one call.
-/
namespace IndoorRobot

open MotorDriver PreloadRegisters

inductive TimChannel where
  | channel1 | channel2 | channel3 | channel4
  deriving DecidableEq

/-- `compare_from_duty`; the period of TIM8 is that of `MX_TIM8_Init`. -/
def compareFromDuty (duty : UInt16) : UInt32 := duty.toUInt32 * (17999 + 1) / 1000

theorem compareFromDuty_toNat {duty : UInt16} (h : duty.toNat ≤ 1000) :
    (compareFromDuty duty).toNat = 18 * duty.toNat := by
  have hperiod : (17999 + 1 : UInt32).toNat = 18000 := rfl
  have hthousand : (1000 : UInt32).toNat = 1000 := rfl
  rw [compareFromDuty, UInt32.toNat_div, UInt32.toNat_mul, hperiod, hthousand,
    UInt16.toNat_toUInt32, Nat.mod_eq_of_lt (by omega)]
  omega

theorem compareFromDuty_le {duty : UInt16} (h : duty.toNat ≤ 1000) :
    (compareFromDuty duty).toNat ≤ 18000 := by
  rw [compareFromDuty_toNat h]
  exact Nat.mul_le_mul_left 18 h

theorem compareFromDuty_zero : compareFromDuty 0 = 0 := by
  decide

inductive DirectionPin where
  | leftIn1 | leftIn2 | rightIn3 | rightIn4
  deriving DecidableEq

/-- An access to the hardware or to the static variable of the port. `HAL_TIM_PWM_Start` may
fail. -/
inductive Dri0041Write where
  | initialized (value : Bool)
  | pin (pin : DirectionPin) (level : Bool)
  | compare (channel : TimChannel) (value : UInt32)
  | pwmStart (channel : TimChannel) (ok : Bool)
  | pwmStop (channel : TimChannel)

structure Dri0041Registers where
  portInitialized : Bool := false
  pins : DirectionPin → Bool := fun _ => false
  timer : Registers TimChannel UInt32 := { written := fun _ => 0, inForce := fun _ => 0 }
  running : TimChannel → Bool := fun _ => false

namespace Dri0041Registers

def execute (r : Dri0041Registers) : Dri0041Write → Dri0041Registers
  | .initialized value => { r with portInitialized := value }
  | .pin pin level => { r with pins := Function.update r.pins pin level }
  | .compare channel value => { r with timer := r.timer.access (.write channel value) }
  | .pwmStart channel ok =>
    { r with running := if ok then Function.update r.running channel true else r.running }
  | .pwmStop channel => { r with running := Function.update r.running channel false }

def executes (r : Dri0041Registers) (writes : List Dri0041Write) : Dri0041Registers :=
  writes.foldl execute r

/-- The update event of the timer. -/
def update (r : Dri0041Registers) : Dri0041Registers := { r with timer := r.timer.update }

end Dri0041Registers

/-- `set_direction_pins`. -/
def setDirectionPins (control : Dri0041PortControl) : List Dri0041Write :=
  [.pin .leftIn1 control.leftIn1, .pin .leftIn2 control.leftIn2, .pin .rightIn3 control.rightIn3,
    .pin .rightIn4 control.rightIn4]

/-- `motor_driver_dri0041_port_init`: its answer and its writes. The handle is that of TIM8 or
not, and the channels start or not. -/
def motorDriverDri0041PortInit (tim8 start4 start3 : Bool) : Bool × List Dri0041Write :=
  let writes := .initialized false :: setDirectionPins {}
  if ¬ tim8 then (false, writes)
  else
    let writes := writes ++
      [.compare .channel4 0, .compare .channel3 0, .pwmStart .channel4 start4]
    if ¬ start4 then (false, writes)
    else
      let writes := writes ++ [.pwmStart .channel3 start3]
      if ¬ start3 then (false, writes ++ [.pwmStop .channel4])
      else (true, writes ++ [.initialized true])

/-- `motor_driver_dri0041_port_apply` on the hardware: its answer and its writes. -/
def dri0041PortWrites (tim8 : Bool) (r : Dri0041Registers) (control : Dri0041PortControl) :
    Bool × List Dri0041Write :=
  if ¬ r.portInitialized ∨ ¬ tim8 then (false, [])
  else if control.leftDuty > 1000 ∨ control.rightDuty > 1000 then (false, [])
  else
    (true, setDirectionPins control ++
      [.compare .channel4 (compareFromDuty control.leftDuty),
        .compare .channel3 (compareFromDuty control.rightDuty)])

/-- The driver, the registers, the writes of the call under way and the control that was accepted
last. -/
structure Dri0041System where
  board : Board := {}
  registers : Dri0041Registers := {}
  todo : List Dri0041Write := []
  shown : Dri0041PortControl := {}

namespace Dri0041System

/-- A call of the driver: what it passes to the port is written, if the port accepts it. -/
def call (tim8 : Bool) (s : Dri0041System) (call : MotorCall) (answer : PortAnswer) : Dri0041System :=
  let next := motorCall (fun _ => answer) s.board call
  match passedControl s.board next with
  | none => { s with board := next }
  | some control =>
    { s with
      board := next
      todo := (dri0041PortWrites tim8 s.registers control).2
      shown := if answer.ok then control else s.shown }

/-- The port gives the answer that the call was computed with. -/
def Answers (tim8 : Bool) (s : Dri0041System) (call : MotorCall) (answer : PortAnswer) : Prop :=
  ∀ control ∈ passedControl s.board (motorCall (fun _ => answer) s.board call),
    answer.ok = (dri0041PortWrites tim8 s.registers control).1

/-- `motor_driver_init`. -/
def init (tim8 : Bool) (s : Dri0041System) (start4 start3 : Bool) : Dri0041System :=
  let (ok, writes) := motorDriverDri0041PortInit tim8 start4 start3
  { s with
    board := { s.board with motor := (MotorDriver.init ok).2 }
    todo := writes
    shown := {} }

/-- The main loop calls the driver once the writes of the previous call are done; the timer updates
whenever its period is over. -/
inductive Reaches (tim8 : Bool) : Dri0041System → Prop where
  | start : Reaches tim8 {}
  | init {s : Dri0041System} (h : Reaches tim8 s) (hidle : s.todo = []) (start4 start3 : Bool) :
      Reaches tim8 (s.init tim8 start4 start3)
  | call {s : Dri0041System} (h : Reaches tim8 s) (hidle : s.todo = []) (call : MotorCall)
      (answer : PortAnswer) (hanswer : s.Answers tim8 call answer) :
      Reaches tim8 (s.call tim8 call answer)
  | write {s : Dri0041System} (h : Reaches tim8 s) {write : Dri0041Write}
      {rest : List Dri0041Write} (htodo : s.todo = write :: rest) :
      Reaches tim8 { s with registers := s.registers.execute write, todo := rest }
  | update {s : Dri0041System} (h : Reaches tim8 s) :
      Reaches tim8 { s with registers := s.registers.update }

end Dri0041System

/-! ### What the driver knows of its last output -/

namespace WheelReversal

/-- A wheel whose pins show a direction is recorded as turning that way, with no reversal
pending. -/
structure Shows (v : WheelReversal) (out : WheelOutput) : Prop where
  forward : out.forward = true → v.direction = .forward ∧ v.pending = false
  reverse : out.reverse = true → v.direction = .reverse ∧ v.pending = false
  pending : v.pending = true → directionReverses v.direction v.reversalDirection = true
  duty : out.duty.toNat ≤ 1000

/-- Everything an accepted command can do to a wheel. -/
theorem respond_accepted {v : WheelReversal}
    (hpending : v.pending = true → directionReverses v.direction v.reversalDirection = true)
    {answer : PortAnswer} (hok : answer.ok = true) (command : Int16) :
    let out := (v.respond answer (.apply command)).1
    let next := (v.respond answer (.apply command)).2
    (out = .brake ∧
        (next.pending = true → directionReverses next.direction next.reversalDirection = true)) ∨
      (out = .drive command ∧ next.pending = false ∧
        next.direction = directionFromCommand command ∧
        (v.pending = true ∨ directionReverses v.direction (directionFromCommand command) = false)) := by
  intro out next
  generalize hrequested : directionFromCommand command = requested
  have hrespond : ∀ braked start w, v.prepare requested answer.nowMs = (braked, start, w) →
      out = (if braked then .brake else .drive command) ∧
        next = w.commit requested answer.nowMs start := by
    intro braked start w hprepare
    simp [out, next, respond, hok, hrequested, hprepare]
  by_cases hp : v.pending = true
  · by_cases hstop : requested = .stopped
    · have hprepare : v.prepare requested answer.nowMs = (true, false, v) := by
        simp [prepare, hp, hstop]
      obtain ⟨hout, hnext⟩ := hrespond _ _ _ hprepare
      exact .inl ⟨hout, by simp [hnext, commit, hp, hstop]⟩
    · by_cases hsame : requested = v.direction
      · have hprepare : v.prepare requested answer.nowMs = (false, false, { v with pending := false }) := by
          rw [prepare, if_pos hp, if_neg hstop, if_pos hsame]
        obtain ⟨hout, hnext⟩ := hrespond _ _ _ hprepare
        exact .inr ⟨hout, by simp [hnext, commit], by simp [hnext, commit], .inl hp⟩
      · have hother := eq_reversalDirection (hpending hp) hstop hsame
        by_cases hearly : answer.nowMs - v.startedMs < dri0041ReversalBrakeMs
        · have hprepare : v.prepare requested answer.nowMs = (true, false, v) := by
            rw [prepare, if_pos hp, if_neg hstop, if_neg hsame, if_pos hother, if_pos hearly]
          have hlate : ¬ answer.nowMs - v.startedMs ≥ dri0041ReversalBrakeMs :=
            UInt32.not_le.mpr hearly
          obtain ⟨hout, hnext⟩ := hrespond _ _ _ hprepare
          have hkept : next = v := by
            rw [hnext, commit, if_neg (by simp), if_pos hp, if_neg hstop, if_neg hsame,
              if_neg fun h => hlate h.2]
          exact .inl ⟨hout, by rw [hkept]; exact hpending⟩
        · have hprepare : v.prepare requested answer.nowMs = (false, false, v) := by
            rw [prepare, if_pos hp, if_neg hstop, if_neg hsame, if_pos hother, if_neg hearly]
          obtain ⟨hout, hnext⟩ := hrespond _ _ _ hprepare
          have hturned : next = { v with pending := false, direction := requested } := by
            rw [hnext, commit, if_neg (by simp), if_pos hp, if_neg hstop, if_neg hsame,
              if_pos ⟨hother, UInt32.not_lt.mp hearly⟩]
          exact .inr ⟨hout, by rw [hturned], by rw [hturned], .inl hp⟩
  · by_cases hr : directionReverses v.direction requested = true
    · have hprepare : v.prepare requested answer.nowMs = (true, true, v) := by
        rw [prepare, if_neg hp, if_pos hr]
      obtain ⟨hout, hnext⟩ := hrespond _ _ _ hprepare
      exact .inl ⟨hout, by simp [hnext, commit, hr]⟩
    · have hprepare : v.prepare requested answer.nowMs = (false, false, v) := by
        rw [prepare, if_neg hp, if_neg hr]
      obtain ⟨hout, hnext⟩ := hrespond _ _ _ hprepare
      have hdirect : next = { v with direction := requested } := by
        rw [hnext, commit, if_neg (by simp), if_neg hp]
      exact .inr ⟨hout, by rw [hdirect]; simpa using hp, by rw [hdirect],
        .inr (by simpa using hr)⟩

theorem shows_brake {v : WheelReversal}
    (h : v.pending = true → directionReverses v.direction v.reversalDirection = true) :
    v.Shows .brake :=
  ⟨fun hset => absurd hset Bool.false_ne_true, fun hset => absurd hset Bool.false_ne_true, h,
    Nat.zero_le _⟩

/-- An accepted call: its output is shown, and the pins do not cross the old ones. -/
theorem Shows.respond {v : WheelReversal} {out : WheelOutput} (h : v.Shows out)
    {answer : PortAnswer} (hok : answer.ok = true) (c : WheelCall)
    (hrange : ∀ command, c = .apply command → -1000 ≤ command ∧ command ≤ 1000) :
    (v.respond answer c).2.Shows (v.respond answer c).1 ∧
      ((v.respond answer c).1.forward = true → out.reverse = false) ∧
      ((v.respond answer c).1.forward = true → (v.respond answer c).1.reverse = false) := by
  cases c with
  | stop => exact ⟨shows_brake (by simp [WheelReversal.respond, hok]),
      fun hset => absurd hset Bool.false_ne_true, fun hset => absurd hset Bool.false_ne_true⟩
  | apply command =>
    obtain ⟨hlow, hhigh⟩ := hrange command rfl
    have hcarries := drive_carriesOut hlow hhigh
    obtain ⟨hbrake, hpending⟩ | ⟨hdrive, hdone, hdirection, hsafe⟩ :=
      respond_accepted h.pending hok command
    · rw [hbrake]
      exact ⟨shows_brake hpending, fun hset => absurd hset Bool.false_ne_true,
        fun hset => absurd hset Bool.false_ne_true⟩
    · have hforward : (WheelOutput.drive command).forward = true →
          directionFromCommand command = .forward := by
        intro hf
        rw [directionFromCommand, if_pos (hcarries.forward.mp hf)]
      have hreverse : (WheelOutput.drive command).reverse = true →
          directionFromCommand command = .reverse := by
        intro hr
        have hneg := hcarries.reverse.mp hr
        rw [directionFromCommand, if_neg (Int16.not_lt.mpr (Int16.le_of_lt hneg)), if_pos hneg]
      rw [hdrive]
      refine ⟨⟨fun hf => ⟨hdirection.trans (hforward hf), hdone⟩,
        fun hr => ⟨hdirection.trans (hreverse hr), hdone⟩, ?_, hcarries.limit⟩, ?_, ?_⟩
      · intro hp
        rw [hdone] at hp
        cases hp
      · intro hf
        cases hold : out.reverse with
        | false => rfl
        | true =>
          obtain ⟨hturning, hsettled⟩ := h.reverse hold
          obtain hp | hr := hsafe
          · rw [hp] at hsettled
            cases hsettled
          · rw [hturning, hforward hf] at hr
            cases hr
      · intro hf
        cases hr : (WheelOutput.drive command).reverse with
        | false => rfl
        | true =>
          have hboth := (hforward hf).symm.trans (hreverse hr)
          cases hboth

/-- A refused call changes no pin. -/
theorem Shows.refused {v : WheelReversal} {out : WheelOutput} (h : v.Shows out)
    {answer : PortAnswer} (hok : answer.ok = false) (c : WheelCall) :
    (v.respond answer c).2.Shows out := by
  cases c with
  | stop => simpa [WheelReversal.respond, hok] using h
  | apply command =>
    have hkept : (v.respond answer (.apply command)).2 = v ∨
        (v.respond answer (.apply command)).2 = { v with pending := false } := by
      simp only [WheelReversal.respond, hok, WheelReversal.prepare, Bool.false_eq_true, if_false]
      split_ifs <;> simp
    obtain hsame | hdropped := hkept
    · rw [hsame]
      exact h
    · rw [hdropped]
      exact ⟨fun hf => ⟨(h.forward hf).1, rfl⟩, fun hr => ⟨(h.reverse hr).1, rfl⟩,
        fun hset => absurd hset Bool.false_ne_true, h.duty⟩

end WheelReversal

/-- The answer of a call that came to the port is the port's. -/
theorem motorAnswer_eq (b : Board) (answer : PortAnswer) (call : MotorCall) :
    motorAnswer (fun _ => answer) b call =
      ((passedControl b (motorCall (fun _ => answer) b call)).isSome && answer.ok) := by
  by_cases hi : b.motor.initialized = true
  · cases call with
    | stop =>
      rw [motorCall_stop_eq _ hi, passedControl_port]
      cases hok : answer.ok <;>
        simp [motorAnswer, motorDriverStop, motorDriverStopBody, hi, motorDriverDri0041PortApply, hok]
    | apply c =>
      have hlast := motorDriverApply_last (fun _ => answer) c b
      rw [motorAnswer, motorCall]
      obtain ⟨-, hboard⟩ | ⟨control, motor, -, -, hboard, -⟩ :=
        motorDriverApply_wheel (fun _ => answer) c b hi
      · rw [hboard] at hlast ⊢
        simp only [Board.emit, List.getLast?_append, List.getLast?_singleton, Option.some_or,
          Option.some.injEq, BoardEvent.driverApply.injEq, true_and] at hlast
        rw [← hlast]
        simp [passedControl, Board.emit]
      · rw [hboard] at hlast ⊢
        rw [passedControl_port]
        simp only [List.getLast?_append, List.getLast?_singleton, Option.some_or,
          Option.some.injEq, BoardEvent.driverApply.injEq, true_and] at hlast
        rw [← hlast]
        rfl
  · cases call with
    | stop =>
      simp [motorAnswer, motorCall, motorDriverStop, motorDriverStopBody, hi, passedControl, Board.emit]
    | apply c =>
      simp [motorAnswer, motorCall, motorDriverApply, motorDriverApplyBody, hi, passedControl,
        Board.emit]

/-- Everything a call can do: it is refused before it comes to the port, or each wheel makes a
step of its own. -/
theorem motorCall_cases (b : Board) (answer : PortAnswer) (call : MotorCall) :
    let next := motorCall (fun _ => answer) b call
    (passedControl b next = none ∧ next.motor = b.motor ∧
        ¬ (b.motor.initialized = true ∧ call.InRange)) ∨
      (call.InRange ∧ b.motor.initialized = true ∧ ∃ control, passedControl b next = some control ∧
        ∀ w, control.output w = ((b.motor.wheel w).respond answer (call.wheel w)).1 ∧
          next.motor.wheel w = ((b.motor.wheel w).respond answer (call.wheel w)).2) := by
  intro next
  by_cases hrange : call.InRange
  · cases hi : b.motor.initialized with
    | true =>
      have hleft := motorCall_machine b answer call hrange .left
      obtain ⟨control, hcontrol⟩ : ∃ control, passedControl b next = some control := by
        cases hpassed : passedControl b next with
        | none =>
          have hout := hleft.1
          rw [hpassed, hi] at hout
          cases hout
        | some control => exact ⟨control, rfl⟩
      refine .inr ⟨hrange, rfl, control, hcontrol, ?_⟩
      intro w
      obtain ⟨hout, hwheel, -⟩ := motorCall_machine b answer call hrange w
      rw [hcontrol, hi] at hout
      rw [hi] at hwheel
      exact ⟨Option.some.inj hout, hwheel⟩
    | false =>
      left
      cases call with
      | apply c =>
        simp [next, motorCall, motorDriverApply, motorDriverApplyBody, hi, Board.emit, passedControl]
      | stop =>
        simp [next, motorCall, motorDriverStop, motorDriverStopBody, hi, Board.emit, passedControl]
  · left
    cases call with
    | stop => exact absurd trivial hrange
    | apply c =>
      have hnone : dri0041ControlFromCommand c = none := by
        rw [dri0041ControlFromCommand, if_pos]
        by_contra hin
        apply hrange
        simp only [gt_iff_lt, not_or, Int16.not_lt] at hin
        intro w
        cases w with
        | left => exact ⟨hin.2.1, hin.1⟩
        | right => exact ⟨hin.2.2.2, hin.2.2.1⟩
      have hnext : next = b.emit (.driverApply c false) := by
        by_cases hi : b.motor.initialized = true
        · simp [next, motorCall, motorDriverApply, motorDriverApplyBody, hi, hnone]
        · simp [next, motorCall, motorDriverApply, motorDriverApplyBody, hi]
      rw [hnext]
      exact ⟨by simp [passedControl, Board.emit], rfl, fun h => hrange h.2⟩

namespace Dri0041Registers

/-- Neither wheel has both its direction pins set. -/
def PinsApart (pins : DirectionPin → Bool) : Prop :=
  ¬ (pins .leftIn1 = true ∧ pins .leftIn2 = true) ∧ ¬ (pins .rightIn3 = true ∧ pins .rightIn4 = true)

/-- The pins are apart now and after each of the writes. -/
def StaysApart (r : Dri0041Registers) : List Dri0041Write → Prop
  | [] => PinsApart r.pins
  | write :: rest => PinsApart r.pins ∧ (r.execute write).StaysApart rest

/-- The pins and the compare values are those of a control. -/
structure Shows (r : Dri0041Registers) (control : Dri0041PortControl) : Prop where
  leftIn1 : r.pins .leftIn1 = control.leftIn1
  leftIn2 : r.pins .leftIn2 = control.leftIn2
  rightIn3 : r.pins .rightIn3 = control.rightIn3
  rightIn4 : r.pins .rightIn4 = control.rightIn4
  left : r.timer.written .channel4 = compareFromDuty control.leftDuty
  right : r.timer.written .channel3 = compareFromDuty control.rightDuty

/-- The values a compare register may have. -/
def compareLimit : Set (TimChannel → UInt32) := {values | ∀ channel, (values channel).toNat ≤ 18000}

def timerAccess : Dri0041Write → Option (Access TimChannel UInt32)
  | .compare channel value => some (.write channel value)
  | _ => none

variable {r r' : Dri0041Registers}

/-- Pins and written values do not depend on what is in force. -/
theorem execute_congr (hpins : r.pins = r'.pins) (hwritten : r.timer.written = r'.timer.written)
    (hport : r.portInitialized = r'.portInitialized) (write : Dri0041Write) :
    (r.execute write).pins = (r'.execute write).pins ∧
      (r.execute write).timer.written = (r'.execute write).timer.written ∧
      (r.execute write).portInitialized = (r'.execute write).portInitialized := by
  cases write <;> simp [execute, Registers.access, hpins, hwritten, hport]

theorem executes_congr (r r' : Dri0041Registers) (hpins : r.pins = r'.pins) (hwritten : r.timer.written = r'.timer.written)
    (hport : r.portInitialized = r'.portInitialized) (writes : List Dri0041Write) :
    (r.executes writes).pins = (r'.executes writes).pins ∧
      (r.executes writes).timer.written = (r'.executes writes).timer.written ∧
      (r.executes writes).portInitialized = (r'.executes writes).portInitialized := by
  induction writes generalizing r r' with
  | nil => exact ⟨hpins, hwritten, hport⟩
  | cons write rest ih =>
    obtain ⟨hpins', hwritten', hport'⟩ := execute_congr hpins hwritten hport write
    exact ih _ _ hpins' hwritten' hport'

theorem Shows.congr {control : Dri0041PortControl} (h : r.Shows control) (hpins : r.pins = r'.pins)
    (hwritten : r.timer.written = r'.timer.written) : r'.Shows control := by
  obtain ⟨hleftIn1, hleftIn2, hrightIn3, hrightIn4, hleft, hright⟩ := h
  rw [hpins] at hleftIn1 hleftIn2 hrightIn3 hrightIn4
  rw [hwritten] at hleft hright
  exact ⟨hleftIn1, hleftIn2, hrightIn3, hrightIn4, hleft, hright⟩

theorem StaysApart.congr {writes : List Dri0041Write} (h : r.StaysApart writes)
    (hpins : r.pins = r'.pins) : r'.StaysApart writes := by
  induction writes generalizing r r' with
  | nil =>
    change PinsApart r'.pins
    rw [← hpins]
    exact h
  | cons write rest ih =>
    have hpins' : (r.execute write).pins = (r'.execute write).pins := by
      cases write <;> simp [execute, hpins]
    refine ⟨?_, ih h.2 hpins'⟩
    rw [← hpins]
    exact h.1

theorem StaysApart.now {writes : List Dri0041Write} (h : r.StaysApart writes) :
    PinsApart r.pins := by
  cases writes with
  | nil => exact h
  | cons write rest => exact h.1

def setsPin : Dri0041Write → Bool
  | .pin _ _ => true
  | _ => false

theorem executes_timer (r : Dri0041Registers) (writes : List Dri0041Write) :
    (r.executes writes).timer = r.timer.accesses (writes.filterMap timerAccess) := by
  induction writes generalizing r with
  | nil => rfl
  | cons write rest ih => cases write <;> exact ih _

theorem executes_pins {writes : List Dri0041Write} (h : ∀ write ∈ writes, setsPin write = false) :
    (r.executes writes).pins = r.pins := by
  induction writes generalizing r with
  | nil => rfl
  | cons write rest ih =>
    have hrest := ih (r := r.execute write) fun w hw => h w (List.mem_cons_of_mem _ hw)
    have hfirst := h write List.mem_cons_self
    refine hrest.trans ?_
    cases write with
    | pin pin level => cases hfirst
    | _ => rfl

theorem staysApart_append (r : Dri0041Registers) (first second : List Dri0041Write) :
    r.StaysApart (first ++ second) ↔
      r.StaysApart first ∧ (r.executes first).StaysApart second := by
  induction first generalizing r with
  | nil => exact ⟨fun h => ⟨h.now, h⟩, fun h => h.2⟩
  | cons write rest ih =>
    constructor
    · intro h
      obtain ⟨hrest, hsecond⟩ := (ih _).mp h.2
      exact ⟨⟨h.1, hrest⟩, hsecond⟩
    · intro h
      exact ⟨h.1.1, (ih _).mpr ⟨h.1.2, h.2⟩⟩

theorem staysApart_of_pins {writes : List Dri0041Write}
    (h : ∀ write ∈ writes, setsPin write = false) (hpins : PinsApart r.pins) :
    r.StaysApart writes := by
  induction writes generalizing r with
  | nil => exact hpins
  | cons write rest ih =>
    refine ⟨hpins, ih (fun w hw => h w (List.mem_cons_of_mem _ hw)) ?_⟩
    have hkept : (r.executes [write]).pins = r.pins :=
      executes_pins (by simpa using h write List.mem_cons_self)
    rw [show (r.execute write).pins = r.pins from hkept]
    exact hpins

/-- The writes of `motor_driver_dri0041_port_init`: the pins first, then the timer. -/
theorem portInit_writes (tim8 start4 start3 : Bool) :
    ∃ rest, (motorDriverDri0041PortInit tim8 start4 start3).2 =
        .initialized false :: (setDirectionPins {} ++ rest) ∧
      (∀ write ∈ rest, setsPin write = false) ∧
      rest.filterMap timerAccess =
        if tim8 then [.write .channel4 0, .write .channel3 0] else [] := by
  cases tim8 with
  | false => exact ⟨[], rfl, fun _ hmem => absurd hmem List.not_mem_nil, rfl⟩
  | true =>
    cases start4 with
    | false => exact ⟨_, rfl, by simp [setsPin], rfl⟩
    | true =>
      cases start3 with
      | false => exact ⟨_, rfl, by simp [setsPin], rfl⟩
      | true => exact ⟨_, rfl, by simp [setsPin], rfl⟩

/-- The port is set up if it says so. -/
theorem portInit_initialized (r : Dri0041Registers) {tim8 start4 start3 : Bool}
    (h : (motorDriverDri0041PortInit tim8 start4 start3).1 = true) :
    tim8 = true ∧
      (r.executes (motorDriverDri0041PortInit tim8 start4 start3).2).portInitialized = true := by
  cases tim8 with
  | false => cases h
  | true =>
    cases start4 with
    | false => cases h
    | true =>
      cases start3 with
      | false => cases h
      | true => exact ⟨rfl, rfl⟩

theorem update_compareLimit {values : TimChannel → UInt32} (h : values ∈ compareLimit)
    (channel : TimChannel) {value : UInt32} (hvalue : value.toNat ≤ 18000) :
    Function.update values channel value ∈ compareLimit := by
  intro other
  by_cases hsame : other = channel
  · rw [hsame, Function.update_self]
    exact hvalue
  · rw [Function.update_of_ne hsame]
    exact h other

/-- Compare values within the period may be written at any time. -/
theorem obeys_compares {timer : Registers TimChannel UInt32} (h : timer.Within compareLimit)
    {left right : UInt32} (hleft : left.toNat ≤ 18000) (hright : right.toNat ≤ 18000) :
    timer.Obeys compareLimit [.write .channel4 left, .write .channel3 right] := by
  refine h.obeys_writes [(.channel4, left), (.channel3, right)] ?_
  intro w hw values hvalues
  refine update_compareLimit hvalues w.1 ?_
  simp only [List.mem_cons, List.not_mem_nil, or_false] at hw
  rcases hw with rfl | rfl
  · exact hleft
  · exact hright

/-- The writes of an accepted control. -/
theorem shows_apply (r : Dri0041Registers) (control : Dri0041PortControl) :
    (r.executes (setDirectionPins control ++
      [.compare .channel4 (compareFromDuty control.leftDuty),
        .compare .channel3 (compareFromDuty control.rightDuty)])).Shows control := by
  constructor <;> simp [executes, setDirectionPins, execute, Registers.access, Function.update]

/-- A wheel goes from one direction to the other through a write that clears a pin first. -/
theorem staysApart_apply (hpins : PinsApart r.pins) (control : Dri0041PortControl)
    (hleft : control.leftIn1 = true → r.pins .leftIn2 = false ∧ control.leftIn2 = false)
    (hright : control.rightIn3 = true → r.pins .rightIn4 = false ∧ control.rightIn4 = false)
    (left right : UInt32) :
    r.StaysApart (setDirectionPins control ++
      [.compare .channel4 left, .compare .channel3 right]) := by
  obtain ⟨hl, hr⟩ := hpins
  cases hl1 : control.leftIn1 <;> cases hr3 : control.rightIn3 <;>
    simp_all [StaysApart, setDirectionPins, execute, PinsApart, Function.update]

end Dri0041Registers

namespace Dri0041System

open Dri0041Registers

/-- What holds at every instant. -/
structure Steady (tim8 : Bool) (s : Dri0041System) : Prop where
  wheels : ∀ w, (s.board.motor.wheel w).Shows (s.shown.output w)
  apart : s.registers.StaysApart s.todo
  settles : (s.registers.executes s.todo).Shows s.shown
  within : s.registers.timer.Within compareLimit
  obeys : s.registers.timer.Obeys compareLimit (s.todo.filterMap timerAccess)
  silent : tim8 = false → s.todo.filterMap timerAccess = [] ∧
    ∀ channel, s.registers.timer.written channel = 0
  initialized : s.board.motor.initialized = true →
    tim8 = true ∧ (s.registers.executes s.todo).portInitialized = true

variable {tim8 : Bool} {s : Dri0041System}

theorem start_steady : Steady tim8 {} where
  wheels := by
    intro w
    cases w <;> exact WheelReversal.shows_brake fun hset => absurd hset Bool.false_ne_true
  apart := by simp [StaysApart, PinsApart]
  settles := by constructor <;> rfl
  within := by constructor <;> simp [compareLimit]
  obeys := trivial
  silent := fun _ => ⟨rfl, fun _ => rfl⟩
  initialized := fun hset => absurd hset Bool.false_ne_true

theorem write_steady (h : s.Steady tim8) {write : Dri0041Write} {rest : List Dri0041Write}
    (htodo : s.todo = write :: rest) :
    Steady tim8 { s with registers := s.registers.execute write, todo := rest } := by
  obtain ⟨hwheels, hapart, hsettles, hwithin, hobeys, hsilent, hinitialized⟩ := h
  rw [htodo] at hapart hsettles hobeys hsilent hinitialized
  cases write with
  | compare channel value =>
    refine ⟨hwheels, hapart.2, hsettles, hwithin.access hobeys, hobeys.2, ?_, hinitialized⟩
    intro hno
    have hnone := (hsilent hno).1
    cases hnone
  | _ => exact ⟨hwheels, hapart.2, hsettles, hwithin, hobeys, hsilent, hinitialized⟩

theorem update_steady (h : s.Steady tim8) :
    Steady tim8 { s with registers := s.registers.update } := by
  obtain ⟨hwritten, hheld⟩ := s.registers.timer.update_written
  obtain ⟨hpins, hcompare, hport⟩ := executes_congr s.registers.update s.registers rfl hwritten
    rfl s.todo
  refine ⟨h.wheels, h.apart.congr rfl, h.settles.congr hpins.symm hcompare.symm,
    h.within.update, h.obeys.congr hwritten.symm hheld.symm, fun hno => ⟨(h.silent hno).1, ?_⟩,
    fun hi => ⟨(h.initialized hi).1, hport.trans (h.initialized hi).2⟩⟩
  change ∀ channel, s.registers.timer.update.written channel = 0
  rw [hwritten]
  exact (h.silent hno).2

theorem init_steady (h : s.Steady tim8) (start4 start3 : Bool) :
    (s.init tim8 start4 start3).Steady tim8 := by
  obtain ⟨rest, hwrites, hpins, haccess⟩ := portInit_writes tim8 start4 start3
  have htodo : (s.init tim8 start4 start3).todo = _ := hwrites
  -- The pins are cleared first; what follows leaves them alone.
  let cleared := (s.registers.execute (.initialized false)).executes (setDirectionPins {})
  have hcleared : cleared.pins = fun _ => false := by
    funext pin
    cases pin <;> simp [cleared, executes, setDirectionPins, execute, Function.update]
  have hsplit : (s.registers.executes (s.init tim8 start4 start3).todo) = cleared.executes rest := by
    rw [htodo]
    simp [executes, cleared]
  have hend : (s.registers.executes (s.init tim8 start4 start3).todo).pins = fun _ => false := by
    rw [hsplit, executes_pins hpins, hcleared]
  have hfilter : (s.init tim8 start4 start3).todo.filterMap timerAccess =
      rest.filterMap timerAccess := by
    rw [htodo]
    rfl
  have hwritten : ∀ channel, channel = .channel3 ∨ channel = .channel4 →
      (s.registers.executes (s.init tim8 start4 start3).todo).timer.written channel = 0 := by
    intro channel hchannel
    rw [executes_timer, hfilter, haccess]
    cases tim8 with
    | false => exact (h.silent rfl).2 channel
    | true => rcases hchannel with rfl | rfl <;>
        simp [Registers.accesses, Registers.access, Function.update]
  constructor
  · intro w
    cases w <;> exact WheelReversal.shows_brake fun hset => absurd hset Bool.false_ne_true
  · rw [htodo]
    refine ⟨h.apart.now, (staysApart_append _ _ _).mpr ⟨?_, staysApart_of_pins hpins ?_⟩⟩
    · have happly := staysApart_apply (r := s.registers.execute (.initialized false))
        h.apart.now {} (fun hset => absurd hset Bool.false_ne_true)
        (fun hset => absurd hset Bool.false_ne_true) 0 0
      exact ((staysApart_append _ _ _).mp happly).1
    · change PinsApart cleared.pins
      rw [hcleared]
      simp [PinsApart]
  · exact ⟨congrFun hend .leftIn1, congrFun hend .leftIn2, congrFun hend .rightIn3,
      congrFun hend .rightIn4, (hwritten _ (.inr rfl)).trans compareFromDuty_zero.symm,
      (hwritten _ (.inl rfl)).trans compareFromDuty_zero.symm⟩
  · exact h.within
  · rw [hfilter, haccess]
    cases tim8 with
    | false => trivial
    | true => exact obeys_compares h.within (Nat.zero_le _) (Nat.zero_le _)
  · intro hno
    rw [hfilter, haccess, hno]
    exact ⟨rfl, (h.silent hno).2⟩
  · exact portInit_initialized s.registers

theorem portWrites_refused {r : Dri0041Registers} {control : Dri0041PortControl}
    (h : (dri0041PortWrites tim8 r control).1 = false) :
    (dri0041PortWrites tim8 r control).2 = [] := by
  rw [dri0041PortWrites] at h ⊢
  split_ifs at h ⊢
  · rfl
  · rfl

/-- A port that is set up accepts every control the driver may pass. -/
theorem portWrites_cases (tim8 : Bool) (r : Dri0041Registers) {control : Dri0041PortControl}
    (hduty : ∀ w, (control.output w).duty.toNat ≤ 1000) :
    ((dri0041PortWrites tim8 r control) = (false, []) ∧ (r.portInitialized = false ∨ tim8 = false)) ∨
      (r.portInitialized = true ∧ tim8 = true ∧ dri0041PortWrites tim8 r control =
        (true, setDirectionPins control ++
          [.compare .channel4 (compareFromDuty control.leftDuty),
            .compare .channel3 (compareFromDuty control.rightDuty)])) := by
  have hfits : ¬ (control.leftDuty > 1000 ∨ control.rightDuty > 1000) := by
    simp only [gt_iff_lt, not_or, UInt16.not_lt]
    exact ⟨UInt16.le_iff_toNat_le.mpr (hduty .left), UInt16.le_iff_toNat_le.mpr (hduty .right)⟩
  cases hport : r.portInitialized with
  | false => exact .inl ⟨by simp [dri0041PortWrites, hport], .inl rfl⟩
  | true =>
    cases tim8 with
    | false => exact .inl ⟨by simp [dri0041PortWrites], .inr rfl⟩
    | true => exact .inr ⟨rfl, rfl, by rw [dri0041PortWrites, if_neg (by simp [hport]), if_neg hfits]⟩

theorem call_of_none {call : MotorCall} {answer : PortAnswer}
    (h : passedControl s.board (motorCall (fun _ => answer) s.board call) = none) :
    s.call tim8 call answer = { s with board := motorCall (fun _ => answer) s.board call } := by
  simp [Dri0041System.call, h]

theorem call_of_some {call : MotorCall} {answer : PortAnswer} {control : Dri0041PortControl}
    (h : passedControl s.board (motorCall (fun _ => answer) s.board call) = some control) :
    s.call tim8 call answer = { s with
      board := motorCall (fun _ => answer) s.board call
      todo := (dri0041PortWrites tim8 s.registers control).2
      shown := if answer.ok then control else s.shown } := by
  simp [Dri0041System.call, h]

/-- The port takes the control: every wheel makes the step of an accepted call. -/
theorem accepted_steady (h : s.Steady tim8) (hidle : s.todo = []) {call : MotorCall}
    {answer : PortAnswer} (hrange : call.InRange) {control : Dri0041PortControl} {board : Board}
    (hstep : ∀ w, control.output w = ((s.board.motor.wheel w).respond answer (call.wheel w)).1 ∧
      board.motor.wheel w = ((s.board.motor.wheel w).respond answer (call.wheel w)).2)
    (hanswered : answer.ok = true) (hok : (dri0041PortWrites tim8 s.registers control).1 = true) :
    Steady tim8 { s with
      board := board
      todo := (dri0041PortWrites tim8 s.registers control).2
      shown := control } := by
  have hlimits : ∀ w command, call.wheel w = .apply command → -1000 ≤ command ∧ command ≤ 1000 := by
    intro w command hw
    cases call with
    | stop => cases hw
    | apply c =>
      obtain rfl := WheelCall.apply.inj hw
      exact hrange w
  have hshows := fun w => (h.wheels w).respond hanswered (call.wheel w) (hlimits w)
  have hduty : ∀ w, (control.output w).duty.toNat ≤ 1000 := by
    intro w
    rw [(hstep w).1]
    exact (hshows w).1.duty
  obtain ⟨hrefused, -⟩ | ⟨hport, htim8, hwrites⟩ := portWrites_cases tim8 s.registers hduty
  · rw [hrefused] at hok
    cases hok
  have hpins : s.registers.Shows s.shown := by
    have hsettles := h.settles
    rw [hidle] at hsettles
    exact hsettles
  have hcross : ∀ w, (control.output w).forward = true →
      (s.shown.output w).reverse = false ∧ (control.output w).reverse = false := by
    intro w hf
    rw [(hstep w).1] at hf ⊢
    exact ⟨(hshows w).2.1 hf, (hshows w).2.2 hf⟩
  rw [hwrites]
  refine ⟨fun w => ?_, staysApart_apply h.apart.now control ?_ ?_ _ _, shows_apply _ _, h.within,
    obeys_compares h.within (compareFromDuty_le (hduty .left)) (compareFromDuty_le (hduty .right)),
    ?_, fun _ => ⟨htim8, hport⟩⟩
  · change WheelReversal.Shows _ (control.output w)
    rw [(hstep w).1, (hstep w).2]
    exact (hshows w).1
  · intro hf
    rw [hpins.leftIn2]
    exact hcross .left hf
  · intro hf
    rw [hpins.rightIn4]
    exact hcross .right hf
  · intro hno
    rw [htim8] at hno
    cases hno

theorem call_steady (h : s.Steady tim8) (hidle : s.todo = []) (call : MotorCall)
    (answer : PortAnswer) (hanswer : s.Answers tim8 call answer) :
    (s.call tim8 call answer).Steady tim8 := by
  obtain ⟨hnone, hmotor, -⟩ | ⟨hrange, hinit, control, hpassed, hstep⟩ :=
    motorCall_cases s.board answer call
  · rw [call_of_none hnone]
    refine ⟨?_, h.apart, h.settles, h.within, h.obeys, h.silent, ?_⟩
    · rw [hmotor]
      exact h.wheels
    · rw [hmotor]
      exact h.initialized
  · have hok := hanswer control hpassed
    rw [call_of_some hpassed]
    cases hanswered : answer.ok with
    | false =>
      rw [portWrites_refused (hok.symm.trans hanswered), ← hidle]
      refine ⟨fun w => ?_, h.apart, h.settles, h.within, h.obeys, h.silent,
        fun _ => h.initialized hinit⟩
      rw [(hstep w).2]
      exact (h.wheels w).refused hanswered _
    | true => exact accepted_steady h hidle hrange hstep hanswered (hok.symm.trans hanswered)

theorem Reaches.steady (h : Reaches tim8 s) : s.Steady tim8 := by
  induction h with
  | start => exact start_steady
  | init _ _ start4 start3 ih => exact init_steady ih start4 start3
  | call _ hidle call answer hanswer ih => exact call_steady ih hidle call answer hanswer
  | write _ htodo ih => exact write_steady ih htodo
  | update _ ih => exact update_steady ih

/-- Whatever is asked of the driver and wherever the timer updates between two writes, no wheel
ever has both direction pins set, no compare value exceeds the period, and once a call has done
its writes the pins and the compare values are those of the control that was accepted last. -/
theorem registers_follow_driver (h : Reaches tim8 s) :
    PinsApart s.registers.pins ∧
      (∀ channel, (s.registers.timer.inForce channel).toNat ≤ 18000) ∧
      (s.todo = [] → s.registers.Shows s.shown) := by
  have hsteady := h.steady
  refine ⟨hsteady.apart.now, hsteady.within.inForce, ?_⟩
  intro hidle
  have hsettles := hsteady.settles
  rw [hidle] at hsettles
  exact hsettles

theorem Reaches.flush (h : Reaches tim8 s) :
    Reaches tim8 { s with registers := s.registers.executes s.todo, todo := [] } := by
  obtain ⟨board, registers, todo, shown⟩ := s
  induction todo generalizing registers with
  | nil => exact h
  | cons write rest ih => exact ih _ (h.write rfl)

/-- The driver once it is initialised. -/
def ready : Dri0041System :=
  let s := init true {} true true
  { s with registers := s.registers.executes s.todo, todo := [] }

theorem reaches_ready : Reaches true ready := (Reaches.start.init rfl true true).flush

/-- A turn on the spot, and two of the six writes it takes: the left wheel has its direction, the
right one not yet. -/
theorem registers_follow_driver_turning :
    ∃ s : Dri0041System, s.todo.length = 4 ∧ s.registers.pins .leftIn1 = true ∧
      s.registers.pins .rightIn4 = false ∧ PinsApart s.registers.pins := by
  have hanswer : ready.Answers true (.apply ⟨500, -500⟩) {} := by
    rw [Answers]
    decide +kernel
  have hturn := (reaches_ready.call rfl (.apply ⟨500, -500⟩) {} hanswer)
  exact ⟨_, rfl, rfl, rfl, (registers_follow_driver ((hturn.write rfl).write rfl).update).1⟩

/-- Once it is initialised, the driver over this port refuses only commands that are out of range;
what it refuses leaves driver and registers as they were. -/
theorem refused_calls_change_nothing (h : Reaches tim8 s) (hidle : s.todo = []) (call : MotorCall)
    (answer : PortAnswer) (hanswer : s.Answers tim8 call answer) :
    (motorAnswer (fun _ => answer) s.board call = true ↔
        s.board.motor.initialized = true ∧ call.InRange) ∧
      (motorAnswer (fun _ => answer) s.board call = false →
        (s.call tim8 call answer).board.motor = s.board.motor ∧
          (s.call tim8 call answer).todo = [] ∧ (s.call tim8 call answer).shown = s.shown) := by
  have hsteady := h.steady
  obtain ⟨hnone, hmotor, hout⟩ | ⟨hrange, hinit, control, hpassed, hstep⟩ :=
    motorCall_cases s.board answer call
  · rw [motorAnswer_eq, hnone, call_of_none hnone]
    exact ⟨by simpa using hout, fun _ => ⟨hmotor, hidle, rfl⟩⟩
  · -- A control that has come this far has duties the port accepts.
    have hduty : ∀ w, (control.output w).duty.toNat ≤ 1000 := by
      intro w
      rcases motorCall_asCommanded s.board answer hrange hpassed w with hbrake | ⟨c, -, hcarries⟩
      · rw [hbrake]
        exact Nat.zero_le _
      · exact hcarries.limit
    obtain ⟨htim8, hport⟩ := hsteady.initialized hinit
    rw [hidle] at hport
    have hok : answer.ok = true := by
      rw [hanswer control hpassed]
      obtain ⟨-, hbad⟩ | ⟨-, -, hwrites⟩ := portWrites_cases tim8 s.registers hduty
      · obtain hbad | hbad := hbad
        · exact absurd (hbad.symm.trans hport) (by simp)
        · exact absurd (hbad.symm.trans htim8) (by simp)
      · rw [hwrites]
    rw [motorAnswer_eq, hpassed, hok]
    exact ⟨⟨fun _ => ⟨hinit, hrange⟩, fun _ => rfl⟩, fun hrefused => absurd hrefused.symm Bool.false_ne_true⟩

theorem refused_calls_change_nothing_too_fast :
    motorAnswer (fun _ => {}) ready.board (.apply ⟨500, -500⟩) = true ∧
      motorAnswer (fun _ => {}) ready.board (.apply ⟨500, -1001⟩) = false ∧
      (ready.call true (.apply ⟨500, -1001⟩) {}).todo = [] := by
  have hturn : ready.Answers true (.apply ⟨500, -500⟩) {} := by
    rw [Answers]
    decide +kernel
  have hfast : ready.Answers true (.apply ⟨500, -1001⟩) {} := by
    rw [Answers]
    decide +kernel
  have hrefused : motorAnswer (fun _ => {}) ready.board (.apply ⟨500, -1001⟩) = false := rfl
  refine ⟨(refused_calls_change_nothing reaches_ready rfl _ _ hturn).1.mpr ⟨rfl, ?_⟩, hrefused,
    ((refused_calls_change_nothing reaches_ready rfl _ _ hfast).2 hrefused).2.1⟩
  intro w
  cases w <;> decide

end Dri0041System

end IndoorRobot
