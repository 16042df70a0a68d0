import IndoorRobot.Dri0041Registers

/-!
# The other motor driver and its registers

`motor_driver_drv8833.c` and its port. Here a wheel has a duty for each of its two
inputs, and all four of them make one setting: both inputs of a wheel at the full duty
brake it, one alone drives it. The port holds off the updates of the timer while it
writes the four compare values, so no update can bring half of a setting into force.
-/
namespace IndoorRobot

open PreloadRegisters

structure Drv8833PortControl where
  ain1Duty : UInt16 := 0
  ain2Duty : UInt16 := 0
  bin1Duty : UInt16 := 0
  bin2Duty : UInt16 := 0
  deriving DecidableEq

structure Drv8833ChannelControl where
  in1Duty : UInt16 := 0
  in2Duty : UInt16 := 0
  deriving DecidableEq

/-- `drv8833_channel_control`. -/
def drv8833ChannelControl (command : Int16) : Option Drv8833ChannelControl :=
  if command > 1000 ∨ command < -1000 then none
  else if command > 0 then some { in1Duty := command.toUInt16 }
  else if command < 0 then some { in2Duty := (-command).toUInt16 }
  else some {}

/-- `drv8833_control_from_command`. -/
def drv8833ControlFromCommand (c : MotorDriverCommand) : Option Drv8833PortControl :=
  match drv8833ChannelControl c.left with
  | none => none
  | some channelA =>
    match drv8833ChannelControl c.right with
    | none => none
    | some channelB => some ⟨channelA.in1Duty, channelA.in2Duty, channelB.in1Duty, channelB.in2Duty⟩

/-- `drv8833_brake_control`. -/
def drv8833BrakeControl : Drv8833PortControl := ⟨1000, 1000, 1000, 1000⟩

/-- An access of the port. -/
inductive Drv8833Write where
  | initialized (value : Bool)
  | standby (level : Bool)
  | timer (access : Access TimChannel UInt32)
  | pwmStart (channel : TimChannel) (ok : Bool)
  | pwmStop (channel : TimChannel)

structure Drv8833Registers where
  portInitialized : Bool := false
  standby : Bool := false
  timer : Registers TimChannel UInt32 := { written := fun _ => 0, inForce := fun _ => 0 }
  running : TimChannel → Bool := fun _ => false

namespace Drv8833Registers

def execute (r : Drv8833Registers) : Drv8833Write → Drv8833Registers
  | .initialized value => { r with portInitialized := value }
  | .standby level => { r with standby := level }
  | .timer access => { r with timer := r.timer.access access }
  | .pwmStart channel ok =>
    { r with running := if ok then Function.update r.running channel true else r.running }
  | .pwmStop channel => { r with running := Function.update r.running channel false }

def executes (r : Drv8833Registers) (writes : List Drv8833Write) : Drv8833Registers :=
  writes.foldl execute r

end Drv8833Registers

/-- The compare values of a control. -/
def Drv8833PortControl.compares (control : Drv8833PortControl) : TimChannel → UInt32
  | .channel1 => compareFromDuty control.ain1Duty
  | .channel2 => compareFromDuty control.ain2Duty
  | .channel3 => compareFromDuty control.bin1Duty
  | .channel4 => compareFromDuty control.bin2Duty

def allChannels : List TimChannel := [.channel1, .channel2, .channel3, .channel4]

/-- The starts of `motor_driver_drv8833_port_init`, one after the other up to the first that fails,
and what follows. -/
def startChannels (starts : TimChannel → Bool) : List TimChannel → Bool × List Drv8833Write
  | [] => (true, [.initialized true])
  | channel :: rest =>
    if ¬ starts channel then
      (false, .pwmStart channel false :: .standby false :: allChannels.map .pwmStop)
    else
      let (ok, writes) := startChannels starts rest
      (ok, .pwmStart channel true :: writes)

/-- `motor_driver_drv8833_port_init`. -/
def motorDriverDrv8833PortInit (tim8 : Bool) (starts : TimChannel → Bool) :
    Bool × List Drv8833Write :=
  let writes := [.initialized false, .standby false]
  if ¬ tim8 then (false, writes)
  else
    let (ok, rest) := startChannels starts allChannels
    (ok, writes ++ allChannels.map (fun channel => .timer (.write channel 0)) ++ rest)

/-- `motor_driver_drv8833_port_apply`. -/
def motorDriverDrv8833PortApply (tim8 : Bool) (r : Drv8833Registers)
    (control : Drv8833PortControl) : Bool × List Drv8833Write :=
  if ¬ r.portInitialized ∨ ¬ tim8 then (false, [])
  else if control.ain1Duty > 1000 ∨ control.ain2Duty > 1000 ∨ control.bin1Duty > 1000 ∨
      control.bin2Duty > 1000 then (false, [])
  else
    (true, .timer .hold ::
      (allChannels.map (fun channel => .timer (.write channel (control.compares channel))) ++
        [.timer .release, .standby true]))

/-- The driver, the registers, the writes under way and the controls accepted so far. -/
structure Drv8833System where
  initialized : Bool := false
  registers : Drv8833Registers := {}
  todo : List Drv8833Write := []
  accepted : List Drv8833PortControl := []

namespace Drv8833System

variable (tim8 : Bool)

/-- `motor_driver_init`. -/
def init (starts : TimChannel → Bool) : Drv8833System :=
  let (ok, writes) := motorDriverDrv8833PortInit tim8 starts
  { initialized := ok, todo := writes }

def portApply (s : Drv8833System) (control : Drv8833PortControl) : Bool × Drv8833System :=
  let (ok, writes) := motorDriverDrv8833PortApply tim8 s.registers control
  (ok, { s with
    todo := writes
    accepted := if ok then s.accepted ++ [control] else s.accepted })

/-- `motor_driver_apply` and `motor_driver_stop`. -/
def call (s : Drv8833System) : MotorCall → Bool × Drv8833System
  | .apply c =>
    if ¬ s.initialized then (false, s)
    else
      match drv8833ControlFromCommand c with
      | none => (false, s)
      | some control => s.portApply tim8 control
  | .stop => if ¬ s.initialized then (false, s) else s.portApply tim8 drv8833BrakeControl

/-- The driver is initialised once, after a reset; then it is called whenever the writes of the
call before are done, and the timer updates at any time. -/
inductive Reaches : Drv8833System → Prop where
  | start (starts : TimChannel → Bool) : Reaches (init tim8 starts)
  | call {s : Drv8833System} (h : Reaches s) (hidle : s.todo = []) (call : MotorCall) :
      Reaches (s.call tim8 call).2
  | write {s : Drv8833System} (h : Reaches s) {write : Drv8833Write} {rest : List Drv8833Write}
      (htodo : s.todo = write :: rest) :
      Reaches { s with registers := s.registers.execute write, todo := rest }
  | update {s : Drv8833System} (h : Reaches s) :
      Reaches { s with registers := { s.registers with timer := s.registers.timer.update } }

end Drv8833System

namespace Drv8833Registers

def timerAccess : Drv8833Write → Option (Access TimChannel UInt32)
  | .timer access => some access
  | _ => none

theorem executes_timer (r : Drv8833Registers) (writes : List Drv8833Write) :
    (r.executes writes).timer = r.timer.accesses (writes.filterMap timerAccess) := by
  induction writes generalizing r with
  | nil => rfl
  | cons write rest ih => cases write <;> exact ih _

/-- Four writes make a whole setting. -/
theorem accesses_compares (r : Registers TimChannel UInt32) (values : TimChannel → UInt32) :
    (r.accesses (allChannels.map fun channel => .write channel (values channel))).written = values := by
  funext channel
  cases channel <;> simp [allChannels, Registers.accesses, Registers.access, Function.update]

end Drv8833Registers

theorem startChannels_writes (starts : TimChannel → Bool) (channels : List TimChannel) :
    (startChannels starts channels).2.filterMap Drv8833Registers.timerAccess = [] ∧
      Drv8833Write.standby true ∉ (startChannels starts channels).2 := by
  induction channels with
  | nil => exact ⟨rfl, by simp [startChannels]⟩
  | cons channel rest ih =>
    rw [startChannels]
    cases hstart : starts channel with
    | false => exact ⟨rfl, by simp [allChannels]⟩
    | true =>
      refine ⟨?_, ?_⟩
      · simpa [Drv8833Registers.timerAccess] using ih.1
      · simpa using ih.2

theorem drv8833ChannelControl_some {command : Int16} {control : Drv8833ChannelControl}
    (h : drv8833ChannelControl command = some control) :
    (control.in1Duty = 0 ∨ control.in2Duty = 0) ∧ control.in1Duty.toNat ≤ 1000 ∧
      control.in2Duty.toNat ≤ 1000 := by
  rw [drv8833ChannelControl] at h
  split_ifs at h with hrange hpos hneg
  · obtain rfl := Option.some.inj h
    simp only [gt_iff_lt, not_or, Int16.not_lt] at hrange
    have hlimit := (drive_carriesOut hrange.2 hrange.1).limit
    rw [WheelOutput.drive_forward hpos] at hlimit
    exact ⟨.inr rfl, hlimit, Nat.zero_le _⟩
  · obtain rfl := Option.some.inj h
    simp only [gt_iff_lt, not_or, Int16.not_lt] at hrange
    have hlimit := (drive_carriesOut hrange.2 hrange.1).limit
    rw [WheelOutput.drive_reverse hneg] at hlimit
    exact ⟨.inl rfl, Nat.zero_le _, hlimit⟩
  · obtain rfl := Option.some.inj h
    exact ⟨.inl rfl, Nat.zero_le _, Nat.zero_le _⟩

namespace Drv8833PortControl

/-- A control that brakes both wheels, or carries out a command. -/
def Proper (control : Drv8833PortControl) : Prop :=
  control = drv8833BrakeControl ∨ ∃ c, drv8833ControlFromCommand c = some control

/-- At most one input of each wheel is driven, or all inputs are at the full period. -/
def OneSided (values : TimChannel → UInt32) : Prop :=
  ((values .channel1 = 0 ∨ values .channel2 = 0) ∧ (values .channel3 = 0 ∨ values .channel4 = 0)) ∨
    ∀ channel, (values channel).toNat = 18000

theorem oneSided_zero : OneSided (compares {}) :=
  .inl ⟨.inl compareFromDuty_zero, .inl compareFromDuty_zero⟩

theorem Proper.oneSided {control : Drv8833PortControl} (h : control.Proper) :
    OneSided control.compares := by
  obtain rfl | ⟨c, hc⟩ := h
  · right
    intro channel
    cases channel <;> exact compareFromDuty_toNat (by decide)
  · left
    rw [drv8833ControlFromCommand] at hc
    split at hc
    · cases hc
    · rename_i channelA hA
      split at hc
      · cases hc
      · rename_i channelB hB
        obtain rfl := Option.some.inj hc
        have hzero : ∀ duty : UInt16, duty = 0 → compareFromDuty duty = 0 := by
          intro duty hduty
          rw [hduty, compareFromDuty_zero]
        exact ⟨(drv8833ChannelControl_some hA).1.imp (hzero _) (hzero _),
          (drv8833ChannelControl_some hB).1.imp (hzero _) (hzero _)⟩

end Drv8833PortControl

namespace Drv8833System

open Drv8833Registers Drv8833PortControl

/-- The settings that may come into force. -/
def settings (accepted : List Drv8833PortControl) : Set (TimChannel → UInt32) :=
  {values | values = compares {} ∨ ∃ control ∈ accepted, values = control.compares}

structure Steady (s : Drv8833System) : Prop where
  proper : ∀ control ∈ s.accepted, control.Proper
  within : s.registers.timer.Within (settings s.accepted)
  obeys : s.registers.timer.Obeys (settings s.accepted) (s.todo.filterMap timerAccess)
  settles : (s.registers.executes s.todo).timer.written = (s.accepted.getLastD {}).compares
  awake : s.registers.standby = true ∨ .standby true ∈ s.todo → s.accepted ≠ []

variable {tim8 : Bool} {s : Drv8833System}

theorem compares_zero : compares {} = fun _ => 0 := by
  funext channel
  cases channel <;> exact compareFromDuty_zero

theorem init_steady (starts : TimChannel → Bool) : (init tim8 starts).Steady := by
  have hreset : (init tim8 starts).registers.timer = { written := fun _ => 0, inForce := fun _ => 0 } :=
    rfl
  have hwithin : Registers.Within (settings [])
      ({ written := fun _ => 0, inForce := fun _ => 0 } : Registers TimChannel UInt32) :=
    ⟨.inl compares_zero.symm, fun _ => .inl compares_zero.symm⟩
  obtain ⟨hsilent, hasleep⟩ := startChannels_writes starts allChannels
  have haccess : (init tim8 starts).todo.filterMap timerAccess =
      if tim8 then allChannels.map fun channel => .write channel 0 else [] := by
    cases tim8 with
    | false => rfl
    | true =>
      rw [init, motorDriverDrv8833PortInit, if_neg (by simp), List.filterMap_append, hsilent]
      rfl
  refine ⟨by simp [init], hwithin, ?_, ?_, ?_⟩
  · rw [haccess, hreset]
    cases tim8 with
    | false => trivial
    | true =>
      refine hwithin.obeys_writes (allChannels.map fun channel => (channel, 0)) ?_
      intro w hw values hvalues
      obtain ⟨channel, -, rfl⟩ := List.mem_map.mp hw
      obtain rfl | ⟨control, hnone, -⟩ := hvalues
      · left
        rw [compares_zero]
        exact Function.update_eq_self channel _
      · cases hnone
  · rw [executes_timer, haccess, hreset]
    cases tim8 with
    | false => exact compares_zero.symm
    | true => exact (accesses_compares _ _).trans compares_zero.symm
  · rintro (hhigh | hhigh)
    · cases hhigh
    · cases tim8 with
      | false => simp [init, motorDriverDrv8833PortInit] at hhigh
      | true => simp [init, motorDriverDrv8833PortInit, hasleep] at hhigh

theorem write_steady (h : s.Steady) {write : Drv8833Write} {rest : List Drv8833Write}
    (htodo : s.todo = write :: rest) :
    Steady { s with registers := s.registers.execute write, todo := rest } := by
  obtain ⟨hproper, hwithin, hobeys, hsettles, hawake⟩ := h
  rw [htodo] at hobeys hsettles hawake
  have hlater : .standby true ∈ rest → s.accepted ≠ [] := fun hmem => hawake (.inr (.tail _ hmem))
  cases write with
  | timer access =>
    exact ⟨hproper, hwithin.access hobeys, hobeys.2, hsettles,
      fun hhigh => hhigh.elim (fun hnow => hawake (.inl hnow)) hlater⟩
  | standby level =>
    refine ⟨hproper, hwithin, hobeys, hsettles, fun hhigh => hhigh.elim (fun hnow => ?_) hlater⟩
    obtain rfl : level = true := hnow
    exact hawake (.inr List.mem_cons_self)
  | _ =>
    exact ⟨hproper, hwithin, hobeys, hsettles,
      fun hhigh => hhigh.elim (fun hnow => hawake (.inl hnow)) hlater⟩

theorem update_steady (h : s.Steady) :
    Steady { s with registers := { s.registers with timer := s.registers.timer.update } } := by
  obtain ⟨hwritten, hheld⟩ := s.registers.timer.update_written
  refine ⟨h.proper, h.within.update, h.obeys.congr hwritten.symm hheld.symm, ?_, h.awake⟩
  have hsettles := h.settles
  rw [executes_timer] at hsettles ⊢
  rw [← hsettles]
  exact (Registers.accesses_congr hwritten hheld _).1

/-- The port refuses a control, or has all of its writes still to do. -/
theorem portApply_cases (tim8 : Bool) (s : Drv8833System) (control : Drv8833PortControl) :
    (s.portApply tim8 control).2 = { s with todo := [] } ∨
      (s.portApply tim8 control).2 =
        { s with
          todo := .timer .hold ::
            (allChannels.map (fun channel => .timer (.write channel (control.compares channel))) ++
              [.timer .release, .standby true])
          accepted := s.accepted ++ [control] } := by
  rw [portApply, motorDriverDrv8833PortApply]
  split_ifs
  · exact .inl rfl
  · exact .inl rfl
  · exact .inr rfl

theorem portApply_steady (h : s.Steady) (hidle : s.todo = []) {control : Drv8833PortControl}
    (hcontrol : control.Proper) : (s.portApply tim8 control).2.Steady := by
  obtain hrefused | haccepted := portApply_cases tim8 s control
  · rw [hrefused, ← hidle]
    exact h
  · have hmore : settings s.accepted ⊆ settings (s.accepted ++ [control]) := by
      rintro values (hzero | ⟨old, hold, hvalues⟩)
      · exact .inl hzero
      · exact .inr ⟨old, List.mem_append_left _ hold, hvalues⟩
    rw [haccepted]
    refine ⟨?_, h.within.mono hmore, ?_, ?_, fun _ => by simp⟩
    · intro accepted hmem
      rcases List.mem_append.mp hmem with hold | hnew
      · exact h.proper accepted hold
      · rw [List.mem_singleton.mp hnew]
        exact hcontrol
    · refine Registers.obeys_block
        (allChannels.map fun channel => (channel, control.compares channel)) ?_
      rw [List.map_map]
      refine .inr ⟨control, by simp, ?_⟩
      exact accesses_compares _ _
    · have hlast : (s.accepted ++ [control]).getLastD {} = control := by simp
      rw [executes_timer, hlast]
      exact accesses_compares (s.registers.timer.access .hold) control.compares

theorem call_steady (h : s.Steady) (hidle : s.todo = []) (call : MotorCall) :
    (s.call tim8 call).2.Steady := by
  cases call with
  | stop =>
    rw [Drv8833System.call]
    split_ifs
    · exact portApply_steady h hidle (.inl rfl)
    · exact h
  | apply c =>
    rw [Drv8833System.call]
    split_ifs
    · cases hcontrol : drv8833ControlFromCommand c with
      | none => exact h
      | some control => exact portApply_steady h hidle (.inr ⟨c, hcontrol⟩)
    · exact h

theorem Reaches.steady (h : Reaches tim8 s) : s.Steady := by
  induction h with
  | start starts => exact init_steady starts
  | call _ hidle call ih => exact call_steady ih hidle call
  | write _ htodo ih => exact write_steady ih htodo
  | update _ ih => exact update_steady ih

/-- Wherever the timer updates, the four compare values in force are those of one control that the
driver accepted, or the zeros of the reset: no period mixes two controls, and none drives both
inputs of a wheel unless it brakes. The driver stage is awake only after a call was accepted, and
once the writes of a call are done the control accepted last has been written. -/
theorem settings_come_into_force_whole (h : Reaches tim8 s) :
    (s.registers.timer.inForce = compares {} ∨
        ∃ control ∈ s.accepted, s.registers.timer.inForce = control.compares) ∧
      OneSided s.registers.timer.inForce ∧
      (s.registers.standby = true → s.accepted ≠ []) ∧
      (s.todo = [] → s.registers.timer.written = (s.accepted.getLastD {}).compares) := by
  have hsteady := h.steady
  refine ⟨hsteady.within.inForce, ?_, fun hhigh => hsteady.awake (.inl hhigh), ?_⟩
  · obtain hzero | ⟨control, haccepted, hvalues⟩ := hsteady.within.inForce
    · rw [hzero]
      exact oneSided_zero
    · rw [hvalues]
      exact (hsteady.proper control haccepted).oneSided
  · intro hidle
    have hsettles := hsteady.settles
    rw [hidle] at hsettles
    exact hsettles

theorem Reaches.flush (h : Reaches tim8 s) :
    Reaches tim8 { s with registers := s.registers.executes s.todo, todo := [] } := by
  obtain ⟨initialized, registers, todo, accepted⟩ := s
  induction todo generalizing registers with
  | nil => exact h
  | cons write rest ih => exact ih _ (h.write rfl)

/-- A turn on the spot with an update after three of its seven writes. -/
theorem settings_come_into_force_whole_turning :
    ∃ s : Drv8833System, s.todo.length = 4 ∧ s.accepted.length = 1 ∧
      s.registers.timer.written .channel1 = 9000 ∧ OneSided s.registers.timer.inForce := by
  have hready := (Reaches.start fun _ => true : Reaches true _).flush
  have hturn := hready.call rfl (.apply ⟨500, -500⟩)
  exact ⟨_, rfl, rfl, rfl,
    (settings_come_into_force_whole (((hturn.write rfl).write rfl).write rfl).update).2.1⟩

end Drv8833System

end IndoorRobot
