import IndoorRobot.FeedforwardLaw
import IndoorRobot.ManualFrames
import IndoorRobot.MotorDemand

/-!
# From the sticks to the motors

The manual drive program on the Pi, a wire that may lose frames, and the firmware of the
STM32 behind it. The commands the motor driver has taken stem from the sticks, each by a
wheel frame of its own, and never ask for more than a third of what the motors can do.
-/
namespace IndoorRobot

open EventLogs BinaryRounding

theorem UartProtocolReceiverResult.motorCommand_eq (received : UartProtocolReceiverResult) :
    received.motorCommand = received.frame?.bind ProtocolFrame.motorCommand := by
  cases received <;> rfl

/-- The frames the iterations of the main loop have received. -/
def Firmware.received (iterations : List (UInt32 × UartProtocolReceiverResult)) :
    List ProtocolFrame :=
  iterations.filterMap fun i => i.2.frame?

/-- The frames the client has sent. -/
def Stm32ClientRunner.sentFrames (r : Stm32ClientRunner) : List ProtocolFrame :=
  r.log.filterMap ClientEvent.sentFrame

/-! ### One wheel -/

/-- The motor pulls to the side of `x`, if at all, and with a third of its power at most. -/
structure Pulls (command : Int16) (x : ℚ) : Prop where
  limit : |command.toInt| ≤ 335
  side : SameSide x command.toInt

theorem law_mono {v w : ℤ} (h : v ≤ w) :
    Firmware.feedforwardConfig.law v ≤ Firmware.feedforwardConfig.law w :=
  DeadBands.scale_mono h

theorem law_limit {v : ℤ} (h : |v| ≤ 120) : |Firmware.feedforwardConfig.law v| ≤ 335 := by
  obtain ⟨hlow, hhigh⟩ := abs_le.mp h
  exact abs_le.mpr ⟨law_mono hlow, law_mono hhigh⟩

theorem law_side (v : ℤ) : SameSide v (Firmware.feedforwardConfig.law v) where
  nonneg hv := by
    have hlaw : 0 ≤ Firmware.feedforwardConfig.law v := law_mono (v := 0) (by exact_mod_cast hv)
    exact_mod_cast hlaw
  nonpos hv := by
    have hlaw : Firmware.feedforwardConfig.law v ≤ 0 := law_mono (w := 0) (by exact_mod_cast hv)
    exact_mod_cast hlaw

theorem StandsFor.pulls {v command : Int16} {x : ℚ} (h : StandsFor v.toInt 120 x)
    (hconvert : wheelVelocityFeedforwardConvertOne Firmware.feedforwardConfig v = some command) :
    Pulls command x := by
  have hlaw : command.toInt = Firmware.feedforwardConfig.law v.toInt := by
    obtain ⟨c, hc, hlaw⟩ : ∃ c, wheelVelocityFeedforwardConvertOne Firmware.feedforwardConfig v =
        some c ∧ c.toInt = Firmware.feedforwardConfig.law v.toInt :=
      WheelVelocityFeedforwardConfig.convertOne_eq (by decide) (by decide) v
    rw [hconvert, Option.some.injEq] at hc
    rw [hc, hlaw]
  have hscaled : SameSide x ((120 : ℤ) * x) :=
    ⟨fun hx => by push_cast; linarith, fun hx => by push_cast; linarith⟩
  constructor
  · rw [hlaw]
    exact law_limit h.limit
  · rw [hlaw]
    exact hscaled.trans (h.side.trans (law_side v.toInt))

/-! ### The whole way -/

namespace ManualControl

/-- The motors pull as the sticks are pushed. -/
def Drives (command : MotorDriverCommand) (forward steering : ℚ) : Prop :=
  ∃ t, IsGreatest (Fitting (forward + steering) (forward - steering)) t ∧
    Pulls command.left (t * (forward + steering)) ∧ Pulls command.right (t * (forward - steering))

theorem Drives.of_follows {velocities : WheelVelocityCommand} {command : MotorDriverCommand}
    {forward steering : ℚ} (h : Follows velocities 120 forward steering)
    (hconvert : wheelVelocityFeedforwardConvert Firmware.feedforwardConfig velocities =
      some command) : Drives command forward steering := by
  obtain ⟨t, ht, hleft, hright⟩ := h
  obtain ⟨left, hconvertLeft, hrest⟩ := Option.bind_eq_some_iff.mp hconvert
  obtain ⟨right, hconvertRight, hcommand⟩ := Option.bind_eq_some_iff.mp hrest
  cases hcommand
  exact ⟨t, ht, hleft.pulls hconvertLeft, hright.pulls hconvertRight⟩

/-- The motor command stems from the wheel frame that the client has sent at this place of its log,
the frame's velocities stem from channels of the receiver, and the motors pull as the sticks of
these channels are pushed. -/
def DrivenAt (m : ManualControl) (command : MotorDriverCommand) (place : ℕ) : Prop :=
  ∃ f time channels, m.runner.log[place]? = some (.sent f time) ∧ f.messageType = .wheelVelocity ∧
    wheelVelocityFeedforwardConvert Firmware.feedforwardConfig
      (wheelVelocityPayloadDecode f.payload.bytes).command = some command ∧
    Steered m (m.runner.log.take place) (wheelVelocityPayloadDecode f.payload.bytes).command time
      channels ∧
    Drives command (deflection channels.forward) (deflection channels.steering)

theorem drivenAt_of_stem {m : ManualControl} (h : m.Reported) (hgated : Gated manualCommand m)
    {command : MotorDriverCommand} {place : ℕ}
    (hstem : Stem ClientEvent.motorCommand m.runner.log command place) : DrivenAt m command place := by
  obtain ⟨e, hplace, he⟩ := hstem
  obtain ⟨f, time, rfl, htype, hconvert⟩ := ClientEvent.motorCommand_some he
  obtain ⟨hlt, hget⟩ := List.getElem?_eq_some_iff.mp hplace
  have hlog : m.runner.log = m.runner.log.take place ++ .sent f time :: m.runner.log.drop (place + 1) := by
    rw [← hget, List.getElem_cons_drop, List.take_append_drop]
  obtain ⟨channels, hsteered⟩ := h.steered hgated hlog htype
  refine ⟨f, time, channels, hplace, htype, hconvert, hsteered, ?_⟩
  obtain ⟨_, _, _, _, -, -, -, -, -, -, -, -, hfollows⟩ := hsteered
  exact .of_follows hfollows hconvert

/-- **From the sticks to the motors.** Whatever the receiver, the link, the clocks and the ports do,
and whichever of the program's frames reach the firmware among the results of its receiver: the
commands that the motor driver has taken stem from the sticks, each by a wheel frame of its own, in
the order the frames were sent. -/
theorem motor_commands_follow_sticks (clientEnv : ℕ → ClientAnswer)
    (receiver : ℕ → Option (List UInt8)) (clock : ℤ) (n k : ℕ) (boardEnv : ℕ → PortAnswer)
    (portInit : Bool) (counts : WheelEncoderCounts) (bootMs : UInt32) (start : Firmware)
    (hboot : Firmware.boot portInit counts bootMs = some start)
    (iterations : List (UInt32 × UartProtocolReceiverResult))
    (hwire : (Firmware.received iterations).Sublist
      (manualControlProbe clientEnv receiver manualCommand clock n k).runner.sentFrames) :
    ∃ places : List ℕ, places.Pairwise (· < ·) ∧
      List.Forall₂ (DrivenAt (manualControlProbe clientEnv receiver manualCommand clock n k))
        (driven (start.loop boardEnv iterations).motion.board.log) places := by
  have hreported := manualControlProbe_reported clientEnv receiver manualCommand clock n k
  have hgated : Gated manualCommand (manualControlProbe clientEnv receiver manualCommand clock n k) :=
    manualControlProbe_gated clientEnv receiver clock n k
  generalize manualControlProbe clientEnv receiver manualCommand clock n k = m at hwire hreported hgated ⊢
  obtain ⟨_, htraces⟩ := (Firmware.boot_traces bootMs hboot).loop boardEnv iterations
  have hcommands : iterations.filterMap (fun i => i.2.motorCommand) =
      (Firmware.received iterations).filterMap ProtocolFrame.motorCommand := by
    rw [Firmware.received, List.filterMap_filterMap]
    exact List.filterMap_congr fun i _ => i.2.motorCommand_eq
  have hasked : (driven (start.loop boardEnv iterations).motion.board.log).Sublist
      (m.runner.log.filterMap ClientEvent.motorCommand) := by
    refine htraces.taken.trans ?_
    rw [List.nil_append, hcommands]
    have hfiltered := hwire.filterMap ProtocolFrame.motorCommand
    rwa [Stm32ClientRunner.sentFrames, List.filterMap_filterMap] at hfiltered
  obtain ⟨places, hincreasing, hplaces⟩ := exists_places hasked
  exact ⟨places, hincreasing, hplaces.imp fun _ _ => drivenAt_of_stem hreported hgated⟩

/-- Every frame of the program arrives, and the firmware has the time to confirm a stop after it. -/
def arrivals : UInt32 → List ProtocolFrame → List (UInt32 × UartProtocolReceiverResult)
  | _, [] => []
  | nowMs, f :: frames =>
    (nowMs, .frame f) :: (nowMs + 10, .none) :: (nowMs + 250, .none) :: arrivals (nowMs + 260) frames

theorem received_arrivals (nowMs : UInt32) (frames : List ProtocolFrame) :
    Firmware.received (arrivals nowMs frames) = frames := by
  induction frames generalizing nowMs with
  | nil => rfl
  | cons f frames ih => exact congrArg (f :: ·) (ih (nowMs + 260))

/-- The firmware behind a port that works. -/
def bootedFirmware : Firmware := (Firmware.boot true {} 0).getD {}

theorem motor_commands_follow_sticks_full_forward :
    driven (bootedFirmware.loop (fun _ => {}) (arrivals 0 (manualControlProbe drivingBoard armingReceiver
        manualCommand 5 5 0).runner.sentFrames)).motion.board.log = [{ left := 335, right := 335 }] ∧
      ∃ place, DrivenAt (manualControlProbe drivingBoard armingReceiver manualCommand 5 5 0)
        { left := 335, right := 335 } place := by
  have hdriven : driven (bootedFirmware.loop (fun _ => {}) (arrivals 0 (manualControlProbe drivingBoard
      armingReceiver manualCommand 5 5 0).runner.sentFrames)).motion.board.log =
        [{ left := 335, right := 335 }] := by
    decide +kernel
  obtain ⟨places, -, hplaces⟩ := motor_commands_follow_sticks drivingBoard armingReceiver 5 5 0
    (fun _ => {}) true {} 0 bootedFirmware rfl (arrivals 0 (manualControlProbe drivingBoard
      armingReceiver manualCommand 5 5 0).runner.sentFrames) (by rw [received_arrivals])
  rw [hdriven] at hplaces
  cases hplaces with
  | cons hdrivenAt _ => exact ⟨hdriven, _, hdrivenAt⟩

end ManualControl

end IndoorRobot
