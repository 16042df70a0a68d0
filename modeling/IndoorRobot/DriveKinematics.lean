import IndoorRobot.FloatingNumbers
import IndoorRobot.ManualMixing
import IndoorRobot.PiMotionCoordinator

/-!
# The kinematics of the drive

`differential_drive_kinematics.cpp` in `binary64`, under the motion coordinator. A compiler
may contract the product and the sum of a wheel into one operation or not. Whatever the
coordinator hands to the motors is finite and close to the kinematics of the command.
-/
namespace IndoorRobot.Pi

open BinaryRounding FloatingNumbers

abbrev Double := Number binary64 (2 ^ 1024)

structure MotionCommand where
  linearVelocityMps : Double
  angularVelocityRadps : Double

structure WheelVelocities where
  leftMps : Double
  rightMps : Double

structure DifferentialDriveKinematics where
  trackWidthM : Double

/-- The constructor; `none` is the exception. -/
def differentialDriveKinematics (trackWidthMm : UInt16) : Option DifferentialDriveKinematics :=
  if trackWidthMm = 0 then none else some { trackWidthM := .ofRat (trackWidthMm.toNat / 1000) }

/-- Which of the two expressions the compiler contracts. -/
structure Contraction where
  left : Bool := false
  right : Bool := false

/-- `to_wheel_velocities`. -/
def DifferentialDriveKinematics.toWheelVelocities (contraction : Contraction)
    (k : DifferentialDriveKinematics) (command : MotionCommand) : WheelVelocities :=
  let halfTrack := k.trackWidthM.divBy 2
  let linear := command.linearVelocityMps
  let angular := command.angularVelocityRadps
  { leftMps :=
      if contraction.left then linear.subMul angular halfTrack
      else linear.sub (angular.mul halfTrack)
    rightMps :=
      if contraction.right then linear.addMul angular halfTrack
      else linear.add (angular.mul halfTrack) }

/-- `LINEAR_STOP_EPSILON_MPS` and `ANGULAR_STOP_EPSILON_RADPS`. -/
def stopEpsilon : ℚ := binary64.round (1 / 100000)

/-- The tests of `request_motion`. -/
def commandTests (contraction : Contraction) (k : DifferentialDriveKinematics) :
    CommandTests MotionCommand WheelVelocities where
  isFinite command := command.angularVelocityRadps.isFinite && command.linearVelocityMps.isFinite
  belowStopEpsilon command := command.linearVelocityMps.magnitudeBelow stopEpsilon &&
    command.angularVelocityRadps.magnitudeBelow stopEpsilon
  toWheelVelocities := k.toWheelVelocities contraction
  wheelsFinite velocities := velocities.leftMps.isFinite && velocities.rightMps.isFinite

/-! ### The wheels -/

theorem binary64_relative (x : ℚ) : |binary64.round x - x| ≤ |x| / 2 ^ 53 + 1 / 2 ^ 200 := by
  have herror : |binary64.round x - x| ≤ |x| / 2 ^ 53 + 2 ^ (-1074 : ℤ) / 2 :=
    Format.abs_round_sub_le_relative (f := binary64) x
  have htiny : (2 : ℚ) ^ (-1074 : ℤ) ≤ 2 ^ (-200 : ℤ) :=
    zpow_le_zpow_right₀ (by norm_num) (by norm_num)
  have hpower : (2 : ℚ) ^ (-200 : ℤ) = 1 / 2 ^ 200 := by norm_num
  have hpos : (0 : ℚ) < 1 / 2 ^ 200 := by positivity
  rw [hpower] at htiny
  linarith

/-- One wheel: the track is known to one part in 2 ^ 52, the product is rounded once at most, and
the sum is rounded. -/
theorem abs_wheel_sub_le {v w p track half : ℚ} (htrack : 0 ≤ track)
    (hhalf : |half - track / 2| ≤ track / 2 ^ 52)
    (hp : |p - w * half| ≤ |w * half| / 2 ^ 53 + 1 / 2 ^ 200) :
    |binary64.round (v + p) - (v + w * (track / 2))| ≤
      (|v| + 4 * (|w| * track)) / 2 ^ 53 + 1 / 2 ^ 198 := by
  have hround := binary64_relative (v + p)
  have hsum : |v + p| ≤ |v| + |p| := abs_add_le v p
  have hproduct : |w * half - w * (track / 2)| ≤ |w| * track / 2 ^ 52 := by
    rw [← mul_sub, abs_mul, mul_div_assoc]
    exact mul_le_mul_of_nonneg_left hhalf (abs_nonneg w)
  have hsize : |w * half| ≤ |w| * track / 2 + |w| * track / 2 ^ 52 := by
    have hideal : |w * (track / 2)| = |w| * track / 2 := by
      rw [abs_mul, abs_of_nonneg (by linarith : 0 ≤ track / 2), mul_div_assoc]
    have htriangle := abs_sub_abs_le_abs_sub (w * half) (w * (track / 2))
    linarith
  have hpsize : |p| ≤ |w * half| + (|w * half| / 2 ^ 53 + 1 / 2 ^ 200) := by
    have htriangle := abs_sub_abs_le_abs_sub p (w * half)
    linarith
  have hsplit : binary64.round (v + p) - (v + w * (track / 2)) =
      (binary64.round (v + p) - (v + p)) + (p - w * half) + (w * half - w * (track / 2)) := by ring
  have htotal := abs_add_three (binary64.round (v + p) - (v + p)) (p - w * half)
    (w * half - w * (track / 2))
  have hturn : 0 ≤ |w| * track := mul_nonneg (abs_nonneg w) htrack
  rw [hsplit]
  linarith [abs_nonneg v, abs_nonneg (w * half)]

/-- Nothing of ordinary size overflows. -/
theorem abs_round_lt_limit {x : ℚ} (hx : |x| ≤ 2 ^ 52) : |binary64.round x| < 2 ^ 1024 := by
  have hholds : binary64.Holds (2 ^ 52) := by
    exact_mod_cast binary64_holds_intCast (n := (2 : ℤ) ^ (52 : ℕ)) (by norm_num)
  calc |binary64.round x| ≤ 2 ^ 52 := hholds.abs_round_le hx
    _ < 2 ^ 1024 := pow_lt_pow_right₀ (by norm_num) (by norm_num)

theorem binary64_normal {x : ℚ} (hx : 1 / 2 ^ 100 ≤ x) : binary64.Normal x := by
  refine Format.normal_of_le (le_trans ?_ (hx.trans (le_abs_self x)))
  have htiny : (2 : ℚ) ^ (-1074 + 53 - 1 : ℤ) ≤ 2 ^ (-100 : ℤ) :=
    zpow_le_zpow_right₀ (by norm_num) (by norm_num)
  refine htiny.trans (le_of_eq ?_)
  norm_num

/-- The half of the track is two roundings off. -/
theorem near_halfTrack {width : ℚ} (hwidth : 1 / 1000 ≤ width) :
    Near (1 / 2 ^ 53) 2 (width / 2) (binary64.round (binary64.round width / 2)) := by
  have htrack : Near (1 / 2 ^ 53) 1 width (binary64.round width) :=
    Near.round (f := binary64) (by linarith) (.inr (binary64_normal (by linarith)))
  have hlow := htrack.half_le (by linarith) (by norm_num) (by norm_num)
  have hhalf : Near (1 / 2 ^ 53) 1 (binary64.round width / 2)
      (binary64.round (binary64.round width / 2)) :=
    Near.round (f := binary64) (by linarith) (.inr (binary64_normal (by linarith)))
  have hhalved := htrack.mul (by norm_num : (0 : ℚ) ≤ 1 / 2)
  rw [one_div_mul_eq_div, one_div_mul_eq_div] at hhalved
  exact hhalved.trans (by norm_num) hhalf

theorem halfTrack_value {trackWidthMm : UInt16} {k : DifferentialDriveKinematics}
    (hk : differentialDriveKinematics trackWidthMm = some k) :
    ∃ half, (k.trackWidthM.divBy 2).value = some half ∧
      |half - trackWidthMm.toNat / 1000 / 2| ≤ trackWidthMm.toNat / 1000 / 2 ^ 52 := by
  rw [differentialDriveKinematics] at hk
  split_ifs at hk with hzero
  cases hk
  have hpositive : (1 : ℚ) ≤ trackWidthMm.toNat := by
    have hne : trackWidthMm.toNat ≠ 0 := fun h => hzero (UInt16.toNat_inj.mp h)
    exact_mod_cast Nat.pos_of_ne_zero hne
  have hlimit : (trackWidthMm.toNat : ℚ) ≤ 2 ^ 16 := by exact_mod_cast trackWidthMm.toNat_lt.le
  have hlow : (1 : ℚ) / 1000 ≤ trackWidthMm.toNat / 1000 := by linarith
  have hhigh : (trackWidthMm.toNat : ℚ) / 1000 ≤ 66 := by linarith
  generalize (trackWidthMm.toNat : ℚ) / 1000 = width at hlow hhigh ⊢
  have hclose := (near_halfTrack hlow).abs_sub_le (by linarith) (by norm_num) (by norm_num)
    (by norm_num)
  have hround : |binary64.round width| ≤ 66 := by
    have hholds : binary64.Holds 66 := by
      exact_mod_cast binary64_holds_intCast (n := 66) (by norm_num)
    exact hholds.abs_round_le (by rw [abs_of_nonneg (by linarith)]; exact hhigh)
  refine ⟨binary64.round (binary64.round width / 2), ?_, ?_⟩
  · refine Number.value_divBy (Number.value_ofRat (abs_round_lt_limit ?_)) (abs_round_lt_limit ?_)
    · rw [abs_of_nonneg (by linarith)]
      linarith
    · rw [abs_div, abs_of_pos (by norm_num : (0 : ℚ) < 2)]
      linarith
  · push_cast at hclose
    linarith

/-- The wheels turn as the kinematics of the command asks, up to the roundings. -/
def Realizes (trackWidthMm : UInt16) (velocities : WheelVelocities) (command : MotionCommand) :
    Prop :=
  ∃ v w left right, command.linearVelocityMps.value = some v ∧
    command.angularVelocityRadps.value = some w ∧ (stopEpsilon ≤ |v| ∨ stopEpsilon ≤ |w|) ∧
    velocities.leftMps.value = some left ∧ velocities.rightMps.value = some right ∧
    |left - (v - w * (trackWidthMm.toNat / 1000 / 2))| ≤
      (|v| + 4 * (|w| * (trackWidthMm.toNat / 1000))) / 2 ^ 53 + 1 / 2 ^ 198 ∧
    |right - (v + w * (trackWidthMm.toNat / 1000 / 2))| ≤
      (|v| + 4 * (|w| * (trackWidthMm.toNat / 1000))) / 2 ^ 53 + 1 / 2 ^ 198

/-- What a finite wheel is made of: the product, rounded or not, and the sum. -/
theorem wheel_value {exact : ℚ → ℚ → ℚ} {special : Double → Double → Double}
    (hspecial : ∀ x y, (special x y).value = none) {linear angular halfTrack : Double} {half r : ℚ}
    (hhalf : halfTrack.value = some half) {contracted : Bool} {w : ℚ}
    (hw : angular.value = some w)
    (h : (if contracted then Number.fused exact special linear angular halfTrack
      else Number.lift exact special linear (angular.mul halfTrack)).value = some r) :
    ∃ v p, linear.value = some v ∧ |p - w * half| ≤ |w * half| / 2 ^ 53 + 1 / 2 ^ 200 ∧
      r = binary64.round (exact v p) := by
  split_ifs at h
  · obtain ⟨v, hv, hr⟩ := Number.value_fused hw hhalf h
    refine ⟨v, w * half, hv, ?_, hr⟩
    rw [sub_self, abs_zero]
    positivity
  · obtain ⟨v, p, hv, hp, hr⟩ := Number.value_lift hspecial h
    obtain ⟨w', half', hw', hhalf', hproduct⟩ := Number.value_mul hp
    rw [hw, Option.some.injEq] at hw'
    rw [hhalf, Option.some.injEq] at hhalf'
    refine ⟨v, p, hv, ?_, hr⟩
    rw [hproduct, ← hw', ← hhalf']
    exact binary64_relative (w * half)

theorem realizes_toWheelVelocities {trackWidthMm : UInt16} {k : DifferentialDriveKinematics}
    (hk : differentialDriveKinematics trackWidthMm = some k) (contraction : Contraction)
    {command : MotionCommand} (hfinite : (commandTests contraction k).isFinite command = true)
    (hmoves : ¬ (commandTests contraction k).belowStopEpsilon command = true)
    (hwheels : (commandTests contraction k).wheelsFinite (k.toWheelVelocities contraction command) =
      true) : Realizes trackWidthMm (k.toWheelVelocities contraction command) command := by
  obtain ⟨half, hhalf, hclose⟩ := halfTrack_value hk
  obtain ⟨hangular, hlinear⟩ := Bool.and_eq_true_iff.mp hfinite
  obtain ⟨w, hw⟩ := Number.isFinite_iff.mp hangular
  obtain ⟨v, hv⟩ := Number.isFinite_iff.mp hlinear
  obtain ⟨hleft, hright⟩ := Bool.and_eq_true_iff.mp hwheels
  obtain ⟨left, hleft⟩ := Number.isFinite_iff.mp hleft
  obtain ⟨right, hright⟩ := Number.isFinite_iff.mp hright
  have htrack : (0 : ℚ) ≤ trackWidthMm.toNat / 1000 := by positivity
  refine ⟨v, w, left, right, hv, hw, ?_, hleft, hright, ?_, ?_⟩
  · by_contra hstop
    rw [not_or, not_le, not_le] at hstop
    refine hmoves (Bool.and_eq_true_iff.mpr ⟨?_, ?_⟩)
    · simp [Number.magnitudeBelow, hv, hstop.1]
    · simp [Number.magnitudeBelow, hw, hstop.2]
  · obtain ⟨v', p, hv', hp, rfl⟩ := wheel_value Number.subSpecial_value hhalf hw hleft
    rw [hv, Option.some.injEq] at hv'
    subst hv'
    have hwheel := abs_wheel_sub_le (v := v) (w := -w) (p := -p) htrack hclose (by
      rw [neg_mul, abs_neg, neg_sub_neg, abs_sub_comm]
      exact hp)
    rwa [abs_neg, neg_mul, ← sub_eq_add_neg, ← sub_eq_add_neg] at hwheel
  · obtain ⟨v', p, hv', hp, rfl⟩ := wheel_value Number.addSpecial_value hhalf hw hright
    rw [hv, Option.some.injEq] at hv'
    subst hv'
    exact abs_wheel_sub_le htrack hclose hp

/-! ### The coordinator -/

/-- The velocities a motor call asks for. -/
def MotorControllerCall.velocities {Velocities : Type*} : MotorControllerCall Velocities → Option Velocities
  | .setWheelVelocities velocities _ => some velocities
  | .stop _ => none

/-- The command of a request. -/
def CoordinatorCall.command {Command : Type*} : CoordinatorCall Command → Option Command
  | .requestMotion _ command _ _ _ => some command
  | _ => none

namespace MotionCoordinator

variable {Command Velocities : Type*} (tests : CommandTests Command Velocities)

/-- The velocities the motors were asked for. -/
def velocities (c : MotionCoordinator Velocities) : List Velocities :=
  c.motorCalls.filterMap MotorControllerCall.velocities

@[simp] theorem velocities_motorStop (c : MotionCoordinator Velocities) (ok : Bool) :
    (c.motorStop ok).velocities = c.velocities := by
  rw [velocities, motorStop, List.filterMap_append]
  exact List.append_nil _

@[simp] theorem velocities_setWheelVelocities (c : MotionCoordinator Velocities)
    (velocities : Velocities) (ok : Bool) :
    (c.setWheelVelocities velocities ok).velocities = c.velocities ++ [velocities] := by
  rw [MotionCoordinator.velocities, setWheelVelocities, List.filterMap_append]
  rfl

@[simp] theorem velocities_latchFault (c : MotionCoordinator Velocities) :
    c.latchFault.velocities = c.velocities := rfl

/-- The command has passed every test of `request_motion`. -/
structure Passes (command : Command) : Prop where
  isFinite : tests.isFinite command = true
  moves : ¬ tests.belowStopEpsilon command = true
  wheelsFinite : tests.wheelsFinite (tests.toWheelVelocities command) = true

theorem requestMotion_velocities (c : MotionCoordinator Velocities) (requester : ControlAuthority)
    (command : Command) (now : ℤ) (setOk stopOk : Bool) :
    (c.requestMotion tests requester command now setOk stopOk).2.velocities = c.velocities ∨
      Passes tests command ∧
        (c.requestMotion tests requester command now setOk stopOk).2.velocities =
          c.velocities ++ [tests.toWheelVelocities command] := by
  rw [requestMotion]
  dsimp only
  split_ifs with hrequester hfinite hstop hstopOk hsafe hwheels hsetOk
  · exact .inl rfl
  · exact .inl (velocities_motorStop c stopOk)
  · exact .inl (velocities_motorStop c stopOk)
  · exact .inr ⟨⟨hfinite, hstop, hwheels⟩, velocities_setWheelVelocities c _ setOk⟩
  · refine .inr ⟨⟨hfinite, hstop, hwheels⟩, ?_⟩
    rw [velocities_motorStop, velocities_latchFault, velocities_setWheelVelocities]
  · exact .inl rfl
  · exact .inl rfl
  · exact .inl rfl

/-- Of all the calls only `request_motion` asks for velocities, those of a command that passes. -/
theorem call_velocities (c : MotionCoordinator Velocities) (request : CoordinatorCall Command) :
    (c.call tests request).2.velocities = c.velocities ∨
      ∃ command, request.command = some command ∧ Passes tests command ∧
        (c.call tests request).2.velocities = c.velocities ++ [tests.toWheelVelocities command] := by
  cases request with
  | requestMotion requester command now setOk stopOk =>
    rcases requestMotion_velocities tests c requester command now setOk stopOk with hsame | ⟨hpasses, hset⟩
    · exact .inl hsame
    · exact .inr ⟨command, rfl, hpasses, hset⟩
  | requestManualControl =>
    have hstate := c.requestManualControl_state
    left
    rw [call, Prod.map_snd, id, hstate]
    rfl
  | requestAutonomousControl stopOk =>
    left
    rw [call, Prod.map_snd, id, requestAutonomousControl_state]
    split_ifs
    · rfl
    · exact velocities_motorStop c true
    · exact velocities_motorStop c false
  | stopAndReleaseControl stopOk =>
    left
    rw [call, Prod.map_snd, id, stopAndReleaseControl_state]
    split_ifs
    · exact velocities_motorStop c true
    · exact velocities_motorStop c false
  | tick now stopOk =>
    left
    rw [call, Prod.map_snd, id, tick]
    dsimp only
    split_ifs
    · exact velocities_motorStop c stopOk
    · exact velocities_motorStop c stopOk
    · rfl
  | reportEstop stopOk =>
    left
    rw [call, Prod.map_snd, id, reportEstop]
    dsimp only
    split_ifs <;> exact velocities_motorStop c stopOk
  | clearEstop stopOk =>
    left
    rw [call, Prod.map_snd, id, clearEstop]
    dsimp only
    split_ifs
    · exact velocities_motorStop c stopOk
    · exact velocities_motorStop c stopOk
    · rfl
  | reportHardwareFault stopOk =>
    left
    rw [call, Prod.map_snd, id, reportHardwareFault]
    dsimp only
    split_ifs <;> exact velocities_motorStop c stopOk
  | clearHardwareFault stopOk =>
    left
    rw [call, Prod.map_snd, id, clearHardwareFault]
    dsimp only
    split_ifs
    · exact velocities_motorStop c stopOk
    · exact velocities_motorStop c stopOk
    · rfl

theorem calls_velocities (c : MotionCoordinator Velocities) (cs : List (CoordinatorCall Command)) :
    ∃ commands : List Command, commands.Sublist (cs.filterMap CoordinatorCall.command) ∧
      (∀ command ∈ commands, Passes tests command) ∧
      (c.calls tests cs).velocities = c.velocities ++ commands.map tests.toWheelVelocities := by
  induction cs generalizing c with
  | nil => exact ⟨[], List.Sublist.refl _, by simp, (List.append_nil _).symm⟩
  | cons request cs ih =>
    obtain ⟨commands, hsublist, hpasses, hvelocities⟩ := ih (c.call tests request).2
    have hcalls : (c.calls tests (request :: cs)).velocities = _ := hvelocities
    rcases call_velocities tests c request with hsame | ⟨command, hcommand, hpass, hset⟩
    · refine ⟨commands, hsublist.trans ?_, hpasses, ?_⟩
      · exact (List.sublist_cons_self request cs).filterMap _
      · rw [hcalls, hsame]
    · refine ⟨command :: commands, ?_, ?_, ?_⟩
      · rw [List.filterMap_cons, hcommand]
        exact hsublist.cons_cons command
      · intro other hother
        rcases List.mem_cons.mp hother with rfl | hmem
        · exact hpass
        · exact hpasses other hmem
      · rw [hcalls, hset, List.map_cons, List.append_assoc, List.singleton_append]

/-- In every run of the coordinator, however the compiler contracts the kinematics, the velocities it
has asked the motors for stem from the commands of its requests, each from one of its own and in
their order; the command is finite and no stop, and the wheels are finite and as the kinematics asks,
up to the roundings. -/
theorem wheels_realize_commands (contraction : Contraction) (trackWidthMm : UInt16)
    (k : DifferentialDriveKinematics) (hk : differentialDriveKinematics trackWidthMm = some k)
    (watchdog : MotionWatchdog) (cs : List (CoordinatorCall MotionCommand)) :
    let c : MotionCoordinator WheelVelocities :=
      calls (commandTests contraction k) { watchdog := watchdog } cs
    ∃ commands : List MotionCommand, commands.Sublist (cs.filterMap CoordinatorCall.command) ∧
      List.Forall₂ (Realizes trackWidthMm) c.velocities commands := by
  intro c
  obtain ⟨commands, hsublist, hpasses, hvelocities⟩ := calls_velocities (commandTests contraction k)
    { watchdog := watchdog } cs
  have hc : c.velocities = commands.map (k.toWheelVelocities contraction) := hvelocities
  refine ⟨commands, hsublist, ?_⟩
  rw [hc, List.forall₂_map_left_iff, List.forall₂_same]
  intro command hcommand
  have hpass := hpasses command hcommand
  exact realizes_toWheelVelocities hk contraction hpass.isFinite hpass.moves hpass.wheelsFinite

/-- A quarter of a metre and half a radian a second. -/
def gentleCurve : MotionCommand := { linearVelocityMps := .ofRat (1 / 4), angularVelocityRadps := .ofRat (1 / 2) }

/-- The robot's own track. -/
def robotKinematics : DifferentialDriveKinematics := { trackWidthM := .ofRat ((120 : UInt16).toNat / 1000) }

theorem wheels_realize_commands_gentle_curve :
    differentialDriveKinematics 120 = some robotKinematics ∧
      ∃ velocities, (calls (commandTests {} robotKinematics) { watchdog := { timeout := 500 } }
        [.requestManualControl, .requestMotion .manual gentleCurve 0 true true]).velocities =
          [velocities] ∧
      Realizes 120 velocities gentleCurve := by
  have hk : differentialDriveKinematics 120 = some robotKinematics := if_neg (by decide)
  obtain ⟨commands, hsublist, hrealizes⟩ := wheels_realize_commands {} 120 robotKinematics hk
    { timeout := 500 } [.requestManualControl, .requestMotion .manual gentleCurve 0 true true]
  have hlength : (calls (commandTests {} robotKinematics) { watchdog := { timeout := 500 } }
      [.requestManualControl, .requestMotion .manual gentleCurve 0 true true]).velocities.length = 1 := by
    decide +kernel
  obtain ⟨velocities, hvelocities⟩ := List.length_eq_one_iff.mp hlength
  rw [hvelocities] at hrealizes
  cases hrealizes with
  | @cons _ command _ rest hrealized hrest =>
    cases hrest
    have hcommand : command = gentleCurve := List.mem_singleton.mp (hsublist.subset List.mem_cons_self)
    exact ⟨hk, velocities, hvelocities, hcommand ▸ hrealized⟩

end MotionCoordinator

end IndoorRobot.Pi
