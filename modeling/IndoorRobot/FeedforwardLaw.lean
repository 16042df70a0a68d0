import IndoorRobot.DeadBands
import IndoorRobot.MotionProtocolManager

/-!
# The law of the feed-forward conversion

`wheel_velocity_feedforward.c` computes in 32 bits what the dead-band scale is in exact
integers, for every configuration the manager accepts and every velocity, the least one
included.
-/
namespace IndoorRobot

open DeadBands

/-- The intermediate results of `wheel_velocity_feedforward_convert_one`, in exact integers. -/
structure FeedforwardSteps where
  negatedVelocity : ℤ
  commandRange : ℤ
  product : ℤ
  commandMagnitude : ℤ

def feedforwardSteps (config : WheelVelocityFeedforwardConfig) (velocityMmS : Int16) :
    FeedforwardSteps :=
  let maximum : ℤ := config.maxVelocityMmS.toNat
  let commandRange := 1000 - (config.minimumStartCommand.toNat : ℤ)
  let product := min (velocityMmS.toInt.natAbs : ℤ) maximum * commandRange
  { negatedVelocity := -velocityMmS.toInt
    commandRange := commandRange
    product := product
    commandMagnitude := config.minimumStartCommand.toNat + product / maximum }

/-- Each result is in the range of the type it is computed in; the last one is converted to
`int16_t`. -/
structure FeedforwardSteps.Fit (s : FeedforwardSteps) : Prop where
  negatedVelocity : -2 ^ 31 ≤ s.negatedVelocity ∧ s.negatedVelocity < 2 ^ 31
  commandRange : 0 ≤ s.commandRange ∧ s.commandRange < 2 ^ 32
  product : 0 ≤ s.product ∧ s.product < 2 ^ 32
  commandMagnitude : 0 ≤ s.commandMagnitude ∧ s.commandMagnitude < 2 ^ 15

namespace WheelVelocityFeedforwardConfig

/-- The scale of a configuration. -/
def law (config : WheelVelocityFeedforwardConfig) (v : ℤ) : ℤ :=
  scale config.minimumStartCommand.toNat 1000 config.maxVelocityMmS.toNat v

/-- The magnitude survives the way through `int32_t` and `uint32_t`, that of -32768 as well. -/
theorem magnitude_toNat (v : Int16) :
    (if v.toInt32 < 0 then (-v.toInt32).toUInt32 else v.toInt32.toUInt32).toNat =
      v.toInt.natAbs := by
  have hlow := v.le_toInt
  have hhigh := v.toInt_lt
  have htoNat (x : Int32) (hx : 0 ≤ x.toInt) : x.toUInt32.toNat = x.toInt.natAbs := by
    have hsigned : x.toInt = if 2 * x.toUInt32.toNat < 2 ^ 32 then (x.toUInt32.toNat : ℤ)
        else (x.toUInt32.toNat : ℤ) - 2 ^ 32 :=
      BitVec.toInt_eq_toNat_cond x.toBitVec
    have hlt := x.toUInt32.toNat_lt
    split_ifs at hsigned <;> omega
  by_cases hneg : v.toInt32 < 0
  · have hint : v.toInt < 0 := by simpa [Int32.lt_iff_toInt_lt] using hneg
    have hminus : (-v.toInt32).toInt = -v.toInt := by
      rw [Int32.toInt_neg, Int16.toInt_toInt32, Int.bmod_eq_of_le (by omega) (by omega)]
    rw [if_pos hneg, htoNat _ (by omega), hminus, Int.natAbs_neg]
  · have hint : ¬ v.toInt < 0 := by simpa [Int32.lt_iff_toInt_lt] using hneg
    rw [if_neg hneg, htoNat _ (by rw [Int16.toInt_toInt32]; omega), Int16.toInt_toInt32]

/-- The unsigned part of the conversion. -/
def commandMagnitude (config : WheelVelocityFeedforwardConfig) (magnitude : UInt32) : UInt32 :=
  config.minimumStartCommand.toUInt32 +
    (if magnitude > config.maxVelocityMmS.toUInt32 then config.maxVelocityMmS.toUInt32
      else magnitude) * (1000 - config.minimumStartCommand.toUInt32) /
        config.maxVelocityMmS.toUInt32

theorem convertOne_of_valid {config : WheelVelocityFeedforwardConfig}
    (hvalid : ¬ (config.maxVelocityMmS = 0 ∨ config.minimumStartCommand > 1000)) (v : Int16) :
    wheelVelocityFeedforwardConvertOne config v =
      if v = 0 then some 0
      else
        let command := (config.commandMagnitude
          (if v.toInt32 < 0 then (-v.toInt32).toUInt32 else v.toInt32.toUInt32)).toUInt16.toInt16
        some (if v.toInt32 < 0 then -command else command) := by
  rw [wheelVelocityFeedforwardConvertOne, if_neg hvalid]
  rfl

/-- A small magnitude survives the conversion to `int16_t`. -/
theorem toInt_command {magnitude : UInt32} {n : ℕ} (hn : n < 2 ^ 15) (h : magnitude.toNat = n) :
    magnitude.toUInt16.toInt16.toInt = n := by
  have hsmall : magnitude.toUInt16.toNat = n := by
    rw [UInt32.toNat_toUInt16, h, Nat.mod_eq_of_lt (by omega)]
  have hsigned : magnitude.toUInt16.toInt16.toInt =
      if 2 * magnitude.toUInt16.toNat < 2 ^ 16 then (magnitude.toUInt16.toNat : ℤ)
      else (magnitude.toUInt16.toNat : ℤ) - 2 ^ 16 :=
    BitVec.toInt_eq_toNat_cond magnitude.toUInt16.toBitVec
  rw [hsigned, hsmall, if_pos (by omega)]

section Valid
variable {config : WheelVelocityFeedforwardConfig}

theorem maximum_pos (hmax : 0 < config.maxVelocityMmS) : 0 < config.maxVelocityMmS.toNat :=
  UInt16.lt_iff_toNat_lt.mp hmax

theorem minimum_le (hmin : config.minimumStartCommand ≤ 1000) :
    config.minimumStartCommand.toNat ≤ 1000 :=
  UInt16.le_iff_toNat_le.mp hmin

theorem product_le (config : WheelVelocityFeedforwardConfig) (magnitude : ℕ) :
    min magnitude config.maxVelocityMmS.toNat * (1000 - config.minimumStartCommand.toNat) ≤
      65535 * 1000 := by
  have hlt := config.maxVelocityMmS.toNat_lt
  exact Nat.mul_le_mul (by omega) (by omega)

theorem product_eq (hmin : config.minimumStartCommand ≤ 1000) (v : Int16) :
    (feedforwardSteps config v).product = (min v.toInt.natAbs config.maxVelocityMmS.toNat *
      (1000 - config.minimumStartCommand.toNat) : ℕ) := by
  have hminimum := minimum_le hmin
  have hclamped : min (v.toInt.natAbs : ℤ) config.maxVelocityMmS.toNat =
      (min v.toInt.natAbs config.maxVelocityMmS.toNat : ℕ) := by omega
  have hrange : 1000 - (config.minimumStartCommand.toNat : ℤ) =
      (1000 - config.minimumStartCommand.toNat : ℕ) := by omega
  rw [feedforwardSteps, hclamped, hrange, Int.natCast_mul]

theorem commandMagnitude_eq_level (hmin : config.minimumStartCommand ≤ 1000) (v : Int16) :
    (feedforwardSteps config v).commandMagnitude =
      level config.minimumStartCommand.toNat 1000 config.maxVelocityMmS.toNat v.toInt.natAbs := by
  rw [level, Int.natCast_add, Int.natCast_ediv, ← product_eq hmin v]
  rfl

variable (hmax : 0 < config.maxVelocityMmS) (hmin : config.minimumStartCommand ≤ 1000)
include hmax hmin

/-- The product of the two factors fits, so the wrapping arithmetic is exact. -/
theorem commandMagnitude_toNat (magnitude : UInt32) :
    (config.commandMagnitude magnitude).toNat =
      level config.minimumStartCommand.toNat 1000 config.maxVelocityMmS.toNat
        magnitude.toNat := by
  have hminimum := minimum_le hmin
  have hproduct := product_le config magnitude.toNat
  have hlevel := level_le (maximum_pos hmax) hminimum magnitude.toNat
  have hclamped : (if magnitude > config.maxVelocityMmS.toUInt32 then
      config.maxVelocityMmS.toUInt32 else magnitude).toNat =
        min magnitude.toNat config.maxVelocityMmS.toNat := by
    split_ifs with hover
    · have hlt : config.maxVelocityMmS.toNat < magnitude.toNat := by
        simpa [UInt32.lt_iff_toNat_lt] using hover
      rw [UInt16.toNat_toUInt32]
      omega
    · have hle : ¬ config.maxVelocityMmS.toNat < magnitude.toNat := by
        simpa [UInt32.lt_iff_toNat_lt] using hover
      omega
  have hrange : (1000 - config.minimumStartCommand.toUInt32).toNat =
      1000 - config.minimumStartCommand.toNat := by
    rw [UInt32.toNat_sub_of_le _ _ (UInt32.le_iff_toNat_le.mpr (by simpa using hminimum))]
    simp
  rw [commandMagnitude, UInt32.toNat_add, UInt32.toNat_div, UInt32.toNat_mul, hclamped, hrange,
    UInt16.toNat_toUInt32, UInt16.toNat_toUInt32, Nat.mod_eq_of_lt (a := _ * _) (by omega)]
  rw [level] at hlevel ⊢
  exact Nat.mod_eq_of_lt (by omega)

/-- The code computes the scale. -/
theorem convertOne_eq (v : Int16) :
    ∃ command, wheelVelocityFeedforwardConvertOne config v = some command ∧
      command.toInt = config.law v.toInt := by
  have hvalid : ¬ (config.maxVelocityMmS = 0 ∨ config.minimumStartCommand > 1000) := by
    rintro (hzero | hover)
    · rw [hzero] at hmax
      exact absurd hmax (by decide)
    · exact absurd hmin (UInt16.not_le.mpr hover)
  rw [convertOne_of_valid hvalid]
  by_cases hzero : v = 0
  · rw [if_pos hzero, hzero]
    exact ⟨0, rfl, rfl⟩
  · have hmagnitude := commandMagnitude_toNat hmax hmin
      (if v.toInt32 < 0 then (-v.toInt32).toUInt32 else v.toInt32.toUInt32)
    rw [magnitude_toNat] at hmagnitude
    have hlevel := level_le (maximum_pos hmax) (minimum_le hmin) v.toInt.natAbs
    have hcommand := toInt_command (by omega) hmagnitude
    have hint : v.toInt ≠ 0 := fun h => hzero (Int16.toInt_inj.mp h)
    refine ⟨_, if_neg hzero, ?_⟩
    rw [law]
    by_cases hneg : v.toInt32 < 0
    · have hsign : v.toInt < 0 := by simpa [Int32.lt_iff_toInt_lt] using hneg
      rw [if_pos hneg, Int16.toInt_neg, hcommand, scale_of_neg _ _ _ hsign,
        Int.bmod_eq_of_le (by omega) (by omega)]
    · have hsign : ¬ v.toInt < 0 := by simpa [Int32.lt_iff_toInt_lt] using hneg
      rw [if_neg hneg, hcommand, scale_of_pos _ _ _ (by omega)]

theorem steps_fit (v : Int16) : (feedforwardSteps config v).Fit := by
  have hminimum := minimum_le hmin
  have hlow := v.le_toInt
  have hhigh := v.toInt_lt
  have hlevel := level_le (maximum_pos hmax) hminimum v.toInt.natAbs
  have hle := product_le config v.toInt.natAbs
  refine ⟨?_, ?_, ?_, ?_⟩
  · simp only [feedforwardSteps]
    omega
  · simp only [feedforwardSteps]
    omega
  · rw [product_eq hmin]
    omega
  · rw [commandMagnitude_eq_level hmin]
    omega

end Valid

end WheelVelocityFeedforwardConfig

/-- What the command of a wheel owes to its velocity. -/
structure ObeysFeedforwardLaw (config : WheelVelocityFeedforwardConfig) (c : Int16 → Int16) :
    Prop where
  computed : ∀ v, v ≠ 0 → (c v).toInt =
    if v < 0 then -(feedforwardSteps config v).commandMagnitude
    else (feedforwardSteps config v).commandMagnitude
  inRange : ∀ v, -1000 ≤ c v ∧ c v ≤ 1000
  monotone : ∀ v w, v ≤ w → c v ≤ c w
  zero : c 0 = 0
  odd : ∀ v, v ≠ -32768 → c (-v) = -c v
  deadBand : ∀ v, v ≠ 0 → config.minimumStartCommand.toNat ≤ (c v).toInt.natAbs
  saturated : ∀ v : Int16, config.maxVelocityMmS.toNat ≤ v.toInt.natAbs →
    (c v).toInt.natAbs = 1000

namespace WheelVelocityFeedforwardConfig

variable {config : WheelVelocityFeedforwardConfig} (hmax : 0 < config.maxVelocityMmS)
  (hmin : config.minimumStartCommand ≤ 1000) {c : Int16 → Int16}
include hmax hmin

theorem obeys_of_law (hlaw : ∀ v : Int16, (c v).toInt = config.law v.toInt) :
    ObeysFeedforwardLaw config c where
  computed := by
    intro v hv
    have hint : v.toInt ≠ 0 := fun h => hv (Int16.toInt_inj.mp h)
    rw [hlaw, commandMagnitude_eq_level hmin, law]
    by_cases hneg : v < 0
    · rw [if_pos hneg, scale_of_neg _ _ _ (by simpa [Int16.lt_iff_toInt_lt] using hneg)]
    · have hsign : ¬ v.toInt < 0 := by simpa [Int16.lt_iff_toInt_lt] using hneg
      rw [if_neg hneg, scale_of_pos _ _ _ (by omega)]
  inRange := by
    intro v
    have hbounds := scale_bounds (maximum_pos hmax) (minimum_le hmin) v.toInt
    rw [Int16.le_iff_toInt_le, Int16.le_iff_toInt_le, hlaw]
    exact hbounds
  monotone := by
    intro v w hvw
    rw [Int16.le_iff_toInt_le, hlaw, hlaw]
    exact scale_mono (Int16.le_iff_toInt_le.mp hvw)
  zero := Int16.toInt_inj.mp (hlaw 0)
  odd := by
    intro v hv
    have hint : v.toInt ≠ -32768 := fun h => hv (Int16.toInt_inj.mp h)
    have hlow := v.le_toInt
    have hhigh := v.toInt_lt
    have hbounds := scale_bounds (maximum_pos hmax) (minimum_le hmin) v.toInt
    have hneg : (-v).toInt = -v.toInt := by
      rw [Int16.toInt_neg, Int.bmod_eq_of_le (by omega) (by omega)]
    apply Int16.toInt_inj.mp
    rw [hlaw, hneg, law, scale_neg, Int16.toInt_neg, hlaw, law,
      Int.bmod_eq_of_le (by omega) (by omega)]
  deadBand := by
    intro v hv
    have hint : v.toInt ≠ 0 := fun h => hv (Int16.toInt_inj.mp h)
    rw [hlaw, law, natAbs_scale hint]
    exact minimum_le_level _
  saturated := by
    intro v hv
    have hpos := maximum_pos hmax
    rw [hlaw, law, natAbs_scale (by omega)]
    exact level_of_le hpos (minimum_le hmin) hv

end WheelVelocityFeedforwardConfig

theorem MotorDriver.dri0041ControlFromCommand_isSome {command : MotorDriverCommand}
    (hleft : -1000 ≤ command.left ∧ command.left ≤ 1000)
    (hright : -1000 ≤ command.right ∧ command.right ≤ 1000) :
    (dri0041ControlFromCommand command).isSome := by
  have hvalid : ¬ (command.left > 1000 ∨ command.left < -1000 ∨ command.right > 1000 ∨
      command.right < -1000) := by
    simp only [not_or, gt_iff_lt, Int16.not_lt]
    exact ⟨hleft.2, hleft.1, hright.2, hright.1⟩
  rw [dri0041ControlFromCommand, if_neg hvalid]
  rfl

/-- Under a valid configuration every pair of velocities is converted, without a wrap on the way,
each wheel by the same law and into a command the motor driver accepts. -/
theorem feedforward_conversion_law (config : WheelVelocityFeedforwardConfig)
    (hmax : 0 < config.maxVelocityMmS) (hmin : config.minimumStartCommand ≤ 1000) :
    ∃ c : Int16 → Int16, ObeysFeedforwardLaw config c ∧
      (∀ v, (feedforwardSteps config v).Fit) ∧
      ∀ velocity, wheelVelocityFeedforwardConvert config velocity =
          some { left := c velocity.leftVelocityMmS, right := c velocity.rightVelocityMmS } ∧
        (MotorDriver.dri0041ControlFromCommand
          { left := c velocity.leftVelocityMmS, right := c velocity.rightVelocityMmS }).isSome := by
  choose c hconvert hlaw using fun v => WheelVelocityFeedforwardConfig.convertOne_eq hmax hmin v
  have hobeys := WheelVelocityFeedforwardConfig.obeys_of_law hmax hmin hlaw
  refine ⟨c, hobeys, WheelVelocityFeedforwardConfig.steps_fit hmax hmin, ?_⟩
  intro velocity
  refine ⟨?_, MotorDriver.dri0041ControlFromCommand_isSome (hobeys.inRange _) (hobeys.inRange _)⟩
  simp only [wheelVelocityFeedforwardConvert, hconvert]
  rfl

/-- The least velocity under the firmware's own configuration. -/
theorem feedforward_conversion_law_least :
    ∃ c : Int16 → Int16, wheelVelocityFeedforwardConvert
        { maxVelocityMmS := 400, minimumStartCommand := 50 } ⟨-32768, 200⟩ =
      some { left := c (-32768), right := c 200 } ∧ (c (-32768)).toInt.natAbs = 1000 := by
  obtain ⟨c, hobeys, -, hconvert⟩ := feedforward_conversion_law
    { maxVelocityMmS := 400, minimumStartCommand := 50 } (by decide) (by decide)
  exact ⟨c, (hconvert ⟨-32768, 200⟩).1, hobeys.saturated _ (by decide)⟩

end IndoorRobot
