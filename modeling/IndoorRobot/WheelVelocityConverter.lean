import IndoorRobot.DriveKinematics

/-!
# Metres per second and whole millimetres

`wheel_velocity_command_converter.cpp` in `binary64`. Every command has velocities in metres per
second that are converted back to it, and whatever is converted is close to what was asked for.
-/
namespace IndoorRobot.Pi

open BinaryRounding FloatingNumbers

inductive WheelVelocityCommandConversionResult where
  | success | invalidVelocity | outOfRange
  deriving DecidableEq, Repr

def convertVelocity (velocityMps : Double) : Except WheelVelocityCommandConversionResult Int16 :=
  match velocityMps.value with
  | none => .error .invalidVelocity
  | some _ =>
    match (velocityMps.mul (.ofRat 1000)).value with
    | none => .error .outOfRange
    | some scaled =>
      let rounded := lround scaled
      if rounded < -32768 ∨ rounded > 32767 then .error .outOfRange else .ok (Int16.ofInt rounded)

/-- `to_wheel_velocity_command`, with the command it is to set. -/
def toWheelVelocityCommand (velocities : WheelVelocities) (command : WheelVelocityCommand) :
    WheelVelocityCommandConversionResult × WheelVelocityCommand :=
  match convertVelocity velocities.leftMps with
  | .error result => (result, command)
  | .ok left =>
    match convertVelocity velocities.rightMps with
    | .error result => (result, command)
    | .ok right => (.success, { leftVelocityMmS := left, rightVelocityMmS := right })

/-! ### One wheel -/

/-- The whole millimetres per second stand for the metres per second. -/
structure Converts (x : ℚ) (n : Int16) : Prop where
  near : |(n.toInt : ℚ) - x * 1000| ≤ 1 / 2 + |x * 1000| / 2 ^ 53 + 1 / 2 ^ 200
  side : SameSide x n.toInt

/-- A velocity that surely fits. -/
def Moderate (velocityMps : Double) : Prop := ∃ x, velocityMps.value = some x ∧ |x * 1000| ≤ 32767

theorem ofRat_thousand_value : (Number.ofRat 1000 : Double).value = some 1000 := by
  have hholds : binary64.Holds 1000 := by
    exact_mod_cast binary64_holds_intCast (n := 1000) (by norm_num)
  have hvalue : (Number.ofRat 1000 : Double).value = some (binary64.round 1000) :=
    Number.value_ofRat (abs_round_lt_limit (by norm_num))
  rwa [hholds.round_eq] at hvalue

theorem lround_eq_of_abs_sub_lt {x : ℚ} {n : ℤ} (h : |x - n| < 1 / 2) : lround x = n := by
  have hround := abs_lround_sub_le x
  have hlt : |((lround x - n : ℤ) : ℚ)| < 1 := by
    have htriangle := abs_sub_le (lround x : ℚ) x n
    push_cast
    linarith
  have hint : |lround x - n| < 1 := by exact_mod_cast hlt
  rw [Int.abs_lt_one_iff] at hint
  omega

theorem convertVelocity_ok {velocityMps : Double} {n : Int16} (h : convertVelocity velocityMps = .ok n) :
    ∃ x, velocityMps.value = some x ∧ Converts x n := by
  rw [convertVelocity] at h
  split at h
  · cases h
  · rename_i x hx
    split at h
    · cases h
    · rename_i scaled hscaled
      dsimp only at h
      split_ifs at h with hrange
      cases h
      obtain ⟨x', thousand, hx', hthousand, rfl⟩ := Number.value_mul hscaled
      rw [hx, Option.some.injEq] at hx'
      rw [ofRat_thousand_value, Option.some.injEq] at hthousand
      subst hx' hthousand
      have hint : (Int16.ofInt (lround (binary64.round (x * 1000)))).toInt =
          lround (binary64.round (x * 1000)) := Int16.toInt_ofInt_of_le (by omega) (by omega)
      refine ⟨x, hx, ?_, ?_⟩
      · have hround := abs_lround_sub_le (binary64.round (x * 1000))
        have hproduct := binary64_relative (x * 1000)
        have htriangle := abs_sub_le (lround (binary64.round (x * 1000)) : ℚ)
          (binary64.round (x * 1000)) (x * 1000)
        rw [hint]
        linarith
      · have hscale : SameSide x (x * 1000) :=
          ⟨fun hx => by linarith, fun hx => by linarith⟩
        rw [hint]
        exact hscale.trans ((SameSide.round _).trans (SameSide.lround _))

/-- The product of a velocity that is not too large. -/
theorem convertVelocity_of_value {velocityMps : Double} {x : ℚ} (hx : velocityMps.value = some x)
    (h : |x * 1000| ≤ 32767) : convertVelocity velocityMps =
      .ok (Int16.ofInt (lround (binary64.round (x * 1000)))) := by
  have hholds : binary64.Holds 32767 := by
    exact_mod_cast binary64_holds_intCast (n := 32767) (by norm_num)
  have hround := hholds.abs_round_le h
  have hlround : |lround (binary64.round (x * 1000))| ≤ 32767 := abs_lround_le (by exact_mod_cast hround)
  obtain ⟨hlow, hhigh⟩ := abs_le.mp hlround
  have hproduct : (velocityMps.mul (.ofRat 1000)).value = some (binary64.round (x * 1000)) := by
    rw [Number.mul, Number.lift_of_values hx ofRat_thousand_value]
    exact Number.value_ofRat (abs_round_lt_limit (by linarith))
  rw [convertVelocity, hx, hproduct]
  dsimp only
  rw [if_neg (by omega)]

theorem convertVelocity_of_moderate {velocityMps : Double} (h : Moderate velocityMps) :
    ∃ n, convertVelocity velocityMps = .ok n := by
  obtain ⟨x, hx, hlimit⟩ := h
  exact ⟨_, convertVelocity_of_value hx hlimit⟩

theorem convertVelocity_ne_success (velocityMps : Double) :
    convertVelocity velocityMps ≠ .error .success := by
  rw [convertVelocity]
  split
  · simp
  · split
    · simp
    · dsimp only
      split_ifs <;> simp

/-- The double next to a number of millimetres per second. -/
def inMetres (velocityMmS : Int16) : Double := .ofRat (velocityMmS.toInt / 1000)

theorem convertVelocity_inMetres (n : Int16) : convertVelocity (inMetres n) = .ok n := by
  have hlow : (-32768 : ℚ) ≤ n.toInt := by exact_mod_cast n.le_toInt
  have hhigh : (n.toInt : ℚ) ≤ 32767 := by exact_mod_cast Int.le_of_lt_add_one n.toInt_lt
  have hsize : |(n.toInt : ℚ) / 1000| ≤ 33 := by
    rw [abs_le]
    constructor <;> linarith
  have hvalue : (inMetres n).value = some (binary64.round (n.toInt / 1000)) :=
    Number.value_ofRat (abs_round_lt_limit (by linarith))
  have hmetres := binary64_relative (n.toInt / 1000)
  generalize binary64.round (n.toInt / 1000) = x at hvalue hmetres
  have hscaled : |x * 1000 - n.toInt| ≤ 1 / 8 := by
    have hfactor : x * 1000 - n.toInt = (x - n.toInt / 1000) * 1000 := by ring
    rw [hfactor, abs_mul, abs_of_pos (by norm_num : (0 : ℚ) < 1000)]
    linarith
  have hproduct := binary64_relative (x * 1000)
  have hlarge : |x * 1000| ≤ 32769 := by
    rw [abs_le] at hscaled ⊢
    constructor <;> linarith
  have hnear : |binary64.round (x * 1000) - n.toInt| < 1 / 2 := by
    have htriangle := abs_sub_le (binary64.round (x * 1000)) (x * 1000) n.toInt
    linarith
  have hrounded := lround_eq_of_abs_sub_lt hnear
  have hoverflow : ((inMetres n).mul (.ofRat 1000)).value = some (binary64.round (x * 1000)) := by
    rw [Number.mul, Number.lift_of_values hvalue ofRat_thousand_value]
    exact Number.value_ofRat (abs_round_lt_limit (by linarith))
  have hle := n.le_toInt
  have hlt := n.toInt_lt
  rw [convertVelocity, hvalue, hoverflow]
  dsimp only
  rw [hrounded, if_neg (by omega), Int16.ofInt_toInt]

/-! ### Both wheels -/

/-- Whatever is converted stands for what was asked for; what is refused leaves the command as it was,
and one of its wheels was no number or too fast; and every command is converted back from its own
velocities. -/
theorem velocities_convert_to_commands (velocities : WheelVelocities) (command : WheelVelocityCommand) :
    ((toWheelVelocityCommand velocities command).1 = .success → ∃ left right,
      velocities.leftMps.value = some left ∧ velocities.rightMps.value = some right ∧
      Converts left (toWheelVelocityCommand velocities command).2.leftVelocityMmS ∧
      Converts right (toWheelVelocityCommand velocities command).2.rightVelocityMmS) ∧
    ((toWheelVelocityCommand velocities command).1 ≠ .success →
      (toWheelVelocityCommand velocities command).2 = command ∧
      ¬ (Moderate velocities.leftMps ∧ Moderate velocities.rightMps)) ∧
    ∀ wanted : WheelVelocityCommand, toWheelVelocityCommand
      { leftMps := inMetres wanted.leftVelocityMmS, rightMps := inMetres wanted.rightVelocityMmS }
      command = (.success, wanted) := by
  have hrefused {velocityMps : Double} {result : WheelVelocityCommandConversionResult}
      (h : convertVelocity velocityMps = .error result) : result ≠ .success ∧ ¬ Moderate velocityMps := by
    refine ⟨?_, fun hmoderate => ?_⟩
    · rintro rfl
      exact convertVelocity_ne_success velocityMps h
    · obtain ⟨n, hn⟩ := convertVelocity_of_moderate hmoderate
      rw [hn] at h
      cases h
  refine ⟨?_, ?_, fun wanted => ?_⟩
  · rw [toWheelVelocityCommand]
    cases hleft : convertVelocity velocities.leftMps with
    | error result => exact fun h => absurd h (hrefused hleft).1
    | ok left =>
      cases hright : convertVelocity velocities.rightMps with
      | error result => exact fun h => absurd h (hrefused hright).1
      | ok right =>
        intro _
        obtain ⟨x, hx, hconverts⟩ := convertVelocity_ok hleft
        obtain ⟨y, hy, hconverts'⟩ := convertVelocity_ok hright
        exact ⟨x, y, hx, hy, hconverts, hconverts'⟩
  · rw [toWheelVelocityCommand]
    cases hleft : convertVelocity velocities.leftMps with
    | error result => exact fun _ => ⟨rfl, fun h => (hrefused hleft).2 h.1⟩
    | ok left =>
      cases hright : convertVelocity velocities.rightMps with
      | error result => exact fun _ => ⟨rfl, fun h => (hrefused hright).2 h.2⟩
      | ok right => exact fun h => absurd rfl h
  · rw [toWheelVelocityCommand]
    dsimp only
    rw [convertVelocity_inMetres, convertVelocity_inMetres]

end IndoorRobot.Pi
