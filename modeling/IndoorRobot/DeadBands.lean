import Mathlib.Algebra.Order.Group.Int
import Mathlib.Tactic.Common

/-!
# Scales with a dead band and saturation

A magnitude between zero and `maximum` is mapped onto the range from `minimum` to `top`
by integer division, anything above `maximum` to `top`; zero stays zero and the sign is
kept.
-/
namespace IndoorRobot.DeadBands

variable (minimum top maximum : ℕ)

/-- The scale on magnitudes. -/
def level (magnitude : ℕ) : ℕ :=
  minimum + min magnitude maximum * (top - minimum) / maximum

/-- The scale on signed values. -/
def scale (v : ℤ) : ℤ :=
  if v = 0 then 0
  else if v < 0 then -(level minimum top maximum v.natAbs : ℤ)
  else level minimum top maximum v.natAbs

theorem level_mono {a b : ℕ} (h : a ≤ b) :
    level minimum top maximum a ≤ level minimum top maximum b := by
  have hmin : min a maximum ≤ min b maximum := by omega
  exact Nat.add_le_add_left (Nat.div_le_div_right (Nat.mul_le_mul_right _ hmin)) _

theorem scale_of_neg {v : ℤ} (h : v < 0) :
    scale minimum top maximum v = -(level minimum top maximum v.natAbs : ℤ) := by
  rw [scale, if_neg (by omega), if_pos h]

theorem scale_of_pos {v : ℤ} (h : 0 < v) :
    scale minimum top maximum v = level minimum top maximum v.natAbs := by
  rw [scale, if_neg (by omega), if_neg (by omega)]

theorem scale_nonneg {v : ℤ} (h : 0 ≤ v) : 0 ≤ scale minimum top maximum v := by
  rw [scale]
  split_ifs <;> omega

variable {minimum top maximum}

theorem minimum_le_level (magnitude : ℕ) : minimum ≤ level minimum top maximum magnitude :=
  Nat.le_add_right _ _

/-- The whole range is used up at the maximum. -/
theorem level_of_le (hmaximum : 0 < maximum) (hminimum : minimum ≤ top) {magnitude : ℕ}
    (h : maximum ≤ magnitude) : level minimum top maximum magnitude = top := by
  rw [level, Nat.min_eq_right h, Nat.mul_div_cancel_left _ hmaximum]
  omega

theorem level_le (hmaximum : 0 < maximum) (hminimum : minimum ≤ top) (magnitude : ℕ) :
    level minimum top maximum magnitude ≤ top := by
  rcases Nat.le_total maximum magnitude with h | h
  · exact Nat.le_of_eq (level_of_le hmaximum hminimum h)
  · calc level minimum top maximum magnitude ≤ level minimum top maximum maximum :=
        level_mono _ _ _ h
      _ = top := level_of_le hmaximum hminimum (Nat.le_refl _)

theorem natAbs_scale {v : ℤ} (h : v ≠ 0) :
    (scale minimum top maximum v).natAbs = level minimum top maximum v.natAbs := by
  rcases Int.lt_or_gt_of_ne h with hneg | hpos
  · rw [scale_of_neg _ _ _ hneg, Int.natAbs_neg, Int.natAbs_natCast]
  · rw [scale_of_pos _ _ _ hpos, Int.natAbs_natCast]

theorem scale_neg (v : ℤ) : scale minimum top maximum (-v) = -scale minimum top maximum v := by
  rcases Int.lt_trichotomy v 0 with h | rfl | h
  · rw [scale_of_neg _ _ _ h, scale_of_pos _ _ _ (by omega), Int.natAbs_neg, Int.neg_neg]
  · rfl
  · rw [scale_of_pos _ _ _ h, scale_of_neg _ _ _ (by omega), Int.natAbs_neg]

/-- Monotone on each side of zero, where the two sides meet. -/
theorem scale_mono {v w : ℤ} (h : v ≤ w) :
    scale minimum top maximum v ≤ scale minimum top maximum w := by
  rcases Int.lt_or_le v 0 with hv | hv
  · rcases Int.lt_or_le w 0 with hw | hw
    · have hlevel := level_mono minimum top maximum (show w.natAbs ≤ v.natAbs by omega)
      rw [scale_of_neg _ _ _ hv, scale_of_neg _ _ _ hw]
      omega
    · have hright := scale_nonneg minimum top maximum hw
      rw [scale_of_neg _ _ _ hv]
      omega
  · rcases Int.lt_or_eq_of_le hv with hpos | rfl
    · have hlevel := level_mono minimum top maximum (show v.natAbs ≤ w.natAbs by omega)
      rw [scale_of_pos _ _ _ hpos, scale_of_pos _ _ _ (by omega)]
      omega
    · exact scale_nonneg _ _ _ h

theorem scale_bounds (hmaximum : 0 < maximum) (hminimum : minimum ≤ top) (v : ℤ) :
    -(top : ℤ) ≤ scale minimum top maximum v ∧ scale minimum top maximum v ≤ top := by
  have hlevel := level_le hmaximum hminimum v.natAbs
  rw [scale]
  split_ifs <;> omega

end IndoorRobot.DeadBands
