import Mathlib.Algebra.Order.Group.Nat
import Mathlib.Tactic.Common

/-!
# Clocks that are kept modulo two to the thirty-two

A time is stored in thirty-two bits and compared through an unsigned difference. As
long as the stored time is not the later one, the difference is the true distance
modulo the range, and the true distance itself if that is below the range.
-/
namespace IndoorRobot.WrappingClocks

variable {earlier later : ℕ}

theorem toNat_elapsed (h : earlier ≤ later) :
    (UInt32.ofNat later - UInt32.ofNat earlier).toNat = (later - earlier) % 2 ^ 32 := by
  rw [UInt32.toNat_sub, UInt32.toNat_ofNat', UInt32.toNat_ofNat']
  omega

theorem toNat_elapsed_of_lt (h : earlier ≤ later) (hspan : later - earlier < 2 ^ 32) :
    (UInt32.ofNat later - UInt32.ofNat earlier).toNat = later - earlier := by
  rw [toNat_elapsed h, Nat.mod_eq_of_lt hspan]

/-- The code's test of a timeout. -/
theorem timeout_le_elapsed_iff (h : earlier ≤ later) (hspan : later - earlier < 2 ^ 32)
    (timeout : UInt32) :
    timeout ≤ UInt32.ofNat later - UInt32.ofNat earlier ↔ timeout.toNat ≤ later - earlier := by
  rw [UInt32.le_iff_toNat_le, toNat_elapsed_of_lt h hspan]

end IndoorRobot.WrappingClocks
