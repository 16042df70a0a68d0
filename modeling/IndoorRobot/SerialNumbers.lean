import Mathlib.Data.Nat.ModEq
import Mathlib.Algebra.Order.Group.Nat
import Mathlib.Algebra.BigOperators.Group.List.Basic

/-!
# Serial numbers on a finite circle

A counter that is only kept modulo `m` is compared through the forward distance
from a reference to a received value. Advances of the reference add up, so a
value that was once the reference stays at the complementary distance until the
total advance exceeds half of the circle.
-/
namespace IndoorRobot.SerialNumbers

/-- How far `received` lies ahead of `reference` on the circle of `m` values. -/
def forward (m reference received : ℕ) : ℕ := (m - reference + received) % m

/-- Looking back from a reference that has advanced by `d` shows the complement of `d`. -/
theorem forward_back {m origin reference d : ℕ} (ho : origin < m) (hr : reference < m)
    (hm : (origin + d) % m = reference) (hd : d ≤ m) :
    forward m reference origin = (m - d) % m := by
  subst hm
  rw [forward]
  rcases Nat.lt_or_ge (origin + d) m with hlt | hge
  · rw [Nat.mod_eq_of_lt hlt]
    congr 1
    omega
  · have hwrap : (origin + d) % m = origin + d - m := by
      rw [Nat.mod_eq_sub_mod hge, Nat.mod_eq_of_lt (by omega)]
    rw [hwrap, show m - (origin + d - m) + origin = (m - d) + m by omega, Nat.add_mod_right]

/-- Advances accumulate modulo `m`. -/
theorem advance_add {m origin a b : ℕ} :
    ((origin + a) % m + b) % m = (origin + (a + b)) % m := by
  rw [Nat.mod_add_mod, Nat.add_assoc]

/-- The forward distance is the advance that carries the reference to the received value. -/
theorem add_forward {m reference received : ℕ} (hr : reference < m) (hv : received < m) :
    (reference + forward m reference received) % m = received := by
  rw [forward]
  rw [Nat.add_mod_mod, show reference + (m - reference + received) = received + m by omega,
    Nat.add_mod_right, Nat.mod_eq_of_lt hv]

end IndoorRobot.SerialNumbers
