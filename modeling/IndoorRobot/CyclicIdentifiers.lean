import Mathlib.Logic.Function.Iterate
import Mathlib.Data.Nat.ModEq
import Mathlib.Algebra.Order.Group.Nat

/-!
# Generation counters that skip zero

A counter with `m` values that reserves zero walks through the cycle of the other
`m - 1` values. An identifier therefore comes back only after a full cycle.
-/
namespace IndoorRobot.CyclicIdentifiers

/-- The next non-zero identifier below `m`. -/
def next (m id : ℕ) : ℕ := if id + 1 = m then 1 else id + 1

theorem iterate_next {m id : ℕ} (hm : 2 ≤ m) (hid : 1 ≤ id) (hlt : id < m) (n : ℕ) :
    (next m)^[n] id = (id - 1 + n) % (m - 1) + 1 := by
  induction n with
  | zero =>
    have h : (id - 1) % (m - 1) = id - 1 := Nat.mod_eq_of_lt (by omega)
    simp only [Function.iterate_zero, id_eq, Nat.add_zero, h]
    omega
  | succ n ih =>
    have hb : (id - 1 + n) % (m - 1) < m - 1 := Nat.mod_lt _ (by omega)
    rw [Function.iterate_succ_apply', ih, next, ← Nat.add_assoc]
    by_cases hend : (id - 1 + n) % (m - 1) + 1 + 1 = m
    · have hz : (id - 1 + n + 1) % (m - 1) = 0 := by
        rw [Nat.add_mod, show (id - 1 + n) % (m - 1) = m - 2 by omega]
        rcases Nat.eq_or_lt_of_le hm with rfl | h2
        · simp
        · rw [Nat.mod_eq_of_lt (show 1 < m - 1 by omega), show m - 2 + 1 = m - 1 by omega,
            Nat.mod_self]
      rw [if_pos hend, hz]
    · have hs : (id - 1 + n + 1) % (m - 1) = (id - 1 + n) % (m - 1) + 1 := by
        rw [Nat.add_mod, Nat.mod_eq_of_lt (show 1 < m - 1 by omega), Nat.mod_eq_of_lt (by omega)]
      rw [if_neg hend, hs]

/-- Fewer than `m - 1` further steps never return to the same identifier. -/
theorem iterate_next_ne {m id n : ℕ} (hid : 1 ≤ id) (hlt : id < m)
    (hpos : 0 < n) (hn : n < m - 1) : (next m)^[n] id ≠ id := by
  intro h
  rw [iterate_next (by omega) hid hlt] at h
  have hmod : (id - 1 + n) % (m - 1) = id - 1 := by omega
  rcases Nat.lt_or_ge (id - 1 + n) (m - 1) with hl | hg
  · rw [Nat.mod_eq_of_lt hl] at hmod
    omega
  · rw [Nat.mod_eq_sub_mod hg, Nat.mod_eq_of_lt (by omega)] at hmod
    omega

end IndoorRobot.CyclicIdentifiers
