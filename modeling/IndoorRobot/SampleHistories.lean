import Mathlib.Algebra.Order.Group.Nat
import Mathlib.Tactic.Common

/-!
# Quantities that stay the same over a history of samples

A quantity is sampled at irregular times. It has been steady for `d` if some earlier
sample and all later ones agree with the present one and lie at least `d` back. It is
enough to remember the present sample and the time of the last change.
-/
namespace IndoorRobot.SampleHistories

variable {α : Type*} (sample : ℕ → α) (time : ℕ → ℕ)

/-- Sample `i` and everything back to some sample at least `d` earlier agree. -/
def SteadyFor (d i : ℕ) : Prop :=
  ∃ j ≤ i, (∀ k, j ≤ k → k ≤ i → sample k = sample i) ∧ d ≤ time i - time j

variable [DecidableEq α]

/-- The last sample up to `i` that differed from the one before it. -/
def lastChange : ℕ → ℕ
  | 0 => 0
  | i + 1 => if sample (i + 1) = sample i then lastChange i else i + 1

theorem lastChange_le (i : ℕ) : lastChange sample i ≤ i := by
  induction i with
  | zero => exact Nat.le_refl 0
  | succ i ih =>
    rw [lastChange]
    split_ifs
    · exact Nat.le_succ_of_le ih
    · exact Nat.le_refl _

theorem same_since_lastChange (i : ℕ) :
    ∀ k, lastChange sample i ≤ k → k ≤ i → sample k = sample i := by
  induction i with
  | zero =>
    intro k _ hk
    rw [Nat.le_zero.mp hk]
  | succ i ih =>
    intro k hlast hk
    rw [lastChange] at hlast
    split_ifs at hlast with hsame
    · rcases Nat.lt_or_ge i k with hnew | hold
      · rw [show k = i + 1 by omega]
      · rw [ih k hlast hold, hsame]
    · rw [show k = i + 1 by omega]

/-- Agreement cannot reach back beyond the last change. -/
theorem lastChange_le_of_same {i j : ℕ} (hj : j ≤ i)
    (hsame : ∀ k, j ≤ k → k ≤ i → sample k = sample i) : lastChange sample i ≤ j := by
  induction i with
  | zero => exact Nat.zero_le j
  | succ i ih =>
    rw [lastChange]
    split_ifs with hkept
    · rcases Nat.lt_or_ge i j with hnew | hold
      · exact Nat.le_of_lt (Nat.lt_of_le_of_lt (lastChange_le sample i) hnew)
      · apply ih hold
        intro k hk hki
        rw [hsame k hk (Nat.le_succ_of_le hki), hkept]
    · by_contra hlt
      exact hkept (hsame i (by omega) (Nat.le_succ i)).symm

/-- One time stamp is enough. -/
theorem steadyFor_iff (hforward : ∀ i j, i ≤ j → time i ≤ time j) (d i : ℕ) :
    SteadyFor sample time d i ↔ d ≤ time i - time (lastChange sample i) := by
  constructor
  · rintro ⟨j, hj, hsame, hd⟩
    have hlast := hforward _ _ (lastChange_le_of_same sample hj hsame)
    omega
  · intro hd
    exact ⟨lastChange sample i, lastChange_le sample i, same_since_lastChange sample i, hd⟩

end IndoorRobot.SampleHistories
