import Mathlib.Data.Nat.Digits.Lemmas

/-!
# Fields packed into a number

A number is read from its low end through a window: some of its bits have been consumed,
some are in the window, the rest is still to come. More bits may be put in from the
rest, and a field may be taken out at the low end; what is taken out are digits of the
number, whatever the pieces were in which it was put in.
-/
namespace IndoorRobot.PackedDigits

/-- Of the number `N`, `consumed` bits are gone, `available` bits are in the window. -/
structure Window (N consumed bits available rest : ℕ) : Prop where
  small : bits < 2 ^ available
  value : N / 2 ^ consumed = bits + 2 ^ available * rest

variable {N consumed bits available rest : ℕ}

theorem Window.start (N : ℕ) : Window N 0 0 0 N := ⟨by simp, by simp⟩

/-- The next piece of the rest goes on top of the window. -/
theorem Window.refill (h : Window N consumed bits available rest) {width piece more : ℕ}
    (hpiece : piece < 2 ^ width) (hrest : rest = piece + 2 ^ width * more) :
    Window N consumed (bits + piece * 2 ^ available) (available + width) more where
  small := by
    have hsmall := h.small
    calc bits + piece * 2 ^ available < 2 ^ available + piece * 2 ^ available := by omega
      _ = (piece + 1) * 2 ^ available := by ring
      _ ≤ 2 ^ width * 2 ^ available := Nat.mul_le_mul_right _ hpiece
      _ = 2 ^ (available + width) := by rw [pow_add]; ring
  value := by
    rw [h.value, hrest, pow_add]
    ring

/-- The lowest field of the window is a field of the number. -/
theorem Window.field (h : Window N consumed bits available rest) {width : ℕ}
    (hwidth : width ≤ available) : bits % 2 ^ width = N / 2 ^ consumed % 2 ^ width := by
  obtain ⟨more, rfl⟩ := Nat.exists_eq_add_of_le hwidth
  rw [h.value, pow_add, mul_assoc, Nat.add_mul_mod_self_left]

/-- The window without its lowest field. -/
theorem Window.drop (h : Window N consumed bits available rest) {width : ℕ}
    (hwidth : width ≤ available) :
    Window N (consumed + width) (bits / 2 ^ width) (available - width) rest where
  small := by
    apply Nat.div_lt_of_lt_mul
    rw [← pow_add, Nat.add_sub_cancel' hwidth]
    exact h.small
  value := by
    obtain ⟨more, rfl⟩ := Nat.exists_eq_add_of_le hwidth
    rw [pow_add, ← Nat.div_div_eq_div_mul, h.value, pow_add, mul_assoc,
      Nat.add_mul_div_left _ _ (Nat.two_pow_pos width), Nat.add_sub_cancel_left]

/-- The low digits of a number, put together again. -/
theorem ofDigits_low_digits (b N count : ℕ) :
    Nat.ofDigits b ((List.range count).map fun i => N / b ^ i % b) = N % b ^ count := by
  induction count with
  | zero => simp [Nat.mod_one]
  | succ count ih =>
    rw [List.range_succ, List.map_append, Nat.ofDigits_append, ih, List.length_map,
      List.length_range, List.map_singleton, Nat.ofDigits_singleton, Nat.mod_pow_succ]

end IndoorRobot.PackedDigits
