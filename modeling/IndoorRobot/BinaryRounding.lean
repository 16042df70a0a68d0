import Mathlib

/-!
# Rounding to binary floating point

A format has a precision and a least exponent; its numbers are the multiples of a power
of two by integers of so many bits. `Format.round` rounds a rational number to one of
them, to the nearest one and in ties to the even one. It is monotone and odd, keeps the
numbers of the format and errs by half a unit of the last place. `lround` goes on to the
nearest integer, in ties away from zero. `Near u k` says that two numbers are apart by the
relative errors of `k` roundings, and bounds what products and quotients add to them.
-/
namespace IndoorRobot.BinaryRounding

/-- The nearest integer, in ties the even one. -/
def nearestEven (x : ℚ) : ℤ :=
  if Int.fract x < 1 / 2 ∨ Int.fract x = 1 / 2 ∧ Even ⌊x⌋ then ⌊x⌋ else ⌊x⌋ + 1

theorem floor_le_nearestEven (x : ℚ) : ⌊x⌋ ≤ nearestEven x := by
  rw [nearestEven]
  split_ifs <;> omega

theorem nearestEven_le_floor (x : ℚ) : nearestEven x ≤ ⌊x⌋ + 1 := by
  rw [nearestEven]
  split_ifs <;> omega

theorem nearestEven_intCast (n : ℤ) : nearestEven n = n := by
  simp [nearestEven]

theorem abs_nearestEven_sub_le (x : ℚ) : |(nearestEven x : ℚ) - x| ≤ 1 / 2 := by
  have hfract := Int.self_sub_floor x
  rw [nearestEven]
  split_ifs with h
  · have hle : Int.fract x ≤ 1 / 2 := h.elim le_of_lt fun hhalf => hhalf.1.le
    rw [abs_le]
    constructor <;> linarith [Int.fract_nonneg x]
  · have hge : 1 / 2 ≤ Int.fract x := not_lt.mp fun hlt => h (.inl hlt)
    push_cast
    rw [abs_le]
    constructor <;> linarith [Int.fract_lt_one x]

theorem nearestEven_mono {x y : ℚ} (h : x ≤ y) : nearestEven x ≤ nearestEven y := by
  have hfloor := Int.floor_le_floor h
  rcases hfloor.lt_or_eq with hlt | heq
  · have hx := nearestEven_le_floor x
    have hy := floor_le_nearestEven y
    omega
  · have hx := Int.self_sub_floor x
    have hy := Int.self_sub_floor y
    have hfract : Int.fract x ≤ Int.fract y := by
      rw [← hx, ← hy, heq]
      linarith
    rw [nearestEven, nearestEven, heq]
    split_ifs with hdown hup hup
    · exact le_rfl
    · omega
    · -- The smaller one is rounded up, so the larger one is too.
      exfalso
      apply hdown
      obtain hlt | ⟨hhalf, heven⟩ := hup
      · exact .inl (hfract.trans_lt hlt)
      · rcases hfract.lt_or_eq with hless | hsame
        · exact .inl (hhalf ▸ hless)
        · exact .inr ⟨hsame.trans hhalf, heven⟩
    · exact le_rfl

theorem nearestEven_neg (x : ℚ) : nearestEven (-x) = -nearestEven x := by
  by_cases hint : Int.fract x = 0
  · obtain ⟨n, rfl⟩ : ∃ n : ℤ, (n : ℚ) = x := ⟨⌊x⌋, by linarith [Int.self_sub_floor x]⟩
    rw [← Int.cast_neg, nearestEven_intCast, nearestEven_intCast]
  · have hfract := Int.fract_neg hint
    have hfloor : ⌊-x⌋ = -⌊x⌋ - 1 := by
      have hneg := Int.self_sub_floor (-x)
      have hpos := Int.self_sub_floor x
      have hcast : ((⌊-x⌋ : ℤ) : ℚ) = ((-⌊x⌋ - 1 : ℤ) : ℚ) := by
        push_cast
        linarith
      exact_mod_cast hcast
    rw [nearestEven, nearestEven, hfract, hfloor]
    have hparity : Even (-⌊x⌋ - 1) ↔ ¬ Even ⌊x⌋ := by rw [Int.even_sub_one, even_neg]
    -- Of a number and its negative, one is rounded down and the other one up.
    have hswap : (1 - Int.fract x < 1 / 2 ∨ 1 - Int.fract x = 1 / 2 ∧ Even (-⌊x⌋ - 1)) ↔
        ¬ (Int.fract x < 1 / 2 ∨ Int.fract x = 1 / 2 ∧ Even ⌊x⌋) := by
      rw [hparity]
      rcases lt_trichotomy (Int.fract x) (1 / 2) with hlt | heq | hgt
      · have hfirst : ¬ 1 - Int.fract x < 1 / 2 := by linarith
        have hsecond : ¬ 1 - Int.fract x = 1 / 2 := by
          intro h
          linarith
        simp only [hlt, hfirst, hsecond, false_and, or_self, true_or, not_true]
      · have hhalf : (1 : ℚ) - 1 / 2 = 1 / 2 := by norm_num
        simp only [heq, hhalf, lt_irrefl, true_and, false_or]
      · have hfirst : 1 - Int.fract x < 1 / 2 := by linarith
        simp only [hfirst, hgt.not_gt, hgt.ne', false_and, or_self, true_or, not_false_eq_true]
    simp only [hswap]
    split_ifs <;> ring

/-- The nearest integer, in ties the one farther from zero, as C's `lround` has it. -/
def lround (x : ℚ) : ℤ := if 0 ≤ x then ⌊x + 1 / 2⌋ else -⌊-x + 1 / 2⌋

theorem lround_neg (x : ℚ) : lround (-x) = -lround x := by
  rw [lround, lround]
  rcases lt_trichotomy x 0 with h | rfl | h
  · rw [if_pos (by linarith), if_neg (by linarith), neg_neg]
  · norm_num
  · rw [if_neg (by linarith), if_pos h.le, neg_neg]

theorem lround_nonneg {x : ℚ} (h : 0 ≤ x) : 0 ≤ lround x := by
  rw [lround, if_pos h]
  exact Int.floor_nonneg.mpr (by linarith)

/-- What holds of both signs alike may be proved of nonnegative numbers. -/
theorem lround_induction {P : ℚ → ℤ → Prop} (hneg : ∀ x n, P x n → P (-x) (-n))
    (h : ∀ x, 0 ≤ x → P x ⌊x + 1 / 2⌋) (x : ℚ) : P x (lround x) := by
  rcases le_total 0 x with hx | hx
  · rw [lround, if_pos hx]
    exact h x hx
  · have hpos : 0 ≤ -x := neg_nonneg.mpr hx
    have hflip := hneg (-x) (lround (-x)) (by
      rw [lround, if_pos hpos]
      exact h (-x) hpos)
    rwa [neg_neg, lround_neg, neg_neg] at hflip

theorem abs_lround_sub_le (x : ℚ) : |(lround x : ℚ) - x| ≤ 1 / 2 := by
  refine lround_induction (P := fun x n => |(n : ℚ) - x| ≤ 1 / 2) ?_ ?_ x
  · intro x n h
    rw [Int.cast_neg, neg_sub_neg, abs_sub_comm]
    exact h
  · intro x _
    have hle := Int.floor_le (x + 1 / 2)
    have hlt := Int.lt_floor_add_one (x + 1 / 2)
    rw [abs_le]
    constructor <;> linarith

theorem abs_lround_le {x : ℚ} {n : ℤ} (h : |x| ≤ n) : |lround x| ≤ n := by
  refine lround_induction (P := fun x m => |x| ≤ n → |m| ≤ n) ?_ ?_ x h
  · intro x m hm hx
    rw [abs_neg] at hx ⊢
    exact hm hx
  · intro x hx hn
    rw [abs_of_nonneg hx] at hn
    have hfloor := Int.floor_nonneg.mpr (by linarith : 0 ≤ x + 1 / 2)
    rw [abs_of_nonneg hfloor]
    have hlt : x + 1 / 2 < ((n + 1 : ℤ) : ℚ) := by
      push_cast
      linarith
    exact Int.lt_add_one_iff.mp (Int.floor_lt.mpr hlt)

/-- The precision of a format in bits, and its least exponent. -/
structure Format where
  precision : ℕ
  precision_pos : 0 < precision
  minExponent : ℤ

namespace Format

variable (f : Format)

/-- The exponent of the last place of a number. -/
def exponent (x : ℚ) : ℤ := max (Int.log 2 |x| + 1 - f.precision) f.minExponent

/-- The unit of the last place. -/
def unit (x : ℚ) : ℚ := 2 ^ f.exponent x

def round (x : ℚ) : ℚ := nearestEven (x / f.unit x) * f.unit x

/-- The numbers of the format. -/
def Holds (x : ℚ) : Prop := ∃ m e : ℤ, |m| < 2 ^ f.precision ∧ f.minExponent ≤ e ∧ x = m * 2 ^ e

/-- Numbers large enough for all the bits of the precision. -/
def Normal (x : ℚ) : Prop := f.exponent x = Int.log 2 |x| + 1 - f.precision

variable {f} {x y : ℚ}

theorem unit_pos (x : ℚ) : 0 < f.unit x := zpow_pos (by norm_num) _

theorem exponent_neg (x : ℚ) : f.exponent (-x) = f.exponent x := by rw [exponent, exponent, abs_neg]

theorem unit_neg (x : ℚ) : f.unit (-x) = f.unit x := by rw [unit, unit, exponent_neg]

theorem unit_mul_pow (x : ℚ) (n : ℕ) : f.unit x * 2 ^ n = 2 ^ (f.exponent x + n) := by
  rw [unit, zpow_add₀ (by norm_num), zpow_natCast]

theorem abs_lt_unit (x : ℚ) : |x| < f.unit x * 2 ^ f.precision := by
  have hlog := Int.lt_zpow_succ_log_self (by norm_num : 1 < 2) |x|
  have hle : Int.log 2 |x| + 1 ≤ f.exponent x + f.precision := by
    have hmax := le_max_left (Int.log 2 |x| + 1 - f.precision) f.minExponent
    rw [← exponent] at hmax
    omega
  rw [unit_mul_pow]
  exact hlog.trans_le (zpow_le_zpow_right₀ (by norm_num) hle)

theorem normal_of_exponent_lt (h : f.minExponent < f.exponent x) : f.Normal x := by
  rw [Normal]
  rw [exponent] at h ⊢
  omega

theorem normal_of_le (h : 2 ^ (f.minExponent + f.precision - 1) ≤ |x|) : f.Normal x := by
  have hpos : 0 < |x| := (zpow_pos (by norm_num) _).trans_le h
  have hlog := (Int.zpow_le_iff_le_log (by norm_num : 1 < 2) hpos).mp h
  rw [Normal, exponent]
  omega

theorem unit_le_abs (hx : x ≠ 0) (h : f.Normal x) : f.unit x * 2 ^ (f.precision - 1) ≤ |x| := by
  rw [Normal] at h
  have hlog := Int.zpow_log_le_self (by norm_num : 1 < 2) (abs_pos.mpr hx)
  have hpos := f.precision_pos
  rw [unit_mul_pow, show f.exponent x + ((f.precision - 1 : ℕ) : ℤ) = Int.log 2 |x| by omega]
  exact hlog

theorem round_neg (x : ℚ) : f.round (-x) = -f.round x := by
  rw [round, round, unit_neg, neg_div, nearestEven_neg]
  push_cast
  ring

theorem round_zero : f.round 0 = 0 := by
  rw [round, zero_div, show (0 : ℚ) = ((0 : ℤ) : ℚ) by norm_num, nearestEven_intCast]
  simp

theorem round_nonneg (h : 0 ≤ x) : 0 ≤ f.round x := by
  have hnearest := nearestEven_mono (div_nonneg h (unit_pos (f := f) x).le)
  rw [show (0 : ℚ) = ((0 : ℤ) : ℚ) by norm_num, nearestEven_intCast] at hnearest
  exact mul_nonneg (by exact_mod_cast hnearest) (unit_pos x).le

theorem abs_round_sub_le (x : ℚ) : |f.round x - x| ≤ f.unit x / 2 := by
  have hunit := unit_pos (f := f) x
  have herror := abs_nearestEven_sub_le (x / f.unit x)
  have hfactor : f.round x - x = (nearestEven (x / f.unit x) - x / f.unit x) * f.unit x := by
    rw [round, sub_mul, div_mul_cancel₀ _ hunit.ne']
  rw [hfactor, abs_mul, abs_of_pos hunit]
  calc _ ≤ 1 / 2 * f.unit x := mul_le_mul_of_nonneg_right herror hunit.le
    _ = f.unit x / 2 := by ring

/-- Half a unit of a normal number is a small part of it. -/
theorem abs_round_sub_le_of_normal (h : x = 0 ∨ f.Normal x) :
    |f.round x - x| ≤ |x| / 2 ^ f.precision := by
  rcases eq_or_ne x 0 with rfl | hx
  · rw [round_zero, sub_zero, abs_zero, zero_div]
  · have hunit := unit_le_abs hx (h.resolve_left hx)
    have hdouble : (2 : ℚ) ^ f.precision = 2 * 2 ^ (f.precision - 1) := by
      rw [← pow_succ', Nat.sub_add_cancel f.precision_pos]
    refine (abs_round_sub_le x).trans ?_
    rw [le_div_iff₀ (by positivity), hdouble]
    linarith

theorem abs_round_sub_le_relative (x : ℚ) :
    |f.round x - x| ≤ |x| / 2 ^ f.precision + 2 ^ f.minExponent / 2 := by
  have hmin : (0 : ℚ) < 2 ^ f.minExponent := zpow_pos (by norm_num) _
  have hnonneg : 0 ≤ |x| / 2 ^ f.precision := by positivity
  by_cases h : f.minExponent < f.exponent x
  · have hnormal := abs_round_sub_le_of_normal (.inr (normal_of_exponent_lt h))
    linarith
  · have hexponent : f.exponent x = f.minExponent :=
      le_antisymm (not_lt.mp h) (le_max_right _ _)
    refine (abs_round_sub_le x).trans ?_
    rw [unit, hexponent]
    linarith

theorem exponent_mono (hx : 0 < x) (h : x ≤ y) : f.exponent x ≤ f.exponent y := by
  have hlog := Int.log_mono_right (b := 2) (abs_pos.mpr hx.ne') (abs_le_abs_of_nonneg hx.le h)
  rw [exponent, exponent]
  omega

/-- Numbers with one unit are rounded in the order they have. -/
theorem round_le_of_unit_eq (hunit : f.unit x = f.unit y) (h : x ≤ y) : f.round x ≤ f.round y := by
  have hpos := unit_pos (f := f) y
  have hnearest := nearestEven_mono (div_le_div_of_nonneg_right h hpos.le)
  rw [round, round, hunit]
  exact mul_le_mul_of_nonneg_right (by exact_mod_cast hnearest) hpos.le

theorem round_le_unit (x : ℚ) : f.round x ≤ f.unit x * 2 ^ f.precision := by
  have hpos := unit_pos (f := f) x
  have hle : x / f.unit x ≤ ((2 ^ f.precision : ℤ) : ℚ) := by
    rw [div_le_iff₀ hpos]
    push_cast
    linarith [le_abs_self x, abs_lt_unit (f := f) x]
  have hnearest := nearestEven_mono hle
  rw [nearestEven_intCast] at hnearest
  have hcast : (nearestEven (x / f.unit x) : ℚ) ≤ 2 ^ f.precision := by exact_mod_cast hnearest
  rw [round, mul_comm]
  exact mul_le_mul_of_nonneg_left hcast hpos.le

theorem unit_le_round (hx : 0 < x) (h : f.minExponent < f.exponent x) :
    f.unit x * 2 ^ (f.precision - 1) ≤ f.round x := by
  have hpos := unit_pos (f := f) x
  have hle : ((2 ^ (f.precision - 1) : ℤ) : ℚ) ≤ x / f.unit x := by
    rw [le_div_iff₀ hpos]
    push_cast
    linarith [abs_of_pos hx, unit_le_abs hx.ne' (normal_of_exponent_lt h)]
  have hnearest := nearestEven_mono hle
  rw [nearestEven_intCast] at hnearest
  have hcast : (2 : ℚ) ^ (f.precision - 1) ≤ nearestEven (x / f.unit x) := by
    exact_mod_cast hnearest
  rw [round, mul_comm]
  exact mul_le_mul_of_nonneg_right hcast hpos.le

theorem round_le_of_nonneg (hx : 0 ≤ x) (h : x ≤ y) : f.round x ≤ f.round y := by
  rcases hx.eq_or_lt with rfl | hx
  · rw [round_zero]
    exact round_nonneg h
  · rcases (exponent_mono (f := f) hx h).eq_or_lt with heq | hlt
    · exact round_le_of_unit_eq (by rw [unit, unit, heq]) h
    · -- A power of two lies between the two numbers, and so between their roundings.
      have hmin : f.minExponent < f.exponent y := (le_max_right _ _).trans_lt hlt
      have hpower : f.unit x * 2 ^ f.precision ≤ f.unit y * 2 ^ (f.precision - 1) := by
        have hp := f.precision_pos
        rw [unit_mul_pow, unit_mul_pow]
        exact zpow_le_zpow_right₀ (by norm_num) (by omega)
      exact (round_le_unit x).trans (hpower.trans (unit_le_round (hx.trans_le h) hmin))

theorem round_mono : Monotone f.round := by
  intro x y h
  rcases le_total 0 x with hx | hx
  · exact round_le_of_nonneg hx h
  · rcases le_total 0 y with hy | hy
    · have hneg := round_nonneg (f := f) (neg_nonneg.mpr hx)
      rw [round_neg] at hneg
      linarith [round_nonneg (f := f) hy]
    · have hneg := round_le_of_nonneg (f := f) (neg_nonneg.mpr hy) (neg_le_neg h)
      rw [round_neg, round_neg] at hneg
      linarith

/-- The numbers of the format are kept. -/
theorem Holds.round_eq (h : f.Holds x) : f.round x = x := by
  obtain ⟨m, e, hm, he, rfl⟩ := h
  by_cases hzero : m = 0
  · rw [hzero, Int.cast_zero, zero_mul, round_zero]
  · have hpos : (0 : ℚ) < |(m : ℚ) * 2 ^ e| := by positivity
    have hlt : |(m : ℚ) * 2 ^ e| < ((2 : ℕ) : ℚ) ^ (e + f.precision) := by
      have hcast : |(m : ℚ)| < 2 ^ f.precision := by exact_mod_cast hm
      rw [Nat.cast_ofNat, abs_mul, abs_of_pos (zpow_pos (by norm_num : (0 : ℚ) < 2) e),
        zpow_add₀ (by norm_num), zpow_natCast, mul_comm]
      exact mul_lt_mul_of_pos_left hcast (zpow_pos (by norm_num) e)
    have hlog := (Int.lt_zpow_iff_log_lt (by norm_num : 1 < 2) hpos).mp hlt
    have hexponent : f.exponent (m * 2 ^ e) ≤ e := by
      rw [exponent]
      omega
    -- The number is a multiple of its unit.
    obtain ⟨k, hk⟩ := Int.eq_ofNat_of_zero_le (sub_nonneg.mpr hexponent)
    have hmultiple : (m : ℚ) * 2 ^ e / f.unit (m * 2 ^ e) = ((m * 2 ^ k : ℤ) : ℚ) := by
      rw [unit, mul_div_assoc, ← zpow_sub₀ (by norm_num), hk, zpow_natCast]
      push_cast
      rfl
    rw [round, hmultiple, nearestEven_intCast, ← hmultiple,
      div_mul_cancel₀ _ (unit_pos (f := f) _).ne']

theorem holds_intCast (hmin : f.minExponent ≤ 0) {n : ℤ} (hn : |n| < 2 ^ f.precision) :
    f.Holds n := ⟨n, 0, hn, hmin, by simp⟩

/-- What is rounded is a number of the format. -/
theorem holds_round (x : ℚ) : f.Holds (f.round x) := by
  have hpos := unit_pos (f := f) x
  have hmin : f.minExponent ≤ f.exponent x := le_max_right _ _
  have hle : |nearestEven (x / f.unit x)| ≤ 2 ^ f.precision := by
    have habs : |x / f.unit x| ≤ ((2 ^ f.precision : ℤ) : ℚ) := by
      rw [abs_div, abs_of_pos hpos, div_le_iff₀ hpos]
      push_cast
      linarith [abs_lt_unit (f := f) x]
    obtain ⟨hlower, hupper⟩ := abs_le.mp habs
    have hlow := nearestEven_mono hlower
    have hhigh := nearestEven_mono hupper
    rw [← Int.cast_neg, nearestEven_intCast] at hlow
    rw [nearestEven_intCast] at hhigh
    exact abs_le.mpr ⟨hlow, hhigh⟩
  rcases hle.lt_or_eq with hlt | heq
  · exact ⟨_, f.exponent x, hlt, hmin, rfl⟩
  -- the largest significand is a power of two, which has one of its own in the next binade
  · obtain ⟨p, hp⟩ : ∃ p, f.precision = p + 1 := ⟨f.precision - 1, by have := f.precision_pos; omega⟩
    rw [hp] at heq
    have hdouble : (2 : ℚ) ^ (f.exponent x + 1) = 2 * f.unit x := by
      rw [zpow_add_one₀ (by norm_num), mul_comm, unit]
    rcases eq_or_eq_neg_of_abs_eq heq with hn | hn
    · refine ⟨2 ^ p, f.exponent x + 1, ?_, by omega, ?_⟩
      · rw [hp, abs_of_pos (by positivity)]
        exact pow_lt_pow_right₀ (by norm_num) (Nat.lt_succ_self p)
      · rw [round, hn, hdouble]
        push_cast
        ring
    · refine ⟨-2 ^ p, f.exponent x + 1, ?_, by omega, ?_⟩
      · rw [hp, abs_neg, abs_of_pos (by positivity)]
        exact pow_lt_pow_right₀ (by norm_num) (Nat.lt_succ_self p)
      · rw [round, hn, hdouble]
        push_cast
        ring

/-- A number of the format bounds the roundings of what it bounds. -/
theorem Holds.abs_round_le (h : f.Holds y) (hx : |x| ≤ y) : |f.round x| ≤ y := by
  obtain ⟨hlower, hupper⟩ := abs_le.mp hx
  have hround := round_mono (f := f) hupper
  have hneg := round_mono (f := f) hlower
  rw [h.round_eq] at hround
  rw [round_neg, h.round_eq] at hneg
  exact abs_le.mpr ⟨hneg, hround⟩

end Format

/-- The second number lies within `k` factors of `1 - u` of the first one, on either side. -/
structure Near (u : ℚ) (k : ℕ) (x y : ℚ) : Prop where
  lower : x * (1 - u) ^ k ≤ y
  upper : y * (1 - u) ^ k ≤ x

namespace Near

variable {u x y z a b : ℚ} {k l : ℕ}

theorem symm (h : Near u k x y) : Near u k y x := ⟨h.upper, h.lower⟩

theorem trans (hu : u ≤ 1) (h : Near u k x y) (h' : Near u l y z) : Near u (k + l) x z := by
  have hpos (n : ℕ) : 0 ≤ (1 - u) ^ n := pow_nonneg (sub_nonneg.mpr hu) n
  constructor
  · calc x * (1 - u) ^ (k + l) = x * (1 - u) ^ k * (1 - u) ^ l := by rw [pow_add, mul_assoc]
      _ ≤ y * (1 - u) ^ l := mul_le_mul_of_nonneg_right h.lower (hpos l)
      _ ≤ z := h'.lower
  · calc z * (1 - u) ^ (k + l) = z * (1 - u) ^ l * (1 - u) ^ k := by rw [add_comm, pow_add, mul_assoc]
      _ ≤ y * (1 - u) ^ k := mul_le_mul_of_nonneg_right h'.upper (hpos k)
      _ ≤ x := h.upper

theorem mul (h : Near u k x y) (ha : 0 ≤ a) : Near u k (a * x) (a * y) := by
  constructor
  · rw [mul_assoc]
    exact mul_le_mul_of_nonneg_left h.lower ha
  · rw [mul_assoc]
    exact mul_le_mul_of_nonneg_left h.upper ha

theorem div (h : Near u k x y) (ha : 0 ≤ a) (hx : 0 < x) (hy : 0 < y) : Near u k (a / x) (a / y) := by
  constructor
  · rw [div_mul_eq_mul_div, div_le_div_iff₀ hx hy]
    linarith [mul_le_mul_of_nonneg_left h.upper ha]
  · rw [div_mul_eq_mul_div, div_le_div_iff₀ hy hx]
    linarith [mul_le_mul_of_nonneg_left h.lower ha]

theorem round {f : Format} (hx : 0 ≤ x) (h : x = 0 ∨ f.Normal x) :
    Near (1 / 2 ^ f.precision) 1 x (f.round x) := by
  have herror := f.abs_round_sub_le_of_normal h
  rw [abs_of_nonneg hx, abs_le] at herror
  have hsmall : (0 : ℚ) ≤ 1 / 2 ^ f.precision := by positivity
  have hpart : x / 2 ^ f.precision = x * (1 / 2 ^ f.precision) := by ring
  rw [hpart] at herror
  constructor
  · rw [pow_one]
    linarith
  · have hone : (1 : ℚ) / 2 ^ f.precision ≤ 1 := by
      rw [div_le_one (by positivity)]
      exact one_le_pow₀ one_le_two
    rw [pow_one]
    calc f.round x * (1 - 1 / 2 ^ f.precision)
        ≤ (x + x * (1 / 2 ^ f.precision)) * (1 - 1 / 2 ^ f.precision) :=
          mul_le_mul_of_nonneg_right (by linarith) (by linarith)
      _ = x - x * (1 / 2 ^ f.precision * (1 / 2 ^ f.precision)) := by ring
      _ ≤ x := by linarith [mul_nonneg hx (mul_nonneg hsmall hsmall)]

theorem div_div (hu : u ≤ 1) (h : Near u k a b) (h' : Near u l x y) (ha : 0 ≤ a) (hx : 0 < x)
    (hy : 0 < y) : Near u (l + k) (a / x) (b / y) := by
  have hnumerator := h.mul (inv_nonneg.mpr hy.le)
  rw [inv_mul_eq_div, inv_mul_eq_div] at hnumerator
  exact (h'.div ha hx hy).trans hu hnumerator

/-- Factors close to one. -/
theorem half_le (h : Near u k x y) (hx : 0 ≤ x) (hu : u ≤ 1) (hsmall : k * u ≤ 1 / 2) : x / 2 ≤ y := by
  have hbernoulli := one_add_mul_le_pow (by linarith : -2 ≤ -u) k
  rw [← sub_eq_add_neg] at hbernoulli
  have hhalf : (1 : ℚ) / 2 ≤ (1 - u) ^ k := by linarith
  linarith [(mul_le_mul_of_nonneg_left hhalf hx).trans h.lower]

/-- The distance of the numbers, for such factors. -/
theorem abs_sub_le (h : Near u k x y) (hx : 0 ≤ x) (hu : 0 ≤ u) (hone : u ≤ 1)
    (hsmall : k * u ≤ 1 / 2) : |y - x| ≤ 2 * (k * u) * x := by
  have hpow : 1 - k * u ≤ (1 - u) ^ k := by
    have hbernoulli := one_add_mul_le_pow (by linarith : -2 ≤ -u) k
    rw [← sub_eq_add_neg] at hbernoulli
    linarith
  have hy : 0 ≤ y := by linarith [h.half_le hx hone hsmall]
  have hdouble : y ≤ 2 * x := by linarith [h.symm.half_le hy hone hsmall]
  have hlower := (mul_le_mul_of_nonneg_left hpow hx).trans h.lower
  have hupper := (mul_le_mul_of_nonneg_left hpow hy).trans h.upper
  have hku : 0 ≤ k * u := by positivity
  have hpart := mul_le_mul_of_nonneg_left hdouble hku
  rw [abs_le]
  constructor
  · linarith [mul_nonneg hku hx]
  · linarith

end Near

end IndoorRobot.BinaryRounding
