import IndoorRobot.BinaryRounding
import IndoorRobot.ManualInputGuard
import IndoorRobot.ProtocolPayloads

/-!
# From the sticks to the wheels

`manual_control_input.cpp`. Its `double` operations are the exact ones, rounded to
`binary64`: no value of it comes near overflow, and the sign of a zero is never looked
at. What the mixing is for is said without rounding: the wheels get the sum and the
difference of the deflections, shortened as little as the unit square demands.
-/
namespace IndoorRobot

open BinaryRounding

def binary64 : Format := ⟨53, by decide, -1074⟩

namespace CrsfChannels

def stickMin : UInt16 := 174
def stickMax : UInt16 := 1811
def neutralLower : ℤ := stickCenter.toNat - neutralTolerance.toNat
def neutralUpper : ℤ := stickCenter.toNat + neutralTolerance.toNat

end CrsfChannels

structure ManualWheelDemand where
  left : ℚ
  right : ℚ
  deriving DecidableEq

open CrsfChannels

/-- Differences are taken of `int` and divided as `double`. -/
def normalizeManualStick (value : UInt16) : ℚ :=
  if value ≤ stickMin then -1
  else if value ≥ stickMax then 1
  else if isNeutral value then 0
  else if value > stickCenter then
    binary64.round ((value.toNat - neutralUpper : ℤ) / (stickMax.toNat - neutralUpper : ℤ))
  else binary64.round ((-(neutralLower - value.toNat) : ℤ) / (neutralLower - stickMin.toNat : ℤ))

def mixManualSticks (forward steering : ℚ) : ManualWheelDemand :=
  let left := binary64.round (forward + steering)
  let right := binary64.round (forward - steering)
  let scale := max 1 (max |left| |right|)
  { left := binary64.round (left / scale), right := binary64.round (right / scale) }

def manualWheelsToCommand (demand : ManualWheelDemand) (maxVelocityMmS : Int16) :
    WheelVelocityCommand where
  leftVelocityMmS := Int16.ofInt (lround (binary64.round (demand.left * maxVelocityMmS.toInt)))
  rightVelocityMmS := Int16.ofInt (lround (binary64.round (demand.right * maxVelocityMmS.toInt)))

/-- The `candidate_command` of two stick values. -/
def manualCommand (forward steering : UInt16) : WheelVelocityCommand :=
  manualWheelsToCommand
    (mixManualSticks (normalizeManualStick forward) (normalizeManualStick steering)) 120

/-! ### Shortening into the unit square -/

section Shortening
variable {K : Type*} [Field K] [LinearOrder K]

/-- The factors that keep a pair in the unit square. -/
def Fitting (left right : K) : Set K := {t | t ≤ 1 ∧ |t * left| ≤ 1 ∧ |t * right| ≤ 1}

def extent (left right : K) : K := max 1 (max |left| |right|)

variable {left right left' right' error : K}

theorem one_le_extent (left right : K) : 1 ≤ extent left right := le_max_left _ _

theorem abs_left_le_extent (left right : K) : |left| ≤ extent left right :=
  (le_max_left _ _).trans (le_max_right _ _)

theorem extent_comm (left right : K) : extent right left = extent left right := by
  rw [extent, extent, max_comm |right|]

theorem abs_right_le_extent (left right : K) : |right| ≤ extent left right :=
  (extent_comm left right) ▸ abs_left_le_extent right left

variable [IsStrictOrderedRing K]

theorem extent_pos (left right : K) : 0 < extent left right :=
  zero_lt_one.trans_le (one_le_extent left right)

/-- The least shortening that keeps a pair in the unit square. -/
theorem isGreatest_fitting (left right : K) : IsGreatest (Fitting left right) (1 / extent left right) := by
  have hpos := extent_pos left right
  have hfits {x : K} (hx : |x| ≤ extent left right) : |1 / extent left right * x| ≤ 1 := by
    rw [one_div_mul_eq_div, abs_div, abs_of_pos hpos]
    exact (div_le_one hpos).mpr hx
  refine ⟨⟨?_, hfits (abs_left_le_extent left right), hfits (abs_right_le_extent left right)⟩, ?_⟩
  · exact (div_le_one hpos).mpr (one_le_extent left right)
  · rintro t ⟨hone, hleft, hright⟩
    rw [le_div_iff₀ hpos]
    rcases le_total t 0 with ht | ht
    · exact (mul_nonpos_of_nonpos_of_nonneg ht hpos.le).trans zero_le_one
    · rw [abs_mul, abs_of_nonneg ht] at hleft hright
      rw [extent, mul_max_of_nonneg _ _ ht, mul_max_of_nonneg _ _ ht, mul_one]
      exact max_le hone (max_le hleft hright)

theorem abs_div_extent_le (left right : K) : |left / extent left right| ≤ 1 := by
  rw [abs_div, abs_of_pos (extent_pos left right)]
  exact (div_le_one (extent_pos left right)).mpr (abs_left_le_extent left right)

theorem extent_sub_le (hleft : |left' - left| ≤ error) (hright : |right' - right| ≤ error) :
    extent left' right' ≤ extent left right + error := by
  have herror : 0 ≤ error := (abs_nonneg _).trans hleft
  have hfirst := abs_sub_abs_le_abs_sub left' left
  have hsecond := abs_sub_abs_le_abs_sub right' right
  have hl := abs_left_le_extent left right
  have hr := abs_right_le_extent left right
  rw [extent]
  refine max_le ?_ (max_le ?_ ?_)
  · linarith [one_le_extent left right]
  · linarith
  · linarith

/-- Shortening at most doubles the error of a pair. -/
theorem abs_div_extent_sub_le (hleft : |left' - left| ≤ error) (hright : |right' - right| ≤ error) :
    |left' / extent left' right' - left / extent left right| ≤ 2 * error := by
  have herror : 0 ≤ error := (abs_nonneg _).trans hleft
  have hone := one_le_extent left' right'
  have hpos := extent_pos left' right'
  have hpos' := extent_pos left right
  have hextent : |extent left right - extent left' right'| ≤ error := by
    have hupper := extent_sub_le hleft hright
    rw [abs_sub_comm] at hleft hright
    have hlower := extent_sub_le hleft hright
    rw [abs_le]
    constructor <;> linarith
  have hsplit : left' / extent left' right' - left / extent left right =
      (left' - left + left / extent left right * (extent left right - extent left' right')) /
        extent left' right' := by
    field_simp
    ring
  rw [hsplit, abs_div, abs_of_pos hpos, div_le_iff₀ hpos]
  calc _ ≤ |left' - left| + |left / extent left right * (extent left right - extent left' right')| :=
        abs_add_le _ _
    _ = |left' - left| + |left / extent left right| * |extent left right - extent left' right'| := by
        rw [abs_mul]
    _ ≤ error + 1 * error := by
        have hmul := mul_le_mul (abs_div_extent_le left right) hextent (abs_nonneg _) zero_le_one
        linarith
    _ ≤ 2 * error * extent left' right' := by nlinarith

end Shortening

/-! ### The specification of the mixing -/

def clip (x : ℚ) : ℚ := max 0 (min 1 x)

/-- How far a stick is pushed, from zero at the edges of the neutral zone to one at the ends. -/
def deflection (value : UInt16) : ℚ :=
  clip ((value.toNat - neutralUpper) / (stickMax.toNat - neutralUpper)) -
    clip ((neutralLower - value.toNat) / (neutralLower - stickMin.toNat))

/-- The second number is on no other side of zero than the first one, and zero with it. -/
structure SameSide (x y : ℚ) : Prop where
  nonneg : 0 ≤ x → 0 ≤ y
  nonpos : x ≤ 0 → y ≤ 0

/-- The whole velocity `v` stands for the part `x` of the limit `m`. -/
structure StandsFor (v m : ℤ) (x : ℚ) : Prop where
  limit : |v| ≤ |m|
  near : |(v : ℚ) - m * x| ≤ 1 / 2 + |m| / 2 ^ 48
  side : SameSide (m * x) v

/-- The wheels turn as the sticks are pushed, shortened as little as possible. -/
def Follows (command : WheelVelocityCommand) (limit : ℤ) (forward steering : ℚ) : Prop :=
  ∃ t, IsGreatest (Fitting (forward + steering) (forward - steering)) t ∧
    StandsFor command.leftVelocityMmS.toInt limit (t * (forward + steering)) ∧
    StandsFor command.rightVelocityMmS.toInt limit (t * (forward - steering))

/-! ### Signs -/

namespace SameSide

variable {x y z : ℚ}

theorem trans (h : SameSide x y) (h' : SameSide y z) : SameSide x z :=
  ⟨fun hx => h'.nonneg (h.nonneg hx), fun hx => h'.nonpos (h.nonpos hx)⟩

theorem round (x : ℚ) : SameSide x (binary64.round x) where
  nonneg := Format.round_nonneg
  nonpos := by
    intro hx
    have hneg := Format.round_nonneg (f := binary64) (neg_nonneg.mpr hx)
    rw [Format.round_neg] at hneg
    exact neg_nonneg.mp hneg

theorem lround (x : ℚ) : SameSide x (lround x : ℤ) where
  nonneg := fun hx => by exact_mod_cast lround_nonneg hx
  nonpos := by
    intro hx
    have hneg := lround_nonneg (neg_nonneg.mpr hx)
    rw [lround_neg] at hneg
    exact_mod_cast neg_nonneg.mp hneg

theorem div (x : ℚ) (hy : 0 < y) : SameSide x (x / y) :=
  ⟨fun hx => div_nonneg hx hy.le, fun hx => div_nonpos_of_nonpos_of_nonneg hx hy.le⟩

theorem of_div (x : ℚ) (hy : 0 < y) : SameSide (x / y) x where
  nonneg := fun h => by rwa [le_div_iff₀ hy, zero_mul] at h
  nonpos := fun h => by rwa [div_le_iff₀ hy, zero_mul] at h

/-- Rounded numbers are added on the side of their exact sum. -/
theorem round_add (x y : ℚ) : SameSide (x + y) (binary64.round x + binary64.round y) where
  nonneg := by
    intro h
    have hmono := Format.round_mono (f := binary64) (by linarith : -y ≤ x)
    rw [Format.round_neg] at hmono
    linarith
  nonpos := by
    intro h
    have hmono := Format.round_mono (f := binary64) (by linarith : x ≤ -y)
    rw [Format.round_neg] at hmono
    linarith

theorem mul (h : SameSide x y) (z : ℚ) : SameSide (z * x) (y * z) := by
  rcases lt_trichotomy z 0 with hz | rfl | hz
  · constructor
    · intro hx
      exact mul_nonneg_of_nonpos_of_nonpos (h.nonpos (nonpos_of_mul_nonneg_right hx hz)) hz.le
    · intro hx
      exact mul_nonpos_of_nonneg_of_nonpos (h.nonneg (nonneg_of_mul_nonpos_right hx hz)) hz.le
  · rw [zero_mul, mul_zero]
    exact ⟨id, id⟩
  · constructor
    · intro hx
      exact mul_nonneg (h.nonneg ((mul_nonneg_iff_of_pos_left hz).mp hx)) hz.le
    · intro hx
      exact mul_nonpos_of_nonpos_of_nonneg (h.nonpos (nonpos_of_mul_nonpos_right hx hz)) hz.le

end SameSide

/-! ### Errors -/

section Errors
variable {x b : ℚ}

theorem binary64_holds_intCast {n : ℤ} (hn : |n| < 2 ^ 53) : binary64.Holds n :=
  Format.holds_intCast (by decide) hn

theorem binary64_holds_one : binary64.Holds 1 := by
  exact_mod_cast binary64_holds_intCast (n := 1) (by norm_num)

/-- The error of a number that is one at most, or zero. -/
theorem binary64_error (hx : |x| ≤ b) (hb : b = 0 ∨ 1 ≤ b) : |binary64.round x - x| ≤ b / 2 ^ 52 := by
  rcases hb with rfl | hb
  · rw [abs_nonpos_iff.mp hx, Format.round_zero]
    norm_num
  · have hrelative : |binary64.round x - x| ≤ |x| / 2 ^ 53 + 2 ^ (-1074 : ℤ) / 2 :=
      Format.abs_round_sub_le_relative (f := binary64) x
    have htiny : (2 : ℚ) ^ (-1074 : ℤ) / 2 ≤ 1 / 2 ^ 53 := by
      rw [div_le_div_iff₀ (by norm_num) (by positivity), one_mul]
      calc (2 : ℚ) ^ (-1074 : ℤ) * 2 ^ 53 = 2 ^ (-1021 : ℤ) := by
            rw [← zpow_natCast, ← zpow_add₀ (by norm_num)]
            norm_num
        _ ≤ 2 ^ (1 : ℤ) := zpow_le_zpow_right₀ (by norm_num) (by norm_num)
        _ = 2 := zpow_one 2
    have hdiv : |x| / 2 ^ 53 ≤ b / 2 ^ 53 := by gcongr
    have hone : (1 : ℚ) / 2 ^ 53 ≤ b / 2 ^ 53 := by gcongr
    have hsum : b / 2 ^ 52 = b / 2 ^ 53 + b / 2 ^ 53 := by ring
    linarith

theorem clip_of_nonpos (h : x ≤ 0) : clip x = 0 := by
  rw [clip, max_eq_left ((min_le_right 1 x).trans h)]

theorem clip_of_one_le (h : 1 ≤ x) : clip x = 1 := by
  rw [clip, min_eq_left h, max_eq_right zero_le_one]

theorem clip_of_mem (hnonneg : 0 ≤ x) (hle : x ≤ 1) : clip x = x := by
  rw [clip, min_eq_right hle, max_eq_right hnonneg]

theorem deflection_eq (value : UInt16) :
    deflection value = clip ((value.toNat - 1017) / 794) - clip ((967 - value.toNat) / 793) := by
  have hupper : neutralUpper = 1017 := rfl
  have hlower : neutralLower = 967 := rfl
  have hmax : stickMax.toNat = 1811 := rfl
  have hmin : stickMin.toNat = 174 := rfl
  rw [deflection, hupper, hlower, hmax, hmin]
  norm_num

/-- The stick values are normalized as well as `double` can. -/
theorem normalizeManualStick_eq (value : UInt16) :
    normalizeManualStick value = binary64.round (deflection value) := by
  have hone := binary64_holds_one.round_eq
  have hzero := Format.round_zero (f := binary64)
  have hpast (h : value.toNat ≤ 1017) : clip (((value.toNat : ℚ) - 1017) / 794) = 0 := by
    have hcast : (value.toNat : ℚ) ≤ 1017 := by exact_mod_cast h
    exact clip_of_nonpos (by linarith)
  have hbefore (h : 967 ≤ value.toNat) : clip ((967 - (value.toNat : ℚ)) / 793) = 0 := by
    have hcast : (967 : ℚ) ≤ value.toNat := by exact_mod_cast h
    exact clip_of_nonpos (by linarith)
  have hneutral : isNeutral value = true ↔ 967 ≤ value.toNat ∧ value.toNat ≤ 1017 := by
    rw [isNeutral, Bool.and_eq_true, decide_eq_true_eq, decide_eq_true_eq, UInt16.le_iff_toNat_le,
      UInt16.le_iff_toNat_le]
    rfl
  rw [deflection_eq, normalizeManualStick]
  simp only [hneutral, UInt16.le_iff_toNat_le, UInt16.lt_iff_toNat_lt, ge_iff_le, gt_iff_lt]
  have hnumbers : stickMin.toNat = 174 ∧ stickMax.toNat = 1811 ∧ stickCenter.toNat = 992 ∧
      neutralLower = 967 ∧ neutralUpper = 1017 := ⟨rfl, rfl, rfl, rfl, rfl⟩
  obtain ⟨hstickMin, hstickMax, hstickCenter, hneutralLower, hneutralUpper⟩ := hnumbers
  rw [hstickMin, hstickMax, hstickCenter, hneutralLower, hneutralUpper]
  split_ifs with hmin hmax hrest hcenter
  · have hcast : (value.toNat : ℚ) ≤ 174 := by exact_mod_cast hmin
    rw [hpast (by omega), clip_of_one_le (by linarith), zero_sub, Format.round_neg, hone]
  · have hcast : (1811 : ℚ) ≤ value.toNat := by exact_mod_cast hmax
    rw [hbefore (by omega), clip_of_one_le (by linarith), sub_zero, hone]
  · rw [hpast hrest.2, hbefore hrest.1, sub_zero, hzero]
  · have hlower : (1017 : ℚ) ≤ value.toNat := by exact_mod_cast (by omega : 1017 ≤ value.toNat)
    have hupper : (value.toNat : ℚ) ≤ 1811 := by exact_mod_cast (by omega : value.toNat ≤ 1811)
    rw [hbefore (by omega), clip_of_mem (by linarith) (by linarith), sub_zero]
    norm_num
  · have hlower : (174 : ℚ) ≤ value.toNat := by exact_mod_cast (by omega : 174 ≤ value.toNat)
    have hupper : (value.toNat : ℚ) ≤ 967 := by exact_mod_cast (by omega : value.toNat ≤ 967)
    rw [hpast (by omega), clip_of_mem (by linarith) (by linarith), zero_sub]
    push_cast
    norm_num
    congr 1
    ring

theorem abs_deflection_le (value : UInt16) : |deflection value| ≤ 1 := by
  have hclip (x : ℚ) : 0 ≤ clip x ∧ clip x ≤ 1 :=
    ⟨le_max_left _ _, max_le zero_le_one (min_le_left _ _)⟩
  rw [deflection, abs_le]
  constructor <;> linarith [(hclip ((value.toNat - neutralUpper) / (stickMax.toNat - neutralUpper))).1,
    (hclip ((value.toNat - neutralUpper) / (stickMax.toNat - neutralUpper))).2,
    (hclip ((neutralLower - value.toNat) / (neutralLower - stickMin.toNat))).1,
    (hclip ((neutralLower - value.toNat) / (neutralLower - stickMin.toNat))).2]

/-- One wheel: rounded sum, shortened, scaled and rounded to a whole velocity. -/
def wheelVelocity (left right : ℚ) (limit : ℤ) : ℤ :=
  lround (binary64.round (binary64.round (left / extent left right) * limit))

theorem abs_product_le (left right : ℚ) (limit : ℤ) :
    |binary64.round (left / extent left right) * limit| ≤ (|limit| : ℤ) := by
  have hbound := binary64_holds_one.abs_round_le (abs_div_extent_le left right)
  rw [abs_mul, Int.cast_abs]
  exact mul_le_of_le_one_left (abs_nonneg _) hbound

theorem abs_wheelVelocity_le (left right : ℚ) {limit : ℤ} (hlimit : |limit| < 2 ^ 53) :
    |wheelVelocity left right limit| ≤ |limit| := by
  have hholds : binary64.Holds (|limit| : ℤ) := binary64_holds_intCast (by rwa [abs_abs])
  exact abs_lround_le (hholds.abs_round_le (abs_product_le left right limit))

theorem standsFor_wheelVelocity {left right x y : ℚ} {limit : ℤ} (hlimit : |limit| < 2 ^ 53)
    (hleft : |left - x| ≤ 4 / 2 ^ 52) (hright : |right - y| ≤ 4 / 2 ^ 52) (hside : SameSide x left) :
    StandsFor (wheelVelocity left right limit) limit (1 / extent x y * x) := by
  constructor
  · exact abs_wheelVelocity_le left right hlimit
  · -- The errors of the shortening, of two roundings to `double` and of the last one.
    have hshort := abs_div_extent_sub_le hleft hright
    have hquotient := binary64_error (abs_div_extent_le left right) (.inr le_rfl)
    have hproduct := binary64_error (abs_product_le left right limit) (by
      rcases eq_or_ne limit 0 with rfl | hne
      · exact .inl (by norm_num)
      · exact .inr (by exact_mod_cast Int.one_le_abs hne))
    have hwhole := abs_lround_sub_le (binary64.round (binary64.round (left / extent left right) * limit))
    have hpart : |binary64.round (left / extent left right) * limit - limit * (x / extent x y)| ≤
        9 / 2 ^ 52 * |(limit : ℚ)| := by
      rw [mul_comm (limit : ℚ), ← sub_mul, abs_mul]
      refine mul_le_mul_of_nonneg_right ?_ (abs_nonneg _)
      refine (abs_sub_le _ (left / extent left right) _).trans ?_
      linarith
    rw [one_div_mul_eq_div]
    refine (abs_sub_le _ (binary64.round (left / extent left right) * limit) _).trans ?_
    have hrounded := (abs_sub_le (wheelVelocity left right limit : ℚ) _ _).trans
      (add_le_add hwhole hproduct)
    have hpositive := abs_nonneg (limit : ℚ)
    push_cast at hrounded ⊢
    linarith
  · have hsum := (SameSide.of_div x (extent_pos x y)).trans hside
    have hquotient := (hsum.trans (SameSide.div left (extent_pos left right))).trans (.round _)
    rw [one_div_mul_eq_div]
    exact (hquotient.mul limit).trans ((SameSide.round _).trans (.lround _))

/-- The sum of two rounded numbers, rounded. -/
theorem abs_round_add_sub_le {x y : ℚ} (hx : |x| ≤ 1) (hy : |y| ≤ 1) :
    |binary64.round (binary64.round x + binary64.round y) - (x + y)| ≤ 4 / 2 ^ 52 := by
  have hxerror := binary64_error hx (.inr le_rfl)
  have hyerror := binary64_error hy (.inr le_rfl)
  have hsum : |binary64.round x + binary64.round y| ≤ 2 := by
    have hxround := binary64_holds_one.abs_round_le hx
    have hyround := binary64_holds_one.abs_round_le hy
    linarith [abs_add_le (binary64.round x) (binary64.round y)]
  have hrounded := binary64_error hsum (.inr one_le_two)
  have hsplit : binary64.round x + binary64.round y - (x + y) =
      (binary64.round x - x) + (binary64.round y - y) := by ring
  have hexact : |binary64.round x + binary64.round y - (x + y)| ≤ 2 / 2 ^ 52 := by
    rw [hsplit]
    linarith [abs_add_le (binary64.round x - x) (binary64.round y - y)]
  refine (abs_sub_le _ (binary64.round x + binary64.round y) _).trans ?_
  linarith

end Errors

/-- A limit other than the least number leaves room for all velocities. -/
theorem toInt_ofInt_wheelVelocity (left right : ℚ) {limit : Int16} (hlimit : limit ≠ -32768) :
    (Int16.ofInt (wheelVelocity left right limit.toInt)).toInt = wheelVelocity left right limit.toInt := by
  have hne : limit.toInt ≠ -32768 := fun h => hlimit (Int16.toInt_inj.mp h)
  have hlower := limit.le_toInt
  have hupper := limit.toInt_lt
  have habs : |limit.toInt| ≤ 32767 := abs_le.mpr ⟨by omega, by omega⟩
  have hwheel := (abs_wheelVelocity_le left right (habs.trans_lt (by norm_num))).trans habs
  rw [abs_le] at hwheel
  exact Int16.toInt_ofInt_of_le (by omega) (by omega)

/-- Both wheels, from stick positions that have been rounded once. -/
theorem follows_mix {forward steering : ℚ} (hforward : |forward| ≤ 1) (hsteering : |steering| ≤ 1)
    {limit : Int16} (hlimit : limit ≠ -32768) :
    Follows (manualWheelsToCommand (mixManualSticks (binary64.round forward)
      (binary64.round steering)) limit) limit.toInt forward steering := by
  have hsmall : |limit.toInt| < 2 ^ 53 := by
    have hlower := limit.le_toInt
    have hupper := limit.toInt_lt
    exact abs_lt.mpr ⟨by omega, by omega⟩
  have hneg : |-steering| ≤ 1 := (abs_neg steering).trans_le hsteering
  have hleft := abs_round_add_sub_le hforward hsteering
  have hright := abs_round_add_sub_le hforward hneg
  have hleftSide := (SameSide.round_add forward steering).trans (.round _)
  have hrightSide := (SameSide.round_add forward (-steering)).trans (.round _)
  rw [Format.round_neg, ← sub_eq_add_neg, ← sub_eq_add_neg] at hright hrightSide
  refine ⟨_, isGreatest_fitting _ _, ?_, ?_⟩
  · have hcast := toInt_ofInt_wheelVelocity (binary64.round (binary64.round forward +
      binary64.round steering)) (binary64.round (binary64.round forward - binary64.round steering)) hlimit
    have hstands := standsFor_wheelVelocity hsmall hleft hright hleftSide
    rw [← hcast] at hstands
    exact hstands
  · have hcast := toInt_ofInt_wheelVelocity (binary64.round (binary64.round forward -
      binary64.round steering)) (binary64.round (binary64.round forward + binary64.round steering)) hlimit
    have hstands := standsFor_wheelVelocity hsmall hright hleft hrightSide
    rw [← hcast, extent_comm] at hstands
    rw [wheelVelocity, extent_comm] at hstands
    exact hstands

/-- For all stick values and every limit but the least one, the command follows the deflections
of the sticks. -/
theorem manual_command_follows_sticks (forward steering : UInt16) (limit : Int16)
    (hlimit : limit ≠ -32768) :
    Follows (manualWheelsToCommand (mixManualSticks (normalizeManualStick forward)
      (normalizeManualStick steering)) limit) limit.toInt (deflection forward) (deflection steering) := by
  rw [normalizeManualStick_eq, normalizeManualStick_eq]
  exact follows_mix (abs_deflection_le forward) (abs_deflection_le steering) hlimit

theorem manual_command_follows_sticks_turning :
    manualWheelsToCommand (mixManualSticks (normalizeManualStick 1811) (normalizeManualStick 1414))
        120 = { leftVelocityMmS := 120, rightVelocityMmS := 40 } ∧
      Follows { leftVelocityMmS := 120, rightVelocityMmS := 40 } 120 (deflection 1811)
        (deflection 1414) := by
  have hcommand : manualWheelsToCommand (mixManualSticks (normalizeManualStick 1811)
      (normalizeManualStick 1414)) 120 = { leftVelocityMmS := 120, rightVelocityMmS := 40 } := by
    decide +kernel
  exact ⟨hcommand, hcommand ▸ manual_command_follows_sticks 1811 1414 120 (by decide)⟩

end IndoorRobot
