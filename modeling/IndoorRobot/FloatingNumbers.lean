import IndoorRobot.BinaryRounding

/-!
# Floating-point numbers and infinities

The numbers of a format below a limit, the two infinities, and what is not a number; zeros
have no sign. An operation on numbers is the exact one, rounded, and an infinity where the
rounded result reaches the limit. So whatever comes out finite is a rounded exact result of
finite numbers.
-/
namespace IndoorRobot.FloatingNumbers

open BinaryRounding

inductive Number (f : Format) (limit : ℚ) where
  | nan
  | infinite (negative : Bool)
  | finite (value : ℚ) (holds : f.Holds value) (bound : |value| < limit)

namespace Number

variable {f : Format} {limit : ℚ}

def ofRat (x : ℚ) : Number f limit :=
  if h : |f.round x| < limit then .finite (f.round x) (Format.holds_round x) h
  else .infinite (decide (x < 0))

def value : Number f limit → Option ℚ
  | .finite v _ _ => some v
  | _ => none

def isFinite (x : Number f limit) : Bool := x.value.isSome

/-- An operation that is exact, then rounded, on finite numbers. -/
def lift (exact : ℚ → ℚ → ℚ) (special : Number f limit → Number f limit → Number f limit) :
    Number f limit → Number f limit → Number f limit
  | .finite a _ _, .finite b _ _ => ofRat (exact a b)
  | x, y => special x y

/-- Sums with an infinity or with what is not a number. -/
def addSpecial : Number f limit → Number f limit → Number f limit
  | .infinite n, .infinite m => if n = m then .infinite n else .nan
  | .infinite n, .finite _ _ _ => .infinite n
  | .finite _ _ _, .infinite m => .infinite m
  | _, _ => .nan

def subSpecial : Number f limit → Number f limit → Number f limit
  | .infinite n, .infinite m => if n = m then .nan else .infinite n
  | .infinite n, .finite _ _ _ => .infinite n
  | .finite _ _ _, .infinite m => .infinite !m
  | _, _ => .nan

def mulSpecial : Number f limit → Number f limit → Number f limit
  | .infinite n, .infinite m => .infinite (n != m)
  | .infinite n, .finite b _ _ => if b = 0 then .nan else .infinite (n != decide (b < 0))
  | .finite a _ _, .infinite m => if a = 0 then .nan else .infinite (decide (a < 0) != m)
  | _, _ => .nan

def add : Number f limit → Number f limit → Number f limit := lift (· + ·) addSpecial
def sub : Number f limit → Number f limit → Number f limit := lift (· - ·) subSpecial
def mul : Number f limit → Number f limit → Number f limit := lift (· * ·) mulSpecial

/-- An operation with a product that is not rounded before. -/
def fused (exact : ℚ → ℚ → ℚ) (special : Number f limit → Number f limit → Number f limit)
    (z x y : Number f limit) : Number f limit :=
  match x, y, z with
  | .finite a _ _, .finite b _ _, .finite c _ _ => ofRat (exact c (a * b))
  | .finite _ _ _, .finite _ _ _, z => z
  | x, y, z => lift exact special z (mulSpecial x y)

def addMul : Number f limit → Number f limit → Number f limit → Number f limit :=
  fused (· + ·) addSpecial
def subMul : Number f limit → Number f limit → Number f limit → Number f limit :=
  fused (· - ·) subSpecial

/-- The quotient by a positive constant. -/
def divBy (x : Number f limit) (c : ℚ) : Number f limit :=
  match x with
  | .finite a _ _ => ofRat (a / c)
  | x => x

/-- The comparison of a magnitude with a constant. -/
def magnitudeBelow (x : Number f limit) (c : ℚ) : Bool := x.value.any fun v => decide (|v| < c)

variable {x y : Number f limit} {a b r : ℚ}

theorem isFinite_iff : x.isFinite = true ↔ ∃ v, x.value = some v := Option.isSome_iff_exists

theorem value_ofRat (h : |f.round a| < limit) :
    (ofRat a : Number f limit).value = some (f.round a) := by
  rw [ofRat, dif_pos h]
  rfl

theorem eq_round_of_value_ofRat (h : (ofRat a : Number f limit).value = some r) : r = f.round a := by
  rw [ofRat] at h
  split_ifs at h
  · cases h
    rfl
  · cases h

theorem lift_of_values {exact : ℚ → ℚ → ℚ}
    {special : Number f limit → Number f limit → Number f limit} (hx : x.value = some a)
    (hy : y.value = some b) : lift exact special x y = ofRat (exact a b) := by
  cases x with
  | finite v _ _ =>
    cases y with
    | finite w _ _ =>
      cases hx
      cases hy
      rfl
    | _ => cases hy
  | _ => cases hx

/-- A finite result is the rounded one of finite numbers. -/
theorem value_lift {exact : ℚ → ℚ → ℚ}
    {special : Number f limit → Number f limit → Number f limit}
    (hspecial : ∀ x y, (special x y).value = none) (h : (lift exact special x y).value = some r) :
    ∃ a b, x.value = some a ∧ y.value = some b ∧ r = f.round (exact a b) := by
  cases x with
  | finite v _ _ =>
    cases y with
    | finite w _ _ => exact ⟨v, w, rfl, rfl, eq_round_of_value_ofRat h⟩
    | nan => exact absurd ((hspecial _ _).symm.trans h) (by simp)
    | infinite n => exact absurd ((hspecial _ _).symm.trans h) (by simp)
  | nan => exact absurd ((hspecial _ _).symm.trans h) (by simp)
  | infinite n => exact absurd ((hspecial _ _).symm.trans h) (by simp)

theorem addSpecial_value (x y : Number f limit) : (addSpecial x y).value = none := by
  cases x <;> cases y <;> simp only [addSpecial] <;> first | rfl | (split_ifs <;> rfl)

theorem subSpecial_value (x y : Number f limit) : (subSpecial x y).value = none := by
  cases x <;> cases y <;> simp only [subSpecial] <;> first | rfl | (split_ifs <;> rfl)

theorem mulSpecial_value (x y : Number f limit) : (mulSpecial x y).value = none := by
  cases x <;> cases y <;> simp only [mulSpecial] <;> first | rfl | (split_ifs <;> rfl)

theorem value_mul (h : (x.mul y).value = some r) :
    ∃ a b, x.value = some a ∧ y.value = some b ∧ r = f.round (a * b) :=
  value_lift mulSpecial_value h

/-- With finite factors. -/
theorem value_fused {exact : ℚ → ℚ → ℚ}
    {special : Number f limit → Number f limit → Number f limit} {z : Number f limit}
    (hx : x.value = some a) (hy : y.value = some b) (h : (fused exact special z x y).value = some r) :
    ∃ c, z.value = some c ∧ r = f.round (exact c (a * b)) := by
  cases x with
  | finite v _ _ =>
    cases y with
    | finite w _ _ =>
      cases hx
      cases hy
      cases z with
      | finite u _ _ => exact ⟨u, rfl, eq_round_of_value_ofRat h⟩
      | _ => cases h
    | _ => cases hy
  | _ => cases hx

theorem value_divBy {c : ℚ} (hx : x.value = some a) (h : |f.round (a / c)| < limit) :
    (x.divBy c).value = some (f.round (a / c)) := by
  cases x with
  | finite v _ _ =>
    cases hx
    exact value_ofRat h
  | _ => cases hx

end Number

end IndoorRobot.FloatingNumbers
