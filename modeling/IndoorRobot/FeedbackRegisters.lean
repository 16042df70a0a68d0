import Mathlib

/-!
# Shift registers with linear feedback

A register of bits is shifted up by one place; the bit that falls out feeds a fixed
pattern back. Bits fed in at the top are divided by the polynomial of this pattern, and
the register holds the remainder. It tells errors of an odd number of bits if the
polynomial has an even number of terms, errors of two bits that are nearer to each other
than the period of the register, and errors in no more neighbouring bits than it has.
-/
namespace IndoorRobot.FeedbackRegisters

variable {n : ℕ}

/-- One turn of the register with feedback `g`. -/
def turn (g x : BitVec (n + 1)) : BitVec (n + 1) := x <<< 1 ^^^ if x.getLsbD n then g else 0#(n + 1)

/-- A bit at the top place. -/
def top (bit : Bool) : BitVec (n + 1) := if bit then BitVec.twoPow (n + 1) n else 0#(n + 1)

/-- The register after some bits, each mixed in at the top before a turn. -/
def divide (g x : BitVec (n + 1)) (bits : List Bool) : BitVec (n + 1) :=
  bits.foldl (fun x bit => turn g (x ^^^ top bit)) x

variable {g x y : BitVec (n + 1)}

@[simp] theorem divide_nil (g x : BitVec (n + 1)) : divide g x [] = x := rfl

@[simp] theorem divide_cons (g x : BitVec (n + 1)) (bit : Bool) (bits : List Bool) :
    divide g x (bit :: bits) = divide g (turn g (x ^^^ top bit)) bits := rfl

theorem divide_append (g x : BitVec (n + 1)) (first second : List Bool) :
    divide g x (first ++ second) = divide g (divide g x first) second := by
  simp [divide]

/-! ### Linearity -/

theorem turn_xor (g x y : BitVec (n + 1)) : turn g (x ^^^ y) = turn g x ^^^ turn g y := by
  rw [turn, turn, turn, BitVec.shiftLeft_xor_distrib, BitVec.getLsbD_xor]
  have hcancel : x <<< 1 ^^^ g ^^^ (y <<< 1 ^^^ g) = x <<< 1 ^^^ y <<< 1 ^^^ (g ^^^ g) := by ac_rfl
  cases x.getLsbD n <;> cases y.getLsbD n
  · simp
  · simp only [Bool.false_xor, if_true, Bool.false_eq_true, if_false, BitVec.xor_zero]
    ac_rfl
  · simp only [Bool.xor_false, if_true, Bool.false_eq_true, if_false, BitVec.xor_zero]
    ac_rfl
  · simp only [Bool.xor_self, Bool.false_eq_true, if_false, if_true]
    rw [hcancel, BitVec.xor_self]

theorem turn_zero (g : BitVec (n + 1)) : turn g 0#(n + 1) = 0#(n + 1) := by
  simp [turn]

theorem top_xor (first second : Bool) :
    (top (first ^^ second) : BitVec (n + 1)) = top first ^^^ top second := by
  cases first <;> cases second <;> simp [top]

/-- An error changes the register by what it gives from zero. -/
theorem divide_xor (g x y : BitVec (n + 1)) {bits error : List Bool}
    (hlength : error.length = bits.length) :
    divide g (x ^^^ y) (List.zipWith (· ^^ ·) bits error) = divide g x bits ^^^ divide g y error := by
  induction bits generalizing error x y with
  | nil =>
    obtain rfl : error = [] := List.eq_nil_of_length_eq_zero hlength
    rfl
  | cons bit bits ih =>
    obtain ⟨bad, error, rfl⟩ : ∃ bad rest, error = bad :: rest :=
      List.exists_cons_of_length_eq_add_one hlength
    have hmix : x ^^^ y ^^^ top (bit ^^ bad) = (x ^^^ top bit) ^^^ (y ^^^ top bad) := by
      rw [top_xor]
      ac_rfl
    rw [List.zipWith_cons_cons, divide_cons, hmix, turn_xor, ih _ _ (by simpa using hlength)]
    rfl

theorem divide_zeros (g x : BitVec (n + 1)) (k : ℕ) :
    divide g x (List.replicate k false) = (turn g)^[k] x := by
  induction k generalizing x with
  | zero => rfl
  | succ k ih =>
    rw [List.replicate_succ, divide_cons, ih, top, if_neg (by simp), BitVec.xor_zero]
    rfl

/-- A pattern with a bit at the bottom brings no register but zero to zero. -/
theorem turn_eq_zero (hg : g.getLsbD 0 = true) (h : turn g x = 0#(n + 1)) : x = 0#(n + 1) := by
  rw [turn, BitVec.xor_eq_zero_iff] at h
  have hbits : ∀ i, (x <<< 1).getLsbD i = (if x.getLsbD n then g else 0#(n + 1)).getLsbD i :=
    fun i => by rw [h]
  have htop : x.getLsbD n = false := by
    by_contra hset
    rw [Bool.not_eq_false] at hset
    have hzero := hbits 0
    rw [hset, if_pos rfl, hg] at hzero
    simp at hzero
  apply BitVec.eq_of_getLsbD_eq
  intro i hi
  by_cases hlast : i = n
  · rw [hlast, htop]
    simp
  · have hshift : (x <<< 1).getLsbD (i + 1) = x.getLsbD i := by
      have hin : i + 1 < n + 1 := by omega
      simp [BitVec.getLsbD_shiftLeft, hin, -BitVec.getLsbD_eq_getElem]
    rw [← hshift, hbits, htop]
    simp

theorem iterate_turn_eq_zero (hg : g.getLsbD 0 = true) {turns : ℕ}
    (h : (turn g)^[turns] x = 0#(n + 1)) : x = 0#(n + 1) := by
  induction turns generalizing x with
  | zero => exact h
  | succ turns ih => exact turn_eq_zero hg (ih h)

/-! ### An odd number of bits -/

/-- The number of bits set, modulo two. -/
def parity {w : ℕ} (x : BitVec w) : ZMod 2 := ∑ i ∈ Finset.range w, if x.getLsbD i then 1 else 0

theorem parity_zero {w : ℕ} : parity 0#w = 0 := by
  simp [parity]

theorem parity_xor {w : ℕ} (x y : BitVec w) : parity (x ^^^ y) = parity x + parity y := by
  rw [parity, parity, parity, ← Finset.sum_add_distrib]
  apply Finset.sum_congr rfl
  intro i _
  rw [BitVec.getLsbD_xor]
  cases x.getLsbD i <;> cases y.getLsbD i <;> decide

theorem parity_top (bit : Bool) : parity (top bit : BitVec (n + 1)) = if bit then 1 else 0 := by
  cases bit with
  | false => exact parity_zero
  | true =>
    rw [parity, Finset.sum_range_succ, Finset.sum_eq_zero]
    · simp [top]
    · intro i hi
      have hlt := Finset.mem_range.mp hi
      simp [top, Nat.ne_of_gt hlt]

/-- What falls out of the register is made up for by the pattern. -/
theorem parity_turn (hg : parity g = 1) (x : BitVec (n + 1)) : parity (turn g x) = parity x := by
  have hshift : parity (x <<< 1) = ∑ i ∈ Finset.range n, if x.getLsbD i then (1 : ZMod 2) else 0 := by
    rw [parity, Finset.sum_range_succ']
    have hbottom : (x <<< 1).getLsbD 0 = false := by simp
    rw [hbottom, if_neg (by simp), add_zero]
    apply Finset.sum_congr rfl
    intro i hi
    have hlt := Finset.mem_range.mp hi
    have hbit : (x <<< 1).getLsbD (i + 1) = x.getLsbD i := by
      simp [BitVec.getLsbD_shiftLeft, hlt, -BitVec.getLsbD_eq_getElem]
    rw [hbit]
  have hfeedback : parity (if x.getLsbD n then g else 0#(n + 1)) = if x.getLsbD n then 1 else 0 := by
    split_ifs
    · exact hg
    · exact parity_zero
  rw [turn, parity_xor, hshift, hfeedback, parity, Finset.sum_range_succ]

theorem parity_divide (hg : parity g = 1) (x : BitVec (n + 1)) (bits : List Bool) :
    parity (divide g x bits) = parity x + (bits.count true : ZMod 2) := by
  induction bits generalizing x with
  | nil => simp
  | cons bit bits ih =>
    rw [divide_cons, ih, parity_turn hg, parity_xor, parity_top]
    cases bit with
    | false => simp
    | true =>
      rw [List.count_cons_self, Nat.cast_succ]
      simp only [if_true]
      ring

theorem divide_ne_zero_of_odd (hg : parity g = 1) {bits : List Bool} (h : Odd (bits.count true)) :
    divide g 0#(n + 1) bits ≠ 0#(n + 1) := by
  intro hzero
  have hparity := parity_divide hg 0#(n + 1) bits
  rw [hzero, parity_zero, zero_add, (ZMod.natCast_eq_one_iff_odd).mpr h] at hparity
  exact absurd hparity (by decide)

/-! ### Two bits -/

theorem eq_zeros_of_count {bits : List Bool} (h : bits.count true = 0) :
    bits = List.replicate bits.length false := by
  apply List.eq_replicate_of_mem
  intro bit hbit
  cases bit with
  | false => rfl
  | true => exact absurd hbit (List.count_eq_zero.mp h)

theorem exists_first_bit {bits : List Bool} {count : ℕ} (h : bits.count true = count + 1) :
    ∃ before rest, bits = List.replicate before false ++ true :: rest ∧ rest.count true = count := by
  induction bits with
  | nil => simp at h
  | cons bit bits ih =>
    cases bit with
    | true => exact ⟨0, bits, rfl, by simpa using h⟩
    | false =>
      obtain ⟨before, rest, rfl, hrest⟩ := ih (by simpa using h)
      exact ⟨before + 1, rest, by simp [List.replicate_succ], hrest⟩

/-- The register does not come to `target` in its next turns. -/
def avoids (g target : BitVec (n + 1)) : ℕ → BitVec (n + 1) → Bool
  | 0, _ => true
  | turns + 1, x => x != target && avoids g target turns (turn g x)

theorem iterate_ne_of_avoids {target : BitVec (n + 1)} {turns : ℕ}
    (h : avoids g target turns x = true) : ∀ k < turns, (turn g)^[k] x ≠ target := by
  induction turns generalizing x with
  | zero => exact fun k hk => absurd hk (Nat.not_lt_zero k)
  | succ turns ih =>
    rw [avoids, Bool.and_eq_true, bne_iff_ne] at h
    intro k hk
    cases k with
    | zero => exact h.1
    | succ k => exact ih h.2 k (Nat.lt_of_succ_lt_succ hk)

/-- Two bits nearer to each other than the register takes to come back. -/
theorem divide_ne_zero_of_two (hg : g.getLsbD 0 = true) {bits : List Bool}
    (hperiod : ∀ k < bits.length, 0 < k → (turn g)^[k] (top true) ≠ top true)
    (h : bits.count true = 2) : divide g 0#(n + 1) bits ≠ 0#(n + 1) := by
  obtain ⟨before, rest, rfl, hrest⟩ := exists_first_bit h
  obtain ⟨between, last, rfl, hlast⟩ := exists_first_bit hrest
  rw [eq_zeros_of_count hlast] at hperiod ⊢
  rw [divide_append, divide_zeros, Function.iterate_fixed (turn_zero g), divide_cons, divide_append,
    divide_zeros, divide_cons, divide_zeros, BitVec.zero_xor]
  intro hzero
  have hback := turn_eq_zero hg (iterate_turn_eq_zero hg hzero)
  rw [BitVec.xor_eq_zero_iff] at hback
  refine hperiod (between + 1) ?_ (Nat.succ_pos _) hback
  simp only [List.length_append, List.length_cons, List.length_replicate]
  omega

/-! ### Neighbouring bits -/

/-- Bits from the top place down. -/
def place : List Bool → BitVec (n + 1)
  | [] => 0#(n + 1)
  | bit :: bits => top bit ^^^ place bits >>> 1

theorem getLsbD_place (bits : List Bool) (i : ℕ) :
    (place bits : BitVec (n + 1)).getLsbD i = (decide (i ≤ n) && bits.getD (n - i) false) := by
  induction bits generalizing i with
  | nil => simp [place]
  | cons bit bits ih =>
    rw [place, BitVec.getLsbD_xor, BitVec.getLsbD_ushiftRight, ih]
    have htop : (top bit : BitVec (n + 1)).getLsbD i = (decide (i = n) && bit) := by
      cases bit with
      | false => simp [top]
      | true =>
        rw [top, if_pos rfl, BitVec.getLsbD_twoPow]
        by_cases hi : i = n
        · simp [hi]
        · simp [hi, Ne.symm hi]
    rw [htop]
    rcases Nat.lt_trichotomy i n with hlt | rfl | hgt
    · have hindex : n - i = n - (1 + i) + 1 := by omega
      rw [hindex, List.getD_cons_succ]
      simp [Nat.ne_of_lt hlt, Nat.le_of_lt hlt, show 1 + i ≤ n by omega]
    · simp
    · simp [Nat.ne_of_gt hgt, Nat.not_le_of_lt hgt, show ¬ 1 + i ≤ n by omega]

/-- A bit that has not reached the top is moved up by a turn. -/
theorem turn_place_shifted (g : BitVec (n + 1)) {bits : List Bool} (h : bits.length ≤ n) :
    turn g (place bits >>> 1) = place bits := by
  have htop : (place bits >>> 1 : BitVec (n + 1)).getLsbD n = false := by
    rw [BitVec.getLsbD_ushiftRight, getLsbD_place]
    simp
  rw [turn, htop, if_neg (by simp), BitVec.xor_zero]
  apply BitVec.eq_of_getLsbD_eq
  intro i hi
  cases i with
  | zero =>
    have hnone : bits[n]? = none := List.getElem?_eq_none h
    rw [getLsbD_place]
    simp [hnone]
  | succ i =>
    rw [BitVec.getLsbD_shiftLeft, BitVec.getLsbD_ushiftRight]
    simp [hi, Nat.add_comm 1 i, -BitVec.getLsbD_eq_getElem]

/-- Bits that fit in the register may as well be mixed in at once. -/
theorem divide_eq_iterate (g : BitVec (n + 1)) {bits : List Bool} (h : bits.length ≤ n + 1)
    (x : BitVec (n + 1)) : divide g x bits = (turn g)^[bits.length] (x ^^^ place bits) := by
  induction bits generalizing x with
  | nil => simp [place]
  | cons bit bits ih =>
    rw [List.length_cons] at h
    have hmix : x ^^^ place (bit :: bits) = (x ^^^ top bit) ^^^ place bits >>> 1 := by
      rw [place]
      ac_rfl
    rw [divide_cons, ih (by omega), List.length_cons, Function.iterate_succ_apply, hmix,
      turn_xor g (x ^^^ top bit), turn_place_shifted g (by omega)]

theorem divide_ne_zero_of_burst (hg : g.getLsbD 0 = true) (before after : ℕ) {bits : List Bool}
    (hlength : bits.length ≤ n + 1) (h : true ∈ bits) :
    divide g 0#(n + 1) (List.replicate before false ++ bits ++ List.replicate after false) ≠
      0#(n + 1) := by
  rw [divide_append, divide_append, divide_zeros, divide_zeros, Function.iterate_fixed (turn_zero g),
    divide_eq_iterate g hlength, BitVec.zero_xor]
  intro hzero
  have hplace := iterate_turn_eq_zero hg (iterate_turn_eq_zero hg hzero)
  obtain ⟨i, hi, hbit⟩ := List.getElem_of_mem h
  have hset := getLsbD_place (n := n) bits (n - i)
  rw [hplace, show n - (n - i) = i by omega] at hset
  simp [hi, hbit] at hset

end IndoorRobot.FeedbackRegisters
