import IndoorRobot.BinaryRounding
import IndoorRobot.BoardTraces
import IndoorRobot.WrappingClocks

/-!
# The wheel speeds and the way they stand for

`wheel_speed_estimator.c`. Its `float` operations are the exact ones, rounded to
`binary32`; all its values are far from overflow, and those that are not zero are far
from underflow. The counters of the encoders have 16 bits and the clock has 32; over
whole runs the speeds nevertheless add up to the way the wheels have gone.
-/
namespace IndoorRobot

open BinaryRounding

def binary32 : Format := ⟨24, by decide, -149⟩

structure WheelSpeedEstimate where
  leftMmS : ℚ := 0
  rightMmS : ℚ := 0
  valid : Bool := false
  deriving DecidableEq

structure WheelSpeedEstimator where
  previousCounts : WheelEncoderCounts := {}
  previousTimeMs : UInt32 := 0
  initialized : Bool := false

namespace WheelSpeedEstimator

/-- `WHEEL_CIRCUMFERENCE_MM`. -/
def wheelCircumferenceMm : ℚ := binary32.round (68.5 * binary32.round 3.14159265)

/-- `LEFT_COUNTS_PER_REV` and `RIGHT_COUNTS_PER_REV`. -/
def countsPerRev : ℚ := 1000

/-- The speed of a wheel in mm/s. -/
def speedMmS (delta : UInt16) (elapsedMs : UInt32) : ℚ :=
  binary32.round
    (binary32.round (binary32.round (binary32.round delta.toNat * wheelCircumferenceMm) * 1000) /
      binary32.round (countsPerRev * binary32.round elapsedMs.toNat))

/-- `wheel_speed_estimator_update`. -/
def update (e : WheelSpeedEstimator) (counts : WheelEncoderCounts) (nowMs : UInt32) :
    WheelSpeedEstimate × WheelSpeedEstimator :=
  if ¬ e.initialized then
    ({}, { previousCounts := counts, previousTimeMs := nowMs, initialized := true })
  else
    let elapsedMs := nowMs - e.previousTimeMs
    if elapsedMs = 0 then ({}, e)
    else
      let leftDelta := (counts.left - e.previousCounts.left).toUInt16
      let rightDelta := (counts.right - e.previousCounts.right).toUInt16
      ({ leftMmS := speedMmS leftDelta elapsedMs
         rightMmS := speedMmS rightDelta elapsedMs
         valid := true },
        { e with previousCounts := counts, previousTimeMs := nowMs })

/-! ### One estimate -/

theorem binary32_normal {x : ℚ} (h : 1 / 2 ^ 100 ≤ x) : binary32.Normal x := by
  have hmin : (2 : ℚ) ^ (binary32.minExponent + binary32.precision - 1) ≤ 1 / 2 ^ 100 := by
    have hexponent : binary32.minExponent + binary32.precision - 1 = -126 := rfl
    rw [hexponent]
    norm_num
  exact Format.normal_of_le (hmin.trans (h.trans (le_abs_self x)))

theorem near_round {x : ℚ} (h : x = 0 ∨ 1 / 2 ^ 100 ≤ x) :
    Near (1 / 2 ^ 24) 1 x (binary32.round x) := by
  have hx : 0 ≤ x := by
    rcases h with rfl | h
    · exact le_rfl
    · exact le_trans (by norm_num) h
  exact Near.round (f := binary32) hx (h.imp_right binary32_normal)

theorem wheelCircumferenceMm_eq : wheelCircumferenceMm = 1762911 / 8192 := by
  decide +kernel

theorem binary32_round_natCast {n : ℕ} (h : n < 2 ^ 24) : binary32.round n = n := by
  have hholds : binary32.Holds ((n : ℤ) : ℚ) := by
    refine Format.holds_intCast (by decide) ?_
    rw [abs_of_nonneg (Int.natCast_nonneg n)]
    exact_mod_cast h
  exact_mod_cast hholds.round_eq

/-- A product of a rounded number and an exact one, rounded. -/
theorem near_round_mul {c x y : ℚ} {k : ℕ} (h : Near (1 / 2 ^ 24) k x y) (hk : k ≤ 2) (hc : 1 ≤ c)
    (hx : x = 0 ∨ 1 ≤ x) : Near (1 / 2 ^ 24) (k + 1) (c * x) (binary32.round (c * y)) := by
  have hk' : (k : ℚ) ≤ 2 := by exact_mod_cast hk
  have hsmall : (k : ℚ) * (1 / 2 ^ 24) ≤ 1 / 2 := by linarith
  have hy : c * y = 0 ∨ 1 / 2 ^ 100 ≤ c * y := by
    rcases hx with rfl | hx
    · have hzero := h.abs_sub_le le_rfl (by norm_num) (by norm_num) hsmall
      rw [mul_zero, sub_zero] at hzero
      exact .inl (by rw [abs_nonpos_iff.mp hzero, mul_zero])
    · have hhalf := h.half_le (by linarith) (by norm_num) hsmall
      right
      have hprod : 1 * (1 / 2) ≤ c * y := mul_le_mul hc (by linarith) (by norm_num) (by linarith)
      linarith
  exact (h.mul (by linarith)).trans (by norm_num) (near_round hy)

/-- A speed is the way of the counts through the time, but for five roundings. -/
theorem near_speedMmS (delta : UInt16) {elapsedMs : UInt32} (helapsed : elapsedMs ≠ 0) :
    Near (1 / 2 ^ 24) 5 (wheelCircumferenceMm * delta.toNat / elapsedMs.toNat)
      (speedMmS delta elapsedMs) := by
  have hcircumference := wheelCircumferenceMm_eq
  have hdelta : binary32.round delta.toNat = delta.toNat :=
    binary32_round_natCast (delta.toNat_lt.trans (by norm_num))
  have hcount : (delta.toNat : ℚ) = 0 ∨ 1 ≤ (delta.toNat : ℚ) := by
    rcases Nat.eq_zero_or_pos delta.toNat with h | h
    · exact .inl (by exact_mod_cast h)
    · exact .inr (by exact_mod_cast h)
  have hms : (1 : ℚ) ≤ elapsedMs.toNat := by
    have hpos : 0 < elapsedMs.toNat := Nat.pos_of_ne_zero fun h => helapsed (UInt32.toNat_inj.mp h)
    exact_mod_cast hpos
  have hexact : Near (1 / 2 ^ 24) 0 (delta.toNat : ℚ) delta.toNat := ⟨by simp, by simp⟩
  have hway := near_round_mul hexact (by norm_num) (by rw [hcircumference]; norm_num) hcount
    (c := wheelCircumferenceMm)
  have hscaled := near_round_mul hway (by norm_num) (by norm_num) (c := 1000) (by
    rcases hcount with h | h
    · exact .inl (by rw [h, mul_zero])
    · exact .inr (by rw [hcircumference]; linarith))
  have htime := near_round_mul (near_round (.inr (le_trans (by norm_num) hms))) (by norm_num)
    (by norm_num [countsPerRev]) (.inr hms) (c := countsPerRev)
  have hmsPos : 0 < countsPerRev * elapsedMs.toNat := by
    rw [countsPerRev]
    linarith
  have hroundedPos : 0 < binary32.round (countsPerRev * binary32.round elapsedMs.toNat) := by
    have hhalf := htime.half_le hmsPos.le (by norm_num) (by norm_num)
    linarith
  have hnonneg : 0 ≤ 1000 * (wheelCircumferenceMm * delta.toNat) := by
    rw [hcircumference]
    positivity
  have hquotient := hscaled.div_div (by norm_num) htime hnonneg hmsPos hroundedPos
  rw [countsPerRev, mul_div_mul_left _ _ (by norm_num)] at hquotient
  have hlarge : binary32.round (1000 * binary32.round (wheelCircumferenceMm * delta.toNat)) /
      binary32.round (1000 * binary32.round elapsedMs.toNat) = 0 ∨ 1 / 2 ^ 100 ≤
      binary32.round (1000 * binary32.round (wheelCircumferenceMm * delta.toNat)) /
      binary32.round (1000 * binary32.round elapsedMs.toNat) := by
    rcases hcount with h | h
    · left
      rw [h, mul_zero, Format.round_zero, mul_zero, Format.round_zero, zero_div]
    · right
      have hms' : (elapsedMs.toNat : ℚ) ≤ 2 ^ 32 := by exact_mod_cast elapsedMs.toNat_lt.le
      have hway' : (1 : ℚ) / 2 ^ 32 ≤ wheelCircumferenceMm * delta.toNat / elapsedMs.toNat := by
        rw [hcircumference]
        exact div_le_div₀ (by linarith) (by linarith) (by linarith) hms'
      have hhalf := hquotient.half_le (by linarith) (by norm_num) (by norm_num)
      linarith
  have hspeed := hquotient.trans (by norm_num) (near_round hlarge)
  rw [speedMmS, hdelta, mul_comm (delta.toNat : ℚ), mul_comm (binary32.round _) 1000, countsPerRev]
  exact hspeed

/-! ### Runs of the firmware -/

/-- The estimate and the estimator after the samples of the main loop. -/
def observe (samples : List (WheelEncoderCounts × UInt32)) :
    WheelSpeedEstimate × WheelSpeedEstimator :=
  samples.foldl (fun state s => state.2.update s.1 s.2) ({}, {})

/-- The pulses of the wheels and the milliseconds since the start, in numbers that never wrap. -/
structure Travel where
  left : ℕ := 0
  right : ℕ := 0
  ms : ℕ := 0

namespace Travel

/-- What the 16 bit counters show. -/
def counts (t : Travel) : WheelEncoderCounts where
  left := UInt32.ofNat (t.left % 2 ^ 16)
  right := UInt32.ofNat (t.right % 2 ^ 16)

/-- What the 32 bit clock shows. -/
def nowMs (t : Travel) : UInt32 := UInt32.ofNat t.ms

def sample (t : Travel) : WheelEncoderCounts × UInt32 := (t.counts, t.nowMs)

/-- No counter has gone round between the two. -/
structure Before (t t' : Travel) : Prop where
  left : t.left ≤ t'.left ∧ t'.left < t.left + 2 ^ 16
  right : t.right ≤ t'.right ∧ t'.right < t.right + 2 ^ 16
  ms : t.ms ≤ t'.ms ∧ t'.ms < t.ms + 2 ^ 32

end Travel

/-- The estimator, and the ways its estimates add up to, in mm/s times ms. -/
structure Odometer where
  state : WheelSpeedEstimate × WheelSpeedEstimator
  last : Travel
  leftWay : ℚ := 0
  rightWay : ℚ := 0

namespace Odometer

/-- The first sample. -/
def start (t : Travel) : Odometer where
  state := update {} t.counts t.nowMs
  last := t

/-- Each estimate stands for the time since the sample before it. -/
def sample (o : Odometer) (t : Travel) : Odometer :=
  let state := o.state.2.update t.counts t.nowMs
  { state := state
    last := t
    leftWay := o.leftWay + state.1.leftMmS * (t.ms - o.last.ms)
    rightWay := o.rightWay + state.1.rightMmS * (t.ms - o.last.ms) }

/-- The ways of a whole run. -/
def travel (first : Travel) (travels : List Travel) : Odometer := travels.foldl sample (start first)

end Odometer

/-- The way stands for the pulses from the first number to the second. -/
def Accounts (way : ℚ) (first last : ℕ) : Prop :=
  first ≤ last ∧ |way - wheelCircumferenceMm * (last - first)| ≤
    wheelCircumferenceMm * (last - first) / 2 ^ 20

theorem toNat_counts_sub {n m : ℕ} (h : n ≤ m) (hlt : m < n + 2 ^ 16) :
    (UInt32.ofNat (m % 2 ^ 16) - UInt32.ofNat (n % 2 ^ 16)).toUInt16.toNat = m - n := by
  rw [UInt32.toNat_toUInt16, UInt32.toNat_sub, UInt32.toNat_ofNat', UInt32.toNat_ofNat']
  omega

/-- A speed through its time is the way of its pulses. -/
theorem abs_speed_mul_sub_le (delta : UInt16) {elapsedMs : UInt32} (helapsed : elapsedMs ≠ 0) :
    |speedMmS delta elapsedMs * elapsedMs.toNat - wheelCircumferenceMm * delta.toNat| ≤
      wheelCircumferenceMm * delta.toNat / 2 ^ 20 := by
  have hpos : (0 : ℚ) < elapsedMs.toNat := by
    have hne : elapsedMs.toNat ≠ 0 := fun h => helapsed (UInt32.toNat_inj.mp h)
    exact_mod_cast Nat.pos_of_ne_zero hne
  have hnonneg : 0 ≤ wheelCircumferenceMm * delta.toNat := by
    rw [wheelCircumferenceMm_eq]
    positivity
  have hnear := (near_speedMmS delta helapsed).mul hpos.le
  rw [mul_div_cancel₀ _ hpos.ne', mul_comm (elapsedMs.toNat : ℚ)] at hnear
  have hdistance := hnear.abs_sub_le hnonneg (by norm_num) (by norm_num) (by norm_num)
  refine hdistance.trans ?_
  push_cast
  linarith

theorem Accounts.add {way more : ℚ} {first last next : ℕ} (h : Accounts way first last)
    (hle : last ≤ next) (hmore : |more - wheelCircumferenceMm * (next - last : ℕ)| ≤
      wheelCircumferenceMm * (next - last : ℕ) / 2 ^ 20) : Accounts (way + more) first next := by
  obtain ⟨hfirst, hway⟩ := h
  rw [Nat.cast_sub hle] at hmore
  refine ⟨hfirst.trans hle, ?_⟩
  have hsum : way + more - wheelCircumferenceMm * (next - first) =
      (way - wheelCircumferenceMm * (last - first)) +
        (more - wheelCircumferenceMm * (next - last)) := by ring
  rw [hsum]
  refine (abs_add_le _ _).trans ?_
  linarith

namespace Odometer

variable {o : Odometer} {first t : Travel} {travels : List Travel}

/-- The estimator keeps what the registers have shown at the latest sample. -/
structure Kept (first : Travel) (o : Odometer) : Prop where
  initialized : o.state.2.initialized = true
  counts : o.state.2.previousCounts = o.last.counts
  ms : o.state.2.previousTimeMs = o.last.nowMs
  left : Accounts o.leftWay first.left o.last.left
  right : Accounts o.rightWay first.right o.last.right

theorem start_kept (first : Travel) : (start first).Kept first := by
  have hnothing (n : ℕ) : Accounts 0 n n := ⟨le_rfl, by simp⟩
  exact ⟨rfl, rfl, rfl, hnothing _, hnothing _⟩

theorem Kept.sample (h : o.Kept first) (ht : o.last.Before t)
    (hperiod : Firmware.wheelSpeedSamplePeriodMs ≤ t.nowMs - o.last.nowMs) :
    (o.sample t).Kept first ∧ (o.sample t).state.1.valid = true := by
  have hms := ht.ms
  have hne : t.nowMs - o.last.nowMs ≠ 0 := by
    intro hzero
    rw [hzero] at hperiod
    exact absurd hperiod (by decide)
  have hspan : ((t.nowMs - o.last.nowMs).toNat : ℚ) = t.ms - o.last.ms := by
    have helapsed : (t.nowMs - o.last.nowMs).toNat = t.ms - o.last.ms :=
      WrappingClocks.toNat_elapsed_of_lt hms.1 (by omega)
    rw [helapsed, Nat.cast_sub hms.1]
  have hleft := abs_speed_mul_sub_le (t.counts.left - o.last.counts.left).toUInt16 hne
  have hright := abs_speed_mul_sub_le (t.counts.right - o.last.counts.right).toUInt16 hne
  rw [hspan, Travel.counts, Travel.counts, toNat_counts_sub ht.left.1 ht.left.2] at hleft
  rw [hspan, Travel.counts, Travel.counts, toNat_counts_sub ht.right.1 ht.right.2] at hright
  rw [Odometer.sample, update, if_neg (by simp [h.initialized]), h.counts, h.ms]
  simp only [if_neg hne]
  exact ⟨⟨h.initialized, rfl, rfl, h.left.add ht.left.1 hleft, h.right.add ht.right.1 hright⟩, trivial⟩

/-- Over whole runs. -/
theorem Kept.foldl_sample (h : o.Kept first) (hbefore : (o.last :: travels).IsChain Travel.Before)
    (hperiod : ((o.last :: travels).map Travel.sample).IsChain fun s t =>
      Firmware.wheelSpeedSamplePeriodMs ≤ t.2 - s.2) :
    (travels.foldl Odometer.sample o).Kept first ∧
      (travels = [] ∨ (travels.foldl Odometer.sample o).state.1.valid = true) := by
  induction travels generalizing o with
  | nil => exact ⟨h, .inl rfl⟩
  | cons t travels ih =>
    obtain ⟨ht, hbefore⟩ := List.isChain_cons_cons.mp hbefore
    obtain ⟨hdue, hperiod⟩ := List.isChain_cons_cons.mp hperiod
    obtain ⟨hkept, hvalid⟩ := h.sample ht hdue
    obtain ⟨hkept', rfl | hvalid'⟩ := ih (o := o.sample t) hkept hbefore hperiod
    · exact ⟨hkept', .inr hvalid⟩
    · exact ⟨hkept', .inr hvalid'⟩

theorem foldl_sample_state (o : Odometer) (travels : List Travel) :
    (travels.foldl Odometer.sample o).state =
      (travels.map Travel.sample).foldl (fun state s => state.2.update s.1 s.2) o.state := by
  induction travels generalizing o with
  | nil => rfl
  | cons t travels ih => exact ih (o.sample t)

theorem foldl_sample_last (o : Odometer) (travels : List Travel) :
    (travels.foldl Odometer.sample o).last = travels.getLast?.getD o.last := by
  induction travels generalizing o with
  | nil => rfl
  | cons t travels ih =>
    rw [List.foldl_cons, ih, List.getLast?_cons]
    rfl

end Odometer

/-- **The speeds account for the pulses.** In every run of the firmware, whatever it receives,
whose samples show ways of the wheels with less than a turn of a counter between two of them, the
latest speeds are valid, and all of them, each over its time, add up to the way from the first
sample to the latest: the roundings together make less than a millionth of it. The latest
sample is less than a period old. -/
theorem speeds_account_for_counts (env : ℕ → PortAnswer) (portInit : Bool)
    (counts : WheelEncoderCounts) (bootMs : UInt32) (start : Firmware)
    (hboot : Firmware.boot portInit counts bootMs = some start)
    (iterations : List (UInt32 × UartProtocolReceiverResult)) (nowMs : UInt32)
    (received : UartProtocolReceiverResult) (first : Travel) (travels : List Travel)
    (hsamples : speedSamples ((start.loop env iterations).iterate env nowMs received).motion.board.log =
      (first :: travels).map Travel.sample)
    (hbefore : (first :: travels).IsChain Travel.Before) :
    let o := Odometer.travel first travels
    o.state = observe
        (speedSamples ((start.loop env iterations).iterate env nowMs received).motion.board.log) ∧
      (travels = [] ∨ o.state.1.valid = true) ∧
      o.last = travels.getLast?.getD first ∧
      nowMs - o.last.nowMs < Firmware.wheelSpeedSamplePeriodMs ∧
      Accounts o.leftWay first.left o.last.left ∧ Accounts o.rightWay first.right o.last.right := by
  intro o
  obtain ⟨_, hloop⟩ := (Firmware.boot_traces bootMs hboot).loop env iterations
  obtain ⟨_, htraces, hfresh⟩ := hloop.iterate env nowMs received
  have hsampled := htraces.sampled.symm.trans hsamples
  have hperiod := htraces.period
  have hlast := htraces.last
  rw [hsampled] at hperiod hlast
  obtain ⟨hkept, hvalid⟩ := (Odometer.start_kept first).foldl_sample hbefore hperiod
  have holast : o.last = travels.getLast?.getD first :=
    Odometer.foldl_sample_last (Odometer.start first) travels
  refine ⟨?_, hvalid, holast, ?_, hkept.left, hkept.right⟩
  · rw [hsamples]
    exact Odometer.foldl_sample_state (Odometer.start first) travels
  · rw [List.getLast?_map, List.getLast?_cons, ← holast, Option.map_some, Option.map_some,
      Option.some.injEq] at hlast
    exact (show o.last.nowMs = _ from hlast) ▸ hfresh

/-- The left counter and the clock go round. -/
def roundCounters : ℕ → PortAnswer := fun n =>
  { counts := if n = 1 then { left := 65400, right := 500 } else { left := 364, right := 900 } }

theorem speeds_account_for_counts_round :
    ∃ start, Firmware.boot true { left := 65000, right := 10 } 4294967246 = some start ∧
      let o := Odometer.travel ⟨65000, 10, 4294967246⟩ [⟨65400, 500, 4294967346⟩, ⟨65900, 900, 4294967447⟩]
      o.state = observe (speedSamples ((start.loop roundCounters [(20, .none), (50, .none)]).iterate
          roundCounters 151 .none).motion.board.log) ∧
        o.state.2.previousCounts = { left := 364, right := 900 } ∧
        Accounts o.leftWay 65000 65900 ∧ Accounts o.rightWay 10 900 := by
  refine ⟨_, rfl, ?_⟩
  obtain ⟨hstate, -, -, -, hleft, hright⟩ := speeds_account_for_counts roundCounters true
    { left := 65000, right := 10 } 4294967246 _ rfl [(20, .none), (50, .none)] 151 .none
    ⟨65000, 10, 4294967246⟩ [⟨65400, 500, 4294967346⟩, ⟨65900, 900, 4294967447⟩] (by decide +kernel)
    (.cons_cons ⟨by decide, by decide, by decide⟩
      (.cons_cons ⟨by decide, by decide, by decide⟩ (.singleton _)))
  exact ⟨hstate, rfl, hleft, hright⟩

end WheelSpeedEstimator

end IndoorRobot
