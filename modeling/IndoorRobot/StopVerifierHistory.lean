import IndoorRobot.MotionProtocolManager
import IndoorRobot.SampleHistories
import IndoorRobot.WrappingClocks

/-!
# The stop verifier and the history of its samples

The verifier keeps one sample and one time stamp, and both of its times are kept
modulo two to the thirty-two. What it reports is nevertheless a property of the whole
history of samples: the deadline has come, or the counters have been steady for the
settle time, and it is reported once.
-/
namespace IndoorRobot

open SampleHistories

/-- `motion_stop_cancel`. -/
def motionStopCancel (_ : MotionStop) : MotionStop := {}

theorem MotionSystem.reset_stop (m : MotionSystem) (hi : m.manager.initialized = true) :
    m.reset.stop = motionStopCancel m.stop := by
  rw [reset, if_neg (by simp [hi]), motionStopCancel]

/-- What can be called while no new confirmation begins. -/
inductive StopCall where
  | update (nowMs : UInt32)
  | cancel

/-- The verifier after calls, each made on whatever the board has become. -/
def stopCalls (env : ℕ → PortAnswer) (s : MotionStop) (calls : List (StopCall × Board)) :
    MotionStop :=
  calls.foldl (fun s call =>
    match call.1 with
    | .update nowMs => (motionStopUpdate env nowMs s call.2).2.1
    | .cancel => motionStopCancel s) s

/-- No update among the calls completes. -/
def Silent (env : ℕ → PortAnswer) (s : MotionStop) (calls : List (StopCall × Board)) : Prop :=
  ∀ before nowMs board after, calls = before ++ (.update nowMs, board) :: after →
    (motionStopUpdate env nowMs (stopCalls env s before) board).1.completed = false

theorem motionStopUpdate_inactive (env : ℕ → PortAnswer) (nowMs : UInt32) {s : MotionStop}
    (b : Board) (h : s.active = false) : motionStopUpdate env nowMs s b = ({}, s, b) := by
  rw [motionStopUpdate, if_pos (by simp [h])]

/-- One update of an active verifier, in terms of the state with the new sample. -/
theorem motionStopUpdate_active (env : ℕ → PortAnswer) (nowMs : UInt32) {s observed : MotionStop}
    (b : Board) (h : s.active = true)
    (hobserved : s.observe (wheelEncoderRead env nowMs b).1 nowMs = observed) :
    motionStopUpdate env nowMs s b =
      if nowMs - observed.startedAtMs ≥ motionStopTimeoutMs then
        ({ completed := true, operationId := observed.operationId, result := .failed },
          { observed with active := false }, (wheelEncoderRead env nowMs b).2)
      else if nowMs - observed.lastMovementAtMs ≥ motionStopSettleTimeMs then
        ({ completed := true, operationId := observed.operationId, result := .success },
          { observed with active := false }, (wheelEncoderRead env nowMs b).2)
      else ({}, observed, (wheelEncoderRead env nowMs b).2) := by
  subst hobserved
  rw [motionStopUpdate, if_neg (by simp [h])]

theorem stopCalls_inactive (env : ℕ → PortAnswer) {s : MotionStop}
    (calls : List (StopCall × Board)) (h : s.active = false) :
    (stopCalls env s calls).active = false := by
  induction calls generalizing s with
  | nil => exact h
  | cons call calls ih =>
    obtain ⟨call, board⟩ := call
    cases call with
    | update nowMs =>
      rw [stopCalls, List.foldl_cons]
      simp only [motionStopUpdate_inactive env nowMs board h]
      exact ih h
    | cancel => exact ih rfl

/-- A verifier that is not active stays silent until it is started again. -/
theorem silent_of_inactive (env : ℕ → PortAnswer) {s : MotionStop}
    (calls : List (StopCall × Board)) (h : s.active = false) : Silent env s calls := by
  intro before nowMs board after _
  rw [motionStopUpdate_inactive env nowMs board (stopCalls_inactive env before h)]

section History
variable (env : ℕ → PortAnswer) (boards : ℕ → Board) (time : ℕ → ℕ) (operationId : UInt32)
  (s : MotionStop)

/-- The verifier after `motion_stop_begin` at `time 0` and updates at `time 1`, `time 2`, …, each
on whatever the board has become. -/
def verifier : ℕ → MotionStop
  | 0 => (motionStopBegin env operationId (UInt32.ofNat (time 0)) s (boards 0)).2.1
  | i + 1 => (motionStopUpdate env (UInt32.ofNat (time (i + 1))) (verifier i) (boards (i + 1))).2.1

/-- What update `i` returns. -/
def verifierResult : ℕ → MotionStopCompletion
  | 0 => {}
  | i + 1 =>
    (motionStopUpdate env (UInt32.ofNat (time (i + 1)))
      (verifier env boards time operationId s i) (boards (i + 1))).1

/-- The counters read by the start of the confirmation and by the updates after it. -/
def verifierSample : ℕ → WheelEncoderCounts
  | 0 => (wheelEncoderRead env (UInt32.ofNat (time 0))
      ((boards 0).emit (.stopBegin operationId (UInt32.ofNat (time 0))))).1
  | i + 1 => (wheelEncoderRead env (UInt32.ofNat (time (i + 1))) (boards (i + 1))).1

/-- The history up to update `i` calls for an answer. -/
def StopDecided (i : ℕ) : Prop :=
  1000 ≤ time i - time 0 ∨ SteadyFor (verifierSample env boards time operationId) time 200 i

/-- The answer the history calls for. -/
def stopAnswer (i : ℕ) : MotionStopCompletion :=
  { completed := true
    operationId := operationId
    result := if 1000 ≤ time i - time 0 then .failed else .success }

/-- The state of a verifier that has not answered yet. -/
def watching (i : ℕ) : MotionStop :=
  let sample := verifierSample env boards time operationId
  { active := true
    operationId := operationId
    startedAtMs := UInt32.ofNat (time 0)
    lastMovementAtMs := UInt32.ofNat (time (lastChange sample i))
    previousCounts := sample i }

theorem observe_eq (s : MotionStop) (counts : WheelEncoderCounts) (nowMs : UInt32) :
    s.observe counts nowMs =
      if counts = s.previousCounts then s
      else { s with previousCounts := counts, lastMovementAtMs := nowMs } := by
  rw [MotionStop.observe]
  by_cases hsame : counts = s.previousCounts
  · simp [hsame]
  · have hmoved : counts.left ≠ s.previousCounts.left ∨ counts.right ≠ s.previousCounts.right := by
      by_contra hboth
      simp only [not_or, ne_eq, not_not] at hboth
      exact hsame (by cases counts; cases hp : s.previousCounts; simp_all)
    rw [if_pos hmoved, if_neg hsame]

/-- The new sample moves the time stamp exactly if the counters changed. -/
theorem observe_watching (i : ℕ) :
    (watching env boards time operationId i).observe
        (verifierSample env boards time operationId (i + 1)) (UInt32.ofNat (time (i + 1))) =
      watching env boards time operationId (i + 1) := by
  by_cases hsame : verifierSample env boards time operationId (i + 1) =
      verifierSample env boards time operationId i
  · have hchange : lastChange (verifierSample env boards time operationId) (i + 1) =
        lastChange (verifierSample env boards time operationId) i := if_pos hsame
    have hkept : (watching env boards time operationId i).previousCounts =
        verifierSample env boards time operationId (i + 1) := hsame.symm
    rw [observe_eq, if_pos hkept.symm, watching, watching, hchange, hsame]
  · have hchange : lastChange (verifierSample env boards time operationId) (i + 1) = i + 1 :=
      if_neg hsame
    have hmoved : verifierSample env boards time operationId (i + 1) ≠
        (watching env boards time operationId i).previousCounts := hsame
    rw [observe_eq, if_neg hmoved, watching, watching, hchange]

section Times
variable (hforward : ∀ i j, i ≤ j → time i ≤ time j) (hspan : ∀ i, time i < time 0 + 2 ^ 32)
include hforward hspan

theorem deadline_iff (i : ℕ) :
    UInt32.ofNat (time i) - (watching env boards time operationId i).startedAtMs ≥
      motionStopTimeoutMs ↔ 1000 ≤ time i - time 0 := by
  have hlimit := hspan i
  exact WrappingClocks.timeout_le_elapsed_iff (hforward 0 i (Nat.zero_le i)) (by omega)
    motionStopTimeoutMs

theorem settled_iff (i : ℕ) :
    UInt32.ofNat (time i) - (watching env boards time operationId i).lastMovementAtMs ≥
      motionStopSettleTimeMs ↔
        SteadyFor (verifierSample env boards time operationId) time 200 i := by
  have hlimit := hspan i
  have hlast := hforward _ _ (lastChange_le (verifierSample env boards time operationId) i)
  have hfirst := hforward 0 (lastChange (verifierSample env boards time operationId) i)
    (Nat.zero_le _)
  rw [steadyFor_iff _ _ hforward]
  exact WrappingClocks.timeout_le_elapsed_iff hlast (by omega) motionStopSettleTimeMs

/-- One update of a verifier that has not answered yet: the code's two tests are the two
conditions on the history, the deadline first. -/
theorem update_watching (i : ℕ) :
    let out := motionStopUpdate env (UInt32.ofNat (time (i + 1)))
      (watching env boards time operationId i) (boards (i + 1))
    (StopDecided env boards time operationId (i + 1) →
        out.1 = stopAnswer time operationId (i + 1) ∧ out.2.1.active = false) ∧
      (¬ StopDecided env boards time operationId (i + 1) →
        out.1 = {} ∧ out.2.1 = watching env boards time operationId (i + 1)) := by
  have hdeadline := deadline_iff env boards time operationId hforward hspan (i + 1)
  have hsettled := settled_iff env boards time operationId hforward hspan (i + 1)
  have hupdate := motionStopUpdate_active env (UInt32.ofNat (time (i + 1))) (boards (i + 1)) rfl
    (observe_watching env boards time operationId i)
  intro out
  have hout : out = _ := hupdate
  by_cases hlate : 1000 ≤ time (i + 1) - time 0
  · rw [if_pos (hdeadline.mpr hlate)] at hout
    rw [hout]
    refine ⟨fun _ => ⟨?_, rfl⟩, fun hundecided => absurd (.inl hlate) hundecided⟩
    rw [stopAnswer, if_pos hlate]
    rfl
  rw [if_neg (fun h => hlate (hdeadline.mp h))] at hout
  by_cases hsteady : SteadyFor (verifierSample env boards time operationId) time 200 (i + 1)
  · rw [if_pos (hsettled.mpr hsteady)] at hout
    rw [hout]
    refine ⟨fun _ => ⟨?_, rfl⟩, fun hundecided => absurd (.inr hsteady) hundecided⟩
    rw [stopAnswer, if_neg hlate]
    rfl
  · rw [if_neg (fun h => hsteady (hsettled.mp h))] at hout
    rw [hout]
    refine ⟨fun hdecided => ?_, fun _ => ⟨rfl, rfl⟩⟩
    rcases hdecided with h | h
    · exact absurd h hlate
    · exact absurd h hsteady

variable (hid : operationId ≠ 0)
include hid

theorem verifier_watching (i : ℕ)
    (hbefore : ∀ j, 1 ≤ j → j ≤ i → ¬ StopDecided env boards time operationId j) :
    verifier env boards time operationId s i = watching env boards time operationId i := by
  induction i with
  | zero =>
    rw [verifier, motionStopBegin, if_neg hid]
    rfl
  | succ i ih =>
    have hprevious := ih fun j hj hji => hbefore j hj (Nat.le_succ_of_le hji)
    rw [verifier, hprevious]
    exact ((update_watching env boards time operationId hforward hspan i).2
      (hbefore (i + 1) (Nat.le_add_left 1 i) (Nat.le_refl _))).2

/-- The verifier answers exactly once, at the first update whose history calls for an answer, and
not at all once it has been cancelled. -/
theorem verifier_answers_history :
    (∀ i, (∀ j, 1 ≤ j → j ≤ i → ¬ StopDecided env boards time operationId j) →
      (verifierResult env boards time operationId s i).completed = false) ∧
    (∀ i, 1 ≤ i → StopDecided env boards time operationId i →
      (∀ j, 1 ≤ j → j < i → ¬ StopDecided env boards time operationId j) →
        verifierResult env boards time operationId s i = stopAnswer time operationId i ∧
          ∀ calls, Silent env (verifier env boards time operationId s i) calls) ∧
    ∀ i calls, Silent env (motionStopCancel (verifier env boards time operationId s i)) calls := by
  refine ⟨?_, ?_, fun i calls => silent_of_inactive env calls rfl⟩
  · intro i hundecided
    cases i with
    | zero => rfl
    | succ i =>
      have hwatching := verifier_watching env boards time operationId s hforward hspan hid i
        fun j hj hji => hundecided j hj (Nat.le_succ_of_le hji)
      rw [verifierResult, hwatching, ((update_watching env boards time operationId hforward hspan
        i).2 (hundecided (i + 1) (Nat.le_add_left 1 i) (Nat.le_refl _))).1]
  · intro i hi hdecided hbefore
    obtain ⟨i, rfl⟩ := Nat.exists_eq_add_of_le' hi
    have hwatching := verifier_watching env boards time operationId s hforward hspan hid i
      fun j hj hji => hbefore j hj (Nat.lt_succ_of_le hji)
    obtain ⟨hanswer, hinactive⟩ :=
      (update_watching env boards time operationId hforward hspan i).1 hdecided
    rw [verifierResult, verifier, hwatching]
    exact ⟨hanswer, fun calls => silent_of_inactive env calls hinactive⟩

end Times

end History

/-- A clock that is read every 150 ms and stops after a minute. -/
def restingTime (i : ℕ) : ℕ := min (150 * i) 60000

/-- Wheels at rest settle at the second update, 300 ms after the start. -/
theorem verifier_answers_history_at_rest :
    (∀ i j, i ≤ j → restingTime i ≤ restingTime j) ∧
      (∀ i, restingTime i < restingTime 0 + 2 ^ 32) ∧
      verifierResult (fun _ => {}) (fun _ => {}) restingTime 5 {} 2 =
        { completed := true, operationId := 5, result := .success } := by
  have hforward : ∀ i j, i ≤ j → restingTime i ≤ restingTime j := by
    intro i j hij
    simp only [restingTime]
    omega
  have hspan : ∀ i, restingTime i < restingTime 0 + 2 ^ 32 := by
    intro i
    simp only [restingTime]
    omega
  have hsample : ∀ i, verifierSample (fun _ => {}) (fun _ => {}) restingTime 5 i = {} := by
    intro i
    cases i <;> rfl
  refine ⟨hforward, hspan, ?_⟩
  refine ((verifier_answers_history (fun _ => {}) (fun _ => {}) restingTime 5 {} hforward hspan
    (by decide)).2.1 2 (by decide) ?_ ?_).1
  · refine .inr ⟨0, by decide, ?_, by decide⟩
    intro k _ _
    rw [hsample, hsample]
  · intro j hj hj2
    obtain rfl : j = 1 := by omega
    rintro (hdeadline | ⟨k, hk, -, hsettled⟩)
    · exact absurd hdeadline (by decide)
    · simp only [restingTime] at hsettled
      omega

end IndoorRobot
