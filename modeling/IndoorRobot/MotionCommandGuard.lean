import IndoorRobot.MotorDriver

/-!
# The motion watchdog and the command guard

`motion_watchdog.c` and `motion_command_guard.c`. Every path on which a command
does not take effect tries to stop the motors, and a stop that fails stays pending.
-/
namespace IndoorRobot

namespace MotionWatchdog

/-- `motion_watchdog_init`. -/
def init (timeoutMs : UInt32) : Bool × MotionWatchdog :=
  if timeoutMs > 0 then (true, { timeoutMs := timeoutMs, initialized := true }) else (false, {})

/-- `motion_watchdog_refresh`. -/
def refresh (w : MotionWatchdog) (nowMs : UInt32) : Bool × MotionWatchdog :=
  if ¬ w.initialized then (false, w) else (true, { w with lastRefreshMs := nowMs, armed := true })

/-- `motion_watchdog_disarm`. -/
def disarm (w : MotionWatchdog) : MotionWatchdog := { w with armed := false }

/-- `motion_watchdog_expired`. -/
def expired (w : MotionWatchdog) (nowMs : UInt32) : Bool :=
  w.initialized && w.armed && decide (nowMs - w.lastRefreshMs ≥ w.timeoutMs)

end MotionWatchdog

inductive MotionCommandGuardUpdate where
  | none | stopped | stopFailed
  deriving DecidableEq, Repr

section Guard
variable (env : ℕ → PortAnswer)

/-- `motion_command_guard_try_stop`. -/
def motionCommandGuardTryStop (b : Board) : Bool × Board :=
  let (ok, b) := motorDriverStop env b
  if ok then
    (true, { b with watchdog := b.watchdog.disarm, guard := { b.guard with stopPending := false } })
  else (false, { b with guard := { b.guard with stopPending := true } })

/-- `motion_command_guard_init`, given the answer of the motor port. -/
def motionCommandGuardInit (portInit : Bool) (timeoutMs : UInt32) (b : Board) : Bool × Board :=
  let (motorInitialized, motor) := MotorDriver.init portInit
  let (watchdogInitialized, watchdog) := MotionWatchdog.init timeoutMs
  let b := { b with guard := {}, motor := motor, watchdog := watchdog }
  if ¬ motorInitialized ∨ ¬ watchdogInitialized then (false, b)
  else (true, { b with guard := { b.guard with initialized := true } })

/-- `motion_command_guard_stop`. -/
def motionCommandGuardStop (b : Board) : Bool × Board :=
  if ¬ b.guard.initialized then (false, b) else motionCommandGuardTryStop env b

/-- `motion_command_guard_apply`. -/
def motionCommandGuardApply (c : MotorDriverCommand) (nowMs : UInt32) (b : Board) : Bool × Board :=
  if ¬ b.guard.initialized ∨ b.guard.stopPending then (false, b)
  else
    let (applied, b) := motorDriverApply env c b
    if ¬ applied then (false, (motionCommandGuardTryStop env b).2)
    else if c.left = 0 ∧ c.right = 0 then (true, { b with watchdog := b.watchdog.disarm })
    else
      let (refreshed, watchdog) := b.watchdog.refresh nowMs
      let b := { b with watchdog := watchdog }
      if ¬ refreshed then (false, (motionCommandGuardTryStop env b).2)
      else (true, b)

/-- `motion_command_guard_update`. -/
def motionCommandGuardUpdate (nowMs : UInt32) (b : Board) : MotionCommandGuardUpdate × Board :=
  if ¬ b.guard.initialized then (.none, b)
  else if ¬ b.guard.stopPending ∧ ¬ b.watchdog.expired nowMs then (.none, b)
  else
    let (ok, b) := motionCommandGuardTryStop env b
    if ok then (.stopped, b) else (.stopFailed, b)

end Guard

theorem motionCommandGuardInit_succeeds {portInit : Bool} {timeoutMs : UInt32} {b : Board}
    (h : (motionCommandGuardInit portInit timeoutMs b).1 = true) :
    (motionCommandGuardInit portInit timeoutMs b).2 =
      { b with
        guard := { initialized := true }
        motor := { initialized := true }
        watchdog := { timeoutMs := timeoutMs, initialized := true } } := by
  rw [motionCommandGuardInit] at h ⊢
  by_cases ht : timeoutMs > 0
  · cases portInit <;> simp_all [MotorDriver.init, MotionWatchdog.init]
  · simp [MotorDriver.init, MotionWatchdog.init, ht] at h

/-- What an attempt to stop can do to the board. -/
inductive StopOutcome (b : Board) : Bool × Board → Prop where
  | stopped (motor : MotorDriver) : StopOutcome b (true,
      { b with
        motor := motor
        watchdog := b.watchdog.disarm
        guard := { b.guard with stopPending := false }
        log := b.log ++ [.portApply {} true, .driverStop true] })
  | failed (events : List BoardEvent)
      (hevents : ∀ e ∈ events, e = .portApply {} false ∨ e = .driverStop false) :
      StopOutcome b (false,
      { b with
        guard := { b.guard with stopPending := true }
        log := b.log ++ events })

theorem motionCommandGuardTryStop_outcome (env : ℕ → PortAnswer) (b : Board) :
    StopOutcome b (motionCommandGuardTryStop env b) := by
  rw [motionCommandGuardTryStop]
  rcases motorDriverStop_cases env b with ⟨motor, h⟩ | ⟨events, hevents, h⟩
  · rw [h]
    exact .stopped motor
  · rw [h]
    exact .failed events hevents

theorem motionCommandGuardStop_outcome (env : ℕ → PortAnswer) (b : Board)
    (hi : b.guard.initialized = true) : StopOutcome b (motionCommandGuardStop env b) := by
  simpa [motionCommandGuardStop, hi] using motionCommandGuardTryStop_outcome env b

/-- What an attempt to apply a command can do to the board. -/
inductive ApplyOutcome (c : MotorDriverCommand) (nowMs : UInt32) (b : Board) :
    Bool × Board → Prop where
  | refused (hpending : b.guard.stopPending = true) : ApplyOutcome c nowMs b (false, b)
  | rejected (motor : MotorDriver) (events : List BoardEvent)
      (hevents : ∀ e ∈ events, (∃ control ok, e = .portApply control ok) ∨ ∃ ok, e = .driverApply c ok)
      (out : Bool × Board) (hout : StopOutcome { b with motor := motor, log := b.log ++ events } out) :
      ApplyOutcome c nowMs b (false, out.2)
  | halted (motor : MotorDriver) (control : Dri0041PortControl) (hidle : control.idle) :
      ApplyOutcome c nowMs b (true,
      { b with
        motor := motor
        watchdog := b.watchdog.disarm
        log := b.log ++ [.portApply control true, .driverApply c true] })
  | moved (motor : MotorDriver) (control : Dri0041PortControl) :
      ApplyOutcome c nowMs b (true,
      { b with
        motor := motor
        watchdog := { b.watchdog with lastRefreshMs := nowMs, armed := true }
        log := b.log ++ [.portApply control true, .driverApply c true] })

theorem motionCommandGuardApply_outcome (env : ℕ → PortAnswer) (c : MotorDriverCommand)
    (nowMs : UInt32) (b : Board) (hi : b.guard.initialized = true) :
    ApplyOutcome c nowMs b (motionCommandGuardApply env c nowMs b) := by
  rw [motionCommandGuardApply]
  cases hp : b.guard.stopPending with
  | true =>
    have hrefused : ApplyOutcome c nowMs b (false, b) := .refused hp
    simpa [hi, hp] using hrefused
  | false =>
    simp only [hi, not_true_eq_false, Bool.false_eq_true, or_self, if_false]
    rcases motorDriverApply_cases env c b with ⟨motor, control, hidle, h⟩ | ⟨motor, events, hevents, h⟩
    · simp only [h, not_true_eq_false, if_false]
      by_cases hz : c.left = 0 ∧ c.right = 0
      · rw [if_pos hz]
        have hc : c = {} := by
          cases c
          simp_all
        exact .halted motor control (hidle hc)
      · rw [if_neg hz]
        cases hw : b.watchdog.initialized with
        | true =>
          have hr : b.watchdog.refresh nowMs =
              (true, { b.watchdog with lastRefreshMs := nowMs, armed := true }) := by
            rw [MotionWatchdog.refresh, if_neg (by simp [hw])]
          simp only [hr, not_true_eq_false, if_false]
          exact .moved motor control
        | false =>
          have hr : b.watchdog.refresh nowMs = (false, b.watchdog) := by
            rw [MotionWatchdog.refresh, if_pos (by simp [hw])]
          simp only [hr, Bool.false_eq_true, not_false_eq_true, if_true]
          exact .rejected motor [.portApply control true, .driverApply c true] (by simp) _
            (motionCommandGuardTryStop_outcome env _)
    · simp only [h, Bool.false_eq_true, not_false_eq_true, if_true]
      refine .rejected motor events ?_ _ (motionCommandGuardTryStop_outcome env _)
      intro e he
      rcases hevents e he with ⟨control, rfl⟩ | rfl
      · exact .inl ⟨control, false, rfl⟩
      · exact .inr ⟨false, rfl⟩

/-- What the periodic update of the guard can do to the board. -/
inductive GuardUpdateOutcome (b : Board) : MotionCommandGuardUpdate × Board → Prop where
  | idle (hpending : b.guard.stopPending = false) : GuardUpdateOutcome b (.none, b)
  | stopped (b' : Board) (hout : StopOutcome b (true, b')) : GuardUpdateOutcome b (.stopped, b')
  | failed (b' : Board) (hout : StopOutcome b (false, b')) : GuardUpdateOutcome b (.stopFailed, b')

theorem motionCommandGuardUpdate_outcome (env : ℕ → PortAnswer) (nowMs : UInt32) (b : Board)
    (hi : b.guard.initialized = true) :
    GuardUpdateOutcome b (motionCommandGuardUpdate env nowMs b) := by
  rw [motionCommandGuardUpdate]
  rw [if_neg (by simp [hi])]
  split_ifs with hquiet
  · exact .idle (by simpa using hquiet.1)
  · have hout := motionCommandGuardTryStop_outcome env b
    rcases h : motionCommandGuardTryStop env b with ⟨ok, b'⟩
    rw [h] at hout
    cases ok with
    | true => exact .stopped b' hout
    | false => exact .failed b' hout

end IndoorRobot
