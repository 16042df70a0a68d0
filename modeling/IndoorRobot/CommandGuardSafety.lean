import IndoorRobot.MotionCommandGuard

/-!
# The command guard over an arbitrary motor driver

The guard and its watchdog with nothing assumed of the driver below: each call of
the driver is recorded with an outcome that can be any. From the record follows
whether the wheels may be moving. They are watched then: a stop is owed, or the
watchdog is armed since the last command that was accepted.
-/
namespace IndoorRobot

/-- A call that reached the motor driver. -/
inductive DriverEvent where
  | apply (command : MotorDriverCommand) (ok : Bool)
  | stop (ok : Bool)
  deriving DecidableEq

/-- The static state of guard and watchdog, and what they asked of the driver. -/
structure GuardedDriver where
  guard : MotionCommandGuard := {}
  watchdog : MotionWatchdog := {}
  events : List DriverEvent := []
  deriving DecidableEq

namespace GuardedDriver

/-- `motion_command_guard_try_stop`, given the outcome of `motor_driver_stop`. -/
def tryStop (g : GuardedDriver) (stopOk : Bool) : Bool × GuardedDriver :=
  let g := { g with events := g.events ++ [DriverEvent.stop stopOk] }
  if stopOk then
    (true, { g with watchdog := g.watchdog.disarm, guard := { g.guard with stopPending := false } })
  else (false, { g with guard := { g.guard with stopPending := true } })

/-- `motion_command_guard_init`, given the outcome of `motor_driver_init`. -/
def init (motorOk : Bool) (timeoutMs : UInt32) : Bool × GuardedDriver :=
  let (watchdogOk, watchdog) := MotionWatchdog.init timeoutMs
  if ¬ motorOk ∨ ¬ watchdogOk then (false, { watchdog := watchdog })
  else (true, { watchdog := watchdog, guard := { initialized := true } })

/-- `motion_command_guard_stop`. -/
def stop (g : GuardedDriver) (stopOk : Bool) : Bool × GuardedDriver :=
  if ¬ g.guard.initialized then (false, g) else g.tryStop stopOk

/-- `motion_command_guard_apply`, given the outcomes of the driver calls it may make. -/
def apply (g : GuardedDriver) (c : MotorDriverCommand) (nowMs : UInt32) (applyOk stopOk : Bool) :
    Bool × GuardedDriver :=
  if ¬ g.guard.initialized ∨ g.guard.stopPending then (false, g)
  else
    let g := { g with events := g.events ++ [DriverEvent.apply c applyOk] }
    if ¬ applyOk then (false, (g.tryStop stopOk).2)
    else if c.left = 0 ∧ c.right = 0 then (true, { g with watchdog := g.watchdog.disarm })
    else
      let (refreshed, watchdog) := g.watchdog.refresh nowMs
      let g := { g with watchdog := watchdog }
      if ¬ refreshed then (false, (g.tryStop stopOk).2) else (true, g)

/-- `motion_command_guard_update`. -/
def update (g : GuardedDriver) (nowMs : UInt32) (stopOk : Bool) :
    MotionCommandGuardUpdate × GuardedDriver :=
  if ¬ g.guard.initialized then (.none, g)
  else if ¬ g.guard.stopPending ∧ ¬ g.watchdog.expired nowMs then (.none, g)
  else
    let (ok, g) := g.tryStop stopOk
    if ok then (.stopped, g) else (.stopFailed, g)

end GuardedDriver

/-- Whether the wheels may be moving, after one more driver call. -/
def movingAfter (moving : Bool) : DriverEvent → Bool
  | .apply c ok => if c.left = 0 ∧ c.right = 0 then moving && !ok else true
  | .stop ok => moving && !ok

/-- A non-zero command went to the driver, and since then neither a stop nor an all-zero command
succeeded. -/
def moving (events : List DriverEvent) : Bool := events.foldl movingAfter false

@[simp] theorem moving_concat (events : List DriverEvent) (event : DriverEvent) :
    moving (events ++ [event]) = movingAfter (moving events) event := by
  simp [moving]

/-- A call of the guard, with the outcomes of the driver calls it makes. -/
inductive GuardCall where
  | apply (command : MotorDriverCommand) (nowMs : UInt32) (applyOk stopOk : Bool)
  | stop (stopOk : Bool)
  | update (nowMs : UInt32) (stopOk : Bool)
  deriving DecidableEq

/-- A guard and the time of the last non-zero command it accepted. -/
structure GuardRun where
  driver : GuardedDriver
  lastAccepted : Option UInt32 := none

namespace GuardRun

def call (r : GuardRun) : GuardCall → GuardRun
  | .apply c nowMs applyOk stopOk =>
    let (accepted, driver) := r.driver.apply c nowMs applyOk stopOk
    { driver := driver
      lastAccepted :=
        if accepted ∧ ¬ (c.left = 0 ∧ c.right = 0) then some nowMs else r.lastAccepted }
  | .stop stopOk => { r with driver := (r.driver.stop stopOk).2 }
  | .update nowMs stopOk => { r with driver := (r.driver.update nowMs stopOk).2 }

def calls (r : GuardRun) (cs : List GuardCall) : GuardRun := cs.foldl call r

/-- The guard is set up, and while the wheels may be moving a stop is owed or the watchdog runs
from the last accepted command. -/
structure Watched (timeoutMs : UInt32) (r : GuardRun) : Prop where
  initialized : r.driver.guard.initialized = true
  watchdog : r.driver.watchdog.initialized = true
  timeout : r.driver.watchdog.timeoutMs = timeoutMs
  watched : moving r.driver.events = true → r.driver.guard.stopPending = true ∨
    (r.driver.watchdog.armed = true ∧ r.lastAccepted = some r.driver.watchdog.lastRefreshMs)

theorem tryStop_watched {timeoutMs : UInt32} (g : GuardedDriver) {lastAccepted : Option UInt32}
    (hi : g.guard.initialized = true) (hw : g.watchdog.initialized = true)
    (ht : g.watchdog.timeoutMs = timeoutMs) (stopOk : Bool) :
    Watched timeoutMs { driver := (g.tryStop stopOk).2, lastAccepted := lastAccepted } := by
  cases stopOk with
  | true =>
    refine ⟨hi, hw, ht, ?_⟩
    simp [GuardedDriver.tryStop, movingAfter]
  | false =>
    refine ⟨hi, hw, ht, ?_⟩
    simp [GuardedDriver.tryStop]

theorem apply_watched {timeoutMs : UInt32} {r : GuardRun} (h : r.Watched timeoutMs)
    (c : MotorDriverCommand) (nowMs : UInt32) (applyOk stopOk : Bool) :
    (r.call (.apply c nowMs applyOk stopOk)).Watched timeoutMs := by
  cases hp : r.driver.guard.stopPending with
  | true =>
    have hcall : r.call (.apply c nowMs applyOk stopOk) = r := by
      simp [call, GuardedDriver.apply, hp]
    rw [hcall]
    exact h
  | false =>
    cases applyOk with
    | false =>
      have hcall : r.call (.apply c nowMs false stopOk) = { r with
          driver := (GuardedDriver.tryStop
            { r.driver with events := r.driver.events ++ [.apply c false] } stopOk).2 } := by
        simp [call, GuardedDriver.apply, hp, h.initialized]
      rw [hcall]
      exact tryStop_watched { r.driver with events := r.driver.events ++ [.apply c false] }
        h.initialized h.watchdog h.timeout stopOk
    | true =>
      by_cases hz : c.left = 0 ∧ c.right = 0
      · have hcall : r.call (.apply c nowMs true stopOk) = { r with
            driver := { r.driver with
              events := r.driver.events ++ [.apply c true]
              watchdog := r.driver.watchdog.disarm } } := by
          simp [call, GuardedDriver.apply, hp, h.initialized, hz]
        rw [hcall]
        refine ⟨h.initialized, h.watchdog, h.timeout, ?_⟩
        simp [movingAfter, hz]
      · have hcall : r.call (.apply c nowMs true stopOk) =
            { driver := { r.driver with
                events := r.driver.events ++ [.apply c true]
                watchdog := { r.driver.watchdog with lastRefreshMs := nowMs, armed := true } }
              lastAccepted := some nowMs } := by
          simp [call, GuardedDriver.apply, hp, h.initialized, hz, MotionWatchdog.refresh, h.watchdog]
        rw [hcall]
        exact ⟨h.initialized, h.watchdog, h.timeout, fun _ => .inr ⟨rfl, rfl⟩⟩

theorem stop_watched {timeoutMs : UInt32} {r : GuardRun} (h : r.Watched timeoutMs) (stopOk : Bool) :
    (r.call (.stop stopOk)).Watched timeoutMs := by
  have hcall : r.call (.stop stopOk) = { r with driver := (r.driver.tryStop stopOk).2 } := by
    simp [call, GuardedDriver.stop, h.initialized]
  rw [hcall]
  exact tryStop_watched _ h.initialized h.watchdog h.timeout stopOk

/-- What an update does: nothing while no stop is owed and the watchdog has not expired. -/
theorem update_cases {timeoutMs : UInt32} {r : GuardRun} (h : r.Watched timeoutMs) (nowMs : UInt32)
    (stopOk : Bool) :
    (r.driver.guard.stopPending = false ∧ r.driver.watchdog.expired nowMs = false ∧
        r.call (.update nowMs stopOk) = r) ∨
      ((r.driver.guard.stopPending = true ∨ r.driver.watchdog.expired nowMs = true) ∧
        r.call (.update nowMs stopOk) = { r with driver := (r.driver.tryStop stopOk).2 }) := by
  by_cases hquiet : r.driver.guard.stopPending = false ∧ r.driver.watchdog.expired nowMs = false
  · refine .inl ⟨hquiet.1, hquiet.2, ?_⟩
    simp [call, GuardedDriver.update, h.initialized, hquiet.1, hquiet.2]
  · have hdue : r.driver.guard.stopPending = true ∨ r.driver.watchdog.expired nowMs = true := by
      cases hp : r.driver.guard.stopPending with
      | true => exact .inl rfl
      | false =>
        refine .inr ?_
        cases he : r.driver.watchdog.expired nowMs with
        | true => rfl
        | false => exact absurd ⟨hp, he⟩ hquiet
    refine .inr ⟨hdue, ?_⟩
    cases stopOk <;> obtain hp | he := hdue <;>
      simp_all [call, GuardedDriver.update, h.initialized, GuardedDriver.tryStop]

theorem update_watched {timeoutMs : UInt32} {r : GuardRun} (h : r.Watched timeoutMs)
    (nowMs : UInt32) (stopOk : Bool) : (r.call (.update nowMs stopOk)).Watched timeoutMs := by
  obtain ⟨-, -, hcall⟩ | ⟨-, hcall⟩ := update_cases h nowMs stopOk
  · rw [hcall]
    exact h
  · rw [hcall]
    exact tryStop_watched _ h.initialized h.watchdog h.timeout stopOk

theorem call_watched {timeoutMs : UInt32} {r : GuardRun} (h : r.Watched timeoutMs) (c : GuardCall) :
    (r.call c).Watched timeoutMs := by
  cases c with
  | apply c nowMs applyOk stopOk => exact apply_watched h c nowMs applyOk stopOk
  | stop stopOk => exact stop_watched h stopOk
  | update nowMs stopOk => exact update_watched h nowMs stopOk

theorem calls_watched {timeoutMs : UInt32} {r : GuardRun} (h : r.Watched timeoutMs)
    (cs : List GuardCall) : (r.calls cs).Watched timeoutMs := by
  induction cs generalizing r with
  | nil => exact h
  | cons c cs ih => exact ih (call_watched h c)

/-- The state `motion_command_guard_init` leaves. -/
def start (motorOk : Bool) (timeoutMs : UInt32) : GuardRun :=
  { driver := (GuardedDriver.init motorOk timeoutMs).2 }

theorem start_watched {motorOk : Bool} {timeoutMs : UInt32}
    (h : (GuardedDriver.init motorOk timeoutMs).1 = true) :
    (start motorOk timeoutMs).Watched timeoutMs := by
  rw [start, GuardedDriver.init]
  rw [GuardedDriver.init] at h
  by_cases ht : timeoutMs > 0
  · cases motorOk with
    | true => constructor <;> simp [MotionWatchdog.init, ht, moving]
    | false => simp at h
  · simp [MotionWatchdog.init, ht] at h

/-- A stop that succeeds settles the wheels, one that fails stays owed. -/
theorem tryStop_settles (g : GuardedDriver) (stopOk : Bool) :
    moving (g.tryStop stopOk).2.events = false ∨ (g.tryStop stopOk).2.guard.stopPending = true := by
  cases stopOk with
  | true => exact .inl (by simp [GuardedDriver.tryStop, movingAfter])
  | false => exact .inr (by simp [GuardedDriver.tryStop])

theorem tryStop_clears {g : GuardedDriver} {stopOk : Bool}
    (h : (g.tryStop stopOk).2.guard.stopPending = false) :
    (g.tryStop stopOk).2.events = g.events ++ [.stop true] := by
  cases stopOk with
  | true => rfl
  | false => simp [GuardedDriver.tryStop] at h

/-- While a stop is owed, no command reaches the driver, every update asks it to stop, and only
a stop that succeeds settles the debt. -/
theorem pending_calls {timeoutMs : UInt32} {r : GuardRun} (h : r.Watched timeoutMs)
    (hp : r.driver.guard.stopPending = true) :
    (∀ c nowMs applyOk stopOk, r.driver.apply c nowMs applyOk stopOk = (false, r.driver)) ∧
      (∀ nowMs stopOk, (r.call (.update nowMs stopOk)).driver.events =
        r.driver.events ++ [.stop stopOk]) ∧
      ∀ c, (r.call c).driver.guard.stopPending = false →
        (r.call c).driver.events = r.driver.events ++ [.stop true] := by
  have happly : ∀ c nowMs applyOk stopOk,
      r.driver.apply c nowMs applyOk stopOk = (false, r.driver) := by
    intro c nowMs applyOk stopOk
    simp [GuardedDriver.apply, hp]
  have hupdate : ∀ nowMs stopOk,
      r.call (.update nowMs stopOk) = { r with driver := (r.driver.tryStop stopOk).2 } := by
    intro nowMs stopOk
    obtain ⟨hclear, -⟩ | ⟨-, hcall⟩ := update_cases h nowMs stopOk
    · rw [hp] at hclear
      cases hclear
    · exact hcall
  refine ⟨happly, ?_, ?_⟩
  · intro nowMs stopOk
    rw [hupdate]
    cases stopOk <;> rfl
  · intro c hclear
    cases c with
    | apply c nowMs applyOk stopOk =>
      have hsame : (r.call (.apply c nowMs applyOk stopOk)).driver = r.driver := by
        simp [call, happly]
      rw [hsame, hp] at hclear
      cases hclear
    | stop stopOk =>
      have hcall : r.call (.stop stopOk) = { r with driver := (r.driver.tryStop stopOk).2 } := by
        simp [call, GuardedDriver.stop, h.initialized]
      rw [hcall] at hclear ⊢
      exact tryStop_clears hclear
    | update nowMs stopOk =>
      rw [hupdate] at hclear ⊢
      exact tryStop_clears hclear

/-- Whatever is commanded, whenever, and however the driver answers, wheels that may be moving are
watched, an expired watchdog stops them or owes them a stop, and a stop that is owed blocks every
command until the driver has stopped. -/
theorem command_guard_watches_moving_wheels (motorOk : Bool) (timeoutMs : UInt32)
    (hinit : (GuardedDriver.init motorOk timeoutMs).1 = true) (cs : List GuardCall) (r : GuardRun)
    (hr : (start motorOk timeoutMs).calls cs = r) :
    (moving r.driver.events = true → r.driver.guard.stopPending = true ∨
        (r.driver.watchdog.armed = true ∧ r.lastAccepted = some r.driver.watchdog.lastRefreshMs)) ∧
      (∀ nowMs stopOk, r.driver.watchdog.armed = true →
        nowMs - r.driver.watchdog.lastRefreshMs ≥ timeoutMs →
          moving (r.call (.update nowMs stopOk)).driver.events = false ∨
            (r.call (.update nowMs stopOk)).driver.guard.stopPending = true) ∧
      (r.driver.guard.stopPending = true →
        (∀ c nowMs applyOk stopOk, r.driver.apply c nowMs applyOk stopOk = (false, r.driver)) ∧
          (∀ nowMs stopOk, (r.call (.update nowMs stopOk)).driver.events =
            r.driver.events ++ [.stop stopOk]) ∧
          ∀ c, (r.call c).driver.guard.stopPending = false →
            (r.call c).driver.events = r.driver.events ++ [.stop true]) := by
  have h : r.Watched timeoutMs := by
    rw [← hr]
    exact calls_watched (start_watched hinit) cs
  refine ⟨h.watched, ?_, pending_calls h⟩
  intro nowMs stopOk harmed hlate
  have hexpired : r.driver.watchdog.expired nowMs = true := by
    rw [MotionWatchdog.expired, h.watchdog, harmed, h.timeout]
    simpa using hlate
  obtain ⟨-, hquiet, -⟩ | ⟨-, hcall⟩ := update_cases h nowMs stopOk
  · rw [hexpired] at hquiet
    cases hquiet
  · rw [hcall]
    exact tryStop_settles r.driver stopOk

/-- A command that moves the wheels, and an update after the timeout whose stop fails. -/
def lateUpdate : List GuardCall := [.apply ⟨100, 100⟩ 4294967290 true true, .update 300 false]

theorem command_guard_watches_moving_wheels_late_update :
    (GuardedDriver.init true 250).1 = true ∧
      moving ((start true 250).calls lateUpdate).driver.events = true ∧
      ((start true 250).calls lateUpdate).driver.apply {} 301 true true =
        (false, ((start true 250).calls lateUpdate).driver) := by
  have hinit : (GuardedDriver.init true 250).1 = true := by decide
  exact ⟨hinit, by decide, ((command_guard_watches_moving_wheels true 250 hinit lateUpdate _ rfl).2.2
    (by decide)).1 {} 301 true true⟩

end GuardRun

/-! ### The guard on the board -/

/-- The driver call an entry of the board's log records. -/
def BoardEvent.driverEvent : BoardEvent → Option DriverEvent
  | .driverApply c ok => some (.apply c ok)
  | .driverStop ok => some (.stop ok)
  | _ => none

/-- Guard, watchdog and driver calls of a board. -/
def Board.guarded (b : Board) : GuardedDriver :=
  ⟨b.guard, b.watchdog, b.log.filterMap BoardEvent.driverEvent⟩

@[simp] theorem guarded_guard (b : Board) : b.guarded.guard = b.guard := rfl

@[simp] theorem guarded_watchdog (b : Board) : b.guarded.watchdog = b.watchdog := rfl

theorem emit_guarded (b : Board) (event : BoardEvent) :
    (b.emit event).guarded =
      { b.guarded with events := b.guarded.events ++ event.driverEvent.toList } := by
  cases event <;> simp [Board.emit, Board.guarded, List.filterMap_cons, BoardEvent.driverEvent]

section Board
variable (env : ℕ → PortAnswer)

theorem motorDriverStopBody_guarded (b : Board) :
    (motorDriverStopBody env b).2.guarded = b.guarded := by
  cases hi : b.motor.initialized <;> cases hok : (env b.log.length).ok <;>
    simp [motorDriverStopBody, hi, motorDriverDri0041PortApply, hok, Board.emit, Board.guarded,
      List.filterMap_cons, BoardEvent.driverEvent]

theorem motorDriverStop_guarded (b : Board) : (motorDriverStop env b).2.guarded =
    { b.guarded with events := b.guarded.events ++ [.stop (motorDriverStop env b).1] } := by
  rw [motorDriverStop]
  simp only [emit_guarded, motorDriverStopBody_guarded]
  rfl

theorem motorDriverApplyBody_guarded (c : MotorDriverCommand) (b : Board) :
    (motorDriverApplyBody env c b).2.guarded = b.guarded := by
  cases hi : b.motor.initialized with
  | false => simp [motorDriverApplyBody, hi]
  | true =>
    cases hc : MotorDriver.dri0041ControlFromCommand c with
    | none => simp [motorDriverApplyBody, hi, hc]
    | some control =>
      cases hok : (env b.log.length).ok <;>
        simp [motorDriverApplyBody, hi, hc, motorDriverDri0041PortApply, hok, Board.emit,
          Board.guarded, List.filterMap_cons, BoardEvent.driverEvent]

theorem motorDriverApply_guarded (c : MotorDriverCommand) (b : Board) :
    (motorDriverApply env c b).2.guarded =
      { b.guarded with events := b.guarded.events ++ [.apply c (motorDriverApply env c b).1] } := by
  rw [motorDriverApply]
  simp only [emit_guarded, motorDriverApplyBody_guarded]
  rfl

/-- An attempt to stop the board is one to stop its guarded driver. -/
theorem motionCommandGuardTryStop_guarded (b : Board) :
    ∃ stopOk, (motionCommandGuardTryStop env b).1 = (b.guarded.tryStop stopOk).1 ∧
      (motionCommandGuardTryStop env b).2.guarded = (b.guarded.tryStop stopOk).2 := by
  have hstop := motorDriverStop_guarded env b
  refine ⟨(motorDriverStop env b).1, ?_⟩
  rw [motionCommandGuardTryStop]
  rcases h : motorDriverStop env b with ⟨ok, b'⟩
  rw [h] at hstop
  have hguard := congrArg GuardedDriver.guard hstop
  have hwatchdog := congrArg GuardedDriver.watchdog hstop
  have hevents := congrArg GuardedDriver.events hstop
  simp only [Board.guarded] at hguard hwatchdog hevents
  cases ok <;> simp [GuardedDriver.tryStop, Board.guarded, hguard, hwatchdog, hevents]

theorem motionCommandGuardStop_guarded (b : Board) :
    ∃ stopOk, (motionCommandGuardStop env b).2.guarded = (b.guarded.stop stopOk).2 := by
  obtain ⟨stopOk, -, hstop⟩ := motionCommandGuardTryStop_guarded env b
  refine ⟨stopOk, ?_⟩
  by_cases hi : b.guard.initialized = true
  · rw [motionCommandGuardStop, GuardedDriver.stop, if_neg (by simp [hi]),
      if_neg (by simp [Board.guarded, hi]), hstop]
  · rw [motionCommandGuardStop, GuardedDriver.stop, if_pos (by simp [hi]),
      if_pos (by simp [Board.guarded, hi])]

theorem motionCommandGuardUpdate_guarded (nowMs : UInt32) (b : Board) :
    ∃ stopOk, (motionCommandGuardUpdate env nowMs b).2.guarded =
      (b.guarded.update nowMs stopOk).2 := by
  obtain ⟨stopOk, hresult, hstop⟩ := motionCommandGuardTryStop_guarded env b
  refine ⟨stopOk, ?_⟩
  rw [motionCommandGuardUpdate, GuardedDriver.update]
  by_cases hi : b.guard.initialized = true
  · have hguarded : ¬ ¬ b.guarded.guard.initialized = true := not_not_intro hi
    rw [if_neg (not_not_intro hi), if_neg hguarded]
    by_cases hquiet : ¬ b.guard.stopPending = true ∧ ¬ b.watchdog.expired nowMs = true
    · have hsame : ¬ b.guarded.guard.stopPending = true ∧
          ¬ b.guarded.watchdog.expired nowMs = true := hquiet
      rw [if_pos hquiet, if_pos hsame]
    · have hsame : ¬ (¬ b.guarded.guard.stopPending = true ∧
          ¬ b.guarded.watchdog.expired nowMs = true) := hquiet
      rw [if_neg hquiet, if_neg hsame]
      simp only [hresult]
      split_ifs <;> exact hstop
  · have hguarded : ¬ b.guarded.guard.initialized = true := hi
    rw [if_pos hi, if_pos hguarded]

theorem motionCommandGuardApply_guarded (c : MotorDriverCommand) (nowMs : UInt32) (b : Board) :
    ∃ applyOk stopOk, (motionCommandGuardApply env c nowMs b).1 =
        (b.guarded.apply c nowMs applyOk stopOk).1 ∧
      (motionCommandGuardApply env c nowMs b).2.guarded =
        (b.guarded.apply c nowMs applyOk stopOk).2 := by
  by_cases hopen : ¬ b.guard.initialized = true ∨ b.guard.stopPending = true
  · refine ⟨true, true, ?_⟩
    simp only [motionCommandGuardApply, GuardedDriver.apply, guarded_guard, if_pos hopen, and_self]
  · have happly := motorDriverApply_guarded env c b
    rcases h : motorDriverApply env c b with ⟨applied, b'⟩
    rw [h] at happly
    simp only at happly
    have hwatchdog : b'.watchdog = b.watchdog := congrArg GuardedDriver.watchdog happly
    cases applied with
    | false =>
      obtain ⟨stopOk, -, hstop⟩ := motionCommandGuardTryStop_guarded env b'
      refine ⟨false, stopOk, ?_⟩
      simp only [motionCommandGuardApply, GuardedDriver.apply, guarded_guard, if_neg hopen, h,
        Bool.false_eq_true, not_false_iff, if_true, true_and]
      rw [hstop, happly]
      rfl
    | true =>
      by_cases hz : c.left = 0 ∧ c.right = 0
      · refine ⟨true, true, ?_⟩
        simp only [motionCommandGuardApply, GuardedDriver.apply, guarded_guard, if_neg hopen, h,
          not_true, if_false, if_pos hz, true_and]
        exact congrArg (fun g => { g with watchdog := g.watchdog.disarm }) happly
      · cases hw : b.watchdog.initialized with
        | true =>
          have hrefresh : b.watchdog.refresh nowMs =
              (true, { b.watchdog with lastRefreshMs := nowMs, armed := true }) := by
            simp [MotionWatchdog.refresh, hw]
          refine ⟨true, true, ?_⟩
          simp only [motionCommandGuardApply, GuardedDriver.apply, guarded_guard, guarded_watchdog,
            if_neg hopen, h, not_true, if_false, if_neg hz, hwatchdog, hrefresh, true_and]
          exact congrArg (fun g : GuardedDriver => { g with watchdog :=
            { b.watchdog with lastRefreshMs := nowMs, armed := true } }) happly
        | false =>
          have hrefresh : b.watchdog.refresh nowMs = (false, b.watchdog) := by
            simp [MotionWatchdog.refresh, hw]
          obtain ⟨stopOk, -, hstop⟩ := motionCommandGuardTryStop_guarded env b'
          refine ⟨true, stopOk, ?_⟩
          simp only [motionCommandGuardApply, GuardedDriver.apply, guarded_guard, guarded_watchdog,
            if_neg hopen, h, not_true, if_false, if_neg hz, hwatchdog, hrefresh,
            Bool.false_eq_true, not_false_iff, if_true, true_and]
          rw [← hwatchdog, hstop, happly, hwatchdog]
          rfl

/-- A call of the guard on the board. -/
inductive BoardGuardCall where
  | apply (command : MotorDriverCommand) (nowMs : UInt32)
  | stop
  | update (nowMs : UInt32)

def boardGuardCall (b : Board) : BoardGuardCall → Board
  | .apply c nowMs => (motionCommandGuardApply env c nowMs b).2
  | .stop => (motionCommandGuardStop env b).2
  | .update nowMs => (motionCommandGuardUpdate env nowMs b).2

/-- Every run of the guard over the real driver is a run of the guard with some outcomes. -/
theorem boardGuardCalls_guarded (cs : List BoardGuardCall) (b : Board)
    (lastAccepted : Option UInt32) :
    ∃ outcomes : List GuardCall, (cs.foldl (boardGuardCall env) b).guarded =
      (GuardRun.calls ⟨b.guarded, lastAccepted⟩ outcomes).driver := by
  induction cs generalizing b lastAccepted with
  | nil => exact ⟨[], rfl⟩
  | cons c cs ih =>
    obtain ⟨call, lastAccepted', hcall⟩ : ∃ call lastAccepted',
        (GuardRun.mk b.guarded lastAccepted).call call =
          ⟨(boardGuardCall env b c).guarded, lastAccepted'⟩ := by
      cases c with
      | apply c nowMs =>
        obtain ⟨applyOk, stopOk, -, happly⟩ := motionCommandGuardApply_guarded env c nowMs b
        exact ⟨.apply c nowMs applyOk stopOk, _, by rw [boardGuardCall, happly]; rfl⟩
      | stop =>
        obtain ⟨stopOk, hstop⟩ := motionCommandGuardStop_guarded env b
        exact ⟨.stop stopOk, _, by rw [boardGuardCall, hstop]; rfl⟩
      | update nowMs =>
        obtain ⟨stopOk, hupdate⟩ := motionCommandGuardUpdate_guarded env nowMs b
        exact ⟨.update nowMs stopOk, _, by rw [boardGuardCall, hupdate]; rfl⟩
    obtain ⟨outcomes, hrest⟩ := ih (boardGuardCall env b c) lastAccepted'
    refine ⟨call :: outcomes, ?_⟩
    rw [List.foldl_cons, hrest, GuardRun.calls, GuardRun.calls, List.foldl_cons, hcall]

end Board

end IndoorRobot
