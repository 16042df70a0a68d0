import IndoorRobot.CrsfReceiver

/-!
# The enable guard of manual control

`manual_input_guard.cpp` with the constants of `manual_control_config.h`. Time is in
nanoseconds, as in the client runner.
-/
namespace IndoorRobot

namespace CrsfChannels

def steering (c : CrsfChannels) : UInt16 := c.values[0]
def forward (c : CrsfChannels) : UInt16 := c.values[1]
def enable (c : CrsfChannels) : UInt16 := c.values[4]

def stickCenter : UInt16 := 992
def neutralTolerance : UInt16 := 25
def enableLowMax : UInt16 := 400
def enableHighMin : UInt16 := 1600

/-- `is_neutral`. -/
def isNeutral (value : UInt16) : Bool :=
  decide (stickCenter - neutralTolerance ≤ value) && decide (value ≤ stickCenter + neutralTolerance)

def saEnabled (c : CrsfChannels) : Bool := decide (enableHighMin ≤ c.enable)
def saDisabled (c : CrsfChannels) : Bool := decide (c.enable ≤ enableLowMax)
def axesNeutral (c : CrsfChannels) : Bool := isNeutral c.forward && isNeutral c.steering

end CrsfChannels

inductive ManualInputState where
  | needsRearm | ready | enabled
  deriving DecidableEq, Repr

structure ManualInputGuard where
  state : ManualInputState := .needsRearm
  hasChannels : Bool := false
  lastChannelsAt : ℤ := 0

namespace ManualInputGuard

def timeout : ℤ := 200 * 1000000

def reset (_ : ManualInputGuard) : ManualInputGuard := {}

def poll (g : ManualInputGuard) (now : ℤ) : Bool × ManualInputGuard :=
  if ¬ g.hasChannels then (false, g)
  else
    let g := if now - g.lastChannelsAt ≥ timeout then { g with state := .needsRearm } else g
    (decide (g.state = .enabled), g)

/-- The `switch` of `on_channels`. -/
def nextState (state : ManualInputState) (channels : CrsfChannels) : ManualInputState :=
  match state with
  | .needsRearm => if channels.saDisabled && channels.axesNeutral then .ready else .needsRearm
  | .ready =>
    if channels.saEnabled && channels.axesNeutral then .enabled
    else if ¬ (channels.saDisabled && channels.axesNeutral) then .needsRearm
    else .ready
  | .enabled =>
    if ¬ channels.saEnabled then
      if channels.saDisabled && channels.axesNeutral then .ready else .needsRearm
    else .enabled

def onChannels (g : ManualInputGuard) (channels : CrsfChannels) (now : ℤ) : ManualInputGuard :=
  let g := (g.poll now).2
  { lastChannelsAt := now, hasChannels := true, state := nextState g.state channels }

/-- Waiting for the timeout can only take the permission away. -/
theorem poll_state (g : ManualInputGuard) (now : ℤ) :
    (g.poll now).2.state = g.state ∨ (g.poll now).2.state = .needsRearm := by
  simp only [poll]
  split_ifs with hchannels hexpired
  · right
    rfl
  · left
    rfl
  · left
    rfl

theorem enabled_of_poll {g : ManualInputGuard} {now : ℤ} (h : (g.poll now).1 = true) :
    (g.poll now).2.state = .enabled := by
  by_cases hchannels : g.hasChannels = true
  · simp only [poll, hchannels, not_true, if_false, decide_eq_true_eq] at h ⊢
    exact h
  · simp [poll, hchannels] at h

theorem state_of_poll {g : ManualInputGuard} {now : ℤ} {state : ManualInputState}
    (h : (g.poll now).2.state = state) (hstate : state ≠ .needsRearm) : g.state = state := by
  rcases g.poll_state now with hsame | hrearm
  · exact hsame.symm.trans h
  · exact absurd (h.symm.trans hrearm) hstate

theorem nextState_ready {state : ManualInputState} {channels : CrsfChannels}
    (h : nextState state channels = .ready) :
    channels.saDisabled = true ∧ channels.axesNeutral = true := by
  rw [← Bool.and_eq_true]
  by_contra hdisarmed
  cases state with
  | needsRearm => simp [nextState, hdisarmed] at h
  | ready =>
    simp only [nextState] at h
    split_ifs at h
  | enabled =>
    simp only [nextState, if_neg hdisarmed] at h
    split_ifs at h

theorem nextState_enabled {state : ManualInputState} {channels : CrsfChannels}
    (h : nextState state channels = .enabled) : channels.saEnabled = true ∧
      (state = .enabled ∨ state = .ready ∧ channels.axesNeutral = true) := by
  cases state with
  | needsRearm =>
    simp only [nextState] at h
    split_ifs at h
  | ready =>
    simp only [nextState] at h
    split_ifs at h with henable
    rw [Bool.and_eq_true] at henable
    exact ⟨henable.1, .inr ⟨rfl, henable.2⟩⟩
  | enabled =>
    simp only [nextState] at h
    split_ifs at h with henable
    exact ⟨by simpa using henable, .inl rfl⟩

/-- The guard is ready only right after a frame with the switch off and the sticks
at rest. -/
theorem onChannels_ready {g : ManualInputGuard} {channels : CrsfChannels} {now : ℤ}
    (h : (g.onChannels channels now).state = .ready) :
    channels.saDisabled = true ∧ channels.axesNeutral = true :=
  nextState_ready h

/-- A frame can enable motion only with the switch on, and with the sticks at rest
unless motion was enabled before. -/
theorem onChannels_enabled {g : ManualInputGuard} {channels : CrsfChannels} {now : ℤ}
    (h : (g.onChannels channels now).state = .enabled) : channels.saEnabled = true ∧
      (g.state = .enabled ∨ g.state = .ready ∧ channels.axesNeutral = true) := by
  obtain ⟨henable, hbefore⟩ := nextState_enabled h
  refine ⟨henable, ?_⟩
  rcases hbefore with hstate | ⟨hstate, hneutral⟩
  · exact .inl (state_of_poll hstate (by simp))
  · exact .inr ⟨state_of_poll hstate (by simp), hneutral⟩

end ManualInputGuard

end IndoorRobot
