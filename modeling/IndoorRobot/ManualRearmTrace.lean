import IndoorRobot.ManualInputGuard
import IndoorRobot.SuffixPatterns
import Mathlib.Data.List.Induction

/-!
# The enable guard and the history of its frames

The guard keeps three states and one time stamp, and it notices a missing frame only when
it is asked or when the next frame comes. Motion is nevertheless permitted exactly if the
frames since the last reset end in a re-arming sequence without a gap: the switch off and
the sticks at rest, the switch on with the sticks still at rest, then the switch left on.
-/
namespace IndoorRobot

open SuffixPatterns

/-- A frame of channels and the time it was handed to the guard. -/
structure ChannelFrame where
  channels : CrsfChannels
  time : ℤ

namespace ChannelFrame

/-- The switch is off and both sticks are at rest. -/
def Disarmed (f : ChannelFrame) : Prop :=
  f.channels.enable ≤ 400 ∧ f.channels.axesNeutral = true

/-- The switch is on. -/
def Enabling (f : ChannelFrame) : Prop := 1600 ≤ f.channels.enable

/-- The switch is on and both sticks are at rest. -/
def Arming (f : ChannelFrame) : Prop := f.Enabling ∧ f.channels.axesNeutral = true

/-- The second frame comes within 200 ms of the first. -/
def Prompt (f g : ChannelFrame) : Prop := g.time - f.time < 200 * 1000000

end ChannelFrame

namespace ManualInputGuard

inductive Call where
  | onChannels (channels : CrsfChannels) (now : ℤ)
  | poll (now : ℤ)
  | reset

/-- The time a call is made at; a reset does not ask for it. -/
def Call.time : Call → Option ℤ
  | .onChannels _ now => some now
  | .poll now => some now
  | .reset => none

def call (g : ManualInputGuard) : Call → ManualInputGuard
  | .onChannels channels now => g.onChannels channels now
  | .poll now => (g.poll now).2
  | .reset => g.reset

/-- The guard after calls made since it was constructed. -/
def run (calls : List Call) : ManualInputGuard := calls.foldl call {}

/-- The frames after one more call. -/
def nextFrames (frames : List ChannelFrame) : Call → List ChannelFrame
  | .onChannels channels now => frames ++ [⟨channels, now⟩]
  | .poll _ => frames
  | .reset => []

/-- The frames handed to the guard since the last reset. -/
def framesSinceReset (calls : List Call) : List ChannelFrame := calls.foldl nextFrames []

/-- The frames end in a re-arming sequence. -/
def Rearmed (frames : List ChannelFrame) : Prop :=
  EndsIn ChannelFrame.Disarmed ChannelFrame.Arming ChannelFrame.Enabling ChannelFrame.Prompt frames

/-- The last of the frames came less than 200 ms before `now`. -/
def Fresh (frames : List ChannelFrame) (now : ℤ) : Prop :=
  ∃ earlier last, frames = earlier ++ [last] ∧ now - last.time < 200 * 1000000

/-- What the guard remembers of the frames, as long as the last one is fresh. -/
structure Follows (g : ManualInputGuard) (frames : List ChannelFrame) (now : ℤ) : Prop where
  empty : frames = [] → g = {}
  last : ∀ earlier last, frames = earlier ++ [last] →
    g.hasChannels = true ∧ g.lastChannelsAt = last.time
  enabled : Fresh frames now → (g.state = .enabled ↔ Rearmed frames)
  ready : ∀ earlier last, frames = earlier ++ [last] → now - last.time < 200 * 1000000 →
    (g.state = .ready ↔ last.Disarmed)

variable {g : ManualInputGuard} {frames : List ChannelFrame} {now later : ℤ}

theorem saDisabled_iff (c : CrsfChannels) : c.saDisabled = true ↔ c.enable ≤ 400 := by
  rw [CrsfChannels.saDisabled, CrsfChannels.enableLowMax, decide_eq_true_iff]

theorem saEnabled_iff (c : CrsfChannels) : c.saEnabled = true ↔ 1600 ≤ c.enable := by
  rw [CrsfChannels.saEnabled, CrsfChannels.enableHighMin, decide_eq_true_iff]

theorem not_enabled_of_disabled {c : CrsfChannels} (h : c.saDisabled = true) :
    c.saEnabled = false := by
  have hlow := UInt16.le_iff_toNat_le.mp ((saDisabled_iff c).mp h)
  have hhigh : ¬ 1600 ≤ c.enable := by
    rw [UInt16.le_iff_toNat_le]
    simp at hlow ⊢
    omega
  simpa [← saEnabled_iff] using hhigh

/-- The switch of the source, read backwards: the guard is ready exactly after a disarmed frame. -/
theorem nextState_ready_iff (state : ManualInputState) (f : ChannelFrame) :
    nextState state f.channels = .ready ↔ f.Disarmed := by
  rw [ChannelFrame.Disarmed, ← saDisabled_iff]
  constructor
  · exact nextState_ready
  · rintro ⟨hdisabled, hneutral⟩
    have hoff := not_enabled_of_disabled hdisabled
    cases state <;> simp [nextState, hdisabled, hneutral, hoff]

theorem nextState_enabled_iff (state : ManualInputState) (f : ChannelFrame) :
    nextState state f.channels = .enabled ↔
      state = .enabled ∧ f.Enabling ∨ state = .ready ∧ f.Arming := by
  rw [ChannelFrame.Arming, ChannelFrame.Enabling, ← saEnabled_iff]
  constructor
  · intro h
    obtain ⟨henable, hstate | ⟨hstate, hneutral⟩⟩ := nextState_enabled h
    · exact .inl ⟨hstate, henable⟩
    · exact .inr ⟨hstate, henable, hneutral⟩
  · rintro (⟨rfl, henable⟩ | ⟨rfl, henable, hneutral⟩)
    · simp [nextState, henable]
    · simp [nextState, henable, hneutral]

theorem Follows.mono (h : g.Follows frames now) (hle : now ≤ later) : g.Follows frames later where
  empty := h.empty
  last := h.last
  enabled := by
    rintro ⟨earlier, last, hsplit, hfresh⟩
    exact h.enabled ⟨earlier, last, hsplit, by omega⟩
  ready := by
    intro earlier last hsplit hfresh
    exact h.ready earlier last hsplit (by omega)

/-- Asking changes nothing while the last frame is fresh. -/
theorem Follows.poll_eq (h : g.Follows frames now) (hfresh : Fresh frames now) :
    g.poll now = (decide (g.state = .enabled), g) := by
  obtain ⟨earlier, last, hsplit, hrecent⟩ := hfresh
  obtain ⟨hchannels, hlast⟩ := h.last earlier last hsplit
  have hearly : ¬ now - g.lastChannelsAt ≥ timeout := by
    rw [hlast, timeout]
    omega
  simp only [ManualInputGuard.poll, hchannels, not_true, if_false, if_neg hearly]

/-- Asking after the last frame has become stale takes the permission away. -/
theorem Follows.poll_stale (h : g.Follows frames now) (hstale : ¬ Fresh frames now) :
    g.poll now = (false, { g with state := .needsRearm }) := by
  rcases List.eq_nil_or_concat' frames with hnil | ⟨earlier, last, hsplit⟩
  · rw [h.empty hnil]
    rfl
  · obtain ⟨hchannels, hlast⟩ := h.last earlier last hsplit
    have hlate : now - g.lastChannelsAt ≥ timeout := by
      by_contra hearly
      refine hstale ⟨earlier, last, hsplit, ?_⟩
      rw [hlast, timeout] at hearly
      omega
    simp only [ManualInputGuard.poll, hchannels, not_true, if_false, if_pos hlate, reduceCtorEq,
      decide_false]

theorem Follows.poll (h : g.Follows frames now) : (g.poll now).2.Follows frames now := by
  by_cases hfresh : Fresh frames now
  · rw [h.poll_eq hfresh]
    exact h
  · rw [h.poll_stale hfresh]
    refine ⟨?_, h.last, fun hf => absurd hf hfresh, ?_⟩
    · intro hnil
      rw [h.empty hnil]
    · intro earlier last hsplit hrecent
      exact absurd ⟨earlier, last, hsplit, hrecent⟩ hfresh

/-- The state in which the next frame finds the guard. -/
theorem Follows.state_of_poll (h : g.Follows frames now) :
    ((g.poll now).2.state = .enabled ↔ Fresh frames now ∧ Rearmed frames) ∧
      ((g.poll now).2.state = .ready ↔
        ∃ earlier last, frames = earlier ++ [last] ∧ now - last.time < 200 * 1000000 ∧
          last.Disarmed) := by
  by_cases hfresh : Fresh frames now
  · rw [h.poll_eq hfresh]
    constructor
    · rw [h.enabled hfresh, and_iff_right hfresh]
    · obtain ⟨earlier, last, hsplit, hrecent⟩ := hfresh
      rw [h.ready earlier last hsplit hrecent]
      constructor
      · intro hdisarmed
        exact ⟨earlier, last, hsplit, hrecent, hdisarmed⟩
      · rintro ⟨earlier', last', hsplit', -, hdisarmed⟩
        rw [hsplit] at hsplit'
        obtain ⟨-, hlast⟩ := List.append_inj' hsplit' rfl
        cases hlast
        exact hdisarmed
  · rw [h.poll_stale hfresh]
    constructor
    · simp [hfresh]
    · simp only [reduceCtorEq, false_iff]
      rintro ⟨earlier, last, hsplit, hrecent, -⟩
      exact hfresh ⟨earlier, last, hsplit, hrecent⟩

/-- The sequence after one more frame. -/
theorem rearmed_concat_iff (frames : List ChannelFrame) (f : ChannelFrame) :
    Rearmed (frames ++ [f]) ↔
      Fresh frames f.time ∧ Rearmed frames ∧ f.Enabling ∨
        (∃ earlier last, frames = earlier ++ [last] ∧ f.time - last.time < 200 * 1000000 ∧
          last.Disarmed) ∧ f.Arming := by
  rcases List.eq_nil_or_concat' frames with rfl | ⟨earlier, last, rfl⟩
  · simp [Rearmed, Fresh, not_endsIn_singleton]
  · rw [Rearmed, endsIn_concat_iff]
    constructor
    · rintro ⟨hprompt, ⟨hrearmed, henabling⟩ | ⟨hdisarmed, harming⟩⟩
      · exact .inl ⟨⟨earlier, last, rfl, hprompt⟩, hrearmed, henabling⟩
      · exact .inr ⟨⟨earlier, last, rfl, hprompt, hdisarmed⟩, harming⟩
    · rintro (⟨⟨earlier', last', hsplit, hprompt⟩, hrearmed, henabling⟩ |
        ⟨⟨earlier', last', hsplit, hprompt, hdisarmed⟩, harming⟩)
      · obtain ⟨-, hlast⟩ := List.append_inj' hsplit rfl
        cases hlast
        exact ⟨hprompt, .inl ⟨hrearmed, henabling⟩⟩
      · obtain ⟨-, hlast⟩ := List.append_inj' hsplit rfl
        cases hlast
        exact ⟨hprompt, .inr ⟨hdisarmed, harming⟩⟩

theorem Follows.onChannels (h : g.Follows frames now) (channels : CrsfChannels) :
    (g.onChannels channels now).Follows (frames ++ [⟨channels, now⟩]) now := by
  obtain ⟨henabled, hready⟩ := h.state_of_poll
  refine ⟨by simp, ?_, ?_, ?_⟩
  · intro earlier last hsplit
    obtain ⟨-, hlast⟩ := List.append_inj' hsplit rfl
    cases hlast
    exact ⟨rfl, rfl⟩
  · intro _
    rw [rearmed_concat_iff, ← hready, ← and_assoc, ← henabled]
    exact nextState_enabled_iff _ ⟨channels, now⟩
  · intro earlier last hsplit _
    obtain ⟨-, hlast⟩ := List.append_inj' hsplit rfl
    cases hlast
    exact nextState_ready_iff _ ⟨channels, now⟩

/-- The times of the calls, in their order. -/
def times (calls : List Call) : List ℤ := calls.filterMap Call.time

theorem run_concat (calls : List Call) (c : Call) : run (calls ++ [c]) = (run calls).call c := by
  simp [run]

theorem framesSinceReset_concat (calls : List Call) (c : Call) :
    framesSinceReset (calls ++ [c]) = nextFrames (framesSinceReset calls) c := by
  simp [framesSinceReset]

theorem follows_empty (now : ℤ) : ({} : ManualInputGuard).Follows [] now := by
  refine ⟨fun _ => rfl, ?_, ?_, ?_⟩
  · intro earlier last hsplit
    simp at hsplit
  · rintro ⟨earlier, last, hsplit, -⟩
    simp at hsplit
  · intro earlier last hsplit
    simp at hsplit

/-- The last call was made in order, and not after `now`. -/
theorem forward_concat {calls : List Call} {c : Call} {time now : ℤ} (hc : c.time = some time)
    (h : (times (calls ++ [c]) ++ [now]).Pairwise (· ≤ ·)) :
    (times calls ++ [time]).Pairwise (· ≤ ·) ∧ time ≤ now := by
  have htimes : times (calls ++ [c]) = times calls ++ [time] := by simp [times, hc]
  rw [htimes, List.pairwise_append] at h
  exact ⟨h.1, h.2.2 time (by simp) now (by simp)⟩

/-- The guard follows its frames up to any time that is not before one of its calls. -/
theorem run_follows (calls : List Call) (now : ℤ)
    (hforward : (times calls ++ [now]).Pairwise (· ≤ ·)) :
    (run calls).Follows (framesSinceReset calls) now := by
  induction calls using List.reverseRecOn generalizing now with
  | nil => exact follows_empty now
  | append_singleton calls c ih =>
    rw [run_concat, framesSinceReset_concat]
    cases c with
    | reset => exact follows_empty now
    | poll time =>
      obtain ⟨hbefore, hle⟩ := forward_concat rfl hforward
      exact (ih time hbefore).poll.mono hle
    | onChannels channels time =>
      obtain ⟨hbefore, hle⟩ := forward_concat rfl hforward
      exact ((ih time hbefore).onChannels channels).mono hle

/-- Motion is permitted exactly if the frames since the last reset end in a re-arming sequence
whose last frame is fresh. -/
theorem permission_is_rearm_trace (calls : List Call) (now : ℤ)
    (hforward : (times calls ++ [now]).Pairwise (· ≤ ·)) :
    ((run calls).poll now).1 = true ↔
      ∃ earlier off on rest last, framesSinceReset calls = earlier ++ off :: on :: rest ∧
        off.Disarmed ∧ on.Arming ∧ (∀ f ∈ rest, f.Enabling) ∧
        (off :: on :: rest).IsChain ChannelFrame.Prompt ∧
        (off :: on :: rest).getLast? = some last ∧ now - last.time < 200 * 1000000 := by
  have hfollows := run_follows calls now hforward
  have hpermitted : ((run calls).poll now).1 = true ↔
      Fresh (framesSinceReset calls) now ∧ Rearmed (framesSinceReset calls) := by
    by_cases hfresh : Fresh (framesSinceReset calls) now
    · rw [hfollows.poll_eq hfresh, decide_eq_true_iff, hfollows.enabled hfresh,
        and_iff_right hfresh]
    · simp [hfollows.poll_stale hfresh, hfresh]
  rw [hpermitted]
  constructor
  · rintro ⟨⟨before, last, hends, hrecent⟩, earlier, off, on, rest, hsplit, hoff, hon, hrest, hchain⟩
    refine ⟨earlier, off, on, rest, last, hsplit, hoff, hon, hrest, hchain, ?_, hrecent⟩
    have hlast := congrArg List.getLast? (hsplit.symm.trans hends)
    simpa using hlast
  · rintro ⟨earlier, off, on, rest, last, hsplit, hoff, hon, hrest, hchain, hlast, hrecent⟩
    refine ⟨?_, earlier, off, on, rest, hsplit, hoff, hon, hrest, hchain⟩
    obtain ⟨before, hends⟩ := List.getLast?_eq_some_iff.mp hlast
    exact ⟨earlier ++ before, last, by rw [hsplit, hends, List.append_assoc], hrecent⟩

/-- Sixteen channels with the sticks at rest and the given position of the switch. -/
def restingChannels (enable : UInt16) : CrsfChannels :=
  { values := #v[992, 992, 0, 0, enable, 0, 0, 0, 0, 0, 0, 0, 0, 0, 0, 0] }

/-- The switch goes on 50 ms after it was seen off; 100 ms later motion is still permitted. -/
theorem permission_is_rearm_trace_switched_on :
    let calls := [Call.onChannels (restingChannels 200) 0,
      Call.onChannels (restingChannels 1800) 50000000]
    (times calls ++ [150000000]).Pairwise (· ≤ ·) ∧
      ((run calls).poll 150000000).1 = true := by
  intro calls
  have hforward : (times calls ++ [150000000]).Pairwise (· ≤ ·) := by decide
  refine ⟨hforward, (permission_is_rearm_trace calls 150000000 hforward).mpr ?_⟩
  refine ⟨[], ⟨restingChannels 200, 0⟩, ⟨restingChannels 1800, 50000000⟩, [],
    ⟨restingChannels 1800, 50000000⟩, rfl, ⟨by decide, by decide⟩, ⟨?_, by decide⟩,
    by simp, ?_, rfl, by decide⟩
  · show (1600 : UInt16) ≤ (restingChannels 1800).enable
    decide
  · simp [ChannelFrame.Prompt]

end ManualInputGuard

end IndoorRobot
