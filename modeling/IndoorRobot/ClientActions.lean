import IndoorRobot.ClientSteps

/-!
# The client as a sequence of stages

Other parties act between the stages of a poll. A `ClientAction` is one stage with
what follows from its result, the handling of one frame, or the bookkeeping between
them. Every poll is a sequence of actions, and every action a sequence of elementary
steps; whatever the steps preserve holds between any two stages and after every poll.
-/
namespace IndoorRobot

open LabelledRuns

/-- An action of the client. -/
inductive ClientAction where
  | setWheelCommand (command : WheelVelocityCommand)
  | pass (advanceNs calls : ℕ) (decoder : ProtocolFrameDecoder) (transportFailed : Bool)
      (reconnectDeadline : ℤ)
  | checkTimeouts (nowMs : UInt32)
  | retryMotion (nowMs : UInt32)
  | startMotion
  | driveMotion
  | sendHeartbeat (nowMs : UInt32)
  | receive (frame : ProtocolFrame)
  | connect
  | disconnect

/-- The frame an action takes from the port. -/
def ClientAction.input : ClientAction → Option ProtocolFrame
  | .receive frame => some frame
  | _ => none

namespace Stm32ClientRunner

variable (env : ℕ → ClientAnswer)

/-- What `poll` does with the result of a synchronized iteration. -/
def conclude (p : Option Bool × Stm32ClientRunner) : Stm32ClientRunner :=
  if p.1 = some false then p.2.endEpoch env else p.2

/-- A stage of the synchronized iteration. -/
def stage (r : Stm32ClientRunner)
    (body : Stm32ClientRunner → Option Bool × Stm32ClientRunner) : Stm32ClientRunner :=
  if r.state = .synchronized then conclude env (body r) else r

/-- The runner after an action. -/
def act (r : Stm32ClientRunner) : ClientAction → Stm32ClientRunner
  | .setWheelCommand command => r.setWheelCommand env command
  | .pass advanceNs calls decoder transportFailed reconnectDeadline =>
    { r with
      clock := r.clock + advanceNs
      calls := calls
      decoder := decoder
      transportFailed := transportFailed
      reconnectDeadline := reconnectDeadline }
  | .checkTimeouts nowMs => r.stage env (checkTimeouts nowMs)
  | .retryMotion nowMs => r.stage env (retryMotion env nowMs)
  | .startMotion => r.stage env (startMotion env)
  | .driveMotion => r.stage env (driveMotion env)
  | .sendHeartbeat nowMs => r.stage env (sendHeartbeat env nowMs)
  | .receive frame =>
    match r.state with
    | .synchronized => conclude env (handleFrame env frame r)
    | .synchronizing => (handleSyncFrame env frame r).2
    | .disconnected => r
  | .connect => if r.state = .disconnected then (r.beginConnectionEpoch env).2 else r
  | .disconnect => if r.state = .disconnected then r else r.endEpoch env

/-- One action, with the frame it takes. -/
def ActStep (input : Option ProtocolFrame) (r q : Stm32ClientRunner) : Prop :=
  ∃ action : ClientAction, action.input = input ∧ r.act env action = q

/-- A sequence of actions, with the frames they take. -/
abbrev Acts : Stm32ClientRunner → List ProtocolFrame → Stm32ClientRunner → Prop :=
  Run (ActStep env)

variable {env} {r q : Stm32ClientRunner}

theorem conclude_steps {frames : List ProtocolFrame} {p : Option Bool × Stm32ClientRunner}
    (h : r.Steps frames p.2) : r.Steps frames (conclude env p) := by
  rw [conclude]
  split_ifs
  · simpa using h.trans (endEpoch_steps env p.2)
  · exact h

theorem stage_steps {body : Stm32ClientRunner → Option Bool × Stm32ClientRunner}
    (h : r.state = .synchronized → r.Stage (body r)) : r.Steps [] (r.stage env body) := by
  rw [stage]
  split_ifs with hr
  · exact conclude_steps (h hr).steps
  · exact .refl

/-- Every action is a sequence of elementary steps. -/
theorem act_steps (env : ℕ → ClientAnswer) (r : Stm32ClientRunner) (action : ClientAction) :
    r.Steps action.input.toList (r.act env action) := by
  cases action with
  | setWheelCommand command => exact setWheelCommand_steps env command r
  | pass advanceNs calls decoder transportFailed reconnectDeadline =>
    exact Steps.idle ⟨rfl, rfl, rfl, .refl _, .inr ⟨rfl, rfl⟩, by simp [act]⟩
  | checkTimeouts nowMs => exact stage_steps fun _ => checkTimeouts_stage nowMs
  | retryMotion nowMs => exact stage_steps (retryMotion_stage env nowMs)
  | startMotion => exact stage_steps (startMotion_stage env)
  | driveMotion => exact stage_steps (driveMotion_stage env)
  | sendHeartbeat nowMs => exact stage_steps (sendHeartbeat_stage env nowMs)
  | receive frame =>
    cases hr : r.state with
    | synchronized =>
      simpa [ClientAction.input, act, hr] using conclude_steps ((handleFrame_handles env).steps frame r hr)
    | synchronizing => simpa [ClientAction.input, act, hr] using (handleSyncFrame_handles env).steps frame r hr
    | disconnected => simpa [ClientAction.input, act, hr] using Steps.ignore frame (.refl r)
  | connect =>
    rw [act]
    split_ifs with hr
    · exact beginConnectionEpoch_steps env r hr
    · exact .refl
  | disconnect =>
    rw [act]
    split_ifs
    · exact .refl
    · exact endEpoch_steps env r

theorem Acts.steps {frames : List ProtocolFrame} (h : Acts env r frames q) : r.Steps frames q :=
  h.lift fun _ r _ ⟨action, hinput, hact⟩ => by
    rw [← hinput, ← hact]
    exact act_steps env r action

theorem Acts.single (action : ClientAction) (h : action.input = none) :
    Acts env r [] (r.act env action) :=
  Run.single ⟨action, h, rfl⟩

theorem act_disconnect (h : r.state ≠ .disconnected) :
    r.act env .disconnect = r.endEpoch env :=
  if_neg h

theorem Acts.take (f : ProtocolFrame) : Acts env r [f] (r.act env (.receive f)) :=
  Run.take ⟨.receive f, rfl, rfl⟩

/-- Bookkeeping only. -/
theorem Acts.pass (advanceNs calls : ℕ) (decoder : ProtocolFrameDecoder) (transportFailed : Bool)
    (reconnectDeadline : ℤ) : Acts env r []
      { r with
        clock := r.clock + advanceNs
        calls := calls
        decoder := decoder
        transportFailed := transportFailed
        reconnectDeadline := reconnectDeadline } :=
  Acts.single (.pass advanceNs calls decoder transportFailed reconnectDeadline) rfl

/-- The next stage of an iteration. -/
theorem Acts.andThen {p : Option Bool × Stm32ClientRunner} {frames : List ProtocolFrame}
    {body : Stm32ClientRunner → Option Bool × Stm32ClientRunner}
    (h : Acts env r frames (conclude env p)) (hstate : p.2.state = .synchronized)
    (hbody : ∀ q : Stm32ClientRunner, q.state = .synchronized →
      ∃ more, Acts env q more (conclude env (body q))) :
    ∃ frames, Acts env r frames (conclude env (Stm32ClientRunner.andThen p body)) := by
  obtain ⟨flow, q⟩ := p
  cases flow with
  | some result => exact ⟨frames, h⟩
  | none =>
    obtain ⟨more, hmore⟩ := hbody q hstate
    exact ⟨frames ++ more, Run.trans h hmore⟩

/-- How `poll` ends an iteration in a given state. -/
structure Finishes (env : ℕ → ClientAnswer) (state : ClientState)
    (handler : ProtocolFrame → Stm32ClientRunner → Option Bool × Stm32ClientRunner)
    (finish : Option Bool × Stm32ClientRunner → Stm32ClientRunner) : Prop where
  connected : state ≠ .disconnected
  handles : Handles state handler
  goesOn : ∀ r, finish (none, r) = r
  kept : ∀ r, finish (some true, r) = r
  lost : ∀ r : Stm32ClientRunner, r.state = state → finish (some false, r) = r.endEpoch env
  act : ∀ (f : ProtocolFrame) (r : Stm32ClientRunner), r.state = state →
    r.act env (.receive f) = finish (handler f r)

section Finishing
variable {state : ClientState}
  {handler : ProtocolFrame → Stm32ClientRunner → Option Bool × Stm32ClientRunner}
  {finish : Option Bool × Stm32ClientRunner → Stm32ClientRunner}

/-- The byte loop takes the frames its decoder reports, up to the one that ends it. -/
theorem feedBytes_acts (h : Finishes env state handler finish) (bytes : List UInt8)
    (r : Stm32ClientRunner) (hr : r.state = state) :
    ∃ frames, frames <+: (r.decoder.feedBytes bytes).1.filterMap id ∧
      Acts env r frames (finish (feedBytes handler r bytes)) := by
  induction bytes generalizing r with
  | nil => exact ⟨[], List.nil_prefix, by simpa [feedBytes, h.goesOn] using Run.refl⟩
  | cons byte rest ih =>
    rw [ProtocolFrameDecoder.feedBytes_cons]
    rw [feedBytes]
    generalize r.decoder.feedByte byte = fed
    obtain ⟨reported, decoder⟩ := fed
    have hfed : Acts env r [] { r with decoder := decoder } := by
      simpa using Acts.pass (r := r) 0 r.calls decoder r.transportFailed r.reconnectDeadline
    cases reported with
    | none =>
      obtain ⟨frames, hframes, hacts⟩ := ih { r with decoder := decoder } hr
      exact ⟨frames, hframes, hfed.trans hacts⟩
    | some f =>
      have htaken := hfed.trans (Acts.take f)
      rw [h.act f { r with decoder := decoder } hr] at htaken
      have hdecoder := h.handles.decoder f { r with decoder := decoder }
      have hstate := h.handles.state f { r with decoder := decoder } hr
      dsimp only
      generalize handler f { r with decoder := decoder } = handled at htaken hdecoder hstate ⊢
      obtain ⟨flow, q⟩ := handled
      cases flow with
      | some result => exact ⟨[f], by simp, htaken⟩
      | none =>
        obtain ⟨frames, hframes, hacts⟩ := ih q (hstate rfl)
        rw [show q.decoder = decoder from hdecoder] at hframes
        rw [h.goesOn] at htaken
        refine ⟨f :: frames, ?_, htaken.trans hacts⟩
        simpa using (List.prefix_cons_inj f).mpr hframes

/-- A lost transport ends the epoch. -/
theorem Acts.lost (h : Finishes env state handler finish) (r : Stm32ClientRunner)
    (hr : r.state = state) (calls : ℕ) :
    Acts env r [] (finish (transportLost { r with calls := calls })) := by
  have hpass : Acts env r [] { r with calls := calls, transportFailed := true } := by
    simpa using Acts.pass (r := r) 0 calls r.decoder true r.reconnectDeadline
  have hlost := hpass.trans (Acts.single .disconnect rfl)
  rw [act_disconnect (hr ▸ h.connected)] at hlost
  have hfinish : finish (transportLost { r with calls := calls }) =
      endEpoch env { r with calls := calls, transportFailed := true } :=
    h.lost { r with calls := calls, transportFailed := true } hr
  rw [hfinish]
  exact hlost

theorem receive_acts (h : Finishes env state handler finish) (r : Stm32ClientRunner)
    (hr : r.state = state) : ∃ frames, Acts env r frames (finish (r.receive env handler)) := by
  have hpass (calls : ℕ) : Acts env r [] { r with calls := calls } := by
    simpa using Acts.pass (r := r) 0 calls r.decoder r.transportFailed r.reconnectDeadline
  simp only [receive]
  split_ifs
  · exact ⟨[], .lost h r hr _⟩
  · split
    · exact ⟨[], .lost h r hr _⟩
    · rename_i bytes _
      obtain ⟨frames, -, hacts⟩ := feedBytes_acts h bytes { r with calls := r.calls + 1 + 1 } hr
      exact ⟨frames, (hpass _).trans hacts⟩
  · exact ⟨[], by rw [h.kept]; exact hpass _⟩

end Finishing

theorem conclude_finishes : Finishes env .synchronized (handleFrame env) (conclude env) where
  connected := by simp
  handles := handleFrame_handles env
  goesOn _ := rfl
  kept _ := rfl
  lost _ _ := rfl
  act f r hr := by simp [act, hr]

/-- What `poll` does with the result of a synchronizing iteration. -/
def concludeSync (env : ℕ → ClientAnswer) (p : Option Bool × Stm32ClientRunner) :
    Stm32ClientRunner :=
  if p.1 = some false ∧ p.2.state ≠ .synchronized then p.2.endEpoch env else p.2

theorem concludeSync_finishes :
    Finishes env .synchronizing (handleSyncFrame env) (concludeSync env) where
  connected := by simp
  handles := handleSyncFrame_handles env
  goesOn _ := rfl
  kept _ := rfl
  lost r hr := by simp [concludeSync, hr]
  act f r hr := by
    have hflow : (handleSyncFrame env f r).1 = some false →
        (handleSyncFrame env f r).2.state = .synchronized := by
      simp only [handleSyncFrame]
      split_ifs
      · intro _
        rfl
      · simp
    rw [concludeSync, if_neg fun h => h.2 (hflow h.1)]
    simp [act, hr]

theorem stage_acts (action : ClientAction) (hinput : action.input = none)
    {body : Stm32ClientRunner → Option Bool × Stm32ClientRunner}
    (hact : ∀ q : Stm32ClientRunner, q.act env action = q.stage env body) (q : Stm32ClientRunner)
    (hq : q.state = .synchronized) : Acts env q [] (conclude env (body q)) := by
  have h : Acts env q [] (q.act env action) := .single action hinput
  rw [hact, stage, if_pos hq] at h
  exact h

theorem now_acts : Acts env r [] (r.now env).2 :=
  .pass (env r.calls).advanceNs (r.calls + 1) r.decoder r.transportFailed r.reconnectDeadline

theorem runSynchronizedIteration_acts (r : Stm32ClientRunner) (hr : r.state = .synchronized) :
    ∃ frames, Acts env r frames (if (r.runSynchronizedIteration env).1 then
      (r.runSynchronizedIteration env).2 else (r.runSynchronizedIteration env).2.endEpoch env) := by
  have hconclude (p : Option Bool × Stm32ClientRunner) :
      (if p.1.getD true then p.2 else p.2.endEpoch env) = conclude env p := by
    obtain ⟨_ | _ | _, q⟩ := p <;> rfl
  have htime : Acts env r [] (r.currentMs env).2 := now_acts
  have hq : (r.currentMs env).2.state = .synchronized := hr
  rw [runSynchronizedIteration]
  rw [hconclude]
  generalize r.currentMs env = timed at htime hq ⊢
  obtain ⟨nowMs, q⟩ := timed
  have hcheck := checkTimeouts_stage (r := q) nowMs
  have hretry := hcheck.andThen fun p hp => retryMotion_stage env nowMs (hp.trans hq)
  have hstart := hretry.andThen fun p hp => startMotion_stage env (hp.trans hq)
  have hdrive := hstart.andThen fun p hp => driveMotion_stage env (hp.trans hq)
  have hbeat := hdrive.andThen fun p hp => sendHeartbeat_stage env nowMs (hp.trans hq)
  have h₁ : Acts env q [] (conclude env (q.checkTimeouts nowMs)) :=
    stage_acts (.checkTimeouts nowMs) rfl (fun _ => rfl) q hq
  obtain ⟨_, h₂⟩ := h₁.andThen (hcheck.state.trans hq) fun p hp =>
    ⟨_, stage_acts (.retryMotion nowMs) rfl (fun _ => rfl) p hp⟩
  obtain ⟨_, h₃⟩ := h₂.andThen (hretry.state.trans hq) fun p hp =>
    ⟨_, stage_acts .startMotion rfl (fun _ => rfl) p hp⟩
  obtain ⟨_, h₄⟩ := h₃.andThen (hstart.state.trans hq) fun p hp =>
    ⟨_, stage_acts .driveMotion rfl (fun _ => rfl) p hp⟩
  obtain ⟨_, h₅⟩ := h₄.andThen (hdrive.state.trans hq) fun p hp =>
    ⟨_, stage_acts (.sendHeartbeat nowMs) rfl (fun _ => rfl) p hp⟩
  obtain ⟨_, h₆⟩ := h₅.andThen (hbeat.state.trans hq) fun p hp => receive_acts conclude_finishes p hp
  exact ⟨_, htime.trans h₆⟩

theorem runSynchronizingIteration_acts (r : Stm32ClientRunner) (hr : r.state = .synchronizing) :
    ∃ frames, Acts env r frames (if (r.runSynchronizingIteration env).1 then
      (r.runSynchronizingIteration env).2 else
        if (r.runSynchronizingIteration env).2.state = .synchronized then
          (r.runSynchronizingIteration env).2
        else (r.runSynchronizingIteration env).2.endEpoch env) := by
  have hconclude (p : Option Bool × Stm32ClientRunner) :
      (if p.1.getD true then p.2 else
        if p.2.state = .synchronized then p.2 else p.2.endEpoch env) = concludeSync env p := by
    obtain ⟨_ | _ | _, q⟩ := p
    · rfl
    · simp [concludeSync]
    · rfl
  have htime : Acts env r [] (r.now env).2 := now_acts
  have hq : (r.now env).2.state = .synchronizing := hr
  rw [runSynchronizingIteration]
  generalize r.now env = timed at htime hq ⊢
  obtain ⟨time, q⟩ := timed
  dsimp only at htime hq ⊢
  by_cases hdeadline : time ≥ q.syncDeadline
  · have hlost := htime.trans (Acts.single .disconnect rfl)
    rw [act_disconnect (by simp [hq])] at hlost
    refine ⟨[], ?_⟩
    simpa [hdeadline, hq] using hlost
  · obtain ⟨frames, hacts⟩ := receive_acts concludeSync_finishes q hq
    simp only [hdeadline, if_false]
    rw [hconclude]
    exact ⟨_, htime.trans hacts⟩

/-- A poll is a sequence of actions. -/
theorem poll_acts (env : ℕ → ClientAnswer) (r : Stm32ClientRunner) :
    ∃ frames, Acts env r frames (r.poll env) := by
  rw [poll]
  cases hr : r.state with
  | synchronized => exact runSynchronizedIteration_acts r hr
  | synchronizing => exact runSynchronizingIteration_acts r hr
  | disconnected =>
    have htime : Acts env r [] (r.now env).2 := now_acts
    have hq : (r.now env).2.state = .disconnected := hr
    generalize r.now env = timed at htime hq ⊢
    obtain ⟨time, q⟩ := timed
    dsimp only at htime hq ⊢
    split_ifs
    · exact ⟨_, htime⟩
    · have hready : Acts env q [] { q with reconnectDeadline := 0, transportFailed := false } := by
        simpa using Acts.pass (r := q) 0 q.calls q.decoder false 0
      have hconnect := (htime.trans hready).trans (Acts.single .connect rfl)
      rw [act, if_pos hq] at hconnect
      exact ⟨_, hconnect⟩

theorem poll_steps (env : ℕ → ClientAnswer) (r : Stm32ClientRunner) :
    ∃ frames, r.Steps frames (r.poll env) := by
  obtain ⟨frames, hacts⟩ := poll_acts env r
  exact ⟨frames, hacts.steps⟩

end Stm32ClientRunner

end IndoorRobot
