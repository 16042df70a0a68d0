import IndoorRobot.ClientRunner
import IndoorRobot.LabelledRuns

/-!
# What a stage of the client can do

Every stage of a poll is a sequence of a few elementary steps: nothing observable
but time, a frame handed to the port, a frame taken from it, a new epoch, the end of
one. A step is labelled with the frame it takes, if any. Invariants of the client
are proved for the elementary steps.
-/
namespace IndoorRobot

open LabelledRuns MotionLifecycleCommandType MotionResponseResult

namespace Stm32ClientRunner

/-- Nothing but clocks, timers and buffers differs, and at most the demand is gone. -/
structure Idle (r q : Stm32ClientRunner) : Prop where
  log : q.log = r.log
  state : q.state = r.state
  syncToken : q.linkSession.pendingSyncToken = r.linkSession.pendingSyncToken
  session : r.motionSession.SameLifecycle q.motionSession
  demand : q.latestWheelCommand = none ∨
    q.latestWheelCommand = r.latestWheelCommand ∧
      q.latestWheelCommandTime = r.latestWheelCommandTime
  clock : r.clock ≤ q.clock

theorem Idle.refl (r : Stm32ClientRunner) : r.Idle r :=
  ⟨rfl, rfl, rfl, .refl _, .inr ⟨rfl, rfl⟩, le_rfl⟩

/-- The runner once LINK_SYNC has been sent. -/
def connect (r : Stm32ClientRunner) (syncToken : UInt64) (decidedAt : ℤ) : Stm32ClientRunner :=
  { r.clearEpoch.emit
      (.sent (Stm32LinkSession.linkSyncFrame r.linkSession.nextSequence syncToken) decidedAt) with
    linkSession := (r.linkSession.disconnect.beginSynchronization syncToken).2
    state := .synchronizing }

/-- The elementary steps of the client. -/
inductive Step : Option ProtocolFrame → Stm32ClientRunner → Stm32ClientRunner → Prop
  | idle {r q : Stm32ClientRunner} (h : r.Idle q) : Step none r q
  | command (r : Stm32ClientRunner) (c : WheelVelocityCommand) :
      Step none r { r.emit (.wheelCommand c r.clock) with
        latestWheelCommand := some c
        latestWheelCommandTime := r.clock }
  | retry (r : Stm32ClientRunner) (time : ℤ) (hstate : r.state = .synchronized)
      (hpending : r.motionSession.transactionPending = true) :
      Step none r (r.emit (.sent r.motionSession.pendingFrame time))
  | start (r : Stm32ClientRunner) (sessionId : UInt32) (f : ProtocolFrame)
      (hstate : r.state = .synchronized) (hinactive : r.motionSession.state = .inactive)
      (h : (r.motionSession.beginStartSession sessionId).1 = some f) (time : ℤ) :
      Step none r { (r.emit (.startBegun sessionId)).emit (.sent f time) with
        motionSession := (r.motionSession.beginStartSession sessionId).2 }
  | wheel (r : Stm32ClientRunner) (sequence : UInt16) (c : WheelVelocityCommand)
      (hstate : r.state = .synchronized) (hactive : r.motionSession.state = .active)
      (hcommand : r.latestWheelCommand = some c)
      (hfresh : r.clock - r.latestWheelCommandTime < wheelCommandFreshness)
      (hzero : isZeroWheelCommand c = false) :
      Step none r (r.emit (.sent (Stm32MotionSession.wheelVelocityFrame sequence
        { motionSessionId := r.motionSession.activeSessionId, command := c }) r.clock))
  | finish (r : Stm32ClientRunner) (sessionId : UInt32) (f : ProtocolFrame)
      (hstate : r.state = .synchronized)
      (h : (r.motionSession.beginEndSession sessionId).1 = some f) (time : ℤ) :
      Step none r { (r.emit (.endBegun sessionId)).emit (.sent f time) with
        motionSession := (r.motionSession.beginEndSession sessionId).2 }
  | heartbeat (r : Stm32ClientRunner) (sequence : UInt16) (nowMs : UInt32) (time : ℤ)
      (hstate : r.state = .synchronized) :
      Step none r (r.emit (.sent (Stm32LinkSession.clientHeartbeatFrame sequence nowMs) time))
  | ignored (r : Stm32ClientRunner) (f : ProtocolFrame) : Step (some f) r r
  | answered (r : Stm32ClientRunner) (f : ProtocolFrame) (result : MotionResponseResult)
      (hstate : r.state = .synchronized) (h : r.motionSession.Answers f result) :
      Step (some f) r { r.emit (.responseAccepted r.motionSession.pendingCommand
          r.motionSession.pendingSessionId result) with
        motionSession := r.motionSession.settle result }
  | synchronized (r : Stm32ClientRunner) (f : ProtocolFrame) (link : Stm32LinkSession)
      (hstate : r.state = .synchronizing) (htype : f.messageType = .linkSyncOk)
      (htoken : (linkSyncDecode f.payload.bytes).syncToken = r.linkSession.pendingSyncToken) :
      Step (some f) r { r with linkSession := link, state := .synchronized }
  | connect (r : Stm32ClientRunner) (syncToken : UInt64) (time : ℤ)
      (hstate : r.state = .disconnected) : Step none r (r.connect syncToken time)
  | close (r : Stm32ClientRunner) : Step none r r.disconnectCurrentEpoch

/-- A sequence of steps, with the frames it takes in their order. -/
abbrev Steps : Stm32ClientRunner → List ProtocolFrame → Stm32ClientRunner → Prop := Run Step

theorem Steps.idle {r q : Stm32ClientRunner} (h : r.Idle q) : r.Steps [] q := .single (.idle h)

/-- A frame that no session takes note of. -/
theorem Steps.ignore {r q : Stm32ClientRunner} (f : ProtocolFrame) (h : r.Idle q) : r.Steps [f] q :=
  (Run.take (.ignored r f)).trans (Steps.idle h)

section Stages
variable (env : ℕ → ClientAnswer) (r : Stm32ClientRunner)

theorem now_idle : r.Idle (r.now env).2 :=
  ⟨rfl, rfl, rfl, .refl _, .inr ⟨rfl, rfl⟩, by simp [now]⟩

theorem transmitPending_idle (f : ProtocolFrame) (time : ℤ) :
    (r.emit (.sent f time)).Idle (r.transmitPending env f time).2 := by
  rw [transmitPending]
  dsimp only [sendFrame]
  split_ifs
  · exact ⟨rfl, rfl, rfl, Stm32MotionSession.markPendingTransmitted_sameLifecycle _ _,
      .inr ⟨rfl, rfl⟩, by simp [currentMs, now, emit]⟩
  · exact ⟨rfl, rfl, rfl, .refl _, .inr ⟨rfl, rfl⟩, le_rfl⟩

/-- A stage that takes no frame and stays in its epoch. -/
structure Stage (p : Option Bool × Stm32ClientRunner) : Prop where
  steps : r.Steps [] p.2
  state : p.2.state = r.state

variable {r}

theorem Stage.andThen {p : Option Bool × Stm32ClientRunner}
    {stage : Stm32ClientRunner → Option Bool × Stm32ClientRunner} (h : r.Stage p)
    (hstage : ∀ q : Stm32ClientRunner, q.state = r.state → q.Stage (stage q)) :
    r.Stage (andThen p stage) := by
  obtain ⟨flow, q⟩ := p
  cases flow with
  | some result => exact h
  | none =>
    have hq := hstage q h.state
    exact ⟨h.steps.trans hq.steps, hq.state.trans h.state⟩

theorem Stage.ofIdle {p : Option Bool × Stm32ClientRunner} (h : r.Idle p.2) : r.Stage p :=
  ⟨Steps.idle h, h.state⟩

theorem checkTimeouts_stage (nowMs : UInt32) : r.Stage (r.checkTimeouts nowMs) := by
  have hidle : r.Idle { r with linkSession := r.linkSession.checkLinkTimeout nowMs } := by
    refine ⟨rfl, rfl, ?_, .refl _, .inr ⟨rfl, rfl⟩, le_rfl⟩
    rw [Stm32LinkSession.checkLinkTimeout]
    split_ifs <;> rfl
  simp only [checkTimeouts]
  split_ifs <;> exact .ofIdle hidle

theorem retryMotion_stage (nowMs : UInt32) (hr : r.state = .synchronized) :
    r.Stage (r.retryMotion env nowMs) := by
  have hsession := r.motionSession.retryIfDue_sameLifecycle nowMs
  have hframe := r.motionSession.retryIfDue_frame nowMs
  rw [retryMotion]
  generalize r.motionSession.retryIfDue nowMs = retried at hsession hframe ⊢
  obtain ⟨retry, session⟩ := retried
  have hidle : r.Idle { r with motionSession := session } :=
    ⟨rfl, rfl, rfl, hsession, .inr ⟨rfl, rfl⟩, le_rfl⟩
  cases retry with
  | none => exact .ofIdle hidle
  | some f =>
    obtain ⟨hpending, rfl⟩ := hframe f rfl
    have hsent := transmitPending_idle env { r with motionSession := session }
      r.motionSession.pendingFrame r.clock
    have hstep := Step.retry { r with motionSession := session } r.clock hr
      (hsession.transactionPending.trans hpending)
    rw [hsession.pendingFrame] at hstep
    exact ⟨((Steps.idle hidle).trans (.single hstep)).trans (Steps.idle hsent), hsent.state⟩

theorem startMotion_stage (hr : r.state = .synchronized) : r.Stage (r.startMotion env) := by
  have htime := now_idle env r
  rw [startMotion]
  generalize r.now env = timed at htime ⊢
  obtain ⟨time, q⟩ := timed
  dsimp only at htime ⊢
  split_ifs with hdemand
  · have hnone := q.motionSession.beginStartSession_none (env q.calls).sessionId
    have hstart := Step.start q (env q.calls).sessionId
    generalize q.motionSession.beginStartSession (env q.calls).sessionId = started at hnone hstart ⊢
    obtain ⟨start, session⟩ := started
    cases start with
    | none =>
      cases hnone rfl
      have hcleared : q.Idle { q with
          calls := q.calls + 1
          motionSessionId := 0
          latestWheelCommand := none
          latestWheelCommandTime := 0 } := ⟨rfl, rfl, rfl, .refl _, .inl rfl, le_rfl⟩
      exact ⟨(Steps.idle htime).trans (Steps.idle hcleared), htime.state⟩
    | some f =>
      have hbegun := Run.single (hstart f (htime.state.trans hr) hdemand.1 rfl time)
      have hsent := transmitPending_idle env
        (emit { q with
          calls := q.calls + 1
          motionSession := session
          motionSessionId := (env q.calls).sessionId } (.startBegun (env q.calls).sessionId)) f time
      exact ⟨((Steps.idle htime).trans hbegun).trans (Steps.idle ⟨hsent.log, hsent.state,
        hsent.syncToken, hsent.session, hsent.demand, hsent.clock⟩), hsent.state.trans htime.state⟩
  · exact .ofIdle htime

/-- The wheel frame is built for the demand that was found fresh. -/
theorem sendWheel_stage (hr : r.state = .synchronized) : r.Stage (r.sendWheel env r.clock) := by
  rw [sendWheel]
  split_ifs with hdue
  · obtain ⟨hactive, hdemand, -⟩ := hdue
    simp only [demandsMotion, hasFreshWheelCommand, Bool.and_eq_true, decide_eq_true_eq,
      Bool.not_eq_true'] at hdemand
    obtain ⟨⟨hsome, hfresh⟩, hzero⟩ := hdemand
    obtain ⟨c, hc⟩ := Option.isSome_iff_exists.mp hsome
    simp only [hc, Option.getD_some] at hzero ⊢
    have hsession := r.motionSession.buildWheelVelocity_sameLifecycle c.leftVelocityMmS
      c.rightVelocityMmS
    have hframe := r.motionSession.buildWheelVelocity_active hactive c.leftVelocityMmS
      c.rightVelocityMmS
    generalize r.motionSession.buildWheelVelocity c.leftVelocityMmS c.rightVelocityMmS = built
      at hsession hframe ⊢
    obtain ⟨wheel, session⟩ := built
    cases hframe
    have hstep := Run.single (Step.wheel r r.motionSession.nextWheelSequence c hr hactive hc hfresh
      hzero)
    have hdemand : some c = r.latestWheelCommand := hc.symm
    unfold sendFrame
    dsimp only
    split_ifs
    · exact ⟨hstep.trans (Steps.idle ⟨rfl, rfl, rfl, hsession, .inr ⟨hdemand, rfl⟩, by simp [now, emit]⟩),
        rfl⟩
    · exact ⟨hstep.trans (Steps.idle ⟨rfl, rfl, rfl, hsession, .inr ⟨hdemand, rfl⟩, le_rfl⟩), rfl⟩
  · exact .ofIdle (.refl r)

theorem endMotion_stage (time : ℤ) (hr : r.state = .synchronized) :
    r.Stage (r.endMotion env time) := by
  rw [endMotion]
  split_ifs
  · have hnone := r.motionSession.beginEndSession_none r.motionSessionId
    have hfinish := Step.finish r r.motionSessionId
    generalize r.motionSession.beginEndSession r.motionSessionId = ended at hnone hfinish ⊢
    obtain ⟨stop, session⟩ := ended
    cases stop with
    | none =>
      cases hnone rfl
      exact .ofIdle (.refl r)
    | some f =>
      have hbegun := Run.single (hfinish f hr rfl time)
      have hsent := transmitPending_idle env
        (emit { r with motionSession := session } (.endBegun r.motionSessionId)) f time
      dsimp only
      split_ifs
      · exact ⟨hbegun.trans (Steps.idle ⟨hsent.log, hsent.state, hsent.syncToken, hsent.session,
          hsent.demand, hsent.clock⟩), hsent.state⟩
      · exact ⟨hbegun.trans (Steps.idle ⟨hsent.log, hsent.state, hsent.syncToken, hsent.session,
          hsent.demand, hsent.clock⟩), hsent.state⟩
  · exact .ofIdle (.refl r)

theorem driveMotion_stage (hr : r.state = .synchronized) : r.Stage (r.driveMotion env) := by
  have htime := now_idle env r
  have hwheel : (r.now env).2.Stage ((r.now env).2.sendWheel env (r.now env).1) :=
    sendWheel_stage env (htime.state.trans hr)
  have hstage := hwheel.andThen fun q hq =>
    endMotion_stage env (r.now env).1 (hq.trans (htime.state.trans hr))
  exact ⟨(Steps.idle htime).trans hstage.steps, hstage.state.trans htime.state⟩

theorem sendHeartbeat_stage (nowMs : UInt32) (hr : r.state = .synchronized) :
    r.Stage (r.sendHeartbeat env nowMs) := by
  rw [sendHeartbeat, Stm32LinkSession.heartbeatIfDue]
  split_ifs
  · exact .ofIdle (.refl r)
  · exact .ofIdle (.refl r)
  · have hstep := Run.single (Step.heartbeat r r.linkSession.nextSequence nowMs r.clock hr)
    dsimp only [sendFrame]
    split_ifs <;> exact ⟨hstep.trans (Steps.idle ⟨rfl, rfl, rfl, .refl _, .inr ⟨rfl, rfl⟩, le_rfl⟩), rfl⟩

/-- How a handler of received frames behaves in a given state of the client. -/
structure Handles (state : ClientState)
    (handler : ProtocolFrame → Stm32ClientRunner → Option Bool × Stm32ClientRunner) : Prop where
  steps : ∀ (f : ProtocolFrame) (r : Stm32ClientRunner), r.state = state →
    r.Steps [f] (handler f r).2
  decoder : ∀ (f : ProtocolFrame) (r : Stm32ClientRunner), (handler f r).2.decoder = r.decoder
  state : ∀ (f : ProtocolFrame) (r : Stm32ClientRunner), r.state = state →
    (handler f r).1 = none → (handler f r).2.state = state

theorem handleMotionResponse_steps (f : ProtocolFrame) (r : Stm32ClientRunner)
    (hr : r.state = .synchronized) :
    r.Steps [f] (r.handleMotionResponse f) ∧ (r.handleMotionResponse f).state = r.state := by
  have hcases := r.motionSession.handleResponse_cases f
  simp only [handleMotionResponse]
  generalize r.motionSession.handleResponse f = handled at hcases ⊢
  obtain rfl | ⟨result, rfl, hanswers⟩ := hcases
  · exact ⟨Steps.ignore f (.refl r), rfl⟩
  · have hstep := Run.take (Step.answered r f result hr hanswers)
    dsimp only
    split_ifs <;>
      exact ⟨hstep.trans (Steps.idle ⟨rfl, rfl, rfl, .refl _, .inr ⟨rfl, rfl⟩, le_rfl⟩), rfl⟩

theorem handleFrame_steps (f : ProtocolFrame) (r : Stm32ClientRunner)
    (hr : r.state = .synchronized) :
    r.Steps [f] (handleFrame env f r).2 ∧ (handleFrame env f r).2.state = r.state := by
  have htime : r.Idle (r.currentMs env).2 := now_idle env r
  rw [handleFrame]
  generalize r.currentMs env = timed at htime ⊢
  obtain ⟨nowMs, q⟩ := timed
  have htoken := q.linkSession.handleHeartbeatResponse_pendingSyncToken f nowMs
  have hack := q.motionSession.handleAck_sameLifecycle f nowMs
  have hheard : q.Idle { q with
      linkSession := (q.linkSession.handleHeartbeatResponse f nowMs).2
      motionSession := (q.motionSession.handleAck f nowMs).2 } :=
    ⟨rfl, rfl, htoken, hack, .inr ⟨rfl, rfl⟩, le_rfl⟩
  dsimp only at htime ⊢
  split_ifs with haccepted hlost hacked
  · exact ⟨(Steps.idle htime).trans (Steps.ignore f ⟨rfl, rfl, htoken, .refl _, .inr ⟨rfl, rfl⟩, le_rfl⟩),
      htime.state⟩
  · exact ⟨(Steps.idle htime).trans (Steps.ignore f ⟨rfl, rfl, htoken, .refl _, .inr ⟨rfl, rfl⟩, le_rfl⟩),
      htime.state⟩
  · exact ⟨(Steps.idle htime).trans (Steps.ignore f hheard), htime.state⟩
  · obtain ⟨hsteps, hstate⟩ := handleMotionResponse_steps f { q with
      linkSession := (q.linkSession.handleHeartbeatResponse f nowMs).2
      motionSession := (q.motionSession.handleAck f nowMs).2 } (htime.state.trans hr)
    exact ⟨((Steps.idle htime).trans (Steps.idle hheard)).trans hsteps, hstate.trans htime.state⟩

theorem handleMotionResponse_decoder (f : ProtocolFrame) (r : Stm32ClientRunner) :
    (r.handleMotionResponse f).decoder = r.decoder := by
  simp only [handleMotionResponse]
  split
  · rfl
  · split_ifs <;> rfl

theorem handleFrame_handles : Handles .synchronized (handleFrame env) where
  steps f r hr := (handleFrame_steps env f r hr).1
  decoder f r := by
    simp only [handleFrame]
    split_ifs
    · rfl
    · rfl
    · rfl
    · exact handleMotionResponse_decoder f _
  state f r hr _ := (handleFrame_steps env f r hr).2.trans hr

theorem handleSyncFrame_handles : Handles .synchronizing (handleSyncFrame env) where
  steps f r hr := by
    have haccepts := r.linkSession.handleLinkSyncOk_accepts f (r.currentMs env).1
    have hrefuses := r.linkSession.handleLinkSyncOk_refuses f (r.currentMs env).1
    rw [handleSyncFrame]
    dsimp only [currentMs, now] at haccepts hrefuses ⊢
    split_ifs with haccepted
    · obtain ⟨-, htype, htoken, -⟩ := haccepts haccepted
      have hstep := Run.take (Step.synchronized r f
        (r.linkSession.handleLinkSyncOk f (r.currentMs env).1).2 hr htype htoken)
      exact hstep.trans (Steps.idle ⟨rfl, rfl, rfl, .refl _, .inr ⟨rfl, rfl⟩, by simp⟩)
    · rw [hrefuses (by simpa using haccepted)]
      exact Steps.ignore f ⟨rfl, rfl, rfl, .refl _, .inr ⟨rfl, rfl⟩, by simp⟩
  decoder f r := by
    simp only [handleSyncFrame]
    split_ifs <;> rfl
  state f r hr hflow := by
    simp only [handleSyncFrame] at hflow ⊢
    split_ifs at hflow ⊢
    exact hr

theorem endEpoch_steps (r : Stm32ClientRunner) : r.Steps [] (r.endEpoch env) :=
  (Run.single (Step.close r)).trans (Steps.idle ⟨rfl, rfl, rfl, .refl _, .inr ⟨rfl, rfl⟩,
    by simp [endEpoch, scheduleReconnect, now]⟩)

theorem beginConnectionEpoch_steps (r : Stm32ClientRunner) (hr : r.state = .disconnected) :
    r.Steps [] (r.beginConnectionEpoch env).2 := by
  have hconnect (syncToken : UInt64) (time : ℤ) := Run.single (Step.connect r syncToken time hr)
  rw [beginConnectionEpoch]
  dsimp only [sendFrame]
  split_ifs
  · refine (hconnect (env (r.calls + 1 + 1)).syncToken
      (r.clock + (env (r.calls + 1)).advanceNs)).trans
      (Steps.idle ⟨rfl, rfl, rfl, .refl _, .inr ⟨rfl, rfl⟩, ?_⟩)
    simp only [connect, clearEpoch, emit, now]
    omega
  · refine ((hconnect (env (r.calls + 1 + 1)).syncToken
      (r.clock + (env (r.calls + 1)).advanceNs)).trans (.single (Step.close _))).trans
      (Steps.idle ⟨rfl, rfl, rfl, ⟨rfl, rfl, rfl, rfl, rfl, rfl⟩, .inr ⟨rfl, rfl⟩, ?_⟩)
    simp only [scheduleReconnect, now, emit, connect, clearEpoch, disconnectCurrentEpoch]
    omega
  · exact Steps.idle ⟨rfl, rfl, rfl, .refl _, .inr ⟨rfl, rfl⟩, by simp [scheduleReconnect, now]⟩

theorem setWheelCommand_steps (c : WheelVelocityCommand) (r : Stm32ClientRunner) :
    r.Steps [] (r.setWheelCommand env c) :=
  (Steps.idle (now_idle env r)).trans (.single (Step.command _ c))

end Stages

end Stm32ClientRunner

end IndoorRobot
