import IndoorRobot.WheelDemand

/-!
# Coherence of the client runner with its motion session

The identifier of a motion session is stored twice, by the runner and by its session.
The two agree between the stages of a poll, so that the session can always be started,
driven and ended.
-/
namespace IndoorRobot

open MotionLifecycleCommandType MotionResponseResult

namespace Stm32MotionSession

variable {s : Stm32MotionSession}

theorem Consistent.pending_iff (h : s.Consistent) :
    s.transactionPending = true ↔ s.state = .startPending ∨ s.state = .endPending := by
  constructor
  · intro hpending
    rcases (h.pending hpending).1 with ⟨hstate, _⟩ | ⟨hstate, _⟩
    · exact .inl hstate
    · exact .inr hstate
  · intro hstate
    by_contra hpending
    rcases h.settled (by simpa using hpending) with hsettled | hsettled
    · simp [hsettled] at hstate
    · simp [hsettled] at hstate

theorem Consistent.unpended (h : s.Consistent) (hstate : s.state = .inactive ∨ s.state = .active) :
    s.transactionPending = false := by
  rw [← Bool.not_eq_true, h.pending_iff]
  rcases hstate with hstate | hstate <;> simp [hstate]

theorem beginStartSession_some (h : s.transactionPending = false) (motionSessionId : UInt32) :
    ∃ f, (s.beginStartSession motionSessionId).1 = some f := by
  simp [beginStartSession, h]

theorem beginEndSession_some (h : s.transactionPending = false) (hactive : s.state = .active) :
    ∃ f, (s.beginEndSession s.activeSessionId).1 = some f := by
  simp [beginEndSession, h, hactive]

end Stm32MotionSession

namespace Stm32ClientRunner

/-- The runner's identifier is that of its motion session, which is inactive outside a
synchronized epoch. -/
structure Coherent (r : Stm32ClientRunner) : Prop where
  session : r.motionSession.Consistent
  requested : r.motionSession.transactionPending = true →
    r.motionSession.pendingSessionId = r.motionSessionId ∧ r.motionSessionId ≠ 0
  granted : r.motionSession.state = .active →
    r.motionSession.activeSessionId = r.motionSessionId ∧ r.motionSessionId ≠ 0
  epoch : r.state ≠ .synchronized → r.motionSession.state = .inactive

namespace Coherent

variable {r q : Stm32ClientRunner}

/-- Clocks, timers and demands do not matter. -/
theorem congr (h : r.Coherent) (hstate : q.state = r.state)
    (hsession : r.motionSession.SameLifecycle q.motionSession)
    (hid : q.motionSessionId = r.motionSessionId) : q.Coherent where
  session := hsession.consistent h.session
  requested := by
    have hpending : q.motionSession.pendingSessionId = r.motionSession.pendingSessionId :=
      congrArg MotionTransaction.motionSessionId hsession.pendingTransaction
    rw [hsession.transactionPending, hpending, hid]
    exact h.requested
  granted := by
    rw [hsession.state, hsession.activeSessionId, hid]
    exact h.granted
  epoch := by
    rw [hstate, hsession.state]
    exact h.epoch

/-- No session at all. -/
theorem ofInactive (hs : r.motionSession.Consistent) (hinactive : r.motionSession.state = .inactive) :
    r.Coherent where
  session := hs
  requested := fun hpending => absurd hpending (by simp [hs.unpended (.inl hinactive)])
  granted := fun hactive => absurd hactive (by simp [hinactive])
  epoch := fun _ => hinactive

theorem initial (clock : ℤ) : Coherent { clock := clock } :=
  ofInactive Stm32MotionSession.default_consistent rfl

/-- A transaction of the synchronized epoch, under the runner's identifier. -/
theorem ofBegins {s : Stm32MotionSession} {command : MotionLifecycleCommandType} {f : ProtocolFrame}
    (h : s.Begins command r.motionSessionId f r.motionSession) (hr : r.state = .synchronized)
    (hid : r.motionSessionId ≠ 0)
    (hstate : r.motionSession.state = .startPending ∧ command = startSession ∨
      r.motionSession.state = .endPending ∧ command = endSession) : r.Coherent where
  session := h.consistent hstate
  requested := fun _ => ⟨h.sessionId, hid⟩
  granted := by
    intro hactive
    rcases hstate with ⟨hstate, _⟩ | ⟨hstate, _⟩ <;> simp [hstate] at hactive
  epoch := fun hne => absurd hr hne

section Stages
variable (env : ℕ → ClientAnswer)

theorem endEpoch (r : Stm32ClientRunner) : (r.endEpoch env).Coherent :=
  ofInactive r.motionSession.reset_consistent rfl

theorem conclude {p : Option Bool × Stm32ClientRunner} (h : p.2.Coherent) :
    (conclude env p).Coherent := by
  rw [Stm32ClientRunner.conclude]
  split_ifs
  · exact Coherent.endEpoch env p.2
  · exact h

theorem transmitPending (h : r.Coherent) (f : ProtocolFrame) (time : ℤ) :
    (r.transmitPending env f time).2.Coherent := by
  have hsent := transmitPending_idle env r f time
  apply h.congr hsent.state hsent.session
  rw [Stm32ClientRunner.transmitPending]
  dsimp only [sendFrame]
  split_ifs <;> rfl

theorem checkTimeouts (h : r.Coherent) (nowMs : UInt32) : (r.checkTimeouts nowMs).2.Coherent := by
  simp only [Stm32ClientRunner.checkTimeouts]
  split_ifs <;> exact h.congr rfl (.refl _) rfl

theorem retryMotion (h : r.Coherent) (nowMs : UInt32) : (r.retryMotion env nowMs).2.Coherent := by
  have hsession := r.motionSession.retryIfDue_sameLifecycle nowMs
  rw [Stm32ClientRunner.retryMotion]
  generalize r.motionSession.retryIfDue nowMs = retried at hsession ⊢
  obtain ⟨retry, session⟩ := retried
  have hretried : Coherent { r with motionSession := session } := h.congr rfl hsession rfl
  cases retry with
  | none => exact hretried
  | some f => exact hretried.transmitPending env f r.clock

theorem startMotion (h : r.Coherent) (hr : r.state = .synchronized) :
    (r.startMotion env).2.Coherent := by
  have htime : (r.now env).2.Coherent := h.congr rfl (.refl _) rfl
  have hq : (r.now env).2.state = .synchronized := hr
  rw [Stm32ClientRunner.startMotion]
  generalize r.now env = timed at htime hq ⊢
  obtain ⟨time, q⟩ := timed
  dsimp only at htime hq ⊢
  split_ifs with hdemand
  · have hunpended := htime.session.unpended (.inl hdemand.1)
    obtain ⟨f, hf⟩ := Stm32MotionSession.beginStartSession_some hunpended (env q.calls).sessionId
    obtain ⟨hbegins, hstate⟩ := q.motionSession.beginStartSession_begins _ f hf
    generalize q.motionSession.beginStartSession (env q.calls).sessionId = started
      at hf hbegins hstate ⊢
    obtain ⟨start, session⟩ := started
    cases hf
    apply transmitPending
    exact ofBegins hbegins hq (env q.calls).sessionId_ne_zero (.inl ⟨hstate, rfl⟩)
  · exact htime

theorem sendWheel (h : r.Coherent) (time : ℤ) : (r.sendWheel env time).2.Coherent := by
  rw [Stm32ClientRunner.sendWheel]
  split_ifs with hdue
  · have hsession := r.motionSession.buildWheelVelocity_sameLifecycle
      (r.latestWheelCommand.getD {}).leftVelocityMmS (r.latestWheelCommand.getD {}).rightVelocityMmS
    dsimp only
    generalize r.motionSession.buildWheelVelocity (r.latestWheelCommand.getD {}).leftVelocityMmS
      (r.latestWheelCommand.getD {}).rightVelocityMmS = built at hsession ⊢
    obtain ⟨wheel, session⟩ := built
    cases wheel with
    | none => exact h.congr rfl hsession rfl
    | some f =>
      unfold sendFrame
      dsimp only
      split_ifs
      · exact h.congr rfl hsession rfl
      · exact h.congr rfl hsession rfl
  · exact h

theorem endMotion (h : r.Coherent) (time : ℤ) (hr : r.state = .synchronized) :
    (r.endMotion env time).2.Coherent := by
  rw [Stm32ClientRunner.endMotion]
  split_ifs with hdone
  · obtain ⟨hid, hne⟩ := h.granted hdone.1
    have hunpended := h.session.unpended (.inr hdone.1)
    obtain ⟨f, hf⟩ := Stm32MotionSession.beginEndSession_some hunpended hdone.1
    rw [hid] at hf
    obtain ⟨hbegins, hstate, -, -⟩ := r.motionSession.beginEndSession_begins _ f hf
    generalize r.motionSession.beginEndSession r.motionSessionId = ended at hf hbegins hstate ⊢
    obtain ⟨stop, session⟩ := ended
    cases hf
    have hbegun : Coherent (emit { r with motionSession := session } (.endBegun r.motionSessionId)) :=
      ofBegins hbegins hr hne (.inr ⟨hstate, rfl⟩)
    have hsent := hbegun.transmitPending env f time
    dsimp only
    split_ifs
    · exact hsent.congr rfl (.refl _) rfl
    · exact hsent
  · exact h

theorem andThen {p : Option Bool × Stm32ClientRunner}
    {stage : Stm32ClientRunner → Option Bool × Stm32ClientRunner} (h : p.2.Coherent)
    (hstage : (stage p.2).2.Coherent) : (andThen p stage).2.Coherent := by
  obtain ⟨flow, q⟩ := p
  cases flow with
  | some result => exact h
  | none => exact hstage

theorem driveMotion (h : r.Coherent) (hr : r.state = .synchronized) :
    (r.driveMotion env).2.Coherent := by
  have htime : (r.now env).2.Coherent := h.congr rfl (.refl _) rfl
  have hstate := (sendWheel_stage (r := (r.now env).2) env hr).state.trans hr
  have hwheel := htime.sendWheel env (r.now env).1
  exact hwheel.andThen (hwheel.endMotion env (r.now env).1 hstate)

theorem sendHeartbeat (h : r.Coherent) (nowMs : UInt32) :
    (r.sendHeartbeat env nowMs).2.Coherent := by
  rw [Stm32ClientRunner.sendHeartbeat]
  generalize r.linkSession.heartbeatIfDue nowMs = due
  obtain ⟨heartbeat, link⟩ := due
  cases heartbeat with
  | none => exact h.congr rfl (.refl _) rfl
  | some f =>
    unfold sendFrame
    dsimp only
    split_ifs
    · exact h.congr rfl (.refl _) rfl
    · exact h.congr rfl (.refl _) rfl

/-- A response settles the session, and the runner forgets an identifier that was not
granted. -/
theorem handleMotionResponse (h : r.Coherent) (hr : r.state = .synchronized) (f : ProtocolFrame) :
    (r.handleMotionResponse f).Coherent := by
  have hcases := r.motionSession.handleResponse_cases f
  simp only [Stm32ClientRunner.handleMotionResponse]
  generalize r.motionSession.handleResponse f = handled at hcases ⊢
  obtain rfl | ⟨result, rfl, hanswers⟩ := hcases
  · exact h
  · have hconsistent := r.motionSession.settle_consistent h.session hanswers.pending result
    dsimp only
    rcases r.motionSession.settle_state h.session hanswers.pending result with
      ⟨hactive, hid, hstart, -⟩ | ⟨hinactive, -⟩
    · simp only [hstart, hactive, ne_eq, not_true, if_true, if_false]
      refine ⟨hconsistent, fun hpending => ?_, fun _ => ?_, fun hne => absurd hr hne⟩
      · exact absurd hpending (by simp [emit])
      · obtain ⟨hpending, hne⟩ := h.requested hanswers.pending
        exact ⟨hid.trans hpending, hne⟩
    · split_ifs <;> exact ofInactive hconsistent hinactive

theorem handleFrame (h : r.Coherent) (hr : r.state = .synchronized) (f : ProtocolFrame) :
    (handleFrame env f r).2.Coherent := by
  have htime : (r.currentMs env).2.Coherent := h.congr rfl (.refl _) rfl
  have hq : (r.currentMs env).2.state = .synchronized := hr
  rw [Stm32ClientRunner.handleFrame]
  generalize r.currentMs env = timed at htime hq ⊢
  obtain ⟨nowMs, q⟩ := timed
  have hack := q.motionSession.handleAck_sameLifecycle f nowMs
  dsimp only at htime hq ⊢
  split_ifs
  · exact htime.congr rfl (.refl _) rfl
  · exact htime.congr rfl (.refl _) rfl
  · exact htime.congr rfl hack rfl
  · have hacked : Coherent { q with
        linkSession := (q.linkSession.handleHeartbeatResponse f nowMs).2
        motionSession := (q.motionSession.handleAck f nowMs).2 } := htime.congr rfl hack rfl
    exact hacked.handleMotionResponse hq f

theorem handleSyncFrame (h : r.Coherent) (hr : r.state = .synchronizing) (f : ProtocolFrame) :
    (handleSyncFrame env f r).2.Coherent := by
  have hinactive := h.epoch (by simp [hr])
  simp only [Stm32ClientRunner.handleSyncFrame]
  split_ifs
  · exact ofInactive h.session hinactive
  · exact ofInactive h.session hinactive

theorem beginConnectionEpoch (h : r.Coherent) (hr : r.state = .disconnected) :
    (r.beginConnectionEpoch env).2.Coherent := by
  have hreset := r.motionSession.reset_consistent
  rw [Stm32ClientRunner.beginConnectionEpoch]
  unfold sendFrame
  dsimp only
  split_ifs
  · exact ofInactive hreset rfl
  · exact ofInactive hreset rfl
  · exact ofInactive h.session (h.epoch (by simp [hr]))

theorem stage (h : r.Coherent) {body : Stm32ClientRunner → Option Bool × Stm32ClientRunner}
    (hbody : r.state = .synchronized → (body r).2.Coherent) : (r.stage env body).Coherent := by
  rw [Stm32ClientRunner.stage]
  split_ifs with hr
  · exact Coherent.conclude env (hbody hr)
  · exact h

theorem act (h : r.Coherent) (action : ClientAction) : (r.act env action).Coherent := by
  cases action with
  | setWheelCommand command => exact h.congr rfl (.refl _) rfl
  | pass advanceNs calls decoder transportFailed reconnectDeadline =>
    exact h.congr rfl (.refl _) rfl
  | checkTimeouts nowMs => exact h.stage env fun _ => h.checkTimeouts nowMs
  | retryMotion nowMs => exact h.stage env fun _ => h.retryMotion env nowMs
  | startMotion => exact h.stage env (h.startMotion env)
  | driveMotion => exact h.stage env (h.driveMotion env)
  | sendHeartbeat nowMs => exact h.stage env fun _ => h.sendHeartbeat env nowMs
  | receive frame =>
    cases hr : r.state with
    | synchronized =>
      simpa [Stm32ClientRunner.act, hr] using Coherent.conclude env (h.handleFrame env hr frame)
    | synchronizing => simpa [Stm32ClientRunner.act, hr] using h.handleSyncFrame env hr frame
    | disconnected => simpa [Stm32ClientRunner.act, hr] using h
  | connect =>
    rw [Stm32ClientRunner.act]
    split_ifs with hr
    · exact h.beginConnectionEpoch env hr
    · exact h
  | disconnect =>
    rw [Stm32ClientRunner.act]
    split_ifs
    · exact h
    · exact Coherent.endEpoch env r

end Stages

theorem acts {env : ℕ → ClientAnswer} {frames : List ProtocolFrame} (h : r.Coherent)
    (hacts : Acts env r frames q) : q.Coherent := by
  apply hacts.preserves _ h
  rintro input r q ⟨action, -, rfl⟩ hr
  exact hr.act env action

theorem run (h : r.Coherent) (env : ℕ → ClientAnswer) (calls : List ClientCall) :
    (r.run env calls).Coherent := by
  induction calls generalizing r with
  | nil => exact h
  | cons call calls ih =>
    apply ih
    cases call with
    | setWheelCommand c => exact h.act env (.setWheelCommand c)
    | poll =>
      obtain ⟨frames, hacts⟩ := poll_acts env r
      exact h.acts hacts

end Coherent

section Iteration
variable (env : ℕ → ClientAnswer)

/-- A synchronized iteration up to the decision to start a session. -/
def beforeStart (r : Stm32ClientRunner) : Option Bool × Stm32ClientRunner :=
  let (nowMs, r) := r.currentMs env
  andThen (r.checkTimeouts nowMs) (retryMotion env nowMs)

/-- A synchronized iteration up to the decision to send a wheel command. -/
def beforeDrive (r : Stm32ClientRunner) : Option Bool × Stm32ClientRunner :=
  andThen (r.beforeStart env) (startMotion env)

/-- A synchronized iteration up to the decision to end the session. -/
def beforeEnd (r : Stm32ClientRunner) : Option Bool × Stm32ClientRunner :=
  andThen (r.beforeDrive env) fun r => (r.now env).2.sendWheel env (r.now env).1

theorem runSynchronizedIteration_eq (r : Stm32ClientRunner) :
    r.runSynchronizedIteration env =
      let nowMs := (r.currentMs env).1
      let p := andThen (r.beforeDrive env) (driveMotion env)
      let p := andThen p (sendHeartbeat env nowMs)
      let p := andThen p (receive env (handleFrame env))
      (p.1.getD true, p.2) :=
  rfl

/-- Every frame that the iteration wants to create is created. -/
structure CreatesFrames (r : Stm32ClientRunner) : Prop where
  start : ∀ q, r.beforeStart env = (none, q) → q.motionSession.state = .inactive →
    ∀ sessionId, (q.motionSession.beginStartSession sessionId).1 ≠ none
  wheel : ∀ q, r.beforeDrive env = (none, q) → q.motionSession.state = .active →
    ∀ left right, (q.motionSession.buildWheelVelocity left right).1 ≠ none
  finish : ∀ q, r.beforeEnd env = (none, q) → q.motionSession.state = .active →
    (q.motionSession.beginEndSession q.motionSessionId).1 ≠ none

variable {r : Stm32ClientRunner}

theorem beforeStart_coherent (h : r.Coherent) (hr : r.state = .synchronized) :
    (r.beforeStart env).2.Coherent ∧ (r.beforeStart env).2.state = .synchronized := by
  have htime : (r.currentMs env).2.Coherent := h.congr rfl (.refl _) rfl
  have hq : (r.currentMs env).2.state = .synchronized := hr
  have hcheck := htime.checkTimeouts (r.currentMs env).1
  have hstage := (checkTimeouts_stage (r := (r.currentMs env).2) (r.currentMs env).1).andThen
    fun p hp => retryMotion_stage env (r.currentMs env).1 (hp.trans hq)
  exact ⟨hcheck.andThen (hcheck.retryMotion env _), hstage.state.trans hq⟩

theorem beforeDrive_coherent (h : r.Coherent) (hr : r.state = .synchronized) :
    (r.beforeDrive env).2.Coherent ∧ (r.beforeDrive env).2.state = .synchronized := by
  obtain ⟨hstart, hstate⟩ := beforeStart_coherent env h hr
  refine ⟨hstart.andThen (hstart.startMotion env hstate), ?_⟩
  rw [beforeDrive]
  generalize r.beforeStart env = p at hstart hstate ⊢
  obtain ⟨flow, q⟩ := p
  cases flow with
  | some result => exact hstate
  | none => exact (startMotion_stage env hstate).state.trans hstate

theorem beforeEnd_coherent (h : r.Coherent) (hr : r.state = .synchronized) :
    (r.beforeEnd env).2.Coherent := by
  obtain ⟨hdrive, _⟩ := beforeDrive_coherent env h hr
  apply hdrive.andThen
  apply Coherent.sendWheel
  exact hdrive.congr rfl (.refl _) rfl

theorem Coherent.createsFrames (h : r.Coherent) (hr : r.state = .synchronized) :
    r.CreatesFrames env where
  start := by
    intro q hq hinactive sessionId
    have hcoherent := (beforeStart_coherent env h hr).1
    rw [hq] at hcoherent
    obtain ⟨f, hf⟩ := Stm32MotionSession.beginStartSession_some
      (hcoherent.session.unpended (.inl hinactive)) sessionId
    simp [hf]
  wheel := by
    intro q _ hactive left right
    simp [q.motionSession.buildWheelVelocity_active hactive]
  finish := by
    intro q hq hactive
    have hcoherent := beforeEnd_coherent env h hr
    rw [hq] at hcoherent
    obtain ⟨f, hf⟩ := Stm32MotionSession.beginEndSession_some
      (hcoherent.session.unpended (.inr hactive)) hactive
    rw [(hcoherent.granted hactive).1] at hf
    simp [hf]

end Iteration

/-- **Coherence of runner and session.** Whatever the owner calls and the port
answers: a transaction is pending exactly in the two pending states, an active session
is the runner's, with no transaction pending, and outside a synchronized epoch there is
no session. Hence no iteration fails to create a MOTION_START, a WHEEL_VELOCITY or a
MOTION_END frame. -/
theorem runner_coherent_with_session (env : ℕ → ClientAnswer) (clock : ℤ)
    (calls : List ClientCall) :
    let r := run env { clock := clock } calls
    (r.motionSession.transactionPending = true ↔
      r.motionSession.state = .startPending ∨ r.motionSession.state = .endPending) ∧
    (r.motionSession.state = .active →
      r.motionSession.activeSessionId = r.motionSessionId ∧ r.motionSessionId ≠ 0 ∧
        r.motionSession.transactionPending = false) ∧
    (r.state ≠ .synchronized → r.motionSession.state = .inactive) ∧
    (r.state = .synchronized → r.CreatesFrames env) := by
  intro r
  have hr : r.Coherent := (Coherent.initial clock).run env calls
  refine ⟨hr.session.pending_iff, ?_, hr.epoch, hr.createsFrames env⟩
  intro hactive
  obtain ⟨hid, hne⟩ := hr.granted hactive
  exact ⟨hid, hne, hr.session.unpended (.inr hactive)⟩

end Stm32ClientRunner

end IndoorRobot
