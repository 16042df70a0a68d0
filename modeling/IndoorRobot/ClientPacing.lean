import IndoorRobot.RunnerCoherence
import IndoorRobot.ClientTimestamps
import Mathlib

/-!
# The pace of the client

The client sends LINK_SYNC only after a pause, wheel frames at most every 50 ms and
heartbeats at most every 250 ms. It decides this from three time stamps of different
kinds: a deadline of the steady clock, a time point that zero stands for none of, and
milliseconds of the epoch modulo 2^32. `Paced` ties each of them to the log.
-/
namespace IndoorRobot.Stm32ClientRunner

open EventLogs WrappingClocks TimedRunner

def reconnectPause : ℤ := 500 * millisecondNs
def heartbeatPeriod : ℤ := 250 * millisecondNs

/-- No LINK_SYNC follows any frame within the pause. -/
def syncPace : Pace ClientEvent ℤ where
  starts e limit := ∃ f t, e = .sent f t ∧ limit = t + reconnectPause
  ends _ _ := False
  next limit _ := limit
  kind e t := ∃ f, e = .sent f t ∧ f.messageType = .linkSync

/-- No wheel frame follows another one of its session within the period. -/
def wheelPace : Pace ClientEvent ℤ where
  starts e limit := ∃ f t, e = .sent f t ∧ f.messageType = .wheelVelocity ∧ limit = t + wheelTxPeriod
  ends _ e := ∃ sessionId, e = .startBegun sessionId
  next limit _ := limit
  kind e t := ∃ f, e = .sent f t ∧ f.messageType = .wheelVelocity

/-- The n-th heartbeat of an epoch comes n periods after its LINK_SYNC, or later. -/
def heartbeatPace : Pace ClientEvent ℤ where
  starts e limit := ∃ f t, e = .sent f t ∧ f.messageType = .linkSync ∧ limit = t + heartbeatPeriod
  ends _ e := ∃ f t, e = .sent f t ∧ f.messageType = .linkSync
  next limit e :=
    match e with
    | .sent f _ => if f.messageType = .heartbeat then limit + heartbeatPeriod else limit
    | _ => limit
  kind e t := ∃ f, e = .sent f t ∧ f.messageType = .heartbeat

/-- No frame. -/
def Quiet (e : ClientEvent) : Prop := ∀ f t, e ≠ .sent f t

section Events
variable {log : List ClientEvent} {e : ClientEvent} {f : ProtocolFrame} {t limit : ℤ}

theorem syncPace_quiet (h : syncPace.Open log limit) (he : Quiet e) :
    syncPace.Open (log ++ [e]) limit :=
  h.skip (by rintro _ ⟨f, t, hsent, -⟩; exact he f t hsent) fun _ => rfl

theorem syncPace_sent (h : syncPace.Open log limit) (ht : t + reconnectPause ≤ limit) :
    syncPace.Open (log ++ [.sent f t]) limit := by
  refine h.concat ?_ (fun before hbefore _ => hbefore)
  rintro _ ⟨_, _, hsent, rfl⟩
  cases hsent
  exact ht

theorem wheelPace_quiet (h : wheelPace.Open log limit) (he : Quiet e) :
    wheelPace.Open (log ++ [e]) limit :=
  h.skip (by rintro _ ⟨f, t, hsent, -⟩; exact he f t hsent) fun _ => rfl

theorem wheelPace_sent (h : wheelPace.Open log limit)
    (ht : f.messageType = .wheelVelocity → t + wheelTxPeriod ≤ limit) :
    wheelPace.Open (log ++ [.sent f t]) limit := by
  refine h.concat ?_ (fun before hbefore _ => hbefore)
  rintro _ ⟨_, _, hsent, hwheel, rfl⟩
  cases hsent
  exact ht hwheel

/-- A new session starts without limits. -/
theorem wheelPace_startBegun (log : List ClientEvent) (sessionId : UInt32) (limit : ℤ) :
    wheelPace.Open (log ++ [.startBegun sessionId]) limit := by
  intro _ halive
  obtain ⟨_, _, hsent, -⟩ | ⟨before, -, hends, -⟩ := alive_concat_iff.mp halive
  · cases hsent
  · exact absurd ⟨sessionId, rfl⟩ hends

theorem heartbeatPace_quiet (h : heartbeatPace.Open log limit) (he : Quiet e) :
    heartbeatPace.Open (log ++ [e]) limit := by
  refine h.skip (by rintro _ ⟨f, t, hsent, -⟩; exact he f t hsent) fun before => ?_
  cases e with
  | sent f t => exact absurd rfl (he f t)
  | _ => rfl

/-- Frames that neither begin an epoch nor are heartbeats. -/
theorem heartbeatPace_skip (h : heartbeatPace.Open log limit) (hsync : f.messageType ≠ .linkSync)
    (hbeat : f.messageType ≠ .heartbeat) : heartbeatPace.Open (log ++ [.sent f t]) limit := by
  refine h.skip ?_ fun before => if_neg hbeat
  rintro _ ⟨_, _, hsent, htype, -⟩
  cases hsent
  exact hsync htype

theorem heartbeatPace_heartbeat (h : heartbeatPace.Open log limit)
    (hbeat : f.messageType = .heartbeat) :
    heartbeatPace.Open (log ++ [.sent f t]) (limit + heartbeatPeriod) := by
  refine h.concat ?_ ?_
  · rintro _ ⟨_, _, hsent, htype, -⟩
    cases hsent
    rw [hbeat] at htype
    cases htype
  · intro before hbefore _
    have hnext : heartbeatPace.next before (.sent f t) = before + heartbeatPeriod := if_pos hbeat
    rw [hnext]
    omega

theorem heartbeatPace_linkSync (log : List ClientEvent) (hsync : f.messageType = .linkSync) (t : ℤ) :
    heartbeatPace.Open (log ++ [.sent f t]) (t + heartbeatPeriod) := by
  intro _ halive
  obtain ⟨_, _, hsent, -, rfl⟩ | ⟨before, -, hends, -⟩ := alive_concat_iff.mp halive
  · cases hsent
    exact le_rfl
  · exact absurd ⟨f, t, rfl, hsync⟩ hends

end Events

/-- The frames sent so far keep all three paces. -/
structure Logged (r : Stm32ClientRunner) : Prop where
  clock : 0 < r.clock
  past : syncPace.Open r.log (r.clock + reconnectPause)
  syncs : syncPace.Keeps r.log
  wheels : wheelPace.Keeps r.log
  beats : heartbeatPace.Keeps r.log

/-- When the next wheel frame may come, as far as the runner knows. -/
def wheelLimit (r : Stm32ClientRunner) : ℤ :=
  if r.lastWheelTransmitTime = 0 then 0 else r.lastWheelTransmitTime + wheelTxPeriod

/-- The heartbeat stamp stands for a time of the epoch up to `t`, and the next heartbeat may come
one period later. -/
def Beating (r : Stm32ClientRunner) (t : ℤ) : Prop :=
  ∃ ms : ℕ, r.linkSession.lastHeartbeatTxMs = UInt32.ofNat ms ∧
    r.epochStart + ms * millisecondNs ≤ t ∧
    heartbeatPace.Open r.log (r.epochStart + ms * millisecondNs + heartbeatPeriod)

/-- The stamps of the runner, and the limits they stand for. Until time `t` the heartbeat stamp has
been kept up. -/
structure Paced (r : Stm32ClientRunner) (t : ℤ) : Prop extends Logged r where
  reading : t ≤ r.clock
  rest : r.state = .disconnected → syncPace.Open r.log r.reconnectDeadline
  stamp : 0 ≤ r.lastWheelTransmitTime
  wheel : r.motionSession.state = .startPending ∨ r.motionSession.state = .active →
    wheelPace.Open r.log r.wheelLimit
  begun : r.state = .synchronizing →
    r.epochStart ≤ r.clock ∧ heartbeatPace.Open r.log (r.epochStart + heartbeatPeriod)
  beat : r.state = .synchronized → r.epochStart ≤ t ∧ r.Beating t

/-- Nothing that the paces depend on differs but the clock. -/
structure Still (r q : Stm32ClientRunner) : Prop where
  log : q.log = r.log
  clock : r.clock ≤ q.clock
  state : q.state = r.state
  deadline : q.reconnectDeadline = r.reconnectDeadline
  epochStart : q.epochStart = r.epochStart
  lastWheelTransmitTime : q.lastWheelTransmitTime = r.lastWheelTransmitTime
  session : q.motionSession.state = r.motionSession.state
  lastHeartbeatTxMs : q.linkSession.lastHeartbeatTxMs = r.linkSession.lastHeartbeatTxMs

variable {r q : Stm32ClientRunner} {e t : ℤ}

theorem Logged.advance (h : r.Logged) (hlog : q.log = r.log) (hclock : r.clock ≤ q.clock) :
    q.Logged := by
  refine ⟨h.clock.trans_le hclock, ?_, ?_, ?_, ?_⟩
  · rw [hlog]
    exact h.past.mono (by omega)
  · rw [hlog]
    exact h.syncs
  · rw [hlog]
    exact h.wheels
  · rw [hlog]
    exact h.beats

theorem Paced.still (h : r.Paced t) (hstill : r.Still q) : q.Paced t := by
  have hlimit : q.wheelLimit = r.wheelLimit := by
    rw [wheelLimit, wheelLimit, hstill.lastWheelTransmitTime]
  refine ⟨h.advance hstill.log hstill.clock, h.reading.trans hstill.clock, ?_, ?_, ?_, ?_, ?_⟩
  · rw [hstill.state, hstill.log, hstill.deadline]
    exact h.rest
  · rw [hstill.lastWheelTransmitTime]
    exact h.stamp
  · rw [hstill.session, hstill.log, hlimit]
    exact h.wheel
  · rw [hstill.state, hstill.log, hstill.epochStart]
    exact fun hstate => ⟨(h.begun hstate).1.trans hstill.clock, (h.begun hstate).2⟩
  · rw [hstill.state, Beating, hstill.log, hstill.epochStart, hstill.lastHeartbeatTxMs]
    exact h.beat

/-- A later reading of the clock. -/
theorem Paced.read (h : r.Paced t) {t' : ℤ} (ht : t ≤ t') (hclock : t' ≤ r.clock) : r.Paced t' := by
  refine ⟨h.toLogged, hclock, h.rest, h.stamp, h.wheel, h.begun, fun hstate => ?_⟩
  obtain ⟨hepoch, ms, hstamp, hpast, hopen⟩ := h.beat hstate
  exact ⟨hepoch.trans ht, ms, hstamp, hpast.trans ht, hopen⟩

theorem Logged.quiet (h : r.Logged) {e : ClientEvent} (he : Quiet e) : (r.emit e).Logged := by
  refine ⟨h.clock, syncPace_quiet h.past he, h.syncs.concat ?_, h.wheels.concat ?_,
    h.beats.concat ?_⟩
  · rintro t ⟨f, hsent, -⟩
    exact absurd hsent (he f t)
  · rintro t ⟨f, hsent, -⟩
    exact absurd hsent (he f t)
  · rintro t ⟨f, hsent, -⟩
    exact absurd hsent (he f t)

theorem Logged.sent (h : r.Logged) (f : ProtocolFrame) {decidedAt : ℤ} (ht : decidedAt ≤ r.clock)
    (hsync : f.messageType = .linkSync → syncPace.Open r.log decidedAt)
    (hwheel : f.messageType = .wheelVelocity → wheelPace.Open r.log decidedAt)
    (hbeat : f.messageType = .heartbeat → heartbeatPace.Open r.log decidedAt) :
    (r.emit (.sent f decidedAt)).Logged := by
  refine ⟨h.clock, syncPace_sent h.past (by simp only [emit]; omega), h.syncs.concat ?_,
    h.wheels.concat ?_, h.beats.concat ?_⟩
  · rintro _ ⟨_, hsent, htype⟩
    cases hsent
    exact hsync htype
  · rintro _ ⟨_, hsent, htype⟩
    cases hsent
    exact hwheel htype
  · rintro _ ⟨_, hsent, htype⟩
    cases hsent
    exact hbeat htype

theorem Paced.quiet (h : r.Paced t) {e : ClientEvent} (he : Quiet e) : (r.emit e).Paced t := by
  refine ⟨h.toLogged.quiet he, h.reading, fun hstate => syncPace_quiet (h.rest hstate) he, h.stamp,
    fun hstate => wheelPace_quiet (h.wheel hstate) he,
    fun hstate => ⟨(h.begun hstate).1, heartbeatPace_quiet (h.begun hstate).2 he⟩, fun hstate => ?_⟩
  obtain ⟨hepoch, ms, hstamp, hpast, hopen⟩ := h.beat hstate
  exact ⟨hepoch, ms, hstamp, hpast, heartbeatPace_quiet hopen he⟩

/-- A lifecycle frame of the synchronized epoch. -/
theorem Paced.lifecycle (h : r.Paced t) (hstate : r.state = .synchronized) {f : ProtocolFrame}
    (hf : f.messageType = .motionCommand) {decidedAt : ℤ} (ht : decidedAt ≤ r.clock) :
    (r.emit (.sent f decidedAt)).Paced t := by
  have hother {type : ProtocolMessageType} (htype : f.messageType = type) :
      type = .motionCommand := htype.symm.trans hf
  refine ⟨h.toLogged.sent f ht ?_ ?_ ?_, h.reading, ?_, h.stamp, ?_, ?_, ?_⟩
  · exact fun htype => absurd (hother htype) (by decide)
  · exact fun htype => absurd (hother htype) (by decide)
  · exact fun htype => absurd (hother htype) (by decide)
  · exact fun hrest => absurd (hstate.symm.trans hrest) (by decide)
  · exact fun hsession => wheelPace_sent (h.wheel hsession)
      fun htype => absurd (hother htype) (by decide)
  · exact fun hbegun => absurd (hstate.symm.trans hbegun) (by decide)
  · intro _
    obtain ⟨hepoch, ms, hstamp, hpast, hopen⟩ := h.beat hstate
    exact ⟨hepoch, ms, hstamp, hpast, heartbeatPace_skip hopen
      (fun htype => absurd (hother htype) (by decide))
      (fun htype => absurd (hother htype) (by decide))⟩

/-! ### The stages of a synchronized iteration -/

/-- The runner between two stages of an iteration, which has read the time `t` in an epoch that
began at `e`. -/
structure Running (r : Stm32ClientRunner) (e t : ℤ) : Prop where
  coherent : r.Coherent
  state : r.state = .synchronized
  epoch : r.epochStart = e
  paced : r.Paced t

/-- A stage that ends the epoch has at least kept the paces. -/
structure Kept (t : ℤ) (p : Option Bool × Stm32ClientRunner) : Prop where
  logged : p.2.Logged
  paced : p.1 ≠ some false → p.2.Paced t

structure Outcome (e t : ℤ) (p : Option Bool × Stm32ClientRunner) : Prop where
  coherent : p.2.Coherent
  state : p.2.state = .synchronized
  epoch : p.2.epochStart = e
  kept : Kept t p

theorem Outcome.andThen {p : Option Bool × Stm32ClientRunner}
    {stage : Stm32ClientRunner → Option Bool × Stm32ClientRunner} (h : Outcome e t p)
    (hstage : ∀ q : Stm32ClientRunner, q.Running e t → Outcome e t (stage q)) :
    Outcome e t (andThen p stage) := by
  obtain ⟨flow, q⟩ := p
  cases flow with
  | some result => exact h
  | none => exact hstage q ⟨h.coherent, h.state, h.epoch, h.kept.paced (by simp)⟩

section Stages
variable (env : ℕ → ClientAnswer)

theorem now_still (r : Stm32ClientRunner) : r.Still (r.now env).2 :=
  ⟨rfl, by simp [now], rfl, rfl, rfl, rfl, rfl, rfl⟩

/-- The sending of a lifecycle frame, up to the coherence that its caller sees to. -/
theorem Paced.transmitPending (h : r.Paced t) (hstate : r.state = .synchronized) {f : ProtocolFrame}
    (hf : f.messageType = .motionCommand) {decidedAt : ℤ} (ht : decidedAt ≤ r.clock) :
    Kept t (r.transmitPending env f decidedAt) := by
  have hsent := h.lifecycle hstate hf ht
  rw [Stm32ClientRunner.transmitPending]
  dsimp only [sendFrame]
  split_ifs
  · have hmarked := (Stm32MotionSession.markPendingTransmitted_sameLifecycle r.motionSession
      (currentMs env { r.emit (.sent f decidedAt) with calls := r.calls + 1 }).1).state
    have hstill := hsent.still (q := { (currentMs env { r.emit (.sent f decidedAt) with
        calls := r.calls + 1 }).2 with
      motionSession := r.motionSession.markPendingTransmitted
        (currentMs env { r.emit (.sent f decidedAt) with calls := r.calls + 1 }).1 })
      ⟨rfl, by simp [currentMs, now], rfl, rfl, rfl, rfl, hmarked, rfl⟩
    exact ⟨hstill.toLogged, fun _ => hstill⟩
  · exact ⟨hsent.toLogged.advance rfl le_rfl, fun hlost => absurd rfl hlost⟩

theorem Running.checkTimeouts (h : r.Running e t) (nowMs : UInt32) :
    Outcome e t (r.checkTimeouts nowMs) := by
  have hstill : r.Still { r with linkSession := r.linkSession.checkLinkTimeout nowMs } := by
    refine ⟨rfl, le_rfl, rfl, rfl, rfl, rfl, rfl, ?_⟩
    simp only [Stm32LinkSession.checkLinkTimeout]
    split_ifs <;> rfl
  have hchecked := h.paced.still hstill
  have hcoherent : Coherent { r with linkSession := r.linkSession.checkLinkTimeout nowMs } :=
    h.coherent.congr rfl (.refl _) rfl
  simp only [Stm32ClientRunner.checkTimeouts]
  split_ifs <;> exact ⟨hcoherent, h.state, h.epoch, hchecked.toLogged, fun _ => hchecked⟩

theorem Running.retryMotion (h : r.Running e t) (nowMs : UInt32) :
    Outcome e t (r.retryMotion env nowMs) := by
  have hsession := r.motionSession.retryIfDue_sameLifecycle nowMs
  have hframe := r.motionSession.retryIfDue_frame nowMs
  have hadvances : Advances r (r.retryMotion env nowMs).2 := by
    obtain ⟨-, hadvances, -⟩ | ⟨-, hsent⟩ := retryMotion_outcome env nowMs r
    · exact hadvances
    · exact hsent.advances
  refine ⟨h.coherent.retryMotion env nowMs, hadvances.state.trans h.state,
    hadvances.epochStart.trans h.epoch, ?_⟩
  rw [Stm32ClientRunner.retryMotion]
  generalize r.motionSession.retryIfDue nowMs = retried at hsession hframe ⊢
  obtain ⟨retry, session⟩ := retried
  have hretried := h.paced.still (q := { r with motionSession := session })
    ⟨rfl, le_rfl, rfl, rfl, rfl, rfl, hsession.state, rfl⟩
  cases retry with
  | none => exact ⟨hretried.toLogged, fun _ => hretried⟩
  | some f =>
    obtain ⟨hpending, rfl⟩ := hframe f rfl
    obtain ⟨-, hpendingFrame, -⟩ := h.coherent.session.pending hpending
    have htype : r.motionSession.pendingFrame.messageType = .motionCommand := by
      rw [hpendingFrame]
      rfl
    exact hretried.transmitPending env h.state htype le_rfl

theorem Running.startMotion (h : r.Running e t) : Outcome e t (r.startMotion env) := by
  have htime := h.paced.still (now_still env r)
  have hclock : (r.now env).1 = (r.now env).2.clock := rfl
  have hstate : (r.now env).2.state = .synchronized := h.state
  have hadvances := (startMotion_outcome env r).advances
  refine ⟨h.coherent.startMotion env h.state, hadvances.state.trans h.state,
    hadvances.epochStart.trans h.epoch, ?_⟩
  rw [Stm32ClientRunner.startMotion]
  generalize r.now env = timed at htime hclock hstate ⊢
  obtain ⟨time, q⟩ := timed
  dsimp only at htime hclock hstate ⊢
  split_ifs
  · have hnone := q.motionSession.beginStartSession_none (env q.calls).sessionId
    have hbegins := q.motionSession.beginStartSession_begins (env q.calls).sessionId
    generalize q.motionSession.beginStartSession (env q.calls).sessionId = started at hnone hbegins ⊢
    obtain ⟨start, session⟩ := started
    cases start with
    | none =>
      cases hnone rfl
      have hcleared := htime.still (q := { q with
          calls := q.calls + 1
          motionSessionId := 0
          latestWheelCommand := none
          latestWheelCommandTime := 0 }) ⟨rfl, le_rfl, rfl, rfl, rfl, rfl, rfl, rfl⟩
      exact ⟨hcleared.toLogged, fun _ => hcleared⟩
    | some f =>
      obtain ⟨hframe, -⟩ := hbegins f rfl
      -- The session has no wheel frames yet.
      have hquiet : Quiet (.startBegun (env q.calls).sessionId) := fun f t => by simp
      have hbegun := htime.quiet hquiet
      have hstarted : Paced (emit { q with
          calls := q.calls + 1
          motionSession := session
          motionSessionId := (env q.calls).sessionId } (.startBegun (env q.calls).sessionId)) t :=
        ⟨hbegun.toLogged.advance rfl le_rfl, hbegun.reading, hbegun.rest, hbegun.stamp,
          fun _ => wheelPace_startBegun _ _ _, hbegun.begun, hbegun.beat⟩
      have htype : f.messageType = .motionCommand := by
        rw [hframe.frame]
        rfl
      exact hstarted.transmitPending env hstate htype hclock.le
  · exact ⟨htime.toLogged, fun _ => htime⟩

/-- The wheel stage sends nothing, fails to send, or sends a frame and stamps it. -/
theorem sendWheel_cases (env : ℕ → ClientAnswer) (time : ℤ) (r : Stm32ClientRunner) :
    r.sendWheel env time = (none, r) ∨
      r.motionSession.state = .active ∧
        (r.lastWheelTransmitTime = 0 ∨ time - r.lastWheelTransmitTime ≥ wheelTxPeriod) ∧
        ∃ f session stamp, f.messageType = .wheelVelocity ∧ r.clock ≤ stamp ∧
          r.motionSession.SameLifecycle session ∧
          (r.sendWheel env time = (some false, { r.emit (.sent f time) with
              motionSession := session
              calls := r.calls + 1
              transportFailed := true }) ∨
            r.sendWheel env time = (none, { r.emit (.sent f time) with
              motionSession := session
              calls := r.calls + 2
              clock := stamp
              lastWheelTransmitTime := stamp })) := by
  by_cases hdue : r.motionSession.state = .active ∧ r.demandsMotion time ∧
      (r.lastWheelTransmitTime = 0 ∨ time - r.lastWheelTransmitTime ≥ wheelTxPeriod)
  · have hsession := r.motionSession.buildWheelVelocity_sameLifecycle
      (r.latestWheelCommand.getD {}).leftVelocityMmS (r.latestWheelCommand.getD {}).rightVelocityMmS
    obtain ⟨f, hframe, htype⟩ : ∃ f, (r.motionSession.buildWheelVelocity
        (r.latestWheelCommand.getD {}).leftVelocityMmS
        (r.latestWheelCommand.getD {}).rightVelocityMmS).1 = some f ∧
          f.messageType = .wheelVelocity :=
      ⟨_, r.motionSession.buildWheelVelocity_active hdue.1 _ _, rfl⟩
    refine .inr ⟨hdue.1, hdue.2.2, f, _, r.clock + (env (r.calls + 1)).advanceNs, htype, by omega,
      hsession, ?_⟩
    rw [sendWheel, if_pos hdue]
    dsimp only
    rw [hframe]
    cases hok : (env r.calls).ok with
    | false =>
      left
      simp only [sendFrame, hok]
      rfl
    | true =>
      right
      simp only [sendFrame, hok]
      rfl
  · exact .inl (if_neg hdue)

/-- The stamp after a wheel frame is no earlier than the decision to send it. -/
theorem Running.sendWheel (h : r.Running e t) : Outcome e t (r.sendWheel env r.clock) := by
  have hadvances := (sendWheel_outcome env r.clock r).1
  refine ⟨h.coherent.sendWheel env r.clock, hadvances.state.trans h.state,
    hadvances.epochStart.trans h.epoch, ?_⟩
  obtain hnone | ⟨hactive, hpause, f, session, stamp, htype, hstamp, hsession, hcases⟩ :=
    sendWheel_cases env r.clock r
  · rw [hnone]
    exact ⟨h.paced.toLogged, fun _ => h.paced⟩
  · have hclock := h.paced.clock
    have hopen : wheelPace.Open r.log r.clock := by
      refine (h.paced.wheel (.inr hactive)).mono ?_
      rw [wheelLimit]
      split_ifs with hnone
      · exact hclock.le
      · have hpassed := hpause.resolve_left hnone
        omega
    have hother {type : ProtocolMessageType} (hne : type ≠ .wheelVelocity) : f.messageType ≠ type :=
      fun hf => hne (hf.symm.trans htype)
    have hlogged : (r.emit (.sent f r.clock)).Logged :=
      h.paced.toLogged.sent f le_rfl (fun hf => absurd hf (hother (by decide))) (fun _ => hopen)
        (fun hf => absurd hf (hother (by decide)))
    obtain hlost | hsent := hcases
    · rw [hlost]
      exact ⟨hlogged.advance rfl le_rfl, fun hflow => absurd rfl hflow⟩
    · rw [hsent]
      refine ⟨hlogged.advance rfl hstamp, fun _ => ⟨hlogged.advance rfl hstamp,
        h.paced.reading.trans hstamp, ?_, hclock.le.trans hstamp, fun _ => ?_, ?_, fun _ => ?_⟩⟩
      · exact fun hrest => absurd (h.state.symm.trans hrest) (by decide)
      · have hlimit : r.clock + wheelTxPeriod ≤ stamp + wheelTxPeriod := by omega
        rw [wheelLimit, if_neg (by dsimp only; omega)]
        exact wheelPace_sent (hopen.mono (by simp only [wheelTxPeriod, millisecondNs]; omega))
          fun _ => hlimit
      · exact fun hbegun => absurd (h.state.symm.trans hbegun) (by decide)
      · obtain ⟨hepoch, ms, hms, hpast, hlimit⟩ := h.paced.beat h.state
        exact ⟨hepoch, ms, hms, hpast,
          heartbeatPace_skip hlimit (hother (by decide)) (hother (by decide))⟩

theorem Running.endMotion (h : r.Running e t) {time : ℤ} (htime : time ≤ r.clock) :
    Outcome e t (r.endMotion env time) := by
  have hadvances := (endMotion_outcome env time r).advances
  refine ⟨h.coherent.endMotion env time h.state, hadvances.state.trans h.state,
    hadvances.epochStart.trans h.epoch, ?_⟩
  rw [Stm32ClientRunner.endMotion]
  split_ifs
  · have hnone := r.motionSession.beginEndSession_none r.motionSessionId
    have hbegins := r.motionSession.beginEndSession_begins r.motionSessionId
    generalize r.motionSession.beginEndSession r.motionSessionId = ended at hnone hbegins ⊢
    obtain ⟨stop, session⟩ := ended
    cases stop with
    | none =>
      cases hnone rfl
      exact ⟨h.paced.toLogged, fun _ => h.paced⟩
    | some f =>
      obtain ⟨hframe, hend, -⟩ := hbegins f rfl
      have hquiet : Quiet (.endBegun r.motionSessionId) := fun f t => by simp
      have hbegun := h.paced.quiet hquiet
      have hdone : ¬ (session.state = .startPending ∨ session.state = .active) := by
        rw [show session.state = .endPending from hend]
        decide
      have hended : Paced (emit { r with motionSession := session } (.endBegun r.motionSessionId)) t :=
        ⟨hbegun.toLogged.advance rfl le_rfl, hbegun.reading, hbegun.rest, hbegun.stamp,
          fun hdriven => absurd hdriven hdone, hbegun.begun, hbegun.beat⟩
      have htype : f.messageType = .motionCommand := by
        rw [hframe.frame]
        rfl
      obtain ⟨hlogged, hpaced⟩ := hended.transmitPending env h.state htype htime
      have hsession := (transmitPending_idle env
        (emit { r with motionSession := session } (.endBegun r.motionSessionId)) f time).session.state
      dsimp only
      split_ifs with hflow
      · have hsent := hpaced (by simp [hflow])
        refine ⟨hlogged.advance rfl le_rfl, fun _ => ⟨hlogged.advance rfl le_rfl, hsent.reading,
          hsent.rest, le_rfl, ?_, hsent.begun, hsent.beat⟩⟩
        intro hdriven
        rw [hsession] at hdriven
        exact absurd hdriven hdone
      · exact ⟨hlogged, hpaced⟩
  · exact ⟨h.paced.toLogged, fun _ => h.paced⟩

theorem Running.driveMotion (h : r.Running e t) : Outcome e t (r.driveMotion env) := by
  have htime : (r.now env).2.Running e t :=
    ⟨h.coherent.congr rfl (.refl _) rfl, h.state, h.epoch, h.paced.still (now_still env r)⟩
  have hwheel : Outcome e t ((r.now env).2.sendWheel env (r.now env).1) := htime.sendWheel env
  have hadvances := (driveMotion_outcome env r).advances
  refine ⟨h.coherent.driveMotion env h.state, hadvances.state.trans h.state,
    hadvances.epochStart.trans h.epoch, ?_⟩
  have hclock := (sendWheel_outcome env (r.now env).1 (r.now env).2).1.clock
  change Kept t (andThen ((r.now env).2.sendWheel env (r.now env).1)
    (Stm32ClientRunner.endMotion env (r.now env).1))
  generalize (r.now env).2.sendWheel env (r.now env).1 = p at hwheel hclock ⊢
  obtain ⟨flow, q⟩ := p
  cases flow with
  | some result => exact hwheel.kept
  | none =>
    have hq : q.Running e t :=
      ⟨hwheel.coherent, hwheel.state, hwheel.epoch, hwheel.kept.paced (by simp)⟩
    exact (hq.endMotion env hclock).kept

theorem sendHeartbeat_epochStart (env : ℕ → ClientAnswer) (nowMs : UInt32) (r : Stm32ClientRunner) :
    (r.sendHeartbeat env nowMs).2.epochStart = r.epochStart := by
  rw [Stm32ClientRunner.sendHeartbeat]
  generalize r.linkSession.heartbeatIfDue nowMs = due
  obtain ⟨heartbeat, link⟩ := due
  cases heartbeat with
  | none => rfl
  | some f =>
    unfold sendFrame
    dsimp only
    split_ifs <;> rfl

/-- A heartbeat that is due by the milliseconds of the epoch is due by the clock, since what the
difference leaves out are whole rounds of the counter. -/
theorem Running.sendHeartbeat (h : r.Running e t) :
    Outcome e t (r.sendHeartbeat env (elapsedMs { epochStart := e } t)) := by
  obtain ⟨hepoch, ms, hms, hpast, hopen⟩ := h.paced.beat h.state
  refine ⟨h.coherent.sendHeartbeat env _, (sendHeartbeat_stage env _ h.state).state.trans h.state,
    (sendHeartbeat_epochStart env _ r).trans h.epoch, ?_⟩
  rw [show elapsedMs { epochStart := e } t = r.elapsedMs t by rw [elapsedMs, elapsedMs, h.epoch]]
  have hreading := h.paced.reading
  rw [Stm32ClientRunner.sendHeartbeat, Stm32LinkSession.heartbeatIfDue]
  split_ifs with hlink hearly
  · exact ⟨h.paced.toLogged, fun _ => h.paced⟩
  · exact ⟨h.paced.toLogged, fun _ => h.paced⟩
  · have hdue : ms + 250 ≤ msSince r.epochStart t := by
      have hle : ms ≤ msSince r.epochStart t := by
        rw [msSince]
        simp only [millisecondNs] at hpast
        omega
      have helapsed := UInt32.not_lt.mp hearly
      rw [elapsedMs_eq hepoch, hms, UInt32.le_iff_toNat_le, toNat_elapsed hle] at helapsed
      have hmod := Nat.mod_le (msSince r.epochStart t - ms) (2 ^ 32)
      have hperiod : Stm32LinkSession.heartbeatPeriodMs.toNat = 250 := rfl
      omega
    have hnow : r.epochStart + msSince r.epochStart t * millisecondNs ≤ t := by
      simp only [msSince, millisecondNs]
      omega
    have hbeat : heartbeatPace.Open r.log (r.epochStart + msSince r.epochStart t * millisecondNs) := by
      refine hopen.mono ?_
      simp only [heartbeatPeriod, millisecondNs]
      omega
    generalize hf : Stm32LinkSession.clientHeartbeatFrame _ _ = f
    have htype : f.messageType = .heartbeat := by
      rw [← hf]
      rfl
    have hother {type : ProtocolMessageType} (hne : type ≠ .heartbeat) : f.messageType ≠ type :=
      fun h => hne (h.symm.trans htype)
    have hlogged : (r.emit (.sent f r.clock)).Logged :=
      h.paced.toLogged.sent f le_rfl (fun hf => absurd hf (hother (by decide)))
        (fun hf => absurd hf (hother (by decide))) (fun _ => hbeat.mono (hnow.trans hreading))
    dsimp only [sendFrame]
    split_ifs
    · refine ⟨hlogged.advance rfl le_rfl, fun _ => ⟨hlogged.advance rfl le_rfl, hreading, ?_,
        h.paced.stamp, fun hsession => ?_, ?_, fun _ => ⟨hepoch, msSince r.epochStart t,
          elapsedMs_eq hepoch, hnow, heartbeatPace_heartbeat hbeat htype⟩⟩⟩
      · exact fun hrest => absurd (h.state.symm.trans hrest) (by decide)
      · exact wheelPace_sent (h.paced.wheel hsession) fun hf => absurd hf (hother (by decide))
      · exact fun hbegun => absurd (h.state.symm.trans hbegun) (by decide)
    · exact ⟨hlogged.advance rfl le_rfl, fun hflow => absurd rfl hflow⟩

/-- A response that makes the session active leaves the stamp of the wheel frames alone. -/
theorem Running.handleMotionResponse (h : r.Running e t) (f : ProtocolFrame) :
    (r.handleMotionResponse f).Paced t := by
  have hcases := r.motionSession.handleResponse_cases f
  simp only [Stm32ClientRunner.handleMotionResponse]
  generalize r.motionSession.handleResponse f = handled at hcases ⊢
  obtain rfl | ⟨result, rfl, hanswers⟩ := hcases
  · exact h.paced
  · have hquiet : Quiet (.responseAccepted r.motionSession.pendingCommand
        r.motionSession.pendingSessionId result) := fun f t => by simp
    have hheard := h.paced.quiet hquiet
    have hsettled := r.motionSession.settle_state h.coherent.session hanswers.pending result
    dsimp only
    rcases hsettled with ⟨hactive, -, hstart, -⟩ | ⟨hinactive, -⟩
    · simp only [hstart, hactive, ne_eq, not_true, if_true, if_false]
      exact ⟨hheard.toLogged.advance rfl le_rfl, hheard.reading, hheard.rest, hheard.stamp,
        fun _ => hheard.wheel (.inl hstart), hheard.begun, hheard.beat⟩
    · have hdone : ¬ ((r.motionSession.settle result).state = .startPending ∨
          (r.motionSession.settle result).state = .active) := by
        rw [hinactive]
        decide
      have hpaced (stamp : ℤ) (hstamp : 0 ≤ stamp) (sessionId : UInt32) :
          Paced { r.emit (.responseAccepted r.motionSession.pendingCommand
              r.motionSession.pendingSessionId result) with
            motionSession := r.motionSession.settle result
            motionSessionId := sessionId
            lastWheelTransmitTime := stamp } t :=
        ⟨hheard.toLogged.advance rfl le_rfl, hheard.reading, hheard.rest, hstamp,
          fun hdriven => absurd hdriven hdone, hheard.begun, hheard.beat⟩
      split_ifs
      · exact hpaced 0 le_rfl 0
      · exact hpaced r.lastWheelTransmitTime h.paced.stamp r.motionSessionId
      · exact hpaced 0 le_rfl 0
      · exact hpaced r.lastWheelTransmitTime h.paced.stamp r.motionSessionId

theorem handleHeartbeatResponse_lastHeartbeatTxMs (l : Stm32LinkSession) (f : ProtocolFrame)
    (nowMs : UInt32) :
    (l.handleHeartbeatResponse f nowMs).2.lastHeartbeatTxMs = l.lastHeartbeatTxMs := by
  simp only [Stm32LinkSession.handleHeartbeatResponse]
  split_ifs <;> rfl

theorem handleFrame_epochStart (env : ℕ → ClientAnswer) (f : ProtocolFrame) (r : Stm32ClientRunner) :
    (handleFrame env f r).2.epochStart = r.epochStart := by
  simp only [Stm32ClientRunner.handleFrame]
  split_ifs
  · rfl
  · rfl
  · rfl
  · simp only [Stm32ClientRunner.handleMotionResponse]
    split
    · rfl
    · split_ifs <;> rfl

theorem Running.handleFrame (h : r.Running e t) (f : ProtocolFrame) :
    Outcome e t (handleFrame env f r) := by
  refine ⟨h.coherent.handleFrame env h.state f, (handleFrame_steps env f r h.state).2.trans h.state,
    (handleFrame_epochStart env f r).trans h.epoch, ?_⟩
  have htime : (r.currentMs env).2.Running e t :=
    ⟨h.coherent.congr rfl (.refl _) rfl, h.state, h.epoch, h.paced.still (now_still env r)⟩
  rw [Stm32ClientRunner.handleFrame]
  generalize r.currentMs env = timed at htime ⊢
  obtain ⟨nowMs, q⟩ := timed
  have hack := q.motionSession.handleAck_sameLifecycle f nowMs
  have hbeat := handleHeartbeatResponse_lastHeartbeatTxMs q.linkSession f nowMs
  have hheard : Running { q with
      linkSession := (q.linkSession.handleHeartbeatResponse f nowMs).2 } e t :=
    ⟨htime.coherent.congr rfl (.refl _) rfl, htime.state, htime.epoch,
      htime.paced.still ⟨rfl, le_rfl, rfl, rfl, rfl, rfl, rfl, hbeat⟩⟩
  have hacked : Running { q with
      linkSession := (q.linkSession.handleHeartbeatResponse f nowMs).2
      motionSession := (q.motionSession.handleAck f nowMs).2 } e t :=
    ⟨hheard.coherent.congr rfl hack rfl, htime.state, htime.epoch,
      hheard.paced.still ⟨rfl, le_rfl, rfl, rfl, rfl, rfl, hack.state, rfl⟩⟩
  dsimp only
  split_ifs
  · exact ⟨hheard.paced.toLogged, fun _ => hheard.paced⟩
  · exact ⟨hheard.paced.toLogged, fun _ => hheard.paced⟩
  · exact ⟨hacked.paced.toLogged, fun _ => hacked.paced⟩
  · have hanswered := hacked.handleMotionResponse f
    exact ⟨hanswered.toLogged, fun _ => hanswered⟩

theorem Running.calls (h : r.Running e t) (calls : ℕ) (decoder : ProtocolFrameDecoder) :
    Running { r with calls := calls, decoder := decoder } e t :=
  ⟨h.coherent.congr rfl (.refl _) rfl, h.state, h.epoch,
    h.paced.still ⟨rfl, le_rfl, rfl, rfl, rfl, rfl, rfl, rfl⟩⟩

theorem Running.feedBytes (h : r.Running e t) (bytes : List UInt8) :
    Outcome e t (feedBytes (Stm32ClientRunner.handleFrame env) r bytes) := by
  induction bytes generalizing r with
  | nil => exact ⟨h.coherent, h.state, h.epoch, h.paced.toLogged, fun _ => h.paced⟩
  | cons byte rest ih =>
    rw [Stm32ClientRunner.feedBytes]
    generalize r.decoder.feedByte byte = fed
    obtain ⟨reported, decoder⟩ := fed
    have hfed := h.calls r.calls decoder
    cases reported with
    | none => exact ih hfed
    | some f =>
      have hhandled := hfed.handleFrame env f
      dsimp only
      generalize Stm32ClientRunner.handleFrame env f { r with decoder := decoder } = handled
        at hhandled ⊢
      obtain ⟨flow, q⟩ := handled
      cases flow with
      | some result => exact hhandled
      | none =>
        exact ih ⟨hhandled.coherent, hhandled.state, hhandled.epoch, hhandled.kept.paced (by simp)⟩

theorem Running.receive (h : r.Running e t) :
    Outcome e t (r.receive env (Stm32ClientRunner.handleFrame env)) := by
  have hlost (calls : ℕ) : Outcome e t (transportLost { r with calls := calls }) :=
    ⟨h.coherent.congr rfl (.refl _) rfl, h.state, h.epoch, h.paced.toLogged.advance rfl le_rfl,
      fun hflow => absurd rfl hflow⟩
  simp only [Stm32ClientRunner.receive]
  split_ifs
  · exact hlost _
  · split
    · exact hlost _
    · exact (h.calls _ r.decoder).feedBytes env _
  · have hwaited := h.calls (r.calls + 1) r.decoder
    exact ⟨hwaited.coherent, hwaited.state, hwaited.epoch, hwaited.paced.toLogged,
      fun _ => hwaited.paced⟩

/-- The whole iteration, whose time is that of its first reading. -/
theorem Running.runSynchronizedIteration (h : r.Running e t) : ∃ p t',
    r.runSynchronizedIteration env = (p.1.getD true, p.2) ∧ Outcome e t' p := by
  have hadvance : r.clock ≤ (r.now env).2.clock := (now_still env r).clock
  have htime : (r.now env).2.Running e (r.now env).1 :=
    ⟨h.coherent.congr rfl (.refl _) rfl, h.state, h.epoch, (h.paced.still (now_still env r)).read
      (h.paced.reading.trans hadvance) le_rfl⟩
  have hms : (r.currentMs env).1 = elapsedMs { epochStart := e } (r.now env).1 := by
    rw [← h.epoch]
    rfl
  have hcheck := htime.checkTimeouts (r.currentMs env).1
  have hretry := hcheck.andThen fun q hq => hq.retryMotion env (r.currentMs env).1
  have hstart := hretry.andThen fun q hq => hq.startMotion env
  have hdrive := hstart.andThen fun q hq => hq.driveMotion env
  have hbeat := hdrive.andThen fun q hq => hq.sendHeartbeat env
  rw [← hms] at hbeat
  have hreceive := hbeat.andThen fun q hq => hq.receive env
  exact ⟨_, _, rfl, hreceive⟩

/-! ### The other states -/

theorem Paced.now (h : r.Paced t) : r.Paced r.clock := h.read h.reading le_rfl

/-- A runner without an epoch that has a pause before it. -/
theorem Logged.resting (h : r.Logged) (hstate : r.state = .disconnected)
    (hinactive : r.motionSession.state = .inactive) (hstamp : 0 ≤ r.lastWheelTransmitTime)
    (hrest : syncPace.Open r.log r.reconnectDeadline) : r.Paced r.clock := by
  refine ⟨h, le_rfl, fun _ => hrest, hstamp, ?_, ?_, ?_⟩
  · rw [hinactive]
    exact fun hdriven => absurd hdriven (by decide)
  · rw [hstate]
    exact fun hbegun => absurd hbegun (by decide)
  · rw [hstate]
    exact fun hbeat => absurd hbeat (by decide)

theorem Logged.scheduleReconnect (h : r.Logged) (hstate : r.state = .disconnected)
    (hinactive : r.motionSession.state = .inactive) (hstamp : 0 ≤ r.lastWheelTransmitTime) :
    (r.scheduleReconnect env).Paced (r.scheduleReconnect env).clock := by
  have hclock : r.clock ≤ (r.scheduleReconnect env).clock := (now_still env r).clock
  have hdeadline : (r.scheduleReconnect env).reconnectDeadline =
      (r.scheduleReconnect env).clock + reconnectPause := rfl
  have hlogged : (r.scheduleReconnect env).Logged := h.advance rfl hclock
  refine hlogged.resting hstate hinactive hstamp ?_
  rw [hdeadline]
  exact h.past.mono (by omega)

theorem Logged.endEpoch (h : r.Logged) : (r.endEpoch env).Paced (r.endEpoch env).clock :=
  (h.advance rfl le_rfl : r.disconnectCurrentEpoch.Logged).scheduleReconnect env rfl rfl le_rfl

/-- The answer to LINK_SYNC is stamped as if it were a heartbeat. -/
theorem Paced.synchronized (h : r.Paced r.clock) (hstate : r.state = .synchronizing)
    {link : Stm32LinkSession} (hlink : link.lastHeartbeatTxMs = r.elapsedMs r.clock) :
    Paced { r with linkSession := link, state := .synchronized } r.clock := by
  obtain ⟨hepoch, hopen⟩ := h.begun hstate
  have hms : link.lastHeartbeatTxMs = UInt32.ofNat (msSince r.epochStart r.clock) :=
    hlink.trans (elapsedMs_eq hepoch)
  refine ⟨h.toLogged.advance rfl le_rfl, le_rfl, ?_, h.stamp, h.wheel, ?_, fun _ => ⟨hepoch,
    msSince r.epochStart r.clock, hms, ?_, hopen.mono ?_⟩⟩
  · exact fun hrest => absurd hrest (by simp)
  · exact fun hbegun => absurd hbegun (by simp)
  · simp only [msSince, millisecondNs]
    omega
  · simp only [millisecondNs]
    omega

theorem Paced.handleSyncFrame (h : r.Paced r.clock) (hstate : r.state = .synchronizing)
    (f : ProtocolFrame) :
    (handleSyncFrame env f r).2.Paced (handleSyncFrame env f r).2.clock ∧
      ((handleSyncFrame env f r).1 = none → (handleSyncFrame env f r).2.state = .synchronizing) := by
  have htime : (r.currentMs env).2.Paced (r.currentMs env).2.clock := (h.still (now_still env r)).now
  have hms : (r.currentMs env).1 = (r.currentMs env).2.elapsedMs (r.currentMs env).2.clock := rfl
  have hq : (r.currentMs env).2.state = .synchronizing := hstate
  rw [Stm32ClientRunner.handleSyncFrame]
  generalize r.currentMs env = timed at htime hms hq ⊢
  obtain ⟨nowMs, q⟩ := timed
  dsimp only at htime hms hq ⊢
  obtain hrefused | haccepted := handleLinkSyncOk_cases q.linkSession f nowMs
  · rw [hrefused, if_neg (by simp)]
    exact ⟨htime, fun _ => hq⟩
  · rw [haccepted, if_pos rfl]
    exact ⟨htime.synchronized hq hms, fun hflow => absurd hflow (by simp)⟩

theorem Paced.feedBytes (h : r.Paced r.clock) (hstate : r.state = .synchronizing)
    (bytes : List UInt8) :
    (feedBytes (Stm32ClientRunner.handleSyncFrame env) r bytes).2.Paced
      (feedBytes (Stm32ClientRunner.handleSyncFrame env) r bytes).2.clock := by
  induction bytes generalizing r with
  | nil => exact h
  | cons byte rest ih =>
    rw [Stm32ClientRunner.feedBytes]
    generalize r.decoder.feedByte byte = fed
    obtain ⟨reported, decoder⟩ := fed
    have hfed : Paced { r with decoder := decoder } r.clock :=
      h.still ⟨rfl, le_rfl, rfl, rfl, rfl, rfl, rfl, rfl⟩
    cases reported with
    | none => exact ih hfed hstate
    | some f =>
      obtain ⟨hhandled, hstill⟩ := hfed.handleSyncFrame env hstate f
      dsimp only
      generalize Stm32ClientRunner.handleSyncFrame env f { r with decoder := decoder } = handled
        at hhandled hstill ⊢
      obtain ⟨flow, q⟩ := handled
      cases flow with
      | some result => exact hhandled
      | none => exact ih hhandled (hstill rfl)

theorem Paced.receive (h : r.Paced r.clock) (hstate : r.state = .synchronizing) :
    (r.receive env (Stm32ClientRunner.handleSyncFrame env)).2.Paced
      (r.receive env (Stm32ClientRunner.handleSyncFrame env)).2.clock := by
  have hpassed (calls : ℕ) (failed : Bool) :
      Paced { r with calls := calls, transportFailed := failed } r.clock :=
    h.still ⟨rfl, le_rfl, rfl, rfl, rfl, rfl, rfl, rfl⟩
  simp only [Stm32ClientRunner.receive]
  split_ifs
  · exact hpassed _ true
  · split
    · exact hpassed _ true
    · exact (hpassed (r.calls + 1 + 1) r.transportFailed).feedBytes env hstate _
  · exact hpassed _ r.transportFailed

theorem Paced.runSynchronizingIteration (h : r.Paced r.clock) (hstate : r.state = .synchronizing) :
    (r.runSynchronizingIteration env).2.Paced (r.runSynchronizingIteration env).2.clock := by
  have htime : (r.now env).2.Paced (r.now env).2.clock := (h.still (now_still env r)).now
  simp only [Stm32ClientRunner.runSynchronizingIteration]
  split_ifs
  · exact htime
  · exact htime.receive env hstate

/-- LINK_SYNC goes out once the pause is over, and limits the heartbeats from then on. -/
theorem Logged.beginConnectionEpoch (h : r.Logged) (hopen : syncPace.Open r.log r.clock)
    (hstate : r.state = .disconnected) (hinactive : r.motionSession.state = .inactive)
    (hstamp : 0 ≤ r.lastWheelTransmitTime) :
    (r.beginConnectionEpoch env).2.Paced (r.beginConnectionEpoch env).2.clock := by
  have hquiet : Quiet .epochBegan := fun f t => by simp
  have hclock : r.clock ≤ r.clock + (env (r.calls + 1)).advanceNs := by omega
  obtain ⟨f, hf, htype⟩ : ∃ f, Stm32LinkSession.linkSyncFrame r.linkSession.nextSequence
      (env (r.calls + 1 + 1)).syncToken = f ∧ f.messageType = .linkSync := ⟨_, rfl, rfl⟩
  have hother {type : ProtocolMessageType} (hne : type ≠ .linkSync) : f.messageType ≠ type :=
    fun h => hne (h.symm.trans htype)
  have htime : Logged { r.emit .epochBegan with clock := r.clock + (env (r.calls + 1)).advanceNs } :=
    (h.quiet hquiet).advance rfl hclock
  have hsent := htime.sent f le_rfl (fun _ => syncPace_quiet (hopen.mono hclock) hquiet)
    (fun hf => absurd hf (hother (by decide))) (fun hf => absurd hf (hother (by decide)))
  have hbeats : heartbeatPace.Open (r.log ++ [.epochBegan] ++
      [.sent f (r.clock + (env (r.calls + 1)).advanceNs)])
      (r.clock + (env (r.calls + 1)).advanceNs + heartbeatPeriod) :=
    heartbeatPace_linkSync _ htype _
  rw [← hf] at hsent hbeats
  rw [Stm32ClientRunner.beginConnectionEpoch]
  dsimp only [sendFrame]
  split_ifs
  · have hlater : r.clock + (env (r.calls + 1)).advanceNs ≤ r.clock +
        (env (r.calls + 1)).advanceNs + (env (r.calls + 1 + 1 + 1 + 1)).advanceNs := by omega
    refine ⟨hsent.advance rfl hlater, le_rfl, ?_, le_rfl, ?_, fun _ => ⟨hlater, hbeats⟩, ?_⟩
    · exact fun hrest => absurd hrest (by simp [Stm32ClientRunner.now])
    · exact fun hdriven => absurd hdriven (by
        simp [Stm32ClientRunner.now, clearEpoch, emit, Stm32MotionSession.reset])
    · exact fun hbeat => absurd hbeat (by simp [Stm32ClientRunner.now])
  · exact Logged.scheduleReconnect env (hsent.advance rfl le_rfl) rfl rfl le_rfl
  · exact Logged.scheduleReconnect env (h.advance rfl le_rfl) hstate hinactive hstamp

theorem Paced.poll (h : r.Paced r.clock) (hcoherent : r.Coherent) :
    (r.poll env).Paced (r.poll env).clock := by
  rw [Stm32ClientRunner.poll]
  cases hstate : r.state with
  | synchronized =>
    obtain ⟨p, t, hp, houtcome⟩ := Running.runSynchronizedIteration env
      ⟨hcoherent, hstate, rfl, h⟩
    dsimp only
    rw [hp]
    obtain ⟨_ | _ | _, q⟩ := p
    · exact (houtcome.kept.paced (by simp)).now
    · exact houtcome.kept.logged.endEpoch env
    · exact (houtcome.kept.paced (by simp)).now
  | synchronizing =>
    have hpaced := h.runSynchronizingIteration env hstate
    dsimp only
    split_ifs
    · exact hpaced
    · exact hpaced
    · exact hpaced.toLogged.endEpoch env
  | disconnected =>
    have htime := (h.still (now_still env r)).now
    dsimp only
    split_ifs with hwait
    · exact htime
    · -- A deadline of zero stands for none, and then the log sets no limit.
      refine Logged.beginConnectionEpoch env (htime.toLogged.advance rfl le_rfl) ?_ hstate
        (hcoherent.epoch (by simp [hstate])) htime.stamp
      refine (htime.rest hstate).mono ?_
      have hclock := htime.clock
      have hpassed : (r.now env).2.reconnectDeadline = 0 ∨
          (r.now env).2.reconnectDeadline ≤ (r.now env).1 := by
        rw [not_and_or, not_not, not_lt] at hwait
        exact hwait
      obtain hnone | hover := hpassed
      · rw [hnone]
        exact hclock.le
      · exact hover

theorem Paced.setWheelCommand (h : r.Paced r.clock) (c : WheelVelocityCommand) :
    (r.setWheelCommand env c).Paced (r.setWheelCommand env c).clock := by
  have htime := (h.still (now_still env r)).now
  have hquiet : Quiet (.wheelCommand c (r.now env).1) := fun f t => by simp
  exact (htime.quiet hquiet).still ⟨rfl, le_rfl, rfl, rfl, rfl, rfl, rfl, rfl⟩

end Stages

theorem Paced.initial {clock : ℤ} (h : 0 < clock) : Paced { clock := clock } clock := by
  refine ⟨⟨h, Pace.open_nil, always_nil, always_nil, always_nil⟩, le_rfl, fun _ => Pace.open_nil,
    le_rfl, fun _ => Pace.open_nil, ?_, ?_⟩
  · exact fun hbegun => absurd hbegun (by simp)
  · exact fun hbeat => absurd hbeat (by simp)

theorem Paced.run (h : r.Paced r.clock) (hcoherent : r.Coherent) (env : ℕ → ClientAnswer)
    (calls : List ClientCall) : (r.run env calls).Paced (r.run env calls).clock := by
  induction calls generalizing r with
  | nil => exact h
  | cons call calls ih =>
    have hnext : (r.perform env call).Coherent := hcoherent.run env [call]
    cases call with
    | setWheelCommand c => exact ih (h.setWheelCommand env c) hnext
    | poll => exact ih (h.poll env hcoherent) hnext

/-- The event is a frame of this type. -/
def carries (type : ProtocolMessageType) : ClientEvent → Bool
  | .sent f _ => f.messageType == type
  | _ => false

theorem heartbeatPace_foldl (events : List ClientEvent) (limit : ℤ) :
    events.foldl heartbeatPace.next limit =
      limit + heartbeatPeriod * events.countP (carries .heartbeat) := by
  induction events generalizing limit with
  | nil => simp
  | cons e events ih =>
    have hnext : heartbeatPace.next limit e =
        limit + heartbeatPeriod * if carries .heartbeat e = true then 1 else 0 := by
      cases e with
      | sent f t => by_cases hf : f.messageType = .heartbeat <;> simp [heartbeatPace, carries, hf]
      | _ => simp [heartbeatPace, carries]
    rw [List.foldl_cons, ih, hnext, List.countP_cons]
    simp only [heartbeatPeriod, millisecondNs]
    split_ifs <;> omega

/-- In every run, LINK_SYNC follows any earlier frame by 500 ms or more, wheel frames of one session
are 50 ms apart or more, and the n-th heartbeat after a LINK_SYNC follows it by n times 250 ms or
more, however often the millisecond counter has wrapped. -/
theorem frames_are_paced (env : ℕ → ClientAnswer) (clock : ℤ) (hclock : 0 < clock)
    (calls : List ClientCall) (earlier between later : List ClientEvent) (f g : ProtocolFrame)
    (s t : ℤ)
    (hlog : (run env { clock := clock } calls).log =
      earlier ++ .sent f s :: (between ++ .sent g t :: later)) :
    (g.messageType = .linkSync → s + 500 * millisecondNs ≤ t) ∧
      (f.messageType = .wheelVelocity → g.messageType = .wheelVelocity →
        (∀ sessionId, .startBegun sessionId ∉ between) → s + 50 * millisecondNs ≤ t) ∧
      (f.messageType = .linkSync → g.messageType = .heartbeat →
        (∀ e ∈ between, carries .linkSync e = false) →
        s + 250 * millisecondNs * (between.countP (carries .heartbeat) + 1) ≤ t) := by
  have hpaced := (Paced.initial hclock).run (Coherent.initial clock) env calls
  have hsplit : (run env { clock := clock } calls).log =
      (earlier ++ .sent f s :: between) ++ .sent g t :: later := by
    rw [hlog]
    simp
  refine ⟨fun hg => ?_, fun hf hg hbetween => ?_, fun hf hg hbetween => ?_⟩
  · refine hpaced.syncs _ _ _ hsplit t ⟨g, rfl, hg⟩ _ ⟨earlier, _, between, _, rfl, ⟨f, s, rfl, rfl⟩,
      fun _ _ _ _ => not_false, ?_⟩
    exact List.foldl_fixed _
  · refine hpaced.wheels _ _ _ hsplit t ⟨g, rfl, hg⟩ _ ⟨earlier, _, between, _, rfl,
      ⟨f, s, rfl, hf, rfl⟩, ?_, ?_⟩
    · rintro before e after rfl ⟨sessionId, rfl⟩
      exact hbetween sessionId (by simp)
    · exact List.foldl_fixed _
  · have hlimit := hpaced.beats _ _ _ hsplit t ⟨g, rfl, hg⟩ _ ⟨earlier, _, between, _, rfl,
      ⟨f, s, rfl, hf, rfl⟩, ?_, rfl⟩
    · rw [heartbeatPace_foldl] at hlimit
      simp only [heartbeatPeriod, millisecondNs] at hlimit ⊢
      omega
    · rintro before e after rfl ⟨f', t', rfl, hf'⟩
      have hcarries := hbetween (.sent f' t') (by simp)
      simp [carries, hf'] at hcarries

/-- The board answers as before; after the first wheel frame, time passes. -/
def slowBoard (n : ℕ) : ClientAnswer :=
  if n < 30 then grantingBoard n else { grantingBoard 0 with advanceNs := 50000000 }

theorem frames_are_paced_two_wheel_frames :
    ∃ earlier f g s t, (run slowBoard { clock := 5 } [.poll, .poll,
        .setWheelCommand { leftVelocityMmS := 120, rightVelocityMmS := -80 },
        .poll, .poll, .poll, .poll]).log = earlier ++ .sent f s :: ([] ++ .sent g t :: []) ∧
      f.messageType = .wheelVelocity ∧ g.messageType = .wheelVelocity ∧
      s + 50 * millisecondNs ≤ t := by
  have hlog : (run slowBoard { clock := 5 } [.poll, .poll,
        .setWheelCommand { leftVelocityMmS := 120, rightVelocityMmS := -80 },
        .poll, .poll, .poll, .poll]).log =
      [.epochBegan, .sent (Stm32LinkSession.linkSyncFrame 1 0) 7,
        .wheelCommand { leftVelocityMmS := 120, rightVelocityMmS := -80 } 11, .startBegun 1,
        .sent (motionLifecycleCommandFrame
          { sequence := 1, command := .startSession, motionSessionId := 1 }) 13,
        .responseAccepted .startSession 1 .ok] ++
      .sent (Stm32MotionSession.wheelVelocityFrame 1
        { motionSessionId := 1
          command := { leftVelocityMmS := 120, rightVelocityMmS := -80 } }) 22 ::
      ([] ++ .sent (Stm32MotionSession.wheelVelocityFrame 2
        { motionSessionId := 1
          command := { leftVelocityMmS := 120, rightVelocityMmS := -80 } }) 150000023 :: []) := by
    decide +kernel
  exact ⟨_, _, _, _, _, hlog, rfl, rfl,
    (frames_are_paced slowBoard 5 (by decide) _ _ _ _ _ _ _ _ hlog).2.1 rfl rfl (by simp)⟩

end IndoorRobot.Stm32ClientRunner
