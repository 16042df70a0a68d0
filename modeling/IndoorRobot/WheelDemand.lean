import IndoorRobot.ClientActions
import IndoorRobot.EventLogs

/-!
# Wheel frames and the demand behind them

The demand, its time, the motion session and the epoch are separate fields of the
runner. `Attentive` ties each of them to the event of the log it stems from, and
says that every wheel frame sent so far was justified by the log before it.
-/
namespace IndoorRobot.Stm32ClientRunner

open EventLogs MotionLifecycleCommandType MotionResponseResult

/-- The latest wheel command of all is `c`, given at `time`, in the current epoch. -/
def Commanded (c : WheelVelocityCommand) (time : ℤ) : List ClientEvent → Prop :=
  Since (fun earlier e => e = .wheelCommand c time ∧ .epochBegan ∈ earlier)
    fun e => e ≠ .epochBegan ∧ ∀ c' time', e ≠ .wheelCommand c' time'

/-- The START of a session was begun in the current epoch. -/
def Started (sessionId : UInt32) : List ClientEvent → Prop :=
  Since (fun earlier e => e = .startBegun sessionId ∧ .epochBegan ∈ earlier)
    fun e => e ≠ .epochBegan

/-- The START of a session was answered OK or ALREADY_ACTIVE in the current epoch, and
no END has been begun since. -/
def Granted (sessionId : UInt32) : List ClientEvent → Prop :=
  Since (fun earlier e => (∃ result, e = .responseAccepted startSession sessionId result ∧
      (result = ok ∨ result = alreadyActive)) ∧ Started sessionId earlier)
    fun e => e ≠ .epochBegan ∧ ∀ ended, e ≠ .endBegun ended

/-- What a log must hold for a wheel frame to be sent at the decision time `time`. -/
def Demanded (log : List ClientEvent) (payload : WheelVelocityPayload) (time : ℤ) : Prop :=
  ∃ commandTime, Commanded payload.command commandTime log ∧ commandTime ≤ time ∧
    time - commandTime < wheelCommandFreshness ∧ isZeroWheelCommand payload.command = false ∧
    Granted payload.motionSessionId log

/-- Wheel frames are sent on demand only. -/
def Justified (log : List ClientEvent) (e : ClientEvent) : Prop :=
  ∀ f time, e = .sent f time → f.messageType = .wheelVelocity →
    Demanded log (wheelVelocityPayloadDecode f.payload.bytes) time

theorem justified_of_type {log : List ClientEvent} {f : ProtocolFrame} {time : ℤ}
    (type : ProtocolMessageType) (hf : f.messageType = type) (htype : type ≠ .wheelVelocity) :
    Justified log (.sent f time) := by
  intro f' time' he hwheel
  injection he with hframe
  exact (htype (hf.symm.trans (hframe ▸ hwheel))).elim

theorem justified_of_lifecycle {log : List ClientEvent} {f : ProtocolFrame} {time : ℤ}
    {t : MotionTransaction} (hf : f = motionLifecycleCommandFrame t) :
    Justified log (.sent f time) := by
  have htype : f.messageType = .motionCommand := hf ▸ rfl
  exact justified_of_type _ htype (by decide)

theorem wheelVelocityPayloadDecode_frame (sequence : UInt16) (payload : WheelVelocityPayload) :
    wheelVelocityPayloadDecode
      (Stm32MotionSession.wheelVelocityFrame sequence payload).payload.bytes = payload :=
  isCodec_wheelVelocityPayload.decode_ofBytes (by decide) payload

/-- The fields of the runner and the events they stem from. -/
structure Attentive (r : Stm32ClientRunner) : Prop where
  demand : ∀ c, r.latestWheelCommand = some c → .epochBegan ∈ r.log →
    Commanded c r.latestWheelCommandTime r.log
  timely : ∀ c, r.latestWheelCommand = some c → r.latestWheelCommandTime ≤ r.clock
  session : r.motionSession.Consistent
  epoch : r.state ≠ .disconnected → .epochBegan ∈ r.log
  started : r.motionSession.state = .startPending → Started r.motionSession.pendingSessionId r.log
  granted : r.motionSession.state = .active → Granted r.motionSession.activeSessionId r.log
  frames : Always Justified r.log

namespace Attentive

variable {r q : Stm32ClientRunner}

theorem initial (clock : ℤ) : Attentive { clock := clock } where
  demand c hc := by cases hc
  timely c hc := by cases hc
  session := Stm32MotionSession.default_consistent
  epoch h := (h rfl).elim
  started h := by cases h
  granted h := by cases h
  frames := always_nil

theorem idle (h : r.Attentive) (hidle : r.Idle q) : q.Attentive := by
  have hsession : q.motionSession.pendingSessionId = r.motionSession.pendingSessionId :=
    congrArg MotionTransaction.motionSessionId hidle.session.pendingTransaction
  constructor
  · intro c hc hepoch
    rw [hidle.log] at hepoch ⊢
    rcases hidle.demand with hnone | ⟨hcommand, htime⟩
    · simp [hnone] at hc
    · rw [htime]
      exact h.demand c (hcommand ▸ hc) hepoch
  · intro c hc
    rcases hidle.demand with hnone | ⟨hcommand, htime⟩
    · simp [hnone] at hc
    · rw [htime]
      exact (h.timely c (hcommand ▸ hc)).trans hidle.clock
  · exact hidle.session.consistent h.session
  · rw [hidle.state, hidle.log]
    exact h.epoch
  · rw [hidle.session.state, hsession, hidle.log]
    exact h.started
  · rw [hidle.session.state, hidle.session.activeSessionId, hidle.log]
    exact h.granted
  · rw [hidle.log]
    exact h.frames

/-- Events that neither command nor begin or end anything. -/
theorem emit (h : r.Attentive) {e : ClientEvent} (hepoch : e ≠ .epochBegan)
    (hcommand : ∀ c time, e ≠ .wheelCommand c time)
    (hend : r.motionSession.state = .active → ∀ ended, e ≠ .endBegun ended)
    (he : Justified r.log e) : (r.emit e).Attentive := by
  have hkept : .epochBegan ∈ r.log ++ [e] → .epochBegan ∈ r.log := by
    intro hmem
    rcases List.mem_append.mp hmem with hmem | hmem
    · exact hmem
    · exact (hepoch (List.mem_singleton.mp hmem).symm).elim
  constructor
  · intro c hc hmem
    exact (h.demand c hc (hkept hmem)).append (by simpa using ⟨hepoch, hcommand⟩)
  · exact h.timely
  · exact h.session
  · intro hstate
    exact List.mem_append_left _ (h.epoch hstate)
  · intro hstate
    exact (h.started hstate).append (by simpa using hepoch)
  · intro hstate
    exact (h.granted hstate).append (by simpa using ⟨hepoch, hend hstate⟩)
  · exact h.frames.concat he

theorem sent (h : r.Attentive) {f : ProtocolFrame} {time : ℤ}
    (he : Justified r.log (.sent f time)) : (r.emit (.sent f time)).Attentive :=
  h.emit (by simp) (by simp) (by simp) he

/-- Another session, as long as the log accounts for it. -/
theorem withSession (h : r.Attentive) {s : Stm32MotionSession} (hs : s.Consistent)
    (hstarted : s.state = .startPending → Started s.pendingSessionId r.log)
    (hgranted : s.state = .active → Granted s.activeSessionId r.log) :
    Attentive { r with motionSession := s } :=
  ⟨h.demand, h.timely, hs, h.epoch, hstarted, hgranted, h.frames⟩

/-- A runner without demand or session. -/
theorem cleared (h : Always Justified r.log) (hdemand : r.latestWheelCommand = none)
    (hstate : r.state ≠ .disconnected → .epochBegan ∈ r.log)
    (hsession : ∃ s : Stm32MotionSession, r.motionSession = s.reset) : r.Attentive := by
  obtain ⟨s, hs⟩ := hsession
  refine ⟨?_, ?_, ?_, hstate, ?_, ?_, h⟩
  · simp [hdemand]
  · simp [hdemand]
  · exact hs ▸ s.reset_consistent
  · simp [hs, Stm32MotionSession.reset]
  · simp [hs, Stm32MotionSession.reset]

theorem command (h : r.Attentive) (c : WheelVelocityCommand) :
    Attentive { r.emit (.wheelCommand c r.clock) with
      latestWheelCommand := some c
      latestWheelCommandTime := r.clock } := by
  constructor
  · intro c' hc hmem
    cases hc
    have hbegan : .epochBegan ∈ r.log := by simpa [Stm32ClientRunner.emit] using hmem
    exact since_now ⟨rfl, hbegan⟩
  · intro _ _
    exact le_rfl
  · exact h.session
  · intro hstate
    exact List.mem_append_left _ (h.epoch hstate)
  · intro hstate
    exact (h.started hstate).append (by simp)
  · intro hstate
    exact (h.granted hstate).append (by simp)
  · exact h.frames.concat (by simp [Justified])

theorem start (h : r.Attentive) (sessionId : UInt32) (f : ProtocolFrame)
    (hstate : r.state = .synchronized)
    (hf : (r.motionSession.beginStartSession sessionId).1 = some f) (time : ℤ) :
    Attentive { (r.emit (.startBegun sessionId)).emit (.sent f time) with
      motionSession := (r.motionSession.beginStartSession sessionId).2 } := by
  obtain ⟨hbegins, hstart⟩ := r.motionSession.beginStartSession_begins sessionId f hf
  have hevent : (r.emit (.startBegun sessionId)).Attentive :=
    h.emit (by simp) (by simp) (by simp) (by simp [Justified])
  have hbegan : .epochBegan ∈ r.log := h.epoch (by simp [hstate])
  have hsession := hevent.withSession (hbegins.consistent (.inl ⟨hstart, rfl⟩))
    (fun _ => by rw [hbegins.sessionId]; exact since_now ⟨rfl, hbegan⟩) (by simp [hstart])
  exact hsession.sent (justified_of_lifecycle hbegins.frame)

theorem finish (h : r.Attentive) (sessionId : UInt32) (f : ProtocolFrame)
    (hf : (r.motionSession.beginEndSession sessionId).1 = some f) (time : ℤ) :
    Attentive { (r.emit (.endBegun sessionId)).emit (.sent f time) with
      motionSession := (r.motionSession.beginEndSession sessionId).2 } := by
  obtain ⟨hbegins, hend, -⟩ := r.motionSession.beginEndSession_begins sessionId f hf
  have hsession := h.withSession (hbegins.consistent (.inr ⟨hend, rfl⟩)) (by simp [hend])
    (by simp [hend])
  have hevent := hsession.emit (e := .endBegun sessionId) (by simp) (by simp) (by simp [hend])
    (by simp [Justified])
  exact hevent.sent (justified_of_lifecycle hbegins.frame)

theorem wheel (h : r.Attentive) (sequence : UInt16) (c : WheelVelocityCommand)
    (hstate : r.state = .synchronized) (hactive : r.motionSession.state = .active)
    (hcommand : r.latestWheelCommand = some c)
    (hfresh : r.clock - r.latestWheelCommandTime < wheelCommandFreshness)
    (hzero : isZeroWheelCommand c = false) :
    (r.emit (.sent (Stm32MotionSession.wheelVelocityFrame sequence
      { motionSessionId := r.motionSession.activeSessionId, command := c }) r.clock)).Attentive := by
  apply h.sent
  intro f time he _
  injection he with hframe htime
  subst hframe htime
  rw [wheelVelocityPayloadDecode_frame]
  exact ⟨r.latestWheelCommandTime, h.demand c hcommand (h.epoch (by simp [hstate])),
    h.timely c hcommand, hfresh, hzero, h.granted hactive⟩

theorem answered (h : r.Attentive) (f : ProtocolFrame) (result : MotionResponseResult)
    (hanswers : r.motionSession.Answers f result) :
    Attentive { r.emit (.responseAccepted r.motionSession.pendingCommand
        r.motionSession.pendingSessionId result) with
      motionSession := r.motionSession.settle result } := by
  have hevent := h.emit (e := .responseAccepted r.motionSession.pendingCommand
    r.motionSession.pendingSessionId result) (by simp) (by simp) (by simp) (by simp [Justified])
  have hconsistent := r.motionSession.settle_consistent h.session hanswers.pending result
  rcases r.motionSession.settle_state h.session hanswers.pending result with
    ⟨hactive, hid, hstart, hcommand, hresult⟩ | ⟨hinactive, -⟩
  · apply hevent.withSession hconsistent (by simp [hactive])
    intro _
    rw [hid, hcommand]
    exact since_now ⟨⟨result, rfl, hresult⟩, h.started hstart⟩
  · exact hevent.withSession hconsistent (by simp [hinactive]) (by simp [hinactive])

theorem connect (h : r.Attentive) (syncToken : UInt64) (time : ℤ) :
    (r.connect syncToken time).Attentive := by
  refine cleared ?_ rfl (fun _ => ?_) ⟨r.motionSession, rfl⟩
  · exact (h.frames.concat (by simp [Justified])).concat (justified_of_type .linkSync rfl (by decide))
  · simp [Stm32ClientRunner.connect, clearEpoch, Stm32ClientRunner.emit]

/-- Every step keeps the runner attentive. -/
theorem step (h : r.Attentive) {input : Option ProtocolFrame} (hstep : Step input r q) :
    q.Attentive := by
  cases hstep with
  | idle hidle => exact h.idle hidle
  | command _ c => exact h.command c
  | retry _ time hstate hpending =>
    obtain ⟨-, hframe, -⟩ := h.session.pending hpending
    exact h.sent (justified_of_lifecycle hframe)
  | start _ sessionId f hstate _ hf time => exact h.start sessionId f hstate hf time
  | wheel _ sequence c hstate hactive hcommand hfresh hzero =>
    exact h.wheel sequence c hstate hactive hcommand hfresh hzero
  | finish _ sessionId f hstate hf time => exact h.finish sessionId f hf time
  | heartbeat _ sequence nowMs time hstate => exact h.sent (justified_of_type .heartbeat rfl (by decide))
  | ignored _ f => exact h
  | answered _ f result hstate hanswers => exact h.answered f result hanswers
  | synchronized _ f link hstate =>
    exact ⟨h.demand, h.timely, h.session, fun _ => h.epoch (by simp [hstate]), h.started, h.granted,
      h.frames⟩
  | connect _ syncToken time => exact h.connect syncToken time
  | close => exact cleared h.frames rfl (fun hstate => (hstate rfl).elim) ⟨r.motionSession, rfl⟩

theorem steps (h : r.Attentive) {received : List ProtocolFrame} (hsteps : r.Steps received q) :
    q.Attentive :=
  hsteps.preserves (fun _ _ _ hstep hr => hr.step hstep) h

end Attentive

/-- A call of the client's owner. -/
inductive ClientCall where
  | setWheelCommand (command : WheelVelocityCommand)
  | poll

def perform (env : ℕ → ClientAnswer) (r : Stm32ClientRunner) : ClientCall → Stm32ClientRunner
  | .setWheelCommand command => r.setWheelCommand env command
  | .poll => r.poll env

/-- The runner after a sequence of calls. -/
def run (env : ℕ → ClientAnswer) (r : Stm32ClientRunner) (calls : List ClientCall) :
    Stm32ClientRunner :=
  calls.foldl (perform env) r

theorem Attentive.run {r : Stm32ClientRunner} (h : r.Attentive) (env : ℕ → ClientAnswer)
    (calls : List ClientCall) : (r.run env calls).Attentive := by
  induction calls generalizing r with
  | nil => exact h
  | cons call calls ih =>
    apply ih
    cases call with
    | setWheelCommand c => exact h.steps (setWheelCommand_steps env c r)
    | poll =>
      obtain ⟨received, hsteps⟩ := poll_steps env r
      exact h.steps hsteps

/-- Every wheel frame handed to the port carries the velocities of the latest wheel
command, which was given in the current epoch and within the freshness limit of the
frame's decision time, is not all zero, and goes to a session whose START was granted
in the current epoch with no END begun since. -/
theorem wheel_frames_are_demanded (env : ℕ → ClientAnswer) (clock : ℤ) (calls : List ClientCall)
    (earlier later : List ClientEvent) (f : ProtocolFrame) (time : ℤ)
    (hsent : (run env { clock := clock } calls).log = earlier ++ .sent f time :: later)
    (hf : f.messageType = .wheelVelocity) :
    Demanded earlier (wheelVelocityPayloadDecode f.payload.bytes) time :=
  ((Attentive.initial clock).run env calls).frames earlier _ later hsent f time rfl hf

/-- A board that answers the first LINK_SYNC and the first START. -/
def grantingBoard : ℕ → ClientAnswer
  | 7 => { readable := true }
  | 8 => { bytes := some (protocolFrameEncode
      { messageType := .linkSyncOk
        sequence := 1
        payloadLength := linkSyncWireSize
        payload := .ofBytes (linkSyncEncode { syncToken := 0 }) }) }
  | 21 => { readable := true }
  | 22 => { bytes := some (protocolFrameEncode (motionResponseFrame
      { sequence := 1, command := startSession, motionSessionId := 1 } ok)) }
  | _ => { advanceNs := 1 }

theorem wheel_frames_are_demanded_first :
    ∃ earlier f time later,
      (run grantingBoard { clock := 5 } [.poll, .poll,
        .setWheelCommand { leftVelocityMmS := 120, rightVelocityMmS := -80 },
        .poll, .poll, .poll]).log = earlier ++ .sent f time :: later ∧
      f.messageType = .wheelVelocity ∧
      Demanded earlier
        { motionSessionId := 1
          command := { leftVelocityMmS := 120, rightVelocityMmS := -80 } } time := by
  have hlog : (run grantingBoard { clock := 5 } [.poll, .poll,
        .setWheelCommand { leftVelocityMmS := 120, rightVelocityMmS := -80 },
        .poll, .poll, .poll]).log =
      [.epochBegan, .sent (Stm32LinkSession.linkSyncFrame 1 0) 7,
        .wheelCommand { leftVelocityMmS := 120, rightVelocityMmS := -80 } 11, .startBegun 1,
        .sent (motionLifecycleCommandFrame
          { sequence := 1, command := startSession, motionSessionId := 1 }) 13,
        .responseAccepted startSession 1 ok] ++
      .sent (Stm32MotionSession.wheelVelocityFrame 1
        { motionSessionId := 1
          command := { leftVelocityMmS := 120, rightVelocityMmS := -80 } }) 22 :: [] := by
    decide +kernel
  have hdemanded := wheel_frames_are_demanded grantingBoard 5 _ _ _ _ _ hlog rfl
  rw [wheelVelocityPayloadDecode_frame] at hdemanded
  exact ⟨_, _, _, _, hlog, rfl, hdemanded⟩

end IndoorRobot.Stm32ClientRunner
