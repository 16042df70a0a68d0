import IndoorRobot.EventLogs
import IndoorRobot.ManagerAlignment

/-!
# An OK response reports a confirmed physical stop

The board log is searched backwards from the response: the encoder counters have
not changed since some sample, that sample was taken after the verifier began, and
the verifier began after a successful motor stop that no motor command followed.
-/
namespace IndoorRobot

open EventLogs MotionResponseResult

namespace BoardEvent

/-- Not a motor command, whether it succeeded or not. -/
def NoCommand (e : BoardEvent) : Prop := ∀ command ok, e ≠ .driverApply command ok

/-- Not the start of a confirmation. -/
def NoBegin (e : BoardEvent) : Prop := ∀ operationId nowMs, e ≠ .stopBegin operationId nowMs

/-- If this is a sample of the verifier, it reads the given counters. -/
def Reads (counts : WheelEncoderCounts) (e : BoardEvent) : Prop :=
  ∀ sampled nowMs, e = .stopSample sampled nowMs → sampled = counts

/-- A motor stop: its port write and its outcome. -/
def FromStop (e : BoardEvent) : Prop := (∃ control ok, e = .portApply control ok) ∨ ∃ ok, e = .driverStop ok

/-- A transmission of a frame. -/
def IsTransmit (e : BoardEvent) : Prop := ∃ f ok, e = .transmit f ok

/-- Neither a motor command nor anything of the verifier. -/
structure Neutral (e : BoardEvent) : Prop where
  noCommand : e.NoCommand
  noBegin : e.NoBegin
  reads : ∀ counts, e.Reads counts

theorem FromStop.neutral {e : BoardEvent} (h : e.FromStop) : e.Neutral := by
  rcases h with ⟨control, ok, rfl⟩ | ⟨ok, rfl⟩ <;>
    constructor <;> simp [NoCommand, NoBegin, Reads]

theorem IsTransmit.neutral {e : BoardEvent} (h : e.IsTransmit) : e.Neutral := by
  obtain ⟨f, ok, rfl⟩ := h
  constructor <;> simp [NoCommand, NoBegin, Reads]

theorem FromStop.not_transmit {e : BoardEvent} (h : e.FromStop) (f : ProtocolFrame) (ok : Bool) :
    e ≠ .transmit f ok := by
  rcases h with ⟨control, ok, rfl⟩ | ⟨ok, rfl⟩ <;> simp

end BoardEvent

open BoardEvent

/-- A motor stop succeeded and no motor command followed it. -/
def StoppedSince : List BoardEvent → Prop := Since (fun _ e => e = .driverStop true) NoCommand

/-- The verifier began for `operationId` at `startMs`, after such a stop. -/
def BegunSince (operationId startMs : UInt32) : List BoardEvent → Prop :=
  Since (fun earlier e => e = .stopBegin operationId startMs ∧ StoppedSince earlier)
    (fun e => e.NoCommand ∧ e.NoBegin)

/-- A sample taken since then read `counts` at `sampleMs`, and so did all later ones. -/
def SettledSince (operationId startMs : UInt32) (counts : WheelEncoderCounts) (sampleMs : UInt32) :
    List BoardEvent → Prop :=
  Since (fun earlier e => e = .stopSample counts sampleMs ∧ BegunSince operationId startMs earlier)
    (fun e => e.NoCommand ∧ e.NoBegin ∧ e.Reads counts)

section Chains
variable {operationId startMs sampleMs : UInt32} {counts : WheelEncoderCounts}
  {log : List BoardEvent}

theorem SettledSince.append_neutral (h : SettledSince operationId startMs counts sampleMs log)
    {events : List BoardEvent} (hevents : ∀ e ∈ events, e.Neutral) :
    SettledSince operationId startMs counts sampleMs (log ++ events) :=
  h.append fun e he => ⟨(hevents e he).noCommand, (hevents e he).noBegin, (hevents e he).reads _⟩

theorem StoppedSince.append_neutral (h : StoppedSince log) {events : List BoardEvent}
    (hevents : ∀ e ∈ events, e.Neutral) : StoppedSince (log ++ events) :=
  h.append fun e he => (hevents e he).noCommand

theorem SettledSince.begun (h : SettledSince operationId startMs counts sampleMs log) :
    BegunSince operationId startMs log := by
  obtain ⟨earlier, event, later, rfl, ⟨rfl, hbegun⟩, hlater⟩ := h
  apply hbegun.append
  intro e he
  rcases List.mem_cons.mp he with rfl | he
  · simp [NoCommand, NoBegin]
  · exact ⟨(hlater e he).1, (hlater e he).2.1⟩

theorem StoppedSince.begin (h : StoppedSince log) (operationId nowMs : UInt32)
    (counts : WheelEncoderCounts) :
    SettledSince operationId nowMs counts nowMs
      (log ++ [.stopBegin operationId nowMs] ++ [.stopSample counts nowMs]) :=
  since_now ⟨rfl, since_now ⟨rfl, h⟩⟩

/-- The verifier's state is exactly what its samples have shown. -/
theorem SettledSince.observe {s : MotionStop}
    (h : SettledSince s.operationId s.startedAtMs s.previousCounts s.lastMovementAtMs log)
    (counts : WheelEncoderCounts) (nowMs : UInt32) :
    SettledSince (s.observe counts nowMs).operationId (s.observe counts nowMs).startedAtMs
      (s.observe counts nowMs).previousCounts (s.observe counts nowMs).lastMovementAtMs
      (log ++ [.stopSample counts nowMs]) := by
  rw [MotionStop.observe]
  split_ifs with hmoved
  · exact since_now ⟨rfl, h.begun⟩
  · have hsame : counts = s.previousCounts := by
      cases counts
      cases hp : s.previousCounts
      simp_all
    apply h.append
    intro e he
    rw [List.mem_singleton.mp he, hsame]
    refine ⟨by simp [NoCommand], by simp [NoBegin], ?_⟩
    intro sampled nowMs' hsample
    injection hsample with hcounts _
    exact hcounts.symm

end Chains

/-- What an attempt to stop leaves behind on the board. -/
theorem StopOutcome.leaves {b : Board} {out : Bool × Board} (h : StopOutcome b out) :
    ∃ events, out.2.log = b.log ++ events ∧ (∀ e ∈ events, e.FromStop) ∧
      out.2.guard.initialized = b.guard.initialized ∧
      (out.2.guard.stopPending = true ∨ StoppedSince out.2.log) ∧
      (out.1 = true → out.2.guard.stopPending = false) := by
  cases h with
  | stopped motor =>
    refine ⟨[.portApply {} true, .driverStop true], rfl, by simp [FromStop], rfl, .inr ?_,
      fun _ => rfl⟩
    have h : StoppedSince (b.log ++ [.portApply {} true] ++ [.driverStop true]) := since_now rfl
    simpa using h
  | failed events hevents =>
    refine ⟨events, rfl, fun e he => ?_, rfl, .inl rfl, by simp⟩
    rcases hevents e he with rfl | rfl
    · exact .inl ⟨_, _, rfl⟩
    · exact .inr ⟨_, rfl⟩

/-- What an attempt to apply a command leaves behind on the board. -/
theorem ApplyOutcome.leaves {c : MotorDriverCommand} {nowMs : UInt32} {b : Board}
    {out : Bool × Board} (h : ApplyOutcome c nowMs b out) :
    ∃ events, out.2.log = b.log ++ events ∧ (∀ e ∈ events, ¬ e.IsTransmit) ∧
      out.2.guard.initialized = b.guard.initialized := by
  cases h with
  | refused _ => exact ⟨[], by simp, by simp, rfl⟩
  | rejected motor events hevents out hout =>
    obtain ⟨stops, hlog, hstops, hinit, _⟩ := hout.leaves
    refine ⟨events ++ stops, by rw [hlog, List.append_assoc], ?_, hinit⟩
    intro e he
    rcases List.mem_append.mp he with he | he
    · rcases hevents e he with ⟨control, ok, rfl⟩ | ⟨ok, rfl⟩ <;> simp [IsTransmit]
    · rintro ⟨f, sent, rfl⟩
      exact (hstops _ he).not_transmit f sent rfl
  | halted motor control _ => exact ⟨_, rfl, by simp [IsTransmit], rfl⟩
  | moved motor control => exact ⟨_, rfl, by simp [IsTransmit], rfl⟩

namespace MotionSystem

open MotionLifecycleCoordinator

/-- A call of the manager, or a stop requested by another module. -/
inductive GuardedCall where
  | handle (frame : ProtocolFrame) (linkSynchronized : Bool) (nowMs : UInt32)
  | update (nowMs : UInt32)
  | reset
  | guardStop

def guardedStep (env : ℕ → PortAnswer) (m : MotionSystem) : GuardedCall → MotionSystem
  | .handle frame linkSynchronized nowMs => (handle env frame linkSynchronized nowMs m).2
  | .update nowMs => (update env nowMs m).2
  | .reset => m.reset
  | .guardStop => { m with board := (motionCommandGuardStop env m.board).2 }

def guardedRun (env : ℕ → PortAnswer) (m : MotionSystem) (calls : List GuardedCall) :
    MotionSystem :=
  calls.foldl (guardedStep env) m

/-- The events a call adds to the log. -/
def emitted (env : ℕ → PortAnswer) (m : MotionSystem) (x : GuardedCall) : List BoardEvent :=
  (guardedStep env m x).board.log.drop m.board.log.length

/-- A MOTION_RESPONSE with result OK. -/
def OkResponse (f : ProtocolFrame) : Prop :=
  f.messageType = .motionResponse ∧ (motionResponseDecode f.payload.bytes).result = ok

/-- What the log knows about the stop under way and about the cached answer. -/
structure Evidenced (m : MotionSystem) : Prop where
  aligned : m.Aligned
  guarded : m.board.guard.initialized = true
  stopped : m.manager.pendingStopOperationId ≠ 0 → m.stop.active = false →
    m.board.guard.stopPending = true ∨ StoppedSince m.board.log
  confirming : m.stop.active = true →
    SettledSince m.stop.operationId m.stop.startedAtMs m.stop.previousCounts
      m.stop.lastMovementAtMs m.board.log
  cached : m.manager.coordinator.reliableReceiver.terminalValid = true →
    m.manager.coordinator.reliableReceiver.terminalResult = ok →
    ∃ sent, BoardEvent.transmit
      (motionResponseFrame m.manager.coordinator.reliableReceiver.terminalTransaction ok) sent ∈
        m.board.log

/-- What was sent stays sent. -/
theorem Evidenced.cached_append {m : MotionSystem} (h : m.Evidenced) {log events : List BoardEvent}
    (hlog : log = m.board.log ++ events)
    (hvalid : m.manager.coordinator.reliableReceiver.terminalValid = true)
    (hok : m.manager.coordinator.reliableReceiver.terminalResult = ok) :
    ∃ sent, BoardEvent.transmit
      (motionResponseFrame m.manager.coordinator.reliableReceiver.terminalTransaction ok) sent ∈
        log := by
  obtain ⟨sent, hsent⟩ := h.cached hvalid hok
  rw [hlog]
  exact ⟨sent, List.mem_append_left _ hsent⟩

/-- A stop attempt by anybody keeps the evidence and may complete it. -/
theorem Evidenced.afterStop {m : MotionSystem} (h : m.Evidenced) {out : Bool × Board}
    (hout : StopOutcome m.board out) : Evidenced { m with board := out.2 } := by
  obtain ⟨events, hlog, hevents, hinit, hstopped, _⟩ := hout.leaves
  refine ⟨h.aligned.withBoard _, hinit.trans h.guarded, fun _ _ => hstopped, ?_,
    h.cached_append hlog⟩
  intro hactive
  rw [hlog]
  exact (h.confirming hactive).append_neutral fun e he => (hevents e he).neutral

/-- The only frame of an action that can say OK is its response. -/
theorem framesOf_okResponse {a : MotionLifecycleAction} {f : ProtocolFrame} (hf : f ∈ framesOf a)
    (hok : OkResponse f) :
    a.sendResponse = true ∧ a.responseResult = ok ∧ f = motionResponseFrame a.responseTransaction ok := by
  rcases List.mem_append.mp hf with hack | hresponse
  · simp only [motionCommandFramesBuild, Option.mem_toList] at hack
    split_ifs at hack with hsend
    · have hf := Option.some.inj hack
      rw [← hf] at hok
      exact absurd hok.1 (show ¬ ProtocolMessageType.motionAck = .motionResponse by decide)
  · simp only [motionCommandFramesBuild, Option.mem_toList] at hresponse
    split_ifs at hresponse with hsend
    · have hf := Option.some.inj hresponse
      have hresult : a.responseResult = ok := by
        have h := hok.2
        rw [← hf, motionResponseDecode_frame] at h
        exact h
      exact ⟨hsend, hresult, by rw [← hf, hresult]⟩

/-- A handled command is answered OK only from the cache. -/
theorem handleTransaction_ok (c : MotionLifecycleCoordinator) (t : MotionTransaction)
    (hsend : (c.handleTransaction t).1.sendResponse = true)
    (hok : (c.handleTransaction t).1.responseResult = ok) :
    c.reliableReceiver.classify t = .completedRetry ∧
      c.reliableReceiver.terminalValid = true ∧ c.reliableReceiver.terminalResult = ok ∧
      (c.handleTransaction t).1.responseTransaction = c.reliableReceiver.terminalTransaction := by
  by_cases hnew : c.reliableReceiver.classify t = .new
  · have hout := handleTransaction_outcome c t hnew
    generalize c.handleTransaction t = out at hout hsend hok
    cases hout with
    | immediate result hresult _ =>
      have hok : result = ok := hok
      subst hok
      exact absurd hresult (by decide)
    | request state sessionId _ _ => cases hsend
    | transfer state sessionId _ _ => exact absurd hok (by simp [supersede]; decide)
  · rw [handleTransaction] at hsend hok ⊢
    cases hd : c.reliableReceiver.classify t with
    | new => exact absurd hd hnew
    | completedRetry =>
      rw [hd] at hok
      exact ⟨rfl, MotionReliableReceiver.terminalValid_of_completedRetry hd, hok, rfl⟩
    | _ =>
      rw [hd] at hsend
      cases hsend

/-- Handling a command never puts a new OK into the cache. -/
theorem handleTransaction_cached (c : MotionLifecycleCoordinator) (t : MotionTransaction)
    (hvalid : (c.handleTransaction t).2.reliableReceiver.terminalValid = true)
    (hok : (c.handleTransaction t).2.reliableReceiver.terminalResult = ok) :
    (c.handleTransaction t).2.reliableReceiver = c.reliableReceiver := by
  by_cases hnew : c.reliableReceiver.classify t = .new
  · have hout := handleTransaction_outcome c t hnew
    generalize c.handleTransaction t = out at hout hvalid hok ⊢
    cases hout with
    | immediate result hresult _ =>
      have hok : result = ok := hok
      subst hok
      exact absurd hresult (by decide)
    | request state sessionId _ _ => cases hvalid
    | transfer state sessionId _ _ => cases hvalid
  · rw [handleTransaction_unchanged c t hnew]

/-- An OK handed out while handling a frame is the replay of one sent before. -/
def Replays (m : MotionSystem) (frame f : ProtocolFrame) : Prop :=
  m.manager.coordinator.reliableReceiver.classify frame.transaction = .completedRetry ∧
    ∃ sent, BoardEvent.transmit f sent ∈ m.board.log

theorem Evidenced.replays {m : MotionSystem} (h : m.Evidenced) {frame f : ProtocolFrame}
    (hf : f ∈ framesOf (m.manager.coordinator.handleTransaction frame.transaction).1)
    (hresponse : OkResponse f) : m.Replays frame f := by
  obtain ⟨hsend, hresult, hframe⟩ := framesOf_okResponse hf hresponse
  obtain ⟨hretry, hvalid, hterminal, htransaction⟩ := handleTransaction_ok _ _ hsend hresult
  obtain ⟨sent, hsent⟩ := h.cached hvalid hterminal
  rw [hframe, htransaction]
  exact ⟨hretry, sent, hsent⟩

/-- The OK in the cache of a coordinator that has handled a command was sent before. -/
theorem Evidenced.cached_handled {m : MotionSystem} (h : m.Evidenced) (t : MotionTransaction)
    {log events : List BoardEvent} (hlog : log = m.board.log ++ events)
    (hvalid : (m.manager.coordinator.handleTransaction t).2.reliableReceiver.terminalValid = true)
    (hok : (m.manager.coordinator.handleTransaction t).2.reliableReceiver.terminalResult = ok) :
    ∃ sent, BoardEvent.transmit (motionResponseFrame
      (m.manager.coordinator.handleTransaction t).2.reliableReceiver.terminalTransaction ok) sent ∈
        log := by
  have hsame := handleTransaction_cached _ _ hvalid hok
  rw [hsame] at hvalid hok ⊢
  exact h.cached_append hlog hvalid hok

theorem Evidenced.command {m : MotionSystem} (h : m.Evidenced) (env : ℕ → PortAnswer)
    (frame : ProtocolFrame) (out : MotionSystem) (haligned : out.Aligned)
    (hout : out = (processAction env (m.manager.coordinator.handleTransaction frame.transaction).1
      { m with manager := { m.manager with
          coordinator :=
            (m.manager.coordinator.handleTransaction frame.transaction).2 } }).2) :
    out.Evidenced ∧ ∃ events, out.board.log = m.board.log ++ events ∧
      ∀ f sent, BoardEvent.transmit f sent ∈ events → OkResponse f → m.Replays frame f := by
  obtain ⟨sends, htransmits, hcases⟩ := processAction_cases env
    (m.manager.coordinator.handleTransaction frame.transaction).1
    { m with manager := { m.manager with
        coordinator := (m.manager.coordinator.handleTransaction frame.transaction).2 } }
  have hreplays : ∀ f sent, BoardEvent.transmit f sent ∈ sends → OkResponse f →
      m.Replays frame f := by
    intro f sent hf hresponse
    obtain ⟨g, hg, _, hfg⟩ := htransmits.transmit hf
    cases hfg
    exact h.replays hg hresponse
  rcases hcases with ⟨_, hsame⟩ | ⟨_, hsame⟩
  · have hneutral : ∀ e ∈ sends, e.Neutral := by
      intro e he
      obtain ⟨f, _, sent, rfl⟩ := htransmits.transmit he
      exact IsTransmit.neutral ⟨f, sent, rfl⟩
    rw [hsame] at hout
    subst hout
    refine ⟨⟨haligned, h.guarded, ?_, ?_, h.cached_handled _ rfl⟩, sends, rfl, hreplays⟩
    · intro hp hactive
      rcases h.stopped hp hactive with hpending | hstopped
      · exact .inl hpending
      · exact .inr (hstopped.append_neutral hneutral)
    · intro hactive
      exact (h.confirming hactive).append_neutral hneutral
  · obtain ⟨stops, hlog, hstops, hinit, hstopped, _⟩ := (motionCommandGuardStop_outcome env
      { m.board with log := m.board.log ++ sends } h.guarded).leaves
    rw [List.append_assoc] at hlog
    rw [hsame] at hout
    subst hout
    refine ⟨⟨haligned, hinit.trans h.guarded, fun _ _ => hstopped, ?_, h.cached_handled _ hlog⟩,
      sends ++ stops, hlog, ?_⟩
    · intro hactive
      exact absurd (haligned.active_eq.symm.trans hactive) (by simp)
    · intro f sent hf hresponse
      rcases List.mem_append.mp hf with hf | hf
      · exact hreplays f sent hf hresponse
      · exact absurd rfl ((hstops _ hf).not_transmit f sent)

theorem Evidenced.handle {m : MotionSystem} (h : m.Evidenced) (env : ℕ → PortAnswer)
    (frame : ProtocolFrame) (linkSynchronized : Bool) (nowMs : UInt32) :
    (MotionSystem.handle env frame linkSynchronized nowMs m).2.Evidenced ∧
      ∃ events, (MotionSystem.handle env frame linkSynchronized nowMs m).2.board.log =
          m.board.log ++ events ∧
        ∀ f sent, BoardEvent.transmit f sent ∈ events → OkResponse f → m.Replays frame f := by
  have haligned := h.aligned.handle env frame linkSynchronized nowMs
  have hout := handle_outcome env frame linkSynchronized nowMs m
  generalize (MotionSystem.handle env frame linkSynchronized nowMs m).2 = out at hout haligned ⊢
  cases hout with
  | ignored => exact ⟨h, [], by simp, by simp⟩
  | command _ _ => exact h.command env frame _ haligned rfl
  | wheel command _ _ hstate =>
    obtain ⟨hfree, hidle⟩ := h.aligned.idle_of_active hstate
    obtain ⟨events, hlog, hevents, hinit⟩ :=
      (motionCommandGuardApply_outcome env command nowMs m.board h.guarded).leaves
    exact ⟨⟨haligned, hinit.trans h.guarded, fun hp _ => absurd hfree hp, by simp [hidle],
      h.cached_append hlog⟩, events, hlog, fun f sent hf _ => absurd ⟨f, sent, rfl⟩ (hevents _ hf)⟩

theorem Evidenced.guardUpdate {m : MotionSystem} (h : m.Evidenced) (env : ℕ → PortAnswer)
    (nowMs : UInt32) :
    Evidenced { m with board := (motionCommandGuardUpdate env nowMs m.board).2 } ∧
      (∃ events, (motionCommandGuardUpdate env nowMs m.board).2.log = m.board.log ++ events ∧
        ∀ e ∈ events, e.FromStop) ∧
      ((motionCommandGuardUpdate env nowMs m.board).1 ≠ .stopFailed →
        (motionCommandGuardUpdate env nowMs m.board).2.guard.stopPending = false) := by
  have hout := motionCommandGuardUpdate_outcome env nowMs m.board h.guarded
  generalize motionCommandGuardUpdate env nowMs m.board = out at hout ⊢
  cases hout with
  | idle hpending => exact ⟨h, ⟨[], by simp, by simp⟩, fun _ => hpending⟩
  | stopped b' hout =>
    obtain ⟨events, hlog, hevents, _, _, hclear⟩ := hout.leaves
    exact ⟨h.afterStop hout, ⟨events, hlog, hevents⟩, fun _ => hclear rfl⟩
  | failed b' hout =>
    obtain ⟨events, hlog, hevents, _⟩ := hout.leaves
    exact ⟨h.afterStop hout, ⟨events, hlog, hevents⟩, fun hne => absurd rfl hne⟩

theorem Evidenced.beginConfirmation {m : MotionSystem} (h : m.Evidenced) (env : ℕ → PortAnswer)
    (nowMs : UInt32) (hp : m.manager.pendingStopOperationId ≠ 0)
    (hclear : m.board.guard.stopPending = false) :
    (m.beginConfirmation env nowMs).2.Evidenced ∧
      ∃ events, (m.beginConfirmation env nowMs).2.board.log = m.board.log ++ events ∧
        ∀ e ∈ events, ¬ e.IsTransmit := by
  have haligned := (h.aligned.beginConfirmation env nowMs hp).1
  rw [MotionSystem.beginConfirmation] at haligned ⊢
  cases hstarted : m.manager.stopConfirmationStarted with
  | true => exact ⟨by simpa using h, [], by simp, by simp⟩
  | false =>
    have hstopped := (h.stopped hp (h.aligned.active_eq.trans hstarted)).resolve_left
      (by simp [hclear])
    simp only [hstarted, Bool.false_eq_true, if_false, motionStopBegin, hp, wheelEncoderRead,
      Board.emit] at haligned ⊢
    exact ⟨⟨haligned, h.guarded, by simp, fun _ => hstopped.begin _ nowMs _,
      h.cached_append (List.append_assoc _ _ _)⟩,
      [.stopBegin m.manager.pendingStopOperationId nowMs, .stopSample _ nowMs],
      List.append_assoc _ _ _, by simp [IsTransmit]⟩

/-- The log proves at `nowMs` that the stop of the operation was confirmed. -/
def Confirmed (operationId nowMs : UInt32) (log : List BoardEvent) : Prop :=
  ∃ startMs counts sampleMs, SettledSince operationId startMs counts sampleMs log ∧
    nowMs - startMs < motionStopTimeoutMs ∧ nowMs - sampleMs ≥ motionStopSettleTimeMs

/-- An OK cached by a completion is the one that completion has just sent. -/
theorem completePending_cached (r : MotionReliableReceiver) (result : MotionResponseResult)
    (hp : r.pendingValid = true)
    (hvalid : (r.completePending r.pendingTransaction result).2.terminalValid = true)
    (hok : (r.completePending r.pendingTransaction result).2.terminalResult = ok) :
    (r.completePending r.pendingTransaction result).2.terminalTransaction = r.pendingTransaction ∧
        result = ok ∨
      r.terminalValid = true ∧ r.terminalResult = ok ∧
        (r.completePending r.pendingTransaction result).2.terminalTransaction =
          r.terminalTransaction := by
  rw [MotionReliableReceiver.completePending_self r result hp] at hvalid hok ⊢
  split_ifs at hvalid hok ⊢ with hseq
  · exact .inl ⟨rfl, hok⟩
  · exact .inr ⟨hvalid, hok, rfl⟩

theorem Evidenced.advanceConfirmation {m : MotionSystem} (h : m.Evidenced) (env : ℕ → PortAnswer)
    (nowMs : UInt32) (hactive : m.stop.active = true) :
    (MotionSystem.advanceConfirmation env nowMs m).2.Evidenced ∧
      ∃ events, (MotionSystem.advanceConfirmation env nowMs m).2.board.log =
          m.board.log ++ events ∧
        ∀ f sent, BoardEvent.transmit f sent ∈ events → OkResponse f →
          ∃ earlier, events = earlier ++ [.transmit f sent] ∧
            Confirmed m.stop.operationId nowMs (m.board.log ++ earlier) ∧
            f = motionResponseFrame m.manager.coordinator.reliableReceiver.pendingTransaction ok := by
  have haligned := h.aligned.advanceConfirmation env nowMs hactive
  have hcompletes := h.aligned.completes hactive
  obtain ⟨counts, hadvance | ⟨result, sent', hsuccess, _, hadvance⟩⟩ :=
    h.aligned.advance_cases env nowMs hactive
  all_goals
    have hsettled := (h.confirming hactive).observe counts nowMs
    rw [hadvance] at haligned ⊢
  · exact ⟨⟨haligned, h.guarded, by simp [hactive], fun _ => hsettled, h.cached_append rfl⟩,
      [.stopSample counts nowMs], rfl, by simp⟩
  · rw [completeOperation_accepted _ _ result hcompletes] at haligned ⊢
    refine ⟨⟨haligned, h.guarded, by simp, by simp, ?_⟩,
      [.stopSample counts nowMs, .transmit (motionResponseFrame
        m.manager.coordinator.reliableReceiver.pendingTransaction (completionResult result)) sent'],
      by simp [Board.emit], ?_⟩
    · intro hvalid hok
      rcases completePending_cached _ _ hcompletes.2.2.1 hvalid hok with
        ⟨hown, hresult⟩ | ⟨hvalid', hok', hold⟩
      · refine ⟨sent', List.mem_append_right _ ?_⟩
        rw [hown, hresult]
        exact List.mem_singleton_self _
      · obtain ⟨sent, hsent⟩ := h.cached hvalid' hok'
        refine ⟨sent, ?_⟩
        simp [hold, hsent, Board.emit]
    · intro f sent hf hresponse
      simp only [List.mem_cons, reduceCtorEq, BoardEvent.transmit.injEq, List.not_mem_nil, or_false,
        false_or] at hf
      obtain ⟨rfl, rfl⟩ := hf
      have hresult : completionResult result = ok := by
        have h := hresponse.2
        rw [motionResponseDecode_frame] at h
        exact h
      have hsuccess := hsuccess (by
        cases result with
        | success => rfl
        | failed => exact absurd hresult (by decide))
      refine ⟨[.stopSample counts nowMs], rfl, ?_, by rw [hresult]⟩
      exact ⟨_, _, _, by simpa using hsettled, hsuccess.1, hsuccess.2⟩

/-- The update at `nowMs` ends with this OK, and the log before it confirms the
stop of the operation that was pending. -/
def AnswersConfirmed (m : MotionSystem) (nowMs : UInt32) (f : ProtocolFrame) (sent : Bool)
    (log : List BoardEvent) : Prop :=
  ∃ earlier, log = earlier ++ [.transmit f sent] ∧
    Confirmed m.manager.pendingStopOperationId nowMs earlier ∧
    f = motionResponseFrame m.manager.coordinator.reliableReceiver.pendingTransaction ok

theorem Evidenced.update {m : MotionSystem} (h : m.Evidenced) (env : ℕ → PortAnswer)
    (nowMs : UInt32) :
    (MotionSystem.update env nowMs m).2.Evidenced ∧
      ∃ events, (MotionSystem.update env nowMs m).2.board.log = m.board.log ++ events ∧
        ∀ f sent, BoardEvent.transmit f sent ∈ events → OkResponse f →
          m.AnswersConfirmed nowMs f sent (m.board.log ++ events) := by
  obtain ⟨hguarded, ⟨stops, hlog, hstops⟩, hclear⟩ := h.guardUpdate env nowMs
  have hsilent : ∀ f sent, BoardEvent.transmit f sent ∉ stops :=
    fun f sent hf => (hstops _ hf).not_transmit f sent rfl
  rcases update_cases env nowMs m h.aligned.initialized with
    ⟨_, hupdate⟩ | ⟨hfailed, ⟨_, hupdate⟩ | ⟨hp, _, hupdate⟩⟩
  · rw [hupdate]
    exact ⟨hguarded, stops, hlog, fun f sent hf _ => absurd hf (hsilent f sent)⟩
  · rw [hupdate]
    exact ⟨hguarded, stops, hlog, fun f sent hf _ => absurd hf (hsilent f sent)⟩
  · obtain ⟨haligned, hactive, hcoordinator⟩ := hguarded.aligned.beginConfirmation env nowMs hp
    obtain ⟨hbegun, begins, hbegins, hquiet⟩ :=
      hguarded.beginConfirmation env nowMs hp (hclear hfailed)
    obtain ⟨hadvanced, answers, hanswers, hconfirmed⟩ :=
      hbegun.advanceConfirmation env nowMs hactive
    have hid := haligned.operation_eq hactive
    rw [haligned.pending_eq, hcoordinator] at hid
    rw [hupdate]
    refine ⟨hadvanced, stops ++ begins ++ answers, ?_, ?_⟩
    · rw [hanswers, hbegins, hlog]
      simp only [List.append_assoc]
    · intro f sent hf hresponse
      have hf : BoardEvent.transmit f sent ∈ answers := by
        rcases List.mem_append.mp hf with hf | hf
        · rcases List.mem_append.mp hf with hf | hf
          · exact absurd hf (hsilent f sent)
          · exact absurd ⟨f, sent, rfl⟩ (hquiet _ hf)
        · exact hf
      obtain ⟨earlier, rfl, hstop, hframe⟩ := hconfirmed f sent hf hresponse
      rw [hbegins, hlog, hid] at hstop
      rw [hcoordinator] at hframe
      refine ⟨m.board.log ++ stops ++ begins ++ earlier, by simp only [List.append_assoc], ?_,
        hframe⟩
      rw [h.aligned.pending_eq]
      exact hstop

theorem Evidenced.reset {m : MotionSystem} (h : m.Evidenced) : m.reset.Evidenced := by
  have haligned := h.aligned.reset
  rw [MotionSystem.reset, if_neg (by simp [h.aligned.initialized])] at haligned ⊢
  exact ⟨haligned, h.guarded, by simp, by simp, by
    simp [MotionLifecycleCoordinator.reset, MotionReliableReceiver.reset]⟩

/-- One call keeps the evidence, and every OK it sends is confirmed or a replay. -/
theorem Evidenced.guardedStep {m : MotionSystem} (h : m.Evidenced) (env : ℕ → PortAnswer)
    (x : GuardedCall) :
    (MotionSystem.guardedStep env m x).Evidenced ∧
      ∀ f sent, BoardEvent.transmit f sent ∈ emitted env m x → OkResponse f →
        (∃ nowMs, x = .update nowMs ∧
          m.AnswersConfirmed nowMs f sent (MotionSystem.guardedStep env m x).board.log) ∨
        ∃ frame linkSynchronized nowMs, x = .handle frame linkSynchronized nowMs ∧
          m.Replays frame f := by
  rw [emitted]
  cases x with
  | handle frame linkSynchronized nowMs =>
    obtain ⟨hkept, events, hlog, hreplays⟩ := h.handle env frame linkSynchronized nowMs
    refine ⟨hkept, fun f sent hf hresponse => .inr ⟨frame, linkSynchronized, nowMs, rfl, ?_⟩⟩
    rw [MotionSystem.guardedStep, hlog, List.drop_left] at hf
    exact hreplays f sent hf hresponse
  | update nowMs =>
    obtain ⟨hkept, events, hlog, hconfirmed⟩ := h.update env nowMs
    refine ⟨hkept, fun f sent hf hresponse => .inl ⟨nowMs, rfl, ?_⟩⟩
    rw [MotionSystem.guardedStep, hlog, List.drop_left] at hf
    rw [MotionSystem.guardedStep, hlog]
    exact hconfirmed f sent hf hresponse
  | reset =>
    refine ⟨h.reset, fun f sent hf _ => ?_⟩
    simp [MotionSystem.guardedStep, reset_board] at hf
  | guardStop =>
    have hout := motionCommandGuardStop_outcome env m.board h.guarded
    obtain ⟨events, hlog, hevents, _⟩ := hout.leaves
    refine ⟨h.afterStop hout, fun f sent hf _ => ?_⟩
    rw [MotionSystem.guardedStep, hlog, List.drop_left] at hf
    exact absurd rfl ((hevents _ hf).not_transmit f sent)

theorem Evidenced.guardedRun {m : MotionSystem} (h : m.Evidenced) (env : ℕ → PortAnswer)
    (calls : List GuardedCall) : (MotionSystem.guardedRun env m calls).Evidenced := by
  induction calls generalizing m with
  | nil => exact h
  | cons x calls ih => exact ih (h.guardedStep env x).1

theorem boot_evidenced {config : WheelVelocityFeedforwardConfig}
    (hconfig : (Stm32MotionProtocolManager.init config).1 = true) {portInit : Bool}
    {timeoutMs : UInt32} (hguard : (motionCommandGuardInit portInit timeoutMs {}).1 = true) :
    (boot config (motionCommandGuardInit portInit timeoutMs {}).2).Evidenced := by
  have haligned := boot_aligned hconfig (motionCommandGuardInit portInit timeoutMs {}).2
  have hinit : (motionCommandGuardInit portInit timeoutMs {}).2.guard.initialized = true := by
    rw [motionCommandGuardInit_succeeds hguard]
  have hidle : (boot config (motionCommandGuardInit portInit timeoutMs {}).2).stop.active = false :=
    rfl
  refine ⟨haligned, hinit, ?_, by simp [hidle], ?_⟩
  · intro hp _
    rw [boot, init_succeeds hconfig] at hp
    exact absurd rfl hp
  · intro hvalid
    rw [boot, init_succeeds hconfig] at hvalid
    cases hvalid

/-- Every OK of every run is either the replay of an earlier one or sent inside an
update whose log confirms the physical stop of the operation it answers. -/
theorem ok_response_reports_confirmed_stop (env : ℕ → PortAnswer)
    (config : WheelVelocityFeedforwardConfig)
    (hconfig : (Stm32MotionProtocolManager.init config).1 = true) (portInit : Bool)
    (timeoutMs : UInt32) (hguard : (motionCommandGuardInit portInit timeoutMs {}).1 = true)
    (calls : List GuardedCall) (x : GuardedCall) (f : ProtocolFrame) (sent : Bool)
    (hsent : BoardEvent.transmit f sent ∈ emitted env
      (guardedRun env (boot config (motionCommandGuardInit portInit timeoutMs {}).2) calls) x)
    (hok : OkResponse f) :
    let m := guardedRun env (boot config (motionCommandGuardInit portInit timeoutMs {}).2) calls
    (∃ nowMs, x = .update nowMs ∧
        m.AnswersConfirmed nowMs f sent (guardedStep env m x).board.log) ∨
      ∃ frame linkSynchronized nowMs, x = .handle frame linkSynchronized nowMs ∧
        m.Replays frame f :=
  (((boot_evidenced hconfig hguard).guardedRun env calls).guardedStep env x).2 f sent hsent hok

/-- A START and the update that begins to verify its stop. -/
def startBegun : List GuardedCall :=
  [.handle (motionLifecycleCommandFrame { command := 1, motionSessionId := 7 }) true 10, .update 20]

theorem ok_response_reports_confirmed_stop_start :
    AnswersConfirmed (guardedRun (fun _ => {})
        (boot { maxVelocityMmS := 400, minimumStartCommand := 50 }
          (motionCommandGuardInit true 250 {}).2) startBegun)
      220 (motionResponseFrame { command := 1, motionSessionId := 7 } ok) true
      (guardedStep (fun _ => {}) (guardedRun (fun _ => {})
        (boot { maxVelocityMmS := 400, minimumStartCommand := 50 }
          (motionCommandGuardInit true 250 {}).2) startBegun) (.update 220)).board.log := by
  rcases ok_response_reports_confirmed_stop (fun _ => {})
    { maxVelocityMmS := 400, minimumStartCommand := 50 } (by decide) true 250 (by decide)
    startBegun (.update 220)
    (motionResponseFrame { command := 1, motionSessionId := 7 } ok) true (by decide)
    ⟨by decide, by decide⟩ with ⟨nowMs, hx, hanswers⟩ | ⟨frame, linkSynchronized, nowMs, hx, _⟩
  · injection hx with hnow
    rw [← hnow] at hanswers
    exact hanswers
  · injection hx

end MotionSystem

end IndoorRobot
