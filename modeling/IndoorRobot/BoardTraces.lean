import IndoorRobot.FirmwareSteps
import Mathlib.Data.List.Chain

/-!
# The motors and the encoders in the log of the board

The commands the motor driver has taken and the samples of the wheel speeds, over the
stages of the main loop. A command is taken for a received wheel frame only, the one
it asks for and once at most; a sample is taken by the stage for it only.
-/
namespace IndoorRobot

open MotionLifecycleCoordinator

/-- The command a motor driver has taken. -/
def BoardEvent.applied : BoardEvent → Option MotorDriverCommand
  | .driverApply command true => some command
  | _ => none

/-- The commands of a log the motor driver has taken. -/
def driven (log : List BoardEvent) : List MotorDriverCommand := log.filterMap BoardEvent.applied

/-- A sample of the encoders for the speeds. -/
def BoardEvent.sampled : BoardEvent → Option (WheelEncoderCounts × UInt32)
  | .speedSample counts nowMs => some (counts, nowMs)
  | _ => none

/-- The samples of a log. -/
def speedSamples (log : List BoardEvent) : List (WheelEncoderCounts × UInt32) :=
  log.filterMap BoardEvent.sampled

/-- The motor command a frame asks for. -/
def ProtocolFrame.motorCommand (f : ProtocolFrame) : Option MotorDriverCommand :=
  if protocolIngressRoute f = .wheelVelocity then
    wheelVelocityFeedforwardConvert Firmware.feedforwardConfig
      (wheelVelocityPayloadDecode f.payload.bytes).command
  else none

/-- The motor command a result of the receiver asks for. -/
def UartProtocolReceiverResult.motorCommand : UartProtocolReceiverResult → Option MotorDriverCommand
  | .frame f => f.motorCommand
  | _ => Option.none

theorem ProtocolFrame.motorCommand_some {f : ProtocolFrame} {command : MotorDriverCommand}
    (h : f.motorCommand = some command) : protocolIngressRoute f = .wheelVelocity ∧
      wheelVelocityFeedforwardConvert Firmware.feedforwardConfig
        (wheelVelocityPayloadDecode f.payload.bytes).command = some command := by
  rw [ProtocolFrame.motorCommand] at h
  split_ifs at h with hroute
  exact ⟨hroute, h⟩

theorem protocolIngressRoute_wheelVelocity {f : ProtocolFrame}
    (h : protocolIngressRoute f = .wheelVelocity) : f.messageType = .wheelVelocity := by
  by_contra htype
  rw [protocolIngressRoute] at h
  repeat' split at h
  all_goals first
    | exact htype (by assumption)
    | exact ProtocolFrame.routeSized_ne (by decide) (by decide) h
    | cases h

/-! ### The board -/

section Boards
variable {b : Board} {log log' log'' events : List BoardEvent}

theorem driven_append (log events : List BoardEvent) :
    driven (log ++ events) = driven log ++ driven events :=
  List.filterMap_append

theorem speedSamples_append (log events : List BoardEvent) :
    speedSamples (log ++ events) = speedSamples log ++ speedSamples events :=
  List.filterMap_append

/-- The log goes on without a command taken and without a sample. -/
def GoesOnQuietly (log log' : List BoardEvent) : Prop :=
  ∃ events, log' = log ++ events ∧ ∀ e ∈ events, e.applied = none ∧ e.sampled = none

namespace GoesOnQuietly

theorem refl (log : List BoardEvent) : GoesOnQuietly log log := ⟨[], by simp, by simp⟩

theorem trans (h : GoesOnQuietly log log') (h' : GoesOnQuietly log' log'') :
    GoesOnQuietly log log'' := by
  obtain ⟨events, rfl, hevents⟩ := h
  obtain ⟨later, rfl, hlater⟩ := h'
  refine ⟨events ++ later, List.append_assoc _ _ _, fun e he => ?_⟩
  exact (List.mem_append.mp he).elim (hevents e) (hlater e)

theorem append (log : List BoardEvent) (h : ∀ e ∈ events, e.applied = none ∧ e.sampled = none) :
    GoesOnQuietly log (log ++ events) :=
  ⟨events, rfl, h⟩

theorem driven_eq (h : GoesOnQuietly log log') : driven log' = driven log := by
  obtain ⟨events, rfl, hevents⟩ := h
  rw [driven_append, driven, driven,
    List.filterMap_eq_nil_iff.mpr fun e he => (hevents e he).1, List.append_nil]

theorem speedSamples_eq (h : GoesOnQuietly log log') : speedSamples log' = speedSamples log := by
  obtain ⟨events, rfl, hevents⟩ := h
  rw [speedSamples_append, speedSamples, speedSamples,
    List.filterMap_eq_nil_iff.mpr fun e he => (hevents e he).2, List.append_nil]

end GoesOnQuietly

theorem StopOutcome.quietly {out : Bool × Board} (h : StopOutcome b out) :
    GoesOnQuietly b.log out.2.log := by
  cases h with
  | stopped motor => exact .append _ (by simp [BoardEvent.applied, BoardEvent.sampled])
  | failed events hevents =>
    refine .append _ fun e he => ?_
    rcases hevents e he with rfl | rfl <;> exact ⟨rfl, rfl⟩

theorem GuardUpdateOutcome.quietly {out : MotionCommandGuardUpdate × Board}
    (h : GuardUpdateOutcome b out) : GoesOnQuietly b.log out.2.log := by
  cases h with
  | idle => exact .refl _
  | stopped b' hout => exact hout.quietly
  | failed b' hout => exact hout.quietly

theorem MotionSystem.Transmits.quietly {frames : List ProtocolFrame}
    (h : MotionSystem.Transmits frames events) (log : List BoardEvent) :
    GoesOnQuietly log (log ++ events) := by
  refine .append log fun e he => ?_
  obtain ⟨f, -, ok, rfl⟩ := h.transmit he
  exact ⟨rfl, rfl⟩

/-- An attempt to apply a command succeeds at most once, and samples nothing. -/
theorem motionCommandGuardApply_traces (env : ℕ → PortAnswer) (c : MotorDriverCommand)
    (nowMs : UInt32) (b : Board) :
    (driven (motionCommandGuardApply env c nowMs b).2.log).Sublist (driven b.log ++ [c]) ∧
      speedSamples (motionCommandGuardApply env c nowMs b).2.log = speedSamples b.log := by
  have hkept : (driven b.log).Sublist (driven b.log ++ [c]) := List.sublist_append_left _ _
  rw [motionCommandGuardApply]
  by_cases hrefused : ¬ b.guard.initialized ∨ b.guard.stopPending
  · rw [if_pos hrefused]
    exact ⟨hkept, rfl⟩
  rw [if_neg hrefused]
  rcases motorDriverApply_cases env c b with ⟨motor, control, -, h⟩ | ⟨motor, events, hevents, h⟩
  · have htaken : driven (b.log ++ [.portApply control true, .driverApply c true]) =
        driven b.log ++ [c] := driven_append _ _
    have hsamples : speedSamples (b.log ++ [.portApply control true, .driverApply c true]) =
        speedSamples b.log := (speedSamples_append _ _).trans (List.append_nil _)
    rw [h]
    dsimp only
    rw [if_neg (by simp)]
    split_ifs
    · exact ⟨htaken ▸ List.Sublist.refl _, hsamples⟩
    · exact ⟨htaken ▸ List.Sublist.refl _, hsamples⟩
    · have hstop := (motionCommandGuardTryStop_outcome env { b with
        motor := motor
        watchdog := (b.watchdog.refresh nowMs).2
        log := b.log ++ [.portApply control true, .driverApply c true] }).quietly
      rw [hstop.driven_eq, hstop.speedSamples_eq]
      exact ⟨htaken ▸ List.Sublist.refl _, hsamples⟩
  · have hfailed : GoesOnQuietly b.log (b.log ++ events) := by
      refine .append _ fun e he => ?_
      rcases hevents e he with ⟨control, rfl⟩ | rfl <;> exact ⟨rfl, rfl⟩
    have hstop := hfailed.trans (motionCommandGuardTryStop_outcome env { b with
      motor := motor, log := b.log ++ events }).quietly
    rw [h]
    dsimp only
    rw [if_pos (by simp), hstop.driven_eq, hstop.speedSamples_eq]
    exact ⟨hkept, rfl⟩

end Boards

/-! ### The motion manager -/

namespace MotionSystem

/-- The motors have taken no command, nothing was sampled, and the calibration is the same. -/
structure Undriven (m q : MotionSystem) : Prop where
  log : GoesOnQuietly m.board.log q.board.log
  config : q.manager.feedforwardConfig = m.manager.feedforwardConfig

variable {m q p : MotionSystem}

theorem Undriven.refl (m : MotionSystem) : m.Undriven m := ⟨.refl _, rfl⟩

theorem Undriven.trans (h : m.Undriven q) (h' : q.Undriven p) : m.Undriven p :=
  ⟨h.log.trans h'.log, h'.config.trans h.config⟩

theorem reset_undriven (m : MotionSystem) : m.Undriven m.reset := by
  rw [reset]
  split_ifs
  · exact ⟨.refl _, rfl⟩
  · exact .refl m

variable (env : ℕ → PortAnswer) (nowMs : UInt32)

theorem processAction_undriven (a : MotionLifecycleAction) (hi : m.board.guard.initialized = true) :
    m.Undriven (processAction env a m).2 := by
  obtain ⟨events, htransmits, ⟨-, h⟩ | ⟨-, h⟩⟩ := processAction_cases env a m
  · rw [h]
    exact ⟨htransmits.quietly _, rfl⟩
  · have hstop := (motionCommandGuardStop_outcome env
      { m.board with log := m.board.log ++ events } hi).quietly
    rw [h]
    exact ⟨(htransmits.quietly _).trans hstop, rfl⟩

theorem beginConfirmation_undriven (m : MotionSystem) :
    m.Undriven (m.beginConfirmation env nowMs).2 := by
  rw [beginConfirmation, motionStopBegin]
  split_ifs
  · exact .refl m
  · exact ⟨.refl _, rfl⟩
  · refine ⟨?_, rfl⟩
    have hquiet : GoesOnQuietly m.board.log (m.board.log ++ [.stopBegin
        m.manager.pendingStopOperationId nowMs,
        .stopSample (env (m.board.log.length + 1)).counts nowMs]) :=
      .append _ (by simp [BoardEvent.applied, BoardEvent.sampled])
    simpa [wheelEncoderRead, Board.emit] using hquiet

theorem update_undriven {synchronized : Bool} (h : m.Safe synchronized) :
    m.Undriven (update env nowMs m).2 := by
  have hguard := (motionCommandGuardUpdate_outcome env nowMs m.board h.guarded).quietly
  have hguarded := h.guardUpdate env nowMs
  rcases update_cases env nowMs m h.aligned.initialized with
    ⟨_, hupdate⟩ | ⟨_, ⟨_, hupdate⟩ | ⟨hp, _, hupdate⟩⟩
  · rw [hupdate]
    exact ⟨hguard, rfl⟩
  · rw [hupdate]
    exact ⟨hguard, rfl⟩
  · have hstarted : m.Undriven { m with board := (motionCommandGuardUpdate env nowMs m.board).2 } :=
      ⟨hguard, rfl⟩
    have hbegun := hstarted.trans (beginConfirmation_undriven env nowMs _)
    obtain ⟨haligned, hactive, -⟩ := hguarded.aligned.beginConfirmation env nowMs hp
    rw [hupdate]
    obtain ⟨counts, hpending | ⟨result, sent, -, -, hcompleted⟩⟩ :=
      haligned.advance_cases env nowMs hactive
    · rw [hpending]
      exact hbegun.trans ⟨.append _ (by simp [BoardEvent.applied, BoardEvent.sampled]), rfl⟩
    · rw [hcompleted]
      refine hbegun.trans ⟨?_, rfl⟩
      exact (GoesOnQuietly.append _ (by simp [BoardEvent.applied, BoardEvent.sampled])).trans
        (.append _ (by simp [BoardEvent.applied, BoardEvent.sampled]))

/-- A handled frame changes nothing, or is a lifecycle command, or a wheel frame whose velocities are
converted and applied. -/
theorem handle_wheel_cases (f : ProtocolFrame) (synchronized : Bool) (m : MotionSystem) :
    (handle env f synchronized nowMs m).2 = m ∨
      protocolIngressRoute f = .motionCommand ∧ (handle env f synchronized nowMs m).2 =
        (processAction env (m.manager.coordinator.handleTransaction f.transaction).1
          { m with manager := { m.manager with
              coordinator := (m.manager.coordinator.handleTransaction f.transaction).2 } }).2 ∨
      ∃ command, protocolIngressRoute f = .wheelVelocity ∧
        wheelVelocityFeedforwardConvert m.manager.feedforwardConfig
          (wheelVelocityPayloadDecode f.payload.bytes).command = some command ∧
        (handle env f synchronized nowMs m).2 =
          { m with board := (motionCommandGuardApply env command nowMs m.board).2 } := by
  simp only [handle]
  split_ifs with hinitialized hother hsynchronized hcommand hactive hsession
  · exact .inl rfl
  · exact .inr (.inl ⟨hcommand, rfl⟩)
  · exact .inl rfl
  · exact .inl rfl
  · have hroute : protocolIngressRoute f = .wheelVelocity :=
      not_not.mp fun hne => hother ⟨hcommand, hne⟩
    split
    · exact .inl rfl
    · exact .inr (.inr ⟨_, hroute, ‹_›, rfl⟩)
  · exact .inl rfl
  · exact .inl rfl

/-- A handled frame drives the motors by its own command, once at most, and samples nothing. -/
theorem handle_traces {synchronized : Bool} (h : m.Safe synchronized)
    (hconfig : m.manager.feedforwardConfig = Firmware.feedforwardConfig) (f : ProtocolFrame) :
    (driven (handle env f synchronized nowMs m).2.board.log).Sublist
        (driven m.board.log ++ f.motorCommand.toList) ∧
      speedSamples (handle env f synchronized nowMs m).2.board.log = speedSamples m.board.log ∧
      (handle env f synchronized nowMs m).2.manager.feedforwardConfig = Firmware.feedforwardConfig := by
  have hkept : (driven m.board.log).Sublist (driven m.board.log ++ f.motorCommand.toList) :=
    List.sublist_append_left _ _
  rcases handle_wheel_cases env nowMs f synchronized m with
    hsame | ⟨-, hprocessed⟩ | ⟨command, hroute, hconvert, happlied⟩
  · rw [hsame]
    exact ⟨hkept, rfl, hconfig⟩
  · have hundriven := processAction_undriven (m := { m with manager := { m.manager with
      coordinator := (m.manager.coordinator.handleTransaction f.transaction).2 } }) env
      (m.manager.coordinator.handleTransaction f.transaction).1 h.guarded
    rw [hprocessed, hundriven.log.driven_eq, hundriven.log.speedSamples_eq, hundriven.config]
    exact ⟨hkept, rfl, hconfig⟩
  · have hmotor : f.motorCommand = some command := by
      rw [ProtocolFrame.motorCommand, if_pos hroute, ← hconfig, hconvert]
    obtain ⟨hdriven, hsamples⟩ := motionCommandGuardApply_traces env command nowMs m.board
    rw [happlied, hmotor]
    exact ⟨hdriven, hsamples, hconfig⟩

end MotionSystem

/-! ### The main loop -/

namespace Firmware

/-- No command, no sample and no change of the calibration. -/
structure Quiet (fw q : Firmware) : Prop where
  motion : fw.motion.Undriven q.motion
  lastSpeedSampleMs : q.lastSpeedSampleMs = fw.lastSpeedSampleMs

/-- The motors have taken nothing but the given commands, in their order. The samples follow each
other at the period of the loop, and the latest one is noted. -/
structure Traces (fw : Firmware) (commands : List MotorDriverCommand)
    (samples : List (WheelEncoderCounts × UInt32)) : Prop where
  safe : fw.Safe
  config : fw.motion.manager.feedforwardConfig = feedforwardConfig
  taken : (driven fw.motion.board.log).Sublist commands
  sampled : speedSamples fw.motion.board.log = samples
  period : samples.IsChain fun s t => wheelSpeedSamplePeriodMs ≤ t.2 - s.2
  last : samples.getLast?.map Prod.snd = some fw.lastSpeedSampleMs

variable {fw q p : Firmware} {commands : List MotorDriverCommand}
  {samples : List (WheelEncoderCounts × UInt32)}

theorem Quiet.refl (fw : Firmware) : fw.Quiet fw := ⟨.refl _, rfl⟩

theorem Quiet.trans (h : fw.Quiet q) (h' : q.Quiet p) : fw.Quiet p :=
  ⟨h.motion.trans h'.motion, h'.lastSpeedSampleMs.trans h.lastSpeedSampleMs⟩

theorem Traces.quiet (h : fw.Traces commands samples) (hsafe : q.Safe) (hquiet : fw.Quiet q) :
    q.Traces commands samples where
  safe := hsafe
  config := hquiet.motion.config.trans h.config
  taken := hquiet.motion.log.driven_eq ▸ h.taken
  sampled := hquiet.motion.log.speedSamples_eq.trans h.sampled
  period := h.period
  last := by rw [hquiet.lastSpeedSampleMs, h.last]

variable (env : ℕ → PortAnswer) (nowMs : UInt32)

theorem resetLinkAndStopMotion_quiet (h : fw.Safe) : fw.Quiet (fw.resetLinkAndStopMotion env) := by
  have hboard : fw.motion.reset.board = fw.motion.board := MotionSystem.reset_board fw.motion
  have hstop := (motionCommandGuardStop_outcome env fw.motion.reset.board
    (by rw [hboard]; exact h.guarded)).quietly
  exact ⟨(MotionSystem.reset_undriven fw.motion).trans ⟨hstop, rfl⟩, rfl⟩

theorem Traces.updateMotion (h : fw.Traces commands samples) :
    (fw.updateMotion env nowMs).Traces commands samples := by
  have hupdate : fw.Quiet { fw with motion := (fw.motion.update env nowMs).2 } :=
    ⟨MotionSystem.update_undriven env nowMs h.safe, rfl⟩
  have hsafe : Safe { fw with motion := (fw.motion.update env nowMs).2 } :=
    MotionSystem.Safe.update h.safe env nowMs
  refine h.quiet (h.safe.updateMotion env nowMs) ?_
  simp only [Firmware.updateMotion]
  split_ifs
  · exact hupdate.trans (resetLinkAndStopMotion_quiet env hsafe)
  · exact hupdate

theorem Traces.updateLink (h : fw.Traces commands samples) :
    (fw.updateLink env nowMs).Traces commands samples := by
  refine h.quiet (h.safe.updateLink env nowMs) ⟨?_, rfl⟩
  rw [Firmware.updateLink]
  rcases UartLinkManager.update_cases env nowMs fw.link fw.motion.board with
    hnone | ⟨result, hresult, hlost⟩
  · rw [hnone]
    exact .refl _
  · have hstop := (motionCommandGuardStop_outcome env fw.motion.board h.safe.guarded).quietly
    have hstopped : fw.motion.Undriven
        { fw.motion with board := (motionCommandGuardStop env fw.motion.board).2 } := ⟨hstop, rfl⟩
    rw [hlost]
    simp only [hresult, if_true]
    exact hstopped.trans (MotionSystem.reset_undriven _)

/-- The stage for it samples once a period. -/
theorem Traces.sampleSpeed (h : fw.Traces commands samples) :
    ∃ taken, (fw.sampleSpeed env nowMs).Traces commands (samples ++ taken) ∧
      nowMs - (fw.sampleSpeed env nowMs).lastSpeedSampleMs < wheelSpeedSamplePeriodMs := by
  have hsafe := h.safe.sampleSpeed env nowMs
  rw [Firmware.sampleSpeed] at hsafe ⊢
  split_ifs at hsafe ⊢ with hdue
  · have hdriven : driven (fw.motion.board.log ++
        [.speedSample (env fw.motion.board.log.length).counts nowMs]) = driven fw.motion.board.log :=
      (driven_append _ _).trans (List.append_nil _)
    have hsampled := speedSamples_append fw.motion.board.log
      [.speedSample (env fw.motion.board.log.length).counts nowMs]
    refine ⟨[((env fw.motion.board.log.length).counts, nowMs)], ⟨hsafe, h.config, hdriven ▸ h.taken,
      h.sampled ▸ hsampled, h.period.append (.singleton _) fun s hs t ht => ?_, ?_⟩, ?_⟩
    · have hlast := h.last
      rw [Option.mem_def.mp hs, Option.map_some, Option.some.injEq] at hlast
      cases Option.mem_def.mp ht
      rw [hlast]
      exact hdue
    · rw [List.getLast?_concat]
      rfl
    · exact (UInt32.sub_self nowMs).symm ▸ (by decide : (0 : UInt32) < wheelSpeedSamplePeriodMs)
  · exact ⟨[], by rwa [List.append_nil], UInt32.not_le.mp hdue⟩

theorem dispatchLink_quiet (h : fw.Safe) (f : ProtocolFrame) :
    fw.Quiet (fw.dispatchLink env f nowMs) := by
  have hanswers {events : List BoardEvent} (hevents : ∀ e ∈ events, UartLinkManager.Answers f e)
      (log : List BoardEvent) : GoesOnQuietly log (log ++ events) := by
    refine .append log fun e he => ?_
    rcases hevents e he with ⟨_, ok, rfl, -⟩ | ⟨-, ok, rfl⟩ <;> exact ⟨rfl, rfl⟩
  have hout := UartLinkManager.handle_outcome env f nowMs fw.link fw.motion.board h.guarded
  have hboard : GoesOnQuietly fw.motion.board.log
      (fw.link.handle env f nowMs fw.motion.board).2.2.log := by
    generalize fw.link.handle env f nowMs fw.motion.board = handled at hout ⊢
    cases hout with
    | kept result l' events hresult hl' hevents =>
      exact hanswers (fun e he => .inl (hevents e he)) _
    | dropped result l' before out after hresult hl' hbefore hout hafter =>
      exact ((hanswers hbefore _).trans hout.quietly).trans (hanswers hafter _)
    | synchronized l' out hroute hl' hout =>
      exact hout.quietly.trans (.append _ (by simp [BoardEvent.applied, BoardEvent.sampled]))
  have hhandled : fw.motion.Undriven
      { fw.motion with board := (fw.link.handle env f nowMs fw.motion.board).2.2 } := ⟨hboard, rfl⟩
  refine ⟨?_, rfl⟩
  rw [dispatchLink]
  dsimp only
  split_ifs
  · exact hhandled.trans (MotionSystem.reset_undriven _)
  · exact hhandled

theorem Traces.receiveFrame (h : fw.Traces commands samples) (f : ProtocolFrame) :
    (fw.receive env (.frame f) nowMs).Traces (commands ++ f.motorCommand.toList) samples := by
  have hsafe := h.safe.receive env (.frame f) nowMs
  have hkept : fw.Traces (commands ++ f.motorCommand.toList) samples :=
    { h with taken := h.taken.trans (List.sublist_append_left _ _) }
  simp only [Firmware.receive] at hsafe ⊢
  split_ifs at hsafe ⊢ with hlink hmotion
  · exact hkept.quiet hsafe (dispatchLink_quiet env nowMs h.safe f)
  · obtain ⟨hdriven, hsamples, hconfig⟩ := MotionSystem.handle_traces env nowMs h.safe h.config f
    have hhandled : Traces { fw with
        motion := (MotionSystem.handle env f fw.link.synchronized nowMs fw.motion).2 }
        (commands ++ f.motorCommand.toList) samples :=
      { h with
        safe := MotionSystem.Safe.handle h.safe env f nowMs
        config := hconfig
        taken := hdriven.trans (h.taken.append (List.Sublist.refl _))
        sampled := hsamples.trans h.sampled }
    rw [dispatchMotion]
    dsimp only
    split_ifs
    · exact hhandled.quiet (hhandled.safe.resetLinkAndStopMotion env)
        (resetLinkAndStopMotion_quiet env hhandled.safe)
    · exact hhandled
  · exact hkept

/-- A received frame drives the motors by its own command, once at most. -/
theorem Traces.receive (h : fw.Traces commands samples) (received : UartProtocolReceiverResult) :
    (fw.receive env received nowMs).Traces (commands ++ received.motorCommand.toList) samples := by
  have hkept : fw.Traces (commands ++ []) samples := by rwa [List.append_nil]
  have hreset : (fw.resetLinkAndStopMotion env).Traces (commands ++ []) samples :=
    hkept.quiet (h.safe.resetLinkAndStopMotion env) (resetLinkAndStopMotion_quiet env h.safe)
  cases received with
  | none => exact hkept
  | overflow => exact hreset
  | invalidArgument => exact hreset
  | frame f => exact h.receiveFrame env nowMs f

theorem Traces.iterate (h : fw.Traces commands samples) (received : UartProtocolReceiverResult) :
    ∃ taken, (fw.iterate env nowMs received).Traces (commands ++ received.motorCommand.toList)
        (samples ++ taken) ∧
      nowMs - (fw.iterate env nowMs received).lastSpeedSampleMs < wheelSpeedSamplePeriodMs := by
  obtain ⟨taken, hsampled, hfresh⟩ := (h.updateMotion env nowMs).sampleSpeed env nowMs
  have hiterated := (hsampled.receive env nowMs received).updateLink env nowMs
  have hlast := hsampled.last.symm.trans hiterated.last
  rw [Option.some.injEq] at hlast
  rw [hlast] at hfresh
  exact ⟨taken, hiterated, hfresh⟩

/-- Over the whole loop. -/
theorem Traces.loop (h : fw.Traces commands samples)
    (iterations : List (UInt32 × UartProtocolReceiverResult)) :
    ∃ taken, (fw.loop env iterations).Traces
      (commands ++ iterations.filterMap fun i => i.2.motorCommand) (samples ++ taken) := by
  induction iterations generalizing fw commands samples with
  | nil => exact ⟨[], by simpa [Firmware.loop] using h⟩
  | cons i iterations ih =>
    obtain ⟨taken, hiterated, -⟩ := h.iterate env i.1 i.2
    obtain ⟨later, hloop⟩ := ih hiterated
    refine ⟨taken ++ later, ?_⟩
    have hcommands : commands ++ (i :: iterations).filterMap (fun i => i.2.motorCommand) =
        commands ++ i.2.motorCommand.toList ++ iterations.filterMap fun i => i.2.motorCommand := by
      rw [List.filterMap_cons, List.append_assoc]
      cases i.2.motorCommand <;> rfl
    rw [hcommands, ← List.append_assoc]
    exact hloop

theorem boot_traces {portInit : Bool} {counts : WheelEncoderCounts} {start : Firmware}
    (h : boot portInit counts nowMs = some start) : start.Traces [] [(counts, nowMs)] := by
  have hsafe := boot_safe h
  cases portInit with
  | false => cases h
  | true =>
    cases h
    exact ⟨hsafe, rfl, List.Sublist.refl _, rfl, .singleton _, rfl⟩

end Firmware

end IndoorRobot
