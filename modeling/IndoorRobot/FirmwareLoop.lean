import IndoorRobot.ManagerAlignment
import IndoorRobot.UartLinkManager
import IndoorRobot.UartProtocolReceiver

/-!
# The main loop and its motion safety

The loop of `main.c`. One iteration is the composition of its four stages, each at
the tick read at the top of the loop. A driven wheel is always covered: either a
stop is pending, or the link is synchronized, the session active and the watchdog
armed.
-/
namespace IndoorRobot

/-- The static state of the firmware. -/
structure Firmware where
  motion : MotionSystem := {}
  link : UartLinkManager := {}
  lastSpeedSampleMs : UInt32 := 0
  deriving Inhabited

namespace Firmware

def motionCommandTimeoutMs : UInt32 := 250
def linkHeartbeatTimeoutMs : UInt32 := 1000
def wheelSpeedSamplePeriodMs : UInt32 := 100

/-- The calibration constants of `main.c`. -/
def feedforwardConfig : WheelVelocityFeedforwardConfig :=
  { maxVelocityMmS := 400, minimumStartCommand := 50 }

/-- The initialisation of `main`, given the answer of the motor port and the
encoder counters. `none` is `Error_Handler`. -/
def boot (portInit : Bool) (counts : WheelEncoderCounts) (nowMs : UInt32) : Option Firmware :=
  let (guardInitialized, board) := motionCommandGuardInit portInit motionCommandTimeoutMs {}
  let (managerInitialized, manager) := Stm32MotionProtocolManager.init feedforwardConfig
  let (linkInitialized, link) := UartLinkManager.init linkHeartbeatTimeoutMs
  if ¬ guardInitialized ∨ ¬ managerInitialized ∨ ¬ linkInitialized then none
  else
    some
      { motion := { board := board.emit (.speedSample counts nowMs), manager := manager }
        link := link
        lastSpeedSampleMs := nowMs }

section Loop
variable (env : ℕ → PortAnswer)

/-- `reset_link_and_stop_motion`. -/
def resetLinkAndStopMotion (fw : Firmware) : Firmware :=
  let link := (UartLinkManager.init linkHeartbeatTimeoutMs).2
  let motion := fw.motion.reset
  { fw with
    link := link
    motion := { motion with board := (motionCommandGuardStop env motion.board).2 } }

/-- The loop's call of `stm32_motion_protocol_manager_update`. -/
def updateMotion (nowMs : UInt32) (fw : Firmware) : Firmware :=
  let (result, motion) := fw.motion.update env nowMs
  let fw := { fw with motion := motion }
  if result = .stopFailed ∨ result = .transmitFailed then fw.resetLinkAndStopMotion env else fw

/-- The periodic encoder sample for the speed estimate. -/
def sampleSpeed (nowMs : UInt32) (fw : Firmware) : Firmware :=
  if nowMs - fw.lastSpeedSampleMs ≥ wheelSpeedSamplePeriodMs then
    let board := fw.motion.board
    let counts := (env board.log.length).counts
    { fw with
      motion := { fw.motion with board := board.emit (.speedSample counts nowMs) }
      lastSpeedSampleMs := nowMs }
  else fw

/-- The dispatch of a LINK_SYNC or HEARTBEAT frame. -/
def dispatchLink (frame : ProtocolFrame) (nowMs : UInt32) (fw : Firmware) : Firmware :=
  let (result, link, board) := fw.link.handle env frame nowMs fw.motion.board
  let motion := { fw.motion with board := board }
  { fw with
    link := link
    motion := if result = .synchronized ∨ ¬ link.synchronized then motion.reset else motion }

/-- The dispatch of a MOTION_COMMAND or WHEEL_VELOCITY frame. -/
def dispatchMotion (frame : ProtocolFrame) (nowMs : UInt32) (fw : Firmware) : Firmware :=
  let (result, motion) := fw.motion.handle env frame fw.link.synchronized nowMs
  let fw := { fw with motion := motion }
  if result = .applyFailed ∨ result = .stopFailed ∨ result = .transmitFailed then
    fw.resetLinkAndStopMotion env
  else fw

/-- The receive stage of the loop. -/
def receive (received : UartProtocolReceiverResult) (nowMs : UInt32) (fw : Firmware) : Firmware :=
  match received with
  | .none => fw
  | .overflow | .invalidArgument => fw.resetLinkAndStopMotion env
  | .frame f =>
    if f.messageType = .linkSync ∨ f.messageType = .heartbeat then fw.dispatchLink env f nowMs
    else if f.messageType = .motionCommand ∨ f.messageType = .wheelVelocity then
      fw.dispatchMotion env f nowMs
    else fw

/-- The loop's call of `uart_link_manager_update`. -/
def updateLink (nowMs : UInt32) (fw : Firmware) : Firmware :=
  let (result, link, board) := fw.link.update env nowMs fw.motion.board
  let motion := { fw.motion with board := board }
  { fw with
    link := link
    motion := if result = .linkLost ∨ result = .stopFailed then motion.reset else motion }

/-- One iteration of the main loop. -/
def iterate (nowMs : UInt32) (received : UartProtocolReceiverResult) (fw : Firmware) : Firmware :=
  (((fw.updateMotion env nowMs).sampleSpeed env nowMs).receive env received nowMs).updateLink env
    nowMs

end Loop

end Firmware

/-- The last control the motor port accepted. -/
def lastControl (log : List BoardEvent) : Option Dri0041PortControl :=
  log.foldl (fun last e => match e with
    | .portApply control true => some control
    | _ => last) none

/-- No accepted write to the motor port. -/
def BoardEvent.NoControl (e : BoardEvent) : Prop := ∀ control, e ≠ .portApply control true

theorem lastControl_append {log events : List BoardEvent} (h : ∀ e ∈ events, e.NoControl) :
    lastControl (log ++ events) = lastControl log := by
  induction events using List.reverseRecOn with
  | nil => simp
  | append_singleton events e ih =>
    have hprevious := ih fun e' he' => h e' (by simp [he'])
    have he := h e (by simp)
    rw [← List.append_assoc, lastControl, List.foldl_append]
    rw [lastControl] at hprevious
    rw [hprevious]
    cases e with
    | portApply control ok =>
      cases ok with
      | false => rfl
      | true => exact absurd rfl (he control)
    | _ => rfl

theorem lastControl_concat (log : List BoardEvent) (control : Dri0041PortControl) :
    lastControl (log ++ [.portApply control true]) = some control := by
  simp [lastControl]

/-- A stop is pending or no wheel is driven. -/
def Board.Halted (b : Board) : Prop :=
  b.guard.stopPending = true ∨ ∀ control, lastControl b.log = some control → control.idle

theorem Board.Halted.append {b : Board} (h : b.Halted) {events : List BoardEvent}
    (hevents : ∀ e ∈ events, e.NoControl) : Board.Halted { b with log := b.log ++ events } := by
  rcases h with hpending | hidle
  · exact .inl hpending
  · exact .inr (by simpa [lastControl_append hevents] using hidle)

/-- Any attempt to stop halts the board. -/
theorem StopOutcome.halted {b : Board} {out : Bool × Board} (h : StopOutcome b out) :
    out.2.Halted := by
  cases h with
  | stopped motor =>
    refine .inr fun control hcontrol => ?_
    have hlast : lastControl (b.log ++ [.portApply {} true] ++ [.driverStop true]) = some {} := by
      rw [lastControl_append (by simp [BoardEvent.NoControl]), lastControl_concat]
    rw [List.append_assoc] at hlast
    rw [← Option.some.inj (hlast.symm.trans hcontrol)]
    exact ⟨rfl, rfl⟩
  | failed events hevents => exact .inl rfl

theorem StopOutcome.initialized {b : Board} {out : Bool × Board} (h : StopOutcome b out) :
    out.2.guard.initialized = b.guard.initialized := by
  cases h <;> rfl

/-- Any attempt to apply a command leaves the board halted or the watchdog armed. -/
theorem ApplyOutcome.covered {c : MotorDriverCommand} {nowMs : UInt32} {b : Board}
    {out : Bool × Board} (h : ApplyOutcome c nowMs b out) :
    (out.2.Halted ∨ out.2.watchdog.armed = true) ∧
      out.2.guard.initialized = b.guard.initialized := by
  cases h with
  | refused hpending => exact ⟨.inl (.inl hpending), rfl⟩
  | rejected motor events _ out hout => exact ⟨.inl hout.halted, hout.initialized⟩
  | halted motor control hidle =>
    refine ⟨.inl (.inr fun last hlast => ?_), rfl⟩
    have happlied : lastControl (b.log ++ [.portApply control true] ++ [.driverApply c true]) =
        some control := by
      rw [lastControl_append (by simp [BoardEvent.NoControl]), lastControl_concat]
    rw [List.append_assoc] at happlied
    rw [← Option.some.inj (happlied.symm.trans hlast)]
    exact hidle
  | moved motor control => exact ⟨.inr rfl, rfl⟩

theorem GuardUpdateOutcome.halted {b : Board} {out : MotionCommandGuardUpdate × Board}
    (h : GuardUpdateOutcome b out) :
    (out.2 = b ∨ out.2.Halted) ∧ out.2.guard.initialized = b.guard.initialized := by
  cases h with
  | idle _ => exact ⟨.inl rfl, rfl⟩
  | stopped b' hout => exact ⟨.inr hout.halted, hout.initialized⟩
  | failed b' hout => exact ⟨.inr hout.halted, hout.initialized⟩

namespace MotionSystem

open MotionLifecycleCoordinator

/-- The motion side is safe under the given synchronization of the link. -/
structure Safe (synchronized : Bool) (m : MotionSystem) : Prop where
  aligned : m.Aligned
  guarded : m.board.guard.initialized = true
  covered : m.board.Halted ∨ synchronized = true ∧ m.manager.coordinator.state = .active ∧
    m.board.watchdog.armed = true
  session : m.manager.coordinator.state ≠ .noSession → synchronized = true

variable {synchronized : Bool} {m : MotionSystem}

/-- Events that are not accepted motor writes change nothing. -/
theorem Safe.append (h : m.Safe synchronized) {events : List BoardEvent}
    (hevents : ∀ e ∈ events, e.NoControl) :
    Safe synchronized { m with board := { m.board with log := m.board.log ++ events } } := by
  refine ⟨h.aligned.withBoard _, h.guarded, ?_, h.session⟩
  rcases h.covered with hhalted | hactive
  · exact .inl (hhalted.append hevents)
  · exact .inr hactive

/-- The reset of a system on a halted board is safe whatever the link does. -/
theorem Aligned.reset_safe (h : m.Aligned) {board : Board} (hhalted : board.Halted)
    (hguarded : board.guard.initialized = true) (synchronized : Bool) :
    (MotionSystem.reset { m with board := board }).Safe synchronized := by
  have haligned := (h.withBoard board).reset
  rw [MotionSystem.reset, if_neg (by simp [h.initialized])] at haligned ⊢
  exact ⟨haligned, hguarded, .inl hhalted, fun hne => absurd rfl hne⟩

theorem Transmits.noControl {frames : List ProtocolFrame} {events : List BoardEvent}
    (h : Transmits frames events) {e : BoardEvent} (he : e ∈ events) : e.NoControl := by
  obtain ⟨f, _, ok, rfl⟩ := h.transmit he
  simp [BoardEvent.NoControl]

/-- Without a requested stop an active session stays active. -/
theorem handleTransaction_state (c : MotionLifecycleCoordinator) (t : MotionTransaction)
    (hnone : (c.handleTransaction t).1.operation = .none) (hactive : c.state = .active) :
    (c.handleTransaction t).2.state = .active := by
  by_cases hnew : c.reliableReceiver.classify t = .new
  · have hout := handleTransaction_outcome c t hnew
    generalize c.handleTransaction t = out at hout hnone ⊢
    cases hout with
    | immediate result _ _ => exact hactive
    | request state sessionId _ _ => cases hnone
    | transfer state sessionId hbusy _ => simp [hactive, MotionLifecycleState.stopping] at hbusy
  · rw [handleTransaction_unchanged c t hnew]
    exact hactive

theorem Safe.handle (h : m.Safe synchronized) (env : ℕ → PortAnswer) (frame : ProtocolFrame)
    (nowMs : UInt32) : (MotionSystem.handle env frame synchronized nowMs m).2.Safe synchronized := by
  have haligned := h.aligned.handle env frame synchronized nowMs
  have hout := handle_outcome env frame synchronized nowMs m
  generalize (MotionSystem.handle env frame synchronized nowMs m).2 = out at hout haligned ⊢
  cases hout with
  | ignored => exact h
  | wheel command _ hsynchronized hactive =>
    obtain ⟨hcovered, hinit⟩ :=
      (motionCommandGuardApply_outcome env command nowMs m.board h.guarded).covered
    refine ⟨haligned, hinit.trans h.guarded, ?_, h.session⟩
    rcases hcovered with hhalted | harmed
    · exact .inl hhalted
    · exact .inr ⟨hsynchronized, hactive, harmed⟩
  | command _ hsynchronized =>
    have hstate := handleTransaction_state m.manager.coordinator frame.transaction
    generalize m.manager.coordinator.handleTransaction frame.transaction = handled at *
    obtain ⟨sends, htransmits, ⟨hnone, hsame⟩ | ⟨_, hsame⟩⟩ := processAction_cases env handled.1
      { m with manager := { m.manager with coordinator := handled.2 } }
    · rw [hsame] at haligned ⊢
      refine ⟨haligned, h.guarded, ?_, fun _ => hsynchronized⟩
      rcases h.covered with hhalted | ⟨_, hactive, harmed⟩
      · exact .inl (hhalted.append fun e he => htransmits.noControl he)
      · exact .inr ⟨hsynchronized, hstate hnone hactive, harmed⟩
    · have hout := motionCommandGuardStop_outcome env
        { m.board with log := m.board.log ++ sends } h.guarded
      rw [hsame] at haligned ⊢
      exact ⟨haligned, hout.initialized.trans h.guarded, .inl hout.halted, fun _ => hsynchronized⟩

theorem Safe.guardUpdate (h : m.Safe synchronized) (env : ℕ → PortAnswer) (nowMs : UInt32) :
    Safe synchronized { m with board := (motionCommandGuardUpdate env nowMs m.board).2 } := by
  obtain ⟨hboard, hinit⟩ := (motionCommandGuardUpdate_outcome env nowMs m.board h.guarded).halted
  rcases hboard with hsame | hhalted
  · rw [hsame]
    exact h
  · exact ⟨h.aligned.withBoard _, hinit.trans h.guarded, .inl hhalted, h.session⟩

theorem Safe.beginConfirmation (h : m.Safe synchronized) (env : ℕ → PortAnswer) (nowMs : UInt32)
    (hp : m.manager.pendingStopOperationId ≠ 0) :
    (m.beginConfirmation env nowMs).2.Safe synchronized := by
  have haligned := (h.aligned.beginConfirmation env nowMs hp).1
  rw [MotionSystem.beginConfirmation] at haligned ⊢
  cases hstarted : m.manager.stopConfirmationStarted with
  | true => simpa using h
  | false =>
    simp only [hstarted, Bool.false_eq_true, if_false, motionStopBegin, hp, wheelEncoderRead,
      Board.emit, List.append_assoc, List.cons_append, List.nil_append] at haligned ⊢
    refine ⟨haligned, h.guarded, ?_, h.session⟩
    rcases h.covered with hhalted | hactive
    · exact .inl (hhalted.append (by simp [BoardEvent.NoControl]))
    · exact .inr hactive

theorem Safe.advanceConfirmation (h : m.Safe synchronized) (env : ℕ → PortAnswer) (nowMs : UInt32)
    (hactive : m.stop.active = true) :
    (MotionSystem.advanceConfirmation env nowMs m).2.Safe synchronized := by
  have haligned := h.aligned.advanceConfirmation env nowMs hactive
  have hcompletes := h.aligned.completes hactive
  have hstopping : m.manager.coordinator.state ≠ .active ∧
      m.manager.coordinator.state ≠ .noSession := by
    have hs := hcompletes.2.2.2
    constructor <;> intro hstate <;> simp [hstate, MotionLifecycleState.stopping] at hs
  have hhalted : m.board.Halted := h.covered.resolve_right fun hr => hstopping.1 hr.2.1
  have hsample : ∀ counts, (m.board.emit (.stopSample counts nowMs)).Halted :=
    fun counts => hhalted.append (by simp [BoardEvent.NoControl])
  obtain ⟨counts, hadvance | ⟨result, sent, _, _, hadvance⟩⟩ :=
    h.aligned.advance_cases env nowMs hactive
  · rw [hadvance] at haligned ⊢
    exact ⟨haligned, h.guarded, .inl (hsample counts), h.session⟩
  · rw [hadvance] at haligned ⊢
    exact ⟨haligned, h.guarded, .inl ((hsample counts).append (by simp [BoardEvent.NoControl])),
      fun _ => h.session hstopping.2⟩

theorem Safe.update (h : m.Safe synchronized) (env : ℕ → PortAnswer) (nowMs : UInt32) :
    (MotionSystem.update env nowMs m).2.Safe synchronized := by
  have hguarded := h.guardUpdate env nowMs
  rcases update_cases env nowMs m h.aligned.initialized with
    ⟨_, hupdate⟩ | ⟨_, ⟨_, hupdate⟩ | ⟨hp, _, hupdate⟩⟩
  · rw [hupdate]
    exact hguarded
  · rw [hupdate]
    exact hguarded
  · have hactive := (hguarded.aligned.beginConfirmation env nowMs hp).2.1
    rw [hupdate]
    exact (hguarded.beginConfirmation env nowMs hp).advanceConfirmation env nowMs hactive

end MotionSystem

namespace Firmware

/-- The invariant between the stages of the loop. -/
def Safe (fw : Firmware) : Prop := fw.motion.Safe fw.link.synchronized

variable {fw : Firmware}

theorem Safe.resetLinkAndStopMotion (h : fw.Safe) (env : ℕ → PortAnswer) :
    (fw.resetLinkAndStopMotion env).Safe := by
  have haligned := h.aligned.reset
  have hboard : fw.motion.reset.board = fw.motion.board := MotionSystem.reset_board fw.motion
  have hstate : fw.motion.reset.manager.coordinator.state = .noSession := by
    rw [MotionSystem.reset, if_neg (by simp [h.aligned.initialized])]
    rfl
  have hout := motionCommandGuardStop_outcome env fw.motion.reset.board
    (by rw [hboard]; exact h.guarded)
  exact ⟨haligned.withBoard _, hout.initialized.trans (by rw [hboard]; exact h.guarded),
    .inl hout.halted, fun hne => absurd hstate hne⟩

theorem Safe.updateMotion (h : fw.Safe) (env : ℕ → PortAnswer) (nowMs : UInt32) :
    (fw.updateMotion env nowMs).Safe := by
  have hupdated : Safe { fw with motion := (MotionSystem.update env nowMs fw.motion).2 } :=
    MotionSystem.Safe.update h env nowMs
  simp only [Firmware.updateMotion]
  split_ifs
  · exact hupdated.resetLinkAndStopMotion env
  · exact hupdated

theorem Safe.sampleSpeed (h : fw.Safe) (env : ℕ → PortAnswer) (nowMs : UInt32) :
    (fw.sampleSpeed env nowMs).Safe := by
  rw [Firmware.sampleSpeed]
  split_ifs
  · exact MotionSystem.Safe.append h (by simp [BoardEvent.NoControl])
  · exact h

theorem Safe.dispatchMotion (h : fw.Safe) (env : ℕ → PortAnswer) (frame : ProtocolFrame)
    (nowMs : UInt32) : (fw.dispatchMotion env frame nowMs).Safe := by
  have hhandled : Safe { fw with
      motion := (MotionSystem.handle env frame fw.link.synchronized nowMs fw.motion).2 } :=
    MotionSystem.Safe.handle h env frame nowMs
  simp only [Firmware.dispatchMotion]
  split_ifs
  · exact hhandled.resetLinkAndStopMotion env
  · exact hhandled

theorem beats_noControl {e : BoardEvent} (h : UartLinkManager.Beats e) : e.NoControl := by
  obtain ⟨f, ok, rfl, _⟩ := h
  simp [BoardEvent.NoControl]

theorem answers_noControl {frame : ProtocolFrame} {e : BoardEvent}
    (h : UartLinkManager.Answers frame e) : e.NoControl := by
  rcases h with hbeats | ⟨_, ok, rfl⟩
  · exact beats_noControl hbeats
  · simp [BoardEvent.NoControl]

theorem Safe.dispatchLink (h : fw.Safe) (env : ℕ → PortAnswer) (frame : ProtocolFrame)
    (nowMs : UInt32) : (fw.dispatchLink env frame nowMs).Safe := by
  have hout := UartLinkManager.handle_outcome env frame nowMs fw.link fw.motion.board h.guarded
  rw [Firmware.dispatchLink]
  generalize fw.link.handle env frame nowMs fw.motion.board = out at hout ⊢
  cases hout with
  | kept result l' events hresult hl' hevents =>
    have hkept := MotionSystem.Safe.append h fun e he => beats_noControl (hevents e he)
    cases hdown : fw.link.synchronized with
    | false =>
      have hhalted := hkept.covered.resolve_right (by simp [hdown])
      simpa [Safe, hl', hdown] using h.aligned.reset_safe hhalted hkept.guarded false
    | true => simpa [Safe, hl', hdown, hresult] using hkept
  | dropped result l' before out after hresult hl' hbefore hout hafter =>
    have hhalted := hout.halted.append fun e he => answers_noControl (hafter e he)
    simpa [Safe, hl'] using
      h.aligned.reset_safe hhalted (hout.initialized.trans h.guarded) false
  | synchronized l' out hroute hl' hout =>
    have hok : ∀ e ∈ [BoardEvent.transmit (linkSyncOkFrame frame.sequence
        (linkSyncDecode frame.payload.bytes)) true], e.NoControl := by
      simp [BoardEvent.NoControl]
    have hhalted := hout.halted.append hok
    simpa [Safe, hl', Board.emit] using
      h.aligned.reset_safe hhalted (hout.initialized.trans h.guarded) true

theorem Safe.receive (h : fw.Safe) (env : ℕ → PortAnswer) (received : UartProtocolReceiverResult)
    (nowMs : UInt32) : (fw.receive env received nowMs).Safe := by
  simp only [Firmware.receive]
  cases received with
  | none => exact h
  | overflow => exact h.resetLinkAndStopMotion env
  | invalidArgument => exact h.resetLinkAndStopMotion env
  | frame f =>
    simp only
    split_ifs
    · exact h.dispatchLink env f nowMs
    · exact h.dispatchMotion env f nowMs
    · exact h

theorem Safe.updateLink (h : fw.Safe) (env : ℕ → PortAnswer) (nowMs : UInt32) :
    (fw.updateLink env nowMs).Safe := by
  have hout := motionCommandGuardStop_outcome env fw.motion.board h.guarded
  rw [Firmware.updateLink]
  rcases UartLinkManager.update_cases env nowMs fw.link fw.motion.board with
    hnone | ⟨result, hresult, hlost⟩
  · rw [hnone]
    exact h
  · rw [hlost]
    simp only [hresult, if_true]
    exact h.aligned.reset_safe hout.halted (hout.initialized.trans h.guarded) false

theorem Safe.iterate (h : fw.Safe) (env : ℕ → PortAnswer) (nowMs : UInt32)
    (received : UartProtocolReceiverResult) : (fw.iterate env nowMs received).Safe :=
  (((h.updateMotion env nowMs).sampleSpeed env nowMs).receive env received nowMs).updateLink env nowMs

/-- The loop over the tick and the receiver result of each iteration. -/
def loop (env : ℕ → PortAnswer) (fw : Firmware)
    (iterations : List (UInt32 × UartProtocolReceiverResult)) : Firmware :=
  iterations.foldl (fun fw i => fw.iterate env i.1 i.2) fw

theorem Safe.loop (h : fw.Safe) (env : ℕ → PortAnswer)
    (iterations : List (UInt32 × UartProtocolReceiverResult)) :
    (fw.loop env iterations).Safe := by
  induction iterations generalizing fw with
  | nil => exact h
  | cons i iterations ih => exact ih (h.iterate env i.1 i.2)

theorem boot_safe {portInit : Bool} {counts : WheelEncoderCounts} {nowMs : UInt32} {fw : Firmware}
    (h : boot portInit counts nowMs = some fw) : fw.Safe := by
  cases portInit with
  | false => cases h
  | true =>
    cases h
    have hinit : (Stm32MotionProtocolManager.init feedforwardConfig).1 = true := by decide
    refine ⟨MotionSystem.boot_aligned hinit _, rfl, .inl (.inr fun control hlast => ?_), fun hne => absurd rfl hne⟩
    cases hlast

/-- At the end of every iteration a driven wheel has a stop pending or is covered by
the link, the session and the watchdog; a session exists only on a synchronized link. -/
theorem driven_wheels_are_covered (env : ℕ → PortAnswer) (portInit : Bool)
    (counts : WheelEncoderCounts) (nowMs : UInt32) (start : Firmware)
    (hboot : boot portInit counts nowMs = some start)
    (iterations : List (UInt32 × UartProtocolReceiverResult)) :
    let fw := start.loop env iterations
    (∀ control, lastControl fw.motion.board.log = some control →
      control.leftDuty ≠ 0 ∨ control.rightDuty ≠ 0 →
        fw.motion.board.guard.stopPending = true ∨
          fw.link.synchronized = true ∧ fw.motion.manager.coordinator.state = .active ∧
            fw.motion.board.watchdog.armed = true) ∧
      (fw.motion.manager.coordinator.state ≠ .noSession → fw.link.synchronized = true) := by
  intro fw
  have h : fw.Safe := (boot_safe hboot).loop env iterations
  refine ⟨?_, h.session⟩
  intro control hlast hdriven
  rcases h.covered with (hpending | hidle) | hcovered
  · exact .inl hpending
  · obtain ⟨hleft, hright⟩ := hidle control hlast
    exact absurd hdriven (by simp [hleft, hright])
  · exact .inr hcovered

/-- A link synchronization, a START, its confirmation and one wheel command. -/
def drive : List (UInt32 × UartProtocolReceiverResult) :=
  [(0, .frame { messageType := .linkSync, payloadLength := 8 }),
    (10, .frame (motionLifecycleCommandFrame { command := 1, motionSessionId := 7 })),
    (20, .none), (220, .none),
    (230, .frame { messageType := .wheelVelocity, payloadLength := 8,
                   payload := .ofBytes [0, 0, 0, 7, 0, 100, 0, 100] })]

theorem driven_wheels_are_covered_drive :
    ∃ start, boot true {} 0 = some start ∧
      lastControl (start.loop (fun _ => {}) drive).motion.board.log =
        some { leftDuty := 287, leftIn1 := true, rightDuty := 287, rightIn3 := true } ∧
      (start.loop (fun _ => {}) drive).link.synchronized = true := by
  refine ⟨_, rfl, by decide +kernel, ?_⟩
  apply (driven_wheels_are_covered (fun _ => {}) true {} 0 _ rfl drive).2
  decide +kernel

end Firmware

end IndoorRobot
