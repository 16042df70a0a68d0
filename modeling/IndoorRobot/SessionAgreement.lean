import IndoorRobot.ClientAgreement

/-!
# The Pi and the STM32 agree on the motion session

In every run of the linked system an active session of the Pi is the active session of
the STM32, unless the STM32 has lost the link.
-/
namespace IndoorRobot

open MotionLifecycleCommandType MotionResponseResult Firmware

namespace LinkedSystem

variable {s : LinkedSystem}

section Runs
variable {clientEnv : ℕ → ClientAnswer} {boardEnv : ℕ → PortAnswer}

theorem stage_agreeing (h : s.Agreeing) (stage : FirmwareStage) (nowMs : UInt32) :
    Agreeing (s.withFirmware (stage.run boardEnv nowMs s.firmware)) := by
  have hsafe := h.safe
  cases stage with
  | updateMotion =>
    exact h.firmware rfl (hsafe.updateMotion boardEnv nowMs) (updateMotion_moves boardEnv nowMs hsafe)
  | sampleSpeed =>
    exact h.firmware rfl (hsafe.sampleSpeed boardEnv nowMs) (sampleSpeed_moves boardEnv nowMs)
  | overflow =>
    exact h.firmware rfl (hsafe.receive boardEnv .overflow nowMs) (overflow_moves boardEnv nowMs hsafe)
  | updateLink =>
    exact h.firmware rfl (hsafe.updateLink boardEnv nowMs) (updateLink_moves boardEnv nowMs hsafe)

/-- The client's log only grows. -/
theorem step_log_grows (s : LinkedSystem) (move : Move) :
    s.runner.log <+: (s.step clientEnv boardEnv move).runner.log := by
  cases move with
  | client action =>
    simp only [step]
    split
    · exact (Stm32ClientRunner.act_steps clientEnv s.runner action).log_grows
    · exact List.prefix_rfl
  | clientReceives =>
    simp only [step]
    split
    · exact List.prefix_rfl
    · exact (Stm32ClientRunner.act_steps clientEnv s.runner (.receive _)).log_grows
  | firmwareReceives nowMs =>
    simp only [step]
    split <;> exact List.prefix_rfl
  | firmware | loseToStm | loseToPi => exact List.prefix_rfl

/-- A move, in a run that never repeats a token. -/
theorem Agreeing.step (h : s.Agreeing) (move : Move)
    (hnodup : (s.step clientEnv boardEnv move).runner.sentTokens.Nodup) :
    Agreeing (s.step clientEnv boardEnv move) := by
  cases move with
  | client action =>
    have hsteps := Stm32ClientRunner.act_steps clientEnv s.runner action
    simp only [LinkedSystem.step] at hnodup ⊢
    cases haction : action.input with
    | none =>
      rw [haction] at hsteps hnodup
      exact h.steps rfl hsteps hnodup
    | some f => exact h
  | clientReceives =>
    simp only [LinkedSystem.step] at hnodup ⊢
    cases htoPi : s.toPi with
    | nil => exact h
    | cons f rest =>
      rw [htoPi] at hnodup
      have hsteps := Stm32ClientRunner.act_steps clientEnv s.runner (.receive f)
      exact h.steps htoPi hsteps hnodup
  | firmware stage nowMs => exact stage_agreeing h stage nowMs
  | firmwareReceives nowMs =>
    simp only [LinkedSystem.step]
    cases htoStm : s.toStm with
    | nil => exact h
    | cons f rest =>
      have hinput : s.toStm = (some f).toList ++ rest := htoStm
      exact h.firmware hinput (h.safe.receive boardEnv (.frame f) nowMs)
        (receive_moves boardEnv nowMs h.safe f)
  | loseToStm index => exact h.lose (List.eraseIdx_sublist _ _) (List.Sublist.refl _)
  | loseToPi index => exact h.lose (List.Sublist.refl _) (List.eraseIdx_sublist _ _)

theorem run_log_grows (clientEnv : ℕ → ClientAnswer) (boardEnv : ℕ → PortAnswer)
    (s : LinkedSystem) (moves : List Move) :
    s.runner.log <+: (s.run clientEnv boardEnv moves).runner.log := by
  induction moves generalizing s with
  | nil => exact List.prefix_rfl
  | cons move moves ih => exact (step_log_grows s move).trans (ih _)

theorem Agreeing.run (h : s.Agreeing) (moves : List Move)
    (hnodup : (s.run clientEnv boardEnv moves).runner.sentTokens.Nodup) :
    Agreeing (s.run clientEnv boardEnv moves) := by
  induction moves generalizing s with
  | nil => exact h
  | cons move moves ih =>
    have hgrown := run_log_grows clientEnv boardEnv (s.step clientEnv boardEnv move) moves
    exact ih (h.step move (hnodup.sublist (sentTokens_sublist hgrown))) hnodup

end Runs

/-- The system before its first move. -/
theorem boot_agreeing {portInit : Bool} {counts : WheelEncoderCounts} {nowMs : UInt32}
    {start : Firmware} (h : Firmware.boot portInit counts nowMs = some start) (clock : ℤ) :
    Agreeing { runner := { clock := clock }, firmware := start } where
  safe := boot_safe h
  session := Stm32MotionSession.default_consistent
  syncs _ htoken := by simp [tokens] at htoken
  oks _ htoken := by simp [tokens] at htoken
  accepted _ _ _ hmem := by simp at hmem
  apart _ := rfl
  synchronizing hstate := by simp at hstate
  exchanging hstate := by simp at hstate

/-- An active session of the client is the session of a board that has its link. -/
theorem Agreeing.active (h : s.Agreeing) (hactive : s.runner.motionSession.state = .active) :
    s.firmware.link.synchronized = false ∨
      s.firmware.coordinator.state = .active ∧
        s.firmware.coordinator.motionSessionId = s.runner.motionSession.activeSessionId ∧
        s.firmware.coordinator.reliableReceiver.pendingValid = false := by
  have hsynchronized : s.runner.state = .synchronized := by
    by_contra hstate
    simp [h.apart hstate] at hactive
  obtain ⟨e, he⟩ := h.exchanging hsynchronized
  have hclosed : e.pending = none := he.pending.trans
    (h.session.closed (by simp [hactive]) (by simp [hactive]))
  have hholds := he.receiver
  rcases he.inOrder.resting hclosed with hdown | hresting
  · rw [hdown] at hholds
    exact .inl hholds
  · have hsettled := he.agreed hclosed (by simp [hresting])
    rw [hresting] at hholds
    obtain ⟨-, hrests⟩ := hholds
    right
    cases hlast : e.settled with
    | none =>
      rw [hlast] at hsettled
      exact absurd (hactive.symm.trans hsettled) (by simp)
    | some t =>
      rw [hlast] at hsettled hrests
      obtain ⟨hcommand, -, hid⟩ := hsettled.resolve_right (by simp [hactive])
      obtain ⟨-, hstate, hsession⟩ := hrests.state.resolve_right fun hother => hother.1 hcommand
      refine ⟨hstate, hsession.trans hid.symm, ?_⟩
      exact h.safe.aligned.coherent.pending_iff.trans (congrArg MotionLifecycleState.stopping hstate)

/-- In every run that never repeats a token, an active session of the Pi is the active
session of an STM32 that has not lost the link, and the Pi accepts no results but OK and
STOP_FAILED. -/
theorem sessions_agree (clientEnv : ℕ → ClientAnswer) (boardEnv : ℕ → PortAnswer)
    (portInit : Bool) (counts : WheelEncoderCounts) (nowMs : UInt32) (start : Firmware)
    (hboot : Firmware.boot portInit counts nowMs = some start) (clock : ℤ) (moves : List Move)
    (hnodup : (run clientEnv boardEnv { runner := { clock := clock }, firmware := start }
      moves).runner.sentTokens.Nodup) :
    let s := run clientEnv boardEnv { runner := { clock := clock }, firmware := start } moves
    (s.runner.motionSession.state = .active →
      s.firmware.link.synchronized = false ∨
        s.firmware.coordinator.state = .active ∧
          s.firmware.coordinator.motionSessionId = s.runner.motionSession.activeSessionId ∧
          s.firmware.coordinator.reliableReceiver.pendingValid = false) ∧
      ∀ command sessionId result,
        .responseAccepted command sessionId result ∈ s.runner.log →
          result = ok ∨ result = stopFailed := by
  intro s
  have h : s.Agreeing := (boot_agreeing hboot clock).run moves hnodup
  exact ⟨h.active, h.accepted⟩

/-- A synchronization, a command to drive, and a START with its confirmed stop. -/
def firstSession : List Move :=
  [.client .connect, .firmwareReceives 0, .clientReceives,
    .client (.setWheelCommand { leftVelocityMmS := 100, rightVelocityMmS := 100 }),
    .client .startMotion, .firmwareReceives 10, .firmware .updateMotion 20,
    .firmware .updateMotion 220, .clientReceives, .clientReceives]

theorem sessions_agree_firstSession :
    ∃ start, Firmware.boot true {} 0 = some start ∧
      (run (fun _ => {}) (fun _ => {}) { runner := {}, firmware := start }
        firstSession).firmware.link.synchronized = true ∧
      (run (fun _ => {}) (fun _ => {}) { runner := {}, firmware := start }
        firstSession).firmware.coordinator.motionSessionId = 1 := by
  refine ⟨_, rfl, by decide +kernel, ?_⟩
  have hagree := (sessions_agree (fun _ => {}) (fun _ => {}) true {} 0 _ rfl 0 firstSession
    (by decide +kernel)).1 (by decide +kernel)
  rw [(hagree.resolve_left (by decide +kernel)).2.1]
  decide +kernel

end LinkedSystem

end IndoorRobot
