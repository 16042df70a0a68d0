import IndoorRobot.BoardTraces
import IndoorRobot.SessionAgreement
import IndoorRobot.WheelDemand

/-!
# Motor commands and the demand behind them

The motors of the STM32 are driven by what the Pi demands, and by nothing else: over two
lossy channels, and however the parties are scheduled, the commands the motor driver
has taken stem from wheel frames of the client, each from one of its own and in the
order they were sent.
-/
namespace IndoorRobot

open EventLogs

/-- The motor command a client event asks for. -/
def ClientEvent.motorCommand (e : ClientEvent) : Option MotorDriverCommand :=
  e.sentFrame.bind ProtocolFrame.motorCommand

theorem ClientEvent.motorCommand_some {e : ClientEvent} {command : MotorDriverCommand}
    (h : e.motorCommand = some command) : ∃ f time, e = .sent f time ∧ f.messageType = .wheelVelocity ∧
      wheelVelocityFeedforwardConvert Firmware.feedforwardConfig
        (wheelVelocityPayloadDecode f.payload.bytes).command = some command := by
  obtain ⟨f, hsent, hmotor⟩ := Option.bind_eq_some_iff.mp h
  obtain ⟨hroute, hconvert⟩ := ProtocolFrame.motorCommand_some hmotor
  cases e with
  | sent g time =>
    cases hsent
    exact ⟨f, time, rfl, protocolIngressRoute_wheelVelocity hroute, hconvert⟩
  | _ => cases hsent

namespace LinkedSystem

/-- The motor commands that frames on their way ask for. -/
def underWay (frames : List ProtocolFrame) : List MotorDriverCommand :=
  frames.filterMap ProtocolFrame.motorCommand

/-- What the motors have taken and what is under way has been asked for, in this order. -/
structure Traceable (s : LinkedSystem) : Prop where
  attentive : s.runner.Attentive
  asked : ∃ taken samples, s.firmware.Traces taken samples ∧
    (taken ++ underWay s.toStm).Sublist (s.runner.log.filterMap ClientEvent.motorCommand)

variable {s : LinkedSystem}

theorem Traceable.withRunner (h : s.Traceable) {q : Stm32ClientRunner}
    (hlog : s.runner.log <+: q.log) (hq : q.Attentive) : (s.withRunner q).Traceable := by
  obtain ⟨taken, samples, htraces, hasked⟩ := h.asked
  obtain ⟨events, hevents⟩ := hlog
  rw [withRunner_eq hevents.symm]
  refine ⟨hq, taken, samples, htraces, ?_⟩
  have hnew : underWay (events.filterMap ClientEvent.sentFrame) =
      events.filterMap ClientEvent.motorCommand := List.filterMap_filterMap
  rw [← hevents, List.filterMap_append, underWay, List.filterMap_append, ← List.append_assoc]
  exact hasked.append (hnew ▸ List.Sublist.refl _)

section Moves
variable {clientEnv : ℕ → ClientAnswer} {boardEnv : ℕ → PortAnswer}

theorem Traceable.act (h : s.Traceable) (action : ClientAction) :
    (s.withRunner (s.runner.act clientEnv action)).Traceable :=
  h.withRunner (Stm32ClientRunner.act_steps clientEnv s.runner action).log_grows
    (h.attentive.steps (Stm32ClientRunner.act_steps clientEnv s.runner action))

theorem Traceable.stage (h : s.Traceable) (stage : FirmwareStage) (nowMs : UInt32) :
    (s.withFirmware (stage.run boardEnv nowMs s.firmware)).Traceable := by
  obtain ⟨taken, samples, htraces, hasked⟩ := h.asked
  cases stage with
  | updateMotion => exact ⟨h.attentive, taken, _, htraces.updateMotion boardEnv nowMs, hasked⟩
  | sampleSpeed =>
    obtain ⟨_, hsampled, -⟩ := htraces.sampleSpeed boardEnv nowMs
    exact ⟨h.attentive, taken, _, hsampled, hasked⟩
  | overflow =>
    have hreset := htraces.receive boardEnv nowMs .overflow
    have hnothing : taken ++ UartProtocolReceiverResult.overflow.motorCommand.toList = taken :=
      List.append_nil taken
    rw [hnothing] at hreset
    exact ⟨h.attentive, taken, _, hreset, hasked⟩
  | updateLink => exact ⟨h.attentive, taken, _, htraces.updateLink boardEnv nowMs, hasked⟩

theorem Traceable.step (h : s.Traceable) (move : Move) : (s.step clientEnv boardEnv move).Traceable := by
  cases move with
  | client action =>
    simp only [LinkedSystem.step]
    split
    · exact h.act action
    · exact h
  | clientReceives =>
    simp only [LinkedSystem.step]
    split
    · exact h
    · rename_i f rest _
      have htaken : Traceable { s with toPi := rest } := ⟨h.attentive, h.asked⟩
      exact htaken.act (.receive f)
  | firmware stage nowMs => exact h.stage stage nowMs
  | firmwareReceives nowMs =>
    obtain ⟨taken, samples, htraces, hasked⟩ := h.asked
    simp only [LinkedSystem.step]
    split
    · exact h
    · rename_i f rest htoStm
      refine ⟨h.attentive, _, _, htraces.receive boardEnv nowMs (.frame f), ?_⟩
      have hhead : underWay (f :: rest) = f.motorCommand.toList ++ underWay rest := by
        rw [underWay, List.filterMap_cons]
        cases f.motorCommand <;> rfl
      rw [htoStm, hhead, ← List.append_assoc] at hasked
      exact hasked
  | loseToStm index =>
    obtain ⟨taken, samples, htraces, hasked⟩ := h.asked
    refine ⟨h.attentive, taken, samples, htraces, List.Sublist.trans ?_ hasked⟩
    exact (List.Sublist.refl taken).append ((List.eraseIdx_sublist _ _).filterMap _)
  | loseToPi index => exact ⟨h.attentive, h.asked⟩

theorem Traceable.run (h : s.Traceable) (moves : List Move) :
    (s.run clientEnv boardEnv moves).Traceable := by
  induction moves generalizing s with
  | nil => exact h
  | cons move moves ih => exact ih (h.step move)

end Moves

theorem boot_traceable {portInit : Bool} {counts : WheelEncoderCounts} {nowMs : UInt32}
    {start : Firmware} (h : Firmware.boot portInit counts nowMs = some start) (clock : ℤ) :
    Traceable { runner := { clock := clock }, firmware := start } :=
  ⟨.initial clock, [], _, Firmware.boot_traces nowMs h, List.Sublist.refl _⟩

/-- The client has sent this wheel frame on demand, and it asks for this motor command. -/
def DemandedAt (log : List ClientEvent) (command : MotorDriverCommand) (place : ℕ) : Prop :=
  ∃ f time, log[place]? = some (.sent f time) ∧ f.messageType = .wheelVelocity ∧
    wheelVelocityFeedforwardConvert Firmware.feedforwardConfig
      (wheelVelocityPayloadDecode f.payload.bytes).command = some command ∧
    Stm32ClientRunner.Demanded (log.take place) (wheelVelocityPayloadDecode f.payload.bytes) time

/-- In every run of the two parties, the commands that the motor driver of the STM32 has taken stem
from wheel frames of the Pi, each from one of its own and in the order the frames were sent; and each
of these frames was sent on the demand of its time. -/
theorem motor_commands_are_demanded (clientEnv : ℕ → ClientAnswer) (boardEnv : ℕ → PortAnswer)
    (portInit : Bool) (counts : WheelEncoderCounts) (nowMs : UInt32) (start : Firmware)
    (hboot : Firmware.boot portInit counts nowMs = some start) (clock : ℤ) (moves : List Move) :
    let s := run clientEnv boardEnv { runner := { clock := clock }, firmware := start } moves
    ∃ places : List ℕ, places.Pairwise (· < ·) ∧
      List.Forall₂ (DemandedAt s.runner.log) (driven s.firmware.motion.board.log) places := by
  intro s
  have h : s.Traceable := (boot_traceable hboot clock).run moves
  obtain ⟨taken, samples, htraces, hasked⟩ := h.asked
  have hdriven : (driven s.firmware.motion.board.log).Sublist (s.runner.log.filterMap ClientEvent.motorCommand) :=
    (htraces.taken.trans (List.sublist_append_left _ _)).trans hasked
  obtain ⟨places, hincreasing, hplaces⟩ := exists_places hdriven
  refine ⟨places, hincreasing, hplaces.imp ?_⟩
  rintro command place ⟨e, hplace, he⟩
  obtain ⟨f, time, rfl, htype, hconvert⟩ := ClientEvent.motorCommand_some he
  exact ⟨f, time, hplace, htype, hconvert, h.attentive.frames.at_place hplace f time rfl htype⟩

/-- The first session, a wheel frame and its arrival. -/
def firstDrive : List Move := firstSession ++ [.client .driveMotion, .firmwareReceives 230]

theorem motor_commands_are_demanded_firstDrive :
    ∃ start, Firmware.boot true {} 0 = some start ∧
      ∃ place, DemandedAt (run (fun _ => {}) (fun _ => {}) { runner := {}, firmware := start }
        firstDrive).runner.log { left := 287, right := 287 } place := by
  refine ⟨_, rfl, ?_⟩
  obtain ⟨places, -, hplaces⟩ := motor_commands_are_demanded (fun _ => {}) (fun _ => {}) true {} 0 _
    rfl 0 firstDrive
  rw [show driven _ = [{ left := 287, right := 287 }] by decide +kernel] at hplaces
  cases hplaces with
  | cons hdemanded _ => exact ⟨_, hdemanded⟩

end LinkedSystem

end IndoorRobot
