import IndoorRobot.ManualControlProbe
import IndoorRobot.ManualMixing

/-!
# From the sticks to the wheel frames

The manual drive loop gives commands to the client runner, and the runner sends wheel
frames. The two keep separate logs; `Reported` says that they hold the same commands.
With the gating of the loop, the demand behind the frames and the mixing of the sticks
this leads from every wheel frame back to the channels it stems from.
-/
namespace IndoorRobot

open EventLogs BinaryRounding

def ClientEvent.command : ClientEvent → Option WheelVelocityCommand
  | .wheelCommand c _ => some c
  | _ => none

def ManualEvent.command : ManualEvent → Option WheelVelocityCommand
  | .wheelCommand c => some c
  | _ => none

namespace Stm32ClientRunner

/-- The commands the runner was given, in their order. -/
def commands (log : List ClientEvent) : List WheelVelocityCommand :=
  log.filterMap ClientEvent.command

theorem commands_append (log events : List ClientEvent) :
    commands (log ++ events) = commands log ++ commands events :=
  List.filterMap_append

/-- The latest command is the last one. -/
theorem commands_of_commanded {command : WheelVelocityCommand} {time : ℤ} {log : List ClientEvent}
    (h : Commanded command time log) : ∃ before, commands log = before ++ [command] := by
  obtain ⟨first, _, later, rfl, ⟨rfl, -⟩, hlater⟩ := h
  have hnone : commands later = [] := by
    rw [commands, List.filterMap_eq_nil_iff]
    intro e he
    cases e with
    | wheelCommand c t => exact absurd rfl ((hlater _ he).2 c t)
    | _ => rfl
  refine ⟨commands first, ?_⟩
  rw [commands_append, ← List.singleton_append, commands_append, hnone, List.append_nil]
  rfl

/-- Nobody has given a command since. -/
def Uncommanded (r q : Stm32ClientRunner) : Prop := commands q.log = commands r.log

section Poll
variable {r q : Stm32ClientRunner}

theorem Uncommanded.trans {p : Stm32ClientRunner} (h : r.Uncommanded q) (h' : q.Uncommanded p) :
    r.Uncommanded p :=
  Eq.trans h' h

theorem emit_uncommanded (r : Stm32ClientRunner) {e : ClientEvent} (he : e.command = none) :
    r.Uncommanded (r.emit e) := by
  rw [Uncommanded, emit, commands_append]
  simp [commands, he]

theorem Uncommanded.andThen {p : Option Bool × Stm32ClientRunner}
    {stage : Stm32ClientRunner → Option Bool × Stm32ClientRunner} (h : r.Uncommanded p.2)
    (hstage : ∀ q : Stm32ClientRunner, q.Uncommanded (stage q).2) :
    r.Uncommanded (andThen p stage).2 := by
  obtain ⟨flow, q⟩ := p
  cases flow with
  | some result => exact h
  | none => exact h.trans (hstage q)

variable (env : ℕ → ClientAnswer) (r)

theorem transmitPending_uncommanded (f : ProtocolFrame) (time : ℤ) :
    r.Uncommanded (r.transmitPending env f time).2 := by
  have hsent := r.emit_uncommanded (e := .sent f time) rfl
  rw [transmitPending]
  dsimp only [sendFrame]
  split_ifs
  · exact hsent
  · exact hsent

theorem checkTimeouts_uncommanded (nowMs : UInt32) : r.Uncommanded (r.checkTimeouts nowMs).2 := by
  simp only [checkTimeouts]
  split_ifs <;> rfl

theorem retryMotion_uncommanded (nowMs : UInt32) : r.Uncommanded (r.retryMotion env nowMs).2 := by
  rw [retryMotion]
  generalize r.motionSession.retryIfDue nowMs = retried
  obtain ⟨_ | f, session⟩ := retried
  · rfl
  · exact transmitPending_uncommanded { r with motionSession := session } env f r.clock

theorem startMotion_uncommanded : r.Uncommanded (r.startMotion env).2 := by
  rw [startMotion]
  dsimp only
  split_ifs
  · generalize (r.now env).2.motionSession.beginStartSession _ = begun
    obtain ⟨_ | f, session⟩ := begun
    · rfl
    · have hbegun := emit_uncommanded { (r.now env).2 with
        calls := (r.now env).2.calls + 1
        motionSession := session
        motionSessionId := (env (r.now env).2.calls).sessionId }
        (e := .startBegun (env (r.now env).2.calls).sessionId) rfl
      exact hbegun.trans (transmitPending_uncommanded _ env f (r.now env).1)
  · rfl

theorem sendWheel_uncommanded (time : ℤ) : r.Uncommanded (r.sendWheel env time).2 := by
  simp only [sendWheel]
  split_ifs
  · generalize r.motionSession.buildWheelVelocity _ _ = built
    obtain ⟨_ | f, session⟩ := built
    · rfl
    · have hsent := emit_uncommanded { r with motionSession := session } (e := .sent f time) rfl
      dsimp only
      split_ifs
      · exact hsent
      · exact hsent
  · rfl

theorem endMotion_uncommanded (time : ℤ) : r.Uncommanded (r.endMotion env time).2 := by
  rw [endMotion]
  split_ifs
  · generalize r.motionSession.beginEndSession _ = begun
    obtain ⟨_ | f, session⟩ := begun
    · rfl
    · have hbegun := emit_uncommanded { r with motionSession := session }
        (e := .endBegun r.motionSessionId) rfl
      have hsent := hbegun.trans (transmitPending_uncommanded _ env f time)
      dsimp only
      split_ifs
      · exact hsent
      · exact hsent
  · rfl

theorem driveMotion_uncommanded : r.Uncommanded (r.driveMotion env).2 := by
  have hwheel := sendWheel_uncommanded (r.now env).2 env (r.now env).1
  exact Uncommanded.andThen (r := r) hwheel fun q => endMotion_uncommanded q env (r.now env).1

theorem sendHeartbeat_uncommanded (nowMs : UInt32) : r.Uncommanded (r.sendHeartbeat env nowMs).2 := by
  rw [sendHeartbeat]
  generalize r.linkSession.heartbeatIfDue nowMs = due
  obtain ⟨_ | f, link⟩ := due
  · rfl
  · have hsent := emit_uncommanded { r with linkSession := link } (e := .sent f r.clock) rfl
    dsimp only [sendFrame]
    split_ifs
    · exact hsent
    · exact hsent

theorem handleMotionResponse_uncommanded (f : ProtocolFrame) :
    r.Uncommanded (r.handleMotionResponse f) := by
  rw [handleMotionResponse]
  generalize r.motionSession.handleResponse f = handled
  obtain ⟨_ | result, session⟩ := handled
  · rfl
  · have haccepted := emit_uncommanded { r with motionSession := session }
      (e := .responseAccepted r.motionSession.pendingCommand r.motionSession.pendingSessionId result) rfl
    dsimp only
    split_ifs <;> exact haccepted

theorem handleFrame_uncommanded (f : ProtocolFrame) : r.Uncommanded (r.handleFrame env f).2 := by
  rw [handleFrame]
  dsimp only
  split_ifs
  · rfl
  · rfl
  · rfl
  · exact handleMotionResponse_uncommanded _ f

theorem handleSyncFrame_uncommanded (f : ProtocolFrame) :
    r.Uncommanded (r.handleSyncFrame env f).2 := by
  rw [handleSyncFrame]
  dsimp only
  split_ifs <;> rfl

variable {env}

theorem feedBytes_uncommanded
    {handler : ProtocolFrame → Stm32ClientRunner → Option Bool × Stm32ClientRunner}
    (h : ∀ f q, Uncommanded q (handler f q).2) (bytes : List UInt8) :
    r.Uncommanded (feedBytes handler r bytes).2 := by
  induction bytes generalizing r with
  | nil => rfl
  | cons byte rest ih =>
    rw [feedBytes]
    generalize r.decoder.feedByte byte = fed
    obtain ⟨_ | f, decoder⟩ := fed
    · exact ih { r with decoder := decoder }
    · have hhandled := h f { r with decoder := decoder }
      dsimp only
      generalize handler f { r with decoder := decoder } = handled at hhandled ⊢
      obtain ⟨_ | result, q⟩ := handled
      · exact Uncommanded.trans hhandled (ih q)
      · exact hhandled

theorem receive_uncommanded
    {handler : ProtocolFrame → Stm32ClientRunner → Option Bool × Stm32ClientRunner}
    (h : ∀ f q, Uncommanded q (handler f q).2) : r.Uncommanded (r.receive env handler).2 := by
  simp only [receive]
  split_ifs
  · rfl
  · split
    · rfl
    · exact feedBytes_uncommanded { r with calls := r.calls + 1 + 1 } h _
  · rfl

theorem runSynchronizedIteration_uncommanded :
    r.Uncommanded (r.runSynchronizedIteration env).2 := by
  have hcheck := checkTimeouts_uncommanded (r.currentMs env).2 (r.currentMs env).1
  have hretry := hcheck.andThen fun q => retryMotion_uncommanded q env (r.currentMs env).1
  have hstart := hretry.andThen fun q => startMotion_uncommanded q env
  have hdrive := hstart.andThen fun q => driveMotion_uncommanded q env
  have hbeat := hdrive.andThen fun q => sendHeartbeat_uncommanded q env (r.currentMs env).1
  exact hbeat.andThen fun q => receive_uncommanded q fun f q => handleFrame_uncommanded q env f

theorem runSynchronizingIteration_uncommanded :
    r.Uncommanded (r.runSynchronizingIteration env).2 := by
  simp only [runSynchronizingIteration]
  split_ifs
  · rfl
  · exact receive_uncommanded (r.now env).2 fun f q => handleSyncFrame_uncommanded q env f

theorem beginConnectionEpoch_uncommanded : r.Uncommanded (r.beginConnectionEpoch env).2 := by
  have hbegan := r.emit_uncommanded (e := .epochBegan) rfl
  have hsent := (r.emit .epochBegan).emit_uncommanded (e := .sent
    (Stm32LinkSession.linkSyncFrame r.linkSession.nextSequence (env (r.calls + 1 + 1)).syncToken)
    (r.clock + (env (r.calls + 1)).advanceNs)) rfl
  rw [beginConnectionEpoch]
  dsimp only [sendFrame]
  split_ifs
  · exact hbegan.trans hsent
  · exact hbegan.trans hsent
  · rfl

/-- A poll gives no command. -/
theorem poll_uncommanded : r.Uncommanded (r.poll env) := by
  rw [poll]
  cases r.state with
  | synchronized =>
    have hiteration : r.Uncommanded (r.runSynchronizedIteration env).2 :=
      r.runSynchronizedIteration_uncommanded
    dsimp only
    split_ifs
    · exact hiteration
    · exact hiteration
  | synchronizing =>
    have hiteration : r.Uncommanded (r.runSynchronizingIteration env).2 :=
      r.runSynchronizingIteration_uncommanded
    dsimp only
    split_ifs
    · exact hiteration
    · exact hiteration
    · exact hiteration
  | disconnected =>
    dsimp only
    split_ifs
    · rfl
    · exact beginConnectionEpoch_uncommanded { (r.now env).2 with
        reconnectDeadline := 0, transportFailed := false }

end Poll

end Stm32ClientRunner

namespace ManualControl

/-- The commands of the loop, in their order. -/
def commands (log : List ManualEvent) : List WheelVelocityCommand :=
  log.filterMap ManualEvent.command

theorem commands_append (log events : List ManualEvent) :
    commands (log ++ events) = commands log ++ commands events :=
  List.filterMap_append

/-- The runner was given the commands of the loop. -/
structure Reported (m : ManualControl) : Prop where
  attentive : m.runner.Attentive
  commands : Stm32ClientRunner.commands m.runner.log = commands m.log

namespace Reported

variable {m q : ManualControl}

theorem congr (h : m.Reported) (hrunner : q.runner = m.runner) (hlog : q.log = m.log) :
    q.Reported := by
  constructor
  · rw [hrunner]
    exact h.attentive
  · rw [hrunner, hlog]
    exact h.commands

theorem note (h : m.Reported) (event : ManualEvent) (he : event.command = none) :
    (m.emit event).Reported where
  attentive := h.attentive
  commands := by
    rw [emit, commands_append]
    simpa [ManualControl.commands, he] using h.commands

theorem resetGuard (h : m.Reported) : m.resetGuard.Reported := h.congr rfl rfl

theorem sleep (h : m.Reported) : m.sleep.Reported where
  attentive := h.attentive.idle ⟨rfl, rfl, rfl, .refl _, .inr ⟨rfl, rfl⟩, by
    simp only [ManualControl.sleep, Stm32ClientRunner.millisecondNs]
    omega⟩
  commands := h.commands

variable (env : ℕ → ClientAnswer)

theorem now (h : m.Reported) : (m.now env).2.Reported :=
  ⟨h.attentive.idle (Stm32ClientRunner.now_idle env m.runner), h.commands⟩

theorem setWheelCommand (h : m.Reported) (command : WheelVelocityCommand) :
    (m.setWheelCommand env command).Reported where
  attentive := h.attentive.steps (Stm32ClientRunner.setWheelCommand_steps env command m.runner)
  commands := by
    have hrunner : (m.setWheelCommand env command).runner.log =
        m.runner.log ++ [.wheelCommand command (m.runner.now env).1] := rfl
    have hlog : (m.setWheelCommand env command).log = m.log ++ [.wheelCommand command] := rfl
    rw [hrunner, hlog, Stm32ClientRunner.commands_append, commands_append, h.commands]
    rfl

theorem poll (h : m.Reported) : Reported { m with runner := m.runner.poll env } := by
  obtain ⟨frames, hsteps⟩ := Stm32ClientRunner.poll_steps env m.runner
  have hcommands : m.runner.Uncommanded (m.runner.poll env) := m.runner.poll_uncommanded
  exact ⟨h.attentive.steps hsteps, Eq.trans hcommands h.commands⟩

variable (receiver : ℕ → Option (List UInt8)) {mixSticks : UInt16 → UInt16 → WheelVelocityCommand}

theorem takeChannels (h : m.Reported) (channels : CrsfChannels) :
    (m.takeChannels env mixSticks channels).Reported :=
  ((h.now env).note (.channels channels) rfl).congr rfl rfl

theorem feedByte (h : m.Reported) (byte : UInt8) : (m.feedByte env mixSticks byte).Reported := by
  have hfed (frame : CrsfFrame) (decoder : CrsfFrameDecoder) :
      Reported { m with frame := frame, decoder := decoder } := h.congr rfl rfl
  rw [ManualControl.feedByte]
  dsimp only
  split_ifs
  · exact (hfed _ _).takeChannels env _
  · exact hfed _ _
  · exact hfed _ _

theorem feedBytes (h : m.Reported) (bytes : List UInt8) :
    (bytes.foldl (ManualControl.feedByte env mixSticks) m).Reported := by
  induction bytes generalizing m with
  | nil => exact h
  | cons byte bytes ih => exact ih (h.feedByte env byte)

variable (mixSticks)

theorem drainReceiver (h : m.Reported) (recovering : Bool) (batches : ℕ) :
    (drainReceiver env receiver mixSticks recovering batches m).2.Reported := by
  induction batches generalizing m with
  | zero => exact h
  | succ batches ih =>
    have hread : Reported { m with reads := m.reads + 1 } := h.congr rfl rfl
    rw [ManualControl.drainReceiver]
    split
    · exact hread
    · exact hread
    · split_ifs
      · exact ih hread
      · exact ih (hread.feedBytes env _)

theorem beginService (h : m.Reported) : (m.beginService env).2.2.Reported := by
  have hbegan := (h.now env).note .iterationBegan rfl
  have hfresh : Reported { (m.now env).2.emit .iterationBegan with
      lastReceiverServiceAt := (m.now env).1
      receivedChannels := false
      candidateCommand := {} } := hbegan.congr rfl rfl
  rw [ManualControl.beginService]
  dsimp only
  split_ifs
  · exact ((hfresh.note .serviceGap rfl).setWheelCommand env {}).congr rfl rfl
  · exact hfresh

theorem checkDrainTime (h : m.Reported) (serviceAt : ℤ) :
    (m.checkDrainTime env serviceAt).Reported := by
  rw [ManualControl.checkDrainTime]
  dsimp only
  split_ifs
  · have hgap : ((m.now env).2.emit .drainGap).resetGuard.resetDecoder.Reported :=
      ((h.now env).note .drainGap rfl).congr rfl rfl
    exact (hgap.setWheelCommand env {}).congr rfl rfl
  · exact h.now env

theorem commandRunner (h : m.Reported) : (m.commandRunner env).Reported := by
  have hobserved := h.note (.observed m.isSynchronized) rfl
  have hguarded : (if ¬ m.isSynchronized then (m.emit (.observed m.isSynchronized)).resetGuard
      else m.emit (.observed m.isSynchronized)).Reported := by
    split_ifs
    · exact hobserved
    · exact hobserved.resetGuard
  have htime := hguarded.now env
  rw [ManualControl.commandRunner]
  dsimp only
  generalize (ManualControl.now env _) = timed at htime ⊢
  obtain ⟨time, q⟩ := timed
  have hpolled : ManualControl.Reported
      ({ q with guard := (q.guard.poll time).2 }.emit (.polled (q.guard.poll time).1)) :=
    note (m := { q with guard := (q.guard.poll time).2 }) (htime.congr rfl rfl) _ rfl
  split_ifs
  · exact hpolled.setWheelCommand env {}
  · exact hpolled.setWheelCommand env _
  · exact hpolled

theorem pollRunner (h : m.Reported) : (m.pollRunner env).Reported := by
  have hrunner := h.poll env
  rw [ManualControl.pollRunner]
  generalize { m with runner := m.runner.poll env } = q at hrunner ⊢
  have hobserved := hrunner.note (.observed q.isSynchronized) rfl
  generalize q.isSynchronized = synchronized at hobserved ⊢
  cases synchronized with
  | false => exact hobserved.resetGuard.setWheelCommand env {}
  | true => exact hobserved

theorem iteration (h : m.Reported) : (m.iteration env receiver mixSticks).2.Reported := by
  have hbegan := h.beginService env
  rw [ManualControl.iteration]
  generalize m.beginService env = begun at hbegan ⊢
  obtain ⟨serviceAt, recovering, q⟩ := begun
  have hdrained := hbegan.drainReceiver env receiver mixSticks recovering 32
  dsimp only at hdrained ⊢
  split_ifs
  · exact (((hdrained.checkDrainTime env serviceAt).commandRunner env).pollRunner env).sleep
  · exact hdrained.resetGuard.setWheelCommand env {}

theorem mainLoop (h : m.Reported) (deadline : ℤ) (n : ℕ) :
    (mainLoop env receiver mixSticks deadline n m).2.Reported := by
  induction n generalizing m with
  | zero => exact h
  | succ n ih =>
    have hiteration := (h.now env).iteration env receiver mixSticks
    rw [ManualControl.mainLoop]
    dsimp only
    generalize (m.now env).2.iteration env receiver mixSticks = iterated at hiteration ⊢
    obtain ⟨goesOn, q⟩ := iterated
    split_ifs
    · exact h.now env
    · cases goesOn with
      | false => exact hiteration
      | true => exact ih hiteration

theorem shutdownLoop (h : m.Reported) (shutdownDeadline : ℤ) (n : ℕ) :
    (shutdownLoop env shutdownDeadline n m).Reported := by
  induction n generalizing m with
  | zero => exact h
  | succ n ih =>
    rw [ManualControl.shutdownLoop]
    dsimp only
    split_ifs
    · exact h.now env
    · exact ih (((h.now env).poll env).sleep)

theorem initial (clock : ℤ) : Reported { runner := { clock := clock } } :=
  ⟨.initial clock, rfl⟩

end Reported

section Probe
variable (env : ℕ → ClientAnswer) (receiver : ℕ → Option (List UInt8))
  (mixSticks : UInt16 → UInt16 → WheelVelocityCommand)

theorem manualControlProbe_reported (clock : ℤ) (n k : ℕ) :
    (manualControlProbe env receiver mixSticks clock n k).Reported := by
  have hstart := ((Reported.initial clock).now env).now env
  rw [manualControlProbe]
  dsimp only
  generalize (now env { runner := { clock := clock } }).1 + 300000 * Stm32ClientRunner.millisecondNs
    = deadline
  have hstarted : Reported { (now env (now env { runner := { clock := clock } }).2).2 with
      lastReceiverServiceAt := (now env (now env { runner := { clock := clock } }).2).1 } :=
    hstart.congr rfl rfl
  have hloop := hstarted.mainLoop env receiver mixSticks deadline n
  split_ifs
  · have hhalted := hloop.resetGuard.setWheelCommand env {}
    exact (hhalted.now env).shutdownLoop env _ k
  · exact hloop

end Probe

theorem follows_manualCommand (forward steering : UInt16) :
    Follows (manualCommand forward steering) 120 (deflection forward) (deflection steering) := by
  have hlimit : (120 : Int16) ≠ -32768 := by decide
  have hfollows := follows_mix (abs_deflection_le forward) (abs_deflection_le steering) hlimit
  rw [← normalizeManualStick_eq, ← normalizeManualStick_eq] at hfollows
  exact hfollows

/-- A command of the runner, and the same one of the loop. -/
theorem Reported.split {m : ManualControl} (h : m.Reported) {earlier later : List ClientEvent}
    (hlog : m.runner.log = earlier ++ later) {commands : List WheelVelocityCommand}
    {command : WheelVelocityCommand}
    (hearlier : Stm32ClientRunner.commands earlier = commands ++ [command]) :
    ∃ past rest, m.log = past ++ .wheelCommand command :: rest ∧
      ManualControl.commands past = commands := by
  have hcommands : ManualControl.commands m.log =
      commands ++ command :: Stm32ClientRunner.commands later := by
    rw [← h.commands, hlog, Stm32ClientRunner.commands_append, hearlier]
    simp
  obtain ⟨past, others, hpast, hbefore, hafter⟩ := List.filterMap_eq_append_iff.mp hcommands
  obtain ⟨skipped, event, rest, rfl, hskipped, hevent, -⟩ := List.filterMap_eq_cons_iff.mp hafter
  have hcommand : event = .wheelCommand command := by
    cases event <;> simp_all [ManualEvent.command]
  refine ⟨past ++ skipped, rest, by rw [hpast, hcommand, List.append_assoc], ?_⟩
  rw [commands_append, show ManualControl.commands past = commands from hbefore]
  simpa [ManualControl.commands] using hskipped

/-- The velocities of a frame sent at the decision time `time` stem from these channels: the runner
was given them last and less than 200 ms before, the loop had given them right after the channels,
with the enable switch on, the runner seen synchronized and the guard armed and asked, and they
follow the sticks, within 120 mm/s. -/
def Steered (m : ManualControl) (earlier : List ClientEvent) (velocities : WheelVelocityCommand)
    (time : ℤ) (channels : CrsfChannels) : Prop :=
  ∃ commandTime past rest before,
    Stm32ClientRunner.Commanded velocities commandTime earlier ∧
    commandTime ≤ time ∧ time - commandTime < 200 * 1000000 ∧
    m.log = past ++ .wheelCommand velocities :: rest ∧
    commands past ++ [velocities] = Stm32ClientRunner.commands earlier ∧
    past = before ++ [.channels channels, .observed true, .polled true] ∧
    1600 ≤ channels.enable ∧ Armed past ∧
    Follows velocities 120 (deflection channels.forward) (deflection channels.steering)

theorem Reported.steered {m : ManualControl} (h : m.Reported) (hgated : Gated manualCommand m)
    {earlier later : List ClientEvent} {f : ProtocolFrame} {time : ℤ}
    (hsent : m.runner.log = earlier ++ .sent f time :: later) (hf : f.messageType = .wheelVelocity) :
    ∃ channels, Steered m earlier (wheelVelocityPayloadDecode f.payload.bytes).command time
      channels := by
  obtain ⟨commandTime, hcommanded, hle, hfresh, hzero, -⟩ :=
    h.attentive.frames earlier _ later hsent f time rfl hf
  generalize (wheelVelocityPayloadDecode f.payload.bytes).command = command at hcommanded hzero ⊢
  have hne : command ≠ {} := by
    rintro rfl
    exact absurd hzero (by decide)
  obtain ⟨given, hearlier⟩ := Stm32ClientRunner.commands_of_commanded hcommanded
  obtain ⟨past, rest, hlog, hpast⟩ := h.split hsent hearlier
  obtain ⟨before, channels, hchannels, hmixed, henable, harmed⟩ :=
    hgated.log past _ rest hlog command rfl hne
  refine ⟨channels, commandTime, past, rest, before, hcommanded, hle, hfresh, hlog, ?_, hchannels,
    henable, harmed, ?_⟩
  · rw [hpast, hearlier]
  · rw [hmixed]
    exact follows_manualCommand channels.forward channels.steering

/-- **From the sticks to the wire.** Whatever the receiver, the link and the clock do, the velocities
of every wheel frame stem from channels of the receiver. -/
theorem wheel_frames_follow_sticks (env : ℕ → ClientAnswer) (receiver : ℕ → Option (List UInt8))
    (clock : ℤ) (n k : ℕ) (earlier later : List ClientEvent) (f : ProtocolFrame) (time : ℤ)
    (hsent : (manualControlProbe env receiver manualCommand clock n k).runner.log =
      earlier ++ .sent f time :: later) (hf : f.messageType = .wheelVelocity) :
    ∃ channels, Steered (manualControlProbe env receiver manualCommand clock n k) earlier
      (wheelVelocityPayloadDecode f.payload.bytes).command time channels :=
  (manualControlProbe_reported env receiver manualCommand clock n k).steered
    (manualControlProbe_gated env receiver clock n k) hsent hf

/-- A board that answers the first LINK_SYNC and the first START of the loop. -/
def drivingBoard : ℕ → ClientAnswer
  | 45 => Stm32ClientRunner.grantingBoard 21
  | 46 => Stm32ClientRunner.grantingBoard 22
  | n => synchronizingBoard n

theorem wheel_frames_follow_sticks_full_forward :
    ∃ earlier later f time, (manualControlProbe drivingBoard armingReceiver manualCommand 5 5 0).runner.log =
        earlier ++ .sent f time :: later ∧
      (wheelVelocityPayloadDecode f.payload.bytes).command =
        { leftVelocityMmS := 120, rightVelocityMmS := 120 } ∧
      ∃ channels, Steered (manualControlProbe drivingBoard armingReceiver manualCommand 5 5 0) earlier
        { leftVelocityMmS := 120, rightVelocityMmS := 120 } time channels := by
  have hsent : (manualControlProbe drivingBoard armingReceiver manualCommand 5 5 0).runner.log =
      (manualControlProbe drivingBoard armingReceiver manualCommand 5 5 0).runner.log.take 9 ++
        .sent (Stm32MotionSession.wheelVelocityFrame 1
          { motionSessionId := 1
            command := { leftVelocityMmS := 120, rightVelocityMmS := 120 } }) 20000050 :: [] := by
    decide +kernel
  have hsteered := wheel_frames_follow_sticks _ _ 5 5 0 _ _ _ _ hsent rfl
  rw [Stm32ClientRunner.wheelVelocityPayloadDecode_frame] at hsteered
  refine ⟨_, _, _, _, hsent, ?_, hsteered⟩
  rw [Stm32ClientRunner.wheelVelocityPayloadDecode_frame]

end ManualControl

end IndoorRobot
