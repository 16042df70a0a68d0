import IndoorRobot.ManualInputGuard
import IndoorRobot.WheelDemand

/-!
# The manual drive loop

`manual_control_probe_main.cpp`, from the moment its receiver port is open. The steady
clock is the one of the client runner; the receiver's n-th read is `receiver n`, with
`none` for a failed read and the empty list for one that finds nothing. The mixing of
the sticks is an arbitrary function of their positions.
-/
namespace IndoorRobot

open EventLogs Stm32ClientRunner

/-- What can be observed of the loop, in its order. -/
inductive ManualEvent where
  | iterationBegan
  | serviceGap
  | channels (channels : CrsfChannels)
  | drainGap
  | observed (synchronized : Bool)
  | polled (permitted : Bool)
  | wheelCommand (command : WheelVelocityCommand)
  deriving DecidableEq

/-- The objects of `main`, and the variables of its loop. -/
structure ManualControl where
  runner : Stm32ClientRunner
  decoder : CrsfFrameDecoder := {}
  guard : ManualInputGuard := {}
  frame : CrsfFrame := {}
  channels : CrsfChannels := {}
  lastReceiverServiceAt : ℤ := 0
  receivedChannels : Bool := false
  candidateCommand : WheelVelocityCommand := {}
  reads : ℕ := 0
  log : List ManualEvent := []

namespace ManualControl

def serviceLimit : ℤ := 200 * millisecondNs

def emit (m : ManualControl) (event : ManualEvent) : ManualControl :=
  { m with log := m.log ++ [event] }

def resetGuard (m : ManualControl) : ManualControl := { m with guard := m.guard.reset }

def resetDecoder (m : ManualControl) : ManualControl := { m with decoder := m.decoder.reset }

/-- `runner.is_synchronized`. -/
def isSynchronized (m : ManualControl) : Bool := decide (m.runner.state = .synchronized)

section Loop
variable (env : ℕ → ClientAnswer) (receiver : ℕ → Option (List UInt8))
  (mixSticks : UInt16 → UInt16 → WheelVelocityCommand)

/-- `ManualInputGuard::Clock::now`. -/
def now (m : ManualControl) : ℤ × ManualControl :=
  let (time, runner) := m.runner.now env
  (time, { m with runner := runner })

/-- `runner.set_wheel_command`. -/
def setWheelCommand (m : ManualControl) (command : WheelVelocityCommand) : ManualControl :=
  { m.emit (.wheelCommand command) with runner := m.runner.setWheelCommand env command }

/-- The channels of a complete frame. -/
def takeChannels (m : ManualControl) (channels : CrsfChannels) : ManualControl :=
  let (time, m) := m.now env
  { m.emit (.channels channels) with
    channels := channels
    guard := m.guard.onChannels channels time
    candidateCommand := mixSticks channels.forward channels.steering
    receivedChannels := true }

/-- One byte of the receiver. -/
def feedByte (m : ManualControl) (byte : UInt8) : ManualControl :=
  let (complete, frame, decoder) := m.decoder.feedByte byte m.frame
  let m := { m with frame := frame, decoder := decoder }
  if complete then
    let (decoded, channels) := crsfChannelsDecode frame m.channels
    if decoded then m.takeChannels env mixSticks channels else m
  else m

/-- The loop over the read batches; it returns `receiver_drained`. -/
def drainReceiver (recovering : Bool) : ℕ → ManualControl → Bool × ManualControl
  | 0, m => (false, m)
  | batches + 1, m =>
    let read := receiver m.reads
    let m := { m with reads := m.reads + 1 }
    match read with
    | none => (false, m)
    | some [] => (true, m)
    | some bytes =>
      if recovering then drainReceiver recovering batches m
      else drainReceiver recovering batches ((bytes.take 256).foldl (feedByte env mixSticks) m)

/-- The head of an iteration, up to the first read: the time and `recovering_receiver`. -/
def beginService (m : ManualControl) : ℤ × Bool × ManualControl :=
  let (serviceAt, m) := m.now env
  let recovering := decide (serviceAt - m.lastReceiverServiceAt ≥ serviceLimit)
  let m := { m.emit .iterationBegan with
    lastReceiverServiceAt := serviceAt
    receivedChannels := false
    candidateCommand := {} }
  let m :=
    if recovering then
      (((m.emit .serviceGap).setWheelCommand env {}).resetGuard).resetDecoder
    else m
  (serviceAt, recovering, m)

/-- The time the reads took. -/
def checkDrainTime (m : ManualControl) (serviceAt : ℤ) : ManualControl :=
  let (time, m) := m.now env
  if time - serviceAt ≥ serviceLimit then
    { ((m.emit .drainGap).resetGuard.resetDecoder).setWheelCommand env {} with
      receivedChannels := false }
  else m

/-- The command of the iteration. -/
def commandRunner (m : ManualControl) : ManualControl :=
  let synchronizedBefore := m.isSynchronized
  let m := m.emit (.observed synchronizedBefore)
  let m := if ¬ synchronizedBefore then m.resetGuard else m
  let (time, m) := m.now env
  let (permitted, guard) := m.guard.poll time
  let m := { m with guard := guard }.emit (.polled permitted)
  if ¬ synchronizedBefore ∨ ¬ permitted then m.setWheelCommand env {}
  else if m.receivedChannels then m.setWheelCommand env m.candidateCommand
  else m

/-- `runner.poll`, and what follows it in the iteration. -/
def pollRunner (m : ManualControl) : ManualControl :=
  let m := { m with runner := m.runner.poll env }
  let synchronized := m.isSynchronized
  let m := m.emit (.observed synchronized)
  if ¬ synchronized then m.resetGuard.setWheelCommand env {} else m

/-- `sleep_for`, at least. -/
def sleep (m : ManualControl) : ManualControl :=
  { m with runner := { m.runner with clock := m.runner.clock + 5 * millisecondNs } }

/-- One iteration; `false` is the `break` of a receiver that cannot be drained. -/
def iteration (m : ManualControl) : Bool × ManualControl :=
  let (serviceAt, recovering, m) := m.beginService env
  let (receiverDrained, m) := drainReceiver env receiver mixSticks recovering 32 m
  if ¬ receiverDrained then (false, m.resetGuard.setWheelCommand env {})
  else (true, (((m.checkDrainTime env serviceAt).commandRunner env).pollRunner env).sleep)

/-- The first `n` turns of the loop, and whether it has been left. -/
def mainLoop (deadline : ℤ) : ℕ → ManualControl → Bool × ManualControl
  | 0, m => (false, m)
  | n + 1, m =>
    let (time, m) := m.now env
    if time ≥ deadline then (true, m)
    else
      match m.iteration env receiver mixSticks with
      | (false, m) => (true, m)
      | (true, m) => mainLoop deadline n m

/-- The first `n` turns of the last loop. -/
def shutdownLoop (shutdownDeadline : ℤ) : ℕ → ManualControl → ManualControl
  | 0, m => m
  | n + 1, m =>
    let (time, m) := m.now env
    if time ≥ shutdownDeadline then m
    else shutdownLoop shutdownDeadline n { m with runner := m.runner.poll env }.sleep

/-- `main` for at most `n` turns of its loop and `k` turns of its shutdown. -/
def manualControlProbe (clock : ℤ) (n k : ℕ) : ManualControl :=
  let (time, m) := now env { runner := { clock := clock } }
  let deadline := time + 300000 * millisecondNs
  let (serviceAt, m) := m.now env
  let (left, m) := mainLoop env receiver mixSticks deadline n { m with lastReceiverServiceAt := serviceAt }
  if ¬ left then m
  else
    let m := m.resetGuard.setWheelCommand env {}
    let (time, m) := m.now env
    shutdownLoop env (time + 2000 * millisecondNs) k m

end Loop

end ManualControl

namespace ManualEvent

/-- A link seen unsynchronized, or a gap in the service of the receiver. -/
def disturbs : ManualEvent → Bool
  | .serviceGap => true
  | .drainGap => true
  | .observed synchronized => !synchronized
  | _ => false

def isChannels : ManualEvent → Bool
  | .channels _ => true
  | _ => false

end ManualEvent

namespace ManualControl

/-- An iteration has begun, and nothing disturbing has happened since. -/
def Undisturbed : List ManualEvent → Prop :=
  Since (fun _ e => e = .iterationBegan) (fun e => e.disturbs = false)

/-- The last channels had the switch off and the sticks at rest, and nothing disturbing
has happened since the beginning of their iteration. -/
def Released : List ManualEvent → Prop :=
  Since (fun earlier e => ∃ c, e = .channels c ∧ c.saDisabled = true ∧ c.axesNeutral = true ∧
    Undisturbed earlier) (fun e => e.disturbs = false ∧ e.isChannels = false)

/-- Such channels were followed at once by channels with the switch on and the sticks at
rest, and nothing disturbing has happened since the beginning of the first ones'
iteration. -/
def Armed : List ManualEvent → Prop :=
  Since (fun earlier e => ∃ c, e = .channels c ∧ c.saEnabled = true ∧ c.axesNeutral = true ∧
    Released earlier) (fun e => e.disturbs = false)

section Gating
variable (mixSticks : UInt16 → UInt16 → WheelVelocityCommand)

/-- A command is passed on right after the channels it is mixed from, once the runner
was seen synchronized and the guard has permitted it. -/
def Permitted (earlier : List ManualEvent) (command : WheelVelocityCommand) : Prop :=
  ∃ past channels, earlier = past ++ [.channels channels, .observed true, .polled true] ∧
    command = mixSticks channels.forward channels.steering ∧ 1600 ≤ channels.enable ∧ Armed earlier

/-- The events of a gated log: a command that is not zero is permitted. -/
def Allowed (earlier : List ManualEvent) (event : ManualEvent) : Prop :=
  ∀ command, event = .wheelCommand command → command ≠ {} → Permitted mixSticks earlier command

/-- What the guard's state says about the log. -/
structure Gated (m : ManualControl) : Prop where
  log : Always (Allowed mixSticks) m.log
  ready : m.guard.state = .ready → Released m.log
  enabled : m.guard.state = .enabled → Armed m.log

/-- Before the command of an iteration: what the candidate is. -/
structure Serviced (m : ManualControl) : Prop extends Gated mixSticks m where
  candidate : m.receivedChannels = true → ∃ past channels, m.log = past ++ [.channels channels] ∧
    m.candidateCommand = mixSticks channels.forward channels.steering ∧
    (m.guard.state = .enabled → channels.saEnabled = true)

/-- While bytes are decoded. -/
structure Receiving (m : ManualControl) : Prop extends Serviced mixSticks m where
  began : Undisturbed m.log

variable {mixSticks} {m q : ManualControl}

theorem allowed_of_ne {earlier : List ManualEvent} {event : ManualEvent}
    (h : ∀ command, event ≠ .wheelCommand command) : Allowed mixSticks earlier event :=
  fun command hevent => absurd hevent (h command)

theorem allowed_zero (earlier : List ManualEvent) : Allowed mixSticks earlier (.wheelCommand {}) := by
  intro command hevent hne
  cases hevent
  exact absurd rfl hne

/-- An event that is not a command. -/
theorem always_note {log : List ManualEvent} (h : Always (Allowed mixSticks) log)
    (event : ManualEvent) (hne : ∀ command, event ≠ .wheelCommand command) :
    Always (Allowed mixSticks) (log ++ [event]) :=
  h.concat (allowed_of_ne hne)

theorem always_halt {log : List ManualEvent} (h : Always (Allowed mixSticks) log) :
    Always (Allowed mixSticks) (log ++ [.wheelCommand {}]) :=
  h.concat (allowed_zero log)

theorem Gated.congr (h : Gated mixSticks m) (hlog : q.log = m.log) (hguard : q.guard = m.guard) :
    Gated mixSticks q := by
  constructor
  · rw [hlog]
    exact h.log
  · rw [hlog, hguard]
    exact h.ready
  · rw [hlog, hguard]
    exact h.enabled

/-- After a reset of the guard only the log matters. -/
theorem gated_of_needsRearm (hlog : Always (Allowed mixSticks) m.log)
    (hguard : m.guard.state = .needsRearm) : Gated mixSticks m where
  log := hlog
  ready := fun h => by simp [hguard] at h
  enabled := fun h => by simp [hguard] at h

/-- An event that neither disturbs nor brings channels. -/
theorem Gated.emit (h : Gated mixSticks m) (event : ManualEvent) (hquiet : event.disturbs = false)
    (hchannels : event.isChannels = false) (hallowed : Allowed mixSticks m.log event) :
    Gated mixSticks (m.emit event) where
  log := h.log.concat hallowed
  ready := fun hready => (h.ready hready).append (by simp [hquiet, hchannels])
  enabled := fun henabled => (h.enabled henabled).append (by simp [hquiet])

theorem Gated.setWheelCommand (h : Gated mixSticks m) (env : ℕ → ClientAnswer)
    {command : WheelVelocityCommand} (hallowed : Allowed mixSticks m.log (.wheelCommand command)) :
    Gated mixSticks (m.setWheelCommand env command) :=
  (h.emit (.wheelCommand command) rfl rfl hallowed).congr rfl rfl

theorem Gated.halt (h : Gated mixSticks m) (env : ℕ → ClientAnswer) :
    Gated mixSticks (m.setWheelCommand env {}) :=
  h.setWheelCommand env (allowed_zero m.log)

theorem Gated.resetGuard (h : Gated mixSticks m) : Gated mixSticks m.resetGuard :=
  gated_of_needsRearm h.log rfl

theorem Gated.sleep (h : Gated mixSticks m) : Gated mixSticks m.sleep := h.congr rfl rfl

section Iteration
variable (env : ℕ → ClientAnswer) (receiver : ℕ → Option (List UInt8))

theorem Receiving.takeChannels (h : Receiving mixSticks m) (channels : CrsfChannels) :
    Receiving mixSticks (m.takeChannels env mixSticks channels) where
  log := h.log.concat (allowed_of_ne (by simp))
  ready := by
    intro hready
    obtain ⟨hdisabled, hneutral⟩ := ManualInputGuard.onChannels_ready hready
    exact since_now ⟨channels, rfl, hdisabled, hneutral, h.began⟩
  enabled := by
    intro henabled
    obtain ⟨hswitch, hbefore | ⟨hbefore, hneutral⟩⟩ := ManualInputGuard.onChannels_enabled henabled
    · exact (h.enabled hbefore).append (by simp [ManualEvent.disturbs])
    · exact since_now ⟨channels, rfl, hswitch, hneutral, h.ready hbefore⟩
  candidate := by
    intro _
    exact ⟨m.log, channels, rfl, rfl, fun henabled =>
      (ManualInputGuard.onChannels_enabled henabled).1⟩
  began := h.began.append (by simp [ManualEvent.disturbs])

theorem Receiving.feedByte (h : Receiving mixSticks m) (byte : UInt8) :
    Receiving mixSticks (m.feedByte env mixSticks byte) := by
  have hfed (frame : CrsfFrame) (decoder : CrsfFrameDecoder) :
      Receiving mixSticks { m with frame := frame, decoder := decoder } :=
    ⟨⟨h.toGated.congr rfl rfl, h.candidate⟩, h.began⟩
  rw [ManualControl.feedByte]
  dsimp only
  split_ifs
  · exact (hfed _ _).takeChannels env _
  · exact hfed _ _
  · exact hfed _ _

theorem Receiving.feedBytes (h : Receiving mixSticks m) (bytes : List UInt8) :
    Receiving mixSticks (bytes.foldl (ManualControl.feedByte env mixSticks) m) := by
  induction bytes generalizing m with
  | nil => exact h
  | cons byte bytes ih => exact ih (h.feedByte env byte)

theorem Receiving.drainReceiver (h : Receiving mixSticks m) (batches : ℕ) :
    Receiving mixSticks (drainReceiver env receiver mixSticks false batches m).2 := by
  induction batches generalizing m with
  | zero => exact h
  | succ batches ih =>
    have hread : Receiving mixSticks { m with reads := m.reads + 1 } :=
      ⟨⟨h.toGated.congr rfl rfl, h.candidate⟩, h.began⟩
    rw [ManualControl.drainReceiver]
    split
    · exact hread
    · exact hread
    · exact ih (hread.feedBytes env _)

/-- A recovering iteration reads without decoding. -/
theorem drainReceiver_recovering (mixSticks : UInt16 → UInt16 → WheelVelocityCommand) (batches : ℕ)
    (m : ManualControl) : ∃ reads, (drainReceiver env receiver mixSticks true batches m).2 = { m with reads := reads } := by
  induction batches generalizing m with
  | zero => exact ⟨m.reads, rfl⟩
  | succ batches ih =>
    rw [ManualControl.drainReceiver]
    split
    · exact ⟨_, rfl⟩
    · exact ⟨_, rfl⟩
    · obtain ⟨reads, hreads⟩ := ih { m with reads := m.reads + 1 }
      exact ⟨reads, hreads⟩

/-- The head of an iteration: decoding begins, or the guard is reset for recovery. -/
theorem Gated.beginService (h : Gated mixSticks m) :
    let (_, recovering, q) := m.beginService env
    if recovering then Serviced mixSticks q else Receiving mixSticks q := by
  have htime : Gated mixSticks (m.now env).2 := h.congr rfl rfl
  have hbegan := htime.emit .iterationBegan rfl rfl (allowed_of_ne (by simp))
  simp only [ManualControl.beginService, decide_eq_true_eq]
  split_ifs
  · have hhalted := always_halt (always_note hbegan.log .serviceGap (by simp))
    exact ⟨gated_of_needsRearm hhalted rfl, fun hreceived => absurd hreceived Bool.false_ne_true⟩
  · exact ⟨⟨hbegan.congr rfl rfl, fun hreceived => absurd hreceived Bool.false_ne_true⟩,
      since_now rfl⟩

theorem Serviced.checkDrainTime (h : Serviced mixSticks m) (serviceAt : ℤ) :
    Serviced mixSticks (m.checkDrainTime env serviceAt) := by
  have htime : Serviced mixSticks (m.now env).2 := ⟨h.toGated.congr rfl rfl, h.candidate⟩
  rw [ManualControl.checkDrainTime]
  dsimp only
  split_ifs
  · have hhalted := always_halt (always_note htime.log .drainGap (by simp))
    exact ⟨gated_of_needsRearm hhalted rfl, by simp⟩
  · exact htime

theorem Gated.pollGuard (h : Gated mixSticks m) (time : ℤ) :
    Gated mixSticks { m with guard := (m.guard.poll time).2 } where
  log := h.log
  ready := fun hready => h.ready (ManualInputGuard.state_of_poll hready (by simp))
  enabled := fun henabled => h.enabled (ManualInputGuard.state_of_poll henabled (by simp))

/-- The guard has permitted the candidate. -/
theorem Serviced.permitted (h : Serviced mixSticks m) (hreceived : m.receivedChannels = true)
    {time : ℤ} (hpermitted : (m.guard.poll time).1 = true) :
    Permitted mixSticks (m.log ++ [.observed true] ++ [.polled (m.guard.poll time).1])
      m.candidateCommand := by
  have henabled : m.guard.state = .enabled :=
    ManualInputGuard.state_of_poll (ManualInputGuard.enabled_of_poll hpermitted) (by simp)
  have hobserved : Armed (m.log ++ [.observed true]) :=
    (h.enabled henabled).append (by simp [ManualEvent.disturbs])
  have harmed : Armed (m.log ++ [.observed true] ++ [.polled true]) :=
    hobserved.append (by simp [ManualEvent.disturbs])
  obtain ⟨past, channels, hlog, hcandidate, hswitch⟩ := h.candidate hreceived
  rw [hpermitted]
  exact ⟨past, channels, by simp [hlog], hcandidate, of_decide_eq_true (hswitch henabled), harmed⟩

theorem Serviced.commandRunner (h : Serviced mixSticks m) :
    Gated mixSticks (m.commandRunner env) := by
  rw [ManualControl.commandRunner]
  cases hbefore : m.isSynchronized with
  | false =>
    have hobserved := always_note h.log (.observed false) (by simp)
    have hpolled := always_note hobserved (.polled false) (by simp)
    exact gated_of_needsRearm (always_halt hpolled) rfl
  | true =>
    have hobserved := h.toGated.emit (.observed true) rfl rfl (allowed_of_ne (by simp))
    have htime : Gated mixSticks ((m.emit (.observed true)).now env).2 := hobserved.congr rfl rfl
    have hguard := htime.pollGuard ((m.emit (.observed true)).now env).1
    have hpolled (permitted : Bool) := hguard.emit (.polled permitted) rfl rfl
      (allowed_of_ne (by simp))
    simp only [not_true, if_false, false_or]
    split_ifs with hpermitted hreceived
    · apply (hpolled _).setWheelCommand env
      intro command hevent _
      cases hevent
      exact h.permitted hreceived hpermitted
    · exact hpolled _
    · exact (hpolled _).halt env

theorem Gated.pollRunner (h : Gated mixSticks m) : Gated mixSticks (m.pollRunner env) := by
  have hrunner : Gated mixSticks { m with runner := m.runner.poll env } := h.congr rfl rfl
  rw [ManualControl.pollRunner]
  generalize { m with runner := m.runner.poll env } = q at hrunner ⊢
  cases hafter : q.isSynchronized with
  | false =>
    have hobserved := always_note hrunner.log (.observed false) (by simp)
    exact gated_of_needsRearm (always_halt hobserved) rfl
  | true => exact hrunner.emit (.observed true) rfl rfl (allowed_of_ne (by simp))

theorem Gated.iteration (h : Gated mixSticks m) :
    Gated mixSticks (m.iteration env receiver mixSticks).2 := by
  have hbegan := h.beginService env
  rw [ManualControl.iteration]
  generalize m.beginService env = begun at hbegan ⊢
  obtain ⟨serviceAt, recovering, q⟩ := begun
  have hserviced : Serviced mixSticks (drainReceiver env receiver mixSticks recovering 32 q).2 := by
    cases recovering with
    | true =>
      have hrecovering : Serviced mixSticks q := hbegan
      obtain ⟨reads, hreads⟩ := drainReceiver_recovering env receiver mixSticks 32 q
      rw [hreads]
      exact ⟨hrecovering.toGated.congr rfl rfl, hrecovering.candidate⟩
    | false =>
      have hreceiving : Receiving mixSticks q := hbegan
      exact (hreceiving.drainReceiver env receiver 32).toServiced
  dsimp only
  split_ifs
  · exact (((hserviced.checkDrainTime env serviceAt).commandRunner env).pollRunner env).sleep
  · exact hserviced.toGated.resetGuard.halt env

theorem Gated.mainLoop (h : Gated mixSticks m) (deadline : ℤ) (n : ℕ) :
    Gated mixSticks (mainLoop env receiver mixSticks deadline n m).2 := by
  induction n generalizing m with
  | zero => exact h
  | succ n ih =>
    have htime : Gated mixSticks (m.now env).2 := h.congr rfl rfl
    have hiteration := htime.iteration env receiver
    rw [ManualControl.mainLoop]
    dsimp only
    generalize (m.now env).2.iteration env receiver mixSticks = iterated at hiteration ⊢
    obtain ⟨goesOn, q⟩ := iterated
    split_ifs
    · exact htime
    · cases goesOn with
      | false => exact hiteration
      | true => exact ih hiteration

theorem Gated.shutdownLoop (h : Gated mixSticks m) (shutdownDeadline : ℤ) (n : ℕ) :
    Gated mixSticks (shutdownLoop env shutdownDeadline n m) := by
  induction n generalizing m with
  | zero => exact h
  | succ n ih =>
    rw [ManualControl.shutdownLoop]
    dsimp only
    split_ifs
    · exact h.congr rfl rfl
    · apply ih
      apply Gated.sleep
      exact h.congr rfl rfl

theorem manualControlProbe_gated (clock : ℤ) (n k : ℕ) :
    Gated mixSticks (manualControlProbe env receiver mixSticks clock n k) := by
  rw [manualControlProbe]
  dsimp only
  generalize (now env { runner := { clock := clock } }).1 + 300000 * millisecondNs = deadline
  have hstart : Gated mixSticks { (now env (now env { runner := { clock := clock } }).2).2 with
      lastReceiverServiceAt := (now env (now env { runner := { clock := clock } }).2).1 } :=
    gated_of_needsRearm always_nil rfl
  have hloop := hstart.mainLoop env receiver deadline n
  split_ifs
  · have hhalted := hloop.resetGuard.halt env
    apply Gated.shutdownLoop
    exact hhalted.congr rfl rfl
  · exact hloop

end Iteration

/-- **Gating of the manual drive loop.** Whatever the receiver, the link and the clock
do, a command other than zero is given to the runner only right after the channels it
is mixed from, decoded in the same iteration with their enable switch on, when the
runner was seen synchronized and the guard gave its permission. Before that, channels
with the switch off and the sticks at rest were followed at once by channels with the
switch on and the sticks at rest, all after the last iteration that saw the link
unsynchronized or a gap in the service of the receiver. -/
theorem manual_commands_are_permitted (env : ℕ → ClientAnswer)
    (receiver : ℕ → Option (List UInt8)) (mixSticks : UInt16 → UInt16 → WheelVelocityCommand)
    (clock : ℤ) (n k : ℕ) (earlier later : List ManualEvent) (command : WheelVelocityCommand)
    (hlog : (manualControlProbe env receiver mixSticks clock n k).log =
      earlier ++ .wheelCommand command :: later)
    (hne : command ≠ {}) : Permitted mixSticks earlier command :=
  (manualControlProbe_gated env receiver clock n k).log earlier _ later hlog command rfl hne

/-- A receiver whose third read holds channels with the switch off, with the switch on,
and with the switch on and the forward stick at its end. -/
def armingReceiver : ℕ → Option (List UInt8)
  | 2 => some
      [200, 24, 22, 224, 3, 31, 0, 0, 224, 10, 0, 0, 0, 0, 0, 0, 0, 0, 0, 0, 0, 0, 0, 0, 0, 92,
        200, 24, 22, 224, 3, 31, 0, 0, 48, 113, 0, 0, 0, 0, 0, 0, 0, 0, 0, 0, 0, 0, 0, 0, 0, 128,
        200, 24, 22, 224, 155, 56, 0, 0, 48, 113, 0, 0, 0, 0, 0, 0, 0, 0, 0, 0, 0, 0, 0, 0, 0, 51]
  | _ => some []

/-- A board that answers the first LINK_SYNC, as `grantingBoard` does. -/
def synchronizingBoard : ℕ → ClientAnswer
  | 20 => grantingBoard 7
  | 21 => grantingBoard 8
  | _ => grantingBoard 0

/-- The mixing at the forward stick's end. -/
def fullForward (forward steering : UInt16) : WheelVelocityCommand :=
  if forward = 1811 ∧ steering = 992 then { leftVelocityMmS := 120, rightVelocityMmS := 120 } else {}

theorem manual_commands_are_permitted_full_forward :
    ∃ earlier later, (manualControlProbe synchronizingBoard armingReceiver fullForward 5 3 0).log =
        earlier ++ .wheelCommand { leftVelocityMmS := 120, rightVelocityMmS := 120 } :: later ∧
      Permitted fullForward earlier { leftVelocityMmS := 120, rightVelocityMmS := 120 } := by
  have hlog : (manualControlProbe synchronizingBoard armingReceiver fullForward 5 3 0).log =
      (manualControlProbe synchronizingBoard armingReceiver fullForward 5 3 0).log.take 17 ++
        .wheelCommand { leftVelocityMmS := 120, rightVelocityMmS := 120 } ::
        (manualControlProbe synchronizingBoard armingReceiver fullForward 5 3 0).log.drop 18 := by
    decide +kernel
  exact ⟨_, _, hlog, manual_commands_are_permitted _ _ _ 5 3 0 _ _ _ hlog (by decide)⟩

end Gating

end ManualControl

end IndoorRobot
