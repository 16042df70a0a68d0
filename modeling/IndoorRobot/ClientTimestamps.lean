import IndoorRobot.WheelDemand
import IndoorRobot.WrappingClocks

/-!
# The time stamps of the client

The sessions store times in milliseconds of the epoch and subtract them from the time an
iteration began with, although other stages read the clock again in between. Here the
runner carries the time points behind its stamps and a record of every subtraction whose
result it uses. Both are left behind again by `poll_runner`: the runner is that of the code.
-/
namespace IndoorRobot

/-- The time points behind `last_valid_response_ms_`, `last_heartbeat_tx_ms_` and
`last_transmit_ms_`. -/
structure ClientStamps where
  response : ℤ := 0
  heartbeat : ℤ := 0
  transmit : ℤ := 0

/-- A subtraction of a stored time stamp from the present time. -/
structure TimestampUse where
  epochStart : ℤ
  storedAt : ℤ
  storedMs : UInt32
  nowAt : ℤ
  nowMs : UInt32

/-- The runner with the time points behind its stamps and the uses it has made of them. -/
structure TimedRunner where
  runner : Stm32ClientRunner
  stamps : ClientStamps := {}
  uses : List TimestampUse := []

/-- The whole milliseconds from the beginning of an epoch. -/
def msSince (epochStart time : ℤ) : ℕ := (time - epochStart).toNat / 1000000

/-- Both times of a use are stamps of the epoch, and the stored one is not the later one. -/
def TimestampUse.Sound (u : TimestampUse) : Prop :=
  u.epochStart ≤ u.storedAt ∧ u.storedAt ≤ u.nowAt ∧
    u.storedMs = UInt32.ofNat (msSince u.epochStart u.storedAt) ∧
    u.nowMs = UInt32.ofNat (msSince u.epochStart u.nowAt)

namespace TimedRunner

open Stm32ClientRunner

/-- The present time, as the iteration read it. -/
structure Reading where
  nowAt : ℤ
  nowMs : UInt32

def use (t : TimedRunner) (now : Reading) (storedAt : ℤ) (storedMs : UInt32) : TimestampUse :=
  { epochStart := t.runner.epochStart
    storedAt := storedAt
    storedMs := storedMs
    nowAt := now.nowAt
    nowMs := now.nowMs }

/-- The use `check_link_timeout` makes of its stamp. -/
def responseUse (t : TimedRunner) (now : Reading) : List TimestampUse :=
  if t.runner.linkSession.state = .synchronized then
    [t.use now t.stamps.response t.runner.linkSession.lastValidResponseMs]
  else []

/-- The use `heartbeat_if_due` makes of its stamp. -/
def heartbeatUse (t : TimedRunner) (now : Reading) : List TimestampUse :=
  if t.runner.linkSession.state = .synchronized then
    [t.use now t.stamps.heartbeat t.runner.linkSession.lastHeartbeatTxMs]
  else []

/-- The use `retry_if_due` and `retry_exhausted` make of their stamp. -/
def transmitUse (t : TimedRunner) (now : Reading) : List TimestampUse :=
  if t.runner.motionSession.transactionPending ∧ t.runner.motionSession.retryTimerRunning then
    [t.use now t.stamps.transmit t.runner.motionSession.lastTransmitMs]
  else []

/-- A stage of the code, with the stamps after it and the uses it makes. -/
def follow (t : TimedRunner) (p : Option Bool × Stm32ClientRunner) (stamps : ClientStamps)
    (uses : List TimestampUse) : Option Bool × TimedRunner :=
  (p.1, { runner := p.2, stamps := stamps, uses := t.uses ++ uses })

def checkTimeouts (now : Reading) (t : TimedRunner) : Option Bool × TimedRunner :=
  t.follow (t.runner.checkTimeouts now.nowMs) t.stamps (t.responseUse now ++ t.transmitUse now)

section Stages
variable (env : ℕ → ClientAnswer)

/-- A retry is marked with the time after it was sent. -/
def retryMotion (now : Reading) (t : TimedRunner) : Option Bool × TimedRunner :=
  let p := t.runner.retryMotion env now.nowMs
  t.follow p
    (if (t.runner.motionSession.retryIfDue now.nowMs).1.isSome ∧ p.1 = none then
      { t.stamps with transmit := p.2.clock }
    else t.stamps)
    (t.transmitUse now)

/-- The stamps after a stage that may begin a transaction, whose frame is marked with the time
after it was sent. -/
def stampBegun (t : TimedRunner) (p : Option Bool × Stm32ClientRunner) : ClientStamps :=
  if p.1 = none ∧ t.runner.motionSession.transactionPending = false ∧
      p.2.motionSession.transactionPending = true then
    { t.stamps with transmit := p.2.clock }
  else t.stamps

def startMotion (t : TimedRunner) : Option Bool × TimedRunner :=
  let p := t.runner.startMotion env
  t.follow p (t.stampBegun p) []

def driveMotion (t : TimedRunner) : Option Bool × TimedRunner :=
  let p := t.runner.driveMotion env
  t.follow p (t.stampBegun p) []

/-- A heartbeat carries the time the iteration began with. -/
def sendHeartbeat (now : Reading) (t : TimedRunner) : Option Bool × TimedRunner :=
  t.follow (t.runner.sendHeartbeat env now.nowMs)
    (if (t.runner.linkSession.heartbeatIfDue now.nowMs).1.isSome then
      { t.stamps with heartbeat := now.nowAt }
    else t.stamps)
    (t.heartbeatUse now)

/-- A heartbeat response or a first acknowledgement is stamped with the time of the frame. -/
def handleFrame (frame : ProtocolFrame) (t : TimedRunner) : Option Bool × TimedRunner :=
  let (nowMs, r) := t.runner.currentMs env
  let p := t.runner.handleFrame env frame
  t.follow p
    { t.stamps with
      response :=
        if (r.linkSession.handleHeartbeatResponse frame nowMs).1 then p.2.clock
        else t.stamps.response
      transmit :=
        if ¬ t.runner.motionSession.ackReceived ∧ p.2.motionSession.ackReceived then p.2.clock
        else t.stamps.transmit }
    []

/-- The answer to LINK_SYNC is stamped with the time of the frame. -/
def handleSyncFrame (frame : ProtocolFrame) (t : TimedRunner) : Option Bool × TimedRunner :=
  let p := t.runner.handleSyncFrame env frame
  t.follow p
    (if p.1 = some false then
      { t.stamps with response := p.2.clock, heartbeat := p.2.clock }
    else t.stamps)
    []

/-- `andThen`. -/
def andThen (p : Option Bool × TimedRunner) (stage : TimedRunner → Option Bool × TimedRunner) :
    Option Bool × TimedRunner :=
  match p with
  | (none, t) => stage t
  | (some result, t) => (some result, t)

/-- `feedBytes`. -/
def feedBytes (handler : ProtocolFrame → TimedRunner → Option Bool × TimedRunner)
    (t : TimedRunner) : List UInt8 → Option Bool × TimedRunner
  | [] => (none, t)
  | byte :: rest =>
    let (reported, decoder) := t.runner.decoder.feedByte byte
    let t := { t with runner := { t.runner with decoder := decoder } }
    match reported with
    | none => feedBytes handler t rest
    | some frame =>
      match handler frame t with
      | (none, t) => feedBytes handler t rest
      | (some result, t) => (some result, t)

/-- `receive`. -/
def receive (handler : ProtocolFrame → TimedRunner → Option Bool × TimedRunner)
    (t : TimedRunner) : Option Bool × TimedRunner :=
  let wait := env t.runner.calls
  let r := { t.runner with calls := t.runner.calls + 1 }
  if wait.disconnected then t.follow r.transportLost t.stamps []
  else if ¬ wait.readable then (some true, { t with runner := r })
  else
    match (env r.calls).bytes with
    | none => t.follow (transportLost { r with calls := r.calls + 1 }) t.stamps []
    | some bytes => feedBytes handler { t with runner := { r with calls := r.calls + 1 } } bytes

/-- `run_synchronized_iteration`. -/
def runSynchronizedIteration (t : TimedRunner) : Bool × TimedRunner :=
  let (nowMs, r) := t.runner.currentMs env
  let now : Reading := { nowAt := r.clock, nowMs := nowMs }
  let p := checkTimeouts now { t with runner := r }
  let p := andThen p (retryMotion env now)
  let p := andThen p (startMotion env)
  let p := andThen p (driveMotion env)
  let p := andThen p (sendHeartbeat env now)
  let p := andThen p (receive env (handleFrame env))
  (p.1.getD true, p.2)

/-- `run_synchronizing_iteration`. -/
def runSynchronizingIteration (t : TimedRunner) : Bool × TimedRunner :=
  let (time, r) := t.runner.now env
  if time ≥ r.syncDeadline then (false, { t with runner := r })
  else
    let p := receive env (handleSyncFrame env) { t with runner := r }
    (p.1.getD true, p.2)

/-- `poll`. -/
def poll (t : TimedRunner) : TimedRunner :=
  match t.runner.state with
  | .synchronized =>
    let (kept, t) := t.runSynchronizedIteration env
    if kept then t else { t with runner := t.runner.endEpoch env }
  | .synchronizing =>
    let (kept, t) := t.runSynchronizingIteration env
    if kept then t
    else if t.runner.state = .synchronized then t
    else { t with runner := t.runner.endEpoch env }
  | .disconnected => { t with runner := t.runner.poll env }

def perform (t : TimedRunner) : ClientCall → TimedRunner
  | .setWheelCommand command => { t with runner := t.runner.setWheelCommand env command }
  | .poll => t.poll env

/-- The runner and its stamps after a sequence of calls. -/
def run (t : TimedRunner) (calls : List ClientCall) : TimedRunner := calls.foldl (perform env) t

end Stages

section Erasure
variable {env : ℕ → ClientAnswer}

/-- A result without the stamps. -/
def erase (p : Option Bool × TimedRunner) : Option Bool × Stm32ClientRunner := (p.1, p.2.runner)

theorem erase_andThen {p : Option Bool × TimedRunner}
    {stage : TimedRunner → Option Bool × TimedRunner}
    {body : Stm32ClientRunner → Option Bool × Stm32ClientRunner}
    (h : ∀ t, erase (stage t) = body t.runner) :
    erase (andThen p stage) = Stm32ClientRunner.andThen (erase p) body := by
  obtain ⟨flow, t⟩ := p
  cases flow with
  | none => exact h t
  | some result => rfl

variable {handler : ProtocolFrame → TimedRunner → Option Bool × TimedRunner}
  {plain : ProtocolFrame → Stm32ClientRunner → Option Bool × Stm32ClientRunner}

theorem erase_feedBytes (h : ∀ f t, erase (handler f t) = plain f t.runner) (bytes : List UInt8)
    (t : TimedRunner) :
    erase (feedBytes handler t bytes) = Stm32ClientRunner.feedBytes plain t.runner bytes := by
  induction bytes generalizing t with
  | nil => rfl
  | cons byte rest ih =>
    rw [feedBytes, Stm32ClientRunner.feedBytes]
    generalize t.runner.decoder.feedByte byte = fed
    obtain ⟨reported, decoder⟩ := fed
    cases reported with
    | none => exact ih _
    | some f =>
      have hhandled := h f { t with runner := { t.runner with decoder := decoder } }
      dsimp only at hhandled ⊢
      rw [← hhandled]
      generalize handler f { t with runner := { t.runner with decoder := decoder } } = handled
      obtain ⟨flow, q⟩ := handled
      cases flow with
      | none => exact ih q
      | some result => rfl

theorem erase_receive (h : ∀ f t, erase (handler f t) = plain f t.runner) (t : TimedRunner) :
    erase (receive env handler t) = t.runner.receive env plain := by
  simp only [receive, Stm32ClientRunner.receive]
  split_ifs
  · rfl
  · generalize (env (t.runner.calls + 1)).bytes = read
    cases read with
    | none => rfl
    | some bytes => exact erase_feedBytes h bytes _
  · rfl

theorem erase_runSynchronizedIteration (t : TimedRunner) :
    ((t.runSynchronizedIteration env).1, (t.runSynchronizedIteration env).2.runner) =
      t.runner.runSynchronizedIteration env := by
  have hretry : ∀ now t, erase (retryMotion env now t) =
      t.runner.retryMotion env now.nowMs := fun _ _ => rfl
  have hstart : ∀ t, erase (startMotion env t) = t.runner.startMotion env := fun _ => rfl
  have hdrive : ∀ t, erase (driveMotion env t) = t.runner.driveMotion env := fun _ => rfl
  have hbeat : ∀ now t, erase (sendHeartbeat env now t) =
      t.runner.sendHeartbeat env now.nowMs := fun _ _ => rfl
  have hreceive : ∀ t, erase (receive env (handleFrame env) t) =
      t.runner.receive env (Stm32ClientRunner.handleFrame env) :=
    fun t => erase_receive (fun _ _ => rfl) t
  have herase : ∀ p : Option Bool × TimedRunner, (p.1.getD true, p.2.runner) =
      ((erase p).1.getD true, (erase p).2) := fun p => rfl
  simp only [runSynchronizedIteration, Stm32ClientRunner.runSynchronizedIteration]
  rw [herase, erase_andThen hreceive, erase_andThen (hbeat _), erase_andThen hdrive,
    erase_andThen hstart, erase_andThen (hretry _)]
  rfl

theorem erase_runSynchronizingIteration (t : TimedRunner) :
    ((t.runSynchronizingIteration env).1, (t.runSynchronizingIteration env).2.runner) =
      t.runner.runSynchronizingIteration env := by
  simp only [runSynchronizingIteration, Stm32ClientRunner.runSynchronizingIteration]
  split_ifs
  · rfl
  · have h : erase (receive env (handleSyncFrame env) { t with runner := (t.runner.now env).2 }) =
        (t.runner.now env).2.receive env (Stm32ClientRunner.handleSyncFrame env) :=
      erase_receive (fun f t => rfl) _
    rw [← h]
    rfl

/-- The runner is that of the code. -/
theorem poll_runner (t : TimedRunner) : (t.poll env).runner = t.runner.poll env := by
  rw [poll, Stm32ClientRunner.poll]
  cases hstate : t.runner.state with
  | synchronized =>
    rw [← erase_runSynchronizedIteration]
    dsimp only
    split_ifs <;> rfl
  | synchronizing =>
    rw [← erase_runSynchronizingIteration]
    dsimp only
    split_ifs <;> rfl
  | disconnected => rfl

theorem run_runner (t : TimedRunner) (calls : List ClientCall) :
    (t.run env calls).runner = t.runner.run env calls := by
  induction calls generalizing t with
  | nil => rfl
  | cons call calls ih =>
    rw [run, List.foldl_cons, Stm32ClientRunner.run, List.foldl_cons]
    have hcall : (t.perform env call).runner = t.runner.perform env call := by
      cases call with
      | setWheelCommand command => rfl
      | poll => exact poll_runner t
    rw [← hcall]
    exact ih (t.perform env call)

end Erasure

/-- The stamp of a time point of the epoch that is not in the future. -/
def Stamped (r : Stm32ClientRunner) (time : ℤ) (ms : UInt32) : Prop :=
  r.epochStart ≤ time ∧ time ≤ r.clock ∧ ms = r.elapsedMs time

/-- Time goes on within an epoch, with the link as it is. -/
structure Advances (r q : Stm32ClientRunner) : Prop where
  epochStart : q.epochStart = r.epochStart
  clock : r.clock ≤ q.clock
  state : q.state = r.state
  linkSession : q.linkSession = r.linkSession

/-- Every stamp that may be used lies behind the clock. -/
structure Behind (r : Stm32ClientRunner) (stamps : ClientStamps) : Prop where
  epoch : r.state ≠ .disconnected → r.epochStart ≤ r.clock
  response : r.linkSession.state = .synchronized →
    Stamped r stamps.response r.linkSession.lastValidResponseMs
  heartbeat : r.linkSession.state = .synchronized →
    Stamped r stamps.heartbeat r.linkSession.lastHeartbeatTxMs
  transmit : r.motionSession.transactionPending = true → r.motionSession.retryTimerRunning = true →
    Stamped r stamps.transmit r.motionSession.lastTransmitMs

variable {env : ℕ → ClientAnswer} {r q : Stm32ClientRunner} {stamps : ClientStamps}

theorem Advances.refl (r : Stm32ClientRunner) : Advances r r := ⟨rfl, le_rfl, rfl, rfl⟩

theorem Advances.trans {p : Stm32ClientRunner} (h : Advances r q) (h' : Advances q p) :
    Advances r p :=
  ⟨h'.epochStart.trans h.epochStart, h.clock.trans h'.clock, h'.state.trans h.state,
    h'.linkSession.trans h.linkSession⟩

theorem now_advances (env : ℕ → ClientAnswer) (r : Stm32ClientRunner) :
    Advances r (r.now env).2 := by
  refine ⟨rfl, ?_, rfl, rfl⟩
  show r.clock ≤ r.clock + (env r.calls).advanceNs
  omega

theorem Stamped.advance {time : ℤ} {ms : UInt32} (h : Stamped r time ms)
    (hepoch : q.epochStart = r.epochStart) (hclock : r.clock ≤ q.clock) : Stamped q time ms := by
  obtain ⟨hstart, hnow, hms⟩ := h
  refine ⟨hepoch ▸ hstart, hnow.trans hclock, ?_⟩
  rw [hms, elapsedMs, elapsedMs, hepoch]

/-- The link stamps stay behind the clock; the transmit stamp is up to the motion session. -/
theorem Behind.advance (h : Behind r stamps) (hadvances : Advances r q) (transmit : ℤ)
    (htransmit : q.motionSession.transactionPending = true →
      q.motionSession.retryTimerRunning = true →
      Stamped q transmit q.motionSession.lastTransmitMs) :
    Behind q { stamps with transmit := transmit } where
  epoch hstate := by
    rw [hadvances.state] at hstate
    rw [hadvances.epochStart]
    exact (h.epoch hstate).trans hadvances.clock
  response hlink := by
    rw [hadvances.linkSession] at hlink ⊢
    exact (h.response hlink).advance hadvances.epochStart hadvances.clock
  heartbeat hlink := by
    rw [hadvances.linkSession] at hlink ⊢
    exact (h.heartbeat hlink).advance hadvances.epochStart hadvances.clock
  transmit := htransmit

/-- The timer of one motion session is that of another one. -/
structure SameTimer (s t : Stm32MotionSession) : Prop where
  pending : t.transactionPending = s.transactionPending
  running : t.retryTimerRunning = s.retryTimerRunning
  stamp : t.lastTransmitMs = s.lastTransmitMs

theorem Behind.keep (h : Behind r stamps) (hadvances : Advances r q)
    (hsame : SameTimer r.motionSession q.motionSession) : Behind q stamps := by
  apply h.advance hadvances stamps.transmit
  intro hpending hrunning
  rw [hsame.stamp]
  rw [hsame.pending] at hpending
  rw [hsame.running] at hrunning
  exact (h.transmit hpending hrunning).advance hadvances.epochStart hadvances.clock

theorem transmitPending_cases (env : ℕ → ClientAnswer) (frame : ProtocolFrame) (decidedAt : ℤ)
    (r : Stm32ClientRunner) :
    Advances r (r.transmitPending env frame decidedAt).2 ∧
      ((r.transmitPending env frame decidedAt).1 = some false ∧
          (r.transmitPending env frame decidedAt).2.motionSession = r.motionSession ∨
        (r.transmitPending env frame decidedAt).1 = none ∧
          (r.transmitPending env frame decidedAt).2.motionSession =
            r.motionSession.markPendingTransmitted
              ((r.transmitPending env frame decidedAt).2.elapsedMs
                (r.transmitPending env frame decidedAt).2.clock)) := by
  simp only [transmitPending]
  split_ifs
  · exact ⟨⟨rfl, (now_advances env _).clock, rfl, rfl⟩, .inr ⟨rfl, rfl⟩⟩
  · exact ⟨⟨rfl, le_rfl, rfl, rfl⟩, .inl ⟨rfl, rfl⟩⟩

/-- A frame is sent while the timer is stopped, and if that succeeds the pending transaction is
stamped with the present time. -/
inductive Transmission (r : Stm32ClientRunner) (was : Bool) :
    Option Bool × Stm32ClientRunner → Prop where
  | unmarked (result : Bool) (q : Stm32ClientRunner) (hadvances : Advances r q)
      (hstopped : q.motionSession.retryTimerRunning = false) :
      Transmission r was (some result, q)
  | marked (q : Stm32ClientRunner) (hadvances : Advances r q)
      (hwas : r.motionSession.transactionPending = was)
      (hpending : q.motionSession.transactionPending = true)
      (hstamp : q.motionSession.lastTransmitMs = q.elapsedMs q.clock) :
      Transmission r was (none, q)

/-- A stage leaves the timer of the motion session alone, or it sends the frame of a new
transaction. -/
inductive MotionOutcome (r : Stm32ClientRunner) : Option Bool × Stm32ClientRunner → Prop where
  | kept (flow : Option Bool) (q : Stm32ClientRunner) (hadvances : Advances r q)
      (hsame : SameTimer r.motionSession q.motionSession) : MotionOutcome r (flow, q)
  | sent (p : Option Bool × Stm32ClientRunner) (hsent : Transmission r false p) : MotionOutcome r p

/-- A frame is sent for a pending transaction whose timer is stopped. -/
theorem transmitPending_transmission {was : Bool} (hadvances : Advances r q)
    (hwas : r.motionSession.transactionPending = was)
    (hpending : q.motionSession.transactionPending = true)
    (hstopped : q.motionSession.retryTimerRunning = false) (frame : ProtocolFrame) (decidedAt : ℤ) :
    Transmission r was (q.transmitPending env frame decidedAt) := by
  obtain ⟨hsent, hcases⟩ := transmitPending_cases env frame decidedAt q
  generalize q.transmitPending env frame decidedAt = p at hsent hcases ⊢
  obtain ⟨flow, p⟩ := p
  rcases hcases with ⟨rfl, hsession⟩ | ⟨rfl, hsession⟩
  · have hkept : p.motionSession = q.motionSession := hsession
    exact .unmarked false p (hadvances.trans hsent) (by rw [hkept]; exact hstopped)
  · have hmarked : p.motionSession = { q.motionSession with
        lastTransmitMs := p.elapsedMs p.clock
        retryTimerRunning := true } := by
      simpa [Stm32MotionSession.markPendingTransmitted, hpending] using hsession
    exact .marked p (hadvances.trans hsent) hwas (by rw [hmarked]; exact hpending) (by rw [hmarked])

theorem Transmission.after {was : Bool} {p : Option Bool × Stm32ClientRunner}
    (h : Transmission q was p) (hadvances : Advances r q)
    (hsame : SameTimer r.motionSession q.motionSession) : Transmission r was p := by
  cases h with
  | unmarked result q' hadvances' hstopped =>
    exact .unmarked result q' (hadvances.trans hadvances') hstopped
  | marked q' hadvances' hwas hpending hstamp =>
    exact .marked q' (hadvances.trans hadvances') (hsame.pending.symm.trans hwas) hpending hstamp

theorem MotionOutcome.after {p : Option Bool × Stm32ClientRunner} (h : MotionOutcome q p)
    (hadvances : Advances r q) (hsame : SameTimer r.motionSession q.motionSession) :
    MotionOutcome r p := by
  cases h with
  | kept flow q' hadvances' hsame' =>
    exact .kept flow q' (hadvances.trans hadvances') ⟨hsame'.pending.trans hsame.pending,
      hsame'.running.trans hsame.running, hsame'.stamp.trans hsame.stamp⟩
  | sent p hsent => exact .sent p (hsent.after hadvances hsame)

/-- The wheel time is no time stamp of a session. -/
theorem Transmission.clearWheelTime {was : Bool} {p : Option Bool × Stm32ClientRunner}
    (h : Transmission r was p) :
    Transmission r was
      (p.1, if p.1 = none then { p.2 with lastWheelTransmitTime := 0 } else p.2) := by
  cases h with
  | unmarked result q hadvances hstopped => exact .unmarked result q hadvances hstopped
  | marked q hadvances hwas hpending hstamp =>
    exact .marked _ ⟨hadvances.epochStart, hadvances.clock, hadvances.state,
      hadvances.linkSession⟩ hwas hpending hstamp

/-- The stamps follow a transmission. -/
theorem Behind.transmission {was : Bool} {p : Option Bool × Stm32ClientRunner}
    (h : Behind r stamps) (hconnected : r.state ≠ .disconnected) (hp : Transmission r was p) :
    Behind p.2 (if p.1 = none then { stamps with transmit := p.2.clock } else stamps) := by
  cases hp with
  | unmarked result q hadvances hstopped =>
    exact h.advance hadvances stamps.transmit (by simp [hstopped])
  | marked q hadvances hwas hpending hstamp =>
    refine h.advance hadvances q.clock fun _ _ => ⟨?_, le_rfl, hstamp⟩
    rw [hadvances.epochStart]
    exact (h.epoch hconnected).trans hadvances.clock

theorem retryMotion_outcome (env : ℕ → ClientAnswer) (nowMs : UInt32) (r : Stm32ClientRunner) :
    (r.motionSession.retryIfDue nowMs).1 = none ∧ Advances r (r.retryMotion env nowMs).2 ∧
        (r.retryMotion env nowMs).2.motionSession = r.motionSession ∨
      (r.motionSession.retryIfDue nowMs).1.isSome = true ∧
        Transmission r true (r.retryMotion env nowMs) := by
  rcases r.motionSession.retryIfDue_cases nowMs with hnone | ⟨hpending, -, hretry⟩
  · left
    simp only [Stm32ClientRunner.retryMotion, hnone]
    exact ⟨trivial, .refl _, trivial⟩
  · right
    simp only [Stm32ClientRunner.retryMotion, hretry]
    refine ⟨rfl, ?_⟩
    apply transmitPending_transmission
    · exact ⟨rfl, le_rfl, rfl, rfl⟩
    · exact hpending
    · exact hpending
    · rfl

/-- A transaction is refused, or it begins with its timer stopped. -/
def TimerBegins (s : Stm32MotionSession) (out : Option ProtocolFrame × Stm32MotionSession) : Prop :=
  out = (none, s) ∨ s.transactionPending = false ∧ ∃ frame t, out = (some frame, t) ∧
    t.transactionPending = true ∧ t.retryTimerRunning = false

theorem beginStartSession_timer (s : Stm32MotionSession) (sessionId : UInt32) :
    TimerBegins s (s.beginStartSession sessionId) := by
  rw [Stm32MotionSession.beginStartSession]
  split_ifs with hpending
  · exact .inl rfl
  · exact .inr ⟨by simpa using hpending, _, _, rfl, rfl, rfl⟩

theorem beginEndSession_timer (s : Stm32MotionSession) (sessionId : UInt32) :
    TimerBegins s (s.beginEndSession sessionId) := by
  rw [Stm32MotionSession.beginEndSession]
  split_ifs with hrefused
  · exact .inl rfl
  · simp only [not_or] at hrefused
    exact .inr ⟨by simpa using hrefused.1, _, _, rfl, rfl, rfl⟩

theorem startMotion_outcome (env : ℕ → ClientAnswer) (r : Stm32ClientRunner) :
    MotionOutcome r (r.startMotion env) := by
  have hnow := now_advances env r
  simp only [Stm32ClientRunner.startMotion]
  split_ifs
  · have hbegins := beginStartSession_timer (r.now env).2.motionSession
      (env (r.now env).2.calls).sessionId
    generalize (r.now env).2.motionSession.beginStartSession (env (r.now env).2.calls).sessionId =
      out at hbegins ⊢
    rcases hbegins with rfl | ⟨hunpended, frame, session, rfl, hpending, hstopped⟩
    · exact .kept _ _ ⟨rfl, hnow.clock, rfl, rfl⟩ ⟨rfl, rfl, rfl⟩
    · apply MotionOutcome.sent
      apply transmitPending_transmission
      · exact ⟨rfl, hnow.clock, rfl, rfl⟩
      · exact hunpended
      · exact hpending
      · exact hstopped
  · exact .kept none _ hnow ⟨rfl, rfl, rfl⟩

theorem sendWheel_outcome (env : ℕ → ClientAnswer) (time : ℤ) (r : Stm32ClientRunner) :
    Advances r (r.sendWheel env time).2 ∧
      SameTimer r.motionSession (r.sendWheel env time).2.motionSession := by
  have hbuild : ∀ left right, SameTimer r.motionSession
      (r.motionSession.buildWheelVelocity left right).2 := by
    intro left right
    rw [Stm32MotionSession.buildWheelVelocity]
    split_ifs <;> exact ⟨rfl, rfl, rfl⟩
  simp only [sendWheel]
  split_ifs
  · have hsame := hbuild (r.latestWheelCommand.getD {}).leftVelocityMmS
      (r.latestWheelCommand.getD {}).rightVelocityMmS
    generalize r.motionSession.buildWheelVelocity (r.latestWheelCommand.getD {}).leftVelocityMmS
      (r.latestWheelCommand.getD {}).rightVelocityMmS = built at hsame ⊢
    obtain ⟨wheel, session⟩ := built
    cases wheel with
    | none => exact ⟨⟨rfl, le_rfl, rfl, rfl⟩, hsame⟩
    | some frame =>
      dsimp only
      split_ifs
      · exact ⟨⟨rfl, (now_advances env _).clock, rfl, rfl⟩, hsame⟩
      · exact ⟨⟨rfl, le_rfl, rfl, rfl⟩, hsame⟩
  · exact ⟨.refl r, rfl, rfl, rfl⟩

theorem endMotion_outcome (env : ℕ → ClientAnswer) (time : ℤ) (r : Stm32ClientRunner) :
    MotionOutcome r (r.endMotion env time) := by
  simp only [endMotion]
  split_ifs
  · have hbegins := beginEndSession_timer r.motionSession r.motionSessionId
    generalize r.motionSession.beginEndSession r.motionSessionId = out at hbegins ⊢
    rcases hbegins with rfl | ⟨hunpended, frame, session, rfl, hpending, hstopped⟩
    · exact .kept _ _ ⟨rfl, le_rfl, rfl, rfl⟩ ⟨rfl, rfl, rfl⟩
    · apply MotionOutcome.sent
      apply Transmission.clearWheelTime
      apply transmitPending_transmission
      · exact ⟨rfl, le_rfl, rfl, rfl⟩
      · exact hunpended
      · exact hpending
      · exact hstopped
  · exact .kept none r (.refl r) ⟨rfl, rfl, rfl⟩

theorem driveMotion_outcome (env : ℕ → ClientAnswer) (r : Stm32ClientRunner) :
    MotionOutcome r (r.driveMotion env) := by
  have hnow := now_advances env r
  obtain ⟨hwheel, hsame⟩ := sendWheel_outcome env (r.now env).1 (r.now env).2
  simp only [Stm32ClientRunner.driveMotion]
  generalize (r.now env).2.sendWheel env (r.now env).1 = p at hwheel hsame ⊢
  obtain ⟨flow, q⟩ := p
  cases flow with
  | some result => exact .kept _ q (hnow.trans hwheel) hsame
  | none => exact (endMotion_outcome env (r.now env).1 q).after (hnow.trans hwheel) hsame

/-- The stamps follow a stage that may begin a transaction. -/
theorem Behind.stampBegun {t : TimedRunner} (h : Behind t.runner t.stamps)
    (hconnected : t.runner.state ≠ .disconnected) {p : Option Bool × Stm32ClientRunner}
    (hp : MotionOutcome t.runner p) : Behind p.2 (t.stampBegun p) := by
  rw [TimedRunner.stampBegun]
  cases hp with
  | kept flow q hadvances hsame =>
    rw [if_neg fun hbegun => by simp [hsame.pending, hbegun.2.1] at hbegun]
    exact h.keep hadvances hsame
  | sent p hsent =>
    have hbehind := h.transmission hconnected hsent
    cases hsent with
    | unmarked result q => exact hbehind
    | marked q hadvances hwas hpending hstamp =>
      rw [if_pos ⟨rfl, hwas, hpending⟩]
      exact hbehind

/-- The stamps follow a retry. -/
theorem Behind.stampRetry (h : Behind r stamps) (hconnected : r.state ≠ .disconnected)
    (nowMs : UInt32) : Behind (r.retryMotion env nowMs).2
      (if (r.motionSession.retryIfDue nowMs).1.isSome = true ∧ (r.retryMotion env nowMs).1 = none then
        { stamps with transmit := (r.retryMotion env nowMs).2.clock }
      else stamps) := by
  rcases retryMotion_outcome env nowMs r with ⟨hnone, hadvances, hsession⟩ | ⟨hsome, hsent⟩
  · rw [if_neg (by simp [hnone])]
    exact h.keep hadvances (by rw [hsession]; exact ⟨rfl, rfl, rfl⟩)
  · simpa [hsome] using h.transmission hconnected hsent

theorem elapsedMs_eq {time : ℤ} (h : r.epochStart ≤ time) :
    r.elapsedMs time = UInt32.ofNat (msSince r.epochStart time) := by
  obtain ⟨n, hn⟩ := Int.eq_ofNat_of_zero_le (sub_nonneg.mpr h)
  rw [elapsedMs, msSince, hn, millisecondNs]
  apply UInt32.toNat_inj.mp
  rw [UInt32.toNat_ofNat', UInt32.toNat_ofNat']
  simp only [Int.toNat_natCast]
  rw [show (1000000 : ℤ) = ((1000000 : ℕ) : ℤ) from rfl, ← Int.ofNat_tdiv]
  omega

/-- Within an iteration: its reading is a time of the epoch, and no later heartbeat was sent. -/
structure InIteration (now : Reading) (t : TimedRunner) : Prop where
  behind : Behind t.runner t.stamps
  connected : t.runner.state ≠ .disconnected
  uses : ∀ u ∈ t.uses, u.Sound
  started : t.runner.epochStart ≤ now.nowAt
  passed : now.nowAt ≤ t.runner.clock
  reading : now.nowMs = t.runner.elapsedMs now.nowAt
  heartbeat : t.runner.linkSession.state = .synchronized → t.stamps.heartbeat ≤ now.nowAt

variable {now : Reading} {t : TimedRunner}

theorem InIteration.use_sound (h : InIteration now t) {storedAt : ℤ} {storedMs : UInt32}
    (hstamped : Stamped t.runner storedAt storedMs) (hle : storedAt ≤ now.nowAt) :
    (t.use now storedAt storedMs).Sound := by
  obtain ⟨hstart, -, hms⟩ := hstamped
  refine ⟨hstart, hle, ?_, ?_⟩
  · rw [use, hms, elapsedMs_eq hstart]
  · rw [use, h.reading, elapsedMs_eq h.started]

/-- The iteration goes on with other stamps and sound uses. -/
theorem InIteration.follow (h : InIteration now t) {p : Option Bool × Stm32ClientRunner}
    {stamps : ClientStamps} {uses : List TimestampUse} (hbehind : Behind p.2 stamps)
    (hstate : p.2.state = t.runner.state) (hepoch : p.2.epochStart = t.runner.epochStart)
    (hclock : t.runner.clock ≤ p.2.clock) (huses : ∀ u ∈ uses, u.Sound)
    (hheartbeat : p.2.linkSession.state = .synchronized → stamps.heartbeat ≤ now.nowAt) :
    InIteration now (t.follow p stamps uses).2 where
  behind := hbehind
  connected := hstate ▸ h.connected
  uses := by
    intro u hu
    rcases List.mem_append.mp hu with hu | hu
    · exact h.uses u hu
    · exact huses u hu
  started := hepoch ▸ h.started
  passed := h.passed.trans hclock
  reading := by
    rw [h.reading, elapsedMs, elapsedMs]
    show _ = UInt32.ofNat ((now.nowAt - p.2.epochStart).tdiv millisecondNs % 4294967296).toNat
    rw [hepoch]
  heartbeat := hheartbeat

theorem Transmission.advances {was : Bool} {p : Option Bool × Stm32ClientRunner}
    (h : Transmission r was p) : Advances r p.2 := by
  cases h with
  | unmarked result q hadvances => exact hadvances
  | marked q hadvances => exact hadvances

theorem MotionOutcome.advances {p : Option Bool × Stm32ClientRunner} (h : MotionOutcome r p) :
    Advances r p.2 := by
  cases h with
  | kept flow q hadvances => exact hadvances
  | sent p hsent => exact hsent.advances

/-- A link session with the stamps of another one, if it is still synchronized. -/
structure SameLink (l k : Stm32LinkSession) : Prop where
  state : k.state = .synchronized → l.state = .synchronized
  response : k.lastValidResponseMs = l.lastValidResponseMs
  heartbeat : k.lastHeartbeatTxMs = l.lastHeartbeatTxMs

theorem Behind.withLink (h : Behind r stamps) {link : Stm32LinkSession}
    (hsame : SameLink r.linkSession link) : Behind { r with linkSession := link } stamps where
  epoch := h.epoch
  response hlink := by
    rw [hsame.response]
    exact h.response (hsame.state hlink)
  heartbeat hlink := by
    rw [hsame.heartbeat]
    exact h.heartbeat (hsame.state hlink)
  transmit := h.transmit

theorem checkLinkTimeout_sameLink (l : Stm32LinkSession) (nowMs : UInt32) :
    SameLink l (l.checkLinkTimeout nowMs) := by
  rw [Stm32LinkSession.checkLinkTimeout]
  split_ifs
  · exact ⟨id, rfl, rfl⟩
  · exact ⟨by simp, rfl, rfl⟩
  · exact ⟨id, rfl, rfl⟩

theorem responseUse_sound (h : InIteration now t) (hclock : t.runner.clock = now.nowAt) :
    ∀ u ∈ t.responseUse now, u.Sound := by
  intro u hu
  rw [responseUse] at hu
  split_ifs at hu with hlink
  · rw [List.mem_singleton.mp hu]
    exact h.use_sound (h.behind.response hlink) (hclock ▸ (h.behind.response hlink).2.1)
  · simp at hu

theorem transmitUse_sound (h : InIteration now t) (hclock : t.runner.clock = now.nowAt) :
    ∀ u ∈ t.transmitUse now, u.Sound := by
  intro u hu
  rw [transmitUse] at hu
  split_ifs at hu with htimer
  · have hstamped := h.behind.transmit htimer.1 htimer.2
    rw [List.mem_singleton.mp hu]
    exact h.use_sound hstamped (hclock ▸ hstamped.2.1)
  · simp at hu

theorem heartbeatUse_sound (h : InIteration now t) : ∀ u ∈ t.heartbeatUse now, u.Sound := by
  intro u hu
  rw [heartbeatUse] at hu
  split_ifs at hu with hlink
  · rw [List.mem_singleton.mp hu]
    exact h.use_sound (h.behind.heartbeat hlink) (h.heartbeat hlink)
  · simp at hu

theorem checkTimeouts_runner (nowMs : UInt32) (r : Stm32ClientRunner) :
    (r.checkTimeouts nowMs).2 =
      { r with linkSession := r.linkSession.checkLinkTimeout nowMs } := by
  rw [Stm32ClientRunner.checkTimeouts]
  split_ifs <;> rfl

/-- The two timeouts are tested at the time of the reading. -/
theorem InIteration.checkTimeouts (h : InIteration now t) (hclock : t.runner.clock = now.nowAt) :
    InIteration now (TimedRunner.checkTimeouts now t).2 ∧
      (TimedRunner.checkTimeouts now t).2.runner.clock = now.nowAt := by
  have hsame := checkLinkTimeout_sameLink t.runner.linkSession now.nowMs
  have hrunner := checkTimeouts_runner now.nowMs t.runner
  constructor
  · apply h.follow
    · rw [hrunner]
      exact h.behind.withLink hsame
    · rw [hrunner]
    · rw [hrunner]
    · rw [hrunner]
    · intro u hu
      rcases List.mem_append.mp hu with hu | hu
      · exact responseUse_sound h hclock u hu
      · exact transmitUse_sound h hclock u hu
    · rw [hrunner]
      exact fun hlink => h.heartbeat (hsame.state hlink)
  · show (t.runner.checkTimeouts now.nowMs).2.clock = now.nowAt
    rw [hrunner]
    exact hclock

/-- A stage with the link as it is, and stamps that differ in the transmission only. -/
theorem InIteration.advance (h : InIteration now t) {p : Option Bool × Stm32ClientRunner}
    {stamps : ClientStamps} {uses : List TimestampUse} (hadvances : Advances t.runner p.2)
    (hbehind : Behind p.2 stamps) (hheartbeat : stamps.heartbeat = t.stamps.heartbeat)
    (huses : ∀ u ∈ uses, u.Sound) : InIteration now (t.follow p stamps uses).2 := by
  refine h.follow hbehind hadvances.state hadvances.epochStart hadvances.clock huses ?_
  rw [hadvances.linkSession, hheartbeat]
  exact h.heartbeat

theorem InIteration.retryMotion (h : InIteration now t) (hclock : t.runner.clock = now.nowAt) :
    InIteration now (TimedRunner.retryMotion env now t).2 := by
  have hadvances : Advances t.runner (t.runner.retryMotion env now.nowMs).2 := by
    rcases retryMotion_outcome env now.nowMs t.runner with ⟨-, hadvances, -⟩ | ⟨-, hsent⟩
    · exact hadvances
    · exact hsent.advances
  apply h.advance hadvances (h.behind.stampRetry h.connected now.nowMs)
  · split_ifs <;> rfl
  · exact transmitUse_sound h hclock

theorem InIteration.begin (h : InIteration now t) {p : Option Bool × Stm32ClientRunner}
    (hp : MotionOutcome t.runner p) : InIteration now (t.follow p (t.stampBegun p) []).2 := by
  apply h.advance hp.advances (h.behind.stampBegun h.connected hp)
  · rw [stampBegun]
    split_ifs <;> rfl
  · simp

theorem InIteration.startMotion (h : InIteration now t) :
    InIteration now (TimedRunner.startMotion env t).2 :=
  h.begin (startMotion_outcome env t.runner)

theorem InIteration.driveMotion (h : InIteration now t) :
    InIteration now (TimedRunner.driveMotion env t).2 :=
  h.begin (driveMotion_outcome env t.runner)

/-- Between the iterations: all stamps lie behind the clock, and all uses so far were sound. -/
structure Tracked (t : TimedRunner) : Prop where
  behind : Behind t.runner t.stamps
  uses : ∀ u ∈ t.uses, u.Sound

theorem Tracked.follow (h : Tracked t) {p : Option Bool × Stm32ClientRunner}
    {stamps : ClientStamps} (hbehind : Behind p.2 stamps) : Tracked (t.follow p stamps []).2 :=
  ⟨hbehind, by simpa [TimedRunner.follow] using h.uses⟩

theorem heartbeatIfDue_cases (l : Stm32LinkSession) (nowMs : UInt32) :
    l.heartbeatIfDue nowMs = (none, l) ∨
      ∃ frame k, l.heartbeatIfDue nowMs = (some frame, k) ∧ k.state = l.state ∧
        k.lastValidResponseMs = l.lastValidResponseMs ∧ k.lastHeartbeatTxMs = nowMs := by
  rw [Stm32LinkSession.heartbeatIfDue]
  split_ifs
  · exact .inl rfl
  · exact .inl rfl
  · exact .inr ⟨_, _, rfl, rfl, rfl, rfl⟩

/-- A heartbeat is stamped with the reading of the iteration. -/
theorem InIteration.sendHeartbeat (h : InIteration now t) :
    Tracked (TimedRunner.sendHeartbeat env now t).2 ∧
      (TimedRunner.sendHeartbeat env now t).2.runner.state ≠ .disconnected := by
  have huses : ∀ u ∈ t.uses ++ t.heartbeatUse now, u.Sound := by
    intro u hu
    rcases List.mem_append.mp hu with hu | hu
    · exact h.uses u hu
    · exact heartbeatUse_sound h u hu
  rcases heartbeatIfDue_cases t.runner.linkSession now.nowMs with
    hnone | ⟨frame, link, hsome, hstate, hresponse, hheartbeat⟩
  · simp only [TimedRunner.sendHeartbeat, Stm32ClientRunner.sendHeartbeat, hnone]
    exact ⟨⟨h.behind, huses⟩, h.connected⟩
  · have hbehind : Behind { t.runner with linkSession := link }
        { t.stamps with heartbeat := now.nowAt } :=
      { epoch := h.behind.epoch
        response := by
          rw [hstate, hresponse]
          exact h.behind.response
        heartbeat := by
          rw [hheartbeat]
          exact fun _ => ⟨h.started, h.passed, h.reading⟩
        transmit := h.behind.transmit }
    have hsent : ∀ q : Stm32ClientRunner, Advances { t.runner with linkSession := link } q →
        q.motionSession = t.runner.motionSession →
        Behind q { t.stamps with heartbeat := now.nowAt } := by
      intro q hadvances hsession
      exact hbehind.keep hadvances (by rw [hsession]; exact ⟨rfl, rfl, rfl⟩)
    simp only [TimedRunner.sendHeartbeat, Stm32ClientRunner.sendHeartbeat, hsome,
      Option.isSome_some, if_true]
    split_ifs
    · exact ⟨⟨hsent _ ⟨rfl, le_rfl, rfl, rfl⟩ rfl, huses⟩, h.connected⟩
    · exact ⟨⟨hsent _ ⟨rfl, le_rfl, rfl, rfl⟩ rfl, huses⟩, h.connected⟩

/-- A handler of received frames that keeps the stamps behind the clock. -/
def Keeps (handler : ProtocolFrame → TimedRunner → Option Bool × TimedRunner) : Prop :=
  ∀ f t, Tracked t → t.runner.state ≠ .disconnected →
    Tracked (handler f t).2 ∧ (handler f t).2.runner.state ≠ .disconnected

theorem handleHeartbeatResponse_cases (l : Stm32LinkSession) (f : ProtocolFrame) (nowMs : UInt32) :
    (l.handleHeartbeatResponse f nowMs).1 = false ∧
        SameLink l (l.handleHeartbeatResponse f nowMs).2 ∨
      l.handleHeartbeatResponse f nowMs =
        (true, { l with heartbeatResponsePending := false, lastValidResponseMs := nowMs }) := by
  simp only [Stm32LinkSession.handleHeartbeatResponse]
  split_ifs
  all_goals first
    | exact .inr rfl
    | exact .inl ⟨rfl, id, rfl, rfl⟩
    | exact .inl ⟨rfl, by simp, rfl, rfl⟩

theorem settle_ackReceived (s : Stm32MotionSession) (result : MotionResponseResult) :
    (s.settle result).ackReceived = s.ackReceived := by
  rw [Stm32MotionSession.settle]
  split_ifs <;> rfl

/-- A response ends the pending transaction or changes nothing. -/
theorem handleMotionResponse_outcome (f : ProtocolFrame) (r : Stm32ClientRunner) :
    Advances r (r.handleMotionResponse f) ∧
      (r.handleMotionResponse f).motionSession.ackReceived = r.motionSession.ackReceived ∧
      ((r.handleMotionResponse f).motionSession = r.motionSession ∨
        (r.handleMotionResponse f).motionSession.transactionPending = false) := by
  rcases r.motionSession.handleResponse_cases f with hnone | ⟨result, hsome, -⟩
  · simp only [handleMotionResponse, hnone]
    exact ⟨.refl r, trivial, .inl trivial⟩
  · have hack := settle_ackReceived r.motionSession result
    simp only [handleMotionResponse, hsome]
    split_ifs <;> exact ⟨⟨rfl, le_rfl, rfl, rfl⟩, hack, .inr rfl⟩

theorem handleLinkSyncOk_cases (l : Stm32LinkSession) (f : ProtocolFrame) (nowMs : UInt32) :
    l.handleLinkSyncOk f nowMs = (false, l) ∨
      l.handleLinkSyncOk f nowMs = (true, { l with
        state := .synchronized
        lastHeartbeatTxMs := nowMs
        lastValidResponseMs := nowMs }) := by
  rw [Stm32LinkSession.handleLinkSyncOk]
  split_ifs
  all_goals first
    | exact .inl rfl
    | exact .inr rfl

/-- A reading of the clock in milliseconds of the epoch. -/
structure Reads (r : Stm32ClientRunner) (reading : UInt32 × Stm32ClientRunner) : Prop where
  advances : Advances r reading.2
  motionSession : reading.2.motionSession = r.motionSession
  ms : reading.1 = reading.2.elapsedMs reading.2.clock

theorem currentMs_reads (env : ℕ → ClientAnswer) (r : Stm32ClientRunner) :
    Reads r (r.currentMs env) :=
  ⟨now_advances env r, rfl, rfl⟩

theorem Reads.behind {reading : UInt32 × Stm32ClientRunner} (h : Reads r reading)
    (hr : Behind r stamps) : Behind reading.2 stamps :=
  hr.keep h.advances (by rw [h.motionSession]; exact ⟨rfl, rfl, rfl⟩)

/-- In a connected epoch the reading is a stamp of its own time. -/
theorem Reads.stamped {reading : UInt32 × Stm32ClientRunner} (h : Reads r reading)
    (hr : Behind r stamps) (hconnected : r.state ≠ .disconnected) :
    reading.2.state ≠ .disconnected ∧ Stamped reading.2 reading.2.clock reading.1 := by
  have hstill : reading.2.state ≠ .disconnected := h.advances.state ▸ hconnected
  exact ⟨hstill, (h.behind hr).epoch hstill, le_rfl, h.ms⟩

theorem handleSyncFrame_keeps : Keeps (handleSyncFrame env) := by
  intro f t h hconnected
  have hreads := currentMs_reads env t.runner
  simp only [handleSyncFrame, Stm32ClientRunner.handleSyncFrame]
  generalize t.runner.currentMs env = reading at hreads ⊢
  have hbehind := hreads.behind h.behind
  obtain ⟨hr, hstamped⟩ := hreads.stamped h.behind hconnected
  obtain ⟨nowMs, r⟩ := reading
  dsimp only at hbehind hr hstamped
  rcases handleLinkSyncOk_cases r.linkSession f nowMs with hrefused | haccepted
  · simp only [hrefused]
    exact ⟨h.follow hbehind, hr⟩
  · simp only [haccepted]
    refine ⟨h.follow ?_, by simp [follow]⟩
    exact ⟨fun _ => hbehind.epoch hr, fun _ => hstamped, fun _ => hstamped, hbehind.transmit⟩

/-- The part of the frame dispatch that concerns the motion session. -/
def handleMotion (f : ProtocolFrame) (nowMs : UInt32) (r : Stm32ClientRunner) : Stm32ClientRunner :=
  if (r.motionSession.handleAck f nowMs).1 then
    { r with motionSession := (r.motionSession.handleAck f nowMs).2 }
  else handleMotionResponse f { r with motionSession := (r.motionSession.handleAck f nowMs).2 }

/-- A first acknowledgement is stamped with the time of the frame, and a response ends the
transaction. -/
theorem Behind.handleMotion (h : Behind r stamps) {nowMs : UInt32}
    (hstamped : Stamped r r.clock nowMs) (f : ProtocolFrame) :
    Advances r (TimedRunner.handleMotion f nowMs r) ∧
      Behind (TimedRunner.handleMotion f nowMs r) { stamps with
        transmit :=
          if ¬ r.motionSession.ackReceived ∧
              (TimedRunner.handleMotion f nowMs r).motionSession.ackReceived then
            (TimedRunner.handleMotion f nowMs r).clock
          else stamps.transmit } := by
  rcases r.motionSession.handleAck_cases f nowMs with
    hrefused | ⟨hpending, ⟨hagain, hacked⟩ | ⟨hfirst, hunacked⟩⟩
  · obtain ⟨hadvances, hack, houtcome⟩ := handleMotionResponse_outcome f r
    have hrun : TimedRunner.handleMotion f nowMs r = r.handleMotionResponse f := by
      simp [TimedRunner.handleMotion, hrefused]
    rw [hrun, if_neg (by simp [hack])]
    refine ⟨hadvances, ?_⟩
    rcases houtcome with hsame | hended
    · exact h.keep hadvances (by rw [hsame]; exact ⟨rfl, rfl, rfl⟩)
    · exact h.advance hadvances stamps.transmit (by simp [hended])
  · have hrun : TimedRunner.handleMotion f nowMs r = r := by
      simp [TimedRunner.handleMotion, hagain]
    rw [hrun, if_neg (by simp [hacked])]
    exact ⟨.refl r, h⟩
  · have hrun : TimedRunner.handleMotion f nowMs r = { r with
        motionSession := { r.motionSession with ackReceived := true, lastTransmitMs := nowMs } } := by
      simp [TimedRunner.handleMotion, hfirst]
    rw [hrun, if_pos (by simp [hunacked])]
    have hadvances : Advances r { r with
        motionSession := { r.motionSession with ackReceived := true, lastTransmitMs := nowMs } } :=
      ⟨rfl, le_rfl, rfl, rfl⟩
    exact ⟨hadvances, h.advance hadvances r.clock fun _ _ => hstamped⟩

theorem handleFrame_eq (f : ProtocolFrame) (r : Stm32ClientRunner) :
    r.handleFrame env f =
      let (nowMs, r) := r.currentMs env
      let (accepted, link) := r.linkSession.handleHeartbeatResponse f nowMs
      let r := { r with linkSession := link }
      if accepted then (none, r)
      else if link.state = .disconnected then (some false, r)
      else (none, TimedRunner.handleMotion f nowMs r) := by
  simp only [Stm32ClientRunner.handleFrame, TimedRunner.handleMotion]
  split_ifs <;> rfl

theorem handleFrame_keeps : Keeps (handleFrame env) := by
  intro f t h hconnected
  have hreads := currentMs_reads env t.runner
  simp only [handleFrame, handleFrame_eq]
  generalize t.runner.currentMs env = reading at hreads ⊢
  have hbehind := hreads.behind h.behind
  obtain ⟨hr, hstamped⟩ := hreads.stamped h.behind hconnected
  have hsession := hreads.motionSession
  obtain ⟨nowMs, r⟩ := reading
  dsimp only at hbehind hr hstamped hsession ⊢
  rw [← hsession]
  rcases handleHeartbeatResponse_cases r.linkSession f nowMs with ⟨hrefused, hsame⟩ | haccepted
  · have hlinked := hbehind.withLink hsame
    generalize r.linkSession.handleHeartbeatResponse f nowMs = answer at hrefused hlinked ⊢
    obtain ⟨accepted, link⟩ := answer
    obtain rfl : accepted = false := hrefused
    simp only [Bool.false_eq_true, if_false] at hlinked ⊢
    by_cases hlost : link.state = .disconnected
    · rw [if_pos hlost, if_neg (by simp)]
      exact ⟨h.follow hlinked, hr⟩
    · rw [if_neg hlost]
      obtain ⟨hadvances, hmotion⟩ := hlinked.handleMotion hstamped f
      exact ⟨h.follow hmotion, fun hdown => hr (hadvances.state.symm.trans hdown)⟩
  · simp only [haccepted, if_true]
    rw [if_neg (by simp)]
    refine ⟨h.follow ?_, hr⟩
    exact ⟨hbehind.epoch, fun _ => hstamped, hbehind.heartbeat, hbehind.transmit⟩

variable {handler : ProtocolFrame → TimedRunner → Option Bool × TimedRunner}

theorem Tracked.feedBytes (hhandler : Keeps handler) (bytes : List UInt8) (h : Tracked t)
    (hconnected : t.runner.state ≠ .disconnected) :
    Tracked (TimedRunner.feedBytes handler t bytes).2 := by
  induction bytes generalizing t with
  | nil => exact h
  | cons byte rest ih =>
    rw [TimedRunner.feedBytes]
    generalize t.runner.decoder.feedByte byte = fed
    obtain ⟨reported, decoder⟩ := fed
    have hfed : Tracked { t with runner := { t.runner with decoder := decoder } } :=
      ⟨h.behind.keep ⟨rfl, le_rfl, rfl, rfl⟩ ⟨rfl, rfl, rfl⟩, h.uses⟩
    cases reported with
    | none => exact ih hfed hconnected
    | some f =>
      obtain ⟨hhandled, hstill⟩ := hhandler f _ hfed hconnected
      dsimp only
      generalize handler f { t with runner := { t.runner with decoder := decoder } } = handled
        at hhandled hstill ⊢
      obtain ⟨flow, q⟩ := handled
      cases flow with
      | none => exact ih hhandled hstill
      | some result => exact hhandled

theorem Tracked.receive (hhandler : Keeps handler) (h : Tracked t)
    (hconnected : t.runner.state ≠ .disconnected) :
    Tracked (TimedRunner.receive env handler t).2 := by
  have hkept : ∀ q : Stm32ClientRunner, Advances t.runner q →
      q.motionSession = t.runner.motionSession → Behind q t.stamps := by
    intro q hadvances hsession
    exact h.behind.keep hadvances (by rw [hsession]; exact ⟨rfl, rfl, rfl⟩)
  simp only [TimedRunner.receive]
  split_ifs
  · exact h.follow (hkept _ ⟨rfl, le_rfl, rfl, rfl⟩ rfl)
  · generalize (env (t.runner.calls + 1)).bytes = read
    cases read with
    | none => exact h.follow (hkept _ ⟨rfl, le_rfl, rfl, rfl⟩ rfl)
    | some bytes =>
      apply Tracked.feedBytes hhandler bytes
      · exact ⟨hkept _ ⟨rfl, le_rfl, rfl, rfl⟩ rfl, h.uses⟩
      · exact hconnected
  · exact ⟨hkept _ ⟨rfl, le_rfl, rfl, rfl⟩ rfl, h.uses⟩

theorem andThen_keeps {P Q : TimedRunner → Prop} {p : Option Bool × TimedRunner}
    {stage : TimedRunner → Option Bool × TimedRunner} (hp : P p.2) (hended : ∀ t, P t → Q t)
    (hstage : ∀ t, P t → Q (stage t).2) : Q (andThen p stage).2 := by
  obtain ⟨flow, t⟩ := p
  cases flow with
  | none => exact hstage t hp
  | some result => exact hended t hp

theorem InIteration.tracked (h : InIteration now t) :
    Tracked t ∧ t.runner.state ≠ .disconnected :=
  ⟨⟨h.behind, h.uses⟩, h.connected⟩

/-- The stages of an iteration up to the heartbeat. -/
theorem InIteration.stages (h : InIteration now t) (hclock : t.runner.clock = now.nowAt) :
    let p := andThen (TimedRunner.checkTimeouts now t) (TimedRunner.retryMotion env now)
    let p := andThen p (TimedRunner.startMotion env)
    let p := andThen p (TimedRunner.driveMotion env)
    let p := andThen p (TimedRunner.sendHeartbeat env now)
    Tracked p.2 ∧ p.2.runner.state ≠ .disconnected := by
  intro p₁ p₂ p₃ p₄
  have hretried : InIteration now p₁.2 :=
    andThen_keeps (P := fun t => InIteration now t ∧ t.runner.clock = now.nowAt)
      (h.checkTimeouts hclock) (fun t ht => ht.1) fun t ht => ht.1.retryMotion ht.2
  have hstarted : InIteration now p₂.2 :=
    andThen_keeps hretried (fun t ht => ht) fun t ht => ht.startMotion
  have hdriven : InIteration now p₃.2 :=
    andThen_keeps hstarted (fun t ht => ht) fun t ht => ht.driveMotion
  exact andThen_keeps (Q := fun t => Tracked t ∧ t.runner.state ≠ .disconnected) hdriven
    (fun t ht => ht.tracked) fun t ht => ht.sendHeartbeat

theorem Tracked.runSynchronizedIteration (h : Tracked t)
    (hconnected : t.runner.state ≠ .disconnected) :
    Tracked (TimedRunner.runSynchronizedIteration env t).2 := by
  have hreads := currentMs_reads env t.runner
  simp only [TimedRunner.runSynchronizedIteration]
  generalize t.runner.currentMs env = reading at hreads ⊢
  have hbehind := hreads.behind h.behind
  obtain ⟨hr, hstarted, hpassed, hms⟩ := hreads.stamped h.behind hconnected
  obtain ⟨nowMs, r⟩ := reading
  dsimp only at hbehind hr hstarted hpassed hms ⊢
  have hbegin : InIteration { nowAt := r.clock, nowMs := nowMs } { t with runner := r } :=
    ⟨hbehind, hr, h.uses, hstarted, hpassed, hms, fun hlink => (hbehind.heartbeat hlink).2.1⟩
  exact andThen_keeps (P := fun t => Tracked t ∧ t.runner.state ≠ .disconnected)
    (hbegin.stages rfl) (fun t ht => ht.1) fun t ht => ht.1.receive handleFrame_keeps ht.2

theorem Tracked.runSynchronizingIteration (h : Tracked t)
    (hconnected : t.runner.state ≠ .disconnected) :
    Tracked (TimedRunner.runSynchronizingIteration env t).2 := by
  have hnow : Tracked { t with runner := (t.runner.now env).2 } :=
    ⟨h.behind.keep (now_advances env t.runner) ⟨rfl, rfl, rfl⟩, h.uses⟩
  simp only [TimedRunner.runSynchronizingIteration]
  split_ifs
  · exact hnow
  · exact hnow.receive handleSyncFrame_keeps hconnected

/-- Without a link and without a transaction no stamp is in use. -/
theorem Behind.unused (hlink : r.linkSession.state ≠ .synchronized)
    (hpending : r.motionSession.transactionPending = false)
    (hepoch : r.state ≠ .disconnected → r.epochStart ≤ r.clock) : Behind r stamps :=
  ⟨hepoch, fun h => absurd h hlink, fun h => absurd h hlink, fun h => by simp [hpending] at h⟩

theorem endEpoch_behind (r : Stm32ClientRunner) : Behind (r.endEpoch env) stamps :=
  Behind.unused (by simp [endEpoch, scheduleReconnect, disconnectCurrentEpoch,
    Stm32ClientRunner.now, Stm32LinkSession.disconnect]) rfl (fun h => absurd rfl h)

theorem beginConnectionEpoch_behind (h : Behind r stamps) :
    Behind (r.beginConnectionEpoch env).2 stamps := by
  simp only [beginConnectionEpoch]
  split_ifs
  · refine Behind.unused ?_ rfl fun _ => ?_
    · simp [Stm32ClientRunner.now, sendFrame, Stm32LinkSession.beginSynchronization, emit]
    · exact (now_advances env _).clock
  · exact Behind.unused (by simp [scheduleReconnect, Stm32ClientRunner.now,
      Stm32LinkSession.disconnect]) rfl (fun h => absurd rfl h)
  · exact h.keep ⟨rfl, (now_advances env _).clock, rfl, rfl⟩ ⟨rfl, rfl, rfl⟩

theorem Tracked.poll (h : Tracked t) : Tracked (TimedRunner.poll env t) := by
  rw [TimedRunner.poll]
  cases hstate : t.runner.state with
  | synchronized =>
    have hiteration : Tracked (t.runSynchronizedIteration env).2 :=
      h.runSynchronizedIteration (by simp [hstate])
    dsimp only
    split_ifs
    · exact hiteration
    · exact ⟨endEpoch_behind _, hiteration.uses⟩
  | synchronizing =>
    have hiteration : Tracked (t.runSynchronizingIteration env).2 :=
      h.runSynchronizingIteration (by simp [hstate])
    dsimp only
    split_ifs
    · exact hiteration
    · exact hiteration
    · exact ⟨endEpoch_behind _, hiteration.uses⟩
  | disconnected =>
    refine ⟨?_, h.uses⟩
    simp only [Stm32ClientRunner.poll, hstate]
    have hnow : Behind (t.runner.now env).2 t.stamps :=
      h.behind.keep (now_advances env t.runner) ⟨rfl, rfl, rfl⟩
    split_ifs
    · exact hnow
    · exact beginConnectionEpoch_behind (hnow.keep ⟨rfl, le_rfl, rfl, rfl⟩ ⟨rfl, rfl, rfl⟩)

theorem Tracked.run (h : Tracked t) (calls : List ClientCall) :
    Tracked (TimedRunner.run env t calls) := by
  induction calls generalizing t with
  | nil => exact h
  | cons call calls ih =>
    apply ih
    cases call with
    | setWheelCommand command =>
      exact ⟨h.behind.keep ⟨rfl, (now_advances env t.runner).clock, rfl, rfl⟩ ⟨rfl, rfl, rfl⟩, h.uses⟩
    | poll => exact h.poll

theorem initial_tracked (clock : ℤ) : Tracked { runner := { clock := clock } } :=
  ⟨Behind.unused (by simp) rfl (fun h => absurd rfl h), by simp⟩

end TimedRunner

/-- The unsigned difference is the true one, and a timeout seen through it has really passed. -/
theorem TimestampUse.Sound.elapsed {u : TimestampUse} (h : u.Sound) :
    (u.nowMs - u.storedMs).toNat =
        (msSince u.epochStart u.nowAt - msSince u.epochStart u.storedAt) % 2 ^ 32 ∧
      ∀ timeout, timeout ≤ u.nowMs - u.storedMs →
        timeout.toNat ≤ msSince u.epochStart u.nowAt - msSince u.epochStart u.storedAt := by
  obtain ⟨hstart, hle, hstored, hnow⟩ := h
  have hforward : msSince u.epochStart u.storedAt ≤ msSince u.epochStart u.nowAt :=
    Nat.div_le_div_right (Int.toNat_le_toNat (by omega))
  have helapsed : (u.nowMs - u.storedMs).toNat =
      (msSince u.epochStart u.nowAt - msSince u.epochStart u.storedAt) % 2 ^ 32 := by
    rw [hstored, hnow, WrappingClocks.toNat_elapsed hforward]
  refine ⟨helapsed, fun timeout htimeout => ?_⟩
  calc timeout.toNat ≤ (u.nowMs - u.storedMs).toNat := UInt32.le_iff_toNat_le.mp htimeout
    _ = (msSince u.epochStart u.nowAt - msSince u.epochStart u.storedAt) % 2 ^ 32 := helapsed
    _ ≤ msSince u.epochStart u.nowAt - msSince u.epochStart u.storedAt := Nat.mod_le _ _

/-- The runner with its stamps is the runner of the code, and whenever it uses a stored time
stamp, that is not ahead of the present time. -/
theorem timestamps_never_run_ahead (env : ℕ → ClientAnswer) (clock : ℤ)
    (calls : List Stm32ClientRunner.ClientCall) :
    (TimedRunner.run env { runner := { clock := clock } } calls).runner =
        Stm32ClientRunner.run env { clock := clock } calls ∧
      ∀ u ∈ (TimedRunner.run env { runner := { clock := clock } } calls).uses,
        u.epochStart ≤ u.storedAt ∧ u.storedAt ≤ u.nowAt ∧
        u.storedMs = UInt32.ofNat (msSince u.epochStart u.storedAt) ∧
        u.nowMs = UInt32.ofNat (msSince u.epochStart u.nowAt) ∧
        (u.nowMs - u.storedMs).toNat =
          (msSince u.epochStart u.nowAt - msSince u.epochStart u.storedAt) % 2 ^ 32 ∧
        ∀ timeout, timeout ≤ u.nowMs - u.storedMs →
          timeout.toNat ≤ msSince u.epochStart u.nowAt - msSince u.epochStart u.storedAt := by
  refine ⟨TimedRunner.run_runner _ calls, fun u hu => ?_⟩
  have hsound := ((TimedRunner.initial_tracked clock).run calls).uses u hu
  exact ⟨hsound.1, hsound.2.1, hsound.2.2.1, hsound.2.2.2, hsound.elapsed⟩

/-- The first synchronized iteration tests the link timeout and the heartbeat. -/
example : (TimedRunner.run Stm32ClientRunner.grantingBoard { runner := { clock := 5 } }
    [.poll, .poll, .poll]).uses.map TimestampUse.storedAt = [10, 10] := by
  decide +kernel

end IndoorRobot
