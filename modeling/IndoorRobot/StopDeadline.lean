import IndoorRobot.ManagerAlignment
import IndoorRobot.StopVerifierHistory

/-!
# The deadline of a physical stop

Once the confirmation of a stop has begun, frames may be handled in any number: the
operation under confirmation and the time it started stay as they are, no other stop is
asked for, and the first update past the deadline completes it.
-/
namespace IndoorRobot

namespace MotionSystem

open MotionLifecycleCoordinator MotionResponseResult Stm32MotionProtocolManagerResult

section Calls
variable (env : ℕ → PortAnswer)

/-- The board after the guard's part of an update. -/
def guarded (nowMs : UInt32) (m : MotionSystem) : MotionSystem :=
  { m with board := (motionCommandGuardUpdate env nowMs m.board).2 }

/-- The call is an update whose verifier reports the pending stop as completed. -/
def CompletesStop (m : MotionSystem) : Call → Prop
  | .update nowMs =>
    (motionCommandGuardUpdate env nowMs m.board).1 ≠ .stopFailed ∧
      m.manager.pendingStopOperationId ≠ 0 ∧
      (motionStopUpdate env nowMs ((m.guarded env nowMs).beginConfirmation env nowMs).2.stop
        ((m.guarded env nowMs).beginConfirmation env nowMs).2.board).1.completed = true
  | _ => False

/-- Calls without a reset and without the completion of the pending stop. -/
def Uninterrupted (m : MotionSystem) (calls : List Call) : Prop :=
  ∀ before call after, calls = before ++ call :: after →
    call ≠ .reset ∧ ¬ CompletesStop env (run env m before) call

end Calls

/-- The confirmation of an operation has been running since `startedAt`. -/
structure Confirming (operationId startedAt : UInt32) (m : MotionSystem) : Prop where
  aligned : m.Aligned
  active : m.stop.active = true
  operation : m.stop.operationId = operationId
  started : m.stop.startedAtMs = startedAt

variable {env : ℕ → PortAnswer} {operationId startedAt : UInt32} {m : MotionSystem}

theorem observe_startedAtMs (s : MotionStop) (counts : WheelEncoderCounts) (nowMs : UInt32) :
    (s.observe counts nowMs).startedAtMs = s.startedAtMs := by
  rw [MotionStop.observe]
  split_ifs <;> rfl

theorem Confirming.pending (h : Confirming operationId startedAt m) :
    m.manager.pendingStopOperationId = operationId :=
  (h.aligned.operation_eq h.active).symm.trans h.operation

theorem Confirming.pending_ne_zero (h : Confirming operationId startedAt m) :
    m.manager.pendingStopOperationId ≠ 0 :=
  h.aligned.started (h.aligned.active_eq.symm.trans h.active)

theorem Confirming.withBoard (h : Confirming operationId startedAt m) (board : Board) :
    Confirming operationId startedAt { m with board := board } :=
  ⟨h.aligned.withBoard board, h.active, h.operation, h.started⟩

/-- The confirmation is not begun again. -/
theorem Confirming.beginConfirmation (h : Confirming operationId startedAt m)
    (env : ℕ → PortAnswer) (nowMs : UInt32) : (m.beginConfirmation env nowMs).2 = m := by
  rw [MotionSystem.beginConfirmation, if_pos (h.aligned.active_eq.symm.trans h.active)]

/-- While a stop is confirmed no transaction asks for another one. -/
theorem Confirming.noOperation (h : Confirming operationId startedAt m) (t : MotionTransaction) :
    (m.manager.coordinator.handleTransaction t).1.operation = .none := by
  obtain ⟨hnone, -⟩ | ⟨-, hfree, -⟩ := handleTransaction_operation h.aligned.coherent t
  · exact hnone
  · exact absurd (h.aligned.pending_eq.trans hfree) h.pending_ne_zero

theorem Confirming.handle (h : Confirming operationId startedAt m) (frame : ProtocolFrame)
    (linkSynchronized : Bool) (nowMs : UInt32) :
    Confirming operationId startedAt (MotionSystem.handle env frame linkSynchronized nowMs m).2 := by
  have haligned := h.aligned.handle env frame linkSynchronized nowMs
  have hout := handle_outcome env frame linkSynchronized nowMs m
  generalize (MotionSystem.handle env frame linkSynchronized nowMs m).2 = out at haligned hout ⊢
  cases hout with
  | ignored => exact h
  | wheel command _ _ _ => exact h.withBoard _
  | command _ _ =>
    have hnone := h.noOperation frame.transaction
    obtain ⟨events, -, ⟨-, hsame⟩ | ⟨hstop, -⟩⟩ := processAction_cases env
      (m.manager.coordinator.handleTransaction frame.transaction).1
      { m with manager := { m.manager with
          coordinator := (m.manager.coordinator.handleTransaction frame.transaction).2 } }
    · refine ⟨haligned, ?_, ?_, ?_⟩
      · rw [hsame]
        exact h.active
      · rw [hsame]
        exact h.operation
      · rw [hsame]
        exact h.started
    · rw [hnone] at hstop
      cases hstop

/-- A verifier that does not report a completion is still active. -/
theorem advanceConfirmation_waiting {nowMs : UInt32}
    (h : (motionStopUpdate env nowMs m.stop m.board).1.completed = false) :
    (advanceConfirmation env nowMs m).2 =
      { m with
        stop := (motionStopUpdate env nowMs m.stop m.board).2.1
        board := (motionStopUpdate env nowMs m.stop m.board).2.2 } := by
  rw [advanceConfirmation]
  simp only [h, Bool.false_eq_true, not_false_eq_true, if_true]

theorem motionStopUpdate_waiting {nowMs : UInt32} {s : MotionStop} {b : Board}
    (hactive : s.active = true) (h : (motionStopUpdate env nowMs s b).1.completed = false) :
    (motionStopUpdate env nowMs s b).2.1 = s.observe (wheelEncoderRead env nowMs b).1 nowMs := by
  rw [motionStopUpdate_active env nowMs b hactive rfl] at h ⊢
  split_ifs at h ⊢
  rfl

theorem Confirming.advanceConfirmation (h : Confirming operationId startedAt m) {nowMs : UInt32}
    (hwaiting : (motionStopUpdate env nowMs m.stop m.board).1.completed = false) :
    Confirming operationId startedAt (MotionSystem.advanceConfirmation env nowMs m).2 := by
  have haligned := h.aligned.advanceConfirmation env nowMs h.active
  rw [advanceConfirmation_waiting hwaiting, motionStopUpdate_waiting h.active hwaiting] at haligned ⊢
  refine ⟨haligned, ?_, ?_, ?_⟩
  · exact (observe_active _ _ _).trans h.active
  · exact (observe_operationId _ _ _).trans h.operation
  · exact (observe_startedAtMs _ _ _).trans h.started

theorem Confirming.update (h : Confirming operationId startedAt m) {nowMs : UInt32}
    (hwaiting : ¬ CompletesStop env m (.update nowMs)) :
    Confirming operationId startedAt (MotionSystem.update env nowMs m).2 := by
  have hguarded := h.withBoard (motionCommandGuardUpdate env nowMs m.board).2
  have hbegin := hguarded.beginConfirmation env nowMs
  rcases update_cases env nowMs m h.aligned.initialized with
    ⟨-, hupdate⟩ | ⟨hguard, ⟨hfree, -⟩ | ⟨hp, -, hupdate⟩⟩
  · rw [hupdate]
    exact hguarded
  · exact absurd hfree h.pending_ne_zero
  · rw [hupdate, hbegin]
    apply hguarded.advanceConfirmation
    by_contra hcompleted
    refine hwaiting ⟨hguard, hp, ?_⟩
    rw [guarded, hbegin]
    simpa using hcompleted

theorem Confirming.step (h : Confirming operationId startedAt m) {call : Call}
    (hreset : call ≠ .reset) (hwaiting : ¬ CompletesStop env m call) :
    Confirming operationId startedAt (MotionSystem.step env m call) := by
  cases call with
  | handle frame linkSynchronized nowMs => exact h.handle frame linkSynchronized nowMs
  | update nowMs => exact h.update hwaiting
  | reset => exact absurd rfl hreset
  | otherModules board => exact h.withBoard board

theorem Confirming.run (h : Confirming operationId startedAt m) (calls : List Call)
    (hcalls : Uninterrupted env m calls) :
    Confirming operationId startedAt (MotionSystem.run env m calls) := by
  induction calls using List.reverseRecOn with
  | nil => exact h
  | append_singleton calls call ih =>
    obtain ⟨hreset, hwaiting⟩ := hcalls calls call [] rfl
    rw [run_concat]
    refine (ih ?_).step hreset hwaiting
    intro before earlier after hsplit
    exact hcalls before earlier (after ++ [call]) (by rw [hsplit]; simp)

/-- The update that starts the confirmation fixes its operation and its time. -/
theorem Aligned.confirming (h : m.Aligned) {nowMs : UInt32}
    (hbefore : m.manager.stopConfirmationStarted = false)
    (hstarted : (MotionSystem.update env nowMs m).2.manager.stopConfirmationStarted = true) :
    Confirming m.manager.pendingStopOperationId nowMs (MotionSystem.update env nowMs m).2 := by
  have haligned := h.update env nowMs
  rcases update_cases env nowMs m h.initialized with
    ⟨-, hupdate⟩ | ⟨-, ⟨-, hupdate⟩ | ⟨hp, -, hupdate⟩⟩
  · rw [hupdate] at hstarted
    exact absurd (hbefore.symm.trans hstarted) (by simp)
  · rw [hupdate] at hstarted
    exact absurd (hbefore.symm.trans hstarted) (by simp)
  have hguarded := h.withBoard (motionCommandGuardUpdate env nowMs m.board).2
  obtain ⟨hbegun, hactive, -⟩ := hguarded.beginConfirmation env nowMs hp
  have hbegin : (MotionSystem.beginConfirmation env nowMs
      { m with board := (motionCommandGuardUpdate env nowMs m.board).2 }).2.stop.startedAtMs =
        nowMs ∧
      (MotionSystem.beginConfirmation env nowMs
        { m with board := (motionCommandGuardUpdate env nowMs m.board).2 }).2.stop.operationId =
        m.manager.pendingStopOperationId := by
    rw [MotionSystem.beginConfirmation, if_neg (by simp [hbefore]), motionStopBegin, if_neg hp]
    exact ⟨rfl, rfl⟩
  rw [hupdate] at haligned hstarted ⊢
  obtain ⟨counts, hadvance | ⟨result, sent, -, -, hadvance⟩⟩ :=
    hbegun.advance_cases env nowMs hactive
  · rw [hadvance] at haligned ⊢
    refine ⟨haligned, ?_, ?_, ?_⟩
    · exact (observe_active _ _ _).trans hactive
    · exact (observe_operationId _ _ _).trans hbegin.2
    · exact (observe_startedAtMs _ _ _).trans hbegin.1
  · rw [hadvance] at hstarted
    cases hstarted

/-- Past the deadline the verifier reports a failure, whatever the counters say. -/
theorem motionStopUpdate_deadline (env : ℕ → PortAnswer) {nowMs : UInt32} {s : MotionStop}
    (b : Board) (hactive : s.active = true) (hlate : nowMs - s.startedAtMs ≥ 1000) :
    (motionStopUpdate env nowMs s b).1 =
      { completed := true, operationId := s.operationId, result := .failed } := by
  rw [motionStopUpdate_active env nowMs b hactive rfl, if_pos (by rwa [observe_startedAtMs]),
    observe_operationId]

/-- A verifier that reports a failure is not waited for. -/
theorem advanceConfirmation_failed (m : MotionSystem) {nowMs operationId : UInt32}
    (h : (motionStopUpdate env nowMs m.stop m.board).1 =
      { completed := true, operationId := operationId, result := .failed }) :
    (advanceConfirmation env nowMs m).1 ≠ .stopPending := by
  rw [advanceConfirmation]
  generalize motionStopUpdate env nowMs m.stop m.board = verdict at h
  obtain ⟨completion, stop, board⟩ := verdict
  cases h
  simp only [not_true_eq_false, if_false, reduceCtorEq]
  split_ifs with hsent
  · rw [hsent]
    simp
  · simp

/-- An update past the deadline that gets beyond the guard. -/
theorem Confirming.deadline (h : Confirming operationId startedAt m) {nowMs : UInt32}
    (hguard : (motionCommandGuardUpdate env nowMs m.board).1 ≠ .stopFailed)
    (hlate : nowMs - startedAt ≥ 1000) :
    CompletesStop env m (.update nowMs) ∧
      (MotionSystem.update env nowMs m).2.manager.coordinator =
        (m.manager.coordinator.completeOperation operationId .failed).2 ∧
      ∃ before sent, (MotionSystem.update env nowMs m).2.board.log = before ++
        [.transmit (motionResponseFrame m.manager.coordinator.reliableReceiver.pendingTransaction
          stopFailed) sent] := by
  have hguarded := h.withBoard (motionCommandGuardUpdate env nowMs m.board).2
  have hbegin := hguarded.beginConfirmation env nowMs
  have hstarted : nowMs - m.stop.startedAtMs ≥ 1000 := by rwa [h.started]
  have hverdict := motionStopUpdate_deadline env (motionCommandGuardUpdate env nowMs m.board).2
    h.active hstarted
  constructor
  · refine ⟨hguard, h.pending_ne_zero, ?_⟩
    rw [guarded, hbegin, hverdict]
  rcases update_cases env nowMs m h.aligned.initialized with
    ⟨hfailed, -⟩ | ⟨-, ⟨hfree, -⟩ | ⟨-, -, hupdate⟩⟩
  · exact absurd hfailed hguard
  · exact absurd hfree h.pending_ne_zero
  rw [hbegin] at hupdate
  rw [hupdate]
  have hanswered := advanceConfirmation_failed
    { m with board := (motionCommandGuardUpdate env nowMs m.board).2 } hverdict
  obtain ⟨counts, hadvance | ⟨result, sent, hsuccess, -, hadvance⟩⟩ :=
    hguarded.aligned.advance_cases env nowMs hguarded.active
  · rw [hadvance] at hanswered
    exact absurd rfl hanswered
  · cases result with
    | success =>
      have hearly := (hsuccess rfl).1
      rw [observe_startedAtMs] at hearly
      exact absurd hstarted (UInt32.not_le.mpr hearly)
    | failed =>
      rw [hadvance]
      refine ⟨?_, _, sent, rfl⟩
      simp only [h.operation]

/-- Whatever is handled meanwhile, a confirmation that began at `startedAt` keeps its operation and
its start, no other stop is asked for, and the first update past the deadline that the guard lets
through completes it and answers the transaction that owns it by then. -/
theorem stop_deadline_cannot_be_extended (env : ℕ → PortAnswer)
    (config : WheelVelocityFeedforwardConfig)
    (hinit : (Stm32MotionProtocolManager.init config).1 = true) (board : Board)
    (calls : List Call) (startedAt : UInt32)
    (hbefore : (run env (boot config board) calls).manager.stopConfirmationStarted = false)
    (hstarted : (run env (boot config board)
      (calls ++ [.update startedAt])).manager.stopConfirmationStarted = true)
    (more : List Call)
    (hmore : Uninterrupted env (run env (boot config board) (calls ++ [.update startedAt])) more) :
    let operationId := (run env (boot config board) calls).manager.pendingStopOperationId
    let m := run env (boot config board) (calls ++ [.update startedAt] ++ more)
    m.stop.startedAtMs = startedAt ∧ m.stop.operationId = operationId ∧
      m.manager.pendingStopOperationId = operationId ∧ m.stop.active = true ∧
      (∀ t, (m.manager.coordinator.handleTransaction t).1.operation = .none) ∧
      ∀ nowMs, (motionCommandGuardUpdate env nowMs m.board).1 ≠ .stopFailed →
        nowMs - startedAt ≥ 1000 →
          let done := (update env nowMs m).2
          CompletesStop env m (.update nowMs) ∧
            done.manager.pendingStopOperationId = 0 ∧
            done.manager.coordinator.state ≠ .starting ∧
            done.manager.coordinator.state ≠ .ending ∧
            ∃ before sent, done.board.log = before ++
              [.transmit (motionResponseFrame
                m.manager.coordinator.reliableReceiver.pendingTransaction stopFailed) sent] := by
  intro operationId m
  have haligned := (boot_aligned hinit board).run env calls
  rw [run_concat] at hstarted hmore
  have hsplit : m = run env (step env (run env (boot config board) calls) (.update startedAt))
      more := by
    rw [← run_concat]
    exact List.foldl_append
  have hconfirming : Confirming operationId startedAt m := by
    rw [hsplit]
    exact (haligned.confirming hbefore hstarted).run more hmore
  refine ⟨hconfirming.started, hconfirming.operation, hconfirming.pending, hconfirming.active,
    hconfirming.noOperation, ?_⟩
  intro nowMs hguard hlate done
  obtain ⟨hcompletes, hcoordinator, hanswer⟩ := hconfirming.deadline hguard hlate
  have haccepted := completeOperation_accepted _ _ .failed
    (hconfirming.aligned.completes hconfirming.active)
  rw [hconfirming.operation] at haccepted
  have hdone : done.manager.coordinator.activeOperationId = 0 ∧
      done.manager.coordinator.state = .noSession := by
    rw [show done.manager.coordinator = _ from hcoordinator, haccepted]
    simp [completionState]
  refine ⟨hcompletes, ?_, ?_, ?_, hanswer⟩
  · rw [(hconfirming.aligned.update env nowMs).pending_eq]
    exact hdone.1
  · simp [hdone.2]
  · simp [hdone.2]

/-- A START whose stop is under confirmation, and the same command repeated after it. -/
theorem stop_deadline_cannot_be_extended_repeated_start :
    let start := Call.handle (motionLifecycleCommandFrame
      { sequence := 1, command := .startSession, motionSessionId := 7 }) true 10
    let m := run (fun _ => {}) (boot { maxVelocityMmS := 400, minimumStartCommand := 50 }
      workingBoard) [start, .update 20, start, start]
    m.stop.startedAtMs = 20 ∧
      CompletesStop (fun _ => {}) m (.update 1020) := by
  intro start m
  have hmore : Uninterrupted (fun _ => {}) (run (fun _ => {})
      (boot { maxVelocityMmS := 400, minimumStartCommand := 50 } workingBoard)
      ([start] ++ [.update 20])) [start, start] := by
    intro before call after hsplit
    have hcall : call ∈ [start, start] := by
      rw [hsplit]
      simp
    obtain rfl : call = start := by simpa using hcall
    exact ⟨nofun, id⟩
  have h := stop_deadline_cannot_be_extended (fun _ => {})
    { maxVelocityMmS := 400, minimumStartCommand := 50 } (by decide) workingBoard [start] 20
    (by decide) (by decide) [start, start] hmore
  exact ⟨h.1, (h.2.2.2.2.2 1020 (by decide) (by decide)).1⟩

end MotionSystem

end IndoorRobot
