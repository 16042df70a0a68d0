import IndoorRobot.MotionProtocolManager
import Mathlib.Data.List.Induction

/-!
# Manager, coordinator and stop verifier stay aligned

One physical stop is tracked in three places: the coordinator's active operation,
the manager's pending operation and the state of the verifier. `Aligned` relates
the three; every entry point preserves it, whatever the ports answer and whatever
the rest of the firmware does to the board between two calls.
-/
namespace IndoorRobot

namespace MotionSystem

open MotionLifecycleCoordinator Stm32MotionProtocolManagerResult

/-- A call of the manager, or anything at all happening to the board. -/
inductive Call where
  | handle (frame : ProtocolFrame) (linkSynchronized : Bool) (nowMs : UInt32)
  | update (nowMs : UInt32)
  | reset
  | otherModules (board : Board)

def step (env : ℕ → PortAnswer) (m : MotionSystem) : Call → MotionSystem
  | .handle frame linkSynchronized nowMs => (handle env frame linkSynchronized nowMs m).2
  | .update nowMs => (update env nowMs m).2
  | .reset => m.reset
  | .otherModules board => { m with board := board }

def run (env : ℕ → PortAnswer) (m : MotionSystem) (calls : List Call) : MotionSystem :=
  calls.foldl (step env) m

/-- Power-up: the verifier's static state is zero and the manager is initialised. -/
def boot (config : WheelVelocityFeedforwardConfig) (board : Board) : MotionSystem :=
  { board := board, manager := (Stm32MotionProtocolManager.init config).2 }

@[simp] theorem run_nil (env : ℕ → PortAnswer) (m : MotionSystem) : run env m [] = m := rfl

@[simp] theorem run_concat (env : ℕ → PortAnswer) (m : MotionSystem) (calls : List Call) (x : Call) :
    run env m (calls ++ [x]) = step env (run env m calls) x := by
  simp [run]

/-- The three records of the physical stop agree. -/
structure Aligned (m : MotionSystem) : Prop where
  initialized : m.manager.initialized = true
  coherent : m.manager.coordinator.Coherent
  pending_eq : m.manager.pendingStopOperationId = m.manager.coordinator.activeOperationId
  active_eq : m.stop.active = m.manager.stopConfirmationStarted
  operation_eq : m.stop.active = true → m.stop.operationId = m.manager.pendingStopOperationId
  started : m.manager.stopConfirmationStarted = true → m.manager.pendingStopOperationId ≠ 0

theorem init_succeeds {config : WheelVelocityFeedforwardConfig}
    (h : (Stm32MotionProtocolManager.init config).1 = true) :
    (Stm32MotionProtocolManager.init config).2 =
      { coordinator := .init, feedforwardConfig := config, initialized := true } := by
  rw [Stm32MotionProtocolManager.init] at h ⊢
  split_ifs at h ⊢ with hc
  rfl

theorem boot_aligned {config : WheelVelocityFeedforwardConfig}
    (h : (Stm32MotionProtocolManager.init config).1 = true) (board : Board) :
    (boot config board).Aligned := by
  rw [boot]
  rw [init_succeeds h]
  exact ⟨rfl, init_coherent, rfl, rfl, by simp, by simp⟩

/-- An active session has no stop to wait for. -/
theorem Aligned.idle_of_active {m : MotionSystem} (h : m.Aligned)
    (hstate : m.manager.coordinator.state = .active) :
    m.manager.pendingStopOperationId = 0 ∧ m.stop.active = false := by
  have hfree : m.manager.pendingStopOperationId = 0 := by
    rw [h.pending_eq]
    by_contra hne
    have hstopping := h.coherent.operation_iff.mp hne
    simp [hstate, MotionLifecycleState.stopping] at hstopping
  refine ⟨hfree, ?_⟩
  rw [h.active_eq]
  by_contra hstarted
  exact h.started (by simpa using hstarted) hfree

/-- Only the manager and the verifier matter for the alignment. -/
theorem Aligned.withBoard {m : MotionSystem} (h : m.Aligned) (board : Board) :
    Aligned { m with board := board } :=
  ⟨h.initialized, h.coherent, h.pending_eq, h.active_eq, h.operation_eq, h.started⟩

theorem Aligned.reset {m : MotionSystem} (h : m.Aligned) : m.reset.Aligned := by
  rw [MotionSystem.reset, if_neg (by simp [h.initialized])]
  exact ⟨h.initialized, reset_coherent _, rfl, rfl, by simp, by simp⟩

/-- The coordinator and the action it hands to `process_action`. A new operation is
always the one just made active; without one the active operation is unchanged. -/
theorem handleTransaction_operation {c : MotionLifecycleCoordinator} (h : c.Coherent)
    (t : MotionTransaction) :
    (c.handleTransaction t).1.operation = .none ∧
        (c.handleTransaction t).2.activeOperationId = c.activeOperationId ∨
      (c.handleTransaction t).1.operation = .ensureStopped ∧ c.activeOperationId = 0 ∧
        (c.handleTransaction t).1.operationId = (c.handleTransaction t).2.activeOperationId := by
  by_cases hnew : c.reliableReceiver.classify t = .new
  · have hout := handleTransaction_outcome c t hnew
    generalize c.handleTransaction t = out at hout ⊢
    cases hout with
    | immediate result _ _ => exact .inl ⟨rfl, rfl⟩
    | request state sessionId hfree _ =>
      refine .inr ⟨rfl, ?_, rfl⟩
      by_contra hne
      simp [h.operation_iff.mp hne] at hfree
    | transfer state sessionId _ _ => exact .inl ⟨rfl, rfl⟩
  · refine .inl ⟨?_, by rw [handleTransaction_unchanged c t hnew]⟩
    rw [handleTransaction]
    cases hd : c.reliableReceiver.classify t with
    | new => exact absurd hd hnew
    | _ => rfl

theorem Aligned.handle {m : MotionSystem} (h : m.Aligned) (env : ℕ → PortAnswer)
    (frame : ProtocolFrame) (linkSynchronized : Bool) (nowMs : UInt32) :
    (MotionSystem.handle env frame linkSynchronized nowMs m).2.Aligned := by
  have hout := handle_outcome env frame linkSynchronized nowMs m
  generalize (MotionSystem.handle env frame linkSynchronized nowMs m).2 = out at hout
  cases hout with
  | ignored => exact h
  | wheel command _ _ _ => exact h.withBoard _
  | command _ _ =>
    have hcoherent := h.coherent.handleTransaction frame.transaction
    have hoperation := handleTransaction_operation h.coherent frame.transaction
    generalize m.manager.coordinator.handleTransaction frame.transaction = handled at *
    obtain ⟨events, _, ⟨hnone, hsame⟩ | ⟨hstop, hsame⟩⟩ := processAction_cases env handled.1
      { m with manager := { m.manager with coordinator := handled.2 } }
    · have hid : handled.2.activeOperationId = m.manager.coordinator.activeOperationId := by
        simpa [hnone] using hoperation
      rw [hsame]
      exact ⟨h.initialized, hcoherent, h.pending_eq.trans hid.symm, h.active_eq, h.operation_eq,
        h.started⟩
    · have hid : m.manager.coordinator.activeOperationId = 0 ∧
          handled.1.operationId = handled.2.activeOperationId := by simpa [hstop] using hoperation
      have hidle : m.stop.active = false := by
        rw [h.active_eq]
        by_contra hstarted
        exact h.started (by simpa using hstarted) (h.pending_eq.trans hid.1)
      rw [hsame]
      exact ⟨h.initialized, hcoherent, hid.2, hidle, by simp [hidle], by simp⟩

theorem Aligned.beginConfirmation {m : MotionSystem} (h : m.Aligned) (env : ℕ → PortAnswer)
    (nowMs : UInt32) (hp : m.manager.pendingStopOperationId ≠ 0) :
    (m.beginConfirmation env nowMs).2.Aligned ∧
      (m.beginConfirmation env nowMs).2.stop.active = true ∧
      (m.beginConfirmation env nowMs).2.manager.coordinator = m.manager.coordinator := by
  rw [MotionSystem.beginConfirmation]
  split_ifs with hstarted
  · exact ⟨h, h.active_eq.trans hstarted, rfl⟩
  · rw [motionStopBegin, if_neg hp]
    exact ⟨⟨h.initialized, h.coherent, h.pending_eq, rfl, fun _ => rfl, fun _ => hp⟩, rfl, rfl⟩

/-- The operation under confirmation is the coordinator's running one. -/
theorem Aligned.completes {m : MotionSystem} (h : m.Aligned) (hactive : m.stop.active = true) :
    m.manager.coordinator.Completes m.stop.operationId := by
  have hp : m.manager.pendingStopOperationId ≠ 0 := h.started (h.active_eq.symm.trans hactive)
  rw [h.operation_eq hactive, h.pending_eq]
  exact h.coherent.completes (h.pending_eq ▸ hp)

@[simp] theorem observe_active (s : MotionStop) (counts : WheelEncoderCounts) (nowMs : UInt32) :
    (s.observe counts nowMs).active = s.active := by
  rw [MotionStop.observe]
  split_ifs <;> rfl

@[simp] theorem observe_operationId (s : MotionStop) (counts : WheelEncoderCounts) (nowMs : UInt32) :
    (s.observe counts nowMs).operationId = s.operationId := by
  rw [MotionStop.observe]
  split_ifs <;> rfl

/-- A reported completion carries the identifier the verifier was started with. -/
theorem motionStopUpdate_operationId (env : ℕ → PortAnswer) (nowMs : UInt32) (s : MotionStop)
    (b : Board) (h : (motionStopUpdate env nowMs s b).1.completed = true) :
    (motionStopUpdate env nowMs s b).1.operationId = s.operationId := by
  rw [motionStopUpdate] at h ⊢
  split_ifs at h ⊢
  · simp only [observe_operationId] at h ⊢
    split_ifs at h ⊢ <;> simp_all

/-- What the verifier's answer does: another sample, or the completion of the pending
transaction and the one frame that reports it. -/
theorem Aligned.advance_cases {m : MotionSystem} (h : m.Aligned) (env : ℕ → PortAnswer)
    (nowMs : UInt32) (hactive : m.stop.active = true) :
    ∃ counts,
      MotionSystem.advanceConfirmation env nowMs m =
          (.stopPending, { m with
            stop := m.stop.observe counts nowMs
            board := m.board.emit (.stopSample counts nowMs) }) ∨
        ∃ result sent,
          (result = .success →
            nowMs - (m.stop.observe counts nowMs).startedAtMs < motionStopTimeoutMs ∧
            nowMs - (m.stop.observe counts nowMs).lastMovementAtMs ≥ motionStopSettleTimeMs) ∧
          (result = .failed →
            (MotionSystem.advanceConfirmation env nowMs m).1 = .stopFailed ∨
            (MotionSystem.advanceConfirmation env nowMs m).1 = .transmitFailed) ∧
          (MotionSystem.advanceConfirmation env nowMs m).2 =
            { board := (m.board.emit (.stopSample counts nowMs)).emit (.transmit
                (motionResponseFrame m.manager.coordinator.reliableReceiver.pendingTransaction
                  (completionResult result)) sent)
              stop := { m.stop.observe counts nowMs with active := false }
              manager := { m.manager with
                pendingStopOperationId := 0
                stopConfirmationStarted := false
                coordinator := (m.manager.coordinator.completeOperation m.stop.operationId
                  result).2 } } := by
  obtain ⟨counts, ⟨_, _, hadvance⟩ | ⟨result, hsuccess, hfailed, hadvance⟩⟩ :=
    advanceConfirmation_cases env nowMs m hactive
  · exact ⟨counts, .inl hadvance⟩
  have haccepted := completeOperation_accepted _ _ result (h.completes hactive)
  have haction := congrArg Prod.fst haccepted
  obtain ⟨sends, htransmits, ⟨_, hsame⟩ | ⟨hstop, _⟩⟩ := processAction_cases env
    (m.manager.coordinator.completeOperation m.stop.operationId result).1
    { board := m.board.emit (.stopSample counts nowMs)
      stop := { m.stop.observe counts nowMs with active := false }
      manager := { m.manager with
        pendingStopOperationId := 0
        stopConfirmationStarted := false
        coordinator := (m.manager.coordinator.completeOperation m.stop.operationId result).2 } }
  · rw [haction] at htransmits
    cases htransmits with
    | cons hhead htail =>
      obtain ⟨sent, rfl⟩ := hhead
      cases htail
      exact ⟨counts, .inr ⟨result, sent, hsuccess, hfailed, hadvance.trans hsame⟩⟩
  · rw [haction] at hstop
    cases hstop

theorem Aligned.advanceConfirmation {m : MotionSystem} (h : m.Aligned) (env : ℕ → PortAnswer)
    (nowMs : UInt32) (hactive : m.stop.active = true) :
    (MotionSystem.advanceConfirmation env nowMs m).2.Aligned := by
  obtain ⟨counts, hadvance | ⟨result, sent, _, _, hadvance⟩⟩ := h.advance_cases env nowMs hactive
  · rw [hadvance]
    exact ⟨h.initialized, h.coherent, h.pending_eq, by simp [h.active_eq],
      by simpa using h.operation_eq, h.started⟩
  · have hcoherent := h.coherent.completeOperation m.stop.operationId result
    have haccepted := completeOperation_accepted _ _ result (h.completes hactive)
    rw [hadvance]
    refine ⟨h.initialized, hcoherent, ?_, rfl, by simp, by simp⟩
    rw [haccepted]

theorem Aligned.update {m : MotionSystem} (h : m.Aligned) (env : ℕ → PortAnswer) (nowMs : UInt32) :
    (MotionSystem.update env nowMs m).2.Aligned := by
  have hguarded := h.withBoard (motionCommandGuardUpdate env nowMs m.board).2
  rcases update_cases env nowMs m h.initialized with
    ⟨_, hupdate⟩ | ⟨_, ⟨_, hupdate⟩ | ⟨hp, _, hupdate⟩⟩
  · rw [hupdate]
    exact hguarded
  · rw [hupdate]
    exact hguarded
  · obtain ⟨hbegun, hactive, _⟩ := hguarded.beginConfirmation env nowMs hp
    rw [hupdate]
    exact hbegun.advanceConfirmation env nowMs hactive

theorem Aligned.step {m : MotionSystem} (h : m.Aligned) (env : ℕ → PortAnswer) (x : Call) :
    (MotionSystem.step env m x).Aligned := by
  cases x with
  | handle frame linkSynchronized nowMs => exact h.handle env frame linkSynchronized nowMs
  | update nowMs => exact h.update env nowMs
  | reset => exact h.reset
  | otherModules board => exact h.withBoard board

theorem Aligned.run {m : MotionSystem} (h : m.Aligned) (env : ℕ → PortAnswer) (calls : List Call) :
    (MotionSystem.run env m calls).Aligned := by
  induction calls using List.reverseRecOn with
  | nil => exact h
  | append_singleton calls x ih =>
    rw [run_concat]
    exact ih.step env x

/-- The records of one physical stop agree in every reachable state; the verifier
can always be started, and what it reports always completes a transaction. -/
theorem manager_never_drifts (env : ℕ → PortAnswer) (config : WheelVelocityFeedforwardConfig)
    (hinit : (Stm32MotionProtocolManager.init config).1 = true) (board : Board)
    (calls : List Call) :
    let m := run env (boot config board) calls
    let c := m.manager.coordinator
    m.manager.pendingStopOperationId = c.activeOperationId ∧
      (m.manager.pendingStopOperationId ≠ 0 ↔ c.state = .starting ∨ c.state = .ending) ∧
      (m.manager.pendingStopOperationId ≠ 0 ↔ c.reliableReceiver.pendingValid = true) ∧
      (m.stop.active = true ↔ m.manager.stopConfirmationStarted = true) ∧
      (m.stop.active = true → m.stop.operationId = m.manager.pendingStopOperationId) ∧
      ∀ nowMs, m.manager.pendingStopOperationId ≠ 0 →
        (m.beginConfirmation env nowMs).1 = true ∧
          ∀ completion, completion = (motionStopUpdate env nowMs
              (m.beginConfirmation env nowMs).2.stop (m.beginConfirmation env nowMs).2.board).1 →
            completion.completed = true →
            ∀ result,
              (c.completeOperation completion.operationId result).1.sendResponse = true ∧
              (c.completeOperation completion.operationId result).1.responseTransaction =
                c.reliableReceiver.pendingTransaction ∧
              (c.completeOperation completion.operationId result).2.state ≠ .starting ∧
              (c.completeOperation completion.operationId result).2.state ≠ .ending := by
  intro m c
  have h : m.Aligned := (boot_aligned hinit board).run env calls
  have hstopping : c.state.stopping = true ↔ c.state = .starting ∨ c.state = .ending := by
    cases c.state <;> simp [MotionLifecycleState.stopping]
  have hpending : m.manager.pendingStopOperationId ≠ 0 ↔ c.state.stopping = true := by
    rw [h.pending_eq]
    exact h.coherent.operation_iff
  refine ⟨h.pending_eq, hpending.trans hstopping, ?_, by rw [h.active_eq], h.operation_eq, ?_⟩
  · rw [hpending, h.coherent.pending_iff]
  intro nowMs hp
  obtain ⟨hbegun, hactive, hsame⟩ := h.beginConfirmation env nowMs hp
  refine ⟨beginConfirmation_succeeds env nowMs m hp, ?_⟩
  rintro completion rfl hcompleted result
  have hcompletes := hbegun.completes hactive
  rw [hsame, ← motionStopUpdate_operationId env nowMs _ _ hcompleted] at hcompletes
  have hfree := c.completionState_free result
  rw [completeOperation_accepted c _ result hcompletes]
  refine ⟨rfl, rfl, ?_, ?_⟩
  · intro hs
    simp [show c.completionState result = .starting from hs, MotionLifecycleState.stopping] at hfree
  · intro hs
    simp [show c.completionState result = .ending from hs, MotionLifecycleState.stopping] at hfree

/-- A board whose guard and motor driver came up. -/
def workingBoard : Board :=
  { guard := { initialized := true }, motor := { initialized := true },
    watchdog := { initialized := true, timeoutMs := 250 } }

theorem manager_never_drifts_starting :
    let m := run (fun _ => {}) (boot { maxVelocityMmS := 400, minimumStartCommand := 50 }
      workingBoard) [.handle (motionLifecycleCommandFrame { command := 1, motionSessionId := 7 })
        true 10, .update 20]
    m.manager.coordinator.state = .starting ∧ m.stop.active = true ∧
      m.stop.operationId = m.manager.coordinator.activeOperationId := by
  intro m
  have h := manager_never_drifts (fun _ => {})
    { maxVelocityMmS := 400, minimumStartCommand := 50 } (by decide) workingBoard
    [.handle (motionLifecycleCommandFrame { command := 1, motionSessionId := 7 }) true 10,
      .update 20]
  have hactive : m.stop.active = true := by decide
  exact ⟨by decide, hactive, (h.2.2.2.2.1 hactive).trans h.1⟩

end MotionSystem

end IndoorRobot
