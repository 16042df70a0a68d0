import IndoorRobot.FirmwareLoop

/-!
# What a stage of the main loop can do

The stages of the loop as the other end of the link sees them: the frames they put on
the wire, the synchronization of the link and the lifecycle coordinator. Whatever
goes wrong leaves the link unsynchronized, after the same frames.
-/
namespace IndoorRobot

open MotionLifecycleCoordinator

/-- The frame an event puts on the wire. -/
def BoardEvent.transmitted : BoardEvent → Option ProtocolFrame
  | .transmit f _ => some f
  | _ => none

/-- The board after sending the given frames. -/
def Board.Emits (b : Board) (frames : List ProtocolFrame) (c : Board) : Prop :=
  ∃ events, c.log = b.log ++ events ∧ events.filterMap BoardEvent.transmitted = frames

namespace Board.Emits

variable {a b c : Board} {frames more : List ProtocolFrame}

theorem refl (b : Board) : b.Emits [] b := ⟨[], by simp, rfl⟩

theorem trans (h : a.Emits frames b) (h' : b.Emits more c) : a.Emits (frames ++ more) c := by
  obtain ⟨events, hb, rfl⟩ := h
  obtain ⟨later, hc, rfl⟩ := h'
  exact ⟨events ++ later, by rw [hc, hb, List.append_assoc], by simp⟩

/-- Events of the motors and the encoders send nothing. -/
theorem silent {events : List BoardEvent} (hc : c.log = b.log ++ events)
    (h : ∀ e ∈ events, e.transmitted = none) : b.Emits [] c :=
  ⟨events, hc, List.filterMap_eq_nil_iff.mpr h⟩

theorem emit (b : Board) {e : BoardEvent} (h : e.transmitted = none) : b.Emits [] (b.emit e) :=
  .silent rfl (by simpa using h)

end Board.Emits

theorem StopOutcome.emits {b : Board} {out : Bool × Board} (h : StopOutcome b out) :
    b.Emits [] out.2 := by
  cases h with
  | stopped motor => exact .silent rfl (by simp [BoardEvent.transmitted])
  | failed events hevents =>
    refine .silent rfl fun e he => ?_
    rcases hevents e he with rfl | rfl <;> rfl

theorem ApplyOutcome.emits {c : MotorDriverCommand} {nowMs : UInt32} {b : Board}
    {out : Bool × Board} (h : ApplyOutcome c nowMs b out) : b.Emits [] out.2 := by
  cases h with
  | refused => exact .refl b
  | rejected motor events hevents out hout =>
    have happlied : b.Emits [] { b with motor := motor, log := b.log ++ events } := by
      refine .silent rfl fun e he => ?_
      rcases hevents e he with ⟨control, ok, rfl⟩ | ⟨ok, rfl⟩ <;> rfl
    exact happlied.trans hout.emits
  | halted motor control => exact .silent rfl (by simp [BoardEvent.transmitted])
  | moved motor control => exact .silent rfl (by simp [BoardEvent.transmitted])

theorem GuardUpdateOutcome.emits {b : Board} {out : MotionCommandGuardUpdate × Board}
    (h : GuardUpdateOutcome b out) : b.Emits [] out.2 := by
  cases h with
  | idle => exact .refl b
  | stopped b' hout => exact hout.emits
  | failed b' hout => exact hout.emits

theorem MotionSystem.Transmits.emits {frames : List ProtocolFrame} {events : List BoardEvent}
    (h : MotionSystem.Transmits frames events) (b : Board) :
    b.Emits frames { b with log := b.log ++ events } := by
  refine ⟨events, rfl, ?_⟩
  induction h with
  | nil => rfl
  | cons hhead _ ih =>
    obtain ⟨ok, rfl⟩ := hhead
    simpa [BoardEvent.transmitted] using ih

/-- A sized route is its own route or reports the length. -/
theorem ProtocolFrame.routeSized_ne {f : ProtocolFrame} {wireSize : UInt16}
    {route other : ProtocolIngressRoute} (hroute : route ≠ other)
    (hlength : other ≠ .invalidPayloadLength) : f.routeSized wireSize route ≠ other := by
  rw [ProtocolFrame.routeSized]
  split
  · exact hlength.symm
  · exact hroute

theorem protocolIngressRoute_motionCommand {f : ProtocolFrame}
    (h : protocolIngressRoute f = .motionCommand) : f.messageType = .motionCommand := by
  by_contra htype
  rw [protocolIngressRoute] at h
  repeat' split at h
  all_goals first
    | exact htype (by assumption)
    | exact ProtocolFrame.routeSized_ne (by decide) (by decide) h
    | cases h

theorem protocolIngressRoute_linkSync {f : ProtocolFrame}
    (h : protocolIngressRoute f = .linkSync) : f.messageType = .linkSync := by
  by_contra htype
  rw [protocolIngressRoute, if_neg htype] at h
  repeat' split at h
  all_goals first
    | exact ProtocolFrame.routeSized_ne (by decide) (by decide) h
    | cases h

namespace Firmware

abbrev coordinator (fw : Firmware) : MotionLifecycleCoordinator := fw.motion.manager.coordinator

/-- The link is down, or the coordinator is as given and the link as before. -/
def DownOr (p q : Firmware) (c : MotionLifecycleCoordinator) : Prop :=
  q.link.synchronized = false ∨
    q.link.synchronized = p.link.synchronized ∧ q.coordinator = c

/-- The steps of the firmware, with the frame they take and the frames they send. -/
inductive Step : Option ProtocolFrame → Firmware → List ProtocolFrame → Firmware → Prop
  | quiet (input : Option ProtocolFrame) (p q : Firmware) (out : List ProtocolFrame)
      (hinput : ∀ f, input = some f → protocolIngressRoute f = .motionCommand →
        p.link.synchronized = false)
      (hout : ∀ f ∈ out, f.messageType = .heartbeat) (hdown : DownOr p q p.coordinator) :
      Step input p out q
  | synchronized (f : ProtocolFrame) (p q : Firmware) (out : List ProtocolFrame)
      (hroute : protocolIngressRoute f = .linkSync)
      (hout : ∀ g ∈ out, g.messageType = .heartbeat ∨
        g = linkSyncOkFrame f.sequence (linkSyncDecode f.payload.bytes))
      (hdown : q.link.synchronized = false ∨
        q.link.synchronized = true ∧ q.coordinator = p.coordinator.reset) :
      Step (some f) p out q
  | commanded (f : ProtocolFrame) (p q : Firmware)
      (hroute : protocolIngressRoute f = .motionCommand) (hsync : p.link.synchronized = true)
      (hdown : DownOr p q (p.coordinator.handleTransaction f.transaction).2) :
      Step (some f) p
        (MotionSystem.framesOf (p.coordinator.handleTransaction f.transaction).1) q
  | completed (p q : Firmware) (operationId : UInt32) (result : MotionLifecycleOperationResult)
      (hcompletes : p.coordinator.Completes operationId)
      (hfailed : result = .failed → q.link.synchronized = false)
      (hdown : DownOr p q (p.coordinator.completeOperation operationId result).2) :
      Step none p [motionResponseFrame p.coordinator.reliableReceiver.pendingTransaction
        (completionResult result)] q

/-- A step together with the frames the board puts on the wire. -/
def Moves (input : Option ProtocolFrame) (p q : Firmware) : Prop :=
  ∃ out, p.motion.board.Emits out q.motion.board ∧ Step input p out q

/-- Every step may end with the link down. -/
theorem Step.down {input : Option ProtocolFrame} {p q : Firmware} {out : List ProtocolFrame}
    (h : Step input p out q) {q' : Firmware} (hq' : q'.link.synchronized = false) :
    Step input p out q' := by
  cases h with
  | quiet _ _ _ _ hinput hout _ => exact .quiet input p q' out hinput hout (.inl hq')
  | synchronized f _ _ _ hroute hout _ => exact .synchronized f p q' out hroute hout (.inl hq')
  | commanded f _ _ hroute hsync _ => exact .commanded f p q' hroute hsync (.inl hq')
  | completed _ _ operationId result hcompletes _ _ =>
    exact .completed p q' operationId result hcompletes (fun _ => hq') (.inl hq')

/-- A step that takes no command and sends nothing. -/
theorem Moves.silent {input : Option ProtocolFrame} {p q : Firmware}
    (hinput : ∀ f, input = some f → protocolIngressRoute f = .motionCommand →
      p.link.synchronized = false)
    (hboard : p.motion.board.Emits [] q.motion.board) (hdown : DownOr p q p.coordinator) :
    Moves input p q :=
  ⟨[], hboard, .quiet input p q [] hinput (by simp) hdown⟩

variable {fw : Firmware} (env : ℕ → PortAnswer) (nowMs : UInt32)

theorem resetLinkAndStopMotion_emits (h : fw.Safe) :
    fw.motion.board.Emits [] (fw.resetLinkAndStopMotion env).motion.board := by
  have hboard : fw.motion.reset.board = fw.motion.board := MotionSystem.reset_board fw.motion
  have hreset : fw.motion.board.Emits [] fw.motion.reset.board := by
    rw [hboard]
    exact .refl _
  exact hreset.trans (motionCommandGuardStop_outcome env fw.motion.reset.board
    (by rw [hboard]; exact h.guarded)).emits

theorem Moves.reset {input : Option ProtocolFrame} {p q : Firmware} (h : Moves input p q)
    (hq : q.Safe) : Moves input p (q.resetLinkAndStopMotion env) := by
  obtain ⟨out, hemits, hstep⟩ := h
  exact ⟨out, by simpa using hemits.trans (resetLinkAndStopMotion_emits env hq), hstep.down rfl⟩

theorem beginConfirmation_emits (m : MotionSystem) :
    m.board.Emits [] (m.beginConfirmation env nowMs).2.board := by
  rw [MotionSystem.beginConfirmation, motionStopBegin]
  split_ifs
  · exact .refl _
  · exact .refl _
  · exact (Board.Emits.emit m.board rfl).trans (.emit _ rfl)

/-- An update that completes nothing, whether the loop resets after it or not. -/
theorem Moves.updateMotion (h : fw.Safe)
    (hmoves : Moves none fw { fw with motion := (fw.motion.update env nowMs).2 }) :
    Moves none fw (fw.updateMotion env nowMs) := by
  have hsafe : Safe { fw with motion := (fw.motion.update env nowMs).2 } :=
    MotionSystem.Safe.update h env nowMs
  simp only [Firmware.updateMotion]
  split_ifs
  · exact hmoves.reset env hsafe
  · exact hmoves

/-- An update that completes the pending transaction; the loop resets if it has failed. -/
theorem updateMotion_completed (h : fw.Safe) {operationId : UInt32}
    {result : MotionLifecycleOperationResult} (hcompletes : fw.coordinator.Completes operationId)
    (hemits : fw.motion.board.Emits [motionResponseFrame
      fw.coordinator.reliableReceiver.pendingTransaction (completionResult result)]
      (fw.motion.update env nowMs).2.board)
    (hfailed : result = .failed → (fw.motion.update env nowMs).1 = .stopFailed ∨
      (fw.motion.update env nowMs).1 = .transmitFailed)
    (hcoordinator : (fw.motion.update env nowMs).2.manager.coordinator =
      (fw.coordinator.completeOperation operationId result).2) :
    Moves none fw (fw.updateMotion env nowMs) := by
  have hsafe : Safe { fw with motion := (fw.motion.update env nowMs).2 } :=
    MotionSystem.Safe.update h env nowMs
  simp only [updateMotion]
  split_ifs with hreset
  · refine ⟨_, by simpa using hemits.trans (resetLinkAndStopMotion_emits env hsafe), ?_⟩
    exact .completed fw _ operationId result hcompletes (fun _ => rfl) (.inl rfl)
  · refine ⟨_, hemits, .completed fw _ operationId result hcompletes ?_ (.inr ⟨rfl, hcoordinator⟩)⟩
    exact fun hresult => absurd (hfailed hresult) hreset

theorem updateMotion_moves (h : fw.Safe) : Moves none fw (fw.updateMotion env nowMs) := by
  have hguard :=
    (motionCommandGuardUpdate_outcome env nowMs fw.motion.board h.guarded).emits
  have hguarded := MotionSystem.Safe.guardUpdate h env nowMs
  rcases MotionSystem.update_cases env nowMs fw.motion h.aligned.initialized with
    ⟨_, hupdate⟩ | ⟨_, ⟨_, hupdate⟩ | ⟨hp, _, hupdate⟩⟩
  · apply Moves.updateMotion env nowMs h
    rw [hupdate]
    exact .silent (by simp) hguard (.inr ⟨rfl, rfl⟩)
  · apply Moves.updateMotion env nowMs h
    rw [hupdate]
    exact .silent (by simp) hguard (.inr ⟨rfl, rfl⟩)
  · obtain ⟨haligned, hactive, hsame⟩ := hguarded.aligned.beginConfirmation env nowMs hp
    have hbegun := hguard.trans (beginConfirmation_emits env nowMs
      { fw.motion with board := (motionCommandGuardUpdate env nowMs fw.motion.board).2 })
    have hcases := haligned.advance_cases env nowMs hactive
    have hcompletes := haligned.completes hactive
    rw [← hupdate] at hcases
    generalize (MotionSystem.beginConfirmation env nowMs
      { fw.motion with board := (motionCommandGuardUpdate env nowMs fw.motion.board).2 }).2 = begun
      at haligned hsame hbegun hcases hcompletes
    obtain ⟨counts, hpending | ⟨result, sent, _, hfailed, hcompleted⟩⟩ := hcases
    · apply Moves.updateMotion env nowMs h
      rw [hpending]
      exact .silent (by simp) (hbegun.trans (.emit _ rfl)) (.inr ⟨rfl, hsame⟩)
    · rw [hsame] at hcompletes hcompleted
      refine updateMotion_completed env nowMs h hcompletes ?_ hfailed (by rw [hcompleted])
      rw [hcompleted]
      exact (hbegun.trans (.emit begun.board rfl)).trans ⟨[_], rfl, rfl⟩

theorem sampleSpeed_moves : Moves none fw (fw.sampleSpeed env nowMs) := by
  rw [sampleSpeed]
  split_ifs
  · exact .silent (by simp) (.emit _ rfl) (.inr ⟨rfl, rfl⟩)
  · exact .silent (by simp) (.refl _) (.inr ⟨rfl, rfl⟩)

theorem dispatchMotion_moves (h : fw.Safe) (f : ProtocolFrame) :
    Moves (some f) fw (fw.dispatchMotion env f nowMs) := by
  have hsafe : Safe { fw with
      motion := (MotionSystem.handle env f fw.link.synchronized nowMs fw.motion).2 } :=
    MotionSystem.Safe.handle h env f nowMs
  have hhandled : Moves (some f) fw { fw with
      motion := (MotionSystem.handle env f fw.link.synchronized nowMs fw.motion).2 } := by
    have hout := MotionSystem.handle_outcome env f fw.link.synchronized nowMs fw.motion
    generalize (MotionSystem.handle env f fw.link.synchronized nowMs fw.motion).2 = m at hout ⊢
    cases hout with
    | ignored hunread =>
      refine .silent ?_ (.refl _) (.inr ⟨rfl, rfl⟩)
      rintro f' hf'
      cases hf'
      exact hunread h.aligned.initialized
    | wheel command hroute _ _ =>
      refine .silent ?_
        (motionCommandGuardApply_outcome env command nowMs fw.motion.board h.guarded).emits
        (.inr ⟨rfl, rfl⟩)
      rintro f' hf' hcommand
      cases hf'
      simp [hroute] at hcommand
    | command hroute hsync =>
      obtain ⟨events, htransmits, ⟨_, hsame⟩ | ⟨_, hsame⟩⟩ := MotionSystem.processAction_cases env
        (fw.coordinator.handleTransaction f.transaction).1
        { fw.motion with manager := { fw.motion.manager with
            coordinator := (fw.coordinator.handleTransaction f.transaction).2 } }
      · rw [hsame]
        exact ⟨_, htransmits.emits _, .commanded f fw _ hroute hsync (.inr ⟨rfl, rfl⟩)⟩
      · have hstop := (motionCommandGuardStop_outcome env
          { fw.motion.board with log := fw.motion.board.log ++ events } h.guarded).emits
        rw [hsame]
        exact ⟨_, by simpa using (htransmits.emits fw.motion.board).trans hstop,
          .commanded f fw _ hroute hsync (.inr ⟨rfl, rfl⟩)⟩
  simp only [dispatchMotion]
  split_ifs
  · exact hhandled.reset env hsafe
  · exact hhandled

/-- Frames with a common property go on the wire. -/
theorem transmits_emits {P : ProtocolFrame → Prop} {events : List BoardEvent}
    (h : ∀ e ∈ events, ∃ f ok, e = .transmit f ok ∧ P f) (b : Board) :
    ∃ out, b.Emits out { b with log := b.log ++ events } ∧ ∀ g ∈ out, P g := by
  refine ⟨_, ⟨events, rfl, rfl⟩, ?_⟩
  intro g hg
  obtain ⟨e, he, hsent⟩ := List.mem_filterMap.mp hg
  obtain ⟨f, ok, rfl, hf⟩ := h e he
  cases hsent
  exact hf

theorem answers_emits {frame : ProtocolFrame} {events : List BoardEvent}
    (h : ∀ e ∈ events, UartLinkManager.Answers frame e) (b : Board) :
    ∃ out, b.Emits out { b with log := b.log ++ events } ∧ ∀ g ∈ out,
      g.messageType = .heartbeat ∨ protocolIngressRoute frame = .linkSync ∧
        g = linkSyncOkFrame frame.sequence (linkSyncDecode frame.payload.bytes) := by
  refine transmits_emits (fun e he => ?_) b
  rcases h e he with ⟨f, ok, rfl, hbeat⟩ | ⟨hroute, ok, rfl⟩
  · exact ⟨f, ok, rfl, .inl hbeat⟩
  · exact ⟨_, ok, rfl, .inr ⟨hroute, rfl⟩⟩

/-- The link has gone down after answers to `f`. -/
theorem Moves.unsynchronized {f : ProtocolFrame} (hf : protocolIngressRoute f ≠ .motionCommand)
    {p q : Firmware} {out : List ProtocolFrame} (hboard : p.motion.board.Emits out q.motion.board)
    (hout : ∀ g ∈ out, g.messageType = .heartbeat ∨ protocolIngressRoute f = .linkSync ∧
      g = linkSyncOkFrame f.sequence (linkSyncDecode f.payload.bytes))
    (hdown : q.link.synchronized = false) : Moves (some f) p q := by
  refine ⟨out, hboard, ?_⟩
  by_cases hroute : protocolIngressRoute f = .linkSync
  · exact .synchronized f p q out hroute (fun g hg => (hout g hg).imp_right And.right) (.inl hdown)
  · refine .quiet (some f) p q out ?_ ?_ (.inl hdown)
    · rintro f' hf' hcommand
      cases hf'
      exact absurd hcommand hf
    · exact fun g hg => (hout g hg).resolve_right fun h => hroute h.1

theorem dispatchLink_moves (h : fw.Safe) (f : ProtocolFrame)
    (hf : protocolIngressRoute f ≠ .motionCommand) :
    Moves (some f) fw (fw.dispatchLink env f nowMs) := by
  have hreset (condition : Prop) [Decidable condition] (m : MotionSystem) :
      (if condition then m.reset else m).board = m.board := by
    split_ifs
    · exact MotionSystem.reset_board m
    · rfl
  have hout := UartLinkManager.handle_outcome env f nowMs fw.link fw.motion.board h.guarded
  rw [dispatchLink]
  generalize fw.link.handle env f nowMs fw.motion.board = handled at hout ⊢
  cases hout with
  | kept result l' events hresult hl' hevents =>
    obtain ⟨out, hemits, hbeats⟩ := transmits_emits hevents fw.motion.board
    cases hdown : fw.link.synchronized with
    | false =>
      exact .unsynchronized hf (by rw [hreset]; exact hemits) (fun g hg => .inl (hbeats g hg))
        (hl'.trans hdown)
    | true =>
      dsimp only
      rw [if_neg (by simp [hresult, hl', hdown])]
      refine ⟨out, hemits, .quiet (some f) fw _ out ?_ hbeats (.inr ⟨hl', rfl⟩)⟩
      rintro f' hf' hcommand
      cases hf'
      exact absurd hcommand hf
  | dropped result l' before out after hresult hl' hbefore hout hafter =>
    obtain ⟨first, hfirst, hfirst'⟩ := answers_emits hbefore fw.motion.board
    obtain ⟨last, hlast, hlast'⟩ := answers_emits hafter out.2
    refine .unsynchronized hf (by rw [hreset]; exact (hfirst.trans hout.emits).trans hlast) ?_ hl'
    simpa [or_imp, forall_and] using ⟨hfirst', hlast'⟩
  | synchronized l' out hroute hl' hout =>
    refine ⟨[linkSyncOkFrame f.sequence (linkSyncDecode f.payload.bytes)],
      by rw [hreset]; exact hout.emits.trans ⟨[_], rfl, rfl⟩, ?_⟩
    refine .synchronized f fw _ _ hroute (by simp) (.inr ⟨hl', ?_⟩)
    dsimp only [coordinator]
    rw [if_pos (.inl rfl), MotionSystem.reset, if_neg (by simp [h.aligned.initialized])]

theorem receive_moves (h : fw.Safe) (f : ProtocolFrame) :
    Moves (some f) fw (fw.receive env (.frame f) nowMs) := by
  simp only [receive]
  split_ifs with hlink hmotion
  · apply dispatchLink_moves env nowMs h f
    intro hroute
    rw [protocolIngressRoute_motionCommand hroute] at hlink
    revert hlink
    decide
  · exact dispatchMotion_moves env nowMs h f
  · refine .silent ?_ (.refl _) (.inr ⟨rfl, rfl⟩)
    rintro f' hf' hroute
    cases hf'
    exact absurd (.inl (protocolIngressRoute_motionCommand hroute)) hmotion

theorem overflow_moves (h : fw.Safe) : Moves none fw (fw.receive env .overflow nowMs) :=
  .silent (by simp) (resetLinkAndStopMotion_emits env h) (.inl rfl)

theorem updateLink_moves (h : fw.Safe) : Moves none fw (fw.updateLink env nowMs) := by
  have hout := motionCommandGuardStop_outcome env fw.motion.board h.guarded
  rw [updateLink]
  rcases UartLinkManager.update_cases env nowMs fw.link fw.motion.board with
    hnone | ⟨result, hresult, hlost⟩
  · rw [hnone]
    exact .silent (by simp) (.refl _) (.inr ⟨rfl, rfl⟩)
  · rw [hlost]
    simp only [hresult, if_true]
    refine .silent (by simp) ?_ (.inl rfl)
    rw [MotionSystem.reset_board]
    exact hout.emits

end Firmware

end IndoorRobot
