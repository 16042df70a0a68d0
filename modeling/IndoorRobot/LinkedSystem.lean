import IndoorRobot.ClientActions
import IndoorRobot.CoordinatorExchange

/-!
# The Pi and the STM32 over two lossy channels

The client and the firmware act in any order, stage by stage. Each channel delivers
frames unaltered and in the order they were handed to it, and may lose any of them; a
frame counts as handed over even where its sender was told that sending failed. The
firmware's ticks are arbitrary, and so is everything the hardware and the operating
system answer.
-/
namespace IndoorRobot

open MotionLifecycleCommandType MotionResponseResult StopAndWait MotionLifecycleCoordinator

/-- The frame a client event hands to the serial port. -/
def ClientEvent.sentFrame : ClientEvent → Option ProtocolFrame
  | .sent f _ => some f
  | _ => none

/-- The stages of the main loop that take no frame. -/
inductive FirmwareStage where
  | updateMotion | sampleSpeed | overflow | updateLink
  deriving DecidableEq, Repr

def FirmwareStage.run (env : ℕ → PortAnswer) (nowMs : UInt32) (fw : Firmware) :
    FirmwareStage → Firmware
  | .updateMotion => fw.updateMotion env nowMs
  | .sampleSpeed => fw.sampleSpeed env nowMs
  | .overflow => fw.receive env .overflow nowMs
  | .updateLink => fw.updateLink env nowMs

structure LinkedSystem where
  runner : Stm32ClientRunner
  firmware : Firmware
  toStm : List ProtocolFrame := []
  toPi : List ProtocolFrame := []

namespace LinkedSystem

/-- One move of a party or of a channel. -/
inductive Move where
  | client (action : ClientAction)
  | clientReceives
  | firmware (stage : FirmwareStage) (nowMs : UInt32)
  | firmwareReceives (nowMs : UInt32)
  | loseToStm (index : ℕ)
  | loseToPi (index : ℕ)

/-- The client has moved on, and what it has sent meanwhile is under way. -/
def withRunner (s : LinkedSystem) (r : Stm32ClientRunner) : LinkedSystem :=
  { s with
    runner := r
    toStm := s.toStm ++ (r.log.drop s.runner.log.length).filterMap ClientEvent.sentFrame }

/-- The firmware has moved on, and what it has sent meanwhile is under way. -/
def withFirmware (s : LinkedSystem) (fw : Firmware) : LinkedSystem :=
  { s with
    firmware := fw
    toPi := s.toPi ++ (fw.motion.board.log.drop s.firmware.motion.board.log.length).filterMap
      BoardEvent.transmitted }

section Steps
variable (clientEnv : ℕ → ClientAnswer) (boardEnv : ℕ → PortAnswer)

/-- The system after a move. Frames reach a party from its channel only. -/
def step (s : LinkedSystem) : Move → LinkedSystem
  | .client action =>
    match action.input with
    | none => s.withRunner (s.runner.act clientEnv action)
    | some _ => s
  | .clientReceives =>
    match s.toPi with
    | [] => s
    | f :: rest => withRunner { s with toPi := rest } (s.runner.act clientEnv (.receive f))
  | .firmware stage nowMs => s.withFirmware (stage.run boardEnv nowMs s.firmware)
  | .firmwareReceives nowMs =>
    match s.toStm with
    | [] => s
    | f :: rest =>
      withFirmware { s with toStm := rest } (s.firmware.receive boardEnv (.frame f) nowMs)
  | .loseToStm index => { s with toStm := s.toStm.eraseIdx index }
  | .loseToPi index => { s with toPi := s.toPi.eraseIdx index }

/-- The system after a sequence of moves. -/
def run (s : LinkedSystem) (moves : List Move) : LinkedSystem :=
  moves.foldl (step clientEnv boardEnv) s

/-- The moves of one iteration of the main loop. -/
def iteration (nowMs : UInt32) : List Move :=
  [.firmware .updateMotion nowMs, .firmware .sampleSpeed nowMs, .firmwareReceives nowMs,
    .firmware .updateLink nowMs]

/-- What the receiver of the firmware finds in its channel. -/
def received (s : LinkedSystem) : UartProtocolReceiverResult :=
  match s.toStm with
  | [] => .none
  | f :: _ => .frame f

/-- An uninterrupted iteration of the main loop is a run. -/
theorem run_iteration (s : LinkedSystem) (nowMs : UInt32) :
    (s.run clientEnv boardEnv (iteration nowMs)).firmware =
      s.firmware.iterate boardEnv nowMs s.received := by
  obtain ⟨runner, firmware, toStm, toPi⟩ := s
  cases toStm with
  | nil => rfl
  | cons f rest => rfl

end Steps

end LinkedSystem

/-! ### What a channel holds -/

/-- The transaction and the result a MOTION_RESPONSE reports. -/
def ProtocolFrame.answer (f : ProtocolFrame) : MotionTransaction × MotionResponseResult :=
  let payload := motionResponseDecode f.payload.bytes
  ({ sequence := f.sequence
     command := payload.command
     motionSessionId := payload.motionSessionId }, payload.result)

def commands (l : List ProtocolFrame) : List MotionTransaction :=
  l.filterMap fun f =>
    if protocolIngressRoute f = .motionCommand then some f.transaction else none

def responses (l : List ProtocolFrame) : List (MotionTransaction × MotionResponseResult) :=
  l.filterMap fun f => if f.messageType = .motionResponse then some f.answer else none

def tokens (type : ProtocolMessageType) (l : List ProtocolFrame) : List UInt64 :=
  l.filterMap fun f =>
    if f.messageType = type then some (linkSyncDecode f.payload.bytes).syncToken else none

/-- The tokens of the LINK_SYNC frames in a channel. -/
abbrev syncTokens := tokens .linkSync

/-- The tokens of the LINK_SYNC_OK frames in a channel. -/
abbrev okTokens := tokens .linkSyncOk

section Channels
variable (l l' : List ProtocolFrame)

@[simp] theorem commands_append : commands (l ++ l') = commands l ++ commands l' :=
  List.filterMap_append

@[simp] theorem responses_append : responses (l ++ l') = responses l ++ responses l' :=
  List.filterMap_append

@[simp] theorem tokens_append (type : ProtocolMessageType) :
    tokens type (l ++ l') = tokens type l ++ tokens type l' :=
  List.filterMap_append

variable {l}

theorem commands_eq_nil (h : ∀ f ∈ l, f.messageType ≠ .motionCommand) : commands l = [] := by
  refine List.filterMap_eq_nil_iff.mpr fun f hf => if_neg fun hroute => ?_
  exact h f hf (protocolIngressRoute_motionCommand hroute)

theorem responses_eq_nil (h : ∀ f ∈ l, f.messageType ≠ .motionResponse) : responses l = [] :=
  List.filterMap_eq_nil_iff.mpr fun f hf => if_neg (h f hf)

theorem tokens_eq_nil {type : ProtocolMessageType} (h : ∀ f ∈ l, f.messageType ≠ type) :
    tokens type l = [] :=
  List.filterMap_eq_nil_iff.mpr fun f hf => if_neg (h f hf)

theorem responses_cons {f : ProtocolFrame} (h : f.messageType = .motionResponse) :
    responses (f :: l) = f.answer :: responses l := by
  simp [responses, h]

@[simp] theorem commands_lifecycle (t : MotionTransaction) :
    commands [motionLifecycleCommandFrame t] = [t] := by
  have hroute : protocolIngressRoute (motionLifecycleCommandFrame t) = .motionCommand := by
    simp [protocolIngressRoute, motionLifecycleCommandFrame, ProtocolFrame.routeSized,
      ProtocolMessageType.motionCommand, ProtocolMessageType.linkSync,
      ProtocolMessageType.linkSyncOk, ProtocolMessageType.heartbeat]
  simp [commands, hroute]

@[simp] theorem responses_frame (t : MotionTransaction) (result : MotionResponseResult) :
    responses [motionResponseFrame t result] = [(t, result)] := by
  have htype : (motionResponseFrame t result).messageType = .motionResponse := rfl
  simp only [responses, List.filterMap_cons, htype, if_true, ProtocolFrame.answer,
    motionResponseDecode_frame, List.filterMap_nil]
  rfl

end Channels

/-! ### The firmware as the receiver of the exchange -/

/-- The terminal results of a physical stop. -/
def Reported (result : MotionResponseResult) : Prop := result = ok ∨ result = stopFailed

/-- The exchange of lifecycle transactions. -/
abbrev LifecycleExchange := Exchange MotionTransaction MotionResponseResult

abbrev InOrder (e : LifecycleExchange) : Prop := Orderly Fits ok Reported e

theorem reported_completion (result : MotionLifecycleOperationResult) :
    Reported (completionResult result) := by
  cases result with
  | success => exact .inl rfl
  | failed => exact .inr rfl

theorem framesOf_ack (t : MotionTransaction) :
    responses (MotionSystem.framesOf
      { MotionLifecycleAction.none with sendAck := true, ackTransaction := t }) = [] :=
  responses_eq_nil (by simp [MotionSystem.framesOf, motionCommandFramesBuild, motionAckFrame,
    MotionLifecycleAction.none]; decide)

theorem framesOf_requestStop (c : MotionLifecycleCoordinator) (t : MotionTransaction)
    (state : MotionLifecycleState) (sessionId : UInt32) :
    responses (MotionSystem.framesOf (c.requestStop t state sessionId).1) = [] :=
  framesOf_ack t

theorem framesOf_replay (t : MotionTransaction) (result : MotionResponseResult) :
    responses (MotionSystem.framesOf
      { MotionLifecycleAction.none with
        sendAck := true
        ackTransaction := t
        sendResponse := true
        responseTransaction := t
        responseResult := result }) = [(t, result)] := by
  have hack : responses [motionAckFrame t] = [] := responses_eq_nil (by simp [motionAckFrame]; decide)
  have hframes : responses ([motionAckFrame t] ++ [motionResponseFrame t result]) = [(t, result)] := by
    rw [responses_append, hack, responses_frame]
    rfl
  exact hframes

namespace Firmware

/-- The firmware as the receiver of the exchange. -/
def Holds (fw : Firmware) : Receiver MotionTransaction → Prop
  | .down => fw.link.synchronized = false
  | .resting last => fw.link.synchronized = true ∧ fw.coordinator.Rests last
  | .working t => fw.link.synchronized = true ∧ fw.coordinator.Working t

/-- A step that went well moves the receiver on, any other one takes it down. -/
theorem DownOr.exchange {p q : Firmware} {c : MotionLifecycleCoordinator} (h : DownOr p q c)
    (hp : p.link.synchronized = true) {e : LifecycleExchange} (he : InOrder e)
    (hholds : q.link.synchronized = true → q.coordinator = c → q.Holds e.receiver) :
    ∃ receiver, q.Holds receiver ∧ InOrder { e with receiver := receiver } := by
  rcases h with hdown | ⟨hsync, hsame⟩
  · exact ⟨.down, hdown, he.fail⟩
  · exact ⟨e.receiver, hholds (hsync.trans hp) hsame, he⟩

theorem Step.exchange_commanded {f : ProtocolFrame} {p q : Firmware}
    (hsync : p.link.synchronized = true)
    (hdown : DownOr p q (p.coordinator.handleTransaction f.transaction).2)
    {e : LifecycleExchange} (he : InOrder e) (hp : p.Holds e.receiver)
    {rest : List MotionTransaction} (hrequests : e.requests = f.transaction :: rest) :
    ∃ receiver, q.Holds receiver ∧
      InOrder { e with
        receiver := receiver
        requests := rest
        answers := e.answers ++ responses (MotionSystem.framesOf
          (p.coordinator.handleTransaction f.transaction).1) } := by
  generalize f.transaction = t at hrequests hdown ⊢
  have hrest : rest.Sublist e.requests := hrequests ▸ List.sublist_cons_self t rest
  have hlost := he.lose hrest (List.Sublist.refl e.answers)
  rcases he.request_cases (t := t) (by simp [hrequests]) with hreceiver | hreceiver | hreceiver |
    ⟨hreceiver, hnew, _, hfits⟩
  · rw [hreceiver] at hp
    simp [Holds, hsync] at hp
  · rw [hreceiver] at hp
    have hsettled : p.coordinator.Settled t := hp.2
    rw [hsettled.handleTransaction] at hdown ⊢
    rw [framesOf_replay]
    apply hdown.exchange hsync (hlost.replay (.inl rfl) hreceiver)
    intro hq hsame
    rw [hreceiver]
    exact ⟨hq, hsame ▸ hsettled⟩
  · rw [hreceiver] at hp
    have hworking : p.coordinator.Working t := hp.2
    rw [hworking.handleTransaction] at hdown ⊢
    rw [framesOf_ack, List.append_nil]
    apply hdown.exchange hsync hlost
    intro hq hsame
    rw [hreceiver]
    exact ⟨hq, hsame ▸ hworking⟩
  · have haccepted := he.accept hrequests hreceiver hnew
    rw [hreceiver] at hp
    obtain ⟨state, sessionId, howner, hrequest⟩ := Rests.handleTransaction hp.2 hfits
    rw [hrequest] at hdown ⊢
    rw [framesOf_requestStop, List.append_nil]
    exact hdown.exchange hsync haccepted
      fun hq hsame => ⟨hq, hsame ▸ requestStop_working _ t howner⟩

theorem Step.exchange_completed {p q : Firmware} {operationId : UInt32}
    {result : MotionLifecycleOperationResult} (hsafe : p.Safe)
    (hcompletes : p.coordinator.Completes operationId)
    (hfailed : result = .failed → q.link.synchronized = false)
    (hdown : DownOr p q (p.coordinator.completeOperation operationId result).2)
    {e : LifecycleExchange} (he : InOrder e) (hp : p.Holds e.receiver) :
    e.receiver ≠ .down ∧ ∃ receiver, q.Holds receiver ∧
      InOrder { e with
        receiver := receiver
        answers := e.answers ++ responses [motionResponseFrame
          p.coordinator.reliableReceiver.pendingTransaction (completionResult result)] } := by
  have hstopping := hcompletes.2.2.2
  rw [responses_frame]
  cases hreceiver : e.receiver with
  | down =>
    rw [hreceiver] at hp
    have hsync := hsafe.session (by intro hstate; simp [hstate, MotionLifecycleState.stopping] at hstopping)
    simp [Holds, hsync] at hp
  | resting last =>
    rw [hreceiver] at hp
    simp [hp.2.free] at hstopping
  | working t =>
    rw [hreceiver] at hp
    obtain ⟨hsync, hworking⟩ := hp
    rw [hworking.transaction]
    obtain ⟨hbroken, hdone⟩ := he.complete hreceiver (reported_completion result)
    refine ⟨by simp, ?_⟩
    cases result with
    | failed => exact ⟨.down, hfailed rfl, hbroken⟩
    | success =>
      exact hdown.exchange hsync (hdone rfl)
        fun hq hsame => ⟨hq, hsame ▸ hworking.completeOperation hcompletes⟩

/-- A step of the firmware moves the exchange on. -/
theorem Step.exchange {input : Option ProtocolFrame} {p q : Firmware} {out : List ProtocolFrame}
    (h : Step input p out q) (hsafe : p.Safe) {e : LifecycleExchange} (he : InOrder e)
    (hp : p.Holds e.receiver) {rest : List MotionTransaction}
    (hrequests : e.requests = commands input.toList ++ rest)
    (hinput : syncTokens input.toList = []) :
    ∃ receiver, (receiver ≠ .down → e.receiver ≠ .down) ∧ q.Holds receiver ∧
      InOrder { e with
        receiver := receiver
        requests := rest
        answers := e.answers ++ responses out } := by
  cases h with
  | quiet _ _ _ _ hunread hout hdown =>
    have hsilent : responses out = [] := responses_eq_nil fun f hf => by
      rw [hout f hf]
      decide
    have hrest : rest.Sublist e.requests := hrequests ▸ List.sublist_append_right _ _
    have hlost := he.lose hrest (List.Sublist.refl e.answers)
    rw [hsilent, List.append_nil]
    rcases hdown with hdown | ⟨hsync, hsame⟩
    · exact ⟨.down, by simp, hdown, hlost.fail⟩
    · refine ⟨e.receiver, id, ?_, hlost⟩
      generalize e.receiver = receiver at hp ⊢
      cases receiver with
      | down => exact hsync.trans hp
      | resting last => exact ⟨hsync.trans hp.1, by rw [hsame]; exact hp.2⟩
      | working t => exact ⟨hsync.trans hp.1, by rw [hsame]; exact hp.2⟩
  | synchronized f _ _ _ hroute _ _ =>
    simp [tokens, protocolIngressRoute_linkSync hroute] at hinput
  | commanded f _ _ hroute hsync hdown =>
    have hhead : e.requests = f.transaction :: rest := by
      simpa [commands, hroute] using hrequests
    obtain ⟨receiver, hholds, he'⟩ := Step.exchange_commanded hsync hdown he hp hhead
    refine ⟨receiver, fun _ hreceiver => ?_, hholds, he'⟩
    rw [hreceiver] at hp
    simp [Holds, hsync] at hp
  | completed _ _ operationId result hcompletes hfailed hdown =>
    obtain ⟨hup, receiver, hholds, he'⟩ :=
      Step.exchange_completed hsafe hcompletes hfailed hdown he hp
    have hsame : e.requests = rest := by simpa [commands] using hrequests
    exact ⟨receiver, fun _ => hup, hholds, hsame ▸ he'⟩

end Firmware

end IndoorRobot
