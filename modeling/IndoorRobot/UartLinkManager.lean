import IndoorRobot.MotionProtocolManager

/-!
# The link manager

`uart_link_manager.c`. Every path that leaves the link unsynchronized has tried to
stop the motors, and only an answered LINK_SYNC synchronizes it.
-/
namespace IndoorRobot

/-- `UartLinkManagerState`. -/
structure UartLinkManager where
  initialized : Bool := false
  synchronized : Bool := false
  heartbeatTimeoutMs : UInt32 := 0
  lastHeartbeatMs : UInt32 := 0
  deriving DecidableEq, Repr, Inhabited

inductive UartLinkManagerResult where
  | notInitialized | notLinkMessage | invalidLinkSync | invalidHeartbeat | notSynchronized
  | stopFailed | transmitFailed | synchronized | heartbeatAccepted | peerUnsynchronized
  deriving DecidableEq, Repr

inductive UartLinkManagerUpdate where
  | none | linkLost | stopFailed
  deriving DecidableEq, Repr

/-- The HEARTBEAT frame of `uart_link_manager_send_heartbeat`. -/
def heartbeatFrame (sequence : UInt16) (linkState : LinkState) (nowMs : UInt32) : ProtocolFrame :=
  { messageType := .heartbeat
    sequence := sequence
    payloadLength := heartbeatWireSize
    payload := .ofBytes (heartbeatEncode { linkState := linkState, uptimeMs := nowMs }) }

/-- The LINK_SYNC_OK frame that answers a LINK_SYNC. -/
def linkSyncOkFrame (sequence : UInt16) (payload : LinkSyncPayload) : ProtocolFrame :=
  { messageType := .linkSyncOk
    sequence := sequence
    payloadLength := linkSyncWireSize
    payload := .ofBytes (linkSyncEncode payload) }

namespace UartLinkManager

/-- `uart_link_manager_init`. -/
def init (heartbeatTimeoutMs : UInt32) : Bool × UartLinkManager :=
  if heartbeatTimeoutMs = 0 then (false, {})
  else (true, { heartbeatTimeoutMs := heartbeatTimeoutMs, initialized := true })

section Calls
variable (env : ℕ → PortAnswer)

/-- `uart_link_manager_stop_and_clear`. -/
def stopAndClear (l : UartLinkManager) (b : Board) : Bool × UartLinkManager × Board :=
  let (stopped, b) := motionCommandGuardStop env b
  (stopped, { l with synchronized := false }, b)

/-- The shared branch that drops the link and reports why. -/
def dropLink (l : UartLinkManager) (b : Board) (result : UartLinkManagerResult) :
    UartLinkManagerResult × UartLinkManager × Board :=
  let (stopped, l, b) := l.stopAndClear env b
  (if ¬ stopped then .stopFailed else result, l, b)

/-- `uart_link_manager_handle_heartbeat`. -/
def handleHeartbeat (frame : ProtocolFrame) (nowMs : UInt32) (l : UartLinkManager) (b : Board) :
    UartLinkManagerResult × UartLinkManager × Board :=
  if protocolIngressRoute frame ≠ .heartbeat then l.dropLink env b .invalidHeartbeat
  else
    let payload := heartbeatDecode frame.payload.bytes
    if payload.linkState = .unsynchronized then
      let (stopped, l, b) := l.stopAndClear env b
      if ¬ stopped then (.stopFailed, l, b)
      else
        let (sent, b) :=
          uartProtocolTransmitterSend env b (heartbeatFrame frame.sequence .unsynchronized nowMs)
        (if ¬ sent then .transmitFailed else .peerUnsynchronized, l, b)
    else if payload.linkState ≠ .synchronized then l.dropLink env b .invalidHeartbeat
    else if ¬ l.synchronized then
      let (sent, b) :=
        uartProtocolTransmitterSend env b (heartbeatFrame frame.sequence .unsynchronized nowMs)
      (if ¬ sent then .transmitFailed else .notSynchronized, l, b)
    else
      let (sent, b) :=
        uartProtocolTransmitterSend env b (heartbeatFrame frame.sequence .synchronized nowMs)
      if ¬ sent then l.dropLink env b .transmitFailed
      else (.heartbeatAccepted, { l with lastHeartbeatMs := nowMs }, b)

/-- `uart_link_manager_handle_link_sync`, for a frame of that message type. -/
def handleLinkSync (frame : ProtocolFrame) (nowMs : UInt32) (l : UartLinkManager) (b : Board) :
    UartLinkManagerResult × UartLinkManager × Board :=
  let (stopped, l, b) := l.stopAndClear env b
  if ¬ stopped then (.stopFailed, l, b)
  else if protocolIngressRoute frame ≠ .linkSync then (.invalidLinkSync, l, b)
  else
    let (sent, b) := uartProtocolTransmitterSend env b
      (linkSyncOkFrame frame.sequence (linkSyncDecode frame.payload.bytes))
    if ¬ sent then (.transmitFailed, l, b)
    else (.synchronized, { l with lastHeartbeatMs := nowMs, synchronized := true }, b)

/-- `uart_link_manager_handle`. -/
def handle (frame : ProtocolFrame) (nowMs : UInt32) (l : UartLinkManager) (b : Board) :
    UartLinkManagerResult × UartLinkManager × Board :=
  if ¬ l.initialized then (.notInitialized, l, b)
  else if frame.messageType = .linkSync then l.handleLinkSync env frame nowMs b
  else if frame.messageType = .heartbeat then l.handleHeartbeat env frame nowMs b
  else (.notLinkMessage, l, b)

/-- `uart_link_manager_update`. -/
def update (nowMs : UInt32) (l : UartLinkManager) (b : Board) :
    UartLinkManagerUpdate × UartLinkManager × Board :=
  if ¬ l.initialized ∨ ¬ l.synchronized then (.none, l, b)
  else if nowMs - l.lastHeartbeatMs < l.heartbeatTimeoutMs then (.none, l, b)
  else
    let (stopped, l, b) := l.stopAndClear env b
    (if ¬ stopped then .stopFailed else .linkLost, l, b)

end Calls

/-- A heartbeat the link manager sends. -/
def Beats (e : BoardEvent) : Prop := ∃ f ok, e = .transmit f ok ∧ f.messageType = .heartbeat

/-- A frame the link manager sends while it handles `frame`. -/
def Answers (frame : ProtocolFrame) (e : BoardEvent) : Prop :=
  Beats e ∨ protocolIngressRoute frame = .linkSync ∧
    ∃ ok, e = .transmit (linkSyncOkFrame frame.sequence (linkSyncDecode frame.payload.bytes)) ok

/-- Everything the link manager can do with a frame. -/
inductive Outcome (frame : ProtocolFrame) (l : UartLinkManager) (b : Board) :
    UartLinkManagerResult × UartLinkManager × Board → Prop where
  | kept (result : UartLinkManagerResult) (l' : UartLinkManager) (events : List BoardEvent)
      (hresult : result ≠ .synchronized) (hl' : l'.synchronized = l.synchronized)
      (hevents : ∀ e ∈ events, Beats e) :
      Outcome frame l b (result, l', { b with log := b.log ++ events })
  | dropped (result : UartLinkManagerResult) (l' : UartLinkManager) (before : List BoardEvent)
      (out : Bool × Board) (after : List BoardEvent) (hresult : result ≠ .synchronized)
      (hl' : l'.synchronized = false) (hbefore : ∀ e ∈ before, Answers frame e)
      (hout : StopOutcome { b with log := b.log ++ before } out)
      (hafter : ∀ e ∈ after, Answers frame e) :
      Outcome frame l b (result, l', { out.2 with log := out.2.log ++ after })
  | synchronized (l' : UartLinkManager) (out : Bool × Board)
      (hroute : protocolIngressRoute frame = .linkSync) (hl' : l'.synchronized = true)
      (hout : StopOutcome b out) :
      Outcome frame l b (.synchronized, l', out.2.emit (.transmit
        (linkSyncOkFrame frame.sequence (linkSyncDecode frame.payload.bytes)) true))

section Outcomes
variable (env : ℕ → PortAnswer) (frame : ProtocolFrame) (nowMs : UInt32) (l : UartLinkManager)
  (b : Board)

/-- The link has been cleared and a stop attempted, between sending `before` and `after`. -/
theorem cleared_outcome (hi : b.guard.initialized = true) (before after : List BoardEvent)
    (hbefore : ∀ e ∈ before, Answers frame e) (hafter : ∀ e ∈ after, Answers frame e)
    (result : UartLinkManagerResult) (hresult : result ≠ .synchronized) :
    Outcome frame l b (result, { l with synchronized := false },
      { (motionCommandGuardStop env { b with log := b.log ++ before }).2 with
        log := (motionCommandGuardStop env { b with log := b.log ++ before }).2.log ++ after }) :=
  .dropped result _ before _ after hresult rfl hbefore
    (motionCommandGuardStop_outcome env { b with log := b.log ++ before } hi) hafter

theorem dropLink_outcome (hi : b.guard.initialized = true) (before : List BoardEvent)
    (hbefore : ∀ e ∈ before, Answers frame e) (result : UartLinkManagerResult)
    (hresult : result ≠ .synchronized) :
    Outcome frame l b (l.dropLink env { b with log := b.log ++ before } result) := by
  have h := fun result hresult => cleared_outcome env frame l b hi before [] hbefore (by simp)
    result hresult
  rw [dropLink, stopAndClear]
  cases hstopped : (motionCommandGuardStop env { b with log := b.log ++ before }).1 with
  | false => simpa [hstopped] using h .stopFailed (by simp)
  | true => simpa [hstopped] using h result hresult

theorem handleLinkSync_outcome (hi : b.guard.initialized = true) :
    Outcome frame l b (l.handleLinkSync env frame nowMs b) := by
  have hcleared := fun after hafter => cleared_outcome env frame l b hi [] after (by simp) hafter
  simp only [List.append_nil] at hcleared
  rw [handleLinkSync, stopAndClear]
  cases hstopped : (motionCommandGuardStop env b).1 with
  | false => simpa [hstopped] using hcleared [] (by simp) .stopFailed (by simp)
  | true =>
    by_cases hroute : protocolIngressRoute frame = .linkSync
    · obtain ⟨sent, hsend⟩ : ∃ sent, uartProtocolTransmitterSend env
          (motionCommandGuardStop env b).2
          (linkSyncOkFrame frame.sequence (linkSyncDecode frame.payload.bytes)) =
          (sent, (motionCommandGuardStop env b).2.emit (.transmit
            (linkSyncOkFrame frame.sequence (linkSyncDecode frame.payload.bytes)) sent)) :=
        ⟨_, rfl⟩
      cases sent with
      | false =>
        simpa [hstopped, hroute, hsend, Board.emit] using hcleared
          [.transmit (linkSyncOkFrame frame.sequence (linkSyncDecode frame.payload.bytes)) false]
          (by simpa [Answers] using .inr hroute) .transmitFailed (by simp)
      | true =>
        have h : Outcome frame l b (.synchronized,
            { l with lastHeartbeatMs := nowMs, synchronized := true },
            (motionCommandGuardStop env b).2.emit (.transmit
              (linkSyncOkFrame frame.sequence (linkSyncDecode frame.payload.bytes)) true)) :=
          .synchronized _ _ hroute rfl (motionCommandGuardStop_outcome env b hi)
        simpa [hstopped, hroute, hsend] using h
    · simpa [hstopped, hroute] using hcleared [] (by simp) .invalidLinkSync (by simp)

theorem handleHeartbeat_outcome (hi : b.guard.initialized = true) :
    Outcome frame l b (l.handleHeartbeat env frame nowMs b) := by
  have hbeats : ∀ linkState sent, ∀ e ∈ [BoardEvent.transmit
      (heartbeatFrame frame.sequence linkState nowMs) sent], Beats e := by
    intro linkState sent e he
    exact ⟨_, _, List.mem_singleton.mp he, rfl⟩
  have hanswers : ∀ linkState sent, ∀ e ∈ [BoardEvent.transmit
      (heartbeatFrame frame.sequence linkState nowMs) sent], Answers frame e :=
    fun linkState sent e he => .inl (hbeats linkState sent e he)
  have hsend : ∀ b' linkState, ∃ sent, uartProtocolTransmitterSend env b'
      (heartbeatFrame frame.sequence linkState nowMs) =
      (sent, b'.emit (.transmit (heartbeatFrame frame.sequence linkState nowMs) sent)) :=
    fun b' linkState => ⟨_, rfl⟩
  have hkept : ∀ l' : UartLinkManager, l'.synchronized = l.synchronized →
      ∀ events : List BoardEvent, (∀ e ∈ events, Beats e) → ∀ result, result ≠ .synchronized →
        Outcome frame l b (result, l', { b with log := b.log ++ events }) :=
    fun l' hl' events hevents result hresult => .kept result l' events hresult hl' hevents
  have hinvalid : Outcome frame l b (l.dropLink env b .invalidHeartbeat) := by
    simpa using dropLink_outcome env frame l b hi [] (by simp) .invalidHeartbeat (by simp)
  rw [handleHeartbeat]
  by_cases hroute : protocolIngressRoute frame = .heartbeat
  · rw [if_neg (by simp [hroute])]
    simp only
    by_cases hpeer : (heartbeatDecode frame.payload.bytes).linkState = .unsynchronized
    · rw [if_pos hpeer]
      have hcleared := fun after hafter => cleared_outcome env frame l b hi [] after (by simp) hafter
      simp only [List.append_nil] at hcleared
      obtain ⟨sent, hsent⟩ := hsend (motionCommandGuardStop env b).2 .unsynchronized
      rw [stopAndClear]
      cases hstopped : (motionCommandGuardStop env b).1 with
      | false => simpa [hstopped] using hcleared [] (by simp) .stopFailed (by simp)
      | true =>
        have h := hcleared _ (hanswers .unsynchronized sent)
        cases sent with
        | false => simpa [hstopped, hsent, Board.emit] using h .transmitFailed (by simp)
        | true => simpa [hstopped, hsent, Board.emit] using h .peerUnsynchronized (by simp)
    · rw [if_neg hpeer]
      by_cases hstate : (heartbeatDecode frame.payload.bytes).linkState = .synchronized
      · rw [if_neg (by simp [hstate])]
        cases hsynchronized : l.synchronized with
        | false =>
          obtain ⟨sent, hsent⟩ := hsend b .unsynchronized
          have h := hkept l rfl _ (hbeats .unsynchronized sent)
          cases sent with
          | false => simpa [hsent, Board.emit] using h .transmitFailed (by simp)
          | true => simpa [hsent, Board.emit] using h .notSynchronized (by simp)
        | true =>
          obtain ⟨sent, hsent⟩ := hsend b .synchronized
          cases sent with
          | false =>
            simpa [hsent, Board.emit] using dropLink_outcome env frame l b hi _
              (hanswers .synchronized false) .transmitFailed (by simp)
          | true =>
            simpa [hsent, hsynchronized, Board.emit] using hkept { l with lastHeartbeatMs := nowMs }
              rfl _ (hbeats .synchronized true) .heartbeatAccepted (by simp)
      · rw [if_pos hstate]
        exact hinvalid
  · rw [if_pos hroute]
    exact hinvalid

theorem handle_outcome (hi : b.guard.initialized = true) :
    Outcome frame l b (l.handle env frame nowMs b) := by
  have hkept : ∀ result, result ≠ .synchronized → Outcome frame l b (result, l, b) := by
    intro result hresult
    have h : Outcome frame l b (result, l, { b with log := b.log ++ [] }) :=
      .kept result l [] hresult rfl (by simp)
    simpa using h
  rw [handle]
  by_cases hinit : l.initialized = true
  · rw [if_neg (by simp [hinit])]
    by_cases hsync : frame.messageType = .linkSync
    · rw [if_pos hsync]
      exact handleLinkSync_outcome env frame nowMs l b hi
    · rw [if_neg hsync]
      by_cases hheartbeat : frame.messageType = .heartbeat
      · rw [if_pos hheartbeat]
        exact handleHeartbeat_outcome env frame nowMs l b hi
      · rw [if_neg hheartbeat]
        exact hkept _ (by simp)
  · rw [if_pos (by simp [hinit])]
    exact hkept _ (by simp)

/-- The heartbeat timeout is the only thing the periodic update looks at. -/
theorem update_cases :
    l.update env nowMs b = (.none, l, b) ∨
      ∃ result, (result = .linkLost ∨ result = .stopFailed) ∧
        l.update env nowMs b =
          (result, { l with synchronized := false }, (motionCommandGuardStop env b).2) := by
  rw [update]
  split_ifs
  · exact .inl rfl
  · exact .inl rfl
  · refine .inr ⟨if ¬ (motionCommandGuardStop env b).1 then .stopFailed else .linkLost, ?_, rfl⟩
    split_ifs
    · exact .inl rfl
    · exact .inr rfl

end Outcomes

end UartLinkManager

end IndoorRobot
