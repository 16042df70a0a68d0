import IndoorRobot.EventLogs
import IndoorRobot.UartLinkManager

/-!
# Link synchronization as a condition on the trace

The calls of the link manager, each with the board it finds and the events it causes
there. Whether the link is synchronized can be read off these records alone: it is the
answered LINK_SYNC that nothing has undone since. The time of the last sign of life is
followed through the trace together with it.
-/
namespace IndoorRobot
open EventLogs

/-- A call of the link manager. -/
inductive LinkCall where
  | handle (frame : ProtocolFrame) (nowMs : UInt32)
  | update (nowMs : UInt32)

/-- A call and the events it caused at the board. -/
structure LinkRecord where
  call : LinkCall
  events : List BoardEvent

/-- The call handles a LINK_SYNC, of whatever length. -/
def LinkCall.IsLinkSync (c : LinkCall) : Prop :=
  ∃ frame nowMs, c = .handle frame nowMs ∧ frame.messageType = .linkSync

@[simp] theorem LinkCall.isLinkSync_handle_iff {frame : ProtocolFrame} {nowMs : UInt32} :
    (LinkCall.handle frame nowMs).IsLinkSync ↔ frame.messageType = .linkSync := by
  simp [LinkCall.IsLinkSync]

@[simp] theorem LinkCall.not_isLinkSync_update {nowMs : UInt32} :
    ¬ (LinkCall.update nowMs).IsLinkSync := by
  simp [LinkCall.IsLinkSync]

namespace LinkRecord

/-- A LINK_SYNC with an 8-byte payload, handled at `time`: the motors were stopped and the
LINK_SYNC_OK went out. -/
def Syncs (r : LinkRecord) (time : UInt32) : Prop :=
  ∃ frame, r.call = .handle frame time ∧ frame.messageType = .linkSync ∧ frame.payloadLength = 8 ∧
    .driverStop true ∈ r.events ∧
    .transmit (linkSyncOkFrame frame.sequence (linkSyncDecode frame.payload.bytes)) true ∈ r.events

/-- What ends the synchronization, with the last sign of life at `contact`. -/
def Drops (timeoutMs contact : UInt32) (r : LinkRecord) : Prop :=
  match r.call with
  | .handle frame _ =>
    frame.messageType = .linkSync ∨
      frame.messageType = .heartbeat ∧ (frame.payloadLength ≠ 5 ∨
        (heartbeatDecode frame.payload.bytes).linkState ≠ .synchronized) ∨
      ∃ reply, reply.messageType = .heartbeat ∧ .transmit reply false ∈ r.events
  | .update nowMs => timeoutMs ≤ nowMs - contact

/-- The time of a HEARTBEAT that was answered as synchronized. -/
def acceptedAt (r : LinkRecord) : Option UInt32 :=
  match r.call with
  | .handle frame nowMs =>
    if frame.messageType = .heartbeat ∧
        .transmit (heartbeatFrame frame.sequence .synchronized nowMs) true ∈ r.events then
      some nowMs
    else none
  | .update _ => none

/-- The last sign of life after the call. -/
def lastContact (contact : UInt32) (r : LinkRecord) : UInt32 := r.acceptedAt.getD contact

end LinkRecord

/-- The last LINK_SYNC was answered after a stop, and nothing has dropped the link since. -/
def Synchronized (timeoutMs : UInt32) (history : List LinkRecord) : Prop :=
  ∃ earlier sync later time, history = earlier ++ sync :: later ∧ sync.Syncs time ∧
    Always (fun before r => ¬ r.Drops timeoutMs (before.foldl LinkRecord.lastContact time)) later

theorem synchronized_iff_alive {timeoutMs : UInt32} {history : List LinkRecord} :
    Synchronized timeoutMs history ↔ ∃ contact,
      Alive LinkRecord.Syncs (fun t r => r.Drops timeoutMs t) LinkRecord.lastContact history
        contact := by
  constructor
  · rintro ⟨earlier, sync, later, time, hsplit, hsync, hkept⟩
    exact ⟨_, earlier, sync, later, time, hsplit, hsync, hkept, rfl⟩
  · rintro ⟨contact, earlier, sync, later, time, hsplit, hsync, hkept, -⟩
    exact ⟨earlier, sync, later, time, hsplit, hsync, hkept⟩

theorem route_linkSync_iff {frame : ProtocolFrame} (htype : frame.messageType = .linkSync) :
    protocolIngressRoute frame = .linkSync ↔ frame.payloadLength = 8 := by
  rw [protocolIngressRoute, if_pos htype, ProtocolFrame.routeSized]
  split_ifs with hlength
  · simpa [linkSyncWireSize] using hlength
  · simpa [linkSyncWireSize] using hlength

theorem route_heartbeat_iff {frame : ProtocolFrame} (htype : frame.messageType = .heartbeat) :
    protocolIngressRoute frame = .heartbeat ↔ frame.payloadLength = 5 := by
  have hsync : frame.messageType ≠ .linkSync := by rw [htype]; decide
  have hsyncOk : frame.messageType ≠ .linkSyncOk := by rw [htype]; decide
  rw [protocolIngressRoute, if_neg hsync, if_neg hsyncOk, if_pos htype, ProtocolFrame.routeSized]
  split_ifs with hlength
  · simpa [heartbeatWireSize] using hlength
  · simpa [heartbeatWireSize] using hlength

namespace UartLinkManager

section Runs
variable (env : ℕ → PortAnswer)

/-- One call, on the board it finds. -/
def perform (c : LinkCall) (l : UartLinkManager) (b : Board) : UartLinkManager × Board :=
  match c with
  | .handle frame nowMs => (l.handle env frame nowMs b).2
  | .update nowMs => (l.update env nowMs b).2

/-- The call with the events it adds to the log. -/
def record (c : LinkCall) (l : UartLinkManager) (b : Board) : LinkRecord :=
  { call := c, events := (perform env c l b).2.log.drop b.log.length }

/-- Calls after the initialization, the board of each as the rest of the firmware left it. -/
def run (timeoutMs : UInt32) (calls : List (LinkCall × Board)) :
    UartLinkManager × List LinkRecord :=
  recordRun (fun c l => (record env c.1 l c.2, (perform env c.1 l c.2).1)) (init timeoutMs).2 calls

theorem run_concat (timeoutMs : UInt32) (calls : List (LinkCall × Board)) (c : LinkCall) (b : Board) :
    run env timeoutMs (calls ++ [(c, b)]) =
      ((perform env c (run env timeoutMs calls).1 b).1,
        (run env timeoutMs calls).2 ++ [record env c (run env timeoutMs calls).1 b]) :=
  recordRun_concat _ _ calls (c, b)

/-- The board was stopped by the guard, and no LINK_SYNC_OK went out before that. -/
def StopsFirst (b b' : Board) : Prop :=
  ∃ before after,
    b' = { (motionCommandGuardStop env { b with log := b.log ++ before }).2 with
      log := (motionCommandGuardStop env { b with log := b.log ++ before }).2.log ++ after } ∧
    ∀ f ok, f.messageType = .linkSyncOk → .transmit f ok ∉ before

/-- The stop is on the log exactly if it succeeded, and it sends nothing. -/
theorem motionCommandGuardStop_events (b : Board) :
    ∃ events, (motionCommandGuardStop env b).2.log = b.log ++ events ∧
      ((motionCommandGuardStop env b).1 = true ↔ .driverStop true ∈ events) ∧
      ∀ f ok, .transmit f ok ∉ events := by
  by_cases hi : b.guard.initialized = true
  · have hout := motionCommandGuardStop_outcome env b hi
    generalize motionCommandGuardStop env b = out at hout ⊢
    cases hout with
    | stopped motor => exact ⟨_, rfl, by simp, by simp⟩
    | failed events hevents =>
      refine ⟨events, rfl, ⟨by simp, fun h => ?_⟩, fun f ok h => ?_⟩
      · rcases hevents _ h with h | h <;> cases h
      · rcases hevents _ h with h | h <;> cases h
  · refine ⟨[], ?_, ?_, by simp⟩
    · simp [motionCommandGuardStop, hi]
    · simp [motionCommandGuardStop, hi]

/-- What one call does to the synchronization, as its record tells it. -/
structure Step (timeoutMs : UInt32) (r : LinkRecord) (l : UartLinkManager) (b : Board)
    (l' : UartLinkManager) (b' : Board) : Prop where
  initialized : l'.initialized = true
  timeout : l'.heartbeatTimeoutMs = timeoutMs
  follows : ∀ contact, l'.synchronized = true ∧ l'.lastHeartbeatMs = contact ↔
    r.Syncs contact ∨ (l.synchronized = true ∧ ¬ r.Drops timeoutMs l.lastHeartbeatMs ∧
      r.lastContact l.lastHeartbeatMs = contact)
  stops : l.synchronized = true ∧ l'.synchronized = false ∨ r.call.IsLinkSync → StopsFirst env b b'

variable {timeoutMs : UInt32} {r : LinkRecord} {l : UartLinkManager} {b : Board}

/-- The link goes down, and its record says why. -/
theorem Step.dropped (hi : l.initialized = true) (ht : l.heartbeatTimeoutMs = timeoutMs)
    {b' : Board} (hstops : StopsFirst env b b') (hsyncs : ∀ time, ¬ r.Syncs time)
    (hdrops : r.Drops timeoutMs l.lastHeartbeatMs) :
    Step env timeoutMs r l b { l with synchronized := false } b' where
  initialized := hi
  timeout := ht
  follows := by simp [hsyncs, hdrops]
  stops := fun _ => hstops

/-- The LINK_SYNC was answered. -/
theorem Step.synced (hi : l.initialized = true) (ht : l.heartbeatTimeoutMs = timeoutMs)
    {b' : Board} (hstops : StopsFirst env b b') {nowMs : UInt32} (hsyncs : r.Syncs nowMs) :
    Step env timeoutMs r l b { l with lastHeartbeatMs := nowMs, synchronized := true } b' where
  initialized := hi
  timeout := ht
  follows := by
    intro contact
    obtain ⟨call, events⟩ := r
    obtain ⟨frame, rfl, htype, hrest⟩ := hsyncs
    have hdrops : LinkRecord.Drops timeoutMs l.lastHeartbeatMs ⟨.handle frame nowMs, events⟩ :=
      .inl htype
    simp only [hdrops, not_true_eq_false, false_and, and_false, or_false, true_and]
    constructor
    · rintro rfl
      exact ⟨frame, rfl, htype, hrest⟩
    · rintro ⟨f, hcall, -⟩
      injection hcall
  stops := fun _ => hstops

theorem not_syncs_of_not_isLinkSync (hcall : ¬ r.call.IsLinkSync) (time : UInt32) :
    ¬ r.Syncs time := by
  rintro ⟨frame, hr, htype, -⟩
  exact hcall ⟨frame, time, hr, htype⟩

/-- The link stays up, with or without a sign of life. -/
theorem Step.kept (hi : l.initialized = true) (ht : l.heartbeatTimeoutMs = timeoutMs)
    {b' : Board} (hcall : ¬ r.call.IsLinkSync) (hdrops : ¬ r.Drops timeoutMs l.lastHeartbeatMs) :
    Step env timeoutMs r l b { l with lastHeartbeatMs := r.lastContact l.lastHeartbeatMs } b' where
  initialized := hi
  timeout := ht
  follows := by simp [not_syncs_of_not_isLinkSync hcall, hdrops]
  stops := by
    rintro (⟨hsync, hdown⟩ | hlink)
    · simp [hsync] at hdown
    · exact absurd hlink hcall

/-- A link that is down stays down. -/
theorem Step.idle (hi : l.initialized = true) (ht : l.heartbeatTimeoutMs = timeoutMs)
    {b' : Board} (hcall : ¬ r.call.IsLinkSync) (hdown : l.synchronized = false) :
    Step env timeoutMs r l b l b' where
  initialized := hi
  timeout := ht
  follows := by simp [not_syncs_of_not_isLinkSync hcall, hdown]
  stops := by simp [hdown, hcall]

/-- A result whose record is the given call with the events it added. -/
def Recorded (timeoutMs : UInt32) (c : LinkCall) (l : UartLinkManager) (b : Board)
    (out : UartLinkManager × Board) : Prop :=
  ∃ events, out.2.log = b.log ++ events ∧ Step env timeoutMs ⟨c, events⟩ l b out.1 out.2

variable {frame : ProtocolFrame} {nowMs : UInt32}

theorem stopsFirst_at_once : StopsFirst env b (motionCommandGuardStop env b).2 :=
  ⟨[], [], by simp, by simp⟩

theorem stopsFirst_then_transmit (reply : ProtocolFrame) (sent : Bool) :
    StopsFirst env b ((motionCommandGuardStop env b).2.emit (.transmit reply sent)) :=
  ⟨[], [.transmit reply sent], by simp [Board.emit], by simp⟩

theorem uartProtocolTransmitterSend_emits (b : Board) (reply : ProtocolFrame) :
    ∃ sent, uartProtocolTransmitterSend env b reply = (sent, b.emit (.transmit reply sent)) :=
  ⟨_, rfl⟩

/-- The stop succeeded and the payload is well formed, so the link depends on the answer alone. -/
theorem linkSyncAnswer_recorded (hi : l.initialized = true) (ht : l.heartbeatTimeoutMs = timeoutMs)
    (htype : frame.messageType = .linkSync) (hroute : protocolIngressRoute frame = .linkSync)
    (hstopped : (motionCommandGuardStop env b).1 = true) :
    Recorded env timeoutMs (.handle frame nowMs) l b (l.handleLinkSync env frame nowMs b).2 := by
  obtain ⟨stopEvents, hlog, hstop, hsilent⟩ := motionCommandGuardStop_events env b
  obtain ⟨sent, hsend⟩ := uartProtocolTransmitterSend_emits env (motionCommandGuardStop env b).2
    (linkSyncOkFrame frame.sequence (linkSyncDecode frame.payload.bytes))
  have hstops := stopsFirst_then_transmit env (b := b)
    (linkSyncOkFrame frame.sequence (linkSyncDecode frame.payload.bytes)) sent
  rw [handleLinkSync, stopAndClear]
  refine ⟨stopEvents ++ [.transmit
    (linkSyncOkFrame frame.sequence (linkSyncDecode frame.payload.bytes)) sent], ?_, ?_⟩
  · cases sent <;> simp [hstopped, hroute, hsend, hlog, Board.emit]
  · cases sent with
    | false =>
      have hsyncs : ∀ time, ¬ LinkRecord.Syncs ⟨.handle frame nowMs, stopEvents ++ [.transmit
          (linkSyncOkFrame frame.sequence (linkSyncDecode frame.payload.bytes)) false]⟩ time := by
        rintro time ⟨f, -, -, -, -, hanswer⟩
        rcases List.mem_append.mp hanswer with h | h
        · exact hsilent _ _ h
        · simp at h
      simpa [hstopped, hroute, hsend] using Step.dropped env hi ht hstops hsyncs (.inl htype)
    | true =>
      have hsyncs : LinkRecord.Syncs ⟨.handle frame nowMs, stopEvents ++ [.transmit
          (linkSyncOkFrame frame.sequence (linkSyncDecode frame.payload.bytes)) true]⟩ nowMs :=
        ⟨frame, rfl, htype, (route_linkSync_iff htype).mp hroute,
          List.mem_append_left _ (hstop.mp hstopped), by simp⟩
      simpa [hstopped, hroute, hsend] using Step.synced env hi ht hstops hsyncs

theorem handleLinkSync_recorded (hi : l.initialized = true) (ht : l.heartbeatTimeoutMs = timeoutMs)
    (htype : frame.messageType = .linkSync) :
    Recorded env timeoutMs (.handle frame nowMs) l b (l.handleLinkSync env frame nowMs b).2 := by
  obtain ⟨stopEvents, hlog, hstop, -⟩ := motionCommandGuardStop_events env b
  cases hstopped : (motionCommandGuardStop env b).1 with
  | false =>
    have hsyncs : ∀ time, ¬ LinkRecord.Syncs ⟨.handle frame nowMs, stopEvents⟩ time := by
      rintro time ⟨f, -, -, -, hdone, -⟩
      simp [hstop.mpr hdone] at hstopped
    rw [handleLinkSync, stopAndClear]
    refine ⟨stopEvents, by simpa [hstopped] using hlog, ?_⟩
    simpa [hstopped] using Step.dropped env hi ht (stopsFirst_at_once env) hsyncs (.inl htype)
  | true =>
    by_cases hroute : protocolIngressRoute frame = .linkSync
    · exact linkSyncAnswer_recorded env hi ht htype hroute hstopped
    · have hsyncs : ∀ time, ¬ LinkRecord.Syncs ⟨.handle frame nowMs, stopEvents⟩ time := by
        rintro time ⟨f, hcall, -, hlength, -⟩
        obtain ⟨rfl, -⟩ : frame = f ∧ nowMs = time := by simpa using hcall
        exact hroute ((route_linkSync_iff htype).mpr hlength)
      rw [handleLinkSync, stopAndClear]
      refine ⟨stopEvents, by simpa [hstopped, hroute] using hlog, ?_⟩
      simpa [hstopped, hroute] using
        Step.dropped env hi ht (stopsFirst_at_once env) hsyncs (.inl htype)

/-- A drop after the events `before`, for a reason that any record of the call shows. -/
theorem dropLink_recorded (hi : l.initialized = true) (ht : l.heartbeatTimeoutMs = timeoutMs)
    {c : LinkCall} (hcall : ¬ c.IsLinkSync) (before : List BoardEvent)
    (hbefore : ∀ f ok, f.messageType = .linkSyncOk → .transmit f ok ∉ before)
    (hdrops : ∀ events, LinkRecord.Drops timeoutMs l.lastHeartbeatMs ⟨c, before ++ events⟩)
    (result : UartLinkManagerResult) :
    Recorded env timeoutMs c l b (l.dropLink env { b with log := b.log ++ before } result).2 := by
  obtain ⟨stopEvents, hlog, -⟩ :=
    motionCommandGuardStop_events env { b with log := b.log ++ before }
  refine ⟨before ++ stopEvents, by simpa [dropLink, stopAndClear] using hlog, ?_⟩
  exact Step.dropped env hi ht ⟨before, [], by simp [dropLink, stopAndClear], hbefore⟩
    (not_syncs_of_not_isLinkSync hcall) (hdrops stopEvents)

theorem heartbeat_ne_linkSync (htype : frame.messageType = .heartbeat) :
    frame.messageType ≠ .linkSync := by
  rw [htype]
  decide

/-- A heartbeat does not answer a LINK_SYNC. -/
theorem heartbeatFrame_no_linkSyncOk (sequence : UInt16) (linkState : LinkState) (nowMs : UInt32)
    (sent : Bool) : ∀ f ok, f.messageType = .linkSyncOk →
      BoardEvent.transmit f ok ∉ [.transmit (heartbeatFrame sequence linkState nowMs) sent] := by
  rintro f ok hf hmem
  obtain ⟨rfl, -⟩ : f = heartbeatFrame sequence linkState nowMs ∧ ok = sent := by simpa using hmem
  exact absurd hf (by simp only [heartbeatFrame]; decide)

/-- The peer says that it is not synchronized. -/
theorem peerUnsynchronized_recorded (hi : l.initialized = true)
    (ht : l.heartbeatTimeoutMs = timeoutMs) (htype : frame.messageType = .heartbeat)
    (hroute : protocolIngressRoute frame = .heartbeat)
    (hpeer : (heartbeatDecode frame.payload.bytes).linkState = .unsynchronized) :
    Recorded env timeoutMs (.handle frame nowMs) l b (l.handleHeartbeat env frame nowMs b).2 := by
  have hcall : ¬ (LinkCall.handle frame nowMs).IsLinkSync := by
    simpa using heartbeat_ne_linkSync htype
  have hdrops : ∀ events, LinkRecord.Drops timeoutMs l.lastHeartbeatMs
      ⟨.handle frame nowMs, events⟩ :=
    fun events => .inr (.inl ⟨htype, .inr (by rw [hpeer]; decide)⟩)
  obtain ⟨stopEvents, hlog, -⟩ := motionCommandGuardStop_events env b
  obtain ⟨sent, hsent⟩ := uartProtocolTransmitterSend_emits env (motionCommandGuardStop env b).2
    (heartbeatFrame frame.sequence .unsynchronized nowMs)
  rw [handleHeartbeat, if_neg (by simp [hroute])]
  simp only
  rw [if_pos hpeer, stopAndClear]
  cases hstopped : (motionCommandGuardStop env b).1 with
  | false =>
    refine ⟨stopEvents, by simpa [hstopped] using hlog, ?_⟩
    simpa [hstopped] using Step.dropped env hi ht (stopsFirst_at_once env)
      (not_syncs_of_not_isLinkSync hcall) (hdrops stopEvents)
  | true =>
    have hstops := stopsFirst_then_transmit env (b := b)
      (heartbeatFrame frame.sequence .unsynchronized nowMs) sent
    refine ⟨stopEvents ++ [.transmit (heartbeatFrame frame.sequence .unsynchronized nowMs) sent],
      by simp [hsent, hlog, Board.emit], ?_⟩
    simpa [hstopped, hsent] using Step.dropped env hi ht hstops
      (not_syncs_of_not_isLinkSync hcall) (hdrops _)

/-- The peer says that it is synchronized; the answer depends on whether this side is. -/
theorem peerSynchronized_recorded (hi : l.initialized = true)
    (ht : l.heartbeatTimeoutMs = timeoutMs) (htype : frame.messageType = .heartbeat)
    (hroute : protocolIngressRoute frame = .heartbeat)
    (hpeer : (heartbeatDecode frame.payload.bytes).linkState = .synchronized) :
    Recorded env timeoutMs (.handle frame nowMs) l b (l.handleHeartbeat env frame nowMs b).2 := by
  have hlink := heartbeat_ne_linkSync htype
  have hcall : ¬ (LinkCall.handle frame nowMs).IsLinkSync := by simpa using hlink
  have hlength := (route_heartbeat_iff htype).mp hroute
  have hother : LinkState.synchronized ≠ .unsynchronized := by decide
  rw [handleHeartbeat, if_neg (by simp [hroute])]
  simp only
  rw [hpeer, if_neg hother, if_neg (by simp)]
  cases hsynchronized : l.synchronized with
  | false =>
    obtain ⟨sent, hsent⟩ := uartProtocolTransmitterSend_emits env b
      (heartbeatFrame frame.sequence .unsynchronized nowMs)
    refine ⟨[.transmit (heartbeatFrame frame.sequence .unsynchronized nowMs) sent],
      by simp [hsent, Board.emit], ?_⟩
    simpa [hsent] using Step.idle env hi ht hcall hsynchronized
  | true =>
    obtain ⟨sent, hsent⟩ := uartProtocolTransmitterSend_emits env b
      (heartbeatFrame frame.sequence .synchronized nowMs)
    cases sent with
    | false =>
      have hdrops : ∀ events, LinkRecord.Drops timeoutMs l.lastHeartbeatMs ⟨.handle frame nowMs,
          [.transmit (heartbeatFrame frame.sequence .synchronized nowMs) false] ++ events⟩ :=
        fun events => .inr (.inr ⟨_, rfl, List.mem_cons_self⟩)
      simpa [hsent, Board.emit] using dropLink_recorded env hi ht hcall _
        (heartbeatFrame_no_linkSyncOk _ _ _ _) hdrops .transmitFailed
    | true =>
      have hdrops : ¬ LinkRecord.Drops timeoutMs l.lastHeartbeatMs ⟨.handle frame nowMs,
          [.transmit (heartbeatFrame frame.sequence .synchronized nowMs) true]⟩ := by
        simp [LinkRecord.Drops, hlink, hlength, hpeer]
      have hstep : Step env timeoutMs ⟨.handle frame nowMs,
          [.transmit (heartbeatFrame frame.sequence .synchronized nowMs) true]⟩ l b _
          (b.emit (.transmit (heartbeatFrame frame.sequence .synchronized nowMs) true)) :=
        Step.kept env hi ht hcall hdrops
      refine ⟨[.transmit (heartbeatFrame frame.sequence .synchronized nowMs) true],
        by simp [hsent, Board.emit], ?_⟩
      simpa [hsent, hsynchronized, LinkRecord.lastContact, LinkRecord.acceptedAt, htype] using hstep

theorem handleHeartbeat_recorded (hi : l.initialized = true)
    (ht : l.heartbeatTimeoutMs = timeoutMs) (htype : frame.messageType = .heartbeat) :
    Recorded env timeoutMs (.handle frame nowMs) l b (l.handleHeartbeat env frame nowMs b).2 := by
  have hcall : ¬ (LinkCall.handle frame nowMs).IsLinkSync := by
    simpa using heartbeat_ne_linkSync htype
  have hinvalid : (frame.payloadLength ≠ 5 ∨
      (heartbeatDecode frame.payload.bytes).linkState ≠ .synchronized) →
      Recorded env timeoutMs (.handle frame nowMs) l b (l.dropLink env b .invalidHeartbeat).2 := by
    intro hwrong
    simpa using dropLink_recorded env hi ht hcall [] (by simp)
      (fun events => .inr (.inl ⟨htype, hwrong⟩)) .invalidHeartbeat
  by_cases hroute : protocolIngressRoute frame = .heartbeat
  · by_cases hdown : (heartbeatDecode frame.payload.bytes).linkState = .unsynchronized
    · exact peerUnsynchronized_recorded env hi ht htype hroute hdown
    · by_cases hup : (heartbeatDecode frame.payload.bytes).linkState = .synchronized
      · exact peerSynchronized_recorded env hi ht htype hroute hup
      · rw [handleHeartbeat, if_neg (by simp [hroute])]
        simp only
        rw [if_neg hdown, if_pos hup]
        exact hinvalid (.inr hup)
  · rw [handleHeartbeat, if_pos hroute]
    exact hinvalid (.inl fun h => hroute ((route_heartbeat_iff htype).mpr h))

/-- Frames of other types pass by. -/
theorem handle_recorded (hi : l.initialized = true) (ht : l.heartbeatTimeoutMs = timeoutMs) :
    Recorded env timeoutMs (.handle frame nowMs) l b (l.handle env frame nowMs b).2 := by
  rw [handle, if_neg (by simp [hi])]
  by_cases hsync : frame.messageType = .linkSync
  · rw [if_pos hsync]
    exact handleLinkSync_recorded env hi ht hsync
  · rw [if_neg hsync]
    by_cases hheartbeat : frame.messageType = .heartbeat
    · rw [if_pos hheartbeat]
      exact handleHeartbeat_recorded env hi ht hheartbeat
    · rw [if_neg hheartbeat]
      have hdrops : ¬ LinkRecord.Drops timeoutMs l.lastHeartbeatMs ⟨.handle frame nowMs, []⟩ := by
        simp [LinkRecord.Drops, hsync, hheartbeat]
      have hstep : Step env timeoutMs ⟨.handle frame nowMs, []⟩ l b _ b :=
        Step.kept env hi ht (by simpa using hsync) hdrops
      refine ⟨[], by simp, ?_⟩
      simpa [LinkRecord.lastContact, LinkRecord.acceptedAt] using hstep

theorem update_recorded (hi : l.initialized = true) (ht : l.heartbeatTimeoutMs = timeoutMs) :
    Recorded env timeoutMs (.update nowMs) l b (l.update env nowMs b).2 := by
  have hcall : ¬ (LinkCall.update nowMs).IsLinkSync := LinkCall.not_isLinkSync_update
  cases hsynchronized : l.synchronized with
  | false =>
    rw [update, if_pos (.inr (by simp [hsynchronized]))]
    exact ⟨[], by simp, Step.idle env hi ht hcall hsynchronized⟩
  | true =>
    rw [update, if_neg (by simp [hi, hsynchronized]), ht]
    by_cases hfresh : nowMs - l.lastHeartbeatMs < timeoutMs
    · rw [if_pos hfresh]
      have hstep : Step env timeoutMs ⟨.update nowMs, []⟩ l b _ b :=
        Step.kept env hi ht hcall (by simpa [LinkRecord.Drops] using hfresh)
      refine ⟨[], by simp, ?_⟩
      simpa [LinkRecord.lastContact, LinkRecord.acceptedAt] using hstep
    · rw [if_neg hfresh, stopAndClear]
      obtain ⟨stopEvents, hlog, -⟩ := motionCommandGuardStop_events env b
      refine ⟨stopEvents, hlog, ?_⟩
      exact Step.dropped env hi ht (stopsFirst_at_once env) (not_syncs_of_not_isLinkSync hcall)
        (by simpa [LinkRecord.Drops] using hfresh)

theorem perform_step (hi : l.initialized = true) (ht : l.heartbeatTimeoutMs = timeoutMs)
    (c : LinkCall) :
    Step env timeoutMs (record env c l b) l b (perform env c l b).1 (perform env c l b).2 := by
  have hrecorded : Recorded env timeoutMs c l b (perform env c l b) := by
    cases c with
    | handle frame nowMs => exact handle_recorded env hi ht
    | update nowMs => exact update_recorded env hi ht
  obtain ⟨events, hlog, hstep⟩ := hrecorded
  have hrecord : record env c l b = ⟨c, events⟩ := by simp [record, hlog]
  rwa [hrecord]

/-- The manager after a run, as the records of the run describe it. -/
theorem run_follows (hinit : (init timeoutMs).1 = true) (calls : List (LinkCall × Board)) :
    (run env timeoutMs calls).1.initialized = true ∧
      (run env timeoutMs calls).1.heartbeatTimeoutMs = timeoutMs ∧
      ∀ contact, (run env timeoutMs calls).1.synchronized = true ∧
          (run env timeoutMs calls).1.lastHeartbeatMs = contact ↔
        Alive LinkRecord.Syncs (fun t r => r.Drops timeoutMs t) LinkRecord.lastContact
          (run env timeoutMs calls).2 contact := by
  induction calls using List.reverseRecOn with
  | nil =>
    have hnonzero : timeoutMs ≠ 0 := by
      rintro rfl
      simp [init] at hinit
    simp [run, recordRun, init, hnonzero, not_alive_nil]
  | append_singleton calls c ih =>
    obtain ⟨hi, ht, hfollows⟩ := ih
    obtain ⟨c, b⟩ := c
    have hstep := perform_step (b := b) env hi ht c
    rw [run_concat]
    refine ⟨hstep.initialized, hstep.timeout, fun contact => ?_⟩
    rw [hstep.follows contact, alive_concat_iff]
    apply or_congr_right
    constructor
    · rintro ⟨hsync, hdrops, hcontact⟩
      exact ⟨_, (hfollows _).mp ⟨hsync, rfl⟩, hdrops, hcontact⟩
    · rintro ⟨before, halive, hdrops, hcontact⟩
      obtain ⟨hsync, rfl⟩ := (hfollows before).mpr halive
      exact ⟨hsync, hdrops, hcontact⟩

/-- Synchronization is the condition on the trace, and it never ends or begins without a stop. -/
theorem synchronized_is_trace_condition (timeoutMs : UInt32) (hinit : (init timeoutMs).1 = true)
    (calls : List (LinkCall × Board)) :
    ((run env timeoutMs calls).1.synchronized = true ↔
      Synchronized timeoutMs (run env timeoutMs calls).2) ∧
    ∀ c b, ((run env timeoutMs calls).1.synchronized = true ∧
          (perform env c (run env timeoutMs calls).1 b).1.synchronized = false ∨ c.IsLinkSync) →
        StopsFirst env b (perform env c (run env timeoutMs calls).1 b).2 := by
  obtain ⟨hi, ht, hfollows⟩ := run_follows env hinit calls
  refine ⟨?_, fun c b => (perform_step env hi ht c).stops⟩
  rw [synchronized_iff_alive]
  constructor
  · intro hsync
    exact ⟨_, (hfollows _).mp ⟨hsync, rfl⟩⟩
  · rintro ⟨contact, halive⟩
    exact ((hfollows contact).mpr halive).1

/-- A LINK_SYNC on a board whose guard is ready, and no answer to it refused. -/
theorem synchronized_is_trace_condition_first_sync :
    (init 500).1 = true ∧ Synchronized 500 (run (fun _ => {}) 500
      [(.handle { messageType := .linkSync, sequence := 1, payloadLength := 8 } 10,
        { motor := { initialized := true }, guard := { initialized := true } })]).2 := by
  have hinit : (init 500).1 = true := by decide
  exact ⟨hinit, (synchronized_is_trace_condition (fun _ => {}) 500 hinit _).1.mp rfl⟩

end Runs

end UartLinkManager

end IndoorRobot
