import IndoorRobot.ClientSessions
import IndoorRobot.EventLogs

/-!
# Retransmission of the Pi's motion commands

All calls of a motion session in any order, each leaving one event on a log. What the
session does with its pending transaction follows from the events since the last begin:
the frames it may still send, the timeout that applies, the one response it takes.
-/
namespace IndoorRobot
open EventLogs

/-- A call of `Stm32MotionSession` that may change it. -/
inductive SessionCall where
  | beginStartSession (motionSessionId : UInt32)
  | beginEndSession (motionSessionId : UInt32)
  | buildWheelVelocity (leftVelocityMmS rightVelocityMmS : Int16)
  | handleAck (frame : ProtocolFrame) (nowMs : UInt32)
  | handleResponse (frame : ProtocolFrame)
  | markPendingTransmitted (nowMs : UInt32)
  | retryIfDue (nowMs : UInt32)
  | reset

/-- What the caller of the session sees. -/
inductive SessionEvent where
  | began (frame : ProtocolFrame)
  | acknowledged
  | consumed (response : ProtocolFrame)
  | retried (frame : ProtocolFrame)
  | wasReset
  | quiet
  deriving DecidableEq

namespace SessionEvent

/-- A transaction begins. -/
def isBegin : SessionEvent → Bool
  | .began _ => true
  | _ => false

/-- A response was taken. -/
def isConsumed : SessionEvent → Bool
  | .consumed _ => true
  | _ => false

/-- The transaction is over. -/
def closes : SessionEvent → Bool
  | .consumed _ | .wasReset => true
  | _ => false

/-- The frame that was sent again. -/
def retry? : SessionEvent → Option ProtocolFrame
  | .retried f => some f
  | _ => none

end SessionEvent

/-- An acknowledgement of the given command, by type, sequence number and length. -/
def ProtocolFrame.Acknowledges (command f : ProtocolFrame) : Prop :=
  f.messageType = .motionAck ∧ f.sequence = command.sequence ∧ f.payloadLength = motionAckWireSize

/-- A response to the given command, by type, sequence number, length, command and session. -/
def ProtocolFrame.RespondsTo (command f : ProtocolFrame) : Prop :=
  f.messageType = .motionResponse ∧ f.sequence = command.sequence ∧
    f.payloadLength = motionResponseWireSize ∧
    (motionResponseDecode f.payload.bytes).command = command.transaction.command ∧
    (motionResponseDecode f.payload.bytes).motionSessionId = command.transaction.motionSessionId

namespace Stm32MotionSession

/-- One call and the event it leaves. -/
def perform (s : Stm32MotionSession) (c : SessionCall) : SessionEvent × Stm32MotionSession :=
  match c with
  | .beginStartSession motionSessionId =>
    let (frame, s) := s.beginStartSession motionSessionId
    (frame.elim .quiet .began, s)
  | .beginEndSession motionSessionId =>
    let (frame, s) := s.beginEndSession motionSessionId
    (frame.elim .quiet .began, s)
  | .buildWheelVelocity left right => (.quiet, (s.buildWheelVelocity left right).2)
  | .handleAck frame nowMs =>
    let (accepted, s) := s.handleAck frame nowMs
    (if accepted then .acknowledged else .quiet, s)
  | .handleResponse frame =>
    let (result, s) := s.handleResponse frame
    (if result.isSome then .consumed frame else .quiet, s)
  | .markPendingTransmitted nowMs => (.quiet, s.markPendingTransmitted nowMs)
  | .retryIfDue nowMs =>
    let (frame, s) := s.retryIfDue nowMs
    (frame.elim .quiet .retried, s)
  | .reset => (.wasReset, s.reset)

/-- The session and its log after the given calls on a new session. -/
def run (calls : List SessionCall) : Stm32MotionSession × List SessionEvent :=
  recordRun (fun c s => s.perform c) {} calls

variable {s t : Stm32MotionSession} {f g : ProtocolFrame}

theorem pendingFrame_sequence (hs : s.Consistent) (hpending : s.transactionPending = true) :
    s.pendingFrame.sequence = s.pendingSequence := by
  rw [(hs.pending hpending).2.1]
  rfl

theorem pendingFrame_transaction (hs : s.Consistent) (hpending : s.transactionPending = true) :
    s.pendingFrame.transaction = s.pendingTransaction := by
  rw [(hs.pending hpending).2.1, motionLifecycleCommandFrame_transaction]

/-- A frame that does not acknowledge the pending command is ignored. -/
theorem handleAck_ignores (hs : s.Consistent)
    (h : s.transactionPending = true → ¬ s.pendingFrame.Acknowledges f) (nowMs : UInt32) :
    s.handleAck f nowMs = (false, s) := by
  by_cases hpending : s.transactionPending = true
  · have hmatch := h hpending
    rw [ProtocolFrame.Acknowledges, pendingFrame_sequence hs hpending] at hmatch
    rw [handleAck]
    split_ifs
    all_goals first
      | rfl
      | simp_all
  · simp [handleAck, hpending]

theorem respondsTo_pendingFrame_iff (hs : s.Consistent) (hpending : s.transactionPending = true) :
    s.pendingFrame.RespondsTo f ↔ f.messageType = .motionResponse ∧
      f.sequence = s.pendingSequence ∧ f.payloadLength = motionResponseWireSize ∧
      (motionResponseDecode f.payload.bytes).command = s.pendingCommand ∧
      (motionResponseDecode f.payload.bytes).motionSessionId = s.pendingSessionId := by
  rw [ProtocolFrame.RespondsTo, pendingFrame_sequence hs hpending,
    pendingFrame_transaction hs hpending]
  rfl

/-- A frame that does not respond to the pending command is ignored. -/
theorem handleResponse_ignores (hs : s.Consistent)
    (h : s.transactionPending = true → ¬ s.pendingFrame.RespondsTo f) :
    s.handleResponse f = (none, s) := by
  by_cases hpending : s.transactionPending = true
  · have hmatch := h hpending
    rw [respondsTo_pendingFrame_iff hs hpending] at hmatch
    simp only [handleResponse]
    split_ifs
    all_goals first
      | rfl
      | simp_all
  · simp [handleResponse, hpending]

theorem handleResponse_takes (hs : s.Consistent) (hpending : s.transactionPending = true)
    (h : s.pendingFrame.RespondsTo f) :
    s.handleResponse f = (some (motionResponseDecode f.payload.bytes).result,
      s.settle (motionResponseDecode f.payload.bytes).result) := by
  obtain ⟨htype, hsequence, hlength, hcommand, hsession⟩ :=
    (respondsTo_pendingFrame_iff hs hpending).mp h
  simp [handleResponse, hpending, htype, hsequence, hlength, hcommand, hsession]

/-- Everything one call can do. -/
inductive Performed (s : Stm32MotionSession) : SessionEvent → Stm32MotionSession → Prop where
  | quiet (t : Stm32MotionSession) (hsame : s.SameLifecycle t)
      (hcount : t.retryCount = s.retryCount) (hack : t.ackReceived = s.ackReceived)
      (htimer : t.retryTimerRunning = true →
        s.retryTimerRunning = true ∨ s.transactionPending = true) :
      Performed s .quiet t
  | began (f : ProtocolFrame) (t : Stm32MotionSession) (command : MotionLifecycleCommandType)
      (motionSessionId : UInt32) (hbegins : s.Begins command motionSessionId f t)
      (hconsistent : t.Consistent) (hcount : t.retryCount = 0) (hack : t.ackReceived = false) :
      Performed s (.began f) t
  | acknowledged (t : Stm32MotionSession) (hpending : s.transactionPending = true)
      (hsame : s.SameLifecycle t) (hcount : t.retryCount = s.retryCount)
      (hack : t.ackReceived = true) : Performed s .acknowledged t
  | consumed (f : ProtocolFrame) (result : MotionResponseResult)
      (hpending : s.transactionPending = true) (hresponds : s.pendingFrame.RespondsTo f) :
      Performed s (.consumed f) (s.settle result)
  | retried (hpending : s.transactionPending = true) (hcount : s.retryCount < maxRetries) :
      Performed s (.retried s.pendingFrame)
        { s with retryCount := s.retryCount + 1, retryTimerRunning := false }
  | wasReset : Performed s .wasReset s.reset

theorem Performed.kept : Performed s .quiet s :=
  .quiet s (.refl s) rfl rfl fun h => .inl h

theorem beginStartSession_fresh (motionSessionId : UInt32)
    (h : (s.beginStartSession motionSessionId).1 = some f) :
    (s.beginStartSession motionSessionId).2.retryCount = 0 ∧
      (s.beginStartSession motionSessionId).2.ackReceived = false := by
  rw [beginStartSession] at h ⊢
  split_ifs at h ⊢
  exact ⟨rfl, rfl⟩

theorem beginEndSession_fresh (motionSessionId : UInt32)
    (h : (s.beginEndSession motionSessionId).1 = some f) :
    (s.beginEndSession motionSessionId).2.retryCount = 0 ∧
      (s.beginEndSession motionSessionId).2.ackReceived = false := by
  rw [beginEndSession] at h ⊢
  split_ifs at h ⊢
  exact ⟨rfl, rfl⟩

theorem handleAck_performed (f : ProtocolFrame) (nowMs : UInt32) :
    Performed s (s.perform (.handleAck f nowMs)).1 (s.perform (.handleAck f nowMs)).2 := by
  show Performed s (if (s.handleAck f nowMs).1 = true then .acknowledged else .quiet)
    (s.handleAck f nowMs).2
  rcases s.handleAck_cases f nowMs with h | ⟨hpending, ⟨h, hack⟩ | ⟨h, -⟩⟩
  · rw [h]
    exact .kept
  · rw [h]
    exact .acknowledged s hpending (.refl s) rfl hack
  · rw [h]
    exact .acknowledged _ hpending ⟨rfl, rfl, rfl, rfl, rfl, rfl⟩ rfl rfl

theorem retryIfDue_performed (nowMs : UInt32) :
    Performed s (s.perform (.retryIfDue nowMs)).1 (s.perform (.retryIfDue nowMs)).2 := by
  show Performed s ((s.retryIfDue nowMs).1.elim .quiet .retried) (s.retryIfDue nowMs).2
  rcases s.retryIfDue_cases nowMs with h | ⟨hpending, hcount, h⟩
  · rw [h]
    exact .kept
  · rw [h]
    exact .retried hpending hcount

theorem perform_performed (hs : s.Consistent) (c : SessionCall) :
    Performed s (s.perform c).1 (s.perform c).2 := by
  cases c with
  | beginStartSession motionSessionId =>
    show Performed s ((s.beginStartSession motionSessionId).1.elim .quiet .began)
      (s.beginStartSession motionSessionId).2
    cases hframe : (s.beginStartSession motionSessionId).1 with
    | none =>
      rw [beginStartSession_none s motionSessionId hframe]
      exact .kept
    | some f =>
      obtain ⟨hbegins, hstate⟩ := beginStartSession_begins s motionSessionId f hframe
      obtain ⟨hcount, hack⟩ := beginStartSession_fresh motionSessionId hframe
      exact .began f _ _ _ hbegins (hbegins.consistent (.inl ⟨hstate, rfl⟩)) hcount hack
  | beginEndSession motionSessionId =>
    show Performed s ((s.beginEndSession motionSessionId).1.elim .quiet .began)
      (s.beginEndSession motionSessionId).2
    cases hframe : (s.beginEndSession motionSessionId).1 with
    | none =>
      rw [beginEndSession_none s motionSessionId hframe]
      exact .kept
    | some f =>
      obtain ⟨hbegins, hstate, -⟩ := beginEndSession_begins s motionSessionId f hframe
      obtain ⟨hcount, hack⟩ := beginEndSession_fresh motionSessionId hframe
      exact .began f _ _ _ hbegins (hbegins.consistent (.inr ⟨hstate, rfl⟩)) hcount hack
  | buildWheelVelocity left right =>
    have hsame := s.buildWheelVelocity_sameLifecycle left right
    simp only [perform, buildWheelVelocity] at hsame ⊢
    split_ifs at hsame ⊢
    · exact .kept
    · exact .quiet _ hsame rfl rfl fun h => .inl h
  | handleAck f nowMs => exact handleAck_performed f nowMs
  | handleResponse f =>
    by_cases hmatch : s.transactionPending = true ∧ s.pendingFrame.RespondsTo f
    · simp only [perform, handleResponse_takes hs hmatch.1 hmatch.2]
      exact .consumed f _ hmatch.1 hmatch.2
    · simp only [perform, handleResponse_ignores hs (not_and.mp hmatch)]
      exact .kept
  | markPendingTransmitted nowMs =>
    have hsame := s.markPendingTransmitted_sameLifecycle nowMs
    simp only [perform, markPendingTransmitted] at hsame ⊢
    split_ifs at hsame ⊢ with hpending
    · exact .quiet _ hsame rfl rfl fun _ => .inr hpending
    · exact .kept
  | retryIfDue nowMs => exact retryIfDue_performed nowMs
  | reset => exact .wasReset

/-- The pending transaction as the events since its begin tell it. -/
inductive SinceBegin (s : Stm32MotionSession) (f : ProtocolFrame) (since : List SessionEvent) :
    Prop where
  | pending (hpending : s.transactionPending = true) (hframe : s.pendingFrame = f)
      (hopen : ∀ e ∈ since, e.closes = false)
      (hretries : since.filterMap SessionEvent.retry? = List.replicate s.retryCount.toNat f)
      (hcount : s.retryCount ≤ maxRetries)
      (hack : s.ackReceived = true ↔ .acknowledged ∈ since)
  | closed (hpending : s.transactionPending = false) (hclosed : ∃ e ∈ since, e.closes = true)
      (hone : since.countP SessionEvent.isConsumed ≤ 1)
      (hnone : .wasReset ∉ since → since.countP SessionEvent.isConsumed = 1)

/-- The session as its log tells it. -/
structure Follows (s : Stm32MotionSession) (log : List SessionEvent) : Prop where
  consistent : s.Consistent
  timer : s.retryTimerRunning = true → s.transactionPending = true
  sequence : s.nextSequence = UInt16.ofNat (log.countP SessionEvent.isBegin + 1)
  begun : s.transactionPending = true →
    ∃ f since, Last (fun e => e.isBegin = true) log (.began f) since
  since : ∀ f since, Last (fun e => e.isBegin = true) log (.began f) since → SinceBegin s f since

/-- A session that keeps its pending transaction, with the retries as counted by its log. -/
theorem SinceBegin.keep {since : List SessionEvent} {e : SessionEvent}
    (h : SinceBegin s f since) (hsame : s.SameLifecycle t) (hcloses : e.closes = false)
    (hconsumed : e.isConsumed = false)
    (hretries : s.pendingFrame = f → ∃ k, e.retry?.toList = List.replicate k f ∧
      t.retryCount.toNat = s.retryCount.toNat + k)
    (hlimit : s.retryCount ≤ maxRetries → t.retryCount ≤ maxRetries)
    (hack : s.transactionPending = true →
      (t.ackReceived = true ↔ s.ackReceived = true ∨ e = .acknowledged)) :
    SinceBegin t f (since ++ [e]) := by
  cases h with
  | pending hpending hframe hopen hcopies hcount hacked =>
    obtain ⟨k, hk, hadd⟩ := hretries hframe
    refine .pending (hsame.transactionPending.trans hpending) (hsame.pendingFrame.trans hframe) ?_
      ?_ (hlimit hcount) ?_
    · intro x hx
      rcases List.mem_append.mp hx with hx | hx
      · exact hopen x hx
      · rwa [List.mem_singleton.mp hx]
    · have hlast : [e].filterMap SessionEvent.retry? = e.retry?.toList := by
        cases h : e.retry? <;> simp [h]
      rw [List.filterMap_append, hcopies, hlast, hk, hadd, List.replicate_add]
    · rw [hack hpending, hacked, List.mem_append, List.mem_singleton, eq_comm]
  | closed hpending hclosed hone hnone =>
    obtain ⟨x, hx, hxcloses⟩ := hclosed
    have hcountP : (since ++ [e]).countP SessionEvent.isConsumed =
        since.countP SessionEvent.isConsumed := by simp [hconsumed]
    refine .closed (hsame.transactionPending.trans hpending)
      ⟨x, List.mem_append_left _ hx, hxcloses⟩ (hcountP.le.trans hone) ?_
    intro hreset
    rw [hcountP]
    exact hnone fun h => hreset (List.mem_append_left _ h)

theorem countP_isConsumed_of_open {since : List SessionEvent}
    (hopen : ∀ e ∈ since, e.closes = false) : since.countP SessionEvent.isConsumed = 0 := by
  rw [List.countP_eq_zero]
  intro e he hconsumed
  have hcloses := hopen e he
  cases e <;> simp [SessionEvent.isConsumed, SessionEvent.closes] at hconsumed hcloses

theorem SinceBegin.concat {since : List SessionEvent} {e : SessionEvent}
    (h : SinceBegin s f since) (hperformed : Performed s e t) (hbegin : ¬ e.isBegin = true) :
    SinceBegin t f (since ++ [e]) := by
  cases hperformed with
  | quiet t hsame hcount hack =>
    refine h.keep hsame rfl rfl (fun _ => ⟨0, rfl, by rw [hcount]; rfl⟩) ?_ (by simp [hack])
    rw [hcount]
    exact id
  | began f t command motionSessionId => exact absurd rfl hbegin
  | acknowledged t hpending hsame hcount hack =>
    refine h.keep hsame rfl rfl (fun _ => ⟨0, rfl, by rw [hcount]; rfl⟩) ?_ (by simp [hack])
    rw [hcount]
    exact id
  | consumed g result hpending hresponds =>
    cases h with
    | pending _ _ hopen _ _ _ =>
      have hone : (since ++ [SessionEvent.consumed g]).countP SessionEvent.isConsumed = 1 := by
        rw [List.countP_append, countP_isConsumed_of_open hopen]
        rfl
      exact .closed rfl ⟨.consumed g, by simp, rfl⟩ hone.le fun _ => hone
    | closed hclosed => simp [hpending] at hclosed
  | retried hpending hcount =>
    have hnext : (s.retryCount + 1).toNat = s.retryCount.toNat + 1 := by
      have hlt : s.retryCount.toNat < 3 := hcount
      rw [UInt8.toNat_add]
      simp
      omega
    refine h.keep ⟨rfl, rfl, rfl, rfl, rfl, rfl⟩ rfl rfl ?_ ?_ (by simp)
    · intro hframe
      exact ⟨1, by simp [SessionEvent.retry?, hframe], hnext⟩
    · intro _
      rw [UInt8.le_iff_toNat_le]
      exact hnext.le.trans hcount
  | wasReset =>
    refine .closed rfl ⟨.wasReset, by simp, rfl⟩ ?_ (by simp)
    rw [List.countP_append, show [SessionEvent.wasReset].countP SessionEvent.isConsumed = 0 from rfl]
    cases h with
    | pending _ _ hopen _ _ _ => exact (countP_isConsumed_of_open hopen).le.trans (Nat.zero_le 1)
    | closed _ _ hone _ => exact hone

theorem Performed.consistent {e : SessionEvent} (h : Performed s e t) (hs : s.Consistent) :
    t.Consistent := by
  cases h with
  | quiet t hsame => exact hsame.consistent hs
  | began f t command motionSessionId hbegins hconsistent => exact hconsistent
  | acknowledged t hpending hsame => exact hsame.consistent hs
  | consumed g result hpending => exact s.settle_consistent hs hpending result
  | retried =>
    have hsame : s.SameLifecycle { s with
        retryCount := s.retryCount + 1
        retryTimerRunning := false } := ⟨rfl, rfl, rfl, rfl, rfl, rfl⟩
    exact hsame.consistent hs
  | wasReset => exact s.reset_consistent

/-- A timer runs only for a pending transaction. -/
theorem Performed.timer {e : SessionEvent} (h : Performed s e t)
    (hs : s.retryTimerRunning = true → s.transactionPending = true)
    (ht : t.retryTimerRunning = true) : t.transactionPending = true := by
  cases h with
  | quiet t hsame _ _ htimer =>
    rw [hsame.transactionPending]
    rcases htimer ht with h | h
    · exact hs h
    · exact h
  | began f t command motionSessionId hbegins => exact hbegins.pending
  | acknowledged t hpending hsame => exact hsame.transactionPending.trans hpending
  | consumed => cases ht
  | retried => cases ht
  | wasReset => cases ht

theorem Performed.nextSequence {e : SessionEvent} (h : Performed s e t) :
    t.nextSequence = s.nextSequence + if e.isBegin then 1 else 0 := by
  cases h with
  | quiet t hsame => simpa [SessionEvent.isBegin] using hsame.nextSequence
  | began f t command motionSessionId hbegins => exact hbegins.nextSequence
  | acknowledged t hpending hsame => simpa [SessionEvent.isBegin] using hsame.nextSequence
  | consumed g result => simpa [SessionEvent.isBegin] using s.settle_nextSequence result
  | retried => simp [SessionEvent.isBegin]
  | wasReset => simp [SessionEvent.isBegin, reset]

/-- A transaction is pending after a begin, or because it was pending before. -/
theorem Performed.pending {e : SessionEvent} (h : Performed s e t)
    (ht : t.transactionPending = true) :
    e.isBegin = true ∨ e.isBegin = false ∧ s.transactionPending = true := by
  cases h with
  | quiet t hsame => exact .inr ⟨rfl, hsame.transactionPending.symm.trans ht⟩
  | began => exact .inl rfl
  | acknowledged t hpending => exact .inr ⟨rfl, hpending⟩
  | consumed => cases ht
  | retried hpending => exact .inr ⟨rfl, hpending⟩
  | wasReset => cases ht

theorem Performed.began_since (h : Performed s (.began f) t) : SinceBegin t f [] := by
  cases h with
  | began f t command motionSessionId hbegins hconsistent hcount hack =>
    refine .pending hbegins.pending hbegins.pendingFrame (by simp) ?_ ?_ (by simp [hack])
    · rw [hcount]
      rfl
    · rw [hcount]
      decide

theorem Follows.perform {log : List SessionEvent} (h : Follows s log) (c : SessionCall) :
    Follows (s.perform c).2 (log ++ [(s.perform c).1]) := by
  have hperformed := perform_performed h.consistent c
  generalize s.perform c = out at hperformed
  obtain ⟨e, t⟩ := out
  refine ⟨hperformed.consistent h.consistent, hperformed.timer h.timer, ?_, ?_, ?_⟩
  · rw [hperformed.nextSequence, h.sequence, List.countP_append, List.countP_singleton]
    cases e.isBegin <;> simp
  · intro hpending
    rcases hperformed.pending hpending with hbegin | ⟨hbegin, hs⟩
    · obtain ⟨f, rfl⟩ : ∃ f, e = .began f := by
        cases e <;> simp [SessionEvent.isBegin] at hbegin ⊢
      exact ⟨f, [], last_concat_iff.mpr (.inl ⟨hbegin, rfl, rfl⟩)⟩
    · obtain ⟨f, since, hlast⟩ := h.begun hs
      exact ⟨f, since ++ [e], last_concat_iff.mpr
        (.inr ⟨by simp [hbegin], since, hlast, rfl⟩)⟩
  · intro f since hlast
    rcases last_concat_iff.mp hlast with ⟨-, rfl, rfl⟩ | ⟨hbegin, before, hbefore, rfl⟩
    · exact hperformed.began_since
    · exact (h.since f before hbefore).concat hperformed hbegin

theorem run_follows (calls : List SessionCall) : Follows (run calls).1 (run calls).2 := by
  induction calls using List.reverseRecOn with
  | nil =>
    refine ⟨default_consistent, by simp [run, recordRun], rfl, by simp [run, recordRun], ?_⟩
    rintro f since ⟨-, -, earlier, hlog⟩
    simp [run, recordRun] at hlog
  | append_singleton calls c ih =>
    rw [run, recordRun_concat]
    exact ih.perform c

/-- The transaction of the frame has begun, and neither a response nor a reset has ended it. -/
def Open (log : List SessionEvent) (f : ProtocolFrame) : Prop :=
  ∃ earlier since, log = earlier ++ .began f :: since ∧ ∀ e ∈ since, e.closes = false

/-- A transaction begins only when none is pending. -/
theorem began_unpended {calls : List SessionCall} {c : SessionCall}
    (h : ((run calls).1.perform c).1 = .began f) : (run calls).1.transactionPending = false := by
  have hperformed := perform_performed (run_follows calls).consistent c
  rw [h] at hperformed
  generalize ((run calls).1.perform c).2 = t at hperformed
  cases hperformed with
  | began f t command motionSessionId hbegins => exact hbegins.unpended

theorem isBegin_iff {e : SessionEvent} : e.isBegin = true ↔ ∃ f, e = .began f := by
  cases e <;> simp [SessionEvent.isBegin]

/-- No transaction begins inside of another one. -/
theorem not_isBegin_of_open {calls : List SessionCall} {earlier since later : List SessionEvent}
    (hlog : (run calls).2 = earlier ++ .began f :: since ++ later)
    (hopen : ∀ e ∈ since, e.closes = false) : ∀ e ∈ since, ¬ e.isBegin = true := by
  by_contra hsome
  push Not at hsome
  obtain ⟨x, hx⟩ := Option.isSome_iff_exists.mp (List.find?_isSome.mpr hsome)
  obtain ⟨hbegin, before, after, rfl, hbefore⟩ := List.find?_eq_some_iff_append.mp hx
  obtain ⟨g, rfl⟩ := isBegin_iff.mp hbegin
  have hsplit : (run calls).2 = (earlier ++ .began f :: before) ++ .began g :: (after ++ later) := by
    simpa using hlog
  obtain ⟨first, c, hfirst, hevent⟩ := recordRun_of_event hsplit
  have hlast : Last (fun e => e.isBegin = true) (run first).2 (.began f) before :=
    ⟨rfl, by simpa using hbefore, earlier, hfirst⟩
  have hunpended := began_unpended hevent
  cases (run_follows first).since f before hlast with
  | pending hpending => simp [hpending] at hunpended
  | closed _ hclosed =>
    obtain ⟨e, he, hcloses⟩ := hclosed
    simp [hopen e (by simp [he])] at hcloses

theorem last_began {calls : List SessionCall} {earlier since : List SessionEvent}
    (hlog : (run calls).2 = earlier ++ .began f :: since) (hopen : ∀ e ∈ since, e.closes = false) :
    Last (fun e => e.isBegin = true) (run calls).2 (.began f) since := by
  have hwhole : (run calls).2 = earlier ++ .began f :: since ++ [] := by simpa using hlog
  exact ⟨rfl, not_isBegin_of_open hwhole hopen, earlier, hlog⟩

/-- The pending frame is the one of the open transaction. -/
theorem pending_of_open {calls : List SessionCall} (h : Open (run calls).2 f) :
    (run calls).1.transactionPending = true ∧ (run calls).1.pendingFrame = f := by
  obtain ⟨earlier, since, hlog, hopen⟩ := h
  cases (run_follows calls).since f since (last_began hlog hopen) with
  | pending hpending hframe => exact ⟨hpending, hframe⟩
  | closed _ hclosed =>
    obtain ⟨e, he, hcloses⟩ := hclosed
    simp [hopen e he] at hcloses

theorem open_of_pending {calls : List SessionCall}
    (h : (run calls).1.transactionPending = true) :
    Open (run calls).2 (run calls).1.pendingFrame := by
  obtain ⟨f, since, hlast⟩ := (run_follows calls).begun h
  cases (run_follows calls).since f since hlast with
  | pending _ hframe hopen =>
    obtain ⟨-, -, earlier, hlog⟩ := hlast
    rw [hframe]
    exact ⟨earlier, since, hlog, hopen⟩
  | closed hpending => simp [h] at hpending

/-- A running timer whose time is up calls for a retry or for giving up, and not for both. -/
theorem retry_xor_exhausted (hpending : s.transactionPending = true)
    (htimer : s.retryTimerRunning = true) (nowMs : UInt32)
    (hdue : s.retryTimeoutMs ≤ nowMs - s.lastTransmitMs) :
    Xor ((s.retryIfDue nowMs).1.isSome = true) (s.retryExhausted nowMs = true) := by
  have hlate : ¬ nowMs - s.lastTransmitMs < s.retryTimeoutMs := UInt32.not_lt.mpr hdue
  by_cases hspent : maxRetries ≤ s.retryCount
  · right
    simp [retryIfDue, retryExhausted, hpending, htimer, hspent, hdue]
  · left
    simp [retryIfDue, retryExhausted, hpending, htimer, hspent, hlate]

/-- Bounded and exact retransmission, over the log of the calls and the session they leave. -/
structure RetransmitsExactly (calls : List SessionCall) : Prop where
  /-- At most three frames are sent again while a transaction is open, all of them its own. -/
  retries : ∀ earlier f since later, (run calls).2 = earlier ++ .began f :: since ++ later →
    (∀ e ∈ since, e.closes = false) →
    ∃ k ≤ 3, since.filterMap SessionEvent.retry? = List.replicate k f
  /-- A running timer belongs to an open transaction, and its timeout to the acknowledgements. -/
  due : (run calls).1.retryTimerRunning = true → ∃ earlier f since,
    (run calls).2 = earlier ++ .began f :: since ∧ (∀ e ∈ since, e.closes = false) ∧
    ∀ nowMs, (if .acknowledged ∈ since then 750 else 100) ≤ nowMs - (run calls).1.lastTransmitMs →
      Xor (((run calls).1.retryIfDue nowMs).1.isSome = true)
        ((run calls).1.retryExhausted nowMs = true)
  ignoresAck : ∀ g, (∀ f, Open (run calls).2 f → ¬ f.Acknowledges g) →
    ∀ nowMs, (run calls).1.handleAck g nowMs = (false, (run calls).1)
  ignoresResponse : ∀ g, (∀ f, Open (run calls).2 f → ¬ f.RespondsTo g) →
    (run calls).1.handleResponse g = (none, (run calls).1)
  /-- A response to the open transaction is taken. -/
  takes : ∀ f g, Open (run calls).2 f → f.RespondsTo g →
    ((run calls).1.handleResponse g).1 = some (motionResponseDecode g.payload.bytes).result
  /-- What was taken was a response to the transaction open at the time. -/
  taken : ∀ earlier g later, (run calls).2 = earlier ++ .consumed g :: later →
    ∃ f, Open earlier f ∧ f.RespondsTo g
  atMostOne : ∀ earlier f since later, (run calls).2 = earlier ++ .began f :: since ++ later →
    (∀ e ∈ since, e.isBegin = false) → since.countP SessionEvent.isConsumed ≤ 1
  exactlyOne : ∀ earlier f since g later,
    (run calls).2 = earlier ++ .began f :: since ++ .began g :: later →
    (∀ e ∈ since, e.isBegin = false) → .wasReset ∉ since →
    since.countP SessionEvent.isConsumed = 1
  /-- Sequence numbers count the transactions, whatever happens in between. -/
  sequences : ∀ earlier f later, (run calls).2 = earlier ++ .began f :: later →
    f.sequence = UInt16.ofNat (earlier.countP SessionEvent.isBegin + 1)

theorem retries_of_open {calls : List SessionCall} {earlier since later : List SessionEvent}
    (hlog : (run calls).2 = earlier ++ .began f :: since ++ later)
    (hopen : ∀ e ∈ since, e.closes = false) :
    ∃ k ≤ 3, since.filterMap SessionEvent.retry? = List.replicate k f := by
  obtain ⟨first, hfirst⟩ := recordRun_of_append hlog
  cases (run_follows first).since f since (last_began hfirst hopen) with
  | pending _ _ _ hretries hcount => exact ⟨_, UInt8.le_iff_toNat_le.mp hcount, hretries⟩
  | closed _ hclosed =>
    obtain ⟨e, he, hcloses⟩ := hclosed
    simp [hopen e he] at hcloses

theorem due_of_running {calls : List SessionCall} (h : (run calls).1.retryTimerRunning = true) :
    ∃ earlier f since, (run calls).2 = earlier ++ .began f :: since ∧
      (∀ e ∈ since, e.closes = false) ∧
      ∀ nowMs, (if .acknowledged ∈ since then 750 else 100) ≤
          nowMs - (run calls).1.lastTransmitMs →
        Xor (((run calls).1.retryIfDue nowMs).1.isSome = true)
          ((run calls).1.retryExhausted nowMs = true) := by
  have hpending := (run_follows calls).timer h
  obtain ⟨f, since, hlast⟩ := (run_follows calls).begun hpending
  obtain ⟨-, -, earlier, hlog⟩ := id hlast
  cases (run_follows calls).since f since hlast with
  | pending _ _ hopen _ _ hack =>
    refine ⟨earlier, f, since, hlog, hopen, fun nowMs hdue => ?_⟩
    apply retry_xor_exhausted hpending h nowMs
    rw [retryTimeoutMs]
    by_cases hacked : SessionEvent.acknowledged ∈ since
    · rw [if_pos (hack.mpr hacked)]
      rwa [if_pos hacked] at hdue
    · rw [if_neg (mt hack.mp hacked)]
      rwa [if_neg hacked] at hdue
  | closed hclosed => simp [hpending] at hclosed

/-- A response is taken once between two begins, unless the session was reset. -/
theorem consumed_since {calls : List SessionCall} {earlier since later : List SessionEvent}
    (hlog : (run calls).2 = earlier ++ .began f :: since ++ later)
    (hbegin : ∀ e ∈ since, e.isBegin = false) :
    since.countP SessionEvent.isConsumed ≤ 1 ∧ ∀ g rest, later = .began g :: rest →
      .wasReset ∉ since → since.countP SessionEvent.isConsumed = 1 := by
  have hsince : ∀ first, (run first).2 = earlier ++ .began f :: since →
      SinceBegin (run first).1 f since := fun first hfirst =>
    (run_follows first).since f since ⟨rfl, by simpa using hbegin, earlier, hfirst⟩
  constructor
  · obtain ⟨first, hfirst⟩ := recordRun_of_append hlog
    cases hsince first hfirst with
    | pending _ _ hopen => exact (countP_isConsumed_of_open hopen).le.trans (Nat.zero_le 1)
    | closed _ _ hone => exact hone
  · rintro g rest rfl hreset
    obtain ⟨first, c, hfirst, hevent⟩ := recordRun_of_event hlog
    cases hsince first hfirst with
    | pending hpending => simp [began_unpended hevent] at hpending
    | closed _ _ _ hnone => exact hnone hreset

theorem taken_responds {calls : List SessionCall} {earlier later : List SessionEvent}
    (hlog : (run calls).2 = earlier ++ .consumed g :: later) :
    ∃ f, Open earlier f ∧ f.RespondsTo g := by
  obtain ⟨first, c, hfirst, hevent⟩ := recordRun_of_event hlog
  have hperformed := perform_performed (run_follows first).consistent c
  rw [show ((run first).1.perform c).1 = .consumed g from hevent] at hperformed
  generalize ((run first).1.perform c).2 = t at hperformed
  cases hperformed with
  | consumed g result hpending hresponds =>
    have hopen := open_of_pending hpending
    rw [show (run first).2 = earlier from hfirst] at hopen
    exact ⟨_, hopen, hresponds⟩

theorem began_sequence {calls : List SessionCall} {earlier later : List SessionEvent}
    (hlog : (run calls).2 = earlier ++ .began f :: later) :
    f.sequence = UInt16.ofNat (earlier.countP SessionEvent.isBegin + 1) := by
  obtain ⟨first, c, hfirst, hevent⟩ := recordRun_of_event hlog
  have hperformed := perform_performed (run_follows first).consistent c
  have hsequence := (run_follows first).sequence
  rw [show ((run first).1.perform c).1 = .began f from hevent] at hperformed
  rw [show (run first).2 = earlier from hfirst] at hsequence
  generalize ((run first).1.perform c).2 = t at hperformed
  cases hperformed with
  | began f t command motionSessionId hbegins =>
    rw [hbegins.frame, hbegins.transaction, ← hsequence]
    rfl

theorem session_retransmits_exactly (calls : List SessionCall) : RetransmitsExactly calls where
  retries := fun _ _ _ _ hlog hopen => retries_of_open hlog hopen
  due := due_of_running
  ignoresAck := by
    intro g hnone nowMs
    apply handleAck_ignores (run_follows calls).consistent
    exact fun hpending => hnone _ (open_of_pending hpending)
  ignoresResponse := by
    intro g hnone
    apply handleResponse_ignores (run_follows calls).consistent
    exact fun hpending => hnone _ (open_of_pending hpending)
  takes := by
    intro f g hopen hresponds
    obtain ⟨hpending, rfl⟩ := pending_of_open hopen
    rw [handleResponse_takes (run_follows calls).consistent hpending hresponds]
  taken := fun _ _ _ hlog => taken_responds hlog
  atMostOne := fun _ _ _ _ hlog hbegin => (consumed_since hlog hbegin).1
  exactlyOne := fun _ _ _ g later hlog hbegin hreset =>
    (consumed_since hlog hbegin).2 g later rfl hreset
  sequences := fun _ _ _ hlog => began_sequence hlog

end Stm32MotionSession

end IndoorRobot
