import IndoorRobot.AgreementInvariant

/-!
# The steps of the client keep the agreement

Every elementary step of the client keeps what can be under way, as long as it never
sends a token twice: a new token finds the channels free of answers to it, and a
lifecycle command fits the last transaction the client has settled.
-/
namespace IndoorRobot

open MotionLifecycleCommandType MotionResponseResult StopAndWait MotionLifecycleCoordinator
  LabelledRuns Firmware

namespace Stm32MotionSession

variable {s t : Stm32MotionSession}

theorem SameLifecycle.openTransaction (h : s.SameLifecycle t) :
    t.openTransaction = s.openTransaction := by
  simp only [Stm32MotionSession.openTransaction, h.transactionPending, h.pendingTransaction]

theorem SameLifecycle.settledBy (h : s.SameLifecycle t) {settled : Option MotionTransaction}
    (hs : s.SettledBy settled) : t.SettledBy settled := by
  cases settled with
  | none => exact h.state.trans hs
  | some t =>
    simp only [SettledBy, h.state, h.activeSessionId]
    exact hs

/-- Between two transactions nothing is open. -/
theorem Consistent.closed (h : s.Consistent) (hstart : s.state ≠ .startPending)
    (hend : s.state ≠ .endPending) : s.openTransaction = none := by
  apply if_neg
  intro hpending
  rcases (h.pending hpending).1 with ⟨hstate, _⟩ | ⟨hstate, _⟩
  · exact hstart hstate
  · exact hend hstate

theorem Answers.answer {f : ProtocolFrame} {result : MotionResponseResult} (h : s.Answers f result) :
    f.answer = (s.pendingTransaction, result) := by
  simp only [ProtocolFrame.answer, h.payload, h.sequence]
  rfl

/-- A response OK settles the pending transaction. -/
theorem settle_settledBy (h : s.Consistent) (hpending : s.transactionPending = true) :
    (s.settle ok).SettledBy (some s.pendingTransaction) := by
  rcases s.settle_state h hpending ok with ⟨hactive, hid, _, hcommand, _⟩ | ⟨hinactive, hrefused⟩
  · exact .inl ⟨hcommand, hactive, hid⟩
  · exact .inr ⟨fun hcommand => hrefused ⟨hcommand, .inl rfl⟩, hinactive⟩

theorem succ_ne_self (n : UInt16) : n ≠ n + 1 := by
  intro h
  have hnewer := motionSequenceClassify_succ n
  rw [← h, motionSequenceClassify_self] at hnewer
  cases hnewer

end Stm32MotionSession

namespace Stm32ClientRunner

variable {r q : Stm32ClientRunner}

/-- The log only grows. -/
theorem Step.log_grows {input : Option ProtocolFrame} (h : Step input r q) : r.log <+: q.log := by
  cases h with
  | idle hidle => exact hidle.log ▸ List.prefix_rfl
  | ignored | synchronized | close => exact List.prefix_rfl
  | command | retry | wheel | heartbeat | answered => exact List.prefix_append _ _
  | start | finish | connect => exact (List.prefix_append _ _).trans (List.prefix_append _ _)

theorem Steps.log_grows {frames : List ProtocolFrame} (h : r.Steps frames q) :
    r.log <+: q.log :=
  h.preserves (P := fun t => r.log <+: t.log) (fun _ _ _ hstep ht => ht.trans hstep.log_grows)
    List.prefix_rfl

end Stm32ClientRunner

namespace LinkedSystem

variable {s : LinkedSystem} {q : Stm32ClientRunner}

theorem withRunner_eq {events : List ClientEvent} (h : q.log = s.runner.log ++ events) :
    s.withRunner q =
      { s with runner := q, toStm := s.toStm ++ events.filterMap ClientEvent.sentFrame } := by
  simp [withRunner, h]

theorem withRunner_self : s.withRunner s.runner = s := by
  simp [withRunner]

theorem withRunner_trans {q' : Stm32ClientRunner} (h : s.runner.log <+: q.log)
    (h' : q.log <+: q'.log) : (s.withRunner q).withRunner q' = s.withRunner q' := by
  obtain ⟨events, hq⟩ := h
  obtain ⟨more, hq'⟩ := h'
  rw [withRunner_eq hq.symm, withRunner_eq hq'.symm]
  rw [← hq, List.append_assoc] at hq'
  rw [withRunner_eq hq'.symm]
  simp

theorem sentTokens_append {r : Stm32ClientRunner} {events : List ClientEvent}
    (h : q.log = r.log ++ events) :
    q.sentTokens = r.sentTokens ++ syncTokens (events.filterMap ClientEvent.sentFrame) := by
  simp [Stm32ClientRunner.sentTokens, h]

theorem sentTokens_sublist {r : Stm32ClientRunner} (h : r.log <+: q.log) :
    r.sentTokens.Sublist q.sentTokens :=
  tokens_sublist (h.sublist.filterMap _)

theorem Synchronizing.withRunner {token : UInt64} (h : s.Synchronizing token) :
    Synchronizing { s with runner := q } token := by
  cases h with
  | requested earlier f htoStm hf hearlier htoPi =>
    exact .requested earlier f htoStm hf hearlier htoPi
  | answered older newer htoStm htoPi holder hnewer hreceiver =>
    exact .answered older newer htoStm htoPi holder hnewer hreceiver
  | missed htoStm htoPi => exact .missed htoStm htoPi

/-! ### What the client knows of its tokens and has accepted, as its log grows -/

section Growth
variable {events : List ClientEvent} (h : s.Agreeing) (hlog : q.log = s.runner.log ++ events)

include h hlog

theorem Agreeing.syncs_append :
    ∀ token ∈ syncTokens (s.toStm ++ events.filterMap ClientEvent.sentFrame),
      token ∈ q.sentTokens := by
  intro token hmem
  rw [sentTokens_append hlog]
  simp only [tokens_append, List.mem_append] at hmem ⊢
  exact hmem.imp_left (h.syncs token)

theorem Agreeing.oks_append {toPi : List ProtocolFrame} (hpi : toPi.Sublist s.toPi) :
    ∀ token ∈ okTokens toPi, token ∈ q.sentTokens := by
  intro token hmem
  rw [sentTokens_append hlog]
  exact List.mem_append_left _ (h.oks token ((tokens_sublist hpi).subset hmem))

theorem Agreeing.accepted_append
    (hevents : ∀ command sessionId result,
      .responseAccepted command sessionId result ∈ events → Reported result) :
    ∀ command sessionId result,
      .responseAccepted command sessionId result ∈ q.log → Reported result := by
  intro command sessionId result hmem
  rw [hlog] at hmem
  rcases List.mem_append.mp hmem with hmem | hmem
  · exact h.accepted command sessionId result hmem
  · exact hevents command sessionId result hmem

end Growth

theorem syncTokens_linkSyncFrame (sequence : UInt16) (syncToken : UInt64) :
    syncTokens [Stm32LinkSession.linkSyncFrame sequence syncToken] = [syncToken] := by
  have hdecode : linkSyncDecode
      (Stm32LinkSession.linkSyncFrame sequence syncToken).payload.bytes = ⟨syncToken⟩ :=
    isCodec_linkSync.decode_ofBytes (by decide) _
  simp only [tokens, List.filterMap_cons, hdecode, List.filterMap_nil]
  rfl

/-- Events that send nothing but heartbeats and wheel commands and accept no response. -/
structure Unremarkable (events : List ClientEvent) : Prop where
  accepts : ∀ command sessionId result, .responseAccepted command sessionId result ∉ events
  sends : ∀ f ∈ events.filterMap ClientEvent.sentFrame,
    f.messageType = .heartbeat ∨ f.messageType = .wheelVelocity

/-- The client goes on with its session as it is. -/
theorem Agreeing.note (h : s.Agreeing) {events : List ClientEvent}
    (hlog : q.log = s.runner.log ++ events) (hevents : Unremarkable events)
    (hquiet : s.runner.state = .synchronized ∨ events.filterMap ClientEvent.sentFrame = [])
    (hstate : q.state = s.runner.state)
    (htoken : q.linkSession.pendingSyncToken = s.runner.linkSession.pendingSyncToken)
    (hsession : s.runner.motionSession.SameLifecycle q.motionSession) :
    Agreeing (s.withRunner q) := by
  have hcommands : commands (events.filterMap ClientEvent.sentFrame) = [] :=
    commands_eq_nil fun f hf => by
      rcases hevents.sends f hf with htype | htype <;> rw [htype] <;> decide
  have htokens : syncTokens (events.filterMap ClientEvent.sentFrame) = [] :=
    tokens_eq_nil fun f hf => by
      rcases hevents.sends f hf with htype | htype <;> rw [htype] <;> decide
  have haccepted := h.accepted_append hlog fun command sessionId result hmem =>
    absurd hmem (hevents.accepts command sessionId result)
  rw [withRunner_eq hlog]
  refine ⟨h.safe, hsession.consistent h.session, h.syncs_append hlog,
    h.oks_append hlog (List.Sublist.refl _), haccepted, ?_, ?_, ?_⟩
  · rw [hstate, hsession.state]
    exact h.apart
  · intro hsynchronizing
    have hsynchronizing : s.runner.state = .synchronizing := hstate.symm.trans hsynchronizing
    have hnone := hquiet.resolve_left (by simp [hsynchronizing])
    rw [hnone, List.append_nil, htoken]
    exact (h.synchronizing hsynchronizing).withRunner
  · intro hsynchronized
    obtain ⟨e, he⟩ := h.exchanging (hstate.symm.trans hsynchronized)
    refine ⟨e, he.inOrder, ?_, he.answers, he.receiver, ?_, ?_, ?_, ?_⟩
    · rw [commands_append, hcommands, List.append_nil]
      exact he.requests
    · simp only [tokens_append, htokens, List.append_nil]
      exact he.unasked
    · rw [hsession.openTransaction]
      exact he.pending
    · rw [hsession.nextSequence]
      exact he.next
    · exact fun hpending hreceiver => hsession.settledBy (he.agreed hpending hreceiver)

/-- A lifecycle command goes out. -/
theorem Agreeing.request (h : s.Agreeing) {events : List ClientEvent} {t : MotionTransaction}
    (hlog : q.log = s.runner.log ++ events)
    (hsends : events.filterMap ClientEvent.sentFrame = [motionLifecycleCommandFrame t])
    (haccepts : ∀ command sessionId result,
      .responseAccepted command sessionId result ∉ events)
    (hsynchronized : s.runner.state = .synchronized) (hstate : q.state = .synchronized)
    (hsession : q.motionSession.Consistent) (hopen : q.motionSession.openTransaction = some t)
    (hexchange : ∀ e, s.Exchanging e →
      InOrder { e with pending := some t, requests := e.requests ++ [t] }) :
    Agreeing (s.withRunner q) := by
  have htokens : syncTokens [motionLifecycleCommandFrame t] = [] :=
    tokens_eq_nil fun f hf => by
      rw [List.mem_singleton.mp hf]
      exact (by decide : ProtocolMessageType.motionCommand ≠ .linkSync)
  have hsyncs := h.syncs_append hlog
  have haccepted := h.accepted_append hlog fun command sessionId result hmem =>
    absurd hmem (haccepts command sessionId result)
  rw [withRunner_eq hlog, hsends]
  rw [hsends] at hsyncs
  refine ⟨h.safe, hsession, hsyncs, h.oks_append hlog (List.Sublist.refl _), haccepted,
    fun hne => absurd hstate hne, fun hne => absurd hne (by simp [hstate]), fun _ => ?_⟩
  obtain ⟨e, he⟩ := h.exchanging hsynchronized
  refine ⟨_, hexchange e he, ?_, he.answers, he.receiver, ?_, hopen.symm, by simp, by simp⟩
  · rw [commands_append, commands_lifecycle, he.requests]
  · simp only [tokens_append, htokens, List.append_nil]
    exact he.unasked

theorem Agreeing.retry (h : s.Agreeing) (time : ℤ) (hsynchronized : s.runner.state = .synchronized)
    (hpending : s.runner.motionSession.transactionPending = true) :
    Agreeing (s.withRunner
      (s.runner.emit (.sent s.runner.motionSession.pendingFrame time))) := by
  obtain ⟨-, hframe, -⟩ := h.session.pending hpending
  have hopen : s.runner.motionSession.openTransaction =
      some s.runner.motionSession.pendingTransaction := if_pos hpending
  refine h.request rfl (by rw [hframe]; rfl) (by simp) hsynchronized hsynchronized h.session hopen ?_
  intro e he
  have hretried := he.inOrder.retry (he.pending.trans hopen)
  rw [he.pending, hopen] at hretried
  exact hretried

/-- The client begins a transaction that fits what it has settled. -/
theorem Agreeing.begin (h : s.Agreeing) {event : ClientEvent} {f : ProtocolFrame} {time : ℤ}
    {command : MotionLifecycleCommandType} {sessionId : UInt32}
    (hlog : q.log = s.runner.log ++ [event, .sent f time]) (hsilent : event.sentFrame = none)
    (haccepts : ∀ command sessionId result, event ≠ .responseAccepted command sessionId result)
    (hsynchronized : s.runner.state = .synchronized) (hstate : q.state = .synchronized)
    (hbegins : s.runner.motionSession.Begins command sessionId f q.motionSession)
    (hsession : q.motionSession.Consistent)
    (hfits : ∀ settled, s.runner.motionSession.SettledBy settled →
      (∀ t, settled = some t → s.runner.motionSession.nextSequence = t.sequence + 1) →
      Fits settled q.motionSession.pendingTransaction) :
    Agreeing (s.withRunner q) := by
  have hclosed : s.runner.motionSession.openTransaction = none := by
    simp [Stm32MotionSession.openTransaction, hbegins.unpended]
  have hsequence : q.motionSession.pendingTransaction.sequence =
      s.runner.motionSession.nextSequence := by rw [hbegins.transaction]
  have hsends : [event, .sent f time].filterMap ClientEvent.sentFrame =
      [motionLifecycleCommandFrame q.motionSession.pendingTransaction] := by
    rw [List.filterMap_cons_none hsilent, ← hbegins.frame]
    rfl
  refine h.request hlog hsends ?_ hsynchronized hstate hsession (if_pos hbegins.pending) ?_
  · intro command sessionId result hmem
    simp [(haccepts command sessionId result).symm] at hmem
  · intro e he
    have hpending := he.pending.trans hclosed
    refine he.inOrder.begin hpending ?_ fun hreceiver =>
      hfits e.settled (he.agreed hpending hreceiver) (he.next hpending)
    intro hsettled
    have hnext := he.next hpending _ hsettled
    rw [hsequence] at hnext
    exact Stm32MotionSession.succ_ne_self _ hnext

theorem Agreeing.start (h : s.Agreeing) (sessionId : UInt32) (f : ProtocolFrame) (time : ℤ)
    (hsynchronized : s.runner.state = .synchronized)
    (hinactive : s.runner.motionSession.state = .inactive)
    (hf : (s.runner.motionSession.beginStartSession sessionId).1 = some f) :
    Agreeing (s.withRunner
      { (s.runner.emit (.startBegun sessionId)).emit (.sent f time) with
        motionSession := (s.runner.motionSession.beginStartSession sessionId).2 }) := by
  obtain ⟨hbegins, hstart⟩ := s.runner.motionSession.beginStartSession_begins sessionId f hf
  refine h.begin (List.append_assoc _ _ _) rfl (by simp) hsynchronized hsynchronized hbegins
    (hbegins.consistent (.inl ⟨hstart, rfl⟩)) ?_
  intro settled hsettled hnext
  rw [hbegins.transaction]
  cases settled with
  | none => rfl
  | some t =>
    refine ⟨hnext t rfl, .inl ⟨rfl, ?_⟩⟩
    rcases hsettled with ⟨_, hactive, _⟩ | ⟨hcommand, _⟩
    · simp [hinactive] at hactive
    · exact hcommand

theorem Agreeing.finish (h : s.Agreeing) (sessionId : UInt32) (f : ProtocolFrame) (time : ℤ)
    (hsynchronized : s.runner.state = .synchronized)
    (hf : (s.runner.motionSession.beginEndSession sessionId).1 = some f) :
    Agreeing (s.withRunner
      { (s.runner.emit (.endBegun sessionId)).emit (.sent f time) with
        motionSession := (s.runner.motionSession.beginEndSession sessionId).2 }) := by
  obtain ⟨hbegins, hend, hactive, hid⟩ :=
    s.runner.motionSession.beginEndSession_begins sessionId f hf
  refine h.begin (List.append_assoc _ _ _) rfl (by simp) hsynchronized hsynchronized hbegins
    (hbegins.consistent (.inr ⟨hend, rfl⟩)) ?_
  intro settled hsettled hnext
  rw [hbegins.transaction]
  cases settled with
  | none => exact absurd (hactive.symm.trans hsettled) (by simp)
  | some t =>
    rcases hsettled with ⟨hcommand, _, hsession⟩ | ⟨_, hinactive⟩
    · exact ⟨hnext t rfl, .inr ⟨rfl, hcommand, hid.trans hsession⟩⟩
    · simp [hactive] at hinactive

/-- The client accepts the response to its transaction. -/
theorem Agreeing.answered (h : s.Agreeing) {f : ProtocolFrame} {rest : List ProtocolFrame}
    (htoPi : s.toPi = f :: rest) {result : MotionResponseResult}
    (hsynchronized : s.runner.state = .synchronized) (hstate : q.state = .synchronized)
    (hanswers : s.runner.motionSession.Answers f result)
    (hlog : q.log = s.runner.log ++ [.responseAccepted s.runner.motionSession.pendingCommand
      s.runner.motionSession.pendingSessionId result])
    (hsettle : q.motionSession = s.runner.motionSession.settle result) :
    Agreeing (withRunner { s with toPi := rest } q) := by
  obtain ⟨e, he⟩ := h.exchanging hsynchronized
  have hopen : e.pending = some s.runner.motionSession.pendingTransaction :=
    he.pending.trans (if_pos hanswers.pending)
  have hanswer : e.answers =
      (s.runner.motionSession.pendingTransaction, result) :: responses rest := by
    rw [he.answers, htoPi, responses_cons hanswers.response, hanswers.answer]
  have hreported : Reported result :=
    he.inOrder.permitted (s.runner.motionSession.pendingTransaction, result) (by simp [hanswer])
  obtain ⟨hinOrder, hsuccess⟩ := he.inOrder.answered hopen hanswer
  have hrest : rest.Sublist s.toPi := htoPi ▸ List.sublist_cons_self f rest
  have hsyncs := h.syncs_append hlog
  have haccepted := h.accepted_append hlog fun _ _ _ hmem => by
    cases List.mem_singleton.mp hmem
    exact hreported
  obtain ⟨-, -, hnext⟩ := h.session.pending hanswers.pending
  rw [withRunner_eq (s := { s with toPi := rest }) hlog]
  simp only [List.filterMap_cons, ClientEvent.sentFrame, List.filterMap_nil,
    List.append_nil] at hsyncs ⊢
  refine ⟨h.safe, ?_, hsyncs, h.oks_append hlog hrest, haccepted, fun hne => absurd hstate hne,
    fun hne => absurd (hstate.symm.trans hne) (by simp),
    fun _ => ⟨_, hinOrder, he.requests, rfl, he.receiver, he.unasked, ?_, ?_, ?_⟩⟩
  · rw [hsettle]
    exact s.runner.motionSession.settle_consistent h.session hanswers.pending result
  · rw [hsettle]
    rfl
  · rintro _ t ht
    cases ht
    rw [hsettle]
    exact (s.runner.motionSession.settle_nextSequence result).trans hnext
  · intro _ hreceiver
    rw [hsettle, hsuccess hreceiver]
    exact Stm32MotionSession.settle_settledBy h.session hanswers.pending

/-- The client takes the answer to its token, and finds a board without history. -/
theorem Agreeing.synchronized (h : s.Agreeing) {f : ProtocolFrame} {rest : List ProtocolFrame}
    (htoPi : s.toPi = f :: rest) (hsynchronizing : s.runner.state = .synchronizing)
    (hstate : q.state = .synchronized) (hf : f.messageType = .linkSyncOk)
    (htoken : (linkSyncDecode f.payload.bytes).syncToken =
      s.runner.linkSession.pendingSyncToken)
    (hlog : q.log = s.runner.log) (hsession : q.motionSession = s.runner.motionSession) :
    Agreeing (withRunner { s with toPi := rest } q) := by
  have hmem (l : List ProtocolFrame) :
      s.runner.linkSession.pendingSyncToken ∈ okTokens (f :: l) := by
    simp [tokens, hf, htoken]
  have hrest : rest.Sublist s.toPi := htoPi ▸ List.sublist_cons_self f rest
  have hinactive := h.apart (by simp [hsynchronizing])
  have hopen := h.session.closed (by simp [hinactive]) (by simp [hinactive])
  have hgrown : q.log = s.runner.log ++ [] := hlog.trans (List.append_nil _).symm
  have hsyncs := h.syncs_append hgrown
  rw [withRunner_eq (s := { s with toPi := rest }) hgrown]
  simp only [List.filterMap_nil, List.append_nil] at hsyncs ⊢
  refine ⟨h.safe, hsession ▸ h.session, hsyncs, h.oks_append hgrown hrest, hlog ▸ h.accepted,
    fun hne => absurd hstate hne, fun hne => absurd (hstate.symm.trans hne) (by simp), fun _ => ?_⟩
  cases h.synchronizing hsynchronizing with
  | requested _ _ _ _ _ hlost => exact absurd (hmem rest) (htoPi ▸ hlost)
  | missed _ hlost => exact absurd (hmem rest) (htoPi ▸ hlost)
  | answered older newer hempty hpi holder hnewer hreceiver =>
    rw [htoPi] at hpi
    cases older with
    | cons g older =>
      obtain ⟨rfl, _⟩ := List.cons.inj hpi
      exact absurd (hmem older) holder
    | nil =>
      rw [List.nil_append] at hpi
      have hsilent : responses rest = [] := by
        have hfewer := responses_sublist (List.sublist_cons_self f rest)
        rw [hpi, hnewer] at hfewer
        exact List.sublist_nil.mp hfewer
      obtain ⟨receiver, hfresh, hholds⟩ := receiver_fresh hreceiver
      refine ⟨{ receiver := receiver }, .fresh hfresh, ?_, hsilent.symm, hholds, ?_, ?_, by simp, ?_⟩
      · simp [hempty, commands]
      · simp [hempty, tokens]
      · rw [hsession, hopen]
      · intro _ _
        rw [hsession]
        exact hinactive

theorem Agreeing.connect (h : s.Agreeing) (syncToken : UInt64) (time : ℤ)
    (hnodup : (s.runner.connect syncToken time).sentTokens.Nodup) :
    Agreeing (s.withRunner (s.runner.connect syncToken time)) := by
  have hlog : (s.runner.connect syncToken time).log = s.runner.log ++ [.epochBegan,
      .sent (Stm32LinkSession.linkSyncFrame s.runner.linkSession.nextSequence syncToken) time] :=
    List.append_assoc _ _ _
  have htokens := syncTokens_linkSyncFrame s.runner.linkSession.nextSequence syncToken
  have hsent : (s.runner.connect syncToken time).sentTokens = s.runner.sentTokens ++ [syncToken] :=
    (sentTokens_append hlog).trans (congrArg _ htokens)
  have hfresh : syncToken ∉ s.runner.sentTokens := by
    rw [hsent, List.nodup_append] at hnodup
    exact fun hmem => hnodup.2.2 _ hmem _ (List.mem_singleton_self _) rfl
  rw [withRunner_eq hlog]
  refine ⟨h.safe, s.runner.motionSession.reset_consistent, h.syncs_append hlog,
    h.oks_append hlog (List.Sublist.refl _), h.accepted_append hlog (by simp), fun _ => rfl,
    fun _ => ?_, fun hne => absurd hne (by simp [Stm32ClientRunner.connect])⟩
  exact .requested s.toStm _ rfl rfl (fun hmem => hfresh (h.syncs _ hmem))
    fun hmem => hfresh (h.oks _ hmem)

theorem Agreeing.close (h : s.Agreeing) :
    Agreeing (s.withRunner s.runner.disconnectCurrentEpoch) := by
  have hlog : s.runner.disconnectCurrentEpoch.log = s.runner.log ++ [] :=
    (List.append_nil _).symm
  rw [withRunner_eq hlog]
  simp only [List.filterMap_nil, List.append_nil]
  exact ⟨h.safe, s.runner.motionSession.reset_consistent, h.syncs, h.oks, h.accepted, fun _ => rfl,
    by simp [Stm32ClientRunner.disconnectCurrentEpoch],
    by simp [Stm32ClientRunner.disconnectCurrentEpoch]⟩

theorem Unremarkable.nil : Unremarkable [] := ⟨by simp, by simp⟩

/-- An elementary step of the client, in a run that never repeats a token. -/
theorem Agreeing.client (h : s.Agreeing) {input : Option ProtocolFrame}
    {rest : List ProtocolFrame} (htoPi : s.toPi = input.toList ++ rest)
    (hstep : Stm32ClientRunner.Step input s.runner q) (hnodup : q.sentTokens.Nodup) :
    Agreeing (withRunner { s with toPi := rest } q) := by
  cases hstep with
  | ignored _ f =>
    have hrest : rest.Sublist s.toPi := htoPi ▸ List.sublist_append_right [f] rest
    have hlost := h.lose (List.Sublist.refl s.toStm) hrest
    rw [withRunner_self (s := { s with toPi := rest })]
    exact hlost
  | answered _ f result hstate hanswers =>
    exact h.answered htoPi hstate hstate hanswers rfl rfl
  | synchronized _ f link hstate htype htoken =>
    exact h.synchronized htoPi hstate rfl htype htoken rfl rfl
  | idle hidle =>
    cases htoPi
    exact h.note (hidle.log.trans (List.append_nil _).symm) .nil (.inr rfl) hidle.state
      hidle.syncToken hidle.session
  | command _ c =>
    cases htoPi
    exact h.note rfl ⟨by simp, by simp [ClientEvent.sentFrame]⟩ (.inr rfl) rfl rfl (.refl _)
  | wheel _ sequence c hstate =>
    cases htoPi
    refine h.note rfl ⟨by simp, ?_⟩ (.inl hstate) rfl rfl (.refl _)
    simp [ClientEvent.sentFrame, Stm32MotionSession.wheelVelocityFrame]
  | heartbeat _ sequence nowMs time hstate =>
    cases htoPi
    refine h.note rfl ⟨by simp, ?_⟩ (.inl hstate) rfl rfl (.refl _)
    simp [ClientEvent.sentFrame, Stm32LinkSession.clientHeartbeatFrame]
  | retry _ time hstate hpending =>
    cases htoPi
    exact h.retry time hstate hpending
  | start _ sessionId f hstate hinactive hf time =>
    cases htoPi
    exact h.start sessionId f time hstate hinactive hf
  | finish _ sessionId f hstate hf time =>
    cases htoPi
    exact h.finish sessionId f time hstate hf
  | connect _ syncToken time hstate =>
    cases htoPi
    exact h.connect syncToken time hnodup
  | close =>
    cases htoPi
    exact h.close

theorem Agreeing.steps (h : s.Agreeing) {frames rest : List ProtocolFrame}
    (htoPi : s.toPi = frames ++ rest) (hsteps : s.runner.Steps frames q)
    (hnodup : q.sentTokens.Nodup) : Agreeing (withRunner { s with toPi := rest } q) := by
  induction hsteps generalizing rest with
  | refl =>
    cases htoPi
    rw [withRunner_self]
    exact h
  | tail hbefore hlast ih =>
    rw [List.append_assoc] at htoPi
    have hgrown := hlast.log_grows
    have hbefore' := ih htoPi (hnodup.sublist (sentTokens_sublist hgrown))
    have hafter := hbefore'.client rfl hlast hnodup
    rw [← withRunner_trans (s := { s with toPi := rest }) (Stm32ClientRunner.Steps.log_grows hbefore) hgrown]
    exact hafter

end LinkedSystem

end IndoorRobot
