import IndoorRobot.LinkedSystem

/-!
# What can be under way between the Pi and the STM32

`Agreeing` says what can be under way on both channels in each state of the client.
While the link is synchronizing, the answer to the current token is still to come, is
the last thing on its way, or never comes; once it is synchronized, the lifecycle
commands and responses form an orderly stop-and-wait exchange. Here: losses and the
steps of the firmware keep this.
-/
namespace IndoorRobot

open MotionLifecycleCommandType MotionResponseResult StopAndWait MotionLifecycleCoordinator
  LabelledRuns Firmware

/-- The tokens of the LINK_SYNC frames the client has sent. -/
def Stm32ClientRunner.sentTokens (r : Stm32ClientRunner) : List UInt64 :=
  syncTokens (r.log.filterMap ClientEvent.sentFrame)

/-- The session a client is left with when the last transaction was answered OK. -/
def Stm32MotionSession.SettledBy (s : Stm32MotionSession) : Option MotionTransaction → Prop
  | none => s.state = .inactive
  | some t => t.command = startSession ∧ s.state = .active ∧ s.activeSessionId = t.motionSessionId ∨
      t.command ≠ startSession ∧ s.state = .inactive

/-- The transaction that is waiting for its response. -/
def Stm32MotionSession.openTransaction (s : Stm32MotionSession) : Option MotionTransaction :=
  if s.transactionPending then some s.pendingTransaction else none

namespace LinkedSystem

/-- The exchange of a synchronized link. -/
structure Exchanging (s : LinkedSystem) (e : LifecycleExchange) : Prop where
  inOrder : InOrder e
  requests : e.requests = commands s.toStm
  answers : e.answers = responses s.toPi
  receiver : s.firmware.Holds e.receiver
  unasked : syncTokens s.toStm = []
  pending : e.pending = s.runner.motionSession.openTransaction
  next : e.pending = none → ∀ t, e.settled = some t →
    s.runner.motionSession.nextSequence = t.sequence + 1
  agreed : e.pending = none → e.receiver ≠ .down → s.runner.motionSession.SettledBy e.settled

/-- The answer to the current token: still to come, the last thing under way, or lost. -/
inductive Synchronizing (s : LinkedSystem) (token : UInt64) : Prop
  | requested (earlier : List ProtocolFrame) (f : ProtocolFrame) (htoStm : s.toStm = earlier ++ [f])
      (hf : f.messageType = .linkSync) (hearlier : token ∉ syncTokens earlier)
      (htoPi : token ∉ okTokens s.toPi)
  | answered (older newer : List ProtocolFrame) (htoStm : s.toStm = [])
      (htoPi : s.toPi = older ++ newer) (holder : token ∉ okTokens older)
      (hnewer : responses newer = [])
      (hreceiver : s.firmware.Holds .down ∨ s.firmware.Holds (.resting none))
  | missed (htoStm : token ∉ syncTokens s.toStm) (htoPi : token ∉ okTokens s.toPi)

/-- What holds in every reachable state. -/
structure Agreeing (s : LinkedSystem) : Prop where
  safe : s.firmware.Safe
  session : s.runner.motionSession.Consistent
  syncs : ∀ token ∈ syncTokens s.toStm, token ∈ s.runner.sentTokens
  oks : ∀ token ∈ okTokens s.toPi, token ∈ s.runner.sentTokens
  accepted : ∀ command sessionId result,
    .responseAccepted command sessionId result ∈ s.runner.log → Reported result
  apart : s.runner.state ≠ .synchronized → s.runner.motionSession.state = .inactive
  synchronizing : s.runner.state = .synchronizing →
    s.Synchronizing s.runner.linkSession.pendingSyncToken
  exchanging : s.runner.state = .synchronized → ∃ e, s.Exchanging e

variable {s : LinkedSystem}

theorem commands_sublist {l l' : List ProtocolFrame} (h : l.Sublist l') :
    (commands l).Sublist (commands l') :=
  h.filterMap _

theorem responses_sublist {l l' : List ProtocolFrame} (h : l.Sublist l') :
    (responses l).Sublist (responses l') :=
  h.filterMap _

theorem tokens_sublist {type : ProtocolMessageType} {l l' : List ProtocolFrame}
    (h : l.Sublist l') : (tokens type l).Sublist (tokens type l') :=
  h.filterMap _

/-- The channels lose something, or the client takes a frame without effect. -/
theorem Agreeing.lose (h : s.Agreeing) {toStm toPi : List ProtocolFrame}
    (hstm : toStm.Sublist s.toStm) (hpi : toPi.Sublist s.toPi) :
    Agreeing { s with toStm := toStm, toPi := toPi } where
  safe := h.safe
  session := h.session
  syncs token htoken := h.syncs token ((tokens_sublist hstm).subset htoken)
  oks token htoken := h.oks token ((tokens_sublist hpi).subset htoken)
  accepted := h.accepted
  apart := h.apart
  synchronizing hstate := by
    cases h.synchronizing hstate with
    | requested earlier f htoStm hf hearlier htoPi =>
      have hoks := fun hmem => htoPi ((tokens_sublist hpi).subset hmem)
      obtain ⟨earlier', last, rfl, hearlier', hlast⟩ := List.sublist_append_iff.mp (htoStm ▸ hstm)
      have hearlier'' := fun hmem => hearlier ((tokens_sublist hearlier').subset hmem)
      rcases List.sublist_singleton.mp hlast with rfl | rfl
      · exact .missed (by simpa using hearlier'') hoks
      · exact .requested earlier' f rfl hf hearlier'' hoks
    | answered older newer htoStm htoPi holder hnewer hreceiver =>
      obtain ⟨older', newer', rfl, holder', hnewer'⟩ := List.sublist_append_iff.mp (htoPi ▸ hpi)
      refine .answered older' newer' ?_ rfl (fun hmem => holder ((tokens_sublist holder').subset hmem))
        ?_ hreceiver
      · exact List.sublist_nil.mp (htoStm ▸ hstm)
      · exact List.sublist_nil.mp (hnewer ▸ responses_sublist hnewer')
    | missed htoStm htoPi =>
      exact .missed (fun hmem => htoStm ((tokens_sublist hstm).subset hmem))
        fun hmem => htoPi ((tokens_sublist hpi).subset hmem)
  exchanging hstate := by
    obtain ⟨e, he⟩ := h.exchanging hstate
    refine ⟨{ e with requests := commands toStm, answers := responses toPi }, ?_, rfl, rfl,
      he.receiver, ?_, he.pending, he.next, he.agreed⟩
    · exact he.inOrder.lose (he.requests ▸ commands_sublist hstm) (he.answers ▸ responses_sublist hpi)
    · exact List.sublist_nil.mp (he.unasked ▸ tokens_sublist hstm)

/-- A lifecycle action sends acknowledgements and responses only. -/
theorem framesOf_types (a : MotionLifecycleAction) :
    ∀ f ∈ MotionSystem.framesOf a, f.messageType ≠ .linkSyncOk := by
  intro f hf
  simp only [MotionSystem.framesOf, motionCommandFramesBuild, List.mem_append,
    Option.mem_toList] at hf
  rcases hf with hf | hf
  · split_ifs at hf
    cases hf
    exact (by decide : ProtocolMessageType.motionAck ≠ .linkSyncOk)
  · split_ifs at hf
    cases hf
    exact (by decide : ProtocolMessageType.motionResponse ≠ .linkSyncOk)

theorem linkSyncDecode_okFrame (sequence : UInt16) (payload : LinkSyncPayload) :
    linkSyncDecode (linkSyncOkFrame sequence payload).payload.bytes = payload :=
  isCodec_linkSync.decode_ofBytes (by decide) payload

/-- The firmware confirms tokens it is asked for only. -/
theorem okTokens_of_step {input : Option ProtocolFrame} {p q : Firmware} {out : List ProtocolFrame}
    (h : Step input p out q) : ∀ token ∈ okTokens out, token ∈ syncTokens input.toList := by
  have hnone (hout : ∀ f ∈ out, f.messageType ≠ .linkSyncOk) :
      ∀ token ∈ okTokens out, token ∈ syncTokens input.toList := by
    simp [tokens_eq_nil hout]
  cases h with
  | quiet _ _ _ _ _ hout _ =>
    apply hnone
    intro f hf
    rw [hout f hf]
    decide
  | synchronized f _ _ _ hroute hout _ =>
    intro token htoken
    obtain ⟨g, hg, htoken⟩ := List.mem_filterMap.mp htoken
    rcases hout g hg with hbeat | rfl
    · rw [hbeat, if_neg (by decide)] at htoken
      cases htoken
    · have htype : (linkSyncOkFrame f.sequence (linkSyncDecode f.payload.bytes)).messageType =
          .linkSyncOk := rfl
      rw [if_pos htype, linkSyncDecode_okFrame] at htoken
      simpa [tokens, protocolIngressRoute_linkSync hroute, eq_comm] using htoken
  | commanded f _ _ _ _ _ => exact hnone (framesOf_types _)
  | completed _ _ operationId result _ _ _ =>
    apply hnone
    intro f hf
    rw [List.mem_singleton.mp hf]
    exact (by decide : ProtocolMessageType.motionResponse ≠ .linkSyncOk)

theorem withFirmware_eq {q : Firmware} {out : List ProtocolFrame}
    (h : s.firmware.motion.board.Emits out q.motion.board) :
    s.withFirmware q = { s with firmware := q, toPi := s.toPi ++ out } := by
  obtain ⟨events, hlog, rfl⟩ := h
  simp [withFirmware, hlog]

theorem receiver_fresh {fw : Firmware} (h : fw.Holds .down ∨ fw.Holds (.resting none)) :
    ∃ receiver, (receiver = .down ∨ receiver = .resting none) ∧ fw.Holds receiver := by
  rcases h with hdown | hresting
  · exact ⟨_, .inl rfl, hdown⟩
  · exact ⟨_, .inr rfl, hresting⟩

/-- The firmware has dealt with the current LINK_SYNC. -/
theorem Synchronizing.afterRequest {token : UInt64} {f : ProtocolFrame} {q : Firmware}
    {out : List ProtocolFrame} (hf : f.messageType = .linkSync) (hpi : token ∉ okTokens s.toPi)
    (hstep : Step (some f) s.firmware out q) :
    Synchronizing { s with firmware := q, toStm := [], toPi := s.toPi ++ out } token := by
  cases hstep with
  | quiet _ _ _ _ _ hout _ =>
    have hnone : okTokens out = [] := tokens_eq_nil fun g hg => by
      rw [hout g hg]
      decide
    exact .missed (by simp [tokens]) (by simpa [hnone] using hpi)
  | synchronized _ _ _ _ hroute hout hdown =>
    refine .answered s.toPi out rfl rfl hpi ?_ ?_
    · apply responses_eq_nil
      intro g hg
      rcases hout g hg with hbeat | rfl
      · rw [hbeat]
        decide
      · exact (by decide : ProtocolMessageType.linkSyncOk ≠ .motionResponse)
    · rcases hdown with hdown | ⟨hsync, hreset⟩
      · exact .inl hdown
      · refine .inr ⟨hsync, ?_⟩
        rw [hreset]
        exact reset_rests _
  | commanded _ _ _ hroute _ _ =>
    have htype := protocolIngressRoute_motionCommand hroute
    rw [hf] at htype
    exact absurd htype (by decide)

/-- A step of the firmware while the link is synchronizing. -/
theorem Synchronizing.firmware {token : UInt64} (h : s.Synchronizing token) (hsafe : s.firmware.Safe)
    {input : Option ProtocolFrame} {rest out : List ProtocolFrame} {q : Firmware}
    (htoStm : s.toStm = input.toList ++ rest) (hstep : Step input s.firmware out q) :
    Synchronizing { s with firmware := q, toStm := rest, toPi := s.toPi ++ out } token := by
  have hoks := okTokens_of_step hstep
  cases h with
  | missed hasked hpi =>
    rw [htoStm] at hasked
    simp only [tokens_append, List.mem_append, not_or] at hasked
    refine .missed hasked.2 ?_
    simp only [tokens_append, List.mem_append, not_or]
    exact ⟨hpi, fun hmem => hasked.1 (hoks token hmem)⟩
  | answered older newer hempty hpi holder hnewer hreceiver =>
    rw [hempty] at htoStm
    obtain ⟨hinput, rfl⟩ := List.nil_eq_append_iff.mp htoStm
    obtain ⟨receiver, hfresh, hholds⟩ := receiver_fresh hreceiver
    have hrequests : [] = commands input.toList ++ [] := by simp [hinput, commands]
    obtain ⟨receiver', -, hholds', hinOrder⟩ := hstep.exchange hsafe
      (Orderly.fresh hfresh) hholds hrequests (by simp [hinput, tokens])
    obtain ⟨hsilent, hreceiver'⟩ := hinOrder.untouched rfl rfl
    refine .answered older (newer ++ out) rfl (by simp [hpi]) holder ?_ ?_
    · rw [responses_append, hnewer]
      exact hsilent
    · rcases hreceiver' with hreceiver' | hreceiver'
      · exact .inl (hreceiver' ▸ hholds')
      · exact .inr (hreceiver' ▸ hholds')
  | requested earlier f hrequested hf hearlier hpi =>
    rw [hrequested] at htoStm
    cases input with
    | none =>
      refine .requested earlier f htoStm.symm hf hearlier ?_
      simp only [tokens_append, List.mem_append, not_or]
      exact ⟨hpi, fun hmem => by simpa [tokens] using hoks token hmem⟩
    | some g =>
      cases earlier with
      | nil =>
        obtain ⟨rfl, rfl⟩ := List.cons.inj htoStm
        exact .afterRequest hf hpi hstep
      | cons g' earlier =>
        obtain ⟨rfl, rfl⟩ := List.cons.inj htoStm
        rw [← List.singleton_append] at hearlier
        simp only [tokens_append, List.mem_append, not_or] at hearlier
        refine .requested earlier f rfl hf hearlier.2 ?_
        simp only [tokens_append, List.mem_append, not_or]
        exact ⟨hpi, fun hmem => hearlier.1 (hoks token hmem)⟩

theorem Agreeing.firmware (h : s.Agreeing) {input : Option ProtocolFrame}
    {rest : List ProtocolFrame} {q : Firmware} (htoStm : s.toStm = input.toList ++ rest)
    (hq : q.Safe) (hmoves : Moves input s.firmware q) :
    Agreeing (withFirmware { s with toStm := rest } q) := by
  obtain ⟨out, hemits, hstep⟩ := hmoves
  rw [withFirmware_eq (s := { s with toStm := rest }) hemits]
  have hrest : rest.Sublist s.toStm := htoStm ▸ List.sublist_append_right _ _
  refine ⟨hq, h.session, fun token htoken => h.syncs token ((tokens_sublist hrest).subset htoken),
    ?_, h.accepted, h.apart, fun hstate => (h.synchronizing hstate).firmware h.safe htoStm hstep, ?_⟩
  · intro token htoken
    simp only [tokens_append, List.mem_append] at htoken
    rcases htoken with htoken | htoken
    · exact h.oks token htoken
    · apply h.syncs token
      rw [htoStm]
      simp only [tokens_append, List.mem_append]
      exact .inl (okTokens_of_step hstep token htoken)
  · intro hstate
    obtain ⟨e, he⟩ := h.exchanging hstate
    have hunasked : syncTokens input.toList = [] ∧ syncTokens rest = [] := by
      have hboth := he.unasked
      rw [htoStm] at hboth
      simpa only [tokens_append, List.append_eq_nil_iff] using hboth
    have hrequests : e.requests = commands input.toList ++ commands rest := by
      rw [he.requests, htoStm, commands_append]
    obtain ⟨receiver, hup, hholds, hinOrder⟩ :=
      hstep.exchange h.safe he.inOrder he.receiver hrequests hunasked.1
    refine ⟨_, hinOrder, rfl, ?_, hholds, hunasked.2, he.pending, he.next,
      fun hpending hreceiver => he.agreed hpending (hup hreceiver)⟩
    rw [responses_append, he.answers]

end LinkedSystem

end IndoorRobot
