import IndoorRobot.MotionLifecycleCoordinator
import Mathlib.Algebra.Order.Group.Multiset
import Mathlib.Data.List.Induction

/-!
# The ledger of accepted commands and original answers

An observer of the coordinator writes down every command classified NEW and every
response that is not a replay. The ledger balances in every run, and the latest
accepted command can be repeated safely until a completion overwrites a newer
terminal that wrapped around to the same sequence number.
-/
namespace IndoorRobot

open MotionLifecycleCommandType MotionResponseResult

namespace MotionLifecycleCoordinator

/-- One call between two resets. -/
inductive Call where
  | handle (t : MotionTransaction)
  | complete (operationId : UInt32) (result : MotionLifecycleOperationResult)
  deriving DecidableEq, Repr

def step (c : MotionLifecycleCoordinator) : Call → MotionLifecycleAction × MotionLifecycleCoordinator
  | .handle t => c.handleTransaction t
  | .complete operationId result => c.completeOperation operationId result

/-- The states a run may start from. -/
inductive Fresh : MotionLifecycleCoordinator → Prop where
  | init : Fresh init
  | reset (c : MotionLifecycleCoordinator) : Fresh c.reset

theorem Fresh.coherent {c : MotionLifecycleCoordinator} (h : c.Fresh) : c.Coherent := by
  cases h with
  | init => exact init_coherent
  | reset c => exact reset_coherent c

theorem Coherent.step {c : MotionLifecycleCoordinator} (h : c.Coherent) (x : Call) :
    (c.step x).2.Coherent := by
  cases x with
  | handle t => exact h.handleTransaction t
  | complete operationId result => exact h.completeOperation operationId result

/-- The response of an action, if it carries one. -/
def response (a : MotionLifecycleAction) : List (MotionTransaction × MotionResponseResult) :=
  if a.sendResponse then [(a.responseTransaction, a.responseResult)] else []

/-- What an observer has written down. `latest` is the most recently accepted
command together with its own terminal result, once that has been issued. -/
structure Ledger where
  accepted : List MotionTransaction := []
  answered : List (MotionTransaction × MotionResponseResult) := []
  latest : Option (MotionTransaction × Option MotionResponseResult) := none
  deriving DecidableEq, Repr

/-- The terminal result an acceptance issues for the accepted command itself. A
SUPERSEDED answer belongs to the transaction that was pending before. -/
def ownAnswer (a : MotionLifecycleAction) : Option MotionResponseResult :=
  if a.sendResponse = true ∧ a.responseResult ≠ superseded then some a.responseResult else none

/-- A completion answers the latest command if that one still waits for it. -/
def Ledger.settle (l : Ledger) (a : MotionLifecycleAction) :
    Option (MotionTransaction × Option MotionResponseResult) :=
  match l.latest with
  | some (t, none) =>
    if a.sendResponse = true ∧ a.responseTransaction = t then some (t, some a.responseResult)
    else some (t, none)
  | other => other

/-- The observer's entry for one call made in state `c`. -/
def Ledger.record (l : Ledger) (c : MotionLifecycleCoordinator) : Call → Ledger
  | .handle t =>
    let a := (c.handleTransaction t).1
    if c.reliableReceiver.classify t = .new then
      { accepted := l.accepted ++ [t]
        answered := l.answered ++ response a
        latest := some (t, ownAnswer a) }
    else l
  | .complete operationId result =>
    let a := (c.completeOperation operationId result).1
    { l with answered := l.answered ++ response a, latest := l.settle a }

/-- The coordinator and the ledger after a sequence of calls. -/
def run (c : MotionLifecycleCoordinator) (calls : List Call) : MotionLifecycleCoordinator × Ledger :=
  calls.foldl (fun s x => ((s.1.step x).2, s.2.record s.1 x)) (c, {})

@[simp] theorem run_nil (c : MotionLifecycleCoordinator) : c.run [] = (c, {}) := rfl

@[simp] theorem run_concat (c : MotionLifecycleCoordinator) (calls : List Call) (x : Call) :
    c.run (calls ++ [x]) =
      (((c.run calls).1.step x).2, (c.run calls).2.record (c.run calls).1 x) := by
  simp [run]

theorem Coherent.run {c : MotionLifecycleCoordinator} (h : c.Coherent) (calls : List Call) :
    (c.run calls).1.Coherent := by
  induction calls using List.reverseRecOn with
  | nil => exact h
  | append_singleton calls x ih => simpa using ih.step x

/-- The pending slot as a multiset of at most one transaction. -/
def pendingTransactions (c : MotionLifecycleCoordinator) : Multiset MotionTransaction :=
  if c.reliableReceiver.pendingValid then {c.reliableReceiver.pendingTransaction} else 0

/-- Every accepted command is answered or pending, each exactly once. -/
def Balanced (c : MotionLifecycleCoordinator) (l : Ledger) : Prop :=
  (l.accepted : Multiset MotionTransaction) =
    ((l.answered.map Prod.fst : List MotionTransaction) : Multiset MotionTransaction) +
      c.pendingTransactions

/-- An accepted command is acknowledged under its own identity and becomes the frontier. -/
theorem handleTransaction_acknowledges (c : MotionLifecycleCoordinator) (t : MotionTransaction)
    (h : c.reliableReceiver.classify t = .new) :
    (c.handleTransaction t).1.sendAck = true ∧ (c.handleTransaction t).1.ackTransaction = t ∧
      (c.handleTransaction t).2.reliableReceiver.latestSequenceValid = true ∧
      (c.handleTransaction t).2.reliableReceiver.latestSequence = t.sequence := by
  have hout := handleTransaction_outcome c t h
  generalize c.handleTransaction t = out at hout ⊢
  cases hout <;> exact ⟨rfl, rfl, rfl, rfl⟩

private theorem balanced_handle {c : MotionLifecycleCoordinator} {l : Ledger} (hc : c.Coherent)
    (h : Balanced c l) (t : MotionTransaction) :
    Balanced (c.handleTransaction t).2 (l.record c (.handle t)) := by
  by_cases hnew : c.reliableReceiver.classify t = .new
  · have hout := handleTransaction_outcome c t hnew
    simp only [Ledger.record, if_pos hnew]
    generalize c.handleTransaction t = out at hout ⊢
    rw [Balanced] at h ⊢
    cases hout with
    | immediate result _ _ =>
      simp only [← Multiset.coe_add, h, answerImmediately, response, if_true, List.map_append]
      simp only [pendingTransactions, MotionReliableReceiver.recordImmediateTerminal,
        List.map_cons, List.map_nil]
      exact add_right_comm _ _ _
    | request state sessionId hfree _ =>
      have hp : c.pendingTransactions = 0 := by
        simp [pendingTransactions, hc.pending_iff, hfree]
      rw [hp, add_zero] at h
      simp only [← Multiset.coe_add, h]
      simp [requestStop, beginNewOperation, response, pendingTransactions,
        MotionReliableReceiver.beginPending, MotionLifecycleAction.none]
    | transfer state sessionId hbusy _ =>
      have hp : c.pendingTransactions = {c.reliableReceiver.pendingTransaction} := by
        simp [pendingTransactions, hc.pending_iff, hbusy]
      rw [hp] at h
      simp only [← Multiset.coe_add, h]
      simp [supersede, response, pendingTransactions, MotionReliableReceiver.beginPending,
        ← Multiset.coe_add]
  · simpa only [Ledger.record, if_neg hnew, handleTransaction_unchanged c t hnew] using h

private theorem balanced_complete {c : MotionLifecycleCoordinator} {l : Ledger}
    (h : Balanced c l) (operationId : UInt32) (result : MotionLifecycleOperationResult) :
    Balanced (c.completeOperation operationId result).2
      (l.record c (.complete operationId result)) := by
  by_cases hc : c.Completes operationId
  · have hp : c.pendingTransactions = {c.reliableReceiver.pendingTransaction} := by
      simp [pendingTransactions, hc.2.2.1]
    rw [Balanced] at h ⊢
    rw [hp] at h
    simp only [Ledger.record, completeOperation_accepted c operationId result hc,
      MotionReliableReceiver.completePending_self _ _ hc.2.2.1, h]
    split_ifs <;> simp [response, pendingTransactions, ← Multiset.coe_add]
  · rw [Balanced] at h ⊢
    simp only [Ledger.record, completeOperation_ignored c operationId result hc, h]
    simp [response, MotionLifecycleAction.none]

theorem balanced_run {c : MotionLifecycleCoordinator} (hc : c.Fresh) (calls : List Call) :
    Balanced (c.run calls).1 (c.run calls).2 := by
  induction calls using List.reverseRecOn with
  | nil =>
    cases hc <;> simp [Balanced, pendingTransactions, init, reset, MotionReliableReceiver.reset]
  | append_singleton calls x ih =>
    rw [run_concat]
    cases x with
    | handle t => exact balanced_handle (hc.coherent.run calls) ih t
    | complete operationId result => exact balanced_complete ih operationId result

/-- A response to anything but an accepted command is a replay. -/
theorem handleTransaction_replay (c : MotionLifecycleCoordinator) (t : MotionTransaction)
    (h : c.reliableReceiver.classify t ≠ .new) (hr : (c.handleTransaction t).1.sendResponse = true) :
    c.reliableReceiver.classify t = .completedRetry := by
  rw [handleTransaction] at hr
  cases hd : c.reliableReceiver.classify t <;> simp_all [MotionLifecycleAction.none]

/-- In every run from a fresh coordinator the commands classified NEW are, as a
multiset, the transactions of all original responses and the pending one. What is
classified NEW next is acknowledged and becomes the frontier, and a response to
anything else is the replay of a completed retry. -/
theorem accepted_answered_once (c : MotionLifecycleCoordinator) (hc : c.Fresh) (calls : List Call) :
    (∀ t, (c.run calls).1.reliableReceiver.classify t = .new →
      ((c.run calls).1.handleTransaction t).1.sendAck = true ∧
        ((c.run calls).1.handleTransaction t).1.ackTransaction = t ∧
        ((c.run calls).1.handleTransaction t).2.reliableReceiver.latestSequenceValid = true ∧
        ((c.run calls).1.handleTransaction t).2.reliableReceiver.latestSequence = t.sequence) ∧
    (∀ t, (c.run calls).1.reliableReceiver.classify t ≠ .new →
      ((c.run calls).1.handleTransaction t).1.sendResponse = true →
        (c.run calls).1.reliableReceiver.classify t = .completedRetry) ∧
    ((c.run calls).2.accepted : Multiset MotionTransaction) =
      (((c.run calls).2.answered.map Prod.fst : List MotionTransaction) :
        Multiset MotionTransaction) +
        if (c.run calls).1.reliableReceiver.pendingValid then
          {(c.run calls).1.reliableReceiver.pendingTransaction} else 0 :=
  ⟨fun t => handleTransaction_acknowledges _ t, fun t => handleTransaction_replay _ t,
    balanced_run hc calls⟩

/-- A START that is superseded by a second START, which stays pending. -/
theorem accepted_answered_once_superseded :
    (([⟨1, startSession, 7⟩, ⟨2, startSession, 8⟩] : List MotionTransaction) :
        Multiset MotionTransaction) =
      (([⟨1, startSession, 7⟩] : List MotionTransaction) : Multiset MotionTransaction) +
        {⟨2, startSession, 8⟩} :=
  (accepted_answered_once init .init
    [.handle ⟨1, startSession, 7⟩, .handle ⟨2, startSession, 8⟩]).2.2

/-! ### Repeating the latest accepted command -/

/-- Repeating the latest accepted command changes nothing, requests nothing, is
acknowledged, and replays its terminal result if that has been issued. -/
def RetrySafe (s : MotionLifecycleCoordinator × Ledger) : Prop :=
  ∀ t answer, s.2.latest = some (t, answer) →
    (s.1.handleTransaction t).2 = s.1 ∧
      (s.1.handleTransaction t).1.operation = .none ∧
      (s.1.handleTransaction t).1.sendAck = true ∧
      (s.1.handleTransaction t).1.ackTransaction = t ∧
      ∀ result, answer = some result →
        (s.1.handleTransaction t).1.sendResponse = true ∧
          (s.1.handleTransaction t).1.responseTransaction = t ∧
          (s.1.handleTransaction t).1.responseResult = result

/-- The completion is accepted while a newer terminal is cached under the
sequence number of the pending transaction. -/
def Overwrites (c : MotionLifecycleCoordinator) (operationId : UInt32) : Prop :=
  c.Completes operationId ∧ c.reliableReceiver.terminalValid = true ∧
    c.reliableReceiver.pendingTransaction.sequence = c.reliableReceiver.latestSequence

/-- Where the latest accepted command is kept. -/
def Tracked (c : MotionLifecycleCoordinator) (l : Ledger) : Prop :=
  match l.latest with
  | none => c.reliableReceiver.latestSequenceValid = false
  | some (t, none) =>
    c.reliableReceiver.latestSequenceValid = true ∧ c.reliableReceiver.latestSequence = t.sequence ∧
      c.reliableReceiver.terminalValid = false ∧ c.reliableReceiver.pendingValid = true ∧
      c.reliableReceiver.pendingTransaction = t
  | some (t, some result) =>
    c.reliableReceiver.latestSequenceValid = true ∧ c.reliableReceiver.latestSequence = t.sequence ∧
      c.reliableReceiver.terminalValid = true ∧ c.reliableReceiver.terminalTransaction = t ∧
      c.reliableReceiver.terminalResult = result ∧
      (c.state.stopping = true → ¬ Owner c.state c.motionSessionId t)

theorem tracked_fresh {c : MotionLifecycleCoordinator} (hc : c.Fresh) : Tracked c {} := by
  cases hc <;> rfl

private theorem immediate_ne_superseded {result : MotionResponseResult}
    (h : result ∈ [alreadyActive, alreadyEnded, sessionMismatch, busyStopping, invalidCommand]) :
    result ≠ superseded := by
  rintro rfl
  revert h
  decide

private theorem tracked_handle {c : MotionLifecycleCoordinator} {l : Ledger}
    (h : Tracked c l) (t : MotionTransaction) :
    Tracked (c.handleTransaction t).2 (l.record c (.handle t)) := by
  by_cases hnew : c.reliableReceiver.classify t = .new
  · have hout := handleTransaction_outcome c t hnew
    simp only [Ledger.record, if_pos hnew]
    generalize c.handleTransaction t = out at hout ⊢
    cases hout with
    | immediate result hresult hother =>
      simp [Tracked, ownAnswer, answerImmediately, immediate_ne_superseded hresult,
        MotionReliableReceiver.recordImmediateTerminal, hother]
    | request state sessionId _ _ =>
      simp [Tracked, ownAnswer, requestStop, beginNewOperation, MotionLifecycleAction.none,
        MotionReliableReceiver.beginPending]
    | transfer state sessionId _ _ =>
      simp [Tracked, ownAnswer, supersede, MotionReliableReceiver.beginPending]
  · simpa only [Ledger.record, if_neg hnew, handleTransaction_unchanged c t hnew] using h

private theorem tracked_complete {c : MotionLifecycleCoordinator} {l : Ledger} (hc : c.Coherent)
    (h : Tracked c l) (operationId : UInt32) (result : MotionLifecycleOperationResult)
    (hkeep : ¬ c.Overwrites operationId) :
    Tracked (c.completeOperation operationId result).2
      (l.record c (.complete operationId result)) := by
  by_cases ha : c.Completes operationId
  · have hp := ha.2.2.1
    have hfree := c.completionState_free result
    rw [completeOperation_accepted c operationId result ha,
      MotionReliableReceiver.completePending_self _ _ hp]
    simp only [Ledger.record, completeOperation_accepted c operationId result ha]
    rw [Tracked] at h
    match hl : l.latest with
    | none =>
      rw [hl] at h
      simp [hc.empty h] at hp
    | some (t, none) =>
      rw [hl] at h
      obtain ⟨hv, hs, ht, _, rfl⟩ := h
      simp [Tracked, Ledger.settle, hl, hv, hs, hfree]
    | some (t, some answer) =>
      rw [hl] at h
      obtain ⟨hv, hs, ht, rfl, hanswer, _⟩ := h
      have hseq : ¬ (c.reliableReceiver.latestSequenceValid = true ∧
          c.reliableReceiver.pendingTransaction.sequence = c.reliableReceiver.latestSequence) :=
        fun he => hkeep ⟨ha, ht, he.2⟩
      simp only [if_neg hseq]
      simp [Tracked, Ledger.settle, hl, hv, ht, hanswer, hfree, hs]
  · have hsettle : l.settle .none = l.latest := by
      rw [Ledger.settle]
      match l.latest with
      | none => rfl
      | some (t, none) => simp [MotionLifecycleAction.none]
      | some (t, some answer) => rfl
    rw [Tracked] at h ⊢
    simpa only [Ledger.record, completeOperation_ignored c operationId result ha, hsettle] using h

theorem retrySafe_of_tracked {c : MotionLifecycleCoordinator} {l : Ledger}
    (h : Tracked c l) : RetrySafe (c, l) := by
  intro t answer hl
  rw [Tracked] at h
  simp only at hl
  rw [hl] at h
  cases answer with
  | none =>
    obtain ⟨hv, hs, ht, hp, rfl⟩ := h
    have hd : c.reliableReceiver.classify c.reliableReceiver.pendingTransaction = .pendingRetry := by
      rw [MotionReliableReceiver.classify_pending _ _ hv (by simp [ht]) hp hs.symm hs.symm]
      simp
    simp [handleTransaction, hd, MotionLifecycleAction.none]
  | some result =>
    obtain ⟨hv, hs, ht, rfl, rfl, _⟩ := h
    have hd : c.reliableReceiver.classify c.reliableReceiver.terminalTransaction =
        .completedRetry := by
      rw [MotionReliableReceiver.classify_terminal _ _ hv ht hs.symm hs.symm]
      simp
    simp [handleTransaction, hd, MotionLifecycleAction.none]

/-- An overwriting completion loses the identity of the latest command: its next
retry collides with the transaction that has just completed. -/
theorem not_retrySafe_of_overwrites {c : MotionLifecycleCoordinator} {l : Ledger} (hc : c.Coherent)
    (h : Tracked c l) (operationId : UInt32) (result : MotionLifecycleOperationResult)
    (hover : c.Overwrites operationId) :
    ¬ RetrySafe ((c.completeOperation operationId result).2,
      l.record c (.complete operationId result)) := by
  obtain ⟨ha, hterm, hseq⟩ := hover
  have hp := ha.2.2.1
  rw [Tracked] at h
  match hl : l.latest with
  | none =>
    rw [hl] at h
    simp [hc.empty h] at hp
  | some (t, none) =>
    rw [hl] at h
    simp [h.2.2.1] at hterm
  | some (t, some answer) =>
    rw [hl] at h
    obtain ⟨hv, hs, ht, rfl, hanswer, hother⟩ := h
    have hne : c.reliableReceiver.pendingTransaction ≠ c.reliableReceiver.terminalTransaction :=
      fun he => hother ha.2.2.2 (he ▸ hc.owner ha.2.2.2)
    intro hsafe
    have hlatest : (l.record c (.complete operationId result)).latest =
        some (c.reliableReceiver.terminalTransaction, some answer) := by
      simp [Ledger.record, Ledger.settle, hl]
    have hack := (hsafe _ _ hlatest).2.2.1
    have hd : (c.completeOperation operationId result).2.reliableReceiver.classify
        c.reliableReceiver.terminalTransaction = .collision := by
      have hboth := And.intro hv hseq
      simp only [completeOperation_accepted c operationId result ha,
        MotionReliableReceiver.completePending_self _ _ hp, if_pos hboth]
      refine (MotionReliableReceiver.classify_terminal _ _ ?_ rfl ?_ ?_).trans (if_neg hne)
      · exact hv
      · exact hseq
      · exact hs.symm
    simp [handleTransaction, hd, MotionLifecycleAction.none] at hack

/-- No completion of the run overwrites a newer terminal. -/
def KeepsTerminals (c : MotionLifecycleCoordinator) (calls : List Call) : Prop :=
  ∀ before operationId result, before ++ [.complete operationId result] <+: calls →
    ¬ (c.run before).1.Overwrites operationId

theorem KeepsTerminals.of_concat {c : MotionLifecycleCoordinator} {calls : List Call} {x : Call}
    (h : KeepsTerminals c (calls ++ [x])) : KeepsTerminals c calls :=
  fun before operationId result hb => h before operationId result (hb.trans (List.prefix_append _ _))

theorem tracked_run {c : MotionLifecycleCoordinator} (hc : c.Fresh) (calls : List Call)
    (h : KeepsTerminals c calls) : Tracked (c.run calls).1 (c.run calls).2 := by
  induction calls using List.reverseRecOn with
  | nil => exact tracked_fresh hc
  | append_singleton calls x ih =>
    rw [run_concat]
    cases x with
    | handle t => exact tracked_handle (ih h.of_concat) t
    | complete operationId result =>
      exact tracked_complete (hc.coherent.run calls) (ih h.of_concat) operationId result
        (h calls operationId result (List.prefix_refl _))

/-- A run stays retry-safe throughout exactly when none of its completions
arrives while a newer command is cached under the pending sequence number. -/
theorem retrySafe_throughout_iff (c : MotionLifecycleCoordinator) (hc : c.Fresh)
    (calls : List Call) :
    (∀ before, before <+: calls → RetrySafe (c.run before)) ↔
      ∀ before operationId result, before ++ [.complete operationId result] <+: calls →
        ¬ ((c.run before).1.Completes operationId ∧
          (c.run before).1.reliableReceiver.terminalValid = true ∧
          (c.run before).1.reliableReceiver.pendingTransaction.sequence =
            (c.run before).1.reliableReceiver.latestSequence) := by
  constructor
  · intro hsafe
    change KeepsTerminals c calls
    induction calls using List.reverseRecOn with
    | nil =>
      intro before operationId result hb
      simp at hb
    | append_singleton calls x ih =>
      have hkeep := ih fun before hb => hsafe before (hb.trans (List.prefix_append _ _))
      intro before operationId result hb
      rcases List.prefix_concat_iff.mp hb with heq | hb
      · obtain ⟨rfl, hx⟩ := List.append_inj' heq rfl
        intro hover
        have hlast := hsafe _ (List.prefix_refl _)
        rw [← heq, run_concat] at hlast
        exact not_retrySafe_of_overwrites (hc.coherent.run before) (tracked_run hc before hkeep)
          operationId result hover hlast
      · exact hkeep before operationId result hb
  · intro hkeep before hb
    exact retrySafe_of_tracked (tracked_run hc before
      fun earlier operationId result he => hkeep earlier operationId result (he.trans hb))

/-- A START that stays pending while the frontier goes once around the circle. -/
def wrappingCalls : List Call :=
  [.handle ⟨0, startSession, 1⟩, .handle ⟨0x7FFF, endSession, 2⟩, .handle ⟨0xFFFE, endSession, 2⟩,
    .handle ⟨0, endSession, 2⟩, .complete 1 .success]

theorem retrySafe_throughout_iff_short :
    (∀ before, before <+: wrappingCalls.take 4 → RetrySafe (init.run before)) ↔
      ∀ before operationId result, before ++ [.complete operationId result] <+: wrappingCalls.take 4 →
        ¬ ((init.run before).1.Completes operationId ∧
          (init.run before).1.reliableReceiver.terminalValid = true ∧
          (init.run before).1.reliableReceiver.pendingTransaction.sequence =
            (init.run before).1.reliableReceiver.latestSequence) :=
  retrySafe_throughout_iff init .init (wrappingCalls.take 4)

/-- The mismatching END accepted last under sequence zero is no longer
acknowledged once the older START of the same sequence number completes. -/
theorem retrySafe_lost_after_wrap :
    ¬ ∀ c : MotionLifecycleCoordinator, c.Fresh → ∀ calls : List Call, RetrySafe (c.run calls) := by
  intro h
  have hack := (h init .init wrappingCalls ⟨0, endSession, 2⟩ (some sessionMismatch) (by decide)).2.2.1
  revert hack
  decide

end MotionLifecycleCoordinator

end IndoorRobot
