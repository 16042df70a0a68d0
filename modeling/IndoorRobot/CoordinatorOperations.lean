import IndoorRobot.CoordinatorLedger
import IndoorRobot.CyclicIdentifiers

/-!
# The sequence window and the generation of physical operations

The frontier only moves through accepted commands. A sequence number that was
accepted stays behind the frontier until the accepted advances exceed half of the
circle, and an operation identifier comes back only after a full cycle of the
generation counter, which survives every reset.
-/
namespace IndoorRobot

open MotionLifecycleCommandType MotionResponseResult

namespace MotionLifecycleCoordinator

/-! ### The sequence window -/

/-- How far one call moves the frontier. -/
def frontierDelta (c : MotionLifecycleCoordinator) : Call → ℕ
  | .handle t =>
    if c.reliableReceiver.classify t = .new then
      (t.sequence - c.reliableReceiver.latestSequence).toNat else 0
  | .complete _ _ => 0

/-- The coordinator after a sequence of calls, without the observer. -/
def after (c : MotionLifecycleCoordinator) (calls : List Call) : MotionLifecycleCoordinator :=
  calls.foldl (fun c x => (c.step x).2) c

/-- The sum of the forward deltas of the commands accepted in a run. -/
def frontierAdvance (c : MotionLifecycleCoordinator) : List Call → ℕ
  | [] => 0
  | x :: rest => c.frontierDelta x + frontierAdvance (c.step x).2 rest

/-- Every accepted advance of a valid frontier is between 1 and 32767. -/
theorem frontierDelta_new {c : MotionLifecycleCoordinator} {t : MotionTransaction}
    (hv : c.reliableReceiver.latestSequenceValid = true)
    (h : c.reliableReceiver.classify t = .new) :
    1 ≤ c.frontierDelta (.handle t) ∧ c.frontierDelta (.handle t) ≤ 32767 := by
  have hn := (MotionReliableReceiver.classify_new_iff _ _).mp h
  have hlt := (motionSequenceClassify_newer_iff _ _).mp (hn.resolve_left (by simp [hv]))
  simp only [frontierDelta, if_pos h]
  omega

theorem completeOperation_frontier (c : MotionLifecycleCoordinator) (operationId : UInt32)
    (result : MotionLifecycleOperationResult) :
    (c.completeOperation operationId result).2.reliableReceiver.latestSequenceValid =
        c.reliableReceiver.latestSequenceValid ∧
      (c.completeOperation operationId result).2.reliableReceiver.latestSequence =
        c.reliableReceiver.latestSequence := by
  by_cases ha : c.Completes operationId
  · rw [completeOperation_accepted c operationId result ha,
      MotionReliableReceiver.completePending_self _ _ ha.2.2.1]
    split_ifs <;> exact ⟨rfl, rfl⟩
  · rw [completeOperation_ignored c operationId result ha]
    exact ⟨rfl, rfl⟩

/-- One call moves a valid frontier by its delta. -/
theorem step_frontier {c : MotionLifecycleCoordinator} (x : Call)
    (hv : c.reliableReceiver.latestSequenceValid = true) :
    (c.step x).2.reliableReceiver.latestSequenceValid = true ∧
      (c.reliableReceiver.latestSequence.toNat + c.frontierDelta x) % 65536 =
        (c.step x).2.reliableReceiver.latestSequence.toNat := by
  cases x with
  | handle t =>
    by_cases hnew : c.reliableReceiver.classify t = .new
    · obtain ⟨-, -, hvalid, hlatest⟩ := handleTransaction_acknowledges c t hnew
      refine ⟨hvalid, ?_⟩
      simp only [step, frontierDelta, if_pos hnew, hlatest, toNat_sub_eq_forward]
      exact SerialNumbers.add_forward (UInt16.toNat_lt _) (UInt16.toNat_lt _)
    · simp only [step, frontierDelta, if_neg hnew, handleTransaction_unchanged c t hnew]
      exact ⟨hv, Nat.mod_eq_of_lt (UInt16.toNat_lt _)⟩
  | complete operationId result =>
    obtain ⟨hvalid, hlatest⟩ := completeOperation_frontier c operationId result
    refine ⟨hvalid.trans hv, ?_⟩
    simp only [step, frontierDelta, hlatest]
    exact Nat.mod_eq_of_lt (UInt16.toNat_lt _)

theorem after_frontier {c : MotionLifecycleCoordinator} (calls : List Call)
    (hv : c.reliableReceiver.latestSequenceValid = true) :
    (c.after calls).reliableReceiver.latestSequenceValid = true ∧
      (c.reliableReceiver.latestSequence.toNat + c.frontierAdvance calls) % 65536 =
        (c.after calls).reliableReceiver.latestSequence.toNat := by
  induction calls generalizing c with
  | nil => exact ⟨hv, Nat.mod_eq_of_lt (UInt16.toNat_lt _)⟩
  | cons x rest ih =>
    obtain ⟨hvalid, hmove⟩ := step_frontier x hv
    obtain ⟨hvalid', hmove'⟩ := ih hvalid
    refine ⟨hvalid', ?_⟩
    rw [frontierAdvance, ← SerialNumbers.advance_add, hmove]
    exact hmove'

/-- Within half a circle an accepted sequence number is the frontier or stale. -/
theorem classify_accepted_sequence {c : MotionLifecycleCoordinator} {origin : UInt16}
    {advance : ℕ} (hmove : (origin.toNat + advance) % 65536 =
      c.reliableReceiver.latestSequence.toNat) (hbound : advance ≤ 32768) :
    motionSequenceClassify c.reliableReceiver.latestSequence origin =
      if advance = 0 then .same else .stale := by
  have hback : (origin - c.reliableReceiver.latestSequence).toNat = (65536 - advance) % 65536 := by
    rw [toNat_sub_eq_forward]
    exact SerialNumbers.forward_back (UInt16.toNat_lt _) (UInt16.toNat_lt _) hmove (by omega)
  rcases Nat.eq_zero_or_pos advance with rfl | hpos
  · have hz : origin - c.reliableReceiver.latestSequence = 0 := UInt16.toNat_inj.mp hback
    simp [motionSequenceClassify, hz]
  · rw [Nat.mod_eq_of_lt (by omega)] at hback
    have hne : origin - c.reliableReceiver.latestSequence ≠ 0 := by
      intro hz
      rw [hz] at hback
      simp at hback
      omega
    have hge : ¬ origin - c.reliableReceiver.latestSequence < 0x8000 := by
      rw [UInt16.lt_iff_toNat_lt, hback]
      simp
      omega
    simp [motionSequenceClassify, hne, hge, Nat.pos_iff_ne_zero.mp hpos]

/-- A command accepted once is not executed again while the accepted advances of
the frontier since then sum to at most 32768. -/
theorem accepted_at_most_once (c : MotionLifecycleCoordinator) (t : MotionTransaction)
    (hnew : c.reliableReceiver.classify t = .new) (calls : List Call)
    (hbound : (c.handleTransaction t).2.frontierAdvance calls ≤ 32768)
    (again : MotionTransaction) (hseq : again.sequence = t.sequence) :
    let later := (c.handleTransaction t).2.after calls
    later.reliableReceiver.classify again ≠ .new ∧
      (later.handleTransaction again).1.operation = .none ∧
      (later.handleTransaction again).2 = later ∧
      ((c.handleTransaction t).2.frontierAdvance calls ≠ 0 →
        (later.handleTransaction again).1.sendAck = false ∧
          (later.handleTransaction again).1.sendResponse = false) := by
  intro later
  obtain ⟨-, -, hvalid, hlatest⟩ := handleTransaction_acknowledges c t hnew
  obtain ⟨hvalid', hmove⟩ := after_frontier calls hvalid
  rw [hlatest, ← hseq] at hmove
  have hclass : motionSequenceClassify later.reliableReceiver.latestSequence again.sequence = _ :=
    classify_accepted_sequence hmove hbound
  have hnot : later.reliableReceiver.classify again ≠ .new := by
    intro hc
    rcases (MotionReliableReceiver.classify_new_iff _ _).mp hc with hf | hf
    · simp [later, hvalid'] at hf
    · rw [hclass] at hf
      split_ifs at hf
  refine ⟨hnot, ?_, handleTransaction_unchanged later again hnot, ?_⟩
  · rw [handleTransaction]
    cases hd : later.reliableReceiver.classify again <;>
      simp_all [MotionLifecycleAction.none]
  · intro hadvance
    rw [if_neg hadvance] at hclass
    have hstale := MotionReliableReceiver.classify_stale later.reliableReceiver again hvalid' hclass
    simp [handleTransaction, hstale, MotionLifecycleAction.none]

/-- The boundary distance: after advances of 32767 and 1 the delayed START is stale. -/
theorem accepted_at_most_once_boundary :
    (((init.handleTransaction ⟨5, startSession, 9⟩).2.after
      [.handle ⟨32772, endSession, 1⟩, .handle ⟨32773, endSession, 1⟩]).handleTransaction
        ⟨5, startSession, 9⟩).1.sendAck = false :=
  ((accepted_at_most_once init ⟨5, startSession, 9⟩ (by decide)
    [.handle ⟨32772, endSession, 1⟩, .handle ⟨32773, endSession, 1⟩] (by decide)
    ⟨5, startSession, 9⟩ rfl).2.2.2 (by decide)).1

/-! ### Operation identifiers -/

/-- A call or a runtime reset. -/
inductive Event where
  | call (x : Call)
  | reset
  deriving DecidableEq, Repr

def next (c : MotionLifecycleCoordinator) : Event → MotionLifecycleCoordinator
  | .call x => (c.step x).2
  | .reset => c.reset

/-- The identifiers issued so far, and the position of the operation in progress
together with the transaction that owns it now. -/
structure OperationHistory where
  issued : List UInt32 := []
  active : Option (ℕ × MotionTransaction) := none
  deriving DecidableEq, Repr

/-- What the adapter learns from one event. -/
def OperationHistory.record (h : OperationHistory) (c : MotionLifecycleCoordinator) :
    Event → OperationHistory
  | .call (.handle t) =>
    let a := (c.handleTransaction t).1
    if a.operation = .ensureStopped then
      { issued := h.issued ++ [a.operationId], active := some (h.issued.length, t) }
    else if c.reliableReceiver.classify t = .new ∧ a.sendResponse = true ∧
        a.responseResult = superseded then
      { h with active := h.active.map fun o => (o.1, t) }
    else h
  | .call (.complete operationId result) =>
    if (c.completeOperation operationId result).1.sendResponse then { h with active := none } else h
  | .reset => { h with active := none }

/-- The coordinator and its operation history after a sequence of events. -/
def observe (c : MotionLifecycleCoordinator) (events : List Event) :
    MotionLifecycleCoordinator × OperationHistory :=
  events.foldl (fun s x => (s.1.next x, s.2.record s.1 x)) (c, {})

theorem toNat_nextId (id : UInt32) :
    (nextId id).toNat = CyclicIdentifiers.next 4294967296 id.toNat := by
  have hlt := id.toNat_lt
  rw [nextId, CyclicIdentifiers.next]
  by_cases hend : id.toNat + 1 = 4294967296
  · have hz : id + 1 = 0 := UInt32.toNat_inj.mp (by simp [UInt32.toNat_add, hend])
    rw [if_pos hend, if_pos hz, hz]
    rfl
  · have hs : (id + 1).toNat = id.toNat + 1 := by
      rw [UInt32.toNat_add]
      exact Nat.mod_eq_of_lt (by simp; omega)
    have hz : id + 1 ≠ 0 := by
      intro hz
      rw [hz] at hs
      simp at hs
    rw [if_neg hend, if_neg hz, hs]

theorem toNat_iterate_nextId (id : UInt32) (n : ℕ) :
    (nextId^[n] id).toNat = (CyclicIdentifiers.next 4294967296)^[n] id.toNat :=
  Function.Semiconj.iterate_right (f := UInt32.toNat) toNat_nextId n id

/-- The `n`-th identifier of a coordinator lifetime. -/
def operationIdAt (n : ℕ) : UInt32 := nextId^[n] 0

theorem operationIdAt_succ (n : ℕ) : operationIdAt (n + 1) = nextId (operationIdAt n) :=
  Function.iterate_succ_apply' nextId n 0

theorem operationIdAt_succ_ne_zero (n : ℕ) : operationIdAt (n + 1) ≠ 0 := by
  rw [operationIdAt_succ]
  exact nextId_ne_zero _

/-- Identifiers issued less than a full cycle apart differ. -/
theorem operationIdAt_ne {i n : ℕ} (hlt : i + 1 < n) (hcycle : n - (i + 1) < 2 ^ 32 - 1) :
    operationIdAt n ≠ operationIdAt (i + 1) := by
  intro h
  have hsplit : operationIdAt n = nextId^[n - (i + 1)] (operationIdAt (i + 1)) := by
    simp only [operationIdAt]
    rw [← Function.iterate_add_apply, Nat.sub_add_cancel hlt.le]
  have hnat := congrArg UInt32.toNat (hsplit.symm.trans h)
  rw [toNat_iterate_nextId] at hnat
  refine CyclicIdentifiers.iterate_next_ne ?_ (UInt32.toNat_lt _) (by omega) (by omega) hnat
  rcases Nat.eq_zero_or_pos (operationIdAt (i + 1)).toNat with hz | hp
  · exact absurd (UInt32.toNat_inj.mp (by simpa using hz)) (operationIdAt_succ_ne_zero i)
  · exact hp

/-- The history agrees with the coordinator: identifiers were issued in order,
and only the last one can still be in progress. -/
structure Agrees (c : MotionLifecycleCoordinator) (h : OperationHistory) : Prop where
  coherent : c.Coherent
  issued : h.issued = (List.range h.issued.length).map fun i => operationIdAt (i + 1)
  counter : c.nextOperationId = operationIdAt h.issued.length
  idle : h.active = none → c.activeOperationId = 0
  running : ∀ i owner, h.active = some (i, owner) →
    i + 1 = h.issued.length ∧ c.activeOperationId = operationIdAt h.issued.length ∧
      c.reliableReceiver.pendingTransaction = owner

theorem init_agrees : Agrees init {} :=
  ⟨init_coherent, rfl, rfl, fun _ => rfl, fun _ _ h => by simp at h⟩

private theorem agrees_handle {c : MotionLifecycleCoordinator} {h : OperationHistory}
    (ha : Agrees c h) (t : MotionTransaction) :
    Agrees (c.handleTransaction t).2 (h.record c (.call (.handle t))) := by
  have hcoherent := ha.coherent.handleTransaction t
  by_cases hnew : c.reliableReceiver.classify t = .new
  · have hout := handleTransaction_outcome c t hnew
    simp only [OperationHistory.record, hnew, true_and]
    generalize c.handleTransaction t = out at hout hcoherent ⊢
    cases hout with
    | immediate result hresult _ =>
      have hne : result ≠ superseded := by
        rintro rfl
        revert hresult
        decide
      simp only [answerImmediately, MotionLifecycleAction.none, reduceCtorEq, if_false, hne,
        and_false] at hcoherent ⊢
      exact ⟨hcoherent, ha.issued, ha.counter, ha.idle, ha.running⟩
    | request state sessionId _ _ =>
      simp only [requestStop, beginNewOperation, if_true] at hcoherent ⊢
      have hid : nextId c.nextOperationId = operationIdAt (h.issued.length + 1) := by
        rw [ha.counter, operationIdAt_succ]
      refine ⟨hcoherent, ?_, ?_, fun hn => by simp at hn, ?_⟩
      · rw [List.length_append, List.length_singleton, List.range_succ, List.map_append,
          ← ha.issued, hid]
        rfl
      · simpa using hid
      · rintro i owner hi
        simp only [Option.some.injEq, Prod.mk.injEq] at hi
        obtain ⟨rfl, rfl⟩ := hi
        exact ⟨by simp, by simpa using hid, rfl⟩
    | transfer state sessionId _ _ =>
      simp only [supersede, MotionLifecycleAction.none, reduceCtorEq, if_false, and_self,
        if_true] at hcoherent ⊢
      refine ⟨hcoherent, ha.issued, ha.counter, fun hn => ha.idle (by simpa using hn), ?_⟩
      rintro i owner hi
      obtain ⟨⟨j, previous⟩, hj, hpair⟩ := Option.map_eq_some_iff.mp hi
      simp only [Prod.mk.injEq] at hpair
      obtain ⟨rfl, rfl⟩ := hpair
      obtain ⟨hlast, hid, -⟩ := ha.running j previous hj
      exact ⟨hlast, hid, rfl⟩
  · have hop : (c.handleTransaction t).1.operation ≠ .ensureStopped := by
      rw [handleTransaction]
      cases hd : c.reliableReceiver.classify t <;> simp_all [MotionLifecycleAction.none]
    rw [handleTransaction_unchanged c t hnew]
    simpa only [OperationHistory.record, hop, if_false, hnew, false_and] using ha

private theorem agrees_complete {c : MotionLifecycleCoordinator} {h : OperationHistory}
    (ha : Agrees c h) (operationId : UInt32) (result : MotionLifecycleOperationResult) :
    Agrees (c.completeOperation operationId result).2
      (h.record c (.call (.complete operationId result))) := by
  have hcoherent := ha.coherent.completeOperation operationId result
  by_cases hc : c.Completes operationId
  · simp only [OperationHistory.record, completeOperation_accepted c operationId result hc,
      if_true] at hcoherent ⊢
    exact ⟨hcoherent, ha.issued, ha.counter, fun _ => rfl, fun _ _ hi => by simp at hi⟩
  · simpa only [OperationHistory.record, completeOperation_ignored c operationId result hc,
      MotionLifecycleAction.none, Bool.false_eq_true, if_false] using ha

theorem Agrees.event {c : MotionLifecycleCoordinator} {h : OperationHistory} (ha : Agrees c h)
    (x : Event) : Agrees (c.next x) (h.record c x) := by
  match x with
  | .call (.handle t) => exact agrees_handle ha t
  | .call (.complete operationId result) => exact agrees_complete ha operationId result
  | .reset =>
    exact ⟨reset_coherent c, ha.issued, ha.counter, fun _ => rfl, fun _ _ hi => by
      simp [OperationHistory.record] at hi⟩

theorem observe_agrees (events : List Event) :
    Agrees (init.observe events).1 (init.observe events).2 := by
  induction events using List.reverseRecOn with
  | nil => exact init_agrees
  | append_singleton events x ih => simpa [observe] using ih.event x

section Histories
variable {c : MotionLifecycleCoordinator} {h : OperationHistory} {i : ℕ}

theorem Agrees.issued_get (ha : Agrees c h) {id : UInt32} (hi : h.issued[i]? = some id) :
    i < h.issued.length ∧ id = operationIdAt (i + 1) := by
  have hlt := (List.getElem?_eq_some_iff.mp hi).1
  rw [ha.issued] at hi
  simp only [List.getElem?_map, List.getElem?_range hlt, Option.map_some, Option.some.injEq] at hi
  exact ⟨hlt, hi.symm⟩

/-- The identifier of an operation that is over completes nothing for almost a cycle. -/
theorem Agrees.completed_inert (ha : Agrees c h) {id : UInt32} (hi : h.issued[i]? = some id)
    (hcycle : h.issued.length - (i + 1) < 2 ^ 32 - 1)
    (hother : ∀ owner, h.active ≠ some (i, owner)) (result : MotionLifecycleOperationResult) :
    c.completeOperation id result = (.none, c) := by
  obtain ⟨hlt, rfl⟩ := ha.issued_get hi
  apply completeOperation_ignored c _ result
  intro hc
  match hactive : h.active with
  | none => exact hc.1 (hc.2.1.trans (ha.idle hactive))
  | some (j, owner) =>
    obtain ⟨hlast, hid, -⟩ := ha.running j owner hactive
    have hij : i ≠ j := fun he => hother owner (he ▸ hactive)
    exact operationIdAt_ne (by omega) hcycle (hid.symm.trans hc.2.1.symm)

/-- The identifier in progress completes its present owner. -/
theorem Agrees.running_completes (ha : Agrees c h) {owner : MotionTransaction}
    (hactive : h.active = some (i, owner)) :
    h.issued[i]? = some c.activeOperationId ∧
      ∀ result,
        (c.completeOperation c.activeOperationId result).1 =
          { MotionLifecycleAction.none with
            sendResponse := true
            responseTransaction := owner
            responseResult := if result = .success then ok else stopFailed } ∧
        (c.completeOperation c.activeOperationId result).2.activeOperationId = 0 := by
  obtain ⟨hlast, hid, howner⟩ := ha.running i owner hactive
  have hne : c.activeOperationId ≠ 0 := by
    rw [hid, ← hlast]
    exact operationIdAt_succ_ne_zero i
  constructor
  · rw [ha.issued, hid, ← hlast]
    simp
  · intro result
    rw [completeOperation_accepted c _ result (ha.coherent.completes hne), howner]
    exact ⟨rfl, rfl⟩

end Histories

/-- Late, duplicate and foreign completions are inert in every run: an issued
identifier whose operation is no longer in progress completes nothing as long as
fewer than `2 ^ 32 - 1` operations were issued after it, zero never does, and the
identifier in progress always completes the present owner. -/
theorem completion_reaches_only_the_running_operation (events : List Event) :
    let c := (init.observe events).1
    let h := (init.observe events).2
    (∀ id ∈ h.issued, id ≠ 0) ∧
    (∀ i id, h.issued[i]? = some id → h.issued.length - (i + 1) < 2 ^ 32 - 1 →
      (∀ owner, h.active ≠ some (i, owner)) →
        ∀ result, c.completeOperation id result = (.none, c)) ∧
    (∀ result, c.completeOperation 0 result = (.none, c)) ∧
    (∀ i owner, h.active = some (i, owner) →
      h.issued[i]? = some c.activeOperationId ∧
        ∀ result,
          (c.completeOperation c.activeOperationId result).1 =
            { MotionLifecycleAction.none with
              sendResponse := true
              responseTransaction := owner
              responseResult := if result = .success then ok else stopFailed } ∧
          (c.completeOperation c.activeOperationId result).2.activeOperationId = 0) := by
  intro c h
  have ha : Agrees c h := observe_agrees events
  refine ⟨?_, fun i id hi hcycle hother => ha.completed_inert hi hcycle hother, ?_,
    fun i owner => ha.running_completes⟩
  · intro id hid
    obtain ⟨i, hi⟩ := List.mem_iff_getElem?.mp hid
    rw [(ha.issued_get hi).2]
    exact operationIdAt_succ_ne_zero i
  · intro result
    exact completeOperation_ignored c 0 result fun hc => hc.1 rfl

/-- A stop that was reset away and followed by another one completes nothing. -/
theorem completion_after_reset_is_inert :
    (init.observe [.call (.handle ⟨1, startSession, 7⟩), .reset,
      .call (.handle ⟨2, startSession, 8⟩)]).1.completeOperation 1 .success =
      (.none, (init.observe [.call (.handle ⟨1, startSession, 7⟩), .reset,
        .call (.handle ⟨2, startSession, 8⟩)]).1) :=
  (completion_reaches_only_the_running_operation [.call (.handle ⟨1, startSession, 7⟩), .reset,
    .call (.handle ⟨2, startSession, 8⟩)]).2.1 0 1 (by decide) (by decide)
    (fun owner h => by revert h; simp [show (init.observe [.call (.handle ⟨1, startSession, 7⟩),
      .reset, .call (.handle ⟨2, startSession, 8⟩)]).2.active = some (1, ⟨2, startSession, 8⟩) by decide])
    .success

/-! ### The identity of the frontier -/

end MotionLifecycleCoordinator

/-- The transaction at the frontier is in one of the slots, and before the first one both are
free. -/
structure MotionReliableReceiver.Identified (r : MotionReliableReceiver) : Prop where
  frontier : r.latestSequenceValid = true →
    r.terminalValid = true ∧ r.terminalTransaction.sequence = r.latestSequence ∨
      r.pendingValid = true ∧ r.pendingTransaction.sequence = r.latestSequence
  empty : r.latestSequenceValid = false → r.pendingValid = false ∧ r.terminalValid = false

/-- The fall-through of the classification needs a frontier without identity. -/
theorem MotionReliableReceiver.Identified.classify_ne_invalid {r : MotionReliableReceiver}
    (h : r.Identified) (t : MotionTransaction) : r.classify t ≠ .invalid := by
  rw [classify]
  cases hv : r.latestSequenceValid with
  | false => simp
  | true =>
    cases hs : motionSequenceClassify r.latestSequence t.sequence with
    | newer => simp
    | stale => simp
    | same =>
      simp only [not_true_eq_false, if_false]
      split_ifs with hterminal hequal hpending hequal
      · simp
      · simp
      · simp
      · simp
      · exact ((h.frontier hv).elim hterminal hpending).elim

namespace MotionLifecycleCoordinator

theorem Coherent.identified {c : MotionLifecycleCoordinator} (h : c.Coherent) :
    c.reliableReceiver.Identified where
  frontier := h.frontier
  empty := by
    intro hv
    refine ⟨h.empty hv, ?_⟩
    cases ht : c.reliableReceiver.terminalValid with
    | false => rfl
    | true => simp [(h.terminal_frontier ht).1] at hv

/-- A completion is ignored, or the receiver takes it for its pending transaction. -/
theorem completeOperation_completePending (c : MotionLifecycleCoordinator) (operationId : UInt32)
    (result : MotionLifecycleOperationResult) :
    c.completeOperation operationId result = (.none, c) ∨
      ∃ receiver, c.reliableReceiver.completePending c.reliableReceiver.pendingTransaction
          (completionResult result) = (true, receiver) ∧
        (c.completeOperation operationId result).2.reliableReceiver = receiver := by
  by_cases hc : c.Completes operationId
  · rw [completeOperation_accepted c operationId result hc,
      MotionReliableReceiver.completePending_self _ _ hc.2.2.1]
    exact .inr ⟨_, rfl, rfl⟩
  · exact .inl (completeOperation_ignored c operationId result hc)

/-- Whatever has been called since the start, the frontier has an identity; so no transaction
is classified as invalid, and no completion misses the pending slot. -/
theorem frontier_has_an_identity (events : List Event) :
    let c := (init.observe events).1
    c.reliableReceiver.Identified ∧ (∀ t, c.reliableReceiver.classify t ≠ .invalid) ∧
    ∀ operationId result, c.completeOperation operationId result = (.none, c) ∨
      ∃ receiver, c.reliableReceiver.completePending c.reliableReceiver.pendingTransaction
          (completionResult result) = (true, receiver) ∧
        (c.completeOperation operationId result).2.reliableReceiver = receiver := by
  intro c
  have hidentified : c.reliableReceiver.Identified := (observe_agrees events).coherent.identified
  exact ⟨hidentified, hidentified.classify_ne_invalid, c.completeOperation_completePending⟩

end MotionLifecycleCoordinator

end IndoorRobot
