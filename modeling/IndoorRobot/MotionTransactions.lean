import IndoorRobot.SerialNumbers
import Mathlib.Tactic.Common

/-!
# Motion transactions, sequence ordering and lifecycle actions

The shared data of the motion lifecycle protocol: the identity of a command, the
terminal results, the sixteen-bit sequence order and the action record through
which the coordinator asks its caller to transmit or to stop the wheels.
-/
namespace IndoorRobot

/-- `MotionLifecycleCommandType`: any byte can arrive on the wire. -/
abbrev MotionLifecycleCommandType := UInt8

def MotionLifecycleCommandType.startSession : MotionLifecycleCommandType := 0x01
def MotionLifecycleCommandType.endSession : MotionLifecycleCommandType := 0x02

/-- `MotionResponseResult`, the terminal result byte of a response. -/
abbrev MotionResponseResult := UInt8

namespace MotionResponseResult

def ok : MotionResponseResult := 0x00
def alreadyActive : MotionResponseResult := 0x01
def alreadyEnded : MotionResponseResult := 0x02
def sessionMismatch : MotionResponseResult := 0x03
def superseded : MotionResponseResult := 0x04
def busyStopping : MotionResponseResult := 0x05
def invalidCommand : MotionResponseResult := 0x07
def stopFailed : MotionResponseResult := 0x08

end MotionResponseResult

/-- The complete identity of a lifecycle command. -/
structure MotionTransaction where
  sequence : UInt16 := 0
  command : MotionLifecycleCommandType := 0
  motionSessionId : UInt32 := 0
  deriving DecidableEq, Repr, Inhabited

/-- `motion_transaction_equal`. -/
def MotionTransaction.equal (first second : MotionTransaction) : Bool :=
  first.sequence == second.sequence && first.command == second.command &&
    first.motionSessionId == second.motionSessionId

@[simp] theorem MotionTransaction.equal_iff (first second : MotionTransaction) :
    first.equal second = true ↔ first = second := by
  cases first
  cases second
  simp [MotionTransaction.equal, and_assoc]

inductive MotionSequenceRelation where
  | same | newer | stale
  deriving DecidableEq, Repr

/-- `motion_sequence_classify`: the unsigned sixteen-bit difference decides. -/
def motionSequenceClassify (reference received : UInt16) : MotionSequenceRelation :=
  let delta := received - reference
  if delta = 0 then .same else if delta < 0x8000 then .newer else .stale

theorem toNat_sub_eq_forward (reference received : UInt16) :
    (received - reference).toNat =
      SerialNumbers.forward 65536 reference.toNat received.toNat := by
  rw [UInt16.toNat_sub]
  rfl

theorem motionSequenceClassify_same_iff (reference received : UInt16) :
    motionSequenceClassify reference received = .same ↔ received = reference := by
  rw [motionSequenceClassify]
  have hzero : received - reference = 0 ↔ received = reference := by
    rw [UInt16.sub_eq_iff_eq_add, UInt16.zero_add]
  by_cases h : received - reference = 0
  · simpa [h] using hzero.mp h
  · have hne : received ≠ reference := fun he => h (hzero.mpr he)
    by_cases hlt : received - reference < 0x8000 <;> simp [h, hlt, hne]

@[simp] theorem motionSequenceClassify_self (reference : UInt16) :
    motionSequenceClassify reference reference = .same :=
  (motionSequenceClassify_same_iff _ _).mpr rfl

theorem motionSequenceClassify_newer_iff (reference received : UInt16) :
    motionSequenceClassify reference received = .newer ↔
      0 < (received - reference).toNat ∧ (received - reference).toNat < 32768 := by
  rw [motionSequenceClassify]
  by_cases h : received - reference = 0
  · simp [h]
  · have hpos : 0 < (received - reference).toNat := by
      rcases Nat.eq_zero_or_pos (received - reference).toNat with hz | hp
      · exact absurd (UInt16.toNat_inj.mp (by simpa using hz)) h
      · exact hp
    by_cases hlt : received - reference < 0x8000
    · have : (received - reference).toNat < 32768 := by simpa [UInt16.lt_iff_toNat_lt] using hlt
      simp [h, hlt, hpos, this]
    · have : ¬ (received - reference).toNat < 32768 := by
        simpa [UInt16.lt_iff_toNat_lt] using hlt
      simp [h, hlt, this]

/-- The successor of the reference is newer, across the wrap as well. -/
theorem motionSequenceClassify_succ (reference : UInt16) :
    motionSequenceClassify reference (reference + 1) = .newer := by
  have h : reference + 1 - reference = 1 := by
    rw [UInt16.add_comm, UInt16.add_sub_cancel]
  rw [motionSequenceClassify_newer_iff, h]
  decide

inductive MotionLifecycleState where
  | noSession | starting | active | ending
  deriving DecidableEq, Repr, Inhabited

/-- A physical stop is in progress exactly while the state is STARTING or ENDING. -/
def MotionLifecycleState.stopping : MotionLifecycleState → Bool
  | .starting | .ending => true
  | .noSession | .active => false

inductive MotionLifecycleOperation where
  | none | ensureStopped
  deriving DecidableEq, Repr, Inhabited

inductive MotionLifecycleOperationResult where
  | success | failed
  deriving DecidableEq, Repr, Inhabited

/-- `MotionLifecycleAction`; its defaults are `motion_lifecycle_action_none`. -/
structure MotionLifecycleAction where
  sendAck : Bool := false
  ackTransaction : MotionTransaction := {}
  sendResponse : Bool := false
  responseTransaction : MotionTransaction := {}
  responseResult : MotionResponseResult := 0
  operation : MotionLifecycleOperation := .none
  operationId : UInt32 := 0
  deriving DecidableEq, Repr, Inhabited

/-- `motion_lifecycle_action_none`. -/
def MotionLifecycleAction.none : MotionLifecycleAction := {}

end IndoorRobot
