import MasterRecovery.GuardianTypes
import MasterRecovery.Lib.Checks

/-!
# The rotation state machine (gp-core/src/rotation.rs)

One rotation as a guardian follows it. An event either moves the machine along its single path
or is refused and moves nothing.
-/

namespace MasterRecovery
open Checks

inductive RotationEvent
  | beginAccepted (monotonicNow delaySecs : UInt64) (certificateValid : Bool)
  | releaseAccepted (monotonicNow : UInt64) (certificateValid stateUnambiguous : Bool)
  | preparationComplete (preparedCount expectedCount : UInt16)
    (dpssResultValid fragmentsValid : Bool)
  | activationAuthorized (certificateValid exactCapsule : Bool)
  | witnessQcObserved (qcValid exactSuccessor : Bool) (drainDeadline : UInt64)
  | drainStarted
  | drainDeadlineReached (monotonicNow : UInt64)
  | ownerCancelObserved (certificateValid : Bool)
  | abortObserved (certificateValid : Bool)
  | conflictObserved
  deriving DecidableEq

inductive RotationAction
  | persistBeginAndWaitUntil (notBefore : UInt64)
  | beginDpssAndFragmentRepair
  | assembleReadyCertificate
  | requestSignerActivation
  | submitToWitnesses
  | activateSuccessorAndDrainOld (drainDeadline : UInt64)
  | refuseNewOldEpochBegins
  | retireOldEpoch
  | abortAndErasePreparedState
  | failClosed
  deriving DecidableEq

/-- The errors `RotationMachine` returns. -/
inductive RotationError
  | invalidTransition (source : RotationState)
  | invalidEvidence
  | delayNotElapsed
  | incompletePreparation
  | aborted
  | failClosed
  | invalidSuccessor
  deriving DecidableEq

/-- The derived `Debug` form. -/
def RotationState.debug : RotationState → String
  | .proposed => "Proposed"
  | .delayPending => "DelayPending"
  | .preparing => "Preparing"
  | .ready => "Ready"
  | .activating => "Activating"
  | .active => "Active"
  | .draining => "Draining"
  | .retired => "Retired"
  | .aborted => "Aborted"

def RotationError.text : RotationError → String
  | .invalidTransition source => "invalid rotation transition from " ++ source.debug
  | .invalidEvidence => "certificate, result, or quorum is invalid"
  | .delayNotElapsed => "rotation delay has not elapsed"
  | .incompletePreparation => "not all advertised successor records are durable"
  | .aborted => "rotation has a permanent cancellation/abort tombstone"
  | .failClosed => "rotation state is ambiguous; fail closed"
  | .invalidSuccessor => "successor is not the exact next guardian epoch"

/-- The states a rotation can still be given up in. -/
def RotationState.Abortable (state : RotationState) : Prop :=
  state ∈ [RotationState.proposed, .delayPending, .preparing, .ready, .activating]

instance (state : RotationState) : Decidable state.Abortable := by
  unfold RotationState.Abortable
  infer_instance

/-- Evidence that is false whatever the state. -/
def RotationEvent.Invalid : RotationEvent → Prop
  | .beginAccepted _ _ certificateValid => certificateValid = false
  | .releaseAccepted _ certificateValid stateUnambiguous =>
    certificateValid = false ∨ stateUnambiguous = false
  | .preparationComplete _ _ dpssResultValid fragmentsValid =>
    dpssResultValid = false ∨ fragmentsValid = false
  | .activationAuthorized certificateValid exactCapsule =>
    certificateValid = false ∨ exactCapsule = false
  | .witnessQcObserved qcValid exactSuccessor _ => qcValid = false ∨ exactSuccessor = false
  | .ownerCancelObserved certificateValid => certificateValid = false
  | .abortObserved certificateValid => certificateValid = false
  | _ => False

instance (event : RotationEvent) : Decidable event.Invalid := by
  cases event <;> unfold RotationEvent.Invalid <;> infer_instance

namespace RotationMachine

def new (rotationId planHash : Id32) (predecessor successor : ConfigRef) :
    Except RotationError RotationMachine := do
  bailIf (¬successor.IsDirectSuccessorOf predecessor) .invalidSuccessor
  .ok { rotationId := rotationId
        planHash := planHash
        predecessor := predecessor
        successor := successor
        state := .proposed
        notBefore := none
        drainDeadline := none
        tombstoned := false
        ambiguous := false }

/-- Give the rotation up for good. -/
def giveUp (machine : RotationMachine) : Except RotationError (List RotationAction × RotationMachine) := do
  bailIf (¬machine.state.Abortable) (.invalidTransition machine.state)
  .ok ([.abortAndErasePreparedState], { machine with state := .aborted, tombstoned := true })

/-- The transition table. -/
def transition (machine : RotationMachine) (event : RotationEvent) :
    Except RotationError (List RotationAction × RotationMachine) :=
  match machine.state, event with
  | _, .conflictObserved => .ok ([.failClosed], { machine with ambiguous := true })
  | .proposed, .beginAccepted monotonicNow delaySecs true =>
    let notBefore := saturatingAdd monotonicNow delaySecs
    .ok ([.persistBeginAndWaitUntil notBefore],
      { machine with notBefore := some notBefore, state := .delayPending })
  | .delayPending, .releaseAccepted monotonicNow true true => do
    bailIf (monotonicNow < machine.notBefore.getD (UInt64.ofNat (2 ^ 64 - 1))) .delayNotElapsed
    .ok ([.beginDpssAndFragmentRepair], { machine with state := .preparing })
  | .preparing, .preparationComplete preparedCount expectedCount true true => do
    bailIf (expectedCount = 0 ∨ preparedCount ≠ expectedCount) .incompletePreparation
    .ok ([.assembleReadyCertificate, .requestSignerActivation], { machine with state := .ready })
  | .ready, .activationAuthorized true true =>
    .ok ([.submitToWitnesses], { machine with state := .activating })
  | .activating, .witnessQcObserved true true drainDeadline =>
    .ok ([.activateSuccessorAndDrainOld drainDeadline],
      { machine with drainDeadline := some drainDeadline, state := .active })
  | .active, .drainStarted => .ok ([.refuseNewOldEpochBegins], { machine with state := .draining })
  | .draining, .drainDeadlineReached monotonicNow => do
    bailIf (monotonicNow < machine.drainDeadline.getD (UInt64.ofNat (2 ^ 64 - 1)))
      .delayNotElapsed
    .ok ([.retireOldEpoch], { machine with state := .retired })
  | _, .ownerCancelObserved true => machine.giveUp
  | _, .abortObserved true => machine.giveUp
  | state, event => .error (if event.Invalid then .invalidEvidence else .invalidTransition state)

def apply (machine : RotationMachine) (event : RotationEvent) :
    Except RotationError (List RotationAction × RotationMachine) := do
  bailIf machine.ambiguous .failClosed
  bailIf machine.tombstoned .aborted
  machine.transition event

/-- What identifies the rotation never changes. -/
structure SameRotation (machine machine' : RotationMachine) : Prop where
  rotationId : machine'.rotationId = machine.rotationId
  planHash : machine'.planHash = machine.planHash
  predecessor : machine'.predecessor = machine.predecessor
  successor : machine'.successor = machine.successor

end RotationMachine

end MasterRecovery
