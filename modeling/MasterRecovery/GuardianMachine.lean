import MasterRecovery.Lib.WriteOnce
import MasterRecovery.RecoveryTypes

/-!
# The recovery machine of one guardian (gp-core/src/lib.rs)

Requests of one configuration, begun once, released after their delay and before their expiry,
cancelled for good. A refused Release may mark the request as expired.
-/

namespace MasterRecovery
open Checks

inductive CoreError
  | invalidTransition (source : RecoveryState)
  | staleConfiguration
  | replay
  | unknownRequest
  | delayNotElapsed
  | expired
  | cancelled
  | failClosed
  | requestMismatch
  | invalidRequest
  deriving DecidableEq

/-- The derived `Debug` form. -/
def RecoveryState.debug : RecoveryState → String
  | .created => "Created"
  | .awaitingApprovals => "AwaitingApprovals"
  | .authorized => "Authorized"
  | .delayPending => "DelayPending"
  | .cancelled => "Cancelled"
  | .releasing => "Releasing"
  | .completed => "Completed"
  | .expired => "Expired"

def CoreError.text : CoreError → String
  | .invalidTransition source => "invalid transition from " ++ source.debug
  | .staleConfiguration => "request is stale or for another configuration"
  | .replay => "request id has already been observed"
  | .unknownRequest => "request is not pending"
  | .delayNotElapsed => "guardian delay has not elapsed"
  | .expired => "request has expired"
  | .cancelled => "request is permanently cancelled"
  | .failClosed => "certificate state is ambiguous or invalid"
  | .requestMismatch => "request digest does not match pending recovery"
  | .invalidRequest => "request fields are invalid for this protocol"

structure GuardianPending where
  pending : PendingRecovery
  requestDigest : Id32
  expiry : UInt64
  deriving DecidableEq

structure GuardianMachine where
  configId : Id32
  currentVersion : UInt64
  seen : Finset Id32
  seenNonces : Finset Id32
  pending : Std.TreeMap Id32 GuardianPending
  cancelled : Std.TreeMap Id32 Id32

namespace GuardianMachine

def new (configId : Id32) (currentVersion : UInt64) : GuardianMachine where
  configId := configId
  currentVersion := currentVersion
  seen := ∅
  seenNonces := ∅
  pending := ∅
  cancelled := ∅

abbrev Call (α : Type) := EStateM CoreError GuardianMachine α

def validateRequest (machine : GuardianMachine) (request : RecoveryRequest) :
    Except CoreError Unit :=
  bailIf (request.protocolVersion ≠ MasterRecovery.protocolVersion ∨
    request.configId ≠ machine.configId ∨ request.configVersion ≠ machine.currentVersion)
    .staleConfiguration

/-- What a request whose id is cancelled is refused with. -/
def cancelledBy (cancelledDigest requestDigest : Id32) : CoreError :=
  if cancelledDigest = requestDigest then .cancelled else .requestMismatch

/-- What a Begin must pass. -/
def beginChecks (machine : GuardianMachine) (request : RecoveryRequest) (requestDigest : Id32)
    (wallNow : UInt64) (certificateValid : Bool) : Except CoreError Unit := do
  machine.validateRequest request
  bailIf (certificateValid = false) .failClosed
  bailIf (wallNow < request.requestedAt) .invalidRequest
  bailIf (request.expiry ≤ wallNow) .expired
  match machine.cancelled[request.requestId]? with
  | some cancelledDigest => .error (cancelledBy cancelledDigest requestDigest)
  | none =>
    bailIf (request.requestId ∈ machine.seen ∨ request.nonce ∈ machine.seenNonces) .replay

/-- The machine with the request pending. -/
def begun (request : RecoveryRequest) (requestDigest : Id32) (monotonicNow notBefore : UInt64)
    (machine : GuardianMachine) : GuardianMachine :=
  { machine with
    seen := insert request.requestId machine.seen
    seenNonces := insert request.nonce machine.seenNonces
    pending := machine.pending.insert request.requestId
      { pending :=
          { requestId := request.requestId
            configId := request.configId
            configVersion := request.configVersion
            recipient := request.recoveryRecipientKey
            startedAtMonotonic := monotonicNow
            notBefore := notBefore
            state := .delayPending }
        requestDigest := requestDigest
        expiry := request.expiry } }

def beginAt (request : RecoveryRequest) (requestDigest : Id32)
    (wallNow monotonicNow delay : UInt64) (certificateValid : Bool) : Call UInt64 := fun machine =>
  match machine.beginChecks request requestDigest wallNow certificateValid with
  | .error e => .error e machine
  | .ok () =>
    let notBefore := saturatingAdd monotonicNow delay
    .ok notBefore (machine.begun request requestDigest monotonicNow notBefore)

/-- A pending request in another state. -/
def withState (requestId : Id32) (pending : GuardianPending) (state : RecoveryState)
    (machine : GuardianMachine) : GuardianMachine :=
  { machine with
    pending := machine.pending.insert requestId
      { pending with pending := { pending.pending with state := state } } }

def cancel (requestId requestDigest : Id32) (certificateValid : Bool) : Call Unit :=
  fun machine =>
  if certificateValid = false then .error .failClosed machine
  else
    match machine.cancelled[requestId]? with
    | some cancelledDigest =>
      if cancelledDigest = requestDigest then .ok () machine
      else .error .requestMismatch machine
    | none =>
      let buried (machine : GuardianMachine) :=
        { machine with cancelled := machine.cancelled.insert requestId requestDigest }
      match machine.pending[requestId]? with
      | some pending =>
        if pending.requestDigest ≠ requestDigest then .error .requestMismatch machine
        else .ok () (buried (machine.withState requestId pending .cancelled))
      | none => .ok () (buried machine)

def authorizeReleaseAt (requestId requestDigest : Id32) (wallNow monotonicNow : UInt64)
    (certificateValid stateUnambiguous : Bool) : Call Unit := fun machine =>
  match machine.cancelled[requestId]? with
  | some cancelledDigest => .error (cancelledBy cancelledDigest requestDigest) machine
  | none =>
    if certificateValid = false ∨ stateUnambiguous = false then .error .failClosed machine
    else
      match machine.pending[requestId]? with
      | none => .error .unknownRequest machine
      | some pending =>
        if pending.requestDigest ≠ requestDigest then .error .requestMismatch machine
        else if pending.expiry ≤ wallNow then
          .error .expired (machine.withState requestId pending .expired)
        else if monotonicNow < pending.pending.notBefore then .error .delayNotElapsed machine
        else .ok () (machine.withState requestId pending .releasing)

def state (requestId : Id32) (machine : GuardianMachine) : Option RecoveryState :=
  if requestId ∈ machine.cancelled then some .cancelled
  else machine.pending[requestId]?.map (·.pending.state)

end GuardianMachine

end MasterRecovery
