import MasterRecovery.GuardianActivation
import MasterRecovery.Lib.Machine
import MasterRecovery.WitnessServer

/-!
# Guardian recovery (gp-network/src/recovery_runtime.rs) and the guardian as a machine

A request is begun only on the active record. Its release comes from the record of its exact
epoch, once. The machine takes rotation and recovery requests on one entry; a request that
succeeds saves the entry, one that is refused leaves its changes in memory only.
-/

namespace MasterRecovery
open Checks Transcript Act

/-- The record of exactly this epoch; a draining one only for a request it still has to finish. -/
def recordForRequest (entry : GuardianRotationEntryV3) (configRef : ConfigRef) (requestId : Id32)
    (requirePendingDrain : Bool) : Except String GuardianRecordV3 :=
  match entry.provision.epochStore.active.filter fun record =>
    record.policy.configRef = configRef with
  | some record => .ok record
  | none => do
    let draining ← okOr (entry.provision.epochStore.draining[configRef.guardianEpoch]?.filter
      fun epoch => epoch.record.policy.configRef = configRef)
      "guardian has no record for the recovery request's exact epoch"
    bailIf (requirePendingDrain = true ∧ requestId ∉ draining.pendingRequestIds)
      "draining guardian refuses a recovery that did not begin before activation"
    .ok draining.record

namespace GuardianRotationEntryV3

def putRecovery (entry : GuardianRotationEntryV3) (requestId : Id32)
    (pending : PendingNetworkRecoveryV3) : GuardianRotationEntryV3 :=
  { entry with recoveries := entry.recoveries.insert requestId pending }

end GuardianRotationEntryV3

section Handlers

variable (crypto : Crypto) (node : GuardianNode) (call : GuardianCall)

/-- What a Begin must pass; the active record and the request's digest. -/
def recoveryBeginChecks (entry : GuardianRotationEntryV3)
    (certificate : BeginRecoveryCertificateV3) : Except String (GuardianRecordV3 × Id32) := do
  let active ← okOr entry.provision.epochStore.active "guardian has no ACTIVE recovery authority"
  bailIf (active.policy.configRef ≠ certificate.request.configRef)
    "new recovery Begin is not for this guardian's ACTIVE epoch"
  let digest ← validateBeginRecoveryCertificateV3 crypto certificate
    entry.provision.predecessorCapsule call.wallNow
  bailIf (certificate.request.requestId ∈
    entry.provision.epochStore.recoveryCancellationTombstones)
    "recovery request was permanently cancelled"
  .ok (active, digest)

/-- The delay of the active record's policy. -/
def recoveryDelay (active : GuardianRecordV3) : UInt64 :=
  if node.allowInsecureDemoDelay then min active.policy.minimumRecoveryDelay 2
  else active.policy.minimumRecoveryDelay

def recoveryBegin (certificate : BeginRecoveryCertificateV3) :
    Act GuardianRotationEntryV3 GuardianRecoveryResponseV3 := do
  let entry ← get
  let out ← check (recoveryBeginChecks crypto call entry certificate)
  let requestId := certificate.request.requestId
  match entry.recoveries[requestId]? with
  | some existing => do
    check (bailIf (existing.requestDigest ≠ out.2 ∨ existing.request ≠ certificate.request)
      "recovery request id is locked to another transcript")
    pure (.beginAccepted existing.notBeforeMonotonic)
  | none => do
    check (bailIf (∃ pending ∈ entry.recoveries.values,
      pending.request.nonce = certificate.request.nonce)
      "guardian rejected a replayed recovery nonce")
    let notBefore := saturatingAdd call.monotonicNow (recoveryDelay node out.1)
    modify fun entry => entry.putRecovery requestId
      { request := certificate.request
        requestDigest := out.2
        acceptedWallTime := call.wallNow
        startedMonotonic := call.monotonicNow
        notBeforeMonotonic := notBefore
        bootId := call.bootId
        cancelled := false
        released := false }
    pure (.beginAccepted notBefore)

/-- What a Cancel must pass; the request's digest. -/
def recoveryCancelChecks (entry : GuardianRotationEntryV3) (request : RecoveryRequestV3)
    (certificate : OwnerRecoveryCancelCertificateV3) : Except String Id32 := do
  let _ ← recordForRequest entry request.configRef request.requestId true
  let digest ← validateOwnerRecoveryCancelForRefV3 crypto certificate request
    entry.provision.predecessorCapsule request.configRef call.wallNow
  match entry.recoveries[request.requestId]? with
  | some pending => do
    bailIf (pending.requestDigest ≠ digest)
      "cancellation conflicts with the accepted request transcript"
    bailIf (pending.released = true)
      "owner cancellation is not retroactive after material release"
    .ok digest
  | none => .ok digest

/-- The tombstone, and the mark on the request if it has begun. -/
def cancelledEntry (request : RecoveryRequestV3) (digest : Id32)
    (entry : GuardianRotationEntryV3) : GuardianRotationEntryV3 :=
  let store := entry.provision.epochStore
  let buried := entry.withStore { store with
    recoveryCancellationTombstones :=
      store.recoveryCancellationTombstones.insert request.requestId digest }
  match entry.recoveries[request.requestId]? with
  | some pending => buried.putRecovery request.requestId { pending with cancelled := true }
  | none => buried

def recoveryCancel (request : RecoveryRequestV3)
    (certificate : OwnerRecoveryCancelCertificateV3) :
    Act GuardianRotationEntryV3 GuardianRecoveryResponseV3 := do
  let entry ← get
  let digest ← check (recoveryCancelChecks crypto call entry request certificate)
  modify (cancelledEntry request digest)
  let entry ← get
  let record ← check (recordForRequest entry request.configRef request.requestId true)
  let transcript ← check (wire (Wire.ownerRecoveryCancelCertificateV3 certificate))
  check (signed crypto entry.provision.signingSeed Wire.ownerRecoveryCancelAckV3
    (fun ack signature => { ack with guardianSignature := signature }) .cancelled
    { configRef := request.configRef
      requestId := request.requestId
      requestDigest := digest
      cancelCertificateHash := crypto.sha256 transcript
      guardianIndex := record.guardianIndex
      guardianSignature := [] })

/-- What a Release must pass; the record it opens, the request as it was begun, its digest. -/
def recoveryReleaseChecks (entry : GuardianRotationEntryV3) (request : RecoveryRequestV3)
    (certificate : RecoveryReleaseCertificateV3) :
    Except String (GuardianRecordV3 × PendingNetworkRecoveryV3 × Id32) := do
  let digest ← validateRecoveryReleaseCertificateForRefV3 crypto certificate
    entry.provision.predecessorCapsule request.configRef call.wallNow
  let record ← recordForRequest entry request.configRef request.requestId true
  let pending ← okOr entry.recoveries[request.requestId]?
    "guardian never accepted Begin for this exact request"
  bailIf (pending.request ≠ request ∨ pending.requestDigest ≠ digest)
    "guardian Release does not match the durably accepted Begin"
  bailIf (pending.cancelled = true ∨ pending.released = true ∨
    entry.provision.epochStore.recoveryCancellationTombstones[request.requestId]? = some digest)
    "guardian refuses cancelled or replayed recovery Release"
  bailIf (pending.bootId ≠ call.bootId ∨ call.monotonicNow < pending.notBeforeMonotonic ∨
    pending.request.expiry ≤ call.wallNow)
    "guardian recovery delay is incomplete, expired, or reboot-ambiguous"
  .ok (record, pending, digest)

/-- The record's material, for the recipient of the request. -/
def recoveredMaterial (record : GuardianRecordV3) (request : RecoveryRequestV3) (digest : Id32) :
    GuardianRecoveryContributionV3 where
  configRef := request.configRef
  requestId := request.requestId
  requestDigest := digest
  recoveryRecipientKey := request.recoveryRecipientKey
  nonce := request.nonce
  guardianIndex := record.guardianIndex
  fragmentIndex := record.fragmentIndex
  encryptedCiphertextFragment := record.encryptedCiphertextFragment
  encryptedDekShare := record.encryptedDekShare
  merklePathProof := record.merklePathProof
  guardianSignature := []

def recoveryRelease (request : RecoveryRequestV3) (certificate : RecoveryReleaseCertificateV3) :
    Act GuardianRotationEntryV3 GuardianRecoveryResponseV3 := do
  let entry ← get
  let out ← check (recoveryReleaseChecks crypto call entry request certificate)
  let response ← check (signed crypto entry.provision.signingSeed
    Wire.guardianRecoveryContributionV3
    (fun contribution signature => { contribution with guardianSignature := signature })
    .contribution (recoveredMaterial out.1 request out.2.2))
  modify fun entry => entry.putRecovery request.requestId { out.2.1 with released := true }
  if request.configRef.guardianEpoch ∈ entry.provision.epochStore.draining then
    updateStore fun store =>
      store.finishDrainingRequest request.configRef.guardianEpoch request.requestId
  else pure ()
  pure response

def handleGuardianRecoveryV3 (request : GuardianRecoveryRequestV3) :
    Act GuardianRotationEntryV3 GuardianRecoveryResponseV3 := do
  check (bailIf (request.request.protocolVersion ≠ protocolVersionV3 ∨
    request.request.recoveryRecipientKey.length ≠ xwingPublicKeyLen)
    "guardian rejected malformed protocol-v3 recovery request")
  match request with
  | .begin certificate => recoveryBegin crypto node call certificate
  | .cancel request certificate => recoveryCancel crypto call request certificate
  | .release request certificate => recoveryRelease crypto call request certificate

end Handlers

/-! ### One guardian's entry as a machine -/

inductive GuardianRequest
  | rotation (request : GuardianRotationRequestV3)
  | recovery (request : GuardianRecoveryRequestV3)

inductive GuardianResponse
  | rotation (response : GuardianRotationResponseV3)
  | recovery (response : GuardianRecoveryResponseV3)
  deriving DecidableEq

/-- A request, the entry it found and the answer it got. -/
structure GuardianExchange where
  entry : GuardianRotationEntryV3
  call : GuardianCall
  request : GuardianRequest
  response : Option GuardianResponse

inductive GuardianInput
  | request (call : GuardianCall) (request : GuardianRequest)
  | restart
  | flush

variable (crypto : Crypto) (vault : Vault) (node : GuardianNode)

def handleGuardian (call : GuardianCall) :
    GuardianRequest → Act GuardianRotationEntryV3 GuardianResponse
  | .rotation request => .rotation <$> handleGuardianRotationV3 crypto vault node call request
  | .recovery request => .recovery <$> handleGuardianRecoveryV3 crypto node call request

/-- What a request leaves in memory and, if it succeeds, on disk. -/
def guardianServe (entry : Persisted GuardianRotationEntryV3) (call : GuardianCall)
    (request : GuardianRequest) : Persisted GuardianRotationEntryV3 × Option GuardianExchange :=
  match handleGuardian crypto vault node call request entry.data with
  | .ok response served => (⟨served, served⟩, some ⟨entry.data, call, request, some response⟩)
  | .error _ served =>
    ({ entry with data := served }, some ⟨entry.data, call, request, none⟩)

def guardianMachine : Machine (Persisted GuardianRotationEntryV3) GuardianInput GuardianExchange where
  step entry input :=
    match input with
    | .request call request => guardianServe crypto vault node entry call request
    | .restart => (entry.reload, none)
    | .flush => (entry.flush, none)

/-! ### Provisioning -/

/-- The store a guardian is given: of its record, or of a candidate without one. -/
def ProvisionedStore (capsule : ConfigCapsuleV3) (store : GuardianEpochStore) : Prop :=
  store = GuardianEpochStore.newCandidate capsule.configRef capsule.capsuleHash ∨
    ∃ record : GuardianRecordV3, record.policy.configRef = capsule.configRef ∧
      store = GuardianEpochStore.new record capsule.capsuleHash

/-- What `guardian_rotation_provision` accepts. -/
structure GuardianProvisioned (provision : GuardianRotationProvisionV3) : Prop where
  capsule : validateActivatedCapsuleV3 crypto provision.recoveryCard
    provision.predecessorCapsule = .ok ()
  signingKey : provision.signingPublicKey = crypto.verifyingKeyBytes provision.signingSeed
  store : ProvisionedStore provision.predecessorCapsule provision.epochStore

/-- The entry a provision creates. -/
def GuardianRotationProvisionV3.entry (provision : GuardianRotationProvisionV3) :
    GuardianRotationEntryV3 where
  provision := provision
  sessions := ∅
  recoveries := ∅

end MasterRecovery
