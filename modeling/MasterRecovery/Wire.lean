import MasterRecovery.Crypto

/-!
# Canonical transcripts (gp-wire/src/lib.rs, gp-wire/src/rotation.rs)

What is hashed or signed is never a serialisation but one of these byte
strings: a domain string, then every field in a fixed order, numbers with a
fixed width and byte strings with a length in front.
-/

namespace MasterRecovery.Wire
open Checks Transcript

abbrev Put := Except WireError Bytes

def maxFieldLen : ℕ := 16 * 1024 * 1024

/-- `Transcript::bytes`. -/
def bytes (value : Bytes) : Put := do
  bailIf (2 ^ 32 ≤ value.length) .fieldTooLarge
  bailIf (maxFieldLen < value.length) .fieldTooLarge
  .ok (beBytes 4 value.length ++ value)

def u16 (value : UInt16) : Put := .ok (beBytes 2 value.toNat)

def u64 (value : UInt64) : Put := .ok (beBytes 8 value.toNat)

def id32 (value : Id32) : Put := bytes (idBytes value)

def string (value : String) : Put := bytes value.toUTF8.data.toList

def domain (value : String) : Put := string value

def boundedCount (len : ℕ) (max : UInt16) : Put := do
  bailIf (2 ^ 16 ≤ len ∨ max.toNat < len) .invalidValue
  u16 (UInt16.ofNat len)

/-- Each id is in range and occurs once. -/
def uniqueIds (ids : List UInt16) : Except WireError Unit := do
  let _ ← scanDistinct id (fun i => bailIf (i = 0 ∨ maxRotationActors < i) .invalidValue)
    .duplicateActor (fun _ => .ok ()) ∅ ids
  pure ()

/-! ### Shared parts -/

def configRefInto (value : ConfigRef) : Put :=
  id32 value.configId ++ u64 value.payloadGeneration ++ u64 value.authorizationEpoch ++
    u64 value.guardianEpoch ++ id32 value.epochBinding

def contextInto (value : RotationContext) : Put := do
  bailIf (value.protocolVersion ≠ protocolVersionV3 ∨ value.expiry ≤ value.issuedAt) .invalidValue
  u16 value.protocolVersion ++ configRefInto value.configRef ++ id32 value.rotationId ++
    id32 value.predecessorCapsuleHash ++ bytes value.recipientKey ++ id32 value.nonce ++
    u64 value.issuedAt ++ u64 value.expiry

def SameRotation (left right : RotationContext) : Prop :=
  left.protocolVersion = right.protocolVersion ∧ left.configRef = right.configRef ∧
    left.rotationId = right.rotationId ∧
    left.predecessorCapsuleHash = right.predecessorCapsuleHash

instance (left right : RotationContext) : Decidable (SameRotation left right) := by
  unfold SameRotation
  infer_instance

def dpssSuiteId : DpssSuiteId → UInt16
  | .zfFrostRistretto255RtsRefreshV1 => 1

/-- A field of the object being signed is left out of what is signed. -/
def signatureInto (includeSignature : Bool) (signature : SignatureBytes) : Put :=
  if includeSignature then bytes signature else .ok []

/-! ### Plans -/

def routeInto (route : GuardianRouteV3) : Put := do
  bailIf (route.guardianIndex = 0 ∨ maxRotationActors < route.guardianIndex) .invalidValue
  u16 route.guardianIndex ++ id32 route.opaqueSlotId ++ string route.mailbox ++
    id32 route.guardianPublicKey ++ bytes route.sessionRecipientKey ++
    id32 route.operatorDomainCommitment

def rosterInto (routes : List GuardianRouteV3) : Put :=
  boundedCount routes.length maxRotationActors ++ putAll routeInto routes

def guardianRosterV3 (routes : List GuardianRouteV3) : Put := do
  uniqueIds (routes.map (·.guardianIndex))
  domain "gp/private-guardian-roster/v3" ++ rosterInto routes

def rotationPlan (value : RotationPlan) : Put := do
  bailIf (¬value.successor.IsDirectSuccessorOf value.predecessor ∨
    value.context.configRef ≠ value.predecessor ∨ value.oldGuardianThreshold = 0 ∨
    value.newGuardianThreshold = 0 ∨
    value.oldRoster.length < value.oldGuardianThreshold.toNat ∨
    value.newRoster.length < value.newGuardianThreshold.toNat ∨ value.dataShards = 0 ∨
    value.totalShards < value.dataShards) .invalidValue
  uniqueIds (value.oldRoster.map (·.guardianIndex))
  uniqueIds (value.newRoster.map (·.guardianIndex))
  domain "gp/rotation-plan/v3" ++ contextInto value.context ++ id32 value.intentHash ++
    configRefInto value.predecessor ++ configRefInto value.successor ++
    rosterInto value.oldRoster ++ rosterInto value.newRoster ++
    id32 value.oldRosterCommitment ++ id32 value.newRosterCommitment ++
    u16 value.oldGuardianThreshold ++ u16 value.newGuardianThreshold ++ u16 value.dataShards ++
    u16 value.totalShards ++ u16 (dpssSuiteId value.dpssSuite) ++ id32 value.dpssSessionId ++
    id32 value.dpssQualifiedSetCommitment ++ u64 value.minimumDelaySecs ++
    u64 value.preparationDeadline ++ u64 value.drainDeadline

/-! ### Owner cancellation -/

def ownerRotationCancelCertificate (value : OwnerRotationCancelCertificate) : Put :=
  domain "gp/owner-rotation-cancel/v3" ++ contextInto value.context ++ id32 value.planHash ++
    u16 value.reasonCode ++ bytes value.cancelResponseRecipientKey ++
    id32 value.ownerCancelPublicKey

def witnessRotationCancelAck (value : WitnessRotationCancelAck) : Put := do
  bailIf (value.protocolVersion ≠ protocolVersionV3 ∨ value.witnessId = 0) .invalidValue
  domain "gp/witness-rotation-cancel-ack/v3" ++ u16 value.protocolVersion ++
    id32 value.configId ++ id32 value.rotationId ++ id32 value.planHash ++
    id32 value.cancelCertificateHash ++ u16 value.witnessId ++ id32 value.witnessPublicKey

/-! ### Activation -/

def signerLeaf (signerId : UInt16) (publicKey : PublicKey) : Put :=
  domain "gp/signer-leaf/v1" ++ u16 signerId ++ id32 publicKey

def activateVoteInto (includeSignature : Bool) (vote : SignerRotationActivateVote) : Put :=
  contextInto vote.context ++ id32 vote.planHash ++ id32 vote.readyCertificateHash ++
    id32 vote.successorCapsuleHash ++ u16 vote.signerId ++ id32 vote.signerPublicKey ++
    bytes vote.signerMembershipProof ++ signatureInto includeSignature vote.signerSignature

def signerRotationActivateVote (value : SignerRotationActivateVote) : Put :=
  domain "gp/signer-rotation-activate-vote/v3" ++ activateVoteInto false value

def rotationActivateCertificate (value : RotationActivateCertificate) : Put := do
  uniqueIds (value.votes.map (·.signerId))
  bailIf (∃ vote ∈ value.votes, ¬SameRotation value.context vote.context ∨
    vote.planHash ≠ value.planHash ∨ vote.readyCertificateHash ≠ value.readyCertificateHash ∨
    vote.successorCapsuleHash ≠ value.successorCapsuleHash) .invalidValue
  domain "gp/rotation-activate-certificate/v3" ++ contextInto value.context ++
    id32 value.planHash ++ id32 value.readyCertificateHash ++ configRefInto value.successor ++
    id32 value.successorCapsuleHash ++
    (boundedCount value.votes.length maxRotationActors ++
      putAll (activateVoteInto true) value.votes)

def witnessAckInto (includeSignature : Bool) (ack : WitnessActivationAck) : Put :=
  contextInto ack.context ++ id32 ack.planHash ++ id32 ack.activationCertificateHash ++
    u16 ack.witnessId ++ u64 ack.predecessorEpoch ++ id32 ack.predecessorCapsuleHash ++
    u64 ack.successorEpoch ++ id32 ack.successorCapsuleHash ++ id32 ack.witnessPublicKey ++
    signatureInto includeSignature ack.witnessSignature

def witnessActivationAck (value : WitnessActivationAck) : Put :=
  domain "gp/witness-activation-ack/v3" ++ witnessAckInto false value

def epochActivationQc (value : EpochActivationQc) : Put := do
  bailIf (value.protocolVersion ≠ protocolVersionV3 ∨
    value.successorEpoch ≠ saturatingAdd value.predecessorEpoch 1 ∨
    maxConfigWitnesses < value.witnessFaultBound) .invalidValue
  uniqueIds (value.witnessAcks.map (·.witnessId))
  bailIf (value.witnessAcks.length < 2 * value.witnessFaultBound.toNat + 1) .invalidValue
  bailIf (∃ ack ∈ value.witnessAcks, ack.context.protocolVersion ≠ value.protocolVersion ∨
    ack.context.configRef.configId ≠ value.configId ∨
    ack.context.rotationId ≠ value.rotationId ∨ ack.predecessorEpoch ≠ value.predecessorEpoch ∨
    ack.predecessorCapsuleHash ≠ value.predecessorCapsuleHash ∨
    ack.successorEpoch ≠ value.successorEpoch ∨
    ack.successorCapsuleHash ≠ value.successorCapsuleHash ∨
    ack.activationCertificateHash ≠ value.activationCertificateHash) .invalidValue
  domain "gp/epoch-activation-qc/v3" ++ u16 value.protocolVersion ++ id32 value.configId ++
    id32 value.rotationId ++ u64 value.predecessorEpoch ++ id32 value.predecessorCapsuleHash ++
    u64 value.successorEpoch ++ id32 value.successorCapsuleHash ++
    id32 value.activationCertificateHash ++ u16 value.witnessFaultBound ++
    (boundedCount value.witnessAcks.length maxConfigWitnesses ++
      putAll (witnessAckInto true) value.witnessAcks)

/-! ### Fresh reads -/

def epochReadChallenge (value : EpochReadChallenge) : Put := do
  bailIf (value.protocolVersion ≠ protocolVersionV3 ∨ value.expiry ≤ value.issuedAt) .invalidValue
  domain "gp/epoch-read-challenge/v3" ++ u16 value.protocolVersion ++ id32 value.configId ++
    id32 value.clientNonce ++ bytes value.responseRecipientKey ++ u64 value.issuedAt ++
    u64 value.expiry

def witnessEpochReadResponse (value : WitnessEpochReadResponse) : Put := do
  bailIf (value.protocolVersion ≠ protocolVersionV3) .invalidValue
  domain "gp/witness-epoch-read-response/v3" ++ u16 value.protocolVersion ++
    id32 value.configId ++ id32 value.clientNonce ++ u16 value.witnessId ++
    u64 value.highestGuardianEpoch ++ id32 value.capsuleHash ++ id32 value.witnessPublicKey

/-! ### Capsules -/

/-- Preimage of `capsule_hash`: every field but the hash, the certificate and the QC. -/
def configCapsuleBodyV3 (value : ConfigCapsuleV3) : Put := do
  bailIf (value.protocolVersion ≠ protocolVersionV3 ∨ value.signerThreshold = 0 ∨
    value.signerCount < value.signerThreshold ∨ value.guardianThreshold < 2 ∨
    value.guardianCount < value.guardianThreshold) .invalidValue
  domain "gp/config-capsule-body/v3" ++ u16 value.protocolVersion ++
    configRefInto value.configRef ++ id32 value.predecessorCapsuleHash ++
    u16 value.signerCount ++ u16 value.signerThreshold ++ u16 value.guardianCount ++
    u16 value.guardianThreshold ++ u64 value.minimumRecoveryDelay ++
    u64 value.maxRequestLifetime ++ id32 value.signerSetCommitment ++
    id32 value.ownerCancelPublicKey ++ u16 (dpssSuiteId value.dpssSuite) ++
    id32 value.dpssPublicCommitment ++ id32 value.ciphertextFragmentRoot ++
    id32 value.guardianMaterialRoot ++
    bytes (beBytes 24 value.encryptedRecoveryDescriptor.nonce.toNat) ++
    bytes value.encryptedRecoveryDescriptor.ciphertext

end MasterRecovery.Wire
