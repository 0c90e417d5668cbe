import MasterRecovery.Types
import Std.Data.TreeMap

/-!
# What signers exchange and keep (gp-types/src/rotation.rs, gp-network/src/types.rs)

Requests to a signer, its votes and contributions, and the entry it keeps for
one mailbox. Ordered maps keyed by the hex of an id are keyed by the id itself.
-/

namespace MasterRecovery
open Transcript

inductive RotationState
  | proposed
  | delayPending
  | preparing
  | ready
  | activating
  | active
  | draining
  | retired
  | aborted
  deriving DecidableEq

inductive RotationReason
  | plannedExit
  | custodyFailure
  | unavailable
  | suspectedCompromise
  | diversityPolicy
  | proactiveRefresh
  | securityUpgrade
  | ownerAssistedMigration
  deriving DecidableEq

structure SealedMessage where
  kemCiphertext : Bytes
  payload : AeadCiphertext
  deriving DecidableEq

/-! ### Rotation -/

structure RotationIntent where
  context : RotationContext
  reason : RotationReason
  oldGuardianCount : UInt16
  oldGuardianThreshold : UInt16
  allowedNewGuardianCount : List UInt16
  allowedNewGuardianThreshold : List UInt16
  allowedDpssSuites : List DpssSuiteId
  selectionConstraintsCommitment : Id32
  witnessReadQcHash : Id32
  deriving DecidableEq

structure SignerRotationIntentContribution where
  context : RotationContext
  intentHash : Id32
  signerId : UInt16
  signerPublicKey : PublicKey
  signerMembershipProof : MerkleProofBytes
  encryptedAuthorizationShare : SealedMessage
  signerSignature : SignatureBytes
  deriving DecidableEq

structure SignerRotationBeginVote where
  context : RotationContext
  intentHash : Id32
  planHash : Id32
  oldRosterCommitment : Id32
  newRosterCommitment : Id32
  signerId : UInt16
  signerPublicKey : PublicKey
  signerMembershipProof : MerkleProofBytes
  signerSignature : SignatureBytes
  deriving DecidableEq

structure BeginRotationCertificate where
  context : RotationContext
  intentHash : Id32
  planHash : Id32
  oldRosterCommitment : Id32
  newRosterCommitment : Id32
  notBeforeWall : UInt64
  votes : List SignerRotationBeginVote
  deriving DecidableEq

structure SignerRotationReleaseVote where
  context : RotationContext
  planHash : Id32
  beginCertificateHash : Id32
  signerId : UInt16
  signerPublicKey : PublicKey
  signerMembershipProof : MerkleProofBytes
  signerSignature : SignatureBytes
  deriving DecidableEq

structure PreparedRecordLeaf where
  guardianIndex : UInt16
  fragmentIndex : UInt16
  opaqueSlotId : Id32
  encryptedShareHash : Id32
  fragmentHash : Id32
  policyHash : Id32
  deriving DecidableEq

structure NewGuardianPreparedAck where
  context : RotationContext
  planHash : Id32
  dpssResultCommitment : Id32
  guardianMaterialRoot : Id32
  newGuardianIndex : UInt16
  preparedRecordLeaf : PreparedRecordLeaf
  durableWriteGeneration : UInt64
  guardianSignature : SignatureBytes
  deriving DecidableEq

structure OldGuardianHandoffAck where
  context : RotationContext
  planHash : Id32
  dpssResultCommitment : Id32
  qualifiedSetCommitment : Id32
  oldGuardianIndex : UInt16
  guardianSignature : SignatureBytes
  deriving DecidableEq

structure RotationReadyCertificate where
  context : RotationContext
  planHash : Id32
  successor : ConfigRef
  dpssResultCommitment : Id32
  guardianMaterialRoot : Id32
  encryptedDescriptorHash : Id32
  preparedAcks : List NewGuardianPreparedAck
  oldHandoffAcks : List OldGuardianHandoffAck
  deriving DecidableEq

structure SignerRotationAbortVote where
  context : RotationContext
  planHash : Id32
  stateAtAbort : RotationState
  reasonCode : UInt16
  signerId : UInt16
  signerPublicKey : PublicKey
  signerMembershipProof : MerkleProofBytes
  signerSignature : SignatureBytes
  deriving DecidableEq

structure AbortRotationCertificate where
  context : RotationContext
  planHash : Id32
  stateAtAbort : RotationState
  reasonCode : UInt16
  votes : List SignerRotationAbortVote
  deriving DecidableEq

/-! ### Recovery -/

structure RecoveryRequestV3 where
  protocolVersion : UInt16
  configRef : ConfigRef
  requestId : Id32
  recoveryRecipientKey : Bytes
  requestedAt : UInt64
  nonce : Id32
  expiry : UInt64
  deriving DecidableEq

structure SignerRecoveryContributionV3 where
  request : RecoveryRequestV3
  signerId : UInt16
  signerPublicKey : PublicKey
  signerMembershipProof : MerkleProofBytes
  encryptedAuthorizationShare : SealedMessage
  signerSignature : SignatureBytes
  deriving DecidableEq

structure SignerRecoveryReleaseVoteV3 where
  request : RecoveryRequestV3
  requestDigest : Id32
  signerId : UInt16
  signerPublicKey : PublicKey
  signerMembershipProof : MerkleProofBytes
  signerSignature : SignatureBytes
  deriving DecidableEq

/-! ### The signer's entry -/

structure SignerRotationStore where
  predecessorPlanLocks : Std.TreeMap Id32 Id32
  intents : Std.TreeMap Id32 RotationIntent
  intentVotes : Std.TreeMap Id32 Id32
  beginVotes : Std.TreeMap Id32 Id32
  releaseVotes : Std.TreeMap Id32 Id32
  activateVotes : Std.TreeMap Id32 Id32
  cancelledRotations : Std.TreeMap Id32 Id32
  highestObservedEpoch : Std.TreeMap Id32 UInt64

/-- The mailbox the provision names is an address no handler reads. -/
structure SignerRotationProvisionV3 where
  signerId : UInt16
  authorizationShare : Bytes
  signingSeed : Id32
  signingPublicKey : PublicKey
  membershipProof : MerkleProofBytes
  recoveryCard : RecoveryCardV3
  activeCapsule : ConfigCapsuleV3

structure SignerRotationEntryV3 where
  provision : SignerRotationProvisionV3
  securityState : SignerRotationStore
  recoveryRequests : Std.TreeMap Id32 Id32
  recoveryNonces : Finset Id32

inductive SignerRotationRequestV3
  | intent (intent : RotationIntent) (witnessChallenge : EpochReadChallenge)
    (witnessReads : List WitnessReadEnvelope)
  | begin (intentHash : Id32) (plan : RotationPlan)
  | release (plan : RotationPlan) (beginCertificate : BeginRotationCertificate)
  | activate (plan : RotationPlan) (readyCertificate : RotationReadyCertificate)
    (successorCapsule : ConfigCapsuleV3)
  | abort (plan : RotationPlan) (stateAtAbort : RotationState) (reasonCode : UInt16)
    (responseRecipientKey : Bytes)
  | finalizeAbort (plan : RotationPlan) (certificate : AbortRotationCertificate)
    (responseRecipientKey : Bytes)
  | finalizeOwnerCancel (plan : RotationPlan) (certificate : OwnerRotationCancelCertificate)
    (witnessAcks : List WitnessRotationCancelAck) (responseRecipientKey : Bytes)

def SignerRotationRequestV3.context : SignerRotationRequestV3 → RotationContext
  | .intent approved _ _ => approved.context
  | .begin _ plan => plan.context
  | .release plan _ => plan.context
  | .activate plan _ _ => plan.context
  | .abort plan _ _ _ => plan.context
  | .finalizeAbort plan _ _ => plan.context
  | .finalizeOwnerCancel plan _ _ _ => plan.context

inductive SignerRotationResponseV3
  | intentContribution (contribution : SignerRotationIntentContribution)
  | beginVote (vote : SignerRotationBeginVote)
  | releaseVote (vote : SignerRotationReleaseVote)
  | activateVote (vote : SignerRotationActivateVote)
  | abortVote (vote : SignerRotationAbortVote)
  | abortFinalized
  | ownerCancelFinalized
  deriving DecidableEq

inductive SignerRecoveryRequestV3
  | approve (request : RecoveryRequestV3) (witnessChallenge : EpochReadChallenge)
    (witnessReads : List WitnessReadEnvelope)
  | release (request : RecoveryRequestV3)

inductive SignerRecoveryResponseV3
  | contribution (contribution : SignerRecoveryContributionV3)
  | releaseVote (vote : SignerRecoveryReleaseVoteV3)
  deriving DecidableEq

end MasterRecovery
