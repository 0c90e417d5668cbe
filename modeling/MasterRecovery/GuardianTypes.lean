import MasterRecovery.SignerTypes

/-!
# What guardians exchange and keep (gp-types, gp-core, gp-storage, gp-network/src/types.rs)

Requests to a guardian, its acknowledgements and contributions, the rotation machine, the
epoch store and the entry it keeps for one mailbox. Ordered maps keyed by the hex of an id
are keyed by the id itself.
-/

namespace MasterRecovery
open Transcript

inductive GuardianEpochState
  | prepared
  | active
  | draining
  | retired
  deriving DecidableEq

inductive DpssPhase
  | repairRound1
  | repairRound2
  | repairRound3
  | refreshRound1
  | refreshRound2
  | finalize
  deriving DecidableEq

/-! ### Rotation -/

structure OwnerRotationCancelAck where
  context : RotationContext
  planHash : Id32
  cancelCertificateHash : Id32
  guardianIndex : UInt16
  guardianSignature : SignatureBytes
  deriving DecidableEq

structure RotationReleaseCertificate where
  context : RotationContext
  planHash : Id32
  beginCertificateHash : Id32
  votes : List SignerRotationReleaseVote
  deriving DecidableEq

structure OldShareUnlockGrant where
  context : RotationContext
  planHash : Id32
  releaseCertificateHash : Id32
  oldGuardianIndex : UInt16
  encryptedUnwrapKey : SealedMessage
  encryptedFragmentKey : SealedMessage
  deriving DecidableEq

structure NewShareWrapGrant where
  context : RotationContext
  planHash : Id32
  releaseCertificateHash : Id32
  newGuardianIndex : UInt16
  encryptedWrapKey : SealedMessage
  encryptedFragmentKey : SealedMessage
  deriving DecidableEq

structure DpssProtocolMessage where
  context : RotationContext
  planHash : Id32
  dpssSuite : DpssSuiteId
  dpssSessionId : Id32
  qualifiedSetCommitment : Id32
  phase : DpssPhase
  senderIndex : UInt16
  recipientIndex : UInt16
  sequence : UInt64
  providerPayload : Bytes
  senderSignature : SignatureBytes
  deriving DecidableEq

structure CiphertextFragmentContribution where
  context : RotationContext
  planHash : Id32
  releaseCertificateHash : Id32
  oldGuardianIndex : UInt16
  fragmentIndex : UInt16
  ciphertextFragment : Bytes
  fragmentCommitment : Id32
  preparedRecordLeaf : PreparedRecordLeaf
  merklePathProof : MerkleProofBytes
  guardianSignature : SignatureBytes
  deriving DecidableEq

structure RetirementNotice where
  context : RotationContext
  planHash : Id32
  activationQcHash : Id32
  retiredEpoch : UInt64
  drainDeadline : UInt64
  deriving DecidableEq

structure RetirementAck where
  context : RotationContext
  planHash : Id32
  activationQcHash : Id32
  guardianIndex : UInt16
  retiredEpoch : UInt64
  tombstoneHash : Id32
  guardianSignature : SignatureBytes
  deriving DecidableEq

structure DpssDeliveryV3 where
  targetMailbox : String
  sealedMessage : SealedMessage
  deriving DecidableEq

/-! ### Recovery -/

structure BeginRecoveryCertificateV3 where
  request : RecoveryRequestV3
  requestDigest : Id32
  signerContributions : List SignerRecoveryContributionV3
  deriving DecidableEq

structure RecoveryReleaseCertificateV3 where
  request : RecoveryRequestV3
  requestDigest : Id32
  votes : List SignerRecoveryReleaseVoteV3
  deriving DecidableEq

structure OwnerRecoveryCancelCertificateV3 where
  request : RecoveryRequestV3
  requestDigest : Id32
  reasonCode : UInt16
  cancelResponseRecipientKey : Bytes
  ownerCancelPublicKey : PublicKey
  ownerSignature : SignatureBytes
  deriving DecidableEq

structure OwnerRecoveryCancelAckV3 where
  configRef : ConfigRef
  requestId : Id32
  requestDigest : Id32
  cancelCertificateHash : Id32
  guardianIndex : UInt16
  guardianSignature : SignatureBytes
  deriving DecidableEq

structure GuardianRecoveryContributionV3 where
  configRef : ConfigRef
  requestId : Id32
  requestDigest : Id32
  recoveryRecipientKey : Bytes
  nonce : Id32
  guardianIndex : UInt16
  fragmentIndex : UInt16
  encryptedCiphertextFragment : AeadCiphertext
  encryptedDekShare : AeadCiphertext
  merklePathProof : MerkleProofBytes
  guardianSignature : SignatureBytes
  deriving DecidableEq

/-! ### Records -/

structure GuardianPolicyV3 where
  configRef : ConfigRef
  epochState : GuardianEpochState
  signerSetCommitment : Id32
  signerCount : UInt16
  signerThreshold : UInt16
  ownerCancelPublicKey : PublicKey
  minimumRecoveryDelay : UInt64
  guardianMaterialRoot : Id32
  dpssSuite : DpssSuiteId
  dpssPublicCommitment : Id32
  predecessorCapsuleHash : Id32
  activationQcHash : Option Id32
  drainDeadline : Option UInt64
  deriving DecidableEq

structure GuardianRecordV3 where
  opaqueSlotId : Id32
  guardianIndex : UInt16
  fragmentIndex : UInt16
  encryptedCiphertextFragment : AeadCiphertext
  encryptedDekShare : AeadCiphertext
  merklePathProof : MerkleProofBytes
  custodyRoot : Id32
  policy : GuardianPolicyV3
  deriving DecidableEq

/-! ### Custody -/

structure CustodyChallenge where
  protocolVersion : UInt16
  configRef : ConfigRef
  opaqueSlotId : Id32
  challengeId : Id32
  blockIndices : List UInt32
  nonce : Id32
  responseRecipientKey : Bytes
  expiry : UInt64
  deriving DecidableEq

structure CustodyBlockProof where
  blockIndex : UInt32
  block : Bytes
  merklePath : MerkleProofBytes
  deriving DecidableEq

structure CustodyResponse where
  protocolVersion : UInt16
  configRef : ConfigRef
  opaqueSlotId : Id32
  challengeId : Id32
  nonce : Id32
  guardianIndex : UInt16
  proofs : List CustodyBlockProof
  guardianSignature : SignatureBytes
  deriving DecidableEq

/-! ### Epoch store (gp-storage/src/rotation.rs) -/

structure RotationTombstone where
  rotationId : Id32
  planHash : Id32
  predecessorCapsuleHash : Id32
  terminalState : RotationState
  deriving DecidableEq

structure DpssSessionJournal where
  rotationId : Id32
  planHash : Id32
  sessionId : Id32
  qualifiedSetDigest : Id32
  phase : UInt16
  nextSequence : UInt64
  providerPublicJournal : Bytes
  encryptedProviderSecretJournal : AeadCiphertext
  deriving DecidableEq

structure PreparedGuardianEpoch where
  rotationId : Id32
  planHash : Id32
  record : GuardianRecordV3
  durableWriteGeneration : UInt64
  deriving DecidableEq

structure DrainingGuardianEpoch where
  record : GuardianRecordV3
  capsuleHash : Id32
  drainDeadline : UInt64
  pendingRequestIds : Finset Id32
  deriving DecidableEq

structure GuardianEpochStore where
  configId : Id32
  expectedPredecessor : ConfigRef
  expectedPredecessorCapsuleHash : Id32
  active : Option GuardianRecordV3
  activeCapsuleHash : Option Id32
  prepared : Option PreparedGuardianEpoch
  draining : Std.TreeMap UInt64 DrainingGuardianEpoch
  dpssJournal : Option DpssSessionJournal
  rotationTombstones : Std.TreeMap Id32 RotationTombstone
  recoveryCancellationTombstones : Std.TreeMap Id32 Id32
  activationQc : Option EpochActivationQc
  nextWriteGeneration : UInt64

/-! ### Rotation machine (gp-core/src/rotation.rs) -/

structure RotationMachine where
  rotationId : Id32
  planHash : Id32
  predecessor : ConfigRef
  successor : ConfigRef
  state : RotationState
  notBefore : Option UInt64
  drainDeadline : Option UInt64
  tombstoned : Bool
  ambiguous : Bool
  deriving DecidableEq

/-! ### The guardian's entry (gp-network/src/types.rs) -/

structure StagedGuardianMaterialV3 where
  recordDraft : GuardianRecordV3
  leaf : PreparedRecordLeaf
  dpssResultCommitment : Id32
  deriving DecidableEq

/-- Sequence counters are keyed by sender and recipient. -/
structure GuardianRotationSessionV3 where
  rotationMachine : RotationMachine
  planHash : Id32
  beginCertificateHash : Id32
  acceptedWallTime : UInt64
  startedMonotonic : UInt64
  notBeforeMonotonic : UInt64
  bootId : String
  cancelled : Bool
  nextOutgoingSequences : Std.TreeMap ℕ UInt64
  nextIncomingSequences : Std.TreeMap ℕ UInt64
  encryptedLocalState : Option AeadCiphertext
  stagedMaterial : Option StagedGuardianMaterialV3

/-- The mailbox is an address no handler reads, and the signer keys are a cache of what every
certificate carries a proof of. -/
structure GuardianRotationProvisionV3 where
  signingSeed : Id32
  signingPublicKey : PublicKey
  recoveryCard : RecoveryCardV3
  predecessorCapsule : ConfigCapsuleV3
  epochStore : GuardianEpochStore

structure PendingNetworkRecoveryV3 where
  request : RecoveryRequestV3
  requestDigest : Id32
  acceptedWallTime : UInt64
  startedMonotonic : UInt64
  notBeforeMonotonic : UInt64
  bootId : String
  cancelled : Bool
  released : Bool
  deriving DecidableEq

structure GuardianRotationEntryV3 where
  provision : GuardianRotationProvisionV3
  sessions : Std.TreeMap Id32 GuardianRotationSessionV3
  recoveries : Std.TreeMap Id32 PendingNetworkRecoveryV3

/-! ### Requests and responses -/

inductive GuardianRotationRequestV3
  | begin (plan : RotationPlan) (certificate : BeginRotationCertificate)
  | cancel (plan : RotationPlan) (certificate : OwnerRotationCancelCertificate)
  | repairRound1 (plan : RotationPlan) (beginCertificate : BeginRotationCertificate)
    (releaseCertificate : RotationReleaseCertificate) (unlockGrant : OldShareUnlockGrant)
    (helperIds : List UInt16) (replacementId : UInt16)
  | repairRound2 (plan : RotationPlan) (incoming : List SealedMessage) (replacementId : UInt16)
  | repairFinalize (plan : RotationPlan) (incoming : List SealedMessage)
    (oldPublicPackage : Bytes)
  | refreshRound1 (plan : RotationPlan) (beginCertificate : Option BeginRotationCertificate)
    (releaseCertificate : Option RotationReleaseCertificate)
    (oldShareGrant : Option OldShareUnlockGrant)
  | refreshRound2 (plan : RotationPlan) (incoming : List SealedMessage)
  | refreshFinalize (plan : RotationPlan) (incoming : List SealedMessage)
    (oldPublicPackage : Bytes)
  | stageMaterial (plan : RotationPlan) (wrapGrant : NewShareWrapGrant) (fragmentIndex : UInt16)
    (ciphertextFragment : Bytes) (ciphertextFragmentProof : MerkleProofBytes)
    (policy : GuardianPolicyV3) (opaqueSlotId : Id32)
  | prepareCommit (plan : RotationPlan) (guardianMaterialRoot : Id32)
    (merklePathProof : MerkleProofBytes) (dpssResultCommitment : Id32)
  | handoffComplete (plan : RotationPlan) (dpssResultCommitment : Id32)
  | activate (plan : RotationPlan) (activatedCapsule : ConfigCapsuleV3) (drainDeadline : UInt64)
  | abort (plan : RotationPlan) (certificate : AbortRotationCertificate)
  | retire (notice : RetirementNotice) (monotonicNow : UInt64)

/-- The plan a request carries; a retirement carries none. -/
def GuardianRotationRequestV3.plan : GuardianRotationRequestV3 → Option RotationPlan
  | .begin plan _ => some plan
  | .cancel plan _ => some plan
  | .repairRound1 plan _ _ _ _ _ => some plan
  | .repairRound2 plan _ _ => some plan
  | .repairFinalize plan _ _ => some plan
  | .refreshRound1 plan _ _ _ => some plan
  | .refreshRound2 plan _ => some plan
  | .refreshFinalize plan _ _ => some plan
  | .stageMaterial plan _ _ _ _ _ _ => some plan
  | .prepareCommit plan _ _ _ => some plan
  | .handoffComplete plan _ => some plan
  | .activate plan _ _ => some plan
  | .abort plan _ => some plan
  | .retire _ _ => none

def GuardianRotationRequestV3.context : GuardianRotationRequestV3 → RotationContext
  | .begin plan _ => plan.context
  | .cancel plan _ => plan.context
  | .repairRound1 plan _ _ _ _ _ => plan.context
  | .repairRound2 plan _ _ => plan.context
  | .repairFinalize plan _ _ => plan.context
  | .refreshRound1 plan _ _ _ => plan.context
  | .refreshRound2 plan _ => plan.context
  | .refreshFinalize plan _ _ => plan.context
  | .stageMaterial plan _ _ _ _ _ _ => plan.context
  | .prepareCommit plan _ _ _ => plan.context
  | .handoffComplete plan _ => plan.context
  | .activate plan _ _ => plan.context
  | .abort plan _ => plan.context
  | .retire notice _ => notice.context

inductive GuardianRotationResponseV3
  | beginAccepted (notBeforeMonotonic : UInt64)
  | cancelled (ack : OwnerRotationCancelAck)
  | dpssDeliveries (deliveries : List DpssDeliveryV3)
    (fragment : Option CiphertextFragmentContribution)
  | repairStored (guardianIndex : UInt16) (expandedPublicPackage : Bytes)
  | refreshFinalized (guardianIndex : UInt16) (publicPackage : Bytes) (dpssResultCommitment : Id32)
  | refreshMaterialStaged (leaf : PreparedRecordLeaf) (publicPackage : Bytes)
    (dpssResultCommitment : Id32)
  | prepared (ack : NewGuardianPreparedAck)
  | handoff (ack : OldGuardianHandoffAck)
  | activated (guardianEpoch : UInt64)
  | aborted
  | retired (ack : RetirementAck)
  deriving DecidableEq

inductive GuardianRecoveryRequestV3
  | begin (certificate : BeginRecoveryCertificateV3)
  | cancel (request : RecoveryRequestV3) (certificate : OwnerRecoveryCancelCertificateV3)
  | release (request : RecoveryRequestV3) (certificate : RecoveryReleaseCertificateV3)

def GuardianRecoveryRequestV3.request : GuardianRecoveryRequestV3 → RecoveryRequestV3
  | .begin certificate => certificate.request
  | .cancel request _ => request
  | .release request _ => request

inductive GuardianRecoveryResponseV3
  | beginAccepted (notBeforeMonotonic : UInt64)
  | cancelled (ack : OwnerRecoveryCancelAckV3)
  | contribution (contribution : GuardianRecoveryContributionV3)
  deriving DecidableEq

end MasterRecovery
