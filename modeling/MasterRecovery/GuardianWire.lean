import MasterRecovery.GuardianTypes
import MasterRecovery.SignerWire

/-!
# Guardian transcripts (gp-wire/src/rotation.rs, gp-wire/src/lib.rs)

The transcripts a guardian signs, checks or binds its envelopes to.
-/

namespace MasterRecovery.Wire
open Checks Transcript

def dpssPhaseId : DpssPhase → UInt16
  | .repairRound1 => 1
  | .repairRound2 => 2
  | .repairRound3 => 3
  | .refreshRound1 => 4
  | .refreshRound2 => 5
  | .finalize => 6

/-! ### Rotation -/

def ownerRotationCancelAck (value : OwnerRotationCancelAck) : Put :=
  domain "gp/owner-rotation-cancel-ack/v3" ++ contextInto value.context ++ id32 value.planHash ++
    id32 value.cancelCertificateHash ++ u16 value.guardianIndex

def rotationReleaseCertificate (value : RotationReleaseCertificate) : Put := do
  uniqueIds (value.votes.map (·.signerId))
  bailIf (∃ vote ∈ value.votes, ¬SameRotation value.context vote.context ∨
    vote.planHash ≠ value.planHash ∨
    vote.beginCertificateHash ≠ value.beginCertificateHash) .invalidValue
  domain "gp/rotation-release-certificate/v3" ++ contextInto value.context ++
    id32 value.planHash ++ id32 value.beginCertificateHash ++
    (boundedCount value.votes.length maxRotationActors ++
      putAll (releaseVoteInto true) value.votes)

def oldShareUnlockGrant (value : OldShareUnlockGrant) : Put :=
  domain "gp/old-share-unlock-grant/v3" ++ contextInto value.context ++ id32 value.planHash ++
    id32 value.releaseCertificateHash ++ u16 value.oldGuardianIndex ++
    sealedInto value.encryptedUnwrapKey ++ sealedInto value.encryptedFragmentKey

def oldShareUnlockGrantPayloadContext (value : OldShareUnlockGrant) (fragmentKey : Bool) : Put :=
  domain "gp/old-share-unlock-grant-payload/v3" ++ contextInto value.context ++
    id32 value.planHash ++ id32 value.releaseCertificateHash ++ u16 value.oldGuardianIndex ++
    u16 (if fragmentKey then 1 else 0)

def newShareWrapGrant (value : NewShareWrapGrant) : Put :=
  domain "gp/new-share-wrap-grant/v3" ++ contextInto value.context ++ id32 value.planHash ++
    id32 value.releaseCertificateHash ++ u16 value.newGuardianIndex ++
    sealedInto value.encryptedWrapKey ++ sealedInto value.encryptedFragmentKey

def newShareWrapGrantPayloadContext (value : NewShareWrapGrant) (fragmentKey : Bool) : Put :=
  domain "gp/new-share-wrap-grant-payload/v3" ++ contextInto value.context ++
    id32 value.planHash ++ id32 value.releaseCertificateHash ++ u16 value.newGuardianIndex ++
    u16 (if fragmentKey then 1 else 0)

def dpssProtocolMessage (value : DpssProtocolMessage) : Put := do
  bailIf (value.senderIndex = value.recipientIndex ∨ value.sequence = 0) .invalidValue
  uniqueIds [value.senderIndex, value.recipientIndex]
  domain "gp/dpss-protocol-message/v3" ++ contextInto value.context ++ id32 value.planHash ++
    u16 (dpssSuiteId value.dpssSuite) ++ id32 value.dpssSessionId ++
    id32 value.qualifiedSetCommitment ++ u16 (dpssPhaseId value.phase) ++
    u16 value.senderIndex ++ u16 value.recipientIndex ++ u64 value.sequence ++
    bytes value.providerPayload

def ciphertextFragmentContribution (value : CiphertextFragmentContribution) : Put :=
  domain "gp/ciphertext-fragment-contribution/v3" ++ contextInto value.context ++
    id32 value.planHash ++ id32 value.releaseCertificateHash ++ u16 value.oldGuardianIndex ++
    u16 value.fragmentIndex ++ bytes value.ciphertextFragment ++ id32 value.fragmentCommitment ++
    preparedLeafInto value.preparedRecordLeaf ++ bytes value.merklePathProof

def retirementNotice (value : RetirementNotice) : Put :=
  domain "gp/retirement-notice/v3" ++ contextInto value.context ++ id32 value.planHash ++
    id32 value.activationQcHash ++ u64 value.retiredEpoch ++ u64 value.drainDeadline

def retirementAck (value : RetirementAck) : Put :=
  domain "gp/retirement-ack/v3" ++ contextInto value.context ++ id32 value.planHash ++
    id32 value.activationQcHash ++ u16 value.guardianIndex ++ u64 value.retiredEpoch ++
    id32 value.tombstoneHash

/-! ### Records and their envelopes -/

def guardianPolicyBodyV3 (value : GuardianPolicyV3) : Put := do
  bailIf (value.signerThreshold = 0 ∨ value.signerCount < value.signerThreshold ∨
    value.minimumRecoveryDelay = 0) .invalidValue
  domain "gp/guardian-policy-body/v3" ++ configRefInto value.configRef ++
    id32 value.signerSetCommitment ++ u16 value.signerCount ++ u16 value.signerThreshold ++
    id32 value.ownerCancelPublicKey ++ u64 value.minimumRecoveryDelay ++
    u16 (dpssSuiteId value.dpssSuite) ++ id32 value.dpssPublicCommitment ++
    id32 value.predecessorCapsuleHash

def guardianShareContextV3 (configRef : ConfigRef) (guardianIndex : UInt16) : Put :=
  domain "gp/guardian-dek-share-context/v3" ++ configRefInto configRef ++ u16 guardianIndex

def guardianFragmentContextV3 (configRef : ConfigRef) (guardianIndex fragmentIndex : UInt16) :
    Put :=
  domain "gp/guardian-ciphertext-fragment-context/v3" ++ configRefInto configRef ++
    u16 guardianIndex ++ u16 fragmentIndex

def descriptorContextV3 (configRef : ConfigRef) : Put :=
  domain "gp/recovery-descriptor-context/v3" ++ configRefInto configRef

def payloadContextV3 (configId : Id32) (payloadGeneration : UInt64) : Put :=
  domain "gp/payload-context/v3" ++ id32 configId ++ u64 payloadGeneration

def mailboxTransportContext (mailbox direction : String) : Put :=
  domain "gp/network-mailbox-transport/v1" ++ string mailbox ++ string direction

/-! ### Recovery -/

def beginRecoveryCertificateV3 (value : BeginRecoveryCertificateV3) : Put := do
  uniqueIds (value.signerContributions.map (·.signerId))
  bailIf (∃ item ∈ value.signerContributions, item.request ≠ value.request) .invalidValue
  domain "gp/begin-recovery-certificate/v3" ++ nested (recoveryRequestV3 value.request) ++
    id32 value.requestDigest ++
    (boundedCount value.signerContributions.length maxRotationActors ++
      putAll (signerRecoveryContributionInto true) value.signerContributions)

def recoveryReleaseCertificateV3 (value : RecoveryReleaseCertificateV3) : Put := do
  uniqueIds (value.votes.map (·.signerId))
  bailIf (∃ vote ∈ value.votes, vote.request ≠ value.request ∨
    vote.requestDigest ≠ value.requestDigest) .invalidValue
  domain "gp/recovery-release-certificate/v3" ++ nested (recoveryRequestV3 value.request) ++
    id32 value.requestDigest ++
    (boundedCount value.votes.length maxRotationActors ++
      putAll (signerRecoveryReleaseVoteInto true) value.votes)

def ownerRecoveryCancelCertificateV3 (value : OwnerRecoveryCancelCertificateV3) : Put :=
  domain "gp/owner-recovery-cancel/v3" ++ nested (recoveryRequestV3 value.request) ++
    id32 value.requestDigest ++ u16 value.reasonCode ++ bytes value.cancelResponseRecipientKey ++
    id32 value.ownerCancelPublicKey

def ownerRecoveryCancelAckV3 (value : OwnerRecoveryCancelAckV3) : Put :=
  domain "gp/owner-recovery-cancel-ack/v3" ++ configRefInto value.configRef ++
    id32 value.requestId ++ id32 value.requestDigest ++ id32 value.cancelCertificateHash ++
    u16 value.guardianIndex

def guardianRecoveryContributionV3 (value : GuardianRecoveryContributionV3) : Put := do
  bailIf (value.guardianIndex = 0 ∨ value.fragmentIndex = 0) .invalidValue
  domain "gp/guardian-recovery-contribution/v3" ++ configRefInto value.configRef ++
    id32 value.requestId ++ id32 value.requestDigest ++ bytes value.recoveryRecipientKey ++
    id32 value.nonce ++ u16 value.guardianIndex ++ u16 value.fragmentIndex ++
    bytes (beBytes 24 value.encryptedCiphertextFragment.nonce.toNat) ++
    bytes value.encryptedCiphertextFragment.ciphertext ++
    bytes (beBytes 24 value.encryptedDekShare.nonce.toNat) ++
    bytes value.encryptedDekShare.ciphertext ++ bytes value.merklePathProof

/-! ### Custody -/

def u32 (value : UInt32) : Put := .ok (beBytes 4 value.toNat)

def maxCustodyBlocks : UInt16 := 4096

def custodyChallenge (value : CustodyChallenge) : Put := do
  bailIf (value.protocolVersion ≠ protocolVersionV3 ∨ value.blockIndices = []) .invalidValue
  bailIf (¬value.blockIndices.Nodup) .duplicateActor
  domain "gp/custody-challenge/v3" ++ u16 value.protocolVersion ++
    configRefInto value.configRef ++ id32 value.opaqueSlotId ++ id32 value.challengeId ++
    (boundedCount value.blockIndices.length maxCustodyBlocks ++ putAll u32 value.blockIndices) ++
    id32 value.nonce ++ bytes value.responseRecipientKey ++ u64 value.expiry

def blockProofInto (proof : CustodyBlockProof) : Put :=
  u32 proof.blockIndex ++ bytes proof.block ++ bytes proof.merklePath

def custodyResponse (value : CustodyResponse) : Put := do
  bailIf (value.protocolVersion ≠ protocolVersionV3 ∨ value.proofs = []) .invalidValue
  bailIf (¬(value.proofs.map (·.blockIndex)).Nodup) .duplicateActor
  domain "gp/custody-response/v3" ++ u16 value.protocolVersion ++
    configRefInto value.configRef ++ id32 value.opaqueSlotId ++ id32 value.challengeId ++
    id32 value.nonce ++ u16 value.guardianIndex ++
    (boundedCount value.proofs.length maxCustodyBlocks ++ putAll blockProofInto value.proofs)

end MasterRecovery.Wire
