import MasterRecovery.SignerTypes
import MasterRecovery.WireBinding

/-!
# Transcripts of signer votes and certificates (gp-wire/src/rotation.rs)
-/

namespace MasterRecovery.Wire
open Checks Transcript

def reasonId : RotationReason → UInt16
  | .plannedExit => 1
  | .custodyFailure => 2
  | .unavailable => 3
  | .suspectedCompromise => 4
  | .diversityPolicy => 5
  | .proactiveRefresh => 6
  | .securityUpgrade => 7
  | .ownerAssistedMigration => 8

def stateId : RotationState → UInt16
  | .proposed => 1
  | .delayPending => 2
  | .preparing => 3
  | .ready => 4
  | .activating => 5
  | .active => 6
  | .draining => 7
  | .retired => 8
  | .aborted => 9

def sealedInto (message : SealedMessage) : Put :=
  bytes message.kemCiphertext ++ bytes (beBytes 24 message.payload.nonce.toNat) ++
    bytes message.payload.ciphertext

/-! ### Intent -/

def rotationIntent (value : RotationIntent) : Put :=
  domain "gp/rotation-intent/v3" ++ contextInto value.context ++ u16 (reasonId value.reason) ++
    u16 value.oldGuardianCount ++ u16 value.oldGuardianThreshold ++
    (boundedCount value.allowedNewGuardianCount.length maxRotationActors ++
      putAll u16 value.allowedNewGuardianCount) ++
    (boundedCount value.allowedNewGuardianThreshold.length maxRotationActors ++
      putAll u16 value.allowedNewGuardianThreshold) ++
    (boundedCount value.allowedDpssSuites.length 32 ++
      putAll (fun suite => u16 (dpssSuiteId suite)) value.allowedDpssSuites) ++
    id32 value.selectionConstraintsCommitment ++ id32 value.witnessReadQcHash

def signerRotationIntentContribution (value : SignerRotationIntentContribution) : Put :=
  domain "gp/signer-rotation-intent-contribution/v3" ++ contextInto value.context ++
    id32 value.intentHash ++ u16 value.signerId ++ id32 value.signerPublicKey ++
    bytes value.signerMembershipProof ++ sealedInto value.encryptedAuthorizationShare

def rotationIntentShareContextV3 (context : RotationContext) (intentHash : Id32)
    (signerId : UInt16) : Put :=
  domain "gp/rotation-intent-a-share-context/v3" ++ contextInto context ++ id32 intentHash ++
    u16 signerId

/-! ### Begin and Release -/

def beginVoteInto (includeSignature : Bool) (vote : SignerRotationBeginVote) : Put :=
  contextInto vote.context ++ id32 vote.intentHash ++ id32 vote.planHash ++
    id32 vote.oldRosterCommitment ++ id32 vote.newRosterCommitment ++ u16 vote.signerId ++
    id32 vote.signerPublicKey ++ bytes vote.signerMembershipProof ++
    signatureInto includeSignature vote.signerSignature

def signerRotationBeginVote (value : SignerRotationBeginVote) : Put :=
  domain "gp/signer-rotation-begin-vote/v3" ++ beginVoteInto false value

def beginRotationCertificate (value : BeginRotationCertificate) : Put := do
  uniqueIds (value.votes.map (·.signerId))
  bailIf (∃ vote ∈ value.votes, ¬SameRotation value.context vote.context ∨
    vote.intentHash ≠ value.intentHash ∨ vote.planHash ≠ value.planHash ∨
    vote.oldRosterCommitment ≠ value.oldRosterCommitment ∨
    vote.newRosterCommitment ≠ value.newRosterCommitment) .invalidValue
  domain "gp/begin-rotation-certificate/v3" ++ contextInto value.context ++
    id32 value.intentHash ++ id32 value.planHash ++ id32 value.oldRosterCommitment ++
    id32 value.newRosterCommitment ++ u64 value.notBeforeWall ++
    (boundedCount value.votes.length maxRotationActors ++ putAll (beginVoteInto true) value.votes)

def releaseVoteInto (includeSignature : Bool) (vote : SignerRotationReleaseVote) : Put :=
  contextInto vote.context ++ id32 vote.planHash ++ id32 vote.beginCertificateHash ++
    u16 vote.signerId ++ id32 vote.signerPublicKey ++ bytes vote.signerMembershipProof ++
    signatureInto includeSignature vote.signerSignature

def signerRotationReleaseVote (value : SignerRotationReleaseVote) : Put :=
  domain "gp/signer-rotation-release-vote/v3" ++ releaseVoteInto false value

/-! ### Ready -/

def preparedLeafInto (leaf : PreparedRecordLeaf) : Put :=
  u16 leaf.guardianIndex ++ u16 leaf.fragmentIndex ++ id32 leaf.opaqueSlotId ++
    id32 leaf.encryptedShareHash ++ id32 leaf.fragmentHash ++ id32 leaf.policyHash

def preparedRecordLeafV3 (value : PreparedRecordLeaf) : Put :=
  domain "gp/prepared-record-leaf/v3" ++ preparedLeafInto value

def preparedAckInto (includeSignature : Bool) (ack : NewGuardianPreparedAck) : Put :=
  contextInto ack.context ++ id32 ack.planHash ++ id32 ack.dpssResultCommitment ++
    id32 ack.guardianMaterialRoot ++ u16 ack.newGuardianIndex ++
    preparedLeafInto ack.preparedRecordLeaf ++ u64 ack.durableWriteGeneration ++
    signatureInto includeSignature ack.guardianSignature

def handoffAckInto (includeSignature : Bool) (ack : OldGuardianHandoffAck) : Put :=
  contextInto ack.context ++ id32 ack.planHash ++ id32 ack.dpssResultCommitment ++
    id32 ack.qualifiedSetCommitment ++ u16 ack.oldGuardianIndex ++
    signatureInto includeSignature ack.guardianSignature

def newGuardianPreparedAck (value : NewGuardianPreparedAck) : Put := do
  bailIf (value.newGuardianIndex ≠ value.preparedRecordLeaf.guardianIndex ∨
    value.durableWriteGeneration = 0) .invalidValue
  domain "gp/new-guardian-prepared-ack/v3" ++ preparedAckInto false value

def oldGuardianHandoffAck (value : OldGuardianHandoffAck) : Put :=
  domain "gp/old-guardian-handoff-ack/v3" ++ handoffAckInto false value

def rotationReadyCertificate (value : RotationReadyCertificate) : Put := do
  uniqueIds (value.preparedAcks.map (·.newGuardianIndex))
  uniqueIds (value.oldHandoffAcks.map (·.oldGuardianIndex))
  bailIf ((∃ ack ∈ value.preparedAcks, ¬SameRotation value.context ack.context ∨
      ack.planHash ≠ value.planHash ∨ ack.dpssResultCommitment ≠ value.dpssResultCommitment ∨
      ack.guardianMaterialRoot ≠ value.guardianMaterialRoot ∨
      ack.newGuardianIndex ≠ ack.preparedRecordLeaf.guardianIndex ∨
      ack.durableWriteGeneration = 0) ∨
    ∃ ack ∈ value.oldHandoffAcks, ¬SameRotation value.context ack.context ∨
      ack.planHash ≠ value.planHash ∨
      ack.dpssResultCommitment ≠ value.dpssResultCommitment) .invalidValue
  domain "gp/rotation-ready-certificate/v3" ++ contextInto value.context ++
    id32 value.planHash ++ configRefInto value.successor ++ id32 value.dpssResultCommitment ++
    id32 value.guardianMaterialRoot ++ id32 value.encryptedDescriptorHash ++
    (boundedCount value.preparedAcks.length maxRotationActors ++
      putAll (preparedAckInto true) value.preparedAcks) ++
    (boundedCount value.oldHandoffAcks.length maxRotationActors ++
      putAll (handoffAckInto true) value.oldHandoffAcks)

/-! ### Abort -/

def signerRotationAbortVoteInto (includeSignature : Bool) (value : SignerRotationAbortVote) :
    Put :=
  contextInto value.context ++ id32 value.planHash ++ u16 (stateId value.stateAtAbort) ++
    u16 value.reasonCode ++ u16 value.signerId ++ id32 value.signerPublicKey ++
    bytes value.signerMembershipProof ++ signatureInto includeSignature value.signerSignature

def signerRotationAbortVote (value : SignerRotationAbortVote) : Put :=
  domain "gp/signer-rotation-abort-vote/v3" ++ signerRotationAbortVoteInto false value

def abortRotationCertificate (value : AbortRotationCertificate) : Put := do
  uniqueIds (value.votes.map (·.signerId))
  domain "gp/abort-rotation-certificate/v3" ++ contextInto value.context ++
    id32 value.planHash ++ u16 (stateId value.stateAtAbort) ++ u16 value.reasonCode ++
    (boundedCount value.votes.length maxRotationActors ++
      putAll (signerRotationAbortVoteInto true) value.votes)

/-! ### Recovery -/

def recoveryRequestV3 (value : RecoveryRequestV3) : Put := do
  bailIf (value.protocolVersion ≠ protocolVersionV3 ∨ value.expiry ≤ value.requestedAt)
    .invalidValue
  domain "gp/recovery-request/v3" ++ u16 value.protocolVersion ++
    configRefInto value.configRef ++ id32 value.requestId ++ bytes value.recoveryRecipientKey ++
    u64 value.requestedAt ++ id32 value.nonce ++ u64 value.expiry

/-- A transcript as a field of another one. -/
def nested (transcript : Put) : Put := do
  let inner ← transcript
  bytes inner

def recoveryRequestDigestV3 (value : RecoveryRequestV3) : Put :=
  domain "gp/recovery-request-digest/v3" ++ nested (recoveryRequestV3 value)

def recoveryAuthorizationShareContextV3 (request : RecoveryRequestV3) (signerId : UInt16) : Put :=
  domain "gp/recovery-a-share-context/v3" ++ nested (recoveryRequestV3 request) ++ u16 signerId

def signerRecoveryContributionInto (includeSignature : Bool)
    (value : SignerRecoveryContributionV3) : Put :=
  nested (recoveryRequestV3 value.request) ++ u16 value.signerId ++ id32 value.signerPublicKey ++
    bytes value.signerMembershipProof ++ sealedInto value.encryptedAuthorizationShare ++
    signatureInto includeSignature value.signerSignature

def signerRecoveryContributionV3 (value : SignerRecoveryContributionV3) : Put :=
  domain "gp/signer-recovery-contribution/v3" ++ signerRecoveryContributionInto false value

def signerRecoveryReleaseVoteInto (includeSignature : Bool)
    (value : SignerRecoveryReleaseVoteV3) : Put :=
  nested (recoveryRequestV3 value.request) ++ id32 value.requestDigest ++ u16 value.signerId ++
    id32 value.signerPublicKey ++ bytes value.signerMembershipProof ++
    signatureInto includeSignature value.signerSignature

def signerRecoveryReleaseVoteV3 (value : SignerRecoveryReleaseVoteV3) : Put :=
  domain "gp/signer-recovery-release-vote/v3" ++ signerRecoveryReleaseVoteInto false value

end MasterRecovery.Wire
