import MasterRecovery.GuardianWire
import MasterRecovery.RotationCertificates

/-!
# Certificates a guardian checks (gp-network/src/rotation_protocol.rs)

The certificates that release a rotation and that begin, release and cancel a recovery.
-/

namespace MasterRecovery
open Checks Transcript

variable (crypto : Crypto)

def hashPlan (plan : RotationPlan) : Except String Id32 := do
  let transcript ← wire (Wire.rotationPlan plan)
  .ok (crypto.sha256 transcript)

/-! ### Rotation Release -/

def validateRotationReleaseCertificateV3 (release : RotationReleaseCertificate)
    (begun : BeginRotationCertificate) (plan : RotationPlan) (predecessor : ConfigCapsuleV3)
    (now : UInt64) : Except String Id32 := do
  let beginHash ← validateBeginRotationCertificateV3 crypto begun plan predecessor now
  let transcript ← wire (Wire.rotationReleaseCertificate release)
  let planHash ← hashPlan crypto plan
  bailIf (release.context ≠ plan.context ∨ release.planHash ≠ planHash ∨
    release.beginCertificateHash ≠ beginHash ∨ now < begun.notBeforeWall ∨
    plan.preparationDeadline ≤ now)
    "Release certificate is early or does not bind the exact Begin"
  let ids ← scanDistinct (·.signerId) (fun _ => .ok ()) "duplicate signer Release vote"
    (fun vote => do
      validateSignerMembership crypto vote.signerId vote.signerPublicKey
        vote.signerMembershipProof predecessor
      let voteTranscript ← wire (Wire.signerRotationReleaseVote vote)
      crypt (crypto.verify vote.signerPublicKey voteTranscript vote.signerSignature))
    ∅ release.votes
  bailIf (ids.card < predecessor.signerThreshold.toNat)
    "Release certificate has no signer threshold"
  .ok (crypto.sha256 transcript)

/-! ### Recovery -/

/-- Each signer once, each under the capsule's signer set, each over the same request. -/
def recoveryQuorum {α : Type} (signerId : α → UInt16) (request : α → RecoveryRequestV3)
    (signerPublicKey : α → PublicKey) (signerMembershipProof : α → MerkleProofBytes)
    (signerSignature : α → SignatureBytes) (transcript : α → Wire.Put) (mismatch missing : String)
    (expected : RecoveryRequestV3) (capsule : ConfigCapsuleV3) (items : List α) :
    Except String Unit := do
  let ids ← scanDistinct signerId
    (fun item => bailIf (request item ≠ expected) mismatch)
    mismatch
    (fun item => do
      validateSignerMembership crypto (signerId item) (signerPublicKey item)
        (signerMembershipProof item) capsule
      let itemTranscript ← wire (transcript item)
      crypt (crypto.verify (signerPublicKey item) itemTranscript (signerSignature item)))
    ∅ items
  bailIf (ids.card < capsule.signerThreshold.toNat) missing

def validateBeginRecoveryCertificateV3 (certificate : BeginRecoveryCertificateV3)
    (capsule : ConfigCapsuleV3) (now : UInt64) : Except String Id32 := do
  let digest ← validateRecoveryRequestV3 crypto certificate.request capsule now
  let _ ← wire (Wire.beginRecoveryCertificateV3 certificate)
  bailIf (certificate.requestDigest ≠ digest) "v3 Begin certificate has the wrong request digest"
  recoveryQuorum crypto (·.signerId) (·.request) (·.signerPublicKey) (·.signerMembershipProof)
    (·.signerSignature) Wire.signerRecoveryContributionV3
    "duplicate or request-mismatched signer recovery contribution"
    "v3 Begin certificate has no signer threshold"
    certificate.request capsule certificate.signerContributions
  .ok digest

def validateRecoveryReleaseCertificateForRefV3 (certificate : RecoveryReleaseCertificateV3)
    (capsule : ConfigCapsuleV3) (expectedConfigRef : ConfigRef) (now : UInt64) :
    Except String Id32 := do
  let digest ← validateRecoveryRequestForRefV3 crypto certificate.request capsule
    expectedConfigRef now
  let _ ← wire (Wire.recoveryReleaseCertificateV3 certificate)
  bailIf (certificate.requestDigest ≠ digest) "v3 Release certificate has the wrong request digest"
  recoveryQuorum crypto (·.signerId) (·.request) (·.signerPublicKey) (·.signerMembershipProof)
    (·.signerSignature) Wire.signerRecoveryReleaseVoteV3
    "duplicate or request-mismatched v3 Release vote"
    "v3 Release certificate has no signer threshold"
    certificate.request capsule certificate.votes
  .ok digest

def validateOwnerRecoveryCancelForRefV3 (certificate : OwnerRecoveryCancelCertificateV3)
    (request : RecoveryRequestV3) (capsule : ConfigCapsuleV3) (expectedConfigRef : ConfigRef)
    (now : UInt64) : Except String Id32 := do
  let digest ← validateRecoveryRequestForRefV3 crypto request capsule expectedConfigRef now
  bailIf (certificate.request ≠ request ∨ certificate.requestDigest ≠ digest ∨
    certificate.ownerCancelPublicKey ≠ capsule.ownerCancelPublicKey)
    "owner cancellation does not bind the exact v3 recovery request"
  let transcript ← wire (Wire.ownerRecoveryCancelCertificateV3 certificate)
  crypt (crypto.verify certificate.ownerCancelPublicKey transcript certificate.ownerSignature)
  .ok digest

end MasterRecovery
