import MasterRecovery.SignerTypes
import Std.Data.TreeMap

/-!
# Protocol-v2 recovery types (gp-types/src/lib.rs, gp-network/src/types.rs)

Certificates, responses and the persisted entry of a guardian mailbox. Request ids key the
tables as they are; the source writes them in hex.
-/

namespace MasterRecovery
open Transcript

def protocolVersion : UInt16 := 2

inductive CryptoSuite
  | xwingXChaCha20Poly1305Ed25519
  deriving DecidableEq

inductive RecoveryState
  | created
  | awaitingApprovals
  | authorized
  | delayPending
  | cancelled
  | releasing
  | completed
  | expired
  deriving DecidableEq

structure RecoveryRequest where
  protocolVersion : UInt16
  cryptoSuite : CryptoSuite
  configId : Id32
  configVersion : UInt64
  requestId : Id32
  recoveryRecipientKey : Bytes
  requestedAt : UInt64
  nonce : Id32
  expiry : UInt64
  deriving DecidableEq

structure SignerContribution where
  request : RecoveryRequest
  signerId : UInt16
  signerPublicKey : PublicKey
  signerSignature : SignatureBytes
  signerMembershipProof : MerkleProofBytes
  encryptedAShare : SealedMessage
  deriving DecidableEq

structure BeginRecoveryCertificate where
  request : RecoveryRequest
  signerContributions : List SignerContribution
  deriving DecidableEq

structure OwnerCancelCertificate where
  protocolVersion : UInt16
  configId : Id32
  configVersion : UInt64
  requestId : Id32
  requestDigest : Id32
  recoveryRecipientKey : Bytes
  cancelResponseRecipientKey : Bytes
  reasonCode : UInt16
  nonce : Id32
  issuedAt : UInt64
  ownerCancelPublicKey : PublicKey
  ownerSignature : SignatureBytes
  deriving DecidableEq

structure OwnerCancelAck where
  protocolVersion : UInt16
  configId : Id32
  configVersion : UInt64
  requestId : Id32
  requestDigest : Id32
  ownerCancelTranscriptDigest : Id32
  guardianIndex : UInt16
  guardianSignature : SignatureBytes
  deriving DecidableEq

structure ReleaseVote where
  protocolVersion : UInt16
  configId : Id32
  configVersion : UInt64
  requestId : Id32
  requestDigest : Id32
  recoveryRecipientKey : Bytes
  nonce : Id32
  signerId : UInt16
  signerPublicKey : PublicKey
  signerMembershipProof : MerkleProofBytes
  signerSignature : SignatureBytes
  deriving DecidableEq

structure ReleaseCertificate where
  votes : List ReleaseVote
  deriving DecidableEq

structure PendingRecovery where
  requestId : Id32
  configId : Id32
  configVersion : UInt64
  recipient : Bytes
  startedAtMonotonic : UInt64
  notBefore : UInt64
  state : RecoveryState
  deriving DecidableEq

structure GuardianContribution where
  protocolVersion : UInt16
  configId : Id32
  configVersion : UInt64
  requestId : Id32
  requestDigest : Id32
  guardianIndex : UInt16
  ciphertextFragment : Bytes
  encryptedDekShare : AeadCiphertext
  merklePathProof : MerkleProofBytes
  guardianSignature : SignatureBytes
  deriving DecidableEq

structure GuardianPolicy where
  configId : Id32
  configVersion : UInt64
  signerSetCommitment : Id32
  signerCount : UInt16
  signerThreshold : UInt16
  ownerCancelPublicKey : PublicKey
  minimumRecoveryDelay : UInt64
  guardianMaterialRoot : Id32
  deriving DecidableEq

structure GuardianRecord where
  opaqueSlotId : Id32
  guardianIndex : UInt16
  ciphertextFragment : Bytes
  encryptedDekShare : AeadCiphertext
  merklePathProof : MerkleProofBytes
  policy : GuardianPolicy
  deriving DecidableEq

/-- The mailbox's own name is the key its entry stands under. -/
structure GuardianProvision where
  guardianId : UInt16
  signingSeed : Id32
  record : GuardianRecord
  deriving DecidableEq

structure PendingNetworkRecovery where
  request : RecoveryRequest
  requestDigest : Id32
  acceptedWallTime : UInt64
  startedMonotonic : UInt64
  notBeforeMonotonic : UInt64
  bootId : String
  deriving DecidableEq

structure GuardianEntry where
  provision : GuardianProvision
  pending : Std.TreeMap Id32 PendingNetworkRecovery
  cancelled : Std.TreeMap Id32 Id32
  released : Std.TreeMap Id32 Id32
  seenNonces : Finset Id32

inductive MailboxRequest
  | signerApprove (request : RecoveryRequest)
  | signerRelease (request : RecoveryRequest)
  | guardianBegin (certificate : BeginRecoveryCertificate)
  | guardianCancel (request : RecoveryRequest) (certificate : OwnerCancelCertificate)
  | guardianRelease (request : RecoveryRequest) (certificate : ReleaseCertificate)
  deriving DecidableEq

namespace MailboxRequest

def request : MailboxRequest → RecoveryRequest
  | signerApprove request => request
  | signerRelease request => request
  | guardianBegin certificate => certificate.request
  | guardianCancel request _ => request
  | guardianRelease request _ => request

end MailboxRequest

/-- The answers a guardian gives; a signer's are left out. -/
inductive MailboxResponse
  | beginAccepted (notBeforeMonotonic : UInt64)
  | cancellationAccepted (ack : OwnerCancelAck)
  | releaseRefused (reason : String)
  | guardianContribution (contribution : GuardianContribution)
  deriving DecidableEq

end MasterRecovery
