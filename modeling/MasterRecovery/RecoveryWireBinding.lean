import MasterRecovery.GuardianMailbox
import MasterRecovery.SignerWireBinding

/-!
# What the protocol-v2 transcripts bind (gp-wire/src/lib.rs)

The contexts its keys and shares are sealed under, and what these and the recovery transcripts
determine.
-/

namespace MasterRecovery.Wire
open Checks Transcript

/-! ### Contexts -/

def descriptorContext (configId : Id32) (configVersion : UInt64) : Put :=
  domain "gp/recovery-descriptor-context/v1" ++ id32 configId ++ u64 configVersion

def recipientShareContext (request : RecoveryRequest) (signerId : UInt16) : Put :=
  domain "gp/recipient-a-share-context/v1" ++ nested (recoveryRequest request) ++ u16 signerId

def guardianReleaseContext (request : RecoveryRequest) (guardianIndex : UInt16) : Put :=
  domain "gp/recipient-guardian-contribution/v1" ++ nested (recoveryRequest request) ++
    u16 guardianIndex

def guardianLeaf (configId : Id32) (configVersion : UInt64) (guardianIndex : UInt16)
    (fragmentHash encryptedShareHash : Id32) : Put :=
  domain "gp/guardian-leaf/v1" ++ id32 configId ++ u64 configVersion ++ u16 guardianIndex ++
    id32 fragmentHash ++ id32 encryptedShareHash

def guardianShareContext (configId : Id32) (configVersion : UInt64) (guardianIndex : UInt16) :
    Put :=
  domain "gp/guardian-dek-share-context/v1" ++ id32 configId ++ u64 configVersion ++
    u16 guardianIndex

def payloadContext (configId : Id32) (configVersion : UInt64) : Put :=
  domain "gp/payload-context/v1" ++ id32 configId ++ u64 configVersion

def nodeProvisionContext (nodeId role : String) : Put :=
  domain "gp/network-node-provision/v1" ++ string nodeId ++ string role

/-! ### Requests -/

theorem suiteId_binding : SelfDelimiting (fun v => u16 (suiteId v)) id :=
  (u16_binding.comp suiteId).weaken fun a b _ => by
    cases a
    cases b
    rfl

theorem recoveryRequest_framed :
    Framed (domain "gp/recovery-request/v1") recoveryRequest id :=
  (((((((((Framed.start _).seq
    (u16_binding.comp RecoveryRequest.protocolVersion)).seq
    (suiteId_binding.comp RecoveryRequest.cryptoSuite)).seq
    (id32_binding.comp RecoveryRequest.configId)).seq
    (u64_binding.comp RecoveryRequest.configVersion)).seq
    (id32_binding.comp RecoveryRequest.requestId)).seq
    (bytes_binding.comp RecoveryRequest.recoveryRecipientKey)).seq
    (u64_binding.comp RecoveryRequest.requestedAt)).seq
    (id32_binding.comp RecoveryRequest.nonce)).seq
    (u64_binding.comp RecoveryRequest.expiry)
    |>.weaken fun a b h => by
      cases a
      cases b
      simpa [and_assoc] using h

theorem nestedRequest_binding : SelfDelimiting (fun v => nested (recoveryRequest v)) id :=
  nested_binding recoveryRequest_framed.binds

theorem requestDigestPreimage_framed :
    Framed (domain "gp/recovery-request-digest/v1") requestDigestPreimage id :=
  (Framed.start _).seq nestedRequest_binding |>.weaken fun _ _ h => by
    simpa using h

theorem signerApproval_framed :
    Framed (domain "gp/signer-approval/v1")
      (fun p : RecoveryRequest × UInt16 × SealedMessage => signerApproval p.1 p.2.1 p.2.2) id :=
  (((Framed.start _).seq
    (nestedRequest_binding.comp Prod.fst)).seq
    (u16_binding.comp fun p : RecoveryRequest × UInt16 × SealedMessage => p.2.1)).seq
    (sealedInto_binding.comp fun p : RecoveryRequest × UInt16 × SealedMessage => p.2.2)
    |>.weaken fun _ _ h => by
      simpa [Prod.ext_iff, and_assoc] using h

theorem recipientShareContext_framed :
    Framed (domain "gp/recipient-a-share-context/v1")
      (fun p : RecoveryRequest × UInt16 => recipientShareContext p.1 p.2) id :=
  ((Framed.start _).seq
    (nestedRequest_binding.comp Prod.fst)).seq
    (u16_binding.comp Prod.snd)
    |>.weaken fun _ _ h => by
      simpa [Prod.ext_iff, and_assoc] using h

theorem guardianReleaseContext_framed :
    Framed (domain "gp/recipient-guardian-contribution/v1")
      (fun p : RecoveryRequest × UInt16 => guardianReleaseContext p.1 p.2) id :=
  ((Framed.start _).seq
    (nestedRequest_binding.comp Prod.fst)).seq
    (u16_binding.comp Prod.snd)
    |>.weaken fun _ _ h => by
      simpa [Prod.ext_iff, and_assoc] using h

/-! ### Statements -/

/-- The certificate as it is signed. -/
def ownerHardCancelUnsigned (value : OwnerCancelCertificate) : OwnerCancelCertificate :=
  { value with ownerSignature := [] }

theorem ownerCancel_framed :
    Framed (domain "gp/owner-hard-cancel/v1") ownerCancel ownerHardCancelUnsigned :=
  (((((((((((Framed.start _).seq
    (u16_binding.comp OwnerCancelCertificate.protocolVersion)).seq
    (id32_binding.comp OwnerCancelCertificate.configId)).seq
    (u64_binding.comp OwnerCancelCertificate.configVersion)).seq
    (id32_binding.comp OwnerCancelCertificate.requestId)).seq
    (id32_binding.comp OwnerCancelCertificate.requestDigest)).seq
    (bytes_binding.comp OwnerCancelCertificate.recoveryRecipientKey)).seq
    (bytes_binding.comp OwnerCancelCertificate.cancelResponseRecipientKey)).seq
    (u16_binding.comp OwnerCancelCertificate.reasonCode)).seq
    (id32_binding.comp OwnerCancelCertificate.nonce)).seq
    (u64_binding.comp OwnerCancelCertificate.issuedAt)).seq
    (id32_binding.comp OwnerCancelCertificate.ownerCancelPublicKey)
    |>.weaken fun a b h => by
      simp only [Prod.mk.injEq, id_eq] at h
      simp [ownerHardCancelUnsigned, h]

/-- The acknowledgement as it is signed. -/
def ownerHardCancelAckUnsigned (value : OwnerCancelAck) : OwnerCancelAck :=
  { value with guardianSignature := [] }

theorem ownerCancelAck_framed :
    Framed (domain "gp/owner-hard-cancel-ack/v1") ownerCancelAck ownerHardCancelAckUnsigned :=
  (((((((Framed.start _).seq
    (u16_binding.comp OwnerCancelAck.protocolVersion)).seq
    (id32_binding.comp OwnerCancelAck.configId)).seq
    (u64_binding.comp OwnerCancelAck.configVersion)).seq
    (id32_binding.comp OwnerCancelAck.requestId)).seq
    (id32_binding.comp OwnerCancelAck.requestDigest)).seq
    (id32_binding.comp OwnerCancelAck.ownerCancelTranscriptDigest)).seq
    (u16_binding.comp OwnerCancelAck.guardianIndex)
    |>.weaken fun a b h => by
      simp only [Prod.mk.injEq, id_eq] at h
      simp [ownerHardCancelAckUnsigned, h]

/-- The vote as it is signed. -/
def recoveryVoteUnsigned (value : ReleaseVote) : ReleaseVote :=
  { value with signerSignature := [] }

theorem releaseVote_framed :
    Framed (domain "gp/release-vote/v1") releaseVote recoveryVoteUnsigned :=
  ((((((((((Framed.start _).seq
    (u16_binding.comp ReleaseVote.protocolVersion)).seq
    (id32_binding.comp ReleaseVote.configId)).seq
    (u64_binding.comp ReleaseVote.configVersion)).seq
    (id32_binding.comp ReleaseVote.requestId)).seq
    (id32_binding.comp ReleaseVote.requestDigest)).seq
    (bytes_binding.comp ReleaseVote.recoveryRecipientKey)).seq
    (id32_binding.comp ReleaseVote.nonce)).seq
    (u16_binding.comp ReleaseVote.signerId)).seq
    (id32_binding.comp ReleaseVote.signerPublicKey)).seq
    (bytes_binding.comp ReleaseVote.signerMembershipProof)
    |>.weaken fun a b h => by
      simp only [Prod.mk.injEq, id_eq] at h
      simp [recoveryVoteUnsigned, h]

/-- The contribution as it is signed. -/
def guardianContributionUnsigned (value : GuardianContribution) : GuardianContribution :=
  { value with guardianSignature := [] }

theorem guardianContribution_framed :
    Framed (domain "gp/guardian-contribution/v1")
      guardianContribution guardianContributionUnsigned :=
  ((((((((((Framed.start _).seq
    (u16_binding.comp GuardianContribution.protocolVersion)).seq
    (id32_binding.comp GuardianContribution.configId)).seq
    (u64_binding.comp GuardianContribution.configVersion)).seq
    (id32_binding.comp GuardianContribution.requestId)).seq
    (id32_binding.comp GuardianContribution.requestDigest)).seq
    (u16_binding.comp GuardianContribution.guardianIndex)).seq
    (bytes_binding.comp GuardianContribution.ciphertextFragment)).seq
    (nonce_binding.comp fun v : GuardianContribution => v.encryptedDekShare.nonce)).seq
    (bytes_binding.comp fun v : GuardianContribution => v.encryptedDekShare.ciphertext)).seq
    (bytes_binding.comp GuardianContribution.merklePathProof)
    |>.weaken fun a b h => by
      simp only [Prod.mk.injEq, id_eq] at h
      have hshare : a.encryptedDekShare = b.encryptedDekShare := aead_eq h.1.1.2 h.1.2
      simp [guardianContributionUnsigned, h, hshare]

/-! ### Leaves and contexts -/

theorem descriptorContext_framed :
    Framed (domain "gp/recovery-descriptor-context/v1")
      (fun p : Id32 × UInt64 => descriptorContext p.1 p.2) id :=
  ((Framed.start _).seq
    (id32_binding.comp Prod.fst)).seq
    (u64_binding.comp Prod.snd)
    |>.weaken fun _ _ h => by
      simpa [Prod.ext_iff, and_assoc] using h

theorem guardianLeaf_framed :
    Framed (domain "gp/guardian-leaf/v1")
      (fun p : Id32 × UInt64 × UInt16 × Id32 × Id32 =>
        guardianLeaf p.1 p.2.1 p.2.2.1 p.2.2.2.1 p.2.2.2.2) id :=
  (((((Framed.start _).seq
    (id32_binding.comp Prod.fst)).seq
    (u64_binding.comp fun p : Id32 × UInt64 × UInt16 × Id32 × Id32 => p.2.1)).seq
    (u16_binding.comp fun p : Id32 × UInt64 × UInt16 × Id32 × Id32 => p.2.2.1)).seq
    (id32_binding.comp fun p : Id32 × UInt64 × UInt16 × Id32 × Id32 => p.2.2.2.1)).seq
    (id32_binding.comp fun p : Id32 × UInt64 × UInt16 × Id32 × Id32 => p.2.2.2.2)
    |>.weaken fun _ _ h => by
      simpa [Prod.ext_iff, and_assoc] using h

theorem guardianShareContext_framed :
    Framed (domain "gp/guardian-dek-share-context/v1")
      (fun p : Id32 × UInt64 × UInt16 => guardianShareContext p.1 p.2.1 p.2.2) id :=
  (((Framed.start _).seq
    (id32_binding.comp Prod.fst)).seq
    (u64_binding.comp fun p : Id32 × UInt64 × UInt16 => p.2.1)).seq
    (u16_binding.comp fun p : Id32 × UInt64 × UInt16 => p.2.2)
    |>.weaken fun _ _ h => by
      simpa [Prod.ext_iff, and_assoc] using h

theorem payloadContext_framed :
    Framed (domain "gp/payload-context/v1")
      (fun p : Id32 × UInt64 => payloadContext p.1 p.2) id :=
  ((Framed.start _).seq
    (id32_binding.comp Prod.fst)).seq
    (u64_binding.comp Prod.snd)
    |>.weaken fun _ _ h => by
      simpa [Prod.ext_iff, and_assoc] using h

theorem nodeProvisionContext_framed :
    Framed (domain "gp/network-node-provision/v1")
      (fun p : String × String => nodeProvisionContext p.1 p.2) id :=
  ((Framed.start _).seq
    (string_binding.comp Prod.fst)).seq
    (string_binding.comp Prod.snd)
    |>.weaken fun _ _ h => by
      simpa [Prod.ext_iff, and_assoc] using h

end MasterRecovery.Wire
