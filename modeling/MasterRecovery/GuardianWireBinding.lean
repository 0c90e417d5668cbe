import MasterRecovery.GuardianWire
import MasterRecovery.SignerWireBinding

/-!
# What guardian transcripts bind

A guardian's statement is determined by its transcript up to its signature, and what seals a
key of a grant up to the two sealed keys.
-/

namespace MasterRecovery.Wire
open Checks Transcript

/-! ### Cancellation and Release -/

/-- The acknowledgement as it is signed. -/
def ownerRotationCancelAckUnsigned (value : OwnerRotationCancelAck) : OwnerRotationCancelAck :=
  { value with guardianSignature := [] }

theorem ownerRotationCancelAck_framed :
    Framed (domain "gp/owner-rotation-cancel-ack/v3")
      ownerRotationCancelAck ownerRotationCancelAckUnsigned :=
  ((((Framed.start _).seq
    (contextInto_binding.comp OwnerRotationCancelAck.context)).seq
    (id32_binding.comp OwnerRotationCancelAck.planHash)).seq
    (id32_binding.comp OwnerRotationCancelAck.cancelCertificateHash)).seq
    (u16_binding.comp OwnerRotationCancelAck.guardianIndex)
    |>.weaken fun a b h => by
      simp only [Prod.mk.injEq, id_eq] at h
      simp [ownerRotationCancelAckUnsigned, h]

theorem rotationReleaseCertificate_framed :
    Framed (domain "gp/rotation-release-certificate/v3") rotationReleaseCertificate id :=
  ((((Framed.start _).seq
    (contextInto_binding.comp RotationReleaseCertificate.context)).seq
    (id32_binding.comp RotationReleaseCertificate.planHash)).seq
    (id32_binding.comp RotationReleaseCertificate.beginCertificateHash)).seq
    (((releaseVoteInto_binding true).counted boundedCount_binding).comp
      RotationReleaseCertificate.votes)
    |>.guarded _ |>.guarded _ |>.weaken fun a b h => by
      cases a
      cases b
      simpa [and_assoc] using h

/-! ### Grants -/

theorem flag_injective {a b : Bool}
    (h : (if a then (1 : UInt16) else 0) = if b then 1 else 0) : a = b := by
  revert h
  cases a <;> cases b <;> simp

theorem flag_binding : SelfDelimiting (fun v : Bool => u16 (if v then 1 else 0)) id :=
  (u16_binding.comp fun v : Bool => if v then (1 : UInt16) else 0).weaken
    fun _ _ h => flag_injective h

def noSealed : SealedMessage := ⟨[], ⟨0, []⟩⟩

theorem oldShareUnlockGrant_framed :
    Framed (domain "gp/old-share-unlock-grant/v3") oldShareUnlockGrant id :=
  ((((((Framed.start _).seq
    (contextInto_binding.comp OldShareUnlockGrant.context)).seq
    (id32_binding.comp OldShareUnlockGrant.planHash)).seq
    (id32_binding.comp OldShareUnlockGrant.releaseCertificateHash)).seq
    (u16_binding.comp OldShareUnlockGrant.oldGuardianIndex)).seq
    (sealedInto_binding.comp OldShareUnlockGrant.encryptedUnwrapKey)).seq
    (sealedInto_binding.comp OldShareUnlockGrant.encryptedFragmentKey)
    |>.weaken fun a b h => by
      cases a
      cases b
      simpa [and_assoc] using h

/-- The grant without the keys it carries. -/
def oldShareUnlockGrantHeader (value : OldShareUnlockGrant) : OldShareUnlockGrant :=
  { value with encryptedUnwrapKey := noSealed, encryptedFragmentKey := noSealed }

theorem oldShareUnlockGrantPayloadContext_framed :
    Framed (domain "gp/old-share-unlock-grant-payload/v3")
      (fun p : OldShareUnlockGrant × Bool => oldShareUnlockGrantPayloadContext p.1 p.2)
      (fun p => (oldShareUnlockGrantHeader p.1, p.2)) :=
  (((((Framed.start _).seq
    (contextInto_binding.comp fun p : OldShareUnlockGrant × Bool => p.1.context)).seq
    (id32_binding.comp fun p : OldShareUnlockGrant × Bool => p.1.planHash)).seq
    (id32_binding.comp fun p : OldShareUnlockGrant × Bool => p.1.releaseCertificateHash)).seq
    (u16_binding.comp fun p : OldShareUnlockGrant × Bool => p.1.oldGuardianIndex)).seq
    (flag_binding.comp Prod.snd)
    |>.weaken fun a b h => by
      simp only [Prod.mk.injEq, id_eq] at h
      simp [oldShareUnlockGrantHeader, h]

theorem newShareWrapGrant_framed :
    Framed (domain "gp/new-share-wrap-grant/v3") newShareWrapGrant id :=
  ((((((Framed.start _).seq
    (contextInto_binding.comp NewShareWrapGrant.context)).seq
    (id32_binding.comp NewShareWrapGrant.planHash)).seq
    (id32_binding.comp NewShareWrapGrant.releaseCertificateHash)).seq
    (u16_binding.comp NewShareWrapGrant.newGuardianIndex)).seq
    (sealedInto_binding.comp NewShareWrapGrant.encryptedWrapKey)).seq
    (sealedInto_binding.comp NewShareWrapGrant.encryptedFragmentKey)
    |>.weaken fun a b h => by
      cases a
      cases b
      simpa [and_assoc] using h

/-- The grant without the keys it carries. -/
def newShareWrapGrantHeader (value : NewShareWrapGrant) : NewShareWrapGrant :=
  { value with encryptedWrapKey := noSealed, encryptedFragmentKey := noSealed }

theorem newShareWrapGrantPayloadContext_framed :
    Framed (domain "gp/new-share-wrap-grant-payload/v3")
      (fun p : NewShareWrapGrant × Bool => newShareWrapGrantPayloadContext p.1 p.2)
      (fun p => (newShareWrapGrantHeader p.1, p.2)) :=
  (((((Framed.start _).seq
    (contextInto_binding.comp fun p : NewShareWrapGrant × Bool => p.1.context)).seq
    (id32_binding.comp fun p : NewShareWrapGrant × Bool => p.1.planHash)).seq
    (id32_binding.comp fun p : NewShareWrapGrant × Bool => p.1.releaseCertificateHash)).seq
    (u16_binding.comp fun p : NewShareWrapGrant × Bool => p.1.newGuardianIndex)).seq
    (flag_binding.comp Prod.snd)
    |>.weaken fun a b h => by
      simp only [Prod.mk.injEq, id_eq] at h
      simp [newShareWrapGrantHeader, h]

/-! ### Redistribution -/

theorem dpssPhaseId_injective {a b : DpssPhase} (h : dpssPhaseId a = dpssPhaseId b) : a = b := by
  cases a <;> cases b <;> first | rfl | (exact absurd h (by decide))

theorem dpssPhaseId_binding : SelfDelimiting (fun v => u16 (dpssPhaseId v)) id :=
  (u16_binding.comp dpssPhaseId).weaken fun _ _ h => dpssPhaseId_injective h

/-- The message as it is signed. -/
def dpssProtocolMessageUnsigned (value : DpssProtocolMessage) : DpssProtocolMessage :=
  { value with senderSignature := [] }

theorem dpssProtocolMessage_framed :
    Framed (domain "gp/dpss-protocol-message/v3") dpssProtocolMessage dpssProtocolMessageUnsigned :=
  ((((((((((Framed.start _).seq
    (contextInto_binding.comp DpssProtocolMessage.context)).seq
    (id32_binding.comp DpssProtocolMessage.planHash)).seq
    (dpssSuiteId_binding.comp DpssProtocolMessage.dpssSuite)).seq
    (id32_binding.comp DpssProtocolMessage.dpssSessionId)).seq
    (id32_binding.comp DpssProtocolMessage.qualifiedSetCommitment)).seq
    (dpssPhaseId_binding.comp DpssProtocolMessage.phase)).seq
    (u16_binding.comp DpssProtocolMessage.senderIndex)).seq
    (u16_binding.comp DpssProtocolMessage.recipientIndex)).seq
    (u64_binding.comp DpssProtocolMessage.sequence)).seq
    (bytes_binding.comp DpssProtocolMessage.providerPayload)
    |>.guarded _ |>.guarded _ |>.weaken fun a b h => by
      simp only [Prod.mk.injEq, id_eq] at h
      simp [dpssProtocolMessageUnsigned, h]

/-- The contribution as it is signed. -/
def ciphertextFragmentContributionUnsigned (value : CiphertextFragmentContribution) :
    CiphertextFragmentContribution :=
  { value with guardianSignature := [] }

theorem ciphertextFragmentContribution_framed :
    Framed (domain "gp/ciphertext-fragment-contribution/v3")
      ciphertextFragmentContribution ciphertextFragmentContributionUnsigned :=
  (((((((((Framed.start _).seq
    (contextInto_binding.comp CiphertextFragmentContribution.context)).seq
    (id32_binding.comp CiphertextFragmentContribution.planHash)).seq
    (id32_binding.comp CiphertextFragmentContribution.releaseCertificateHash)).seq
    (u16_binding.comp CiphertextFragmentContribution.oldGuardianIndex)).seq
    (u16_binding.comp CiphertextFragmentContribution.fragmentIndex)).seq
    (bytes_binding.comp CiphertextFragmentContribution.ciphertextFragment)).seq
    (id32_binding.comp CiphertextFragmentContribution.fragmentCommitment)).seq
    (preparedLeafInto_binding.comp CiphertextFragmentContribution.preparedRecordLeaf)).seq
    (bytes_binding.comp CiphertextFragmentContribution.merklePathProof)
    |>.weaken fun a b h => by
      simp only [Prod.mk.injEq, id_eq] at h
      simp [ciphertextFragmentContributionUnsigned, h]

theorem retirementNotice_framed :
    Framed (domain "gp/retirement-notice/v3") retirementNotice id :=
  (((((Framed.start _).seq
    (contextInto_binding.comp RetirementNotice.context)).seq
    (id32_binding.comp RetirementNotice.planHash)).seq
    (id32_binding.comp RetirementNotice.activationQcHash)).seq
    (u64_binding.comp RetirementNotice.retiredEpoch)).seq
    (u64_binding.comp RetirementNotice.drainDeadline)
    |>.weaken fun a b h => by
      cases a
      cases b
      simpa [and_assoc] using h

/-- The acknowledgement as it is signed. -/
def retirementAckUnsigned (value : RetirementAck) : RetirementAck :=
  { value with guardianSignature := [] }

theorem retirementAck_framed :
    Framed (domain "gp/retirement-ack/v3") retirementAck retirementAckUnsigned :=
  ((((((Framed.start _).seq
    (contextInto_binding.comp RetirementAck.context)).seq
    (id32_binding.comp RetirementAck.planHash)).seq
    (id32_binding.comp RetirementAck.activationQcHash)).seq
    (u16_binding.comp RetirementAck.guardianIndex)).seq
    (u64_binding.comp RetirementAck.retiredEpoch)).seq
    (id32_binding.comp RetirementAck.tombstoneHash)
    |>.weaken fun a b h => by
      simp only [Prod.mk.injEq, id_eq] at h
      simp [retirementAckUnsigned, h]

/-! ### Records and their envelopes -/

/-- The policy without its lifecycle and the root over the record that carries it. -/
def guardianPolicyBody (value : GuardianPolicyV3) : GuardianPolicyV3 :=
  { value with
    epochState := .prepared
    guardianMaterialRoot := 0
    activationQcHash := none
    drainDeadline := none }

theorem guardianPolicyBodyV3_framed :
    Framed (domain "gp/guardian-policy-body/v3") guardianPolicyBodyV3 guardianPolicyBody :=
  (((((((((Framed.start _).seq
    (configRefInto_binding.comp GuardianPolicyV3.configRef)).seq
    (id32_binding.comp GuardianPolicyV3.signerSetCommitment)).seq
    (u16_binding.comp GuardianPolicyV3.signerCount)).seq
    (u16_binding.comp GuardianPolicyV3.signerThreshold)).seq
    (id32_binding.comp GuardianPolicyV3.ownerCancelPublicKey)).seq
    (u64_binding.comp GuardianPolicyV3.minimumRecoveryDelay)).seq
    (dpssSuiteId_binding.comp GuardianPolicyV3.dpssSuite)).seq
    (id32_binding.comp GuardianPolicyV3.dpssPublicCommitment)).seq
    (id32_binding.comp GuardianPolicyV3.predecessorCapsuleHash)
    |>.guarded _ |>.weaken fun a b h => by
      simp only [Prod.mk.injEq, id_eq] at h
      simp [guardianPolicyBody, h]

theorem guardianShareContextV3_framed :
    Framed (domain "gp/guardian-dek-share-context/v3")
      (fun p : ConfigRef × UInt16 => guardianShareContextV3 p.1 p.2) id :=
  ((Framed.start _).seq
    (configRefInto_binding.comp Prod.fst)).seq
    (u16_binding.comp Prod.snd)
    |>.weaken fun _ _ h => by
      simpa [Prod.ext_iff, and_assoc] using h

theorem guardianFragmentContextV3_framed :
    Framed (domain "gp/guardian-ciphertext-fragment-context/v3")
      (fun p : ConfigRef × UInt16 × UInt16 => guardianFragmentContextV3 p.1 p.2.1 p.2.2) id :=
  (((Framed.start _).seq
    (configRefInto_binding.comp Prod.fst)).seq
    (u16_binding.comp fun p : ConfigRef × UInt16 × UInt16 => p.2.1)).seq
    (u16_binding.comp fun p : ConfigRef × UInt16 × UInt16 => p.2.2)
    |>.weaken fun _ _ h => by
      simpa [Prod.ext_iff, and_assoc] using h

theorem descriptorContextV3_framed :
    Framed (domain "gp/recovery-descriptor-context/v3") descriptorContextV3 id :=
  (Framed.start _).seq configRefInto_binding |>.weaken fun _ _ h => by
    simpa using h

theorem payloadContextV3_framed :
    Framed (domain "gp/payload-context/v3")
      (fun p : Id32 × UInt64 => payloadContextV3 p.1 p.2) id :=
  ((Framed.start _).seq
    (id32_binding.comp Prod.fst)).seq
    (u64_binding.comp Prod.snd)
    |>.weaken fun _ _ h => by
      simpa [Prod.ext_iff, and_assoc] using h

theorem mailboxTransportContext_framed :
    Framed (domain "gp/network-mailbox-transport/v1")
      (fun p : String × String => mailboxTransportContext p.1 p.2) id :=
  ((Framed.start _).seq
    (string_binding.comp Prod.fst)).seq
    (string_binding.comp Prod.snd)
    |>.weaken fun _ _ h => by
      simpa [Prod.ext_iff, and_assoc] using h

/-! ### Recovery -/

theorem beginRecoveryCertificateV3_framed :
    Framed (domain "gp/begin-recovery-certificate/v3") beginRecoveryCertificateV3 id :=
  (((Framed.start _).seq
    (nestedRequestV3_binding.comp BeginRecoveryCertificateV3.request)).seq
    (id32_binding.comp BeginRecoveryCertificateV3.requestDigest)).seq
    (((signerRecoveryContributionInto_binding true).counted boundedCount_binding).comp
      BeginRecoveryCertificateV3.signerContributions)
    |>.guarded _ |>.guarded _ |>.weaken fun a b h => by
      cases a
      cases b
      simpa [and_assoc] using h

theorem recoveryReleaseCertificateV3_framed :
    Framed (domain "gp/recovery-release-certificate/v3") recoveryReleaseCertificateV3 id :=
  (((Framed.start _).seq
    (nestedRequestV3_binding.comp RecoveryReleaseCertificateV3.request)).seq
    (id32_binding.comp RecoveryReleaseCertificateV3.requestDigest)).seq
    (((signerRecoveryReleaseVoteInto_binding true).counted boundedCount_binding).comp
      RecoveryReleaseCertificateV3.votes)
    |>.guarded _ |>.guarded _ |>.weaken fun a b h => by
      cases a
      cases b
      simpa [and_assoc] using h

/-- The certificate as it is signed. -/
def ownerRecoveryCancelUnsigned (value : OwnerRecoveryCancelCertificateV3) :
    OwnerRecoveryCancelCertificateV3 :=
  { value with ownerSignature := [] }

theorem ownerRecoveryCancelCertificateV3_framed :
    Framed (domain "gp/owner-recovery-cancel/v3")
      ownerRecoveryCancelCertificateV3 ownerRecoveryCancelUnsigned :=
  (((((Framed.start _).seq
    (nestedRequestV3_binding.comp OwnerRecoveryCancelCertificateV3.request)).seq
    (id32_binding.comp OwnerRecoveryCancelCertificateV3.requestDigest)).seq
    (u16_binding.comp OwnerRecoveryCancelCertificateV3.reasonCode)).seq
    (bytes_binding.comp OwnerRecoveryCancelCertificateV3.cancelResponseRecipientKey)).seq
    (id32_binding.comp OwnerRecoveryCancelCertificateV3.ownerCancelPublicKey)
    |>.weaken fun a b h => by
      simp only [Prod.mk.injEq, id_eq] at h
      simp [ownerRecoveryCancelUnsigned, h]

/-- The acknowledgement as it is signed. -/
def ownerRecoveryCancelAckUnsigned (value : OwnerRecoveryCancelAckV3) : OwnerRecoveryCancelAckV3 :=
  { value with guardianSignature := [] }

theorem ownerRecoveryCancelAckV3_framed :
    Framed (domain "gp/owner-recovery-cancel-ack/v3")
      ownerRecoveryCancelAckV3 ownerRecoveryCancelAckUnsigned :=
  (((((Framed.start _).seq
    (configRefInto_binding.comp OwnerRecoveryCancelAckV3.configRef)).seq
    (id32_binding.comp OwnerRecoveryCancelAckV3.requestId)).seq
    (id32_binding.comp OwnerRecoveryCancelAckV3.requestDigest)).seq
    (id32_binding.comp OwnerRecoveryCancelAckV3.cancelCertificateHash)).seq
    (u16_binding.comp OwnerRecoveryCancelAckV3.guardianIndex)
    |>.weaken fun a b h => by
      simp only [Prod.mk.injEq, id_eq] at h
      simp [ownerRecoveryCancelAckUnsigned, h]

/-- The contribution as it is signed. -/
def guardianRecoveryContributionUnsigned (value : GuardianRecoveryContributionV3) :
    GuardianRecoveryContributionV3 :=
  { value with guardianSignature := [] }

theorem guardianRecoveryContributionV3_framed :
    Framed (domain "gp/guardian-recovery-contribution/v3")
      guardianRecoveryContributionV3 guardianRecoveryContributionUnsigned :=
  ((((((((((((Framed.start _).seq
    (configRefInto_binding.comp GuardianRecoveryContributionV3.configRef)).seq
    (id32_binding.comp GuardianRecoveryContributionV3.requestId)).seq
    (id32_binding.comp GuardianRecoveryContributionV3.requestDigest)).seq
    (bytes_binding.comp GuardianRecoveryContributionV3.recoveryRecipientKey)).seq
    (id32_binding.comp GuardianRecoveryContributionV3.nonce)).seq
    (u16_binding.comp GuardianRecoveryContributionV3.guardianIndex)).seq
    (u16_binding.comp GuardianRecoveryContributionV3.fragmentIndex)).seq
    (nonce_binding.comp
      fun v : GuardianRecoveryContributionV3 => v.encryptedCiphertextFragment.nonce)).seq
    (bytes_binding.comp
      fun v : GuardianRecoveryContributionV3 => v.encryptedCiphertextFragment.ciphertext)).seq
    (nonce_binding.comp
      fun v : GuardianRecoveryContributionV3 => v.encryptedDekShare.nonce)).seq
    (bytes_binding.comp
      fun v : GuardianRecoveryContributionV3 => v.encryptedDekShare.ciphertext)).seq
    (bytes_binding.comp GuardianRecoveryContributionV3.merklePathProof)
    |>.guarded _ |>.weaken fun a b h => by
      simp only [Prod.mk.injEq, id_eq] at h
      have hfragment : a.encryptedCiphertextFragment = b.encryptedCiphertextFragment :=
        aead_eq h.1.1.1.1.2 h.1.1.1.2
      have hshare : a.encryptedDekShare = b.encryptedDekShare := aead_eq h.1.1.2 h.1.2
      simp [guardianRecoveryContributionUnsigned, h, hfragment, hshare]

/-! ### Custody -/

theorem u32_binding : SelfDelimiting u32 id :=
  (SelfDelimiting.fixed 4 fun v : UInt32 => v.toNat_lt).weaken fun _ _ h => UInt32.toNat_inj.mp h

theorem custodyChallenge_framed :
    Framed (domain "gp/custody-challenge/v3") custodyChallenge id :=
  ((((((((Framed.start _).seq
    (u16_binding.comp CustodyChallenge.protocolVersion)).seq
    (configRefInto_binding.comp CustodyChallenge.configRef)).seq
    (id32_binding.comp CustodyChallenge.opaqueSlotId)).seq
    (id32_binding.comp CustodyChallenge.challengeId)).seq
    ((u32_binding.counted boundedCount_binding).comp CustodyChallenge.blockIndices)).seq
    (id32_binding.comp CustodyChallenge.nonce)).seq
    (bytes_binding.comp CustodyChallenge.responseRecipientKey)).seq
    (u64_binding.comp CustodyChallenge.expiry)
    |>.guarded _ |>.guarded _ |>.weaken fun a b h => by
      cases a
      cases b
      simpa [and_assoc] using h

theorem blockProofInto_binding : SelfDelimiting blockProofInto id :=
  ((u32_binding.comp CustodyBlockProof.blockIndex).seq
    (bytes_binding.comp CustodyBlockProof.block)).seq
    (bytes_binding.comp CustodyBlockProof.merklePath)
    |>.weaken fun a b h => by
      cases a
      cases b
      simpa [and_assoc] using h

/-- The response as it is signed. -/
def custodyResponseUnsigned (value : CustodyResponse) : CustodyResponse :=
  { value with guardianSignature := [] }

theorem custodyResponse_framed :
    Framed (domain "gp/custody-response/v3") custodyResponse custodyResponseUnsigned :=
  (((((((Framed.start _).seq
    (u16_binding.comp CustodyResponse.protocolVersion)).seq
    (configRefInto_binding.comp CustodyResponse.configRef)).seq
    (id32_binding.comp CustodyResponse.opaqueSlotId)).seq
    (id32_binding.comp CustodyResponse.challengeId)).seq
    (id32_binding.comp CustodyResponse.nonce)).seq
    (u16_binding.comp CustodyResponse.guardianIndex)).seq
    ((blockProofInto_binding.counted boundedCount_binding).comp CustodyResponse.proofs)
    |>.guarded _ |>.guarded _ |>.weaken fun a b h => by
      simp only [Prod.mk.injEq, List.map_id, id_eq] at h
      simp [custodyResponseUnsigned, h]

end MasterRecovery.Wire
