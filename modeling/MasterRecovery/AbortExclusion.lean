import MasterRecovery.SignerVotes

/-!
# Abort and activation votes of one signer

An activation vote is recorded and keeps the signer from voting to abort; an abort vote
is recorded nowhere. Where no rotation is activated after an abort vote, no signer is in
an abort certificate and in an activation certificate of one rotation.
-/

namespace MasterRecovery
open Checks Transcript Wire

variable {crypto : Crypto} {sealing : Sealing} {entry entry' : SignerRotationEntryV3}
  {provision : SignerRotationProvisionV3} {input : SignerInput} {reply : Option SignerEvent}
  {out : List Answer} {inputs : List SignerInput}

/-! ### One signer -/

/-- The request asks to activate a rotation the signer has voted to abort. -/
def SignerInput.ActivatesAborted (out : List Answer) (input : SignerInput) : Prop :=
  ∃ plan ready successor vote, input.request = .inl (.activate plan ready successor) ∧
    Issued out (.rotation (.abortVote vote)) ∧ vote.context.rotationId = plan.context.rotationId

/-- No rotation has both votes. -/
def VotesApart (out : List Answer) : Prop :=
  ∀ vote vote', Issued out (.rotation (.abortVote vote)) →
    Issued out (.rotation (.activateVote vote')) →
    vote.context.rotationId ≠ vote'.context.rotationId

structure AbortLedger (entry : SignerRotationEntryV3) (out : List Answer) : Prop where
  activated : ∀ vote, Issued out (.rotation (.activateVote vote)) →
    vote.context.rotationId ∈ entry.securityState.activateVotes
  apart : VotesApart out

theorem AbortLedger.handled (h : AbortLedger entry out) (hcareful : ¬input.ActivatesAborted out)
    (hstep : SignerHandled crypto sealing entry input entry' reply) :
    AbortLedger entry' (out ++ (reply.map fun event => Answer.mk input event).toList) where
  activated vote hissued := by
    rcases issued_concat hissued with hold | rfl
    · have hmem := h.activated vote hold
      obtain ⟨hash, hhash⟩ := Option.isSome_iff_exists.mp
        (Std.TreeMap.mem_iff_isSome_getElem?.mp hmem)
      have hkept := (signerHandled_extends hstep).activateVotes _ _ hhash
      exact Std.TreeMap.mem_iff_isSome_getElem?.mpr (by simp [hkept])
    · obtain ⟨plan, _, _, unsigned, _, -, rfl, hchecked, hrecorded, -⟩ := handled_activateVote hstep
      rw [hchecked.context]
      exact Std.TreeMap.mem_iff_isSome_getElem?.mpr (by simp [hrecorded])
  apart vote vote' habort hactivate hsame := by
    rcases issued_concat habort with hold | rfl
    · rcases issued_concat hactivate with hold' | rfl
      · exact h.apart vote vote' hold hold' hsame
      · obtain ⟨plan, _, _, unsigned, _, hrequest, rfl, hchecked, -⟩ := handled_activateVote hstep
        rw [hchecked.context] at hsame
        exact hcareful ⟨plan, _, _, vote, hrequest, hold, hsame⟩
    · rcases issued_concat hactivate with hold' | hother
      · exact handled_abortVote hstep (hsame ▸ h.activated vote' hold')
      · cases hother

/-! ### What the signer has signed -/

def SignerEvent.Signs (transcript : Bytes) : SignerEvent → Prop
  | .rotation (.intentContribution contribution) =>
    signerRotationIntentContribution contribution = .ok transcript
  | .rotation (.beginVote vote) => signerRotationBeginVote vote = .ok transcript
  | .rotation (.releaseVote vote) => signerRotationReleaseVote vote = .ok transcript
  | .rotation (.activateVote vote) => signerRotationActivateVote vote = .ok transcript
  | .rotation (.abortVote vote) => signerRotationAbortVote vote = .ok transcript
  | .rotation .abortFinalized => False
  | .rotation .ownerCancelFinalized => False
  | .recovery (.contribution contribution) =>
    signerRecoveryContributionV3 contribution = .ok transcript
  | .recovery (.releaseVote vote) => signerRecoveryReleaseVoteV3 vote = .ok transcript

def signedBySigner (out : List Answer) : Set Bytes :=
  {transcript | ∃ event, Issued out event ∧ event.Signs transcript}

/-- The domain string each signed transcript opens with. -/
theorem SignerEvent.Signs.opens {event : SignerEvent} {transcript : Bytes}
    (h : event.Signs transcript) :
    (∃ vote, event = .rotation (.abortVote vote)) ∨
      (∃ vote, event = .rotation (.activateVote vote)) ∨
      ¬Opens "gp/signer-rotation-abort-vote/v3" transcript ∧
        ¬Opens "gp/signer-rotation-activate-vote/v3" transcript := by
  have hother : ∀ name, Opens name transcript → name ≠ "gp/signer-rotation-abort-vote/v3" →
      name ≠ "gp/signer-rotation-activate-vote/v3" →
      ¬Opens "gp/signer-rotation-abort-vote/v3" transcript ∧
        ¬Opens "gp/signer-rotation-activate-vote/v3" transcript :=
    fun name hopens habort hactivate =>
      ⟨fun h => habort (hopens.unique h), fun h => hactivate (hopens.unique h)⟩
  rcases event with (contribution | vote | vote | vote | vote | - | -) | (contribution | vote)
  · exact Or.inr (Or.inr
      (hother _ (signerRotationIntentContribution_framed.opens h) (by simp) (by simp)))
  · exact Or.inr (Or.inr
      (hother _ (signerRotationBeginVote_framed.opens h) (by simp) (by simp)))
  · exact Or.inr (Or.inr
      (hother _ (signerRotationReleaseVote_framed.opens h) (by simp) (by simp)))
  · exact Or.inr (Or.inl ⟨vote, rfl⟩)
  · exact Or.inl ⟨vote, rfl⟩
  · exact h.elim
  · exact h.elim
  · exact Or.inr (Or.inr
      (hother _ (signerRecoveryContributionV3_framed.opens h) (by simp) (by simp)))
  · exact Or.inr (Or.inr
      (hother _ (signerRecoveryReleaseVoteV3_framed.opens h) (by simp) (by simp)))

theorem abortVote_of_signed {vote : SignerRotationAbortVote} {transcript : Bytes}
    (htr : signerRotationAbortVote vote = .ok transcript) (h : transcript ∈ signedBySigner out) :
    ∃ own, Issued out (.rotation (.abortVote own)) ∧ own.context = vote.context := by
  obtain ⟨event, hissued, hsigns⟩ := h
  have hopens : Opens "gp/signer-rotation-abort-vote/v3" transcript :=
    signerRotationAbortVote_framed.opens htr
  rcases hsigns.opens with ⟨own, rfl⟩ | ⟨own, rfl⟩ | ⟨hnot, -⟩
  · have hsame := signerRotationAbortVote_framed.binds.injective hsigns htr
    exact ⟨own, hissued, congrArg (·.context) hsame⟩
  · exact absurd (hopens.unique (signerRotationActivateVote_framed.opens hsigns)) (by simp)
  · exact absurd hopens hnot

theorem activateVote_of_signed {vote : SignerRotationActivateVote} {transcript : Bytes}
    (htr : signerRotationActivateVote vote = .ok transcript)
    (h : transcript ∈ signedBySigner out) :
    ∃ own, Issued out (.rotation (.activateVote own)) ∧ own.context = vote.context := by
  obtain ⟨event, hissued, hsigns⟩ := h
  have hopens : Opens "gp/signer-rotation-activate-vote/v3" transcript :=
    signerRotationActivateVote_framed.opens htr
  rcases hsigns.opens with ⟨own, rfl⟩ | ⟨own, rfl⟩ | ⟨-, hnot⟩
  · exact absurd (hopens.unique (signerRotationAbortVote_framed.opens hsigns)) (by simp)
  · have hsame := signerRotationActivateVote_framed.binds.injective hsigns htr
    exact ⟨own, hissued, congrArg (·.context) hsame⟩
  · exact absurd hopens hnot

/-! ### Certificates -/

/-- Of the keys and proofs shown, those that verify under the signer's id carry its key. -/
def PinsSigner (crypto : Crypto) (provision : SignerRotationProvisionV3)
    (capsule : ConfigCapsuleV3) (shown : Set (PublicKey × MerkleProofBytes)) : Prop :=
  ∀ key proof, (key, proof) ∈ shown →
    validateSignerMembership crypto provision.signerId key proof capsule = .ok () →
    key = provision.signingPublicKey

/-- What is shown of an honest signer cannot be made up. -/
structure HonestSigner (crypto : Crypto) (provision : SignerRotationProvisionV3)
    (out : List Answer) (presented : Set (Bytes × SignatureBytes))
    (shown : Set (PublicKey × MerkleProofBytes)) (capsule : ConfigCapsuleV3) : Prop where
  unforged : crypto.Unforged provision.signingPublicKey (signedBySigner out) presented
  pinned : PinsSigner crypto provision capsule shown

/-- The abort certificate is accepted, and its votes are among what is shown. -/
structure AbortCertified (crypto : Crypto) (presented : Set (Bytes × SignatureBytes))
    (shown : Set (PublicKey × MerkleProofBytes)) (predecessor : ConfigCapsuleV3)
    (certificate : AbortRotationCertificate) : Prop where
  accepted : ∃ plan now abortHash,
    validateAbortRotationCertificateV3 crypto certificate plan predecessor now = .ok abortHash
  presented : ∀ vote ∈ certificate.votes, ∀ transcript,
    signerRotationAbortVote vote = .ok transcript → (transcript, vote.signerSignature) ∈ presented
  shown : ∀ vote ∈ certificate.votes, (vote.signerPublicKey, vote.signerMembershipProof) ∈ shown

/-- The activation certificate is accepted, and its votes are among what is shown. -/
structure ActivateCertified (crypto : Crypto) (presented : Set (Bytes × SignatureBytes))
    (shown : Set (PublicKey × MerkleProofBytes)) (capsule : ConfigCapsuleV3)
    (certificate : RotationActivateCertificate) : Prop where
  accepted : ∃ activationHash, validateActivateCertificate crypto capsule certificate =
    .ok activationHash
  presented : ∀ vote ∈ certificate.votes, ∀ transcript,
    signerRotationActivateVote vote = .ok transcript →
      (transcript, vote.signerSignature) ∈ presented
  shown : ∀ vote ∈ certificate.votes, (vote.signerPublicKey, vote.signerMembershipProof) ∈ shown

variable {presented : Set (Bytes × SignatureBytes)} {shown : Set (PublicKey × MerkleProofBytes)}
  {capsule predecessor : ConfigCapsuleV3}

/-- An honest signer's vote in an accepted abort certificate is its own. -/
theorem AbortCertified.own {certificate : AbortRotationCertificate}
    (h : AbortCertified crypto presented shown predecessor certificate)
    (hhonest : HonestSigner crypto provision out presented shown predecessor)
    {vote : SignerRotationAbortVote} (hvote : vote ∈ certificate.votes)
    (hid : vote.signerId = provision.signerId) :
    ∃ own, Issued out (.rotation (.abortVote own)) ∧ own.context = certificate.context := by
  obtain ⟨plan, now, abortHash, haccepted⟩ := h.accepted
  obtain ⟨hcontext, hmember, transcript, htr, hverify⟩ :=
    (validateAbortRotationCertificateV3_eq_ok haccepted).votes vote hvote
  have hkey := hhonest.pinned _ _ (h.shown vote hvote) (hid ▸ hmember)
  have hsigned := hhonest.unforged _ _ (h.presented vote hvote transcript htr) (hkey ▸ hverify)
  obtain ⟨own, hissued, hsame⟩ := abortVote_of_signed htr hsigned
  exact ⟨own, hissued, hsame.trans hcontext⟩

/-- An honest signer's vote in an accepted activation certificate is its own. -/
theorem ActivateCertified.own {certificate : RotationActivateCertificate}
    (h : ActivateCertified crypto presented shown capsule certificate)
    (hhonest : HonestSigner crypto provision out presented shown capsule)
    {vote : SignerRotationActivateVote} (hvote : vote ∈ certificate.votes)
    (hid : vote.signerId = provision.signerId) :
    ∃ own, Issued out (.rotation (.activateVote own)) ∧
      own.context.rotationId = certificate.context.rotationId := by
  obtain ⟨activationHash, haccepted⟩ := h.accepted
  have hcertificate := validateActivateCertificate_eq_ok.mp haccepted
  obtain ⟨hmember, transcript, htr, hverify⟩ := hcertificate.votes vote hvote
  have hkey := hhonest.pinned _ _ (h.shown vote hvote) (hid ▸ hmember)
  have hsigned := hhonest.unforged _ _ (h.presented vote hvote transcript htr) (hkey ▸ hverify)
  obtain ⟨own, hissued, hsame⟩ := activateVote_of_signed htr hsigned
  obtain ⟨t, ht, -⟩ := hcertificate.transcript
  obtain ⟨-, -, hrotation⟩ := rotationActivateCertificate_eq_ok ht
  exact ⟨own, hissued,
    (congrArg (·.rotationId) hsame).trans (hrotation vote hvote).1.2.2.1.symm⟩

/-! ### Runs -/

def sampleBeginVote (plan : RotationPlan) (planHash : Id32) (signerId : UInt16) :
    SignerRotationBeginVote :=
  let unsigned : SignerRotationBeginVote := {
    context := plan.context
    intentHash := plan.intentHash
    planHash := planHash
    oldRosterCommitment := plan.oldRosterCommitment
    newRosterCommitment := plan.newRosterCommitment
    signerId := signerId
    signerPublicKey := Crypto.transparent.verifyingKeyBytes (sampleSignerSeed signerId)
    signerMembershipProof := sampleMembershipProof
    signerSignature := [] }
  { unsigned with
    signerSignature := signOf (sampleSignerSeed signerId) (signerRotationBeginVote unsigned) }

def sampleBeginCertificate (plan : RotationPlan) (planHash : Id32) : BeginRotationCertificate where
  context := plan.context
  intentHash := plan.intentHash
  planHash := planHash
  oldRosterCommitment := plan.oldRosterCommitment
  newRosterCommitment := plan.newRosterCommitment
  notBeforeWall := 15
  votes := [1, 2].map (sampleBeginVote plan planHash)

/-- A successor with other ciphertext fragments than its predecessor's. -/
def sampleRefragmented : ConfigCapsuleV3 :=
  { sampleSuccessor sampleGenesis 11 2131723753 with
    guardianMaterialRoot := 33
    ciphertextFragmentRoot := 34 }

def samplePreparedAck (plan : RotationPlan) (planHash : Id32) (index : UInt16) :
    NewGuardianPreparedAck :=
  let unsigned : NewGuardianPreparedAck := {
    context := plan.context
    planHash := planHash
    dpssResultCommitment := 20
    guardianMaterialRoot := 33
    newGuardianIndex := index
    preparedRecordLeaf := ⟨index, index, 1, 2, 3, 4⟩
    durableWriteGeneration := 1
    guardianSignature := [] }
  { unsigned with
    guardianSignature := signOf (sampleGuardianSeed index) (newGuardianPreparedAck unsigned) }

def sampleHandoffAck (plan : RotationPlan) (planHash : Id32) (index : UInt16) :
    OldGuardianHandoffAck :=
  let unsigned : OldGuardianHandoffAck := {
    context := plan.context
    planHash := planHash
    dpssResultCommitment := 20
    qualifiedSetCommitment := plan.dpssQualifiedSetCommitment
    oldGuardianIndex := index
    guardianSignature := [] }
  { unsigned with
    guardianSignature := signOf (sampleGuardianSeed index) (oldGuardianHandoffAck unsigned) }

def sampleReady (plan : RotationPlan) (planHash : Id32) : RotationReadyCertificate where
  context := plan.context
  planHash := planHash
  successor := plan.successor
  dpssResultCommitment := 20
  guardianMaterialRoot := 33
  encryptedDescriptorHash := 372377655
  preparedAcks := [1, 2, 4].map (samplePreparedAck plan planHash)
  oldHandoffAcks := [1, 2].map (sampleHandoffAck plan planHash)

/-- The rotation of an abort or activation vote, and the successor it activates. -/
def endingVote (answer : Answer) : Option (Id32 × Option Id32) :=
  match answer.event with
  | .rotation (.abortVote vote) => some (vote.context.rotationId, none)
  | .rotation (.activateVote vote) =>
    some (vote.context.rotationId, some vote.successorCapsuleHash)
  | _ => none

theorem activateVote_of_ending {answer : Answer} {rotationId successorHash : Id32}
    (h : endingVote answer = some (rotationId, some successorHash)) :
    ∃ vote, answer.event = .rotation (.activateVote vote) ∧
      vote.context.rotationId = rotationId ∧ vote.successorCapsuleHash = successorHash := by
  unfold endingVote at h
  split at h
  · cases h
  · cases h
    exact ⟨_, by assumption, rfl, rfl⟩
  · cases h

end MasterRecovery
