import MasterRecovery.CertificateValidation
import MasterRecovery.GuardianCertificates
import MasterRecovery.GuardianWireBinding
import MasterRecovery.VetoExclusion
import MasterRecovery.Lib.Keyed

/-!
# What stands behind a threshold certificate

A certificate is checked in two places: its transcript compares the votes with what it states, and
its validator checks the voters and their signatures. An accepted certificate has a signer threshold
that signed what it states, each signer once; an accepted Ready certificate has every successor
guardian and a threshold of the predecessors.
-/

namespace MasterRecovery
open Checks Transcript Wire

variable {crypto : Crypto} {capsule : ConfigCapsuleV3} {plan : RotationPlan} {now : UInt64}

/-! ### Votes of one kind -/

/-- The key is proved to stand at the signer's own index of the capsule's signer set. -/
structure ProvenSigner (crypto : Crypto) (capsule : ConfigCapsuleV3) (signerId : UInt16)
    (publicKey : PublicKey) : Prop where
  range : 1 ≤ signerId ∧ signerId ≤ capsule.signerCount
  member : ∃ proof leaf, signerLeaf signerId publicKey = .ok leaf ∧
    crypto.merkleProofVerifies proof capsule.signerSetCommitment (signerId.toNat - 1)
      (crypto.sha256 leaf) capsule.signerCount.toNat = true

/-- How the votes of one kind are read. A vote without its signature is determined by what its
signer signs, and names the same signer. -/
structure VoteKind (α : Type) where
  signerId : α → UInt16
  signerPublicKey : α → PublicKey
  signerMembershipProof : α → MerkleProofBytes
  signerSignature : α → SignatureBytes
  transcript : α → Put
  unsigned : α → α
  binding : SelfDelimiting transcript unsigned
  signer : ∀ vote, signerId (unsigned vote) = signerId vote

namespace VoteKind

variable {α : Type} (kind : VoteKind α)

/-- A vote a validator counts. -/
def Counted (crypto : Crypto) (capsule : ConfigCapsuleV3) (vote : α) : Prop :=
  validateSignerMembership crypto (kind.signerId vote) (kind.signerPublicKey vote)
      (kind.signerMembershipProof vote) capsule = .ok () ∧
    ∃ transcript, kind.transcript vote = .ok transcript ∧
      crypto.signatureVerifies (kind.signerPublicKey vote) transcript
        (kind.signerSignature vote) = true

/-- At least a threshold of distinct signers of the capsule, each with a signature that verifies
under its proved key over bytes that no vote has but one of this signer that says so. -/
def ThresholdSigned (crypto : Crypto) (capsule : ConfigCapsuleV3) (Says : α → Prop) : Prop :=
  ∃ ids : Finset UInt16, capsule.signerThreshold.toNat ≤ ids.card ∧
    ∀ id ∈ ids, ∃ publicKey transcript signature, ProvenSigner crypto capsule id publicKey ∧
      crypto.signatureVerifies publicKey transcript signature = true ∧
      Binds kind.transcript (fun vote => kind.signerId vote = id ∧ Says vote) transcript

variable {kind} {votes : List α} {Says : α → Prop}

theorem Counted.proven {vote : α} (h : kind.Counted crypto capsule vote) :
    ProvenSigner crypto capsule (kind.signerId vote) (kind.signerPublicKey vote) := by
  obtain ⟨⟨hzero, hcount⟩, leaf, hleaf, hproof⟩ := validateSignerMembership_eq_ok.mp h.1
  exact ⟨⟨UInt16.pos_iff_ne_zero.mpr hzero, hcount⟩, _, leaf, hleaf, hproof⟩

/-- Counted votes of a threshold of signers that say the same. -/
theorem thresholdSigned (hunsigned : ∀ vote, Says (kind.unsigned vote) ↔ Says vote)
    (hthreshold : capsule.signerThreshold.toNat ≤ (votes.map kind.signerId).toFinset.card)
    (hcounted : ∀ vote ∈ votes, kind.Counted crypto capsule vote)
    (hstated : ∀ vote ∈ votes, Says vote) :
    kind.ThresholdSigned crypto capsule Says := by
  refine ⟨_, hthreshold, fun id hid => ?_⟩
  obtain ⟨vote, hvote, rfl⟩ := List.mem_map.mp (List.mem_toFinset.mp hid)
  obtain ⟨transcript, htr, hsignature⟩ := (hcounted vote hvote).2
  refine ⟨_, transcript, _, (hcounted vote hvote).proven, hsignature,
    kind.binding.bindsTo (fun other => ?_) htr ⟨rfl, hstated vote hvote⟩⟩
  rw [kind.signer, hunsigned]

end VoteKind

/-! ### The six kinds of vote -/

def recoveryContributions : VoteKind SignerRecoveryContributionV3 where
  signerId := (·.signerId)
  signerPublicKey := (·.signerPublicKey)
  signerMembershipProof := (·.signerMembershipProof)
  signerSignature := (·.signerSignature)
  transcript := signerRecoveryContributionV3
  unsigned := recoveryContributionUnsigned
  binding := signerRecoveryContributionV3_framed.binds
  signer _ := rfl

def recoveryReleaseVotes : VoteKind SignerRecoveryReleaseVoteV3 where
  signerId := (·.signerId)
  signerPublicKey := (·.signerPublicKey)
  signerMembershipProof := (·.signerMembershipProof)
  signerSignature := (·.signerSignature)
  transcript := signerRecoveryReleaseVoteV3
  unsigned := recoveryReleaseVoteUnsigned
  binding := signerRecoveryReleaseVoteV3_framed.binds
  signer _ := rfl

def beginVotes : VoteKind SignerRotationBeginVote where
  signerId := (·.signerId)
  signerPublicKey := (·.signerPublicKey)
  signerMembershipProof := (·.signerMembershipProof)
  signerSignature := (·.signerSignature)
  transcript := signerRotationBeginVote
  unsigned := beginVoteUnsigned
  binding := signerRotationBeginVote_framed.binds
  signer _ := rfl

def releaseVotes : VoteKind SignerRotationReleaseVote where
  signerId := (·.signerId)
  signerPublicKey := (·.signerPublicKey)
  signerMembershipProof := (·.signerMembershipProof)
  signerSignature := (·.signerSignature)
  transcript := signerRotationReleaseVote
  unsigned := releaseVoteUnsigned
  binding := signerRotationReleaseVote_framed.binds
  signer _ := rfl

def abortVotes : VoteKind SignerRotationAbortVote where
  signerId := (·.signerId)
  signerPublicKey := (·.signerPublicKey)
  signerMembershipProof := (·.signerMembershipProof)
  signerSignature := (·.signerSignature)
  transcript := signerRotationAbortVote
  unsigned := abortVoteUnsigned
  binding := signerRotationAbortVote_framed.binds
  signer _ := rfl

def activateVotes : VoteKind SignerRotationActivateVote where
  signerId := (·.signerId)
  signerPublicKey := (·.signerPublicKey)
  signerMembershipProof := (·.signerMembershipProof)
  signerSignature := (·.signerSignature)
  transcript := signerRotationActivateVote
  unsigned := voteUnsigned
  binding := signerRotationActivateVote_framed.binds
  signer _ := rfl

/-! ### Signer certificates -/

theorem recoveryQuorum_thresholdSigned {α : Type} (kind : VoteKind α)
    {request : α → RecoveryRequestV3} {mismatch missing : String} {expected : RecoveryRequestV3}
    {items : List α} {u : Unit}
    (hunsigned : ∀ item, request (kind.unsigned item) = request item)
    (h : recoveryQuorum crypto kind.signerId request kind.signerPublicKey
      kind.signerMembershipProof kind.signerSignature kind.transcript mismatch missing expected
      capsule items = .ok u) :
    kind.ThresholdSigned crypto capsule fun vote => request vote = expected := by
  simp only [recoveryQuorum, bind_eq_ok, scanDistinct_eq_ok, bailIf_eq_ok,
    wire_eq_ok, crypt_eq_ok, Crypto.verify_eq_ok, not_not, not_lt, ne_eq] at h
  obtain ⟨_, ⟨hitems, -, rfl⟩, hthreshold⟩ := h
  refine VoteKind.thresholdSigned (fun item => by rw [hunsigned]) hthreshold (fun item hitem => ?_)
    fun item hitem => (hitems item hitem).1
  obtain ⟨-, _, hmember, hsignature⟩ := hitems item hitem
  exact ⟨hmember, hsignature⟩

theorem beginRecovery_thresholdSigned {certificate : BeginRecoveryCertificateV3} {digest : Id32}
    (h : validateBeginRecoveryCertificateV3 crypto certificate capsule now = .ok digest) :
    recoveryContributions.ThresholdSigned crypto capsule
      fun contribution => contribution.request = certificate.request := by
  simp only [validateBeginRecoveryCertificateV3, bind_eq_ok] at h
  obtain ⟨_, -, _, -, _, -, _, hquorum, -⟩ := h
  exact recoveryQuorum_thresholdSigned recoveryContributions
    (fun _ => rfl) hquorum

theorem recoveryRelease_thresholdSigned {certificate : RecoveryReleaseCertificateV3}
    {expected : ConfigRef} {digest : Id32}
    (h : validateRecoveryReleaseCertificateForRefV3 crypto certificate capsule expected now =
      .ok digest) :
    recoveryReleaseVotes.ThresholdSigned crypto capsule
      fun vote => vote.request = certificate.request := by
  simp only [validateRecoveryReleaseCertificateForRefV3, bind_eq_ok] at h
  obtain ⟨_, -, _, -, _, -, _, hquorum, -⟩ := h
  exact recoveryQuorum_thresholdSigned recoveryReleaseVotes
    (fun _ => rfl) hquorum

/-- The plan hash of each vote is compared by the certificate's transcript. -/
theorem beginRotationCertificate_votes {certificate : BeginRotationCertificate} {x : Bytes}
    (h : beginRotationCertificate certificate = .ok x) :
    ∀ vote ∈ certificate.votes, vote.planHash = certificate.planHash := by
  simp only [beginRotationCertificate, bind_unit_eq_ok, bailIf_eq_ok, not_exists, not_and, not_or,
    not_not, ne_eq] at h
  intro vote hvote
  exact (h.2.1 vote hvote).2.2.1

theorem rotationReleaseCertificate_votes {certificate : RotationReleaseCertificate} {x : Bytes}
    (h : rotationReleaseCertificate certificate = .ok x) :
    ∀ vote ∈ certificate.votes, vote.planHash = certificate.planHash := by
  simp only [rotationReleaseCertificate, bind_unit_eq_ok, bailIf_eq_ok, not_exists, not_and,
    not_or, not_not, ne_eq] at h
  intro vote hvote
  exact (h.2.1 vote hvote).2.1

theorem beginRotation_thresholdSigned {certificate : BeginRotationCertificate} {hash : Id32}
    (h : validateBeginRotationCertificateV3 crypto certificate plan capsule now = .ok hash) :
    ∃ planHash, HasHash crypto plan planHash ∧
      beginVotes.ThresholdSigned crypto capsule fun vote => vote.planHash = planHash := by
  simp only [validateBeginRotationCertificateV3, bind_eq_ok, exists_const, scanDistinct_eq_ok,
    validateRotationPlanV3_iff, bailIf_eq_ok, wire_eq_ok, crypt_eq_ok, Crypto.verify_eq_ok, not_or,
    not_not, not_lt, ne_eq] at h
  obtain ⟨planHash, hvalid, _, htr, ⟨-, -, rfl, -⟩, _, ⟨hvotes, -, rfl⟩, hthreshold, -⟩ := h
  refine ⟨certificate.planHash, hvalid.hash, VoteKind.thresholdSigned
    (fun _ => Iff.rfl) hthreshold (fun vote hvote => ?_) fun vote hvote => ?_⟩
  · obtain ⟨-, _, hmember, hsignature⟩ := hvotes vote hvote
    exact ⟨hmember, hsignature⟩
  · exact beginRotationCertificate_votes htr vote hvote

theorem rotationRelease_thresholdSigned {release : RotationReleaseCertificate}
    {begun : BeginRotationCertificate} {hash : Id32}
    (h : validateRotationReleaseCertificateV3 crypto release begun plan capsule now = .ok hash) :
    ∃ planHash, HasHash crypto plan planHash ∧
      releaseVotes.ThresholdSigned crypto capsule fun vote => vote.planHash = planHash := by
  simp only [validateRotationReleaseCertificateV3, hashPlan, bind_eq_ok, exists_const,
    scanDistinct_eq_ok, bailIf_eq_ok, wire_eq_ok, crypt_eq_ok, Crypto.verify_eq_ok, not_or,
    not_not, not_lt, ne_eq, Except.ok.injEq] at h
  obtain ⟨_, -, _, htr, planHash, ⟨planTranscript, hplan, rfl⟩, ⟨-, hhash, -⟩, _,
    ⟨hvotes, -, rfl⟩, hthreshold, -⟩ := h
  refine ⟨_, ⟨planTranscript, hplan, rfl⟩, VoteKind.thresholdSigned
    (fun _ => Iff.rfl) hthreshold (fun vote hvote => ?_) fun vote hvote => ?_⟩
  · obtain ⟨-, _, hmember, hsignature⟩ := hvotes vote hvote
    exact ⟨hmember, hsignature⟩
  · exact (rotationReleaseCertificate_votes htr vote hvote).trans hhash

theorem abortRotation_thresholdSigned {certificate : AbortRotationCertificate} {hash : Id32}
    (h : validateAbortRotationCertificateV3 crypto certificate plan capsule now = .ok hash) :
    ∃ planHash, HasHash crypto plan planHash ∧
      abortVotes.ThresholdSigned crypto capsule fun vote => vote.planHash = planHash := by
  simp only [validateAbortRotationCertificateV3, bind_eq_ok, exists_const, scanDistinct_eq_ok,
    validateRotationPlanV3_iff, bailIf_eq_ok, wire_eq_ok, crypt_eq_ok, Crypto.verify_eq_ok, not_or,
    not_not, not_lt, ne_eq] at h
  obtain ⟨planHash, hvalid, _, -, ⟨-, rfl, -⟩, _, ⟨hvotes, -, rfl⟩, hthreshold, -⟩ := h
  refine ⟨certificate.planHash, hvalid.hash, VoteKind.thresholdSigned
    (fun _ => Iff.rfl) hthreshold (fun vote hvote => ?_) fun vote hvote => ?_⟩
  · obtain ⟨-, _, hmember, hsignature⟩ := hvotes vote hvote
    exact ⟨hmember, hsignature⟩
  · obtain ⟨⟨-, hplanHash, -⟩, -⟩ := hvotes vote hvote
    exact hplanHash

theorem activate_thresholdSigned {certificate : RotationActivateCertificate} {hash : Id32}
    (h : validateActivateCertificate crypto capsule certificate = .ok hash) :
    activateVotes.ThresholdSigned crypto capsule fun vote =>
      vote.planHash = certificate.planHash ∧ vote.successorCapsuleHash = capsule.capsuleHash := by
  have haccepted := validateActivateCertificate_eq_ok.mp h
  obtain ⟨_, htr, -⟩ := haccepted.transcript
  obtain ⟨-, hdistinct, hbound⟩ := rotationActivateCertificate_eq_ok htr
  have hthreshold : capsule.signerThreshold.toNat ≤
      (certificate.votes.map (·.signerId)).toFinset.card := by
    rw [List.toFinset_card_of_nodup hdistinct, List.length_map]
    exact haccepted.threshold
  refine VoteKind.thresholdSigned (fun _ => Iff.rfl) hthreshold (fun vote hvote => ?_)
    fun vote hvote => ?_
  · obtain ⟨hmember, hsignature⟩ := haccepted.votes vote hvote
    exact ⟨hmember, hsignature⟩
  · obtain ⟨-, hplanHash, -, hsuccessor⟩ := hbound vote hvote
    exact ⟨hplanHash, hsuccessor.trans haccepted.successorHash⟩

/-! ### Ready certificates -/

theorem rotationPlan_rosters {x : Bytes} (h : rotationPlan plan = .ok x) :
    (plan.oldRoster.map (·.guardianIndex)).Nodup ∧ (plan.newRoster.map (·.guardianIndex)).Nodup := by
  simp only [rotationPlan, bind_unit_eq_ok, uniqueIds_eq_ok] at h
  exact ⟨h.2.1.2, h.2.2.1.2⟩

theorem guardianKeys_eq_some {roster : List GuardianRouteV3} {index : UInt16} {key : PublicKey}
    (hdistinct : (roster.map (·.guardianIndex)).Nodup) (h : (guardianKeys roster)[index]? = some key) :
    ∃ route ∈ roster, route.guardianIndex = index ∧ route.guardianPublicKey = key := by
  have hmem : index ∈ guardianKeys roster := by
    rw [Std.TreeMap.mem_iff_isSome_getElem?, h]
    rfl
  obtain ⟨route, hroute, rfl⟩ := (Keyed.mem_iff GuardianRouteV3.guardianPublicKey).mp hmem
  have hkey := Keyed.getElem?_of_mem hdistinct GuardianRouteV3.guardianPublicKey hroute
  exact ⟨route, hroute, rfl, Option.some.inj (hkey.symm.trans h)⟩

/-- What the acknowledgement of a successor guardian commits it to. -/
def PreparedFor (ready : RotationReadyCertificate) (index : UInt16) (ack : NewGuardianPreparedAck) :
    Prop :=
  ack.newGuardianIndex = index ∧ ack.planHash = ready.planHash ∧
    ack.dpssResultCommitment = ready.dpssResultCommitment ∧
    ack.guardianMaterialRoot = ready.guardianMaterialRoot

/-- What the acknowledgement of a predecessor guardian commits it to. -/
def HandedOffFor (ready : RotationReadyCertificate) (index : UInt16) (ack : OldGuardianHandoffAck) :
    Prop :=
  ack.oldGuardianIndex = index ∧ ack.planHash = ready.planHash ∧
    ack.dpssResultCommitment = ready.dpssResultCommitment

/-- The guardian of the roster with this index signed bytes that bind what it commits to. -/
def SignedByGuardian {α : Type} (crypto : Crypto) (roster : List GuardianRouteV3) (index : UInt16)
    (enc : α → Put) (Says : α → Prop) (signature : SignatureBytes) : Prop :=
  ∃ route ∈ roster, route.guardianIndex = index ∧ ∃ transcript, Binds enc Says transcript ∧
    crypto.signatureVerifies route.guardianPublicKey transcript signature = true

/-- One verified acknowledgement of every successor, and of a threshold of the predecessors. -/
structure ReadyCertified (crypto : Crypto) (plan : RotationPlan) (ready : RotationReadyCertificate) :
    Prop where
  planHash : HasHash crypto plan ready.planHash
  once : (ready.preparedAcks.map (·.newGuardianIndex)).Nodup
  every : (ready.preparedAcks.map (·.newGuardianIndex)).Perm (plan.newRoster.map (·.guardianIndex))
  prepared : ∀ ack ∈ ready.preparedAcks, SignedByGuardian crypto plan.newRoster
    ack.newGuardianIndex newGuardianPreparedAck (PreparedFor ready ack.newGuardianIndex)
    ack.guardianSignature
  handedOff : ∃ ids : Finset UInt16, plan.oldGuardianThreshold.toNat ≤ ids.card ∧
    ∀ id ∈ ids, ∃ ack ∈ ready.oldHandoffAcks, ack.oldGuardianIndex = id ∧
      SignedByGuardian crypto plan.oldRoster id oldGuardianHandoffAck (HandedOffFor ready id)
        ack.guardianSignature

theorem rotationReadyCertificate_acks {ready : RotationReadyCertificate} {x : Bytes}
    (h : rotationReadyCertificate ready = .ok x) :
    (ready.preparedAcks.map (·.newGuardianIndex)).Nodup ∧
      (ready.oldHandoffAcks.map (·.oldGuardianIndex)).Nodup ∧
      (∀ ack ∈ ready.preparedAcks, PreparedFor ready ack.newGuardianIndex ack) ∧
      ∀ ack ∈ ready.oldHandoffAcks, HandedOffFor ready ack.oldGuardianIndex ack := by
  simp only [rotationReadyCertificate, bind_unit_eq_ok, uniqueIds_eq_ok, bailIf_eq_ok, not_or,
    not_exists, not_and, not_not, ne_eq] at h
  obtain ⟨⟨-, honce⟩, ⟨-, honce'⟩, ⟨hprepared, hhandoff⟩, -⟩ := h
  refine ⟨honce, honce', fun ack hack => ?_, fun ack hack => ?_⟩
  · obtain ⟨-, hplan, hdpss, hroot, -⟩ := hprepared ack hack
    exact ⟨rfl, hplan, hdpss, hroot⟩
  · obtain ⟨-, hplan, hdpss⟩ := hhandoff ack hack
    exact ⟨rfl, hplan, hdpss⟩

theorem ready_certified {ready : RotationReadyCertificate} {hash : Id32}
    (h : validateRotationReadyCertificateV3 crypto ready plan capsule now = .ok hash) :
    ReadyCertified crypto plan ready := by
  simp only [validateRotationReadyCertificateV3, bind_eq_ok, exists_const, each_eq_ok,
    validateRotationPlanV3_iff, bailIf_eq_ok, wire_eq_ok, crypt_eq_ok, okOr_eq_ok,
    Crypto.verify_eq_ok, not_or, not_not, not_lt, ne_eq] at h
  obtain ⟨planHash, hvalid, _, htr, ⟨-, rfl, -, -, hcount, hthreshold⟩, hprepared, hhandoff, -⟩ := h
  obtain ⟨_, hplan, -⟩ := hvalid.hash
  obtain ⟨hold, hnew⟩ := rotationPlan_rosters hplan
  obtain ⟨honce, honce', hfor, hfor'⟩ := rotationReadyCertificate_acks htr
  have hsigned : ∀ ack ∈ ready.preparedAcks, SignedByGuardian crypto plan.newRoster
      ack.newGuardianIndex newGuardianPreparedAck (PreparedFor ready ack.newGuardianIndex)
      ack.guardianSignature := by
    intro ack hack
    obtain ⟨key, hkey, transcript, hwritten, hverify⟩ := hprepared ack hack
    obtain ⟨route, hroute, hindex, rfl⟩ := guardianKeys_eq_some hnew hkey
    exact ⟨route, hroute, hindex, transcript, newGuardianPreparedAck_framed.binds.bindsTo
      (fun _ => Iff.rfl) hwritten (hfor ack hack), hverify⟩
  have hsigned' : ∀ ack ∈ ready.oldHandoffAcks, SignedByGuardian crypto plan.oldRoster
      ack.oldGuardianIndex oldGuardianHandoffAck (HandedOffFor ready ack.oldGuardianIndex)
      ack.guardianSignature := by
    intro ack hack
    obtain ⟨key, hkey, transcript, hwritten, hverify⟩ := hhandoff ack hack
    obtain ⟨route, hroute, hindex, rfl⟩ := guardianKeys_eq_some hold hkey
    exact ⟨route, hroute, hindex, transcript, oldGuardianHandoffAck_framed.binds.bindsTo
      (fun _ => Iff.rfl) hwritten (hfor' ack hack), hverify⟩
  -- distinct indices of the roster, as many as the roster has
  have hsub : ready.preparedAcks.map (·.newGuardianIndex) ⊆ plan.newRoster.map (·.guardianIndex) := by
    intro index hindex
    obtain ⟨ack, hack, rfl⟩ := List.mem_map.mp hindex
    obtain ⟨route, hroute, hsame, -⟩ := hsigned ack hack
    exact List.mem_map.mpr ⟨route, hroute, hsame⟩
  refine ⟨hvalid.hash, honce, (List.subperm_of_subset honce hsub).perm_of_length_le ?_, hsigned,
    (ready.oldHandoffAcks.map (·.oldGuardianIndex)).toFinset, ?_, fun id hid => ?_⟩
  · rw [List.length_map, List.length_map, hcount]
  · rw [List.toFinset_card_of_nodup honce', List.length_map]
    exact hthreshold
  · obtain ⟨ack, hack, rfl⟩ := List.mem_map.mp (List.mem_toFinset.mp hid)
    exact ⟨ack, hack, rfl, hsigned' ack hack⟩

/-! ### Every certificate -/

/-- An accepted certificate has the signers it needs behind exactly what it states. -/
theorem threshold_certificates_uninflated (crypto : Crypto) (capsule : ConfigCapsuleV3)
    (now : UInt64) :
    (∀ certificate digest,
      validateBeginRecoveryCertificateV3 crypto certificate capsule now = .ok digest →
        recoveryContributions.ThresholdSigned crypto capsule
          fun contribution => contribution.request = certificate.request) ∧
    (∀ certificate expected digest,
      validateRecoveryReleaseCertificateForRefV3 crypto certificate capsule expected now =
          .ok digest →
        recoveryReleaseVotes.ThresholdSigned crypto capsule
          fun vote => vote.request = certificate.request) ∧
    (∀ certificate plan hash,
      validateBeginRotationCertificateV3 crypto certificate plan capsule now = .ok hash →
        ∃ planHash, HasHash crypto plan planHash ∧
          beginVotes.ThresholdSigned crypto capsule fun vote => vote.planHash = planHash) ∧
    (∀ release begun plan hash,
      validateRotationReleaseCertificateV3 crypto release begun plan capsule now = .ok hash →
        ∃ planHash, HasHash crypto plan planHash ∧
          releaseVotes.ThresholdSigned crypto capsule fun vote => vote.planHash = planHash) ∧
    (∀ certificate plan hash,
      validateAbortRotationCertificateV3 crypto certificate plan capsule now = .ok hash →
        ∃ planHash, HasHash crypto plan planHash ∧
          abortVotes.ThresholdSigned crypto capsule fun vote => vote.planHash = planHash) ∧
    (∀ certificate hash, validateActivateCertificate crypto capsule certificate = .ok hash →
      activateVotes.ThresholdSigned crypto capsule fun vote =>
        vote.planHash = certificate.planHash ∧
          vote.successorCapsuleHash = capsule.capsuleHash) ∧
    ∀ ready plan hash,
      validateRotationReadyCertificateV3 crypto ready plan capsule now = .ok hash →
        ReadyCertified crypto plan ready :=
  ⟨fun _ _ => beginRecovery_thresholdSigned, fun _ _ _ => recoveryRelease_thresholdSigned,
    fun _ _ _ => beginRotation_thresholdSigned, fun _ _ _ _ => rotationRelease_thresholdSigned,
    fun _ _ _ => abortRotation_thresholdSigned, fun _ _ => activate_thresholdSigned,
    fun _ _ _ => ready_certified⟩

/-- The guardians of the small plan, prepared under this root. -/
def sampleGathered (guardianMaterialRoot : Id32) : RotationReadyCertificate where
  context := samplePlan.context
  planHash := samplePlanHash
  successor := samplePlan.successor
  dpssResultCommitment := 20
  guardianMaterialRoot := guardianMaterialRoot
  encryptedDescriptorHash := 21
  preparedAcks := [1, 2, 3].map fun index =>
    let unsigned : NewGuardianPreparedAck := {
      context := samplePlan.context
      planHash := samplePlanHash
      dpssResultCommitment := 20
      guardianMaterialRoot := guardianMaterialRoot
      newGuardianIndex := index
      preparedRecordLeaf := ⟨index, index, 1, 2, 3, 4⟩
      durableWriteGeneration := 1
      guardianSignature := [] }
    { unsigned with guardianSignature := signOf 80 (newGuardianPreparedAck unsigned) }
  oldHandoffAcks := [1, 2].map fun index =>
    let unsigned : OldGuardianHandoffAck := {
      context := samplePlan.context
      planHash := samplePlanHash
      dpssResultCommitment := 20
      qualifiedSetCommitment := 85
      oldGuardianIndex := index
      guardianSignature := [] }
    { unsigned with guardianSignature := signOf 80 (oldGuardianHandoffAck unsigned) }

theorem sampleGathered_accepted {guardianMaterialRoot : Id32}
    (h : guardianMaterialRoot ∈ [33, 35]) :
    ∃ hash, validateRotationReadyCertificateV3 Crypto.transparent
      (sampleGathered guardianMaterialRoot) samplePlan sampleGenesis 10 = .ok hash := by
  have hall : ([33, 35] : List Id32).all (fun root =>
      (validateRotationReadyCertificateV3 Crypto.transparent (sampleGathered root) samplePlan
        sampleGenesis 10).toOption.isSome) = true := by
    decide +kernel
  exact isSome_toOption.mp (List.all_eq_true.mp hall guardianMaterialRoot h)

theorem threshold_certificates_uninflated_sample :
    ReadyCertified Crypto.transparent samplePlan (sampleGathered 33) := by
  obtain ⟨hash, hready⟩ := sampleGathered_accepted (List.mem_cons_self (a := 33))
  obtain ⟨-, -, -, -, -, -, hcertified⟩ :=
    threshold_certificates_uninflated Crypto.transparent sampleGenesis 10
  exact hcertified _ _ hash hready

/-- The acknowledgements of the predecessors stand in accepted certificates of two material roots. -/
theorem handoff_acks_bind_no_root :
    (∃ hash, validateRotationReadyCertificateV3 Crypto.transparent (sampleGathered 33) samplePlan
      sampleGenesis 10 = .ok hash) ∧
    (∃ hash, validateRotationReadyCertificateV3 Crypto.transparent (sampleGathered 35) samplePlan
      sampleGenesis 10 = .ok hash) ∧
    (sampleGathered 33).oldHandoffAcks = (sampleGathered 35).oldHandoffAcks ∧
    (sampleGathered 33).oldHandoffAcks ≠ [] ∧
    (sampleGathered 33).guardianMaterialRoot ≠ (sampleGathered 35).guardianMaterialRoot :=
  ⟨sampleGathered_accepted (by simp), sampleGathered_accepted (by simp), rfl, by simp [sampleGathered],
    by simp [sampleGathered]⟩

end MasterRecovery
