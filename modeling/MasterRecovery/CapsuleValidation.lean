import MasterRecovery.CardQuorum

/-!
# What the capsule validators accept

`validate_activated_capsule_v3` and the validators it calls, read as conditions
on the card, the capsule, its certificate and its QC.
-/

namespace MasterRecovery
open Checks Transcript Wire

variable {crypto : Crypto} {card : RecoveryCardV3} {capsule : ConfigCapsuleV3}

theorem succeeds_signerLeaf (signerId : UInt16) (publicKey : PublicKey) :
    Succeeds (signerLeaf signerId publicKey) :=
  ((succeeds_domain _ (by decide)).append (succeeds_u16 _)).append (succeeds_id32 _)

/-! ### Activate certificates -/

theorem validateSignerMembership_eq_ok {signerId : UInt16} {publicKey : PublicKey}
    {proof : MerkleProofBytes} {u : Unit} :
    validateSignerMembership crypto signerId publicKey proof capsule = .ok u ↔
      (signerId ≠ 0 ∧ signerId ≤ capsule.signerCount) ∧
        ∃ leaf, signerLeaf signerId publicKey = .ok leaf ∧
          crypto.merkleProofVerifies proof capsule.signerSetCommitment (signerId.toNat - 1)
            (crypto.sha256 leaf) capsule.signerCount.toNat = true := by
  simp only [validateSignerMembership, bind_eq_ok, exists_const, bailIf_eq_ok, wire_eq_ok,
    crypt_eq_ok, Crypto.merkleVerify_eq_ok, not_or, ne_eq, UInt16.not_lt]

/-- A vote the client counts. -/
structure VoteAccepted (crypto : Crypto) (capsule : ConfigCapsuleV3)
    (vote : SignerRotationActivateVote) : Prop where
  member : validateSignerMembership crypto vote.signerId vote.signerPublicKey
    vote.signerMembershipProof capsule = .ok ()
  signature : ∃ transcript, signerRotationActivateVote vote = .ok transcript ∧
    crypto.signatureVerifies vote.signerPublicKey transcript vote.signerSignature = true

/-- What `validate_activate_certificate` accepts. -/
structure CertificateAccepted (crypto : Crypto) (capsule : ConfigCapsuleV3)
    (certificate : RotationActivateCertificate) (activationHash : Id32) : Prop where
  successor : certificate.successor = capsule.configRef
  successorHash : certificate.successorCapsuleHash = capsule.capsuleHash
  config : certificate.context.configRef.configId = capsule.configRef.configId
  generation :
    certificate.context.configRef.payloadGeneration = capsule.configRef.payloadGeneration
  authorization :
    certificate.context.configRef.authorizationEpoch = capsule.configRef.authorizationEpoch
  epoch : saturatingAdd certificate.context.configRef.guardianEpoch 1 =
    capsule.configRef.guardianEpoch
  predecessor : certificate.context.predecessorCapsuleHash = capsule.predecessorCapsuleHash
  transcript : ∃ transcript, rotationActivateCertificate certificate = .ok transcript ∧
    crypto.sha256 transcript = activationHash
  votes : ∀ vote ∈ certificate.votes, VoteAccepted crypto capsule vote
  threshold : capsule.signerThreshold.toNat ≤ certificate.votes.length

theorem validateActivateCertificate_eq_ok {certificate : RotationActivateCertificate}
    {activationHash : Id32} :
    validateActivateCertificate crypto capsule certificate = .ok activationHash ↔
      CertificateAccepted crypto capsule certificate activationHash := by
  simp only [validateActivateCertificate, bind_eq_ok, exists_const, bailIf_eq_ok, wire_eq_ok,
    crypt_eq_ok, scanDistinct_eq_ok, Crypto.merkleVerify_eq_ok, Crypto.verify_eq_ok, not_or,
    not_not, not_lt, ne_eq, UInt16.not_lt, Except.ok.injEq, true_and]
  constructor
  · rintro ⟨⟨hs, hsh, hc, hg, ha, he, hp⟩, transcript, htr, ids, ⟨hvotes, hnodup, rfl⟩, hth, rfl⟩
    rw [List.toFinset_card_of_nodup hnodup, List.length_map] at hth
    refine ⟨hs, hsh, hc, hg, ha, he, hp, ⟨transcript, htr, rfl⟩, fun vote hvote => ?_, hth⟩
    obtain ⟨hrange, leaf, hleaf, hproof, hsignature⟩ := hvotes vote hvote
    exact ⟨validateSignerMembership_eq_ok.mpr ⟨hrange, leaf, hleaf, hproof⟩, hsignature⟩
  · rintro ⟨hs, hsh, hc, hg, ha, he, hp, ⟨transcript, htr, rfl⟩, hvotes, hth⟩
    have hnodup := (rotationActivateCertificate_eq_ok htr).2.1
    refine ⟨⟨hs, hsh, hc, hg, ha, he, hp⟩, transcript, htr, _, ⟨fun vote hvote => ?_, hnodup, rfl⟩,
      by rwa [List.toFinset_card_of_nodup hnodup, List.length_map], rfl⟩
    obtain ⟨hmember, hsignature⟩ := hvotes vote hvote
    obtain ⟨hrange, leaf, hleaf, hproof⟩ := validateSignerMembership_eq_ok.mp hmember
    exact ⟨hrange, leaf, hleaf, hproof, hsignature⟩

/-! ### Activation QCs -/

/-- What a transcript of a QC has checked. -/
theorem epochActivationQc_eq_ok {qc : EpochActivationQc} (h : Succeeds (epochActivationQc qc)) :
    qc.protocolVersion = protocolVersionV3 ∧
      qc.successorEpoch = saturatingAdd qc.predecessorEpoch 1 ∧
      (qc.witnessAcks.map (·.witnessId)).Nodup ∧
      ∀ ack ∈ qc.witnessAcks, ack.context.configRef.configId = qc.configId ∧
        ack.context.rotationId = qc.rotationId ∧
        ack.predecessorEpoch = qc.predecessorEpoch ∧
        ack.predecessorCapsuleHash = qc.predecessorCapsuleHash ∧
        ack.successorEpoch = qc.successorEpoch ∧
        ack.successorCapsuleHash = qc.successorCapsuleHash ∧
        ack.activationCertificateHash = qc.activationCertificateHash := by
  obtain ⟨x, hx⟩ := h
  simp only [epochActivationQc, bind_unit_eq_ok, bailIf_eq_ok, uniqueIds_eq_ok, not_or, not_not,
    ne_eq, not_exists, not_and] at hx
  obtain ⟨⟨hversion, hepoch, -⟩, ⟨-, hnodup⟩, -, hacks, -⟩ := hx
  refine ⟨hversion, hepoch, hnodup, fun ack hack => ?_⟩
  obtain ⟨-, hrest⟩ := hacks ack hack
  exact hrest

/-- What the client accepts of a successor's QC. -/
structure QcAccepted (crypto : Crypto) (card : RecoveryCardV3) (capsule : ConfigCapsuleV3)
    (certificate : RotationActivateCertificate) (activationHash : Id32)
    (qc : EpochActivationQc) : Prop where
  transcript : Succeeds (epochActivationQc qc)
  config : qc.configId = card.configId
  rotation : qc.rotationId = certificate.context.rotationId
  predecessorEpoch : qc.predecessorEpoch = certificate.context.configRef.guardianEpoch
  predecessor : qc.predecessorCapsuleHash = capsule.predecessorCapsuleHash
  successorEpoch : qc.successorEpoch = capsule.configRef.guardianEpoch
  successor : qc.successorCapsuleHash = capsule.capsuleHash
  certificateHash : qc.activationCertificateHash = activationHash
  faultBound : qc.witnessFaultBound = card.witnessFaultBound
  acks : ∀ ack ∈ qc.witnessAcks, ∃ pin ∈ card.witnesses, pin.witnessId = ack.witnessId ∧
    ack.witnessPublicKey = pin.publicKey ∧
    ∃ transcript, witnessActivationAck ack = .ok transcript ∧
      crypto.signatureVerifies pin.publicKey transcript ack.witnessSignature = true
  quorum : requiredWitnessQuorum card.witnessFaultBound ≤ qc.witnessAcks.length

/-- The capsule carries the card's identity and hashes to its own hash. -/
structure BodyAccepted (crypto : Crypto) (card : RecoveryCardV3) (capsule : ConfigCapsuleV3) :
    Prop where
  config : capsule.configRef.configId = card.configId
  signerSetCommitment : capsule.signerSetCommitment = card.signerSetCommitment
  ownerCancelPublicKey : capsule.ownerCancelPublicKey = card.ownerCancelPublicKey
  body : ∃ body, configCapsuleBodyV3 capsule = .ok body ∧ crypto.sha256 body = capsule.capsuleHash

theorem configCapsuleBodyV3_version {body : Bytes} (h : configCapsuleBodyV3 capsule = .ok body) :
    capsule.protocolVersion = protocolVersionV3 := by
  simp only [configCapsuleBodyV3, bind_unit_eq_ok, bailIf_eq_ok, not_or, not_not, ne_eq] at h
  exact h.1.1

/-- Either branch of `validate_activated_capsule_v3`. -/
theorem validateActivatedCapsuleV3_eq_ok :
    validateActivatedCapsuleV3 crypto card capsule = .ok () ↔
      CardAccepted card ∧ BodyAccepted crypto card capsule ∧
        (capsule.configRef.guardianEpoch = 1 ∧ capsule.predecessorCapsuleHash = 0 ∧
            capsule.activationCertificate = none ∧ capsule.activationQc = none ∨
          capsule.configRef.guardianEpoch ≠ 1 ∧
            ∃ certificate activationHash qc, capsule.activationCertificate = some certificate ∧
              capsule.activationQc = some qc ∧
              CertificateAccepted crypto capsule certificate activationHash ∧
              QcAccepted crypto card capsule certificate activationHash qc) := by
  simp only [validateActivatedCapsuleV3, bind_eq_ok, exists_const, validateRecoveryCardV3_eq_ok,
    wire_eq_ok, bailIf_eq_ok, not_or, not_not, ne_eq]
  constructor
  · rintro ⟨hcard, body, hbody, ⟨hversion, hconfig, hset, howner, hhash⟩, h⟩
    refine ⟨hcard, ⟨hconfig, hset, howner, body, hbody, hhash.symm⟩, ?_⟩
    split at h
    next hgenesis =>
      simp only [bailIf_eq_ok, not_or, not_not, Bool.not_eq_true,
        Option.isSome_eq_false_iff, Option.isNone_iff_eq_none] at h
      exact Or.inl ⟨hgenesis, h⟩
    next hsuccessor =>
      simp only [bind_eq_ok, exists_const, okOr_eq_ok, wire_eq_ok, bailIf_eq_ok, crypt_eq_ok,
        scanDistinct_eq_ok, pure_eq_ok, Crypto.verify_eq_ok, validateActivateCertificate_eq_ok,
        hcard.witnessPins_eq_some, not_or, not_not, not_lt] at h
      obtain ⟨certificate, hcertificate, activationHash, haccepted, qc, hqc, transcript, htr,
        ⟨-, hqconfig, hrotation, hpredEpoch, hpred, hsuccEpoch, hsucc, hcertHash, hfault⟩,
        ids, ⟨hacks, hnodup, rfl⟩, hquorum⟩ := h
      rw [List.toFinset_card_of_nodup hnodup, List.length_map] at hquorum
      refine Or.inr ⟨hsuccessor, certificate, activationHash, qc, hcertificate, hqc, haccepted,
        ⟨⟨transcript, htr⟩, hqconfig, hrotation, hpredEpoch, hpred, hsuccEpoch, hsucc, hcertHash,
          hfault, fun ack hack => ?_, hquorum⟩⟩
      obtain ⟨-, pin, ⟨hpin, hid⟩, ⟨hkey, -⟩, hsignature⟩ := hacks ack hack
      exact ⟨pin, hpin, hid, hkey, hsignature⟩
  · rintro ⟨hcard, ⟨hconfig, hset, howner, body, hbody, hhash⟩, h⟩
    refine ⟨hcard, body, hbody,
      ⟨configCapsuleBodyV3_version hbody, hconfig, hset, howner, hhash.symm⟩, ?_⟩
    rcases h with ⟨hgenesis, hpred, hcertificate, hqc⟩ |
      ⟨hsuccessor, certificate, activationHash, qc, hcertificate, hqc, haccepted, hqcAccepted⟩
    · simp [hgenesis, hpred, hcertificate, hqc]
    · obtain ⟨hversion, -, hnodup, hbound⟩ := epochActivationQc_eq_ok hqcAccepted.transcript
      obtain ⟨transcript, htr⟩ := hqcAccepted.transcript
      rw [if_neg hsuccessor]
      simp only [bind_eq_ok, exists_const, okOr_eq_ok, wire_eq_ok, bailIf_eq_ok, crypt_eq_ok,
        scanDistinct_eq_ok, pure_eq_ok, Crypto.verify_eq_ok, validateActivateCertificate_eq_ok,
        hcard.witnessPins_eq_some, not_or, not_not, not_lt]
      refine ⟨certificate, hcertificate, activationHash, haccepted, qc, hqc, transcript, htr,
        ⟨hversion, hqcAccepted.config, hqcAccepted.rotation, hqcAccepted.predecessorEpoch,
          hqcAccepted.predecessor, hqcAccepted.successorEpoch, hqcAccepted.successor,
          hqcAccepted.certificateHash, hqcAccepted.faultBound⟩,
        _, ⟨fun ack hack => ?_, hnodup, rfl⟩, ?_⟩
      · obtain ⟨pin, hpin, hid, hkey, hsignature⟩ := hqcAccepted.acks ack hack
        obtain ⟨-, -, -, -, -, -, hcertHash⟩ := hbound ack hack
        exact ⟨⟨pin, ⟨hpin, hid⟩, trivial⟩, pin, ⟨hpin, hid⟩,
          ⟨hkey, hcertHash.trans hqcAccepted.certificateHash⟩, hsignature⟩
      · rw [List.toFinset_card_of_nodup hnodup, List.length_map]
        exact hqcAccepted.quorum

/-! ### Owner cancellation -/

/-- What the veto of a witness quorum has checked. -/
structure VetoAccepted (crypto : Crypto) (card : RecoveryCardV3)
    (certificate : OwnerRotationCancelCertificate) (witnessAcks : List WitnessRotationCancelAck)
    (plan : RotationPlan) : Prop where
  context : certificate.context = plan.context
  planHash : ∃ transcript, rotationPlan plan = .ok transcript ∧
    crypto.sha256 transcript = certificate.planHash
  acks : ∀ ack ∈ witnessAcks, ack.rotationId = plan.context.rotationId ∧
    ack.planHash = certificate.planHash ∧
    ∃ pin ∈ card.witnesses, pin.witnessId = ack.witnessId ∧
      ∃ transcript, witnessRotationCancelAck ack = .ok transcript ∧
        crypto.signatureVerifies pin.publicKey transcript ack.witnessSignature = true
  distinct : (witnessAcks.map (·.witnessId)).Nodup
  quorum : requiredWitnessQuorum card.witnessFaultBound ≤ witnessAcks.length

theorem validateRotationPlanV3_eq_ok {plan : RotationPlan} {now : UInt64} {planHash : Id32}
    (h : validateRotationPlanV3 crypto plan capsule now = .ok planHash) :
    ∃ transcript, rotationPlan plan = .ok transcript ∧ crypto.sha256 transcript = planHash := by
  simp only [validateRotationPlanV3, bind_eq_ok, exists_const, bailIf_eq_ok, wire_eq_ok,
    Except.ok.injEq] at h
  obtain ⟨transcript, htr, -, -, -, -, -, -, hhash⟩ := h
  exact ⟨transcript, htr, hhash⟩

theorem validateOwnerRotationCancelWitnessQuorumV3_eq_ok
    {certificate : OwnerRotationCancelCertificate} {witnessAcks : List WitnessRotationCancelAck}
    {plan : RotationPlan} {now : UInt64} {cancelHash : Id32}
    (h : validateOwnerRotationCancelWitnessQuorumV3 crypto certificate witnessAcks card plan capsule
      now = .ok cancelHash) : VetoAccepted crypto card certificate witnessAcks plan := by
  simp only [validateOwnerRotationCancelWitnessQuorumV3, bind_eq_ok, exists_const, okOr_eq_ok,
    validateRecoveryCardV3_eq_ok, bailIf_eq_ok, wire_eq_ok, crypt_eq_ok, scanDistinct_eq_ok,
    Crypto.verify_eq_ok, not_or, not_not, not_lt, ne_eq] at h
  obtain ⟨hcard, planHash, hplan, ⟨-, -, hcontext, hhash, -, -⟩, transcript, -, -, ids,
    ⟨hacks, hdistinct, rfl⟩, hquorum, -⟩ := h
  rw [List.toFinset_card_of_nodup hdistinct, List.length_map] at hquorum
  refine ⟨hcontext, hhash ▸ validateRotationPlanV3_eq_ok hplan, fun ack hack => ?_, hdistinct,
    hquorum⟩
  obtain ⟨⟨-, -, -, -, hrotation, hack', -⟩, pin, hpin, t, ht, hverify⟩ := hacks ack hack
  obtain ⟨hmem, hid⟩ := hcard.witnessPins_eq_some.mp hpin
  exact ⟨hrotation, hack'.trans hhash.symm, pin, hmem, hid, t, ht, hverify⟩

end MasterRecovery
