import MasterRecovery.RotationCertificates
import MasterRecovery.SignerWireBinding
import MasterRecovery.CapsuleValidation

/-!
# What the plan and certificate validators accept
-/

namespace MasterRecovery
open Checks Transcript Wire

variable {crypto : Crypto} {plan : RotationPlan} {predecessor : ConfigCapsuleV3} {now : UInt64}

/-! ### Plans -/

/-- The hash of the plan's transcript. -/
def HasHash (crypto : Crypto) (plan : RotationPlan) (planHash : Id32) : Prop :=
  ∃ transcript, rotationPlan plan = .ok transcript ∧ crypto.sha256 transcript = planHash

theorem HasHash.functional {hash hash' : Id32} (h : HasHash crypto plan hash)
    (h' : HasHash crypto plan hash') : hash = hash' := by
  obtain ⟨t, ht, rfl⟩ := h
  obtain ⟨t', ht', rfl⟩ := h'
  cases ht.symm.trans ht'
  rfl

def planTranscripts (plans : Set RotationPlan) : Set Bytes :=
  {transcript | ∃ plan ∈ plans, rotationPlan plan = .ok transcript}

/-- Where hashes do not collide, a hash names one plan. -/
theorem HasHash.unique {plans : Set RotationPlan}
    (hfree : crypto.CollisionFree (planTranscripts plans)) {other : RotationPlan} {hash : Id32}
    (hplan : plan ∈ plans) (hother : other ∈ plans) (h : HasHash crypto plan hash)
    (h' : HasHash crypto other hash) : plan = other := by
  obtain ⟨t, ht, hhash⟩ := h
  obtain ⟨t', ht', hhash'⟩ := h'
  have hsame : t = t' := hfree ⟨plan, hplan, ht⟩ ⟨other, hother, ht'⟩ (hhash.trans hhash'.symm)
  subst hsame
  exact rotationPlan_framed.binds.injective ht ht'

/-- What `validate_rotation_plan_v3` accepts. -/
structure PlanValid (crypto : Crypto) (plan : RotationPlan) (predecessor : ConfigCapsuleV3)
    (now : UInt64) (planHash : Id32) : Prop where
  hash : HasHash crypto plan planHash
  version : plan.context.protocolVersion = protocolVersionV3
  configRef : plan.context.configRef = predecessor.configRef
  predecessorHash : plan.context.predecessorCapsuleHash = predecessor.capsuleHash
  predecessorRef : plan.predecessor = predecessor.configRef
  direct : plan.successor.IsDirectSuccessorOf plan.predecessor
  issued : plan.context.issuedAt ≤ now
  unexpired : now < plan.context.expiry
  preparation : plan.context.issuedAt < plan.preparationDeadline
  drain : plan.preparationDeadline < plan.drainDeadline
  delay : predecessor.minimumRecoveryDelay ≤ plan.minimumDelaySecs
  oldThreshold : plan.oldGuardianThreshold = predecessor.guardianThreshold
  dataShards : plan.dataShards = predecessor.guardianThreshold
  totalShards : plan.totalShards = predecessor.guardianCount
  oldRoster : plan.oldRoster.length = predecessor.guardianCount.toNat
  newRoster : plan.newRoster.length = plan.totalShards.toNat
  newThreshold : 2 ≤ plan.newGuardianThreshold ∧
    plan.newGuardianThreshold.toNat ≤ plan.newRoster.length
  oldCommitment : ∃ roster, guardianRosterV3 plan.oldRoster = .ok roster ∧
    crypto.sha256 roster = plan.oldRosterCommitment
  newCommitment : ∃ roster, guardianRosterV3 plan.newRoster = .ok roster ∧
    crypto.sha256 roster = plan.newRosterCommitment

theorem validateRotationPlanV3_iff {planHash : Id32} :
    validateRotationPlanV3 crypto plan predecessor now = .ok planHash ↔
      PlanValid crypto plan predecessor now planHash := by
  simp only [validateRotationPlanV3, bind_eq_ok, exists_const, bailIf_eq_ok, wire_eq_ok,
    Except.ok.injEq, not_or, not_not, not_lt, ne_eq, UInt64.not_lt, UInt64.not_le, UInt16.not_lt]
  constructor
  · rintro ⟨t, ht, ⟨h1, h2, h3, h4, h5, h6, h7, h8, h9, h10, h11, h12, h13, h14, h15, h16, h17⟩,
      old, hold, new, hnew, ⟨hold', hnew'⟩, hhash⟩
    exact ⟨⟨t, ht, hhash⟩, h1, h2, h3, h4, h5, h6, h7, h8, h9, h10, h11, h12, h13, h14, h15,
      ⟨h16, h17⟩, ⟨old, hold, hold'⟩, ⟨new, hnew, hnew'⟩⟩
  · rintro ⟨⟨t, ht, hhash⟩, h1, h2, h3, h4, h5, h6, h7, h8, h9, h10, h11, h12, h13, h14, h15,
      ⟨h16, h17⟩, ⟨old, hold, hold'⟩, ⟨new, hnew, hnew'⟩⟩
    exact ⟨t, ht, ⟨h1, h2, h3, h4, h5, h6, h7, h8, h9, h10, h11, h12, h13, h14, h15, h16, h17⟩,
      old, hold, new, hnew, ⟨hold', hnew'⟩, hhash⟩

theorem PlanValid.functional {now' : UInt64} {predecessor' : ConfigCapsuleV3} {hash hash' : Id32}
    (h : PlanValid crypto plan predecessor now hash)
    (h' : PlanValid crypto plan predecessor' now' hash') : hash = hash' :=
  h.hash.functional h'.hash

/-- What `validate_rotation_plan_against_intent_v3` has checked of the intent. -/
theorem validateRotationPlanAgainstIntentV3_eq_ok {intent : RotationIntent} {planHash : Id32}
    (h : validateRotationPlanAgainstIntentV3 crypto plan intent predecessor now = .ok planHash) :
    PlanValid crypto plan predecessor now planHash ∧ plan.context = intent.context ∧
      ∃ transcript, rotationIntent intent = .ok transcript ∧
        plan.intentHash = crypto.sha256 transcript := by
  simp only [validateRotationPlanAgainstIntentV3, bind_eq_ok, exists_const,
    validateRotationPlanV3_iff, bailIf_eq_ok, wire_eq_ok, Except.ok.injEq, not_or, not_not,
    ne_eq] at h
  obtain ⟨hash, hvalid, transcript, htr, ⟨hcontext, hintent, -⟩, -, -, -, -, -, rfl⟩ := h
  exact ⟨hvalid, hcontext, transcript, htr, hintent⟩

/-! ### Certificates -/

theorem validateBeginRotationCertificateV3_valid {certificate : BeginRotationCertificate}
    {beginHash : Id32}
    (h : validateBeginRotationCertificateV3 crypto certificate plan predecessor now =
      .ok beginHash) : ∃ planHash, PlanValid crypto plan predecessor now planHash := by
  simp only [validateBeginRotationCertificateV3, bind_eq_ok, validateRotationPlanV3_iff] at h
  obtain ⟨planHash, hvalid, -⟩ := h
  exact ⟨planHash, hvalid⟩

/-- An earlier clock accepts the certificate too. -/
theorem validateBeginRotationCertificateV3_earlier {certificate : BeginRotationCertificate}
    {now' : UInt64} {beginHash : Id32}
    (h : validateBeginRotationCertificateV3 crypto certificate plan predecessor now =
      .ok beginHash) (hle : now' ≤ now) (hissued : plan.context.issuedAt ≤ now') :
    validateBeginRotationCertificateV3 crypto certificate plan predecessor now' =
      .ok beginHash := by
  simp only [validateBeginRotationCertificateV3, bind_eq_ok, validateRotationPlanV3_iff] at h ⊢
  obtain ⟨planHash, hvalid, transcript, ht, u, hbind, hrest⟩ := h
  have hvalid' : PlanValid crypto plan predecessor now' planHash :=
    { hvalid with
      issued := hissued
      unexpired := UInt64.lt_of_le_of_lt hle hvalid.unexpired }
  refine ⟨planHash, hvalid', transcript, ht, u, ?_, hrest⟩
  simp only [bailIf_eq_ok, not_or, UInt64.not_le] at hbind ⊢
  obtain ⟨hcontext, hintent, hplan, hold, hnew, hdeadline, hdelay⟩ := hbind
  exact ⟨hcontext, hintent, hplan, hold, hnew, UInt64.lt_of_le_of_lt hle hdeadline, hdelay⟩

/-- What `validate_abort_rotation_certificate_v3` accepts. -/
structure AbortAccepted (crypto : Crypto) (certificate : AbortRotationCertificate)
    (plan : RotationPlan) (predecessor : ConfigCapsuleV3) (now : UInt64) : Prop where
  valid : PlanValid crypto plan predecessor now certificate.planHash
  context : certificate.context = plan.context
  votes : ∀ vote ∈ certificate.votes, vote.context = certificate.context ∧
    validateSignerMembership crypto vote.signerId vote.signerPublicKey vote.signerMembershipProof
      predecessor = .ok () ∧
    ∃ transcript, signerRotationAbortVote vote = .ok transcript ∧
      crypto.signatureVerifies vote.signerPublicKey transcript vote.signerSignature = true
  threshold : predecessor.signerThreshold.toNat ≤ certificate.votes.length

theorem validateAbortRotationCertificateV3_eq_ok {certificate : AbortRotationCertificate}
    {abortHash : Id32}
    (h : validateAbortRotationCertificateV3 crypto certificate plan predecessor now =
      .ok abortHash) : AbortAccepted crypto certificate plan predecessor now := by
  simp only [validateAbortRotationCertificateV3, bind_eq_ok, exists_const,
    validateRotationPlanV3_iff, wire_eq_ok, bailIf_eq_ok, scanDistinct_eq_ok, crypt_eq_ok,
    Crypto.verify_eq_ok, not_or, not_not, not_lt, ne_eq] at h
  obtain ⟨planHash, hvalid, t, -, ⟨hcontext, rfl, -⟩, ids, ⟨hvotes, hdistinct, rfl⟩, hth, -⟩ := h
  rw [List.toFinset_card_of_nodup hdistinct, List.length_map] at hth
  refine ⟨hvalid, hcontext, fun vote hvote => ?_, hth⟩
  obtain ⟨⟨hsame, -⟩, _, hmember, hsignature⟩ := hvotes vote hvote
  exact ⟨hsame, hmember, hsignature⟩

theorem validateOwnerRotationCancelWitnessQuorumV3_valid {card : RecoveryCardV3}
    {certificate : OwnerRotationCancelCertificate} {witnessAcks : List WitnessRotationCancelAck}
    {cancelHash : Id32}
    (h : validateOwnerRotationCancelWitnessQuorumV3 crypto certificate witnessAcks card plan
      predecessor now = .ok cancelHash) :
    PlanValid crypto plan predecessor now certificate.planHash := by
  simp only [validateOwnerRotationCancelWitnessQuorumV3, bind_eq_ok, exists_const,
    validateRotationPlanV3_iff, bailIf_eq_ok, not_or, not_not, ne_eq] at h
  obtain ⟨_, -, planHash, hvalid, ⟨-, -, -, hhash, -, -⟩, -⟩ := h
  exact hhash ▸ hvalid

/-- What `validate_rotation_ready_certificate_v3` has checked of the plan. -/
theorem validateRotationReadyCertificateV3_eq_ok {ready : RotationReadyCertificate}
    {readyHash : Id32}
    (h : validateRotationReadyCertificateV3 crypto ready plan predecessor now = .ok readyHash) :
    PlanValid crypto plan predecessor now ready.planHash ∧ ready.context = plan.context := by
  simp only [validateRotationReadyCertificateV3, bind_eq_ok, exists_const,
    validateRotationPlanV3_iff, wire_eq_ok, bailIf_eq_ok, not_or, not_not, ne_eq] at h
  obtain ⟨planHash, hvalid, -, -, ⟨hcontext, hhash, -⟩, -⟩ := h
  exact ⟨hhash ▸ hvalid, hcontext⟩

/-! ### Recovery requests -/

/-- What `validate_recovery_request_for_ref_v3` accepts. -/
structure RecoveryRequestValid (crypto : Crypto) (request : RecoveryRequestV3)
    (capsule : ConfigCapsuleV3) (expected : ConfigRef) (now : UInt64) (digest : Id32) : Prop where
  version : request.protocolVersion = protocolVersionV3
  configRef : request.configRef = expected
  config : request.configRef.configId = capsule.configRef.configId
  generation : request.configRef.payloadGeneration = capsule.configRef.payloadGeneration
  authorization : request.configRef.authorizationEpoch = capsule.configRef.authorizationEpoch
  recipient : request.recoveryRecipientKey.length = xwingPublicKeyLen
  requested : request.requestedAt ≤ now
  unexpired : now < request.expiry
  lifetime : request.expiry ≤ saturatingAdd request.requestedAt capsule.maxRequestLifetime
  digest : ∃ transcript, Wire.recoveryRequestDigestV3 request = .ok transcript ∧
    crypto.sha256 transcript = digest

theorem validateRecoveryRequestForRefV3_iff {request : RecoveryRequestV3}
    {capsule : ConfigCapsuleV3} {expected : ConfigRef} {digest : Id32} :
    validateRecoveryRequestForRefV3 crypto request capsule expected now = .ok digest ↔
      RecoveryRequestValid crypto request capsule expected now digest := by
  simp only [validateRecoveryRequestForRefV3, recoveryRequestDigestV3,
    bind_eq_ok, exists_const, bailIf_eq_ok, wire_eq_ok, Except.ok.injEq, not_or, not_not, ne_eq,
    UInt64.not_lt, UInt64.not_le]
  constructor
  · rintro ⟨⟨h1, h2, h3, h4, h5, h6, h7, h8, h9⟩, hdigest⟩
    exact ⟨h1, h2, h3, h4, h5, h6, h7, h8, h9, hdigest⟩
  · rintro ⟨h1, h2, h3, h4, h5, h6, h7, h8, h9, hdigest⟩
    exact ⟨⟨h1, h2, h3, h4, h5, h6, h7, h8, h9⟩, hdigest⟩

end MasterRecovery
