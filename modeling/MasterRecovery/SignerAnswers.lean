import MasterRecovery.PayloadRecovery
import MasterRecovery.SignerVotes
import MasterRecovery.ThresholdCertificates

/-!
# What signers answer a recovery (gp-network/src/client.rs, gp-network/src/recovery_runtime.rs)

The client takes the first answers that reach the threshold as they come and validates the
certificate made of them. Answers of the signers' own servers make certificates that validate, and
the shares in them give the authorization key.
-/

namespace MasterRecovery
open Checks Transcript Wire Gather Mapped

variable {crypto : Crypto} {vault : Vault} {libs : ClientLibs} {network : RecoveryNetwork}
  {run : RecoveryRun} {card : ClientCardV3} {capsule : ConfigCapsuleV3} {sealing : Sealing}
  {provision : SignerRotationProvisionV3} {request : RecoveryRequestV3} {now : UInt64}

/-! ### Votes made by a signer's server -/

namespace VoteKind

variable {α : Type} {kind : VoteKind α} {vote : α}

structure MadeBy (kind : VoteKind α) (crypto : Crypto) (provision : SignerRotationProvisionV3)
    (vote : α) : Prop where
  signerId : kind.signerId vote = provision.signerId
  signerPublicKey : kind.signerPublicKey vote = provision.signingPublicKey
  signerMembershipProof : kind.signerMembershipProof vote = provision.membershipProof
  signature : ∃ transcript, kind.transcript vote = .ok transcript ∧
    kind.signerSignature vote = crypto.sign provision.signingSeed transcript

/-- A signer of the capsule, with the key of its seed. -/
structure SignerOf (crypto : Crypto) (capsule : ConfigCapsuleV3)
    (provision : SignerRotationProvisionV3) : Prop where
  key : provision.signingPublicKey = crypto.verifyingKeyBytes provision.signingSeed
  member : validateSignerMembership crypto provision.signerId provision.signingPublicKey
    provision.membershipProof capsule = .ok ()

/-- A vote of a signer of the capsule counts. -/
theorem MadeBy.counted (hsignatures : crypto.SignatureCorrect)
    (hsigner : SignerOf crypto capsule provision) (h : kind.MadeBy crypto provision vote) :
    kind.Counted crypto capsule vote := by
  obtain ⟨transcript, htranscript, hsignature⟩ := h.signature
  refine ⟨?_, transcript, htranscript, ?_⟩
  · rw [h.signerId, h.signerPublicKey, h.signerMembershipProof]
    exact hsigner.member
  · rw [h.signerPublicKey, hsignature, hsigner.key]
    exact hsignatures _ _

end VoteKind

/-- Counted votes of distinct signers that reach the threshold are a quorum. -/
theorem recoveryQuorum_eq_ok {α : Type} (kind : VoteKind α) {requestOf : α → RecoveryRequestV3}
    (mismatch missing : String) {items : List α}
    (hrequest : ∀ item ∈ items, requestOf item = request)
    (hcounted : ∀ item ∈ items, kind.Counted crypto capsule item)
    (hdistinct : (items.map kind.signerId).Nodup)
    (henough : capsule.signerThreshold.toNat ≤ items.length) :
    recoveryQuorum crypto kind.signerId requestOf kind.signerPublicKey kind.signerMembershipProof
      kind.signerSignature kind.transcript mismatch missing request capsule items = .ok () := by
  simp only [recoveryQuorum, bind_eq_ok, scanDistinct_eq_ok, bailIf_eq_ok, wire_eq_ok, crypt_eq_ok,
    Crypto.verify_eq_ok, not_not, not_lt, ne_eq]
  refine ⟨_, ⟨fun item hitem => ?_, hdistinct, rfl⟩, ?_⟩
  · obtain ⟨hmember, hsignature⟩ := hcounted item hitem
    exact ⟨hrequest item hitem, (), hmember, hsignature⟩
  · rw [List.toFinset_card_of_nodup hdistinct, List.length_map]
    exact henough

/-! ### What a signer's server answers -/

/-- The signer's server makes this answer, from an entry that is still the provisioned signer's,
whatever it was asked before. -/
def SignerServes (crypto : Crypto) (sealing : Sealing) (provision : SignerRotationProvisionV3)
    (request : SignerRecoveryRequestV3) (response : SignerRecoveryResponseV3) : Prop :=
  ∃ entry random now, SameSigner provision entry ∧
    (handleSignerRecoveryV3 crypto sealing random now request entry).1 = .ok response

/-- A contribution carries the signer's share, for the recipient of the request. -/
structure Contributed (crypto : Crypto) (sealing : Sealing) (provision : SignerRotationProvisionV3)
    (request : RecoveryRequestV3) (contribution : SignerRecoveryContributionV3) : Prop where
  made : recoveryContributions.MadeBy crypto provision contribution
  sameRequest : contribution.request = request
  share : ∃ (random : Randomness) (context : Bytes),
    recoveryAuthorizationShareContextV3 request provision.signerId =
      .ok context ∧
    sealing.sealToRecipient request.recoveryRecipientKey random.id random.nonce
      provision.authorizationShare context = .ok contribution.encryptedAuthorizationShare

theorem SignerServes.contributed {challenge : EpochReadChallenge}
    {reads : List WitnessReadEnvelope} {response : SignerRecoveryResponseV3}
    (h : SignerServes crypto sealing provision (.approve request challenge reads) response) :
    ∃ contribution, response = .contribution contribution ∧
      Contributed crypto sealing provision request contribution := by
  obtain ⟨entry, random, now, hsame, hresponse⟩ := h
  rw [handleSignerRecoveryV3, signerApprove] at hresponse
  split at hresponse
  · cases hresponse
  next active digest _ =>
    split at hresponse
    · cases hresponse
    · rw [hsame] at hresponse
      simp only [recoveryContribution, bind_eq_ok, wire_eq_ok, crypt_eq_ok, signed_eq_ok] at hresponse
      obtain ⟨context, hcontext, share, hshare, transcript, htranscript, rfl⟩ := hresponse
      exact ⟨_, rfl, ⟨rfl, rfl, rfl, transcript, htranscript, rfl⟩, rfl, random, context, hcontext,
        hshare⟩

/-- A release vote of the signer, with the digest of the request. -/
structure VotedRelease (crypto : Crypto) (provision : SignerRotationProvisionV3)
    (request : RecoveryRequestV3) (vote : SignerRecoveryReleaseVoteV3) : Prop where
  made : recoveryReleaseVotes.MadeBy crypto provision vote
  sameRequest : vote.request = request
  digest : recoveryRequestDigestV3 crypto request = .ok vote.requestDigest

theorem SignerServes.voted {response : SignerRecoveryResponseV3}
    (h : SignerServes crypto sealing provision (.release request) response) :
    ∃ vote, response = .releaseVote vote ∧ VotedRelease crypto provision request vote := by
  obtain ⟨entry, random, now, hsame, hresponse⟩ := h
  have hrelease : signerRecoveryRelease crypto entry request now = .ok response := hresponse
  simp only [signerRecoveryRelease, validateRecoveryRequestV3, bind_eq_ok, bailIf_eq_ok,
    exists_const, signed_eq_ok] at hrelease
  obtain ⟨digest, hvalid, -, transcript, htranscript, rfl⟩ := hrelease
  obtain ⟨digestTranscript, hdigest, rfl⟩ := (validateRecoveryRequestForRefV3_iff.mp hvalid).digest
  refine ⟨_, rfl, ⟨?_, ?_, ?_, transcript, htranscript, ?_⟩, rfl, ?_⟩
  · exact congrArg (·.signerId) hsame
  · exact congrArg (·.signingPublicKey) hsame
  · exact congrArg (·.membershipProof) hsame
  · exact congrArg (fun seed => crypto.sign seed transcript) hsame.signingSeed
  · simp only [recoveryRequestDigestV3, bind_eq_ok, wire_eq_ok, Except.ok.injEq]
    exact ⟨digestTranscript, hdigest, rfl⟩

/-! ### The answers that are kept -/

/-- What reaches the client from a signer is what its server answers. -/
def SignersServe (crypto : Crypto) (sealing : Sealing) (network : RecoveryNetwork)
    (provisions : List SignerRotationProvision) : Prop :=
  ∀ (place : ℕ) (request : SignerRecoveryRequestV3) (response : SignerRecoveryResponseV3)
    (provision : SignerRotationProvision), provisions[place]? = some provision →
      network.signer place request = some response →
        SignerServes crypto sealing provision.provision request response

/-- Enough signers answer. -/
def SignersAnswer (network : RecoveryNetwork) (card : ClientCardV3) (wanted : UInt16)
    (asked : SignerRecoveryRequestV3) : Prop :=
  wanted.toNat ≤ (List.range card.signerMailboxes.length).countP fun place =>
    (network.signer place asked).isSome

/-- The answers that are kept come from different places, as many as are wanted. -/
theorem askSigners_places {β : Type} {wanted count : UInt16} {asked : SignerRecoveryRequestV3}
    (answer : SignerRecoveryResponseV3 → Option β) (tooFew : String)
    (hcount : card.signerMailboxes.length = count.toNat) (hwanted : wanted ≠ 0)
    (hanswer : SignersAnswer network card wanted asked)
    (hread : ∀ place response, place < count.toNat → network.signer place asked = some response →
      (answer response).isSome = true) :
    ∃ kept places, askSigners network card wanted asked answer tooFew = .ok kept ∧
      Places wanted count places ∧ List.Forall₂ (fun place vote => place < count.toNat ∧
        (network.signer place asked).bind answer = some vote) places kept := by
  have hpositive : 0 < wanted.toNat := by
    rw [Nat.pos_iff_ne_zero, ne_eq, ← UInt16.toNat_zero, UInt16.toNat_inj]
    exact hwanted
  have henough : wanted.toNat ≤ (List.range card.signerMailboxes.length).countP fun place =>
      (okOr ((network.signer place asked).bind answer) ()).toOption.isSome := by
    refine hanswer.trans (List.countP_mono_left fun place hplace hsome => ?_)
    obtain ⟨response, hresponse⟩ := Option.isSome_iff_exists.mp hsome
    have hlt : place < count.toNat := hcount ▸ List.mem_range.mp hplace
    obtain ⟨vote, hvote⟩ := Option.isSome_iff_exists.mp (hread place response hlt hresponse)
    rw [hresponse, Option.bind_some, hvote]
    rfl
  obtain ⟨hlength, places, hsublist, hplaces⟩ := gather_enough (ρ := Unit) hpositive henough
  have hrange : ∀ place ∈ List.range card.signerMailboxes.length, place < count.toNat :=
    fun place hmem => hcount ▸ List.mem_range.mp hmem
  refine ⟨_, places, ?_, ⟨?_, ?_, ?_⟩,
    hplaces.imp fun place _ hvote => ⟨hrange place hvote.1, okOr_eq_ok.mp hvote.2⟩⟩
  · simp only [askSigners, bind_eq_ok, bailIf_eq_ok, exists_const]
    exact ⟨hlength.not_lt, trivial⟩
  · exact List.nodup_range.sublist hsublist
  · exact fun place hmem => hrange place (hsublist.subset hmem)
  · rw [← hlength, hplaces.length_eq]

/-! ### The certificates -/

/-- A signature is no longer than a field. -/
def Crypto.SignaturesFit (crypto : Crypto) : Prop :=
  ∀ seed transcript, (crypto.sign seed transcript).length ≤ maxFieldLen

theorem Crypto.transparent_signaturesFit : Crypto.transparent.SignaturesFit := by
  intro seed transcript
  simp [transparent, maxFieldLen]

theorem putAll_succeeds {α : Type} {enc : α → Put} {items : List α}
    (h : ∀ item ∈ items, Succeeds (enc item)) : Succeeds (putAll enc items) := by
  induction items with
  | nil => exact ⟨[], rfl⟩
  | cons item items ih =>
    rw [List.forall_mem_cons] at h
    exact h.1.append (ih h.2)

theorem succeeds_boundedCount {len : ℕ} {max : UInt16} (h : len ≤ max.toNat) :
    Succeeds (boundedCount len max) := by
  have hbound := max.toNat_lt
  refine ⟨beBytes 2 (UInt16.ofNat len).toNat, ?_⟩
  simp only [boundedCount, bind_eq_ok, bailIf_eq_ok, exists_const, not_or, not_le, not_lt]
  exact ⟨⟨by omega, h⟩, rfl⟩

/-- What the client and the guardians look at on the clock. -/
structure WithinRequest (run : RecoveryRun) (capsule : ConfigCapsuleV3) (now : UInt64) : Prop where
  requested : run.requestedAt ≤ now
  unexpired : now < saturatingAdd run.requestedAt capsule.maxRequestLifetime

theorem request_valid {digest : Id32}
    (hrecipient : (vault.recipientPublicKey run.recipientSeed).length = xwingPublicKeyLen)
    (hclock : WithinRequest run capsule now)
    (hdigest : recoveryRequestDigestV3 crypto (run.request vault capsule) = .ok digest) :
    RecoveryRequestValid crypto (run.request vault capsule) capsule capsule.configRef now digest where
  version := rfl
  configRef := rfl
  config := rfl
  generation := rfl
  authorization := rfl
  recipient := hrecipient
  requested := hclock.requested
  unexpired := hclock.unexpired
  lifetime := UInt64.le_refl _
  digest := by
    simpa only [recoveryRequestDigestV3, bind_eq_ok, wire_eq_ok, Except.ok.injEq] using hdigest

theorem exists_recoveryDigest (crypto : Crypto) (h : Succeeds (nested (recoveryRequestV3 request))) :
    ∃ digest, recoveryRequestDigestV3 crypto request = .ok digest := by
  obtain ⟨transcript, htranscript⟩ : Succeeds (Wire.recoveryRequestDigestV3 request) :=
    (succeeds_domain _ (by decide)).append h
  refine ⟨crypto.sha256 transcript, ?_⟩
  simp only [recoveryRequestDigestV3, bind_eq_ok, wire_eq_ok, Except.ok.injEq]
  exact ⟨transcript, htranscript, rfl⟩

theorem Contributed.nested_succeeds {contribution : SignerRecoveryContributionV3}
    (h : Contributed crypto sealing provision request contribution) :
    Succeeds (nested (recoveryRequestV3 request)) := by
  obtain ⟨transcript, htranscript, -⟩ := h.made.signature
  have hinto : Succeeds (signerRecoveryContributionInto false contribution) :=
    Succeeds.right ⟨transcript, htranscript⟩
  rw [← h.sameRequest]
  exact hinto.left.left.left.left.left

/-- A contribution that was signed is written with its signature. -/
theorem Contributed.into_succeeds (hfits : crypto.SignaturesFit)
    {contribution : SignerRecoveryContributionV3}
    (h : Contributed crypto sealing provision request contribution) :
    Succeeds (signerRecoveryContributionInto true contribution) := by
  obtain ⟨transcript, htranscript, hsignature⟩ := h.made.signature
  have hinto : Succeeds (signerRecoveryContributionInto false contribution) :=
    Succeeds.right ⟨transcript, htranscript⟩
  have hbytes : contribution.signerSignature = crypto.sign provision.signingSeed transcript :=
    hsignature
  refine hinto.left.append (succeeds_bytes ?_)
  rw [hbytes]
  exact hfits _ _

theorem VotedRelease.into_succeeds (hfits : crypto.SignaturesFit) {vote : SignerRecoveryReleaseVoteV3}
    (h : VotedRelease crypto provision request vote) :
    Succeeds (signerRecoveryReleaseVoteInto true vote) := by
  obtain ⟨transcript, htranscript, hsignature⟩ := h.made.signature
  have hinto : Succeeds (signerRecoveryReleaseVoteInto false vote) :=
    Succeeds.right ⟨transcript, htranscript⟩
  have hbytes : vote.signerSignature = crypto.sign provision.signingSeed transcript := hsignature
  refine hinto.left.append (succeeds_bytes ?_)
  rw [hbytes]
  exact hfits _ _

/-- The signers of the capsule in the order of their ids. -/
structure SignersOf (crypto : Crypto) (capsule : ConfigCapsuleV3)
    (provisions : List SignerRotationProvision) : Prop where
  signer : ∀ (place : ℕ) (provision : SignerRotationProvision),
    provisions[place]? = some provision →
      VoteKind.SignerOf crypto capsule provision.provision ∧
        provision.provision.signerId = idAt place
  count : provisions.length = capsule.signerCount.toNat
  bound : capsule.signerCount.toNat ≤ 255

section Votes

variable {α : Type} {kind : VoteKind α} {provisions : List SignerRotationProvision}
  {places : List ℕ} {votes : List α}

/-- Votes of the signers at the places. -/
def VotesOf (kind : VoteKind α) (crypto : Crypto) (provisions : List SignerRotationProvision)
    (places : List ℕ) (votes : List α) : Prop :=
  List.Forall₂ (fun place vote => ∃ provision, provisions[place]? = some provision ∧
    kind.MadeBy crypto provision.provision vote) places votes

theorem VotesOf.ids (hof : SignersOf crypto capsule provisions)
    (h : VotesOf kind crypto provisions places votes) :
    votes.map kind.signerId = places.map idAt := by
  have hsame : List.Forall₂ Eq (places.map idAt) (votes.map kind.signerId) := by
    rw [List.forall₂_map_left_iff, List.forall₂_map_right_iff]
    refine h.imp fun place vote hmade => ?_
    obtain ⟨provision, hprovision, hmade⟩ := hmade
    rw [hmade.signerId, (hof.signer place provision hprovision).2]
  rw [List.forall₂_eq_eq_eq] at hsame
  exact hsame.symm

theorem VotesOf.counted (hsignatures : crypto.SignatureCorrect)
    (hof : SignersOf crypto capsule provisions)
    (h : VotesOf kind crypto provisions places votes) :
    ∀ vote ∈ votes, kind.Counted crypto capsule vote := by
  induction h with
  | nil => simp
  | cons hmade _ ih =>
    obtain ⟨provision, hprovision, hmade⟩ := hmade
    rw [List.forall_mem_cons]
    exact ⟨hmade.counted hsignatures (hof.signer _ provision hprovision).1, ih⟩

/-- The ids of the places are ids of a certificate. -/
theorem Places.uniqueIds (hof : SignersOf crypto capsule provisions) {threshold : UInt16}
    (h : Places threshold capsule.signerCount places) : Wire.uniqueIds (places.map idAt) = .ok () := by
  rw [uniqueIds_eq_ok]
  refine ⟨fun id hid => ?_, h.indices.distinct⟩
  obtain ⟨hpositive, hle⟩ := h.indices.inRange id hid
  have hbound := hof.bound
  have hactors : maxRotationActors.toNat = 4096 := rfl
  constructor
  · rintro rfl
    cases hpositive
  · rw [UInt16.le_iff_toNat_le]
    omega

theorem Places.count_le {threshold : UInt16} (h : Places threshold capsule.signerCount places)
    (hof : SignersOf crypto capsule provisions) : places.length ≤ maxRotationActors.toNat := by
  have hsubset : places ⊆ List.range capsule.signerCount.toNat :=
    fun place hmem => List.mem_range.mpr (h.inRange place hmem)
  have hlength := (h.distinct.subperm hsubset).length_le
  have hbound := hof.bound
  have hactors : maxRotationActors.toNat = 4096 := rfl
  rw [List.length_range] at hlength
  omega

end Votes

/-- The contributions of the signers at the places. -/
def ContributionsOf (crypto : Crypto) (sealing : Sealing)
    (provisions : List SignerRotationProvision) (request : RecoveryRequestV3) (places : List ℕ)
    (contributions : List SignerRecoveryContributionV3) : Prop :=
  List.Forall₂ (fun place contribution => ∃ provision, provisions[place]? = some provision ∧
    Contributed crypto sealing provision.provision request contribution) places contributions

/-- What stands behind a Begin certificate. -/
structure BeginOf (crypto : Crypto) (sealing : Sealing) (capsule : ConfigCapsuleV3)
    (provisions : List SignerRotationProvision) (request : RecoveryRequestV3) (places : List ℕ)
    (certificate : BeginRecoveryCertificateV3) : Prop where
  sameRequest : certificate.request = request
  digest : recoveryRequestDigestV3 crypto request = .ok certificate.requestDigest
  chosen : Places capsule.signerThreshold capsule.signerCount places
  contributions : ContributionsOf crypto sealing provisions request places
    certificate.signerContributions

theorem BeginOf.votes {provisions : List SignerRotationProvision} {places : List ℕ}
    {certificate : BeginRecoveryCertificateV3}
    (h : BeginOf crypto sealing capsule provisions request places certificate) :
    VotesOf recoveryContributions crypto provisions places certificate.signerContributions :=
  List.Forall₂.imp (fun _ _ hcontributed =>
    let ⟨provision, hprovision, hmade⟩ := hcontributed
    ⟨provision, hprovision, hmade.made⟩) h.contributions

theorem mem_right_of_forall₂ {α β : Type} {R : α → β → Prop} {P : β → Prop} {as : List α}
    {bs : List β} (h : List.Forall₂ R as bs) (hR : ∀ a b, R a b → P b) : ∀ b ∈ bs, P b := by
  induction h with
  | nil => simp
  | cons hab _ ih =>
    rw [List.forall_mem_cons]
    exact ⟨hR _ _ hab, ih⟩

/-- A Begin certificate of the signers' own contributions validates, at the client and at a
guardian. -/
theorem BeginOf.valid {provisions : List SignerRotationProvision} {places : List ℕ}
    {certificate : BeginRecoveryCertificateV3} (hsignatures : crypto.SignatureCorrect)
    (hfits : crypto.SignaturesFit) (hof : SignersOf crypto capsule provisions)
    (hvalid : RecoveryRequestValid crypto request capsule capsule.configRef now
      certificate.requestDigest)
    (h : BeginOf crypto sealing capsule provisions request places certificate) :
    validateBeginRecoveryCertificateV3 crypto certificate capsule now =
      .ok certificate.requestDigest := by
  have hrequest : ∀ contribution ∈ certificate.signerContributions,
      contribution.request = request :=
    mem_right_of_forall₂ h.contributions fun _ _ hcontributed =>
      let ⟨_, _, hmade⟩ := hcontributed
      hmade.sameRequest
  have hinto : ∀ contribution ∈ certificate.signerContributions,
      Succeeds (signerRecoveryContributionInto true contribution) :=
    mem_right_of_forall₂ h.contributions fun _ _ hcontributed =>
      let ⟨_, _, hmade⟩ := hcontributed
      hmade.into_succeeds hfits
  have hids := h.votes.ids hof
  have hlength : certificate.signerContributions.length = places.length :=
    h.contributions.length_eq.symm
  have hdistinct : (certificate.signerContributions.map recoveryContributions.signerId).Nodup :=
    hids ▸ h.chosen.indices.distinct
  have hquorum := recoveryQuorum_eq_ok recoveryContributions
    "duplicate or request-mismatched signer recovery contribution"
    "v3 Begin certificate has no signer threshold" hrequest (h.votes.counted hsignatures hof)
    hdistinct (hlength ▸ h.chosen.enough)
  obtain ⟨transcript, htranscript, -⟩ := hvalid.digest
  have hnested : Succeeds (nested (recoveryRequestV3 request)) := Succeeds.right ⟨_, htranscript⟩
  obtain ⟨written, hwritten⟩ := (((succeeds_domain "gp/begin-recovery-certificate/v3"
    (by decide)).append hnested).append (succeeds_id32 certificate.requestDigest)).append
      ((succeeds_boundedCount (hlength ▸ h.chosen.count_le hof)).append (putAll_succeeds hinto))
  have hcertificate : beginRecoveryCertificateV3 certificate = .ok written := by
    simp only [beginRecoveryCertificateV3, bind_eq_ok, bailIf_eq_ok, exists_const]
    refine ⟨(), ?_, ?_, ?_⟩
    · exact (congrArg uniqueIds hids).trans (h.chosen.uniqueIds hof)
    · rintro ⟨contribution, hmem, hother⟩
      exact hother ((hrequest contribution hmem).trans h.sameRequest.symm)
    · rw [h.sameRequest]
      exact hwritten
  simp only [validateBeginRecoveryCertificateV3, validateRecoveryRequestV3, bind_eq_ok,
    bailIf_eq_ok, exists_const, wire_eq_ok, Except.ok.injEq]
  rw [h.sameRequest]
  exact ⟨_, validateRecoveryRequestForRefV3_iff.mpr hvalid, written, hcertificate, not_not.mpr rfl,
    (), hquorum, rfl⟩

/-- What stands behind a Release certificate. -/
structure ReleaseOf (crypto : Crypto) (capsule : ConfigCapsuleV3)
    (provisions : List SignerRotationProvision) (request : RecoveryRequestV3) (places : List ℕ)
    (certificate : RecoveryReleaseCertificateV3) : Prop where
  sameRequest : certificate.request = request
  digest : recoveryRequestDigestV3 crypto request = .ok certificate.requestDigest
  chosen : Places capsule.signerThreshold capsule.signerCount places
  votes : List.Forall₂ (fun place vote => ∃ provision, provisions[place]? = some provision ∧
    VotedRelease crypto provision.provision request vote) places certificate.votes

/-- A Release certificate of the signers' own votes validates. -/
theorem ReleaseOf.valid {provisions : List SignerRotationProvision} {places : List ℕ}
    {certificate : RecoveryReleaseCertificateV3} (hsignatures : crypto.SignatureCorrect)
    (hfits : crypto.SignaturesFit) (hof : SignersOf crypto capsule provisions)
    (hvalid : RecoveryRequestValid crypto request capsule capsule.configRef now
      certificate.requestDigest)
    (h : ReleaseOf crypto capsule provisions request places certificate) :
    validateRecoveryReleaseCertificateForRefV3 crypto certificate capsule capsule.configRef now =
      .ok certificate.requestDigest := by
  have hrequest : ∀ vote ∈ certificate.votes, vote.request = request :=
    mem_right_of_forall₂ h.votes fun _ _ hvoted =>
      let ⟨_, _, hmade⟩ := hvoted
      hmade.sameRequest
  have hdigest : ∀ vote ∈ certificate.votes, vote.requestDigest = certificate.requestDigest :=
    mem_right_of_forall₂ h.votes fun _ _ hvoted =>
      let ⟨_, _, hmade⟩ := hvoted
      Except.ok.inj (hmade.digest.symm.trans h.digest)
  have hinto : ∀ vote ∈ certificate.votes, Succeeds (signerRecoveryReleaseVoteInto true vote) :=
    mem_right_of_forall₂ h.votes fun _ _ hvoted =>
      let ⟨_, _, hmade⟩ := hvoted
      hmade.into_succeeds hfits
  have hvotes : VotesOf recoveryReleaseVotes crypto provisions places certificate.votes :=
    h.votes.imp fun _ _ hvoted =>
      let ⟨provision, hprovision, hmade⟩ := hvoted
      ⟨provision, hprovision, hmade.made⟩
  have hids := hvotes.ids hof
  have hlength : certificate.votes.length = places.length := h.votes.length_eq.symm
  have hdistinct : (certificate.votes.map recoveryReleaseVotes.signerId).Nodup :=
    hids ▸ h.chosen.indices.distinct
  have hquorum := recoveryQuorum_eq_ok recoveryReleaseVotes
    "duplicate or request-mismatched v3 Release vote"
    "v3 Release certificate has no signer threshold" hrequest (hvotes.counted hsignatures hof)
    hdistinct (hlength ▸ h.chosen.enough)
  obtain ⟨transcript, htranscript, -⟩ := hvalid.digest
  have hnested : Succeeds (nested (recoveryRequestV3 request)) := Succeeds.right ⟨_, htranscript⟩
  obtain ⟨written, hwritten⟩ := (((succeeds_domain "gp/recovery-release-certificate/v3"
    (by decide)).append hnested).append (succeeds_id32 certificate.requestDigest)).append
      ((succeeds_boundedCount (hlength ▸ h.chosen.count_le hof)).append (putAll_succeeds hinto))
  have hcertificate : recoveryReleaseCertificateV3 certificate = .ok written := by
    simp only [recoveryReleaseCertificateV3, bind_eq_ok, bailIf_eq_ok, exists_const]
    refine ⟨(), ?_, ?_, ?_⟩
    · exact (congrArg uniqueIds hids).trans (h.chosen.uniqueIds hof)
    · rintro ⟨vote, hmem, hother | hother⟩
      · exact hother ((hrequest vote hmem).trans h.sameRequest.symm)
      · exact hother (hdigest vote hmem)
    · rw [h.sameRequest]
      exact hwritten
  simp only [validateRecoveryReleaseCertificateForRefV3, bind_eq_ok, bailIf_eq_ok, exists_const,
    wire_eq_ok, Except.ok.injEq]
  rw [h.sameRequest]
  exact ⟨_, validateRecoveryRequestForRefV3_iff.mpr hvalid, written, hcertificate, not_not.mpr rfl,
    (), hquorum, rfl⟩

/-! ### The client -/

/-- The signers of a recovery. -/
structure SignersReady (crypto : Crypto) (vault : Vault) (network : RecoveryNetwork)
    (card : ClientCardV3) (capsule : ConfigCapsuleV3)
    (provisions : List SignerRotationProvision) : Prop where
  signersOf : SignersOf crypto capsule provisions
  serve : SignersServe crypto vault.toSealing network provisions
  mailboxes : card.signerMailboxes.length = capsule.signerCount.toNat
  threshold : capsule.signerThreshold ≠ 0

theorem SignersReady.exists_provision {provisions : List SignerRotationProvision}
    (h : SignersReady crypto vault network card capsule provisions) {place : ℕ}
    (hplace : place < capsule.signerCount.toNat) : ∃ provision, provisions[place]? = some provision :=
  ⟨_, List.getElem?_eq_getElem (h.signersOf.count ▸ hplace)⟩

/-- The approval of a recovery whose signers answer it. -/
theorem approveRecovery_eq_ok {provisions : List SignerRotationProvision}
    (hsignatures : crypto.SignatureCorrect) (hfits : crypto.SignaturesFit)
    (hrecipient : (vault.recipientPublicKey run.recipientSeed).length = xwingPublicKeyLen)
    (hclock : WithinRequest run capsule run.begunAt)
    (hready : SignersReady crypto vault network card capsule provisions)
    (hanswer : SignersAnswer network card capsule.signerThreshold
      (.approve (run.request vault capsule) (run.challenge vault card)
        (readEnvelopes network card (run.challenge vault card)))) :
    ∃ certificate places,
      approveRecovery crypto vault network run card capsule = .ok certificate ∧
        BeginOf crypto vault.toSealing capsule provisions (run.request vault capsule) places
          certificate := by
  have hserved : ∀ place response, place < capsule.signerCount.toNat →
      network.signer place (.approve (run.request vault capsule) (run.challenge vault card)
        (readEnvelopes network card (run.challenge vault card))) = some response →
        ∃ provision contribution, provisions[place]? = some provision ∧
          response = .contribution contribution ∧ Contributed crypto vault.toSealing
            provision.provision (run.request vault capsule) contribution := by
    intro place response hplace hresponse
    obtain ⟨provision, hprovision⟩ := hready.exists_provision hplace
    obtain ⟨contribution, hcontribution, hmade⟩ :=
      (hready.serve place _ response provision hprovision hresponse).contributed
    exact ⟨provision, contribution, hprovision, hcontribution, hmade⟩
  obtain ⟨kept, places, hkept, hplaces, hasked⟩ := askSigners_places
    SignerRecoveryResponseV3.toContribution "protocol-v3 signer approval threshold was not reached"
    hready.mailboxes hready.threshold hanswer fun place response hplace hresponse => by
      obtain ⟨_, contribution, -, rfl, -⟩ := hserved place response hplace hresponse
      rfl
  have hcontributions : ContributionsOf crypto vault.toSealing provisions (run.request vault capsule)
      places kept := by
    refine hasked.imp fun place vote hvote => ?_
    obtain ⟨response, hresponse, hread⟩ := Option.bind_eq_some_iff.mp hvote.2
    obtain ⟨provision, contribution, hprovision, rfl, hmade⟩ :=
      hserved place response hvote.1 hresponse
    cases hread
    exact ⟨provision, hprovision, hmade⟩
  have hnested : Succeeds (nested (recoveryRequestV3 (run.request vault capsule))) := by
    cases hcontributions with
    | nil =>
      have henough := hplaces.enough
      rw [List.length_nil, Nat.le_zero, ← UInt16.toNat_zero, UInt16.toNat_inj] at henough
      exact absurd henough hready.threshold
    | cons hmade _ =>
      obtain ⟨_, -, hmade⟩ := hmade
      exact hmade.nested_succeeds
  obtain ⟨digest, hdigest⟩ := exists_recoveryDigest crypto hnested
  have hbegin : BeginOf crypto vault.toSealing capsule provisions (run.request vault capsule) places
      ⟨run.request vault capsule, digest, kept⟩ := ⟨rfl, hdigest, hplaces, hcontributions⟩
  have hvalid := hbegin.valid hsignatures hfits hready.signersOf
    (request_valid hrecipient hclock hdigest)
  refine ⟨_, places, ?_, hbegin⟩
  simp only [approveRecovery, bind_eq_ok]
  exact ⟨kept, hkept, digest, hdigest, _, hvalid, rfl⟩

/-- The release of a recovery whose signers vote for it. -/
theorem releaseRecovery_eq_ok {provisions : List SignerRotationProvision}
    {begun : BeginRecoveryCertificateV3}
    (hsignatures : crypto.SignatureCorrect) (hfits : crypto.SignaturesFit)
    (hrecipient : (vault.recipientPublicKey run.recipientSeed).length = xwingPublicKeyLen)
    (hclock : WithinRequest run capsule run.releasedAt)
    (hready : SignersReady crypto vault network card capsule provisions)
    (hrequest : begun.request = run.request vault capsule)
    (hdigest : recoveryRequestDigestV3 crypto (run.request vault capsule) = .ok begun.requestDigest)
    (hanswer : SignersAnswer network card capsule.signerThreshold
      (.release (run.request vault capsule))) :
    ∃ certificate places,
      releaseRecovery crypto network run card capsule begun = .ok certificate ∧
        ReleaseOf crypto capsule provisions (run.request vault capsule) places certificate := by
  have hserved : ∀ place response, place < capsule.signerCount.toNat →
      network.signer place (.release (run.request vault capsule)) = some response →
        ∃ provision vote, provisions[place]? = some provision ∧ response = .releaseVote vote ∧
          VotedRelease crypto provision.provision (run.request vault capsule) vote := by
    intro place response hplace hresponse
    obtain ⟨provision, hprovision⟩ := hready.exists_provision hplace
    obtain ⟨vote, hvote, hmade⟩ :=
      (hready.serve place _ response provision hprovision hresponse).voted
    exact ⟨provision, vote, hprovision, hvote, hmade⟩
  obtain ⟨kept, places, hkept, hplaces, hasked⟩ := askSigners_places
    SignerRecoveryResponseV3.toReleaseVote "protocol-v3 signer Release threshold was not reached"
    hready.mailboxes hready.threshold hanswer fun place response hplace hresponse => by
      obtain ⟨_, vote, -, rfl, -⟩ := hserved place response hplace hresponse
      rfl
  have hrelease : ReleaseOf crypto capsule provisions (run.request vault capsule) places
      ⟨begun.request, begun.requestDigest, kept⟩ := by
    refine ⟨hrequest, hdigest, hplaces, hasked.imp fun place vote hvote => ?_⟩
    obtain ⟨response, hresponse, hread⟩ := Option.bind_eq_some_iff.mp hvote.2
    obtain ⟨provision, vote, hprovision, rfl, hmade⟩ := hserved place response hvote.1 hresponse
    cases hread
    exact ⟨provision, hprovision, hmade⟩
  have hvalid := hrelease.valid hsignatures hfits hready.signersOf
    (request_valid hrecipient hclock hdigest)
  refine ⟨_, places, ?_, hrelease⟩
  simp only [releaseRecovery, bind_eq_ok]
  exact ⟨kept, hrequest ▸ hkept, _, hvalid, rfl⟩

/-! ### The authorization key -/

/-- What is sealed to a recipient opens under its seed. -/
def Vault.SealCorrect (vault : Vault) : Prop :=
  ∀ seed id nonce plaintext context sealedMessage,
    vault.sealToRecipient (vault.recipientPublicKey seed) id nonce plaintext context =
      .ok sealedMessage → openSealed vault seed sealedMessage context = .ok plaintext

theorem sampleVault_sealCorrect : sampleVault.SealCorrect := by
  intro seed id nonce plaintext context sealedMessage h
  cases h
  simp only [openSealed, bind_eq_ok, okOr_eq_ok]
  have hkey : sampleVault.decapsulate seed ((sampleVault.recipientPublicKey seed).take 4) =
      some ((sampleVault.recipientPublicKey seed).take 4) := by
    simp only [sampleVault, Vault.transparent, if_true]
  exact ⟨_, hkey, sampleVault_decrypts _ plaintext context nonce⟩

theorem idOf_idBytes (id : Id32) : idOf (idBytes id) = some id := by
  rw [idOf, if_pos (idBytes_length id), idBytes, numberOf_beBytes, Nat.mod_eq_of_lt]
  · rw [BitVec.ofNat_toNat, BitVec.setWidth_eq]
  · exact lt_of_lt_of_eq id.isLt (by norm_num)

/-- The shares of a split are as many as are wanted, no two alike. -/
theorem splitSecret_nodup {shamir : Shamir} {secret : Bytes} {threshold total : UInt16} {seed : Id32}
    {shares : List Bytes} (hcorrect : shamir.Correct)
    (h : splitSecret shamir secret threshold total seed = .ok shares) :
    shares.length = total.toNat ∧ shares.Nodup := by
  obtain ⟨hlength, hpositive, hle, hbound, rfl⟩ := splitSecret_eq_ok h
  have hlevel : 0 < threshold.toUInt8 := by
    rw [UInt8.lt_iff_toNat_lt, UInt16.toNat_toUInt8]
    simp only [UInt8.toNat_zero]
    omega
  have hsecret : secret ≠ [] := by
    rintro rfl
    cases hlength
  have hindices := hcorrect.indices threshold.toUInt8 secret seed total.toNat hlevel hsecret hbound
  constructor
  · have hcount := congrArg List.length hindices
    simpa using hcount
  · have hmap : ((shamir.deal threshold.toUInt8 secret seed total.toNat).map shamir.encode).map
        shareIndex = (List.range total.toNat).map (· + 1) := by
      rw [List.map_map]
      exact hindices
    refine List.Nodup.of_map shareIndex ?_
    rw [hmap]
    exact List.nodup_range.map fun _ _ hsame => by omega

/-- The shares of any signers that reach the threshold give the authorization key. -/
theorem reconstructAuthorizationKey_eq_ok {provisions : List SignerRotationProvision}
    {places : List ℕ} {certificate : BeginRecoveryCertificateV3} {shares : List Bytes} {seed : Id32}
    {authorizationKey : Id32} (hshamir : libs.shamir.Correct) (hseal : vault.SealCorrect)
    (hsplit : splitSecret libs.shamir (idBytes authorizationKey) capsule.signerThreshold
      capsule.signerCount seed = .ok shares)
    (hshares : ∀ (place : ℕ) (provision : SignerRotationProvision),
      provisions[place]? = some provision →
        provision.provision.authorizationShare = shares.getD place [])
    (hbegin : BeginOf crypto vault.toSealing capsule provisions (run.request vault capsule) places
      certificate) :
    reconstructAuthorizationKey vault libs run capsule certificate = .ok authorizationKey := by
  obtain ⟨hcount, hnodup⟩ := splitSecret_nodup hshamir hsplit
  have hopened : certificate.signerContributions.mapM
      (openAuthorizationShare vault run certificate.request) =
        .ok (places.map fun place => shares.getD place []) := by
    rw [mapM_eq_ok, List.forall₂_map_right_iff]
    refine List.Forall₂.flip (hbegin.contributions.imp fun place contribution hmade => ?_)
    obtain ⟨provision, hprovision, hmade⟩ := hmade
    obtain ⟨random, context, hcontext, hshare⟩ := hmade.share
    have hid : contribution.signerId = provision.provision.signerId := hmade.made.signerId
    simp only [flip, openAuthorizationShare, bind_eq_ok, wire_eq_ok, crypt_eq_ok]
    rw [hbegin.sameRequest, hid, ← hshares place provision hprovision]
    exact ⟨context, hcontext, hseal _ _ _ _ _ _ hshare⟩
  have hlt : ∀ place ∈ places, place < shares.length :=
    fun place hmem => hcount ▸ hbegin.chosen.inRange place hmem
  have hmem : ∀ encoded ∈ places.map fun place => shares.getD place [], encoded ∈ shares := by
    intro encoded hencoded
    obtain ⟨place, hplace, rfl⟩ := List.mem_map.mp hencoded
    rw [List.getD_eq_getElem _ _ (hlt place hplace)]
    exact List.getElem_mem _
  have hdistinct : (places.map fun place => shares.getD place []).Nodup := by
    refine hbegin.chosen.distinct.map_on fun left hleft right hright hsame => ?_
    rw [List.getD_eq_getElem _ _ (hlt left hleft), List.getD_eq_getElem _ _ (hlt right hright)] at hsame
    exact hnodup.getElem_inj_iff.mp hsame
  have hrecovered := recoverSecret_split hshamir hsplit hmem hdistinct
    (by rw [List.length_map]; exact hbegin.chosen.enough)
  simp only [reconstructAuthorizationKey, bind_eq_ok, mapError_eq_ok, okOr_eq_ok]
  exact ⟨_, hopened, _, hrecovered, idOf_idBytes authorizationKey⟩

end MasterRecovery
