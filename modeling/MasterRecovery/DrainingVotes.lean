import MasterRecovery.EpochOrder

/-!
# Release votes for draining recoveries

What a signer has approved stays recorded under its request id, and the record is all that a
Release for it needs from the past. The request is judged again, though, against the one
capsule the signer holds as active.
-/

namespace MasterRecovery
open Checks Transcript Wire

variable {crypto : Crypto} {sealing : Sealing} {entry entry' : SignerRotationEntryV3}
  {provision : SignerRotationProvisionV3} {input : SignerInput} {reply : Option SignerEvent}
  {inputs : List SignerInput} {request : RecoveryRequestV3} {digest : Id32}

/-! ### Transcripts -/

theorem idBytes_written {id : Id32} : ∃ x, Wire.id32 id = .ok x :=
  ⟨_, by simp [Wire.id32, Wire.bytes, idBytes, bailIf, maxFieldLen, bind, Except.bind]; rfl⟩

/-- A signer that can write its contribution to a request can write its release vote. -/
theorem releaseVote_written {contribution : SignerRecoveryContributionV3}
    {vote : SignerRecoveryReleaseVoteV3}
    (h : ∃ x, signerRecoveryContributionV3 contribution = .ok x)
    (hrequest : vote.request = contribution.request)
    (hproof : vote.signerMembershipProof = contribution.signerMembershipProof) :
    ∃ x, signerRecoveryReleaseVoteV3 vote = .ok x := by
  simp only [signerRecoveryContributionV3, signerRecoveryContributionInto, append_written] at h
  obtain ⟨-, ⟨⟨⟨⟨hnested, -⟩, -⟩, hmembership⟩, -⟩, -⟩ := h
  simp only [signerRecoveryReleaseVoteV3, signerRecoveryReleaseVoteInto, append_written]
  rw [hrequest, hproof]
  exact ⟨⟨_, rfl⟩, ⟨⟨⟨⟨hnested, idBytes_written⟩, ⟨_, rfl⟩⟩, idBytes_written⟩, hmembership⟩, ⟨_, rfl⟩⟩

/-! ### Approved requests -/

theorem rememberRequest_recorded {remembered : SignerRotationEntryV3}
    (h : rememberRequest request digest entry = .ok remembered) :
    remembered.recoveryRequests[request.requestId]? = some digest := by
  cases hfound : entry.recoveryRequests[request.requestId]? with
  | some previous =>
    simp only [rememberRequest, hfound, bind_unit_eq_ok, bailIf_eq_ok, not_not, ne_eq,
      Except.ok.injEq] at h
    obtain ⟨rfl, rfl⟩ := h
    exact hfound
  | none =>
    simp only [rememberRequest, hfound, bind_unit_eq_ok, Except.ok.injEq] at h
    obtain ⟨-, rfl⟩ := h
    exact getElem?_insert_iff.mpr (Or.inl ⟨rfl, rfl⟩)

theorem rememberRequest_kept {remembered : SignerRotationEntryV3} {id other : Id32}
    (h : rememberRequest request digest entry = .ok remembered)
    (hfound : entry.recoveryRequests[id]? = some other) :
    remembered.recoveryRequests[id]? = some other := by
  cases hown : entry.recoveryRequests[request.requestId]? with
  | some previous =>
    simp only [rememberRequest, hown, bind_unit_eq_ok, Except.ok.injEq] at h
    obtain ⟨-, rfl⟩ := h
    exact hfound
  | none =>
    simp only [rememberRequest, hown, bind_unit_eq_ok, Except.ok.injEq] at h
    obtain ⟨-, rfl⟩ := h
    have hne : id ≠ request.requestId := by
      rintro rfl
      cases hown.symm.trans hfound
    exact getElem?_insert_iff.mpr (Or.inr ⟨hne, hfound⟩)

/-- No request takes a recorded digest away. -/
theorem handled_recoveryRequests (hstep : SignerHandled crypto sealing entry input entry' reply)
    {id : Id32} (hfound : entry.recoveryRequests[id]? = some digest) :
    entry'.recoveryRequests[id]? = some digest := by
  cases hstep with
  | abortFinalized _ hfinalize =>
    obtain ⟨-, -, -, _, rfl⟩ := signerFinalizeAbort_eq_ok hfinalize
    exact hfound
  | ownerCancelFinalized _ hfinalize =>
    obtain ⟨-, -, ⟨-, rfl⟩ | ⟨-, _, rfl⟩⟩ := signerFinalizeOwnerCancel_eq_ok hfinalize
    · exact hfound
    · exact hfound
  | recoveryApproved _ hremembered =>
    have hkept := rememberRequest_kept hremembered hfound
    exact hkept
  | _ => exact hfound

/-- What an approval at that time leaves for good. -/
structure RequestKept (crypto : Crypto) (provision : SignerRotationProvisionV3)
    (request : RecoveryRequestV3) (approvedAt : UInt64) (entry : SignerRotationEntryV3) : Prop where
  version : request.protocolVersion = protocolVersionV3
  recipient : request.recoveryRecipientKey.length = xwingPublicKeyLen
  requested : request.requestedAt ≤ approvedAt
  recorded : ∃ digest, entry.recoveryRequests[request.requestId]? = some digest ∧
    ∃ transcript, Wire.recoveryRequestDigestV3 request = .ok transcript ∧
      crypto.sha256 transcript = digest
  written : ∀ vote : SignerRecoveryReleaseVoteV3, vote.request = request →
    vote.signerMembershipProof = provision.membershipProof →
    ∃ x, signerRecoveryReleaseVoteV3 vote = .ok x

theorem RequestKept.handled {approvedAt : UInt64}
    (h : RequestKept crypto provision request approvedAt entry)
    (hstep : SignerHandled crypto sealing entry input entry' reply) :
    RequestKept crypto provision request approvedAt entry' := by
  obtain ⟨digest, hfound, htranscript⟩ := h.recorded
  exact { h with recorded := ⟨digest, handled_recoveryRequests hstep hfound, htranscript⟩ }

theorem handled_contribution {contribution : SignerRecoveryContributionV3}
    (hsigner : SameSigner provision entry)
    (hstep : SignerHandled crypto sealing entry input entry'
      (some (.recovery (.contribution contribution)))) :
    RequestKept crypto provision contribution.request input.now entry' := by
  generalize hreply : some (SignerEvent.recovery (.contribution contribution)) = reply at hstep
  cases hstep with
  | @recoveryApproved now random request challenge reads active digest remembered hchecks
      hremembered =>
    obtain ⟨-, -, hvalid⟩ := approveChecks_eq_ok hchecks
    obtain ⟨response, hresponse, heq⟩ := Option.map_eq_some_iff.mp hreply.symm
    cases heq
    have hcontribution := toOption_eq_some.mp hresponse
    obtain ⟨_, hsame, rfl⟩ := recoveryContribution_eq_ok hcontribution
    cases hsame
    have hrecorded := rememberRequest_recorded hremembered
    refine ⟨hvalid.version, hvalid.recipient, hvalid.requested, ⟨digest, hrecorded, hvalid.digest⟩,
      fun vote hrequest hproof => ?_⟩
    simp only [recoveryContribution, bind_eq_ok, signed_eq_ok] at hcontribution
    obtain ⟨_, -, share, -, transcript, htr, -⟩ := hcontribution
    have hown : entry.provision.membershipProof = provision.membershipProof :=
      congrArg (·.membershipProof) hsigner
    exact releaseVote_written ⟨transcript, htr⟩ hrequest (hproof.trans hown.symm)
  | intentApproved | begun =>
    obtain ⟨_, -, hevent⟩ := Option.map_eq_some_iff.mp hreply.symm
    cases hevent
  | recoveryReleased hrelease =>
    obtain ⟨_, rfl, -⟩ := signerRecoveryRelease_eq_ok hrelease
    cases hreply
  | _ => cases hreply

/-- The signer has returned its share for this request, at that time. -/
def ApprovedAt (crypto : Crypto) (sealing : Sealing) (provision : SignerRotationProvisionV3)
    (inputs : List SignerInput) (request : RecoveryRequestV3) (approvedAt : UInt64) : Prop :=
  ∃ answer ∈ signerAnswers crypto sealing provision inputs, answer.input.now = approvedAt ∧
    ∃ contribution, answer.event = .recovery (.contribution contribution) ∧
      contribution.request = request

/-- Every approval of a run is kept to its end. -/
structure ApprovalLedger (crypto : Crypto) (provision : SignerRotationProvisionV3)
    (entry : SignerRotationEntryV3) (out : List Answer) : Prop where
  signer : SameSigner provision entry
  kept : ∀ answer ∈ out, ∀ contribution, answer.event = .recovery (.contribution contribution) →
    RequestKept crypto provision contribution.request answer.input.now entry

theorem ApprovalLedger.handled {out : List Answer} (h : ApprovalLedger crypto provision entry out)
    (hstep : SignerHandled crypto sealing entry input entry' reply) :
    ApprovalLedger crypto provision entry'
      (out ++ (reply.map fun event => Answer.mk input event).toList) := by
  refine ⟨h.signer.handled hstep, fun answer hmem contribution hevent => ?_⟩
  rcases List.mem_append.mp hmem with hold | hnew
  · exact (h.kept answer hold contribution hevent).handled hstep
  · obtain ⟨event, hreply, rfl⟩ := Option.map_eq_some_iff.mp (Option.mem_toList.mp hnew)
    cases hevent
    exact handled_contribution h.signer (hreply ▸ hstep)

theorem run_approvalLedger :
    ApprovalLedger crypto provision (signerRun crypto sealing provision inputs)
      (signerAnswers crypto sealing provision inputs) :=
  run_signerHandled_along (fun _ _ _ => True) (ApprovalLedger crypto provision)
    ⟨rfl, by simp⟩ (fun _ _ _ _ _ h _ hstep => h.handled hstep)
    (Machine.along_of_forall _ (fun _ _ => trivial) _ _)

theorem ApprovedAt.kept {approvedAt : UInt64}
    (h : ApprovedAt crypto sealing provision inputs request approvedAt) :
    RequestKept crypto provision request approvedAt
      (signerRun crypto sealing provision inputs) := by
  obtain ⟨answer, hmem, rfl, contribution, hevent, rfl⟩ := h
  exact run_approvalLedger.kept answer hmem contribution hevent

/-! ### Their release -/

/-- A Release of this request is answered with the signer's vote for it. -/
def ReleaseVoted (crypto : Crypto) (sealing : Sealing) (entry : SignerRotationEntryV3)
    (request : RecoveryRequestV3) (now : UInt64) (random : Randomness) : Prop :=
  ∃ vote, ((signerMachine crypto sealing).step entry ⟨now, random, .inr (.release request)⟩).2 =
    some (.recovery (.releaseVote vote)) ∧ vote.request = request

/-- The signer's active capsule is still the one the request was made under. -/
structure StillActive (request : RecoveryRequestV3) (active : ConfigCapsuleV3) : Prop where
  configRef : active.configRef = request.configRef
  lifetime : request.expiry ≤ saturatingAdd request.requestedAt active.maxRequestLifetime

theorem signerRecoveryRelease_voted {now : UInt64}
    (hvalid : RecoveryRequestValid crypto request entry.provision.activeCapsule
      entry.provision.activeCapsule.configRef now digest)
    (hrecorded : entry.recoveryRequests[request.requestId]? = some digest)
    (hwritten : ∀ vote : SignerRecoveryReleaseVoteV3, vote.request = request →
      vote.signerMembershipProof = entry.provision.membershipProof →
      ∃ x, signerRecoveryReleaseVoteV3 vote = .ok x) :
    ∃ vote, signerRecoveryRelease crypto entry request now = .ok (.releaseVote vote) ∧
      vote.request = request := by
  simp only [signerRecoveryRelease, validateRecoveryRequestV3, bind_eq_ok, exists_const,
    validateRecoveryRequestForRefV3_iff, bailIf_eq_ok, not_not, ne_eq, signed_eq_ok]
  obtain ⟨transcript, htr⟩ := hwritten
    { request := request
      requestDigest := digest
      signerId := entry.provision.signerId
      signerPublicKey := entry.provision.signingPublicKey
      signerMembershipProof := entry.provision.membershipProof
      signerSignature := [] } rfl rfl
  exact ⟨_, ⟨digest, hvalid, hrecorded, transcript, htr, rfl⟩, rfl⟩

/-- An approved request that has not expired gets its release vote exactly while the signer
has seen no other epoch. -/
theorem release_voted_iff {approvedAt now : UInt64} {random : Randomness}
    (happroved : ApprovedAt crypto sealing provision inputs request approvedAt)
    (hlater : approvedAt ≤ now) (hlive : now < request.expiry) :
    ReleaseVoted crypto sealing (signerRun crypto sealing provision inputs) request now random ↔
      StillActive request (signerRun crypto sealing provision inputs).provision.activeCapsule := by
  have hkept := happroved.kept
  have hsigner : SameSigner provision (signerRun crypto sealing provision inputs) := run_sameSigner
  generalize signerRun crypto sealing provision inputs = entry at hkept hsigner
  constructor
  · rintro ⟨vote, hreply, -⟩
    obtain ⟨_, hrelease, -⟩ := Option.map_eq_some_iff.mp hreply
    obtain ⟨_, -, -, hvalid, -⟩ := signerRecoveryRelease_eq_ok (toOption_eq_some.mp hrelease)
    exact ⟨hvalid.configRef.symm, hvalid.lifetime⟩
  · rintro ⟨href, hlifetime⟩
    obtain ⟨digest, hrecorded, hdigest⟩ := hkept.recorded
    have hvalid : RecoveryRequestValid crypto request entry.provision.activeCapsule
        entry.provision.activeCapsule.configRef now digest :=
      { version := hkept.version
        configRef := href.symm
        config := href ▸ rfl
        generation := href ▸ rfl
        authorization := href ▸ rfl
        recipient := hkept.recipient
        requested := UInt64.le_trans hkept.requested hlater
        unexpired := hlive
        lifetime := hlifetime
        digest := hdigest }
    have hproof : entry.provision.membershipProof = provision.membershipProof :=
      congrArg (·.membershipProof) hsigner
    obtain ⟨vote, hrelease, hrequest⟩ :=
      signerRecoveryRelease_voted hvalid hrecorded (hproof ▸ hkept.written)
    refine ⟨vote, ?_, hrequest⟩
    simp [signerMachine, handleSignerRecoveryV3, hrelease, Except.toOption]

/-! ### A newer epoch in between -/

/-- A recovery of the capsule's epoch, bound to the sample recipient. -/
def sampleRecovery (requestId : Id32) (capsule : ConfigCapsuleV3) : RecoveryRequestV3 where
  protocolVersion := protocolVersionV3
  configRef := capsule.configRef
  requestId := requestId
  recoveryRecipientKey := sampleRecipientKey
  requestedAt := 5
  nonce := requestId
  expiry := 100

def sampleRecoveryChallenge : EpochReadChallenge :=
  { sampleChallenge with responseRecipientKey := sampleRecipientKey }

/-- A witness's signed answer to the recovery's challenge. -/
def sampleRecoveryRead (capsule : ConfigCapsuleV3) (id : UInt16) : WitnessReadEnvelope :=
  let unsigned := readResponse Crypto.transparent (sampleWitnessSeed id) sampleRecoveryChallenge
    { (sampleProvision 4 id).entry with capsule := capsule }
  ⟨{ unsigned with
      witnessSignature := Crypto.transparent.sign (sampleWitnessSeed id)
        ((witnessEpochReadResponse unsigned).toOption.getD []) }, capsule⟩

/-- The recovery is approved under the view of three witnesses. -/
def sampleApproval (requestId : Id32) (capsule : ConfigCapsuleV3) : SignerInput :=
  ⟨6, ⟨1, 2⟩, .inr (.approve (sampleRecovery requestId capsule) sampleRecoveryChallenge
    ([1, 2, 3].map (sampleRecoveryRead capsule)))⟩

/-- The second recovery is of the epoch that the first one was approved before. -/
def sampleDrainingInputs : List SignerInput :=
  [sampleApproval 80 sampleGenesis, sampleApproval 81 sampleInstalled]

/-- The request that an answer approves, and when. -/
def recoveryApproval (answer : Answer) : Option (UInt64 × RecoveryRequestV3) :=
  match answer.event with
  | .recovery (.contribution contribution) => some (answer.input.now, contribution.request)
  | _ => none

theorem approvedAt_of_mem {approvedAt : UInt64}
    (h : (approvedAt, request) ∈
      (signerAnswers crypto sealing provision inputs).filterMap recoveryApproval) :
    ApprovedAt crypto sealing provision inputs request approvedAt := by
  obtain ⟨answer, hmem, happroval⟩ := List.mem_filterMap.mp h
  simp only [recoveryApproval] at happroval
  split at happroval
  · next contribution hevent =>
    cases happroval
    exact ⟨answer, hmem, rfl, contribution, hevent, rfl⟩
  · cases happroval

example : ¬StillActive (sampleRecovery 80 sampleGenesis) sampleInstalled :=
  fun h => absurd h.configRef (by decide +kernel)

theorem release_voted_iff_sample :
    ReleaseVoted Crypto.transparent sampleSealing
        (signerRun Crypto.transparent sampleSealing sampleSignerProvision
          [sampleApproval 80 sampleGenesis]) (sampleRecovery 80 sampleGenesis) 7 ⟨3, 4⟩ ↔
      StillActive (sampleRecovery 80 sampleGenesis)
        (signerRun Crypto.transparent sampleSealing sampleSignerProvision
          [sampleApproval 80 sampleGenesis]).provision.activeCapsule := by
  have happroved : (6, sampleRecovery 80 sampleGenesis) ∈
      (sampleSigner [sampleApproval 80 sampleGenesis]).filterMap recoveryApproval := by
    decide +kernel
  exact release_voted_iff (approvedAt_of_mem happroved) (by decide) (by decide)

/-- The request of the first epoch is approved and, with the second epoch in view, refused
its release. -/
theorem release_refused_while_draining :
    ¬∀ (crypto : Crypto) (sealing : Sealing) (provision : SignerRotationProvisionV3)
      (inputs : List SignerInput) (request : RecoveryRequestV3) (approvedAt now : UInt64)
      (random : Randomness),
      ApprovedAt crypto sealing provision inputs request approvedAt → approvedAt ≤ now →
      now < request.expiry →
      ReleaseVoted crypto sealing (signerRun crypto sealing provision inputs) request now random := by
  intro hclaim
  have happroved : (6, sampleRecovery 80 sampleGenesis) ∈
      (sampleSigner sampleDrainingInputs).filterMap recoveryApproval := by
    decide +kernel
  have hsilent : ((signerMachine Crypto.transparent sampleSealing).step
      (signerRun Crypto.transparent sampleSealing sampleSignerProvision sampleDrainingInputs)
      ⟨7, ⟨3, 4⟩, .inr (.release (sampleRecovery 80 sampleGenesis))⟩).2.isNone = true := by
    decide +kernel
  obtain ⟨vote, hreply, -⟩ := hclaim Crypto.transparent sampleSealing sampleSignerProvision
    sampleDrainingInputs (sampleRecovery 80 sampleGenesis) 6 7 ⟨3, 4⟩
    (approvedAt_of_mem happroved) (by decide) (by decide)
  rw [hreply] at hsilent
  cases hsilent

end MasterRecovery
