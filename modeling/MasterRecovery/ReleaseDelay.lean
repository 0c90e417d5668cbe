import MasterRecovery.AbortExclusion

/-!
# The delay before a Release vote (gp-network/src/rotation_runtime.rs)

A signer releases a plan on its own clock, but not from its own Begin: the Begin certificate must
wait out the delay from the time the coordinator put into the rotation's context. A signer that has
begun the plan has found that time in the past, however far.
-/

namespace MasterRecovery
open Checks Transcript Wire

variable {crypto : Crypto} {sealing : Sealing} {entry entry' : SignerRotationEntryV3}
  {provision : SignerRotationProvisionV3} {input : SignerInput} {event : SignerEvent}
  {plan : RotationPlan} {certificate : BeginRotationCertificate} {now : UInt64}

/-- What a request is answered stands among the answers of the run. -/
theorem answered {earlier : List SignerInput}
    (h : ((signerMachine crypto sealing).step (signerRun crypto sealing provision earlier) input).2 =
      some event) :
    ⟨input, event⟩ ∈ signerAnswers crypto sealing provision (earlier ++ [input]) := by
  rw [signerAnswers, Machine.outputs_append, Machine.outputs_cons]
  refine List.mem_append_right _ (List.mem_append_left _ (Option.mem_toList.mpr ?_))
  exact Option.map_eq_some_iff.mpr ⟨event, h, rfl⟩

/-! ### What Release has checked of the clock -/

/-- A certificate that can be released at all waits the whole delay from the context's time. -/
theorem validateBeginRotationCertificateV3_delay {predecessor : ConfigCapsuleV3} {beginHash : Id32}
    (h : validateBeginRotationCertificateV3 crypto certificate plan predecessor now =
      .ok beginHash) (hwaited : certificate.notBeforeWall ≤ now) :
    plan.context.issuedAt.toNat + plan.minimumDelaySecs.toNat ≤ now.toNat := by
  simp only [validateBeginRotationCertificateV3, bind_eq_ok, bailIf_eq_ok, not_or, not_not,
    UInt64.not_le, UInt64.not_lt, ne_eq] at h
  obtain ⟨_, -, _, -, _, ⟨hcontext, -, -, -, -, hdeadline, hdelay⟩, -⟩ := h
  have hbound := plan.preparationDeadline.toNat_lt
  rw [hcontext, UInt64.le_iff_toNat_le, saturatingAdd_toNat] at hdelay
  rw [UInt64.le_iff_toNat_le] at hwaited
  rw [UInt64.lt_iff_toNat_lt] at hdeadline
  -- a sum that saturates is beyond the preparation deadline
  omega

theorem signerReleaseChecks_delay {vote : SignerRotationReleaseVote} {transcript : Bytes}
    (h : signerReleaseChecks crypto entry plan certificate now = .ok (vote, transcript)) :
    plan.context.issuedAt.toNat + plan.minimumDelaySecs.toNat ≤ now.toNat ∧
      vote.signerMembershipProof = entry.provision.membershipProof := by
  simp only [signerReleaseChecks, bind_eq_ok, exists_const, bailIf_eq_ok, UInt64.not_lt,
    Except.ok.injEq, Prod.mk.injEq] at h
  obtain ⟨-, _, -, -, _, hbegin, hwaited, _, -, rfl, -⟩ := h
  exact ⟨validateBeginRotationCertificateV3_delay hbegin hwaited, rfl⟩

/-- A Release vote answers a Release request whose checks have passed. -/
theorem handled_releaseVote {vote : SignerRotationReleaseVote}
    (hstep : SignerHandled crypto sealing entry input entry'
      (some (.rotation (.releaseVote vote)))) :
    ∃ plan certificate unsigned transcript,
      input.request = .inl (.release plan certificate) ∧
      vote = { unsigned with
        signerSignature := crypto.sign entry.provision.signingSeed transcript } ∧
      signerReleaseChecks crypto entry plan certificate input.now = .ok (unsigned, transcript) := by
  generalize hreply : some (SignerEvent.rotation (.releaseVote vote)) = reply at hstep
  cases hstep with
  | refused => cases hreply
  | intentConflict => cases hreply
  | intentApproved =>
    obtain ⟨response, hresponse, hevent⟩ := Option.map_eq_some_iff.mp hreply.symm
    obtain ⟨contribution, rfl, -⟩ := intentContribution_eq_ok (toOption_eq_some.mp hresponse)
    cases hevent
  | beginConflict => cases hreply
  | begun =>
    obtain ⟨response, hresponse, hevent⟩ := Option.map_eq_some_iff.mp hreply.symm
    obtain ⟨vote, rfl, -⟩ := beginVote_eq_ok (toOption_eq_some.mp hresponse)
    cases hevent
  | released _ hchecks =>
    cases hreply
    exact ⟨_, _, _, _, rfl, rfl, hchecks⟩
  | activated => cases hreply
  | abortVoted _ habort =>
    obtain ⟨vote, rfl, -⟩ := signerAbort_eq_ok habort
    cases hreply
  | abortFinalized => cases hreply
  | ownerCancelFinalized => cases hreply
  | recoveryApproved =>
    obtain ⟨response, -, hevent⟩ := Option.map_eq_some_iff.mp hreply.symm
    cases hevent
  | recoveryReleased => cases hreply

/-! ### Begin votes before it -/

/-- The answer is a Begin vote for the plan. -/
def Answer.Begins (answer : Answer) (plan : RotationPlan) : Prop :=
  ∃ intentHash vote, answer.input.request = .inl (.begin intentHash plan) ∧
    answer.event = .rotation (.beginVote vote)

/-- The answer is a Begin vote for a plan of this hash. -/
def Answer.BeginsHash (answer : Answer) (planHash : Id32) : Prop :=
  ∃ vote, answer.event = .rotation (.beginVote vote) ∧ vote.planHash = planHash

/-- A Begin is answered when the context and the membership proof fit their transcripts. -/
theorem beginVote_succeeds (crypto : Crypto) (intentHash planHash : Id32)
    (hcontext : Succeeds (contextInto plan.context))
    (hproof : Succeeds (bytes provision.membershipProof)) :
    ∃ vote, beginVote crypto provision intentHash plan planHash = .ok (.beginVote vote) ∧
      vote.planHash = planHash := by
  have hvote : Succeeds (signerRotationBeginVote
      { context := plan.context
        intentHash := intentHash
        planHash := planHash
        oldRosterCommitment := plan.oldRosterCommitment
        newRosterCommitment := plan.newRosterCommitment
        signerId := provision.signerId
        signerPublicKey := provision.signingPublicKey
        signerMembershipProof := provision.membershipProof
        signerSignature := [] }) :=
    (succeeds_domain _ (by decide)).append ((((((((hcontext.append (succeeds_id32 _)).append
      (succeeds_id32 _)).append (succeeds_id32 _)).append (succeeds_id32 _)).append
      (succeeds_u16 _)).append (succeeds_id32 _)).append hproof).append ⟨[], rfl⟩)
  obtain ⟨transcript, htr⟩ := hvote
  exact ⟨_, signed_eq_ok.mpr ⟨transcript, htr, rfl⟩, rfl⟩

/-- A context the signer admits fits its transcript. -/
theorem admitted_context_fits {context : RotationContext}
    (h : signerContextGate entry context now = .ok ()) : Succeeds (contextInto context) := by
  obtain ⟨hversion, -, hissued, hexpiry, hrecipient⟩ := signerContextGate_eq_ok h
  exact succeeds_contextInto hversion (UInt64.lt_of_le_of_lt hissued hexpiry)
    (hrecipient ▸ by decide)

theorem SameSigner.membershipProof (h : SameSigner provision entry) :
    entry.provision.membershipProof = provision.membershipProof :=
  congrArg (·.membershipProof) h

/-- Every plan hash the table of Begin votes holds has been voted for, unless no vote of this signer
fits its transcript. -/
def BegunVoted (provision : SignerRotationProvisionV3) (entry : SignerRotationEntryV3)
    (out : List Answer) : Prop :=
  SameSigner provision entry ∧
    ∀ rotationId planHash : Id32, entry.securityState.beginVotes[rotationId]? = some planHash →
      Succeeds (bytes provision.membershipProof) → ∃ answer ∈ out, answer.BeginsHash planHash

theorem begunVoted_frame {out later : List Answer} (h : BegunVoted provision entry out)
    (hsigner : SameSigner provision entry')
    (hvotes : entry'.securityState.beginVotes = entry.securityState.beginVotes) :
    BegunVoted provision entry' (out ++ later) := by
  refine ⟨hsigner, fun rotationId planHash hfound hproof => ?_⟩
  rw [hvotes] at hfound
  obtain ⟨answer, hmem, hbegins⟩ := h.2 rotationId planHash hfound hproof
  exact ⟨answer, List.mem_append_left _ hmem, hbegins⟩

theorem BegunVoted.handled {out : List Answer} {reply : Option SignerEvent}
    (h : BegunVoted provision entry out)
    (hstep : SignerHandled crypto sealing entry input entry' reply) :
    BegunVoted provision entry' (out ++ (reply.map fun event => Answer.mk input event).toList) := by
  have hsigner := h.1.handled hstep
  cases hstep with
  | refused => exact begunVoted_frame h hsigner rfl
  | intentConflict => exact begunVoted_frame h hsigner rfl
  | intentApproved => exact begunVoted_frame h hsigner rfl
  | beginConflict => exact begunVoted_frame h hsigner rfl
  | @begun now random intentHash _ plan _ _ hgate _ _ hvotes =>
    refine ⟨hsigner, fun rotationId planHash hfound hproof => ?_⟩
    rcases recordOnce_new hvotes hfound with hold | ⟨rfl, rfl⟩
    · obtain ⟨answer, hmem, hbegins⟩ := h.2 rotationId planHash hold hproof
      exact ⟨answer, List.mem_append_left _ hmem, hbegins⟩
    · have hproof' : Succeeds (bytes entry.provision.membershipProof) := by
        rwa [h.1.membershipProof]
      obtain ⟨vote, hvote, hhash⟩ := beginVote_succeeds crypto intentHash planHash
        (admitted_context_fits hgate) hproof'
      refine ⟨⟨⟨now, random, .inl (.begin intentHash plan)⟩, .rotation (.beginVote vote)⟩,
        List.mem_append_right _ ?_, vote, rfl, hhash⟩
      rw [hvote]
      exact List.mem_singleton_self _
  | released => exact begunVoted_frame h hsigner rfl
  | activated => exact begunVoted_frame h hsigner rfl
  | abortVoted => exact begunVoted_frame h hsigner rfl
  | abortFinalized _ hfinalize =>
    obtain ⟨-, -, -, _, rfl⟩ := signerFinalizeAbort_eq_ok hfinalize
    exact begunVoted_frame h hsigner rfl
  | ownerCancelFinalized _ hfinalize =>
    obtain ⟨-, -, ⟨-, rfl⟩ | ⟨-, _, rfl⟩⟩ := signerFinalizeOwnerCancel_eq_ok hfinalize
    · exact begunVoted_frame h hsigner rfl
    · exact begunVoted_frame h hsigner rfl
  | recoveryApproved _ hremembered =>
    obtain ⟨-, hstore⟩ := rememberRequest_provision hremembered
    exact begunVoted_frame h hsigner (by rw [hstore])
  | recoveryReleased => exact begunVoted_frame h hsigner rfl

theorem run_begunVoted (inputs : List SignerInput) :
    BegunVoted provision (signerRun crypto sealing provision inputs)
      (signerAnswers crypto sealing provision inputs) := by
  refine run_signerHandled_along (fun _ _ _ => True) (BegunVoted provision)
    ⟨rfl, fun rotationId planHash hfound => ?_⟩ (fun _ _ _ _ _ h _ hstep => h.handled hstep)
    (Machine.along_of_forall _ (fun _ _ => trivial) _ _)
  have hempty : (∅ : Std.TreeMap Id32 Id32)[rotationId]? = some planHash := hfound
  simp at hempty

/-- An answered Begin finds the time of the plan's context in the past. -/
def BegunSinceIssue (out : List Answer) : Prop :=
  ∀ answer ∈ out, ∀ plan, answer.Begins plan → plan.context.issuedAt ≤ answer.input.now

theorem handled_begins {reply : Option SignerEvent} {answer : Answer}
    (hstep : SignerHandled crypto sealing entry input entry' reply)
    (hanswer : answer ∈ (reply.map fun event => Answer.mk input event).toList)
    (hbegins : answer.Begins plan) : plan.context.issuedAt ≤ answer.input.now := by
  obtain ⟨event, hevent, rfl⟩ := Option.map_eq_some_iff.mp (Option.mem_toList.mp hanswer)
  obtain ⟨intentHash, vote, hrequest, -⟩ := hbegins
  cases hstep with
  | refused => cases hevent
  | beginConflict => cases hevent
  | begun hgate =>
    cases hrequest
    exact (signerContextGate_eq_ok hgate).2.2.1
  | _ => cases hrequest

theorem run_begunSinceIssue (inputs : List SignerInput) :
    BegunSinceIssue (signerAnswers crypto sealing provision inputs) := by
  refine run_signerHandled_along (fun _ _ _ => True) (fun _ => BegunSinceIssue)
    (fun _ hmem => by cases hmem) (fun _ out _ _ _ h _ hstep answer hmem plan hbegins => ?_)
    (Machine.along_of_forall _ (fun _ _ => trivial) provision.entry _)
  rcases List.mem_append.mp hmem with hold | hnew
  · exact h answer hold plan hbegins
  · exact handled_begins hstep hnew hbegins

/-! ### The delay of a Release vote -/

/-- What stands behind a Release vote for a plan: a Begin vote for the same hash, the delay of the
plan since the time in its context, and a delay no shorter than its predecessor's. -/
structure ReleaseWaited (crypto : Crypto) (before : List Answer) (predecessor : ConfigCapsuleV3)
    (plan : RotationPlan) (planHash : Id32) (now : UInt64) : Prop where
  hash : HasHash crypto plan planHash
  begun : ∃ answer ∈ before, answer.BeginsHash planHash
  elapsed : plan.context.issuedAt.toNat + plan.minimumDelaySecs.toNat ≤ now.toNat
  issued : ∀ answer ∈ before, answer.Begins plan → plan.context.issuedAt ≤ answer.input.now
  follows : plan.predecessor = predecessor.configRef ∧
    plan.context.predecessorCapsuleHash = predecessor.capsuleHash
  policy : predecessor.minimumRecoveryDelay ≤ plan.minimumDelaySecs

/-- In every run of a signer, a Release vote waits out the plan's delay from the time in its
context. -/
theorem release_waited {earlier : List SignerInput} {vote : SignerRotationReleaseVote}
    (hrequest : input.request = .inl (.release plan certificate))
    (hvote : ((signerMachine crypto sealing).step (signerRun crypto sealing provision earlier)
      input).2 = some (.rotation (.releaseVote vote))) :
    ReleaseWaited crypto (signerAnswers crypto sealing provision earlier)
      (signerRun crypto sealing provision earlier).provision.activeCapsule plan vote.planHash
      input.now := by
  have hstep : SignerHandled crypto sealing (signerRun crypto sealing provision earlier) input _ _ :=
    signerMachine_handled _ input
  rw [hvote] at hstep
  obtain ⟨plan', certificate', unsigned, transcript, hrequest', rfl, hchecks⟩ :=
    handled_releaseVote hstep
  cases hrequest.symm.trans hrequest'
  obtain ⟨hbegun, ⟨_, hvalid⟩, -, htranscript⟩ := signerReleaseChecks_eq_ok hchecks
  obtain ⟨hdelay, hsame⟩ := signerReleaseChecks_delay hchecks
  have hvoted : BegunVoted provision (signerRun crypto sealing provision earlier) _ :=
    run_begunVoted earlier
  have hproof : Succeeds (bytes provision.membershipProof) := by
    rw [← hvoted.1.membershipProof, ← hsame]
    exact Succeeds.right (Succeeds.left (Succeeds.right ⟨transcript, htranscript⟩))
  exact ⟨hbegun.hash, hvoted.2 _ _ hbegun.begun hproof, hdelay, fun answer hmem => run_begunSinceIssue earlier answer hmem plan,
    ⟨hvalid.predecessorRef, hvalid.predecessorHash⟩, hvalid.delay⟩

/-! ### Begin and Release at one time -/

/-- Between a Begin vote and a Release vote for a plan the signer's clock moves on by the delay. -/
def WaitsFromBegin (crypto : Crypto) (sealing : Sealing) (provision : SignerRotationProvisionV3)
    (inputs : List SignerInput) : Prop :=
  ∀ earlier input later, inputs = earlier ++ input :: later → ∀ plan certificate vote,
    input.request = .inl (.release plan certificate) →
    ((signerMachine crypto sealing).step (signerRun crypto sealing provision earlier) input).2 =
      some (.rotation (.releaseVote vote)) →
    ∀ answer ∈ signerAnswers crypto sealing provision earlier, answer.Begins plan →
      answer.input.now.toNat + plan.minimumDelaySecs.toNat ≤ input.now.toNat

/-- The context is ten seconds old when the signer sees the rotation, and so is the delay. -/
def sampleHurriedIntent : SignerInput :=
  rotationInput 15 (.intent (sampleIntent samplePlan70.context) sampleChallenge sampleGenesisReads)

def sampleHurriedBegin : SignerInput :=
  rotationInput 15 (.begin samplePlan70.intentHash samplePlan70)

def sampleHurriedRelease : SignerInput :=
  rotationInput 15 (.release samplePlan70 (sampleBeginCertificate samplePlan70 samplePlanHash70))

def sampleHurriedVote : SignerRotationReleaseVote :=
  let unsigned := releaseVote sampleSignerProvision samplePlan70 samplePlanHash70 1288894752
  { unsigned with
    signerSignature := signOf (sampleSignerSeed 1) (signerRotationReleaseVote unsigned) }

def sampleHurriedRun : List SignerInput :=
  [sampleHurriedIntent, sampleHurriedBegin, sampleHurriedRelease]

theorem hurried_begin :
    ((signerMachine Crypto.transparent sampleSealing).step
      (signerRun Crypto.transparent sampleSealing sampleSignerProvision [sampleHurriedIntent])
      sampleHurriedBegin).2 =
        some (.rotation (.beginVote (sampleBeginVote samplePlan70 samplePlanHash70 1))) := by
  decide +kernel

theorem hurried_release :
    ((signerMachine Crypto.transparent sampleSealing).step
      (signerRun Crypto.transparent sampleSealing sampleSignerProvision
        [sampleHurriedIntent, sampleHurriedBegin]) sampleHurriedRelease).2 =
          some (.rotation (.releaseVote sampleHurriedVote)) := by
  decide +kernel

theorem hurried_begin_answered :
    ⟨sampleHurriedBegin, .rotation (.beginVote (sampleBeginVote samplePlan70 samplePlanHash70 1))⟩ ∈
      sampleSigner ([sampleHurriedIntent] ++ [sampleHurriedBegin]) :=
  answered hurried_begin

theorem release_waited_sample :
    ReleaseWaited Crypto.transparent (sampleSigner [sampleHurriedIntent, sampleHurriedBegin])
      (signerRun Crypto.transparent sampleSealing sampleSignerProvision
        [sampleHurriedIntent, sampleHurriedBegin]).provision.activeCapsule samplePlan70
      sampleHurriedVote.planHash sampleHurriedRelease.now := by
  have hrequest : sampleHurriedRelease.request = .inl (.release samplePlan70
    (sampleBeginCertificate samplePlan70 samplePlanHash70)) := rfl
  exact release_waited hrequest hurried_release

/-- No time passes between the two votes. -/
theorem released_without_delay :
    ¬∀ (crypto : Crypto) (sealing : Sealing) (provision : SignerRotationProvisionV3)
      (inputs : List SignerInput), inputs.Pairwise (fun first second => first.now ≤ second.now) →
      WaitsFromBegin crypto sealing provision inputs := by
  intro hclaim
  have hwaits := hclaim Crypto.transparent sampleSealing sampleSignerProvision sampleHurriedRun
    (by decide)
  have hdelay := hwaits [sampleHurriedIntent, sampleHurriedBegin] sampleHurriedRelease [] rfl _ _ _
    rfl hurried_release _ hurried_begin_answered ⟨_, _, rfl, rfl⟩
  exact absurd hdelay (by decide)

end MasterRecovery
