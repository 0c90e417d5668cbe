import MasterRecovery.DrainingVotes

/-!
# What a signer has approved

A recovery request is recorded under its id when it is approved first, and its nonce with it. A
repeat is let through for the recorded digest only, so the record decides what a signer ever answers
for an id.
-/

namespace MasterRecovery
open Checks Transcript Wire

variable {crypto : Crypto} {sealing : Sealing} {entry entry' : SignerRotationEntryV3}
  {provision : SignerRotationProvisionV3} {input input' : SignerInput} {reply : Option SignerEvent}
  {inputs before before' after after' : List SignerInput} {request request' : RecoveryRequestV3}
  {digest digest' id : Id32}

/-! ### One request -/

/-- The signer approves the request under this digest: its checks pass and it is recorded, now or
before. Only then does the signer seal its share. -/
def Approves (crypto : Crypto) (entry : SignerRotationEntryV3) (input : SignerInput)
    (request : RecoveryRequestV3) (digest : Id32) : Prop :=
  ∃ challenge reads active remembered,
    input.request = .inr (.approve request challenge reads) ∧
    approveChecks crypto entry request challenge reads input.now = .ok (active, digest) ∧
    rememberRequest request digest entry = .ok remembered

/-- The first approval under an id binds it. -/
structure BindsRequest (crypto : Crypto) (entry : SignerRotationEntryV3) (input : SignerInput)
    (request : RecoveryRequestV3) (digest : Id32) (entry' : SignerRotationEntryV3) : Prop where
  approves : Approves crypto entry input request digest
  unbound : entry.recoveryRequests[request.requestId]? = none
  fresh : request.nonce ∉ entry.recoveryNonces
  requests : entry'.recoveryRequests = entry.recoveryRequests.insert request.requestId digest
  nonces : entry'.recoveryNonces = insert request.nonce entry.recoveryNonces

/-- Ids and nonces as they were. -/
def SameRecord (entry entry' : SignerRotationEntryV3) : Prop :=
  entry'.recoveryRequests = entry.recoveryRequests ∧ entry'.recoveryNonces = entry.recoveryNonces

/-- A request changes the record only by binding an id. -/
theorem handled_record (hstep : SignerHandled crypto sealing entry input entry' reply) :
    SameRecord entry entry' ∨
      ∃ request digest, BindsRequest crypto entry input request digest entry' := by
  cases hstep with
  | abortFinalized _ hfinalize =>
    obtain ⟨-, -, -, _, rfl⟩ := signerFinalizeAbort_eq_ok hfinalize
    exact Or.inl ⟨rfl, rfl⟩
  | ownerCancelFinalized _ hfinalize =>
    obtain ⟨-, -, ⟨-, rfl⟩ | ⟨-, _, rfl⟩⟩ := signerFinalizeOwnerCancel_eq_ok hfinalize
    · exact Or.inl ⟨rfl, rfl⟩
    · exact Or.inl ⟨rfl, rfl⟩
  | @recoveryApproved now random request challenge reads active digest remembered hchecks
      hremembered =>
    have happroves : Approves crypto entry ⟨now, random, .inr (.approve request challenge reads)⟩
        request digest := ⟨challenge, reads, active, remembered, rfl, hchecks, hremembered⟩
    cases hfound : entry.recoveryRequests[request.requestId]? with
    | some previous =>
      simp only [rememberRequest, hfound, bind_unit_eq_ok, Except.ok.injEq] at hremembered
      obtain ⟨-, rfl⟩ := hremembered
      exact Or.inl ⟨rfl, rfl⟩
    | none =>
      simp only [rememberRequest, hfound, bind_unit_eq_ok, bailIf_eq_ok, Except.ok.injEq]
        at hremembered
      obtain ⟨hfresh, rfl⟩ := hremembered
      exact Or.inr ⟨request, digest, happroves, hfound, hfresh, rfl, rfl⟩
  | _ => exact Or.inl ⟨rfl, rfl⟩

theorem handled_nonce (hstep : SignerHandled crypto sealing entry input entry' reply) {nonce : Id32}
    (h : nonce ∈ entry.recoveryNonces) : nonce ∈ entry'.recoveryNonces := by
  rcases handled_record hstep with hsame | ⟨request, digest, hbinds⟩
  · rw [hsame.2]
    exact h
  · rw [hbinds.nonces]
    exact Finset.mem_insert_of_mem h

/-- An approved request is recorded under its digest. -/
theorem Approves.recorded (h : Approves crypto entry input request digest) :
    ((signerMachine crypto sealing).step entry input).1.recoveryRequests[request.requestId]? =
      some digest := by
  obtain ⟨challenge, reads, active, remembered, hrequest, hchecks, hremembered⟩ := h
  obtain ⟨now, random, inner⟩ := input
  cases hrequest
  have hstep : ((signerMachine crypto sealing).step entry
      ⟨now, random, .inr (.approve request challenge reads)⟩).1 =
        { remembered with provision := { entry.provision with activeCapsule := active } } := by
    simp only [signerMachine, handleSignerRecoveryV3, signerApprove, hchecks, hremembered]
  have hrecorded := rememberRequest_recorded hremembered
  rw [hstep]
  exact hrecorded

/-- The request's own digest. -/
def HasRecoveryDigest (crypto : Crypto) (request : RecoveryRequestV3) (digest : Id32) : Prop :=
  ∃ transcript, Wire.recoveryRequestDigestV3 request = .ok transcript ∧
    crypto.sha256 transcript = digest

theorem Approves.hasDigest (h : Approves crypto entry input request digest) :
    HasRecoveryDigest crypto request digest := by
  obtain ⟨challenge, reads, active, remembered, -, hchecks, -⟩ := h
  exact (approveChecks_eq_ok hchecks).2.2.digest

/-! ### Runs -/

/-- The signer after one more request. -/
theorem signerRun_step :
    SignerHandled crypto sealing (signerRun crypto sealing provision before) input
      (signerRun crypto sealing provision (before ++ [input]))
      ((signerMachine crypto sealing).step (signerRun crypto sealing provision before) input).2 := by
  rw [signerRun_concat]
  exact signerMachine_handled _ _

theorem recorded_kept
    (h : (signerRun crypto sealing provision before).recoveryRequests[id]? = some digest) :
    (signerRun crypto sealing provision (before ++ after)).recoveryRequests[id]? = some digest := by
  induction after using List.reverseRecOn with
  | nil => simpa using h
  | append_singleton after input ih =>
    rw [← List.append_assoc]
    exact handled_recoveryRequests signerRun_step ih

theorem nonce_kept {nonce : Id32}
    (h : nonce ∈ (signerRun crypto sealing provision before).recoveryNonces) :
    nonce ∈ (signerRun crypto sealing provision (before ++ after)).recoveryNonces := by
  induction after using List.reverseRecOn with
  | nil => simpa using h
  | append_singleton after input ih =>
    rw [← List.append_assoc]
    exact handled_nonce signerRun_step ih

/-- After `before`, the input is the first to bind the request's id. -/
def BindsAfter (crypto : Crypto) (sealing : Sealing) (provision : SignerRotationProvisionV3)
    (before : List SignerInput) (input : SignerInput) (request : RecoveryRequestV3)
    (digest : Id32) : Prop :=
  BindsRequest crypto (signerRun crypto sealing provision before) input request digest
    (signerRun crypto sealing provision (before ++ [input]))

/-- What is recorded was bound by one approval of the run. -/
theorem recorded_bound
    (h : (signerRun crypto sealing provision inputs).recoveryRequests[id]? = some digest) :
    ∃ before input after request, inputs = before ++ input :: after ∧ request.requestId = id ∧
      BindsAfter crypto sealing provision before input request digest := by
  induction inputs using List.reverseRecOn with
  | nil => simp [signerRun, SignerRotationProvisionV3.entry] at h
  | append_singleton inputs input ih =>
    have hearlier (hfound : (signerRun crypto sealing provision inputs).recoveryRequests[id]? =
        some digest) : ∃ before input' after request,
          inputs ++ [input] = before ++ input' :: after ∧ request.requestId = id ∧
            BindsAfter crypto sealing provision before input' request digest := by
      obtain ⟨before, input', after, request, hsplit, hid, hbinds⟩ := ih hfound
      exact ⟨before, input', after ++ [input], request, by rw [hsplit]; simp, hid, hbinds⟩
    rcases handled_record signerRun_step with hsame | ⟨request, other, hbinds⟩
    · rw [hsame.1] at h
      exact hearlier h
    · have hfound := h
      rw [hbinds.requests, getElem?_insert_iff] at hfound
      rcases hfound with ⟨rfl, rfl⟩ | ⟨-, hfound⟩
      · exact ⟨inputs, input, [], request, rfl, rfl, hbinds⟩
      · exact hearlier hfound

/-- Of two places in a run one is first, or they are the same. -/
theorem split_cases {α : Type} {x y x' y' : List α} {a a' : α}
    (h : x ++ a :: y = x' ++ a' :: y') :
    x = x' ∨ (∃ z, x' = x ++ a :: z) ∨ ∃ z, x = x' ++ a' :: z := by
  rcases List.append_eq_append_iff.mp h with ⟨z, hz, hrest⟩ | ⟨z, hz, hrest⟩
  · cases z with
    | nil => exact Or.inl (by simpa using hz.symm)
    | cons b z =>
      cases hrest
      exact Or.inr (Or.inl ⟨z, hz⟩)
  · cases z with
    | nil => exact Or.inl (by simpa using hz)
    | cons b z =>
      cases hrest
      exact Or.inr (Or.inr ⟨z, hz⟩)

/-- A nonce that has been bound is not free any more. -/
theorem bound_nonce_taken {rest : List SignerInput}
    (h : BindsAfter crypto sealing provision before input request digest)
    (h' : BindsAfter crypto sealing provision (before ++ input :: rest) input' request' digest') :
    request.nonce ≠ request'.nonce := by
  intro hnonce
  have htaken : request.nonce ∈
      (signerRun crypto sealing provision (before ++ [input])).recoveryNonces := by
    rw [h.nonces]
    exact Finset.mem_insert_self _ _
  have hkept : request.nonce ∈
      (signerRun crypto sealing provision ((before ++ [input]) ++ rest)).recoveryNonces :=
    nonce_kept htaken
  rw [List.append_assoc, List.singleton_append] at hkept
  exact h'.fresh (hnonce ▸ hkept)

/-- No nonce is bound at two places. -/
theorem bound_nonce_once
    (hsplit : inputs = before ++ input :: after) (hsplit' : inputs = before' ++ input' :: after')
    (h : BindsAfter crypto sealing provision before input request digest)
    (h' : BindsAfter crypto sealing provision before' input' request' digest')
    (hnonce : request.nonce = request'.nonce) : before = before' := by
  rcases split_cases (hsplit.symm.trans hsplit') with hsame | ⟨rest, rfl⟩ | ⟨rest, rfl⟩
  · exact hsame
  · exact (bound_nonce_taken h h' hnonce).elim
  · exact (bound_nonce_taken h' h hnonce.symm).elim

/-- At one place one request is approved. -/
theorem approves_same (h : Approves crypto entry input request digest)
    (h' : Approves crypto entry input request' digest') : request = request' := by
  obtain ⟨_, _, _, _, hrequest, -⟩ := h
  obtain ⟨_, _, _, _, hrequest', -⟩ := h'
  rw [hrequest] at hrequest'
  cases hrequest'
  rfl

/-- No nonce is bound with two ids. -/
theorem bound_nonce_id
    (hsplit : inputs = before ++ input :: after) (hsplit' : inputs = before' ++ input' :: after')
    (h : BindsAfter crypto sealing provision before input request digest)
    (h' : BindsAfter crypto sealing provision before' input' request' digest')
    (hnonce : request.nonce = request'.nonce) : request.requestId = request'.requestId := by
  have hplace := bound_nonce_once hsplit hsplit' h h' hnonce
  subst hplace
  have hsame := List.append_cancel_left (hsplit.symm.trans hsplit')
  cases hsame
  exact congrArg _ (approves_same h.approves h'.approves)

/-- The transcripts of the requests that are approved in a run. -/
def approvedTranscripts (crypto : Crypto) (sealing : Sealing)
    (provision : SignerRotationProvisionV3) (inputs : List SignerInput) : Set Bytes :=
  {x | ∃ before input after request digest, inputs = before ++ input :: after ∧
    Approves crypto (signerRun crypto sealing provision before) input request digest ∧
    Wire.recoveryRequestDigestV3 request = .ok x}

/-- Where no two transcripts collide, an approval is for the request that its id was bound to. -/
theorem approves_bound
    (hfree : crypto.CollisionFree (approvedTranscripts crypto sealing provision inputs))
    (hsplit : inputs = before ++ input :: after)
    (h : Approves crypto (signerRun crypto sealing provision before) input request digest) :
    ∃ first input' rest, inputs = first ++ input' :: rest ∧
      BindsAfter crypto sealing provision first input' request digest := by
  have hrun : (signerRun crypto sealing provision
      (before ++ [input])).recoveryRequests[request.requestId]? = some digest := by
    rw [signerRun_concat]
    exact h.recorded
  obtain ⟨first, input', rest, original, hfirst, hid, hbinds⟩ := recorded_bound hrun
  have hplace : inputs = first ++ input' :: (rest ++ after) := by
    rw [hsplit, ← List.singleton_append, ← List.append_assoc, hfirst]
    simp
  obtain ⟨x, hx, hdigest⟩ := h.hasDigest
  obtain ⟨x', hx', hdigest'⟩ := hbinds.approves.hasDigest
  have hsame : x = x' := hfree ⟨before, input, after, request, digest, hsplit, h, hx⟩
    ⟨first, input', rest ++ after, original, digest, hplace, hbinds.approves, hx'⟩
    (hdigest.trans hdigest'.symm)
  subst hsame
  have horiginal : request = original :=
    recoveryRequestDigestV3_framed.binds.injective hx hx'
  subst horiginal
  exact ⟨first, input', rest ++ after, hplace, hbinds⟩

/-! ### Answers -/

/-- What a contribution rests on: the witnesses' view for a challenge of the request's own recipient,
and an approval of the request. -/
structure SignerGrounds (crypto : Crypto) (entry : SignerRotationEntryV3)
    (input : SignerInput) (request : RecoveryRequestV3) (digest : Id32) : Prop where
  approves : Approves crypto entry input request digest
  view : ∃ challenge reads active, input.request = .inr (.approve request challenge reads) ∧
    selectLatestEpochV3 crypto entry.provision.recoveryCard challenge reads = .ok active ∧
    challenge.responseRecipientKey = request.recoveryRecipientKey

theorem handled_contribution_grounds {contribution : SignerRecoveryContributionV3}
    (hstep : SignerHandled crypto sealing entry input entry'
      (some (.recovery (.contribution contribution)))) :
    ∃ digest, SignerGrounds crypto entry input contribution.request digest := by
  generalize hreply : some (SignerEvent.recovery (.contribution contribution)) = reply at hstep
  cases hstep with
  | @recoveryApproved now random request challenge reads active digest remembered hchecks
      hremembered =>
    obtain ⟨response, hresponse, heq⟩ := Option.map_eq_some_iff.mp hreply.symm
    cases heq
    obtain ⟨_, hsame, rfl⟩ := recoveryContribution_eq_ok (toOption_eq_some.mp hresponse)
    cases hsame
    obtain ⟨hfresh, hselected, -⟩ := approveChecks_eq_ok hchecks
    rw [bailIf_eq_ok, not_or, not_or, not_not] at hfresh
    exact ⟨digest, ⟨challenge, reads, active, remembered, rfl, hchecks, hremembered⟩,
      challenge, reads, active, rfl, hselected, hfresh.2.2⟩
  | intentApproved | begun =>
    obtain ⟨_, -, hevent⟩ := Option.map_eq_some_iff.mp hreply.symm
    cases hevent
  | recoveryReleased hrelease =>
    obtain ⟨_, rfl, -⟩ := signerRecoveryRelease_eq_ok hrelease
    cases hreply
  | _ => cases hreply

theorem handled_recoveryVote {vote : SignerRecoveryReleaseVoteV3}
    (hstep : SignerHandled crypto sealing entry input entry'
      (some (.recovery (.releaseVote vote)))) :
    HasRecoveryDigest crypto vote.request vote.requestDigest ∧
      entry.recoveryRequests[vote.request.requestId]? = some vote.requestDigest := by
  generalize hreply : some (SignerEvent.recovery (.releaseVote vote)) = reply at hstep
  cases hstep with
  | recoveryApproved hchecks hremembered =>
    obtain ⟨response, hresponse, heq⟩ := Option.map_eq_some_iff.mp hreply.symm
    cases heq
    obtain ⟨_, hsame, -⟩ := recoveryContribution_eq_ok (toOption_eq_some.mp hresponse)
    cases hsame
  | intentApproved | begun =>
    obtain ⟨_, -, hevent⟩ := Option.map_eq_some_iff.mp hreply.symm
    cases hevent
  | recoveryReleased hrelease =>
    obtain ⟨answer, rfl, hrequest, hvalid, hrecorded⟩ := signerRecoveryRelease_eq_ok hrelease
    cases hreply
    subst hrequest
    exact ⟨hvalid.digest, hrecorded⟩
  | _ => cases hreply

/-- An approval that is refused, and one that is not, leaves every other id as it was. -/
theorem handled_approve_others {challenge : EpochReadChallenge} {reads : List WitnessReadEnvelope}
    (hrequest : input.request = .inr (.approve request challenge reads))
    (hstep : SignerHandled crypto sealing entry input entry' reply)
    (hother : id ≠ request.requestId) :
    entry'.recoveryRequests[id]? = entry.recoveryRequests[id]? := by
  rcases handled_record hstep with hsame | ⟨bound, digest, hbinds⟩
  · rw [hsame.1]
  · obtain ⟨_, _, _, _, hbound, -⟩ := hbinds.approves
    rw [hrequest] at hbound
    cases hbound
    rw [hbinds.requests, Std.TreeMap.getElem?_insert]
    simp [Ne.symm hother]

/-! ### The ledger of approvals -/

/-- What a signer does at one place of a run. -/
structure SignerPlace (crypto : Crypto) (sealing : Sealing) (provision : SignerRotationProvisionV3)
    (inputs : List SignerInput) where
  before : List SignerInput
  input : SignerInput
  after : List SignerInput
  split : inputs = before ++ input :: after

namespace SignerPlace

variable (place : SignerPlace crypto sealing provision inputs)

/-- The signer as it is before the request. -/
def found : SignerRotationEntryV3 := signerRun crypto sealing provision place.before

/-- The signer as it is after the request. -/
def left : SignerRotationEntryV3 := signerRun crypto sealing provision (place.before ++ [place.input])

/-- What the request is answered. -/
def answer : Option SignerEvent := ((signerMachine crypto sealing).step place.found place.input).2

theorem handled : SignerHandled crypto sealing place.found place.input place.left place.answer :=
  signerRun_step

end SignerPlace

/-- The approvals of a run: ids and nonces are bound once, and the answers follow the bindings. -/
structure ApprovalsReplayFree (crypto : Crypto) (sealing : Sealing)
    (provision : SignerRotationProvisionV3) (inputs : List SignerInput) : Prop where
  bound : ∀ (place : SignerPlace crypto sealing provision inputs) (id digest : Id32),
    place.left.recoveryRequests[id]? = some digest →
    (signerRun crypto sealing provision inputs).recoveryRequests[id]? = some digest
  boundNonces : ∀ (place place' : SignerPlace crypto sealing provision inputs) request request'
      digest digest',
    BindsRequest crypto place.found place.input request digest place.left →
    BindsRequest crypto place'.found place'.input request' digest' place'.left →
    request.nonce = request'.nonce → request.requestId = request'.requestId
  nonces : crypto.CollisionFree (approvedTranscripts crypto sealing provision inputs) →
    ∀ (place place' : SignerPlace crypto sealing provision inputs) request request' digest digest',
      Approves crypto place.found place.input request digest →
      Approves crypto place'.found place'.input request' digest' →
      request.nonce = request'.nonce → request.requestId = request'.requestId
  contributions : ∀ (place : SignerPlace crypto sealing provision inputs) contribution,
    place.answer = some (.recovery (.contribution contribution)) →
    ∃ digest, HasRecoveryDigest crypto contribution.request digest ∧
      place.left.recoveryRequests[contribution.request.requestId]? = some digest ∧
      SignerGrounds crypto place.found place.input contribution.request digest
  votes : ∀ (place : SignerPlace crypto sealing provision inputs) vote,
    place.answer = some (.recovery (.releaseVote vote)) →
    HasRecoveryDigest crypto vote.request vote.requestDigest ∧
      ∃ (earlier : SignerPlace crypto sealing provision place.before) (request : RecoveryRequestV3),
        request.requestId = vote.request.requestId ∧
        Approves crypto earlier.found earlier.input request vote.requestDigest
  refused : ∀ (place : SignerPlace crypto sealing provision inputs) request challenge reads,
    place.input.request = .inr (.approve request challenge reads) → place.answer = none →
    ∀ id, id ≠ request.requestId →
      place.left.recoveryRequests[id]? = place.found.recoveryRequests[id]?

theorem approvals_replay_free (crypto : Crypto) (sealing : Sealing)
    (provision : SignerRotationProvisionV3) (inputs : List SignerInput) :
    ApprovalsReplayFree crypto sealing provision inputs where
  bound place id digest h := by
    have hkept : (signerRun crypto sealing provision
        ((place.before ++ [place.input]) ++ place.after)).recoveryRequests[id]? = some digest :=
      recorded_kept h
    rw [List.append_assoc, List.singleton_append, ← place.split] at hkept
    exact hkept
  boundNonces place place' request request' digest digest' h h' hnonce :=
    bound_nonce_id place.split place'.split h h' hnonce
  nonces hfree place place' request request' digest digest' h h' hnonce := by
    obtain ⟨first, input, rest, hsplit, hbinds⟩ := approves_bound hfree place.split h
    obtain ⟨first', input', rest', hsplit', hbinds'⟩ := approves_bound hfree place'.split h'
    exact bound_nonce_id hsplit hsplit' hbinds hbinds' hnonce
  contributions place contribution hanswer := by
    have hstep := place.handled
    rw [hanswer] at hstep
    obtain ⟨digest, hgrounds⟩ := handled_contribution_grounds hstep
    refine ⟨digest, hgrounds.approves.hasDigest, ?_, hgrounds⟩
    rw [SignerPlace.left, signerRun_concat]
    exact hgrounds.approves.recorded
  votes place vote hanswer := by
    have hstep := place.handled
    rw [hanswer] at hstep
    obtain ⟨hdigest, hrecorded⟩ := handled_recoveryVote hstep
    obtain ⟨before, input, after, request, hsplit, hid, hbinds⟩ := recorded_bound hrecorded
    exact ⟨hdigest, ⟨before, input, after, hsplit⟩, request, hid, hbinds.approves⟩
  refused place request challenge reads hrequest _ id hother :=
    handled_approve_others hrequest place.handled hother

end MasterRecovery
