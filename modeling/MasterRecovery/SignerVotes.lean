import MasterRecovery.SignerLocks
import MasterRecovery.RollbackSafety

/-!
# What a signer's votes exclude

The tables of a signer hold every vote it has answered, one of each kind for a rotation.
A rotation that has ended gets no further vote, and what it had locked is free.
-/

namespace MasterRecovery
open Checks Transcript Wire

variable {crypto : Crypto} {sealing : Sealing} {entry entry' : SignerRotationEntryV3}
  {provision : SignerRotationProvisionV3} {input : SignerInput} {event : SignerEvent}
  {reply : Option SignerEvent} {plans : Set RotationPlan} {out : List Answer}

/-! ### Votes -/

/-- The answer is a vote that carries the rotation on or aborts it. -/
def SignerEvent.VotesIn (rotationId : Id32) : SignerEvent → Prop
  | .rotation (.beginVote vote) => vote.context.rotationId = rotationId
  | .rotation (.releaseVote vote) => vote.context.rotationId = rotationId
  | .rotation (.activateVote vote) => vote.context.rotationId = rotationId
  | .rotation (.abortVote vote) => vote.context.rotationId = rotationId
  | _ => False

/-- The finalization of an abort or of an owner cancel was accepted. -/
def Answer.Ends (answer : Answer) (rotationId : Id32) : Prop :=
  (answer.event = .rotation .abortFinalized ∨ answer.event = .rotation .ownerCancelFinalized) ∧
    ∃ request, answer.input.request = .inl request ∧ request.context.rotationId = rotationId

/-- The finalization of an owner cancel that a witness quorum has vetoed. -/
def Answer.OwnerCancels (crypto : Crypto) (card : RecoveryCardV3) (answer : Answer)
    (rotationId : Id32) : Prop :=
  answer.event = .rotation .ownerCancelFinalized ∧
    ∃ plan certificate witnessAcks recipientKey,
      answer.input.request = .inl (.finalizeOwnerCancel plan certificate witnessAcks recipientKey) ∧
      plan.context.rotationId = rotationId ∧
      VetoAccepted crypto card certificate witnessAcks plan

/-- The contribution is for this intent. -/
def ApprovesIntent (crypto : Crypto) (contribution : SignerRotationIntentContribution)
    (intent : RotationIntent) : Prop :=
  contribution.context = intent.context ∧ ∃ transcript, rotationIntent intent = .ok transcript ∧
    contribution.intentHash = crypto.sha256 transcript

/-- The vote begins this plan. -/
def BeginsPlan (crypto : Crypto) (provision : SignerRotationProvisionV3)
    (vote : SignerRotationBeginVote) (plan : RotationPlan) : Prop :=
  HasHash crypto plan vote.planHash ∧
    beginVote crypto provision plan.intentHash plan vote.planHash = .ok (.beginVote vote)

/-- What the tables hold of an answer. -/
def Recorded (crypto : Crypto) (provision : SignerRotationProvisionV3) (plans : Set RotationPlan)
    (store : SignerRotationStore) (answer : Answer) : Prop :=
  match answer.event with
  | .rotation (.intentContribution contribution) =>
    ∃ intent, store.intents[contribution.context.rotationId]? = some intent ∧
      ApprovesIntent crypto contribution intent
  | .rotation (.beginVote vote) =>
    store.beginVotes[vote.context.rotationId]? = some vote.planHash ∧
      ∃ plan ∈ plans, BeginsPlan crypto provision vote plan
  | .rotation (.releaseVote vote) =>
    ∃ transcript, signerRotationReleaseVote vote = .ok transcript ∧
      store.releaseVotes[vote.context.rotationId]? = some (crypto.sha256 transcript) ∧
      vote.signerSignature = crypto.sign provision.signingSeed transcript
  | .rotation (.activateVote vote) =>
    store.beginVotes[vote.context.rotationId]? = some vote.planHash ∧
      (∃ plan ∈ plans, plan.context = vote.context ∧ HasHash crypto plan vote.planHash) ∧
      ∃ transcript, signerRotationActivateVote vote = .ok transcript ∧
        store.activateVotes[vote.context.rotationId]? = some (crypto.sha256 transcript) ∧
        vote.signerSignature = crypto.sign provision.signingSeed transcript
  | .rotation .abortFinalized =>
    ∀ rotationId, answer.Ends rotationId → rotationId ∈ store.cancelledRotations
  | .rotation .ownerCancelFinalized =>
    ∀ rotationId, answer.Ends rotationId → rotationId ∈ store.cancelledRotations
  | _ => True

/-- Every entry of the tables is kept. -/
structure StoreExtends (store store' : SignerRotationStore) : Prop where
  intents : ∀ (rotationId : Id32) (intent : RotationIntent),
    store.intents[rotationId]? = some intent → store'.intents[rotationId]? = some intent
  beginVotes : ∀ rotationId hash : Id32,
    store.beginVotes[rotationId]? = some hash → store'.beginVotes[rotationId]? = some hash
  releaseVotes : ∀ rotationId hash : Id32,
    store.releaseVotes[rotationId]? = some hash → store'.releaseVotes[rotationId]? = some hash
  activateVotes : ∀ rotationId hash : Id32,
    store.activateVotes[rotationId]? = some hash → store'.activateVotes[rotationId]? = some hash
  cancelledRotations : ∀ rotationId : Id32,
    rotationId ∈ store.cancelledRotations → rotationId ∈ store'.cancelledRotations

theorem StoreExtends.refl (store : SignerRotationStore) : StoreExtends store store :=
  ⟨fun _ _ h => h, fun _ _ h => h, fun _ _ h => h, fun _ _ h => h, fun _ h => h⟩

theorem endRotation_extends {rotationId predecessorHash certificateHash : Id32} :
    StoreExtends entry.securityState
      (endRotation rotationId predecessorHash certificateHash entry).securityState :=
  { StoreExtends.refl entry.securityState with
    cancelledRotations := fun _ h => Std.TreeMap.mem_insert.mpr (Or.inr h) }

theorem signerHandled_extends (h : SignerHandled crypto sealing entry input entry' reply) :
    StoreExtends entry.securityState entry'.securityState := by
  have hrefl := StoreExtends.refl entry.securityState
  cases h with
  | refused => exact hrefl
  | intentConflict => exact { hrefl with }
  | intentApproved _ _ _ hintents =>
    exact { hrefl with intents := fun _ _ => recordOnce_mono hintents }
  | beginConflict => exact { hrefl with }
  | begun _ _ _ hvotes => exact { hrefl with beginVotes := fun _ _ => recordOnce_mono hvotes }
  | released _ _ hvotes => exact { hrefl with releaseVotes := fun _ _ => recordOnce_mono hvotes }
  | activated _ _ hvotes => exact { hrefl with activateVotes := fun _ _ => recordOnce_mono hvotes }
  | abortVoted => exact hrefl
  | abortFinalized _ hfinalize =>
    obtain ⟨-, -, -, _, rfl⟩ := signerFinalizeAbort_eq_ok hfinalize
    exact endRotation_extends
  | ownerCancelFinalized _ hfinalize =>
    obtain ⟨-, -, ⟨-, rfl⟩ | ⟨-, _, rfl⟩⟩ := signerFinalizeOwnerCancel_eq_ok hfinalize
    · exact hrefl
    · exact endRotation_extends
  | recoveryApproved _ hremembered =>
    obtain ⟨-, hstore⟩ := rememberRequest_provision hremembered
    exact hstore.symm ▸ hrefl
  | recoveryReleased => exact hrefl

theorem Recorded.mono {store store' : SignerRotationStore} {answer : Answer}
    (h : Recorded crypto provision plans store answer) (hext : StoreExtends store store') :
    Recorded crypto provision plans store' answer := by
  unfold Recorded at h ⊢
  split at h
  · obtain ⟨intent, hintent, happroves⟩ := h
    exact ⟨intent, hext.intents _ _ hintent, happroves⟩
  · exact ⟨hext.beginVotes _ _ h.1, h.2⟩
  · obtain ⟨transcript, htr, hvote, hsignature⟩ := h
    exact ⟨transcript, htr, hext.releaseVotes _ _ hvote, hsignature⟩
  · obtain ⟨hbegun, hplan, transcript, htr, hvote, hsignature⟩ := h
    exact ⟨hext.beginVotes _ _ hbegun, hplan, transcript, htr, hext.activateVotes _ _ hvote,
      hsignature⟩
  · exact fun rotationId hends => hext.cancelledRotations _ (h rotationId hends)
  · exact fun rotationId hends => hext.cancelledRotations _ (h rotationId hends)
  · trivial

/-- The entry is the provisioned signer's. -/
def SameSigner (provision : SignerRotationProvisionV3) (entry : SignerRotationEntryV3) : Prop :=
  entry.provision = { provision with activeCapsule := entry.provision.activeCapsule }

theorem SameSigner.handled (h : SameSigner provision entry)
    (hstep : SignerHandled crypto sealing entry input entry' reply) :
    SameSigner provision entry' := by
  rw [SameSigner, signerHandled_provision hstep, h]

theorem SameSigner.signingSeed (h : SameSigner provision entry) :
    entry.provision.signingSeed = provision.signingSeed :=
  congrArg (·.signingSeed) h

theorem SameSigner.recoveryCard (h : SameSigner provision entry) :
    entry.provision.recoveryCard = provision.recoveryCard :=
  congrArg (·.recoveryCard) h

/-- What an answer leaves in the tables. -/
theorem handled_recorded (hsigner : SameSigner provision entry)
    (hcarried : ∀ plan, input.Carries plan → plan ∈ plans)
    (hstep : SignerHandled crypto sealing entry input entry' (some event)) :
    Recorded crypto provision plans entry'.securityState ⟨input, event⟩ := by
  generalize hreply : some event = reply at hstep
  cases hstep with
  | refused => cases hreply
  | intentConflict => cases hreply
  | intentApproved _ hchecks _ hintents =>
    obtain ⟨response, hresponse, rfl⟩ := Option.map_eq_some_iff.mp hreply.symm
    obtain ⟨contribution, rfl, hcontext, hhash, -⟩ :=
      intentContribution_eq_ok (toOption_eq_some.mp hresponse)
    obtain ⟨-, -, -, transcript, htr, rfl⟩ := intentChecks_eq_ok hchecks
    exact ⟨_, hcontext ▸ recordOnce_get hintents, hcontext, transcript, htr, hhash⟩
  | beginConflict => cases hreply
  | begun _ hchecks _ hvotes =>
    obtain ⟨response, hresponse, rfl⟩ := Option.map_eq_some_iff.mp hreply.symm
    have hvote := toOption_eq_some.mp hresponse
    obtain ⟨vote, rfl, hcontext, rfl, -⟩ := beginVote_eq_ok hvote
    have hchecked := signerBeginChecks_eq_ok hchecks
    rw [hsigner, ← hchecked.intent] at hvote
    exact ⟨hcontext ▸ recordOnce_get hvotes, _, hcarried _ ⟨_, rfl, rfl⟩, hchecked.valid.hash,
      hvote⟩
  | released _ hchecks hvotes =>
    cases hreply
    obtain ⟨-, -, hcontext, htr⟩ := signerReleaseChecks_eq_ok hchecks
    exact ⟨_, htr, hcontext ▸ recordOnce_get hvotes, by rw [hsigner.signingSeed]⟩
  | activated _ hchecks hvotes =>
    cases hreply
    have hchecked := signerActivateChecks_eq_ok hchecks
    refine ⟨hchecked.context ▸ hchecked.begun.begun,
      ⟨_, hcarried _ ⟨_, rfl, rfl⟩, hchecked.context.symm, hchecked.begun.hash⟩, _,
      hchecked.transcript, hchecked.context ▸ recordOnce_get hvotes, ?_⟩
    rw [hsigner.signingSeed]
  | abortVoted _ habort =>
    cases hreply
    obtain ⟨vote, rfl, -⟩ := signerAbort_eq_ok habort
    trivial
  | abortFinalized _ hfinalize =>
    cases hreply
    obtain ⟨-, -, -, _, rfl⟩ := signerFinalizeAbort_eq_ok hfinalize
    rintro rotationId ⟨-, request, hrequest, rfl⟩
    cases hrequest
    exact Std.TreeMap.mem_insert_self
  | ownerCancelFinalized _ hfinalize =>
    cases hreply
    rintro rotationId ⟨-, request, hrequest, rfl⟩
    cases hrequest
    obtain ⟨-, -, ⟨hended, rfl⟩ | ⟨-, _, rfl⟩⟩ := signerFinalizeOwnerCancel_eq_ok hfinalize
    · exact hended
    · exact Std.TreeMap.mem_insert_self
  | recoveryApproved =>
    obtain ⟨response, -, rfl⟩ := Option.map_eq_some_iff.mp hreply.symm
    trivial
  | recoveryReleased =>
    cases hreply
    trivial

/-- Only a rotation that goes on gets a vote. -/
theorem handled_votesIn {rotationId : Id32}
    (hstep : SignerHandled crypto sealing entry input entry' (some event))
    (hvote : event.VotesIn rotationId) :
    rotationId ∉ entry.securityState.cancelledRotations := by
  generalize hreply : some event = reply at hstep
  cases hstep with
  | refused => cases hreply
  | intentConflict => cases hreply
  | intentApproved =>
    obtain ⟨response, hresponse, rfl⟩ := Option.map_eq_some_iff.mp hreply.symm
    obtain ⟨contribution, rfl, -⟩ := intentContribution_eq_ok (toOption_eq_some.mp hresponse)
    exact hvote.elim
  | beginConflict => cases hreply
  | begun _ hchecks =>
    obtain ⟨response, hresponse, rfl⟩ := Option.map_eq_some_iff.mp hreply.symm
    obtain ⟨vote, rfl, hcontext, -⟩ := beginVote_eq_ok (toOption_eq_some.mp hresponse)
    have hsame : vote.context.rotationId = rotationId := hvote
    rw [← hsame, hcontext]
    exact (signerBeginChecks_eq_ok hchecks).live
  | released _ hchecks =>
    cases hreply
    obtain ⟨hlive, -, hcontext, -⟩ := signerReleaseChecks_eq_ok hchecks
    cases hvote
    exact hcontext ▸ hlive.live
  | activated _ hchecks =>
    cases hreply
    have hchecked := signerActivateChecks_eq_ok hchecks
    cases hvote
    exact hchecked.context ▸ hchecked.begun.live
  | abortVoted _ habort =>
    cases hreply
    obtain ⟨vote, rfl, hcontext, hlive, -⟩ := signerAbort_eq_ok habort
    cases hvote
    exact hcontext ▸ hlive.live
  | abortFinalized =>
    cases hreply
    exact hvote.elim
  | ownerCancelFinalized =>
    cases hreply
    exact hvote.elim
  | recoveryApproved =>
    obtain ⟨response, -, rfl⟩ := Option.map_eq_some_iff.mp hreply.symm
    exact hvote.elim
  | recoveryReleased =>
    cases hreply
    exact hvote.elim

/-- An activation vote answers an Activate request whose checks have passed. -/
theorem handled_activateVote {vote : SignerRotationActivateVote}
    (hstep : SignerHandled crypto sealing entry input entry'
      (some (.rotation (.activateVote vote)))) :
    ∃ plan ready successor unsigned transcript,
      input.request = .inl (.activate plan ready successor) ∧
      vote = { unsigned with
        signerSignature := crypto.sign entry.provision.signingSeed transcript } ∧
      ActivateChecked crypto entry plan ready successor input.now unsigned transcript ∧
      entry'.securityState.activateVotes[plan.context.rotationId]? =
        some (crypto.sha256 transcript) ∧
      entry'.securityState.cancelledRotations = entry.securityState.cancelledRotations := by
  generalize hreply : some (SignerEvent.rotation (.activateVote vote)) = reply at hstep
  cases hstep with
  | refused => cases hreply
  | intentConflict => cases hreply
  | intentApproved =>
    obtain ⟨response, hresponse, hevent⟩ := Option.map_eq_some_iff.mp hreply.symm
    obtain ⟨contribution, rfl, -⟩ := intentContribution_eq_ok (toOption_eq_some.mp hresponse)
    cases hevent
  | beginConflict => cases hreply
  | begun =>
    obtain ⟨response, hresponse, hevent⟩ := Option.map_eq_some_iff.mp hreply.symm
    obtain ⟨vote, rfl, -⟩ := beginVote_eq_ok (toOption_eq_some.mp hresponse)
    cases hevent
  | released => cases hreply
  | activated _ hchecks hvotes =>
    cases hreply
    exact ⟨_, _, _, _, _, rfl, rfl, signerActivateChecks_eq_ok hchecks, recordOnce_get hvotes, rfl⟩
  | abortVoted _ habort =>
    obtain ⟨vote, rfl, -⟩ := signerAbort_eq_ok habort
    cases hreply
  | abortFinalized => cases hreply
  | ownerCancelFinalized => cases hreply
  | recoveryApproved =>
    obtain ⟨response, -, hevent⟩ := Option.map_eq_some_iff.mp hreply.symm
    cases hevent
  | recoveryReleased => cases hreply

/-- An abort vote is for a begun plan of the request that has no activation vote. -/
theorem handled_abortVote {vote : SignerRotationAbortVote}
    (hstep : SignerHandled crypto sealing entry input entry'
      (some (.rotation (.abortVote vote)))) :
    vote.context.rotationId ∉ entry.securityState.activateVotes := by
  generalize hreply : some (SignerEvent.rotation (.abortVote vote)) = reply at hstep
  cases hstep with
  | refused => cases hreply
  | intentConflict => cases hreply
  | intentApproved =>
    obtain ⟨response, hresponse, hevent⟩ := Option.map_eq_some_iff.mp hreply.symm
    obtain ⟨contribution, rfl, -⟩ := intentContribution_eq_ok (toOption_eq_some.mp hresponse)
    cases hevent
  | beginConflict => cases hreply
  | begun =>
    obtain ⟨response, hresponse, hevent⟩ := Option.map_eq_some_iff.mp hreply.symm
    obtain ⟨vote, rfl, -⟩ := beginVote_eq_ok (toOption_eq_some.mp hresponse)
    cases hevent
  | released => cases hreply
  | activated => cases hreply
  | abortVoted _ habort =>
    obtain ⟨vote', rfl, hcontext, -, -, hactivate, -⟩ := signerAbort_eq_ok habort
    cases hreply
    exact hcontext ▸ hactivate
  | abortFinalized => cases hreply
  | ownerCancelFinalized => cases hreply
  | recoveryApproved =>
    obtain ⟨response, -, hevent⟩ := Option.map_eq_some_iff.mp hreply.symm
    cases hevent
  | recoveryReleased => cases hreply

/-- How a rotation comes to its end. -/
theorem handled_ends {rotationId : Id32}
    (hstep : SignerHandled crypto sealing entry input entry' reply)
    (hended : rotationId ∈ entry'.securityState.cancelledRotations) :
    rotationId ∈ entry.securityState.cancelledRotations ∨
      rotationId ∉ entry.securityState.activateVotes ∨
      ∃ event, reply = some event ∧
        Answer.OwnerCancels crypto entry.provision.recoveryCard ⟨input, event⟩ rotationId := by
  cases hstep with
  | refused => exact Or.inl hended
  | intentConflict => exact Or.inl hended
  | intentApproved => exact Or.inl hended
  | beginConflict => exact Or.inl hended
  | begun => exact Or.inl hended
  | released => exact Or.inl hended
  | activated => exact Or.inl hended
  | abortVoted => exact Or.inl hended
  | abortFinalized _ hfinalize =>
    obtain ⟨-, -, hactivate, _, rfl⟩ := signerFinalizeAbort_eq_ok hfinalize
    rcases Std.TreeMap.mem_insert.mp hended with hsame | hold
    · cases Std.compare_eq_iff_eq.mp hsame
      exact Or.inr (Or.inl hactivate)
    · exact Or.inl hold
  | ownerCancelFinalized _ hfinalize =>
    obtain ⟨hveto, -, ⟨-, rfl⟩ | ⟨-, _, rfl⟩⟩ := signerFinalizeOwnerCancel_eq_ok hfinalize
    · exact Or.inl hended
    · rcases Std.TreeMap.mem_insert.mp hended with hsame | hold
      · cases Std.compare_eq_iff_eq.mp hsame
        exact Or.inr (Or.inr ⟨_, rfl, rfl, _, _, _, _, rfl, rfl, hveto⟩)
      · exact Or.inl hold
  | recoveryApproved _ hremembered =>
    obtain ⟨-, hstore⟩ := rememberRequest_provision hremembered
    exact Or.inl (hstore ▸ hended)
  | recoveryReleased => exact Or.inl hended

/-! ### Runs -/

/-- After a rotation's end it gets no vote. -/
def EndsFinally (out : List Answer) : Prop :=
  ∀ before answer after rotationId, out = before ++ answer :: after → answer.Ends rotationId →
    ∀ later ∈ after, ¬later.event.VotesIn rotationId

/-- Two activation votes of one predecessor that differ in this have an owner cancel of
the first rotation between them. -/
def ActivatesApart (crypto : Crypto) (card : RecoveryCardV3) (out : List Answer)
    (Differ : SignerRotationActivateVote → SignerRotationActivateVote → Prop) : Prop :=
  ∀ before first between second after vote vote',
    out = before ++ first :: (between ++ second :: after) →
    first.event = .rotation (.activateVote vote) → second.event = .rotation (.activateVote vote') →
    vote.context.predecessorCapsuleHash = vote'.context.predecessorCapsuleHash →
    Differ vote vote' → ∃ answer ∈ between, answer.OwnerCancels crypto card vote.context.rotationId

/-- Invariant of a signer's entry and of the answers it has given. -/
structure SignerLedger (crypto : Crypto) (provision : SignerRotationProvisionV3)
    (plans : Set RotationPlan) (entry : SignerRotationEntryV3) (out : List Answer) : Prop where
  signer : SameSigner provision entry
  locks : LockInv crypto plans entry
  recorded : ∀ answer ∈ out, Recorded crypto provision plans entry.securityState answer
  ended : EndsFinally out
  vetoed : ∀ before answer after (vote : SignerRotationActivateVote),
    out = before ++ answer :: after → answer.event = .rotation (.activateVote vote) →
    vote.context.rotationId ∈ entry.securityState.cancelledRotations →
    ∃ later ∈ after, later.OwnerCancels crypto provision.recoveryCard vote.context.rotationId
  apart : ActivatesApart crypto provision.recoveryCard out
    fun vote vote' => vote.context.rotationId ≠ vote'.context.rotationId

theorem signerLedger_provisioned : SignerLedger crypto provision plans provision.entry [] where
  signer := rfl
  locks := lockInv_provisioned
  recorded _ hmem := absurd hmem (List.not_mem_nil)
  ended _ _ _ _ hsplit := by simp at hsplit
  vetoed _ _ _ _ hsplit := by simp at hsplit
  apart _ _ _ _ _ _ _ hsplit := by simp at hsplit

theorem SignerLedger.activateVotes (h : SignerLedger crypto provision plans entry out)
    {answer : Answer} {vote : SignerRotationActivateVote} (hmem : answer ∈ out)
    (hevent : answer.event = .rotation (.activateVote vote)) :
    vote.context.rotationId ∈ entry.securityState.activateVotes := by
  have hrecorded := h.recorded answer hmem
  simp only [Recorded, hevent] at hrecorded
  obtain ⟨-, -, transcript, -, hvote, -⟩ := hrecorded
  exact Std.TreeMap.mem_iff_isSome_getElem?.mpr (by simp [hvote])

theorem SignerLedger.ended_step (h : SignerLedger crypto provision plans entry out)
    (hstep : SignerHandled crypto sealing entry input entry' reply) :
    EndsFinally (out ++ (reply.map fun event => Answer.mk input event).toList) := by
  intro before answer after rotationId hsplit hends later hlater
  rcases Machine.toList_split hsplit with ⟨rfl, -, -⟩ | ⟨rest, rfl, rfl⟩
  · exact absurd hlater (List.not_mem_nil)
  rcases List.mem_append.mp hlater with hold | hnew
  · exact h.ended before answer rest rotationId rfl hends later hold
  · cases reply with
    | none => simp at hnew
    | some event =>
      simp only [Option.map_some, Option.toList_some, List.mem_singleton] at hnew
      subst hnew
      have hrecorded := h.recorded answer (by simp)
      have hended : rotationId ∈ entry.securityState.cancelledRotations := by
        rcases hends.1 with hevent | hevent
        · simp only [Recorded, hevent] at hrecorded
          exact hrecorded rotationId hends
        · simp only [Recorded, hevent] at hrecorded
          exact hrecorded rotationId hends
      exact fun hvote => handled_votesIn hstep hvote hended

theorem SignerLedger.vetoed_step (h : SignerLedger crypto provision plans entry out)
    (hstep : SignerHandled crypto sealing entry input entry' reply) {before after : List Answer}
    {answer : Answer} {vote : SignerRotationActivateVote}
    (hsplit : out ++ (reply.map fun event => Answer.mk input event).toList =
      before ++ answer :: after)
    (hevent : answer.event = .rotation (.activateVote vote))
    (hended : vote.context.rotationId ∈ entry'.securityState.cancelledRotations) :
    ∃ later ∈ after,
      later.OwnerCancels crypto provision.recoveryCard vote.context.rotationId := by
  rcases Machine.toList_split hsplit with ⟨-, -, hanswer⟩ | ⟨rest, rfl, rfl⟩
  · -- the vote itself is the last answer, and an Activate ends nothing
    obtain ⟨event, rfl, rfl⟩ := Option.map_eq_some_iff.mp hanswer
    cases hevent
    obtain ⟨plan, _, _, unsigned, _, -, rfl, hchecked, -, hkept⟩ := handled_activateVote hstep
    rw [hkept, hchecked.context] at hended
    exact absurd hended hchecked.begun.live
  · rcases handled_ends hstep hended with hold | hunvoted | ⟨event, rfl, hcancels⟩
    · obtain ⟨later, hlater, hcancels⟩ := h.vetoed before answer rest vote rfl hevent hold
      exact ⟨later, List.mem_append_left _ hlater, hcancels⟩
    · exact absurd (h.activateVotes (by simp) hevent) hunvoted
    · rw [h.signer.recoveryCard] at hcancels
      exact ⟨_, List.mem_append_right _ (by simp), hcancels⟩

theorem SignerLedger.apart_step (hfree : crypto.CollisionFree (planTranscripts plans))
    (h : SignerLedger crypto provision plans entry out)
    (hcarried : ∀ plan, input.Carries plan → plan ∈ plans)
    (hstep : SignerHandled crypto sealing entry input entry' reply) :
    ActivatesApart crypto provision.recoveryCard
      (out ++ (reply.map fun event => Answer.mk input event).toList)
      fun vote vote' => vote.context.rotationId ≠ vote'.context.rotationId := by
  intro before first between second after vote vote' hsplit hfirst hsecond hpred hne
  have hsplit' : out ++ (reply.map fun event => Answer.mk input event).toList =
      (before ++ first :: between) ++ second :: after := by
    simpa using hsplit
  rcases Machine.toList_split hsplit' with ⟨-, hout, hanswer⟩ | ⟨rest, rfl, hout⟩
  · obtain ⟨event, rfl, rfl⟩ := Option.map_eq_some_iff.mp hanswer
    cases hsecond
    obtain ⟨plan', _, _, unsigned, _, hrequest, rfl, hchecked, -⟩ := handled_activateVote hstep
    have hplan' : plan' ∈ plans := hcarried _ ⟨_, hrequest, rfl⟩
    have hrecorded := h.recorded first (by simp [← hout])
    simp only [Recorded, hfirst] at hrecorded
    obtain ⟨hbegun, ⟨plan, hplan, hcontext, hhash⟩, -⟩ := hrecorded
    by_cases hended : vote.context.rotationId ∈ entry.securityState.cancelledRotations
    · exact h.vetoed before first between vote hout.symm hfirst hended
    · have hlive : BegunLive crypto entry plan vote.planHash :=
        ⟨hhash, hcontext ▸ hbegun, hcontext ▸ hended⟩
      rw [← hcontext, hchecked.context] at hpred hne
      cases h.locks.unique hfree hplan hplan' hlive hchecked.begun hpred
      exact absurd rfl hne
  · exact h.apart before first between second rest vote vote' (by simpa using hout) hfirst hsecond
      hpred hne

theorem SignerLedger.handled (hfree : crypto.CollisionFree (planTranscripts plans))
    (h : SignerLedger crypto provision plans entry out)
    (hcarried : ∀ plan, input.Carries plan → plan ∈ plans)
    (hstep : SignerHandled crypto sealing entry input entry' reply) :
    SignerLedger crypto provision plans entry'
      (out ++ (reply.map fun event => Answer.mk input event).toList) where
  signer := h.signer.handled hstep
  locks := h.locks.handled hfree hcarried hstep
  recorded answer hmem := by
    rcases List.mem_append.mp hmem with hold | hnew
    · exact (h.recorded answer hold).mono (signerHandled_extends hstep)
    · obtain ⟨event, rfl, rfl⟩ := Option.map_eq_some_iff.mp (Option.mem_toList.mp hnew)
      exact handled_recorded h.signer hcarried hstep
  ended := h.ended_step hstep
  vetoed _ _ _ _ hsplit hevent hended := h.vetoed_step hstep hsplit hevent hended
  apart := h.apart_step hfree hcarried hstep

theorem run_signerLedger (sealing : Sealing) {inputs : List SignerInput}
    (hfree : crypto.CollisionFree (planTranscripts (plansOf inputs))) :
    SignerLedger crypto provision (plansOf inputs) (signerRun crypto sealing provision inputs)
      (signerAnswers crypto sealing provision inputs) :=
  run_signerHandled_along
    (fun _ _ input => ∀ plan, input.Carries plan → plan ∈ plansOf inputs)
    (SignerLedger crypto provision (plansOf inputs)) signerLedger_provisioned
    (fun _ _ _ _ _ h hcarried hstep => h.handled hfree hcarried hstep)
    (Machine.along_of_forall _ (fun input hmem _ hcarries => ⟨input, hmem, hcarries⟩) _ _)

/-! ### One vote of each kind -/

/-- Some answer is this event. -/
def Issued (out : List Answer) (event : SignerEvent) : Prop :=
  ∃ answer ∈ out, answer.event = event

theorem issued_concat (h : Issued (out ++ (reply.map fun event => Answer.mk input event).toList)
    event) : Issued out event ∨ reply = some event := by
  obtain ⟨answer, hmem, rfl⟩ := h
  rcases List.mem_append.mp hmem with hold | hnew
  · exact Or.inl ⟨answer, hold, rfl⟩
  · obtain ⟨event, rfl, rfl⟩ := Option.map_eq_some_iff.mp (Option.mem_toList.mp hnew)
    exact Or.inr rfl

/-- Per rotation id one Intent, one Begin vote, one Release vote and one Activate vote. -/
structure VotesOnce (crypto : Crypto) (out : List Answer) : Prop where
  intent : ∀ first second : SignerRotationIntentContribution,
    Issued out (.rotation (.intentContribution first)) →
    Issued out (.rotation (.intentContribution second)) →
    first.context.rotationId = second.context.rotationId →
    ∃ intent, ApprovesIntent crypto first intent ∧ ApprovesIntent crypto second intent
  begins : ∀ first second : SignerRotationBeginVote,
    Issued out (.rotation (.beginVote first)) → Issued out (.rotation (.beginVote second)) →
    first.context.rotationId = second.context.rotationId → first = second
  release : ∀ first second : SignerRotationReleaseVote,
    Issued out (.rotation (.releaseVote first)) →
    Issued out (.rotation (.releaseVote second)) →
    first.context.rotationId = second.context.rotationId → first = second
  activate : ∀ first second : SignerRotationActivateVote,
    Issued out (.rotation (.activateVote first)) →
    Issued out (.rotation (.activateVote second)) →
    first.context.rotationId = second.context.rotationId → first = second

/-- Transcripts whose hashes the tables of Release and Activate votes hold. -/
def tabledTranscripts (out : List Answer) : Set Bytes :=
  {transcript |
    (∃ vote, Issued out (.rotation (.releaseVote vote)) ∧
      signerRotationReleaseVote vote = .ok transcript) ∨
    ∃ vote, Issued out (.rotation (.activateVote vote)) ∧
      signerRotationActivateVote vote = .ok transcript}

theorem SignerLedger.votesOnce (h : SignerLedger crypto provision plans entry out)
    (hplans : crypto.CollisionFree (planTranscripts plans))
    (hvotes : crypto.CollisionFree (tabledTranscripts out)) : VotesOnce crypto out where
  intent := by
    rintro first second ⟨a, ha, hfirst⟩ ⟨b, hb, hsecond⟩ hsame
    have hrecorded := h.recorded a ha
    have hrecorded' := h.recorded b hb
    simp only [Recorded, hfirst] at hrecorded
    simp only [Recorded, hsecond] at hrecorded'
    obtain ⟨intent, hintent, happroves⟩ := hrecorded
    obtain ⟨intent', hintent', happroves'⟩ := hrecorded'
    rw [hsame, hintent'] at hintent
    cases hintent
    exact ⟨intent, happroves, happroves'⟩
  begins := by
    rintro first second ⟨a, ha, hfirst⟩ ⟨b, hb, hsecond⟩ hsame
    have hrecorded := h.recorded a ha
    have hrecorded' := h.recorded b hb
    simp only [Recorded, hfirst] at hrecorded
    simp only [Recorded, hsecond] at hrecorded'
    obtain ⟨hbegun, plan, hplan, hhash, hvote⟩ := hrecorded
    obtain ⟨hbegun', plan', hplan', hhash', hvote'⟩ := hrecorded'
    rw [hsame, hbegun'] at hbegun
    have hhashes : second.planHash = first.planHash := Option.some.inj hbegun
    rw [hhashes] at hhash' hvote'
    cases HasHash.unique hplans hplan hplan' hhash hhash'
    rw [hvote] at hvote'
    cases hvote'
    rfl
  release := by
    rintro first second ⟨a, ha, hfirst⟩ ⟨b, hb, hsecond⟩ hsame
    have hrecorded := h.recorded a ha
    have hrecorded' := h.recorded b hb
    simp only [Recorded, hfirst] at hrecorded
    simp only [Recorded, hsecond] at hrecorded'
    obtain ⟨t, ht, hvote, hsignature⟩ := hrecorded
    obtain ⟨t', ht', hvote', hsignature'⟩ := hrecorded'
    rw [hsame, hvote'] at hvote
    have hbytes : t' = t := hvotes (Or.inl ⟨second, ⟨b, hb, hsecond⟩, ht'⟩)
      (Or.inl ⟨first, ⟨a, ha, hfirst⟩, ht⟩) (Option.some.inj hvote)
    subst hbytes
    have hunsigned := signerRotationReleaseVote_framed.binds.injective ht ht'
    cases first
    cases second
    simp only [releaseVoteUnsigned, SignerRotationReleaseVote.mk.injEq] at hunsigned
    simp_all
  activate := by
    rintro first second ⟨a, ha, hfirst⟩ ⟨b, hb, hsecond⟩ hsame
    have hrecorded := h.recorded a ha
    have hrecorded' := h.recorded b hb
    simp only [Recorded, hfirst] at hrecorded
    simp only [Recorded, hsecond] at hrecorded'
    obtain ⟨-, -, t, ht, hvote, hsignature⟩ := hrecorded
    obtain ⟨-, -, t', ht', hvote', hsignature'⟩ := hrecorded'
    rw [hsame, hvote'] at hvote
    have hbytes : t' = t := hvotes (Or.inr ⟨second, ⟨b, hb, hsecond⟩, ht'⟩)
      (Or.inr ⟨first, ⟨a, ha, hfirst⟩, ht⟩) (Option.some.inj hvote)
    subst hbytes
    have hunsigned := signerRotationActivateVote_framed.binds.injective ht ht'
    cases first
    cases second
    simp only [voteUnsigned, SignerRotationActivateVote.mk.injEq] at hunsigned
    simp_all

/-- In every run of a signer: its locks name exactly the plans it has begun and not given
up, one to a predecessor; it signs one vote of each kind for a rotation, and none after the
rotation's end; and it votes to activate two successors of one predecessor only with a
vetoed owner cancel of the first rotation in between. -/
theorem signer_votes_exclusive {inputs : List SignerInput}
    (hplans : crypto.CollisionFree (planTranscripts (plansOf inputs)))
    (hvotes : crypto.CollisionFree
      (tabledTranscripts (signerAnswers crypto sealing provision inputs))) :
    LocksExact crypto (plansOf inputs) (signerRun crypto sealing provision inputs) ∧
      VotesOnce crypto (signerAnswers crypto sealing provision inputs) ∧
      EndsFinally (signerAnswers crypto sealing provision inputs) ∧
      ActivatesApart crypto provision.recoveryCard (signerAnswers crypto sealing provision inputs)
        fun vote vote' => vote.planHash ≠ vote'.planHash ∨
          vote.successorCapsuleHash ≠ vote'.successorCapsuleHash := by
  have hledger : SignerLedger crypto provision (plansOf inputs) (signerRun crypto sealing _ _) _ :=
    run_signerLedger sealing hplans
  have honce := hledger.votesOnce hplans hvotes
  refine ⟨hledger.locks.exact hplans, honce, hledger.ended, ?_⟩
  intro before first between second after vote vote' hsplit hfirst hsecond hpred hdiffer
  refine hledger.apart before first between second after vote vote' hsplit hfirst hsecond hpred ?_
  intro hsame
  have hone := honce.activate vote vote' ⟨first, by simp [hsplit], hfirst⟩
    ⟨second, by simp [hsplit], hsecond⟩ hsame
  simp [hone] at hdiffer

/-! ### One rotation of the small deployment -/

def sampleRecipientKey : Bytes := List.replicate xwingPublicKeyLen 7

def sampleRotationContext (rotationId : Id32) (expiry : UInt64) : RotationContext :=
  { sampleContext sampleGenesis rotationId with
    recipientKey := sampleRecipientKey
    expiry := expiry }

def sampleGuardianSeed (index : UInt16) : Id32 := BitVec.ofNat 256 (500 + index.toNat)

def sampleRoute (epoch : ℕ) (index : UInt16) : GuardianRouteV3 where
  guardianIndex := index
  opaqueSlotId := BitVec.ofNat 256 (1000 * epoch + index.toNat)
  mailbox := String.ofList (List.replicate (10 * epoch + index.toNat) 'g')
  guardianPublicKey := Crypto.transparent.verifyingKeyBytes (sampleGuardianSeed index)
  sessionRecipientKey := [1]
  operatorDomainCommitment := BitVec.ofNat 256 (600 + index.toNat)

/-- The fourth guardian replaces the third. -/
def sampleOldRoster : List GuardianRouteV3 := [1, 2, 3].map (sampleRoute 1)
def sampleNewRoster : List GuardianRouteV3 := [1, 2, 4].map (sampleRoute 2)

def sampleGenesisReads : List WitnessReadEnvelope :=
  [1, 2, 3].map fun id => sampleEnvelope id sampleGenesis

def sampleIntent (context : RotationContext) : RotationIntent where
  context := context
  reason := .plannedExit
  oldGuardianCount := 3
  oldGuardianThreshold := 2
  allowedNewGuardianCount := [3]
  allowedNewGuardianThreshold := [2]
  allowedDpssSuites := [.zfFrostRistretto255RtsRefreshV1]
  selectionConstraintsCommitment := 66310
  witnessReadQcHash :=
    2109413041

def sampleRotation (context : RotationContext) (intentHash : Id32) : RotationPlan where
  context := context
  intentHash := intentHash
  predecessor := sampleGenesis.configRef
  successor := sampleFirst.capsule.configRef
  oldRoster := sampleOldRoster
  newRoster := sampleNewRoster
  oldRosterCommitment := 1570642536
  newRosterCommitment := 1572254795
  oldGuardianThreshold := 2
  newGuardianThreshold := 2
  dataShards := 2
  totalShards := 3
  dpssSuite := .zfFrostRistretto255RtsRefreshV1
  dpssSessionId := 84
  dpssQualifiedSetCommitment := 1572254795
  minimumDelaySecs := 10
  preparationDeadline := 40
  drainDeadline := 60

/-- Sealing that hides nothing. -/
def sampleSealing : Sealing where
  sealToRecipient recipientKey _ nonce plaintext _ := .ok ⟨recipientKey, nonce, plaintext⟩

def sampleSignerProvision : SignerRotationProvisionV3 where
  signerId := 1
  authorizationShare := [9]
  signingSeed := sampleSignerSeed 1
  signingPublicKey := Crypto.transparent.verifyingKeyBytes (sampleSignerSeed 1)
  membershipProof := sampleMembershipProof
  recoveryCard := sampleCard 4
  activeCapsule := sampleGenesis


def sampleSigner (inputs : List SignerInput) : List Answer :=
  signerAnswers Crypto.transparent sampleSealing sampleSignerProvision inputs

def rotationInput (now : UInt64) (request : SignerRotationRequestV3) : SignerInput :=
  ⟨now, ⟨1, 2⟩, .inl request⟩

def samplePlan70 : RotationPlan := sampleRotation (sampleRotationContext 70 100) 903180509

def samplePlanHash70 : Id32 := 1872828021

/-- The intent of a plan is approved and the plan begun. -/
def sampleBegin (plan : RotationPlan) : List SignerInput :=
  [rotationInput 6 (.intent (sampleIntent plan.context) sampleChallenge sampleGenesisReads),
    rotationInput 7 (.begin plan.intentHash plan)]

theorem plansOf_sampleBegin {plan : RotationPlan} : plansOf (sampleBegin plan) = {plan} := by
  ext other
  simp [plansOf, sampleBegin, rotationInput, SignerInput.Carries, SignerRotationRequestV3.plan,
    eq_comm]

theorem planTranscripts_singleton {plan : RotationPlan} : (planTranscripts {plan}).Subsingleton := by
  rintro t ⟨plan, rfl, ht⟩ t' ⟨plan', rfl, ht'⟩
  cases ht.symm.trans ht'
  rfl

example : samplePlan70.successor.IsDirectSuccessorOf samplePlan70.predecessor := by
  decide +kernel

theorem signer_votes_exclusive_sample :
    LocksExact Crypto.transparent (plansOf (sampleBegin samplePlan70))
        (signerRun Crypto.transparent sampleSealing sampleSignerProvision
          (sampleBegin samplePlan70)) ∧
      VotesOnce Crypto.transparent (sampleSigner (sampleBegin samplePlan70)) ∧
      EndsFinally (sampleSigner (sampleBegin samplePlan70)) ∧
      ActivatesApart Crypto.transparent (sampleCard 4) (sampleSigner (sampleBegin samplePlan70))
        fun vote vote' => vote.planHash ≠ vote'.planHash ∨
          vote.successorCapsuleHash ≠ vote'.successorCapsuleHash := by
  have hplans : Crypto.transparent.CollisionFree
      (planTranscripts (plansOf (sampleBegin samplePlan70))) := by
    rw [plansOf_sampleBegin]
    exact planTranscripts_singleton.injOn _
  have huntabled : (sampleSigner (sampleBegin samplePlan70)).all (fun answer =>
      match answer.event with
      | .rotation (.releaseVote _) => false
      | .rotation (.activateVote _) => false
      | _ => true) = true := by
    decide +kernel
  refine signer_votes_exclusive hplans ?_
  rintro t (⟨vote, ⟨answer, hmem, hevent⟩, -⟩ | ⟨vote, ⟨answer, hmem, hevent⟩, -⟩)
  · simpa [hevent] using List.all_eq_true.mp huntabled answer hmem
  · simpa [hevent] using List.all_eq_true.mp huntabled answer hmem

end MasterRecovery
