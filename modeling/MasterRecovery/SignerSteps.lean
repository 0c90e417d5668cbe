import MasterRecovery.SignerRuntime
import MasterRecovery.CertificateValidation

/-!
# What a signer handler can do

One inversion for the two handlers. Everything proved about runs of a signer
starts from these cases; no later proof unfolds a handler.
-/

namespace MasterRecovery
open Checks Transcript Wire

variable {crypto : Crypto} {sealing : Sealing} {entry entry' : SignerRotationEntryV3}
  {input : SignerInput} {reply : Option SignerEvent}

theorem signed_eq_ok {α β : Type} {seed : Id32} {transcript : α → Put}
    {sign : α → SignatureBytes → α} {response : α → β} {unsigned : α} {b : β} :
    signed crypto seed transcript sign response unsigned = .ok b ↔
      ∃ x, transcript unsigned = .ok x ∧ response (sign unsigned (crypto.sign seed x)) = b := by
  simp only [signed, bind_eq_ok, wire_eq_ok, Except.ok.injEq]

/-! ### Entries a handler leaves -/

def SignerRotationEntryV3.withStore (entry : SignerRotationEntryV3)
    (store : SignerRotationStore) : SignerRotationEntryV3 :=
  { entry with securityState := store }

/-- The entry of an approved intent. -/
def approvedIntent (intent : RotationIntent) (active : ConfigCapsuleV3)
    (intentVotes : Std.TreeMap Id32 Id32) (intents : Std.TreeMap Id32 RotationIntent)
    (entry : SignerRotationEntryV3) : SignerRotationEntryV3 :=
  { entry with
    provision := { entry.provision with activeCapsule := active }
    securityState := { entry.securityState with
      intentVotes := intentVotes
      intents := intents
      highestObservedEpoch := entry.securityState.highestObservedEpoch.insert
        intent.context.configRef.configId intent.context.configRef.guardianEpoch } }

/-- Every way a request to a signer can be handled: the entry it leaves and what it answers. -/
inductive SignerHandled (crypto : Crypto) (sealing : Sealing) (entry : SignerRotationEntryV3) :
    SignerInput → SignerRotationEntryV3 → Option SignerEvent → Prop
  | refused {input : SignerInput} : SignerHandled crypto sealing entry input entry none
  | intentConflict {now : UInt64} {random : Randomness} {intent : RotationIntent}
    {challenge : EpochReadChallenge} {reads : List WitnessReadEnvelope} {active : ConfigCapsuleV3}
    {intentHash : Id32} {intentVotes : Std.TreeMap Id32 Id32}
    (hgate : signerContextGate entry intent.context now = .ok ())
    (hchecks : intentChecks crypto entry intent challenge reads = .ok (active, intentHash))
    (hvotes : recordOnce StorageError.conflict intent.context.rotationId intentHash
      entry.securityState.intentVotes = .ok intentVotes) :
    SignerHandled crypto sealing entry ⟨now, random, .inl (.intent intent challenge reads)⟩
      (entry.withStore { entry.securityState with intentVotes := intentVotes }) none
  | intentApproved {now : UInt64} {random : Randomness} {intent : RotationIntent}
    {challenge : EpochReadChallenge} {reads : List WitnessReadEnvelope} {active : ConfigCapsuleV3}
    {intentHash : Id32} {intentVotes : Std.TreeMap Id32 Id32}
    {intents : Std.TreeMap Id32 RotationIntent}
    (hgate : signerContextGate entry intent.context now = .ok ())
    (hchecks : intentChecks crypto entry intent challenge reads = .ok (active, intentHash))
    (hvotes : recordOnce StorageError.conflict intent.context.rotationId intentHash
      entry.securityState.intentVotes = .ok intentVotes)
    (hintents : recordOnce "signer already approved a conflicting rotation Intent"
      intent.context.rotationId intent entry.securityState.intents = .ok intents) :
    SignerHandled crypto sealing entry ⟨now, random, .inl (.intent intent challenge reads)⟩
      (approvedIntent intent active intentVotes intents entry)
      ((intentContribution crypto sealing random { entry.provision with activeCapsule := active }
        intent intentHash).toOption.map .rotation)
  | beginConflict {now : UInt64} {random : Randomness} {intentHash planHash : Id32}
    {plan : RotationPlan} {locks : Std.TreeMap Id32 Id32}
    (hgate : signerContextGate entry plan.context now = .ok ())
    (hchecks : signerBeginChecks crypto entry intentHash plan now = .ok planHash)
    (hlocks : recordOnce StorageError.conflict plan.context.predecessorCapsuleHash planHash
      entry.securityState.predecessorPlanLocks = .ok locks)
    (hconflict : ∃ other, other ≠ planHash ∧
      entry.securityState.beginVotes[plan.context.rotationId]? = some other) :
    SignerHandled crypto sealing entry ⟨now, random, .inl (.begin intentHash plan)⟩
      (entry.withStore { entry.securityState with predecessorPlanLocks := locks }) none
  | begun {now : UInt64} {random : Randomness} {intentHash planHash : Id32}
    {plan : RotationPlan} {locks beginVotes : Std.TreeMap Id32 Id32}
    (hgate : signerContextGate entry plan.context now = .ok ())
    (hchecks : signerBeginChecks crypto entry intentHash plan now = .ok planHash)
    (hlocks : recordOnce StorageError.conflict plan.context.predecessorCapsuleHash planHash
      entry.securityState.predecessorPlanLocks = .ok locks)
    (hvotes : recordOnce StorageError.conflict plan.context.rotationId planHash
      entry.securityState.beginVotes = .ok beginVotes) :
    SignerHandled crypto sealing entry ⟨now, random, .inl (.begin intentHash plan)⟩
      (entry.withStore { entry.securityState with
        predecessorPlanLocks := locks
        beginVotes := beginVotes })
      ((beginVote crypto entry.provision intentHash plan planHash).toOption.map .rotation)
  | released {now : UInt64} {random : Randomness} {plan : RotationPlan}
    {certificate : BeginRotationCertificate} {vote : SignerRotationReleaseVote}
    {transcript : Bytes} {releaseVotes : Std.TreeMap Id32 Id32}
    (hgate : signerContextGate entry plan.context now = .ok ())
    (hchecks : signerReleaseChecks crypto entry plan certificate now = .ok (vote, transcript))
    (hvotes : recordOnce StorageError.conflict plan.context.rotationId (crypto.sha256 transcript)
      entry.securityState.releaseVotes = .ok releaseVotes) :
    SignerHandled crypto sealing entry ⟨now, random, .inl (.release plan certificate)⟩
      (entry.withStore { entry.securityState with releaseVotes := releaseVotes })
      (some (.rotation (.releaseVote { vote with
        signerSignature := crypto.sign entry.provision.signingSeed transcript })))
  | activated {now : UInt64} {random : Randomness} {plan : RotationPlan}
    {ready : RotationReadyCertificate} {successor : ConfigCapsuleV3}
    {vote : SignerRotationActivateVote} {transcript : Bytes}
    {activateVotes : Std.TreeMap Id32 Id32}
    (hgate : signerContextGate entry plan.context now = .ok ())
    (hchecks : signerActivateChecks crypto entry plan ready successor now =
      .ok (vote, transcript))
    (hvotes : recordOnce StorageError.conflict plan.context.rotationId (crypto.sha256 transcript)
      entry.securityState.activateVotes = .ok activateVotes) :
    SignerHandled crypto sealing entry ⟨now, random, .inl (.activate plan ready successor)⟩
      (entry.withStore { entry.securityState with activateVotes := activateVotes })
      (some (.rotation (.activateVote { vote with
        signerSignature := crypto.sign entry.provision.signingSeed transcript })))
  | abortVoted {now : UInt64} {random : Randomness} {plan : RotationPlan}
    {stateAtAbort : RotationState} {reasonCode : UInt16} {recipientKey : Bytes}
    {response : SignerRotationResponseV3}
    (hgate : signerContextGate entry plan.context now = .ok ())
    (habort : signerAbort crypto entry plan stateAtAbort reasonCode recipientKey now =
      .ok response) :
    SignerHandled crypto sealing entry
      ⟨now, random, .inl (.abort plan stateAtAbort reasonCode recipientKey)⟩ entry
      (some (.rotation response))
  | abortFinalized {now : UInt64} {random : Randomness} {plan : RotationPlan}
    {certificate : AbortRotationCertificate} {recipientKey : Bytes}
    {entry' : SignerRotationEntryV3}
    (hgate : signerContextGate entry plan.context now = .ok ())
    (hfinalize : signerFinalizeAbort crypto entry plan certificate recipientKey now =
      .ok entry') :
    SignerHandled crypto sealing entry
      ⟨now, random, .inl (.finalizeAbort plan certificate recipientKey)⟩ entry'
      (some (.rotation .abortFinalized))
  | ownerCancelFinalized {now : UInt64} {random : Randomness} {plan : RotationPlan}
    {certificate : OwnerRotationCancelCertificate} {witnessAcks : List WitnessRotationCancelAck}
    {recipientKey : Bytes} {entry' : SignerRotationEntryV3}
    (hgate : signerContextGate entry plan.context now = .ok ())
    (hfinalize : signerFinalizeOwnerCancel crypto entry plan certificate witnessAcks recipientKey
      now = .ok entry') :
    SignerHandled crypto sealing entry
      ⟨now, random, .inl (.finalizeOwnerCancel plan certificate witnessAcks recipientKey)⟩ entry'
      (some (.rotation .ownerCancelFinalized))
  | recoveryApproved {now : UInt64} {random : Randomness} {request : RecoveryRequestV3}
    {challenge : EpochReadChallenge} {reads : List WitnessReadEnvelope} {active : ConfigCapsuleV3}
    {digest : Id32} {remembered : SignerRotationEntryV3}
    (hchecks : approveChecks crypto entry request challenge reads now = .ok (active, digest))
    (hremembered : rememberRequest request digest entry = .ok remembered) :
    SignerHandled crypto sealing entry ⟨now, random, .inr (.approve request challenge reads)⟩
      { remembered with provision := { entry.provision with activeCapsule := active } }
      ((recoveryContribution crypto sealing random { entry.provision with activeCapsule := active }
        request).toOption.map .recovery)
  | recoveryReleased {now : UInt64} {random : Randomness} {request : RecoveryRequestV3}
    {response : SignerRecoveryResponseV3}
    (hrelease : signerRecoveryRelease crypto entry request now = .ok response) :
    SignerHandled crypto sealing entry ⟨now, random, .inr (.release request)⟩ entry
      (some (.recovery response))

/-! ### One lemma per handler -/

theorem rememberRequest_provision {request : RecoveryRequestV3} {digest : Id32}
    {remembered : SignerRotationEntryV3} (h : rememberRequest request digest entry = .ok remembered) :
    remembered.provision = entry.provision ∧ remembered.securityState = entry.securityState := by
  simp only [rememberRequest] at h
  split at h
  · simp only [bind_unit_eq_ok, Except.ok.injEq] at h
    obtain ⟨-, rfl⟩ := h
    exact ⟨rfl, rfl⟩
  · simp only [bind_unit_eq_ok, Except.ok.injEq] at h
    obtain ⟨-, rfl⟩ := h
    exact ⟨rfl, rfl⟩

section Handlers

variable (now : UInt64) (random : Randomness)

/-- What the rotation handler answers, as an event. -/
def rotationEvent (out : Except String SignerRotationResponseV3 × SignerRotationEntryV3) :
    SignerRotationEntryV3 × Option SignerEvent :=
  (out.2, out.1.toOption.map .rotation)

/-- The request is handled in one of the ways above. -/
def HandledAs (crypto : Crypto) (sealing : Sealing) (entry : SignerRotationEntryV3)
    (input : SignerInput) (out : SignerRotationEntryV3 × Option SignerEvent) : Prop :=
  SignerHandled crypto sealing entry input out.1 out.2

theorem signerIntent_handled {intent : RotationIntent} {challenge : EpochReadChallenge}
    {reads : List WitnessReadEnvelope}
    (hgate : signerContextGate entry intent.context now = .ok ()) :
    HandledAs crypto sealing entry ⟨now, random, .inl (.intent intent challenge reads)⟩
      (rotationEvent (signerIntent crypto sealing random intent challenge reads entry)) := by
  simp only [signerIntent, SignerRotationStore.recordVote]
  cases hchecks : intentChecks crypto entry intent challenge reads with
  | error e => exact .refused
  | ok found =>
    obtain ⟨active, intentHash⟩ := found
    dsimp only
    cases hvotes : recordOnce StorageError.conflict intent.context.rotationId intentHash
        entry.securityState.intentVotes with
    | error e => exact .refused
    | ok intentVotes =>
      simp only [stored, Except.mapError]
      cases hintents : recordOnce "signer already approved a conflicting rotation Intent"
          intent.context.rotationId intent entry.securityState.intents with
      | error e => exact .intentConflict hgate hchecks hvotes
      | ok intents => exact .intentApproved hgate hchecks hvotes hintents

theorem signerBegin_handled {intentHash : Id32} {plan : RotationPlan}
    (hgate : signerContextGate entry plan.context now = .ok ()) :
    HandledAs crypto sealing entry ⟨now, random, .inl (.begin intentHash plan)⟩
      (rotationEvent (signerBegin crypto now intentHash plan entry)) := by
  simp only [signerBegin, SignerRotationStore.recordVote, SignerRotationStore.lockPlan]
  cases hchecks : signerBeginChecks crypto entry intentHash plan now with
  | error e => exact .refused
  | ok planHash =>
    dsimp only
    cases hlocks : recordOnce StorageError.conflict plan.context.predecessorCapsuleHash planHash
        entry.securityState.predecessorPlanLocks with
    | error e => exact .refused
    | ok locks =>
      simp only [bind, Except.bind, stored, Except.mapError]
      cases hvotes : recordOnce StorageError.conflict plan.context.rotationId planHash
          entry.securityState.beginVotes with
      | ok beginVotes => exact .begun hgate hchecks hlocks hvotes
      | error e =>
        refine .beginConflict hgate hchecks hlocks ?_
        cases hfound : entry.securityState.beginVotes[plan.context.rotationId]? with
        | none => simp [recordOnce, hfound] at hvotes
        | some other =>
          refine ⟨other, ?_, rfl⟩
          rintro rfl
          rw [recordOnce_again hfound] at hvotes
          cases hvotes

theorem signerRelease_handled {plan : RotationPlan} {certificate : BeginRotationCertificate}
    (hgate : signerContextGate entry plan.context now = .ok ()) :
    HandledAs crypto sealing entry ⟨now, random, .inl (.release plan certificate)⟩
      (rotationEvent (signerRelease crypto now plan certificate entry)) := by
  simp only [signerRelease, SignerRotationStore.recordVote]
  cases hchecks : signerReleaseChecks crypto entry plan certificate now with
  | error e => exact .refused
  | ok found =>
    obtain ⟨vote, transcript⟩ := found
    dsimp only
    cases hvotes : recordOnce StorageError.conflict plan.context.rotationId
        (crypto.sha256 transcript) entry.securityState.releaseVotes with
    | error e => exact .refused
    | ok releaseVotes => exact .released hgate hchecks hvotes

theorem signerActivate_handled {plan : RotationPlan} {ready : RotationReadyCertificate}
    {successor : ConfigCapsuleV3}
    (hgate : signerContextGate entry plan.context now = .ok ()) :
    HandledAs crypto sealing entry ⟨now, random, .inl (.activate plan ready successor)⟩
      (rotationEvent (signerActivate crypto now plan ready successor entry)) := by
  simp only [signerActivate, SignerRotationStore.recordVote]
  cases hchecks : signerActivateChecks crypto entry plan ready successor now with
  | error e => exact .refused
  | ok found =>
    obtain ⟨vote, transcript⟩ := found
    dsimp only
    cases hvotes : recordOnce StorageError.conflict plan.context.rotationId
        (crypto.sha256 transcript) entry.securityState.activateVotes with
    | error e => exact .refused
    | ok activateVotes => exact .activated hgate hchecks hvotes

theorem handleSignerRotationV3_handled (request : SignerRotationRequestV3) :
    HandledAs crypto sealing entry ⟨now, random, .inl request⟩
      (rotationEvent (handleSignerRotationV3 crypto sealing random now request entry)) := by
  simp only [handleSignerRotationV3]
  cases hgate : signerContextGate entry request.context now with
  | error e => exact .refused
  | ok u =>
    cases request with
    | intent intent challenge reads => exact signerIntent_handled now random hgate
    | begin intentHash plan => exact signerBegin_handled now random hgate
    | release plan certificate => exact signerRelease_handled now random hgate
    | activate plan ready successor => exact signerActivate_handled now random hgate
    | abort plan stateAtAbort reasonCode recipientKey =>
      dsimp only
      cases habort : signerAbort crypto entry plan stateAtAbort reasonCode recipientKey now with
      | error e => exact .refused
      | ok response => exact .abortVoted hgate habort
    | finalizeAbort plan certificate recipientKey =>
      dsimp only
      cases hfinalize : signerFinalizeAbort crypto entry plan certificate recipientKey now with
      | error e => exact .refused
      | ok entry' => exact .abortFinalized hgate hfinalize
    | finalizeOwnerCancel plan certificate witnessAcks recipientKey =>
      dsimp only
      cases hfinalize : signerFinalizeOwnerCancel crypto entry plan certificate witnessAcks
          recipientKey now with
      | error e => exact .refused
      | ok entry' => exact .ownerCancelFinalized hgate hfinalize

theorem signerApprove_handled {request : RecoveryRequestV3} {challenge : EpochReadChallenge}
    {reads : List WitnessReadEnvelope} :
    let out := signerApprove crypto sealing random now request challenge reads entry
    SignerHandled crypto sealing entry ⟨now, random, .inr (.approve request challenge reads)⟩
      out.2 (out.1.toOption.map .recovery) := by
  simp only [signerApprove]
  cases hchecks : approveChecks crypto entry request challenge reads now with
  | error e => exact .refused
  | ok found =>
    obtain ⟨active, digest⟩ := found
    dsimp only
    cases hremembered : rememberRequest request digest entry with
    | error e => exact .refused
    | ok remembered => exact .recoveryApproved hchecks hremembered

end Handlers

/-- Every request is handled in one of the ways above. -/
theorem signerMachine_handled (entry : SignerRotationEntryV3) (input : SignerInput) :
    SignerHandled crypto sealing entry input ((signerMachine crypto sealing).step entry input).1
      ((signerMachine crypto sealing).step entry input).2 := by
  obtain ⟨now, random, request | request⟩ := input
  · exact handleSignerRotationV3_handled now random request
  · cases request with
    | approve request challenge reads => exact signerApprove_handled now random
    | release request =>
      simp only [signerMachine, handleSignerRecoveryV3]
      cases hrelease : signerRecoveryRelease crypto entry request now with
      | error e => exact .refused
      | ok response => exact .recoveryReleased hrelease

/-! ### What the checks of a step say -/

theorem signerContextGate_eq_ok {context : RotationContext} {now : UInt64} {u : Unit}
    (h : signerContextGate entry context now = .ok u) :
    context.protocolVersion = protocolVersionV3 ∧
      context.configRef.configId = entry.provision.recoveryCard.configId ∧
      context.issuedAt ≤ now ∧ now < context.expiry ∧
      context.recipientKey.length = xwingPublicKeyLen := by
  simpa [signerContextGate, not_or, UInt64.not_lt, UInt64.not_le] using h

theorem intentChecks_eq_ok {intent : RotationIntent} {challenge : EpochReadChallenge}
    {reads : List WitnessReadEnvelope} {active : ConfigCapsuleV3} {intentHash : Id32}
    (h : intentChecks crypto entry intent challenge reads = .ok (active, intentHash)) :
    selectLatestEpochV3 crypto entry.provision.recoveryCard challenge reads = .ok active ∧
      active.configRef = intent.context.configRef ∧
      active.capsuleHash = intent.context.predecessorCapsuleHash ∧
      ∃ transcript, rotationIntent intent = .ok transcript ∧
        intentHash = crypto.sha256 transcript := by
  simp only [intentChecks, bind_eq_ok, exists_const, bailIf_eq_ok, wire_eq_ok, not_or, not_not,
    ne_eq, Except.ok.injEq, Prod.mk.injEq] at h
  obtain ⟨capsule, hselected, ⟨href, hhash, -⟩, _, -, -, transcript, htr, rfl, rfl⟩ := h
  exact ⟨hselected, href, hhash, transcript, htr, rfl⟩

theorem intentContribution_eq_ok {random : Randomness} {provision : SignerRotationProvisionV3}
    {intent : RotationIntent} {intentHash : Id32} {response : SignerRotationResponseV3}
    (h : intentContribution crypto sealing random provision intent intentHash = .ok response) :
    ∃ contribution, response = .intentContribution contribution ∧
      contribution.context = intent.context ∧ contribution.intentHash = intentHash ∧
      ∃ transcript, signerRotationIntentContribution contribution = .ok transcript ∧
        contribution.signerSignature = crypto.sign provision.signingSeed transcript := by
  simp only [intentContribution, bind_eq_ok, signed_eq_ok] at h
  obtain ⟨_, -, share, -, transcript, htr, rfl⟩ := h
  exact ⟨_, rfl, rfl, rfl, transcript, htr, rfl⟩

theorem beginVote_eq_ok {provision : SignerRotationProvisionV3} {intentHash planHash : Id32}
    {plan : RotationPlan} {response : SignerRotationResponseV3}
    (h : beginVote crypto provision intentHash plan planHash = .ok response) :
    ∃ vote, response = .beginVote vote ∧ vote.context = plan.context ∧ vote.planHash = planHash ∧
      ∃ transcript, signerRotationBeginVote vote = .ok transcript ∧
        vote.signerSignature = crypto.sign provision.signingSeed transcript := by
  simp only [beginVote, signed_eq_ok] at h
  obtain ⟨transcript, htr, rfl⟩ := h
  exact ⟨_, rfl, rfl, rfl, transcript, htr, rfl⟩

/-- What `Begin` has checked before it locks. -/
structure BeginChecked (crypto : Crypto) (entry : SignerRotationEntryV3) (intentHash : Id32)
    (plan : RotationPlan) (now : UInt64) (planHash : Id32) : Prop where
  live : plan.context.rotationId ∉ entry.securityState.cancelledRotations
  approved : ∃ intent, entry.securityState.intents[plan.context.rotationId]? = some intent ∧
    intent.context = plan.context
  valid : PlanValid crypto plan entry.provision.activeCapsule now planHash
  intent : plan.intentHash = intentHash
  voted : entry.securityState.intentVotes[plan.context.rotationId]? = some intentHash

theorem signerBeginChecks_eq_ok {intentHash planHash : Id32} {plan : RotationPlan} {now : UInt64}
    (h : signerBeginChecks crypto entry intentHash plan now = .ok planHash) :
    BeginChecked crypto entry intentHash plan now planHash := by
  simp only [signerBeginChecks, bind_eq_ok, exists_const, bailIf_eq_ok, okOr_eq_ok, not_or,
    not_not, ne_eq, Except.ok.injEq] at h
  obtain ⟨hlive, intent, hintent, hash, hplan, ⟨hsame, hvoted⟩, rfl⟩ := h
  obtain ⟨hvalid, hcontext, -⟩ := validateRotationPlanAgainstIntentV3_eq_ok hplan
  exact ⟨hlive, ⟨intent, hintent, hcontext.symm⟩, hvalid, hsame, hvoted⟩

/-- The plan has been begun here, and its rotation goes on. -/
structure BegunLive (crypto : Crypto) (entry : SignerRotationEntryV3) (plan : RotationPlan)
    (planHash : Id32) : Prop where
  hash : HasHash crypto plan planHash
  begun : entry.securityState.beginVotes[plan.context.rotationId]? = some planHash
  live : plan.context.rotationId ∉ entry.securityState.cancelledRotations

theorem signerReleaseChecks_eq_ok {plan : RotationPlan} {certificate : BeginRotationCertificate}
    {now : UInt64} {vote : SignerRotationReleaseVote} {transcript : Bytes}
    (h : signerReleaseChecks crypto entry plan certificate now = .ok (vote, transcript)) :
    BegunLive crypto entry plan vote.planHash ∧
      (∃ hash, PlanValid crypto plan entry.provision.activeCapsule now hash) ∧
      vote.context = plan.context ∧ signerRotationReleaseVote vote = .ok transcript := by
  simp only [signerReleaseChecks, bind_eq_ok, exists_const, bailIf_eq_ok, wire_eq_ok, not_not,
    ne_eq, Except.ok.injEq, Prod.mk.injEq] at h
  obtain ⟨hlive, t, ht, hbegun, beginHash, hbegin, -, t', ht', rfl, rfl⟩ := h
  exact ⟨⟨⟨t, ht, rfl⟩, hbegun, hlive⟩, validateBeginRotationCertificateV3_valid hbegin, rfl, ht'⟩

/-- What `Activate` has checked of the plan and the successor. -/
structure ActivateChecked (crypto : Crypto) (entry : SignerRotationEntryV3) (plan : RotationPlan)
    (ready : RotationReadyCertificate) (successor : ConfigCapsuleV3) (now : UInt64)
    (vote : SignerRotationActivateVote) (transcript : Bytes) : Prop where
  begun : BegunLive crypto entry plan vote.planHash
  released : plan.context.rotationId ∈ entry.securityState.releaseVotes
  valid : PlanValid crypto plan entry.provision.activeCapsule now vote.planHash
  context : vote.context = plan.context
  successorHash : vote.successorCapsuleHash = successor.capsuleHash
  transcript : signerRotationActivateVote vote = .ok transcript
  configRef : successor.configRef = plan.successor
  predecessor : successor.predecessorCapsuleHash = entry.provision.activeCapsule.capsuleHash
  body : ∃ body, configCapsuleBodyV3 successor = .ok body ∧
    crypto.sha256 body = successor.capsuleHash
  signerCount : successor.signerCount = entry.provision.activeCapsule.signerCount
  signerThreshold : successor.signerThreshold = entry.provision.activeCapsule.signerThreshold
  signerSetCommitment :
    successor.signerSetCommitment = entry.provision.activeCapsule.signerSetCommitment
  ownerCancelPublicKey :
    successor.ownerCancelPublicKey = entry.provision.activeCapsule.ownerCancelPublicKey
  guardianCount : successor.guardianCount.toNat = plan.newRoster.length
  guardianThreshold : successor.guardianThreshold = plan.newGuardianThreshold
  dpssPublicCommitment : successor.dpssPublicCommitment = ready.dpssResultCommitment
  guardianMaterialRoot : successor.guardianMaterialRoot = ready.guardianMaterialRoot

theorem signerActivateChecks_eq_ok {plan : RotationPlan} {ready : RotationReadyCertificate}
    {successor : ConfigCapsuleV3} {now : UInt64} {vote : SignerRotationActivateVote}
    {transcript : Bytes}
    (h : signerActivateChecks crypto entry plan ready successor now = .ok (vote, transcript)) :
    ActivateChecked crypto entry plan ready successor now vote transcript := by
  simp only [signerActivateChecks, bind_eq_ok, exists_const, bailIf_eq_ok, wire_eq_ok, not_or,
    not_not, ne_eq, Except.ok.injEq, Prod.mk.injEq] at h
  obtain ⟨hlive, t, ht, ⟨hbegun, hreleased⟩, readyHash, hready, body, hbody,
    ⟨h1, h2, h3, h4, h5, h6, h7, h8, h9, h10, h11, -⟩, t', ht', rfl, rfl⟩ := h
  obtain ⟨hvalid, -⟩ := validateRotationReadyCertificateV3_eq_ok hready
  have hsame : crypto.sha256 t = ready.planHash :=
    HasHash.functional ⟨t, ht, rfl⟩ hvalid.hash
  exact ⟨⟨hvalid.hash, hsame ▸ hbegun, hlive⟩, hreleased, hvalid, rfl, h3.symm, ht', h1, h2,
    ⟨body, hbody, h3.symm⟩, h4, h5, h6, h7, h8, h9, h10, h11⟩

theorem signerAbort_eq_ok {plan : RotationPlan} {stateAtAbort : RotationState}
    {reasonCode : UInt16} {recipientKey : Bytes} {now : UInt64}
    {response : SignerRotationResponseV3}
    (h : signerAbort crypto entry plan stateAtAbort reasonCode recipientKey now = .ok response) :
    ∃ vote, response = .abortVote vote ∧ vote.context = plan.context ∧
      BegunLive crypto entry plan vote.planHash ∧
      PlanValid crypto plan entry.provision.activeCapsule now vote.planHash ∧
      plan.context.rotationId ∉ entry.securityState.activateVotes ∧
      ∃ transcript, signerRotationAbortVote { vote with signerSignature := [] } =
          .ok transcript ∧
        vote.signerSignature = crypto.sign entry.provision.signingSeed transcript := by
  simp only [signerAbort, bind_eq_ok, exists_const, validateRotationPlanV3_iff, bailIf_eq_ok,
    not_or, not_not, ne_eq, signed_eq_ok] at h
  obtain ⟨-, planHash, hvalid, ⟨hlive, hbegun, hactivate, -⟩, t, ht, rfl⟩ := h
  exact ⟨_, rfl, rfl, ⟨hvalid.hash, hbegun, hlive⟩, hvalid, hactivate, t, ht, rfl⟩

/-- The plan's rotation holds the lock of its predecessor. -/
structure HoldsLock (crypto : Crypto) (entry : SignerRotationEntryV3) (plan : RotationPlan)
    (planHash : Id32) : Prop where
  hash : HasHash crypto plan planHash
  begun : entry.securityState.beginVotes[plan.context.rotationId]? = some planHash
  lock : entry.securityState.predecessorPlanLocks[plan.context.predecessorCapsuleHash]? =
    some planHash

theorem signerFinalizeAbort_eq_ok {plan : RotationPlan} {certificate : AbortRotationCertificate}
    {recipientKey : Bytes} {now : UInt64}
    (h : signerFinalizeAbort crypto entry plan certificate recipientKey now = .ok entry') :
    AbortAccepted crypto certificate plan entry.provision.activeCapsule now ∧
      HoldsLock crypto entry plan certificate.planHash ∧
      plan.context.rotationId ∉ entry.securityState.activateVotes ∧
      ∃ certificateHash, entry' = endRotation plan.context.rotationId
        plan.context.predecessorCapsuleHash certificateHash entry := by
  simp only [signerFinalizeAbort, bind_eq_ok, exists_const, bailIf_eq_ok, wire_eq_ok, not_or,
    not_not, ne_eq, Except.ok.injEq] at h
  obtain ⟨-, abortHash, habort, t, ht, ⟨hbegun, hactivate⟩, hlock, t', -, rfl⟩ := h
  have haccepted := validateAbortRotationCertificateV3_eq_ok habort
  have hsame : crypto.sha256 t = certificate.planHash :=
    HasHash.functional ⟨t, ht, rfl⟩ haccepted.valid.hash
  exact ⟨haccepted, ⟨haccepted.valid.hash, hsame ▸ hbegun, hsame ▸ hlock⟩, hactivate, _, rfl⟩

theorem signerFinalizeOwnerCancel_eq_ok {plan : RotationPlan}
    {certificate : OwnerRotationCancelCertificate} {witnessAcks : List WitnessRotationCancelAck}
    {recipientKey : Bytes} {now : UInt64}
    (h : signerFinalizeOwnerCancel crypto entry plan certificate witnessAcks recipientKey now =
      .ok entry') :
    VetoAccepted crypto entry.provision.recoveryCard certificate witnessAcks plan ∧
      PlanValid crypto plan entry.provision.activeCapsule now certificate.planHash ∧
      (plan.context.rotationId ∈ entry.securityState.cancelledRotations ∧ entry' = entry ∨
        HoldsLock crypto entry plan certificate.planHash ∧
          ∃ cancelHash, entry' = endRotation plan.context.rotationId
            plan.context.predecessorCapsuleHash cancelHash entry) := by
  simp only [signerFinalizeOwnerCancel, bind_eq_ok, exists_const, bailIf_eq_ok] at h
  obtain ⟨-, cancelHash, hcancel, h⟩ := h
  have hvalid := validateOwnerRotationCancelWitnessQuorumV3_valid hcancel
  refine ⟨validateOwnerRotationCancelWitnessQuorumV3_eq_ok hcancel, hvalid, ?_⟩
  split at h
  next hrepeated =>
    cases h
    exact Or.inl ⟨Std.TreeMap.mem_iff_isSome_getElem?.mpr (by simp [hrepeated]), rfl⟩
  next =>
    simp only [bind_eq_ok, exists_const, bailIf_eq_ok, wire_eq_ok, not_not, ne_eq,
      Except.ok.injEq] at h
    obtain ⟨t, ht, hbegun, hlock, rfl⟩ := h
    have hsame : crypto.sha256 t = certificate.planHash :=
      HasHash.functional ⟨t, ht, rfl⟩ hvalid.hash
    exact Or.inr ⟨⟨hvalid.hash, hsame ▸ hbegun, hsame ▸ hlock⟩, cancelHash, rfl⟩

theorem approveChecks_eq_ok {request : RecoveryRequestV3} {challenge : EpochReadChallenge}
    {reads : List WitnessReadEnvelope} {now : UInt64} {active : ConfigCapsuleV3} {digest : Id32}
    (h : approveChecks crypto entry request challenge reads now = .ok (active, digest)) :
    bailIf (now < challenge.issuedAt ∨ challenge.expiry ≤ now ∨
        challenge.responseRecipientKey ≠ request.recoveryRecipientKey)
        "signer requires a fresh witness read bound to the recovery recipient" = .ok () ∧
      selectLatestEpochV3 crypto entry.provision.recoveryCard challenge reads = .ok active ∧
      RecoveryRequestValid crypto request active active.configRef now digest := by
  simp only [approveChecks, validateRecoveryRequestV3, bind_eq_ok,
    validateRecoveryRequestForRefV3_iff, Except.ok.injEq, Prod.mk.injEq] at h
  obtain ⟨_, hfresh, capsule, hselected, _, hvalid, rfl, rfl⟩ := h
  exact ⟨hfresh, hselected, hvalid⟩

theorem recoveryContribution_eq_ok {random : Randomness} {provision : SignerRotationProvisionV3}
    {request : RecoveryRequestV3} {response : SignerRecoveryResponseV3}
    (h : recoveryContribution crypto sealing random provision request = .ok response) :
    ∃ contribution, response = .contribution contribution ∧ contribution.request = request := by
  simp only [recoveryContribution, bind_eq_ok, signed_eq_ok] at h
  obtain ⟨_, -, share, -, transcript, htr, rfl⟩ := h
  exact ⟨_, rfl, rfl⟩

theorem signerRecoveryRelease_eq_ok {request : RecoveryRequestV3} {now : UInt64}
    {response : SignerRecoveryResponseV3}
    (h : signerRecoveryRelease crypto entry request now = .ok response) :
    ∃ vote, response = .releaseVote vote ∧ vote.request = request ∧
      RecoveryRequestValid crypto request entry.provision.activeCapsule
        entry.provision.activeCapsule.configRef now vote.requestDigest ∧
      entry.recoveryRequests[request.requestId]? = some vote.requestDigest := by
  simp only [signerRecoveryRelease, validateRecoveryRequestV3, bind_eq_ok, exists_const,
    validateRecoveryRequestForRefV3_iff, bailIf_eq_ok, not_not, ne_eq, signed_eq_ok] at h
  obtain ⟨digest, hvalid, hfound, transcript, htr, rfl⟩ := h
  exact ⟨_, rfl, rfl, hvalid, hfound⟩

/-! ### Runs -/

/-- A request together with the answer it got. -/
structure Answer where
  input : SignerInput
  event : SignerEvent

def answeringSigner (crypto : Crypto) (sealing : Sealing) :
    Machine SignerRotationEntryV3 SignerInput Answer where
  step entry input :=
    let out := (signerMachine crypto sealing).step entry input
    (out.1, out.2.map fun event => ⟨input, event⟩)

/-- The entry a provisioned signer has reached. -/
def signerRun (crypto : Crypto) (sealing : Sealing) (provision : SignerRotationProvisionV3)
    (inputs : List SignerInput) : SignerRotationEntryV3 :=
  (answeringSigner crypto sealing).run provision.entry inputs

/-- What it has answered on the way, oldest first. -/
def signerAnswers (crypto : Crypto) (sealing : Sealing) (provision : SignerRotationProvisionV3)
    (inputs : List SignerInput) : List Answer :=
  (answeringSigner crypto sealing).outputs provision.entry inputs

/-- What every handled request keeps holds after every run. -/
theorem run_signerHandled_along
    (Q : SignerRotationEntryV3 → List Answer → SignerInput → Prop)
    (R : SignerRotationEntryV3 → List Answer → Prop) {inputs : List SignerInput}
    (hinit : R entry [])
    (hstep : ∀ entry out input entry' reply, R entry out → Q entry out input →
      SignerHandled crypto sealing entry input entry' reply →
      R entry' (out ++ (reply.map fun event => Answer.mk input event).toList))
    (hQ : (answeringSigner crypto sealing).Along Q entry [] inputs) :
    R ((answeringSigner crypto sealing).run entry inputs)
      ((answeringSigner crypto sealing).outputs entry inputs) :=
  Machine.run_invariant _ hinit
    (fun entry _ input hR hQ => hstep _ _ _ _ _ hR hQ (signerMachine_handled entry input)) hQ

/-- No handler changes who the signer is. -/
theorem signerHandled_provision (h : SignerHandled crypto sealing entry input entry' reply) :
    entry'.provision = { entry.provision with activeCapsule := entry'.provision.activeCapsule } := by
  cases h with
  | refused => rfl
  | intentConflict => rfl
  | intentApproved => rfl
  | beginConflict => rfl
  | begun => rfl
  | released => rfl
  | activated => rfl
  | abortVoted => rfl
  | abortFinalized _ hfinalize =>
    obtain ⟨-, -, -, _, rfl⟩ := signerFinalizeAbort_eq_ok hfinalize
    rfl
  | ownerCancelFinalized _ hfinalize =>
    obtain ⟨-, -, ⟨-, rfl⟩ | ⟨-, _, rfl⟩⟩ := signerFinalizeOwnerCancel_eq_ok hfinalize
    · rfl
    · rfl
  | recoveryApproved => rfl
  | recoveryReleased => rfl

end MasterRecovery
