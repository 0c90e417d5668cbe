import MasterRecovery.AbortExclusion
import MasterRecovery.GuardianServed
import MasterRecovery.WitnessAcceptance
import Mathlib.Data.List.Chain

/-!
# The policy along a chain of capsules (gp-network)

A successor capsule is compared with its predecessor three times: by the signer that votes
for it, by the witness that acknowledges it and by the guardian that follows it, each with a
list of fields of its own. Between them signers and witnesses compare every field of the
policy but the root of the ciphertext fragments. That one only guardians compare, and then
the successor is activated already.
-/

namespace MasterRecovery
open Checks Transcript Wire

variable {crypto : Crypto} {predecessor successor : ConfigCapsuleV3} {plan : RotationPlan}

/-! ### The fields of the policy -/

/-- The capsule without what its activation adds to it. -/
def ConfigCapsuleV3.unactivated (capsule : ConfigCapsuleV3) : ConfigCapsuleV3 :=
  { capsule with activationCertificate := none, activationQc := none }

/-- The fields that signers or witnesses compare. -/
structure PolicyCompared (predecessor successor : ConfigCapsuleV3) : Prop where
  signerCount : successor.signerCount = predecessor.signerCount
  signerThreshold : successor.signerThreshold = predecessor.signerThreshold
  signerSetCommitment : successor.signerSetCommitment = predecessor.signerSetCommitment
  ownerCancelPublicKey : successor.ownerCancelPublicKey = predecessor.ownerCancelPublicKey
  maxRequestLifetime : successor.maxRequestLifetime = predecessor.maxRequestLifetime
  dpssSuite : successor.dpssSuite = predecessor.dpssSuite
  minimumRecoveryDelay : predecessor.minimumRecoveryDelay ≤ successor.minimumRecoveryDelay

theorem ConfigCapsuleV3.field_eq {α : Type} {capsule other : ConfigCapsuleV3}
    (h : capsule.unactivated = other.unactivated) (field : ConfigCapsuleV3 → α)
    (hfield : ∀ capsule, field capsule.unactivated = field capsule) : field capsule = field other := by
  rw [← hfield, h, hfield]

def KeepsFragments (predecessor successor : ConfigCapsuleV3) : Prop :=
  successor.ciphertextFragmentRoot = predecessor.ciphertextFragmentRoot

/-- The whole policy of a capsule, kept by a later one. -/
structure PolicyKept (predecessor successor : ConfigCapsuleV3) : Prop
    extends PolicyCompared predecessor successor where
  ciphertextFragmentRoot : KeepsFragments predecessor successor

theorem PolicyCompared.trans {first second third : ConfigCapsuleV3}
    (h : PolicyCompared first second) (h' : PolicyCompared second third) :
    PolicyCompared first third where
  signerCount := h'.signerCount.trans h.signerCount
  signerThreshold := h'.signerThreshold.trans h.signerThreshold
  signerSetCommitment := h'.signerSetCommitment.trans h.signerSetCommitment
  ownerCancelPublicKey := h'.ownerCancelPublicKey.trans h.ownerCancelPublicKey
  maxRequestLifetime := h'.maxRequestLifetime.trans h.maxRequestLifetime
  dpssSuite := h'.dpssSuite.trans h.dpssSuite
  minimumRecoveryDelay := UInt64.le_trans h.minimumRecoveryDelay h'.minimumRecoveryDelay

instance : Trans PolicyKept PolicyKept PolicyKept where
  trans h h' := ⟨h.toPolicyCompared.trans h'.toPolicyCompared,
    h'.ciphertextFragmentRoot.trans h.ciphertextFragmentRoot⟩

theorem policyCompared_unactivated :
    PolicyCompared predecessor.unactivated successor.unactivated ↔
      PolicyCompared predecessor successor := by
  constructor
  · rintro ⟨h1, h2, h3, h4, h5, h6, h7⟩
    exact ⟨h1, h2, h3, h4, h5, h6, h7⟩
  · rintro ⟨h1, h2, h3, h4, h5, h6, h7⟩
    exact ⟨h1, h2, h3, h4, h5, h6, h7⟩

/-! ### The signer's vote -/

/-- A signer on this capsule, after some run, votes to activate the successor under the plan. -/
def Voted (crypto : Crypto) (predecessor : ConfigCapsuleV3) (plan : RotationPlan)
    (successor : ConfigCapsuleV3) : Prop :=
  ∃ (sealing : Sealing) (provision : SignerRotationProvisionV3) (inputs : List SignerInput)
    (input : SignerInput) (ready : RotationReadyCertificate) (vote : SignerRotationActivateVote),
    let reached := signerRun crypto sealing provision inputs
    reached.provision.activeCapsule.unactivated = predecessor.unactivated ∧
      input.request = .inl (.activate plan ready successor.unactivated) ∧
      ((signerMachine crypto sealing).step reached input).2 = some (.rotation (.activateVote vote))

/-- What the vote has checked of the capsule besides its policy. -/
structure BindsPlan (crypto : Crypto) (plan : RotationPlan)
    (predecessor successor : ConfigCapsuleV3) : Prop where
  hash : ∃ planHash, HasHash crypto plan planHash
  configRef : successor.configRef = plan.successor
  direct : successor.configRef.IsDirectSuccessorOf predecessor.configRef
  predecessorHash : successor.predecessorCapsuleHash = predecessor.capsuleHash
  body : ∃ body, configCapsuleBodyV3 successor = .ok body ∧
    crypto.sha256 body = successor.capsuleHash
  roster : plan.newRoster.length < 2 ^ 16
  guardianCount : successor.guardianCount.toNat = plan.newRoster.length
  guardianThreshold : successor.guardianThreshold = plan.newGuardianThreshold

theorem Voted.binds (h : Voted crypto predecessor plan successor) :
    BindsPlan crypto plan predecessor successor := by
  obtain ⟨sealing, provision, inputs, input, ready, vote, hactive, hrequest, hvote⟩ := h
  have hhandled : SignerHandled crypto sealing (signerRun crypto sealing provision inputs) input
      ((signerMachine crypto sealing).step (signerRun crypto sealing provision inputs) input).1
      ((signerMachine crypto sealing).step (signerRun crypto sealing provision inputs) input).2 :=
    signerMachine_handled _ input
  rw [hvote] at hhandled
  obtain ⟨_, _, _, _, _, hactivate, -, hchecked, -⟩ := handled_activateVote hhandled
  cases hrequest.symm.trans hactivate
  have hvalid := hchecked.valid
  have hdirect : successor.configRef.IsDirectSuccessorOf predecessor.configRef := by
    have hsame : plan.predecessor = predecessor.configRef :=
      hvalid.predecessorRef.trans (ConfigCapsuleV3.field_eq hactive (·.configRef) fun _ => rfl)
    rw [← hsame, show successor.configRef = plan.successor from hchecked.configRef]
    exact hvalid.direct
  have hroster : plan.newRoster.length < 2 ^ 16 := by
    rw [hvalid.newRoster]
    exact plan.totalShards.toNat_lt
  exact ⟨⟨_, hvalid.hash⟩, hchecked.configRef, hdirect,
    hchecked.predecessor.trans (ConfigCapsuleV3.field_eq hactive (·.capsuleHash) fun _ => rfl),
    hchecked.body, hroster, hchecked.guardianCount, hchecked.guardianThreshold⟩

/-! ### The witness's acknowledgement -/

/-- A witness on this capsule, after some run, acknowledges the successor it has on file. -/
def Acked (crypto : Crypto) (predecessor successor : ConfigCapsuleV3) : Prop :=
  ∃ (seed configId : Id32) (adminToken : String) (bearer : Option String)
    (provision : WitnessConfigProvision) (entry : WitnessConfigEntry)
    (requests : List WitnessRequest) (request : WitnessActivationRequest)
    (ack : WitnessActivationAck),
    let witness := witnessMachine crypto seed configId
    let reached := witness.run entry requests
    let acked := witness.step reached (.activate request)
    witnessProvision crypto seed adminToken bearer false provision = .ok entry ∧
      reached.capsule.unactivated = predecessor.unactivated ∧ acked.2 = some (.acked ack) ∧
      acked.1.pendingCapsule.map (·.unactivated) = some successor.unactivated

theorem Extends.policyCompared {request : WitnessActivationRequest} {active : ConfigCapsuleV3}
    {signers : Std.TreeMap UInt16 PublicKey} (h : Extends crypto request active signers) :
    PolicyCompared active request.capsule :=
  ⟨h.signerCount, h.signerThreshold, h.signerSetCommitment, h.ownerCancelPublicKey,
    h.maxRequestLifetime, h.dpssSuite, h.minimumRecoveryDelay⟩

/-- What a witness entry is like after any run. -/
structure WitnessReached (crypto : Crypto) (seed configId : Id32) (entry : WitnessConfigEntry) :
    Prop where
  witnessId : entry.witnessId ≠ 0
  epoch : entry.capsule.configRef.guardianEpoch ≠ 0
  pending : HoldsPending crypto seed configId entry

section Reached

variable {seed configId : Id32} {entry entry' : WitnessConfigEntry} {request : WitnessRequest}
  {reply : Option WitnessEvent} {saves : Bool}

theorem WitnessReached.handled (h : WitnessReached crypto seed configId entry)
    (hstep : Handled crypto seed configId entry request entry' reply saves) :
    WitnessReached crypto seed configId entry' := by
  have hpending := h.pending.handled hstep
  have hid : entry'.witnessId ≠ 0 := (handled_pins hstep).1 ▸ h.witnessId
  rcases handled_active hstep with ⟨hsame, -⟩ | ⟨qc, pending, pendingAck, -, hbinds, rfl, -⟩
  · exact ⟨hid, hsame ▸ h.epoch, hpending⟩
  · refine ⟨hid, ?_, hpending⟩
    cases h.pending with
    | idle hcapsule => exact absurd (hcapsule.symm.trans hbinds.pending_eq) (by simp)
    | waiting hcapsule _ _ hextends =>
      cases hcapsule.symm.trans hbinds.pending_eq
      obtain ⟨-, -, -, hnext, -⟩ := hextends.direct
      exact fun hzero => saturatingAdd_one_ne_zero _ (hnext.symm.trans hzero)

theorem run_witnessReached {provision : WitnessConfigProvision} {requests : List WitnessRequest}
    (h : Provisioned crypto seed provision) :
    WitnessReached crypto seed configId
      ((witnessMachine crypto seed configId).run provision.entry requests) :=
  run_handled (fun entry _ => WitnessReached crypto seed configId entry) h.witnessId
    ⟨h.witnessId, h.epoch, holdsPending_provisioned provision⟩
    fun _ _ _ _ _ _ hreached hstep => hreached.handled hstep

end Reached

/-- The capsule on file was compared with the active one. -/
theorem Acked.compared (h : Acked crypto predecessor successor) :
    predecessor.configRef.guardianEpoch ≠ 0 ∧ PolicyCompared predecessor successor := by
  obtain ⟨seed, configId, adminToken, bearer, provision, entry, requests, request, ack, hprovision,
    hactive, hacked, hfile⟩ := h
  obtain ⟨hprovisioned, rfl⟩ := witnessProvision_eq_ok hprovision
  have hreached : WitnessReached crypto seed configId
      ((witnessMachine crypto seed configId).run provision.entry requests) :=
    run_witnessReached hprovisioned
  generalize (witnessMachine crypto seed configId).run provision.entry requests = reached at *
  obtain ⟨saves, hstep⟩ := witnessMachine_handled crypto seed configId hreached.witnessId
    (.activate request)
  have hheld := (hreached.handled hstep).pending
  have hkept : ((witnessMachine crypto seed configId).step reached (.activate request)).1.capsule =
      reached.capsule := by
    rcases handled_active hstep with ⟨hsame, -⟩ | ⟨_, _, _, hrequest, -⟩
    · exact hsame
    · cases hrequest
  generalize ((witnessMachine crypto seed configId).step reached (.activate request)).1 = later
    at *
  refine ⟨(congrArg (·.configRef.guardianEpoch) hactive) ▸ hreached.epoch, ?_⟩
  cases hheld with
  | idle hcapsule => simp [hcapsule] at hfile
  | @waiting request _ _ hcapsule _ _ hextends =>
    rw [hcapsule, Option.map_some, Option.some.injEq] at hfile
    rw [hkept] at hextends
    have hcompared : PolicyCompared reached.capsule.unactivated
        request.capsule.unactivated := policyCompared_unactivated.mpr hextends.policyCompared
    rw [hactive, show request.capsule.unactivated = successor.unactivated from hfile] at hcompared
    exact policyCompared_unactivated.mp hcompared

/-! ### The guardian's activation -/

/-- The guardian's refusals that are about what the capsule says. -/
def capsuleRefusals : List String :=
  ["capsule does not match the Recovery Card or its canonical body",
    "activation QC/capsule does not bind the exact plan"]

/-- The successor with a certificate and a QC that are accepted for the plan's rotation. -/
def Activated (crypto : Crypto) (card : RecoveryCardV3) (plan : RotationPlan)
    (capsule : ConfigCapsuleV3) : Prop :=
  CardAccepted card ∧ ∃ certificate activationHash qc,
    capsule.activationCertificate = some certificate ∧ capsule.activationQc = some qc ∧
      CertificateAccepted crypto capsule certificate activationHash ∧
      QcAccepted crypto card capsule certificate activationHash qc ∧
      qc.rotationId = plan.context.rotationId

/-- A guardian on the predecessor, whose card the predecessor carries. -/
structure OnCapsule (entry : GuardianRotationEntryV3) (predecessor : ConfigCapsuleV3) : Prop where
  capsule : entry.provision.predecessorCapsule.unactivated = predecessor.unactivated
  config : predecessor.configRef.configId = entry.provision.recoveryCard.configId
  signerSetCommitment :
    predecessor.signerSetCommitment = entry.provision.recoveryCard.signerSetCommitment
  ownerCancelPublicKey :
    predecessor.ownerCancelPublicKey = entry.provision.recoveryCard.ownerCancelPublicKey

/-- No guardian refuses the activated successor for what the capsule says. -/
def GuardiansFollow (crypto : Crypto) (predecessor successor : ConfigCapsuleV3) : Prop :=
  ∀ plan, Voted crypto predecessor plan successor →
    ∀ (entry : GuardianRotationEntryV3) (capsule : ConfigCapsuleV3), OnCapsule entry predecessor →
      capsule.unactivated = successor.unactivated →
      Activated crypto entry.provision.recoveryCard plan capsule →
      ∀ text ∈ capsuleRefusals, activationChecks crypto entry plan capsule ≠ .error text

theorem followed_of_kept (hvoted : Voted crypto predecessor plan successor)
    (hepoch : predecessor.configRef.guardianEpoch ≠ 0) (hkept : PolicyKept predecessor successor)
    {entry : GuardianRotationEntryV3} {capsule : ConfigCapsuleV3} (hon : OnCapsule entry predecessor)
    (hsame : capsule.unactivated = successor.unactivated)
    (hactivated : Activated crypto entry.provision.recoveryCard plan capsule) :
    ∀ text ∈ capsuleRefusals, activationChecks crypto entry plan capsule ≠ .error text := by
  have hbinds := hvoted.binds
  have hfield {α : Type} (field : ConfigCapsuleV3 → α) := ConfigCapsuleV3.field_eq hsame field
  obtain ⟨hcard, certificate, activationHash, qc, hcertificate, hqc, hcert, haccepted, hrotation⟩ :=
    hactivated
  obtain ⟨hconfig, -, -, hnext, -⟩ := hbinds.direct
  have href := hfield ConfigCapsuleV3.configRef fun _ => rfl
  obtain ⟨body, hbody, hhash⟩ := hbinds.body
  have hvalid : validateActivatedCapsuleV3 crypto entry.provision.recoveryCard capsule = .ok () :=
    validateActivatedCapsuleV3_eq_ok.mpr ⟨hcard,
      ⟨(congrArg ConfigRef.configId href).trans (hconfig.trans hon.config),
        (hfield ConfigCapsuleV3.signerSetCommitment fun _ => rfl).trans
          (hkept.signerSetCommitment.trans hon.signerSetCommitment),
        (hfield ConfigCapsuleV3.ownerCancelPublicKey fun _ => rfl).trans
          (hkept.ownerCancelPublicKey.trans hon.ownerCancelPublicKey),
        body, (hfield configCapsuleBodyV3 fun _ => rfl).trans hbody,
        hhash.trans (hfield ConfigCapsuleV3.capsuleHash fun _ => rfl).symm⟩,
      Or.inr ⟨fun hone => saturatingAdd_one_ne_one hepoch
          (hnext.symm.trans ((congrArg ConfigRef.guardianEpoch href).symm.trans hone)),
        certificate, activationHash, qc, hcertificate, hqc, hcert, haccepted⟩⟩
  obtain ⟨transcript, htranscript⟩ := haccepted.transcript
  obtain ⟨planHash, hplan⟩ := hbinds.hash
  have hcount : capsule.guardianCount = UInt16.ofNat plan.newRoster.length := by
    rw [← hbinds.guardianCount, UInt16.ofNat_toNat]
    exact hfield ConfigCapsuleV3.guardianCount fun _ => rfl
  have hpredecessor : capsule.predecessorCapsuleHash =
      entry.provision.predecessorCapsule.capsuleHash :=
    (hfield ConfigCapsuleV3.predecessorCapsuleHash fun _ => rfl).trans
      (hbinds.predecessorHash.trans (ConfigCapsuleV3.field_eq hon.capsule (·.capsuleHash) fun _ => rfl).symm)
  have hroot : capsule.ciphertextFragmentRoot =
      entry.provision.predecessorCapsule.ciphertextFragmentRoot :=
    (hfield ConfigCapsuleV3.ciphertextFragmentRoot fun _ => rfl).trans
      (hkept.ciphertextFragmentRoot.trans
        (ConfigCapsuleV3.field_eq hon.capsule (·.ciphertextFragmentRoot) fun _ => rfl).symm)
  have hthreshold : capsule.guardianThreshold = plan.newGuardianThreshold :=
    (hfield ConfigCapsuleV3.guardianThreshold fun _ => rfl).trans hbinds.guardianThreshold
  have hroster : lengthU16 plan.newRoster.length = .ok (UInt16.ofNat plan.newRoster.length) := by
    rw [lengthU16, bailIf, if_neg (Nat.not_le.mpr hbinds.roster)]
    rfl
  have hchecks : activationChecks crypto entry plan capsule =
      if (guardianRoute entry plan true).isOk then do
        let prepared ← okOr entry.provision.epochStore.prepared
          "successor guardian has no locally prepared record"
        bailIf (¬BindsPrepared prepared.record capsule)
          "activated capsule differs from the guardian's prepared record"
        .ok (qc, crypto.sha256 transcript, planHash)
      else .ok (qc, crypto.sha256 transcript, planHash) := by
    simp [activationChecks, hvalid, hqc, okOr, wire, htranscript, hashPlan_eq_ok.mpr hplan, hroster,
      hcount, hpredecessor, hroot, hthreshold, href.trans hbinds.configRef, hrotation,
      DpssSuiteId.eq capsule.dpssSuite plan.dpssSuite, bailIf, bind, Except.bind, Except.mapError]
  intro text htext hrefused
  rw [hchecks] at hrefused
  have hother : text = "successor guardian has no locally prepared record" ∨
      text = "activated capsule differs from the guardian's prepared record" := by
    split at hrefused
    · cases hprepared : entry.provision.epochStore.prepared with
      | none =>
        rw [hprepared] at hrefused
        exact Or.inl (Except.error.inj hrefused).symm
      | some prepared =>
        rw [hprepared] at hrefused
        by_cases hrecord : BindsPrepared prepared.record capsule
        · simp [okOr, bailIf, hrecord, bind, Except.bind] at hrefused
        · simp only [okOr, bailIf, hrecord, bind, Except.bind, not_false_eq_true, if_true] at hrefused
          exact Or.inr (Except.error.inj hrefused).symm
    · cases hrefused
  rcases hother with rfl | rfl
  · exact absurd htext (by decide)
  · exact absurd htext (by decide)

/-! ### Chains -/

/-- A signer on the predecessor votes for the successor and a witness on it acknowledges it. -/
def EpochAdvanced (crypto : Crypto) (predecessor successor : ConfigCapsuleV3) : Prop :=
  (∃ plan, Voted crypto predecessor plan successor) ∧ Acked crypto predecessor successor

/-! ### Two successors of the genesis capsule -/

/-- A successor with the ciphertext fragments of its predecessor. -/
def sampleFollowing : ConfigCapsuleV3 :=
  { sampleSuccessor sampleGenesis 11 1657993987 with guardianMaterialRoot := 33 }

/-- The rotation is begun and released. -/
def sampleReleaseVoted : List SignerInput :=
  sampleBegin samplePlan70 ++
    [rotationInput 16 (.release samplePlan70 (sampleBeginCertificate samplePlan70 samplePlanHash70))]

def sampleActivate (successor : ConfigCapsuleV3) : SignerInput :=
  rotationInput 17 (.activate samplePlan70 (sampleReady samplePlan70 samplePlanHash70) successor)

theorem sampleReleaseVoted_votes :
    ∀ successor ∈ [sampleFollowing, sampleRefragmented],
      (((signerMachine Crypto.transparent sampleSealing).step
        (signerRun Crypto.transparent sampleSealing sampleSignerProvision sampleReleaseVoted)
        (sampleActivate successor)).2.bind fun event => endingVote ⟨sampleActivate successor, event⟩) =
        some (70, some successor.capsuleHash) := by
  decide +kernel

theorem sampleGenesis_acks :
    ∀ successor ∈ [sampleFollowing, sampleRefragmented],
      ((sampleWitness 1).step (sampleProvision 4 1).entry (.activate (sampleActivation sampleGenesis
        successor samplePlanHash70 70 sampleMembershipProof))).1.pendingCapsule.map
          (·.unactivated) = some successor.unactivated := by
  decide +kernel

/-- A request after which something is newly on file has been acknowledged. -/
theorem Handled.acked_of_pending {seed configId : Id32} {entry entry' : WitnessConfigEntry}
    {request : WitnessRequest} {reply : Option WitnessEvent} {saves : Bool}
    (hstep : Handled crypto seed configId entry request entry' reply saves)
    (hnone : entry.pendingCapsule = none) (hsome : entry'.pendingCapsule ≠ none) :
    ∃ ack, reply = some (.acked ack) := by
  cases hstep with
  | refused => exact absurd hnone hsome
  | cancelled _ _ _ houtcome _ =>
    cases houtcome with
    | repeated => exact absurd hnone hsome
    | recorded => exact absurd hnone hsome
    | rolledBack => exact absurd rfl hsome
  | retried _ _ hpending _ _ => cases hnone.symm.trans hpending
  | activated => exact ⟨_, rfl⟩
  | finalized => exact absurd rfl hsome
  | answered => exact absurd hnone hsome

theorem sample_epochAdvanced {successor : ConfigCapsuleV3}
    (h : successor ∈ [sampleFollowing, sampleRefragmented]) :
    EpochAdvanced Crypto.transparent sampleGenesis successor := by
  have hunactivated : successor.unactivated = successor := by
    simp only [List.mem_cons, List.not_mem_nil, or_false] at h
    rcases h with rfl | rfl <;> rfl
  constructor
  · obtain ⟨event, hstep, hending⟩ := Option.bind_eq_some_iff.mp (sampleReleaseVoted_votes successor h)
    obtain ⟨vote, hvote, -⟩ := activateVote_of_ending hending
    refine ⟨samplePlan70, sampleSealing, sampleSignerProvision, sampleReleaseVoted,
      sampleActivate successor, sampleReady samplePlan70 samplePlanHash70, vote, ?_, ?_, ?_⟩
    · decide +kernel
    · rw [hunactivated]
      rfl
    · rw [hstep]
      exact congrArg some hvote
  · have hfile := sampleGenesis_acks successor h
    obtain ⟨saves, hhandled⟩ := witnessMachine_handled Crypto.transparent (sampleWitnessSeed 1) 1
      (by decide : (sampleProvision 4 1).entry.witnessId ≠ 0)
      (.activate (sampleActivation sampleGenesis successor samplePlanHash70 70 sampleMembershipProof))
    obtain ⟨ack, hack⟩ := hhandled.acked_of_pending rfl fun hnone => by
      rw [sampleWitness, hnone] at hfile
      cases hfile
    exact ⟨sampleWitnessSeed 1, 1, "admin", some "admin", sampleProvision 4 1, _, [], _, ack,
      sampleProvision_accepted (by decide), rfl, hack, hfile⟩

/-! ### The policy of a chain -/

/-- Along a chain of capsules that signers vote for and witnesses acknowledge, any two agree
on the whole policy and guardians follow each step, exactly where each step keeps the root of
the ciphertext fragments. -/
theorem policy_kept_iff {chain : List ConfigCapsuleV3} (h : chain.IsChain (EpochAdvanced crypto)) :
    chain.Pairwise PolicyKept ∧ chain.IsChain (GuardiansFollow crypto) ↔
      chain.IsChain KeepsFragments := by
  constructor
  · rintro ⟨hpairwise, -⟩
    exact hpairwise.isChain.imp fun _ _ hkept => hkept.ciphertextFragmentRoot
  · intro hfragments
    have hkept : chain.IsChain fun predecessor successor =>
        PolicyKept predecessor successor ∧ GuardiansFollow crypto predecessor successor := by
      rw [List.isChain_iff_forall_rel_of_append_cons_cons] at h hfragments ⊢
      intro predecessor successor before after hsplit
      obtain ⟨hepoch, hcompared⟩ := (h hsplit).2.compared
      have hkept : PolicyKept predecessor successor := ⟨hcompared, hfragments hsplit⟩
      exact ⟨hkept, fun plan hvoted entry capsule hon hsame hactivated =>
        followed_of_kept hvoted hepoch hkept hon hsame hactivated⟩
    exact ⟨List.isChain_iff_pairwise.mp (hkept.imp fun _ _ h => h.1), hkept.imp fun _ _ h => h.2⟩

theorem policy_kept_following :
    [sampleGenesis, sampleFollowing].Pairwise PolicyKept ∧
      [sampleGenesis, sampleFollowing].IsChain (GuardiansFollow Crypto.transparent) := by
  have hchain : [sampleGenesis, sampleFollowing].IsChain (EpochAdvanced Crypto.transparent) :=
    List.isChain_pair.mpr (sample_epochAdvanced (by simp))
  exact (policy_kept_iff hchain).mpr (List.isChain_pair.mpr rfl)

/-- A signer votes for a successor with other ciphertext fragments, and a witness has it on file. -/
theorem policy_refragmented :
    ¬∀ (crypto : Crypto) (chain : List ConfigCapsuleV3), chain.IsChain (EpochAdvanced crypto) →
      chain.Pairwise PolicyKept ∧ chain.IsChain (GuardiansFollow crypto) := by
  intro hclaim
  have hchain : [sampleGenesis, sampleRefragmented].IsChain (EpochAdvanced Crypto.transparent) :=
    List.isChain_pair.mpr (sample_epochAdvanced (by simp))
  have hkept := (hclaim Crypto.transparent _ hchain).1
  have hroot : KeepsFragments sampleGenesis sampleRefragmented :=
    (List.pairwise_pair.mp hkept).ciphertextFragmentRoot
  exact absurd hroot (by unfold KeepsFragments; decide)

end MasterRecovery
