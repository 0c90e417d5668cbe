import MasterRecovery.CapsuleValidation
import MasterRecovery.PendingSuccessor
import MasterRecovery.WitnessRuns

/-!
# What a witness installs and what a client accepts

A witness checks each vote against its pinned signer keys, a client against the
signer tree of the capsule. The two agree on every other field of a certificate
and its QC.
-/

namespace MasterRecovery
open Checks Transcript Wire

variable {crypto : Crypto} {seed configId : Id32} {card : RecoveryCardV3}
  {entry entry' : WitnessConfigEntry} {request : WitnessRequest} {reply : Option WitnessEvent}
  {saves : Bool} {requests : List WitnessRequest}

/-! ### Entries of a card -/

/-- The provision and the card name one configuration. -/
structure ProvisionedFor (card : RecoveryCardV3) (provision : WitnessConfigProvision) : Prop where
  config : provision.capsule.configRef.configId = card.configId
  signerSetCommitment : provision.capsule.signerSetCommitment = card.signerSetCommitment
  ownerCancelPublicKey : provision.capsule.ownerCancelPublicKey = card.ownerCancelPublicKey
  pins : ∀ id : UInt16,
    provision.witnessPublicKeys[id]? = (witnessPins card)[id]?.map (·.publicKey)
  faultBound : provision.witnessFaultBound = card.witnessFaultBound

/-- The entry still names the configuration of the card. -/
structure FollowsCard (card : RecoveryCardV3) (entry : WitnessConfigEntry) : Prop where
  epoch : entry.capsule.configRef.guardianEpoch ≠ 0
  config : entry.capsule.configRef.configId = card.configId
  signerSetCommitment : entry.capsule.signerSetCommitment = card.signerSetCommitment
  ownerCancelPublicKey : entry.capsule.ownerCancelPublicKey = card.ownerCancelPublicKey
  pins : ∀ id : UInt16, entry.witnessPublicKeys[id]? = (witnessPins card)[id]?.map (·.publicKey)
  faultBound : entry.witnessFaultBound = card.witnessFaultBound

theorem ProvisionedFor.followsCard {provision : WitnessConfigProvision}
    (h : ProvisionedFor card provision) (hepoch : provision.capsule.configRef.guardianEpoch ≠ 0) :
    FollowsCard card provision.entry :=
  ⟨hepoch, h.config, h.signerSetCommitment, h.ownerCancelPublicKey, h.pins, h.faultBound⟩

theorem FollowsCard.handled (hcard : FollowsCard card entry)
    (hpending : HoldsPending crypto seed configId entry)
    (hstep : Handled crypto seed configId entry request entry' reply saves) :
    FollowsCard card entry' := by
  obtain ⟨-, -, hpins, hfault⟩ := handled_pins hstep
  have hpins' := fun id => hpins ▸ hcard.pins id
  have hfault' := hfault.trans hcard.faultBound
  rcases handled_active hstep with ⟨hsame, -⟩ | ⟨qc, pending, pendingAck, -, hbinds, rfl, -⟩
  · exact ⟨hsame ▸ hcard.epoch, hsame ▸ hcard.config, hsame ▸ hcard.signerSetCommitment,
      hsame ▸ hcard.ownerCancelPublicKey, hpins', hfault'⟩
  · cases hpending with
    | idle hcapsule => exact absurd (hcapsule.symm.trans hbinds.pending_eq) (by simp)
    | waiting hcapsule _ _ hextends =>
      cases hcapsule.symm.trans hbinds.pending_eq
      obtain ⟨hconfig, -, -, hepoch, -⟩ := hextends.direct
      exact ⟨fun hzero => saturatingAdd_one_ne_zero _ (hepoch.symm.trans hzero),
        hconfig.trans hcard.config,
        hextends.signerSetCommitment.trans hcard.signerSetCommitment,
        hextends.ownerCancelPublicKey.trans hcard.ownerCancelPublicKey, hpins', hfault'⟩

/-! ### Installed capsules -/

/-- The membership proof of every vote verifies against the capsule's own signer tree. -/
def MembershipsVerify (crypto : Crypto) (capsule : ConfigCapsuleV3) : Prop :=
  ∀ certificate, capsule.activationCertificate = some certificate → ∀ vote ∈ certificate.votes,
    validateSignerMembership crypto vote.signerId vote.signerPublicKey vote.signerMembershipProof
      capsule = .ok ()

theorem installed_accepted_iff (hcard : FollowsCard card entry)
    (hpending : HoldsPending crypto seed configId entry) {qc : EpochActivationQc}
    {pending : ConfigCapsuleV3} {pendingAck : WitnessActivationAck}
    (hbinds : QcBinds crypto configId qc entry pending pendingAck) :
    validateActivatedCapsuleV3 crypto card { pending with activationQc := some qc } = .ok () ↔
      validateRecoveryCardV3 card = .ok () ∧
        MembershipsVerify crypto { pending with activationQc := some qc } := by
  rw [validateActivatedCapsuleV3_eq_ok, validateRecoveryCardV3_eq_ok]
  constructor
  · rintro ⟨haccepted, -, ⟨-, -, hnone, -⟩ | ⟨-, certificate, activationHash, qc', hcert, -, hvotes, -⟩⟩
    · exact ⟨haccepted, fun certificate hcert => absurd (hnone.symm.trans hcert) (by simp)⟩
    · refine ⟨haccepted, fun certificate' hcert' vote hvote => ?_⟩
      cases hcert.symm.trans hcert'
      exact (hvotes.votes vote hvote).member
  · rintro ⟨haccepted, hmembers⟩
    cases hpending with
    | idle hcapsule => exact absurd (hcapsule.symm.trans hbinds.pending_eq) (by simp)
    | @waiting request activationHash ackTranscript hcapsule hack hcert hextends hlive _ =>
      cases hcapsule.symm.trans hbinds.pending_eq
      cases hack.symm.trans hbinds.ack_eq
      obtain ⟨hconfig, hgeneration, hauthorization, hepoch, -⟩ := hextends.direct
      have hcontext := hextends.configRef
      refine ⟨haccepted, ⟨hconfig.trans hcard.config,
        hextends.signerSetCommitment.trans hcard.signerSetCommitment,
        hextends.ownerCancelPublicKey.trans hcard.ownerCancelPublicKey, hcert.body⟩,
        Or.inr ⟨?_, request.activationCertificate, activationHash, qc, rfl, rfl, ?_, ?_⟩⟩
      · exact fun hone => saturatingAdd_one_ne_one hcard.epoch (hepoch.symm.trans hone)
      · exact ⟨hcert.successor, hcert.successorHash, by rw [hcontext]; exact hconfig.symm,
          by rw [hcontext]; exact hgeneration.symm, by rw [hcontext]; exact hauthorization.symm,
          by rw [hcontext]; exact hepoch.symm, hcert.predecessor.symm, hcert.certificate,
          fun vote hvote => ⟨hmembers _ rfl vote hvote, (hextends.pinned vote hvote).2⟩,
          hextends.signerThreshold ▸ hextends.votes⟩
      · refine ⟨hbinds.transcript, ?_, hbinds.rotation, ?_, ?_, hbinds.successorEpoch,
          hbinds.successor, hbinds.certificate, hbinds.faultBound.trans hcard.faultBound,
          fun ack hmem => ?_, hcard.faultBound ▸ hbinds.quorum⟩
        · exact hbinds.config.trans (hcert.config.symm.trans (hconfig.trans hcard.config))
        · rw [hcontext]
          exact hbinds.predecessorEpoch
        · exact hbinds.predecessor.trans hextends.predecessor.symm
        · obtain ⟨hpinned, hsignature⟩ := hbinds.acks ack hmem
          rw [hcard.pins, Option.map_eq_some_iff] at hpinned
          obtain ⟨pin, hpin, hkey⟩ := hpinned
          obtain ⟨hmem, hid⟩ := haccepted.witnessPins_eq_some.mp hpin
          exact ⟨pin, hmem, hid, hkey.symm, hkey ▸ hsignature⟩

/-! ### Runs -/

/-- What the client says of every capsule installed so far, and where the capsules
that reads return come from. -/
structure AcceptLedger (crypto : Crypto) (card : RecoveryCardV3) (first : ConfigCapsuleV3)
    (entry : WitnessConfigEntry) (out : List WitnessEvent) : Prop where
  installed : ∀ capsule, .finalized capsule ∈ out →
    (validateActivatedCapsuleV3 crypto card capsule = .ok () ↔
      validateRecoveryCardV3 card = .ok () ∧ MembershipsVerify crypto capsule)
  active : entry.capsule = first ∨ .finalized entry.capsule ∈ out
  read : ∀ envelope, .answered envelope ∈ out →
    envelope.capsule = first ∨ .finalized envelope.capsule ∈ out

theorem handled_answered {envelope : WitnessReadEnvelope}
    (hstep : Handled crypto seed configId entry request entry' (some (.answered envelope)) saves) :
    envelope.capsule = entry.capsule := by
  cases hstep with
  | answered => rfl

theorem AcceptLedger.handled {first : ConfigCapsuleV3} {out : List WitnessEvent}
    (h : AcceptLedger crypto card first entry out) (hcard : FollowsCard card entry)
    (hpending : HoldsPending crypto seed configId entry)
    (hstep : Handled crypto seed configId entry request entry' reply saves) :
    AcceptLedger crypto card first entry' (out ++ reply.toList) := by
  refine ⟨fun capsule hmem => ?_, ?_, fun envelope hmem => ?_⟩
  · rcases List.mem_append.mp hmem with hold | hnew
    · exact h.installed capsule hold
    · rw [Option.mem_toList] at hnew
      rcases handled_active hstep with ⟨-, hnone⟩ | ⟨qc, pending, pendingAck, -, hbinds, rfl, hreply⟩
      · exact absurd hnew (hnone capsule)
      · cases hreply.symm.trans hnew
        exact installed_accepted_iff hcard hpending hbinds
  · rcases handled_active hstep with ⟨hsame, -⟩ | ⟨-, -, -, -, -, -, hreply⟩
    · rw [hsame]
      exact h.active.imp_right (List.mem_append_left _)
    · exact Or.inr (by simp [hreply])
  · rcases List.mem_append.mp hmem with hold | hnew
    · exact (h.read envelope hold).imp_right (List.mem_append_left _)
    · rw [Option.mem_toList] at hnew
      subst hnew
      rw [handled_answered hstep]
      exact h.active.imp_right (List.mem_append_left _)

theorem run_acceptLedger {provision : WitnessConfigProvision} (hcard : ProvisionedFor card provision)
    (hprovisioned : Provisioned crypto seed provision) :
    AcceptLedger crypto card provision.capsule
      ((witnessMachine crypto seed configId).run provision.entry requests)
      ((witnessMachine crypto seed configId).outputs provision.entry requests) := by
  refine (run_handled (fun entry out => FollowsCard card entry ∧
      HoldsPending crypto seed configId entry ∧
      AcceptLedger crypto card provision.capsule entry out) hprovisioned.witnessId
    ⟨hcard.followsCard hprovisioned.epoch, holdsPending_provisioned provision,
      fun _ hmem => (by cases hmem), Or.inl rfl, fun _ hmem => (by cases hmem)⟩ ?_).2.2
  rintro entry out request entry' reply saves ⟨hfollows, hpending, hledger⟩ hstep
  exact ⟨hfollows.handled hpending hstep, hpending.handled hstep,
    hledger.handled hfollows hpending hstep⟩

/-- An activation request all of whose votes carry a verifying membership proof. -/
def WitnessRequest.MembershipsVerify (crypto : Crypto) : WitnessRequest → Prop
  | .activate request => MasterRecovery.MembershipsVerify crypto request.storedCapsule
  | _ => True

theorem run_membershipsVerify {provision : WitnessConfigProvision}
    (hprovisioned : Provisioned crypto seed provision)
    (hproofs : ∀ request ∈ requests, request.MembershipsVerify crypto) {capsule : ConfigCapsuleV3}
    (hmem : .finalized capsule ∈
      (witnessMachine crypto seed configId).outputs provision.entry requests) :
    MembershipsVerify crypto capsule := by
  refine (run_handled_along
    (fun _ _ request => request.MembershipsVerify crypto)
    (fun entry out => (∀ pending, entry.pendingCapsule = some pending →
        MembershipsVerify crypto pending) ∧
      ∀ capsule, .finalized capsule ∈ out → MembershipsVerify crypto capsule)
    hprovisioned.witnessId ⟨fun _ hs => (by cases hs), fun _ hmem => (by cases hmem)⟩ ?_
    (Machine.along_of_forall (witnessMachine crypto seed configId) hproofs _ [])).2 capsule hmem
  rintro entry out request entry' reply saves ⟨hpending, hinstalled⟩ hrequest hstep
  cases hstep with
  | refused => exact ⟨hpending, by simpa using hinstalled⟩
  | cancelled _ _ _ houtcome _ =>
    refine ⟨?_, by simpa using hinstalled⟩
    cases houtcome with
    | repeated => exact hpending
    | recorded => exact hpending
    | rolledBack => exact fun _ hs => (by cases hs)
  | retried => exact ⟨hpending, by simpa using hinstalled⟩
  | activated =>
    refine ⟨fun pending hs => ?_, by simpa using hinstalled⟩
    cases hs
    exact hrequest
  | finalized hbinds =>
    refine ⟨fun _ hs => (by cases hs), fun capsule hmem => ?_⟩
    rcases List.mem_append.mp hmem with hold | hnew
    · exact hinstalled capsule hold
    · cases List.mem_singleton.mp hnew
      have hstored := hpending _ hbinds.pending_eq
      exact hstored
  | answered => exact ⟨hpending, by simpa using hinstalled⟩

/-! ### Samples -/

/-- The acknowledgement a witness gives for a request over this entry. -/
def sampleAck (request : WitnessActivationRequest) (entry : WitnessConfigEntry) :
    WitnessActivationAck :=
  let activationHash := Crypto.transparent.sha256
    ((rotationActivateCertificate request.activationCertificate).toOption.getD [])
  let seed := sampleWitnessSeed entry.witnessId
  let unsigned := activationAck Crypto.transparent seed request activationHash entry
  { unsigned with
    witnessSignature := Crypto.transparent.sign seed
      ((witnessActivationAck unsigned).toOption.getD []) }

def sampleQc (request : WitnessActivationRequest) (acks : List WitnessActivationAck) :
    EpochActivationQc where
  protocolVersion := protocolVersionV3
  configId := request.capsule.configRef.configId
  rotationId := request.activationCertificate.context.rotationId
  predecessorEpoch := request.activationCertificate.context.configRef.guardianEpoch
  predecessorCapsuleHash := request.capsule.predecessorCapsuleHash
  successorEpoch := request.capsule.configRef.guardianEpoch
  successorCapsuleHash := request.capsule.capsuleHash
  activationCertificateHash := Crypto.transparent.sha256
    ((rotationActivateCertificate request.activationCertificate).toOption.getD [])
  witnessFaultBound := 1
  witnessAcks := acks

/-- The QC of witnesses 1 to 3 of the small deployment for a successor of its genesis. -/
def sampleGenesisQc (request : WitnessActivationRequest) : EpochActivationQc :=
  sampleQc request ([1, 2, 3].map fun id => sampleAck request (sampleProvision 4 id).entry)

theorem sampleProvision_for (id : UInt16) : ProvisionedFor (sampleCard 4) (sampleProvision 4 id) where
  config := rfl
  signerSetCommitment := rfl
  ownerCancelPublicKey := rfl
  pins := sampleCard_accepted.publicKeys
  faultBound := rfl

/-! ### What every client accepts -/

/-- Over every run: an installed capsule passes the client exactly when the card does and
every vote of its certificate carries a verifying membership proof; reads return the
provisioned capsule or an installed one; and if every activation request of the run
carries verifying proofs, every installed capsule passes. -/
theorem finalized_capsule_accepted_iff {adminToken : String} {bearer : Option String}
    {provision : WitnessConfigProvision}
    (hprovision : witnessProvision crypto seed adminToken bearer false provision = .ok entry)
    (hcard : ProvisionedFor card provision) :
    let out := (witnessMachine crypto seed configId).outputs entry requests
    (∀ capsule, .finalized capsule ∈ out →
      (validateActivatedCapsuleV3 crypto card capsule = .ok () ↔
        validateRecoveryCardV3 card = .ok () ∧ MembershipsVerify crypto capsule)) ∧
      (∀ envelope, .answered envelope ∈ out →
        envelope.capsule = provision.capsule ∨ .finalized envelope.capsule ∈ out) ∧
      (validateRecoveryCardV3 card = .ok () →
        (∀ request ∈ requests, request.MembershipsVerify crypto) →
        ∀ capsule, .finalized capsule ∈ out →
          validateActivatedCapsuleV3 crypto card capsule = .ok ()) := by
  intro out
  obtain ⟨hprovisioned, rfl⟩ := witnessProvision_eq_ok hprovision
  have hledger : AcceptLedger crypto card provision.capsule _ out :=
    run_acceptLedger hcard hprovisioned
  refine ⟨hledger.installed, hledger.read, fun haccepted hproofs capsule hmem => ?_⟩
  exact (hledger.installed capsule hmem).mpr
    ⟨haccepted, run_membershipsVerify hprovisioned hproofs hmem⟩

/-- The client refuses the capsule of this answer. -/
def refusedByClient (card : RecoveryCardV3) : WitnessEvent → Bool
  | .finalized capsule =>
    (validateActivatedCapsuleV3 Crypto.transparent card capsule).toOption.isNone
  | _ => false

/-- The activation and finalization of one successor at the first witness. -/
def sampleInstall (proof : MerkleProofBytes) : List WitnessRequest :=
  [.activate (sampleFirstWith proof), .finalize (sampleGenesisQc (sampleFirstWith proof))]

/-- The capsule the first witness installs. -/
def sampleInstalled : ConfigCapsuleV3 :=
  { sampleFirst.storedCapsule with activationQc := some (sampleGenesisQc sampleFirst) }

example : validateRecoveryCardV3 (sampleCard 4) = .ok () := by
  decide +kernel

theorem finalized_capsule_accepted_sample :
    validateActivatedCapsuleV3 Crypto.transparent (sampleCard 4) sampleInstalled = .ok () := by
  have hproofs : ∀ request ∈ sampleInstall sampleMembershipProof,
      request.MembershipsVerify Crypto.transparent := by
    simp only [sampleInstall, List.forall_mem_cons, List.not_mem_nil, false_implies,
      implies_true, and_true]
    refine ⟨fun certificate hcertificate vote hvote => ?_, trivial⟩
    cases hcertificate
    revert vote
    decide +kernel
  have hinstalled : .finalized sampleInstalled ∈
      (sampleWitness 1).outputs (sampleProvision 4 1).entry
        (sampleInstall sampleMembershipProof) := by
    decide +kernel
  exact (finalized_capsule_accepted_iff (sampleProvision_accepted (by decide))
    (sampleProvision_for 1)).2.2 (by decide) hproofs sampleInstalled hinstalled

/-- One of two signers signs a vote without a membership proof: the witness installs the
capsule and no client accepts it. -/
theorem finalized_capsule_refused :
    ¬∀ (crypto : Crypto) (card : RecoveryCardV3) (seed : Id32) (adminToken : String)
      (bearer : Option String) (provision : WitnessConfigProvision) (entry : WitnessConfigEntry)
      (requests : List WitnessRequest), validateRecoveryCardV3 card = .ok () →
      ProvisionedFor card provision →
      witnessProvision crypto seed adminToken bearer false provision = .ok entry →
      ∀ capsule, .finalized capsule ∈
          (witnessMachine crypto seed card.configId).outputs entry requests →
        validateActivatedCapsuleV3 crypto card capsule = .ok () := by
  intro hclaim
  have hall := hclaim Crypto.transparent (sampleCard 4) (sampleWitnessSeed 1) "admin" (some "admin")
    (sampleProvision 4 1) _ (sampleInstall []) (by decide) (sampleProvision_for 1)
    (sampleProvision_accepted (by decide))
  have hrefused : ((sampleWitness 1).outputs (sampleProvision 4 1).entry
      (sampleInstall [])).any (refusedByClient (sampleCard 4)) = true := by
    decide +kernel
  obtain ⟨event, hevent, hrefused⟩ := List.any_eq_true.mp hrefused
  cases event with
  | finalized capsule =>
    rw [refusedByClient, hall capsule hevent] at hrefused
    cases hrefused
  | acked => cases hrefused
  | cancelled => cases hrefused
  | answered => cases hrefused

end MasterRecovery
