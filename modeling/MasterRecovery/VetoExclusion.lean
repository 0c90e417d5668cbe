import MasterRecovery.ForkFreedom

/-!
# Veto and activation

A tombstone keeps a witness from acknowledging a cancelled rotation; nothing
keeps it from signing a veto of a rotation it has acknowledged before. Where
that does not happen, the two quorums of one plan exclude each other.
-/

namespace MasterRecovery
open Checks Transcript Wire

variable {crypto : Crypto} {seed configId : Id32} {hashed : Set Bytes}
  {entry entry' : WitnessConfigEntry} {request : WitnessRequest} {reply : Option WitnessEvent}
  {saves : Bool} {requests : List WitnessRequest} {out : List WitnessEvent}

/-! ### One witness -/

/-- The request is an owner cancel of a plan the witness has acknowledged. -/
def WitnessRequest.VetoesAcked (crypto : Crypto) (entry : WitnessConfigEntry)
    (out : List WitnessEvent) : WitnessRequest → Prop
  | .cancelRotation _ certificate =>
    (∃ transcript, ownerRotationCancelCertificate certificate = .ok transcript ∧
      CancelBinds crypto certificate transcript entry) ∧
      ∃ ack, .acked ack ∈ out ∧ ack.context.rotationId = certificate.context.rotationId ∧
        ack.planHash = certificate.planHash
  | _ => False

/-- The certificate an acknowledgement was given for. -/
def Certified (crypto : Crypto) (hashed : Set Bytes) (ack : WitnessActivationAck) : Prop :=
  ∃ certificate transcript, rotationActivateCertificate certificate = .ok transcript ∧
    transcript ∈ hashed ∧ ack.activationCertificateHash = crypto.sha256 transcript ∧
    ack.planHash = certificate.planHash

/-- No plan is both acknowledged and vetoed. -/
structure VetoLedger (crypto : Crypto) (hashed : Set Bytes) (entry : WitnessConfigEntry)
    (out : List WitnessEvent) : Prop where
  pending : ∀ ack, entry.pendingAck = some ack → .acked ack ∈ out
  certified : ∀ ack, .acked ack ∈ out → Certified crypto hashed ack
  tombstone : ∀ cancel released, .cancelled cancel released ∈ out →
    cancel.rotationId ∈ entry.rotationCancellations
  exclusive : ∀ ack cancel released, .acked ack ∈ out → .cancelled cancel released ∈ out →
    ack.context.rotationId = cancel.rotationId → ack.planHash ≠ cancel.planHash

theorem CancelOutcome.tombstoned {certificate : OwnerRotationCancelCertificate}
    {transcript : Bytes} (h : CancelOutcome crypto certificate transcript entry entry') :
    certificate.context.rotationId ∈ entry'.rotationCancellations := by
  cases h with
  | repeated hseen => exact hseen
  | recorded => exact Std.TreeMap.mem_insert_self
  | rolledBack => exact Std.TreeMap.mem_insert_self

/-- One more acknowledgement, of a live rotation. -/
theorem VetoLedger.acked (h : VetoLedger crypto hashed entry out) {ack : WitnessActivationAck}
    (hlive : ack.context.rotationId ∉ entry.rotationCancellations)
    (hcertified : Certified crypto hashed ack)
    (hpending : ∀ found, entry'.pendingAck = some found → found = ack)
    (hkept : entry'.rotationCancellations = entry.rotationCancellations) :
    VetoLedger crypto hashed entry' (out ++ [.acked ack]) := by
  have hcancel : ∀ cancel released, .cancelled cancel released ∈ out ++ [WitnessEvent.acked ack] →
      .cancelled cancel released ∈ out := fun cancel released hmem => by simpa using hmem
  refine ⟨fun found hfound => ?_, fun found hmem => ?_, fun cancel released hmem => ?_,
    fun found cancel released hfound hmem hrotation => ?_⟩
  · rw [hpending found hfound]
    simp
  · rcases List.mem_append.mp hmem with hold | hlast
    · exact h.certified found hold
    · cases List.mem_singleton.mp hlast
      exact hcertified
  · exact hkept ▸ h.tombstone cancel released (hcancel _ _ hmem)
  · rcases List.mem_append.mp hfound with hold | hlast
    · exact h.exclusive found cancel released hold (hcancel _ _ hmem) hrotation
    · cases List.mem_singleton.mp hlast
      exact absurd (hrotation ▸ h.tombstone cancel released (hcancel _ _ hmem)) hlive

/-- Answers that neither acknowledge nor cancel. -/
theorem VetoLedger.frame (h : VetoLedger crypto hashed entry out) {more : List WitnessEvent}
    (hacked : ∀ ack, .acked ack ∉ more)
    (hcancelled : ∀ cancel released, .cancelled cancel released ∉ more)
    (hpending : ∀ ack, entry'.pendingAck = some ack → entry.pendingAck = some ack)
    (hkept : entry'.rotationCancellations = entry.rotationCancellations) :
    VetoLedger crypto hashed entry' (out ++ more) := by
  have hack : ∀ ack, .acked ack ∈ out ++ more → .acked ack ∈ out := fun ack hmem =>
    (List.mem_append.mp hmem).resolve_right (hacked ack)
  have hcancel : ∀ cancel released, .cancelled cancel released ∈ out ++ more →
      .cancelled cancel released ∈ out := fun cancel released hmem =>
    (List.mem_append.mp hmem).resolve_right (hcancelled cancel released)
  exact ⟨fun ack hfound => List.mem_append_left _ (h.pending ack (hpending ack hfound)),
    fun ack hmem => h.certified ack (hack ack hmem),
    fun cancel released hmem => hkept ▸ h.tombstone cancel released (hcancel _ _ hmem),
    fun ack cancel released hmem hmem' =>
      h.exclusive ack cancel released (hack ack hmem) (hcancel _ _ hmem')⟩

theorem VetoLedger.handled (h : VetoLedger crypto hashed entry out)
    (hpending : HoldsPending crypto seed configId entry)
    (hcondition : ¬request.VetoesAcked crypto entry out)
    (hhashes : ∀ transcript, request.Hashes transcript → transcript ∈ hashed)
    (hstep : Handled crypto seed configId entry request entry' reply saves) :
    VetoLedger crypto hashed entry' (out ++ reply.toList) := by
  have hcancellations : ∀ id ∈ entry.rotationCancellations, id ∈ entry'.rotationCancellations :=
    fun _ => handled_cancellations hstep
  cases hstep with
  | refused => exact h.frame (by simp) (by simp) (fun _ hack => hack) rfl
  | @cancelled now certificate transcript ackTranscript _ htranscript hconfig hbinds houtcome hack =>
    refine ⟨fun ack hfound => List.mem_append_left _ (h.pending ack (houtcome.pendingAck hfound)),
      fun ack hmem => h.certified ack (by simpa using hmem), fun cancel released hmem => ?_,
      fun ack cancel released hacked hmem hrotation => ?_⟩
    · rcases List.mem_append.mp hmem with hold | hlast
      · exact hcancellations _ (h.tombstone cancel released hold)
      · cases List.mem_singleton.mp hlast
        exact houtcome.tombstoned
    · have hold : .acked ack ∈ out := by simpa using hacked
      rcases List.mem_append.mp hmem with hmem | hlast
      · exact h.exclusive ack cancel released hold hmem hrotation
      · cases List.mem_singleton.mp hlast
        exact fun hplan =>
          hcondition ⟨⟨transcript, htranscript, hbinds⟩, ack, hold, hrotation, hplan⟩
  | retried hbinds hlive hcapsule hsame hack =>
    cases hpending with
    | idle hnone => exact absurd (hnone.symm.trans hcapsule) (by simp)
    | waiting _ hwaiting _ _ hlive' _ =>
      cases hwaiting.symm.trans hack
      exact h.acked hlive' (h.certified _ (h.pending _ hack))
        (fun found hfound => Option.some.inj (hfound.symm.trans hack)) rfl
  | activated hbinds hlive _ _ _ hack =>
    obtain ⟨transcript, htr, hhash⟩ := hbinds.certificate
    exact h.acked hlive ⟨_, transcript, htr, hhashes transcript (Or.inr htr), hhash.symm, rfl⟩
      (fun found hfound => (Option.some.inj hfound).symm) rfl
  | finalized => exact h.frame (by simp) (by simp) (fun _ hack => (by cases hack)) rfl
  | answered => exact h.frame (by simp) (by simp) (fun _ hack => hack) rfl

/-- An activated capsule the client accepts, put together from presented signatures. -/
structure ActivationAssembled (crypto : Crypto) (card : RecoveryCardV3)
    (presented : Set (Bytes × SignatureBytes)) (hashed : Set Bytes) (capsule : ConfigCapsuleV3)
    (certificate : RotationActivateCertificate) : Prop where
  accepted : validateActivatedCapsuleV3 crypto card capsule = .ok ()
  certificate_eq : capsule.activationCertificate = some certificate
  hashes : ∀ transcript, rotationActivateCertificate certificate = .ok transcript →
    transcript ∈ hashed
  presents : ∀ qc, capsule.activationQc = some qc → ∀ ack ∈ qc.witnessAcks, ∀ transcript,
    witnessActivationAck ack = .ok transcript → (transcript, ack.witnessSignature) ∈ presented

/-- A witness veto the guardians accept, put together from presented signatures. -/
structure VetoAssembled (crypto : Crypto) (card : RecoveryCardV3)
    (presented : Set (Bytes × SignatureBytes)) (cancel : OwnerRotationCancelCertificate)
    (acks : List WitnessRotationCancelAck) (plan : RotationPlan) : Prop where
  accepted : ∃ predecessor now cancelHash,
    validateOwnerRotationCancelWitnessQuorumV3 crypto cancel acks card plan predecessor now =
      .ok cancelHash
  presents : ∀ ack ∈ acks, ∀ transcript, witnessRotationCancelAck ack = .ok transcript →
    (transcript, ack.witnessSignature) ∈ presented

theorem ActivationAssembled.quorum {card : RecoveryCardV3}
    {presented : Set (Bytes × SignatureBytes)} {capsule : ConfigCapsuleV3}
    {certificate : RotationActivateCertificate}
    (h : ActivationAssembled crypto card presented hashed capsule certificate) :
    ∃ acks transcript, PinnedQuorum crypto card presented (·.witnessId) witnessActivationAck
        (·.witnessSignature) acks ∧
      rotationActivateCertificate certificate = .ok transcript ∧ transcript ∈ hashed ∧
      ∀ ack ∈ acks, ack.context.rotationId = certificate.context.rotationId ∧
        ack.activationCertificateHash = crypto.sha256 transcript := by
  obtain ⟨-, -, ⟨-, -, hnone, -⟩ | ⟨-, found, activationHash, qc, hfound, hqc, hcert, haccepted⟩⟩ :=
    validateActivatedCapsuleV3_eq_ok.mp h.accepted
  · exact absurd (hnone.symm.trans h.certificate_eq) (by simp)
  cases hfound.symm.trans h.certificate_eq
  obtain ⟨transcript, htr, hhash⟩ := hcert.transcript
  obtain ⟨-, -, hdistinct, hbound⟩ := epochActivationQc_eq_ok haccepted.transcript
  refine ⟨qc.witnessAcks, transcript, ⟨hdistinct, haccepted.quorum, fun ack hack => ?_⟩, htr,
    h.hashes transcript htr, fun ack hack => ?_⟩
  · obtain ⟨pin, hpin, hpinId, -, t, ht, hverify⟩ := haccepted.acks ack hack
    exact ⟨t, ht, h.presents qc hqc ack hack t ht, pin, hpin, hpinId, hverify⟩
  · obtain ⟨-, hrotation, -, -, -, -, hackHash⟩ := hbound ack hack
    exact ⟨hrotation.trans haccepted.rotation,
      hackHash.trans (haccepted.certificateHash.trans hhash.symm)⟩

theorem VetoAssembled.quorum {card : RecoveryCardV3} {presented : Set (Bytes × SignatureBytes)}
    {cancel : OwnerRotationCancelCertificate} {acks : List WitnessRotationCancelAck}
    {plan : RotationPlan} (h : VetoAssembled crypto card presented cancel acks plan) :
    PinnedQuorum crypto card presented (·.witnessId) witnessRotationCancelAck (·.witnessSignature)
        acks ∧
      ∀ ack ∈ acks, ack.rotationId = plan.context.rotationId ∧ ack.planHash = cancel.planHash := by
  obtain ⟨predecessor, now, cancelHash, hveto⟩ := h.accepted
  have haccepted := validateOwnerRotationCancelWitnessQuorumV3_eq_ok hveto
  refine ⟨⟨haccepted.distinct, haccepted.quorum, fun ack hack => ?_⟩, fun ack hack => ?_⟩
  · obtain ⟨-, -, pin, hpin, hpinId, t, ht, hverify⟩ := haccepted.acks ack hack
    exact ⟨t, ht, h.presents ack hack t ht, pin, hpin, hpinId, hverify⟩
  · obtain ⟨hrotation, hplan, -⟩ := haccepted.acks ack hack
    exact ⟨hrotation, hplan⟩

def sampleRoster : List GuardianRouteV3 :=
  [1, 2, 3].map fun index => ⟨index, 80, "guardian", 81, [1], 82⟩

def sampleRosterCommitment : Id32 :=
  Crypto.transparent.sha256 ((guardianRosterV3 sampleRoster).toOption.getD [])

def samplePlan : RotationPlan where
  context := sampleContext sampleGenesis 70
  intentHash := 83
  predecessor := sampleGenesis.configRef
  successor := sampleFirst.capsule.configRef
  oldRoster := sampleRoster
  newRoster := sampleRoster
  oldRosterCommitment := sampleRosterCommitment
  newRosterCommitment := sampleRosterCommitment
  oldGuardianThreshold := 2
  newGuardianThreshold := 2
  dataShards := 2
  totalShards := 3
  dpssSuite := .zfFrostRistretto255RtsRefreshV1
  dpssSessionId := 84
  dpssQualifiedSetCommitment := 85
  minimumDelaySecs := 10
  preparationDeadline := 20
  drainDeadline := 30

def samplePlanCancel : OwnerRotationCancelCertificate :=
  sampleCancel sampleGenesis samplePlanHash 70

def sampleCancelAck (id : UInt16) : WitnessRotationCancelAck :=
  let unsigned := cancelAck Crypto.transparent (sampleWitnessSeed id) samplePlanCancel
    ((ownerRotationCancelCertificate samplePlanCancel).toOption.getD []) id
  { unsigned with
    witnessSignature := Crypto.transparent.sign (sampleWitnessSeed id)
      ((witnessRotationCancelAck unsigned).toOption.getD []) }

end MasterRecovery
