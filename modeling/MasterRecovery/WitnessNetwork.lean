import MasterRecovery.WitnessAcceptance

/-!
# The witnesses of one card

Any number of witnesses run side by side on the requests addressed to them, in
any order and with any repetition. Honest ones follow their handlers; the others
are not modelled but may present any signature. A presented signature that
verifies under an honest pin is on a transcript that witness signed.
-/

namespace MasterRecovery
open Checks Transcript Wire Quorum

variable {crypto : Crypto}

/-! ### Signed messages -/

/-- What an answer puts under the witness's signature. -/
def WitnessEvent.Signs (transcript : Bytes) : WitnessEvent → Prop
  | .acked ack => witnessActivationAck ack = .ok transcript
  | .cancelled ack _ => witnessRotationCancelAck ack = .ok transcript
  | .answered envelope => witnessEpochReadResponse envelope.response = .ok transcript
  | .finalized _ => False

def signedBy (out : List WitnessEvent) : Set Bytes :=
  {transcript | ∃ event ∈ out, event.Signs transcript}

theorem answered_of_signedBy {out : List WitnessEvent} {response : WitnessEpochReadResponse}
    {transcript : Bytes} (htr : witnessEpochReadResponse response = .ok transcript)
    (h : transcript ∈ signedBy out) :
    ∃ sent, .answered sent ∈ out ∧
      readResponseUnsigned sent.response = readResponseUnsigned response := by
  obtain ⟨event, hevent, hsigns⟩ := h
  have hopens : Opens "gp/witness-epoch-read-response/v3" transcript :=
    witnessEpochReadResponse_framed.opens htr
  cases event with
  | answered sent =>
    exact ⟨sent, hevent, witnessEpochReadResponse_framed.binds.injective hsigns htr⟩
  | acked sent => exact absurd (hopens.unique (witnessActivationAck_framed.opens hsigns)) (by simp)
  | cancelled sent =>
    exact absurd (hopens.unique (witnessRotationCancelAck_framed.opens hsigns)) (by simp)
  | finalized => exact hsigns.elim

/-! ### Deployments -/

/-- A card that pins exactly `3f+1` witnesses, all but at most `f` of them honest and
provisioned for it. -/
structure Deployment (crypto : Crypto) where
  card : RecoveryCardV3
  honest : Finset UInt16
  seed : UInt16 → Id32
  provision : UInt16 → WitnessConfigProvision
  accepted : validateRecoveryCardV3 card = .ok ()
  exact_roster : card.witnesses.length = requiredWitnessRoster card.witnessFaultBound
  faults : (card.roster \ honest).card ≤ card.witnessFaultBound.toNat
  provisioned : ∀ id ∈ honest, (provision id).witnessId = id ∧ ProvisionedFor card (provision id) ∧
    ∃ adminToken bearer, witnessProvision crypto (seed id) adminToken bearer false (provision id) =
      .ok (provision id).entry

namespace Deployment

variable (net : Deployment crypto)

def witness (id : UInt16) : Machine WitnessConfigEntry WitnessRequest WitnessEvent :=
  witnessMachine crypto (net.seed id) net.card.configId

/-- All witnesses side by side; a request is addressed to one of them. -/
def network : Machine (UInt16 → WitnessConfigEntry) (UInt16 × WitnessRequest)
    (UInt16 × WitnessEvent) :=
  Machine.family net.witness

def start (id : UInt16) : WitnessConfigEntry := (net.provision id).entry

/-- What one witness answered in a run. -/
def sent (requests : List (UInt16 × WitnessRequest)) (id : UInt16) : List WitnessEvent :=
  Machine.inbox id (net.network.outputs net.start requests)

theorem sent_eq (requests : List (UInt16 × WitnessRequest)) (id : UInt16) :
    net.sent requests id =
      (net.witness id).outputs (net.start id) (Machine.inbox id requests) :=
  Machine.family_outputs ..

theorem provisioned_of_honest {id : UInt16} (hid : id ∈ net.honest) :
    Provisioned crypto (net.seed id) (net.provision id) := by
  obtain ⟨-, -, adminToken, bearer, hprovision⟩ := net.provisioned id hid
  exact (witnessProvision_eq_ok hprovision).1

/-- Of the presented signatures, those under an honest key are on what that witness signed. -/
def Unforgeable (requests : List (UInt16 × WitnessRequest))
    (presented : Set (Bytes × SignatureBytes)) : Prop :=
  ∀ id ∈ net.honest,
    crypto.Unforged (crypto.verifyingKeyBytes (net.seed id)) (signedBy (net.sent requests id))
      presented

theorem cardAccepted : CardAccepted net.card := validateRecoveryCardV3_eq_ok.mp net.accepted

/-- Two quorums of pinned witnesses share an honest one. -/
theorem common_honest {A B : Finset UInt16} (hA : A ⊆ net.card.roster) (hB : B ⊆ net.card.roster)
    (hqA : requiredWitnessQuorum net.card.witnessFaultBound ≤ A.card)
    (hqB : requiredWitnessQuorum net.card.witnessFaultBound ≤ B.card) :
    ∃ id ∈ A ∩ B, id ∈ net.honest := by
  have hroster : net.card.roster.card = requiredWitnessRoster net.card.witnessFaultBound :=
    net.cardAccepted.card_roster.trans net.exact_roster
  obtain ⟨-, hhonest⟩ := (quorumsIntersect_iff hroster.ge).mpr hroster A B hA hB hqA hqB
  obtain ⟨id, hid, hfaulty⟩ := hhonest _ net.faults
  refine ⟨id, hid, ?_⟩
  by_contra hnot
  exact hfaulty (Finset.mem_sdiff.mpr ⟨hA (Finset.mem_inter.mp hid).1, hnot⟩)

end Deployment

/-- A pinned witness's presented signature on the transcript. -/
def PinSigned (crypto : Crypto) (card : RecoveryCardV3) (presented : Set (Bytes × SignatureBytes))
    (id : UInt16) (transcript : Bytes) (signature : SignatureBytes) : Prop :=
  (transcript, signature) ∈ presented ∧ ∃ pin ∈ card.witnesses, pin.witnessId = id ∧
    crypto.signatureVerifies pin.publicKey transcript signature = true

/-- Under an honest pin it is a transcript that witness signed. -/
theorem PinSigned.signed_transcript {net : Deployment crypto} {requests : List (UInt16 × WitnessRequest)}
    {presented : Set (Bytes × SignatureBytes)} {id : UInt16} {transcript : Bytes}
    {signature : SignatureBytes} (hunforged : net.Unforgeable requests presented)
    (hid : id ∈ net.honest) (h : PinSigned crypto net.card presented id transcript signature) :
    transcript ∈ signedBy (net.sent requests id) := by
  obtain ⟨hpresented, pin, hpin, rfl, hverify⟩ := h
  obtain ⟨hwitness, hprovision, -⟩ := net.provisioned _ hid
  have hown := (net.provisioned_of_honest hid).ownKey
  rw [hwitness, hprovision.pins, net.cardAccepted.witnessPins_eq_some.mpr ⟨hpin, rfl⟩,
    Option.map_some, Option.some.injEq] at hown
  exact hunforged _ hid _ _ hpresented (hown ▸ hverify)

/-- Presented acknowledgements of distinct pinned witnesses, `2f+1` of them. -/
structure PinnedQuorum {α : Type} (crypto : Crypto) (card : RecoveryCardV3)
    (presented : Set (Bytes × SignatureBytes)) (witnessId : α → UInt16) (encode : α → Put)
    (signature : α → SignatureBytes) (acks : List α) : Prop where
  distinct : (acks.map witnessId).Nodup
  quorum : requiredWitnessQuorum card.witnessFaultBound ≤ acks.length
  signed : ∀ ack ∈ acks, ∃ transcript, encode ack = .ok transcript ∧
    PinSigned crypto card presented (witnessId ack) transcript (signature ack)

/-- What handling a request hashes. -/
def WitnessRequest.Hashes (transcript : Bytes) : WitnessRequest → Prop
  | .activate request => configCapsuleBodyV3 request.capsule = .ok transcript ∨
      rotationActivateCertificate request.activationCertificate = .ok transcript
  | .cancelRotation _ certificate => ownerRotationCancelCertificate certificate = .ok transcript
  | _ => False

/-- Four witnesses, the fourth of them arbitrary. -/
def sampleDeployment : Deployment Crypto.transparent where
  card := sampleCard 4
  honest := {1, 2, 3}
  seed := sampleWitnessSeed
  provision := sampleProvision 4
  accepted := by decide
  exact_roster := rfl
  faults := by decide
  provisioned id hid := by
    have hmem : id ∈ ([1, 2, 3, 4] : List UInt16) := by
      simp only [Finset.mem_insert, Finset.mem_singleton] at hid
      rcases hid with rfl | rfl | rfl <;> decide
    exact ⟨rfl, sampleProvision_for id, "admin", some "admin", sampleProvision_accepted hmem⟩

/-- Signatures the witnesses of the small deployment make on these transcripts. -/
def samplePresented (signed : List (UInt16 × Put)) : Set (Bytes × SignatureBytes) :=
  {pair | ∃ id encoded, (id, encoded) ∈ signed ∧ ∃ transcript, encoded = .ok transcript ∧
    pair = (transcript, Crypto.transparent.sign (sampleWitnessSeed id) transcript)}

theorem sampleWitnessSeed_inj {id id' : UInt16}
    (h : Crypto.transparent.verifyingKeyBytes (sampleWitnessSeed id) =
      Crypto.transparent.verifyingKeyBytes (sampleWitnessSeed id')) : id = id' := by
  have hid := id.toNat_lt
  have hid' := id'.toNat_lt
  have hseed : sampleWitnessSeed id = sampleWitnessSeed id' := by
    simpa [Crypto.transparent] using h
  have hnat := congrArg BitVec.toNat hseed
  simp only [sampleWitnessSeed, BitVec.toNat_ofNat] at hnat
  exact UInt16.toNat_inj.mp (by omega)

/-- Presenting what was signed forges nothing. -/
theorem sampleDeployment_unforgeable {requests : List (UInt16 × WitnessRequest)}
    {signed : List (UInt16 × Put)}
    (h : ∀ id encoded, (id, encoded) ∈ signed → id ∈ sampleDeployment.honest →
      ∀ transcript, encoded = .ok transcript →
        transcript ∈ signedBy (sampleDeployment.sent requests id)) :
    sampleDeployment.Unforgeable requests (samplePresented signed) := by
  rintro id hid transcript signature ⟨id', encoded, hmem, transcript', hencoded, hpair⟩ hverify
  cases hpair
  cases sampleWitnessSeed_inj (Crypto.transparent_key_of_verifies hverify)
  exact h id encoded hmem hid transcript hencoded

theorem sample_pinSigned {signed : List (UInt16 × Put)} {id : UInt16} {encoded : Put}
    {transcript : Bytes} (hid : id ∈ [1, 2, 3, 4]) (hmem : (id, encoded) ∈ signed)
    (hencoded : encoded = .ok transcript) :
    PinSigned Crypto.transparent (sampleCard 4) (samplePresented signed) id transcript
      (Crypto.transparent.sign (sampleWitnessSeed id) transcript) := by
  have hpins : ∀ id ∈ ([1, 2, 3, 4] : List UInt16), ∃ pin ∈ (sampleCard 4).witnesses,
      pin.witnessId = id ∧
        pin.publicKey = Crypto.transparent.verifyingKeyBytes (sampleWitnessSeed id) :=
    List.all_iff_forall_prop.mp (by decide)
  obtain ⟨pin, hpin, hpinId, hkey⟩ := hpins id hid
  refine ⟨⟨id, encoded, hmem, transcript, hencoded, rfl⟩, pin, hpin, hpinId, ?_⟩
  rw [hkey]
  exact Crypto.transparent_signatureCorrect _ _

end MasterRecovery
