import MasterRecovery.WitnessSteps
import MasterRecovery.Lib.Keyed
import MasterRecovery.Lib.Quorum
import Mathlib.Data.Bool.AllAny

/-!
# Card rosters and witness quorums

What an accepted Recovery Card says about its pins, and how far two quorums of
an accepted roster overlap. The roster is bounded only from below by `3f+1`
while the quorum stays `2f+1`, so the overlap shrinks with every further pin.
-/

namespace MasterRecovery
open Checks Quorum

/-! ### Accepted cards -/

theorem checkPins_eq_ok {ids : Finset UInt16} {keys : Finset PublicKey}
    {mailboxes : Finset String} {pins : List WitnessPin} {u : Unit} :
    checkPins ids keys mailboxes pins = .ok u ↔
      (∀ pin ∈ pins, pin.witnessId ≠ 0 ∧ pin.mailbox ≠ "" ∧ pin.witnessId ∉ ids ∧
        pin.publicKey ∉ keys ∧ pin.mailbox ∉ mailboxes) ∧
      (pins.map (·.witnessId)).Nodup ∧ (pins.map (·.publicKey)).Nodup ∧
      (pins.map (·.mailbox)).Nodup := by
  induction pins generalizing ids keys mailboxes with
  | nil => simp [checkPins]
  | cons pin pins ih =>
    simp only [checkPins, bind_unit_eq_ok, bailIf_eq_ok, ih, not_or, List.forall_mem_cons,
      List.map_cons, List.nodup_cons, List.mem_map, not_exists, not_and, Finset.mem_insert]
    constructor
    · rintro ⟨⟨hid, hbox, hids, hkeys, hboxes⟩, hall, hnid, hnkey, hnbox⟩
      exact ⟨⟨⟨hid, hbox, hids, hkeys, hboxes⟩,
        fun p hp => ⟨(hall p hp).1, (hall p hp).2.1, (hall p hp).2.2.1.2,
          (hall p hp).2.2.2.1.2, (hall p hp).2.2.2.2.2⟩⟩,
        ⟨fun p hp => (hall p hp).2.2.1.1, hnid⟩, ⟨fun p hp => (hall p hp).2.2.2.1.1, hnkey⟩,
        ⟨fun p hp => (hall p hp).2.2.2.2.1, hnbox⟩⟩
    · rintro ⟨⟨hpin, hall⟩, ⟨hid, hnid⟩, ⟨hkey, hnkey⟩, ⟨hbox, hnbox⟩⟩
      exact ⟨hpin, fun p hp => ⟨(hall p hp).1, (hall p hp).2.1, ⟨hid p hp, (hall p hp).2.2.1⟩,
        ⟨hkey p hp, (hall p hp).2.2.2.1⟩, ⟨hbox p hp, (hall p hp).2.2.2.2⟩⟩, hnid, hnkey, hnbox⟩

/-- What `validate_recovery_card_v3` accepts. -/
structure CardAccepted (card : RecoveryCardV3) : Prop where
  version : card.protocolVersion = protocolVersionV3
  faultBound : card.witnessFaultBound ≠ 0
  roster : requiredWitnessRoster card.witnessFaultBound ≤ card.witnesses.length
  pins : ∀ pin ∈ card.witnesses, pin.witnessId ≠ 0 ∧ pin.mailbox ≠ ""
  ids_nodup : (card.witnesses.map (·.witnessId)).Nodup
  keys_nodup : (card.witnesses.map (·.publicKey)).Nodup
  mailboxes_nodup : (card.witnesses.map (·.mailbox)).Nodup

theorem validateRecoveryCardV3_eq_ok {card : RecoveryCardV3} {u : Unit} :
    validateRecoveryCardV3 card = .ok u ↔ CardAccepted card := by
  simp only [validateRecoveryCardV3, bind_unit_eq_ok, bailIf_eq_ok, checkPins_eq_ok, not_or,
    ne_eq, not_not, not_lt, Finset.notMem_empty, not_false_eq_true, and_true]
  constructor
  · rintro ⟨⟨hv, hf⟩, hr, hp, hi, hk, hm⟩
    exact ⟨hv, hf, hr, hp, hi, hk, hm⟩
  · rintro ⟨hv, hf, hr, hp, hi, hk, hm⟩
    exact ⟨⟨hv, hf⟩, hr, hp, hi, hk, hm⟩

/-- Ids the card pins. -/
def RecoveryCardV3.roster (card : RecoveryCardV3) : Finset UInt16 :=
  (card.witnesses.map (·.witnessId)).toFinset

theorem CardAccepted.card_roster {card : RecoveryCardV3} (h : CardAccepted card) :
    card.roster.card = card.witnesses.length := by
  rw [RecoveryCardV3.roster, List.toFinset_card_of_nodup h.ids_nodup, List.length_map]

/-- A map keyed by the pinned ids holds what each pin contributes. -/
theorem CardAccepted.ofList_of_mem {card : RecoveryCardV3} (h : CardAccepted card) {β : Type}
    (f : WitnessPin → β) {pin : WitnessPin} (hpin : pin ∈ card.witnesses) :
    (Std.TreeMap.ofList (card.witnesses.map fun pin => (pin.witnessId, f pin)))[pin.witnessId]? =
      some (f pin) :=
  Keyed.getElem?_of_mem h.ids_nodup f hpin

/-- The pin map of an accepted card holds exactly its pins. -/
theorem CardAccepted.witnessPins_eq_some {card : RecoveryCardV3} (h : CardAccepted card)
    {id : UInt16} {pin : WitnessPin} :
    (witnessPins card)[id]? = some pin ↔ pin ∈ card.witnesses ∧ pin.witnessId = id :=
  Keyed.getElem?_eq_some_iff h.ids_nodup

/-- The keys of the pins, under the pinned ids. -/
theorem CardAccepted.publicKeys {card : RecoveryCardV3} (h : CardAccepted card) (id : UInt16) :
    (Std.TreeMap.ofList (card.witnesses.map fun pin => (pin.witnessId, pin.publicKey)))[id]? =
      (witnessPins card)[id]?.map (·.publicKey) := by
  cases hget : (witnessPins card)[id]? with
  | some pin =>
    obtain ⟨hpin, rfl⟩ := h.witnessPins_eq_some.mp hget
    exact h.ofList_of_mem (·.publicKey) hpin
  | none =>
    rw [Option.map_none, Std.TreeMap.getElem?_eq_none]
    intro hmem
    obtain ⟨pin, hpin, rfl⟩ := (Keyed.mem_iff WitnessPin.publicKey).mp hmem
    rw [h.witnessPins_eq_some.mpr ⟨hpin, rfl⟩] at hget
    cases hget

/-! ### A small deployment

One fault, two signers who must both vote, and transparent signatures: concrete
enough to evaluate the handlers on. -/

def sampleSignerSeed (id : UInt16) : Id32 := BitVec.ofNat 256 (200 + id.toNat)
def sampleOwnerSeed : Id32 := 300
def sampleWitnessSeed (id : UInt16) : Id32 := BitVec.ofNat 256 (400 + id.toNat)

/-- A sample signature of a transcript. -/
def signOf (seed : Id32) (transcript : Wire.Put) : SignatureBytes :=
  Crypto.transparent.sign seed (transcript.toOption.getD [])

def sampleSigners : List (UInt16 × PublicKey) :=
  [1, 2].map fun id => (id, Crypto.transparent.verifyingKeyBytes (sampleSignerSeed id))

/-- The leaves of both signers, as every signer presents them. -/
def sampleMembershipProof : MerkleProofBytes := idBytes 1434835140 ++ idBytes 2142382499

def sampleSignerRoot : Id32 := 1251010644

def sampleGenesis : ConfigCapsuleV3 where
  protocolVersion := protocolVersionV3
  configRef := ⟨1, 1, 1, 1, 10⟩
  capsuleHash := 1573076772
  predecessorCapsuleHash := 0
  signerCount := 2
  signerThreshold := 2
  guardianCount := 3
  guardianThreshold := 2
  minimumRecoveryDelay := 10
  maxRequestLifetime := 100
  signerSetCommitment := sampleSignerRoot
  ownerCancelPublicKey := Crypto.transparent.verifyingKeyBytes sampleOwnerSeed
  dpssSuite := .zfFrostRistretto255RtsRefreshV1
  dpssPublicCommitment := 20
  ciphertextFragmentRoot := 21
  guardianMaterialRoot := 22
  encryptedRecoveryDescriptor := ⟨23, [24]⟩
  activationCertificate := none
  activationQc := none

/-- The card that pins witnesses `1..n`. -/
def sampleCard (n : ℕ) : RecoveryCardV3 where
  protocolVersion := protocolVersionV3
  configId := 1
  signerSetCommitment := sampleSignerRoot
  ownerCancelPublicKey := Crypto.transparent.verifyingKeyBytes sampleOwnerSeed
  witnessFaultBound := 1
  witnesses := (List.range' 1 n).map fun i =>
    ⟨UInt16.ofNat i, String.ofList (List.replicate i 'w'),
      Crypto.transparent.verifyingKeyBytes (sampleWitnessSeed (UInt16.ofNat i))⟩

def sampleProvision (n : ℕ) (id : UInt16) : WitnessConfigProvision where
  witnessId := id
  capsule := sampleGenesis
  signerPublicKeys := .ofList sampleSigners
  witnessPublicKeys := .ofList ((sampleCard n).witnesses.map fun pin =>
    (pin.witnessId, pin.publicKey))
  witnessFaultBound := 1

theorem sampleCard_accepted : CardAccepted (sampleCard 4) :=
  validateRecoveryCardV3_eq_ok.mp (by decide +kernel : validateRecoveryCardV3 (sampleCard 4) = .ok ())

theorem sampleProvision_accepted {id : UInt16} (h : id ∈ [1, 2, 3, 4]) :
    witnessProvision Crypto.transparent (sampleWitnessSeed id) "admin" (some "admin") false
      (sampleProvision 4 id) = .ok (sampleProvision 4 id).entry := by
  have hall : ∀ id ∈ ([1, 2, 3, 4] : List UInt16),
      (witnessProvision Crypto.transparent (sampleWitnessSeed id) "admin" (some "admin") false
        (sampleProvision 4 id)).toOption.isSome = true :=
    List.all_iff_forall_prop.mp (by decide +kernel)
  obtain ⟨entry, hentry⟩ := isSome_toOption.mp (hall id h)
  rw [hentry, (witnessProvision_eq_ok hentry).2]

/-! ### Quorum overlap -/

/-- Ids a provision pins. -/
def WitnessConfigProvision.roster (provision : WitnessConfigProvision) : Finset UInt16 :=
  provision.witnessPublicKeys.keys.toFinset

theorem WitnessConfigProvision.card_roster (provision : WitnessConfigProvision) :
    provision.roster.card = provision.witnessPublicKeys.size := by
  have hdistinct : provision.witnessPublicKeys.keys.Nodup :=
    Std.TreeMap.distinct_keys.imp fun hne heq => hne (Std.compare_eq_iff_eq.mpr heq)
  rw [roster, List.toFinset_card_of_nodup hdistinct, Std.TreeMap.length_keys]

/-- Any two sets of the roster that meet the witness quorum share `f+1` members, so
whichever `f` of them are faulty, they share an honest one. -/
def QuorumsIntersect (roster : Finset UInt16) (faultBound : UInt16) : Prop :=
  ∀ A B : Finset UInt16, A ⊆ roster → B ⊆ roster → requiredWitnessQuorum faultBound ≤ A.card →
    requiredWitnessQuorum faultBound ≤ B.card →
    faultBound.toNat + 1 ≤ (A ∩ B).card ∧
      ∀ faulty : Finset UInt16, faulty.card ≤ faultBound.toNat → ∃ w ∈ A ∩ B, w ∉ faulty

theorem quorumsIntersect_iff {roster : Finset UInt16} {faultBound : UInt16}
    (hroster : requiredWitnessRoster faultBound ≤ roster.card) :
    QuorumsIntersect roster faultBound ↔ roster.card = requiredWitnessRoster faultBound := by
  simp only [requiredWitnessRoster] at hroster ⊢
  have hoverlap : Intersecting roster (requiredWitnessQuorum faultBound)
      (faultBound.toNat + 1) ↔ roster.card = 3 * faultBound.toNat + 1 := by
    rw [intersecting_iff (by simp only [requiredWitnessQuorum]; omega) (by omega)]
    simp only [requiredWitnessQuorum]
    omega
  rw [← hoverlap]
  constructor
  · intro h A B hA hB hqA hqB
    exact (h A B hA hB hqA hqB).1
  · intro h A B hA hB hqA hqB
    have hcommon := h A B hA hB hqA hqB
    refine ⟨hcommon, fun faulty hfaulty => exists_honest hcommon ?_⟩
    exact (Finset.card_le_card Finset.inter_subset_right).trans hfaulty

/-- Two quorums of an accepted roster share an honest witness exactly when the
roster is no larger than `3f+1`, both for a card and for a provisioned entry. -/
theorem quorumsIntersect_accepted_iff (crypto : Crypto) :
    (∀ card : RecoveryCardV3, validateRecoveryCardV3 card = .ok () →
      (QuorumsIntersect card.roster card.witnessFaultBound ↔
        card.witnesses.length = 3 * card.witnessFaultBound.toNat + 1)) ∧
    ∀ (seed : Id32) (adminToken : String) (bearer : Option String)
      (provision : WitnessConfigProvision) (entry : WitnessConfigEntry),
      witnessProvision crypto seed adminToken bearer false provision = .ok entry →
      (QuorumsIntersect provision.roster provision.witnessFaultBound ↔
        provision.witnessPublicKeys.size = 3 * provision.witnessFaultBound.toNat + 1) := by
  constructor
  · intro card hcard
    have haccepted := validateRecoveryCardV3_eq_ok.mp hcard
    rw [quorumsIntersect_iff (haccepted.card_roster ▸ haccepted.roster), haccepted.card_roster]
    rfl
  · intro seed adminToken bearer provision entry hprovision
    have hroster := (witnessProvision_eq_ok hprovision).1.roster
    rw [quorumsIntersect_iff (provision.card_roster ▸ hroster), provision.card_roster]
    rfl

theorem quorumsIntersect_accepted_four :
    QuorumsIntersect (sampleCard 4).roster 1 ∧ QuorumsIntersect (sampleProvision 4 1).roster 1 :=
  ⟨((quorumsIntersect_accepted_iff Crypto.transparent).1 (sampleCard 4)
      (by decide)).mpr (by decide),
    ((quorumsIntersect_accepted_iff Crypto.transparent).2 (sampleWitnessSeed 1) "admin"
      (some "admin") (sampleProvision 4 1) _ (sampleProvision_accepted (by decide))).mpr
      (by decide)⟩

/-- Seven pins for one fault are accepted; two of their quorums are disjoint. -/
theorem quorumsIntersect_refuted :
    ¬∀ card : RecoveryCardV3, validateRecoveryCardV3 card = .ok () →
      QuorumsIntersect card.roster card.witnessFaultBound := by
  intro hclaim
  have hcard : validateRecoveryCardV3 (sampleCard 7) = .ok () := by decide
  obtain ⟨hcommon, -⟩ := hclaim (sampleCard 7) hcard {1, 2, 3} {4, 5, 6}
    (by decide) (by decide) (by decide) (by decide)
  revert hcommon
  decide +kernel

end MasterRecovery
