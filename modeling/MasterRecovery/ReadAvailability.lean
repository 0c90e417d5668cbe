import MasterRecovery.RollbackSafety

/-!
# Availability of fresh reads

When `2f+1` honest witnesses answer with one capsule, a selection can fail in two
ways only: too few witnesses are counted, because an envelope that does not verify
uses up a witness's turn, or the counted capsules of greatest epoch differ, as
they do when a faulty witness invents a genesis capsule.
-/

namespace MasterRecovery
open Checks Transcript Wire

variable {crypto : Crypto} {card : RecoveryCardV3} {challenge : EpochReadChallenge}
  {capsule : ConfigCapsuleV3} {envelopes : List WitnessReadEnvelope}
  {envelope : WitnessReadEnvelope} {presented : Set (Bytes × SignatureBytes)}
  {honest : Finset UInt16} {answer : UInt16 → WitnessReadEnvelope} {id : UInt16}

/-! ### Honest answers -/

theorem witnessRead_eq_ok {seed configId : Id32} {now : Except String UInt64}
    {save : Except String Unit} {store store' : Persisted WitnessConfigEntry}
    (h : witnessRead crypto seed configId now save challenge store = (.ok envelope, store')) :
    challenge.configId = configId ∧ Succeeds (epochReadChallenge challenge) ∧
      ∃ transcript,
        witnessEpochReadResponse (readResponse crypto seed challenge store.data) = .ok transcript ∧
        envelope = ⟨signedReadResponse crypto seed challenge transcript store.data,
          store.data.capsule⟩ := by
  simp only [witnessRead] at h
  split at h
  · cases h
  next hchecks =>
    simp only [readChecks, bind_eq_ok, exists_const, bailIf_eq_ok, api_eq_ok, wire_eq_ok, not_or,
      not_not, pure_eq_ok, and_true, ne_eq] at hchecks
    obtain ⟨⟨-, hconfig⟩, -, -, -, hchallenge⟩ := hchecks
    refine ⟨hconfig, hchallenge, ?_⟩
    split at h
    · cases h
    next register hregister =>
      cases save with
      | error text => cases h
      | ok u =>
        obtain ⟨transcript, htr⟩ : Succeeds (witnessEpochReadResponse
            (readResponse crypto seed challenge store.data)) :=
          succeeds_witnessEpochReadResponse rfl
        have htr' : witnessEpochReadResponse (readResponse crypto seed challenge
            { store.data with register := register }) = .ok transcript := htr
        dsimp only [Persisted.commit] at h
        rw [htr'] at h
        cases h
        exact ⟨transcript, htr, rfl⟩

/-- A pinned witness whose active capsule this is, its answer to the challenge, and what
unforgeability says of the others: of the presented signatures under its key, those on
responses to this nonce are on this answer. -/
structure HonestAnswer (crypto : Crypto) (card : RecoveryCardV3) (challenge : EpochReadChallenge)
    (capsule : ConfigCapsuleV3) (presented : Set (Bytes × SignatureBytes)) (id : UInt16)
    (envelope : WitnessReadEnvelope) : Prop where
  answered : ∃ seed, (∃ pin ∈ card.witnesses, pin.witnessId = id ∧
      pin.publicKey = crypto.verifyingKeyBytes seed) ∧
    (∃ now save store store', store.data.witnessId = id ∧ store.data.capsule = capsule ∧
      witnessRead crypto seed card.configId now save challenge store = (.ok envelope, store')) ∧
    ∃ signed, crypto.Unforged (crypto.verifyingKeyBytes seed) signed presented ∧
      ∀ response transcript, witnessEpochReadResponse response = .ok transcript →
        transcript ∈ signed → response.clientNonce = challenge.clientNonce →
        readResponseUnsigned response = readResponseUnsigned envelope.response

theorem HonestAnswer.challenge_accepted
    (h : HonestAnswer crypto card challenge capsule presented id envelope) :
    Succeeds (epochReadChallenge challenge) ∧ challenge.configId = card.configId := by
  obtain ⟨seed, -, ⟨now, save, store, store', -, -, hread⟩, -⟩ := h.answered
  obtain ⟨hconfig, hchallenge, -⟩ := witnessRead_eq_ok hread
  exact ⟨hchallenge, hconfig⟩

theorem HonestAnswer.envelope_eq
    (h : HonestAnswer crypto card challenge capsule presented id envelope) :
    envelope.response.witnessId = id ∧ envelope.capsule = capsule ∧
      envelope.response.capsuleHash = capsule.capsuleHash ∧
      envelope.response.highestGuardianEpoch = capsule.configRef.guardianEpoch := by
  obtain ⟨seed, -, ⟨now, save, store, store', rfl, rfl, hread⟩, -⟩ := h.answered
  obtain ⟨-, -, transcript, -, rfl⟩ := witnessRead_eq_ok hread
  exact ⟨rfl, rfl, rfl, rfl⟩

theorem HonestAnswer.authentic (hsignatures : crypto.SignatureCorrect) (hcard : CardAccepted card)
    (hcapsule : validateActivatedCapsuleV3 crypto card capsule = .ok ())
    (h : HonestAnswer crypto card challenge capsule presented id envelope) :
    Answered card challenge envelope ∧ Authentic crypto card envelope := by
  obtain ⟨seed, ⟨pin, hpin, hpinId, hkey⟩, ⟨now, save, store, store', rfl, rfl, hread⟩, -⟩ :=
    h.answered
  obtain ⟨hconfig, -, transcript, htr, rfl⟩ := witnessRead_eq_ok hread
  have hpinned : (witnessPins card)[store.data.witnessId]? = some pin :=
    hcard.witnessPins_eq_some.mpr ⟨hpin, hpinId⟩
  refine ⟨⟨pin, hpinned, rfl, rfl, rfl, hkey.symm, rfl, rfl⟩, ⟨pin, transcript, hpinned, htr, ?_⟩,
    hcapsule⟩
  rw [hkey]
  exact hsignatures seed transcript

/-- What is counted in an honest name reports the honest capsule. -/
theorem HonestAnswer.counts (hcard : CardAccepted card)
    (hpresented : ∀ envelope ∈ envelopes, ∀ transcript,
      witnessEpochReadResponse envelope.response = .ok transcript →
        (transcript, envelope.response.witnessSignature) ∈ presented)
    (h : HonestAnswer crypto card challenge capsule presented id envelope)
    {counted : WitnessReadEnvelope} (hcounts : Counts crypto card challenge envelopes counted)
    (hid : counted.response.witnessId = id) :
    counted.capsule.capsuleHash = capsule.capsuleHash ∧
      counted.capsule.configRef.guardianEpoch = capsule.configRef.guardianEpoch := by
  obtain ⟨-, -, hhash, hepoch⟩ := h.envelope_eq
  obtain ⟨seed, ⟨pin, hpin, hpinId, hkey⟩, -, signed, hunforged, honly⟩ := h.answered
  obtain ⟨⟨pin', transcript, hpin', htr, hverify⟩, -⟩ := hcounts.authentic
  rw [hid, hcard.witnessPins_eq_some.mpr ⟨hpin, hpinId⟩] at hpin'
  cases hpin'
  have hsigned := hunforged transcript _ (hpresented counted hcounts.mem transcript htr)
    (hkey ▸ hverify)
  obtain ⟨-, -, -, -, hnonce, -, hresponseEpoch, hresponseHash⟩ := hcounts.answered
  have hsame := honly counted.response transcript htr hsigned hnonce
  exact ⟨hresponseHash.symm.trans ((congrArg (·.capsuleHash) hsame).trans hhash),
    hresponseEpoch.symm.trans ((congrArg (·.highestGuardianEpoch) hsame).trans hepoch)⟩

/-! ### Reads among `f` faulty witnesses -/

/-- The read returns the capsule, known by its hash, or a certified later one. -/
def ReadServed (crypto : Crypto) (card : RecoveryCardV3) (challenge : EpochReadChallenge)
    (envelopes : List WitnessReadEnvelope) (capsule : ConfigCapsuleV3) : Prop :=
  ∃ selected, selectLatestEpochV3 crypto card challenge envelopes = .ok selected ∧
    (selected.capsuleHash = capsule.capsuleHash ∨
      capsule.configRef.guardianEpoch < selected.configRef.guardianEpoch ∧
        ∃ certificate activationHash qc, selected.activationCertificate = some certificate ∧
          selected.activationQc = some qc ∧
          CertificateAccepted crypto selected certificate activationHash ∧
          QcAccepted crypto card selected certificate activationHash qc)

/-- Under an honest id only that witness's own answer answers the challenge. -/
def Unshadowed (card : RecoveryCardV3) (challenge : EpochReadChallenge)
    (envelopes : List WitnessReadEnvelope) (honest : Finset UInt16)
    (answer : UInt16 → WitnessReadEnvelope) : Prop :=
  ∀ envelope ∈ envelopes, Answered card challenge envelope →
    envelope.response.witnessId ∈ honest → envelope = answer envelope.response.witnessId

/-- Where a later capsule is certified it is no invention of a faulty witness. -/
theorem certified_of_later {selected : ConfigCapsuleV3}
    (haccepted : validateActivatedCapsuleV3 crypto card selected = .ok ())
    (hcapsule : validateActivatedCapsuleV3 crypto card capsule = .ok ())
    (hlater : capsule.configRef.guardianEpoch < selected.configRef.guardianEpoch) :
    ∃ certificate activationHash qc, selected.activationCertificate = some certificate ∧
      selected.activationQc = some qc ∧
      CertificateAccepted crypto selected certificate activationHash ∧
      QcAccepted crypto card selected certificate activationHash qc := by
  obtain ⟨-, -, ⟨hgenesis, -⟩ | ⟨-, hcertified⟩⟩ := validateActivatedCapsuleV3_eq_ok.mp haccepted
  · have hne := validateActivatedCapsuleV3_epoch hcapsule
    rw [hgenesis, UInt64.lt_iff_toNat_lt] at hlater
    exact absurd (UInt64.toNat_inj.mp (by simpa using hlater)) hne
  · exact hcertified

theorem exists_first {P : WitnessReadEnvelope → Prop} {own : WitnessReadEnvelope}
    (hown : own ∈ envelopes) (hP : P own) :
    ∃ before first after, envelopes = before ++ first :: after ∧ P first ∧
      ∀ earlier ∈ before, ¬P earlier := by
  induction envelopes with
  | nil => cases hown
  | cons head tail ih =>
    by_cases hhead : P head
    · exact ⟨[], head, tail, rfl, hhead, fun _ hmem => (by cases hmem)⟩
    · have htail : own ∈ tail := (List.mem_cons.mp hown).resolve_left fun heq => hhead (heq ▸ hP)
      obtain ⟨before, first, after, rfl, hfirst, hearlier⟩ := ih htail
      refine ⟨head :: before, first, after, rfl, hfirst, ?_⟩
      rw [List.forall_mem_cons]
      exact ⟨hhead, hearlier⟩

/-- Where all answers under an id are authentic, the first of them counts. -/
theorem exists_counts {own : WitnessReadEnvelope} (hown : own ∈ envelopes)
    (hanswered : Answered card challenge own)
    (hall : ∀ other ∈ envelopes, Answered card challenge other →
      other.response.witnessId = own.response.witnessId → Authentic crypto card other) :
    ∃ first, Counts crypto card challenge envelopes first ∧
      first.response.witnessId = own.response.witnessId := by
  obtain ⟨before, first, after, hsplit, ⟨hfirst, hid⟩, hearlier⟩ :=
    exists_first (P := fun other => Answered card challenge other ∧
      other.response.witnessId = own.response.witnessId) hown ⟨hanswered, rfl⟩
  have hauthentic := hall first (by simp [hsplit]) hfirst hid
  refine ⟨first, ⟨before, after, hsplit, hfirst, fun earlier hbefore hanswered' hsame => ?_,
    hauthentic⟩, hid⟩
  exact hearlier earlier hbefore ⟨hanswered', hsame.trans hid⟩

/-- With no forged answer in an honest name, every honest witness is counted. -/
theorem Unshadowed.countedQuorum (hsignatures : crypto.SignatureCorrect)
    (hcard : CardAccepted card)
    (hcapsule : validateActivatedCapsuleV3 crypto card capsule = .ok ())
    (hquorum : requiredWitnessQuorum card.witnessFaultBound ≤ honest.card)
    (hanswers : ∀ id ∈ honest, answer id ∈ envelopes ∧
      HonestAnswer crypto card challenge capsule presented id (answer id))
    (h : Unshadowed card challenge envelopes honest answer) :
    CountedQuorum crypto card challenge envelopes := by
  refine ⟨honest, hquorum, fun id hid => ?_⟩
  obtain ⟨hmem, hanswer⟩ := hanswers id hid
  obtain ⟨hanswered, hauthentic⟩ := hanswer.authentic hsignatures hcard hcapsule
  obtain ⟨first, hcounts, hfirst⟩ : ∃ first, Counts crypto card challenge envelopes first ∧
      first.response.witnessId = (answer id).response.witnessId := by
    refine exists_counts hmem hanswered fun other hother hanswered' hsame => ?_
    rw [hanswer.envelope_eq.1] at hsame
    rw [h other hother hanswered' (hsame.symm ▸ hid), hsame]
    exact hauthentic
  exact ⟨first, hcounts, hfirst.trans hanswer.envelope_eq.1⟩

/-- The read is served exactly when `2f+1` witnesses are counted and the counted capsules
of greatest epoch agree; the first holds whenever nobody answers in an honest name. -/
theorem read_served_iff (hsignatures : crypto.SignatureCorrect)
    (hcard : validateRecoveryCardV3 card = .ok ())
    (hroster : card.witnesses.length = requiredWitnessRoster card.witnessFaultBound)
    (hcapsule : validateActivatedCapsuleV3 crypto card capsule = .ok ())
    (hpinned : honest ⊆ card.roster)
    (hquorum : requiredWitnessQuorum card.witnessFaultBound ≤ honest.card)
    (hanswers : ∀ id ∈ honest, answer id ∈ envelopes ∧
      HonestAnswer crypto card challenge capsule presented id (answer id))
    (hpresented : ∀ envelope ∈ envelopes, ∀ transcript,
      witnessEpochReadResponse envelope.response = .ok transcript →
        (transcript, envelope.response.witnessSignature) ∈ presented) :
    (ReadServed crypto card challenge envelopes capsule ↔
      CountedQuorum crypto card challenge envelopes ∧
        OneHighest crypto card challenge envelopes) ∧
      (Unshadowed card challenge envelopes honest answer →
        CountedQuorum crypto card challenge envelopes) := by
  have haccepted := validateRecoveryCardV3_eq_ok.mp hcard
  refine ⟨⟨?_, ?_⟩, Unshadowed.countedQuorum hsignatures haccepted hcapsule hquorum hanswers⟩
  · rintro ⟨selected, hselected, -⟩
    have hspec := selectLatestEpochV3_eq_ok hselected
    exact ⟨hspec.quorum, hspec.oneHighest⟩
  · rintro ⟨⟨ids, hids, hcounted⟩, hone⟩
    -- the counted witnesses include an honest one
    have hcountedPins : ids ⊆ card.roster := by
      intro id hid
      obtain ⟨e, he, rfl⟩ := hcounted id hid
      obtain ⟨pin, hpin, -⟩ := he.answered
      obtain ⟨hmem, hpinId⟩ := haccepted.witnessPins_eq_some.mp hpin
      exact List.mem_toFinset.mpr (List.mem_map.mpr ⟨pin, hmem, hpinId⟩)
    have hsize : card.roster.card = requiredWitnessRoster card.witnessFaultBound :=
      haccepted.card_roster.trans hroster
    obtain ⟨-, hcommon⟩ :=
      (quorumsIntersect_iff hsize.ge).mpr hsize honest ids hpinned hcountedPins hquorum hids
    obtain ⟨id, hmem, -⟩ := hcommon ∅ (by simp)
    obtain ⟨hhonest, hid⟩ := Finset.mem_inter.mp hmem
    obtain ⟨e, he, heId⟩ := hcounted id hid
    obtain ⟨-, hanswer⟩ := hanswers id hhonest
    obtain ⟨hhash, hepoch⟩ := hanswer.counts haccepted hpresented he heId
    obtain ⟨hchallenge, hconfig⟩ := hanswer.challenge_accepted
    obtain ⟨selected, hselected⟩ := selectLatestEpochV3_succeeds haccepted hchallenge hconfig
      ⟨ids, hids, hcounted⟩ hone
    have hspec := selectLatestEpochV3_eq_ok hselected
    have hle := hspec.highest e he
    refine ⟨selected, hselected, ?_⟩
    by_cases hsame : e.capsule.configRef.guardianEpoch = selected.configRef.guardianEpoch
    · exact Or.inl ((hspec.oneHash e he hsame).symm.trans hhash)
    · have hlater : capsule.configRef.guardianEpoch < selected.configRef.guardianEpoch := by
        rw [← hepoch]
        rw [UInt64.le_iff_toNat_le] at hle
        rw [UInt64.lt_iff_toNat_lt]
        have hne : e.capsule.configRef.guardianEpoch.toNat ≠
            selected.configRef.guardianEpoch.toNat := fun heq => hsame (UInt64.toNat_inj.mp heq)
        omega
      obtain ⟨own, hown, rfl⟩ := hspec.counted
      exact Or.inr ⟨hlater, certified_of_later hown.authentic.2 hcapsule hlater⟩

/-! ### An invented genesis capsule -/

/-- The pinned witness itself signed the envelope's response. -/
def OwnSigned (crypto : Crypto) (card : RecoveryCardV3) (envelope : WitnessReadEnvelope) : Prop :=
  ∃ pin ∈ card.witnesses, pin.witnessId = envelope.response.witnessId ∧
    ∃ transcript, witnessEpochReadResponse envelope.response = .ok transcript ∧
      crypto.signatureVerifies pin.publicKey transcript envelope.response.witnessSignature = true

/-- A genesis capsule nobody provisioned, under its own hash. -/
def sampleInvented : ConfigCapsuleV3 :=
  { sampleGenesis with capsuleHash := 68104816, guardianMaterialRoot := 99 }

/-- Three honest answers, and what the fourth witness adds. -/
def sampleReads (added : List WitnessReadEnvelope) : List WitnessReadEnvelope :=
  ([1, 2, 3].map fun id => sampleEnvelope id sampleGenesis) ++ added

def sampleReadsPresented (added : List WitnessReadEnvelope) : Set (Bytes × SignatureBytes) :=
  samplePresented ((sampleReads added).map fun envelope =>
    (envelope.response.witnessId, witnessEpochReadResponse envelope.response))

theorem sampleReads_presented {ids : List UInt16} {capsule : ConfigCapsuleV3} :
    ∀ envelope ∈ sampleReads (ids.map fun id => sampleEnvelope id capsule), ∀ transcript,
      witnessEpochReadResponse envelope.response = .ok transcript →
        (transcript, envelope.response.witnessSignature) ∈
          sampleReadsPresented (ids.map fun id => sampleEnvelope id capsule) := by
  intro envelope hmem transcript htr
  have hsigned : envelope.response.witnessSignature = Crypto.transparent.sign
      (sampleWitnessSeed envelope.response.witnessId) transcript := by
    rcases List.mem_append.mp hmem with hown | hadded
    · obtain ⟨id, -, rfl⟩ := List.mem_map.mp hown
      exact sampleEnvelope_signature htr
    · obtain ⟨id, -, rfl⟩ := List.mem_map.mp hadded
      exact sampleEnvelope_signature htr
  rw [hsigned]
  exact ⟨_, _, List.mem_map_of_mem hmem, transcript, htr, rfl⟩

theorem sampleReads_honest {ids : List UInt16} {capsule : ConfigCapsuleV3} (hids : ids ⊆ [4])
    {id : UInt16} (hid : id ∈ [1, 2, 3]) :
    HonestAnswer Crypto.transparent (sampleCard 4) sampleChallenge sampleGenesis
      (sampleReadsPresented (ids.map fun id => sampleEnvelope id capsule)) id
      (sampleEnvelope id sampleGenesis) := by
  have hpins : ∀ id ∈ ([1, 2, 3] : List UInt16), ∃ pin ∈ (sampleCard 4).witnesses,
      pin.witnessId = id ∧
        pin.publicKey = Crypto.transparent.verifyingKeyBytes (sampleWitnessSeed id) :=
    List.all_iff_forall_prop.mp (by decide)
  have hreads : ∀ id ∈ ([1, 2, 3] : List UInt16),
      (witnessRead Crypto.transparent (sampleWitnessSeed id) 1 (.ok 6) (.ok ()) sampleChallenge
        ⟨(sampleProvision 4 id).entry, (sampleProvision 4 id).entry⟩).1.toOption =
          some (sampleEnvelope id sampleGenesis) :=
    List.all_iff_forall_prop.mp (by decide +kernel)
  have hread : ∃ store', witnessRead Crypto.transparent (sampleWitnessSeed id) 1 (.ok 6) (.ok ())
      sampleChallenge ⟨(sampleProvision 4 id).entry, (sampleProvision 4 id).entry⟩ =
        (.ok (sampleEnvelope id sampleGenesis), store') :=
    ⟨_, Prod.ext (toOption_eq_some.mp (hreads id hid)) rfl⟩
  obtain ⟨store', hread⟩ := hread
  refine ⟨sampleWitnessSeed id, hpins id hid, ⟨.ok 6, .ok (), _, store', rfl, rfl, hread⟩,
    {transcript | witnessEpochReadResponse
      (sampleEnvelope id sampleGenesis).response = .ok transcript}, ?_, ?_⟩
  · rintro transcript signature ⟨signer, encoded, hmem, t, ht, hpair⟩ hverify
    cases hpair
    cases sampleWitnessSeed_inj (Crypto.transparent_key_of_verifies hverify)
    obtain ⟨envelope, henvelope, hsame⟩ := List.mem_map.mp hmem
    cases hsame
    rcases List.mem_append.mp henvelope with hown | hadded
    · obtain ⟨owner, -, rfl⟩ := List.mem_map.mp hown
      exact ht
    · obtain ⟨owner, howner, rfl⟩ := List.mem_map.mp hadded
      have howner' : owner = 4 := List.mem_singleton.mp (hids howner)
      subst howner'
      exact absurd (show (4 : UInt16) ∈ [1, 2, 3] from hid) (by decide)
  · intro response transcript htr hsigned _
    exact witnessEpochReadResponse_framed.binds.injective htr hsigned

theorem sampleReads_card :
    validateRecoveryCardV3 (sampleCard 4) = .ok () ∧
      validateActivatedCapsuleV3 Crypto.transparent (sampleCard 4) sampleGenesis = .ok () ∧
      ({1, 2, 3} : Finset UInt16) ⊆ (sampleCard 4).roster ∧
      requiredWitnessQuorum (sampleCard 4).witnessFaultBound ≤ ({1, 2, 3} : Finset UInt16).card := by
  decide +kernel

theorem sampleReads_answers {ids : List UInt16} {capsule : ConfigCapsuleV3} (hids : ids ⊆ [4]) :
    ∀ id ∈ ({1, 2, 3} : Finset UInt16),
      sampleEnvelope id sampleGenesis ∈
          sampleReads (ids.map fun id => sampleEnvelope id capsule) ∧
        HonestAnswer Crypto.transparent (sampleCard 4) sampleChallenge sampleGenesis
          (sampleReadsPresented (ids.map fun id => sampleEnvelope id capsule)) id
          (sampleEnvelope id sampleGenesis) := by
  intro id hid
  have hmem : id ∈ [1, 2, 3] := by simpa using hid
  exact ⟨List.mem_append_left _ (List.mem_map_of_mem hmem), sampleReads_honest hids hmem⟩

theorem read_served_iff_sample :
    ReadServed Crypto.transparent (sampleCard 4) sampleChallenge (sampleReads []) sampleGenesis := by
  obtain ⟨hcard, hcapsule, hroster, hquorum⟩ := sampleReads_card
  have hids : ([] : List UInt16) ⊆ [4] := List.nil_subset _
  have hserved := read_served_iff Crypto.transparent_signatureCorrect hcard rfl hcapsule hroster
    hquorum (@sampleReads_answers _ sampleGenesis hids) sampleReads_presented
  have hown : ∀ envelope ∈ sampleReads [],
      envelope = sampleEnvelope envelope.response.witnessId sampleGenesis := by
    intro envelope hmem
    obtain ⟨id, -, rfl⟩ := List.mem_map.mp (List.mem_append.mp hmem |>.resolve_right (by simp))
    rfl
  refine hserved.1.mpr ⟨hserved.2 fun envelope hmem _ _ => hown envelope hmem, ?_⟩
  intro first second hfirst hsecond _ _
  rw [hown first hfirst.mem, hown second hsecond.mem]
  rfl

/-- The fourth witness signs a genesis capsule of its own invention: the read fails. -/
theorem read_not_served :
    ¬∀ (crypto : Crypto) (card : RecoveryCardV3) (challenge : EpochReadChallenge)
      (capsule : ConfigCapsuleV3) (presented : Set (Bytes × SignatureBytes))
      (envelopes : List WitnessReadEnvelope) (honest : Finset UInt16)
      (answer : UInt16 → WitnessReadEnvelope), crypto.SignatureCorrect →
      validateRecoveryCardV3 card = .ok () →
      card.witnesses.length = requiredWitnessRoster card.witnessFaultBound →
      validateActivatedCapsuleV3 crypto card capsule = .ok () → honest ⊆ card.roster →
      requiredWitnessQuorum card.witnessFaultBound ≤ honest.card →
      (∀ id ∈ honest, answer id ∈ envelopes ∧
        HonestAnswer crypto card challenge capsule presented id (answer id)) →
      (∀ envelope ∈ envelopes, (∃ id ∈ honest, envelope = answer id) ∨
        envelope.response.witnessId ∉ honest ∧ OwnSigned crypto card envelope) →
      (∀ envelope ∈ envelopes, ∀ transcript,
        witnessEpochReadResponse envelope.response = .ok transcript →
          (transcript, envelope.response.witnessSignature) ∈ presented) →
      ReadServed crypto card challenge envelopes capsule := by
  intro hclaim
  obtain ⟨hcard, hcapsule, hroster, hquorum⟩ := sampleReads_card
  have hfails : (selectLatestEpochV3 Crypto.transparent (sampleCard 4) sampleChallenge
      (sampleReads [sampleEnvelope 4 sampleInvented])).toOption.isNone = true := by
    decide +kernel
  have hinvented : OwnSigned Crypto.transparent (sampleCard 4) (sampleEnvelope 4 sampleInvented) := by
    obtain ⟨transcript, htr⟩ : Succeeds (witnessEpochReadResponse
        (sampleEnvelope 4 sampleInvented).response) := succeeds_witnessEpochReadResponse rfl
    have hfourth : (4 : UInt16) ∈ [1, 2, 3, 4] := by decide
    obtain ⟨-, pin, hpin, hpinId, hverify⟩ := sample_pinSigned hfourth
      (List.mem_singleton.mpr rfl) htr
    exact ⟨pin, hpin, hpinId, transcript, htr, sampleEnvelope_signature htr ▸ hverify⟩
  obtain ⟨selected, hselected, -⟩ := hclaim Crypto.transparent (sampleCard 4) sampleChallenge
    sampleGenesis (sampleReadsPresented ([4].map fun id => sampleEnvelope id sampleInvented))
    (sampleReads ([4].map fun id => sampleEnvelope id sampleInvented)) {1, 2, 3}
    (fun id => sampleEnvelope id sampleGenesis) Crypto.transparent_signatureCorrect hcard rfl
    hcapsule hroster hquorum (sampleReads_answers (List.Subset.refl _)) (fun envelope hmem => by
      rcases List.mem_append.mp hmem with hown | hadded
      · obtain ⟨id, hid, rfl⟩ := List.mem_map.mp hown
        exact Or.inl ⟨id, by simpa using hid, rfl⟩
      · cases List.mem_singleton.mp hadded
        exact Or.inr ⟨by decide, hinvented⟩)
    sampleReads_presented
  rw [List.map_cons, List.map_nil] at hselected
  rw [hselected] at hfails
  cases hfails

end MasterRecovery
