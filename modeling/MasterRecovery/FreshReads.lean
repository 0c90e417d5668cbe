import MasterRecovery.CapsuleValidation

/-!
# What a fresh read selects

The envelope loop of `select_latest_epoch_v3` counts, for each pinned witness,
its first envelope that answers the challenge, and only if that one is
authentic. The capsule selected is one of greatest epoch among those counted.
-/

namespace MasterRecovery
open Checks Transcript Wire

variable {crypto : Crypto} {card : RecoveryCardV3} {challenge : EpochReadChallenge}
  {envelopes done rest : List WitnessReadEnvelope} {envelope : WitnessReadEnvelope}
  {scan : ReadScan}

/-! ### Counted envelopes -/

/-- The envelope comes under a pinned id and answers the challenge. -/
def Answered (card : RecoveryCardV3) (challenge : EpochReadChallenge)
    (envelope : WitnessReadEnvelope) : Prop :=
  ∃ pin, (witnessPins card)[envelope.response.witnessId]? = some pin ∧
    Answers challenge pin envelope

/-- The pinned witness signed the response, and the client accepts the capsule. -/
def Authentic (crypto : Crypto) (card : RecoveryCardV3) (envelope : WitnessReadEnvelope) : Prop :=
  (∃ pin transcript, (witnessPins card)[envelope.response.witnessId]? = some pin ∧
    witnessEpochReadResponse envelope.response = .ok transcript ∧
    crypto.signatureVerifies pin.publicKey transcript envelope.response.witnessSignature = true) ∧
    validateActivatedCapsuleV3 crypto card envelope.capsule = .ok ()

/-- The first answer under its id, and authentic. -/
def Counts (crypto : Crypto) (card : RecoveryCardV3) (challenge : EpochReadChallenge)
    (envelopes : List WitnessReadEnvelope) (envelope : WitnessReadEnvelope) : Prop :=
  ∃ before after, envelopes = before ++ envelope :: after ∧ Answered card challenge envelope ∧
    (∀ earlier ∈ before, Answered card challenge earlier →
      earlier.response.witnessId ≠ envelope.response.witnessId) ∧
    Authentic crypto card envelope

theorem Counts.mem (h : Counts crypto card challenge envelopes envelope) :
    envelope ∈ envelopes := by
  obtain ⟨before, after, rfl, -⟩ := h
  simp

theorem Counts.answered (h : Counts crypto card challenge envelopes envelope) :
    Answered card challenge envelope := by
  obtain ⟨-, -, -, hanswered, -⟩ := h
  exact hanswered

theorem Counts.authentic (h : Counts crypto card challenge envelopes envelope) :
    Authentic crypto card envelope := by
  obtain ⟨-, -, -, -, -, hauthentic⟩ := h
  exact hauthentic

theorem counts_concat {last : WitnessReadEnvelope} :
    Counts crypto card challenge (done ++ [last]) envelope ↔
      Counts crypto card challenge done envelope ∨
        envelope = last ∧ Answered card challenge last ∧
          (∀ earlier ∈ done, Answered card challenge earlier →
            earlier.response.witnessId ≠ last.response.witnessId) ∧
          Authentic crypto card last := by
  constructor
  · rintro ⟨before, after, hsplit, hrest⟩
    rcases Machine.concat_split hsplit with ⟨rfl, rfl, rfl⟩ | ⟨z, rfl, rfl⟩
    · exact Or.inr ⟨rfl, hrest⟩
    · exact Or.inl ⟨before, z, rfl, hrest⟩
  · rintro (⟨before, after, rfl, hrest⟩ | ⟨rfl, hrest⟩)
    · exact ⟨before, after ++ [last], by simp, hrest⟩
    · exact ⟨done, [], rfl, hrest⟩

/-- A capsule the client accepts has an epoch. -/
theorem validateActivatedCapsuleV3_epoch {capsule : ConfigCapsuleV3}
    (h : validateActivatedCapsuleV3 crypto card capsule = .ok ()) :
    capsule.configRef.guardianEpoch ≠ 0 := by
  obtain ⟨-, -, ⟨hgenesis, -⟩ | ⟨-, certificate, activationHash, qc, -, -, haccepted, -⟩⟩ :=
    validateActivatedCapsuleV3_eq_ok.mp h
  · rw [hgenesis]
    decide
  · rw [← haccepted.epoch]
    exact saturatingAdd_one_ne_zero _

/-! ### The envelope loop -/

/-- What the loop has gathered from the envelopes done. -/
structure ScanOf (crypto : Crypto) (card : RecoveryCardV3) (challenge : EpochReadChallenge)
    (done : List WitnessReadEnvelope) (scan : ReadScan) : Prop where
  seen : ∀ id, id ∈ scan.seenWitnesses ↔
    ∃ envelope ∈ done, Answered card challenge envelope ∧ envelope.response.witnessId = id
  validWitnesses : ∀ id, id ∈ scan.validWitnesses ↔
    ∃ envelope, Counts crypto card challenge done envelope ∧ envelope.response.witnessId = id
  valid : ∀ capsule, capsule ∈ scan.valid ↔
    ∃ envelope, Counts crypto card challenge done envelope ∧ envelope.capsule = capsule
  length : scan.valid.length = scan.validWitnesses.card

theorem scanOf_empty : ScanOf crypto card challenge [] ReadScan.empty := by
  have hnone : ∀ envelope, ¬Counts crypto card challenge [] envelope := fun _ h => by
    simpa using h.mem
  exact ⟨by simp [ReadScan.empty], by simp [ReadScan.empty, hnone],
    by simp [ReadScan.empty, hnone], rfl⟩

/-- An envelope that is not the first answer under its id is passed over. -/
theorem ScanOf.passed (h : ScanOf crypto card challenge done scan)
    (hpassed : Answered card challenge envelope →
      envelope.response.witnessId ∈ scan.seenWitnesses) :
    ScanOf crypto card challenge (done ++ [envelope]) scan := by
  have hcounts : ∀ e, Counts crypto card challenge (done ++ [envelope]) e ↔
      Counts crypto card challenge done e := by
    intro e
    rw [counts_concat, or_iff_left_iff_imp]
    rintro ⟨rfl, hanswered, hfresh, -⟩
    obtain ⟨earlier, hmem, hearlier, hid⟩ := (h.seen _).mp (hpassed hanswered)
    exact absurd hid (hfresh earlier hmem hearlier)
  refine ⟨fun id => ?_, by simpa only [hcounts] using h.validWitnesses,
    by simpa only [hcounts] using h.valid, h.length⟩
  rw [h.seen]
  constructor
  · rintro ⟨e, hmem, hrest⟩
    exact ⟨e, List.mem_append_left _ hmem, hrest⟩
  · rintro ⟨e, hmem, hanswered, rfl⟩
    rcases List.mem_append.mp hmem with hold | hlast
    · exact ⟨e, hold, hanswered, rfl⟩
    · cases List.mem_singleton.mp hlast
      exact (h.seen _).mp (hpassed hanswered)

theorem ScanOf.seen_insert (h : ScanOf crypto card challenge done scan)
    (hanswered : Answered card challenge envelope) (id : UInt16) :
    id ∈ insert envelope.response.witnessId scan.seenWitnesses ↔
      ∃ e ∈ done ++ [envelope], Answered card challenge e ∧ e.response.witnessId = id := by
  rw [Finset.mem_insert, h.seen]
  constructor
  · rintro (rfl | ⟨e, hmem, hrest⟩)
    · exact ⟨envelope, by simp, hanswered, rfl⟩
    · exact ⟨e, List.mem_append_left _ hmem, hrest⟩
  · rintro ⟨e, hmem, he, rfl⟩
    rcases List.mem_append.mp hmem with hold | hlast
    · exact Or.inr ⟨e, hold, he, rfl⟩
    · exact Or.inl (by rw [List.mem_singleton.mp hlast])

theorem ScanOf.unauthentic (h : ScanOf crypto card challenge done scan)
    (hanswered : Answered card challenge envelope) (hforged : ¬Authentic crypto card envelope) :
    ScanOf crypto card challenge (done ++ [envelope])
      { scan with seenWitnesses := insert envelope.response.witnessId scan.seenWitnesses } := by
  have hcounts : ∀ e, Counts crypto card challenge (done ++ [envelope]) e ↔
      Counts crypto card challenge done e := by
    intro e
    rw [counts_concat, or_iff_left_iff_imp]
    rintro ⟨rfl, -, -, hauthentic⟩
    exact absurd hauthentic hforged
  exact ⟨h.seen_insert hanswered, by simpa only [hcounts] using h.validWitnesses,
    by simpa only [hcounts] using h.valid, h.length⟩

theorem ScanOf.counted (h : ScanOf crypto card challenge done scan)
    (hanswered : Answered card challenge envelope)
    (hfresh : envelope.response.witnessId ∉ scan.seenWitnesses)
    (hauthentic : Authentic crypto card envelope) :
    ScanOf crypto card challenge (done ++ [envelope])
      { seenWitnesses := insert envelope.response.witnessId scan.seenWitnesses
        validWitnesses := insert envelope.response.witnessId scan.validWitnesses
        valid := scan.valid ++ [envelope.capsule] } := by
  have hcounts : ∀ e, Counts crypto card challenge (done ++ [envelope]) e ↔
      Counts crypto card challenge done e ∨ e = envelope := by
    intro e
    rw [counts_concat]
    refine or_congr_right ⟨And.left, fun he => ⟨he, hanswered, fun earlier hmem hearlier hid => ?_,
      hauthentic⟩⟩
    exact hfresh ((h.seen _).mpr ⟨earlier, hmem, hearlier, hid⟩)
  have hnew : envelope.response.witnessId ∉ scan.validWitnesses := by
    intro hmem
    obtain ⟨e, he, hid⟩ := (h.validWitnesses _).mp hmem
    exact hfresh ((h.seen _).mpr ⟨e, he.mem, he.answered, hid⟩)
  refine ⟨h.seen_insert hanswered, fun id => ?_, fun capsule => ?_, ?_⟩
  · simp only [Finset.mem_insert, h.validWitnesses, hcounts]
    constructor
    · rintro (rfl | ⟨e, he, hid⟩)
      · exact ⟨envelope, Or.inr rfl, rfl⟩
      · exact ⟨e, Or.inl he, hid⟩
    · rintro ⟨e, he | rfl, rfl⟩
      · exact Or.inr ⟨e, he, rfl⟩
      · exact Or.inl rfl
  · simp only [List.mem_append, List.mem_singleton, h.valid, hcounts]
    constructor
    · rintro (⟨e, he, hcapsule⟩ | rfl)
      · exact ⟨e, Or.inl he, hcapsule⟩
      · exact ⟨envelope, Or.inr rfl, rfl⟩
    · rintro ⟨e, he | rfl, rfl⟩
      · exact Or.inl ⟨e, he, rfl⟩
      · exact Or.inr rfl
  · simp only [List.length_append, List.length_singleton, h.length,
      Finset.card_insert_of_notMem hnew]

/-- The three ways one turn of the loop can end. -/
theorem scanRead_cases (crypto : Crypto) (card : RecoveryCardV3) (challenge : EpochReadChallenge)
    (scan : ReadScan) (envelope : WitnessReadEnvelope) :
    (¬(Answered card challenge envelope ∧ envelope.response.witnessId ∉ scan.seenWitnesses) ∧
        scanRead crypto card challenge scan envelope = .ok scan) ∨
      (Answered card challenge envelope ∧ envelope.response.witnessId ∉ scan.seenWitnesses) ∧
        (¬Authentic crypto card envelope ∧
            scanRead crypto card challenge scan envelope =
              .ok { scan with
                seenWitnesses := insert envelope.response.witnessId scan.seenWitnesses } ∨
          Authentic crypto card envelope ∧
            scanRead crypto card challenge scan envelope =
              .ok {
                seenWitnesses := insert envelope.response.witnessId scan.seenWitnesses
                validWitnesses := insert envelope.response.witnessId scan.validWitnesses
                valid := scan.valid ++ [envelope.capsule] }) := by
  rw [scanRead]
  split
  next hpin =>
    refine Or.inl ⟨?_, rfl⟩
    rintro ⟨⟨pin, hpin', -⟩, -⟩
    exact absurd (hpin.symm.trans hpin') (by simp)
  next pin hpin =>
    split
    next hskip =>
      refine Or.inl ⟨?_, rfl⟩
      rintro ⟨⟨pin', hpin', hanswers⟩, hfresh⟩
      cases hpin.symm.trans hpin'
      exact hskip.elim (fun hnot => hnot hanswers) hfresh
    next hfresh =>
      rw [not_or, not_not] at hfresh
      obtain ⟨transcript, htr⟩ := succeeds_witnessEpochReadResponse hfresh.1.1
      have hauthentic : Authentic crypto card envelope ↔
          ¬(crypto.verify pin.publicKey transcript envelope.response.witnessSignature ≠ .ok () ∨
            validateActivatedCapsuleV3 crypto card envelope.capsule ≠ .ok ()) := by
        rw [not_or, not_not, not_not, Crypto.verify_eq_ok]
        constructor
        · rintro ⟨⟨pin', transcript', hpin', htr', hverify⟩, hvalid⟩
          cases hpin.symm.trans hpin'
          cases htr.symm.trans htr'
          exact ⟨hverify, hvalid⟩
        · rintro ⟨hverify, hvalid⟩
          exact ⟨⟨pin, transcript, hpin, htr, hverify⟩, hvalid⟩
      refine Or.inr ⟨⟨⟨pin, hpin, hfresh.1⟩, hfresh.2⟩, ?_⟩
      simp only [htr, wire, Except.mapError, bind, Except.bind]
      split
      next hforged => exact Or.inl ⟨fun hreal => hauthentic.mp hreal hforged, rfl⟩
      next hreal => exact Or.inr ⟨hauthentic.mpr hreal, rfl⟩

theorem scanRead_ok (h : ScanOf crypto card challenge done scan) (envelope : WitnessReadEnvelope) :
    ∃ scan', scanRead crypto card challenge scan envelope = .ok scan' ∧
      ScanOf crypto card challenge (done ++ [envelope]) scan' := by
  rcases scanRead_cases crypto card challenge scan envelope with ⟨hpassed, hscan⟩ |
    ⟨⟨hanswered, hfresh⟩, ⟨hforged, hscan⟩ | ⟨hauthentic, hscan⟩⟩
  · refine ⟨_, hscan, h.passed fun hanswered => ?_⟩
    by_contra hfresh
    exact hpassed ⟨hanswered, hfresh⟩
  · exact ⟨_, hscan, h.unauthentic hanswered hforged⟩
  · exact ⟨_, hscan, h.counted hanswered hfresh hauthentic⟩

/-- The loop never refuses. -/
theorem scan_ok (h : ScanOf crypto card challenge done scan) (rest : List WitnessReadEnvelope) :
    ∃ scan', rest.foldlM (scanRead crypto card challenge) scan = .ok scan' ∧
      ScanOf crypto card challenge (done ++ rest) scan' := by
  induction rest generalizing done scan with
  | nil => exact ⟨scan, rfl, by simpa using h⟩
  | cons envelope rest ih =>
    obtain ⟨middle, hmiddle, hscan⟩ := scanRead_ok h envelope
    obtain ⟨scan', hrest, hscan'⟩ := ih hscan
    refine ⟨scan', ?_, by simpa using hscan'⟩
    rw [List.foldlM_cons, hmiddle]
    exact hrest

/-! ### Selection -/

/-- `2f+1` witnesses have a counted envelope. -/
def CountedQuorum (crypto : Crypto) (card : RecoveryCardV3) (challenge : EpochReadChallenge)
    (envelopes : List WitnessReadEnvelope) : Prop :=
  ∃ ids : Finset UInt16, requiredWitnessQuorum card.witnessFaultBound ≤ ids.card ∧
    ∀ id ∈ ids, ∃ envelope, Counts crypto card challenge envelopes envelope ∧
      envelope.response.witnessId = id

/-- No two counted capsules of the greatest epoch have different hashes. -/
def OneHighest (crypto : Crypto) (card : RecoveryCardV3) (challenge : EpochReadChallenge)
    (envelopes : List WitnessReadEnvelope) : Prop :=
  ∀ first second, Counts crypto card challenge envelopes first →
    Counts crypto card challenge envelopes second →
    first.capsule.configRef.guardianEpoch = second.capsule.configRef.guardianEpoch →
    (∀ other, Counts crypto card challenge envelopes other →
      other.capsule.configRef.guardianEpoch ≤ first.capsule.configRef.guardianEpoch) →
    first.capsule.capsuleHash = second.capsule.capsuleHash

/-- What `select_latest_epoch_v3` says of the capsule it returns. -/
structure Selected (crypto : Crypto) (card : RecoveryCardV3) (challenge : EpochReadChallenge)
    (envelopes : List WitnessReadEnvelope) (selected : ConfigCapsuleV3) : Prop where
  accepted : CardAccepted card
  quorum : CountedQuorum crypto card challenge envelopes
  counted : ∃ envelope, Counts crypto card challenge envelopes envelope ∧
    envelope.capsule = selected
  highest : ∀ envelope, Counts crypto card challenge envelopes envelope →
    envelope.capsule.configRef.guardianEpoch ≤ selected.configRef.guardianEpoch
  oneHash : ∀ envelope, Counts crypto card challenge envelopes envelope →
    envelope.capsule.configRef.guardianEpoch = selected.configRef.guardianEpoch →
    envelope.capsule.capsuleHash = selected.capsuleHash

theorem Selected.oneHighest {selected : ConfigCapsuleV3}
    (h : Selected crypto card challenge envelopes selected) :
    OneHighest crypto card challenge envelopes := by
  intro first second hfirst hsecond hepoch hgreatest
  obtain ⟨own, hown, rfl⟩ := h.counted
  have hsame := UInt64.le_antisymm (h.highest first hfirst) (hgreatest own hown)
  exact (h.oneHash first hfirst hsame).trans
    (h.oneHash second hsecond (hepoch.symm.trans hsame)).symm

theorem ScanOf.countedQuorum (h : ScanOf crypto card challenge envelopes scan) :
    CountedQuorum crypto card challenge envelopes ↔
      requiredWitnessQuorum card.witnessFaultBound ≤ scan.valid.length := by
  rw [h.length]
  constructor
  · rintro ⟨ids, hquorum, hids⟩
    exact hquorum.trans (Finset.card_le_card fun id hid => (h.validWitnesses id).mpr (hids id hid))
  · exact fun hquorum => ⟨_, hquorum, fun id hid => (h.validWitnesses id).mp hid⟩

theorem ScanOf.valid_le_seen (h : ScanOf crypto card challenge envelopes scan) :
    scan.valid.length ≤ scan.seenWitnesses.card := by
  rw [h.length]
  refine Finset.card_le_card fun id hid => ?_
  obtain ⟨envelope, hcounts, hid⟩ := (h.validWitnesses id).mp hid
  exact (h.seen id).mpr ⟨envelope, hcounts.mem, hcounts.answered, hid⟩

theorem scan_envelopes (crypto : Crypto) (card : RecoveryCardV3) (challenge : EpochReadChallenge)
    (envelopes : List WitnessReadEnvelope) :
    ∃ scan, envelopes.foldlM (scanRead crypto card challenge) ReadScan.empty = .ok scan ∧
      ScanOf crypto card challenge envelopes scan :=
  scan_ok scanOf_empty envelopes

theorem selectLatestEpochV3_eq_ok {selected : ConfigCapsuleV3}
    (h : selectLatestEpochV3 crypto card challenge envelopes = .ok selected) :
    Selected crypto card challenge envelopes selected := by
  obtain ⟨scan, hscan, hspec⟩ := scan_envelopes crypto card challenge envelopes
  simp only [selectLatestEpochV3, bind_eq_ok, exists_const, validateRecoveryCardV3_eq_ok,
    wire_eq_ok, bailIf_eq_ok, okOr_eq_ok, hscan, Except.ok.injEq, not_or, not_not, not_lt, ne_eq,
    exists_eq_left', List.max?_eq_some_iff, List.mem_map] at h
  obtain ⟨hcard, -, -, -, ⟨-, hquorum⟩, -, ⟨⟨own, hown, rfl⟩, hmax⟩, hone, chosen, hchosen, -, rfl⟩ := h
  have hmem := List.mem_of_mem_head? (Option.mem_def.mpr hchosen)
  simp only [List.mem_filter, decide_eq_true_eq] at hmem
  obtain ⟨hvalid, hepoch⟩ := hmem
  refine ⟨hcard, hspec.countedQuorum.mpr hquorum, (hspec.valid chosen).mp hvalid,
    fun envelope hcounts => ?_, fun envelope hcounts hsame => ?_⟩
  · rw [hepoch]
    exact hmax _ ⟨_, (hspec.valid _).mpr ⟨envelope, hcounts, rfl⟩, rfl⟩
  · obtain ⟨hash, hhash⟩ := Finset.card_eq_one.mp hone
    have hin : ∀ capsule ∈ scan.valid,
        capsule.configRef.guardianEpoch = own.configRef.guardianEpoch →
        capsule.capsuleHash = hash := by
      intro capsule hcapsule hcapsuleEpoch
      rw [← Finset.mem_singleton, ← hhash, List.mem_toFinset]
      exact List.mem_map_of_mem (List.mem_filter.mpr ⟨hcapsule, by simpa using hcapsuleEpoch⟩)
    rw [hin _ ((hspec.valid _).mpr ⟨envelope, hcounts, rfl⟩) (hsame.trans hepoch),
      hin chosen hvalid hepoch]

/-- A genesis capsule on which all counted envelopes agree has its read agreement. -/
theorem ScanOf.genesisAgreement (h : ScanOf crypto card challenge envelopes scan) {hash : Id32}
    (hgenesis : ∀ envelope, Counts crypto card challenge envelopes envelope →
      envelope.capsule.configRef.guardianEpoch = 1 ∧ envelope.capsule.capsuleHash = hash) :
    scan.valid.length ≤ validGenesisAgreement envelopes scan.validWitnesses hash := by
  rw [h.length, validGenesisAgreement]
  refine Finset.card_le_card fun id hid => ?_
  obtain ⟨envelope, hcounts, rfl⟩ := (h.validWitnesses id).mp hid
  obtain ⟨hepoch, hhash⟩ := hgenesis envelope hcounts
  obtain ⟨pin, -, -, -, -, -, hresponseEpoch, hresponseHash⟩ := hcounts.answered
  rw [List.mem_toFinset]
  refine List.mem_map_of_mem (List.mem_filter.mpr ⟨hcounts.mem, ?_⟩)
  rw [decide_eq_true_eq]
  exact ⟨hid, hresponseEpoch.trans hepoch, hresponseHash.trans hhash⟩

/-- A list of capsules that is not empty has one of greatest epoch. -/
theorem exists_greatest_epoch {capsules : List ConfigCapsuleV3} (h : capsules ≠ []) :
    ∃ own ∈ capsules, ∀ capsule ∈ capsules,
      capsule.configRef.guardianEpoch ≤ own.configRef.guardianEpoch := by
  cases hmax : (capsules.map (·.configRef.guardianEpoch)).max? with
  | none => exact absurd (List.map_eq_nil_iff.mp (List.max?_eq_none_iff.mp hmax)) h
  | some epoch =>
    obtain ⟨hmem, hgreatest⟩ := List.max?_eq_some_iff.mp hmax
    obtain ⟨own, hown, rfl⟩ := List.mem_map.mp hmem
    exact ⟨own, hown, fun capsule hcapsule => hgreatest _ (List.mem_map_of_mem hcapsule)⟩

/-- A counted quorum without a conflict at the top is all that a selection needs. -/
theorem selectLatestEpochV3_succeeds (hcard : CardAccepted card)
    (hchallenge : Succeeds (epochReadChallenge challenge))
    (hconfig : challenge.configId = card.configId)
    (hquorum : CountedQuorum crypto card challenge envelopes)
    (hone : OneHighest crypto card challenge envelopes) :
    ∃ selected, selectLatestEpochV3 crypto card challenge envelopes = .ok selected := by
  obtain ⟨scan, hscan, hspec⟩ := scan_envelopes crypto card challenge envelopes
  obtain ⟨transcript, htr⟩ := hchallenge
  have hlength := hspec.countedQuorum.mp hquorum
  have hpos : scan.valid ≠ [] := by
    intro hnil
    rw [hnil, List.length_nil, requiredWitnessQuorum] at hlength
    omega
  obtain ⟨own, hown, hgreatest⟩ := exists_greatest_epoch hpos
  -- everything of the greatest epoch carries the hash of this one
  have hsame : ∀ capsule ∈ scan.valid,
      capsule.configRef.guardianEpoch = own.configRef.guardianEpoch →
      capsule.capsuleHash = own.capsuleHash := by
    intro capsule hcapsule hepoch
    obtain ⟨e, he, rfl⟩ := (hspec.valid capsule).mp hcapsule
    obtain ⟨e', he', rfl⟩ := (hspec.valid own).mp hown
    refine hone e e' he he' hepoch fun other hother => ?_
    rw [hepoch]
    exact hgreatest _ ((hspec.valid _).mpr ⟨other, hother, rfl⟩)
  obtain ⟨chosen, hchosen⟩ : ∃ chosen, (scan.valid.filter fun capsule =>
      decide (capsule.configRef.guardianEpoch = own.configRef.guardianEpoch)).head? =
        some chosen := by
    rw [← Option.isSome_iff_exists, List.isSome_head?]
    exact fun hnil => by simpa using List.filter_eq_nil_iff.mp hnil own hown
  have hmem := List.mem_of_mem_head? (Option.mem_def.mpr hchosen)
  simp only [List.mem_filter, decide_eq_true_eq] at hmem
  obtain ⟨hvalid, hepoch⟩ := hmem
  refine ⟨chosen, ?_⟩
  simp only [selectLatestEpochV3, bind_eq_ok, exists_const, validateRecoveryCardV3_eq_ok,
    wire_eq_ok, bailIf_eq_ok, okOr_eq_ok, hscan, Except.ok.injEq, not_or, not_not, not_lt, ne_eq,
    exists_eq_left', List.max?_eq_some_iff, List.mem_map]
  refine ⟨hcard, transcript, htr, hconfig, ⟨hlength.trans hspec.valid_le_seen, hlength⟩,
    own.configRef.guardianEpoch, ⟨⟨own, hown, rfl⟩, ?_⟩, ?_, chosen, hchosen, ?_, rfl⟩
  · rintro other ⟨capsule, hcapsule, rfl⟩
    exact hgreatest capsule hcapsule
  · refine Finset.card_eq_one.mpr ⟨own.capsuleHash, ?_⟩
    ext hash
    simp only [List.mem_toFinset, List.mem_map, List.mem_filter, decide_eq_true_eq,
      Finset.mem_singleton]
    constructor
    · rintro ⟨capsule, ⟨hcapsule, hcapsuleEpoch⟩, rfl⟩
      exact hsame capsule hcapsule hcapsuleEpoch
    · rintro rfl
      exact ⟨own, ⟨hown, rfl⟩, rfl⟩
  · rintro ⟨hgenesis, hfew⟩
    refine absurd hfew (not_lt.mpr (hlength.trans (hspec.genesisAgreement fun e he => ?_)))
    have hcapsule := (hspec.valid e.capsule).mpr ⟨e, he, rfl⟩
    have hle := hgreatest _ hcapsule
    have hne := validateActivatedCapsuleV3_epoch he.authentic.2
    rw [hgenesis] at hle
    have hepochOne : e.capsule.configRef.guardianEpoch = 1 := by
      rw [UInt64.le_iff_toNat_le] at hle
      have hpos : e.capsule.configRef.guardianEpoch.toNat ≠ 0 := fun hzero =>
        hne (UInt64.toNat_inj.mp hzero)
      exact UInt64.toNat_inj.mp (by simp at hle ⊢; omega)
    rw [hsame _ hcapsule (hepochOne.trans hgenesis.symm), hsame chosen hvalid hepoch]
    exact ⟨hepochOne, rfl⟩

end MasterRecovery
