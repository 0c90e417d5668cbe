import MasterRecovery.Lib.FirstCome
import MasterRecovery.ReadAvailability

/-!
# Reads with envelopes no witness signed

The envelope loop gives a witness its turn before it looks at the signature. An envelope that nobody
signed adds nothing to a read, but it can take the turn of a witness that comes after it. Where none
does the read stays as it is; and any read that can succeed can be ended that way.
-/

namespace MasterRecovery
open Checks Transcript Wire FirstCome

variable {crypto : Crypto} {card : RecoveryCardV3} {challenge : EpochReadChallenge}
  {envelopes envelopes' : List WitnessReadEnvelope} {envelope : WitnessReadEnvelope}
  {heard heard' : Set WitnessReadEnvelope}

/-! ### What a read returns -/

/-- The selected capsule, or nothing where the read fails. -/
def readResult (crypto : Crypto) (card : RecoveryCardV3) (challenge : EpochReadChallenge)
    (envelopes : List WitnessReadEnvelope) : Option ConfigCapsuleV3 :=
  (selectLatestEpochV3 crypto card challenge envelopes).toOption

/-- The client accepts its card and its challenge. -/
structure Askable (card : RecoveryCardV3) (challenge : EpochReadChallenge) : Prop where
  accepted : CardAccepted card
  written : Succeeds (epochReadChallenge challenge)
  config : challenge.configId = card.configId

/-- A quorum of witnesses, and one capsule hash at the greatest epoch among them. -/
structure Selectable (card : RecoveryCardV3) (heard : Set WitnessReadEnvelope) : Prop where
  quorum : ∃ ids : Finset UInt16, requiredWitnessQuorum card.witnessFaultBound ≤ ids.card ∧
    ∀ id ∈ ids, ∃ envelope ∈ heard, envelope.response.witnessId = id
  oneHash : ∀ first ∈ heard, ∀ second ∈ heard,
    first.capsule.configRef.guardianEpoch = second.capsule.configRef.guardianEpoch →
    (∀ other ∈ heard,
      other.capsule.configRef.guardianEpoch ≤ first.capsule.configRef.guardianEpoch) →
    first.capsule.capsuleHash = second.capsule.capsuleHash

theorem not_selectable_empty (h : ∀ envelope, envelope ∉ heard) : ¬Selectable card heard := by
  rintro ⟨⟨ids, hquorum, hids⟩, -⟩
  have hpos : 0 < ids.card := lt_of_lt_of_le (by rw [requiredWitnessQuorum]; omega) hquorum
  obtain ⟨id, hid⟩ := Finset.card_pos.mp hpos
  obtain ⟨envelope, hmem, -⟩ := hids id hid
  exact h envelope hmem

theorem selectLatestEpochV3_askable {selected : ConfigCapsuleV3}
    (h : selectLatestEpochV3 crypto card challenge envelopes = .ok selected) :
    Askable card challenge := by
  simp only [selectLatestEpochV3, bind_eq_ok, exists_const, validateRecoveryCardV3_eq_ok,
    wire_eq_ok, bailIf_eq_ok, not_not, ne_eq] at h
  obtain ⟨hcard, transcript, htr, hconfig, -⟩ := h
  exact ⟨hcard, ⟨transcript, htr⟩, hconfig⟩

theorem selected_iff :
    (∃ selected, selectLatestEpochV3 crypto card challenge envelopes = .ok selected) ↔
      Askable card challenge ∧
        Selectable card {envelope | Counts crypto card challenge envelopes envelope} := by
  constructor
  · rintro ⟨selected, hselected⟩
    have hspec := selectLatestEpochV3_eq_ok hselected
    exact ⟨selectLatestEpochV3_askable hselected, hspec.quorum,
      fun first hfirst second hsecond => hspec.oneHighest first second hfirst hsecond⟩
  · rintro ⟨⟨hcard, hchallenge, hconfig⟩, hquorum, hone⟩
    exact selectLatestEpochV3_succeeds hcard hchallenge hconfig hquorum
      fun first second hfirst hsecond => hone first hfirst second hsecond

theorem readResult_eq_some {selected : ConfigCapsuleV3} :
    readResult crypto card challenge envelopes = some selected ↔
      selectLatestEpochV3 crypto card challenge envelopes = .ok selected :=
  toOption_eq_some

theorem readResult_eq_none : readResult crypto card challenge envelopes = none ↔
    ¬(Askable card challenge ∧
      Selectable card {envelope | Counts crypto card challenge envelopes envelope}) := by
  rw [← selected_iff, Option.eq_none_iff_forall_ne_some, not_exists]
  exact forall_congr' fun selected => not_congr readResult_eq_some

/-! ### The envelope loop -/

/-- The envelopes of a read as they come in. -/
def reads (crypto : Crypto) (card : RecoveryCardV3) (challenge : EpochReadChallenge) :
    Intake WitnessReadEnvelope UInt16 where
  key := (·.response.witnessId)
  answers := Answered card challenge
  authentic := Authentic crypto card

theorem mem_counted_reads : envelope ∈ (reads crypto card challenge).counted ∅ envelopes ↔
    Counts crypto card challenge envelopes envelope := by
  rw [Intake.mem_counted, Intake.first_eq_some]
  constructor
  · rintro ⟨⟨⟨hanswers, -⟩, before, after, hsplit, hfresh⟩, -, hauthentic⟩
    exact ⟨before, after, hsplit, hanswers, hfresh, hauthentic⟩
  · rintro ⟨before, after, hsplit, hanswers, hfresh, hauthentic⟩
    exact ⟨⟨⟨hanswers, rfl⟩, before, after, hsplit, hfresh⟩, Set.notMem_empty _, hauthentic⟩

/-- The loop collects the capsules of what counts, in order. -/
theorem scan_valid {scan scan' : ReadScan}
    (h : envelopes.foldlM (scanRead crypto card challenge) scan = .ok scan') :
    scan'.valid = scan.valid ++
      ((reads crypto card challenge).counted scan.seenWitnesses envelopes).map (·.capsule) := by
  induction envelopes generalizing scan with
  | nil =>
    cases h
    simp [Intake.counted]
  | cons envelope rest ih =>
    rw [List.foldlM_cons] at h
    rcases scanRead_cases crypto card challenge scan envelope with ⟨hpassed, hscan⟩ |
      ⟨⟨hanswered, hfresh⟩, ⟨hforged, hscan⟩ | ⟨hauthentic, hscan⟩⟩
    · rw [hscan] at h
      rw [ih h, Intake.counted_passed hpassed]
    · rw [hscan] at h
      rw [ih h, Intake.counted_forged hanswered hfresh hforged]
      simp [reads]
    · rw [hscan] at h
      rw [ih h, Intake.counted_authentic hanswered hfresh hauthentic]
      simp [reads]

/-- What is picked from the capsules that count. -/
def PickedFrom (capsules : List ConfigCapsuleV3) (selected : ConfigCapsuleV3) : Prop :=
  (capsules.map (·.configRef.guardianEpoch)).max? = some selected.configRef.guardianEpoch ∧
    (capsules.filter fun capsule =>
      capsule.configRef.guardianEpoch = selected.configRef.guardianEpoch).head? = some selected

theorem pickedFrom_of_selected {selected : ConfigCapsuleV3}
    (h : selectLatestEpochV3 crypto card challenge envelopes = .ok selected) :
    PickedFrom (((reads crypto card challenge).counted ∅ envelopes).map (·.capsule)) selected := by
  simp only [selectLatestEpochV3, bind_eq_ok, exists_const, wire_eq_ok, bailIf_eq_ok, okOr_eq_ok,
    Except.ok.injEq, validateRecoveryCardV3_eq_ok] at h
  obtain ⟨-, -, -, -, scan, hscan, -, epoch, hmax, -, chosen, hchosen, -, rfl⟩ := h
  have hvalid := scan_valid hscan
  simp only [ReadScan.empty, Finset.coe_empty, List.nil_append] at hvalid
  have hmem := List.mem_of_mem_head? (Option.mem_def.mpr hchosen)
  simp only [List.mem_filter, decide_eq_true_eq] at hmem
  obtain ⟨-, rfl⟩ := hmem
  rw [hvalid] at hmax hchosen
  exact ⟨hmax, hchosen⟩

/-- Reads of which the same counts return the same. -/
theorem readResult_congr (h : (reads crypto card challenge).counted ∅ envelopes' =
    (reads crypto card challenge).counted ∅ envelopes) :
    readResult crypto card challenge envelopes' = readResult crypto card challenge envelopes := by
  have hcounts : ∀ e, Counts crypto card challenge envelopes' e ↔
      Counts crypto card challenge envelopes e := fun e => by
    rw [← mem_counted_reads, ← mem_counted_reads, h]
  cases hread : readResult crypto card challenge envelopes with
  | none =>
    rw [readResult_eq_none] at hread ⊢
    simpa only [hcounts] using hread
  | some selected =>
    have hselected := readResult_eq_some.mp hread
    have hboth := selected_iff.mp ⟨selected, hselected⟩
    simp only [← hcounts] at hboth
    obtain ⟨selected', hselected'⟩ := selected_iff.mpr hboth
    obtain ⟨hmax, hpicked⟩ := pickedFrom_of_selected hselected
    obtain ⟨hmax', hpicked'⟩ := pickedFrom_of_selected hselected'
    rw [h] at hmax' hpicked'
    rw [← Option.some.inj (hmax.symm.trans hmax')] at hpicked'
    rw [readResult_eq_some.mpr hselected', ← hpicked, hpicked']

/-! ### Who signed what -/

/-- The pinned witness signed the response. -/
def SignedRead (crypto : Crypto) (card : RecoveryCardV3) (envelope : WitnessReadEnvelope) : Prop :=
  ∃ pin transcript, (witnessPins card)[envelope.response.witnessId]? = some pin ∧
    witnessEpochReadResponse envelope.response = .ok transcript ∧
    crypto.signatureVerifies pin.publicKey transcript envelope.response.witnessSignature = true

theorem not_authentic_of_unsigned (h : ¬SignedRead crypto card envelope) :
    ¬Authentic crypto card envelope :=
  fun hauthentic => h hauthentic.1

/-- Each pinned witness signed at most one response. -/
def OneResponse (crypto : Crypto) (card : RecoveryCardV3)
    (envelopes : List WitnessReadEnvelope) : Prop :=
  ∀ first ∈ envelopes, ∀ second ∈ envelopes, SignedRead crypto card first →
    SignedRead crypto card second → first.response.witnessId = second.response.witnessId →
    readResponseUnsigned first.response = readResponseUnsigned second.response

/-- Two envelopes by which one witness reports the same. -/
structure SameReport (first second : WitnessReadEnvelope) : Prop where
  id : first.response.witnessId = second.response.witnessId
  epoch : first.capsule.configRef.guardianEpoch = second.capsule.configRef.guardianEpoch
  hash : first.capsule.capsuleHash = second.capsule.capsuleHash

theorem OneResponse.sameReport (h : OneResponse crypto card envelopes)
    {first second : WitnessReadEnvelope} (hfirst : first ∈ envelopes) (hsecond : second ∈ envelopes)
    (hanswered : Answered card challenge first) (hanswered' : Answered card challenge second)
    (hauthentic : Authentic crypto card first) (hauthentic' : Authentic crypto card second)
    (hid : first.response.witnessId = second.response.witnessId) : SameReport first second := by
  have hsame := h first hfirst second hsecond hauthentic.1 hauthentic'.1 hid
  have hepoch := congrArg (·.highestGuardianEpoch) hsame
  have hhash := congrArg (·.capsuleHash) hsame
  obtain ⟨-, -, -, -, -, -, hreported, hreportedHash⟩ := hanswered
  obtain ⟨-, -, -, -, -, -, hreported', hreportedHash'⟩ := hanswered'
  exact ⟨hid, hreported.symm.trans (hepoch.trans hreported'),
    hreportedHash.symm.trans (hhash.trans hreportedHash')⟩

/-- The same reports by the same witnesses. -/
structure Alike (heard heard' : Set WitnessReadEnvelope) : Prop where
  forth : ∀ first ∈ heard, ∃ second ∈ heard', SameReport first second
  back : ∀ second ∈ heard', ∃ first ∈ heard, SameReport first second

theorem Alike.symm (h : Alike heard heard') : Alike heard' heard where
  forth second hsecond := by
    obtain ⟨first, hfirst, hid, hepoch, hhash⟩ := h.back second hsecond
    exact ⟨first, hfirst, hid.symm, hepoch.symm, hhash.symm⟩
  back first hfirst := by
    obtain ⟨second, hsecond, hid, hepoch, hhash⟩ := h.forth first hfirst
    exact ⟨second, hsecond, hid.symm, hepoch.symm, hhash.symm⟩

theorem Alike.selectable (h : Alike heard heard') (hselectable : Selectable card heard) :
    Selectable card heard' := by
  obtain ⟨⟨ids, hquorum, hids⟩, hone⟩ := hselectable
  refine ⟨⟨ids, hquorum, fun id hid => ?_⟩, fun first hfirst second hsecond hepoch hgreatest => ?_⟩
  · obtain ⟨envelope, hmem, rfl⟩ := hids id hid
    obtain ⟨other, hother, hsame⟩ := h.forth envelope hmem
    exact ⟨other, hother, hsame.id.symm⟩
  · obtain ⟨own, hown, hsame⟩ := h.back first hfirst
    obtain ⟨own', hown', hsame'⟩ := h.back second hsecond
    rw [← hsame.hash, ← hsame'.hash]
    refine hone own hown own' hown' (by rw [hsame.epoch, hsame'.epoch, hepoch]) fun other hother => ?_
    obtain ⟨another, hanother, hreport⟩ := h.forth other hother
    rw [hreport.epoch, hsame.epoch]
    exact hgreatest another hanother

/-! ### When the order of the envelopes does not matter -/

/-- No witness has both an authentic and another answer. -/
def Uncontested (crypto : Crypto) (card : RecoveryCardV3) (challenge : EpochReadChallenge)
    (envelopes : List WitnessReadEnvelope) : Prop :=
  ∀ first ∈ envelopes, ∀ second ∈ envelopes, Answered card challenge first →
    Answered card challenge second → first.response.witnessId = second.response.witnessId →
    Authentic crypto card first → Authentic crypto card second

/-- Authentic answers of one hash carry one capsule, with one certificate and one proof. -/
def OneCapsule (crypto : Crypto) (card : RecoveryCardV3) (challenge : EpochReadChallenge)
    (envelopes : List WitnessReadEnvelope) : Prop :=
  ∀ first ∈ envelopes, ∀ second ∈ envelopes, Answered card challenge first →
    Answered card challenge second → Authentic crypto card first → Authentic crypto card second →
    first.capsule.capsuleHash = second.capsule.capsuleHash → first.capsule = second.capsule

/-- What counts in one order is reported alike by what counts in another. -/
theorem exists_sameReport (hone : OneResponse crypto card envelopes)
    (huncontested : Uncontested crypto card challenge envelopes)
    (hperm : envelopes.Perm envelopes')
    (hcounts : Counts crypto card challenge envelopes envelope) :
    ∃ other, Counts crypto card challenge envelopes' other ∧ SameReport envelope other := by
  obtain ⟨first, hfirst, hid⟩ : ∃ first, Counts crypto card challenge envelopes' first ∧
      first.response.witnessId = envelope.response.witnessId :=
    exists_counts (hperm.subset hcounts.mem) hcounts.answered fun other hother hanswered hsame =>
      huncontested envelope hcounts.mem other (hperm.symm.subset hother) hcounts.answered hanswered
        hsame.symm hcounts.authentic
  exact ⟨first, hfirst, hone.sameReport hcounts.mem (hperm.symm.subset hfirst.mem)
    hcounts.answered hfirst.answered hcounts.authentic hfirst.authentic hid.symm⟩

theorem OneResponse.perm (h : OneResponse crypto card envelopes)
    (hperm : envelopes.Perm envelopes') : OneResponse crypto card envelopes' :=
  fun first hfirst second hsecond =>
    h first (hperm.symm.subset hfirst) second (hperm.symm.subset hsecond)

theorem Uncontested.perm (h : Uncontested crypto card challenge envelopes)
    (hperm : envelopes.Perm envelopes') : Uncontested crypto card challenge envelopes' :=
  fun first hfirst second hsecond =>
    h first (hperm.symm.subset hfirst) second (hperm.symm.subset hsecond)

theorem alike_of_perm (hone : OneResponse crypto card envelopes)
    (huncontested : Uncontested crypto card challenge envelopes)
    (hperm : envelopes.Perm envelopes') :
    Alike {envelope | Counts crypto card challenge envelopes envelope}
      {envelope | Counts crypto card challenge envelopes' envelope} where
  forth _ hcounts := exists_sameReport hone huncontested hperm hcounts
  back _ hcounts := by
    obtain ⟨other, hother, hid, hepoch, hhash⟩ :=
      exists_sameReport (hone.perm hperm) (huncontested.perm hperm) hperm.symm hcounts
    exact ⟨other, hother, hid.symm, hepoch.symm, hhash.symm⟩

/-- Alike reads of one list's envelopes select capsules of one hash. -/
theorem selected_hash_of_alike {selected selected' : ConfigCapsuleV3}
    (halike : Alike {envelope | Counts crypto card challenge envelopes envelope}
      {envelope | Counts crypto card challenge envelopes' envelope})
    (hselected : Selected crypto card challenge envelopes selected)
    (hselected' : Selected crypto card challenge envelopes' selected') :
    selected.capsuleHash = selected'.capsuleHash := by
  obtain ⟨own, hown, rfl⟩ := hselected.counted
  obtain ⟨own', hown', rfl⟩ := hselected'.counted
  obtain ⟨other', hother', hsame⟩ := halike.forth own hown
  obtain ⟨other, hother, hsame'⟩ := halike.back own' hown'
  have hepoch : other'.capsule.configRef.guardianEpoch = own'.capsule.configRef.guardianEpoch := by
    refine UInt64.le_antisymm (hselected'.highest other' hother') ?_
    rw [← hsame.epoch, ← hsame'.epoch]
    exact hselected.highest other hother
  exact hsame.hash.trans (hselected'.oneHash other' hother' hepoch)

theorem readResult_perm (hone : OneResponse crypto card envelopes)
    (huncontested : Uncontested crypto card challenge envelopes)
    (hcapsule : OneCapsule crypto card challenge envelopes)
    (hperm : envelopes.Perm envelopes') :
    readResult crypto card challenge envelopes' = readResult crypto card challenge envelopes := by
  have halike := alike_of_perm hone huncontested hperm
  cases hread : readResult crypto card challenge envelopes with
  | none =>
    rw [readResult_eq_none] at hread ⊢
    exact fun hboth => hread ⟨hboth.1, halike.symm.selectable hboth.2⟩
  | some selected =>
    have hok := readResult_eq_some.mp hread
    obtain ⟨haskable, hselectable⟩ := selected_iff.mp ⟨selected, hok⟩
    obtain ⟨selected', hok'⟩ := selected_iff.mpr ⟨haskable, halike.selectable hselectable⟩
    have hselected := selectLatestEpochV3_eq_ok hok
    have hselected' := selectLatestEpochV3_eq_ok hok'
    have hhash := selected_hash_of_alike halike hselected hselected'
    obtain ⟨own, hown, rfl⟩ := hselected.counted
    obtain ⟨own', hown', rfl⟩ := hselected'.counted
    rw [readResult_eq_some.mpr hok', hcapsule own hown.mem own' (hperm.symm.subset hown'.mem)
      hown.answered hown'.answered hown.authentic hown'.authentic hhash]

/-! ### Which reads stay as they are -/

/-- Neither unsigned envelopes nor the order of the signed ones change the read. -/
structure Steady (crypto : Crypto) (card : RecoveryCardV3) (challenge : EpochReadChallenge)
    (envelopes : List WitnessReadEnvelope) : Prop where
  inserted : ∀ envelopes', Inserted (¬SignedRead crypto card ·) envelopes envelopes' →
    readResult crypto card challenge envelopes' = readResult crypto card challenge envelopes
  reordered : OneResponse crypto card envelopes → ∀ envelopes', envelopes.Perm envelopes' →
    readResult crypto card challenge envelopes' = readResult crypto card challenge envelopes

/-- No part of the witnesses that count, or can be made to count, makes a selection. -/
structure Unselectable (crypto : Crypto) (card : RecoveryCardV3) (challenge : EpochReadChallenge)
    (envelopes : List WitnessReadEnvelope) : Prop where
  inserted : ∀ chosen : Set UInt16, ¬Selectable card
    {envelope | Counts crypto card challenge envelopes envelope ∧
      envelope.response.witnessId ∈ chosen}
  reordered : OneResponse crypto card envelopes → ∀ chosen : Set UInt16,
    (∀ envelope ∈ envelopes, Answered card challenge envelope →
      (∀ other ∈ envelopes, Answered card challenge other →
        other.response.witnessId = envelope.response.witnessId → Authentic crypto card other) →
      envelope.response.witnessId ∈ chosen) →
    ¬Selectable card {envelope | envelope ∈ envelopes ∧ Answered card challenge envelope ∧
      Authentic crypto card envelope ∧ envelope.response.witnessId ∈ chosen}

/-- The response of the envelope without its signature. -/
def stripped (envelope : WitnessReadEnvelope) : WitnessReadEnvelope :=
  { envelope with response := { envelope.response with witnessSignature := [] } }

theorem not_signedRead_stripped
    (hempty : ∀ key transcript, crypto.signatureVerifies key transcript [] = false)
    (envelope : WitnessReadEnvelope) : ¬SignedRead crypto card (stripped envelope) := by
  rintro ⟨pin, transcript, -, -, hverify⟩
  exact Bool.false_ne_true ((hempty pin.publicKey transcript).symm.trans hverify)

/-- Unsigned envelopes in front silence all witnesses but the chosen. -/
theorem exists_inserted_counts
    (hempty : ∀ key transcript, crypto.signatureVerifies key transcript [] = false)
    (card : RecoveryCardV3) (challenge : EpochReadChallenge)
    (envelopes : List WitnessReadEnvelope) (chosen : Set UInt16) :
    ∃ envelopes', Inserted (¬SignedRead crypto card ·) envelopes envelopes' ∧
      ∀ envelope, Counts crypto card challenge envelopes' envelope ↔
        Counts crypto card challenge envelopes envelope ∧
          envelope.response.witnessId ∈ chosen := by
  obtain ⟨envelopes', hinserted, hcounted⟩ :=
    (reads crypto card challenge).exists_inserted_counted
      (fun _ => not_authentic_of_unsigned) (not_signedRead_stripped hempty)
      (fun _ hanswered => hanswered) (fun _ => rfl) envelopes chosen
  refine ⟨envelopes', hinserted, fun envelope => ?_⟩
  rw [← mem_counted_reads, ← mem_counted_reads]
  exact hcounted envelope

theorem readResult_none_of_inserted
    (hempty : ∀ key transcript, crypto.signatureVerifies key transcript [] = false)
    (h : Steady crypto card challenge envelopes) :
    readResult crypto card challenge envelopes = none := by
  obtain ⟨envelopes', hinserted, hcounts⟩ :=
    exists_inserted_counts hempty card challenge envelopes ∅
  rw [← h.inserted envelopes' hinserted, readResult_eq_none]
  rintro ⟨-, hselectable⟩
  refine not_selectable_empty (fun envelope hmem => ?_) hselectable
  exact ((hcounts envelope).mp hmem).2

/-- The answers that count in some order of the envelopes. -/
theorem alike_of_key_counted {chosen : Set UInt16} (hone : OneResponse crypto card envelopes)
    (hperm : envelopes.Perm envelopes')
    (hkeys : ∀ id, (∃ envelope, Counts crypto card challenge envelopes' envelope ∧
        envelope.response.witnessId = id) ↔
      ∃ envelope ∈ envelopes, Answered card challenge envelope ∧
        Authentic crypto card envelope ∧ envelope.response.witnessId = id ∧ id ∈ chosen) :
    Alike {envelope | Counts crypto card challenge envelopes' envelope}
      {envelope | envelope ∈ envelopes ∧ Answered card challenge envelope ∧
        Authentic crypto card envelope ∧ envelope.response.witnessId ∈ chosen} where
  forth first hfirst := by
    obtain ⟨-, -, -, -, -, hchosen⟩ := (hkeys _).mp ⟨first, hfirst, rfl⟩
    exact ⟨first, ⟨hperm.symm.subset hfirst.mem, hfirst.answered, hfirst.authentic, hchosen⟩,
      rfl, rfl, rfl⟩
  back second hsecond := by
    obtain ⟨hmem, hanswered, hauthentic, hchosen⟩ := hsecond
    obtain ⟨first, hfirst, hid⟩ :=
      (hkeys second.response.witnessId).mpr ⟨second, hmem, hanswered, hauthentic, rfl, hchosen⟩
    exact ⟨first, hfirst, hone.sameReport (hperm.symm.subset hfirst.mem) hmem hfirst.answered
      hanswered hfirst.authentic hauthentic hid⟩

theorem Steady.unselectable
    (hempty : ∀ key transcript, crypto.signatureVerifies key transcript [] = false)
    (h : Steady crypto card challenge envelopes) (haskable : Askable card challenge) :
    Unselectable crypto card challenge envelopes where
  inserted chosen hselectable := by
    obtain ⟨envelopes', hinserted, hcounts⟩ :=
      exists_inserted_counts hempty card challenge envelopes chosen
    have hread := h.inserted envelopes' hinserted
    rw [readResult_none_of_inserted hempty h, readResult_eq_none] at hread
    exact hread ⟨haskable, by simpa only [hcounts] using hselectable⟩
  reordered hone chosen hkept hselectable := by
    obtain ⟨envelopes', hperm, hkeys⟩ :=
      (reads crypto card challenge).exists_perm_counted envelopes chosen
    have hread := h.reordered hone envelopes' hperm
    rw [readResult_none_of_inserted hempty h, readResult_eq_none] at hread
    refine hread ⟨haskable, (alike_of_key_counted hone hperm fun id => ?_).symm.selectable
      hselectable⟩
    have hkey := hkeys id
    simp only [mem_counted_reads] at hkey
    refine hkey.trans ⟨?_, ?_⟩
    · rintro ⟨⟨envelope, hmem, hanswered, hauthentic, hid⟩, hchosen | hall⟩
      · exact ⟨envelope, hmem, hanswered, hauthentic, hid, hchosen⟩
      · refine ⟨envelope, hmem, hanswered, hauthentic, hid, hid ▸ hkept envelope hmem hanswered ?_⟩
        exact fun other hother hanswered' hsame => hall other hother hanswered' (hsame.trans hid)
    · rintro ⟨envelope, hmem, hanswered, hauthentic, hid, hchosen⟩
      exact ⟨⟨envelope, hmem, hanswered, hauthentic, hid⟩, Or.inl hchosen⟩

theorem Unselectable.readResult_inserted (h : Unselectable crypto card challenge envelopes)
    (hinserted : Inserted (¬SignedRead crypto card ·) envelopes envelopes') :
    readResult crypto card challenge envelopes' = none := by
  rw [readResult_eq_none]
  rintro ⟨-, hselectable⟩
  refine h.inserted {id | ∃ other, Counts crypto card challenge envelopes' other ∧
    other.response.witnessId = id} ?_
  have hcounts : ∀ envelope, envelope ∈ (reads crypto card challenge).counted ∅ envelopes' ↔
      envelope ∈ (reads crypto card challenge).counted ∅ envelopes ∧
        ∃ other ∈ (reads crypto card challenge).counted ∅ envelopes',
          (reads crypto card challenge).key other = (reads crypto card challenge).key envelope :=
    fun _ => Intake.mem_counted_inserted (fun _ => not_authentic_of_unsigned) hinserted
  simp only [mem_counted_reads] at hcounts
  rwa [show {envelope | Counts crypto card challenge envelopes' envelope} = _ from
    Set.ext hcounts] at hselectable

theorem Unselectable.readResult_reordered (h : Unselectable crypto card challenge envelopes)
    (hone : OneResponse crypto card envelopes) (hperm : envelopes.Perm envelopes') :
    readResult crypto card challenge envelopes' = none := by
  rw [readResult_eq_none]
  rintro ⟨-, hselectable⟩
  let chosen : Set UInt16 := {id | ∃ other, Counts crypto card challenge envelopes' other ∧
    other.response.witnessId = id}
  refine h.reordered hone chosen (fun envelope hmem hanswered hall => ?_)
    ((alike_of_key_counted hone hperm fun id => ?_).selectable hselectable)
  · exact exists_counts (hperm.subset hmem) hanswered fun other hother =>
      hall other (hperm.symm.subset hother)
  · constructor
    · rintro ⟨envelope, hcounts, hid⟩
      exact ⟨envelope, hperm.symm.subset hcounts.mem, hcounts.answered, hcounts.authentic, hid,
        envelope, hcounts, hid⟩
    · rintro ⟨-, -, -, -, -, hchosen⟩
      exact hchosen

/-- Unsigned envelopes change no read in which they take the turn of no counted witness, and no
order matters where no witness is contested; every read that can make a selection can be changed. -/
theorem read_steady_iff
    (hempty : ∀ key transcript, crypto.signatureVerifies key transcript [] = false)
    (card : RecoveryCardV3) (challenge : EpochReadChallenge)
    (envelopes : List WitnessReadEnvelope) :
    (∀ envelopes', Inserted (¬SignedRead crypto card ·) envelopes envelopes' →
      (∀ envelope, Counts crypto card challenge envelopes envelope →
        Counts crypto card challenge envelopes' envelope) →
      readResult crypto card challenge envelopes' = readResult crypto card challenge envelopes) ∧
    (OneResponse crypto card envelopes → Uncontested crypto card challenge envelopes →
      OneCapsule crypto card challenge envelopes → ∀ envelopes', envelopes.Perm envelopes' →
      readResult crypto card challenge envelopes' = readResult crypto card challenge envelopes) ∧
    (Steady crypto card challenge envelopes ↔
      (Askable card challenge → Unselectable crypto card challenge envelopes)) := by
  refine ⟨fun envelopes' hinserted hkept => ?_, fun hone huncontested hcapsule envelopes' hperm =>
    readResult_perm hone huncontested hcapsule hperm, Steady.unselectable hempty, fun h => ?_⟩
  · refine readResult_congr (Intake.counted_eq_of_kept (fun _ => not_authentic_of_unsigned)
      hinserted fun envelope hmem => ?_)
    rw [mem_counted_reads] at hmem ⊢
    exact hkept envelope hmem
  · by_cases haskable : Askable card challenge
    · have hown := (h haskable).readResult_inserted (Inserted.refl envelopes)
      constructor
      · intro envelopes' hinserted
        rw [hown, (h haskable).readResult_inserted hinserted]
      · intro hone envelopes' hperm
        rw [hown, (h haskable).readResult_reordered hone hperm]
    · have hnone : ∀ list, readResult crypto card challenge list = none := fun list => by
        rw [readResult_eq_none]
        exact fun hboth => haskable hboth.1
      constructor
      · intro envelopes' _
        rw [hnone, hnone]
      · intro _ envelopes' _
        rw [hnone, hnone]

/-! ### One unsigned envelope -/

/-- The answer of the first witness without its signature, before all others. -/
def sampleStripped : List WitnessReadEnvelope :=
  stripped (sampleEnvelope 1 sampleGenesis) :: sampleReads []

theorem transparent_empty (key : PublicKey) (transcript : Bytes) :
    Crypto.transparent.signatureVerifies key transcript [] = false := by
  have hlength : idBytes key ++ idBytes (Crypto.digest transcript) ≠ [] := fun h => by
    simpa using congrArg List.length h
  simpa [Crypto.transparent] using hlength

theorem sampleStripped_inserted :
    Inserted (¬SignedRead Crypto.transparent (sampleCard 4) ·) (sampleReads []) sampleStripped := by
  refine .insert ?_ (Inserted.refl _)
  exact not_signedRead_stripped transparent_empty (sampleEnvelope 1 sampleGenesis)

theorem sampleReads_not_steady :
    ¬Steady Crypto.transparent (sampleCard 4) sampleChallenge (sampleReads []) := by
  have hchanged :
      (readResult Crypto.transparent (sampleCard 4) sampleChallenge (sampleReads [])).isSome = true ∧
        (readResult Crypto.transparent (sampleCard 4) sampleChallenge sampleStripped).isSome =
          false := by
    decide +kernel
  intro hsteady
  rw [hsteady.inserted _ sampleStripped_inserted, hchanged.1] at hchanged
  exact Bool.noConfusion hchanged.2

theorem unsigned_read_changed :
    ¬∀ (crypto : Crypto) (card : RecoveryCardV3) (challenge : EpochReadChallenge)
      (envelopes : List WitnessReadEnvelope),
      (∀ key transcript, crypto.signatureVerifies key transcript [] = false) →
        Steady crypto card challenge envelopes :=
  fun hclaim => sampleReads_not_steady (hclaim Crypto.transparent (sampleCard 4) sampleChallenge
    (sampleReads []) transparent_empty)

theorem read_steady_iff_sample :
    ¬(Askable (sampleCard 4) sampleChallenge →
      Unselectable Crypto.transparent (sampleCard 4) sampleChallenge (sampleReads [])) := fun h =>
  sampleReads_not_steady ((read_steady_iff transparent_empty (sampleCard 4) sampleChallenge
    (sampleReads [])).2.2.mpr h)

end MasterRecovery
