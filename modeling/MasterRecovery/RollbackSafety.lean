import MasterRecovery.FreshReads
import MasterRecovery.WitnessNetwork

/-!
# Rollback safety of fresh reads

The active epoch of an honest witness never goes down. The witnesses that have
finalized an epoch and those whose answers a client counts share an honest one,
and its answer to a fresh nonce is younger than its finalization.
-/

namespace MasterRecovery
open Checks Transcript Wire

variable {crypto : Crypto} {seed configId : Id32} {entry entry' : WitnessConfigEntry}
  {request : WitnessRequest} {reply : Option WitnessEvent} {saves : Bool}
  {requests : List WitnessRequest} {epoch : UInt64} {nonce : Id32}

/-! ### One witness -/

theorem handled_epoch (hpending : HoldsPending crypto seed configId entry)
    (hstep : Handled crypto seed configId entry request entry' reply saves) :
    entry.capsule.configRef.guardianEpoch ≤ entry'.capsule.configRef.guardianEpoch := by
  rcases handled_active hstep with ⟨hsame, -⟩ | ⟨qc, pending, pendingAck, -, hbinds, rfl, -⟩
  · rw [hsame]
    exact UInt64.le_refl _
  · cases hpending with
    | idle hcapsule => exact absurd (hcapsule.symm.trans hbinds.pending_eq) (by simp)
    | waiting hcapsule _ _ hextends =>
      cases hcapsule.symm.trans hbinds.pending_eq
      obtain ⟨-, -, -, hepoch, -⟩ := hextends.direct
      exact hepoch ▸ le_saturatingAdd _ 1

/-- Everything installed is at most as old as the active capsule. -/
theorem run_finalized {provision : WitnessConfigProvision}
    (hprovisioned : Provisioned crypto seed provision) :
    let witness := witnessMachine crypto seed configId
    let reached := witness.run provision.entry requests
    reached.witnessId ≠ 0 ∧ HoldsPending crypto seed configId reached ∧
      ∀ capsule, .finalized capsule ∈ witness.outputs provision.entry requests →
        capsule.configRef.guardianEpoch ≤ reached.capsule.configRef.guardianEpoch := by
  refine run_handled (fun entry out => entry.witnessId ≠ 0 ∧
      HoldsPending crypto seed configId entry ∧ ∀ capsule, .finalized capsule ∈ out →
        capsule.configRef.guardianEpoch ≤ entry.capsule.configRef.guardianEpoch)
    hprovisioned.witnessId
    ⟨hprovisioned.witnessId, holdsPending_provisioned provision, fun _ hmem => (by cases hmem)⟩ ?_
  rintro entry out request entry' reply saves ⟨hid, hpending, hinstalled⟩ hstep
  refine ⟨(handled_pins hstep).1 ▸ hid, hpending.handled hstep, fun capsule hmem => ?_⟩
  rcases List.mem_append.mp hmem with hold | hnew
  · exact UInt64.le_trans (hinstalled capsule hold) (handled_epoch hpending hstep)
  · rw [Option.mem_toList] at hnew
    rcases handled_active hstep with ⟨-, hnone⟩ | ⟨-, -, -, -, -, -, hreply⟩
    · exact absurd hnew (hnone capsule)
    · cases hreply.symm.trans hnew
      exact UInt64.le_refl _

/-- Answers given from an entry on report at least its epoch. -/
theorem run_answered (hid : entry.witnessId ≠ 0) (hpending : HoldsPending crypto seed configId entry)
    {envelope : WitnessReadEnvelope} (hanswered : .answered envelope ∈
      (witnessMachine crypto seed configId).outputs entry requests) :
    entry.capsule.configRef.guardianEpoch ≤ envelope.response.highestGuardianEpoch := by
  refine (run_handled (fun reached out => HoldsPending crypto seed configId reached ∧
      entry.capsule.configRef.guardianEpoch ≤ reached.capsule.configRef.guardianEpoch ∧
      ∀ envelope, .answered envelope ∈ out →
        entry.capsule.configRef.guardianEpoch ≤ envelope.response.highestGuardianEpoch) hid
    ⟨hpending, UInt64.le_refl _, fun _ hmem => (by cases hmem)⟩ ?_).2.2 envelope hanswered
  rintro reached out request entry' reply saves ⟨hpending, hreached, hold⟩ hstep
  refine ⟨hpending.handled hstep, UInt64.le_trans hreached (handled_epoch hpending hstep),
    fun envelope hmem => ?_⟩
  rcases List.mem_append.mp hmem with hmem | hnew
  · exact hold envelope hmem
  · rw [Option.mem_toList] at hnew
    subst hnew
    cases hstep with
    | answered => exact hreached

/-- A nonce no read has asked for is in no answer. -/
theorem run_unasked (hid : entry.witnessId ≠ 0)
    (hfresh : ∀ now challenge, .read now challenge ∈ requests → challenge.clientNonce ≠ nonce)
    {envelope : WitnessReadEnvelope} (hanswered : .answered envelope ∈
      (witnessMachine crypto seed configId).outputs entry requests) :
    envelope.response.clientNonce ≠ nonce := by
  have hrequests : ∀ request ∈ requests, ∀ now challenge, request = .read now challenge →
      challenge.clientNonce ≠ nonce := by
    rintro request hmem now challenge rfl
    exact hfresh now challenge hmem
  refine run_handled_along (fun _ _ request => ∀ now challenge, request = .read now challenge →
      challenge.clientNonce ≠ nonce)
    (fun _ out => ∀ envelope, .answered envelope ∈ out → envelope.response.clientNonce ≠ nonce)
    hid (fun _ hmem => (by cases hmem)) ?_
    (Machine.along_of_forall (witnessMachine crypto seed configId) hrequests _ _)
    envelope hanswered
  intro entry out request entry' reply saves hold hrequest hstep envelope hmem
  rcases List.mem_append.mp hmem with hmem | hnew
  · exact hold envelope hmem
  · rw [Option.mem_toList] at hnew
    subst hnew
    cases hstep with
    | answered => exact hrequest _ _ rfl

/-! ### The network -/

/-- Once an epoch is finalized at `2f+1` witnesses, whatever follows and whatever envelopes
a client is given for a nonce first used since, a capsule it selects is not older. -/
theorem fresh_read_not_older (net : Deployment crypto)
    {before after : List (UInt16 × WitnessRequest)} {presented : Set (Bytes × SignatureBytes)}
    {finalizers : Finset UInt16} {challenge : EpochReadChallenge}
    (hunforged : net.Unforgeable (before ++ after) presented)
    (hroster : finalizers ⊆ net.card.roster)
    (hquorum : requiredWitnessQuorum net.card.witnessFaultBound ≤ finalizers.card)
    (hfinalized : ∀ id ∈ finalizers, id ∈ net.honest → ∃ capsule,
      .finalized capsule ∈ net.sent before id ∧ capsule.configRef.guardianEpoch = epoch)
    (hfresh : ∀ id now earlier, (id, .read now earlier) ∈ before → id ∈ net.honest →
      earlier.clientNonce ≠ challenge.clientNonce) :
    ∀ envelopes selected,
      (∀ envelope ∈ envelopes, ∀ transcript,
        witnessEpochReadResponse envelope.response = .ok transcript →
          (transcript, envelope.response.witnessSignature) ∈ presented) →
      selectLatestEpochV3 crypto net.card challenge envelopes = .ok selected →
      epoch ≤ selected.configRef.guardianEpoch := by
  intro envelopes selected hpresents hselected
  have hspec := selectLatestEpochV3_eq_ok hselected
  obtain ⟨counted, hcounted, hcounts⟩ := hspec.quorum
  have hpins : counted ⊆ net.card.roster := by
    intro id hid
    obtain ⟨envelope, hcount, rfl⟩ := hcounts id hid
    obtain ⟨pin, hpin, -⟩ := hcount.answered
    obtain ⟨hmem, hpinId⟩ := hspec.accepted.witnessPins_eq_some.mp hpin
    exact List.mem_toFinset.mpr (List.mem_map.mpr ⟨pin, hmem, hpinId⟩)
  obtain ⟨id, hmem, hid⟩ := net.common_honest hroster hpins hquorum hcounted
  obtain ⟨hfinalizer, hcounter⟩ := Finset.mem_inter.mp hmem
  obtain ⟨capsule, hinstalled, rfl⟩ := hfinalized id hfinalizer hid
  obtain ⟨envelope, hcount, rfl⟩ := hcounts id hcounter
  -- the honest witness really gave this answer, and gave it after its finalization
  obtain ⟨⟨pin, transcript, hpin, htr, hverify⟩, -⟩ := hcount.authentic
  obtain ⟨pinMem, hpinId⟩ := hspec.accepted.witnessPins_eq_some.mp hpin
  have hsigned : PinSigned crypto net.card presented envelope.response.witnessId transcript
      envelope.response.witnessSignature :=
    ⟨hpresents envelope hcount.mem transcript htr, pin, pinMem, hpinId, hverify⟩
  obtain ⟨sent, hsent, hsame⟩ := answered_of_signedBy htr (hsigned.signed_transcript hunforged hid)
  obtain ⟨pin', -, -, -, hnonce, -, hresponse, -⟩ := hcount.answered
  have hsentNonce : sent.response.clientNonce = challenge.clientNonce :=
    (congrArg (·.clientNonce) hsame).trans hnonce
  have hsentEpoch : sent.response.highestGuardianEpoch = envelope.capsule.configRef.guardianEpoch :=
    (congrArg (·.highestGuardianEpoch) hsame).trans hresponse
  have hprovisioned := net.provisioned_of_honest hid
  rw [net.sent_eq] at hinstalled
  rw [net.sent_eq, Machine.inbox_append, Machine.outputs_append] at hsent
  obtain ⟨hreachedId, hreachedPending, hepochs⟩ := @run_finalized _ _ net.card.configId
    (Machine.inbox envelope.response.witnessId before) _ hprovisioned
  have hlater : .answered sent ∈ (net.witness envelope.response.witnessId).outputs
      ((net.witness envelope.response.witnessId).run (net.start envelope.response.witnessId)
        (Machine.inbox envelope.response.witnessId before))
      (Machine.inbox envelope.response.witnessId after) := by
    refine (List.mem_append.mp hsent).resolve_left fun hearly => ?_
    exact run_unasked hprovisioned.witnessId
      (fun now earlier hread => hfresh _ now earlier (Machine.mem_inbox.mp hread) hid) hearly
      hsentNonce
  have hread : capsule.configRef.guardianEpoch ≤ sent.response.highestGuardianEpoch :=
    UInt64.le_trans (hepochs capsule hinstalled) (run_answered hreachedId hreachedPending hlater)
  exact UInt64.le_trans (hsentEpoch ▸ hread) (hspec.highest envelope hcount)

def sampleChallenge : EpochReadChallenge where
  protocolVersion := protocolVersionV3
  configId := 1
  clientNonce := 90
  responseRecipientKey := [1]
  issuedAt := 5
  expiry := 100

/-- A witness's signed answer that this capsule is active. -/
def sampleEnvelope (id : UInt16) (capsule : ConfigCapsuleV3) : WitnessReadEnvelope :=
  let unsigned := readResponse Crypto.transparent (sampleWitnessSeed id) sampleChallenge
    { (sampleProvision 4 id).entry with capsule := capsule }
  ⟨{ unsigned with
      witnessSignature := Crypto.transparent.sign (sampleWitnessSeed id)
        ((witnessEpochReadResponse unsigned).toOption.getD []) }, capsule⟩

theorem sampleEnvelope_signature {id : UInt16} {capsule : ConfigCapsuleV3} {transcript : Bytes}
    (h : witnessEpochReadResponse (sampleEnvelope id capsule).response = .ok transcript) :
    (sampleEnvelope id capsule).response.witnessSignature =
      Crypto.transparent.sign (sampleWitnessSeed id) transcript := by
  have hunsigned : witnessEpochReadResponse (readResponse Crypto.transparent (sampleWitnessSeed id)
      sampleChallenge { (sampleProvision 4 id).entry with capsule := capsule }) =
      .ok transcript := h
  simp only [sampleEnvelope, hunsigned]
  rfl

/-- Two honest witnesses finalize the first child. -/
def sampleInstalls : List (UInt16 × WitnessRequest) :=
  [1, 2].flatMap fun id => (sampleInstall sampleMembershipProof).map fun request => (id, request)

/-- One of them is read afterwards, and one that has not heard of the child. -/
def sampleLaterReads : List (UInt16 × WitnessRequest) :=
  [1, 3].map fun id => (id, .read (.ok 6) sampleChallenge)

/-- Their answers, and one of the dishonest witness. -/
def sampleView : List WitnessReadEnvelope :=
  [sampleEnvelope 1 sampleInstalled, sampleEnvelope 3 sampleGenesis,
    sampleEnvelope 4 sampleInstalled]

theorem sampleInstalls_answers :
    .finalized sampleInstalled ∈
        (sampleWitness 1).outputs (sampleProvision 4 1).entry (Machine.inbox 1 sampleInstalls) ∧
      .finalized sampleInstalled ∈
        (sampleWitness 2).outputs (sampleProvision 4 2).entry (Machine.inbox 2 sampleInstalls) ∧
      .answered (sampleEnvelope 1 sampleInstalled) ∈
        (sampleWitness 1).outputs (sampleProvision 4 1).entry
          (Machine.inbox 1 (sampleInstalls ++ sampleLaterReads)) ∧
      .answered (sampleEnvelope 3 sampleGenesis) ∈
        (sampleWitness 3).outputs (sampleProvision 4 3).entry
          (Machine.inbox 3 (sampleInstalls ++ sampleLaterReads)) := by
  decide +kernel

theorem sampleView_signed :
    sampleDeployment.Unforgeable (sampleInstalls ++ sampleLaterReads) (samplePresented
      (sampleView.map fun envelope =>
        (envelope.response.witnessId, witnessEpochReadResponse envelope.response))) := by
  obtain ⟨-, -, hnew, hold⟩ := sampleInstalls_answers
  refine sampleDeployment_unforgeable fun id encoded hmem hid transcript htr => ?_
  obtain ⟨envelope, henvelope, hpair⟩ := List.mem_map.mp hmem
  cases hpair
  rw [sampleDeployment.sent_eq]
  simp only [sampleView, List.mem_cons, List.not_mem_nil, or_false] at henvelope
  rcases henvelope with rfl | rfl | rfl
  · exact ⟨_, hnew, htr⟩
  · exact ⟨_, hold, htr⟩
  · exact absurd hid (by decide)

/-- The third witness still answers with the genesis capsule; the selection does not return it. -/
theorem fresh_read_not_older_sample :
    selectLatestEpochV3 Crypto.transparent (sampleCard 4) sampleChallenge sampleView =
        .ok sampleInstalled ∧
      2 ≤ sampleInstalled.configRef.guardianEpoch := by
  obtain ⟨hfirst, hsecond, -⟩ := sampleInstalls_answers
  have hroster : ({1, 2, 4} : Finset UInt16) ⊆ sampleDeployment.card.roster := by decide
  have hselected : selectLatestEpochV3 Crypto.transparent (sampleCard 4) sampleChallenge
      sampleView = .ok sampleInstalled :=
    toOption_eq_some.mp (by decide +kernel)
  refine ⟨hselected, fresh_read_not_older sampleDeployment sampleView_signed hroster
    (by decide) (fun id hmem hid => ?_)
    (fun id now earlier hmem => absurd hmem (by simp [sampleInstalls, sampleInstall]))
    sampleView sampleInstalled (fun envelope hmem transcript htr => ?_) hselected⟩
  · simp only [Finset.mem_insert, Finset.mem_singleton] at hmem
    rcases hmem with rfl | rfl | rfl
    · exact ⟨sampleInstalled, sampleDeployment.sent_eq _ _ ▸ hfirst, rfl⟩
    · exact ⟨sampleInstalled, sampleDeployment.sent_eq _ _ ▸ hsecond, rfl⟩
    · exact absurd hid (by decide)
  · have hsigned : envelope.response.witnessSignature = Crypto.transparent.sign
        (sampleWitnessSeed envelope.response.witnessId) transcript := by
      simp only [sampleView, List.mem_cons, List.not_mem_nil, or_false] at hmem
      rcases hmem with rfl | rfl | rfl <;> exact sampleEnvelope_signature htr
    rw [hsigned]
    exact ⟨_, _, List.mem_map_of_mem hmem, transcript, htr, rfl⟩

end MasterRecovery
