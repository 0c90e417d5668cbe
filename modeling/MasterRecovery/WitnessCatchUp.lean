import MasterRecovery.DurableAcks

/-!
# A witness that has fallen behind

The capsules a witness has missed, submitted to it in turn, each with the certificate and the QC it
was published with. The witness takes up a capsule if it extends the active one, and installs it if
the QC carries the acknowledgement of this very witness.
-/

namespace MasterRecovery
open Checks Transcript Wire

variable {crypto : Crypto} {seed configId : Id32} {card : RecoveryCardV3}
  {circulating : Set ConfigCapsuleV3} {entry entry' : WitnessConfigEntry}
  {store store' : Persisted WitnessConfigEntry} {next : ConfigCapsuleV3}

/-! ### Replay -/

section Replay

variable (crypto seed configId)

/-- A request whose save succeeds, if it is answered. -/
def submit (store : Persisted WitnessConfigEntry) (request : WitnessRequest) :
    Option (Persisted WitnessConfigEntry) :=
  let out := serve crypto seed configId (.ok ()) request store
  if out.2.isSome then some out.1 else none

/-- A capsule as it was published: first its certificate, then its QC. -/
def replayCapsule (store : Persisted WitnessConfigEntry) (next : ConfigCapsuleV3) :
    Option (Persisted WitnessConfigEntry) := do
  let certificate ← next.activationCertificate
  let qc ← next.activationQc
  let activated ← submit crypto seed configId store (.activate ⟨next, certificate⟩)
  submit crypto seed configId activated (.finalize qc)

/-- A chain of capsules, as long as every request is answered. -/
def replay (store : Persisted WitnessConfigEntry) :
    List ConfigCapsuleV3 → Option (Persisted WitnessConfigEntry)
  | [] => some store
  | next :: chain => do
    let installed ← replayCapsule crypto seed configId store next
    replay installed chain

/-- The acknowledgement this witness gives for a published successor. -/
def ownAck (entry : WitnessConfigEntry) (active next : ConfigCapsuleV3) :
    Option WitnessActivationAck := do
  let certificate ← next.activationCertificate
  let transcript ← (rotationActivateCertificate certificate).toOption
  let unsigned := activationAck crypto seed ⟨next, certificate⟩ (crypto.sha256 transcript)
    { entry with capsule := active }
  let ackTranscript ← (witnessActivationAck unsigned).toOption
  some { unsigned with witnessSignature := crypto.sign seed ackTranscript }

end Replay

/-- The successor extends the active capsule, and its QC carries this witness's own ack. -/
structure Adopts (crypto : Crypto) (seed : Id32) (entry : WitnessConfigEntry)
    (active next : ConfigCapsuleV3) : Prop where
  succeeds : ∀ certificate, next.activationCertificate = some certificate →
    Extends crypto ⟨next, certificate⟩ active entry.signerPublicKeys
  own : ∃ ack qc, ownAck crypto seed entry active next = some ack ∧ next.activationQc = some qc ∧
    ack ∈ qc.witnessAcks

/-! ### Answers -/

theorem submit_handled (hid : store.data.witnessId ≠ 0) {request : WitnessRequest}
    (h : submit crypto seed configId store request = some store') :
    ∃ event saves, Handled crypto seed configId store.data request store'.data (some event)
      saves := by
  obtain ⟨entry', reply, saves, hhandled, hserve⟩ :=
    serve_handled crypto seed configId store hid request
  simp only [submit, hserve] at h
  cases reply with
  | none => cases saves <;> simp [settle] at h
  | some event =>
    cases saves <;>
    · simp only [settle, Option.isSome_some, if_true, Option.some.injEq] at h
      cases h
      exact ⟨event, _, hhandled⟩

theorem activateChecks_of_binds {request : WitnessActivationRequest} {activationHash : Id32}
    (h : CertificateBinds crypto configId request activationHash) :
    activateChecks crypto configId request = .ok activationHash := by
  obtain ⟨body, hbody, hhash⟩ := h.body
  obtain ⟨transcript, htr, hcertificate⟩ := h.certificate
  simp only [activateChecks, exists_const, bind_eq_ok, bailIf_eq_ok, api_eq_ok, wire_eq_ok,
    not_or, not_not, ne_eq, Except.ok.injEq]
  exact ⟨h.config, body, hbody, ⟨hhash, h.successor, h.successorHash.trans hhash.symm,
    h.predecessor⟩, transcript, htr, hcertificate⟩

theorem lockSuccessor_of_extends {request : WitnessActivationRequest} {register : WitnessEpochStore}
    (h : Extends crypto request entry.capsule entry.signerPublicKeys)
    (hpersist : entry.register.persistSuccessorBeforeAck entry.capsule.configRef
      entry.capsule.capsuleHash request.capsule.configRef request.capsule.capsuleHash =
        .ok register) : lockSuccessor crypto request entry = .ok register := by
  simp only [lockSuccessor, exists_const, bind_eq_ok, bailIf_eq_ok, each_eq_ok, api_eq_ok,
    wire_eq_ok, crypt_eq_ok, stored_eq_ok, Crypto.verify_eq_ok, not_or, not_not, not_lt,
    ne_eq, UInt64.not_lt]
  exact ⟨⟨h.configRef, h.predecessor, h.signerCount, h.signerThreshold, h.signerSetCommitment,
    h.ownerCancelPublicKey, h.minimumRecoveryDelay, h.maxRequestLifetime, trivial, h.votes⟩,
    h.pinned, hpersist⟩

theorem finalizeEntry_of_binds {qc : EpochActivationQc} {pending : ConfigCapsuleV3}
    {pendingAck : WitnessActivationAck}
    (h : QcBinds crypto configId qc entry pending pendingAck)
    (hconfig : pending.configRef.configId = configId)
    (hown : pendingAck.witnessId = entry.witnessId) :
    finalizeEntry crypto configId qc entry = .ok (installed qc pending entry) := by
  obtain ⟨transcript, htr⟩ := h.transcript
  simp only [finalizeEntry, bind_eq_ok, exists_const, okOr_eq_ok, bailIf_eq_ok, api_eq_ok,
    wire_eq_ok, scanDistinct_eq_ok, pure_eq_ok, crypt_eq_ok, Crypto.verify_eq_ok, not_or, not_not,
    not_lt, ne_eq, Except.ok.injEq]
  refine ⟨pending, h.pending_eq, pendingAck, h.ack_eq, h.live, transcript, htr,
    ⟨h.config.trans hconfig.symm, h.config, h.faultBound, h.rotation, h.predecessorEpoch,
      h.predecessor, h.successorEpoch, h.successor, h.certificate⟩,
    _, ⟨fun ack hack => ?_, h.distinct, rfl⟩, ⟨?_, pendingAck, h.own, hown, rfl⟩, rfl⟩
  · obtain ⟨hpinned, transcript, htr, hverify⟩ := h.acks ack hack
    exact ⟨⟨_, hpinned, trivial⟩, _, hpinned, rfl, transcript, htr, hverify⟩
  · rw [List.toFinset_card_of_nodup h.distinct, List.length_map]
    exact h.quorum

/-! ### Entries of a card -/

/-- What an entry of an honest witness of the card satisfies, in memory and on disk. -/
structure HonestEntry (crypto : Crypto) (seed : Id32) (card : RecoveryCardV3)
    (circulating : Set ConfigCapsuleV3) (entry : WitnessConfigEntry) : Prop where
  inv : EntryInv crypto seed circulating entry
  holds : HoldsPending crypto seed card.configId entry
  follows : FollowsCard card entry
  register : entry.register.configId = card.configId

theorem handled_register {request : WitnessRequest} {reply : Option WitnessEvent} {saves : Bool}
    (hstep : Handled crypto seed configId entry request entry' reply saves) :
    entry'.register.configId = entry.register.configId := by
  cases hstep with
  | refused => rfl
  | cancelled _ _ _ houtcome _ => cases houtcome <;> rfl
  | retried => rfl
  | activated _ _ _ _ hpersist =>
    obtain ⟨-, ⟨-, rfl⟩ | ⟨-, -, -, -, rfl⟩⟩ :=
      WitnessEpochStore.persistSuccessorBeforeAck_eq_ok hpersist <;> rfl
  | finalized => rfl
  | answered => rfl

theorem HonestEntry.handled (hcycle : CycleFree crypto circulating)
    (h : HonestEntry crypto seed card circulating entry) {request : WitnessRequest}
    {reply : Option WitnessEvent} {saves : Bool} (hcirc : request.Circulates circulating)
    (hstep : Handled crypto seed card.configId entry request entry' reply saves) :
    HonestEntry crypto seed card circulating entry' :=
  ⟨h.inv.handled hcycle hcirc hstep, h.holds.handled hstep, h.follows.handled h.holds hstep,
    (handled_register hstep).trans h.register⟩

theorem honestEntry_provisioned {provision : WitnessConfigProvision}
    (hprovisioned : Provisioned crypto seed provision) (hcard : ProvisionedFor card provision) :
    HonestEntry crypto seed card circulating provision.entry :=
  ⟨entryInv_provisioned hprovisioned, holdsPending_provisioned provision,
    hcard.followsCard hprovisioned.epoch, hcard.config⟩

/-- The capsule of an activation request, with whatever outcome of its save. -/
def WitnessInput.Circulates (circulating : Set ConfigCapsuleV3) : WitnessInput → Prop
  | .request _ asked => asked.Circulates circulating
  | _ => True

theorem Stored.honest (hcycle : CycleFree crypto circulating) {input : WitnessInput}
    {logged : Option WitnessRecord} (hdata : HonestEntry crypto seed card circulating store.data)
    (hsaved : HonestEntry crypto seed card circulating store.saved)
    (hcirc : input.Circulates circulating)
    (hstored : Stored crypto seed card.configId store input store' logged) :
    HonestEntry crypto seed card circulating store'.data ∧
      HonestEntry crypto seed card circulating store'.saved := by
  cases hstored with
  | kept hstep => exact ⟨hdata.handled hcycle hcirc hstep, hsaved⟩
  | saved hstep =>
    have hnext := hdata.handled hcycle hcirc hstep
    exact ⟨hnext, hnext⟩
  | failed hstep => exact ⟨hdata.handled hcycle hcirc hstep, hsaved⟩
  | crashed => exact ⟨hsaved, hsaved⟩
  | flushed => exact ⟨hdata, hdata⟩

theorem honestEntry_run (hcycle : CycleFree crypto circulating) {inputs : List WitnessInput}
    (hcirc : ∀ input ∈ inputs, input.Circulates circulating)
    (h : HonestEntry crypto seed card circulating entry) :
    HonestEntry crypto seed card circulating
      ((storedWitness crypto seed card.configId).run ⟨entry, entry⟩ inputs).data := by
  refine (Machine.run_invariant (storedWitness crypto seed card.configId)
    (I := fun store _ => HonestEntry crypto seed card circulating store.data ∧
      HonestEntry crypto seed card circulating store.saved) ⟨h, h⟩ ?_
    (Machine.along_of_forall _ hcirc _ _)).1
  intro store log input ⟨hdata, hsaved⟩ hinput
  exact (storedWitness_stored hdata.inv.witnessId input).honest hcycle hdata hsaved hinput

/-! ### A published successor -/

/-- What the client has checked of a successor it accepts. -/
structure Published (crypto : Crypto) (card : RecoveryCardV3) (next : ConfigCapsuleV3)
    (certificate : RotationActivateCertificate) (activationHash : Id32) (qc : EpochActivationQc) :
    Prop where
  carries : next.activationCertificate = some certificate
  finalized : next.activationQc = some qc
  body : BodyAccepted crypto card next
  accepted : CertificateAccepted crypto next certificate activationHash
  qc : QcAccepted crypto card next certificate activationHash qc

theorem published_of_valid {certificate : RotationActivateCertificate}
    (hvalid : validateActivatedCapsuleV3 crypto card next = .ok ())
    (hcertificate : next.activationCertificate = some certificate) :
    ∃ activationHash qc, Published crypto card next certificate activationHash qc := by
  obtain ⟨-, hbody, ⟨-, -, hnone, -⟩ | ⟨-, certificate', activationHash, qc, hcertificate', hqc,
    haccepted, hqcAccepted⟩⟩ := validateActivatedCapsuleV3_eq_ok.mp hvalid
  · cases hnone.symm.trans hcertificate
  · cases hcertificate.symm.trans hcertificate'
    exact ⟨activationHash, qc, hcertificate, hqc, hbody, haccepted, hqcAccepted⟩

theorem Published.binds {certificate : RotationActivateCertificate} {activationHash : Id32}
    {qc : EpochActivationQc} (h : Published crypto card next certificate activationHash qc) :
    CertificateBinds crypto card.configId ⟨next, certificate⟩ activationHash where
  config := h.body.config
  body := h.body.body
  successor := h.accepted.successor
  successorHash := h.accepted.successorHash
  predecessor := h.accepted.predecessor.symm
  certificate := h.accepted.transcript

/-- What is kept of a capsule while its QC is out. -/
def ConfigCapsuleV3.unfinalized (capsule : ConfigCapsuleV3) : ConfigCapsuleV3 :=
  { capsule with activationQc := none }

theorem storedCapsule_eq {certificate : RotationActivateCertificate}
    (hcertificate : next.activationCertificate = some certificate) :
    (⟨next, certificate⟩ : WitnessActivationRequest).storedCapsule = next.unfinalized := by
  simp [WitnessActivationRequest.storedCapsule, ConfigCapsuleV3.unfinalized, ← hcertificate]

/-- The entry waits for the QC of a successor, under the acknowledgement it gives for it. -/
structure WaitsFor (crypto : Crypto) (seed : Id32) (entry : WitnessConfigEntry)
    (next : ConfigCapsuleV3) : Prop where
  pending : entry.pendingCapsule = some next.unfinalized
  succeeds : ∀ certificate, next.activationCertificate = some certificate →
    Extends crypto ⟨next, certificate⟩ entry.capsule entry.signerPublicKeys
  ack : ∃ ack, entry.pendingAck = some ack ∧ ownAck crypto seed entry entry.capsule next = some ack

/-- What extends a capsule does so by what is kept of it. -/
theorem Extends.of_stored {request : WitnessActivationRequest} {active : ConfigCapsuleV3}
    {signers : Std.TreeMap UInt16 PublicKey} (h : Extends crypto request active signers)
    (hsame : request.storedCapsule = next.unfinalized) :
    Extends crypto ⟨next, request.activationCertificate⟩ active signers := by
  have hkept (field : ConfigCapsuleV3 → Prop) (hfield : field request.storedCapsule) :
      field next.unfinalized := hsame ▸ hfield
  exact
    { configRef := h.configRef
      predecessor := hkept (·.predecessorCapsuleHash = _) h.predecessor
      direct := hkept (·.configRef.IsDirectSuccessorOf _) h.direct
      signerCount := hkept (·.signerCount = _) h.signerCount
      signerThreshold := hkept (·.signerThreshold = _) h.signerThreshold
      signerSetCommitment := hkept (·.signerSetCommitment = _) h.signerSetCommitment
      ownerCancelPublicKey := hkept (·.ownerCancelPublicKey = _) h.ownerCancelPublicKey
      minimumRecoveryDelay := hkept (_ ≤ ·.minimumRecoveryDelay) h.minimumRecoveryDelay
      maxRequestLifetime := hkept (·.maxRequestLifetime = _) h.maxRequestLifetime
      dpssSuite := hkept (·.dpssSuite = _) h.dpssSuite
      votes := h.votes
      pinned := h.pinned }

/-- Whatever request the pending successor came with, it had the same certificate. -/
theorem HoldsPending.waitsFor (h : HoldsPending crypto seed configId entry)
    (hpending : entry.pendingCapsule = some next.unfinalized) :
    WaitsFor crypto seed entry next := by
  cases h with
  | idle hcapsule => cases hcapsule.symm.trans hpending
  | @waiting request activationHash ackTranscript hcapsule hack hbinds hextends hlive htranscript =>
    have hsame := Option.some.inj (hcapsule.symm.trans hpending)
    have hcertificate : next.activationCertificate = some request.activationCertificate :=
      (congrArg (·.activationCertificate) hsame).symm
    obtain ⟨transcript, htr, hhash⟩ := hbinds.certificate
    have hunsigned : activationAck crypto seed ⟨next, request.activationCertificate⟩ activationHash
        entry = activationAck crypto seed request activationHash entry := by
      have href : request.capsule.configRef = next.configRef := congrArg (·.configRef) hsame
      have hbody : request.capsule.capsuleHash = next.capsuleHash := congrArg (·.capsuleHash) hsame
      simp [activationAck, href, hbody]
    refine ⟨hpending, fun certificate hfound => ?_, _, hack, ?_⟩
    · cases hcertificate.symm.trans hfound
      exact hextends.of_stored hsame
    · simp only [ownAck, hcertificate, htr, Except.toOption, Option.bind_eq_bind, Option.bind_some,
        hhash, hunsigned, htranscript]
      rfl

/-! ### The certificate -/

/-- What a replay leaves of an entry, apart from its capsules and its register. -/
structure PinsKept (entry entry' : WitnessConfigEntry) : Prop where
  witnessId : entry'.witnessId = entry.witnessId
  signers : entry'.signerPublicKeys = entry.signerPublicKeys
  cancellations : entry'.rotationCancellations = entry.rotationCancellations

/-- Nothing else than this successor is pending. -/
def FreeToAdopt (entry : WitnessConfigEntry) (next : ConfigCapsuleV3) : Prop :=
  entry.pendingCapsule = none ∨ entry.pendingCapsule = some next.unfinalized

theorem submit_activate_waits
    (h : HonestEntry crypto seed card circulating store.data) (hfree : FreeToAdopt store.data next)
    {certificate : RotationActivateCertificate}
    (hcertificate : next.activationCertificate = some certificate)
    (hsubmit : submit crypto seed card.configId store (.activate ⟨next, certificate⟩) =
      some store') :
    WaitsFor crypto seed store'.data next ∧ store'.data.capsule = store.data.capsule ∧
      PinsKept store.data store'.data := by
  obtain ⟨event, saves, hhandled⟩ := submit_handled h.inv.witnessId hsubmit
  have hholds := h.holds.handled hhandled
  generalize store'.data = entry' at hhandled hholds ⊢
  cases hhandled with
  | retried hbinds hlive hpending hsame hack =>
    rcases hfree with hnone | hsome
    · cases hnone.symm.trans hpending
    · exact ⟨hholds.waitsFor hsome, rfl, rfl, rfl, rfl⟩
  | activated =>
    exact ⟨hholds.waitsFor (congrArg some (storedCapsule_eq hcertificate)), rfl, rfl, rfl, rfl⟩

theorem submit_activate_accepts (hcycle : CycleFree crypto circulating)
    (h : HonestEntry crypto seed card circulating store.data) (hfree : FreeToAdopt store.data next)
    {certificate : RotationActivateCertificate} {activationHash : Id32} {qc : EpochActivationQc}
    (hpublished : Published crypto card next certificate activationHash qc)
    (hlive : certificate.context.rotationId ∉ store.data.rotationCancellations)
    (hextends : Extends crypto ⟨next, certificate⟩ store.data.capsule store.data.signerPublicKeys) :
    ∃ store', submit crypto seed card.configId store (.activate ⟨next, certificate⟩) =
      some store' := by
  have hchecks := activateChecks_of_binds hpublished.binds
  rcases hfree with hnone | hsome
  · obtain ⟨hepoch, hhash, -⟩ := h.inv.follows.idle hnone
    obtain ⟨register, hpersist⟩ : ∃ register,
        store.data.register.persistSuccessorBeforeAck store.data.capsule.configRef
          store.data.capsule.capsuleHash next.configRef next.capsuleHash = .ok register := by
      simp [WitnessEpochStore.persistSuccessorBeforeAck, bind_unit_eq_ok, hextends.direct,
        h.inv.no_lock_when_idle hcycle hnone, h.register, h.follows.config, hepoch, hhash]
    obtain ⟨transcript, htr, -⟩ := hpublished.accepted.transcript
    obtain ⟨ackTranscript, hack⟩ : Succeeds (witnessActivationAck
        (activationAck crypto seed ⟨next, certificate⟩ activationHash store.data)) :=
      succeeds_witnessActivationAck (rotationActivateCertificate_context htr)
    simp [submit, serve, witnessActivate, hchecks, hlive, hnone,
      lockSuccessor_of_extends hextends hpersist, hack, Except.toOption]
  · obtain ⟨-, -, ack, hack, -⟩ := h.holds.waitsFor hsome
    simp [submit, serve, witnessActivate, hchecks, hlive, hsome, hack,
      ConfigCapsuleV3.unfinalized, okOr, Except.toOption]

/-! ### The QC -/

theorem WaitsFor.finalizes {certificate : RotationActivateCertificate} {activationHash : Id32}
    {qc : EpochActivationQc} {ack : WitnessActivationAck}
    (h : WaitsFor crypto seed entry next) (hfollows : FollowsCard card entry)
    (haccepted : CardAccepted card)
    (hpublished : Published crypto card next certificate activationHash qc)
    (hlive : certificate.context.rotationId ∉ entry.rotationCancellations)
    (hack : ownAck crypto seed entry entry.capsule next = some ack) (hown : ack ∈ qc.witnessAcks) :
    finalizeEntry crypto card.configId qc entry = .ok (installed qc next.unfinalized entry) := by
  obtain ⟨pendingAck, hpendingAck, hsame⟩ := h.ack
  cases hsame.symm.trans hack
  have hextends := h.succeeds certificate hpublished.carries
  obtain ⟨transcript, htr, hhash⟩ := hpublished.accepted.transcript
  obtain ⟨-, -, hnodup, -⟩ := epochActivationQc_eq_ok hpublished.qc.transcript
  simp only [ownAck, hpublished.carries, htr, Except.toOption, Option.bind_eq_bind,
    Option.bind_some, hhash, Option.bind_eq_some_iff, Option.some.injEq] at hack
  obtain ⟨ackTranscript, -, rfl⟩ := hack
  refine finalizeEntry_of_binds ⟨h.pending, hpendingAck, ?_, hpublished.qc.transcript,
    hpublished.qc.config, ?_, hpublished.qc.rotation, ?_, ?_, hpublished.qc.successorEpoch,
    hpublished.qc.successor, hpublished.qc.certificateHash, fun ack hmem => ?_, hnodup, ?_, hown⟩
    hpublished.body.config rfl
  · rw [hpublished.qc.rotation]
    exact hlive
  · rw [hpublished.qc.faultBound, hfollows.faultBound]
  · rw [hpublished.qc.predecessorEpoch, hextends.configRef]
    rfl
  · rw [hpublished.qc.predecessor]
    exact hextends.predecessor
  · obtain ⟨pin, hpin, hid, hkey, hsignature⟩ := hpublished.qc.acks ack hmem
    rw [hfollows.pins, ← hid, haccepted.witnessPins_eq_some.mpr ⟨hpin, rfl⟩]
    exact ⟨congrArg some hkey.symm, hkey ▸ hsignature⟩
  · rw [hfollows.faultBound]
    exact hpublished.qc.quorum

/-! ### One capsule -/

theorem ownAck_of_pins (h : PinsKept entry entry') (active next : ConfigCapsuleV3) :
    ownAck crypto seed entry' active next = ownAck crypto seed entry active next := by
  simp only [ownAck, activationAck, h.witnessId]

theorem adopts_of_pins (h : PinsKept entry entry') :
    Adopts crypto seed entry' = Adopts crypto seed entry := by
  funext active next
  refine propext ⟨fun hadopts => ?_, fun hadopts => ?_⟩
  · exact ⟨h.signers ▸ hadopts.succeeds, ownAck_of_pins h active next ▸ hadopts.own⟩
  · exact ⟨h.signers ▸ hadopts.succeeds, (ownAck_of_pins h active next).symm ▸ hadopts.own⟩

/-- No cancellation of the rotation that published this capsule. -/
def Uncancelled (entry : WitnessConfigEntry) (next : ConfigCapsuleV3) : Prop :=
  ∀ certificate, next.activationCertificate = some certificate →
    certificate.context.rotationId ∉ entry.rotationCancellations

theorem replayCapsule_of_adopts (hcycle : CycleFree crypto circulating)
    (h : HonestEntry crypto seed card circulating store.data)
    (hfree : FreeToAdopt store.data next) (hlive : Uncancelled store.data next)
    (hvalid : validateActivatedCapsuleV3 crypto card next = .ok ())
    (hadopts : Adopts crypto seed store.data store.data.capsule next) :
    ∃ store', replayCapsule crypto seed card.configId store next = some store' := by
  obtain ⟨ack, qc, hown, hqc, hmem⟩ := hadopts.own
  obtain ⟨certificate, hcertificate⟩ : ∃ certificate,
      next.activationCertificate = some certificate := by
    cases hnone : next.activationCertificate with
    | none => simp [ownAck, hnone] at hown
    | some certificate => exact ⟨certificate, rfl⟩
  obtain ⟨activationHash, qc', hpublished⟩ := published_of_valid hvalid hcertificate
  cases hqc.symm.trans hpublished.finalized
  obtain ⟨activated, hsubmit⟩ := submit_activate_accepts hcycle h hfree hpublished
    (hlive certificate hcertificate) (hadopts.succeeds certificate hcertificate)
  obtain ⟨hwaits, hcapsule, hpins⟩ := submit_activate_waits h hfree hcertificate hsubmit
  obtain ⟨_, _, hhandled⟩ := submit_handled h.inv.witnessId hsubmit
  have hfollows := h.follows.handled h.holds hhandled
  have haccepted := (validateActivatedCapsuleV3_eq_ok.mp hvalid).1
  have hlive' := hlive certificate hcertificate
  rw [← hpins.cancellations] at hlive'
  rw [← ownAck_of_pins hpins, ← hcapsule] at hown
  have hfinalize := hwaits.finalizes hfollows haccepted hpublished hlive' hown hmem
  have hsubmit' : ∃ store', submit crypto seed card.configId activated (.finalize qc) =
      some store' := by
    simp [submit, serve, witnessFinalize, hfinalize, Except.toOption]
  simpa [replayCapsule, hcertificate, hqc, hsubmit] using hsubmit'

/-- A replay that is accepted has taken up the capsule. -/
theorem replayCapsule_leaves (hcycle : CycleFree crypto circulating) (hnext : next ∈ circulating)
    (h : HonestEntry crypto seed card circulating store.data)
    (hfree : FreeToAdopt store.data next)
    (hreplay : replayCapsule crypto seed card.configId store next = some store') :
    Adopts crypto seed store.data store.data.capsule next ∧
      HonestEntry crypto seed card circulating store'.data ∧ store'.data.capsule = next ∧
      store'.data.pendingCapsule = none ∧ PinsKept store.data store'.data := by
  simp only [replayCapsule, Option.bind_eq_bind, Option.bind_eq_some_iff] at hreplay
  obtain ⟨certificate, hcertificate, qc, hqc, activated, hactivate, hfinalize⟩ := hreplay
  obtain ⟨hwaits, hcapsule, hpins⟩ := submit_activate_waits h hfree hcertificate hactivate
  obtain ⟨_, _, hhandled⟩ := submit_handled h.inv.witnessId hactivate
  have hcirc : (WitnessRequest.activate ⟨next, certificate⟩).Circulates circulating := hnext
  have hactivated := h.handled hcycle hcirc hhandled
  obtain ⟨_, _, hhandled'⟩ := submit_handled hactivated.inv.witnessId hfinalize
  have hcirc' : (WitnessRequest.finalize qc).Circulates circulating := trivial
  have hfinalized := hactivated.handled hcycle hcirc' hhandled'
  generalize store'.data = entry' at hhandled' hfinalized ⊢
  cases hhandled' with
  | @finalized _ pending pendingAck hbinds =>
    cases hwaits.pending.symm.trans hbinds.pending_eq
    obtain ⟨ack, hack, hown⟩ := hwaits.ack
    cases hack.symm.trans hbinds.ack_eq
    rw [hcapsule, ownAck_of_pins hpins] at hown
    refine ⟨⟨?_, pendingAck, qc, hown, hqc, hbinds.own⟩, hfinalized, ?_, rfl,
      ⟨hpins.witnessId, hpins.signers, hpins.cancellations⟩⟩
    · rw [← hcapsule, ← hpins.signers]
      exact hwaits.succeeds
    · simp [installed, ConfigCapsuleV3.unfinalized, ← hqc]

/-! ### Chains -/

theorem replay_iff (hcycle : CycleFree crypto circulating) {chain : List ConfigCapsuleV3}
    (h : HonestEntry crypto seed card circulating store.data)
    (hfree : ∀ next, chain.head? = some next → FreeToAdopt store.data next)
    (hchain : ∀ next ∈ chain, next ∈ circulating ∧ Uncancelled store.data next ∧
      validateActivatedCapsuleV3 crypto card next = .ok ()) :
    (∃ store', replay crypto seed card.configId store chain = some store' ∧
        store'.data.capsule = (store.data.capsule :: chain).getLast (List.cons_ne_nil _ _)) ↔
      (store.data.capsule :: chain).IsChain (Adopts crypto seed store.data) := by
  induction chain generalizing store with
  | nil => simp [replay]
  | cons next chain ih =>
    obtain ⟨⟨hnext, hlive, hvalid⟩, hrest⟩ := List.forall_mem_cons.mp hchain
    have hnextFree := hfree next rfl
    rw [List.isChain_cons_cons, List.getLast_cons (List.cons_ne_nil _ _)]
    simp only [replay, Option.bind_eq_bind, Option.bind_eq_some_iff]
    have hstep {installed : Persisted WitnessConfigEntry}
        (hreplay : replayCapsule crypto seed card.configId store next = some installed) :
        (∃ store', replay crypto seed card.configId installed chain = some store' ∧
          store'.data.capsule = (next :: chain).getLast (List.cons_ne_nil _ _)) ↔
        (next :: chain).IsChain (Adopts crypto seed store.data) := by
      obtain ⟨-, hhonest, hcapsule, hnone, hpins⟩ :=
        replayCapsule_leaves hcycle hnext h hnextFree hreplay
      have hlater := ih hhonest (fun _ _ => Or.inl hnone) fun later hmem => by
        obtain ⟨hcirc, hlive, hvalid⟩ := hrest later hmem
        refine ⟨hcirc, ?_, hvalid⟩
        rw [Uncancelled, hpins.cancellations]
        exact hlive
      simp only [hcapsule, adopts_of_pins hpins] at hlater
      exact hlater
    constructor
    · rintro ⟨store', ⟨installed, hreplay, hlater⟩, hlast⟩
      exact ⟨(replayCapsule_leaves hcycle hnext h hnextFree hreplay).1,
        (hstep hreplay).mp ⟨store', hlater, hlast⟩⟩
    · rintro ⟨hadopts, hlater⟩
      obtain ⟨installed, hreplay⟩ :=
        replayCapsule_of_adopts hcycle h hnextFree hlive hvalid hadopts
      obtain ⟨store', hdone, hlast⟩ := (hstep hreplay).mpr hlater
      exact ⟨store', ⟨installed, hreplay, hdone⟩, hlast⟩

/-- Whatever an honest witness has been through, a chain of capsules the client accepts is taken up
to its end exactly if each extends the one before and its QC carries this witness's own ack. -/
theorem lagging_witness_catches_up_iff {adminToken : String} {bearer : Option String}
    {provision : WitnessConfigProvision} {inputs : List WitnessInput}
    (hprovision : witnessProvision crypto seed adminToken bearer false provision = .ok entry)
    (hcard : ProvisionedFor card provision) (hcycle : CycleFree crypto circulating)
    (hcirc : ∀ input ∈ inputs, input.Circulates circulating) {chain : List ConfigCapsuleV3}
    (hchain : ∀ next ∈ chain, next ∈ circulating ∧
      validateActivatedCapsuleV3 crypto card next = .ok ()) :
    let store := (storedWitness crypto seed card.configId).run ⟨entry, entry⟩ inputs
    (∀ next, chain.head? = some next → FreeToAdopt store.data next) →
    (∀ next ∈ chain, Uncancelled store.data next) →
    ((∃ store', replay crypto seed card.configId store chain = some store' ∧
        store'.data.capsule = (store.data.capsule :: chain).getLast (List.cons_ne_nil _ _)) ↔
      (store.data.capsule :: chain).IsChain (Adopts crypto seed store.data)) := by
  intro store hfree hlive
  obtain ⟨hprovisioned, rfl⟩ := witnessProvision_eq_ok hprovision
  have hhonest : HonestEntry crypto seed card circulating store.data :=
    honestEntry_run hcycle hcirc (honestEntry_provisioned hprovisioned hcard)
  refine replay_iff hcycle hhonest hfree fun next hmem => ?_
  obtain ⟨hnext, hvalid⟩ := hchain next hmem
  exact ⟨hnext, hlive next hmem, hvalid⟩

/-! ### The witness that was not asked

The QC of the successor carries the acknowledgements of the witnesses 1 to 3 of four. -/

theorem sampleInstalled_cycleFree : CycleFree Crypto.transparent {sampleInstalled} := by
  intro hash hcycle
  refine sampleChildren_cycleFree hash (Relation.TransGen.mono ?_ _ _ hcycle)
  rintro child parent ⟨capsule, rfl, hbody, hparent⟩
  exact ⟨sampleFirst.capsule, Or.inl rfl, hbody, hparent⟩

example : sampleInstalled.configRef.IsDirectSuccessorOf sampleGenesis.configRef := by
  decide +kernel

/-- The first witness and the fourth, each from the genesis capsule. -/
def sampleReplay (id : UInt16) : Option (Persisted WitnessConfigEntry) :=
  replay Crypto.transparent (sampleWitnessSeed id) 1
    ⟨(sampleProvision 4 id).entry, (sampleProvision 4 id).entry⟩ [sampleInstalled]

theorem sampleReplay_installs :
    ((sampleReplay 1).map (·.data.capsule), (sampleReplay 4).isNone) =
      (some sampleInstalled, true) := by
  decide +kernel

theorem sampleInstalled_valid : ∀ next ∈ [sampleInstalled], next ∈ ({sampleInstalled} : Set _) ∧
    validateActivatedCapsuleV3 Crypto.transparent (sampleCard 4) next = .ok () := by
  intro next hmem
  cases List.mem_singleton.mp hmem
  exact ⟨rfl, by decide +kernel⟩

theorem lagging_witness_catches_up_iff_sample :
    [sampleGenesis, sampleInstalled].IsChain
      (Adopts Crypto.transparent (sampleWitnessSeed 1) (sampleProvision 4 1).entry) := by
  have hiff := @lagging_witness_catches_up_iff Crypto.transparent (sampleWitnessSeed 1) (sampleCard 4)
    {sampleInstalled} _ "admin" (some "admin") (sampleProvision 4 1) []
    (sampleProvision_accepted (by decide)) (sampleProvision_for 1) sampleInstalled_cycleFree
    (by simp) [sampleInstalled] sampleInstalled_valid (fun _ _ => Or.inl rfl)
    (fun _ _ _ _ => by simp [WitnessConfigProvision.entry])
  obtain ⟨store', hreplay, hcapsule⟩ :=
    Option.map_eq_some_iff.mp (Prod.mk.inj sampleReplay_installs).1
  exact hiff.mp ⟨store', hreplay, hcapsule⟩

/-- Two witnesses of four are behind, one of them is not in the QC, and stays behind. -/
theorem lagging_witness_stays_behind :
    ¬∀ (crypto : Crypto) (card : RecoveryCardV3) (circulating : Set ConfigCapsuleV3) (seed : Id32)
      (adminToken : String) (bearer : Option String) (provision : WitnessConfigProvision)
      (entry : WitnessConfigEntry) (inputs : List WitnessInput) (chain : List ConfigCapsuleV3),
      witnessProvision crypto seed adminToken bearer false provision = .ok entry →
      ProvisionedFor card provision → CycleFree crypto circulating →
      (∀ input ∈ inputs, input.Circulates circulating) →
      (∀ next ∈ chain, next ∈ circulating ∧
        validateActivatedCapsuleV3 crypto card next = .ok ()) →
      let store := (storedWitness crypto seed card.configId).run ⟨entry, entry⟩ inputs
      (store.data.capsule :: chain).IsChain (fun active next =>
        next.configRef.IsDirectSuccessorOf active.configRef ∧
          next.predecessorCapsuleHash = active.capsuleHash) →
      (∀ next, chain.head? = some next → FreeToAdopt store.data next) →
      (∀ next ∈ chain, Uncancelled store.data next) →
      ∃ store', replay crypto seed card.configId store chain = some store' ∧
        store'.data.capsule = (store.data.capsule :: chain).getLast (List.cons_ne_nil _ _) := by
  intro hclaim
  obtain ⟨store', hreplay, -⟩ := hclaim Crypto.transparent (sampleCard 4) {sampleInstalled}
    (sampleWitnessSeed 4) "admin" (some "admin") (sampleProvision 4 4) _ [] [sampleInstalled]
    (sampleProvision_accepted (by decide)) (sampleProvision_for 4) sampleInstalled_cycleFree
    (by simp) sampleInstalled_valid
    (List.isChain_cons_cons.mpr ⟨by decide, .singleton _⟩) (fun _ _ => Or.inl rfl)
    (fun _ _ _ _ => by simp [WitnessConfigProvision.entry])
  have hnone := Option.isNone_iff_eq_none.mp (Prod.mk.inj sampleReplay_installs).2
  cases hnone.symm.trans hreplay

end MasterRecovery
