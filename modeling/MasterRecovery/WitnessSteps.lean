import MasterRecovery.WitnessServer
import MasterRecovery.WireBinding

/-!
# What a witness handler can do

One inversion per handler. Everything proved about runs of a witness starts
from these cases; no later proof unfolds a handler.
-/

namespace MasterRecovery
open Checks Transcript Wire

variable {crypto : Crypto} {seed configId : Id32}

/-! ### Provisioning -/

/-- What `witness_provision` has checked. -/
structure Provisioned (crypto : Crypto) (seed : Id32) (provision : WitnessConfigProvision) :
    Prop where
  witnessId : provision.witnessId ≠ 0
  epoch : provision.capsule.configRef.guardianEpoch ≠ 0
  signers : provision.signerPublicKeys.keys.toFinset = signerIds provision.capsule.signerCount
  body : ∃ body, configCapsuleBodyV3 provision.capsule = .ok body ∧
    crypto.sha256 body = provision.capsule.capsuleHash
  roster : requiredWitnessRoster provision.witnessFaultBound ≤ provision.witnessPublicKeys.size
  ownKey : provision.witnessPublicKeys[provision.witnessId]? =
    some (crypto.verifyingKeyBytes seed)
  keys : provision.witnessPublicKeys.values.toFinset.card = provision.witnessPublicKeys.size

theorem witnessProvision_eq_ok {adminToken : String} {bearer : Option String}
    {provisioned : Bool} {provision : WitnessConfigProvision} {entry : WitnessConfigEntry}
    (h : witnessProvision crypto seed adminToken bearer provisioned provision = .ok entry) :
    Provisioned crypto seed provision ∧ entry = provision.entry := by
  simp only [witnessProvision, bailIf_eq_ok, bind_eq_ok, api_eq_ok, wire_eq_ok, exists_const,
    not_or, not_not, not_lt, ne_eq, Except.ok.injEq] at h
  obtain ⟨-, ⟨hid, -, hepoch, -, -⟩, body, hbody, hhash, hsigners, -, -, -, -, -,
    ⟨hroster, hown, hkeys⟩, -, rfl⟩ := h
  exact ⟨⟨hid, hepoch, hsigners, ⟨body, hbody, hhash⟩, hroster, hown, hkeys⟩, rfl⟩

/-! ### Owner rotation cancel -/

/-- The cancel binds the active capsule and carries the owner's signature. -/
structure CancelBinds (crypto : Crypto) (certificate : OwnerRotationCancelCertificate)
    (transcript : Bytes) (entry : WitnessConfigEntry) : Prop where
  configRef : certificate.context.configRef = entry.capsule.configRef
  predecessor : certificate.context.predecessorCapsuleHash = entry.capsule.capsuleHash
  signature : crypto.signatureVerifies entry.capsule.ownerCancelPublicKey transcript
    certificate.ownerSignature = true

/-- The entry with the tombstone of a cancelled rotation. -/
def recordCancel (crypto : Crypto) (certificate : OwnerRotationCancelCertificate)
    (transcript : Bytes) (entry : WitnessConfigEntry) : WitnessConfigEntry :=
  { entry with
    rotationCancellations := entry.rotationCancellations.insert certificate.context.rotationId
      ⟨certificate.planHash, crypto.sha256 transcript⟩ }

inductive CancelOutcome (crypto : Crypto) (certificate : OwnerRotationCancelCertificate)
    (transcript : Bytes) (entry : WitnessConfigEntry) : WitnessConfigEntry → Prop
  | repeated (hseen : certificate.context.rotationId ∈ entry.rotationCancellations) :
    CancelOutcome crypto certificate transcript entry entry
  | recorded (hnew : certificate.context.rotationId ∉ entry.rotationCancellations)
    (hnone : entry.pendingCapsule = none) :
    CancelOutcome crypto certificate transcript entry
      (recordCancel crypto certificate transcript entry)
  | rolledBack (hnew : certificate.context.rotationId ∉ entry.rotationCancellations)
    {pending : ConfigCapsuleV3} (hpending : entry.pendingCapsule = some pending)
    {activation : RotationActivateCertificate}
    (hactivation : pending.activationCertificate = some activation)
    (hrotation : activation.context.rotationId = certificate.context.rotationId)
    (hplan : activation.planHash = certificate.planHash)
    (hlock : entry.register.predecessorLocks[entry.capsule.capsuleHash]? =
      some pending.capsuleHash) :
    CancelOutcome crypto certificate transcript entry
      { recordCancel crypto certificate transcript entry with
        register := { entry.register with
          predecessorLocks := entry.register.predecessorLocks.erase entry.capsule.capsuleHash
          highestGuardianEpoch := entry.capsule.configRef.guardianEpoch
          highestCapsuleHash := entry.capsule.capsuleHash }
        pendingCapsule := none
        pendingAck := none }

theorem cancelEntry_eq_ok {certificate : OwnerRotationCancelCertificate} {transcript : Bytes}
    {entry entry' : WitnessConfigEntry}
    (h : cancelEntry crypto certificate transcript entry = .ok entry') :
    CancelBinds crypto certificate transcript entry ∧
      CancelOutcome crypto certificate transcript entry entry' := by
  simp only [cancelEntry, bind_unit_eq_ok, bailIf_eq_ok, api_eq_ok, crypt_eq_ok,
    Crypto.verify_eq_ok, not_or, not_not, ne_eq] at h
  obtain ⟨⟨href, hpred, -⟩, hsig, h⟩ := h
  refine ⟨⟨href, hpred, hsig⟩, ?_⟩
  cases hseen : entry.rotationCancellations[certificate.context.rotationId]? with
  | some existing =>
    simp only [hseen, bind_unit_eq_ok, Except.ok.injEq] at h
    obtain ⟨-, rfl⟩ := h
    exact .repeated (Std.TreeMap.mem_iff_isSome_getElem?.mpr (by simp [hseen]))
  | none =>
    have hnew : certificate.context.rotationId ∉ entry.rotationCancellations := by
      simp [Std.TreeMap.mem_iff_isSome_getElem?, hseen]
    simp only [hseen] at h
    split at h
    next hpending =>
      cases h
      exact .recorded hnew hpending
    next pending hpending =>
      simp only [bind_eq_ok, exists_const, okOr_eq_ok, bailIf_eq_ok, api_eq_ok,
        stored_eq_ok, WitnessEpochStore.cancelPendingSuccessor_eq_ok, not_or, not_not,
        Except.ok.injEq] at h
      obtain ⟨activation, hactivation, ⟨hrotation, hplan, -⟩, register, ⟨hlocked, rfl⟩, rfl⟩ := h
      exact .rolledBack hnew hpending hactivation hrotation hplan hlocked.2.2.2

/-! ### Activation -/

/-- The certificate binds exactly this capsule. -/
structure CertificateBinds (crypto : Crypto) (configId : Id32)
    (request : WitnessActivationRequest) (activationHash : Id32) : Prop where
  config : request.capsule.configRef.configId = configId
  body : ∃ body, configCapsuleBodyV3 request.capsule = .ok body ∧
    crypto.sha256 body = request.capsule.capsuleHash
  successor : request.activationCertificate.successor = request.capsule.configRef
  successorHash : request.activationCertificate.successorCapsuleHash = request.capsule.capsuleHash
  predecessor : request.capsule.predecessorCapsuleHash =
    request.activationCertificate.context.predecessorCapsuleHash
  certificate : ∃ transcript,
    rotationActivateCertificate request.activationCertificate = .ok transcript ∧
      crypto.sha256 transcript = activationHash

theorem activateChecks_eq_ok {request : WitnessActivationRequest} {activationHash : Id32}
    (h : activateChecks crypto configId request = .ok activationHash) :
    CertificateBinds crypto configId request activationHash := by
  simp only [activateChecks, exists_const, bind_eq_ok, bailIf_eq_ok, api_eq_ok, wire_eq_ok,
    not_or, not_not, ne_eq, Except.ok.injEq] at h
  obtain ⟨hconfig, body, hbody, ⟨hhash, hsucc, hsuccHash, hpred⟩, transcript, htr, rfl⟩ := h
  exact ⟨hconfig, ⟨body, hbody, hhash⟩, hsucc, hsuccHash.trans hhash, hpred, ⟨transcript, htr, rfl⟩⟩

/-- The successor extends the active capsule, keeps its policy, and a signer
threshold of pinned signers voted for it. -/
structure Extends (crypto : Crypto) (request : WitnessActivationRequest)
    (active : ConfigCapsuleV3) (signers : Std.TreeMap UInt16 PublicKey) : Prop where
  configRef : request.activationCertificate.context.configRef = active.configRef
  predecessor : request.capsule.predecessorCapsuleHash = active.capsuleHash
  direct : request.capsule.configRef.IsDirectSuccessorOf active.configRef
  signerCount : request.capsule.signerCount = active.signerCount
  signerThreshold : request.capsule.signerThreshold = active.signerThreshold
  signerSetCommitment : request.capsule.signerSetCommitment = active.signerSetCommitment
  ownerCancelPublicKey :
    request.capsule.ownerCancelPublicKey = active.ownerCancelPublicKey
  minimumRecoveryDelay :
    active.minimumRecoveryDelay ≤ request.capsule.minimumRecoveryDelay
  maxRequestLifetime : request.capsule.maxRequestLifetime = active.maxRequestLifetime
  dpssSuite : request.capsule.dpssSuite = active.dpssSuite
  votes : active.signerThreshold.toNat ≤ request.activationCertificate.votes.length
  pinned : ∀ vote ∈ request.activationCertificate.votes,
    signers[vote.signerId]? = some vote.signerPublicKey ∧
      ∃ transcript, signerRotationActivateVote vote = .ok transcript ∧
        crypto.signatureVerifies vote.signerPublicKey transcript vote.signerSignature = true

theorem lockSuccessor_eq_ok {request : WitnessActivationRequest} {entry : WitnessConfigEntry}
    {register : WitnessEpochStore} (h : lockSuccessor crypto request entry = .ok register) :
    Extends crypto request entry.capsule entry.signerPublicKeys ∧
      entry.register.persistSuccessorBeforeAck entry.capsule.configRef entry.capsule.capsuleHash
        request.capsule.configRef request.capsule.capsuleHash = .ok register := by
  simp only [lockSuccessor, exists_const, bind_eq_ok, bailIf_eq_ok, each_eq_ok, api_eq_ok,
    wire_eq_ok, crypt_eq_ok, stored_eq_ok, Crypto.verify_eq_ok, not_or, not_not, not_lt,
    ne_eq, UInt64.not_lt] at h
  obtain ⟨⟨href, hpred, hcount, hthreshold, hset, howner, hdelay, hlife, -, hvotes⟩,
    hpinned, hpersist⟩ := h
  have hdirect := (WitnessEpochStore.persistSuccessorBeforeAck_eq_ok hpersist).1
  exact ⟨⟨href, hpred, hdirect, hcount, hthreshold, hset, howner, hdelay, hlife,
    DpssSuiteId.eq _ _, hvotes, hpinned⟩, hpersist⟩

/-! ### Finalization -/

/-- The QC binds the pending successor and its own acknowledgement, and a quorum of
pinned witnesses signed it. -/
structure QcBinds (crypto : Crypto) (configId : Id32) (qc : EpochActivationQc)
    (entry : WitnessConfigEntry) (pending : ConfigCapsuleV3)
    (pendingAck : WitnessActivationAck) : Prop where
  pending_eq : entry.pendingCapsule = some pending
  ack_eq : entry.pendingAck = some pendingAck
  live : qc.rotationId ∉ entry.rotationCancellations
  transcript : Succeeds (epochActivationQc qc)
  config : qc.configId = configId
  faultBound : qc.witnessFaultBound = entry.witnessFaultBound
  rotation : qc.rotationId = pendingAck.context.rotationId
  predecessorEpoch : qc.predecessorEpoch = pendingAck.predecessorEpoch
  predecessor : qc.predecessorCapsuleHash = pendingAck.predecessorCapsuleHash
  successorEpoch : qc.successorEpoch = pending.configRef.guardianEpoch
  successor : qc.successorCapsuleHash = pending.capsuleHash
  certificate : qc.activationCertificateHash = pendingAck.activationCertificateHash
  acks : ∀ ack ∈ qc.witnessAcks,
    entry.witnessPublicKeys[ack.witnessId]? = some ack.witnessPublicKey ∧
      ∃ transcript, witnessActivationAck ack = .ok transcript ∧
        crypto.signatureVerifies ack.witnessPublicKey transcript ack.witnessSignature = true
  distinct : (qc.witnessAcks.map (·.witnessId)).Nodup
  quorum : requiredWitnessQuorum entry.witnessFaultBound ≤ qc.witnessAcks.length
  own : pendingAck ∈ qc.witnessAcks

/-- The entry whose pending successor has become active. -/
def installed (qc : EpochActivationQc) (pending : ConfigCapsuleV3) (entry : WitnessConfigEntry) :
    WitnessConfigEntry :=
  { entry with
    capsule := { pending with activationQc := some qc }
    pendingCapsule := none
    pendingAck := none }

theorem finalizeEntry_eq_ok {qc : EpochActivationQc} {entry entry' : WitnessConfigEntry}
    (h : finalizeEntry crypto configId qc entry = .ok entry') :
    ∃ pending pendingAck, QcBinds crypto configId qc entry pending pendingAck ∧
      entry' = installed qc pending entry := by
  simp only [finalizeEntry, bind_eq_ok, exists_const, okOr_eq_ok, bailIf_eq_ok, api_eq_ok,
    wire_eq_ok, scanDistinct_eq_ok, pure_eq_ok, crypt_eq_ok, Crypto.verify_eq_ok, not_or, not_not,
    not_lt, ne_eq, Except.ok.injEq] at h
  obtain ⟨pending, hpending, pendingAck, hack, hlive, qcTranscript, hqc,
    ⟨-, hconfig, hfault, hrotation, hpredEpoch, hpred, hsuccEpoch, hsucc, hcert⟩,
    ids, ⟨hacks, hdistinct, rfl⟩, ⟨hquorum, own, hown, -, rfl⟩, rfl⟩ := h
  rw [List.toFinset_card_of_nodup hdistinct, List.length_map] at hquorum
  refine ⟨pending, own, ⟨hpending, hack, hlive, ⟨qcTranscript, hqc⟩, hconfig, hfault, hrotation,
    hpredEpoch, hpred, hsuccEpoch, hsucc, hcert, ?_, hdistinct, hquorum, hown⟩, rfl⟩
  intro ack hmem
  obtain ⟨-, pinned, hpinned, rfl, transcript, htr, hverify⟩ := hacks ack hmem
  exact ⟨hpinned, transcript, htr, hverify⟩

/-! ### One request -/

def signedCancelAck (crypto : Crypto) (seed : Id32) (certificate : OwnerRotationCancelCertificate)
    (transcript ackTranscript : Bytes) (witnessId : UInt16) : WitnessRotationCancelAck :=
  { cancelAck crypto seed certificate transcript witnessId with
    witnessSignature := crypto.sign seed ackTranscript }

def signedActivationAck (crypto : Crypto) (seed : Id32) (request : WitnessActivationRequest)
    (activationHash : Id32) (ackTranscript : Bytes) (entry : WitnessConfigEntry) :
    WitnessActivationAck :=
  { activationAck crypto seed request activationHash entry with
    witnessSignature := crypto.sign seed ackTranscript }

def signedReadResponse (crypto : Crypto) (seed : Id32) (challenge : EpochReadChallenge)
    (responseTranscript : Bytes) (entry : WitnessConfigEntry) : WitnessEpochReadResponse :=
  { readResponse crypto seed challenge entry with
    witnessSignature := crypto.sign seed responseTranscript }

/-- The entry a fresh activation leaves. -/
def pendingEntry (request : WitnessActivationRequest) (register : WitnessEpochStore)
    (ack : WitnessActivationAck) (entry : WitnessConfigEntry) : WitnessConfigEntry :=
  { entry with
    register := register
    pendingCapsule := some request.storedCapsule
    pendingAck := some ack }

/-- Every way a request can be handled: the entry it leaves in memory, what it
answers, and whether the answer waits for a save. -/
inductive Handled (crypto : Crypto) (seed configId : Id32) (entry : WitnessConfigEntry) :
    WitnessRequest → WitnessConfigEntry → Option WitnessEvent → Bool → Prop
  | refused {request : WitnessRequest} :
    Handled crypto seed configId entry request entry none false
  | cancelled {wallNow : Except String UInt64} {certificate : OwnerRotationCancelCertificate}
    {transcript ackTranscript : Bytes} {entry' : WitnessConfigEntry}
    (htranscript : ownerRotationCancelCertificate certificate = .ok transcript)
    (hconfig : certificate.context.configRef.configId = configId)
    (hbinds : CancelBinds crypto certificate transcript entry)
    (houtcome : CancelOutcome crypto certificate transcript entry entry')
    (hack : witnessRotationCancelAck (cancelAck crypto seed certificate transcript
      entry'.witnessId) = .ok ackTranscript) :
    Handled crypto seed configId entry (.cancelRotation wallNow certificate) entry'
      (some (.cancelled (signedCancelAck crypto seed certificate transcript ackTranscript
        entry'.witnessId) (releasedBy certificate entry))) true
  | retried {request : WitnessActivationRequest} {activationHash : Id32}
    {pending : ConfigCapsuleV3} {ack : WitnessActivationAck}
    (hbinds : CertificateBinds crypto configId request activationHash)
    (hlive : request.activationCertificate.context.rotationId ∉ entry.rotationCancellations)
    (hpending : entry.pendingCapsule = some pending)
    (hsame : pending.capsuleHash = request.capsule.capsuleHash)
    (hack : entry.pendingAck = some ack) :
    Handled crypto seed configId entry (.activate request) entry (some (.acked ack)) false
  | activated {request : WitnessActivationRequest} {activationHash : Id32}
    {register : WitnessEpochStore} {ackTranscript : Bytes}
    (hbinds : CertificateBinds crypto configId request activationHash)
    (hlive : request.activationCertificate.context.rotationId ∉ entry.rotationCancellations)
    (hnone : entry.pendingCapsule = none)
    (hextends : Extends crypto request entry.capsule entry.signerPublicKeys)
    (hpersist : entry.register.persistSuccessorBeforeAck entry.capsule.configRef
      entry.capsule.capsuleHash request.capsule.configRef request.capsule.capsuleHash =
        .ok register)
    (hack : witnessActivationAck (activationAck crypto seed request activationHash entry) =
      .ok ackTranscript) :
    Handled crypto seed configId entry (.activate request)
      (pendingEntry request register
        (signedActivationAck crypto seed request activationHash ackTranscript entry) entry)
      (some (.acked (signedActivationAck crypto seed request activationHash ackTranscript entry)))
      true
  | finalized {qc : EpochActivationQc} {pending : ConfigCapsuleV3}
    {pendingAck : WitnessActivationAck}
    (hbinds : QcBinds crypto configId qc entry pending pendingAck) :
    Handled crypto seed configId entry (.finalize qc) (installed qc pending entry)
      (some (.finalized { pending with activationQc := some qc })) true
  | answered {wallNow : Except String UInt64} {challenge : EpochReadChallenge}
    {responseTranscript : Bytes} (hconfig : challenge.configId = configId)
    (hfresh : challenge.clientNonce ∉ entry.register.seenReadNonces)
    (hresponse : witnessEpochReadResponse (readResponse crypto seed challenge entry) =
      .ok responseTranscript) :
    Handled crypto seed configId entry (.read wallNow challenge)
      { entry with
        register := { entry.register with
          seenReadNonces := insert challenge.clientNonce entry.register.seenReadNonces } }
      (some (.answered ⟨signedReadResponse crypto seed challenge responseTranscript entry,
        entry.capsule⟩)) true

/-- Memory, disk and answer once a handler is done. -/
def settle (save : Except String Unit) (store : Persisted WitnessConfigEntry)
    (entry' : WitnessConfigEntry) (reply : Option WitnessEvent) (saves : Bool) :
    Persisted WitnessConfigEntry × Option WitnessEvent :=
  match saves, save with
  | false, _ => ({ store with data := entry' }, reply)
  | true, .ok () => (⟨entry', entry'⟩, reply)
  | true, .error _ => ({ store with data := entry' }, none)

/-- The outcome of a commit is the settled one. -/
theorem commit_settle {β : Type} (save : Except String Unit) (store : Persisted WitnessConfigEntry)
    (entry' : WitnessConfigEntry) (reply : β) (event : β → WitnessEvent) :
    ((store.commit entry' save reply).2, (store.commit entry' save reply).1.toOption.map event) =
      settle save store entry' (some (event reply)) true := by
  cases save <;> rfl

variable (crypto seed configId) (store : Persisted WitnessConfigEntry)

theorem serve_cancelRotation (hid : store.data.witnessId ≠ 0)
    (wallNow : Except String UInt64) (certificate : OwnerRotationCancelCertificate) :
    ∃ entry' reply saves,
      Handled crypto seed configId store.data (.cancelRotation wallNow certificate) entry' reply
        saves ∧
      ∀ save, serve crypto seed configId save (.cancelRotation wallNow certificate) store =
        settle save store entry' reply saves := by
  simp only [serve, witnessCancelRotation]
  cases hchecks : cancelChecks configId wallNow certificate with
  | error e => exact ⟨store.data, none, false, .refused, fun _ => rfl⟩
  | ok transcript =>
    simp only
    cases hentry : cancelEntry crypto certificate transcript store.data with
    | error e => exact ⟨store.data, none, false, .refused, fun _ => rfl⟩
    | ok entry' =>
      obtain ⟨hbinds, houtcome⟩ := cancelEntry_eq_ok hentry
      simp only [cancelChecks, bind_eq_ok, exists_const, bailIf_eq_ok, api_eq_ok, wire_eq_ok,
        not_or, not_not, ne_eq] at hchecks
      obtain ⟨now, -, ⟨-, hconfig, -⟩, htranscript⟩ := hchecks
      have hid' : entry'.witnessId ≠ 0 := by cases houtcome <;> exact hid
      obtain ⟨ackTranscript, hack⟩ : Succeeds (witnessRotationCancelAck
          (cancelAck crypto seed certificate transcript entry'.witnessId)) :=
        succeeds_witnessRotationCancelAck rfl hid'
      refine ⟨entry', _, true, .cancelled htranscript hconfig hbinds houtcome hack, fun save => ?_⟩
      simp only [hack]
      exact commit_settle save store entry' _ fun ack =>
        .cancelled ack (releasedBy certificate store.data)

theorem serve_activate (request : WitnessActivationRequest) :
    ∃ entry' reply saves,
      Handled crypto seed configId store.data (.activate request) entry' reply saves ∧
      ∀ save, serve crypto seed configId save (.activate request) store =
        settle save store entry' reply saves := by
  simp only [serve, witnessActivate]
  cases hchecks : activateChecks crypto configId request with
  | error e => exact ⟨store.data, none, false, .refused, fun _ => rfl⟩
  | ok activationHash =>
    have hbinds := activateChecks_eq_ok hchecks
    simp only
    by_cases hlive : request.activationCertificate.context.rotationId ∈
        store.data.rotationCancellations
    · simp only [hlive, if_true]
      exact ⟨store.data, none, false, .refused, fun _ => rfl⟩
    simp only [hlive, if_false]
    split
    next pending hpending =>
      by_cases hsame : pending.capsuleHash = request.capsule.capsuleHash
      · simp only [hsame, if_true]
        cases hack : store.data.pendingAck with
        | none => exact ⟨store.data, none, false, .refused, fun _ => rfl⟩
        | some ack =>
          exact ⟨store.data, _, false, .retried hbinds hlive hpending hsame hack, fun _ => rfl⟩
      · simp only [hsame, if_false]
        exact ⟨store.data, none, false, .refused, fun _ => rfl⟩
    next hnone =>
      cases hlock : lockSuccessor crypto request store.data with
      | error e => exact ⟨store.data, none, false, .refused, fun _ => rfl⟩
      | ok register =>
        obtain ⟨hextends, hpersist⟩ := lockSuccessor_eq_ok hlock
        obtain ⟨transcript, htr, -⟩ := hbinds.certificate
        obtain ⟨ackTranscript, hack⟩ : Succeeds (witnessActivationAck
            (activationAck crypto seed request activationHash store.data)) :=
          succeeds_witnessActivationAck (rotationActivateCertificate_context htr)
        refine ⟨_, _, true, .activated hbinds hlive hnone hextends hpersist hack, fun save => ?_⟩
        simp only [hack]
        exact commit_settle save store _ _ .acked

theorem serve_finalize (qc : EpochActivationQc) :
    ∃ entry' reply saves,
      Handled crypto seed configId store.data (.finalize qc) entry' reply saves ∧
      ∀ save, serve crypto seed configId save (.finalize qc) store =
        settle save store entry' reply saves := by
  simp only [serve, witnessFinalize]
  cases hentry : finalizeEntry crypto configId qc store.data with
  | error e => exact ⟨store.data, none, false, .refused, fun _ => rfl⟩
  | ok entry' =>
    obtain ⟨pending, pendingAck, hbinds, rfl⟩ := finalizeEntry_eq_ok hentry
    refine ⟨_, _, true, .finalized hbinds, fun save => ?_⟩
    simp only [Persisted.commit_data]
    exact commit_settle save store _ () fun _ =>
      .finalized { pending with activationQc := some qc }

theorem serve_read (wallNow : Except String UInt64) (challenge : EpochReadChallenge) :
    ∃ entry' reply saves,
      Handled crypto seed configId store.data (.read wallNow challenge) entry' reply saves ∧
      ∀ save, serve crypto seed configId save (.read wallNow challenge) store =
        settle save store entry' reply saves := by
  simp only [serve, witnessRead]
  cases hchecks : readChecks configId wallNow challenge with
  | error e => exact ⟨store.data, none, false, .refused, fun _ => rfl⟩
  | ok u =>
    simp only
    cases hnonce : api (stored (store.data.register.observeReadNonce challenge.clientNonce)) with
    | error e => exact ⟨store.data, none, false, .refused, fun _ => rfl⟩
    | ok register =>
      rw [api_eq_ok, stored_eq_ok, WitnessEpochStore.observeReadNonce_eq_ok] at hnonce
      obtain ⟨hfresh, rfl⟩ := hnonce
      simp only [readChecks, bind_eq_ok, exists_const, bailIf_eq_ok, api_eq_ok, wire_eq_ok,
        not_or, not_not, ne_eq] at hchecks
      obtain ⟨⟨-, hconfig⟩, -⟩ := hchecks
      obtain ⟨responseTranscript, hresponse⟩ : Succeeds (witnessEpochReadResponse
          (readResponse crypto seed challenge store.data)) :=
        succeeds_witnessEpochReadResponse rfl
      refine ⟨_, _, true, .answered hconfig hfresh hresponse, fun save => ?_⟩
      cases save with
      | error e => rfl
      | ok u =>
        dsimp only
        have hresponse' : witnessEpochReadResponse (readResponse crypto seed challenge
            { store.data with register := { store.data.register with
              seenReadNonces := insert challenge.clientNonce store.data.register.seenReadNonces } })
              = .ok responseTranscript := hresponse
        rw [hresponse']
        rfl

/-- Every request is handled in one of the ways above, whatever becomes of the save. -/
theorem serve_handled (hid : store.data.witnessId ≠ 0) (request : WitnessRequest) :
    ∃ entry' reply saves, Handled crypto seed configId store.data request entry' reply saves ∧
      ∀ save, serve crypto seed configId save request store =
        settle save store entry' reply saves := by
  cases request with
  | activate request => exact serve_activate crypto seed configId store request
  | cancelRotation wallNow certificate =>
    exact serve_cancelRotation crypto seed configId store hid wallNow certificate
  | finalize qc => exact serve_finalize crypto seed configId store qc
  | read wallNow challenge => exact serve_read crypto seed configId store wallNow challenge

/-- The same for a witness whose saves succeed. -/
theorem witnessMachine_handled {entry : WitnessConfigEntry} (hid : entry.witnessId ≠ 0)
    (request : WitnessRequest) :
    ∃ saves, Handled crypto seed configId entry request
      ((witnessMachine crypto seed configId).step entry request).1
      ((witnessMachine crypto seed configId).step entry request).2 saves := by
  obtain ⟨entry', reply, saves, hhandled, hserve⟩ :=
    serve_handled crypto seed configId ⟨entry, entry⟩ hid request
  refine ⟨saves, ?_⟩
  simp only [witnessMachine, hserve]
  cases saves <;> exact hhandled

/-! ### Runs -/

section Runs

variable {crypto : Crypto} {seed configId : Id32} {entry entry' : WitnessConfigEntry}
  {request : WitnessRequest} {reply : Option WitnessEvent} {saves : Bool}
  {requests : List WitnessRequest}

/-- No handler changes who the witness is and whom it pins. -/
theorem handled_pins (hstep : Handled crypto seed configId entry request entry' reply saves) :
    entry'.witnessId = entry.witnessId ∧ entry'.signerPublicKeys = entry.signerPublicKeys ∧
      entry'.witnessPublicKeys = entry.witnessPublicKeys ∧
      entry'.witnessFaultBound = entry.witnessFaultBound := by
  cases hstep with
  | cancelled _ _ _ houtcome _ => cases houtcome <;> exact ⟨rfl, rfl, rfl, rfl⟩
  | refused => exact ⟨rfl, rfl, rfl, rfl⟩
  | retried => exact ⟨rfl, rfl, rfl, rfl⟩
  | activated => exact ⟨rfl, rfl, rfl, rfl⟩
  | finalized => exact ⟨rfl, rfl, rfl, rfl⟩
  | answered => exact ⟨rfl, rfl, rfl, rfl⟩

/-- What every handled request keeps holds after every run. -/
theorem run_handled_along
    (Q : WitnessConfigEntry → List WitnessEvent → WitnessRequest → Prop)
    (R : WitnessConfigEntry → List WitnessEvent → Prop) (hid : entry.witnessId ≠ 0)
    (hinit : R entry [])
    (hstep : ∀ entry out request entry' reply saves, R entry out → Q entry out request →
      Handled crypto seed configId entry request entry' reply saves →
      R entry' (out ++ reply.toList))
    (hQ : (witnessMachine crypto seed configId).Along Q entry [] requests) :
    R ((witnessMachine crypto seed configId).run entry requests)
      ((witnessMachine crypto seed configId).outputs entry requests) := by
  refine (Machine.run_invariant _
    (I := fun entry out => entry.witnessId ≠ 0 ∧ R entry out) ⟨hid, hinit⟩ ?_ hQ).2
  rintro entry out request ⟨hid, hout⟩ hQ
  obtain ⟨saves, hhandled⟩ := witnessMachine_handled crypto seed configId hid request
  exact ⟨(handled_pins hhandled).1 ▸ hid, hstep _ _ _ _ _ _ hout hQ hhandled⟩

theorem run_handled (R : WitnessConfigEntry → List WitnessEvent → Prop)
    (hid : entry.witnessId ≠ 0) (hinit : R entry [])
    (hstep : ∀ entry out request entry' reply saves, R entry out →
      Handled crypto seed configId entry request entry' reply saves →
      R entry' (out ++ reply.toList)) :
    R ((witnessMachine crypto seed configId).run entry requests)
      ((witnessMachine crypto seed configId).outputs entry requests) :=
  run_handled_along (fun _ _ _ => True) R hid hinit
    (fun _ _ _ _ _ _ hout _ hhandled => hstep _ _ _ _ _ _ hout hhandled)
    (Machine.along_of_forall _ (fun _ _ => trivial) entry [])

end Runs

end MasterRecovery
