import MasterRecovery.GuardianHandlers
import MasterRecovery.CertificateValidation

/-!
# Preparing and activating a successor (gp-network/src/guardian_runtime.rs)

From the refreshed share to the prepared record, and from there to the active one or to the
end of the rotation.
-/

namespace MasterRecovery
open Checks Transcript Act

variable (crypto : Crypto) (vault : Vault) (node : GuardianNode) (call : GuardianCall)

/-! ### Staging -/

def rosterPosition (roster : List GuardianRouteV3) (guardianIndex : UInt16) : Except String ℕ :=
  okOr (roster.findIdx? fun candidate => candidate.guardianIndex = guardianIndex)
    "successor route is absent"

/-- What the custody commitment of a record covers. -/
def custodyBytes (share fragment : AeadCiphertext) : Bytes :=
  beBytes 24 share.nonce.toNat ++ share.ciphertext ++ beBytes 24 fragment.nonce.toNat ++
    fragment.ciphertext

/-- The policy and the slot a coordinator may hand to this guardian. -/
def StagedPolicyBinds (plan : RotationPlan) (predecessor : ConfigCapsuleV3)
    (newRoute : GuardianRouteV3) (dpssResultCommitment : Id32) (expectedFragmentIndex : UInt16)
    (policy : GuardianPolicyV3) (opaqueSlotId : Id32) (fragmentIndex : UInt16) : Prop :=
  policy.configRef = plan.successor ∧ policy.epochState = .prepared ∧
    policy.predecessorCapsuleHash = predecessor.capsuleHash ∧
    policy.dpssSuite = plan.dpssSuite ∧ policy.dpssPublicCommitment = dpssResultCommitment ∧
    policy.signerSetCommitment = predecessor.signerSetCommitment ∧
    opaqueSlotId = newRoute.opaqueSlotId ∧ fragmentIndex = expectedFragmentIndex

instance (plan : RotationPlan) (predecessor : ConfigCapsuleV3) (newRoute : GuardianRouteV3)
    (dpssResultCommitment : Id32) (expectedFragmentIndex : UInt16) (policy : GuardianPolicyV3)
    (opaqueSlotId : Id32) (fragmentIndex : UInt16) :
    Decidable (StagedPolicyBinds plan predecessor newRoute dpssResultCommitment
      expectedFragmentIndex policy opaqueSlotId fragmentIndex) := by
  unfold StagedPolicyBinds
  infer_instance

/-- The draft of the successor record, and the public package it was refreshed under. -/
def stageDraft (session : GuardianRotationSessionV3) (plan : RotationPlan)
    (predecessor : ConfigCapsuleV3) (newRoute : GuardianRouteV3) (wrapGrant : NewShareWrapGrant)
    (fragmentIndex : UInt16) (ciphertextFragment : Bytes)
    (ciphertextFragmentProof : MerkleProofBytes) (policy : GuardianPolicyV3)
    (opaqueSlotId : Id32) : Except String (StagedGuardianMaterialV3 × Bytes) := do
  let state ← openLocalState crypto vault node session plan newRoute.guardianIndex
  match state with
  | .refreshed share publicPackage => do
    let dpssResultCommitment ← crypt (frostPublicPackageDigest crypto vault.frost publicPackage)
    let fragmentPosition ← rosterPosition plan.newRoster newRoute.guardianIndex
    let expectedFragmentIndex ← lengthU16 (fragmentPosition + 1)
    bailIf (¬StagedPolicyBinds plan predecessor newRoute dpssResultCommitment
      expectedFragmentIndex policy opaqueSlotId fragmentIndex)
      "successor policy or opaque slot does not bind the exact DPSS result"
    (verifyCiphertextFragment crypto predecessor.ciphertextFragmentRoot
      plan.successor.configId plan.successor.payloadGeneration fragmentIndex plan.totalShards
      ciphertextFragment ciphertextFragmentProof).mapError fun _ =>
        "successor ciphertext fragment is not committed by the predecessor payload"
    let keys ← openNewKeys crypto vault node plan newRoute.guardianIndex wrapGrant
    let shareContext ← wire (Wire.guardianShareContextV3 plan.successor newRoute.guardianIndex)
    let encryptedDekShare ← crypt (vault.aeadEncrypt keys.1 (call.random 0).nonce share
      shareContext)
    let fragmentContext ← wire (Wire.guardianFragmentContextV3 plan.successor
      newRoute.guardianIndex fragmentIndex)
    let encryptedCiphertextFragment ← crypt (vault.aeadEncrypt keys.2 (call.random 1).nonce
      ciphertextFragment fragmentContext)
    let policyBody ← wire (Wire.guardianPolicyBodyV3 policy)
    let custody ← crypt (custodyRoot crypto
      (custodyBytes encryptedDekShare encryptedCiphertextFragment))
    .ok ({
      recordDraft :=
        { opaqueSlotId := opaqueSlotId
          guardianIndex := newRoute.guardianIndex
          fragmentIndex := fragmentIndex
          encryptedCiphertextFragment := encryptedCiphertextFragment
          encryptedDekShare := encryptedDekShare
          merklePathProof := []
          custodyRoot := custody
          policy := policy }
      leaf :=
        { guardianIndex := newRoute.guardianIndex
          fragmentIndex := fragmentIndex
          opaqueSlotId := opaqueSlotId
          encryptedShareHash := hashAead crypto encryptedDekShare
          fragmentHash := hashAead crypto encryptedCiphertextFragment
          policyHash := crypto.sha256 policyBody }
      dpssResultCommitment := dpssResultCommitment }, publicPackage)
  | _ => .error "guardian has not finalized its refresh share"

def stageMaterial (plan : RotationPlan) (wrapGrant : NewShareWrapGrant) (fragmentIndex : UInt16)
    (ciphertextFragment : Bytes) (ciphertextFragmentProof : MerkleProofBytes)
    (policy : GuardianPolicyV3) (opaqueSlotId : Id32) :
    Act GuardianRotationEntryV3 GuardianRotationResponseV3 := do
  let entry ← get
  let newRoute ← check (guardianRoute entry plan true)
  sessionMut crypto plan do
    let session ← get
    let drafted ← check (stageDraft crypto vault node call session plan
      entry.provision.predecessorCapsule newRoute wrapGrant fragmentIndex ciphertextFragment
      ciphertextFragmentProof policy opaqueSlotId)
    modify fun session =>
      { session with encryptedLocalState := none, stagedMaterial := some drafted.1 }
    pure (.refreshMaterialStaged drafted.1.leaf drafted.2 drafted.1.dpssResultCommitment)

/-! ### Preparing -/

/-- The record to prepare, and the journal kept with it. -/
def preparedRecord (plan : RotationPlan) (planHash : Id32) (route : GuardianRouteV3)
    (staged : StagedGuardianMaterialV3) (guardianMaterialRoot : Id32)
    (merklePathProof : MerkleProofBytes) (dpssResultCommitment : Id32) :
    Except String (GuardianRecordV3 × DpssSessionJournal) := do
  let leafTranscript ← wire (Wire.preparedRecordLeafV3 staged.leaf)
  let position ← rosterPosition plan.newRoster route.guardianIndex
  bailIf (staged.dpssResultCommitment ≠ dpssResultCommitment ∨ guardianMaterialRoot = 0)
    "durable successor record differs from locally staged material"
  crypt (crypto.merkleVerify guardianMaterialRoot (crypto.sha256 leafTranscript) position
    plan.newRoster.length merklePathProof)
  let draft := staged.recordDraft
  bailIf (draft.guardianIndex ≠ route.guardianIndex ∨
    draft.fragmentIndex ≠ staged.leaf.fragmentIndex ∨ draft.opaqueSlotId ≠ route.opaqueSlotId ∨
    draft.policy.configRef ≠ plan.successor ∨
    draft.policy.dpssPublicCommitment ≠ dpssResultCommitment)
    "locally staged successor record is inconsistent"
  let custody ← crypt (custodyRoot crypto
    (custodyBytes draft.encryptedDekShare draft.encryptedCiphertextFragment))
  bailIf (custody ≠ draft.custodyRoot) "successor custody commitment is invalid"
  let context ← localJournalContext plan route.guardianIndex
  let secretJournal ← crypt (sealLocalRotationJournal crypto vault node.identitySeed
    (call.random 0).nonce "dpss-complete".toUTF8.data.toList context)
  .ok ({ draft with
      merklePathProof := merklePathProof
      policy := { draft.policy with guardianMaterialRoot := guardianMaterialRoot } },
    { rotationId := plan.context.rotationId
      planHash := planHash
      sessionId := plan.dpssSessionId
      qualifiedSetDigest := plan.dpssQualifiedSetCommitment
      phase := 6
      nextSequence := 1
      providerPublicJournal := idBytes dpssResultCommitment
      encryptedProviderSecretJournal := secretJournal })

def prepareCommit (plan : RotationPlan) (guardianMaterialRoot : Id32)
    (merklePathProof : MerkleProofBytes) (dpssResultCommitment : Id32) :
    Act GuardianRotationEntryV3 GuardianRotationResponseV3 := do
  let entry ← get
  let route ← check (guardianRoute entry plan true)
  let session ← check (openSession crypto entry plan)
  let staged ← check (okOr session.stagedMaterial "guardian has no staged successor material")
  let out ← check (preparedRecord crypto vault node call plan session.planHash route staged
    guardianMaterialRoot merklePathProof dpssResultCommitment)
  let prepared ← check (storage (entry.provision.epochStore.prepareSuccessor
    plan.context.rotationId session.planHash out.1 out.2))
  modify fun entry => entry.withStore prepared.2
  let response ← check (signed crypto entry.provision.signingSeed Wire.newGuardianPreparedAck
    (fun ack signature => { ack with guardianSignature := signature }) .prepared
    { context := plan.context
      planHash := session.planHash
      dpssResultCommitment := dpssResultCommitment
      guardianMaterialRoot := guardianMaterialRoot
      newGuardianIndex := route.guardianIndex
      preparedRecordLeaf := staged.leaf
      durableWriteGeneration := prepared.1
      guardianSignature := [] })
  let entry ← get
  let session ← check (okOr entry.sessions[plan.context.rotationId]?
    "rotation session disappeared during prepare")
  modify fun entry => entry.putSession plan.context.rotationId
    { session with stagedMaterial := none }
  pure response

def handoffComplete (plan : RotationPlan) (dpssResultCommitment : Id32) :
    Act GuardianRotationEntryV3 GuardianRotationResponseV3 := do
  let entry ← get
  let route ← check (guardianRoute entry plan false)
  sessionMut crypto plan do
    modify fun session => { session with encryptedLocalState := none }
    let session ← get
    check (signed crypto entry.provision.signingSeed Wire.oldGuardianHandoffAck
      (fun ack signature => { ack with guardianSignature := signature }) .handoff
      { context := plan.context
        planHash := session.planHash
        dpssResultCommitment := dpssResultCommitment
        qualifiedSetCommitment := plan.dpssQualifiedSetCommitment
        oldGuardianIndex := route.guardianIndex
        guardianSignature := [] })

/-! ### Activating -/

/-- Unreleased requests for the epoch the guardian takes to be the predecessor. -/
def pendingOldRecoveryIds (entry : GuardianRotationEntryV3) : Finset Id32 :=
  ((entry.recoveries.values.filter fun pending =>
    pending.request.configRef = entry.provision.predecessorCapsule.configRef ∧
      pending.cancelled = false ∧ pending.released = false).map (·.request.requestId)).toFinset

/-- The activated capsule carries this guardian's prepared record. -/
def BindsPrepared (record : GuardianRecordV3) (capsule : ConfigCapsuleV3) : Prop :=
  record.policy.configRef = capsule.configRef ∧
    record.policy.guardianMaterialRoot = capsule.guardianMaterialRoot ∧
    record.policy.dpssPublicCommitment = capsule.dpssPublicCommitment

instance (record : GuardianRecordV3) (capsule : ConfigCapsuleV3) :
    Decidable (BindsPrepared record capsule) := by
  unfold BindsPrepared
  infer_instance

/-- What the activated capsule must bind; its QC, the QC's hash and the plan's. -/
def activationChecks (entry : GuardianRotationEntryV3) (plan : RotationPlan)
    (capsule : ConfigCapsuleV3) : Except String (EpochActivationQc × Id32 × Id32) := do
  validateActivatedCapsuleV3 crypto entry.provision.recoveryCard capsule
  let qc ← okOr capsule.activationQc "activated successor capsule has no QC"
  let qcTranscript ← wire (Wire.epochActivationQc qc)
  let planHash ← hashPlan crypto plan
  let mismatch := "activation QC/capsule does not bind the exact plan"
  bailIf (capsule.configRef ≠ plan.successor ∨
    capsule.predecessorCapsuleHash ≠ entry.provision.predecessorCapsule.capsuleHash ∨
    capsule.ciphertextFragmentRoot ≠ entry.provision.predecessorCapsule.ciphertextFragmentRoot)
    mismatch
  let count ← lengthU16 plan.newRoster.length
  bailIf (capsule.guardianCount ≠ count ∨ capsule.guardianThreshold ≠ plan.newGuardianThreshold ∨
    capsule.dpssSuite ≠ plan.dpssSuite ∨ qc.rotationId ≠ plan.context.rotationId) mismatch
  if (guardianRoute entry plan true).isOk then do
    let prepared ← okOr entry.provision.epochStore.prepared
      "successor guardian has no locally prepared record"
    bailIf (¬BindsPrepared prepared.record capsule)
      "activated capsule differs from the guardian's prepared record"
    .ok (qc, crypto.sha256 qcTranscript, planHash)
  else .ok (qc, crypto.sha256 qcTranscript, planHash)

/-- The machine's way to the activated state. The delay is taken to be over. -/
def activateMachine (count : UInt16) (drainDeadline : UInt64) :
    Act GuardianRotationSessionV3 Unit := do
  let session ← get
  advanceToPreparing session.notBeforeMonotonic
  applyEvent (.preparationComplete count count true true)
  applyEvent (.activationAuthorized true true)
  applyEvent (.witnessQcObserved true true drainDeadline)

/-- What the QC does to the store of a guardian that stays or joins, or of one that leaves. -/
def activateStore (entry : GuardianRotationEntryV3) (plan : RotationPlan)
    (qc : EpochActivationQc × Id32 × Id32) (drainDeadline : UInt64) :
    EStateM StorageError GuardianEpochStore Unit :=
  if (guardianRoute entry plan true).isOk then
    GuardianEpochStore.activateSuccessor plan.context.rotationId qc.2.2 qc.1 qc.2.1 drainDeadline
      (pendingOldRecoveryIds entry)
  else
    GuardianEpochStore.observeReplacementActivation plan.context.rotationId qc.2.2 qc.1 qc.2.1
      drainDeadline (pendingOldRecoveryIds entry)

def guardianActivate (plan : RotationPlan) (activatedCapsule : ConfigCapsuleV3)
    (drainDeadline : UInt64) : Act GuardianRotationEntryV3 GuardianRotationResponseV3 := do
  let entry ← get
  let qc ← check (activationChecks crypto entry plan activatedCapsule)
  sessionMut crypto plan
    (activateMachine (UInt16.ofNat plan.newRoster.length) drainDeadline)
  onStore (activateStore entry plan qc drainDeadline)
  modify fun entry =>
    { entry with provision := { entry.provision with predecessorCapsule := activatedCapsule } }
  modify fun entry => entry.dropSession plan.context.rotationId
  pure (.activated plan.successor.guardianEpoch)

/-! ### Ending -/

def guardianAbort (plan : RotationPlan) (certificate : AbortRotationCertificate) :
    Act GuardianRotationEntryV3 GuardianRotationResponseV3 := do
  let entry ← get
  let _ ← check (validateAbortRotationCertificateV3 crypto certificate plan
    entry.provision.predecessorCapsule call.wallNow)
  let planHash ← check (hashPlan crypto plan)
  sessionMut crypto plan (applyEvent (.abortObserved true))
  updateStore fun store => store.abortPrepared plan.context.rotationId planHash
  modify fun entry => entry.dropSession plan.context.rotationId
  pure .aborted

/-- The draining epoch a notice retires, and the QC hash it must carry. -/
def retireChecks (store : GuardianEpochStore) (notice : RetirementNotice)
    (monotonicNow : UInt64) : Except String (Id32 × UInt16) := do
  let qc ← okOr store.activationQc "guardian has not observed an activation QC"
  let transcript ← wire (Wire.epochActivationQc qc)
  let qcHash := crypto.sha256 transcript
  bailIf (notice.activationQcHash ≠ qcHash ∨ notice.retiredEpoch ≠ qc.predecessorEpoch ∨
    monotonicNow < notice.drainDeadline) "retirement notice is early or QC-mismatched"
  let draining ← okOr store.draining[notice.retiredEpoch]? "retired epoch is not draining"
  .ok (qcHash, draining.record.guardianIndex)

/-- The clock is the one the request states. -/
def guardianRetire (notice : RetirementNotice) (monotonicNow : UInt64) :
    Act GuardianRotationEntryV3 GuardianRotationResponseV3 := do
  let entry ← get
  let out ← check (retireChecks crypto entry.provision.epochStore notice monotonicNow)
  let retired ← check (storage (entry.provision.epochStore.retireEpoch notice.retiredEpoch
    monotonicNow))
  modify fun entry => entry.withStore retired.2
  check (signed crypto entry.provision.signingSeed Wire.retirementAck
    (fun ack signature => { ack with guardianSignature := signature }) .retired
    { context := notice.context
      planHash := notice.planHash
      activationQcHash := out.1
      guardianIndex := out.2
      retiredEpoch := notice.retiredEpoch
      tombstoneHash := retired.1
      guardianSignature := [] })

/-! ### Dispatch -/

/-- The handler of a request that has passed the gate. -/
def guardianDispatch : GuardianRotationRequestV3 →
    Act GuardianRotationEntryV3 GuardianRotationResponseV3
  | .begin plan certificate => guardianBegin crypto vault node call plan certificate
  | .cancel plan certificate => guardianCancel crypto call plan certificate
  | .repairRound1 plan beginCertificate releaseCertificate unlockGrant helperIds replacementId =>
    repairRound1 crypto vault node call plan beginCertificate releaseCertificate unlockGrant
      helperIds replacementId
  | .repairRound2 plan incoming replacementId =>
    repairRound2 crypto vault node call plan incoming replacementId
  | .repairFinalize plan incoming oldPublicPackage =>
    repairFinalize crypto vault node call plan incoming oldPublicPackage
  | .refreshRound1 plan beginCertificate releaseCertificate oldShareGrant =>
    refreshRound1 crypto vault node call plan beginCertificate releaseCertificate oldShareGrant
  | .refreshRound2 plan incoming => refreshRound2 crypto vault node call plan incoming
  | .refreshFinalize plan incoming oldPublicPackage =>
    refreshFinalize crypto vault node call plan incoming oldPublicPackage
  | .stageMaterial plan wrapGrant fragmentIndex ciphertextFragment ciphertextFragmentProof policy
      opaqueSlotId =>
    stageMaterial crypto vault node call plan wrapGrant fragmentIndex ciphertextFragment
      ciphertextFragmentProof policy opaqueSlotId
  | .prepareCommit plan guardianMaterialRoot merklePathProof dpssResultCommitment =>
    prepareCommit crypto vault node call plan guardianMaterialRoot merklePathProof
      dpssResultCommitment
  | .handoffComplete plan dpssResultCommitment => handoffComplete crypto plan dpssResultCommitment
  | .activate plan activatedCapsule drainDeadline =>
    guardianActivate crypto plan activatedCapsule drainDeadline
  | .abort plan certificate => guardianAbort crypto call plan certificate
  | .retire notice monotonicNow => guardianRetire crypto notice monotonicNow

def handleGuardianRotationV3 (request : GuardianRotationRequestV3) :
    Act GuardianRotationEntryV3 GuardianRotationResponseV3 := do
  let entry ← get
  check (guardianContextGate entry request.context call.wallNow)
  guardianDispatch crypto vault node call request

end MasterRecovery
