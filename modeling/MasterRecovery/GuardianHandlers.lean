import MasterRecovery.GuardianRuntime

/-!
# Guardian rotation requests (gp-network/src/guardian_runtime.rs)

One handler for each request, and the context gate in front of them.
-/

namespace MasterRecovery
open Checks Transcript Act

variable (crypto : Crypto) (vault : Vault) (node : GuardianNode) (call : GuardianCall)

/-! ### Begin and Cancel -/

def guardianContextGate (entry : GuardianRotationEntryV3) (context : RotationContext)
    (wallNow : UInt64) : Except String Unit :=
  bailIf (context.protocolVersion ≠ protocolVersionV3 ∨
    context.configRef.configId ≠ entry.provision.predecessorCapsule.configRef.configId ∨
    wallNow < context.issuedAt ∨ context.expiry ≤ wallNow ∨
    context.recipientKey.length ≠ xwingPublicKeyLen)
    "guardian rejected malformed or expired rotation context"

def guardianBegin (plan : RotationPlan) (certificate : BeginRotationCertificate) :
    Act GuardianRotationEntryV3 GuardianRotationResponseV3 := do
  let entry ← get
  let beginHash ← check (validateBeginRotationCertificateV3 crypto certificate plan
    entry.provision.predecessorCapsule call.wallNow)
  check (bailIf (¬Participates entry plan) "guardian is not a participant in this rotation")
  check (bailIf (∃ route ∈ plan.oldRoster ++ plan.newRoster,
    route.guardianPublicKey = entry.provision.signingPublicKey ∧
      route.sessionRecipientKey ≠ vault.recipientPublicKey node.identitySeed)
    "plan substituted this guardian's DPSS session recipient key")
  let planHash ← check (hashPlan crypto plan)
  let rotationId := plan.context.rotationId
  check (bailIf (rotationId ∈ entry.provision.epochStore.rotationTombstones)
    "guardian permanently rejected this completed or cancelled rotation id")
  match entry.sessions[rotationId]? with
  | some existing => do
    check (bailIf (existing.planHash ≠ planHash ∨ existing.beginCertificateHash ≠ beginHash)
      "guardian is already locked to another plan for this rotation id")
    pure (.beginAccepted existing.notBeforeMonotonic)
  | none => do
    let delay := if node.allowInsecureDemoDelay then min plan.minimumDelaySecs 2
      else plan.minimumDelaySecs
    let machine ← check ((RotationMachine.new rotationId planHash plan.predecessor
      plan.successor).mapError RotationError.text)
    let begun ← check ((machine.apply (.beginAccepted call.monotonicNow delay true)).mapError
      RotationError.text)
    let notBefore ← check (okOr begun.2.notBefore "rotation machine did not persist its delay")
    modify fun entry => entry.putSession rotationId
      { rotationMachine := begun.2
        planHash := planHash
        beginCertificateHash := beginHash
        acceptedWallTime := call.wallNow
        startedMonotonic := call.monotonicNow
        notBeforeMonotonic := notBefore
        bootId := call.bootId
        cancelled := false
        nextOutgoingSequences := ∅
        nextIncomingSequences := ∅
        encryptedLocalState := none
        stagedMaterial := none }
    pure (.beginAccepted notBefore)

/-- What an owner's cancellation must bind before anything is touched; the plan's hash. -/
def guardianCancelChecks (entry : GuardianRotationEntryV3) (plan : RotationPlan)
    (certificate : OwnerRotationCancelCertificate) (wallNow : UInt64) :
    Except String (Id32 × Id32) := do
  let planHash ← validateRotationPlanV3 crypto plan entry.provision.predecessorCapsule wallNow
  bailIf (certificate.context ≠ plan.context ∨ certificate.planHash ≠ planHash ∨
    certificate.ownerCancelPublicKey ≠
      entry.provision.predecessorCapsule.ownerCancelPublicKey ∨
    certificate.cancelResponseRecipientKey.length ≠ xwingPublicKeyLen)
    "owner rotation cancellation is plan-mismatched"
  let transcript ← wire (Wire.ownerRotationCancelCertificate certificate)
  crypt (crypto.verify certificate.ownerCancelPublicKey transcript certificate.ownerSignature)
  bailIf (¬Participates entry plan) "guardian is not a participant in this cancelled rotation"
  .ok (planHash, crypto.sha256 transcript)

/-- The session of a rotation the owner has vetoed. -/
def cancelSession : Act GuardianRotationSessionV3 Unit := do
  let session ← get
  if session.cancelled then pure () else applyEvent (.ownerCancelObserved true)
  modify fun session =>
    { session with cancelled := true, encryptedLocalState := none, stagedMaterial := none }

/-- Give up whatever the guardian holds for the rotation: nothing, a session, or a tombstone. -/
def cancelRotation (plan : RotationPlan) (planHash : Id32) : Act GuardianRotationEntryV3 Unit := do
  let entry ← get
  let rotationId := plan.context.rotationId
  match entry.provision.epochStore.rotationTombstones[rotationId]? with
  | some tombstone =>
    check (bailIf (tombstone.planHash ≠ planHash ∨ tombstone.terminalState ≠ .aborted)
      "rotation id already has a conflicting terminal state")
  | none =>
    match entry.sessions[rotationId]? with
    | some session => onSession rotationId session cancelSession
    | none => do
      let machine ← check ((RotationMachine.new rotationId planHash plan.predecessor
        plan.successor).mapError RotationError.text)
      let _ ← check ((machine.apply (.ownerCancelObserved true)).mapError RotationError.text)
      pure ()

/-- The guardian's own index: its active record's, else its place in the new roster. -/
def cancelIndex (entry : GuardianRotationEntryV3) (plan : RotationPlan) : Option UInt16 :=
  match entry.provision.epochStore.active with
  | some record => some record.guardianIndex
  | none => (guardianRoute entry plan true).toOption.map (·.guardianIndex)

def guardianCancel (plan : RotationPlan) (certificate : OwnerRotationCancelCertificate) :
    Act GuardianRotationEntryV3 GuardianRotationResponseV3 := do
  let entry ← get
  let hashes ← check (guardianCancelChecks crypto entry plan certificate call.wallNow)
  cancelRotation plan hashes.1
  updateStore fun store => store.abortPrepared plan.context.rotationId hashes.1
  modify fun entry => entry.dropSession plan.context.rotationId
  let entry ← get
  let guardianIndex ← check (okOr (cancelIndex entry plan)
    "cancel recipient has no guardian index")
  check (signed crypto entry.provision.signingSeed Wire.ownerRotationCancelAck
    (fun ack signature => { ack with guardianSignature := signature }) .cancelled
    { context := plan.context
      planHash := hashes.1
      cancelCertificateHash := hashes.2
      guardianIndex := guardianIndex
      guardianSignature := [] })

/-! ### Repair -/

/-- The leaf an active record was committed under. -/
def recordLeaf (record : GuardianRecordV3) : Except String PreparedRecordLeaf := do
  let policyBody ← wire (Wire.guardianPolicyBodyV3 record.policy)
  .ok { guardianIndex := record.guardianIndex
        fragmentIndex := record.fragmentIndex
        opaqueSlotId := record.opaqueSlotId
        encryptedShareHash := hashAead crypto record.encryptedDekShare
        fragmentHash := hashAead crypto record.encryptedCiphertextFragment
        policyHash := crypto.sha256 policyBody }

/-- A delta for each helper; the guardian's own stays with it. -/
def dealRepair (plan : RotationPlan) (beginCertificate : BeginRotationCertificate)
    (releaseHash : Id32) (signingSeed : Id32) (ownIndex : UInt16) (oldShare fragment : Bytes)
    (record : GuardianRecordV3) (leaf : PreparedRecordLeaf) (helperIds : List UInt16)
    (replacementId : UInt16) : Act GuardianRotationSessionV3 GuardianRotationResponseV3 := do
  let session ← get
  let beginTranscript ← check (wire (Wire.beginRotationCertificate beginCertificate))
  check (bailIf (session.beginCertificateHash ≠ crypto.sha256 beginTranscript ∨
    session.bootId ≠ call.bootId ∨ call.monotonicNow < session.notBeforeMonotonic)
    "guardian delay is incomplete or reboot-ambiguous")
  advanceToPreparing call.monotonicNow
  let deltas ← check (crypt (beginOldShare vault.frost oldShare helperIds replacementId
    (call.random 0).id))
  let selfDelta ← check (okOr (deltas.lookup ownIndex)
    "RTS provider omitted the helper's own delta")
  saveLocalState crypto vault node (call.random 1).nonce plan ownIndex
    (.repairDealer oldShare selfDelta)
  let deliveries ← collect (fun delta : (UInt16 × Bytes) × ℕ => do
      let target ← check (okOr (plan.oldRoster.find? fun route => route.guardianIndex = delta.1.1)
        "RTS helper is not in the old roster")
      makeDelivery crypto vault (call.random (2 + delta.2)) signingSeed plan ownIndex target
        .repairRound1 delta.1.2)
    (deltas.filter fun delta => delta.1 ≠ ownIndex).zipIdx
  let session ← get
  check (signed crypto signingSeed Wire.ciphertextFragmentContribution
    (fun contribution signature => { contribution with guardianSignature := signature })
    (fun contribution => .dpssDeliveries deliveries (some contribution))
    { context := plan.context
      planHash := session.planHash
      releaseCertificateHash := releaseHash
      oldGuardianIndex := ownIndex
      fragmentIndex := record.fragmentIndex
      ciphertextFragment := fragment
      fragmentCommitment := crypto.sha256 fragment
      preparedRecordLeaf := leaf
      merklePathProof := record.merklePathProof
      guardianSignature := [] })

def repairRound1 (plan : RotationPlan) (beginCertificate : BeginRotationCertificate)
    (releaseCertificate : RotationReleaseCertificate) (unlockGrant : OldShareUnlockGrant)
    (helperIds : List UInt16) (replacementId : UInt16) :
    Act GuardianRotationEntryV3 GuardianRotationResponseV3 := do
  let entry ← get
  let releaseHash ← check (validateRotationReleaseCertificateV3 crypto releaseCertificate
    beginCertificate plan entry.provision.predecessorCapsule call.wallNow)
  let oldRoute ← check (guardianRoute entry plan false)
  let material ← check (openOldMaterial crypto vault node entry plan unlockGrant releaseHash)
  let record ← check (okOr entry.provision.epochStore.active
    "old guardian has no active record")
  let leaf ← check (recordLeaf crypto record)
  sessionMut crypto plan (dealRepair crypto vault node call plan beginCertificate releaseHash
    entry.provision.signingSeed oldRoute.guardianIndex material.1 material.2 record leaf helperIds
    replacementId)

/-- The deltas of the helpers and the guardian's own become its sigma for the replacement. -/
def sumRepair (plan : RotationPlan) (incoming : List SealedMessage) (signingSeed : Id32)
    (oldRoute replacement : GuardianRouteV3) :
    Act GuardianRotationSessionV3 GuardianRotationResponseV3 := do
  let opened ← openDeliveries crypto vault node plan oldRoute plan.oldRoster .repairRound1 ∅
    incoming
  let session ← get
  let state ← check (openLocalState crypto vault node session plan oldRoute.guardianIndex)
  match state with
  | .repairDealer oldShare selfDelta => do
    let sigma ← check (crypt (frostRepairPart2 vault.frost (opened.map Prod.snd ++ [selfDelta])))
    saveLocalState crypto vault node (call.random 0).nonce plan oldRoute.guardianIndex
      (.oldShare oldShare)
    let delivery ← makeDelivery crypto vault (call.random 1) signingSeed plan
      oldRoute.guardianIndex replacement .repairRound2 sigma
    pure (.dpssDeliveries [delivery] none)
  | _ => check (.error "guardian is not in RTS repair-dealer state")

def repairRound2 (plan : RotationPlan) (incoming : List SealedMessage) (replacementId : UInt16) :
    Act GuardianRotationEntryV3 GuardianRotationResponseV3 := do
  let entry ← get
  let oldRoute ← check (guardianRoute entry plan false)
  let replacement ← check (okOr
    (plan.newRoster.find? fun route => route.guardianIndex = replacementId)
    "replacement is not in the successor roster")
  sessionMut crypto plan (sumRepair crypto vault node call plan incoming
    entry.provision.signingSeed oldRoute replacement)

/-- The replacement's share from the helpers' sigmas. The delay is taken to be over. -/
def assembleRepair (plan : RotationPlan) (incoming : List SealedMessage)
    (oldPublicPackage : Bytes) (newRoute : GuardianRouteV3) :
    Act GuardianRotationSessionV3 GuardianRotationResponseV3 := do
  let opened ← openDeliveries crypto vault node plan newRoute plan.oldRoster .repairRound2 ∅
    incoming
  check (bailIf (opened.length < plan.oldGuardianThreshold.toNat)
    "RTS finalization lacks an old-guardian threshold")
  let session ← get
  advanceToPreparing session.notBeforeMonotonic
  let share ← check (crypt (finalizeNewShare vault.frost (opened.map Prod.snd)
    newRoute.guardianIndex oldPublicPackage))
  let expandedPublicPackage ← check (crypt (frostPublicAddRepairedShare vault.frost
    oldPublicPackage share))
  let participant ← check (crypt (frostVerifyShare vault.frost share expandedPublicPackage))
  check (bailIf (participant ≠ newRoute.guardianIndex)
    "RTS replacement share has the wrong participant id")
  saveLocalState crypto vault node (call.random 0).nonce plan newRoute.guardianIndex
    (.repaired share)
  pure (.repairStored newRoute.guardianIndex expandedPublicPackage)

def repairFinalize (plan : RotationPlan) (incoming : List SealedMessage)
    (oldPublicPackage : Bytes) : Act GuardianRotationEntryV3 GuardianRotationResponseV3 := do
  let entry ← get
  let newRoute ← check (guardianRoute entry plan true)
  sessionMut crypto plan (assembleRepair crypto vault node call plan incoming oldPublicPackage
    newRoute)

/-! ### Refresh -/

/-- The share to refresh: the old record's under a grant, else the one repaired here. -/
def refreshShare (entry : GuardianRotationEntryV3) (plan : RotationPlan)
    (beginCertificate : Option BeginRotationCertificate)
    (releaseCertificate : Option RotationReleaseCertificate)
    (oldShareGrant : Option OldShareUnlockGrant) (newIndex : UInt16) : Except String Bytes :=
  match oldShareGrant with
  | some grant => do
    let begun ← okOr beginCertificate "unchanged guardian refresh lacks Begin certificate"
    let release ← okOr releaseCertificate "unchanged guardian refresh lacks Release certificate"
    let releaseHash ← validateRotationReleaseCertificateV3 crypto release begun plan
      entry.provision.predecessorCapsule call.wallNow
    let material ← openOldMaterial crypto vault node entry plan grant releaseHash
    .ok material.1
  | none => do
    let session ← openSession crypto entry plan
    let state ← openLocalState crypto vault node session plan newIndex
    match state with
    | .repaired share => .ok share
    | _ => .error "candidate has no locally finalized RTS share"

def dealRefresh (plan : RotationPlan) (signingSeed : Id32) (newRoute : GuardianRouteV3)
    (share : Bytes) : Act GuardianRotationSessionV3 GuardianRotationResponseV3 := do
  let session ← get
  check (bailIf (session.bootId ≠ call.bootId ∨ call.monotonicNow < session.notBeforeMonotonic)
    "guardian refresh delay is incomplete or reboot-ambiguous")
  advanceToPreparing call.monotonicNow
  let total ← check (lengthU16 plan.newRoster.length)
  let refresh ← check (crypt (frostRefreshPart1 vault.frost newRoute.guardianIndex
    plan.newGuardianThreshold total (call.random 0).id))
  saveLocalState crypto vault node (call.random 1).nonce plan newRoute.guardianIndex
    (.refreshRound1 share refresh.secretState)
  let deliveries ← collect (fun target : GuardianRouteV3 × ℕ =>
      makeDelivery crypto vault (call.random (2 + target.2)) signingSeed plan
        newRoute.guardianIndex target.1 .refreshRound1 refresh.broadcast)
    (plan.newRoster.filter fun route => route.guardianIndex ≠ newRoute.guardianIndex).zipIdx
  pure (.dpssDeliveries deliveries none)

def refreshRound1 (plan : RotationPlan) (beginCertificate : Option BeginRotationCertificate)
    (releaseCertificate : Option RotationReleaseCertificate)
    (oldShareGrant : Option OldShareUnlockGrant) :
    Act GuardianRotationEntryV3 GuardianRotationResponseV3 := do
  let entry ← get
  let newRoute ← check (guardianRoute entry plan true)
  let share ← check (refreshShare crypto vault node call entry plan beginCertificate
    releaseCertificate oldShareGrant newRoute.guardianIndex)
  sessionMut crypto plan (dealRefresh crypto vault node call plan entry.provision.signingSeed
    newRoute share)

def answerRefresh (plan : RotationPlan) (incoming : List SealedMessage) (signingSeed : Id32)
    (newRoute : GuardianRouteV3) : Act GuardianRotationSessionV3 GuardianRotationResponseV3 := do
  let round1 ← openDeliveries crypto vault node plan newRoute plan.newRoster .refreshRound1 ∅
    incoming
  check (bailIf (round1.length + 1 ≠ plan.newRoster.length) "refresh round 1 is incomplete")
  let session ← get
  let state ← check (openLocalState crypto vault node session plan newRoute.guardianIndex)
  match state with
  | .refreshRound1 oldShare secretState => do
    let refresh ← check (crypt (frostRefreshPart2 vault.frost secretState round1))
    saveLocalState crypto vault node (call.random 0).nonce plan newRoute.guardianIndex
      (.refreshRound2 oldShare refresh.secretState round1)
    let deliveries ← collect (fun message : (UInt16 × Bytes) × ℕ => do
        let target ← check (okOr
          (plan.newRoster.find? fun route => route.guardianIndex = message.1.1)
          "refresh provider emitted an unknown recipient")
        makeDelivery crypto vault (call.random (1 + message.2)) signingSeed plan
          newRoute.guardianIndex target .refreshRound2 message.1.2)
      refresh.directMessages.zipIdx
    pure (.dpssDeliveries deliveries none)
  | _ => check (.error "guardian is not in refresh round-1 state")

def refreshRound2 (plan : RotationPlan) (incoming : List SealedMessage) :
    Act GuardianRotationEntryV3 GuardianRotationResponseV3 := do
  let entry ← get
  let newRoute ← check (guardianRoute entry plan true)
  sessionMut crypto plan (answerRefresh crypto vault node call plan incoming
    entry.provision.signingSeed newRoute)

def assembleRefresh (plan : RotationPlan) (incoming : List SealedMessage)
    (oldPublicPackage : Bytes) (newRoute : GuardianRouteV3) :
    Act GuardianRotationSessionV3 GuardianRotationResponseV3 := do
  let round2 ← openDeliveries crypto vault node plan newRoute plan.newRoster .refreshRound2 ∅
    incoming
  check (bailIf (round2.length + 1 ≠ plan.newRoster.length) "refresh round 2 is incomplete")
  let session ← get
  let state ← check (openLocalState crypto vault node session plan newRoute.guardianIndex)
  match state with
  | .refreshRound2 oldShare secretState round1Messages => do
    let output ← check (crypt (frostRefreshPart3 vault.frost secretState round1Messages round2
      oldPublicPackage oldShare))
    let participant ← check (crypt (frostVerifyShare vault.frost output.share
      output.publicPackage))
    check (bailIf (participant ≠ newRoute.guardianIndex)
      "refreshed share has the wrong participant id")
    let dpssResultCommitment ← check (crypt (frostPublicPackageDigest crypto vault.frost
      output.publicPackage))
    saveLocalState crypto vault node (call.random 0).nonce plan newRoute.guardianIndex
      (.refreshed output.share output.publicPackage)
    pure (.refreshFinalized newRoute.guardianIndex output.publicPackage dpssResultCommitment)
  | _ => check (.error "guardian is not in refresh round-2 state")

def refreshFinalize (plan : RotationPlan) (incoming : List SealedMessage)
    (oldPublicPackage : Bytes) : Act GuardianRotationEntryV3 GuardianRotationResponseV3 := do
  let entry ← get
  let newRoute ← check (guardianRoute entry plan true)
  sessionMut crypto plan (assembleRefresh crypto vault node call plan incoming oldPublicPackage
    newRoute)

end MasterRecovery
