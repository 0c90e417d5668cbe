import MasterRecovery.RotationCertificates
import MasterRecovery.Storage
import MasterRecovery.WitnessServer
import MasterRecovery.Lib.WriteOnce

/-!
# Signer handlers (gp-network/src/rotation_runtime.rs, gp-network/src/recovery_runtime.rs)

A handler returns its answer and the entry it leaves behind; what it changed
before a refusal stays changed.
-/

namespace MasterRecovery
open Checks Transcript

/-- Sealing to a recipient key, with the random id and nonce it is given. -/
structure Sealing where
  sealToRecipient : Bytes → Id32 → BitVec 192 → Bytes → Bytes → Except CryptoError SealedMessage

structure Randomness where
  id : Id32
  nonce : BitVec 192

/-! ### Vote store (gp-storage/src/rotation.rs) -/

namespace SignerRotationStore

def new : SignerRotationStore where
  predecessorPlanLocks := ∅
  intents := ∅
  intentVotes := ∅
  beginVotes := ∅
  releaseVotes := ∅
  activateVotes := ∅
  cancelledRotations := ∅
  highestObservedEpoch := ∅

def lockPlan (store : SignerRotationStore) (predecessorHash planHash : Id32) :
    Except StorageError SignerRotationStore := do
  let locks ← recordOnce .conflict predecessorHash planHash store.predecessorPlanLocks
  .ok { store with predecessorPlanLocks := locks }

def recordVote (votes : Std.TreeMap Id32 Id32) (rotationId transcriptHash : Id32) :
    Except StorageError (Std.TreeMap Id32 Id32) :=
  recordOnce .conflict rotationId transcriptHash votes

end SignerRotationStore

/-- The entry a provision creates. -/
def SignerRotationProvisionV3.entry (provision : SignerRotationProvisionV3) :
    SignerRotationEntryV3 where
  provision := provision
  securityState := SignerRotationStore.new
  recoveryRequests := ∅
  recoveryNonces := ∅

def hashAead (crypto : Crypto) (value : AeadCiphertext) : Id32 :=
  crypto.sha256 (beBytes 24 value.nonce.toNat ++ value.ciphertext)

section Handlers

variable (crypto : Crypto) (sealing : Sealing)

/-- Sign the transcript of an unsigned object and answer with it. -/
def signed {α β : Type} (seed : Id32) (transcript : α → Wire.Put) (sign : α → SignatureBytes → α)
    (response : α → β) (unsigned : α) : Except String β := do
  let bytes ← wire (transcript unsigned)
  .ok (response (sign unsigned (crypto.sign seed bytes)))

def signerContextGate (entry : SignerRotationEntryV3) (context : RotationContext) (now : UInt64) :
    Except String Unit :=
  bailIf (context.protocolVersion ≠ protocolVersionV3 ∨
    context.configRef.configId ≠ entry.provision.recoveryCard.configId ∨
    now < context.issuedAt ∨ context.expiry ≤ now ∨
    context.recipientKey.length ≠ xwingPublicKeyLen)
    "signer rejected malformed, stale, or recipient-mismatched rotation context"

/-! ### Intent -/

/-- The witnesses' view and the hash of an intent that binds it. -/
def intentChecks (entry : SignerRotationEntryV3) (intent : RotationIntent)
    (challenge : EpochReadChallenge) (reads : List WitnessReadEnvelope) :
    Except String (ConfigCapsuleV3 × Id32) := do
  let active ← selectLatestEpochV3 crypto entry.provision.recoveryCard challenge reads
  let mismatch := "rotation intent does not bind the fresh active witness view"
  bailIf (active.configRef ≠ intent.context.configRef ∨
    active.capsuleHash ≠ intent.context.predecessorCapsuleHash ∨
    intent.oldGuardianCount ≠ active.guardianCount ∨
    intent.oldGuardianThreshold ≠ active.guardianThreshold ∨
    intent.allowedNewGuardianCount = [] ∨ intent.allowedNewGuardianThreshold = [] ∨
    intent.allowedDpssSuites = []) mismatch
  let readHash ← witnessReadQuorumHashV3 crypto challenge reads
  bailIf (intent.witnessReadQcHash ≠ readHash) mismatch
  let transcript ← wire (Wire.rotationIntent intent)
  .ok (active, crypto.sha256 transcript)

def intentContribution (random : Randomness) (provision : SignerRotationProvisionV3)
    (intent : RotationIntent) (intentHash : Id32) : Except String SignerRotationResponseV3 := do
  let shareContext ← wire (Wire.rotationIntentShareContextV3 intent.context intentHash
    provision.signerId)
  let share ← crypt (sealing.sealToRecipient intent.context.recipientKey random.id random.nonce
    provision.authorizationShare shareContext)
  signed crypto provision.signingSeed Wire.signerRotationIntentContribution
    (fun contribution signature => { contribution with signerSignature := signature })
    .intentContribution
    { context := intent.context
      intentHash := intentHash
      signerId := provision.signerId
      signerPublicKey := provision.signingPublicKey
      signerMembershipProof := provision.membershipProof
      encryptedAuthorizationShare := share
      signerSignature := [] }

def signerIntent (random : Randomness) (intent : RotationIntent) (challenge : EpochReadChallenge)
    (reads : List WitnessReadEnvelope) (entry : SignerRotationEntryV3) :
    Except String SignerRotationResponseV3 × SignerRotationEntryV3 :=
  match intentChecks crypto entry intent challenge reads with
  | .error e => (.error e, entry)
  | .ok (active, intentHash) =>
    let rotationId := intent.context.rotationId
    match stored (SignerRotationStore.recordVote entry.securityState.intentVotes rotationId
        intentHash) with
    | .error e => (.error e, entry)
    | .ok intentVotes =>
      let voted := { entry with
        securityState := { entry.securityState with intentVotes := intentVotes } }
      match recordOnce "signer already approved a conflicting rotation Intent" rotationId intent
          entry.securityState.intents with
      | .error e => (.error e, voted)
      | .ok intents =>
        let approved := { voted with
          provision := { entry.provision with activeCapsule := active }
          securityState := { voted.securityState with
            intents := intents
            highestObservedEpoch := entry.securityState.highestObservedEpoch.insert
              intent.context.configRef.configId intent.context.configRef.guardianEpoch } }
        (intentContribution crypto sealing random approved.provision intent intentHash, approved)

/-! ### Begin -/

def signerBeginChecks (entry : SignerRotationEntryV3) (intentHash : Id32) (plan : RotationPlan)
    (now : UInt64) : Except String Id32 := do
  bailIf (plan.context.rotationId ∈ entry.securityState.cancelledRotations)
    "signer permanently rejected this cancelled rotation id"
  let approvedIntent ← okOr entry.securityState.intents[plan.context.rotationId]?
    "signer has no approved Intent for this rotation"
  let planHash ← validateRotationPlanAgainstIntentV3 crypto plan approvedIntent
    entry.provision.activeCapsule now
  bailIf (plan.intentHash ≠ intentHash ∨
    entry.securityState.intentVotes[plan.context.rotationId]? ≠ some intentHash)
    "signer did not authorize this exact descriptor-open intent"
  .ok planHash

def beginVote (provision : SignerRotationProvisionV3) (intentHash : Id32) (plan : RotationPlan)
    (planHash : Id32) : Except String SignerRotationResponseV3 :=
  signed crypto provision.signingSeed Wire.signerRotationBeginVote
    (fun vote signature => { vote with signerSignature := signature }) .beginVote
    { context := plan.context
      intentHash := intentHash
      planHash := planHash
      oldRosterCommitment := plan.oldRosterCommitment
      newRosterCommitment := plan.newRosterCommitment
      signerId := provision.signerId
      signerPublicKey := provision.signingPublicKey
      signerMembershipProof := provision.membershipProof
      signerSignature := [] }

def signerBegin (now : UInt64) (intentHash : Id32) (plan : RotationPlan)
    (entry : SignerRotationEntryV3) :
    Except String SignerRotationResponseV3 × SignerRotationEntryV3 :=
  match signerBeginChecks crypto entry intentHash plan now with
  | .error e => (.error e, entry)
  | .ok planHash =>
    match stored (entry.securityState.lockPlan plan.context.predecessorCapsuleHash planHash) with
    | .error e => (.error e, entry)
    | .ok locked =>
      match stored (SignerRotationStore.recordVote locked.beginVotes plan.context.rotationId
          planHash) with
      | .error e => (.error e, { entry with securityState := locked })
      | .ok beginVotes =>
        (beginVote crypto entry.provision intentHash plan planHash,
          { entry with securityState := { locked with beginVotes := beginVotes } })

/-! ### Release -/

def releaseVote (provision : SignerRotationProvisionV3) (plan : RotationPlan)
    (planHash beginHash : Id32) : SignerRotationReleaseVote where
  context := plan.context
  planHash := planHash
  beginCertificateHash := beginHash
  signerId := provision.signerId
  signerPublicKey := provision.signingPublicKey
  signerMembershipProof := provision.membershipProof
  signerSignature := []

/-- The unsigned vote and its transcript. -/
def signerReleaseChecks (entry : SignerRotationEntryV3) (plan : RotationPlan)
    (certificate : BeginRotationCertificate) (now : UInt64) :
    Except String (SignerRotationReleaseVote × Bytes) := do
  bailIf (plan.context.rotationId ∈ entry.securityState.cancelledRotations)
    "signer refuses Release for a cancelled rotation"
  let planTranscript ← wire (Wire.rotationPlan plan)
  bailIf (entry.securityState.beginVotes[plan.context.rotationId]? ≠
    some (crypto.sha256 planTranscript)) "signer never approved this exact Begin plan"
  let beginHash ← validateBeginRotationCertificateV3 crypto certificate plan
    entry.provision.activeCapsule now
  bailIf (now < certificate.notBeforeWall) "rotation delay has not elapsed"
  let vote := releaseVote entry.provision plan (crypto.sha256 planTranscript) beginHash
  let transcript ← wire (Wire.signerRotationReleaseVote vote)
  .ok (vote, transcript)

def signerRelease (now : UInt64) (plan : RotationPlan) (certificate : BeginRotationCertificate)
    (entry : SignerRotationEntryV3) :
    Except String SignerRotationResponseV3 × SignerRotationEntryV3 :=
  match signerReleaseChecks crypto entry plan certificate now with
  | .error e => (.error e, entry)
  | .ok (vote, transcript) =>
    match stored (SignerRotationStore.recordVote entry.securityState.releaseVotes
        plan.context.rotationId (crypto.sha256 transcript)) with
    | .error e => (.error e, entry)
    | .ok releaseVotes =>
      (.ok (.releaseVote { vote with
        signerSignature := crypto.sign entry.provision.signingSeed transcript }),
        { entry with securityState := { entry.securityState with releaseVotes := releaseVotes } })

/-! ### Activate -/

def activateVote (provision : SignerRotationProvisionV3) (plan : RotationPlan)
    (planHash readyHash capsuleHash : Id32) : SignerRotationActivateVote where
  context := plan.context
  planHash := planHash
  readyCertificateHash := readyHash
  successorCapsuleHash := capsuleHash
  signerId := provision.signerId
  signerPublicKey := provision.signingPublicKey
  signerMembershipProof := provision.membershipProof
  signerSignature := []

/-- The unsigned vote and its transcript. -/
def signerActivateChecks (entry : SignerRotationEntryV3) (plan : RotationPlan)
    (ready : RotationReadyCertificate) (successor : ConfigCapsuleV3) (now : UInt64) :
    Except String (SignerRotationActivateVote × Bytes) := do
  let active := entry.provision.activeCapsule
  let unbegun := "signer did not participate in this rotation's Begin and Release"
  bailIf (plan.context.rotationId ∈ entry.securityState.cancelledRotations) unbegun
  let planTranscript ← wire (Wire.rotationPlan plan)
  bailIf (entry.securityState.beginVotes[plan.context.rotationId]? ≠
      some (crypto.sha256 planTranscript) ∨
    plan.context.rotationId ∉ entry.securityState.releaseVotes) unbegun
  let readyHash ← validateRotationReadyCertificateV3 crypto ready plan active now
  let body ← wire (Wire.configCapsuleBodyV3 successor)
  let capsuleHash := crypto.sha256 body
  bailIf (successor.configRef ≠ plan.successor ∨
    successor.predecessorCapsuleHash ≠ active.capsuleHash ∨
    successor.capsuleHash ≠ capsuleHash ∨ successor.signerCount ≠ active.signerCount ∨
    successor.signerThreshold ≠ active.signerThreshold ∨
    successor.signerSetCommitment ≠ active.signerSetCommitment ∨
    successor.ownerCancelPublicKey ≠ active.ownerCancelPublicKey ∨
    successor.guardianCount.toNat ≠ plan.newRoster.length ∨
    successor.guardianThreshold ≠ plan.newGuardianThreshold ∨
    successor.dpssPublicCommitment ≠ ready.dpssResultCommitment ∨
    successor.guardianMaterialRoot ≠ ready.guardianMaterialRoot ∨
    hashAead crypto successor.encryptedRecoveryDescriptor ≠ ready.encryptedDescriptorHash ∨
    successor.activationCertificate.isSome ∨ successor.activationQc.isSome)
    "successor capsule does not match Ready and immutable signer policy"
  let vote := activateVote entry.provision plan ready.planHash readyHash capsuleHash
  let transcript ← wire (Wire.signerRotationActivateVote vote)
  .ok (vote, transcript)

def signerActivate (now : UInt64) (plan : RotationPlan) (ready : RotationReadyCertificate)
    (successor : ConfigCapsuleV3) (entry : SignerRotationEntryV3) :
    Except String SignerRotationResponseV3 × SignerRotationEntryV3 :=
  match signerActivateChecks crypto entry plan ready successor now with
  | .error e => (.error e, entry)
  | .ok (vote, transcript) =>
    match stored (SignerRotationStore.recordVote entry.securityState.activateVotes
        plan.context.rotationId (crypto.sha256 transcript)) with
    | .error e => (.error e, entry)
    | .ok activateVotes =>
      (.ok (.activateVote { vote with
        signerSignature := crypto.sign entry.provision.signingSeed transcript }),
        { entry with securityState := { entry.securityState with activateVotes := activateVotes } })

/-! ### Abort and cancellation -/

/-- An abort vote is not recorded. -/
def signerAbort (entry : SignerRotationEntryV3) (plan : RotationPlan)
    (stateAtAbort : RotationState) (reasonCode : UInt16) (responseRecipientKey : Bytes)
    (now : UInt64) : Except String SignerRotationResponseV3 := do
  bailIf (responseRecipientKey.length ≠ xwingPublicKeyLen)
    "signer Abort response recipient is malformed"
  let planHash ← validateRotationPlanV3 crypto plan entry.provision.activeCapsule now
  bailIf (plan.context.rotationId ∈ entry.securityState.cancelledRotations ∨
    entry.securityState.beginVotes[plan.context.rotationId]? ≠ some planHash ∨
    plan.context.rotationId ∈ entry.securityState.activateVotes ∨
    stateAtAbort ∉ [RotationState.delayPending, .preparing, .ready, .activating])
    "signer refuses an unbegun, post-activation, or invalid-state abort"
  signed crypto entry.provision.signingSeed Wire.signerRotationAbortVote
    (fun vote signature => { vote with signerSignature := signature }) .abortVote
    { context := plan.context
      planHash := planHash
      stateAtAbort := stateAtAbort
      reasonCode := reasonCode
      signerId := entry.provision.signerId
      signerPublicKey := entry.provision.signingPublicKey
      signerMembershipProof := entry.provision.membershipProof
      signerSignature := [] }

/-- The rotation is over: it is tombstoned and its predecessor is free. -/
def endRotation (rotationId predecessorHash certificateHash : Id32)
    (entry : SignerRotationEntryV3) : SignerRotationEntryV3 :=
  { entry with securityState := { entry.securityState with
    cancelledRotations := entry.securityState.cancelledRotations.insert rotationId certificateHash
    predecessorPlanLocks := entry.securityState.predecessorPlanLocks.erase predecessorHash } }

def signerFinalizeAbort (entry : SignerRotationEntryV3) (plan : RotationPlan)
    (certificate : AbortRotationCertificate) (responseRecipientKey : Bytes) (now : UInt64) :
    Except String SignerRotationEntryV3 := do
  bailIf (responseRecipientKey.length ≠ xwingPublicKeyLen)
    "signer abort-finalization recipient is malformed"
  let _ ← validateAbortRotationCertificateV3 crypto certificate plan entry.provision.activeCapsule
    now
  let planTranscript ← wire (Wire.rotationPlan plan)
  let planHash := crypto.sha256 planTranscript
  bailIf (entry.securityState.beginVotes[plan.context.rotationId]? ≠ some planHash ∨
    plan.context.rotationId ∈ entry.securityState.activateVotes)
    "signer refuses to finalize an unbegun or post-Activate abort"
  bailIf (entry.securityState.predecessorPlanLocks[plan.context.predecessorCapsuleHash]? ≠
    some planHash) "signer predecessor lock does not match the aborted plan"
  let certificateTranscript ← wire (Wire.abortRotationCertificate certificate)
  .ok (endRotation plan.context.rotationId plan.context.predecessorCapsuleHash
    (crypto.sha256 certificateTranscript) entry)

/-- A repeated finalization changes nothing. -/
def signerFinalizeOwnerCancel (entry : SignerRotationEntryV3) (plan : RotationPlan)
    (certificate : OwnerRotationCancelCertificate) (witnessAcks : List WitnessRotationCancelAck)
    (responseRecipientKey : Bytes) (now : UInt64) : Except String SignerRotationEntryV3 := do
  bailIf (responseRecipientKey.length ≠ xwingPublicKeyLen)
    "signer owner-cancel finalization recipient is malformed"
  let cancelHash ← validateOwnerRotationCancelWitnessQuorumV3 crypto certificate witnessAcks
    entry.provision.recoveryCard plan entry.provision.activeCapsule now
  if entry.securityState.cancelledRotations[plan.context.rotationId]? = some cancelHash then
    .ok entry
  else do
    let planTranscript ← wire (Wire.rotationPlan plan)
    let planHash := crypto.sha256 planTranscript
    bailIf (entry.securityState.beginVotes[plan.context.rotationId]? ≠ some planHash)
      "signer refuses to finalize owner cancellation for an unbegun plan"
    bailIf (entry.securityState.predecessorPlanLocks[plan.context.predecessorCapsuleHash]? ≠
      some planHash) "signer predecessor lock does not match the owner-cancelled plan"
    .ok (endRotation plan.context.rotationId plan.context.predecessorCapsuleHash cancelHash entry)

/-- A handler that changes the entry only when it succeeds. -/
def orUnchanged {α : Type} (entry : SignerRotationEntryV3) (response : α)
    (result : Except String SignerRotationEntryV3) : Except String α × SignerRotationEntryV3 :=
  match result with
  | .error e => (.error e, entry)
  | .ok entry' => (.ok response, entry')

def handleSignerRotationV3 (random : Randomness) (now : UInt64)
    (request : SignerRotationRequestV3) (entry : SignerRotationEntryV3) :
    Except String SignerRotationResponseV3 × SignerRotationEntryV3 :=
  match signerContextGate entry request.context now with
  | .error e => (.error e, entry)
  | .ok () =>
    match request with
    | .intent intent challenge reads =>
      signerIntent crypto sealing random intent challenge reads entry
    | .begin intentHash plan => signerBegin crypto now intentHash plan entry
    | .release plan certificate => signerRelease crypto now plan certificate entry
    | .activate plan ready successor => signerActivate crypto now plan ready successor entry
    | .abort plan stateAtAbort reasonCode recipientKey =>
      (signerAbort crypto entry plan stateAtAbort reasonCode recipientKey now, entry)
    | .finalizeAbort plan certificate recipientKey =>
      orUnchanged entry .abortFinalized
        (signerFinalizeAbort crypto entry plan certificate recipientKey now)
    | .finalizeOwnerCancel plan certificate witnessAcks recipientKey =>
      orUnchanged entry .ownerCancelFinalized
        (signerFinalizeOwnerCancel crypto entry plan certificate witnessAcks recipientKey now)

/-! ### Recovery -/

/-- The witnesses' view and the digest of a request for its epoch. -/
def approveChecks (entry : SignerRotationEntryV3) (request : RecoveryRequestV3)
    (challenge : EpochReadChallenge) (reads : List WitnessReadEnvelope) (now : UInt64) :
    Except String (ConfigCapsuleV3 × Id32) := do
  bailIf (now < challenge.issuedAt ∨ challenge.expiry ≤ now ∨
    challenge.responseRecipientKey ≠ request.recoveryRecipientKey)
    "signer requires a fresh witness read bound to the recovery recipient"
  let active ← selectLatestEpochV3 crypto entry.provision.recoveryCard challenge reads
  let digest ← validateRecoveryRequestV3 crypto request active now
  .ok (active, digest)

/-- The entry that remembers the request; its nonce may be used once. -/
def rememberRequest (request : RecoveryRequestV3) (digest : Id32)
    (entry : SignerRotationEntryV3) : Except String SignerRotationEntryV3 :=
  match entry.recoveryRequests[request.requestId]? with
  | some previous => do
    bailIf (previous ≠ digest) "signer request id is already bound to another transcript"
    .ok entry
  | none => do
    bailIf (request.nonce ∈ entry.recoveryNonces) "signer rejected a replayed recovery nonce"
    .ok { entry with
      recoveryNonces := insert request.nonce entry.recoveryNonces
      recoveryRequests := entry.recoveryRequests.insert request.requestId digest }

def recoveryContribution (random : Randomness) (provision : SignerRotationProvisionV3)
    (request : RecoveryRequestV3) : Except String SignerRecoveryResponseV3 := do
  let shareContext ← wire (Wire.recoveryAuthorizationShareContextV3 request provision.signerId)
  let share ← crypt (sealing.sealToRecipient request.recoveryRecipientKey random.id random.nonce
    provision.authorizationShare shareContext)
  signed crypto provision.signingSeed Wire.signerRecoveryContributionV3
    (fun contribution signature => { contribution with signerSignature := signature })
    .contribution
    { request := request
      signerId := provision.signerId
      signerPublicKey := provision.signingPublicKey
      signerMembershipProof := provision.membershipProof
      encryptedAuthorizationShare := share
      signerSignature := [] }

def signerApprove (random : Randomness) (now : UInt64) (request : RecoveryRequestV3)
    (challenge : EpochReadChallenge) (reads : List WitnessReadEnvelope)
    (entry : SignerRotationEntryV3) :
    Except String SignerRecoveryResponseV3 × SignerRotationEntryV3 :=
  match approveChecks crypto entry request challenge reads now with
  | .error e => (.error e, entry)
  | .ok (active, digest) =>
    match rememberRequest request digest entry with
    | .error e => (.error e, entry)
    | .ok remembered =>
      let approved := { remembered with
        provision := { entry.provision with activeCapsule := active } }
      (recoveryContribution crypto sealing random approved.provision request, approved)

def signerRecoveryRelease (entry : SignerRotationEntryV3) (request : RecoveryRequestV3)
    (now : UInt64) : Except String SignerRecoveryResponseV3 := do
  let digest ← validateRecoveryRequestV3 crypto request entry.provision.activeCapsule now
  bailIf (entry.recoveryRequests[request.requestId]? ≠ some digest)
    "signer never approved this exact recovery request"
  signed crypto entry.provision.signingSeed Wire.signerRecoveryReleaseVoteV3
    (fun vote signature => { vote with signerSignature := signature }) .releaseVote
    { request := request
      requestDigest := digest
      signerId := entry.provision.signerId
      signerPublicKey := entry.provision.signingPublicKey
      signerMembershipProof := entry.provision.membershipProof
      signerSignature := [] }

def handleSignerRecoveryV3 (random : Randomness) (now : UInt64)
    (request : SignerRecoveryRequestV3) (entry : SignerRotationEntryV3) :
    Except String SignerRecoveryResponseV3 × SignerRotationEntryV3 :=
  match request with
  | .approve request challenge reads =>
    signerApprove crypto sealing random now request challenge reads entry
  | .release request => (signerRecoveryRelease crypto entry request now, entry)

/-! ### One signer as a machine -/

structure SignerInput where
  now : UInt64
  random : Randomness
  request : SignerRotationRequestV3 ⊕ SignerRecoveryRequestV3

inductive SignerEvent
  | rotation (response : SignerRotationResponseV3)
  | recovery (response : SignerRecoveryResponseV3)
  deriving DecidableEq

def signerMachine : Machine SignerRotationEntryV3 SignerInput SignerEvent where
  step entry input :=
    match input.request with
    | .inl request =>
      let out := handleSignerRotationV3 crypto sealing input.random input.now request entry
      (out.2, out.1.toOption.map .rotation)
    | .inr request =>
      let out := handleSignerRecoveryV3 crypto sealing input.random input.now request entry
      (out.2, out.1.toOption.map .recovery)

end Handlers

end MasterRecovery
