import MasterRecovery.RotationProtocol
import MasterRecovery.Storage
import MasterRecovery.Lib.Machine

/-!
# Config-witness handlers (gp-network/src/server.rs)

Each handler runs on the entry of one configuration, whose id is the request
path. A handler first refuses, then changes the entry in memory, then saves;
the reply leaves after the save. `save` is what the file system answers.
-/

namespace MasterRecovery
open Checks Transcript

inductive StatusCode
  | badRequest
  | forbidden
  deriving DecidableEq

structure ApiError where
  status : StatusCode
  message : String
  deriving DecidableEq

def badRequest (message : String) : ApiError := ⟨.badRequest, message⟩

def api {α : Type} (x : Except String α) : Except ApiError α := x.mapError badRequest

@[simp] theorem api_eq_ok {α : Type} {x : Except String α} {a : α} : api x = .ok a ↔ x = .ok a :=
  mapError_eq_ok

def stored {α : Type} (x : Except StorageError α) : Except String α := x.mapError StorageError.text

@[simp] theorem stored_eq_ok {α : Type} {x : Except StorageError α} {a : α} :
    stored x = .ok a ↔ x = .ok a :=
  mapError_eq_ok

structure WitnessRotationCancellation where
  planHash : Id32
  cancelCertificateHash : Id32
  deriving DecidableEq

structure WitnessConfigProvision where
  witnessId : UInt16
  capsule : ConfigCapsuleV3
  signerPublicKeys : Std.TreeMap UInt16 PublicKey
  witnessPublicKeys : Std.TreeMap UInt16 PublicKey
  witnessFaultBound : UInt16

structure WitnessConfigEntry where
  witnessId : UInt16
  register : WitnessEpochStore
  capsule : ConfigCapsuleV3
  pendingCapsule : Option ConfigCapsuleV3
  pendingAck : Option WitnessActivationAck
  rotationCancellations : Std.TreeMap Id32 WitnessRotationCancellation
  signerPublicKeys : Std.TreeMap UInt16 PublicKey
  witnessPublicKeys : Std.TreeMap UInt16 PublicKey
  witnessFaultBound : UInt16

structure WitnessActivationRequest where
  capsule : ConfigCapsuleV3
  activationCertificate : RotationActivateCertificate

/-! ### Memory and disk -/

/-- What the server holds in memory and the last copy it saved. -/
structure Persisted (α : Type) where
  data : α
  saved : α

namespace Persisted

variable {α β : Type}

/-- Memory changes whether or not the save succeeds. -/
def commit (store : Persisted α) (data : α) (save : Except String Unit) (reply : β) :
    Except ApiError β × Persisted α :=
  match save with
  | .error text => (.error (badRequest text), { store with data := data })
  | .ok () => (.ok reply, ⟨data, data⟩)

/-- A restart: memory is what was saved. -/
def reload (store : Persisted α) : Persisted α := ⟨store.saved, store.saved⟩

/-- A save of the same file that this entry did not ask for. -/
def flush (store : Persisted α) : Persisted α := ⟨store.data, store.data⟩

@[simp] theorem commit_ok (store : Persisted α) (data : α) (reply : β) :
    store.commit data (.ok ()) reply = (.ok reply, ⟨data, data⟩) := rfl

@[simp] theorem commit_data (store : Persisted α) (data : α) (save : Except String Unit)
    (reply : β) : (store.commit data save reply).2.data = data := by
  cases save <;> rfl

end Persisted

/-! ### Provisioning -/

def signerLeaves (crypto : Crypto) (signers : List (UInt16 × PublicKey)) :
    Except String (List Id32) :=
  signers.mapM fun signer => do
    let leaf ← wire (Wire.signerLeaf signer.1 signer.2)
    pure (crypto.sha256 leaf)

/-- Ids `1..=count`. -/
def signerIds (count : UInt16) : Finset UInt16 :=
  ((List.range' 1 count.toNat).map UInt16.ofNat).toFinset

/-- The entry a provision creates. -/
def WitnessConfigProvision.entry (provision : WitnessConfigProvision) : WitnessConfigEntry where
  witnessId := provision.witnessId
  register := WitnessEpochStore.new provision.capsule.configRef provision.capsule.capsuleHash
  capsule := provision.capsule
  pendingCapsule := none
  pendingAck := none
  rotationCancellations := ∅
  signerPublicKeys := provision.signerPublicKeys
  witnessPublicKeys := provision.witnessPublicKeys
  witnessFaultBound := provision.witnessFaultBound

def witnessProvision (crypto : Crypto) (seed : Id32) (adminToken : String)
    (bearer : Option String) (provisioned : Bool) (provision : WitnessConfigProvision) :
    Except ApiError WitnessConfigEntry := do
  bailIf (adminToken = "" ∨ bearer ≠ some adminToken)
    ⟨.forbidden, "invalid witness provisioning token"⟩
  bailIf (provision.witnessId = 0 ∨ provision.capsule.protocolVersion ≠ protocolVersionV3 ∨
    provision.capsule.configRef.guardianEpoch = 0 ∨
    provision.signerPublicKeys.size ≠ provision.capsule.signerCount.toNat ∨
    provision.witnessFaultBound = 0) (badRequest "invalid witness genesis policy")
  let body ← api (wire (Wire.configCapsuleBodyV3 provision.capsule))
  bailIf (crypto.sha256 body ≠ provision.capsule.capsuleHash)
    (badRequest "invalid genesis capsule hash")
  bailIf (provision.signerPublicKeys.keys.toFinset ≠ signerIds provision.capsule.signerCount)
    (badRequest "signer ids are not canonical")
  let leaves ← api (signerLeaves crypto provision.signerPublicKeys.toList)
  let commitment ← api (crypt (crypto.merkleCommit leaves))
  bailIf (commitment.1 ≠ provision.capsule.signerSetCommitment)
    (badRequest "pinned signer keys do not match signer-set commitment")
  bailIf (provision.witnessPublicKeys.size < requiredWitnessRoster provision.witnessFaultBound ∨
    provision.witnessPublicKeys[provision.witnessId]? ≠ some (crypto.verifyingKeyBytes seed) ∨
    provision.witnessPublicKeys.values.toFinset.card ≠ provision.witnessPublicKeys.size)
    (badRequest "invalid pinned witness roster")
  bailIf (provisioned = true) (badRequest "witness configuration is already provisioned")
  .ok provision.entry

section Handlers

variable (crypto : Crypto) (seed configId : Id32)

/-! ### Owner rotation cancel -/

/-- What the request alone must satisfy; the cancel transcript is returned. -/
def cancelChecks (wallNow : Except String UInt64) (certificate : OwnerRotationCancelCertificate) :
    Except ApiError Bytes := do
  let now ← api wallNow
  bailIf (certificate.context.protocolVersion ≠ protocolVersionV3 ∨
    certificate.context.configRef.configId ≠ configId ∨ now < certificate.context.issuedAt ∨
    certificate.context.expiry ≤ now ∨
    certificate.cancelResponseRecipientKey.length ≠ xwingPublicKeyLen)
    (badRequest "owner witness cancellation is malformed or expired")
  api (wire (Wire.ownerRotationCancelCertificate certificate))

/-- The certificate against the entry, and the entry with the tombstone. A pending
successor of the cancelled rotation is rolled back. -/
def cancelEntry (certificate : OwnerRotationCancelCertificate) (transcript : Bytes)
    (entry : WitnessConfigEntry) : Except ApiError WitnessConfigEntry := do
  bailIf (certificate.context.configRef ≠ entry.capsule.configRef ∨
    certificate.context.predecessorCapsuleHash ≠ entry.capsule.capsuleHash ∨
    certificate.ownerCancelPublicKey ≠ entry.capsule.ownerCancelPublicKey)
    (badRequest "owner cancellation does not bind the witness's active predecessor")
  api (crypt (crypto.verify entry.capsule.ownerCancelPublicKey transcript
    certificate.ownerSignature))
  match entry.rotationCancellations[certificate.context.rotationId]? with
  | some existing =>
    bailIf (existing.planHash ≠ certificate.planHash ∨
      existing.cancelCertificateHash ≠ crypto.sha256 transcript)
      (badRequest "witness has a conflicting cancellation for this rotation id")
    .ok entry
  | none =>
    let tombstone : WitnessRotationCancellation :=
      ⟨certificate.planHash, crypto.sha256 transcript⟩
    let cancellations :=
      entry.rotationCancellations.insert certificate.context.rotationId tombstone
    match entry.pendingCapsule with
    | none => .ok { entry with rotationCancellations := cancellations }
    | some pending =>
      let activation ← okOr pending.activationCertificate
        (badRequest "pending successor lacks an activation certificate")
      bailIf (activation.context.rotationId ≠ certificate.context.rotationId ∨
        activation.planHash ≠ certificate.planHash ∨
        pending.predecessorCapsuleHash ≠ entry.capsule.capsuleHash)
        (badRequest "owner cancellation does not bind the pending successor")
      let register ← api (stored (entry.register.cancelPendingSuccessor
        entry.capsule.configRef.guardianEpoch entry.capsule.capsuleHash
        pending.configRef.guardianEpoch pending.capsuleHash))
      .ok { entry with
        register := register
        pendingCapsule := none
        pendingAck := none
        rotationCancellations := cancellations }

def cancelAck (certificate : OwnerRotationCancelCertificate) (transcript : Bytes)
    (witnessId : UInt16) : WitnessRotationCancelAck where
  protocolVersion := protocolVersionV3
  configId := certificate.context.configRef.configId
  rotationId := certificate.context.rotationId
  planHash := certificate.planHash
  cancelCertificateHash := crypto.sha256 transcript
  witnessId := witnessId
  witnessPublicKey := crypto.verifyingKeyBytes seed
  witnessSignature := []

def witnessCancelRotation (wallNow : Except String UInt64) (save : Except String Unit)
    (certificate : OwnerRotationCancelCertificate) (store : Persisted WitnessConfigEntry) :
    Except ApiError WitnessRotationCancelAck × Persisted WitnessConfigEntry :=
  match cancelChecks configId wallNow certificate with
  | .error e => (.error e, store)
  | .ok transcript =>
    match cancelEntry crypto certificate transcript store.data with
    | .error e => (.error e, store)
    | .ok entry =>
      let ack := cancelAck crypto seed certificate transcript entry.witnessId
      match Wire.witnessRotationCancelAck ack with
      | .error e => (.error (badRequest e.text), { store with data := entry })
      | .ok ackTranscript =>
        store.commit entry save { ack with witnessSignature := crypto.sign seed ackTranscript }

/-! ### Activation -/

/-- The certificate binds the capsule; its hash is returned. -/
def activateChecks (request : WitnessActivationRequest) : Except ApiError Id32 := do
  bailIf (request.capsule.configRef.configId ≠ configId)
    (badRequest "config id path/body mismatch")
  let body ← api (wire (Wire.configCapsuleBodyV3 request.capsule))
  let capsuleHash := crypto.sha256 body
  bailIf (capsuleHash ≠ request.capsule.capsuleHash ∨
    request.activationCertificate.successor ≠ request.capsule.configRef ∨
    request.activationCertificate.successorCapsuleHash ≠ capsuleHash ∨
    request.capsule.predecessorCapsuleHash ≠
      request.activationCertificate.context.predecessorCapsuleHash)
    (badRequest "activation certificate does not bind the exact capsule")
  let transcript ← api (wire (Wire.rotationActivateCertificate request.activationCertificate))
  .ok (crypto.sha256 transcript)

/-- The successor against the active capsule and the pinned signers; the locked
register is returned. -/
def lockSuccessor (request : WitnessActivationRequest) (entry : WitnessConfigEntry) :
    Except ApiError WitnessEpochStore := do
  bailIf (request.activationCertificate.context.configRef ≠ entry.capsule.configRef ∨
    request.capsule.predecessorCapsuleHash ≠ entry.capsule.capsuleHash ∨
    request.capsule.signerCount ≠ entry.capsule.signerCount ∨
    request.capsule.signerThreshold ≠ entry.capsule.signerThreshold ∨
    request.capsule.signerSetCommitment ≠ entry.capsule.signerSetCommitment ∨
    request.capsule.ownerCancelPublicKey ≠ entry.capsule.ownerCancelPublicKey ∨
    request.capsule.minimumRecoveryDelay < entry.capsule.minimumRecoveryDelay ∨
    request.capsule.maxRequestLifetime ≠ entry.capsule.maxRequestLifetime ∨
    request.capsule.dpssSuite ≠ entry.capsule.dpssSuite ∨
    request.activationCertificate.votes.length < entry.capsule.signerThreshold.toNat)
    (badRequest "stale predecessor, immutable-policy downgrade, or signer quorum failure")
  each (fun vote => do
    bailIf (entry.signerPublicKeys[vote.signerId]? ≠ some vote.signerPublicKey)
      (badRequest "activate vote is not from a pinned signer")
    let transcript ← api (wire (Wire.signerRotationActivateVote vote))
    api (crypt (crypto.verify vote.signerPublicKey transcript vote.signerSignature)))
    request.activationCertificate.votes
  api (stored (entry.register.persistSuccessorBeforeAck entry.capsule.configRef
    entry.capsule.capsuleHash request.capsule.configRef request.capsule.capsuleHash))

def activationAck (request : WitnessActivationRequest) (activationHash : Id32)
    (entry : WitnessConfigEntry) : WitnessActivationAck where
  context := request.activationCertificate.context
  planHash := request.activationCertificate.planHash
  activationCertificateHash := activationHash
  witnessId := entry.witnessId
  predecessorEpoch := entry.capsule.configRef.guardianEpoch
  predecessorCapsuleHash := entry.capsule.capsuleHash
  successorEpoch := request.capsule.configRef.guardianEpoch
  successorCapsuleHash := request.capsule.capsuleHash
  witnessPublicKey := crypto.verifyingKeyBytes seed
  witnessSignature := []

def WitnessActivationRequest.storedCapsule (request : WitnessActivationRequest) :
    ConfigCapsuleV3 :=
  { request.capsule with
    activationCertificate := some request.activationCertificate
    activationQc := none }

/-- A retry for the pending successor is answered from memory, without a save. -/
def witnessActivate (save : Except String Unit) (request : WitnessActivationRequest)
    (store : Persisted WitnessConfigEntry) :
    Except ApiError WitnessActivationAck × Persisted WitnessConfigEntry :=
  match activateChecks crypto configId request with
  | .error e => (.error e, store)
  | .ok activationHash =>
    let entry := store.data
    if request.activationCertificate.context.rotationId ∈ entry.rotationCancellations then
      (.error (badRequest "witness permanently rejected this owner-cancelled rotation"), store)
    else
      match entry.pendingCapsule with
      | some pending =>
        if pending.capsuleHash = request.capsule.capsuleHash then
          (okOr entry.pendingAck (badRequest "pending witness write has no durable ack"), store)
        else
          (.error (badRequest "witness is already locked to another successor"), store)
      | none =>
        match lockSuccessor crypto request entry with
        | .error e => (.error e, store)
        | .ok register =>
          let locked := { entry with register := register }
          let unsigned := activationAck crypto seed request activationHash entry
          match Wire.witnessActivationAck unsigned with
          | .error e => (.error (badRequest e.text), { store with data := locked })
          | .ok transcript =>
            let ack := { unsigned with witnessSignature := crypto.sign seed transcript }
            store.commit { locked with
              pendingCapsule := some request.storedCapsule
              pendingAck := some ack } save ack

/-! ### Finalization -/

/-- The entry with the pending successor active. -/
def finalizeEntry (qc : EpochActivationQc) (entry : WitnessConfigEntry) :
    Except ApiError WitnessConfigEntry := do
  let pending ← okOr entry.pendingCapsule (badRequest "witness has no pending successor")
  let pendingAck ← okOr entry.pendingAck (badRequest "pending successor has no witness ack")
  bailIf (qc.rotationId ∈ entry.rotationCancellations)
    (badRequest "witness refuses to finalize an owner-cancelled rotation")
  let _ ← api (wire (Wire.epochActivationQc qc))
  bailIf (qc.configId ≠ pending.configRef.configId ∨ qc.configId ≠ configId ∨
    qc.witnessFaultBound ≠ entry.witnessFaultBound ∨
    qc.rotationId ≠ pendingAck.context.rotationId ∨
    qc.predecessorEpoch ≠ pendingAck.predecessorEpoch ∨
    qc.predecessorCapsuleHash ≠ pendingAck.predecessorCapsuleHash ∨
    qc.successorEpoch ≠ pending.configRef.guardianEpoch ∨
    qc.successorCapsuleHash ≠ pending.capsuleHash ∨
    qc.activationCertificateHash ≠ pendingAck.activationCertificateHash)
    (badRequest "activation QC does not bind the pending successor")
  let substituted := badRequest "QC contains duplicate or substituted witnesses"
  let witnessIds ← scanDistinct (·.witnessId)
    (fun ack => do
      let _ ← okOr entry.witnessPublicKeys[ack.witnessId]?
        (badRequest "QC contains an unpinned witness")
      pure ())
    substituted
    (fun ack => do
      let pinned ← okOr entry.witnessPublicKeys[ack.witnessId]?
        (badRequest "QC contains an unpinned witness")
      bailIf (pinned ≠ ack.witnessPublicKey) substituted
      let transcript ← api (wire (Wire.witnessActivationAck ack))
      api (crypt (crypto.verify pinned transcript ack.witnessSignature)))
    ∅ qc.witnessAcks
  bailIf (witnessIds.card < requiredWitnessQuorum entry.witnessFaultBound ∨
    ¬∃ ack ∈ qc.witnessAcks, ack.witnessId = entry.witnessId ∧ ack = pendingAck)
    (badRequest "QC has no 2f+1 quorum or omits this witness's exact ack")
  .ok { entry with
    capsule := { pending with activationQc := some qc }
    pendingCapsule := none
    pendingAck := none }

def witnessFinalize (save : Except String Unit) (qc : EpochActivationQc)
    (store : Persisted WitnessConfigEntry) :
    Except ApiError Unit × Persisted WitnessConfigEntry :=
  match finalizeEntry crypto configId qc store.data with
  | .error e => (.error e, store)
  | .ok entry => store.commit entry save ()

/-! ### Fresh reads -/

def readChecks (wallNow : Except String UInt64) (challenge : EpochReadChallenge) :
    Except ApiError Unit := do
  bailIf (challenge.protocolVersion ≠ protocolVersionV3 ∨ challenge.configId ≠ configId)
    (badRequest "invalid witness read challenge")
  let now ← api wallNow
  bailIf (now < challenge.issuedAt ∨ challenge.expiry ≤ now)
    (badRequest "expired witness read challenge")
  let _ ← api (wire (Wire.epochReadChallenge challenge))
  pure ()

def readResponse (challenge : EpochReadChallenge) (entry : WitnessConfigEntry) :
    WitnessEpochReadResponse where
  protocolVersion := protocolVersionV3
  configId := challenge.configId
  clientNonce := challenge.clientNonce
  witnessId := entry.witnessId
  highestGuardianEpoch := entry.capsule.configRef.guardianEpoch
  capsuleHash := entry.capsule.capsuleHash
  witnessPublicKey := crypto.verifyingKeyBytes seed
  witnessSignature := []

/-- The nonce is durable before the response is signed. -/
def witnessRead (wallNow : Except String UInt64) (save : Except String Unit)
    (challenge : EpochReadChallenge) (store : Persisted WitnessConfigEntry) :
    Except ApiError WitnessReadEnvelope × Persisted WitnessConfigEntry :=
  match readChecks configId wallNow challenge with
  | .error e => (.error e, store)
  | .ok () =>
    match api (stored (store.data.register.observeReadNonce challenge.clientNonce)) with
    | .error e => (.error e, store)
    | .ok register =>
      let entry := { store.data with register := register }
      let saved := store.commit entry save ()
      match saved.1 with
      | .error e => (.error e, saved.2)
      | .ok () =>
        let response := readResponse crypto seed challenge entry
        match Wire.witnessEpochReadResponse response with
        | .error e => (.error (badRequest e.text), saved.2)
        | .ok transcript =>
          (.ok ⟨{ response with witnessSignature := crypto.sign seed transcript }, entry.capsule⟩,
            saved.2)

/-! ### One witness as a machine -/

inductive WitnessRequest
  | activate (request : WitnessActivationRequest)
  | cancelRotation (wallNow : Except String UInt64) (certificate : OwnerRotationCancelCertificate)
  | finalize (qc : EpochActivationQc)
  | read (wallNow : Except String UInt64) (challenge : EpochReadChallenge)

/-- What a handler answers when it does not refuse. With a cancellation: the pending
successor it rolled back, if any; with a finalization: the capsule installed. -/
inductive WitnessEvent
  | acked (ack : WitnessActivationAck)
  | cancelled (ack : WitnessRotationCancelAck) (released : Option ConfigCapsuleV3)
  | finalized (capsule : ConfigCapsuleV3)
  | answered (envelope : WitnessReadEnvelope)
  deriving DecidableEq

def releasedBy (certificate : OwnerRotationCancelCertificate) (entry : WitnessConfigEntry) :
    Option ConfigCapsuleV3 :=
  if certificate.context.rotationId ∈ entry.rotationCancellations then none
  else entry.pendingCapsule

/-- Route a request to its handler. -/
def serve (save : Except String Unit) (request : WitnessRequest)
    (store : Persisted WitnessConfigEntry) :
    Persisted WitnessConfigEntry × Option WitnessEvent :=
  match request with
  | .activate request =>
    let out := witnessActivate crypto seed configId save request store
    (out.2, out.1.toOption.map .acked)
  | .cancelRotation wallNow certificate =>
    let out := witnessCancelRotation crypto seed configId wallNow save certificate store
    (out.2, out.1.toOption.map fun ack => .cancelled ack (releasedBy certificate store.data))
  | .finalize qc =>
    let out := witnessFinalize crypto configId save qc store
    (out.2, out.1.toOption.map fun _ => .finalized out.2.data.capsule)
  | .read wallNow challenge =>
    let out := witnessRead crypto seed configId wallNow save challenge store
    (out.2, out.1.toOption.map .answered)

/-- A witness whose saves succeed; memory and disk need not be told apart. -/
def witnessMachine : Machine WitnessConfigEntry WitnessRequest WitnessEvent where
  step entry request :=
    let out := serve crypto seed configId (.ok ()) request ⟨entry, entry⟩
    (out.1.data, out.2)

end Handlers

end MasterRecovery
