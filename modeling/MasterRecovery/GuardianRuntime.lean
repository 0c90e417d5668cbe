import MasterRecovery.GuardianCertificates
import MasterRecovery.GuardianCrypto
import MasterRecovery.GuardianStore
import MasterRecovery.RotationMachine

/-!
# Guardian rotation handlers (gp-network/src/guardian_runtime.rs)

A handler works on the entry in place: what it changed before a refusal stays changed. Every
random draw of one call is numbered.
-/

namespace MasterRecovery
open Checks Transcript Act

/-- The node an entry lives on. -/
structure GuardianNode where
  identitySeed : Id32
  allowInsecureDemoDelay : Bool

/-- When a call is made, in which boot of the node, and what it draws. -/
structure GuardianCall where
  wallNow : UInt64
  monotonicNow : UInt64
  bootId : String
  random : ℕ → Randomness

def storage {α : Type} (x : Except StorageError α) : Except String α :=
  x.mapError StorageError.text

/-- `u16::try_from(len)`. -/
def lengthU16 (len : ℕ) : Except String UInt16 := do
  bailIf (2 ^ 16 ≤ len) "out of range integral type conversion attempted"
  .ok (UInt16.ofNat len)

namespace GuardianRotationEntryV3

def withStore (entry : GuardianRotationEntryV3) (store : GuardianEpochStore) :
    GuardianRotationEntryV3 :=
  { entry with provision := { entry.provision with epochStore := store } }

def putSession (entry : GuardianRotationEntryV3) (rotationId : Id32)
    (session : GuardianRotationSessionV3) : GuardianRotationEntryV3 :=
  { entry with sessions := entry.sessions.insert rotationId session }

def dropSession (entry : GuardianRotationEntryV3) (rotationId : Id32) : GuardianRotationEntryV3 :=
  { entry with sessions := entry.sessions.erase rotationId }

end GuardianRotationEntryV3

/-- An operation of the epoch store, in place. -/
def onStore (x : EStateM StorageError GuardianEpochStore Unit) : Act GuardianRotationEntryV3 Unit :=
  fun entry =>
    match x entry.provision.epochStore with
    | .ok a store => .ok a (entry.withStore store)
    | .error e store => .error e.text (entry.withStore store)

/-- An operation of the epoch store that changes nothing when it refuses. -/
def updateStore (x : GuardianEpochStore → Except StorageError GuardianEpochStore) :
    Act GuardianRotationEntryV3 Unit := do
  let entry ← get
  let store ← check (storage (x entry.provision.epochStore))
  modify fun entry => entry.withStore store

/-- The guardian's own route in a roster of the plan. -/
def guardianRoute (entry : GuardianRotationEntryV3) (plan : RotationPlan) (successor : Bool) :
    Except String GuardianRouteV3 :=
  let roster := if successor then plan.newRoster else plan.oldRoster
  match roster.filter fun route => route.guardianPublicKey = entry.provision.signingPublicKey with
  | [route] => .ok route
  | _ => .error "guardian identity is absent or duplicated in the exact plan roster"

def Participates (entry : GuardianRotationEntryV3) (plan : RotationPlan) : Prop :=
  (guardianRoute entry plan false).isOk ∨ (guardianRoute entry plan true).isOk

instance (entry : GuardianRotationEntryV3) (plan : RotationPlan) :
    Decidable (Participates entry plan) := by
  unfold Participates
  infer_instance

section Handlers

variable (crypto : Crypto) (vault : Vault) (node : GuardianNode)

/-! ### Local state -/

def localJournalContext (plan : RotationPlan) (guardianIndex : UInt16) : Except String Bytes := do
  let context ← wire (Wire.rotationPlan plan)
  .ok (context ++ "gp/network-guardian-local-state/v3".toUTF8.data.toList ++
    beBytes 2 guardianIndex.toNat)

def sealLocalState (nonce : BitVec 192) (plan : RotationPlan) (guardianIndex : UInt16)
    (state : LocalDpssState) : Except String AeadCiphertext := do
  let plaintext ← vault.encodeState state
  let context ← localJournalContext plan guardianIndex
  crypt (sealLocalRotationJournal crypto vault node.identitySeed nonce plaintext context)

def saveLocalState (nonce : BitVec 192) (plan : RotationPlan) (guardianIndex : UInt16)
    (state : LocalDpssState) : Act GuardianRotationSessionV3 Unit := do
  let encrypted ← check (sealLocalState crypto vault node nonce plan guardianIndex state)
  modify fun session => { session with encryptedLocalState := some encrypted }

def openLocalState (session : GuardianRotationSessionV3) (plan : RotationPlan)
    (guardianIndex : UInt16) : Except String LocalDpssState := do
  let encrypted ← okOr session.encryptedLocalState "guardian has no encrypted local DPSS state"
  let context ← localJournalContext plan guardianIndex
  let plaintext ← crypt (openLocalRotationJournal crypto vault node.identitySeed encrypted context)
  vault.decodeState plaintext

/-! ### Deliveries -/

def sequenceKey (sender recipient : UInt16) : ℕ := sender.toNat * 2 ^ 16 + recipient.toNat

/-- The next number of a pair; a pair without a counter starts at one. -/
def nextSequence (sequences : Std.TreeMap ℕ UInt64) (key : ℕ) : UInt64 := sequences[key]?.getD 1

def setOutgoing (key : ℕ) (sequence : UInt64) : Act GuardianRotationSessionV3 Unit :=
  modify fun session =>
    { session with nextOutgoingSequences := session.nextOutgoingSequences.insert key sequence }

def setIncoming (key : ℕ) (sequence : UInt64) : Act GuardianRotationSessionV3 Unit :=
  modify fun session =>
    { session with nextIncomingSequences := session.nextIncomingSequences.insert key sequence }

/-- The counter has moved on before the message is signed and sealed. -/
def makeDelivery (draw : Randomness) (signingSeed : Id32) (plan : RotationPlan)
    (senderIndex : UInt16) (target : GuardianRouteV3) (phase : DpssPhase)
    (providerPayload : Bytes) : Act GuardianRotationSessionV3 DpssDeliveryV3 := do
  let key := sequenceKey senderIndex target.guardianIndex
  let session ← get
  let sequence := nextSequence session.nextOutgoingSequences key
  setOutgoing key sequence
  let planHash ← check (hashPlan crypto plan)
  let message : DpssProtocolMessage :=
    { context := plan.context
      planHash := planHash
      dpssSuite := plan.dpssSuite
      dpssSessionId := plan.dpssSessionId
      qualifiedSetCommitment := plan.dpssQualifiedSetCommitment
      phase := phase
      senderIndex := senderIndex
      recipientIndex := target.guardianIndex
      sequence := sequence
      providerPayload := providerPayload
      senderSignature := [] }
  setOutgoing key (saturatingAdd sequence 1)
  let transcript ← check (wire (Wire.dpssProtocolMessage message))
  let encoded ← check (vault.encodeMessage
    { message with senderSignature := crypto.sign signingSeed transcript })
  let context ← check (wire (Wire.mailboxTransportContext target.mailbox "dpss-direct"))
  let sealedMessage ← check (crypt (vault.sealToRecipient target.sessionRecipientKey draw.id
    draw.nonce encoded context))
  pure ⟨target.mailbox, sealedMessage⟩

/-- What one delivery must carry, apart from its number and its signature. -/
def openedMessage (plan : RotationPlan) (ownRoute : GuardianRouteV3)
    (senderRoutes : List GuardianRouteV3) (expectedPhase : DpssPhase) (senders : Finset UInt16)
    (sealedMessage : SealedMessage) : Except String (DpssProtocolMessage × PublicKey × Bytes) := do
  let context ← wire (Wire.mailboxTransportContext ownRoute.mailbox "dpss-direct")
  let plaintext ← crypt (openSealed vault node.identitySeed sealedMessage context)
  let message ← vault.decodeMessage plaintext
  let senderKey ← okOr (guardianKeys senderRoutes)[message.senderIndex]?
    "DPSS message is from an actor outside the expected roster"
  let transcript ← wire (Wire.dpssProtocolMessage message)
  let planHash ← hashPlan crypto plan
  bailIf (message.context ≠ plan.context ∨ message.planHash ≠ planHash ∨
    message.dpssSuite ≠ plan.dpssSuite ∨ message.dpssSessionId ≠ plan.dpssSessionId ∨
    message.qualifiedSetCommitment ≠ plan.dpssQualifiedSetCommitment ∨
    message.phase ≠ expectedPhase ∨ message.recipientIndex ≠ ownRoute.guardianIndex ∨
    message.senderIndex ∈ senders) "DPSS delivery is replayed or transcript-mismatched"
  .ok (message, senderKey, transcript)

def openDelivery (plan : RotationPlan) (ownRoute : GuardianRouteV3)
    (senderRoutes : List GuardianRouteV3) (expectedPhase : DpssPhase) (senders : Finset UInt16)
    (sealedMessage : SealedMessage) : Act GuardianRotationSessionV3 (UInt16 × Bytes) := do
  let opened ← check (openedMessage crypto vault node plan ownRoute senderRoutes expectedPhase
    senders sealedMessage)
  let message := opened.1
  let key := sequenceKey message.senderIndex ownRoute.guardianIndex
  let session ← get
  let sequence := nextSequence session.nextIncomingSequences key
  setIncoming key sequence
  check (bailIf (message.sequence ≠ sequence) "DPSS delivery is reordered or replayed")
  check (crypt (crypto.verify opened.2.1 opened.2.2 message.senderSignature))
  setIncoming key (saturatingAdd sequence 1)
  pure (message.senderIndex, message.providerPayload)

/-- The senders and payloads of the deliveries, each sender once. -/
def openDeliveries (plan : RotationPlan) (ownRoute : GuardianRouteV3)
    (senderRoutes : List GuardianRouteV3) (expectedPhase : DpssPhase) (senders : Finset UInt16) :
    List SealedMessage → Act GuardianRotationSessionV3 (List (UInt16 × Bytes))
  | [] => pure []
  | sealedMessage :: incoming => do
    let opened ← openDelivery crypto vault node plan ownRoute senderRoutes expectedPhase senders
      sealedMessage
    let rest ← openDeliveries plan ownRoute senderRoutes expectedPhase (insert opened.1 senders)
      incoming
    pure (opened :: rest)

/-! ### Sessions -/

/-- The refusals of `session_mut`. -/
def openSession (entry : GuardianRotationEntryV3) (plan : RotationPlan) :
    Except String GuardianRotationSessionV3 := do
  let planHash ← hashPlan crypto plan
  let session ← okOr entry.sessions[plan.context.rotationId]?
    "guardian has not accepted Begin for this rotation"
  bailIf (session.planHash ≠ planHash ∨
    session.rotationMachine.rotationId ≠ plan.context.rotationId ∨
    session.rotationMachine.planHash ≠ planHash ∨
    session.rotationMachine.predecessor ≠ plan.predecessor ∨
    session.rotationMachine.successor ≠ plan.successor ∨ session.cancelled)
    "guardian rotation session is cancelled or plan-mismatched"
  .ok session

/-- Work on one session in place. -/
def onSession {α : Type} (rotationId : Id32) (session : GuardianRotationSessionV3)
    (x : Act GuardianRotationSessionV3 α) : Act GuardianRotationEntryV3 α :=
  onPart (fun _ => session) (fun session entry => entry.putSession rotationId session) x

def sessionMut {α : Type} (plan : RotationPlan) (x : Act GuardianRotationSessionV3 α) :
    Act GuardianRotationEntryV3 α := do
  let entry ← get
  let session ← check (openSession crypto entry plan)
  onSession plan.context.rotationId session x

def applyEvent (event : RotationEvent) : Act GuardianRotationSessionV3 Unit := do
  let session ← get
  let out ← check ((session.rotationMachine.apply event).mapError RotationError.text)
  modify fun session => { session with rotationMachine := out.2 }

def advanceToPreparing (monotonicNow : UInt64) : Act GuardianRotationSessionV3 Unit := do
  let session ← get
  match session.rotationMachine.state with
  | .delayPending => applyEvent (.releaseAccepted monotonicNow true true)
  | .preparing => pure ()
  | state => check (.error ("rotation Release is invalid from local state " ++ state.debug))

/-! ### Grants -/

def openOldMaterial (entry : GuardianRotationEntryV3) (plan : RotationPlan)
    (grant : OldShareUnlockGrant) (releaseHash : Id32) : Except String (Bytes × Bytes) := do
  let route ← guardianRoute entry plan false
  let planHash ← hashPlan crypto plan
  bailIf (grant.context ≠ plan.context ∨ grant.planHash ≠ planHash ∨
    grant.releaseCertificateHash ≠ releaseHash ∨ grant.oldGuardianIndex ≠ route.guardianIndex)
    "old-share grant does not bind this guardian and release"
  let _ ← wire (Wire.oldShareUnlockGrant grant)
  let shareContext ← wire (Wire.oldShareUnlockGrantPayloadContext grant false)
  let shareKey ← crypt (openSealed vault node.identitySeed grant.encryptedUnwrapKey shareContext)
  let fragmentContext ← wire (Wire.oldShareUnlockGrantPayloadContext grant true)
  let fragmentKey ← crypt (openSealed vault node.identitySeed grant.encryptedFragmentKey
    fragmentContext)
  bailIf (shareKey.length ≠ 32 ∨ fragmentKey.length ≠ 32)
    "old-share grant contains an invalid key length"
  let record ← okOr entry.provision.epochStore.active "old guardian has no active record"
  let dekContext ← wire (Wire.guardianShareContextV3 record.policy.configRef record.guardianIndex)
  let share ← crypt (vault.aeadDecrypt shareKey record.encryptedDekShare dekContext)
  let storedContext ← wire (Wire.guardianFragmentContextV3 record.policy.configRef
    record.guardianIndex record.fragmentIndex)
  let fragment ← crypt (vault.aeadDecrypt fragmentKey record.encryptedCiphertextFragment
    storedContext)
  .ok (share, fragment)

def openNewKeys (plan : RotationPlan) (guardianIndex : UInt16) (grant : NewShareWrapGrant) :
    Except String (Bytes × Bytes) := do
  let planHash ← hashPlan crypto plan
  bailIf (grant.context ≠ plan.context ∨ grant.planHash ≠ planHash ∨
    grant.newGuardianIndex ≠ guardianIndex)
    "new-share grant does not bind this successor guardian"
  let _ ← wire (Wire.newShareWrapGrant grant)
  let shareContext ← wire (Wire.newShareWrapGrantPayloadContext grant false)
  let shareKey ← crypt (openSealed vault node.identitySeed grant.encryptedWrapKey shareContext)
  let fragmentContext ← wire (Wire.newShareWrapGrantPayloadContext grant true)
  let fragmentKey ← crypt (openSealed vault node.identitySeed grant.encryptedFragmentKey
    fragmentContext)
  bailIf (shareKey.length ≠ 32 ∨ fragmentKey.length ≠ 32)
    "new-share grant contains an invalid key length"
  .ok (shareKey, fragmentKey)

end Handlers

end MasterRecovery
