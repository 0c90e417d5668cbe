import MasterRecovery.GuardianMachine
import MasterRecovery.SignerRuntime
import MasterRecovery.WitnessServer
import MasterRecovery.Lib.Effects

/-!
# The protocol-v2 guardian (gp-wire/src/lib.rs, gp-network/src/protocol.rs, server.rs)

The recovery transcripts, the validators a guardian runs on them, and its mailbox. A request
changes the entry in memory, then the entry is saved, then the response is sealed and leaves.
-/

namespace MasterRecovery
open Checks Transcript Act

/-! ### Transcripts -/

namespace Wire

def suiteId : CryptoSuite → UInt16
  | .xwingXChaCha20Poly1305Ed25519 => 1

def recoveryRequest (request : RecoveryRequest) : Put :=
  domain "gp/recovery-request/v1" ++ u16 request.protocolVersion ++
    u16 (suiteId request.cryptoSuite) ++ id32 request.configId ++ u64 request.configVersion ++
    id32 request.requestId ++ bytes request.recoveryRecipientKey ++ u64 request.requestedAt ++
    id32 request.nonce ++ u64 request.expiry

def signerApproval (request : RecoveryRequest) (signerId : UInt16)
    (encryptedShare : SealedMessage) : Put :=
  domain "gp/signer-approval/v1" ++ nested (recoveryRequest request) ++ u16 signerId ++
    sealedInto encryptedShare

def requestDigestPreimage (request : RecoveryRequest) : Put :=
  domain "gp/recovery-request-digest/v1" ++ nested (recoveryRequest request)

def ownerCancel (certificate : OwnerCancelCertificate) : Put :=
  domain "gp/owner-hard-cancel/v1" ++ u16 certificate.protocolVersion ++
    id32 certificate.configId ++ u64 certificate.configVersion ++ id32 certificate.requestId ++
    id32 certificate.requestDigest ++ bytes certificate.recoveryRecipientKey ++
    bytes certificate.cancelResponseRecipientKey ++ u16 certificate.reasonCode ++
    id32 certificate.nonce ++ u64 certificate.issuedAt ++ id32 certificate.ownerCancelPublicKey

def ownerCancelAck (ack : OwnerCancelAck) : Put :=
  domain "gp/owner-hard-cancel-ack/v1" ++ u16 ack.protocolVersion ++ id32 ack.configId ++
    u64 ack.configVersion ++ id32 ack.requestId ++ id32 ack.requestDigest ++
    id32 ack.ownerCancelTranscriptDigest ++ u16 ack.guardianIndex

def releaseVote (vote : ReleaseVote) : Put :=
  domain "gp/release-vote/v1" ++ u16 vote.protocolVersion ++ id32 vote.configId ++
    u64 vote.configVersion ++ id32 vote.requestId ++ id32 vote.requestDigest ++
    bytes vote.recoveryRecipientKey ++ id32 vote.nonce ++ u16 vote.signerId ++
    id32 vote.signerPublicKey ++ bytes vote.signerMembershipProof

def guardianContribution (contribution : GuardianContribution) : Put :=
  domain "gp/guardian-contribution/v1" ++ u16 contribution.protocolVersion ++
    id32 contribution.configId ++ u64 contribution.configVersion ++
    id32 contribution.requestId ++ id32 contribution.requestDigest ++
    u16 contribution.guardianIndex ++ bytes contribution.ciphertextFragment ++
    bytes (beBytes 24 contribution.encryptedDekShare.nonce.toNat) ++
    bytes contribution.encryptedDekShare.ciphertext ++ bytes contribution.merklePathProof

end Wire

/-! ### Validators -/

section Validators

variable (crypto : Crypto)

def requestDigest (request : RecoveryRequest) : Except String Id32 := do
  let transcript ← wire (Wire.requestDigestPreimage request)
  .ok (crypto.sha256 transcript)

def validateMembership (signerId : UInt16) (publicKey : PublicKey) (proof : MerkleProofBytes)
    (root : Id32) (signerCount : UInt16) : Except String Unit := do
  bailIf (signerId = 0 ∨ signerCount < signerId) "invalid signer index"
  let leaf ← wire (Wire.signerLeaf signerId publicKey)
  crypt (crypto.merkleVerify root (crypto.sha256 leaf) (signerId.toNat - 1) signerCount.toNat proof)

/-- A request of the policy's configuration, inside its lifetime. -/
def StaleRequest (policy : GuardianPolicy) (request : RecoveryRequest) (now : UInt64) : Prop :=
  request.protocolVersion ≠ protocolVersion ∨ request.configId ≠ policy.configId ∨
    request.configVersion ≠ policy.configVersion ∨
    request.recoveryRecipientKey.length ≠ xwingPublicKeyLen ∨ now < request.requestedAt ∨
    request.expiry ≤ now

instance (policy : GuardianPolicy) (request : RecoveryRequest) (now : UInt64) :
    Decidable (StaleRequest policy request now) := by
  unfold StaleRequest
  infer_instance

def validateBeginForPolicy (certificate : BeginRecoveryCertificate) (policy : GuardianPolicy)
    (now : UInt64) : Except String Unit := do
  bailIf (StaleRequest policy certificate.request now) "guardian rejected RecoveryRequest fields"
  let ids ← scanDistinct (·.signerId)
    (fun contribution => bailIf (contribution.request ≠ certificate.request)
      "duplicate or request-mismatched signer contribution")
    "duplicate or request-mismatched signer contribution"
    (fun contribution => do
      validateMembership crypto contribution.signerId contribution.signerPublicKey
        contribution.signerMembershipProof policy.signerSetCommitment policy.signerCount
      let transcript ← wire (Wire.signerApproval certificate.request contribution.signerId
        contribution.encryptedAShare)
      crypt (crypto.verify contribution.signerPublicKey transcript contribution.signerSignature))
    ∅ certificate.signerContributions
  bailIf (ids.card < policy.signerThreshold.toNat) "signer approval threshold not reached"

/-- A vote that is not for exactly this request. -/
def UnboundVote (vote : ReleaseVote) (request : RecoveryRequest) (digest : Id32) : Prop :=
  vote.protocolVersion ≠ protocolVersion ∨ vote.configId ≠ request.configId ∨
    vote.configVersion ≠ request.configVersion ∨ vote.requestId ≠ request.requestId ∨
    vote.requestDigest ≠ digest ∨ vote.recoveryRecipientKey ≠ request.recoveryRecipientKey ∨
    vote.nonce ≠ request.nonce

instance (vote : ReleaseVote) (request : RecoveryRequest) (digest : Id32) :
    Decidable (UnboundVote vote request digest) := by
  unfold UnboundVote
  infer_instance

def validateReleaseForPolicy (certificate : ReleaseCertificate) (policy : GuardianPolicy)
    (request : RecoveryRequest) (now : UInt64) : Except String Unit := do
  bailIf (StaleRequest policy request now) "release request is stale or expired"
  let digest ← requestDigest crypto request
  let ids ← scanDistinct (·.signerId)
    (fun vote => bailIf (UnboundVote vote request digest)
      "release vote is not bound to the exact request")
    "release vote is not bound to the exact request"
    (fun vote => do
      validateMembership crypto vote.signerId vote.signerPublicKey vote.signerMembershipProof
        policy.signerSetCommitment policy.signerCount
      let transcript ← wire (Wire.releaseVote vote)
      crypt (crypto.verify vote.signerPublicKey transcript vote.signerSignature))
    ∅ certificate.votes
  bailIf (ids.card < policy.signerThreshold.toNat) "release threshold not reached"

def validateOwnerCancelForPolicy (certificate : OwnerCancelCertificate) (policy : GuardianPolicy)
    (request : RecoveryRequest) (now : UInt64) : Except String Unit := do
  let text := "owner hard-cancel is stale, malformed, or not bound to the exact request"
  bailIf (StaleRequest policy request now ∨ certificate.protocolVersion ≠ protocolVersion ∨
    certificate.configId ≠ request.configId ∨ certificate.configVersion ≠ request.configVersion ∨
    certificate.requestId ≠ request.requestId) text
  let digest ← requestDigest crypto request
  bailIf (certificate.requestDigest ≠ digest ∨
    certificate.recoveryRecipientKey ≠ request.recoveryRecipientKey ∨
    certificate.cancelResponseRecipientKey.length ≠ xwingPublicKeyLen ∨
    certificate.nonce ≠ request.nonce ∨ certificate.issuedAt < request.requestedAt ∨
    now < certificate.issuedAt ∨ request.expiry ≤ certificate.issuedAt ∨
    certificate.ownerCancelPublicKey ≠ policy.ownerCancelPublicKey) text
  let transcript ← wire (Wire.ownerCancel certificate)
  crypt (crypto.verify policy.ownerCancelPublicKey transcript certificate.ownerSignature)

end Validators

/-! ### The mailbox -/

/-- The clocks and the boot a request is handled under. -/
structure MailboxCall where
  wallNow : UInt64
  monotonicNow : UInt64
  bootId : String
  deriving DecidableEq

def GuardianEntry.new (provision : GuardianProvision) : GuardianEntry where
  provision := provision
  pending := ∅
  cancelled := ∅
  released := ∅
  seenNonces := ∅

/-- A call of a machine that is thrown away afterwards. -/
def onFresh {α : Type} (machine : GuardianMachine) (call : GuardianMachine.Call α) :
    Except String (α × GuardianMachine) :=
  match call machine with
  | .ok value machine' => .ok (value, machine')
  | .error e _ => .error e.text

def IsRelease : MailboxRequest → Prop
  | .guardianRelease _ _ => True
  | _ => False

instance (action : MailboxRequest) : Decidable (IsRelease action) := by
  cases action <;> unfold IsRelease <;> infer_instance

section Mailbox

variable (crypto : Crypto) (corruptContribution : Bool) (call : MailboxCall)

def mailboxBegin (certificate : BeginRecoveryCertificate) (digest : Id32) :
    Act GuardianEntry MailboxResponse := do
  let entry ← get
  let request := certificate.request
  let policy := entry.provision.record.policy
  check (validateBeginForPolicy crypto certificate policy call.wallNow)
  check (bailIf (entry.cancelled[request.requestId]? = some digest)
    "request was permanently cancelled")
  check (bailIf (request.requestId ∈ entry.pending ∨ request.nonce ∈ entry.seenNonces)
    "replayed request id or nonce")
  modify fun entry => { entry with seenNonces := insert request.nonce entry.seenNonces }
  let out ← check (onFresh (.new policy.configId policy.configVersion)
    (GuardianMachine.beginAt request digest call.wallNow call.monotonicNow
      policy.minimumRecoveryDelay true))
  modify fun entry => { entry with
    pending := entry.pending.insert request.requestId
      { request := request
        requestDigest := digest
        acceptedWallTime := call.wallNow
        startedMonotonic := call.monotonicNow
        notBeforeMonotonic := out.1
        bootId := call.bootId } }
  pure (.beginAccepted out.1)

/-- The acknowledgement of a cancellation, before it is signed. -/
def mailboxCancelAck (entry : GuardianEntry) (request : RecoveryRequest) (digest transcriptDigest : Id32) :
    OwnerCancelAck where
  protocolVersion := protocolVersion
  configId := request.configId
  configVersion := request.configVersion
  requestId := request.requestId
  requestDigest := digest
  ownerCancelTranscriptDigest := transcriptDigest
  guardianIndex := entry.provision.record.guardianIndex
  guardianSignature := []

def mailboxCancel (request : RecoveryRequest) (certificate : OwnerCancelCertificate)
    (digest : Id32) : Act GuardianEntry MailboxResponse := do
  let entry ← get
  let policy := entry.provision.record.policy
  check (validateOwnerCancelForPolicy crypto certificate policy request call.wallNow)
  check (bailIf (entry.released[request.requestId]? = some digest)
    "guardian already released material for this request")
  check (bailIf (entry.cancelled[request.requestId]?.any fun stored => stored ≠ digest)
    "cancellation digest conflict")
  modify fun entry => { entry with cancelled := entry.cancelled.insert request.requestId digest }
  let transcript ← check (wire (Wire.ownerCancel certificate))
  check (signed crypto entry.provision.signingSeed Wire.ownerCancelAck
    (fun ack signature => { ack with guardianSignature := signature }) .cancellationAccepted
    (mailboxCancelAck entry request digest (crypto.sha256 transcript)))

/-- The pending request a Release finds, authorized by a machine built from it. -/
def mailboxReleaseChecks (entry : GuardianEntry) (request : RecoveryRequest)
    (certificate : ReleaseCertificate) (digest : Id32) : Except String Unit := do
  let policy := entry.provision.record.policy
  validateReleaseForPolicy crypto certificate policy request call.wallNow
  let pending ← okOr entry.pending[request.requestId]? "Begin was not observed"
  bailIf (pending.bootId ≠ call.bootId) "guardian rebooted during delay and fails closed"
  let out ← onFresh (.new policy.configId policy.configVersion)
    (GuardianMachine.beginAt pending.request pending.requestDigest pending.acceptedWallTime
      pending.startedMonotonic policy.minimumRecoveryDelay true)
  let _ ← onFresh out.2 (GuardianMachine.authorizeReleaseAt request.requestId digest call.wallNow
    call.monotonicNow true true)
  .ok ()

/-- The first byte flipped, on a guardian told to corrupt what it gives out. -/
def corrupted (fragment : Bytes) : Bytes :=
  match corruptContribution, fragment with
  | true, byte :: rest => (byte ^^^ 1) :: rest
  | _, fragment => fragment

/-- The guardian's material for a request, before it is signed. -/
def mailboxContribution (entry : GuardianEntry) (request : RecoveryRequest) (digest : Id32) :
    GuardianContribution where
  protocolVersion := protocolVersion
  configId := request.configId
  configVersion := request.configVersion
  requestId := request.requestId
  requestDigest := digest
  guardianIndex := entry.provision.record.guardianIndex
  ciphertextFragment := corrupted corruptContribution entry.provision.record.ciphertextFragment
  encryptedDekShare := entry.provision.record.encryptedDekShare
  merklePathProof := entry.provision.record.merklePathProof
  guardianSignature := []

def mailboxRelease (request : RecoveryRequest) (certificate : ReleaseCertificate)
    (digest : Id32) : Act GuardianEntry MailboxResponse := do
  let entry ← get
  check (mailboxReleaseChecks crypto call entry request certificate digest)
  let response ← check (signed crypto entry.provision.signingSeed Wire.guardianContribution
    (fun contribution signature => { contribution with guardianSignature := signature })
    .guardianContribution (mailboxContribution corruptContribution entry request digest))
  modify fun entry => { entry with released := entry.released.insert request.requestId digest }
  pure response

/-- `guardian_mailbox` on the entry, from the opened request to the response to be saved. -/
def guardianMailbox (action : MailboxRequest) : Act GuardianEntry MailboxResponse := do
  let digest ← check (requestDigest crypto action.request)
  let entry ← get
  if IsRelease action ∧ entry.cancelled[action.request.requestId]? = some digest then
    pure (.releaseRefused "cancelled")
  else
    match action with
    | .guardianBegin certificate => mailboxBegin crypto call certificate digest
    | .guardianCancel request certificate => mailboxCancel crypto call request certificate digest
    | .guardianRelease request certificate =>
      mailboxRelease crypto corruptContribution call request certificate digest
    | .signerApprove _ => check (.error "request is not valid for a guardian")
    | .signerRelease _ => check (.error "request is not valid for a guardian")

end Mailbox

/-! ### One mailbox as a machine -/

/-- `save` is what the file system answers, `sealed` whether the response could be sealed. -/
inductive MailboxInput
  | request (call : MailboxCall) (action : MailboxRequest) (save sealed : Except String Unit)
  | restart
  | flush

/-- The store is saved behind a handled request; the response leaves only then. -/
def settleMailbox (store : Persisted GuardianEntry) (save sealed : Except String Unit) :
    EStateM.Result String GuardianEntry MailboxResponse →
      Persisted GuardianEntry × Option MailboxResponse
  | .error _ entry => ({ store with data := entry }, none)
  | .ok response entry =>
    let out := store.commit entry save response
    (out.2, out.1.toOption.bind fun response => sealed.toOption.map fun _ => response)

/-- What leaves a guardian. -/
def mailboxMachine (crypto : Crypto) (corruptContribution : Bool) :
    Machine (Persisted GuardianEntry) MailboxInput MailboxResponse where
  step store
    | .request call action save sealed =>
      settleMailbox store save sealed (guardianMailbox crypto corruptContribution call action store.data)
    | .restart => (store.reload, none)
    | .flush => (store.flush, none)

end MasterRecovery
