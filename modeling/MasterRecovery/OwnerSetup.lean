import MasterRecovery.GuardianIndices
import MasterRecovery.MailboxRouting
import MasterRecovery.RecoveryClient

/-!
# The owner's setup (gp-network/src/client.rs, gp-crypto/src/rotation.rs)

The owner deals the authorization key to the signers and the payload key to the guardians, seals
the material of the first epoch, and sends every party what it is to hold. Parties are reached over
HTTP; what they say of themselves, and what is drawn at random, are parameters.
-/

namespace MasterRecovery
open Checks Transcript Wire

/-! ### The dealer (gp-crypto/src/rotation.rs) -/

structure FrostDealerOutput where
  dek : Bytes
  shares : List Bytes
  publicPackage : Bytes

section Dealer

variable (frost : Frost) (dealer : FrostDealer)

def keyPackages : List Bytes → Except CryptoError (List KeyPackage)
  | [] => .ok []
  | secretShare :: secretShares => do
    let package ← okOr (dealer.keyPackageOf secretShare) .invalidFrost
    let packages ← keyPackages secretShares
    .ok (package :: packages)

/-- The key is read back from the first shares that reach the threshold. -/
def frostDealerSplit (threshold total : UInt16) (seed : Id32) :
    Except CryptoError FrostDealerOutput := do
  validateThreshold threshold total
  let dealt ← okOr (dealer.generateWithDealer total threshold seed) .invalidFrost
  bailIf (dealt.1.length ≠ total.toNat) .invalidFrost
  let packages ← keyPackages dealer dealt.1
  let shares ← packages.mapM (encodeShare frost)
  let dek ← okOr (dealer.reconstruct (packages.take threshold.toNat)) .invalidFrost
  bailIf (dek.length ≠ frostScalarLen) .invalidFrost
  let publicPackage ← encodePublic frost dealt.2
  .ok ⟨dek, shares, publicPackage⟩

end Dealer

/-! ### What the owner starts from -/

structure NodeInfo where
  protocolVersion : UInt16
  nodeId : String
  role : String
  transportPublicKey : Bytes
  signingPublicKey : Option PublicKey

structure SetupV3Options where
  secret : Bytes
  relays : List String
  signers : List String
  guardians : List String
  witnesses : List String
  signerThreshold : UInt16
  guardianThreshold : UInt16
  witnessFaultBound : UInt16
  delaySecs : UInt64

/-- What is drawn at random, for a party by its offset. -/
structure SetupDraws where
  authorizationKey : Id32
  sharingSeed : Id32
  signerSeed : ℕ → Id32
  ownerCancelSeed : Id32
  configId : Id32
  epochBinding : Id32
  signerMailbox : ℕ → Id32
  guardianSeed : ℕ → Id32
  slotId : ℕ → Id32
  guardianMailbox : ℕ → Id32
  frostSeed : Id32
  payloadNonce : BitVec 192
  shareNonce : ℕ → BitVec 192
  fragmentNonce : ℕ → BitVec 192
  descriptorNonce : BitVec 192

/-- A signer's provision as it comes out of its envelope. -/
structure SignerRotationProvision where
  mailbox : String
  provision : SignerRotationProvisionV3

/-- The card and capsule, and what each signer, guardian and witness is sent. -/
structure OwnerSetup where
  card : ClientCardV3
  capsule : ConfigCapsuleV3
  signers : List SignerRotationProvision
  guardians : List GuardianRotationProvision
  witnesses : List WitnessConfigProvision

def hexDigit (value : ℕ) : Char := "0123456789abcdef".toList.getD value '0'

def hexEncode (id : Id32) : List Char :=
  (idBytes id).flatMap fun byte => [hexDigit (byte.toNat / 16), hexDigit (byte.toNat % 16)]

def mailboxUrlV3 (relay : List Char) (id : Id32) : String :=
  String.ofList (relay ++ "/v3/mailboxes/".toList ++ hexEncode id)

/-- `mailbox_id` of the client; the servers' has another text. -/
def clientMailboxId (mailboxUrl : String) : Except String String :=
  (mailboxId mailboxUrl).mapError fun _ => "invalid mailbox URL"

/-- Nodes of one role: each target, node and key once. -/
def fetchNodeInfosV3 (answer : String → Option NodeInfo) (expectedRole : String)
    (targets : Finset (List Char)) (nodeIds : Finset String) (transportKeys : Finset Bytes)
    (signingKeys : Finset PublicKey) : List String → Except String (List NodeInfo)
  | [] => .ok []
  | target :: rest => do
    let normalized := trimEnd target
    bailIf (normalized = [] ∨ normalized ∈ targets)
      s!"duplicate or empty {expectedRole} target"
    let info ← okOr (answer (String.ofList normalized)) "node info is not available"
    bailIf (info.protocolVersion ≠ protocolVersionV3 ∨ info.role ≠ expectedRole ∨
      info.nodeId = "" ∨ info.transportPublicKey.length ≠ xwingPublicKeyLen ∨
      info.signingPublicKey.isNone ∨ info.nodeId ∈ nodeIds ∨
      info.transportPublicKey ∈ transportKeys ∨ info.signingPublicKey.getD 0 ∈ signingKeys)
      s!"node {target} is malformed, duplicated, or has role {info.role}, expected {expectedRole}"
    let infos ← fetchNodeInfosV3 answer expectedRole (insert normalized targets)
      (insert info.nodeId nodeIds) (insert info.transportPublicKey transportKeys)
      (insert (info.signingPublicKey.getD 0) signingKeys) rest
    .ok (info :: infos)

section Setup

variable (crypto : Crypto) (vault : Vault) (libs : ClientLibs) (answer : String → Option NodeInfo)
  (options : SetupV3Options) (draws : SetupDraws)

structure SetupActors where
  signerCount : UInt16
  guardianCount : UInt16
  guardians : List NodeInfo
  witnesses : List NodeInfo

/-- `u16::try_from` of a length. -/
def countOf (targets : List String) : Except String UInt16 := do
  bailIf (2 ^ 16 ≤ targets.length) "out of range integral type conversion attempted"
  .ok (UInt16.ofNat targets.length)

def setupActors : Except String SetupActors := do
  let signerCount ← countOf options.signers
  let guardianCount ← countOf options.guardians
  bailIf (options.relays = [] ∨ signerCount < options.signerThreshold ∨
    options.signerThreshold = 0 ∨ guardianCount < options.guardianThreshold ∨
    options.guardianThreshold < 2 ∨ options.witnessFaultBound = 0 ∨
    options.witnesses.length < requiredWitnessRoster options.witnessFaultBound)
    "invalid protocol-v3 setup actor counts or thresholds"
  let _ ← fetchNodeInfosV3 answer "signer" ∅ ∅ ∅ ∅ options.signers
  let guardians ← fetchNodeInfosV3 answer "guardian" ∅ ∅ ∅ ∅ options.guardians
  let witnesses ← fetchNodeInfosV3 answer "witness" ∅ ∅ ∅ ∅ options.witnesses
  .ok ⟨signerCount, guardianCount, guardians, witnesses⟩

/-- The id of the party at an offset. -/
def idAt (offset : ℕ) : UInt16 := UInt16.ofNat (offset + 1)

def signerKey (offset : ℕ) : PublicKey := crypto.verifyingKeyBytes (draws.signerSeed offset)

def signerPublicKeys (signerCount : UInt16) : List (UInt16 × PublicKey) :=
  (List.range signerCount.toNat).map fun offset => (idAt offset, signerKey crypto draws offset)

structure SetupSigners where
  shares : List Bytes
  root : Id32
  proofs : List MerkleProofBytes

def setupSigners (signerCount : UInt16) : Except String SetupSigners := do
  let shares ← crypt (splitSecret libs.shamir (idBytes draws.authorizationKey)
    options.signerThreshold signerCount draws.sharingSeed)
  let leaves ← signerLeaves crypto (signerPublicKeys crypto draws signerCount)
  let tree ← crypt (crypto.merkleCommit leaves)
  .ok ⟨shares, tree.1, tree.2⟩

def SetupDraws.configRef : ConfigRef where
  configId := draws.configId
  payloadGeneration := 1
  authorizationEpoch := 1
  guardianEpoch := 1
  epochBinding := draws.epochBinding

/-- The base of every mailbox: the first relay. -/
def SetupV3Options.relayBase : List Char := trimEnd (options.relays.headD "")

def setupRoute (info : NodeInfo) (offset : ℕ) : GuardianRouteV3 where
  guardianIndex := idAt offset
  opaqueSlotId := draws.slotId offset
  mailbox := mailboxUrlV3 options.relayBase (draws.guardianMailbox offset)
  guardianPublicKey := crypto.verifyingKeyBytes (draws.guardianSeed offset)
  sessionRecipientKey := info.transportPublicKey
  operatorDomainCommitment := crypto.sha256 info.nodeId.toUTF8.data.toList

def setupRoutes (guardians : List NodeInfo) : List GuardianRouteV3 :=
  guardians.zipIdx.map fun entry => setupRoute crypto options draws entry.1 entry.2

structure SetupPayload where
  frost : FrostDealerOutput
  ciphertext : AeadCiphertext
  fragments : List Bytes
  fragmentRoot : Id32
  dpssPublicCommitment : Id32

def setupPayload (guardianCount : UInt16) : Except String SetupPayload := do
  let frost ← crypt (frostDealerSplit vault.frost libs.dealer options.guardianThreshold
    guardianCount draws.frostSeed)
  let context ← wire (payloadContextV3 draws.configId 1)
  let ciphertext ← crypt (vault.aeadEncrypt frost.dek draws.payloadNonce options.secret context)
  let fragments ← crypt (erasureEncode libs.coder ciphertext.ciphertext options.guardianThreshold
    guardianCount)
  let tree ← crypt (commitCiphertextFragments crypto draws.configId 1 fragments)
  let dpssPublicCommitment ← crypt (frostPublicPackageDigest crypto vault.frost
    frost.publicPackage)
  .ok ⟨frost, ciphertext, fragments, tree.1, dpssPublicCommitment⟩

/-- The policy every record is hashed under; the material root is not part of its body. -/
def setupPolicy (signerCount : UInt16) (signerRoot dpssPublicCommitment : Id32) :
    GuardianPolicyV3 where
  configRef := draws.configRef
  epochState := .active
  signerSetCommitment := signerRoot
  signerCount := signerCount
  signerThreshold := options.signerThreshold
  ownerCancelPublicKey := crypto.verifyingKeyBytes draws.ownerCancelSeed
  minimumRecoveryDelay := options.delaySecs
  guardianMaterialRoot := 0
  dpssSuite := .zfFrostRistretto255RtsRefreshV1
  dpssPublicCommitment := dpssPublicCommitment
  predecessorCapsuleHash := 0
  activationQcHash := none
  drainDeadline := none

/-- A guardian's record, before it has its Merkle path. -/
def sealRecord (policy : GuardianPolicyV3) (payload : SetupPayload) (route : GuardianRouteV3)
    (offset : ℕ) : Except String GuardianRecordV3 := do
  let shareKey ← crypt (guardianShareKeyV3 vault draws.authorizationKey draws.configRef
    route.guardianIndex)
  let share ← okOr payload.frost.shares[offset]? "index out of bounds"
  let shareContext ← wire (guardianShareContextV3 draws.configRef route.guardianIndex)
  let encryptedDekShare ← crypt (vault.aeadEncrypt (idBytes shareKey) (draws.shareNonce offset)
    share shareContext)
  let fragmentKey ← crypt (guardianFragmentKeyV3 vault draws.authorizationKey draws.configRef
    route.guardianIndex)
  let fragment ← okOr payload.fragments[offset]? "index out of bounds"
  let fragmentContext ← wire (guardianFragmentContextV3 draws.configRef route.guardianIndex
    (idAt offset))
  let encryptedCiphertextFragment ← crypt (vault.aeadEncrypt (idBytes fragmentKey)
    (draws.fragmentNonce offset) fragment fragmentContext)
  let root ← crypt (custodyRoot crypto
    (custodyBytes encryptedDekShare encryptedCiphertextFragment))
  .ok { opaqueSlotId := route.opaqueSlotId
        guardianIndex := route.guardianIndex
        fragmentIndex := idAt offset
        encryptedCiphertextFragment := encryptedCiphertextFragment
        encryptedDekShare := encryptedDekShare
        merklePathProof := []
        custodyRoot := root
        policy := policy }

/-- The hash a record is committed to by. -/
def leafHash (record : GuardianRecordV3) : Except String Id32 := do
  let leaf ← recordLeaf crypto record
  let transcript ← wire (preparedRecordLeafV3 leaf)
  .ok (crypto.sha256 transcript)

/-- A record with its path and the root of the material. -/
def placeRecord (root : Id32) (record : GuardianRecordV3) (proof : MerkleProofBytes) :
    GuardianRecordV3 :=
  { record with
    policy := { record.policy with guardianMaterialRoot := root }
    merklePathProof := proof }

/-- The material root and the records under it. -/
def setupRecords (policy : GuardianPolicyV3) (payload : SetupPayload)
    (routes : List GuardianRouteV3) : Except String (Id32 × List GuardianRecordV3) := do
  let records ← routes.zipIdx.mapM fun entry =>
    sealRecord crypto vault draws policy payload entry.1 entry.2
  let leaves ← records.mapM (leafHash crypto)
  let tree ← crypt (crypto.merkleCommit leaves)
  .ok (tree.1, List.zipWith (placeRecord tree.1) records tree.2)

def setupDescriptor (guardianCount : UInt16) (payload : SetupPayload)
    (routes : List GuardianRouteV3) (root : Id32) : RecoveryDescriptorV3 where
  configRef := draws.configRef
  guardians := routes
  guardianMaterialRoot := root
  dataShards := options.guardianThreshold
  totalShards := guardianCount
  ciphertextLen := UInt64.ofNat payload.ciphertext.ciphertext.length
  payloadNonce := payload.ciphertext.nonce
  dpssSuite := .zfFrostRistretto255RtsRefreshV1
  dpssPublicPackage := payload.frost.publicPackage
  dpssPublicCommitment := payload.dpssPublicCommitment

def sealDescriptor (descriptor : RecoveryDescriptorV3) : Except String AeadCiphertext := do
  let key ← crypt (descriptorKeyV3 vault draws.authorizationKey draws.configRef)
  let encoded ← libs.encodeDescriptor descriptor
  let context ← wire (descriptorContextV3 draws.configRef)
  crypt (vault.aeadEncrypt (idBytes key) draws.descriptorNonce encoded context)

/-- The capsule, before it is hashed. -/
def setupCapsule (actors : SetupActors) (signerRoot : Id32) (payload : SetupPayload) (root : Id32)
    (encryptedRecoveryDescriptor : AeadCiphertext) : ConfigCapsuleV3 where
  protocolVersion := protocolVersionV3
  configRef := draws.configRef
  capsuleHash := 0
  predecessorCapsuleHash := 0
  signerCount := actors.signerCount
  signerThreshold := options.signerThreshold
  guardianCount := actors.guardianCount
  guardianThreshold := options.guardianThreshold
  minimumRecoveryDelay := options.delaySecs
  maxRequestLifetime := 7 * 24 * 60 * 60
  signerSetCommitment := signerRoot
  ownerCancelPublicKey := crypto.verifyingKeyBytes draws.ownerCancelSeed
  dpssSuite := .zfFrostRistretto255RtsRefreshV1
  dpssPublicCommitment := payload.dpssPublicCommitment
  ciphertextFragmentRoot := payload.fragmentRoot
  guardianMaterialRoot := root
  encryptedRecoveryDescriptor := encryptedRecoveryDescriptor
  activationCertificate := none
  activationQc := none

def witnessPin (target : String) (info : NodeInfo) (offset : ℕ) : Except String WitnessPin := do
  bailIf (2 ^ 16 ≤ offset + 1) "out of range integral type conversion attempted"
  let key ← okOr info.signingPublicKey "v3 witness did not expose a signing public key"
  .ok ⟨idAt offset, String.ofList (trimEnd target), key⟩

def setupPins (witnesses : List NodeInfo) : Except String (List WitnessPin) :=
  (List.zip options.witnesses witnesses).zipIdx.mapM fun entry =>
    witnessPin entry.1.1 entry.1.2 entry.2

def setupCard (signerCount : UInt16) (signerRoot : Id32) (pins : List WitnessPin) :
    ClientCardV3 where
  protocolVersion := protocolVersionV3
  configId := draws.configId
  signerSetCommitment := signerRoot
  ownerCancelPublicKey := crypto.verifyingKeyBytes draws.ownerCancelSeed
  witnessFaultBound := options.witnessFaultBound
  witnesses := pins
  signerMailboxes := (List.range signerCount.toNat).map fun offset =>
    mailboxUrlV3 options.relayBase (draws.signerMailbox offset)

/-! #### What each party is sent -/

def signerProvision (setup : SetupSigners) (card : RecoveryCardV3) (capsule : ConfigCapsuleV3)
    (offset : ℕ) : Except String SignerRotationProvision := do
  let mailbox ← clientMailboxId (mailboxUrlV3 options.relayBase (draws.signerMailbox offset))
  .ok { mailbox := mailbox
        provision :=
          { signerId := idAt offset
            authorizationShare := setup.shares.getD offset []
            signingSeed := draws.signerSeed offset
            signingPublicKey := signerKey crypto draws offset
            membershipProof := setup.proofs.getD offset []
            recoveryCard := card
            activeCapsule := capsule } }

def guardianProvision (card : RecoveryCardV3) (capsule : ConfigCapsuleV3)
    (signers : List (UInt16 × PublicKey)) (record : GuardianRecordV3) (offset : ℕ) :
    Except String GuardianRotationProvision := do
  let mailbox ← clientMailboxId (mailboxUrlV3 options.relayBase (draws.guardianMailbox offset))
  .ok { mailbox := mailbox
        signerPublicKeys := .ofList signers
        provision :=
          { signingSeed := draws.guardianSeed offset
            signingPublicKey := crypto.verifyingKeyBytes (draws.guardianSeed offset)
            recoveryCard := card
            predecessorCapsule := capsule
            epochStore := .new record capsule.capsuleHash } }

def witnessProvisionOf (card : RecoveryCardV3) (capsule : ConfigCapsuleV3)
    (signers : List (UInt16 × PublicKey)) (offset : ℕ) : WitnessConfigProvision where
  witnessId := idAt offset
  capsule := capsule
  signerPublicKeys := .ofList signers
  witnessPublicKeys := .ofList (card.witnesses.map fun pin => (pin.witnessId, pin.publicKey))
  witnessFaultBound := card.witnessFaultBound

def setupV3 : Except String OwnerSetup := do
  let actors ← setupActors answer options
  let signers ← setupSigners crypto libs options draws actors.signerCount
  let routes := setupRoutes crypto options draws actors.guardians
  let payload ← setupPayload crypto vault libs options draws actors.guardianCount
  let policy := setupPolicy crypto options draws actors.signerCount signers.root
    payload.dpssPublicCommitment
  let material ← setupRecords crypto vault draws policy payload routes
  let sealedDescriptor ← sealDescriptor vault libs draws
    (setupDescriptor options draws actors.guardianCount payload routes material.1)
  let unhashed := setupCapsule crypto options draws actors signers.root payload material.1
    sealedDescriptor
  let body ← wire (configCapsuleBodyV3 unhashed)
  let capsule := { unhashed with capsuleHash := crypto.sha256 body }
  let pins ← setupPins options actors.witnesses
  let card := setupCard crypto options draws actors.signerCount signers.root pins
  validateActivatedCapsuleV3 crypto card.toRecoveryCardV3 capsule
  let publicKeys := signerPublicKeys crypto draws actors.signerCount
  let signerProvisions ← (List.range actors.signerCount.toNat).mapM
    (signerProvision crypto options draws signers card.toRecoveryCardV3 capsule)
  let guardianProvisions ← material.2.zipIdx.mapM fun entry =>
    guardianProvision crypto options draws card.toRecoveryCardV3 capsule publicKeys entry.1 entry.2
  .ok { card := card
        capsule := capsule
        signers := signerProvisions
        guardians := guardianProvisions
        witnesses := (List.range options.witnesses.length).map
          (witnessProvisionOf card.toRecoveryCardV3 capsule publicKeys) }

end Setup

end MasterRecovery
