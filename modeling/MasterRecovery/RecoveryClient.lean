import MasterRecovery.ErasureCoding
import MasterRecovery.KeyDerivation
import MasterRecovery.Lib.Gather
import MasterRecovery.RecoveryExclusion
import MasterRecovery.SecretSharing

/-!
# The recovery client (gp-network/src/client.rs, gp-crypto/src/rotation.rs)

A recovery reads the epoch from the witnesses, has signers approve the request, opens the
descriptor, has guardians begin, has signers vote for the release and collects the guardians'
contributions. The plaintext, its key and the authorization key exist in the client alone.
-/

namespace MasterRecovery
open Checks Transcript Wire Gather

structure RecoveryDescriptorV3 where
  configRef : ConfigRef
  guardians : List GuardianRouteV3
  guardianMaterialRoot : Id32
  dataShards : UInt16
  totalShards : UInt16
  ciphertextLen : UInt64
  payloadNonce : BitVec 192
  dpssSuite : DpssSuiteId
  dpssPublicPackage : Bytes
  dpssPublicCommitment : Id32
  deriving DecidableEq

/-- What FROST has for a dealer: the secret shares in the order of their participants, the key
package of a share, and the interpolation. -/
structure FrostDealer where
  generateWithDealer : UInt16 → UInt16 → Id32 → Option (List Bytes × PublicKeyPackage)
  keyPackageOf : Bytes → Option KeyPackage
  reconstruct : List KeyPackage → Option Bytes

/-- The other libraries of an owner's setup and of a recovery. -/
structure ClientLibs where
  dealer : FrostDealer
  shamir : Shamir
  coder : ReedSolomon
  encodeDescriptor : RecoveryDescriptorV3 → Except String Bytes
  decodeDescriptor : Bytes → Except String RecoveryDescriptorV3

/-- `try_into` to 32 bytes. -/
def idOf (bytes : Bytes) : Option Id32 :=
  if bytes.length = 32 then some (BitVec.ofNat 256 (numberOf bytes)) else none

def RecoverStop.text : RecoverStop → String
  | .refused error => error.text
  | .outOfRange => "index out of bounds"

/-! ### The shares of the payload key (gp-crypto/src/rotation.rs) -/

def frostScalarLen : ℕ := 32

section Frost

variable (frost : Frost) (dealer : FrostDealer)

/-- The loop of `frost_recover_dek`. -/
def decodePackages (threshold : UInt16) (identifiers : Finset ℕ) (verifyingKey : Option Bytes)
    (packages : List KeyPackage) : List Bytes → Except CryptoError (List KeyPackage)
  | [] => .ok packages
  | encoded :: shares => do
    let package ← decodeShare frost encoded
    bailIf (package.minSigners ≠ threshold ∨ package.identifier ∈ identifiers ∨
      ∃ key ∈ verifyingKey, key ≠ package.verifyingKey) .invalidFrostParticipant
    decodePackages threshold (insert package.identifier identifiers) (some package.verifyingKey)
      (packages ++ [package]) shares

def frostRecoverDek (shares : List Bytes) (threshold : UInt16) : Except CryptoError Bytes := do
  bailIf (threshold < 2 ∨ shares.length < threshold.toNat) .insufficientShares
  let packages ← decodePackages frost threshold ∅ none [] shares
  let secret ← okOr (dealer.reconstruct packages) .invalidFrost
  bailIf (secret.length ≠ frostScalarLen) .invalidFrost
  .ok secret

structure EpochFrostShare where
  configRef : ConfigRef
  encodedShare : Bytes

def frostRecoverDekForEpoch (shares : List EpochFrostShare) (expected : ConfigRef)
    (threshold : UInt16) : Except CryptoError Bytes := do
  bailIf (∃ share ∈ shares, share.configRef ≠ expected) .invalidFrostParticipant
  frostRecoverDek frost dealer (shares.map (·.encodedShare)) threshold

end Frost

/-! ### What a client checks -/

section Checked

variable (crypto : Crypto) (vault : Vault)

def validateRecoveryDescriptorV3 (descriptor : RecoveryDescriptorV3) (capsule : ConfigCapsuleV3) :
    Except String Unit := do
  let mismatch := "Recovery Descriptor does not match the authenticated v3 capsule"
  bailIf (descriptor.configRef ≠ capsule.configRef ∨
    descriptor.guardianMaterialRoot ≠ capsule.guardianMaterialRoot ∨
    descriptor.dataShards ≠ capsule.guardianThreshold ∨
    descriptor.totalShards ≠ capsule.guardianCount ∨
    descriptor.guardians.length ≠ capsule.guardianCount.toNat ∨
    ¬(descriptor.guardians.map (·.guardianIndex)).Nodup ∨
    descriptor.dpssSuite ≠ capsule.dpssSuite ∨
    descriptor.dpssPublicCommitment ≠ capsule.dpssPublicCommitment) mismatch
  let digest ← crypt (frostPublicPackageDigest crypto vault.frost descriptor.dpssPublicPackage)
  bailIf (digest ≠ capsule.dpssPublicCommitment) mismatch

/-- The policy a client takes from the capsule. -/
def capsulePolicy (capsule : ConfigCapsuleV3) : GuardianPolicyV3 :=
  { policyOf capsule .active with
    activationQcHash := capsule.activationQc.map fun qc =>
      crypto.sha256 ((epochActivationQc qc).toOption.getD []) }

/-- The leaf a client computes for a contribution. -/
def contributionLeaf (capsule : ConfigCapsuleV3) (route : GuardianRouteV3)
    (contribution : GuardianRecoveryContributionV3) : Except String PreparedRecordLeaf := do
  let policyBody ← wire (guardianPolicyBodyV3 (capsulePolicy crypto capsule))
  .ok { guardianIndex := contribution.guardianIndex
        fragmentIndex := contribution.fragmentIndex
        opaqueSlotId := route.opaqueSlotId
        encryptedShareHash := hashAead crypto contribution.encryptedDekShare
        fragmentHash := hashAead crypto contribution.encryptedCiphertextFragment
        policyHash := crypto.sha256 policyBody }

/-- What a contribution must pass before it is decrypted. -/
def contributionChecks (contribution : GuardianRecoveryContributionV3) (route : GuardianRouteV3)
    (descriptor : RecoveryDescriptorV3) (capsule : ConfigCapsuleV3) (request : RecoveryRequestV3) :
    Except String Unit := do
  let unbound := "guardian contribution is not bound to the exact recovery transcript"
  bailIf (contribution.configRef ≠ request.configRef ∨
    contribution.requestId ≠ request.requestId) unbound
  let digest ← recoveryRequestDigestV3 crypto request
  bailIf (contribution.requestDigest ≠ digest ∨
    contribution.recoveryRecipientKey ≠ request.recoveryRecipientKey ∨
    contribution.nonce ≠ request.nonce ∨ contribution.guardianIndex ≠ route.guardianIndex) unbound
  let transcript ← wire (guardianRecoveryContributionV3 contribution)
  crypt (crypto.verify route.guardianPublicKey transcript contribution.guardianSignature)
  let leaf ← contributionLeaf crypto capsule route contribution
  let position ← okOr
    (descriptor.guardians.findIdx? fun candidate =>
      candidate.guardianIndex = contribution.guardianIndex)
    "guardian contribution is outside the descriptor roster"
  let leafTranscript ← wire (preparedRecordLeafV3 leaf)
  crypt (crypto.merkleVerify descriptor.guardianMaterialRoot (crypto.sha256 leafTranscript) position
    descriptor.guardians.length contribution.merklePathProof)

/-- The share and the fragment of a contribution. -/
def decryptContribution (contribution : GuardianRecoveryContributionV3)
    (descriptor : RecoveryDescriptorV3) (request : RecoveryRequestV3) (authorizationKey : Id32) :
    Except String (Bytes × Bytes) := do
  let shareKey ← crypt (guardianShareKeyV3 vault authorizationKey request.configRef
    contribution.guardianIndex)
  let shareContext ← wire (guardianShareContextV3 request.configRef contribution.guardianIndex)
  let share ← crypt (vault.aeadDecrypt (idBytes shareKey) contribution.encryptedDekShare
    shareContext)
  let participant ← crypt (frostVerifyShare vault.frost share descriptor.dpssPublicPackage)
  bailIf (participant ≠ contribution.guardianIndex)
    "guardian returned a FROST share for another participant"
  let fragmentKey ← crypt (guardianFragmentKeyV3 vault authorizationKey request.configRef
    contribution.guardianIndex)
  let fragmentContext ← wire (guardianFragmentContextV3 request.configRef
    contribution.guardianIndex contribution.fragmentIndex)
  let fragment ← crypt (vault.aeadDecrypt (idBytes fragmentKey)
    contribution.encryptedCiphertextFragment fragmentContext)
  .ok (share, fragment)

def openGuardianContributionV3 (contribution : GuardianRecoveryContributionV3)
    (route : GuardianRouteV3) (descriptor : RecoveryDescriptorV3) (capsule : ConfigCapsuleV3)
    (request : RecoveryRequestV3) (authorizationKey : Id32) : Except String (Bytes × Bytes) := do
  contributionChecks crypto contribution route descriptor capsule request
  decryptContribution vault contribution descriptor request authorizationKey

end Checked

/-! ### One recovery -/

/-- The card with the mailboxes of the signers. -/
structure ClientCardV3 extends RecoveryCardV3 where
  signerMailboxes : List String

/-- The answers that reach the client: from the party at a place of its roster, to what it was
asked. A party that is not reached or that answers with what does not open has none. -/
structure RecoveryNetwork where
  read : ℕ → EpochReadChallenge → Option WitnessReadEnvelope
  signer : ℕ → SignerRecoveryRequestV3 → Option SignerRecoveryResponseV3
  guardian : ℕ → GuardianRecoveryRequestV3 → Option GuardianRecoveryResponseV3

/-- What the client draws, and the wall clock where it looks at it. -/
structure RecoveryRun where
  recipientSeed : Id32
  clientNonce : Id32
  requestId : Id32
  nonce : Id32
  readAt : UInt64
  requestedAt : UInt64
  begunAt : UInt64
  releasedAt : UInt64

/-- `NetworkDemoResult`, with the plaintext as it is written out. -/
structure NetworkDemoResult where
  configId : Id32
  requestId : Id32
  recoveredSecret : Bytes
  signerContributions : ℕ
  guardianContributions : ℕ
  rejectedGuardians : List UInt16
  deriving DecidableEq

structure OpenedContribution where
  share : EpochFrostShare
  fragment : UInt16 × Bytes

def SignerRecoveryResponseV3.toContribution :
    SignerRecoveryResponseV3 → Option SignerRecoveryContributionV3
  | .contribution sent => some sent
  | .releaseVote _ => none

def SignerRecoveryResponseV3.toReleaseVote :
    SignerRecoveryResponseV3 → Option SignerRecoveryReleaseVoteV3
  | .contribution _ => none
  | .releaseVote vote => some vote

def GuardianRecoveryResponseV3.toContribution :
    GuardianRecoveryResponseV3 → Option GuardianRecoveryContributionV3
  | .contribution sent => some sent
  | .beginAccepted _ => none
  | .cancelled _ => none

def GuardianRecoveryResponseV3.isBeginAccepted : GuardianRecoveryResponseV3 → Bool
  | .beginAccepted _ => true
  | .cancelled _ => false
  | .contribution _ => false

section Client

variable (crypto : Crypto) (vault : Vault) (libs : ClientLibs) (network : RecoveryNetwork)
  (run : RecoveryRun) (card : ClientCardV3)

def RecoveryRun.challenge : EpochReadChallenge where
  protocolVersion := protocolVersionV3
  configId := card.configId
  clientNonce := run.clientNonce
  responseRecipientKey := vault.recipientPublicKey run.recipientSeed
  issuedAt := run.readAt
  expiry := saturatingAdd run.readAt 60

/-- The envelopes the pinned witnesses send. -/
def readEnvelopes (challenge : EpochReadChallenge) : List WitnessReadEnvelope :=
  (List.range card.witnesses.length).filterMap fun position => network.read position challenge

def readLatestEpochV3 : Except String ConfigCapsuleV3 := do
  validateRecoveryCardV3 card.toRecoveryCardV3
  let challenge := run.challenge vault card
  selectLatestEpochV3 crypto card.toRecoveryCardV3 challenge (readEnvelopes network card challenge)

def RecoveryRun.request (capsule : ConfigCapsuleV3) : RecoveryRequestV3 where
  protocolVersion := protocolVersionV3
  configRef := capsule.configRef
  requestId := run.requestId
  recoveryRecipientKey := vault.recipientPublicKey run.recipientSeed
  requestedAt := run.requestedAt
  nonce := run.nonce
  expiry := saturatingAdd run.requestedAt capsule.maxRequestLifetime

/-- Signers are asked in the order of the card; what they answer is not looked into. -/
def askSigners {β : Type} (wanted : UInt16) (asked : SignerRecoveryRequestV3)
    (answer : SignerRecoveryResponseV3 → Option β) (tooFew : String) : Except String (List β) := do
  let kept := (gather wanted.toNat
    (fun _ position => okOr ((network.signer position asked).bind answer) ()) [] []
    (List.range card.signerMailboxes.length)).1
  bailIf (kept.length < wanted.toNat) tooFew
  .ok kept

/-- The Begin certificate, from the first contributions that reach the threshold. -/
def approveRecovery (capsule : ConfigCapsuleV3) : Except String BeginRecoveryCertificateV3 := do
  let request := run.request vault capsule
  let challenge := run.challenge vault card
  let contributions ← askSigners network card capsule.signerThreshold
    (.approve request challenge (readEnvelopes network card challenge))
    SignerRecoveryResponseV3.toContribution
    "protocol-v3 signer approval threshold was not reached"
  let digest ← recoveryRequestDigestV3 crypto request
  let certificate : BeginRecoveryCertificateV3 := ⟨request, digest, contributions⟩
  let _ ← validateBeginRecoveryCertificateV3 crypto certificate capsule run.begunAt
  .ok certificate

def openAuthorizationShare (request : RecoveryRequestV3)
    (contribution : SignerRecoveryContributionV3) : Except String Bytes := do
  let context ← wire (recoveryAuthorizationShareContextV3 request contribution.signerId)
  crypt (openSealed vault run.recipientSeed contribution.encryptedAuthorizationShare context)

def reconstructAuthorizationKey (capsule : ConfigCapsuleV3)
    (certificate : BeginRecoveryCertificateV3) : Except String Id32 := do
  let shares ← certificate.signerContributions.mapM
    (openAuthorizationShare vault run certificate.request)
  let key ← (recoverSecret libs.shamir shares capsule.signerThreshold).mapError RecoverStop.text
  okOr (idOf key) "reconstructed A has the wrong length"

def openDescriptorV3 (capsule : ConfigCapsuleV3) (authorizationKey : Id32) :
    Except String RecoveryDescriptorV3 := do
  let key ← crypt (descriptorKeyV3 vault authorizationKey capsule.configRef)
  let context ← wire (descriptorContextV3 capsule.configRef)
  let plaintext ← crypt (vault.aeadDecrypt (idBytes key) capsule.encryptedRecoveryDescriptor
    context)
  let descriptor ← libs.decodeDescriptor plaintext
  validateRecoveryDescriptorV3 crypto vault descriptor capsule
  .ok descriptor

/-- How many guardians accept the Begin. -/
def begunGuardians (descriptor : RecoveryDescriptorV3) (certificate : BeginRecoveryCertificateV3) :
    ℕ :=
  (List.range descriptor.guardians.length).countP fun position =>
    (network.guardian position (.begin certificate)).any
      GuardianRecoveryResponseV3.isBeginAccepted

/-- The release certificate, from the first votes that reach the threshold. -/
def releaseRecovery (capsule : ConfigCapsuleV3) (begun : BeginRecoveryCertificateV3) :
    Except String RecoveryReleaseCertificateV3 := do
  let votes ← askSigners network card capsule.signerThreshold (.release begun.request)
    SignerRecoveryResponseV3.toReleaseVote "protocol-v3 signer Release threshold was not reached"
  let certificate : RecoveryReleaseCertificateV3 := ⟨begun.request, begun.requestDigest, votes⟩
  let _ ← validateRecoveryReleaseCertificateForRefV3 crypto certificate capsule capsule.configRef
    run.releasedAt
  .ok certificate

/-- The contribution of the guardian at a place of the roster, opened; its index if it is
rejected. -/
def askedContribution (capsule : ConfigCapsuleV3) (descriptor : RecoveryDescriptorV3)
    (authorizationKey : Id32) (certificate : RecoveryReleaseCertificateV3)
    (entry : GuardianRouteV3 × ℕ) : Except UInt16 OpenedContribution :=
  match (network.guardian entry.2 (.release certificate.request certificate)).bind
    GuardianRecoveryResponseV3.toContribution with
  | none => .error entry.1.guardianIndex
  | some contribution =>
    match openGuardianContributionV3 crypto vault contribution entry.1 descriptor capsule
      certificate.request authorizationKey with
    | .ok opened => .ok ⟨⟨capsule.configRef, opened.1⟩, contribution.fragmentIndex, opened.2⟩
    | .error _ => .error entry.1.guardianIndex

def collectContributions (capsule : ConfigCapsuleV3) (descriptor : RecoveryDescriptorV3)
    (authorizationKey : Id32) (certificate : RecoveryReleaseCertificateV3) :
    Except String (List OpenedContribution × List UInt16) := do
  let collected := gather capsule.guardianThreshold.toNat
    (fun _ => askedContribution crypto vault network capsule descriptor authorizationKey
      certificate) [] [] descriptor.guardians.zipIdx
  bailIf (collected.1.length < capsule.guardianThreshold.toNat)
    "protocol-v3 guardian threshold was not reached"
  .ok collected

/-- The payload under the key of the shares, from the fragments. -/
def openPayload (capsule : ConfigCapsuleV3) (descriptor : RecoveryDescriptorV3)
    (opened : List OpenedContribution) : Except String Bytes := do
  let dek ← crypt (frostRecoverDekForEpoch vault.frost libs.dealer (opened.map (·.share))
    capsule.configRef capsule.guardianThreshold)
  let ciphertext ← crypt (erasureReconstruct libs.coder (opened.map (·.fragment))
    descriptor.dataShards descriptor.totalShards descriptor.ciphertextLen.toNat)
  let context ← wire (payloadContextV3 capsule.configRef.configId
    capsule.configRef.payloadGeneration)
  crypt (vault.aeadDecrypt dek ⟨descriptor.payloadNonce, ciphertext⟩ context)

/-- What follows the read of the epoch. -/
def recoverEpoch (capsule : ConfigCapsuleV3) : Except String NetworkDemoResult := do
  let begun ← approveRecovery crypto vault network run card capsule
  let authorizationKey ← reconstructAuthorizationKey vault libs run capsule begun
  let descriptor ← openDescriptorV3 crypto vault libs capsule authorizationKey
  bailIf (begunGuardians network descriptor begun < capsule.guardianThreshold.toNat)
    "not enough protocol-v3 guardians accepted Begin"
  let release ← releaseRecovery crypto network run card capsule begun
  let collected ← collectContributions crypto vault network capsule descriptor authorizationKey
    release
  let plaintext ← openPayload vault libs capsule descriptor collected.1
  .ok { configId := capsule.configRef.configId
        requestId := run.requestId
        recoveredSecret := plaintext
        signerContributions := capsule.signerThreshold.toNat
        guardianContributions := collected.1.length
        rejectedGuardians := collected.2 }

def recoverV3 : Except String NetworkDemoResult := do
  let capsule ← readLatestEpochV3 crypto vault network run card
  recoverEpoch crypto vault libs network run card capsule

end Client

end MasterRecovery
