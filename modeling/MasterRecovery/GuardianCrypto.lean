import MasterRecovery.GuardianTypes
import MasterRecovery.SignerRuntime

/-!
# Envelopes and share arithmetic (gp-crypto/src/lib.rs, gp-crypto/src/rotation.rs)

gp-crypto delegates all scalar arithmetic to the FROST library and encryption to X-Wing and
XChaCha20-Poly1305; what it calls there is a parameter. The wrappers are the source's, with
their refusals.
-/

namespace MasterRecovery
open Checks Transcript

/-- A guardian's own state between two rounds of a rotation. -/
inductive LocalDpssState
  | repairDealer (oldShare selfDelta : Bytes)
  | oldShare (share : Bytes)
  | repaired (share : Bytes)
  | refreshed (share publicPackage : Bytes)
  | refreshRound1 (oldShare secretState : Bytes)
  | refreshRound2 (oldShare secretState : Bytes) (round1Messages : List (UInt16 × Bytes))
  deriving DecidableEq

/-! ### The FROST library -/

/-- What the wrappers read of a key package. Participants are the scalars made of their
numbers. -/
structure KeyPackage where
  identifier : ℕ
  minSigners : UInt16
  signingShare : Bytes
  verifyingShare : Bytes
  verifyingKey : Bytes
  deriving DecidableEq

structure PublicKeyPackage where
  verifyingShares : Std.TreeMap ℕ Bytes
  verifyingKey : Bytes
  minSigners : Option UInt16

/-- frost_ristretto255, on encoded deltas, sigmas and round packages. -/
structure Frost where
  keyPackage : Bytes → Option KeyPackage
  serializeKeyPackage : KeyPackage → Option Bytes
  verifyingShareOf : Bytes → Bytes
  publicKeyPackage : Bytes → Option PublicKeyPackage
  serializePublicKeyPackage : PublicKeyPackage → Option Bytes
  repairSharePart1 : List ℕ → KeyPackage → Id32 → ℕ → Option (Std.TreeMap ℕ Bytes)
  repairSharePart2 : List Bytes → Option Bytes
  repairSharePart3 : List Bytes → ℕ → PublicKeyPackage → Option KeyPackage
  refreshDkgPart1 : ℕ → UInt16 → UInt16 → Id32 → Option (Bytes × Bytes)
  round1Identifier : Bytes → Option ℕ
  refreshDkgPart2 : Bytes → Std.TreeMap ℕ Bytes → Option (Bytes × Std.TreeMap ℕ Bytes)
  round2Identifier : Bytes → Option ℕ
  refreshDkgShares : Bytes → Std.TreeMap ℕ Bytes → Std.TreeMap ℕ Bytes → PublicKeyPackage →
    KeyPackage → Option (KeyPackage × PublicKeyPackage)

/-- Everything a guardian opens, seals or computes shares with. Serde refuses with a text. -/
structure Vault extends Sealing where
  recipientPublicKey : Id32 → Bytes
  decapsulate : Id32 → Bytes → Option Bytes
  hkdf : Bytes → Bytes → Option Id32
  aeadEncrypt : Bytes → BitVec 192 → Bytes → Bytes → Except CryptoError AeadCiphertext
  aeadDecrypt : Bytes → AeadCiphertext → Bytes → Except CryptoError Bytes
  encodeMessage : DpssProtocolMessage → Except String Bytes
  decodeMessage : Bytes → Except String DpssProtocolMessage
  encodeState : LocalDpssState → Except String Bytes
  decodeState : Bytes → Except String LocalDpssState
  frost : Frost

/-! ### Envelopes (gp-crypto/src/lib.rs) -/

section Envelopes

variable (crypto : Crypto) (vault : Vault)

def hkdfSha256 (ikm info : Bytes) : Except CryptoError Id32 := okOr (vault.hkdf ikm info) .kdf

def localJournalKey (seed : Id32) (canonicalContext : Bytes) : Except CryptoError Id32 :=
  hkdfSha256 vault (idBytes seed)
    ("gp/local-rotation-journal/v3".toUTF8.data.toList ++
      idBytes (crypto.sha256 canonicalContext))

def sealLocalRotationJournal (seed : Id32) (nonce : BitVec 192)
    (plaintext canonicalContext : Bytes) : Except CryptoError AeadCiphertext := do
  let key ← localJournalKey crypto vault seed canonicalContext
  vault.aeadEncrypt (idBytes key) nonce plaintext canonicalContext

def openLocalRotationJournal (seed : Id32) (encrypted : AeadCiphertext)
    (canonicalContext : Bytes) : Except CryptoError Bytes := do
  let key ← localJournalKey crypto vault seed canonicalContext
  vault.aeadDecrypt (idBytes key) encrypted canonicalContext

/-- `RecipientKeyPair::open`. -/
def openSealed (seed : Id32) (sealed : SealedMessage) (associatedData : Bytes) :
    Except CryptoError Bytes := do
  let key ← okOr (vault.decapsulate seed sealed.kemCiphertext) .invalidKemData
  vault.aeadDecrypt key sealed.payload associatedData

def ciphertextFragmentLeaf (configId : Id32) (payloadGeneration : UInt64) (fragmentIndex : UInt16)
    (fragment : Bytes) : Except CryptoError Id32 := do
  bailIf (fragmentIndex = 0 ∨ fragment = [] ∨ 2 ^ 64 ≤ fragment.length) .invalidFragments
  .ok (crypto.sha256 ("gp/ciphertext-fragment-leaf/v3".toUTF8.data.toList ++ idBytes configId ++
    beBytes 8 payloadGeneration.toNat ++ beBytes 2 fragmentIndex.toNat ++
    beBytes 8 fragment.length ++ idBytes (crypto.sha256 fragment)))

def verifyCiphertextFragment (root configId : Id32) (payloadGeneration : UInt64)
    (fragmentIndex totalFragments : UInt16) (fragment : Bytes) (proof : MerkleProofBytes) :
    Except CryptoError Unit := do
  bailIf (fragmentIndex = 0 ∨ totalFragments < fragmentIndex) .invalidFragments
  let leaf ← ciphertextFragmentLeaf crypto configId payloadGeneration fragmentIndex fragment
  crypto.merkleVerify root leaf (fragmentIndex.toNat - 1) totalFragments.toNat proof

def custodyBlockSize : ℕ := 4096

def custodyLeaf (index : ℕ) (block : Bytes) : Id32 :=
  crypto.sha256 ("gp/custody-block/v3".toUTF8.data.toList ++ beBytes 4 index ++
    beBytes 4 block.length ++ block)

def custodyLeaves (index : ℕ) : List Bytes → List Id32
  | [] => []
  | block :: blocks => custodyLeaf crypto index block :: custodyLeaves (index + 1) blocks

/-- The root of `custody_commit`. -/
def custodyRoot (bytes : Bytes) : Except CryptoError Id32 := do
  bailIf (bytes = []) .invalidMerkleProof
  let leaves := custodyLeaves crypto 0 (bytes.toChunks custodyBlockSize)
  bailIf (2 ^ 32 ≤ leaves.length) .invalidMerkleProof
  let tree ← crypto.merkleCommit leaves
  .ok tree.1

end Envelopes

/-! ### Share arithmetic (gp-crypto/src/rotation.rs) -/

def frostShareMaxLen : ℕ := 512
def frostPublicPackageMaxLen : ℕ := 4 * 1024
def frostRoundPackageMaxLen : ℕ := 4 * 1024
def frostMaxParticipants : UInt16 := 32

def frostIdentifier (value : UInt16) : Except CryptoError ℕ := do
  bailIf (value = 0 ∨ frostMaxParticipants < value) .invalidFrostParticipant
  .ok value.toNat

def numericIdentifier (value : ℕ) : Except CryptoError UInt16 := do
  bailIf (value = 0 ∨ frostMaxParticipants.toNat < value) .invalidFrostParticipant
  .ok (UInt16.ofNat value)

def validateThreshold (threshold total : UInt16) : Except CryptoError Unit :=
  bailIf (threshold < 2 ∨ total < threshold ∨ total < 2 ∨ frostMaxParticipants < total)
    .invalidThreshold

def bounded (value : Bytes) (maximum : ℕ) : Except CryptoError Unit :=
  bailIf (value = [] ∨ maximum < value.length) .invalidFrost

section Shares

variable (crypto : Crypto) (frost : Frost)

def decodeShare (value : Bytes) : Except CryptoError KeyPackage := do
  bounded value frostShareMaxLen
  let share ← okOr (frost.keyPackage value) .invalidFrost
  bailIf (frost.verifyingShareOf share.signingShare ≠ share.verifyingShare) .invalidFrost
  .ok share

def decodePublic (value : Bytes) : Except CryptoError PublicKeyPackage := do
  bounded value frostPublicPackageMaxLen
  okOr (frost.publicKeyPackage value) .invalidFrost

def encodeShare (value : KeyPackage) : Except CryptoError Bytes := do
  let encoded ← okOr (frost.serializeKeyPackage value) .invalidFrost
  bounded encoded frostShareMaxLen
  .ok encoded

def encodePublic (value : PublicKeyPackage) : Except CryptoError Bytes := do
  let encoded ← okOr (frost.serializePublicKeyPackage value) .invalidFrost
  bounded encoded frostPublicPackageMaxLen
  .ok encoded

def frostVerifyShare (encodedShare encodedPublic : Bytes) : Except CryptoError UInt16 := do
  let share ← decodeShare frost encodedShare
  let published ← decodePublic frost encodedPublic
  bailIf (share.verifyingKey ≠ published.verifyingKey ∨
    published.minSigners ≠ some share.minSigners ∨
    published.verifyingShares[share.identifier]? ≠ some share.verifyingShare) .invalidFrost
  numericIdentifier share.identifier

def frostPublicPackageDigest (encodedPublic : Bytes) : Except CryptoError Id32 := do
  let published ← decodePublic frost encodedPublic
  let encoded ← encodePublic frost published
  .ok (crypto.sha256 encoded)

/-! #### Repair -/

/-- `frost_repair_part1`, which `begin_old_share` names: a delta for each helper. -/
def frostRepairPart1 (helperShare : Bytes) (helperIds : List UInt16) (replacementId : UInt16)
    (seed : Id32) : Except CryptoError (List (UInt16 × Bytes)) := do
  let helper ← decodeShare frost helperShare
  let identifiers ← helperIds.mapM frostIdentifier
  bailIf (¬identifiers.Nodup ∨ helper.identifier ∉ identifiers ∨
    helperIds.length < helper.minSigners.toNat) .invalidFrostParticipant
  let replacement ← frostIdentifier replacementId
  let values ← okOr (frost.repairSharePart1 identifiers helper seed replacement) .invalidFrost
  helperIds.mapM fun numeric => do
    let encoded ← okOr values[numeric.toNat]? .invalidFrost
    bounded encoded frostRoundPackageMaxLen
    .ok (numeric, encoded)

def beginOldShare (helperShare : Bytes) (helperIds : List UInt16) (replacementId : UInt16)
    (seed : Id32) : Except CryptoError (List (UInt16 × Bytes)) :=
  frostRepairPart1 frost helperShare helperIds replacementId seed

def frostRepairPart2 (deltas : List Bytes) : Except CryptoError Bytes := do
  bailIf (deltas.length < 2) .insufficientShares
  each (fun value => bounded value frostRoundPackageMaxLen) deltas
  okOr (frost.repairSharePart2 deltas) .invalidFrost

def frostRepairPart3 (sigmas : List Bytes) (replacementId : UInt16) (encodedPublic : Bytes) :
    Except CryptoError Bytes := do
  let published ← decodePublic frost encodedPublic
  let threshold ← okOr published.minSigners .invalidFrost
  bailIf (sigmas.length < threshold.toNat) .insufficientShares
  each (fun value => bounded value frostRoundPackageMaxLen) sigmas
  let replacement ← frostIdentifier replacementId
  let share ← okOr (frost.repairSharePart3 sigmas replacement published) .invalidFrost
  encodeShare frost share

def finalizeNewShare (sigmas : List Bytes) (replacementId : UInt16) (encodedPublic : Bytes) :
    Except CryptoError Bytes :=
  frostRepairPart3 frost sigmas replacementId encodedPublic

def frostPublicAddRepairedShare (encodedPublic repairedShare : Bytes) :
    Except CryptoError Bytes := do
  let published ← decodePublic frost encodedPublic
  let share ← decodeShare frost repairedShare
  bailIf (published.verifyingKey ≠ share.verifyingKey ∨
    published.minSigners ≠ some share.minSigners) .invalidFrost
  bailIf (share.identifier ∈ published.verifyingShares) .invalidFrostParticipant
  encodePublic frost { published with
    verifyingShares := published.verifyingShares.insert share.identifier share.verifyingShare }

/-! #### Refresh -/

structure FrostRefreshRound1 where
  secretState : Bytes
  broadcast : Bytes

structure FrostRefreshRound2 where
  secretState : Bytes
  directMessages : List (UInt16 × Bytes)

structure FrostRefreshOutput where
  share : Bytes
  publicPackage : Bytes

def frostRefreshPart1 (participantId threshold total : UInt16) (seed : Id32) :
    Except CryptoError FrostRefreshRound1 := do
  validateThreshold threshold total
  let participant ← frostIdentifier participantId
  let packages ← okOr (frost.refreshDkgPart1 participant total threshold seed) .invalidFrost
  bounded packages.1 frostRoundPackageMaxLen
  bounded packages.2 frostRoundPackageMaxLen
  .ok ⟨packages.1, packages.2⟩

/-- Packages by sender: none from the guardian itself, none twice. -/
def roundMessages (selfId : ℕ) (seen : Std.TreeMap ℕ Bytes) :
    List (UInt16 × Bytes) → Except CryptoError (Std.TreeMap ℕ Bytes)
  | [] => .ok seen
  | (sender, encoded) :: messages => do
    let sender ← frostIdentifier sender
    bailIf (sender = selfId ∨ sender ∈ seen) .invalidFrostParticipant
    bounded encoded frostRoundPackageMaxLen
    roundMessages selfId (seen.insert sender encoded) messages

def frostRefreshPart2 (secretState : Bytes) (round1Messages : List (UInt16 × Bytes)) :
    Except CryptoError FrostRefreshRound2 := do
  bounded secretState frostRoundPackageMaxLen
  let selfId ← okOr (frost.round1Identifier secretState) .invalidFrost
  let messages ← roundMessages selfId ∅ round1Messages
  let out ← okOr (frost.refreshDkgPart2 secretState messages) .invalidFrost
  let directMessages ← out.2.toList.mapM fun (recipient, encoded) => do
    let numeric ← numericIdentifier recipient
    bounded encoded frostRoundPackageMaxLen
    .ok (numeric, encoded)
  .ok ⟨out.1, directMessages⟩

def frostRefreshPart3 (secretState : Bytes) (round1Messages round2Messages : List (UInt16 × Bytes))
    (oldPublic oldShare : Bytes) : Except CryptoError FrostRefreshOutput := do
  bounded secretState frostRoundPackageMaxLen
  let selfId ← okOr (frost.round2Identifier secretState) .invalidFrost
  let round1 ← roundMessages selfId ∅ round1Messages
  let round2 ← roundMessages selfId ∅ round2Messages
  bailIf (round1.keys ≠ round2.keys) .invalidFrostParticipant
  let published ← decodePublic frost oldPublic
  let share ← decodeShare frost oldShare
  bailIf (share.identifier ≠ selfId) .invalidFrostParticipant
  let out ← okOr (frost.refreshDkgShares secretState round1 round2 published share) .invalidFrost
  let encodedShare ← encodeShare frost out.1
  let encodedPublic ← encodePublic frost out.2
  .ok ⟨encodedShare, encodedPublic⟩

end Shares

/-! ### A stand-in on which runs can be evaluated -/

/-- Fields one after another; a mark before each byte and one after each field. -/
def packFields (fields : List Bytes) : Bytes :=
  fields.flatMap fun field => field.flatMap (fun byte => [1, byte]) ++ [0]

def unpackFields (field : Bytes) : Bytes → List Bytes
  | mark :: [] => if mark = 0 then [field.reverse] else []
  | mark :: byte :: rest =>
    if mark = 0 then field.reverse :: unpackFields [] (byte :: rest)
    else unpackFields (byte :: field) rest
  | [] => []

theorem unpackFields_field (field seen rest : Bytes) :
    unpackFields seen (field.flatMap (fun byte => [1, byte]) ++ 0 :: rest) =
      (seen.reverse ++ field) :: unpackFields [] rest := by
  induction field generalizing seen with
  | nil => cases rest <;> simp [unpackFields]
  | cons byte field ih => simp [unpackFields, ih]

theorem unpackFields_packFields (fields : List Bytes) :
    unpackFields [] (packFields fields) = fields := by
  induction fields with
  | nil => rfl
  | cons field fields ih =>
    have hsplit : packFields (field :: fields) =
        field.flatMap (fun byte => [1, byte]) ++ 0 :: packFields fields := by
      simp [packFields]
    rw [hsplit, unpackFields_field, ih]
    rfl

def numberOf (digits : Bytes) : ℕ := digits.foldl (fun n digit => n * 256 + digit.toNat) 0

namespace LocalDpssState

def fields : LocalDpssState → List Bytes
  | .repairDealer held selfDelta => [[0], held, selfDelta]
  | .oldShare share => [[1], share]
  | .repaired share => [[2], share]
  | .refreshed share publicPackage => [[3], share, publicPackage]
  | .refreshRound1 held secretState => [[4], held, secretState]
  | .refreshRound2 held secretState round1Messages =>
    [5] :: held :: secretState ::
      round1Messages.flatMap fun message => [beBytes 2 message.1.toNat, message.2]

def messagesOf : List Bytes → List (UInt16 × Bytes)
  | sender :: payload :: rest => (UInt16.ofNat (numberOf sender), payload) :: messagesOf rest
  | _ => []

def ofFields : List Bytes → Option LocalDpssState
  | [[0], held, selfDelta] => some (.repairDealer held selfDelta)
  | [[1], share] => some (.oldShare share)
  | [[2], share] => some (.repaired share)
  | [[3], share, publicPackage] => some (.refreshed share publicPackage)
  | [[4], held, secretState] => some (.refreshRound1 held secretState)
  | [5] :: held :: secretState :: rest =>
    some (.refreshRound2 held secretState (messagesOf rest))
  | _ => none

end LocalDpssState

/-- A key package in the clear; participant `i` has the share `i`. -/
def Frost.transparent : Frost where
  keyPackage encoded :=
    match unpackFields [] encoded with
    | [identifier, minSigners, share, verifyingShare, verifyingKey] =>
      some ⟨numberOf identifier, UInt16.ofNat (numberOf minSigners), share, verifyingShare,
        verifyingKey⟩
    | _ => none
  serializeKeyPackage package := some (packFields [beBytes 2 package.identifier,
    beBytes 2 package.minSigners.toNat, package.signingShare, package.verifyingShare,
    package.verifyingKey])
  verifyingShareOf share := share
  publicKeyPackage encoded :=
    match unpackFields [] encoded with
    | verifyingKey :: minSigners :: identifiers =>
      some ⟨.ofList (identifiers.map fun identifier => (numberOf identifier, identifier)),
        verifyingKey, some (UInt16.ofNat (numberOf minSigners))⟩
    | _ => none
  serializePublicKeyPackage package := some (packFields (package.verifyingKey ::
    beBytes 2 ((package.minSigners.map UInt16.toNat).getD 0) :: package.verifyingShares.values))
  repairSharePart1 identifiers helper _ replacement := some (.ofList (identifiers.map
    fun identifier => (identifier, packFields [beBytes 2 helper.identifier,
      beBytes 2 replacement, beBytes 2 identifier])))
  repairSharePart2 deltas := some (packFields deltas)
  repairSharePart3 _ replacement package := some ⟨replacement, package.minSigners.getD 0,
    beBytes 2 replacement, beBytes 2 replacement, package.verifyingKey⟩
  refreshDkgPart1 identifier _ _ _ := some (beBytes 2 identifier, beBytes 2 identifier)
  round1Identifier state := some (numberOf state)
  refreshDkgPart2 state messages := some (state, messages)
  round2Identifier state := some (numberOf state)
  refreshDkgShares state round1 _ package share := some (share, { package with
    verifyingShares := .ofList ((numberOf state :: round1.keys).map fun identifier =>
      (identifier, beBytes 2 identifier)) })

/-- What key and data a ciphertext is under. -/
def envelopeMark (key associatedData : Bytes) : Bytes :=
  idBytes (Crypto.digest (beBytes 8 key.length ++ key ++ associatedData))

def openMarked (mark : Bytes) (encrypted : AeadCiphertext) : Except CryptoError Bytes := do
  bailIf (encrypted.ciphertext.take 32 ≠ mark) .authentication
  .ok (encrypted.ciphertext.drop 32)

/-- Ciphertexts show their plaintext behind a mark. Serde knows the messages it is given. -/
def Vault.transparent (recipientKey : Bytes) (messages : List DpssProtocolMessage) : Vault :=
  let encode (message : DpssProtocolMessage) : Bytes :=
    packFields [message.providerPayload, message.senderSignature]
  { sealToRecipient key _ nonce plaintext associatedData :=
      .ok ⟨key, nonce, envelopeMark key associatedData ++ plaintext⟩
    recipientPublicKey _ := recipientKey
    decapsulate _ kemCiphertext := if kemCiphertext = recipientKey then some recipientKey else none
    hkdf ikm info := some (Crypto.digest (ikm ++ info))
    aeadEncrypt key nonce plaintext associatedData :=
      .ok ⟨nonce, envelopeMark key associatedData ++ plaintext⟩
    aeadDecrypt key encrypted associatedData :=
      openMarked (envelopeMark key associatedData) encrypted
    encodeMessage message := .ok (encode message)
    decodeMessage encoded := okOr (messages.find? fun message => encode message = encoded)
      "unknown message"
    encodeState state := .ok (packFields state.fields)
    decodeState encoded := okOr (LocalDpssState.ofFields (unpackFields [] encoded))
      "malformed state"
    frost := .transparent }

end MasterRecovery
