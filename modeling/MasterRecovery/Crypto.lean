import MasterRecovery.Types
import Mathlib.Data.Set.Function

/-!
# Errors and cryptographic primitives (gp-crypto/src/lib.rs)

gp-crypto wraps libraries that are not part of the repository; what it calls
there is a parameter. The wrappers are the source's, with their refusals.
-/

namespace MasterRecovery
open Checks Transcript

inductive WireError
  | fieldTooLarge
  | invalidFrame
  | invalidValue
  | duplicateActor
  deriving DecidableEq

def WireError.text : WireError → String
  | fieldTooLarge => "canonical field exceeds maximum length"
  | invalidFrame => "invalid or incomplete frame"
  | invalidValue => "protocol value is invalid or outside its bound"
  | duplicateActor => "duplicate actor id in quorum material"

inductive CryptoError
  | authentication
  | invalidThreshold
  | invalidSecretLength
  | insufficientShares
  | invalidShare
  | duplicateShare
  | invalidFragments
  | invalidSignature
  | invalidKemData
  | invalidMerkleProof
  | kdf
  | invalidFrost
  | invalidFrostParticipant
  deriving DecidableEq

def CryptoError.text : CryptoError → String
  | authentication => "AEAD authentication failed"
  | invalidThreshold => "invalid threshold parameters"
  | invalidSecretLength => "Shamir secrets must be exactly 32 bytes"
  | insufficientShares => "not enough valid shares"
  | invalidShare => "invalid share encoding"
  | duplicateShare => "duplicate Shamir share index"
  | invalidFragments => "invalid erasure fragment set"
  | invalidSignature => "invalid signature or public key"
  | invalidKemData => "invalid X-Wing key or ciphertext"
  | invalidMerkleProof => "invalid Merkle proof"
  | kdf => "KDF expansion failed"
  | invalidFrost => "invalid FROST share, public package, or protocol message"
  | invalidFrostParticipant => "FROST participant identifier is duplicated or out of range"

def xwingPublicKeyLen : ℕ := 1216

/-- The 32 bytes of an id or key, as the source holds them. -/
def idBytes (v : Id32) : Bytes := beBytes 32 v.toNat

@[simp] theorem idBytes_length (v : Id32) : (idBytes v).length = 32 := beBytes_length ..

theorem idBytes_inj {v w : Id32} (h : idBytes v = idBytes w) : v = w := by
  have hv : v.toNat < 256 ^ 32 := by
    have hlt := v.isLt
    norm_num at hlt ⊢
    exact hlt
  have hw : w.toNat < 256 ^ 32 := by
    have hlt := w.isLt
    norm_num at hlt ⊢
    exact hlt
  exact BitVec.eq_of_toNat_eq (beBytes_inj hv hw h)

/-- SHA-256, Ed25519 and the Merkle tree library. `merkleProofVerifies` is false
also on bytes that do not parse as a proof. -/
structure Crypto where
  sha256 : Bytes → Id32
  verifyingKeyBytes : Id32 → PublicKey
  sign : Id32 → Bytes → SignatureBytes
  signatureVerifies : PublicKey → Bytes → SignatureBytes → Bool
  merkleTree : List Id32 → Option (Id32 × List MerkleProofBytes)
  merkleProofVerifies : MerkleProofBytes → Id32 → ℕ → Id32 → ℕ → Bool

namespace Crypto

variable (crypto : Crypto)

def verify (publicKey : PublicKey) (transcript : Bytes) (signature : SignatureBytes) :
    Except CryptoError Unit :=
  bailIf (crypto.signatureVerifies publicKey transcript signature = false) .invalidSignature

@[simp] theorem verify_eq_ok {publicKey : PublicKey} {transcript : Bytes}
    {signature : SignatureBytes} {u : Unit} :
    crypto.verify publicKey transcript signature = .ok u ↔
      crypto.signatureVerifies publicKey transcript signature = true := by
  simp [verify]

def merkleCommit (leaves : List Id32) : Except CryptoError (Id32 × List MerkleProofBytes) := do
  bailIf (leaves = []) .invalidMerkleProof
  okOr (crypto.merkleTree leaves) .invalidMerkleProof

def merkleVerify (root leaf : Id32) (index leafCount : ℕ) (proof : MerkleProofBytes) :
    Except CryptoError Unit :=
  bailIf (crypto.merkleProofVerifies proof root index leaf leafCount = false) .invalidMerkleProof

@[simp] theorem merkleVerify_eq_ok {root leaf : Id32} {index leafCount : ℕ}
    {proof : MerkleProofBytes} {u : Unit} :
    crypto.merkleVerify root leaf index leafCount proof = .ok u ↔
      crypto.merkleProofVerifies proof root index leaf leafCount = true := by
  simp [merkleVerify]

/-! ### What the protocol assumes of them -/

/-- No two of the byte strings have one hash. -/
def CollisionFree (transcripts : Set Bytes) : Prop := Set.InjOn crypto.sha256 transcripts

/-- A signature made with a seed verifies under its key. -/
def SignatureCorrect : Prop :=
  ∀ seed transcript,
    crypto.signatureVerifies (crypto.verifyingKeyBytes seed) transcript
      (crypto.sign seed transcript) = true

/-- Of the presented pairs, those that verify under the key carry a signed transcript. -/
def Unforged (key : PublicKey) (signed : Set Bytes) (presented : Set (Bytes × SignatureBytes)) :
    Prop :=
  ∀ transcript signature, (transcript, signature) ∈ presented →
    crypto.signatureVerifies key transcript signature = true → transcript ∈ signed

theorem Unforged.mono {crypto : Crypto} {key : PublicKey} {signed signed' : Set Bytes}
    {presented presented' : Set (Bytes × SignatureBytes)}
    (h : crypto.Unforged key signed presented) (hs : signed ⊆ signed')
    (hp : presented' ⊆ presented) : crypto.Unforged key signed' presented' :=
  fun _ _ hmem hv => hs (h _ _ (hp hmem) hv)

/-- The bytes read as a number in base 257, modulo a prime. -/
def digest (data : Bytes) : Id32 :=
  BitVec.ofNat 256 (data.foldl (fun h byte => h * 257 + byte.toNat + 1) 1 % 2147483647)

/-- A stand-in on which runs can be evaluated: a signature names its key, and a Merkle
proof is the list of all leaves. -/
def transparent : Crypto where
  sha256 := digest
  verifyingKeyBytes seed := seed + 1
  sign seed transcript := idBytes (seed + 1) ++ idBytes (digest transcript)
  signatureVerifies key transcript signature :=
    signature == idBytes key ++ idBytes (digest transcript)
  merkleTree leaves :=
    let proof := leaves.flatMap idBytes
    some (digest proof, leaves.map fun _ => proof)
  merkleProofVerifies proof root index leaf leafCount :=
    digest proof == root && proof.length == 32 * leafCount &&
      (proof.drop (32 * index)).take 32 == idBytes leaf

theorem transparent_signatureCorrect : transparent.SignatureCorrect := by
  intro seed transcript
  simp [transparent]

theorem transparent_key_of_verifies {key : PublicKey} {seed : Id32} {transcript transcript' : Bytes}
    (h : transparent.signatureVerifies key transcript (transparent.sign seed transcript') = true) :
    key = transparent.verifyingKeyBytes seed := by
  simp only [transparent, beq_iff_eq] at h
  obtain ⟨hkey, -⟩ := List.append_inj h (by simp)
  exact (idBytes_inj hkey).symm

end Crypto

end MasterRecovery
