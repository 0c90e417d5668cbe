import MasterRecovery.Lib.Transcript

/-!
# Protocol-v3 data types (gp-types/src/rotation.rs)

Fixed 32-byte arrays are 256-bit words and AEAD nonces 192-bit words; every
other byte string is a list. Field names are the source's.
-/

namespace MasterRecovery
open Transcript

abbrev Id32 := BitVec 256
abbrev PublicKey := BitVec 256
abbrev SignatureBytes := Bytes
abbrev MerkleProofBytes := Bytes

def protocolVersionV3 : UInt16 := 3
def maxRotationActors : UInt16 := 4096
def maxConfigWitnesses : UInt16 := 4096

/-- `u64::saturating_add`. -/
def saturatingAdd (x y : UInt64) : UInt64 := UInt64.ofNat (min (x.toNat + y.toNat) (2 ^ 64 - 1))

theorem saturatingAdd_toNat (x y : UInt64) :
    (saturatingAdd x y).toNat = min (x.toNat + y.toNat) (2 ^ 64 - 1) := by
  simp only [saturatingAdd, UInt64.toNat_ofNat']
  omega

theorem le_saturatingAdd (x y : UInt64) : x ≤ saturatingAdd x y := by
  rw [UInt64.le_iff_toNat_le, saturatingAdd_toNat]
  have hx := x.toNat_lt
  omega

theorem saturatingAdd_one_ne_zero (x : UInt64) : saturatingAdd x 1 ≠ 0 := by
  intro h
  have hnat := congrArg UInt64.toNat h
  rw [saturatingAdd_toNat] at hnat
  simp at hnat

/-- A direct successor never has the genesis epoch. -/
theorem saturatingAdd_one_ne_one {x : UInt64} (hx : x ≠ 0) : saturatingAdd x 1 ≠ 1 := by
  intro h
  have hnat := congrArg UInt64.toNat h
  rw [saturatingAdd_toNat] at hnat
  have hpos : x.toNat ≠ 0 := fun hzero => hx (UInt64.toNat_inj.mp hzero)
  have hlt := x.toNat_lt
  simp only [UInt64.reduceToNat] at hnat
  omega

/-- `max` on a fixed-width type, as it is defined. -/
theorem lawfulOrderMax_of_ite {α : Type} [LE α] [DecidableLE α] [Max α] [Std.IsLinearOrder α]
    (hmax : ∀ a b : α, max a b = if a ≤ b then b else a) : Std.LawfulOrderMax α := by
  have hle : ∀ a b c : α, max b c ≤ a ↔ b ≤ a ∧ c ≤ a := by
    intro a b c
    rw [hmax]
    split
    next hbc => exact ⟨fun h => ⟨Std.IsPreorder.le_trans _ _ _ hbc h, h⟩, And.right⟩
    next hcb =>
      have hbc := (Std.Total.total b c).resolve_left hcb
      exact ⟨fun h => ⟨h, Std.IsPreorder.le_trans _ _ _ hbc h⟩, And.left⟩
  refine .of_max_le_iff (fun a b c => hle c a b) fun a b => ?_
  rw [hmax]
  split
  · exact Or.inr rfl
  · exact Or.inl rfl

instance lawfulOrderMax_uint64 : Std.LawfulOrderMax UInt64 := lawfulOrderMax_of_ite fun _ _ => rfl

instance lawfulOrderMax_uint16 : Std.LawfulOrderMax UInt16 := lawfulOrderMax_of_ite fun _ _ => rfl

structure ConfigRef where
  configId : Id32
  payloadGeneration : UInt64
  authorizationEpoch : UInt64
  guardianEpoch : UInt64
  epochBinding : Id32
  deriving DecidableEq

/-- `ConfigRef::is_direct_successor_of`. -/
def ConfigRef.IsDirectSuccessorOf (next predecessor : ConfigRef) : Prop :=
  next.configId = predecessor.configId ∧
    next.payloadGeneration = predecessor.payloadGeneration ∧
    next.authorizationEpoch = predecessor.authorizationEpoch ∧
    next.guardianEpoch = saturatingAdd predecessor.guardianEpoch 1 ∧
    next.epochBinding ≠ predecessor.epochBinding

instance (next predecessor : ConfigRef) : Decidable (next.IsDirectSuccessorOf predecessor) := by
  unfold ConfigRef.IsDirectSuccessorOf
  infer_instance

/-- A direct successor comes later, except at the last epoch number, where it stays. -/
theorem ConfigRef.IsDirectSuccessorOf.later_or_last {next predecessor : ConfigRef}
    (h : next.IsDirectSuccessorOf predecessor) :
    predecessor.guardianEpoch.toNat < next.guardianEpoch.toNat ∨
      predecessor.guardianEpoch.toNat = 2 ^ 64 - 1 ∧
        next.guardianEpoch = predecessor.guardianEpoch := by
  obtain ⟨-, -, -, hepoch, -⟩ := h
  have hnat := congrArg UInt64.toNat hepoch
  rw [saturatingAdd_toNat, UInt64.toNat_one] at hnat
  have hbound := predecessor.guardianEpoch.toNat_lt
  by_cases hlast : predecessor.guardianEpoch.toNat = 2 ^ 64 - 1
  · refine Or.inr ⟨hlast, UInt64.toNat_inj.mp ?_⟩
    omega
  · left
    omega

inductive DpssSuiteId
  | zfFrostRistretto255RtsRefreshV1
  deriving DecidableEq

/-- There is one suite so far. -/
theorem DpssSuiteId.eq (a b : DpssSuiteId) : a = b := by
  cases a
  cases b
  rfl

structure AeadCiphertext where
  nonce : BitVec 192
  ciphertext : Bytes
  deriving DecidableEq

/-- Replay and recipient binding included by every rotation message. -/
structure RotationContext where
  protocolVersion : UInt16
  configRef : ConfigRef
  rotationId : Id32
  predecessorCapsuleHash : Id32
  recipientKey : Bytes
  nonce : Id32
  issuedAt : UInt64
  expiry : UInt64
  deriving DecidableEq

structure GuardianRouteV3 where
  guardianIndex : UInt16
  opaqueSlotId : Id32
  mailbox : String
  guardianPublicKey : PublicKey
  sessionRecipientKey : Bytes
  operatorDomainCommitment : Id32
  deriving DecidableEq

structure RotationPlan where
  context : RotationContext
  intentHash : Id32
  predecessor : ConfigRef
  successor : ConfigRef
  oldRoster : List GuardianRouteV3
  newRoster : List GuardianRouteV3
  oldRosterCommitment : Id32
  newRosterCommitment : Id32
  oldGuardianThreshold : UInt16
  newGuardianThreshold : UInt16
  dataShards : UInt16
  totalShards : UInt16
  dpssSuite : DpssSuiteId
  dpssSessionId : Id32
  dpssQualifiedSetCommitment : Id32
  minimumDelaySecs : UInt64
  preparationDeadline : UInt64
  drainDeadline : UInt64
  deriving DecidableEq

structure OwnerRotationCancelCertificate where
  context : RotationContext
  planHash : Id32
  reasonCode : UInt16
  cancelResponseRecipientKey : Bytes
  ownerCancelPublicKey : PublicKey
  ownerSignature : SignatureBytes
  deriving DecidableEq

structure SignerRotationActivateVote where
  context : RotationContext
  planHash : Id32
  readyCertificateHash : Id32
  successorCapsuleHash : Id32
  signerId : UInt16
  signerPublicKey : PublicKey
  signerMembershipProof : MerkleProofBytes
  signerSignature : SignatureBytes
  deriving DecidableEq

structure RotationActivateCertificate where
  context : RotationContext
  planHash : Id32
  readyCertificateHash : Id32
  successor : ConfigRef
  successorCapsuleHash : Id32
  votes : List SignerRotationActivateVote
  deriving DecidableEq

structure WitnessActivationAck where
  context : RotationContext
  planHash : Id32
  activationCertificateHash : Id32
  witnessId : UInt16
  predecessorEpoch : UInt64
  predecessorCapsuleHash : Id32
  successorEpoch : UInt64
  successorCapsuleHash : Id32
  witnessPublicKey : PublicKey
  witnessSignature : SignatureBytes
  deriving DecidableEq

structure WitnessRotationCancelAck where
  protocolVersion : UInt16
  configId : Id32
  rotationId : Id32
  planHash : Id32
  cancelCertificateHash : Id32
  witnessId : UInt16
  witnessPublicKey : PublicKey
  witnessSignature : SignatureBytes
  deriving DecidableEq

structure EpochActivationQc where
  protocolVersion : UInt16
  configId : Id32
  rotationId : Id32
  predecessorEpoch : UInt64
  predecessorCapsuleHash : Id32
  successorEpoch : UInt64
  successorCapsuleHash : Id32
  activationCertificateHash : Id32
  witnessFaultBound : UInt16
  witnessAcks : List WitnessActivationAck
  deriving DecidableEq

structure EpochReadChallenge where
  protocolVersion : UInt16
  configId : Id32
  clientNonce : Id32
  responseRecipientKey : Bytes
  issuedAt : UInt64
  expiry : UInt64
  deriving DecidableEq

structure WitnessEpochReadResponse where
  protocolVersion : UInt16
  configId : Id32
  clientNonce : Id32
  witnessId : UInt16
  highestGuardianEpoch : UInt64
  capsuleHash : Id32
  witnessPublicKey : PublicKey
  witnessSignature : SignatureBytes
  deriving DecidableEq

/-- Public authenticated epoch object. `ciphertextFragmentRoot` is the stable
commitment to the ciphertext fragments of this payload generation. -/
structure ConfigCapsuleV3 where
  protocolVersion : UInt16
  configRef : ConfigRef
  capsuleHash : Id32
  predecessorCapsuleHash : Id32
  signerCount : UInt16
  signerThreshold : UInt16
  guardianCount : UInt16
  guardianThreshold : UInt16
  minimumRecoveryDelay : UInt64
  maxRequestLifetime : UInt64
  signerSetCommitment : Id32
  ownerCancelPublicKey : PublicKey
  dpssSuite : DpssSuiteId
  dpssPublicCommitment : Id32
  ciphertextFragmentRoot : Id32
  guardianMaterialRoot : Id32
  encryptedRecoveryDescriptor : AeadCiphertext
  activationCertificate : Option RotationActivateCertificate
  activationQc : Option EpochActivationQc
  deriving DecidableEq

structure WitnessPin where
  witnessId : UInt16
  mailbox : String
  publicKey : PublicKey
  deriving DecidableEq

/-- The card's mailboxes and relay bases are addresses no validator reads. -/
structure RecoveryCardV3 where
  protocolVersion : UInt16
  configId : Id32
  signerSetCommitment : Id32
  ownerCancelPublicKey : PublicKey
  witnessFaultBound : UInt16
  witnesses : List WitnessPin
  deriving DecidableEq

/-- `types.rs`: a witness's signed answer with the capsule it reports. -/
structure WitnessReadEnvelope where
  response : WitnessEpochReadResponse
  capsule : ConfigCapsuleV3
  deriving DecidableEq

end MasterRecovery
