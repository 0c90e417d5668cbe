import MasterRecovery.Crypto
import Std.Data.TreeMap

/-!
# Durable rotation state (gp-storage/src/rotation.rs)

Ordered maps keyed by the hex of an id are keyed by the id itself.
-/

namespace MasterRecovery
open Checks

inductive StorageError
  | notFound
  | staleVersion
  | wrongConfiguration
  | replay
  | conflict
  | invalidEpoch
  | notDurable
  | noPreparedSuccessor
  | alreadyActivated
  | injectedFailure
  deriving DecidableEq

def StorageError.text : StorageError → String
  | notFound => "record was not found"
  | staleVersion => "stale configuration version"
  | wrongConfiguration => "request is for another signer configuration"
  | replay => "request id or nonce has already been observed"
  | conflict => "another child or plan is already locked for this predecessor"
  | invalidEpoch => "guardian epoch transition is invalid"
  | notDurable => "prepared state has not been durably committed"
  | noPreparedSuccessor => "no prepared successor exists"
  | alreadyActivated => "operation is forbidden after activation"
  | injectedFailure => "injected atomic persistence failure"

/-! ### Witness register -/

structure WitnessEpochStore where
  configId : Id32
  highestGuardianEpoch : UInt64
  highestCapsuleHash : Id32
  predecessorLocks : Std.TreeMap Id32 Id32
  seenReadNonces : Finset Id32

namespace WitnessEpochStore

def new (configRef : ConfigRef) (capsuleHash : Id32) : WitnessEpochStore where
  configId := configRef.configId
  highestGuardianEpoch := configRef.guardianEpoch
  highestCapsuleHash := capsuleHash
  predecessorLocks := ∅
  seenReadNonces := ∅

/-- A retry under an existing lock changes nothing. -/
def persistSuccessorBeforeAck (store : WitnessEpochStore) (predecessor : ConfigRef)
    (predecessorCapsuleHash : Id32) (successor : ConfigRef) (successorCapsuleHash : Id32) :
    Except StorageError WitnessEpochStore := do
  bailIf (¬successor.IsDirectSuccessorOf predecessor) .invalidEpoch
  match store.predecessorLocks[predecessorCapsuleHash]? with
  | some existing =>
    bailIf (existing ≠ successorCapsuleHash) .conflict
    .ok store
  | none =>
    bailIf (predecessor.configId ≠ store.configId ∨
      predecessor.guardianEpoch ≠ store.highestGuardianEpoch ∨
      predecessorCapsuleHash ≠ store.highestCapsuleHash) .invalidEpoch
    .ok { store with
      predecessorLocks := store.predecessorLocks.insert predecessorCapsuleHash successorCapsuleHash
      highestGuardianEpoch := successor.guardianEpoch
      highestCapsuleHash := successorCapsuleHash }

/-- Releases a merely pending one-child lock. -/
def cancelPendingSuccessor (store : WitnessEpochStore) (predecessorEpoch : UInt64)
    (predecessorCapsuleHash : Id32) (successorEpoch : UInt64) (successorCapsuleHash : Id32) :
    Except StorageError WitnessEpochStore := do
  bailIf (successorEpoch ≠ saturatingAdd predecessorEpoch 1 ∨
    store.highestGuardianEpoch ≠ successorEpoch ∨
    store.highestCapsuleHash ≠ successorCapsuleHash ∨
    store.predecessorLocks[predecessorCapsuleHash]? ≠ some successorCapsuleHash) .conflict
  .ok { store with
    predecessorLocks := store.predecessorLocks.erase predecessorCapsuleHash
    highestGuardianEpoch := predecessorEpoch
    highestCapsuleHash := predecessorCapsuleHash }

def observeReadNonce (store : WitnessEpochStore) (nonce : Id32) :
    Except StorageError WitnessEpochStore := do
  bailIf (nonce ∈ store.seenReadNonces) .replay
  .ok { store with seenReadNonces := insert nonce store.seenReadNonces }

theorem persistSuccessorBeforeAck_eq_ok {store store' : WitnessEpochStore}
    {predecessor successor : ConfigRef} {predecessorCapsuleHash successorCapsuleHash : Id32}
    (h : store.persistSuccessorBeforeAck predecessor predecessorCapsuleHash successor
      successorCapsuleHash = .ok store') :
    successor.IsDirectSuccessorOf predecessor ∧
      (store.predecessorLocks[predecessorCapsuleHash]? = some successorCapsuleHash ∧
          store' = store ∨
        store.predecessorLocks[predecessorCapsuleHash]? = none ∧
          predecessor.configId = store.configId ∧
          predecessor.guardianEpoch = store.highestGuardianEpoch ∧
          predecessorCapsuleHash = store.highestCapsuleHash ∧
          store' = { store with
            predecessorLocks :=
              store.predecessorLocks.insert predecessorCapsuleHash successorCapsuleHash
            highestGuardianEpoch := successor.guardianEpoch
            highestCapsuleHash := successorCapsuleHash }) := by
  simp only [persistSuccessorBeforeAck, bind_unit_eq_ok, bailIf_eq_ok, not_not] at h
  obtain ⟨hdirect, h⟩ := h
  refine ⟨hdirect, ?_⟩
  cases hlock : store.predecessorLocks[predecessorCapsuleHash]? with
  | some existing =>
    simp only [hlock, bind_unit_eq_ok, bailIf_eq_ok, not_not, Except.ok.injEq] at h
    exact Or.inl ⟨congrArg some h.1, h.2.symm⟩
  | none =>
    simp only [hlock, bind_unit_eq_ok, bailIf_eq_ok, not_or, not_not, Except.ok.injEq] at h
    obtain ⟨⟨hconfig, hepoch, hhash⟩, rfl⟩ := h
    exact Or.inr ⟨rfl, hconfig, hepoch, hhash, rfl⟩

theorem cancelPendingSuccessor_eq_ok {store store' : WitnessEpochStore}
    {predecessorEpoch successorEpoch : UInt64}
    {predecessorCapsuleHash successorCapsuleHash : Id32} :
    store.cancelPendingSuccessor predecessorEpoch predecessorCapsuleHash successorEpoch
        successorCapsuleHash = .ok store' ↔
      (successorEpoch = saturatingAdd predecessorEpoch 1 ∧
        store.highestGuardianEpoch = successorEpoch ∧
        store.highestCapsuleHash = successorCapsuleHash ∧
        store.predecessorLocks[predecessorCapsuleHash]? = some successorCapsuleHash) ∧
      store' = { store with
        predecessorLocks := store.predecessorLocks.erase predecessorCapsuleHash
        highestGuardianEpoch := predecessorEpoch
        highestCapsuleHash := predecessorCapsuleHash } := by
  simp only [cancelPendingSuccessor, bind_unit_eq_ok, bailIf_eq_ok, not_or, not_not, ne_eq,
    Except.ok.injEq, eq_comm (b := store')]

theorem observeReadNonce_eq_ok {store store' : WitnessEpochStore} {nonce : Id32} :
    store.observeReadNonce nonce = .ok store' ↔
      nonce ∉ store.seenReadNonces ∧
        store' = { store with seenReadNonces := insert nonce store.seenReadNonces } := by
  simp only [observeReadNonce, bind_unit_eq_ok, bailIf_eq_ok, Except.ok.injEq,
    eq_comm (b := store')]

end WitnessEpochStore

end MasterRecovery
