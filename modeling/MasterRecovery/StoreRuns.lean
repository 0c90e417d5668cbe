import MasterRecovery.Lib.Calls
import MasterRecovery.Lib.WriteOnce
import MasterRecovery.GuardianStore

/-!
# Runs of the guardian's epoch store (gp-storage/src/rotation.rs)

The six operations of a store in any order, with any arguments. An operation that takes records out
before its last check stays atomic because an active record never comes without its hash.
-/

namespace MasterRecovery

inductive StoreOp
  | prepareSuccessor (rotationId planHash : Id32) (record : GuardianRecordV3)
    (journal : DpssSessionJournal)
  | activateSuccessor (rotationId planHash : Id32) (qc : EpochActivationQc)
    (activationQcHash : Id32) (drainDeadline : UInt64) (pendingOldRequests : Finset Id32)
  | abortPrepared (rotationId planHash : Id32)
  | observeReplacementActivation (rotationId planHash : Id32) (qc : EpochActivationQc)
    (activationQcHash : Id32) (drainDeadline : UInt64) (pendingOldRequests : Finset Id32)
  | finishDrainingRequest (guardianEpoch : UInt64) (requestId : Id32)
  | retireEpoch (guardianEpoch monotonicNow : UInt64)
  deriving DecidableEq

/-- The two ways a store comes into being. -/
inductive StoreStart
  | new (active : GuardianRecordV3) (activeCapsuleHash : Id32)
  | newCandidate (predecessor : ConfigRef) (predecessorCapsuleHash : Id32)

def StoreStart.store : StoreStart → GuardianEpochStore
  | .new active activeCapsuleHash => .new active activeCapsuleHash
  | .newCandidate predecessor predecessorCapsuleHash =>
    .newCandidate predecessor predecessorCapsuleHash

namespace GuardianEpochStore
open Checks

abbrev Operation (α : Type) := EStateM StorageError GuardianEpochStore α

/-- An operation that has done nothing when it refuses. -/
def attempt (x : GuardianEpochStore → Except StorageError GuardianEpochStore) : Operation Unit :=
  fun store =>
  match x store with
  | .ok store' => .ok () store'
  | .error e => .error e store

/-- The operations side by side; what they return is left out. -/
def perform : StoreOp → Operation Unit
  | .prepareSuccessor rotationId planHash record journal =>
    attempt fun store => (·.2) <$> store.prepareSuccessor rotationId planHash record journal
  | .activateSuccessor rotationId planHash qc activationQcHash drainDeadline pendingOldRequests =>
    activateSuccessor rotationId planHash qc activationQcHash drainDeadline pendingOldRequests
  | .abortPrepared rotationId planHash => attempt (abortPrepared rotationId planHash)
  | .observeReplacementActivation rotationId planHash qc activationQcHash drainDeadline
      pendingOldRequests =>
    observeReplacementActivation rotationId planHash qc activationQcHash drainDeadline
      pendingOldRequests
  | .finishDrainingRequest guardianEpoch requestId =>
    attempt (finishDrainingRequest guardianEpoch requestId)
  | .retireEpoch guardianEpoch monotonicNow =>
    attempt fun store => (·.2) <$> store.retireEpoch guardianEpoch monotonicNow

/-- `transaction`: the change is made to a copy, which takes the store's place at the end. -/
def transaction {α : Type} (injectFailure : Bool) (mutate : Operation α) : Operation α :=
  fun store =>
  match mutate store with
  | .error e _ => .error e store
  | .ok result candidate =>
    if injectFailure then .error .injectedFailure store else .ok result candidate

/-- Operations one after the other; the accepted ones are logged. -/
def operations : Machine GuardianEpochStore StoreOp StoreOp := Machine.ofCalls perform

/-! ### What an operation does -/

variable {store store' : GuardianEpochStore} {op : StoreOp} {u : Unit} {e : StorageError}

/-- The store with a successor prepared. -/
def withPrepared (rotationId planHash : Id32) (record : GuardianRecordV3)
    (journal : DpssSessionJournal) (store : GuardianEpochStore) : GuardianEpochStore :=
  { store with
    nextWriteGeneration := saturatingAdd store.nextWriteGeneration 1
    prepared := some
      { rotationId := rotationId
        planHash := planHash
        record := { record with policy := { record.policy with epochState := .prepared } }
        durableWriteGeneration := store.nextWriteGeneration }
    dpssJournal := some journal }

/-- The store of a rotation that has been activated. -/
def withSuccessor (prepared : PreparedGuardianEpoch) (rotationId planHash : Id32)
    (qc : EpochActivationQc) (activationQcHash predecessorHash : Id32)
    (drained : GuardianEpochStore) : GuardianEpochStore :=
  (drained.withActive prepared.record qc.successorCapsuleHash activationQcHash).withQc rotationId
    planHash predecessorHash qc .active

/-- The store of a guardian that has been replaced. -/
def withReplaced (old : GuardianRecordV3) (oldCapsuleHash rotationId planHash : Id32)
    (qc : EpochActivationQc) (activationQcHash : Id32) (drainDeadline : UInt64)
    (pendingOldRequests : Finset Id32) (store : GuardianEpochStore) : GuardianEpochStore :=
  (store.withDraining
    { old with policy := { old.policy with activationQcHash := some activationQcHash } }
    oldCapsuleHash drainDeadline pendingOldRequests).withQc rotationId planHash oldCapsuleHash qc
    .draining

/-- The accepted operations, each with the store it finds and the one it leaves. -/
inductive Performs (store : GuardianEpochStore) : StoreOp → GuardianEpochStore → Prop
  | prepared {rotationId planHash : Id32} {record : GuardianRecordV3} {journal : DpssSessionJournal}
    (hpreparable : store.Preparable rotationId record) :
    Performs store (.prepareSuccessor rotationId planHash record journal)
      (store.withPrepared rotationId planHash record journal)
  | activated {rotationId planHash activationQcHash : Id32} {qc : EpochActivationQc}
    {drainDeadline : UInt64} {pendingOldRequests : Finset Id32} {prepared : PreparedGuardianEpoch}
    {drained : GuardianEpochStore} (hprepared : store.prepared = some prepared)
    (hbinds : store.ActivationBinds prepared rotationId planHash qc)
    (hdrained : store.Drained drainDeadline pendingOldRequests drained) :
    Performs store
      (.activateSuccessor rotationId planHash qc activationQcHash drainDeadline pendingOldRequests)
      (withSuccessor prepared rotationId planHash qc activationQcHash
        store.expectedPredecessorCapsuleHash drained)
  | aborted {rotationId planHash : Id32}
    (hlive : store.activationQc.map (·.rotationId) ≠ some rotationId)
    (hfree : store.FreeFor rotationId planHash) :
    Performs store (.abortPrepared rotationId planHash) (store.withAborted rotationId planHash)
  | observed {rotationId planHash activationQcHash oldCapsuleHash : Id32} {qc : EpochActivationQc}
    {drainDeadline : UInt64} {pendingOldRequests : Finset Id32} {old : GuardianRecordV3}
    (hactive : store.active = some old) (hhash : store.activeCapsuleHash = some oldCapsuleHash)
    (hprepared : store.prepared = none) (hbinds : store.ObservationBinds rotationId qc) :
    Performs store
      (.observeReplacementActivation rotationId planHash qc activationQcHash drainDeadline
        pendingOldRequests)
      (store.withReplaced old oldCapsuleHash rotationId planHash qc activationQcHash drainDeadline
        pendingOldRequests)
  | finished {guardianEpoch : UInt64} {requestId : Id32} {draining : DrainingGuardianEpoch}
    (hdraining : store.draining[guardianEpoch]? = some draining) :
    Performs store (.finishDrainingRequest guardianEpoch requestId)
      { store with
        draining := store.draining.insert guardianEpoch
          { draining with pendingRequestIds := draining.pendingRequestIds.erase requestId } }
  | retired {guardianEpoch monotonicNow : UInt64} :
    Performs store (.retireEpoch guardianEpoch monotonicNow)
      { store with draining := store.draining.erase guardianEpoch }

theorem attempt_eq_ok {x : GuardianEpochStore → Except StorageError GuardianEpochStore}
    (h : attempt x store = .ok u store') : x store = .ok store' := by
  unfold attempt at h
  cases hx : x store with
  | ok next =>
    rw [hx] at h
    cases h
    rfl
  | error e =>
    rw [hx] at h
    cases h

theorem attempt_eq_error {x : GuardianEpochStore → Except StorageError GuardianEpochStore}
    (h : attempt x store = .error e store') : store' = store := by
  unfold attempt at h
  cases hx : x store with
  | ok next =>
    rw [hx] at h
    cases h
  | error e =>
    rw [hx] at h
    cases h
    rfl

theorem snd_eq_ok {α : Type} {x : Except StorageError (α × GuardianEpochStore)}
    (h : (·.2) <$> x = .ok store') : ∃ a, x = .ok (a, store') := by
  cases x with
  | ok out =>
    cases h
    exact ⟨out.1, rfl⟩
  | error e => cases h

theorem perform_eq_ok (h : perform op store = .ok u store') : Performs store op store' := by
  cases op <;> simp only [perform] at h
  case prepareSuccessor rotationId planHash record journal =>
    obtain ⟨generation, hrun⟩ := snd_eq_ok (attempt_eq_ok h)
    obtain ⟨hpreparable, hstore⟩ := prepareSuccessor_eq_ok hrun
    simp only at hstore
    subst hstore
    exact .prepared hpreparable
  case activateSuccessor =>
    obtain ⟨prepared, drained, hprepared, hbinds, hdrained, rfl⟩ := activateSuccessor_eq_ok h
    exact .activated hprepared hbinds hdrained
  case abortPrepared rotationId planHash =>
    obtain ⟨hlive, hfree, rfl⟩ := abortPrepared_eq_ok.mp (attempt_eq_ok h)
    exact .aborted hlive hfree
  case observeReplacementActivation =>
    obtain ⟨old, oldCapsuleHash, hactive, hhash, hprepared, hbinds, rfl⟩ :=
      observeReplacementActivation_eq_ok h
    exact .observed hactive hhash hprepared hbinds
  case finishDrainingRequest guardianEpoch requestId =>
    have hrun := attempt_eq_ok h
    simp only [finishDrainingRequest, Checks.bind_eq_ok, okOr_eq_ok, Except.ok.injEq] at hrun
    obtain ⟨draining, hdraining, rfl⟩ := hrun
    exact .finished hdraining
  case retireEpoch guardianEpoch monotonicNow =>
    obtain ⟨hash, hrun⟩ := snd_eq_ok (attempt_eq_ok h)
    obtain ⟨draining, -, -, -, hout⟩ := retireEpoch_eq_ok hrun
    cases hout
    exact .retired

/-- A refused operation leaves the store, unless its active record has lost its hash. -/
theorem perform_eq_error (h : perform op store = .error e store') : store' = store ∨ store.Torn := by
  cases op <;> simp only [perform] at h
  case activateSuccessor => exact (activateSuccessor_eq_error h).imp_right And.left
  case observeReplacementActivation =>
    exact (observeReplacementActivation_eq_error h).imp_right And.left
  all_goals exact Or.inl (attempt_eq_error h)

theorem operations_ok (h : perform op store = .ok u store') :
    operations.step store op = (store', some op) :=
  Machine.ofCalls_ok h

theorem operations_error (h : perform op store = .error e store') :
    operations.step store op = (store', none) :=
  Machine.ofCalls_error h

/-! ### What the store represents -/

/-- The records are in the states their places stand for, and the prepared one is next. -/
structure Represented (store : GuardianEpochStore) : Prop where
  hashed : store.active.isSome = store.activeCapsuleHash.isSome
  active : ∀ record ∈ store.active, record.policy.epochState = .active
  draining : ∀ (guardianEpoch : UInt64) (drains : DrainingGuardianEpoch), store.draining[guardianEpoch]? = some drains →
    drains.record.policy.epochState = .draining ∧
      drains.record.policy.drainDeadline = some drains.drainDeadline
  prepared : ∀ prepared ∈ store.prepared,
    prepared.record.policy.epochState = .prepared ∧ 0 < prepared.durableWriteGeneration ∧
    prepared.record.policy.configRef.IsDirectSuccessorOf store.expectedPredecessor ∧
    prepared.record.policy.predecessorCapsuleHash = store.expectedPredecessorCapsuleHash
  generation : 0 < store.nextWriteGeneration

theorem one_pos : (0 : UInt64) < 1 := by decide

theorem Represented.start (start : StoreStart) : Represented start.store := by
  cases start with
  | new active activeCapsuleHash =>
    refine ⟨rfl, fun record hrecord => ?_, fun guardianEpoch drains hfound => ?_,
      fun prepared hprepared => ?_, one_pos⟩
    · cases hrecord
      rfl
    · simp [StoreStart.store, GuardianEpochStore.new] at hfound
    · cases hprepared
  | newCandidate predecessor predecessorCapsuleHash =>
    refine ⟨rfl, fun record hrecord => ?_, fun guardianEpoch drains hfound => ?_,
      fun prepared hprepared => ?_, one_pos⟩
    · cases hrecord
    · simp [StoreStart.store, GuardianEpochStore.newCandidate] at hfound
    · cases hprepared

theorem Represented.not_torn (h : Represented store) : ¬store.Torn := by
  intro htorn
  obtain ⟨hactive, hhash⟩ := htorn
  have hhashed := h.hashed
  rw [hactive, hhash] at hhashed
  cases hhashed

theorem saturatingAdd_pos {n : UInt64} (h : 0 < n) : 0 < saturatingAdd n 1 := by
  rw [UInt64.lt_iff_toNat_lt] at h ⊢
  rw [saturatingAdd_toNat]
  simp only [UInt64.toNat_zero, UInt64.toNat_one] at h ⊢
  omega

section Represented

variable {rotationId planHash activationQcHash : Id32} {qc : EpochActivationQc}
  {drainDeadline : UInt64} {pendingOldRequests : Finset Id32}

theorem draining_insert {table : Std.TreeMap UInt64 DrainingGuardianEpoch}
    {P : DrainingGuardianEpoch → Prop} {key : UInt64} {drains : DrainingGuardianEpoch}
    (h : ∀ (guardianEpoch : UInt64) (found : DrainingGuardianEpoch),
      table[guardianEpoch]? = some found → P found) (hnew : P drains) :
    ∀ (guardianEpoch : UInt64) (found : DrainingGuardianEpoch),
      (table.insert key drains)[guardianEpoch]? = some found → P found := by
  intro guardianEpoch found hfound
  rcases getElem?_insert_iff.mp hfound with ⟨-, rfl⟩ | ⟨-, hold⟩
  · exact hnew
  · exact h guardianEpoch found hold

theorem Drained.represented {drained : GuardianEpochStore} (h : Represented store)
    (hdrained : store.Drained drainDeadline pendingOldRequests drained) :
    (∀ (guardianEpoch : UInt64) (drains : DrainingGuardianEpoch),
      drained.draining[guardianEpoch]? = some drains →
        drains.record.policy.epochState = .draining ∧
          drains.record.policy.drainDeadline = some drains.drainDeadline) ∧
      drained.nextWriteGeneration = store.nextWriteGeneration := by
  cases hdrained with
  | active hactive hhash => exact ⟨draining_insert h.draining ⟨rfl, rfl⟩, rfl⟩
  | candidate => exact ⟨h.draining, rfl⟩

theorem Represented.performs (h : Represented store) (hperforms : Performs store op store') :
    Represented store' := by
  cases hperforms with
  | prepared hpreparable =>
    refine ⟨h.hashed, h.active, h.draining, fun prepared hprepared => ?_,
      saturatingAdd_pos h.generation⟩
    cases hprepared
    exact ⟨rfl, h.generation, hpreparable.successor, hpreparable.predecessor⟩
  | activated hprepared hbinds hdrained =>
    obtain ⟨hdraining, hgeneration⟩ := hdrained.represented h
    refine ⟨rfl, fun record hrecord => ?_, hdraining, fun prepared hnone => ?_, ?_⟩
    · cases hrecord
      rfl
    · cases hnone
    · exact hgeneration.symm ▸ h.generation
  | aborted =>
    refine ⟨h.hashed, h.active, h.draining, fun prepared hnone => ?_, h.generation⟩
    cases hnone
  | observed hactive hhash hprepared =>
    refine ⟨rfl, fun record hrecord => ?_, draining_insert h.draining ⟨rfl, rfl⟩, ?_, h.generation⟩
    · cases hrecord
    · intro prepared hsome
      cases hprepared.symm.trans hsome
  | finished hdraining =>
    have hold := h.draining _ _ hdraining
    exact ⟨h.hashed, h.active, draining_insert h.draining hold, h.prepared, h.generation⟩
  | retired =>
    refine ⟨h.hashed, h.active, fun guardianEpoch drains hfound => ?_, h.prepared, h.generation⟩
    exact h.draining guardianEpoch drains (getElem?_erase_iff.mp hfound).2

/-- On a store whose records are in their states, an operation that refuses leaves it as it is. -/
theorem Represented.refused (h : Represented store) (hperform : perform op store = .error e store') :
    store' = store :=
  (perform_eq_error hperform).resolve_right h.not_torn

theorem Represented.step (h : Represented store) (op : StoreOp) :
    Represented (operations.step store op).1 := by
  cases hperform : perform op store with
  | ok u store' =>
    rw [operations_ok hperform]
    exact h.performs (perform_eq_ok hperform)
  | error e store' =>
    rw [operations_error hperform, h.refused hperform]
    exact h

theorem represented_run (start : StoreStart) (ops : List StoreOp) :
    Represented (operations.run start.store ops) := by
  induction ops using List.reverseRecOn with
  | nil => exact .start start
  | append_singleton ops op ih =>
    rw [Machine.run_append]
    exact ih.step op

theorem transaction_eq_error {injectFailure : Bool} {mutate : Operation Unit}
    (h : transaction injectFailure mutate store = .error e store') : store' = store := by
  unfold transaction at h
  split at h
  · cases h
    rfl
  · split at h
    · cases h
      rfl
    · cases h

end Represented

/-- What the store keeps to, whatever is done to it. -/
structure Kept (store : GuardianEpochStore) : Prop where
  represented : Represented store
  refused : ∀ op e store', perform op store = .error e store' → store' = store
  transacted : ∀ injectFailure op e store',
    transaction injectFailure (perform op) store = .error e store' → store' = store
  aborted : ∀ rotationId planHash u store',
    perform (.abortPrepared rotationId planHash) store = .ok u store' →
      store'.active = store.active ∧ store'.activeCapsuleHash = store.activeCapsuleHash ∧
      store'.draining = store.draining

end GuardianEpochStore

open GuardianEpochStore

/-- Whatever operations a store has seen, its records are in the states their places stand for, an
operation that refuses leaves it as it was, and giving up a prepared epoch touches no other. -/
theorem guardian_store_kept (start : StoreStart) (ops : List StoreOp) :
    Kept (operations.run start.store ops) where
  represented := represented_run start ops
  refused _ _ _ h := (represented_run start ops).refused h
  transacted _ _ _ _ h := transaction_eq_error h
  aborted _ _ _ _ h := by
    have hperforms := perform_eq_ok h
    cases hperforms
    exact ⟨rfl, rfl, rfl⟩

/-- A guardian of the first epoch, whose capsule hashes to 11, and its successors, 12 and 13. -/
def sampleEpoch (guardianEpoch : UInt64) (binding predecessorCapsuleHash : Id32) :
    GuardianRecordV3 where
  opaqueSlotId := 1
  guardianIndex := 1
  fragmentIndex := 1
  encryptedCiphertextFragment := ⟨0, []⟩
  encryptedDekShare := ⟨0, []⟩
  merklePathProof := []
  custodyRoot := 2
  policy :=
    { configRef := ⟨1, 1, 1, guardianEpoch, binding⟩
      epochState := .prepared
      signerSetCommitment := 3
      signerCount := 2
      signerThreshold := 2
      ownerCancelPublicKey := 0
      minimumRecoveryDelay := 10
      guardianMaterialRoot := 4
      dpssSuite := .zfFrostRistretto255RtsRefreshV1
      dpssPublicCommitment := 5
      predecessorCapsuleHash := predecessorCapsuleHash
      activationQcHash := none
      drainDeadline := none }

def sampleStart : StoreStart := .new (sampleEpoch 1 1 0) 11

def sampleStoreQc (rotationId : Id32) (predecessorEpoch : UInt64) (predecessorCapsuleHash : Id32)
    (successorEpoch : UInt64) (successorCapsuleHash : Id32) : EpochActivationQc :=
  ⟨3, 1, rotationId, predecessorEpoch, predecessorCapsuleHash, successorEpoch,
    successorCapsuleHash, 6, 1, []⟩

def samplePrepare (rotationId : Id32) (record : GuardianRecordV3) : StoreOp :=
  .prepareSuccessor rotationId 7 record ⟨rotationId, 7, 8, 9, 0, 0, [], ⟨0, []⟩⟩

/-- Rotation 21 replaces the first epoch and rotation 22 the second. -/
def sampleRotations : List StoreOp :=
  [samplePrepare 21 (sampleEpoch 2 2 11), .activateSuccessor 21 7 (sampleStoreQc 21 1 11 2 12) 30 90 ∅,
    samplePrepare 22 (sampleEpoch 3 3 12), .activateSuccessor 22 7 (sampleStoreQc 22 2 12 3 13) 31 95 ∅]

example : operations.outputs sampleStart.store sampleRotations = sampleRotations := by
  decide +kernel

end MasterRecovery
