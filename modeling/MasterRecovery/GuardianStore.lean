import MasterRecovery.GuardianTypes
import MasterRecovery.Storage
import MasterRecovery.Lib.Effects

/-!
# The guardian's epoch store (gp-storage/src/rotation.rs)

One guardian's active, prepared and draining records. An operation that refuses may have taken
records out of the store before it did.
-/

namespace MasterRecovery
open Checks Act

namespace GuardianEpochStore

def new (active : GuardianRecordV3) (activeCapsuleHash : Id32) : GuardianEpochStore where
  configId := active.policy.configRef.configId
  expectedPredecessor := active.policy.configRef
  expectedPredecessorCapsuleHash := activeCapsuleHash
  active := some { active with policy := { active.policy with epochState := .active } }
  activeCapsuleHash := some activeCapsuleHash
  prepared := none
  draining := ∅
  dpssJournal := none
  rotationTombstones := ∅
  recoveryCancellationTombstones := ∅
  activationQc := none
  nextWriteGeneration := 1

/-- Storage of a guardian outside the predecessor roster. -/
def newCandidate (predecessor : ConfigRef) (predecessorCapsuleHash : Id32) :
    GuardianEpochStore where
  configId := predecessor.configId
  expectedPredecessor := predecessor
  expectedPredecessorCapsuleHash := predecessorCapsuleHash
  active := none
  activeCapsuleHash := none
  prepared := none
  draining := ∅
  dpssJournal := none
  rotationTombstones := ∅
  recoveryCancellationTombstones := ∅
  activationQc := none
  nextWriteGeneration := 1

def prepareSuccessor (rotationId planHash : Id32) (record : GuardianRecordV3)
    (journal : DpssSessionJournal) (store : GuardianEpochStore) :
    Except StorageError (UInt64 × GuardianEpochStore) := do
  bailIf (rotationId ∈ store.rotationTombstones) .replay
  bailIf store.prepared.isSome .conflict
  bailIf (¬record.policy.configRef.IsDirectSuccessorOf store.expectedPredecessor ∨
    record.policy.predecessorCapsuleHash ≠ store.expectedPredecessorCapsuleHash ∨
    journal.rotationId ≠ rotationId ∨ journal.planHash ≠ planHash) .invalidEpoch
  .ok (store.nextWriteGeneration, { store with
    nextWriteGeneration := saturatingAdd store.nextWriteGeneration 1
    prepared := some
      { rotationId := rotationId
        planHash := planHash
        record := { record with policy := { record.policy with epochState := .prepared } }
        durableWriteGeneration := store.nextWriteGeneration }
    dpssJournal := some journal })

/-- The active record starts to drain, with the requests it may still finish. -/
def withDraining (old : GuardianRecordV3) (capsuleHash : Id32) (drainDeadline : UInt64)
    (pendingOldRequests : Finset Id32) (store : GuardianEpochStore) : GuardianEpochStore :=
  { store with
    active := none
    activeCapsuleHash := none
    draining := store.draining.insert old.policy.configRef.guardianEpoch
      { record := { old with
          policy := { old.policy with
            epochState := .draining
            drainDeadline := some drainDeadline } }
        capsuleHash := capsuleHash
        drainDeadline := drainDeadline
        pendingRequestIds := pendingOldRequests } }

/-- The QC has been seen, and the rotation is over. -/
def withQc (rotationId planHash predecessorHash : Id32) (qc : EpochActivationQc)
    (terminalState : RotationState) (store : GuardianEpochStore) : GuardianEpochStore :=
  { store with
    activationQc := some qc
    dpssJournal := none
    rotationTombstones := store.rotationTombstones.insert rotationId
      { rotationId := rotationId
        planHash := planHash
        predecessorCapsuleHash := predecessorHash
        terminalState := terminalState } }

/-- The prepared record becomes the active one. -/
def withActive (prepared : GuardianRecordV3) (successorCapsuleHash activationQcHash : Id32)
    (store : GuardianEpochStore) : GuardianEpochStore :=
  { store with
    prepared := none
    expectedPredecessor := prepared.policy.configRef
    expectedPredecessorCapsuleHash := successorCapsuleHash
    active := some { prepared with
      policy := { prepared.policy with
        epochState := .active
        activationQcHash := some activationQcHash } }
    activeCapsuleHash := some successorCapsuleHash }

/-- `activate_successor`; an error comes with the store it leaves. -/
def activateSuccessor (rotationId planHash : Id32) (qc : EpochActivationQc)
    (activationQcHash : Id32) (drainDeadline : UInt64) (pendingOldRequests : Finset Id32) :
    EStateM StorageError GuardianEpochStore Unit := fun store =>
  match store.prepared with
  | none => .error .noPreparedSuccessor store
  | some prepared =>
    if prepared.rotationId ≠ rotationId ∨ prepared.planHash ≠ planHash ∨
        qc.rotationId ≠ rotationId ∨
        qc.predecessorEpoch ≠ store.expectedPredecessor.guardianEpoch ∨
        qc.predecessorCapsuleHash ≠ store.expectedPredecessorCapsuleHash ∨
        qc.successorEpoch ≠ prepared.record.policy.configRef.guardianEpoch then
      .error .invalidEpoch store
    else
      let activate (drained : GuardianEpochStore) :=
        (drained.withActive prepared.record qc.successorCapsuleHash activationQcHash).withQc
          rotationId planHash store.expectedPredecessorCapsuleHash qc .active
      match store.active, store.activeCapsuleHash with
      | some old, some oldCapsuleHash =>
        .ok () (activate (store.withDraining old oldCapsuleHash drainDeadline pendingOldRequests))
      | some _, none => .error .invalidEpoch { store with prepared := none, active := none }
      | none, _ =>
        if pendingOldRequests.Nonempty then .error .invalidEpoch store
        else .ok () (activate store)

def abortPrepared (rotationId planHash : Id32) (store : GuardianEpochStore) :
    Except StorageError GuardianEpochStore := do
  bailIf (store.activationQc.map (·.rotationId) = some rotationId) .alreadyActivated
  bailIf (∃ prepared ∈ store.prepared, prepared.rotationId ≠ rotationId ∨
    prepared.planHash ≠ planHash) .conflict
  .ok { store with
    prepared := none
    dpssJournal := none
    rotationTombstones := store.rotationTombstones.insert rotationId
      { rotationId := rotationId
        planHash := planHash
        predecessorCapsuleHash := store.expectedPredecessorCapsuleHash
        terminalState := .aborted } }

/-- `observe_replacement_activation`; an error comes with the store it leaves. -/
def observeReplacementActivation (rotationId planHash : Id32) (qc : EpochActivationQc)
    (activationQcHash : Id32) (drainDeadline : UInt64) (pendingOldRequests : Finset Id32) :
    EStateM StorageError GuardianEpochStore Unit := fun store =>
  match store.active with
  | none => .error .conflict store
  | some old =>
    if store.prepared.isSome then .error .conflict store
    else if qc.rotationId ≠ rotationId ∨
        qc.predecessorEpoch ≠ store.expectedPredecessor.guardianEpoch ∨
        qc.predecessorCapsuleHash ≠ store.expectedPredecessorCapsuleHash ∨
        qc.successorEpoch ≠ saturatingAdd store.expectedPredecessor.guardianEpoch 1 then
      .error .invalidEpoch store
    else
      match store.activeCapsuleHash with
      | none => .error .invalidEpoch { store with active := none }
      | some oldHash =>
        let observed := { old with
          policy := { old.policy with activationQcHash := some activationQcHash } }
        .ok () ((store.withDraining observed oldHash drainDeadline pendingOldRequests).withQc
          rotationId planHash oldHash qc .draining)

def finishDrainingRequest (guardianEpoch : UInt64) (requestId : Id32)
    (store : GuardianEpochStore) : Except StorageError GuardianEpochStore := do
  let draining ← okOr store.draining[guardianEpoch]? .notFound
  .ok { store with
    draining := store.draining.insert guardianEpoch
      { draining with pendingRequestIds := draining.pendingRequestIds.erase requestId } }

def retireEpoch (guardianEpoch monotonicNow : UInt64) (store : GuardianEpochStore) :
    Except StorageError (Id32 × GuardianEpochStore) := do
  let draining ← okOr store.draining[guardianEpoch]? .notFound
  bailIf (monotonicNow < draining.drainDeadline ∨ draining.pendingRequestIds.Nonempty) .notDurable
  .ok (draining.capsuleHash, { store with draining := store.draining.erase guardianEpoch })

/-! ### What the operations do -/

variable {store store' : GuardianEpochStore} {rotationId planHash activationQcHash : Id32}
  {record : GuardianRecordV3} {journal : DpssSessionJournal} {qc : EpochActivationQc}
  {drainDeadline : UInt64} {pendingOldRequests : Finset Id32}

/-- What a successor must bind to be prepared. -/
structure Preparable (store : GuardianEpochStore) (rotationId : Id32) (record : GuardianRecordV3) :
    Prop where
  live : rotationId ∉ store.rotationTombstones
  free : store.prepared = none
  successor : record.policy.configRef.IsDirectSuccessorOf store.expectedPredecessor
  predecessor : record.policy.predecessorCapsuleHash = store.expectedPredecessorCapsuleHash

theorem prepareSuccessor_eq_ok {out : UInt64 × GuardianEpochStore}
    (h : store.prepareSuccessor rotationId planHash record journal = .ok out) :
    store.Preparable rotationId record ∧ out.2 = { store with
      nextWriteGeneration := saturatingAdd store.nextWriteGeneration 1
      prepared := some
        { rotationId := rotationId
          planHash := planHash
          record := { record with policy := { record.policy with epochState := .prepared } }
          durableWriteGeneration := store.nextWriteGeneration }
      dpssJournal := some journal } := by
  simp only [prepareSuccessor, bind_unit_eq_ok, bailIf_eq_ok, not_or, not_not, ne_eq,
    Except.ok.injEq, Bool.not_eq_true, Option.isSome_eq_false_iff, Option.isNone_iff_eq_none] at h
  obtain ⟨hlive, hfree, ⟨hsuccessor, hpredecessor, -⟩, rfl⟩ := h
  exact ⟨⟨hlive, hfree, hsuccessor, hpredecessor⟩, rfl⟩

/-- A slot that does not stand in the way of ending a rotation. -/
def FreeFor (store : GuardianEpochStore) (rotationId planHash : Id32) : Prop :=
  ∀ prepared ∈ store.prepared, prepared.rotationId = rotationId ∧ prepared.planHash = planHash

/-- The store of a rotation that has been given up. -/
def withAborted (rotationId planHash : Id32) (store : GuardianEpochStore) : GuardianEpochStore :=
  { store with
    prepared := none
    dpssJournal := none
    rotationTombstones := store.rotationTombstones.insert rotationId
      { rotationId := rotationId
        planHash := planHash
        predecessorCapsuleHash := store.expectedPredecessorCapsuleHash
        terminalState := .aborted } }

theorem abortPrepared_eq_ok :
    store.abortPrepared rotationId planHash = .ok store' ↔
      store.activationQc.map (·.rotationId) ≠ some rotationId ∧
        store.FreeFor rotationId planHash ∧ store.withAborted rotationId planHash = store' := by
  simp only [abortPrepared, bind_unit_eq_ok, bailIf_eq_ok, not_exists, not_and, not_or, not_not,
    ne_eq, Except.ok.injEq, FreeFor, withAborted]

/-- What an activation must bind to be the prepared one. -/
structure ActivationBinds (store : GuardianEpochStore) (prepared : PreparedGuardianEpoch)
    (rotationId planHash : Id32) (qc : EpochActivationQc) : Prop where
  rotation : prepared.rotationId = rotationId
  plan : prepared.planHash = planHash
  qcRotation : qc.rotationId = rotationId
  predecessorEpoch : qc.predecessorEpoch = store.expectedPredecessor.guardianEpoch
  predecessorHash : qc.predecessorCapsuleHash = store.expectedPredecessorCapsuleHash
  successorEpoch : qc.successorEpoch = prepared.record.policy.configRef.guardianEpoch

/-- The active record drains, if there is one; else nothing may be pending. -/
inductive Drained (store : GuardianEpochStore) (drainDeadline : UInt64)
    (pendingOldRequests : Finset Id32) : GuardianEpochStore → Prop
  | active {old : GuardianRecordV3} {oldCapsuleHash : Id32} (hactive : store.active = some old)
    (hhash : store.activeCapsuleHash = some oldCapsuleHash) :
    Drained store drainDeadline pendingOldRequests
      (store.withDraining old oldCapsuleHash drainDeadline pendingOldRequests)
  | candidate (hactive : store.active = none) (hpending : pendingOldRequests = ∅) :
    Drained store drainDeadline pendingOldRequests store

/-- An active record without its capsule's hash. -/
def Torn (store : GuardianEpochStore) : Prop :=
  store.active.isSome = true ∧ store.activeCapsuleHash = none

theorem activationBinds_iff {prepared : PreparedGuardianEpoch} :
    store.ActivationBinds prepared rotationId planHash qc ↔
      ¬(prepared.rotationId ≠ rotationId ∨ prepared.planHash ≠ planHash ∨
        qc.rotationId ≠ rotationId ∨
        qc.predecessorEpoch ≠ store.expectedPredecessor.guardianEpoch ∨
        qc.predecessorCapsuleHash ≠ store.expectedPredecessorCapsuleHash ∨
        qc.successorEpoch ≠ prepared.record.policy.configRef.guardianEpoch) := by
  simp only [not_or, ne_eq, not_not]
  constructor
  · intro h
    exact ⟨h.rotation, h.plan, h.qcRotation, h.predecessorEpoch, h.predecessorHash,
      h.successorEpoch⟩
  · rintro ⟨h1, h2, h3, h4, h5, h6⟩
    exact ⟨h1, h2, h3, h4, h5, h6⟩

theorem activateSuccessor_eq_ok {u : Unit}
    (h : activateSuccessor rotationId planHash qc activationQcHash drainDeadline
      pendingOldRequests store = .ok u store') :
    ∃ prepared drained, store.prepared = some prepared ∧
      store.ActivationBinds prepared rotationId planHash qc ∧
      store.Drained drainDeadline pendingOldRequests drained ∧
      store' = (drained.withActive prepared.record qc.successorCapsuleHash
        activationQcHash).withQc rotationId planHash store.expectedPredecessorCapsuleHash qc
        .active := by
  cases hprepared : store.prepared with
  | none => simp [activateSuccessor, hprepared] at h
  | some prepared =>
    simp only [activateSuccessor, hprepared] at h
    split at h
    · cases h
    · next hbinds =>
      rw [← activationBinds_iff] at hbinds
      split at h
      · next hactive hhash =>
        cases h
        exact ⟨prepared, _, rfl, hbinds, .active hactive hhash, rfl⟩
      · cases h
      · next hactive =>
        split at h
        · cases h
        · next hpending =>
          cases h
          exact ⟨prepared, store, rfl, hbinds,
            .candidate hactive (Finset.not_nonempty_iff_eq_empty.mp hpending), rfl⟩

/-- A refused activation leaves the store, but for a record without its hash. -/
theorem activateSuccessor_eq_error {e : StorageError}
    (h : activateSuccessor rotationId planHash qc activationQcHash drainDeadline
      pendingOldRequests store = .error e store') :
    store' = store ∨ store.Torn ∧ store' = { store with prepared := none, active := none } := by
  cases hprepared : store.prepared with
  | none =>
    simp only [activateSuccessor, hprepared] at h
    cases h
    exact Or.inl rfl
  | some prepared =>
    simp only [activateSuccessor, hprepared] at h
    split at h
    · cases h
      exact Or.inl rfl
    · split at h
      · cases h
      · next hactive hhash =>
        cases h
        exact Or.inr ⟨⟨by rw [hactive]; rfl, hhash⟩, rfl⟩
      · split at h
        · cases h
          exact Or.inl rfl
        · cases h

/-- What the activation of a replacement must bind to be the next one. -/
structure ObservationBinds (store : GuardianEpochStore) (rotationId : Id32)
    (qc : EpochActivationQc) : Prop where
  rotation : qc.rotationId = rotationId
  predecessorEpoch : qc.predecessorEpoch = store.expectedPredecessor.guardianEpoch
  predecessorHash : qc.predecessorCapsuleHash = store.expectedPredecessorCapsuleHash
  successorEpoch : qc.successorEpoch = saturatingAdd store.expectedPredecessor.guardianEpoch 1

theorem observeReplacementActivation_eq_ok {u : Unit}
    (h : observeReplacementActivation rotationId planHash qc activationQcHash drainDeadline
      pendingOldRequests store = .ok u store') :
    ∃ old oldCapsuleHash, store.active = some old ∧ store.activeCapsuleHash = some oldCapsuleHash ∧
      store.prepared = none ∧ store.ObservationBinds rotationId qc ∧
      store' = (store.withDraining
        { old with policy := { old.policy with activationQcHash := some activationQcHash } }
        oldCapsuleHash drainDeadline pendingOldRequests).withQc rotationId planHash oldCapsuleHash
        qc .draining := by
  cases hactive : store.active with
  | none => simp [observeReplacementActivation, hactive] at h
  | some old =>
    simp only [observeReplacementActivation, hactive] at h
    split at h
    · cases h
    · next hprepared =>
      split at h
      · cases h
      · next hbinds =>
        simp only [not_or, ne_eq, not_not] at hbinds
        obtain ⟨hrotation, hepoch, hpredecessor, hsuccessor⟩ := hbinds
        split at h
        · cases h
        · next oldCapsuleHash hhash =>
          cases h
          exact ⟨old, oldCapsuleHash, rfl, hhash, by simpa using hprepared,
            ⟨hrotation, hepoch, hpredecessor, hsuccessor⟩, rfl⟩

theorem observeReplacementActivation_eq_error {e : StorageError}
    (h : observeReplacementActivation rotationId planHash qc activationQcHash drainDeadline
      pendingOldRequests store = .error e store') :
    store' = store ∨ store.Torn ∧ store' = { store with active := none } := by
  cases hactive : store.active with
  | none =>
    simp only [observeReplacementActivation, hactive] at h
    cases h
    exact Or.inl rfl
  | some old =>
    simp only [observeReplacementActivation, hactive] at h
    split at h
    · cases h
      exact Or.inl rfl
    · split at h
      · cases h
        exact Or.inl rfl
      · split at h
        · next hhash =>
          cases h
          exact Or.inr ⟨⟨by rw [hactive]; rfl, hhash⟩, rfl⟩
        · cases h

theorem retireEpoch_eq_ok {guardianEpoch monotonicNow : UInt64} {out : Id32 × GuardianEpochStore}
    (h : store.retireEpoch guardianEpoch monotonicNow = .ok out) :
    ∃ draining, store.draining[guardianEpoch]? = some draining ∧
      draining.drainDeadline ≤ monotonicNow ∧ draining.pendingRequestIds = ∅ ∧
      out = (draining.capsuleHash, { store with draining := store.draining.erase guardianEpoch }) := by
  simp only [retireEpoch, Checks.bind_eq_ok, okOr_eq_ok, bailIf_eq_ok, exists_const, not_or,
    UInt64.not_lt, Finset.not_nonempty_iff_eq_empty, Except.ok.injEq] at h
  obtain ⟨draining, hfound, ⟨hdeadline, hpending⟩, rfl⟩ := h
  exact ⟨draining, hfound, hdeadline, hpending, rfl⟩

end GuardianEpochStore

end MasterRecovery
