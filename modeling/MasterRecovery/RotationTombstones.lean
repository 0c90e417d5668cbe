import MasterRecovery.StoreRuns

/-!
# The tombstones of rotations (gp-storage/src/rotation.rs)

Every rotation that ends leaves a tombstone. An activation never writes one twice, since no rotation
with a tombstone is prepared; giving up a rotation and observing a replacement do not look.
-/

namespace MasterRecovery

namespace GuardianEpochStore

variable {store store' : GuardianEpochStore} {op : StoreOp} {u : Unit} {e : StorageError}

/-- The prepared rotation has no tombstone. -/
def PreparedLive (store : GuardianEpochStore) : Prop :=
  ∀ prepared ∈ store.prepared, store.rotationTombstones[prepared.rotationId]? = none

/-- An end of a rotation that writes over another one. -/
inductive Overwrites (store : GuardianEpochStore) : StoreOp → Prop
  | aborted {rotationId planHash : Id32} {tombstone : RotationTombstone}
    (hlive : store.activationQc.map (·.rotationId) ≠ some rotationId)
    (hfree : store.FreeFor rotationId planHash)
    (hfound : store.rotationTombstones[rotationId]? = some tombstone)
    (hother : tombstone ≠
      ⟨rotationId, planHash, store.expectedPredecessorCapsuleHash, .aborted⟩) :
    Overwrites store (.abortPrepared rotationId planHash)
  | observed {rotationId planHash activationQcHash oldCapsuleHash : Id32} {qc : EpochActivationQc}
    {drainDeadline : UInt64} {pendingOldRequests : Finset Id32} {tombstone : RotationTombstone}
    (hactive : store.active.isSome) (hhash : store.activeCapsuleHash = some oldCapsuleHash)
    (hprepared : store.prepared = none) (hbinds : store.ObservationBinds rotationId qc)
    (hfound : store.rotationTombstones[rotationId]? = some tombstone)
    (hother : tombstone ≠ ⟨rotationId, planHash, oldCapsuleHash, .draining⟩) :
    Overwrites store (.observeReplacementActivation rotationId planHash qc activationQcHash
      drainDeadline pendingOldRequests)

/-- The tombstone an accepted operation writes. -/
def buries (store : GuardianEpochStore) : StoreOp → Option RotationTombstone
  | .activateSuccessor rotationId planHash _ _ _ _ =>
    some ⟨rotationId, planHash, store.expectedPredecessorCapsuleHash, .active⟩
  | .abortPrepared rotationId planHash =>
    some ⟨rotationId, planHash, store.expectedPredecessorCapsuleHash, .aborted⟩
  | .observeReplacementActivation rotationId planHash _ _ _ _ =>
    store.activeCapsuleHash.map fun oldCapsuleHash =>
      ⟨rotationId, planHash, oldCapsuleHash, .draining⟩
  | _ => none

theorem Drained.rotationTombstones {drainDeadline : UInt64} {pendingOldRequests : Finset Id32}
    {drained : GuardianEpochStore}
    (h : store.Drained drainDeadline pendingOldRequests drained) :
    drained.rotationTombstones = store.rotationTombstones := by
  cases h <;> rfl

/-- An operation writes at most its own tombstone. -/
theorem Performs.tombstones (h : Performs store op store') :
    store'.rotationTombstones = (match buries store op with
      | some tombstone => store.rotationTombstones.insert tombstone.rotationId tombstone
      | none => store.rotationTombstones) := by
  cases h with
  | activated _ _ hdrained =>
    simp only [withSuccessor, withActive, withQc, hdrained.rotationTombstones, buries]
  | observed _ hhash =>
    simp only [withReplaced, withDraining, withQc, buries, hhash, Option.map_some]
  | _ => rfl

theorem Performs.preparedLive (h : Performs store op store') (hlive : PreparedLive store) :
    PreparedLive store' := by
  cases h with
  | prepared hpreparable =>
    intro prepared hsome
    cases hsome
    exact Std.TreeMap.getElem?_eq_none hpreparable.live
  | activated =>
    intro prepared hnone
    cases hnone
  | aborted =>
    intro prepared hnone
    cases hnone
  | observed _ _ hprepared =>
    intro prepared hsome
    cases hprepared.symm.trans hsome
  | finished => exact hlive
  | retired => exact hlive

/-- A tombstone that would be lost is written over by the operation. -/
theorem Performs.overwrites (h : Performs store op store') (hlive : PreparedLive store)
    {id : Id32} {tombstone : RotationTombstone}
    (hfound : store.rotationTombstones[id]? = some tombstone)
    (hlost : store'.rotationTombstones[id]? ≠ some tombstone) : Overwrites store op := by
  have hinsert : ∀ (key : Id32) (new : RotationTombstone),
      store'.rotationTombstones = store.rotationTombstones.insert key new →
        key = id ∧ tombstone ≠ new := by
    intro key new hnew
    rw [hnew] at hlost
    by_cases hsame : id = key
    · refine ⟨hsame.symm, fun heq => hlost ?_⟩
      exact getElem?_insert_iff.mpr (Or.inl ⟨hsame, heq⟩)
    · exact absurd (getElem?_insert_iff.mpr (Or.inr ⟨hsame, hfound⟩)) hlost
  have htombstones := h.tombstones
  cases h with
  | @activated rotationId _ _ _ _ _ prepared _ hprepared hbinds =>
    obtain ⟨rfl, -⟩ := hinsert rotationId _ htombstones
    have hnone := hlive prepared hprepared
    rw [hbinds.rotation, hfound] at hnone
    cases hnone
  | @aborted rotationId _ hqc hfree =>
    obtain ⟨rfl, hother⟩ := hinsert rotationId _ htombstones
    exact .aborted hqc hfree hfound hother
  | @observed rotationId _ _ _ _ _ _ _ hactive hhash hprepared hbinds =>
    simp only [buries, hhash, Option.map_some] at htombstones
    obtain ⟨rfl, hother⟩ := hinsert rotationId _ htombstones
    exact .observed (by rw [hactive]; rfl) hhash hprepared hbinds hfound hother
  | prepared => exact absurd (htombstones ▸ hfound) hlost
  | finished => exact absurd (htombstones ▸ hfound) hlost
  | retired => exact absurd (htombstones ▸ hfound) hlost

/-- And such an operation is accepted. -/
theorem Overwrites.performed (h : Overwrites store op) :
    ∃ (id : Id32) (tombstone : RotationTombstone) (store' : GuardianEpochStore),
      store.rotationTombstones[id]? = some tombstone ∧
      perform op store = .ok () store' ∧ store'.rotationTombstones[id]? ≠ some tombstone := by
  have hinsert : ∀ {new tombstone : RotationTombstone}, tombstone ≠ new →
      (store.rotationTombstones.insert new.rotationId new)[new.rotationId]? ≠ some tombstone := by
    intro new tombstone hother hsame
    rw [getElem?_insert_iff.mpr (Or.inl ⟨rfl, rfl⟩)] at hsame
    exact hother (Option.some.inj hsame).symm
  cases h with
  | @aborted rotationId planHash tombstone hlive hfree hfound hother =>
    refine ⟨rotationId, tombstone, store.withAborted rotationId planHash, hfound, ?_, hinsert hother⟩
    simp only [perform, attempt, abortPrepared_eq_ok.mpr ⟨hlive, hfree, rfl⟩]
  | @observed rotationId planHash activationQcHash oldCapsuleHash qc drainDeadline
      pendingOldRequests tombstone hactive hhash hprepared hbinds hfound hother =>
    obtain ⟨old, hold⟩ := Option.isSome_iff_exists.mp hactive
    refine ⟨rotationId, tombstone, store.withReplaced old oldCapsuleHash rotationId planHash qc
      activationQcHash drainDeadline pendingOldRequests, hfound, ?_, hinsert hother⟩
    simp [perform, observeReplacementActivation, hold, hhash, hprepared, hbinds.rotation,
      hbinds.predecessorEpoch, hbinds.predecessorHash, hbinds.successorEpoch, withReplaced]

/-- A tombstone never changes. -/
def Permanent (store : GuardianEpochStore) (ops : List StoreOp) : Prop :=
  ∀ earlier middle later, ops = earlier ++ middle ++ later →
    ∀ (id : Id32) (tombstone : RotationTombstone),
      (operations.run store earlier).rotationTombstones[id]? = some tombstone →
        (operations.run store (earlier ++ middle)).rotationTombstones[id]? = some tombstone

theorem PreparedLive.step (hlive : PreparedLive store) (hrepresented : Represented store)
    (op : StoreOp) : PreparedLive (operations.step store op).1 := by
  cases hperform : perform op store with
  | ok u store' =>
    rw [operations_ok hperform]
    exact (perform_eq_ok hperform).preparedLive hlive
  | error e store' =>
    rw [operations_error hperform, hrepresented.refused hperform]
    exact hlive

theorem preparedLive_run (start : StoreStart) (ops : List StoreOp) :
    PreparedLive (operations.run start.store ops) := by
  induction ops using List.reverseRecOn with
  | nil => cases start <;> exact fun prepared hnone => by cases hnone
  | append_singleton ops op ih =>
    rw [Machine.run_append]
    exact ih.step (represented_run start ops) op

/-- One operation keeps every tombstone, or it writes over one. -/
theorem tombstones_step (hlive : PreparedLive store) (hrepresented : Represented store)
    (hkept : ¬Overwrites store op) {id : Id32} {tombstone : RotationTombstone}
    (hfound : store.rotationTombstones[id]? = some tombstone) :
    (operations.step store op).1.rotationTombstones[id]? = some tombstone := by
  cases hperform : perform op store with
  | ok u store' =>
    rw [operations_ok hperform]
    by_contra hlost
    exact hkept ((perform_eq_ok hperform).overwrites hlive hfound hlost)
  | error e store' =>
    rw [operations_error hperform, hrepresented.refused hperform]
    exact hfound

theorem tombstones_run {log : List StoreOp} {ops : List StoreOp} (hlive : PreparedLive store)
    (hrepresented : Represented store)
    (halong : operations.Along (fun store _ op => ¬Overwrites store op) store log ops)
    {id : Id32} {tombstone : RotationTombstone}
    (hfound : store.rotationTombstones[id]? = some tombstone) :
    (operations.run store ops).rotationTombstones[id]? = some tombstone := by
  induction ops generalizing store log with
  | nil => exact hfound
  | cons op ops ih =>
    exact ih (hlive.step hrepresented op) (hrepresented.step op) halong.2
      (tombstones_step hlive hrepresented halong.1 hfound)

end GuardianEpochStore

open GuardianEpochStore

/-- Tombstones are permanent exactly when no rotation given up, and no replacement observed, writes
over the tombstone of another end. -/
theorem tombstones_permanent_iff (start : StoreStart) (ops : List StoreOp) :
    Permanent start.store ops ↔
      operations.Along (fun store _ op => ¬Overwrites store op) start.store [] ops := by
  constructor
  · intro hpermanent
    rw [Machine.along_iff_split]
    intro earlier op later hsplit hoverwrites
    obtain ⟨id, tombstone, store', hfound, hperform, hlost⟩ := hoverwrites.performed
    have hkept := hpermanent earlier [op] later (by simp [hsplit]) id tombstone hfound
    rw [Machine.run_append, Machine.run_cons, operations_ok hperform] at hkept
    exact hlost hkept
  · intro halong earlier middle later hsplit id tombstone hfound
    rw [hsplit, Machine.along_append, Machine.along_append] at halong
    rw [Machine.run_append]
    exact tombstones_run (preparedLive_run start earlier) (represented_run start earlier)
      halong.1.2 hfound

/-- Two rotations on, the first is recorded as active; giving it up then records it as aborted. -/
theorem active_tombstone_aborted :
    ¬Permanent sampleStart.store (sampleRotations ++ [.abortPrepared 21 7]) := by
  intro hpermanent
  have hkept := hpermanent sampleRotations [.abortPrepared 21 7] [] (List.append_nil _).symm 21 ⟨21, 7, 11, .active⟩
    (by decide +kernel)
  exact absurd hkept (by decide +kernel)

end MasterRecovery
