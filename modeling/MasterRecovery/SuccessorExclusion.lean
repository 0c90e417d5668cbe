import MasterRecovery.StoreRuns

/-!
# One successor for each predecessor (gp-storage/src/rotation.rs)

Two operations follow a successor of the expected predecessor. An activation moves the store past
it; the observation of a replacement leaves it expected, with nothing active.
-/

namespace MasterRecovery

/-- The predecessor an accepted operation follows a successor of, with the rotation it follows. -/
def StoreOp.follows : StoreOp → Option ((UInt64 × Id32) × Id32)
  | .activateSuccessor rotationId _ qc _ _ _
  | .observeReplacementActivation rotationId _ qc _ _ _ =>
    some ((qc.predecessorEpoch, qc.predecessorCapsuleHash), rotationId)
  | _ => none

namespace GuardianEpochStore

variable {store store' : GuardianEpochStore} {op : StoreOp} {log : List StoreOp} {u : Unit}
  {e : StorageError}

/-- The predecessors of the successors followed, in order. -/
def followed (log : List StoreOp) : List (UInt64 × Id32) :=
  (log.filterMap StoreOp.follows).map (·.1)

/-- No predecessor is followed by two rotations. -/
def OneSuccessor (log : List StoreOp) : Prop :=
  ∀ a ∈ log.filterMap StoreOp.follows, ∀ b ∈ log.filterMap StoreOp.follows, a.1 = b.1 → a.2 = b.2

/-- The predecessor a successor is expected of. -/
def expected (store : GuardianEpochStore) : UInt64 × Id32 :=
  (store.expectedPredecessor.guardianEpoch, store.expectedPredecessorCapsuleHash)

/-- The QC the store has seen last is for a successor of the expected predecessor. -/
def Observed (store : GuardianEpochStore) : Prop :=
  ∃ last, store.activationQc = some last ∧
    (last.predecessorEpoch, last.predecessorCapsuleHash) = store.expected

/-- An activation of the prepared rotation on a store that has observed a replacement. -/
def Refollows (store : GuardianEpochStore) : StoreOp → Prop
  | .activateSuccessor rotationId planHash qc _ _ _ =>
    store.Observed ∧ ∃ prepared ∈ store.prepared,
      store.ActivationBinds prepared rotationId planHash qc
  | _ => False

/-- An activation at the last epoch number, whose successor is named as a predecessor was. -/
def Returns (log : List StoreOp) : StoreOp → Prop
  | .activateSuccessor _ _ qc _ _ _ =>
    qc.predecessorEpoch.toNat = 2 ^ 64 - 1 ∧
      (qc.successorEpoch, qc.successorCapsuleHash) ∈
        (qc.predecessorEpoch, qc.predecessorCapsuleHash) :: followed log
  | _ => False

/-- The expected predecessor is new, or its one successor has been observed and nothing is active;
no epoch followed comes after it. -/
structure Follows (store : GuardianEpochStore) (log : List StoreOp) : Prop where
  nodup : (followed log).Nodup
  expected : store.expected ∉ followed log ∨ store.Observed ∧ store.active = none
  bounded : ∀ key ∈ followed log,
    key.1.toNat ≤ store.expectedPredecessor.guardianEpoch.toNat

theorem followed_concat (log : List StoreOp) (op : StoreOp) :
    followed (log ++ [op]) = followed log ++ (op.follows.map (·.1)).toList := by
  cases h : op.follows <;> simp [followed, h]

/-- Nodup keys leave one rotation for each. -/
theorem oneSuccessor_of_nodup (h : (followed log).Nodup) : OneSuccessor log := by
  intro a ha b hb hkey
  exact congrArg Prod.snd (List.inj_on_of_nodup_map h ha hb hkey)

/-- An operation that follows nothing and keeps what is expected and what was seen. -/
theorem Follows.kept (h : Follows store log) (hop : op.follows = none)
    (hpredecessor : store'.expectedPredecessor = store.expectedPredecessor)
    (hhash : store'.expectedPredecessorCapsuleHash = store.expectedPredecessorCapsuleHash)
    (hqc : store'.activationQc = store.activationQc) (hactive : store'.active = store.active) :
    Follows store' (log ++ [op]) := by
  have hlog : followed (log ++ [op]) = followed log := by simp [followed_concat, hop]
  refine ⟨hlog ▸ h.nodup, ?_, fun key hkey => ?_⟩
  · rw [hlog]
    unfold Observed GuardianEpochStore.expected
    rw [hpredecessor, hhash, hqc, hactive]
    exact h.expected
  · rw [hpredecessor]
    exact h.bounded key (hlog ▸ hkey)

theorem Follows.performs (h : Follows store log) (hrepresented : Represented store)
    (hperforms : Performs store op store')
    (hrefollows : ¬Refollows store op) (hreturns : ¬Returns log op) :
    Follows store' (log ++ [op]) := by
  cases hperforms with
  | prepared => exact h.kept rfl rfl rfl rfl rfl
  | aborted => exact h.kept rfl rfl rfl rfl rfl
  | finished => exact h.kept rfl rfl rfl rfl rfl
  | retired => exact h.kept rfl rfl rfl rfl rfl
  | @activated rotationId planHash activationQcHash qc drainDeadline pendingOldRequests prepared
      drained hprepared hbinds hdrained =>
    have hkey : (qc.predecessorEpoch, qc.predecessorCapsuleHash) = store.expected :=
      Prod.ext hbinds.predecessorEpoch hbinds.predecessorHash
    -- Nothing has been observed, so the predecessor has not been followed yet.
    have hfresh : store.expected ∉ followed log := by
      refine h.expected.resolve_right fun hobserved => hrefollows ⟨hobserved.1, ?_⟩
      exact ⟨prepared, hprepared, hbinds⟩
    have hlog : followed (log ++
        [.activateSuccessor rotationId planHash qc activationQcHash drainDeadline
          pendingOldRequests]) = followed log ++ [store.expected] := by
      rw [followed_concat, ← hkey]
      rfl
    have hdirect := (hrepresented.prepared prepared hprepared).2.2.1
    refine ⟨?_, Or.inl ?_, fun key hmem => ?_⟩
    · rw [hlog, ← List.concat_eq_append, List.nodup_concat]
      exact ⟨hfresh, h.nodup⟩
    · rw [hlog, List.mem_append, List.mem_singleton]
      intro hmem
      have hmem : (prepared.record.policy.configRef.guardianEpoch, qc.successorCapsuleHash) ∈
          followed log ∨ (prepared.record.policy.configRef.guardianEpoch,
            qc.successorCapsuleHash) = store.expected := hmem
      obtain hlater | ⟨hlast, hsame⟩ := hdirect.later_or_last
      · rcases hmem with hmem | hmem
        · exact absurd (h.bounded _ hmem) (by simp only; omega)
        · have heq := congrArg Prod.fst hmem
          simp only [GuardianEpochStore.expected] at heq
          rw [heq] at hlater
          exact absurd hlater (lt_irrefl _)
      · refine hreturns ⟨hbinds.predecessorEpoch ▸ hlast, ?_⟩
        rw [hkey, hbinds.successorEpoch, List.mem_cons]
        exact hmem.symm
    · have hle : store.expectedPredecessor.guardianEpoch.toNat ≤
          prepared.record.policy.configRef.guardianEpoch.toNat := by
        obtain hlater | ⟨-, hsame⟩ := hdirect.later_or_last
        · exact hlater.le
        · rw [hsame]
      rw [hlog, List.mem_append, List.mem_singleton] at hmem
      rcases hmem with hmem | rfl
      · exact (h.bounded key hmem).trans hle
      · exact hle
  | @observed rotationId planHash activationQcHash oldCapsuleHash qc drainDeadline
      pendingOldRequests old hactive hhash hprepared hbinds =>
    have hkey : (qc.predecessorEpoch, qc.predecessorCapsuleHash) = store.expected :=
      Prod.ext hbinds.predecessorEpoch hbinds.predecessorHash
    have hfresh : store.expected ∉ followed log := by
      refine h.expected.resolve_right fun hobserved => ?_
      rw [hactive] at hobserved
      cases hobserved.2
    have hlog : followed (log ++
        [.observeReplacementActivation rotationId planHash qc activationQcHash drainDeadline
          pendingOldRequests]) = followed log ++ [store.expected] := by
      rw [followed_concat, ← hkey]
      rfl
    refine ⟨?_, Or.inr ⟨⟨qc, rfl, hkey⟩, rfl⟩, fun key hmem => ?_⟩
    · rw [hlog, ← List.concat_eq_append, List.nodup_concat]
      exact ⟨hfresh, h.nodup⟩
    · rw [hlog, List.mem_append, List.mem_singleton] at hmem
      rcases hmem with hmem | rfl
      · exact h.bounded key hmem
      · exact le_rfl

theorem Follows.step (h : Follows store log) (hrepresented : Represented store)
    (hrefollows : ¬Refollows store op) (hreturns : ¬Returns log op) :
    Follows (operations.step store op).1 (log ++ (operations.step store op).2.toList) := by
  cases hperform : perform op store with
  | ok u store' =>
    rw [operations_ok hperform]
    exact h.performs hrepresented (perform_eq_ok hperform) hrefollows hreturns
  | error e store' =>
    rw [operations_error hperform, hrepresented.refused hperform]
    simpa using h

theorem Follows.start (start : StoreStart) : Follows start.store [] := by
  refine ⟨List.nodup_nil, Or.inl List.not_mem_nil, fun key hmem => ?_⟩
  exact absurd hmem List.not_mem_nil

theorem follows_run (start : StoreStart) (ops : List StoreOp)
    (halong : operations.Along (fun store log op => ¬Refollows store op ∧ ¬Returns log op)
      start.store [] ops) :
    Follows (operations.run start.store ops) (operations.outputs start.store ops) := by
  have hinv := operations.run_invariant
    (I := fun store log => Represented store ∧ Follows store log) ⟨.start start, .start start⟩
    (fun store log op h hop => ⟨h.1.step op, h.2.step h.1 hop.1 hop.2⟩) halong
  exact hinv.2

end GuardianEpochStore

open GuardianEpochStore

/-- One rotation is followed for each predecessor, as long as no store that has observed a
replacement activates the rotation it has prepared since, and no activation at the last epoch number
comes back to a predecessor. -/
theorem one_successor_of_along (start : StoreStart) (ops : List StoreOp)
    (halong : operations.Along (fun store log op => ¬Refollows store op ∧ ¬Returns log op)
      start.store [] ops) : OneSuccessor (operations.outputs start.store ops) :=
  oneSuccessor_of_nodup (follows_run start ops halong).nodup

/-- Rotation 21 is activated, and the replacement that rotation 22 makes is observed. -/
def sampleFollowed : List StoreOp :=
  sampleRotations.take 2 ++ [.observeReplacementActivation 22 7 (sampleStoreQc 22 2 12 3 13) 31 95 ∅]

theorem one_successor_of_along_sample :
    OneSuccessor (operations.outputs sampleStart.store sampleFollowed) := by
  refine one_successor_of_along sampleStart sampleFollowed ⟨⟨id, id⟩, ⟨?_, ?_⟩, ⟨id, id⟩, trivial⟩
  · rintro ⟨⟨last, hlast, -⟩, -⟩
    cases hlast
  · rintro ⟨hepoch, -⟩
    exact absurd hepoch (by decide)

/-- A guardian of the first epoch observes its replacement by rotation 21; then it prepares and
activates rotation 22 for the same predecessor. -/
def sampleSiblings : List StoreOp :=
  [.observeReplacementActivation 21 7 (sampleStoreQc 21 1 11 2 12) 30 90 ∅,
    samplePrepare 22 (sampleEpoch 2 2 11), .activateSuccessor 22 7 (sampleStoreQc 22 1 11 2 13) 31 95 ∅]

theorem second_successor_activated :
    ¬OneSuccessor (operations.outputs sampleStart.store sampleSiblings) := by
  intro hone
  have hlog : operations.outputs sampleStart.store sampleSiblings = sampleSiblings := by
    decide +kernel
  rw [hlog] at hone
  exact absurd (hone ((1, 11), 21) (by decide) ((1, 11), 22) (by decide) rfl) (by decide)

end MasterRecovery
