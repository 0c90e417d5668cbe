import MasterRecovery.SignerSteps

/-!
# A signer's locks

The locks name exactly the plans the signer has begun and not given up, one to a
predecessor. Begin takes a lock, and only the end of the rotation releases it.
-/

namespace MasterRecovery
open Checks Transcript Wire

variable {crypto : Crypto} {sealing : Sealing} {entry entry' : SignerRotationEntryV3}
  {provision : SignerRotationProvisionV3} {input : SignerInput}
  {reply : Option SignerEvent} {plans : Set RotationPlan}

/-! ### Plans of a run -/

def SignerRotationRequestV3.plan : SignerRotationRequestV3 → Option RotationPlan
  | .intent _ _ _ => none
  | .begin _ plan => some plan
  | .release plan _ => some plan
  | .activate plan _ _ => some plan
  | .abort plan _ _ _ => some plan
  | .finalizeAbort plan _ _ => some plan
  | .finalizeOwnerCancel plan _ _ _ => some plan

def SignerInput.Carries (input : SignerInput) (plan : RotationPlan) : Prop :=
  ∃ request, input.request = .inl request ∧ request.plan = some plan

/-- The plans that requests of the run carry. -/
def plansOf (inputs : List SignerInput) : Set RotationPlan :=
  {plan | ∃ input ∈ inputs, input.Carries plan}

/-! ### Locks -/

/-- A begun plan holds its lock until its rotation ends, and a lock is held by a plan. -/
structure LockInv (crypto : Crypto) (plans : Set RotationPlan) (entry : SignerRotationEntryV3) :
    Prop where
  begun : ∀ rotationId planHash, entry.securityState.beginVotes[rotationId]? = some planHash →
    ∃ plan ∈ plans, plan.context.rotationId = rotationId ∧ HasHash crypto plan planHash ∧
      (∃ intent, entry.securityState.intents[rotationId]? = some intent ∧
        intent.context = plan.context) ∧
      (rotationId ∈ entry.securityState.cancelledRotations ∨
        entry.securityState.predecessorPlanLocks[plan.context.predecessorCapsuleHash]? =
          some planHash)
  locked : ∀ predecessor planHash,
    entry.securityState.predecessorPlanLocks[predecessor]? = some planHash →
    ∃ plan ∈ plans, plan.context.predecessorCapsuleHash = predecessor ∧
      BegunLive crypto entry plan planHash

theorem lockInv_provisioned : LockInv crypto plans provision.entry where
  begun _ _ hfound := by simp [SignerRotationProvisionV3.entry, SignerRotationStore.new] at hfound
  locked _ _ hfound := by simp [SignerRotationProvisionV3.entry, SignerRotationStore.new] at hfound

/-- Steps that leave the plans of the store alone. -/
theorem LockInv.frame (h : LockInv crypto plans entry)
    (hbegun : entry'.securityState.beginVotes = entry.securityState.beginVotes)
    (hlocks : entry'.securityState.predecessorPlanLocks = entry.securityState.predecessorPlanLocks)
    (hended : entry'.securityState.cancelledRotations = entry.securityState.cancelledRotations)
    (hintents : ∀ (rotationId : Id32) (intent : RotationIntent),
      entry.securityState.intents[rotationId]? = some intent →
        entry'.securityState.intents[rotationId]? = some intent) :
    LockInv crypto plans entry' where
  begun rotationId planHash hfound := by
    rw [hbegun] at hfound
    obtain ⟨plan, hplan, hrotation, hhash, ⟨intent, hintent, hcontext⟩, hlock⟩ :=
      h.begun _ _ hfound
    rw [hended, hlocks]
    exact ⟨plan, hplan, hrotation, hhash, ⟨intent, hintents _ _ hintent, hcontext⟩, hlock⟩
  locked predecessor planHash hfound := by
    rw [hlocks] at hfound
    obtain ⟨plan, hplan, hpred, hlive⟩ := h.locked _ _ hfound
    exact ⟨plan, hplan, hpred, hlive.hash, hbegun ▸ hlive.begun, hended ▸ hlive.live⟩

/-- A plan that goes on under its rotation id keeps others from being begun there. -/
theorem LockInv.begin_same (h : LockInv crypto plans entry) {intentHash planHash other : Id32}
    {plan : RotationPlan} {now : UInt64} {locks : Std.TreeMap Id32 Id32}
    (hchecked : BeginChecked crypto entry intentHash plan now planHash)
    (hlocks : recordOnce StorageError.conflict plan.context.predecessorCapsuleHash planHash
      entry.securityState.predecessorPlanLocks = .ok locks)
    (hbegun : entry.securityState.beginVotes[plan.context.rotationId]? = some other) :
    other = planHash := by
  obtain ⟨found, hfound, -, hhash, ⟨intent, hintent, hcontext⟩, hended | hlock⟩ :=
    h.begun _ _ hbegun
  · exact absurd hended hchecked.live
  · obtain ⟨intent', hintent', hcontext'⟩ := hchecked.approved
    rw [hintent] at hintent'
    cases hintent'
    rw [← hcontext, hcontext'] at hlock
    have hkept := recordOnce_mono hlocks hlock
    rw [recordOnce_get hlocks] at hkept
    exact (Option.some.inj hkept).symm

theorem LockInv.begun_step (h : LockInv crypto plans entry) {intentHash planHash : Id32}
    {plan : RotationPlan} {now : UInt64} {locks beginVotes : Std.TreeMap Id32 Id32}
    (hplan : plan ∈ plans) (hchecked : BeginChecked crypto entry intentHash plan now planHash)
    (hlocks : recordOnce StorageError.conflict plan.context.predecessorCapsuleHash planHash
      entry.securityState.predecessorPlanLocks = .ok locks)
    (hvotes : recordOnce StorageError.conflict plan.context.rotationId planHash
      entry.securityState.beginVotes = .ok beginVotes) :
    LockInv crypto plans (entry.withStore { entry.securityState with
      predecessorPlanLocks := locks
      beginVotes := beginVotes }) where
  begun rotationId other hfound := by
    rcases recordOnce_new hvotes hfound with hold | ⟨rfl, rfl⟩
    · obtain ⟨found, hmem, hrotation, hhash, hintent, hlock⟩ := h.begun _ _ hold
      exact ⟨found, hmem, hrotation, hhash, hintent, hlock.imp_right (recordOnce_mono hlocks)⟩
    · exact ⟨plan, hplan, rfl, hchecked.valid.hash, hchecked.approved,
        Or.inr (recordOnce_get hlocks)⟩
  locked predecessor other hfound := by
    rcases recordOnce_new hlocks hfound with hold | ⟨rfl, rfl⟩
    · obtain ⟨found, hmem, hpred, hlive⟩ := h.locked _ _ hold
      exact ⟨found, hmem, hpred, hlive.hash, recordOnce_mono hvotes hlive.begun, hlive.live⟩
    · exact ⟨plan, hplan, rfl, hchecked.valid.hash, recordOnce_get hvotes, hchecked.live⟩

section LockSteps

variable (hfree : crypto.CollisionFree (planTranscripts plans))
include hfree

/-- The lock of a plan that goes on. -/
theorem LockInv.lock_of_begunLive (h : LockInv crypto plans entry) {plan : RotationPlan}
    {planHash : Id32} (hplan : plan ∈ plans) (hlive : BegunLive crypto entry plan planHash) :
    entry.securityState.predecessorPlanLocks[plan.context.predecessorCapsuleHash]? =
      some planHash := by
  obtain ⟨found, hfound, hrotation, hhash, -, hended | hlock⟩ := h.begun _ _ hlive.begun
  · exact absurd hended hlive.live
  · rw [HasHash.unique hfree hplan hfound hlive.hash hhash]
    exact hlock

/-- Two plans of one predecessor that both go on are one plan. -/
theorem LockInv.unique (h : LockInv crypto plans entry) {plan other : RotationPlan}
    {planHash otherHash : Id32} (hplan : plan ∈ plans) (hother : other ∈ plans)
    (hlive : BegunLive crypto entry plan planHash)
    (hlive' : BegunLive crypto entry other otherHash)
    (hsame : plan.context.predecessorCapsuleHash = other.context.predecessorCapsuleHash) :
    plan = other := by
  have hlock := h.lock_of_begunLive hfree hplan hlive
  have hlock' := h.lock_of_begunLive hfree hother hlive'
  rw [hsame, hlock'] at hlock
  cases hlock
  exact HasHash.unique hfree hplan hother hlive.hash hlive'.hash

theorem LockInv.ended_step (h : LockInv crypto plans entry) {plan : RotationPlan}
    {planHash certificateHash : Id32} (hplan : plan ∈ plans)
    (hholds : HoldsLock crypto entry plan planHash) :
    LockInv crypto plans (endRotation plan.context.rotationId plan.context.predecessorCapsuleHash
      certificateHash entry) where
  begun rotationId other hfound := by
    obtain ⟨found, hmem, hrotation, hhash, hintent, hlock⟩ := h.begun _ _ hfound
    refine ⟨found, hmem, hrotation, hhash, hintent, ?_⟩
    rcases hlock with hended | hlock
    · exact Or.inl (Std.TreeMap.mem_insert.mpr (Or.inr hended))
    by_cases hpred : found.context.predecessorCapsuleHash = plan.context.predecessorCapsuleHash
    · -- the lock names one plan, so the plan found is the one that ends
      rw [hpred, hholds.lock] at hlock
      cases hlock
      cases HasHash.unique hfree hmem hplan hhash hholds.hash
      exact Or.inl (hrotation ▸ Std.TreeMap.mem_insert_self)
    · exact Or.inr (getElem?_erase_iff.mpr ⟨hpred, hlock⟩)
  locked predecessor other hfound := by
    obtain ⟨hne, hlock⟩ := getElem?_erase_iff.mp hfound
    obtain ⟨found, hmem, hpred, hlive⟩ := h.locked _ _ hlock
    refine ⟨found, hmem, hpred, hlive.hash, hlive.begun, fun hended => ?_⟩
    rcases Std.TreeMap.mem_insert.mp hended with hsame | hold
    · have hrotation := Std.compare_eq_iff_eq.mp hsame
      have hbegun := hholds.begun
      rw [hrotation, hlive.begun] at hbegun
      cases hbegun
      cases HasHash.unique hfree hmem hplan hlive.hash hholds.hash
      exact hne hpred.symm
    · exact hlive.live hold

theorem LockInv.handled (h : LockInv crypto plans entry)
    (hcarried : ∀ plan, input.Carries plan → plan ∈ plans)
    (hstep : SignerHandled crypto sealing entry input entry' reply) :
    LockInv crypto plans entry' := by
  cases hstep with
  | refused => exact h
  | intentConflict => exact h.frame rfl rfl rfl fun _ _ hfound => hfound
  | intentApproved _ _ _ hintents =>
    exact h.frame rfl rfl rfl fun _ _ hfound => recordOnce_mono hintents hfound
  | beginConflict _ hchecks hlocks hconflict =>
    obtain ⟨other, hne, hbegun⟩ := hconflict
    exact absurd (h.begin_same (signerBeginChecks_eq_ok hchecks) hlocks hbegun) hne
  | begun _ hchecks hlocks hvotes =>
    exact h.begun_step (hcarried _ ⟨_, rfl, rfl⟩) (signerBeginChecks_eq_ok hchecks) hlocks hvotes
  | released => exact h.frame rfl rfl rfl fun _ _ hfound => hfound
  | activated => exact h.frame rfl rfl rfl fun _ _ hfound => hfound
  | abortVoted => exact h
  | abortFinalized _ hfinalize =>
    obtain ⟨-, hholds, -, _, rfl⟩ := signerFinalizeAbort_eq_ok hfinalize
    exact h.ended_step hfree (hcarried _ ⟨_, rfl, rfl⟩) hholds
  | ownerCancelFinalized _ hfinalize =>
    obtain ⟨-, -, ⟨-, rfl⟩ | ⟨hholds, _, rfl⟩⟩ := signerFinalizeOwnerCancel_eq_ok hfinalize
    · exact h
    · exact h.ended_step hfree (hcarried _ ⟨_, rfl, rfl⟩) hholds
  | recoveryApproved _ hremembered =>
    obtain ⟨-, hstore⟩ := rememberRequest_provision hremembered
    exact h.frame (by rw [hstore]) (by rw [hstore]) (by rw [hstore])
      fun _ _ hfound => by rwa [hstore]
  | recoveryReleased => exact h

theorem run_lockInv (h : LockInv crypto plans entry) {inputs : List SignerInput}
    (hcarried : ∀ input ∈ inputs, ∀ plan, input.Carries plan → plan ∈ plans) :
    LockInv crypto plans ((answeringSigner crypto sealing).run entry inputs) :=
  run_signerHandled_along (fun _ _ input => ∀ plan, input.Carries plan → plan ∈ plans)
    (fun entry _ => LockInv crypto plans entry) h
    (fun _ _ _ _ _ h hcarried hstep => h.handled hfree hcarried hstep)
    (Machine.along_of_forall _ hcarried _ _)

end LockSteps

/-- The locks name exactly the plans that have been begun and go on, one to a predecessor. -/
structure LocksExact (crypto : Crypto) (plans : Set RotationPlan)
    (entry : SignerRotationEntryV3) : Prop where
  names : ∀ predecessor planHash,
    entry.securityState.predecessorPlanLocks[predecessor]? = some planHash ↔
      ∃ plan ∈ plans, plan.context.predecessorCapsuleHash = predecessor ∧
        BegunLive crypto entry plan planHash
  one : ∀ plan ∈ plans, ∀ other ∈ plans, ∀ planHash otherHash,
    BegunLive crypto entry plan planHash → BegunLive crypto entry other otherHash →
    plan.context.predecessorCapsuleHash = other.context.predecessorCapsuleHash → plan = other

theorem LockInv.exact (hfree : crypto.CollisionFree (planTranscripts plans))
    (h : LockInv crypto plans entry) : LocksExact crypto plans entry where
  names predecessor planHash := by
    constructor
    · exact h.locked predecessor planHash
    · rintro ⟨plan, hplan, rfl, hlive⟩
      exact h.lock_of_begunLive hfree hplan hlive
  one _ hplan _ hother _ _ hlive hlive' hsame := h.unique hfree hplan hother hlive hlive' hsame

end MasterRecovery
