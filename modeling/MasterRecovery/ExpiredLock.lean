import MasterRecovery.SignerVotes

/-!
# The lock of an expired plan

Every request that could release a lock carries the locked plan, and a signer handles no
request whose context has expired. From its expiry on a plan keeps its lock.
-/

namespace MasterRecovery
open Checks Transcript Wire

variable {crypto : Crypto} {sealing : Sealing} {entry entry' : SignerRotationEntryV3}
  {provision : SignerRotationProvisionV3} {input : SignerInput} {reply : Option SignerEvent}
  {plans : Set RotationPlan} {plan : RotationPlan} {predecessor planHash : Id32} {now : UInt64}

/-- The lock of the predecessor is free, or a plan that has not expired holds it. -/
def Unwedged (crypto : Crypto) (plans : Set RotationPlan) (entry : SignerRotationEntryV3)
    (predecessor : Id32) (now : UInt64) : Prop :=
  ∀ planHash, entry.securityState.predecessorPlanLocks[predecessor]? = some planHash →
    ∃ plan ∈ plans, HasHash crypto plan planHash ∧ now < plan.context.expiry

/-- The plan holds the lock of this predecessor, and has expired. -/
structure LockedExpired (crypto : Crypto) (entry : SignerRotationEntryV3) (plan : RotationPlan)
    (predecessor planHash : Id32) (now : UInt64) : Prop where
  hash : HasHash crypto plan planHash
  lock : entry.securityState.predecessorPlanLocks[predecessor]? = some planHash
  expired : plan.context.expiry ≤ now

theorem LockedExpired.not_unwedged (hfree : crypto.CollisionFree (planTranscripts plans))
    (h : LockedExpired crypto entry plan predecessor planHash now) (hplan : plan ∈ plans) :
    ¬Unwedged crypto plans entry predecessor now := by
  intro hunwedged
  obtain ⟨other, hother, hhash, hlive⟩ := hunwedged planHash h.lock
  cases HasHash.unique hfree hother hplan hhash h.hash
  exact UInt64.not_lt.mpr h.expired hlive

/-- A rotation that ends while the plan holds the lock of its predecessor is another one. -/
theorem LockedExpired.kept (hfree : crypto.CollisionFree (planTranscripts plans))
    (h : LockedExpired crypto entry plan predecessor planHash now) (hplan : plan ∈ plans)
    {other : RotationPlan} {otherHash certificateHash : Id32} (hother : other ∈ plans)
    (hlive : now < other.context.expiry) (hholds : HoldsLock crypto entry other otherHash) :
    (endRotation other.context.rotationId other.context.predecessorCapsuleHash certificateHash
      entry).securityState.predecessorPlanLocks[predecessor]? = some planHash := by
  refine getElem?_erase_iff.mpr ⟨?_, h.lock⟩
  rintro rfl
  have hlock := h.lock
  rw [hholds.lock] at hlock
  cases hlock
  cases HasHash.unique hfree hother hplan hholds.hash h.hash
  exact UInt64.not_lt.mpr h.expired hlive

theorem LockedExpired.handled (hfree : crypto.CollisionFree (planTranscripts plans))
    (h : LockedExpired crypto entry plan predecessor planHash input.now) (hplan : plan ∈ plans)
    (hcarried : ∀ plan, input.Carries plan → plan ∈ plans)
    (hstep : SignerHandled crypto sealing entry input entry' reply) :
    entry'.securityState.predecessorPlanLocks[predecessor]? = some planHash := by
  cases hstep with
  | refused => exact h.lock
  | intentConflict => exact h.lock
  | intentApproved => exact h.lock
  | beginConflict _ _ hlocks => exact recordOnce_mono hlocks h.lock
  | begun _ _ hlocks => exact recordOnce_mono hlocks h.lock
  | released => exact h.lock
  | activated => exact h.lock
  | abortVoted => exact h.lock
  | abortFinalized hgate hfinalize =>
    obtain ⟨-, -, -, hlive, -⟩ := signerContextGate_eq_ok hgate
    obtain ⟨-, hholds, -, _, rfl⟩ := signerFinalizeAbort_eq_ok hfinalize
    exact h.kept hfree hplan (hcarried _ ⟨_, rfl, rfl⟩) hlive hholds
  | ownerCancelFinalized hgate hfinalize =>
    obtain ⟨-, -, -, hlive, -⟩ := signerContextGate_eq_ok hgate
    obtain ⟨-, -, ⟨-, rfl⟩ | ⟨hholds, _, rfl⟩⟩ := signerFinalizeOwnerCancel_eq_ok hfinalize
    · exact h.lock
    · exact h.kept hfree hplan (hcarried _ ⟨_, rfl, rfl⟩) hlive hholds
  | recoveryApproved _ hremembered =>
    obtain ⟨-, hstore⟩ := rememberRequest_provision hremembered
    exact hstore ▸ h.lock
  | recoveryReleased => exact h.lock

theorem run_lockedExpired (sealing : Sealing) {later : List SignerInput}
    (hfree : crypto.CollisionFree (planTranscripts plans)) (hplan : plan ∈ plans)
    (hcarried : ∀ input ∈ later, ∀ plan, input.Carries plan → plan ∈ plans)
    (h : LockedExpired crypto entry plan predecessor planHash now)
    (hlater : ∀ input ∈ later, now ≤ input.now) :
    LockedExpired crypto ((answeringSigner crypto sealing).run entry later) plan predecessor
      planHash now :=
  run_signerHandled_along
    (fun _ _ input => (∀ plan, input.Carries plan → plan ∈ plans) ∧ now ≤ input.now)
    (fun entry _ => LockedExpired crypto entry plan predecessor planHash now) h
    (fun _ _ _ _ _ h hQ hstep =>
      have hthen : LockedExpired crypto _ plan predecessor planHash _ :=
        ⟨h.hash, h.lock, UInt64.le_trans h.expired hQ.2⟩
      ⟨h.hash, hthen.handled hfree hplan hQ.1 hstep, h.expired⟩)
    (Machine.along_of_forall _ (fun input hmem => ⟨hcarried input hmem, hlater input hmem⟩) _ _)

/-- A lock that an expired plan holds in a reachable entry is held after any further
requests: none of them frees it or passes it to a plan that has not expired. -/
theorem expired_lock_held {inputs later : List SignerInput}
    (hplans : crypto.CollisionFree (planTranscripts (plansOf (inputs ++ later))))
    (hplan : plan ∈ plansOf inputs)
    (hlocked : LockedExpired crypto (signerRun crypto sealing provision inputs) plan predecessor
      planHash now)
    (hlater : ∀ input ∈ later, now ≤ input.now) :
    (signerRun crypto sealing provision (inputs ++ later)).securityState.predecessorPlanLocks[
        predecessor]? = some planHash ∧
      ¬Unwedged crypto (plansOf (inputs ++ later))
        (signerRun crypto sealing provision (inputs ++ later)) predecessor now := by
  have hmem : plan ∈ plansOf (inputs ++ later) := by
    obtain ⟨input, hinput, hcarries⟩ := hplan
    exact ⟨input, List.mem_append_left _ hinput, hcarries⟩
  have hheld := run_lockedExpired sealing hplans hmem
    (fun input hinput _ hcarries => ⟨input, List.mem_append_right _ hinput, hcarries⟩) hlocked hlater
  rw [signerRun, Machine.run_append]
  exact ⟨hheld.lock, hheld.not_unwedged hplans hmem⟩

/-! ### A plan that was only begun -/

theorem samplePlan70_mem : samplePlan70 ∈ plansOf (sampleBegin samplePlan70) := by
  rw [plansOf_sampleBegin]
  rfl

theorem sampleExpired_locked :
    LockedExpired Crypto.transparent
        (signerRun Crypto.transparent sampleSealing sampleSignerProvision
          (sampleBegin samplePlan70)) samplePlan70 sampleGenesis.capsuleHash samplePlanHash70 100 ∧
      (signerRun Crypto.transparent sampleSealing sampleSignerProvision
        (sampleBegin samplePlan70)).provision.activeCapsule.capsuleHash =
          sampleGenesis.capsuleHash := by
  have hstate : (signerRun Crypto.transparent sampleSealing sampleSignerProvision
        (sampleBegin samplePlan70)).securityState.predecessorPlanLocks[
          sampleGenesis.capsuleHash]? = some samplePlanHash70 ∧
      (signerRun Crypto.transparent sampleSealing sampleSignerProvision
        (sampleBegin samplePlan70)).provision.activeCapsule.capsuleHash =
          sampleGenesis.capsuleHash := by
    decide +kernel
  have hinv : LockInv Crypto.transparent {samplePlan70}
      (signerRun Crypto.transparent sampleSealing sampleSignerProvision
        (sampleBegin samplePlan70)) :=
    run_lockInv (planTranscripts_singleton.injOn _) lockInv_provisioned
      fun input hinput _ hcarries => plansOf_sampleBegin ▸ ⟨input, hinput, hcarries⟩
  obtain ⟨plan, rfl, -, hlive⟩ := hinv.locked _ _ hstate.1
  exact ⟨⟨hlive.hash, hstate.1, by decide⟩, hstate.2⟩

theorem expired_lock_held_sample :
    (signerRun Crypto.transparent sampleSealing sampleSignerProvision (sampleBegin samplePlan70 ++
        [rotationInput 100 (.abort samplePlan70 .preparing 1 sampleRecipientKey)])
      ).securityState.predecessorPlanLocks[sampleGenesis.capsuleHash]? = some samplePlanHash70 ∧
    ¬Unwedged Crypto.transparent (plansOf (sampleBegin samplePlan70 ++
        [rotationInput 100 (.abort samplePlan70 .preparing 1 sampleRecipientKey)]))
      (signerRun Crypto.transparent sampleSealing sampleSignerProvision (sampleBegin samplePlan70 ++
        [rotationInput 100 (.abort samplePlan70 .preparing 1 sampleRecipientKey)]))
      sampleGenesis.capsuleHash 100 := by
  have hplans : plansOf (sampleBegin samplePlan70 ++
      [rotationInput 100 (.abort samplePlan70 .preparing 1 sampleRecipientKey)]) =
        {samplePlan70} := by
    ext other
    simp [plansOf, sampleBegin, rotationInput, SignerInput.Carries, SignerRotationRequestV3.plan,
      eq_comm]
  refine expired_lock_held ?_ samplePlan70_mem sampleExpired_locked.1 (by simp [rotationInput])
  rw [hplans]
  exact planTranscripts_singleton.injOn _

/-- One signer has begun the sample plan and nothing more; at its expiry no request, short
of one that collides with its hash, frees the genesis capsule for another plan. -/
theorem expired_lock_wedges :
    ¬∀ (crypto : Crypto) (sealing : Sealing) (provision : SignerRotationProvisionV3)
      (inputs : List SignerInput) (plan : RotationPlan) (planHash : Id32) (now : UInt64),
      crypto.CollisionFree (planTranscripts (plansOf inputs)) → plan ∈ plansOf inputs →
      LockedExpired crypto (signerRun crypto sealing provision inputs) plan
        (signerRun crypto sealing provision inputs).provision.activeCapsule.capsuleHash planHash
        now →
      ∃ input : SignerInput, input.now = now ∧
        crypto.CollisionFree (planTranscripts (plansOf (inputs ++ [input]))) ∧
        Unwedged crypto (plansOf (inputs ++ [input]))
          (signerRun crypto sealing provision (inputs ++ [input]))
          (signerRun crypto sealing provision inputs).provision.activeCapsule.capsuleHash now := by
  intro hclaim
  obtain ⟨hlocked, hactive⟩ := sampleExpired_locked
  have hplans : Crypto.transparent.CollisionFree
      (planTranscripts (plansOf (sampleBegin samplePlan70))) := by
    rw [plansOf_sampleBegin]
    exact planTranscripts_singleton.injOn _
  obtain ⟨input, hnow, hfree, hunwedged⟩ := hclaim Crypto.transparent sampleSealing
    sampleSignerProvision (sampleBegin samplePlan70) samplePlan70 samplePlanHash70 100 hplans
    samplePlan70_mem (by rwa [hactive])
  rw [hactive] at hunwedged
  have hmem : samplePlan70 ∈ plansOf (sampleBegin samplePlan70 ++ [input]) := by
    obtain ⟨first, hfirst, hcarries⟩ := samplePlan70_mem
    exact ⟨first, List.mem_append_left _ hfirst, hcarries⟩
  have hheld := run_lockedExpired sampleSealing hfree hmem
    (fun other hother _ hcarries => ⟨other, List.mem_append_right _ hother, hcarries⟩) hlocked
    (fun other hother => by
      rw [List.mem_singleton.mp hother, hnow]
      exact UInt64.le_refl _)
  rw [signerRun, Machine.run_append] at hunwedged
  exact hheld.not_unwedged hfree hmem hunwedged

end MasterRecovery
