import MasterRecovery.ExpiredSlot
import MasterRecovery.GuardianDryRun

/-!
# What a refused rotation request leaves

A handler works on the entry in place, and the mailbox endpoint neither saves the entry nor
restores it when the handler refuses. The entry is as it was exactly if the refusal comes
before the first change, which the dry run of the handler says.
-/

namespace MasterRecovery
open Checks Transcript Act

/-! ### Dry runs of the handlers -/

section DryRuns

variable (crypto : Crypto) (vault : Vault) (node : GuardianNode) (call : GuardianCall)
  (entry : GuardianRotationEntryV3)

def drySession {α : Type} (plan : RotationPlan) (d : GuardianRotationSessionV3 → Dry α) : Dry α := do
  let session ← Dry.check (openSession crypto entry plan)
  d session

def dryCancelSession (session : GuardianRotationSessionV3) : Dry Unit :=
  if session.cancelled then
    Dry.write (session.encryptedLocalState = none ∧ session.stagedMaterial = none)
  else do
    dryEvent session (.ownerCancelObserved true)
    .wrote

def dryCancelRotation (plan : RotationPlan) (planHash : Id32) : Dry Unit :=
  match entry.provision.epochStore.rotationTombstones[plan.context.rotationId]? with
  | some tombstone =>
    Dry.check (bailIf (tombstone.planHash ≠ planHash ∨ tombstone.terminalState ≠ .aborted)
      "rotation id already has a conflicting terminal state")
  | none =>
    match entry.sessions[plan.context.rotationId]? with
    | some session => dryCancelSession session
    | none => do
      let machine ← Dry.check ((RotationMachine.new plan.context.rotationId planHash
        plan.predecessor plan.successor).mapError RotationError.text)
      let _ ← Dry.check ((machine.apply (.ownerCancelObserved true)).mapError RotationError.text)
      pure ()

/-- The rotation has been given up before, and nothing is left of it. -/
def GivenUp (rotationId planHash : Id32) : Prop :=
  entry.provision.epochStore.prepared = none ∧ entry.provision.epochStore.dpssJournal = none ∧
    entry.provision.epochStore.rotationTombstones[rotationId]? = some
      { rotationId := rotationId
        planHash := planHash
        predecessorCapsuleHash := entry.provision.epochStore.expectedPredecessorCapsuleHash
        terminalState := .aborted }

instance (rotationId planHash : Id32) : Decidable (GivenUp entry rotationId planHash) := by
  unfold GivenUp
  infer_instance

def dryAbortPrepared (rotationId planHash : Id32) : Dry Unit := do
  let _ ← Dry.check (storage (entry.provision.epochStore.abortPrepared rotationId planHash))
  Dry.write (GivenUp entry rotationId planHash)

def dryCancel (plan : RotationPlan) (certificate : OwnerRotationCancelCertificate) :
    Dry GuardianRotationResponseV3 := do
  let hashes ← Dry.check (guardianCancelChecks crypto entry plan certificate call.wallNow)
  dryCancelRotation entry plan hashes.1
  dryAbortPrepared entry plan.context.rotationId hashes.1
  Dry.write (entry.sessions[plan.context.rotationId]? = none)
  let guardianIndex ← Dry.check (okOr (cancelIndex entry plan)
    "cancel recipient has no guardian index")
  Dry.check (signed crypto entry.provision.signingSeed Wire.ownerRotationCancelAck
    (fun ack signature => { ack with guardianSignature := signature }) .cancelled
    { context := plan.context
      planHash := hashes.1
      cancelCertificateHash := hashes.2
      guardianIndex := guardianIndex
      guardianSignature := [] })

def dryRepairRound1 (plan : RotationPlan) (beginCertificate : BeginRotationCertificate)
    (releaseCertificate : RotationReleaseCertificate) (unlockGrant : OldShareUnlockGrant)
    (helperIds : List UInt16) (replacementId : UInt16) : Dry GuardianRotationResponseV3 := do
  let releaseHash ← Dry.check (validateRotationReleaseCertificateV3 crypto releaseCertificate
    beginCertificate plan entry.provision.predecessorCapsule call.wallNow)
  let oldRoute ← Dry.check (guardianRoute entry plan false)
  let material ← Dry.check (openOldMaterial crypto vault node entry plan unlockGrant releaseHash)
  let record ← Dry.check (okOr entry.provision.epochStore.active
    "old guardian has no active record")
  let leaf ← Dry.check (recordLeaf crypto record)
  drySession crypto entry plan fun session =>
    dryDealRepair crypto vault node call session plan beginCertificate releaseHash
      entry.provision.signingSeed oldRoute.guardianIndex material.1 material.2 record leaf
      helperIds replacementId

def dryRepairRound2 (plan : RotationPlan) (incoming : List SealedMessage)
    (replacementId : UInt16) : Dry GuardianRotationResponseV3 := do
  let oldRoute ← Dry.check (guardianRoute entry plan false)
  let replacement ← Dry.check (okOr
    (plan.newRoster.find? fun route => route.guardianIndex = replacementId)
    "replacement is not in the successor roster")
  drySession crypto entry plan fun session =>
    drySumRepair crypto vault node call session plan incoming entry.provision.signingSeed oldRoute
      replacement

def dryRepairFinalize (plan : RotationPlan) (incoming : List SealedMessage)
    (oldPublicPackage : Bytes) : Dry GuardianRotationResponseV3 := do
  let newRoute ← Dry.check (guardianRoute entry plan true)
  drySession crypto entry plan fun session =>
    dryAssembleRepair crypto vault node call session plan incoming oldPublicPackage newRoute

def dryRefreshRound1 (plan : RotationPlan) (beginCertificate : Option BeginRotationCertificate)
    (releaseCertificate : Option RotationReleaseCertificate)
    (oldShareGrant : Option OldShareUnlockGrant) : Dry GuardianRotationResponseV3 := do
  let newRoute ← Dry.check (guardianRoute entry plan true)
  let share ← Dry.check (refreshShare crypto vault node call entry plan beginCertificate
    releaseCertificate oldShareGrant newRoute.guardianIndex)
  drySession crypto entry plan fun session =>
    dryDealRefresh crypto vault node call session plan entry.provision.signingSeed newRoute share

def dryRefreshRound2 (plan : RotationPlan) (incoming : List SealedMessage) :
    Dry GuardianRotationResponseV3 := do
  let newRoute ← Dry.check (guardianRoute entry plan true)
  drySession crypto entry plan fun session =>
    dryAnswerRefresh crypto vault node call session plan incoming entry.provision.signingSeed
      newRoute

def dryRefreshFinalize (plan : RotationPlan) (incoming : List SealedMessage)
    (oldPublicPackage : Bytes) : Dry GuardianRotationResponseV3 := do
  let newRoute ← Dry.check (guardianRoute entry plan true)
  drySession crypto entry plan fun session =>
    dryAssembleRefresh crypto vault node call session plan incoming oldPublicPackage newRoute

/-- The store changes as soon as the successor may be prepared. -/
def dryPrepareCommit (plan : RotationPlan) (guardianMaterialRoot : Id32)
    (merklePathProof : MerkleProofBytes) (dpssResultCommitment : Id32) :
    Dry GuardianRotationResponseV3 := do
  let route ← Dry.check (guardianRoute entry plan true)
  let session ← Dry.check (openSession crypto entry plan)
  let staged ← Dry.check (okOr session.stagedMaterial "guardian has no staged successor material")
  let out ← Dry.check (preparedRecord crypto vault node call plan session.planHash route staged
    guardianMaterialRoot merklePathProof dpssResultCommitment)
  let _ ← Dry.check (storage (entry.provision.epochStore.prepareSuccessor plan.context.rotationId
    session.planHash out.1 out.2))
  .wrote

def dryHandoffComplete (plan : RotationPlan) (dpssResultCommitment : Id32) :
    Dry GuardianRotationResponseV3 := do
  let route ← Dry.check (guardianRoute entry plan false)
  drySession crypto entry plan fun session => do
    Dry.write (session.encryptedLocalState = none)
    Dry.check (signed crypto entry.provision.signingSeed Wire.oldGuardianHandoffAck
      (fun ack signature => { ack with guardianSignature := signature }) .handoff
      { context := plan.context
        planHash := session.planHash
        dpssResultCommitment := dpssResultCommitment
        qualifiedSetCommitment := plan.dpssQualifiedSetCommitment
        oldGuardianIndex := route.guardianIndex
        guardianSignature := [] })

/-- The first event that is accepted has changed the machine. -/
def dryActivateMachine (session : GuardianRotationSessionV3) (count : UInt16) : Dry Unit := do
  dryAdvance session session.notBeforeMonotonic
  dryEvent session (.preparationComplete count count true true)
  .wrote

def dryActivate (plan : RotationPlan) (activatedCapsule : ConfigCapsuleV3) :
    Dry GuardianRotationResponseV3 := do
  let _ ← Dry.check (activationChecks crypto entry plan activatedCapsule)
  drySession crypto entry plan fun session =>
    dryActivateMachine session (UInt16.ofNat plan.newRoster.length)
  .wrote

def dryAbort (plan : RotationPlan) (certificate : AbortRotationCertificate) :
    Dry GuardianRotationResponseV3 := do
  let _ ← Dry.check (validateAbortRotationCertificateV3 crypto certificate plan
    entry.provision.predecessorCapsule call.wallNow)
  let _ ← Dry.check (hashPlan crypto plan)
  drySession crypto entry plan fun session => dryEvent session (.abortObserved true)
  .wrote

def dryRetire (notice : RetirementNotice) (monotonicNow : UInt64) :
    Dry GuardianRotationResponseV3 := do
  let _ ← Dry.check (retireChecks crypto entry.provision.epochStore notice monotonicNow)
  let _ ← Dry.check (storage (entry.provision.epochStore.retireEpoch notice.retiredEpoch
    monotonicNow))
  .wrote

/-- A refusal of the request comes before the entry is changed. Begin and StageMaterial change
it after their last check only. -/
def RefusedUntouched (request : GuardianRotationRequestV3) : Prop :=
  guardianContextGate entry request.context call.wallNow ≠ .ok () ∨
    match request with
    | .begin _ _ => True
    | .cancel plan certificate => (dryCancel crypto call entry plan certificate).Refuses
    | .repairRound1 plan beginCertificate releaseCertificate unlockGrant helperIds
        replacementId =>
      (dryRepairRound1 crypto vault node call entry plan beginCertificate releaseCertificate
        unlockGrant helperIds replacementId).Refuses
    | .repairRound2 plan incoming replacementId =>
      (dryRepairRound2 crypto vault node call entry plan incoming replacementId).Refuses
    | .repairFinalize plan incoming oldPublicPackage =>
      (dryRepairFinalize crypto vault node call entry plan incoming oldPublicPackage).Refuses
    | .refreshRound1 plan beginCertificate releaseCertificate oldShareGrant =>
      (dryRefreshRound1 crypto vault node call entry plan beginCertificate releaseCertificate
        oldShareGrant).Refuses
    | .refreshRound2 plan incoming =>
      (dryRefreshRound2 crypto vault node call entry plan incoming).Refuses
    | .refreshFinalize plan incoming oldPublicPackage =>
      (dryRefreshFinalize crypto vault node call entry plan incoming oldPublicPackage).Refuses
    | .stageMaterial _ _ _ _ _ _ _ => True
    | .prepareCommit plan guardianMaterialRoot merklePathProof dpssResultCommitment =>
      (dryPrepareCommit crypto vault node call entry plan guardianMaterialRoot merklePathProof
        dpssResultCommitment).Refuses
    | .handoffComplete plan dpssResultCommitment =>
      (dryHandoffComplete crypto entry plan dpssResultCommitment).Refuses
    | .activate plan activatedCapsule _ =>
      (dryActivate crypto entry plan activatedCapsule).Refuses
    | .abort plan certificate => (dryAbort crypto call entry plan certificate).Refuses
    | .retire notice monotonicNow => (dryRetire crypto entry notice monotonicNow).Refuses

end DryRuns

/-! ### Sessions -/

section Sessions

variable {crypto : Crypto} {plan : RotationPlan} {rotationId : Id32}
  {entry t : GuardianRotationEntryV3} {s s' : GuardianRotationSessionV3}
  {Q : GuardianRotationEntryV3 → Prop}

/-- The session that was there has changed or is gone. -/
def SessionChanged (rotationId : Id32) (entry t : GuardianRotationEntryV3) : Prop :=
  ∃ s, entry.sessions[rotationId]? = some s ∧ t.sessions[rotationId]? ≠ some s

theorem SessionChanged.ne (h : SessionChanged rotationId entry t) : t ≠ entry := by
  obtain ⟨s, hfound, hchanged⟩ := h
  exact fun heq => hchanged (heq ▸ hfound)

theorem SessionChanged.withStore {store : GuardianEpochStore} (h : SessionChanged rotationId entry t) :
    SessionChanged rotationId entry (t.withStore store) := h

theorem sessionChanged_dropSession (h : entry.sessions[rotationId]? = some s) :
    SessionChanged rotationId entry (t.dropSession rotationId) :=
  ⟨s, h, by simp [GuardianRotationEntryV3.dropSession]⟩

theorem sessionChanged_putSession (h : entry.sessions[rotationId]? = some s) (hne : s' ≠ s) :
    SessionChanged rotationId entry (entry.putSession rotationId s') :=
  ⟨s, h, by simpa [GuardianRotationEntryV3.putSession] using hne⟩

theorem SessionChanged.dropSession (h : SessionChanged rotationId entry t) :
    SessionChanged rotationId entry (t.dropSession rotationId) := by
  obtain ⟨s, hfound, -⟩ := h
  exact sessionChanged_dropSession hfound

/-- Work on a session changes the entry as it changes the session. -/
theorem follows_onSession {α : Type} {d : Dry α} {x : Act GuardianRotationSessionV3 α}
    (hfound : entry.sessions[rotationId]? = some s) (h : Follows (fun t => t ≠ s) d x s) :
    Follows (SessionChanged rotationId entry) d (onSession rotationId s x) entry := by
  refine follows_onPart h ?_ fun u hu => sessionChanged_putSession hfound hu
  rw [GuardianRotationEntryV3.putSession, insert_of_present hfound]

theorem follows_sessionMut {α : Type} {d : GuardianRotationSessionV3 → Dry α}
    {x : Act GuardianRotationSessionV3 α} (h : ∀ s, Follows (fun t => t ≠ s) (d s) x s) :
    Follows (SessionChanged plan.context.rotationId entry) (drySession crypto entry plan d)
      (sessionMut crypto plan x) entry := by
  simp only [sessionMut, drySession]
  refine follows_get_bind (follows_check_bind fun s hs => ?_)
  exact follows_onSession (openSession_eq_ok hs).2.1 (h s)

end Sessions

/-! ### The handlers follow their dry runs -/

section Handlers

variable {crypto : Crypto} {vault : Vault} {node : GuardianNode} {call : GuardianCall}
  {plan : RotationPlan} {rotationId planHash : Id32} {entry entry' t : GuardianRotationEntryV3}
  {s : GuardianRotationSessionV3}

theorem unfinished_dryEvent {event : RotationEvent} : (dryEvent s event).Unfinished :=
  Dry.unfinished_bind fun _ => Dry.unfinished_wrote

theorem follows_cancelSession : Follows (fun t => t ≠ s) (dryCancelSession s) cancelSession s := by
  simp only [cancelSession, dryCancelSession]
  refine follows_get_bind ?_
  by_cases hcancelled : s.cancelled
  · simp only [hcancelled, if_true]
    refine follows_modify (fun hidle => ?_) fun hmoved heq => hmoved ?_
    · rw [← hcancelled, ← hidle.1, ← hidle.2]
    · exact ⟨congrArg (·.encryptedLocalState) heq.symm, congrArg (·.stagedMaterial) heq.symm⟩
  · simp only [hcancelled]
    refine follows_bind (follows_applyEvent (by simp)) (fun t => MovedOn.ne)
      (fun a ha => absurd ha (unfinished_dryEvent a)) fun _ t ht => ?_
    exact MovedOn.ne (s := s) ht

theorem follows_cancelRotation :
    Follows (SessionChanged plan.context.rotationId entry) (dryCancelRotation entry plan planHash)
      (cancelRotation plan planHash) entry := by
  simp only [cancelRotation, dryCancelRotation]
  refine follows_get_bind ?_
  cases entry.provision.epochStore.rotationTombstones[plan.context.rotationId]? with
  | some tombstone => exact follows_check
  | none =>
    cases hfound : entry.sessions[plan.context.rotationId]? with
    | some session => exact follows_onSession hfound follows_cancelSession
    | none =>
      refine follows_check_bind fun machine _ => follows_check_bind fun _ _ => follows_pure

theorem withAborted_of_givenUp (h : GivenUp entry rotationId planHash) :
    entry.provision.epochStore.withAborted rotationId planHash = entry.provision.epochStore := by
  obtain ⟨hprepared, hjournal, htombstone⟩ := h
  rw [GuardianEpochStore.withAborted, insert_of_present htombstone, ← hjournal, ← hprepared]

/-- What ending the rotation does to the store can be read off it. -/
theorem givenUp_of_withAborted
    (h : entry.provision.epochStore.withAborted rotationId planHash = entry.provision.epochStore) :
    GivenUp entry rotationId planHash := by
  refine ⟨congrArg (·.prepared) h.symm, congrArg (·.dpssJournal) h.symm, ?_⟩
  rw [← congrArg (·.rotationTombstones) h]
  exact Std.TreeMap.getElem?_insert_self

theorem follows_abortPrepared :
    Follows (fun t => t.provision ≠ entry.provision) (dryAbortPrepared entry rotationId planHash)
      (updateStore fun store => store.abortPrepared rotationId planHash) entry := by
  simp only [updateStore, dryAbortPrepared]
  refine follows_get_bind (follows_check_bind fun store hstore => ?_)
  obtain ⟨-, -, rfl⟩ := GuardianEpochStore.abortPrepared_eq_ok.mp (storage_eq_ok.mp hstore)
  refine follows_modify (fun hidle => ?_) fun hmoved heq => hmoved ?_
  · rw [GuardianRotationEntryV3.withStore, withAborted_of_givenUp hidle]
  · exact givenUp_of_withAborted (congrArg (·.epochStore) heq)

theorem follows_guardianCancel {certificate : OwnerRotationCancelCertificate} :
    Follows (fun t => t ≠ entry) (dryCancel crypto call entry plan certificate)
      (guardianCancel crypto call plan certificate) entry := by
  simp only [guardianCancel, dryCancel]
  refine follows_get_bind (follows_check_bind fun hashes _ => ?_)
  refine follows_bind follows_cancelRotation (fun t => SessionChanged.ne) (fun _ _ => ?_)
    fun _ t ht => Leaves.mono (Q := SessionChanged plan.context.rotationId entry) ?_
      fun t => SessionChanged.ne
  · refine follows_bind follows_abortPrepared (fun t ht heq => ht (heq ▸ rfl)) (fun _ _ => ?_)
      fun _ t ht => Leaves.mono (Q := fun t => t.provision ≠ entry.provision) ?_
        fun t ht heq => ht (heq ▸ rfl)
    · refine follows_modify_bind (fun hidle => ?_) (fun _ => ?_) fun hmoved => ?_
      · rw [GuardianRotationEntryV3.dropSession, erase_of_absent hidle]
      · exact follows_get_bind (follows_check_bind fun guardianIndex _ => follows_check)
      · obtain ⟨s, hfound⟩ := Option.ne_none_iff_exists'.mp hmoved
        have hdropped : entry.dropSession plan.context.rotationId ≠ entry :=
          (sessionChanged_dropSession hfound).ne
        simp only [leaves_get_bind]
        exact leaves_check_bind hdropped fun guardianIndex _ => leaves_check.mpr hdropped
    · simp only [leaves_modify_bind, leaves_get_bind]
      exact leaves_check_bind ht fun guardianIndex _ => leaves_check.mpr ht
  · refine leaves_bind (leaves_updateStore ht fun store _ => ht) fun _ u _ hu => ?_
    simp only [leaves_modify_bind, leaves_get_bind]
    exact leaves_check_bind hu.dropSession fun guardianIndex _ => leaves_check.mpr hu.dropSession

theorem follows_repairRound1 {beginCertificate : BeginRotationCertificate}
    {releaseCertificate : RotationReleaseCertificate} {unlockGrant : OldShareUnlockGrant}
    {helperIds : List UInt16} {replacementId : UInt16} :
    Follows (SessionChanged plan.context.rotationId entry)
      (dryRepairRound1 crypto vault node call entry plan beginCertificate releaseCertificate
        unlockGrant helperIds replacementId)
      (repairRound1 crypto vault node call plan beginCertificate releaseCertificate unlockGrant
        helperIds replacementId) entry := by
  refine follows_get_bind (follows_check_bind fun releaseHash _ => ?_)
  refine follows_check_bind fun oldRoute _ => follows_check_bind fun material _ => ?_
  refine follows_check_bind fun record _ => follows_check_bind fun leaf _ => ?_
  exact follows_sessionMut fun s => follows_dealRepair

theorem follows_repairRound2 {incoming : List SealedMessage} {replacementId : UInt16} :
    Follows (SessionChanged plan.context.rotationId entry)
      (dryRepairRound2 crypto vault node call entry plan incoming replacementId)
      (repairRound2 crypto vault node call plan incoming replacementId) entry := by
  refine follows_get_bind (follows_check_bind fun oldRoute _ => ?_)
  exact follows_check_bind fun replacement _ => follows_sessionMut fun s => follows_sumRepair

theorem follows_repairFinalize {incoming : List SealedMessage} {oldPublicPackage : Bytes} :
    Follows (SessionChanged plan.context.rotationId entry)
      (dryRepairFinalize crypto vault node call entry plan incoming oldPublicPackage)
      (repairFinalize crypto vault node call plan incoming oldPublicPackage) entry :=
  follows_get_bind (follows_check_bind fun _ _ =>
    follows_sessionMut fun _ => follows_assembleRepair)

theorem follows_refreshRound1 {beginCertificate : Option BeginRotationCertificate}
    {releaseCertificate : Option RotationReleaseCertificate}
    {oldShareGrant : Option OldShareUnlockGrant} :
    Follows (SessionChanged plan.context.rotationId entry)
      (dryRefreshRound1 crypto vault node call entry plan beginCertificate releaseCertificate
        oldShareGrant)
      (refreshRound1 crypto vault node call plan beginCertificate releaseCertificate
        oldShareGrant) entry := by
  refine follows_get_bind (follows_check_bind fun newRoute _ => ?_)
  exact follows_check_bind fun share _ => follows_sessionMut fun s => follows_dealRefresh

theorem follows_refreshRound2 {incoming : List SealedMessage} :
    Follows (SessionChanged plan.context.rotationId entry)
      (dryRefreshRound2 crypto vault node call entry plan incoming)
      (refreshRound2 crypto vault node call plan incoming) entry :=
  follows_get_bind (follows_check_bind fun _ _ =>
    follows_sessionMut fun _ => follows_answerRefresh)

theorem follows_refreshFinalize {incoming : List SealedMessage} {oldPublicPackage : Bytes} :
    Follows (SessionChanged plan.context.rotationId entry)
      (dryRefreshFinalize crypto vault node call entry plan incoming oldPublicPackage)
      (refreshFinalize crypto vault node call plan incoming oldPublicPackage) entry :=
  follows_get_bind (follows_check_bind fun _ _ =>
    follows_sessionMut fun _ => follows_assembleRefresh)

/-- The slot was free before the successor was prepared. -/
theorem follows_prepareCommit {guardianMaterialRoot : Id32} {merklePathProof : MerkleProofBytes}
    {dpssResultCommitment : Id32} :
    Follows (fun t => t.provision ≠ entry.provision)
      (dryPrepareCommit crypto vault node call entry plan guardianMaterialRoot merklePathProof
        dpssResultCommitment)
      (prepareCommit crypto vault node call plan guardianMaterialRoot merklePathProof
        dpssResultCommitment) entry := by
  refine follows_get_bind (follows_check_bind fun route _ => follows_check_bind fun session _ => ?_)
  refine follows_check_bind fun staged _ => follows_check_bind fun out _ => ?_
  refine follows_check_bind fun prepared hprepared => ?_
  obtain ⟨hpreparable, hstore⟩ :=
    GuardianEpochStore.prepareSuccessor_eq_ok (storage_eq_ok.mp hprepared)
  have hmoved : (entry.withStore prepared.2).provision ≠ entry.provision := by
    intro heq
    have hslot := congrArg (fun provision => provision.epochStore.prepared) heq
    simp [GuardianRotationEntryV3.withStore, hstore, hpreparable.free] at hslot
  simp only [Follows, leaves_modify_bind]
  refine leaves_check_bind hmoved fun response _ => ?_
  simp only [leaves_get_bind]
  exact leaves_check_bind hmoved fun session _ => hmoved

theorem follows_handoffComplete {dpssResultCommitment : Id32} :
    Follows (SessionChanged plan.context.rotationId entry)
      (dryHandoffComplete crypto entry plan dpssResultCommitment)
      (handoffComplete crypto plan dpssResultCommitment) entry := by
  refine follows_get_bind (follows_check_bind fun route _ => follows_sessionMut fun s => ?_)
  refine follows_modify_bind (fun hidle => ?_) (fun _ => follows_get_bind follows_check)
    fun hmoved => ?_
  · rw [← hidle]
  · simp only [leaves_get_bind, leaves_check]
    exact fun heq => hmoved (congrArg (·.encryptedLocalState) heq.symm)

/-- Every event of an activation moves the machine on. -/
theorem follows_activateMachine {count : UInt16} {drainDeadline : UInt64} :
    Follows (fun t => t ≠ s) (dryActivateMachine s count) (activateMachine count drainDeadline)
      s := by
  have hrest {t : GuardianRotationSessionV3} (ht : MovedOn s t) :
      Leaves (MovedOn s) (do
        applyEvent (.activationAuthorized true true)
        applyEvent (.witnessQcObserved true true drainDeadline)) t :=
    leaves_bind (keeps_applyEvent (by simp) ht) fun _ u _ hu => keeps_applyEvent (by simp) hu
  refine follows_get_bind ?_
  refine follows_bind follows_advanceToPreparing (fun t => MovedOn.ne) (fun _ _ => ?_)
    fun _ t ht => Leaves.mono (Q := MovedOn s) ?_ fun t => MovedOn.ne
  · exact follows_bind (follows_applyEvent (by simp)) (fun t => MovedOn.ne)
      (fun a ha => absurd ha (unfinished_dryEvent a))
      fun _ t ht => (hrest ht).mono fun u => MovedOn.ne
  · exact leaves_bind (keeps_applyEvent (by simp) ht) fun _ u _ hu => hrest hu

theorem follows_guardianActivate {capsule : ConfigCapsuleV3} {drainDeadline : UInt64} :
    Follows (SessionChanged plan.context.rotationId entry) (dryActivate crypto entry plan capsule)
      (guardianActivate crypto plan capsule drainDeadline) entry := by
  have hunfinished : (drySession crypto entry plan fun session =>
      dryActivateMachine session (UInt16.ofNat plan.newRoster.length)).Unfinished :=
    Dry.unfinished_bind fun session => Dry.unfinished_bind fun _ =>
      Dry.unfinished_bind fun _ => Dry.unfinished_wrote
  refine follows_get_bind (follows_check_bind fun qc _ => ?_)
  refine follows_bind (follows_sessionMut fun s => follows_activateMachine) (fun t => id)
    (fun a ha => absurd ha (hunfinished a)) fun _ t ht => ?_
  refine leaves_bind (Q := SessionChanged plan.context.rotationId entry) ?_ fun _ u _ hu => ?_
  · simp only [Leaves, final, onStore]
    cases activateStore entry plan qc drainDeadline t.provision.epochStore <;> exact ht.withStore
  · simp only [leaves_modify_bind, leaves_pure]
    exact SessionChanged.dropSession hu

theorem follows_guardianAbort {certificate : AbortRotationCertificate} :
    Follows (SessionChanged plan.context.rotationId entry)
      (dryAbort crypto call entry plan certificate) (guardianAbort crypto call plan certificate)
      entry := by
  have hunfinished : (drySession crypto entry plan fun session =>
      dryEvent session (.abortObserved true)).Unfinished :=
    Dry.unfinished_bind fun session => unfinished_dryEvent
  have hevent (s : GuardianRotationSessionV3) :
      Follows (fun t => t ≠ s) (dryEvent s (.abortObserved true))
        (applyEvent (.abortObserved true)) s :=
    (follows_applyEvent (by simp)).mono fun t => MovedOn.ne
  refine follows_get_bind (follows_check_bind fun _ _ => follows_check_bind fun planHash _ => ?_)
  refine follows_bind (follows_sessionMut hevent) (fun t => id)
    (fun a ha => absurd ha (hunfinished a)) fun _ t ht => ?_
  refine leaves_bind (leaves_updateStore ht fun store _ => ht.withStore) fun _ u _ hu => ?_
  simp only [leaves_modify_bind, leaves_pure]
  exact hu.dropSession

/-- The epoch that is retired was draining. -/
theorem follows_guardianRetire {notice : RetirementNotice} {monotonicNow : UInt64} :
    Follows (fun t => t.provision ≠ entry.provision) (dryRetire crypto entry notice monotonicNow)
      (guardianRetire crypto notice monotonicNow) entry := by
  refine follows_get_bind (follows_check_bind fun out _ => follows_check_bind fun retired hret => ?_)
  obtain ⟨draining, hfound, -, -, rfl⟩ := GuardianEpochStore.retireEpoch_eq_ok (storage_eq_ok.mp hret)
  simp only [Follows, leaves_modify_bind, leaves_check]
  intro heq
  have herased := congrArg (fun provision => provision.epochStore.draining[notice.retiredEpoch]?) heq
  simp [GuardianRotationEntryV3.withStore, hfound] at herased

end Handlers

/-! ### Refusals -/

section Refusals

variable {crypto : Crypto} {vault : Vault} {node : GuardianNode} {call : GuardianCall}
  {plan : RotationPlan} {entry entry' : GuardianRotationEntryV3} {e : String}

/-- Begin puts its session after the last check. -/
theorem atomic_guardianBegin {certificate : BeginRotationCertificate} :
    Atomic (guardianBegin crypto vault node call plan certificate) entry := by
  refine atomic_get_bind (atomic_check_bind fun beginHash _ => atomic_check_bind fun _ _ => ?_)
  refine atomic_check_bind fun _ _ => atomic_check_bind fun planHash _ => ?_
  refine atomic_check_bind fun _ _ => ?_
  cases entry.sessions[plan.context.rotationId]? with
  | some existing => exact atomic_check_bind fun _ _ => atomic_of_ok rfl
  | none =>
    refine atomic_check_bind fun machine _ => atomic_check_bind fun begun _ => ?_
    exact atomic_check_bind fun notBefore _ => atomic_of_ok rfl

/-- StageMaterial stages after the last check. -/
theorem atomic_stageMaterial {wrapGrant : NewShareWrapGrant} {fragmentIndex : UInt16}
    {ciphertextFragment : Bytes} {ciphertextFragmentProof : MerkleProofBytes}
    {policy : GuardianPolicyV3} {opaqueSlotId : Id32} :
    Atomic (stageMaterial crypto vault node call plan wrapGrant fragmentIndex ciphertextFragment
      ciphertextFragmentProof policy opaqueSlotId) entry := by
  refine atomic_get_bind (atomic_check_bind fun newRoute _ => atomic_get_bind ?_)
  refine atomic_check_bind fun s hs => atomic_onPart (atomic_get_bind ?_) ?_
  · exact atomic_check_bind fun drafted _ => atomic_of_ok rfl
  · rw [GuardianRotationEntryV3.putSession, insert_of_present (openSession_eq_ok hs).2.1]

/-- A refused request has left the entry as it was exactly if the refusal came before its first
change. -/
theorem refused_request_changes_nothing_iff {request : GuardianRotationRequestV3}
    (h : handleGuardianRotationV3 crypto vault node call request entry = .error e entry') :
    entry' = entry ↔ RefusedUntouched crypto vault node call entry request := by
  have hne : ¬entry ≠ entry := fun hne => hne rfl
  have hsession {rotationId : Id32} : ¬SessionChanged rotationId entry entry :=
    fun hchanged => hchanged.ne rfl
  have hprovision : ¬entry.provision ≠ entry.provision := fun hne => hne rfl
  simp only [handleGuardianRotationV3, Act.get_bind] at h
  cases hgate : guardianContextGate entry request.context call.wallNow with
  | error refusal =>
    rw [hgate] at h
    cases h
    simp [RefusedUntouched, hgate]
  | ok _ =>
    rw [hgate, check_ok_bind] at h
    simp only [RefusedUntouched, hgate, ne_eq, not_true_eq_false, false_or]
    cases request with
    | begin plan certificate => exact iff_of_true (atomic_guardianBegin e entry' h) trivial
    | cancel plan certificate => exact follows_guardianCancel.unchanged_iff hne h
    | repairRound1 plan beginCertificate releaseCertificate unlockGrant helperIds replacementId =>
      exact follows_repairRound1.unchanged_iff hsession h
    | repairRound2 plan incoming replacementId =>
      exact follows_repairRound2.unchanged_iff hsession h
    | repairFinalize plan incoming oldPublicPackage =>
      exact follows_repairFinalize.unchanged_iff hsession h
    | refreshRound1 plan beginCertificate releaseCertificate oldShareGrant =>
      exact follows_refreshRound1.unchanged_iff hsession h
    | refreshRound2 plan incoming => exact follows_refreshRound2.unchanged_iff hsession h
    | refreshFinalize plan incoming oldPublicPackage =>
      exact follows_refreshFinalize.unchanged_iff hsession h
    | stageMaterial plan wrapGrant fragmentIndex ciphertextFragment ciphertextFragmentProof policy
        opaqueSlotId =>
      exact iff_of_true (atomic_stageMaterial e entry' h) trivial
    | prepareCommit plan guardianMaterialRoot merklePathProof dpssResultCommitment =>
      exact follows_prepareCommit.unchanged_iff hprovision h
    | handoffComplete plan dpssResultCommitment =>
      exact follows_handoffComplete.unchanged_iff hsession h
    | activate plan activatedCapsule drainDeadline =>
      exact follows_guardianActivate.unchanged_iff hsession h
    | abort plan certificate => exact follows_guardianAbort.unchanged_iff hsession h
    | retire notice monotonicNow => exact follows_guardianRetire.unchanged_iff hprovision h

end Refusals

/-! ### A round that is completed too late

The first guardian of the small deployment has dealt its refresh. A coordinator presents one of
the two messages of the first round, and then both. -/

def sampleDealt : GuardianRotationEntryV3 :=
  (guardianRun Crypto.transparent sampleDpssVault sampleGuardianNode sampleGuardian
    (sampleStaging.take 2)).data

/-- The round with the messages of these guardians. -/
def sampleAnswer (senders : List UInt16) :
    Act GuardianRotationEntryV3 GuardianRotationResponseV3 :=
  handleGuardianRotationV3 Crypto.transparent sampleDpssVault sampleGuardianNode
    ⟨21, 11, "boot", fun n => ⟨BitVec.ofNat 256 n, 0⟩⟩
    (.refreshRound2 samplePlan70
      ((senders.map (sampleMessage .refreshRound1 1)).map sampleDelivery))

theorem sampleAnswer_returned :
    (((sampleAnswer [2]).returned sampleDealt).isSome,
      ((sampleAnswer [2, 4]).returned sampleDealt).isSome,
      ((sampleAnswer [2, 4]).returned ((sampleAnswer [2]).final sampleDealt)).isSome) =
      (false, true, false) := by
  decide +kernel

theorem sampleAnswer_refused :
    ∃ e, sampleAnswer [2] sampleDealt = .error e ((sampleAnswer [2]).final sampleDealt) := by
  have hnone : (sampleAnswer [2]).returned sampleDealt = none := by
    have h := congrArg Prod.fst sampleAnswer_returned
    simpa using h
  obtain ⟨e, t, hrun⟩ := returned_eq_none.mp hnone
  exact ⟨e, (final_of_error hrun).symm ▸ hrun⟩

/-- The first message has started its counter, so that the round can no longer be completed. -/
theorem sampleAnswer_moved : (sampleAnswer [2]).final sampleDealt ≠ sampleDealt := by
  intro hsame
  have h := sampleAnswer_returned
  rw [hsame] at h
  simp only [Prod.mk.injEq] at h
  exact absurd (h.2.1.symm.trans h.2.2) (by decide)

theorem refused_request_changes_nothing_iff_sample :
    ((sampleAnswer [2]).final sampleDealt = sampleDealt ↔
      RefusedUntouched Crypto.transparent sampleDpssVault sampleGuardianNode
        ⟨21, 11, "boot", fun n => ⟨BitVec.ofNat 256 n, 0⟩⟩ sampleDealt
        (.refreshRound2 samplePlan70 [sampleDelivery (sampleMessage .refreshRound1 1 2)])) ∧
      (sampleAnswer [2]).final sampleDealt ≠ sampleDealt := by
  obtain ⟨e, hrun⟩ := sampleAnswer_refused
  exact ⟨refused_request_changes_nothing_iff hrun, sampleAnswer_moved⟩

/-- A round refused for a missing message leaves another entry, and the completed round, which
the entry before would have accepted, is refused after it. -/
theorem refused_request_changes_entry :
    (¬∀ (crypto : Crypto) (vault : Vault) (node : GuardianNode) (call : GuardianCall)
      (entry entry' : GuardianRotationEntryV3) (request : GuardianRotationRequestV3) (e : String),
      handleGuardianRotationV3 crypto vault node call request entry = .error e entry' →
      entry' = entry) ∧
    ¬∀ (crypto : Crypto) (vault : Vault) (node : GuardianNode) (call : GuardianCall)
      (entry entry' : GuardianRotationEntryV3) (request retry : GuardianRotationRequestV3)
      (e : String), handleGuardianRotationV3 crypto vault node call request entry = .error e entry' →
      ((handleGuardianRotationV3 crypto vault node call retry).returned entry).isSome →
      ((handleGuardianRotationV3 crypto vault node call retry).returned entry').isSome := by
  obtain ⟨e, hrun⟩ := sampleAnswer_refused
  have h := sampleAnswer_returned
  simp only [Prod.mk.injEq] at h
  refine ⟨fun hclaim => sampleAnswer_moved (hclaim _ _ _ _ _ _ _ e hrun), fun hclaim => ?_⟩
  have hretried : ((sampleAnswer [2, 4]).returned
      ((sampleAnswer [2]).final sampleDealt)).isSome = true :=
    hclaim _ _ _ _ _ _ _ (.refreshRound2 samplePlan70
      (([2, 4].map (sampleMessage .refreshRound1 1)).map sampleDelivery)) e hrun h.2.1
  exact absurd (h.2.2.symm.trans hretried) (by decide)

end MasterRecovery
