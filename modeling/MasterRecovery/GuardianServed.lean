import MasterRecovery.GuardianSteps
import MasterRecovery.RotationHistory

/-!
# A rotation request, served

Every request either is refused and leaves the entry alone, or does one of a few things to it.
Begin puts a session, most requests only work on one, and the others end in the store.
-/

namespace MasterRecovery
open Checks Transcript Wire Act

variable {crypto : Crypto} {vault : Vault} {node : GuardianNode} {call : GuardianCall}
  {plan : RotationPlan} {entry entry' : GuardianRotationEntryV3}
  {s s' : GuardianRotationSessionV3}

/-! ### The rotation machine -/

namespace RotationMachine

variable {machine machine' : RotationMachine}

/-- Begin starts the delay. -/
theorem apply_begin {monotonicNow delaySecs : UInt64} {actions : List RotationAction}
    (h : machine.apply (.beginAccepted monotonicNow delaySecs true) = .ok (actions, machine')) :
    machine' = { machine with
      notBefore := some (saturatingAdd monotonicNow delaySecs)
      state := .delayPending } := by
  obtain ⟨-, -, hmoves⟩ := apply_eq_ok h
  cases hmoves with
  | begun hstate => rfl
  | givenUp hstate hevent => simp at hevent

end RotationMachine

/-! ### What a request does -/

/-- The delay of a plan, shortened in demo mode. -/
def rotationDelay (node : GuardianNode) (plan : RotationPlan) : UInt64 :=
  if node.allowInsecureDemoDelay then min plan.minimumDelaySecs 2 else plan.minimumDelaySecs

/-- An accepted Begin of a plan, and the session it starts. -/
structure GuardianBegun (crypto : Crypto) (node : GuardianNode) (call : GuardianCall)
    (entry : GuardianRotationEntryV3) (plan : RotationPlan)
    (certificate : BeginRotationCertificate) (s : GuardianRotationSessionV3) : Prop where
  certificate : validateBeginRotationCertificateV3 crypto certificate plan
    entry.provision.predecessorCapsule call.wallNow = .ok s.beginCertificateHash
  participates : Participates entry plan
  hash : HasHash crypto plan s.planHash
  live : plan.context.rotationId ∉ entry.provision.epochStore.rotationTombstones
  notBefore : s.notBeforeMonotonic = saturatingAdd call.monotonicNow (rotationDelay node plan)
  bootId : s.bootId = call.bootId
  unsealed : s.encryptedLocalState = none
  unstaged : s.stagedMaterial = none

/-- Begin of a rotation that is not yet under way. -/
theorem guardianBegin_fresh {certificate : BeginRotationCertificate} {beginHash planHash : Id32}
    {machine : RotationMachine} {begun : List RotationAction × RotationMachine}
    {notBefore : UInt64}
    (hcert : validateBeginRotationCertificateV3 crypto certificate plan
      entry.provision.predecessorCapsule call.wallNow = .ok beginHash)
    (hparticipates : Participates entry plan)
    (hkeys : ∀ route ∈ plan.oldRoster ++ plan.newRoster,
      route.guardianPublicKey = entry.provision.signingPublicKey →
        route.sessionRecipientKey = vault.recipientPublicKey node.identitySeed)
    (hhash : hashPlan crypto plan = .ok planHash)
    (hlive : plan.context.rotationId ∉ entry.provision.epochStore.rotationTombstones)
    (hfresh : entry.sessions[plan.context.rotationId]? = none)
    (hnew : RotationMachine.new plan.context.rotationId planHash plan.predecessor plan.successor =
      .ok machine)
    (hbegun : machine.apply (.beginAccepted call.monotonicNow (rotationDelay node plan) true) =
      .ok begun)
    (hnotBefore : begun.2.notBefore = some notBefore) :
    guardianBegin crypto vault node call plan certificate entry = .ok (.beginAccepted notBefore)
      (entry.putSession plan.context.rotationId
        { rotationMachine := begun.2
          planHash := planHash
          beginCertificateHash := beginHash
          acceptedWallTime := call.wallNow
          startedMonotonic := call.monotonicNow
          notBeforeMonotonic := notBefore
          bootId := call.bootId
          cancelled := false
          nextOutgoingSequences := ∅
          nextIncomingSequences := ∅
          encryptedLocalState := none
          stagedMaterial := none }) := by
  have hsame : ¬∃ route ∈ plan.oldRoster ++ plan.newRoster,
      route.guardianPublicKey = entry.provision.signingPublicKey ∧
        route.sessionRecipientKey ≠ vault.recipientPublicKey node.identitySeed :=
    fun ⟨route, hmem, hkey, hne⟩ => hne (hkeys route hmem hkey)
  unfold rotationDelay at hbegun
  simp only [guardianBegin, Act.get_bind, hcert, hhash, hfresh, hnew, Except.mapError, hbegun,
    hnotBefore, okOr, check_ok_bind, bailIf, hparticipates, hsame, hlive, not_true_eq_false,
    if_false]
  rfl

/-- The entry after a session was moved without anything being sealed or staged in it. -/
inductive SessionMoved (crypto : Crypto) (vault : Vault) (node : GuardianNode)
    (entry : GuardianRotationEntryV3) (plan : RotationPlan) : GuardianRotationEntryV3 → Prop
  | idle : SessionMoved crypto vault node entry plan entry
  | moved {s s' : GuardianRotationSessionV3}
    (hfound : entry.sessions[plan.context.rotationId]? = some s)
    (hkept : SessionKept crypto vault node plan (fun _ => False) (fun _ => False) s s') :
    SessionMoved crypto vault node entry plan (entry.putSession plan.context.rotationId s')

/-- An accepted preparation: what was staged, the record made of it and its number. -/
structure GuardianPrepared (crypto : Crypto) (vault : Vault) (node : GuardianNode)
    (call : GuardianCall) (entry : GuardianRotationEntryV3) (plan : RotationPlan)
    (guardianMaterialRoot : Id32) (merklePathProof : MerkleProofBytes)
    (dpssResultCommitment : Id32) (s : GuardianRotationSessionV3)
    (staged : StagedGuardianMaterialV3) (record : GuardianRecordV3 × DpssSessionJournal)
    (prepared : UInt64 × GuardianEpochStore) : Prop where
  session : openSession crypto entry plan = .ok s
  material : s.stagedMaterial = some staged
  drafted : ∃ route, guardianRoute entry plan true = .ok route ∧
    preparedRecord crypto vault node call plan s.planHash route staged guardianMaterialRoot
      merklePathProof dpssResultCommitment = .ok record
  store : entry.provision.epochStore.prepareSuccessor plan.context.rotationId s.planHash record.1
    record.2 = .ok prepared

/-- An activation whose capsule and session have passed, up to the store. -/
structure GuardianActivating (crypto : Crypto) (entry : GuardianRotationEntryV3)
    (plan : RotationPlan) (capsule : ConfigCapsuleV3) (drainDeadline : UInt64)
    (qc : EpochActivationQc × Id32 × Id32) (s s' : GuardianRotationSessionV3) : Prop where
  checks : activationChecks crypto entry plan capsule = .ok qc
  session : openSession crypto entry plan = .ok s
  machine : activateMachine (UInt16.ofNat plan.newRoster.length) drainDeadline s = .ok () s'

/-- The entry of a guardian that has moved on to a capsule. -/
def GuardianRotationEntryV3.activated (entry : GuardianRotationEntryV3) (rotationId : Id32)
    (capsule : ConfigCapsuleV3) : GuardianRotationEntryV3 :=
  { entry with
    provision := { entry.provision with predecessorCapsule := capsule }
    sessions := entry.sessions.erase rotationId }

/-- The request ends the rotation of the plan without activating it. -/
def GuardianRotationRequestV3.Ends (request : GuardianRotationRequestV3) (plan : RotationPlan) :
    Prop :=
  (∃ certificate, request = .cancel plan certificate) ∨ ∃ certificate, request = .abort plan certificate

/-- What serving a rotation request can come to. -/
inductive RotationServed (crypto : Crypto) (vault : Vault) (node : GuardianNode)
    (call : GuardianCall) (entry : GuardianRotationEntryV3) : GuardianRotationRequestV3 →
    Option GuardianRotationResponseV3 → GuardianRotationEntryV3 → Prop
  | refused {request : GuardianRotationRequestV3} :
    RotationServed crypto vault node call entry request none entry
  | begun {plan : RotationPlan} {certificate : BeginRotationCertificate}
    {s : GuardianRotationSessionV3} {notBefore : UInt64}
    (hbegun : GuardianBegun crypto node call entry plan certificate s)
    (hfresh : entry.sessions[plan.context.rotationId]? = none)
    (hnotBefore : notBefore = s.notBeforeMonotonic) :
    RotationServed crypto vault node call entry (.begin plan certificate)
      (some (.beginAccepted notBefore)) (entry.putSession plan.context.rotationId s)
  | begunBefore {plan : RotationPlan} {certificate : BeginRotationCertificate}
    {s : GuardianRotationSessionV3} (hfound : entry.sessions[plan.context.rotationId]? = some s)
    (hlive : plan.context.rotationId ∉ entry.provision.epochStore.rotationTombstones) :
    RotationServed crypto vault node call entry (.begin plan certificate)
      (some (.beginAccepted s.notBeforeMonotonic)) entry
  | worked {request : GuardianRotationRequestV3} {plan : RotationPlan}
    {response : Option GuardianRotationResponseV3} {entry' : GuardianRotationEntryV3}
    (hworks : request.Works) (hplan : request.plan = some plan)
    (hworked : SessionWorked crypto vault node call entry request plan entry') :
    RotationServed crypto vault node call entry request response entry'
  | moved {request : GuardianRotationRequestV3} {plan : RotationPlan}
    {entry' : GuardianRotationEntryV3} (hmoved : SessionMoved crypto vault node entry plan entry') :
    RotationServed crypto vault node call entry request none entry'
  | preparedLate {plan : RotationPlan} {guardianMaterialRoot : Id32}
    {merklePathProof : MerkleProofBytes} {dpssResultCommitment : Id32}
    {s : GuardianRotationSessionV3} {staged : StagedGuardianMaterialV3}
    {record : GuardianRecordV3 × DpssSessionJournal} {prepared : UInt64 × GuardianEpochStore}
    (hprepared : GuardianPrepared crypto vault node call entry plan guardianMaterialRoot
      merklePathProof dpssResultCommitment s staged record prepared) :
    RotationServed crypto vault node call entry
      (.prepareCommit plan guardianMaterialRoot merklePathProof dpssResultCommitment) none
      (entry.withStore prepared.2)
  | prepared {plan : RotationPlan} {guardianMaterialRoot : Id32}
    {merklePathProof : MerkleProofBytes} {dpssResultCommitment : Id32}
    {s : GuardianRotationSessionV3} {staged : StagedGuardianMaterialV3}
    {record : GuardianRecordV3 × DpssSessionJournal} {prepared : UInt64 × GuardianEpochStore}
    {response : GuardianRotationResponseV3}
    (hprepared : GuardianPrepared crypto vault node call entry plan guardianMaterialRoot
      merklePathProof dpssResultCommitment s staged record prepared) :
    RotationServed crypto vault node call entry
      (.prepareCommit plan guardianMaterialRoot merklePathProof dpssResultCommitment)
      (some response)
      ((entry.withStore prepared.2).putSession plan.context.rotationId
        { s with stagedMaterial := none })
  | ended {request : GuardianRotationRequestV3} {plan : RotationPlan} {planHash : Id32}
    {response : Option GuardianRotationResponseV3} {entry₁ : GuardianRotationEntryV3}
    {store : GuardianEpochStore} (hends : request.Ends plan) (hhash : HasHash crypto plan planHash)
    (hmoved : SessionMoved crypto vault node entry plan entry₁)
    (hstore : entry.provision.epochStore.abortPrepared plan.context.rotationId planHash =
      .ok store) :
    RotationServed crypto vault node call entry request response
      ((entry₁.withStore store).dropSession plan.context.rotationId)
  | activationFailed {plan : RotationPlan} {capsule : ConfigCapsuleV3} {drainDeadline : UInt64}
    {qc : EpochActivationQc × Id32 × Id32} {s s' : GuardianRotationSessionV3} {e : StorageError}
    {store : GuardianEpochStore}
    (hactivating : GuardianActivating crypto entry plan capsule drainDeadline qc s s')
    (hstore : activateStore entry plan qc drainDeadline entry.provision.epochStore =
      .error e store) :
    RotationServed crypto vault node call entry (.activate plan capsule drainDeadline) none
      ((entry.putSession plan.context.rotationId s').withStore store)
  | activated {plan : RotationPlan} {capsule : ConfigCapsuleV3} {drainDeadline : UInt64}
    {qc : EpochActivationQc × Id32 × Id32} {s s' : GuardianRotationSessionV3}
    {store : GuardianEpochStore}
    (hactivating : GuardianActivating crypto entry plan capsule drainDeadline qc s s')
    (hstore : activateStore entry plan qc drainDeadline entry.provision.epochStore =
      .ok () store) :
    RotationServed crypto vault node call entry (.activate plan capsule drainDeadline)
      (some (.activated plan.successor.guardianEpoch))
      (((entry.putSession plan.context.rotationId s').withStore store).activated
        plan.context.rotationId capsule)
  | retired {notice : RetirementNotice} {monotonicNow : UInt64}
    {response : Option GuardianRotationResponseV3} {qc : Id32 × UInt16}
    {retired : Id32 × GuardianEpochStore}
    (hchecks : retireChecks crypto entry.provision.epochStore notice monotonicNow = .ok qc)
    (hstore : entry.provision.epochStore.retireEpoch notice.retiredEpoch monotonicNow =
      .ok retired) :
    RotationServed crypto vault node call entry (.retire notice monotonicNow) response
      (entry.withStore retired.2)

theorem SessionMoved.provision {entry₁ : GuardianRotationEntryV3}
    (h : SessionMoved crypto vault node entry plan entry₁) : entry₁.provision = entry.provision := by
  cases h <;> rfl

/-! ### Serving -/

theorem outcome_guardianBegin {certificate : BeginRotationCertificate} :
    Outcome (RotationServed crypto vault node call entry (.begin plan certificate))
      (guardianBegin crypto vault node call plan certificate) entry := by
  simp only [guardianBegin, outcome_get_bind]
  refine outcome_check_bind .refused fun beginHash hcertificate => ?_
  refine outcome_check_bind .refused fun _ hparticipates => ?_
  refine outcome_check_bind .refused fun _ _ => outcome_check_bind .refused fun planHash hhash => ?_
  refine outcome_check_bind .refused fun _ hlive => ?_
  simp only [bailIf_eq_ok, not_not] at hparticipates hlive
  cases hfound : entry.sessions[plan.context.rotationId]? with
  | some existing =>
    refine outcome_check_bind .refused fun _ _ => ?_
    exact outcome_pure.mpr (.begunBefore hfound hlive)
  | none =>
    refine outcome_check_bind .refused fun machine hnew => ?_
    refine outcome_check_bind .refused fun begun hbegun => ?_
    refine outcome_check_bind .refused fun notBefore hnotBefore => ?_
    simp only [mapError_eq_ok, okOr_eq_ok] at hnew hbegun hnotBefore
    rw [RotationMachine.apply_begin hbegun] at hnotBefore
    cases hnotBefore
    simp only [outcome_modify_bind, outcome_pure]
    refine .begun ?_ hfound rfl
    exact ⟨hcertificate, hparticipates, hashPlan_eq_ok.mp hhash, hlive, rfl, rfl, rfl, rfl⟩

theorem leaves_cancelSession :
    Leaves (SessionKept crypto vault node plan (fun _ => False) (fun _ => False) s)
      cancelSession s := by
  have h : SessionKept crypto vault node plan (fun _ => False) (fun _ => False) s s := .refl s
  simp only [cancelSession, leaves_get_bind]
  split
  · exact leaves_modify.mpr h.cancel
  · exact leaves_bind (leaves_applyEvent h) fun _ t _ ht => leaves_modify.mpr ht.cancel

theorem leaves_cancelRotation {planHash : Id32} :
    Leaves (SessionMoved crypto vault node entry plan) (cancelRotation plan planHash) entry := by
  simp only [cancelRotation, leaves_get_bind]
  split
  · exact leaves_check.mpr .idle
  · split
    · next hfound => exact leaves_onSession (leaves_cancelSession.mono fun _ h => .moved hfound h)
    · refine leaves_check_bind .idle fun machine _ => leaves_check_bind .idle fun _ _ => ?_
      exact leaves_pure.mpr .idle

/-- The checks of a cancellation have hashed the plan. -/
theorem guardianCancelChecks_hash {certificate : OwnerRotationCancelCertificate}
    {wallNow : UInt64} {hashes : Id32 × Id32}
    (h : guardianCancelChecks crypto entry plan certificate wallNow = .ok hashes) :
    HasHash crypto plan hashes.1 := by
  simp only [guardianCancelChecks, Checks.bind_eq_ok, validateRotationPlanV3_iff] at h
  obtain ⟨planHash, hvalid, _, -, transcript, -, _, -, _, -, h⟩ := h
  cases h
  exact hvalid.hash

theorem outcome_guardianCancel {certificate : OwnerRotationCancelCertificate} :
    Outcome (RotationServed crypto vault node call entry (.cancel plan certificate))
      (guardianCancel crypto call plan certificate) entry := by
  have hends : (GuardianRotationRequestV3.cancel plan certificate).Ends plan :=
    Or.inl ⟨certificate, rfl⟩
  simp only [guardianCancel, outcome_get_bind]
  refine outcome_check_bind .refused fun hashes hchecks => ?_
  have hhash := guardianCancelChecks_hash hchecks
  have hleaves : Leaves (SessionMoved crypto vault node entry plan)
      (cancelRotation plan hashes.1) entry := leaves_cancelRotation
  refine outcome_bind (fun _ _ hrun => .moved (hleaves.error hrun)) fun _ entry₁ hrun => ?_
  have hmoved := hleaves.ok hrun
  refine outcome_bind (fun _ _ hrefused => ?_) fun _ entry₂ hstored => ?_
  · rw [updateStore_eq_error hrefused]
    exact .moved hmoved
  · obtain ⟨store, hstore, rfl⟩ := updateStore_eq_ok.mp hstored
    rw [hmoved.provision] at hstore
    simp only [outcome_modify_bind, outcome_get_bind]
    have hended {response : Option GuardianRotationResponseV3} :
        RotationServed crypto vault node call entry (.cancel plan certificate) response _ :=
      .ended hends hhash hmoved hstore
    exact outcome_check_bind hended fun guardianIndex _ => outcome_check hended fun _ _ => hended

theorem outcome_prepareCommit {guardianMaterialRoot : Id32} {merklePathProof : MerkleProofBytes}
    {dpssResultCommitment : Id32} :
    Outcome (RotationServed crypto vault node call entry
        (.prepareCommit plan guardianMaterialRoot merklePathProof dpssResultCommitment))
      (prepareCommit crypto vault node call plan guardianMaterialRoot merklePathProof
        dpssResultCommitment) entry := by
  simp only [prepareCommit, outcome_get_bind]
  refine outcome_check_bind .refused fun route hroute => ?_
  refine outcome_check_bind .refused fun session hsession => ?_
  refine outcome_check_bind .refused fun staged hstaged => ?_
  refine outcome_check_bind .refused fun record hrecord => ?_
  refine outcome_check_bind .refused fun prepared hstore => ?_
  have hprepared : GuardianPrepared crypto vault node call entry plan guardianMaterialRoot
      merklePathProof dpssResultCommitment session staged record prepared :=
    ⟨hsession, okOr_eq_ok.mp hstaged, ⟨route, hroute, hrecord⟩, storage_eq_ok.mp hstore⟩
  simp only [outcome_modify_bind]
  refine outcome_check_bind (.preparedLate hprepared) fun response _ => ?_
  simp only [outcome_get_bind]
  refine outcome_check_bind (.preparedLate hprepared) fun found hfound => ?_
  have hsame : some session = some found := by
    rw [← (openSession_eq_ok hsession).2.1]
    exact okOr_eq_ok.mp hfound
  cases hsame
  simp only [outcome_modify_bind, outcome_pure]
  exact .prepared hprepared

theorem onStore_eq_ok {x : EStateM StorageError GuardianEpochStore Unit} {u : Unit} :
    onStore x entry = .ok u entry' ↔
      ∃ store, x entry.provision.epochStore = .ok () store ∧ entry.withStore store = entry' := by
  simp only [onStore]
  cases x entry.provision.epochStore <;> simp

theorem onStore_eq_error {x : EStateM StorageError GuardianEpochStore Unit} {e : String}
    (h : onStore x entry = .error e entry') :
    ∃ e store, x entry.provision.epochStore = .error e store ∧ entry.withStore store = entry' := by
  simp only [onStore] at h
  cases hx : x entry.provision.epochStore with
  | ok u store => simp [hx] at h
  | error e store =>
    simp only [hx, EStateM.Result.error.injEq] at h
    exact ⟨e, store, rfl, h.2⟩

/-- Moving a session by events of its machine. -/
theorem leaves_activateMachine {count : UInt16} {drainDeadline : UInt64}
    {P : LocalDpssState → Prop} {M : StagedGuardianMaterialV3 → Prop} :
    Leaves (SessionKept crypto vault node plan P M s) (activateMachine count drainDeadline) s := by
  simp only [activateMachine, leaves_get_bind]
  refine leaves_bind (leaves_advanceToPreparing (.refl s)) fun _ s₁ _ h₁ => ?_
  refine leaves_bind (leaves_applyEvent h₁) fun _ s₂ _ h₂ => ?_
  exact leaves_bind (leaves_applyEvent h₂) fun _ s₃ _ h₃ => leaves_applyEvent h₃

/-- What an open session is moved to without sealing or staging. -/
theorem leaves_moved {α : Type} {x : Act GuardianRotationSessionV3 α}
    (hwork : ∀ s, Leaves (SessionKept crypto vault node plan (fun _ => False) (fun _ => False) s) x s) :
    Leaves (SessionMoved crypto vault node entry plan) (sessionMut crypto plan x) entry :=
  leaves_sessionMut .idle fun s hs =>
    (hwork s).mono fun _ hkept => .moved (openSession_eq_ok hs).2.1 hkept

theorem outcome_guardianActivate {capsule : ConfigCapsuleV3} {drainDeadline : UInt64} :
    Outcome (RotationServed crypto vault node call entry (.activate plan capsule drainDeadline))
      (guardianActivate crypto plan capsule drainDeadline) entry := by
  simp only [guardianActivate, outcome_get_bind]
  refine outcome_check_bind .refused fun qc hchecks => ?_
  have hleaves : Leaves (SessionMoved crypto vault node entry plan)
      (sessionMut crypto plan
        (activateMachine (UInt16.ofNat plan.newRoster.length) drainDeadline)) entry :=
    leaves_moved fun s => leaves_activateMachine
  refine outcome_bind (fun _ _ hrun => .moved (hleaves.error hrun)) fun _ entry₁ hrun => ?_
  obtain ⟨s, s', hsession, hmachine, rfl⟩ := sessionMut_eq_ok hrun
  have hactivating : GuardianActivating crypto entry plan capsule drainDeadline qc s s' :=
    ⟨hchecks, hsession, hmachine⟩
  refine outcome_bind (fun _ _ hfailed => ?_) fun _ entry₂ hstored => ?_
  · obtain ⟨e, store, hstore, rfl⟩ := onStore_eq_error hfailed
    exact .activationFailed hactivating hstore
  · obtain ⟨store, hstore, rfl⟩ := onStore_eq_ok.mp hstored
    simp only [outcome_modify_bind, outcome_pure]
    exact .activated hactivating hstore

theorem outcome_guardianAbort {certificate : AbortRotationCertificate} :
    Outcome (RotationServed crypto vault node call entry (.abort plan certificate))
      (guardianAbort crypto call plan certificate) entry := by
  have hends : (GuardianRotationRequestV3.abort plan certificate).Ends plan :=
    Or.inr ⟨certificate, rfl⟩
  simp only [guardianAbort, outcome_get_bind]
  refine outcome_check_bind .refused fun _ _ => outcome_check_bind .refused fun planHash hhash => ?_
  have hleaves : Leaves (SessionMoved crypto vault node entry plan)
      (sessionMut crypto plan (applyEvent (.abortObserved true))) entry :=
    leaves_moved fun s => leaves_applyEvent (.refl s)
  refine outcome_bind (fun _ _ hrun => .moved (hleaves.error hrun)) fun _ entry₁ hrun => ?_
  have hmoved := hleaves.ok hrun
  refine outcome_bind (fun _ _ hrefused => ?_) fun _ entry₂ hstored => ?_
  · rw [updateStore_eq_error hrefused]
    exact .moved hmoved
  · obtain ⟨store, hstore, rfl⟩ := updateStore_eq_ok.mp hstored
    rw [hmoved.provision] at hstore
    simp only [outcome_modify_bind, outcome_pure]
    exact .ended hends (hashPlan_eq_ok.mp hhash) hmoved hstore

theorem outcome_guardianRetire {notice : RetirementNotice} {monotonicNow : UInt64} :
    Outcome (RotationServed crypto vault node call entry (.retire notice monotonicNow))
      (guardianRetire crypto notice monotonicNow) entry := by
  simp only [guardianRetire, outcome_get_bind]
  refine outcome_check_bind .refused fun qc hchecks => ?_
  refine outcome_check_bind .refused fun retired hstore => ?_
  simp only [outcome_modify_bind]
  have hretired {response : Option GuardianRotationResponseV3} :
      RotationServed crypto vault node call entry (.retire notice monotonicNow) response _ :=
    .retired hchecks (storage_eq_ok.mp hstore)
  exact outcome_check hretired fun _ _ => hretired

theorem outcome_guardianDispatch {request : GuardianRotationRequestV3} :
    Outcome (RotationServed crypto vault node call entry request)
      (guardianDispatch crypto vault node call request) entry := by
  have hworks (plan : RotationPlan) (hworks : request.Works) (hplan : request.plan = some plan) :
      Outcome (RotationServed crypto vault node call entry request)
        (guardianDispatch crypto vault node call request) entry :=
    (leaves_works hworks hplan).outcome fun _ _ h => .worked hworks hplan h
  cases request with
  | begin plan certificate => exact outcome_guardianBegin
  | cancel plan certificate => exact outcome_guardianCancel
  | prepareCommit plan _ _ _ => exact outcome_prepareCommit
  | activate plan _ _ => exact outcome_guardianActivate
  | abort plan _ => exact outcome_guardianAbort
  | retire notice _ => exact outcome_guardianRetire
  | _ => exact hworks _ trivial rfl

/-- What serving a rotation request comes to. -/
theorem rotation_served (request : GuardianRotationRequestV3) :
    Outcome (RotationServed crypto vault node call entry request)
      (handleGuardianRotationV3 crypto vault node call request) entry := by
  simp only [handleGuardianRotationV3, outcome_get_bind]
  exact outcome_check_bind .refused fun _ _ => outcome_guardianDispatch

/-! ### The store of an activation -/

/-- What an activation has checked of its capsule, and what it takes from it. -/
structure ActivationChecked (crypto : Crypto) (entry : GuardianRotationEntryV3)
    (plan : RotationPlan) (capsule : ConfigCapsuleV3) (qc : EpochActivationQc × Id32 × Id32) :
    Prop where
  validated : validateActivatedCapsuleV3 crypto entry.provision.recoveryCard capsule = .ok ()
  found : capsule.activationQc = some qc.1
  hash : HasHash crypto plan qc.2.2
  successor : capsule.configRef = plan.successor
  predecessorHash : capsule.predecessorCapsuleHash = entry.provision.predecessorCapsule.capsuleHash
  rotation : qc.1.rotationId = plan.context.rotationId
  prepared : (guardianRoute entry plan true).isOk → ∃ prepared,
    entry.provision.epochStore.prepared = some prepared ∧ BindsPrepared prepared.record capsule

theorem activationChecks_eq_ok {capsule : ConfigCapsuleV3} {qc : EpochActivationQc × Id32 × Id32}
    (h : activationChecks crypto entry plan capsule = .ok qc) :
    ActivationChecked crypto entry plan capsule qc := by
  simp only [activationChecks, Checks.bind_eq_ok, okOr_eq_ok, bailIf_eq_ok, exists_const, not_or,
    not_not, ne_eq] at h
  obtain ⟨_, hcapsule, found, hqc, transcript, -, planHash, hhash, ⟨hsuccessor, hpredecessor, -⟩,
    count, -, ⟨-, -, -, hrotation⟩, h⟩ := h
  split at h
  · simp only [Checks.bind_eq_ok, okOr_eq_ok, bailIf_eq_ok, exists_const, not_not,
      Except.ok.injEq] at h
    obtain ⟨prepared, hfound, hbinds, rfl⟩ := h
    exact ⟨hcapsule, hqc, hashPlan_eq_ok.mp hhash, hsuccessor, hpredecessor, hrotation,
      fun _ => ⟨prepared, hfound, hbinds⟩⟩
  · next hroute =>
    cases h
    exact ⟨hcapsule, hqc, hashPlan_eq_ok.mp hhash, hsuccessor, hpredecessor, hrotation,
      fun hok => absurd hok hroute⟩

/-- What an accepted activation has done to the store, whether the guardian stays or leaves. -/
structure StoreActivated (entry : GuardianRotationEntryV3) (plan : RotationPlan)
    (qc : EpochActivationQc × Id32 × Id32) (store store' : GuardianEpochStore) : Prop where
  recoveryTombstones : store'.recoveryCancellationTombstones = store.recoveryCancellationTombstones
  tombstones : ∃ tombstone : RotationTombstone, tombstone.terminalState ≠ .aborted ∧
    store'.rotationTombstones = store.rotationTombstones.insert plan.context.rotationId tombstone
  qcObserved : store'.activationQc = some qc.1
  qcRotation : qc.1.rotationId = plan.context.rotationId
  draining : store'.draining = store.draining ∨ ∃ (old : GuardianRecordV3)
    (drains : DrainingGuardianEpoch), store.active = some old ∧
      drains.record.policy.configRef = old.policy.configRef ∧
      drains.pendingRequestIds = pendingOldRecoveryIds entry ∧
      store'.draining = store.draining.insert old.policy.configRef.guardianEpoch drains

variable {capsule : ConfigCapsuleV3} {drainDeadline : UInt64}
  {qc : EpochActivationQc × Id32 × Id32} {store store' : GuardianEpochStore}

theorem activateStore_eq_ok {u : Unit}
    (h : activateStore entry plan qc drainDeadline store = .ok u store') :
    StoreActivated entry plan qc store store' := by
  unfold activateStore at h
  split at h
  · obtain ⟨prepared, drained, -, hbinds, hdrained, rfl⟩ :=
      GuardianEpochStore.activateSuccessor_eq_ok h
    cases hdrained with
    | active hactive hhash =>
      exact ⟨rfl, ⟨_, by simp, rfl⟩, rfl, hbinds.qcRotation,
        Or.inr ⟨_, _, hactive, rfl, rfl, rfl⟩⟩
    | candidate hactive hpending =>
      exact ⟨rfl, ⟨_, by simp, rfl⟩, rfl, hbinds.qcRotation, Or.inl rfl⟩
  · obtain ⟨old, oldCapsuleHash, hactive, -, -, hbinds, rfl⟩ :=
      GuardianEpochStore.observeReplacementActivation_eq_ok h
    exact ⟨rfl, ⟨_, by simp, rfl⟩, rfl, hbinds.rotation,
      Or.inr ⟨old, _, hactive, rfl, rfl, rfl⟩⟩

/-- A refused activation leaves the store as it was, or without a torn record. -/
theorem activateStore_eq_error {e : StorageError}
    (h : activateStore entry plan qc drainDeadline store = .error e store') :
    store' = store ∨ store.Torn ∧ ∃ prepared, store' =
      { store with prepared := prepared, active := none } := by
  unfold activateStore at h
  split at h
  · exact (GuardianEpochStore.activateSuccessor_eq_error h).imp_right fun ⟨htorn, heq⟩ =>
      ⟨htorn, none, heq⟩
  · exact (GuardianEpochStore.observeReplacementActivation_eq_error h).imp_right
      fun ⟨htorn, heq⟩ => ⟨htorn, store.prepared, heq⟩

/-! ### Sessions and tombstones after a request -/

/-- A session is carried over a request: what it seals and stages is of the request's plan. -/
structure SessionCarried (crypto : Crypto) (vault : Vault) (node : GuardianNode)
    (call : GuardianCall) (entry : GuardianRotationEntryV3) (request : GuardianRotationRequestV3)
    (s s' : GuardianRotationSessionV3) : Prop where
  planHash : s'.planHash = s.planHash
  notBefore : s'.notBeforeMonotonic = s.notBeforeMonotonic
  bootId : s'.bootId = s.bootId
  localState : s'.encryptedLocalState = s.encryptedLocalState ∨
    ∀ encrypted, s'.encryptedLocalState = some encrypted →
      ∃ plan, request.plan = some plan ∧ HasHash crypto plan s.planHash ∧
        SealsState crypto vault node plan (SealedFrom crypto vault call entry request plan s)
          encrypted
  staged : s'.stagedMaterial = s.stagedMaterial ∨
    ∀ staged, s'.stagedMaterial = some staged →
      ∃ plan, request.plan = some plan ∧ HasHash crypto plan s.planHash ∧
        StagedIn crypto vault node entry plan s staged

/-- An accepted Begin starts the session. -/
def SessionStarted (crypto : Crypto) (node : GuardianNode) (call : GuardianCall)
    (entry : GuardianRotationEntryV3) (request : GuardianRotationRequestV3)
    (response : Option GuardianRotationResponseV3) (rotationId : Id32)
    (s : GuardianRotationSessionV3) : Prop :=
  ∃ plan certificate notBefore, request = .begin plan certificate ∧
    response = some (.beginAccepted notBefore) ∧ plan.context.rotationId = rotationId ∧
    GuardianBegun crypto node call entry plan certificate s

variable {request : GuardianRotationRequestV3} {response : Option GuardianRotationResponseV3}
  {rotationId : Id32}

theorem SessionCarried.refl (s : GuardianRotationSessionV3) :
    SessionCarried crypto vault node call entry request s s :=
  ⟨rfl, rfl, rfl, Or.inl rfl, Or.inl rfl⟩

theorem SessionKept.carried {P : LocalDpssState → Prop} {M : StagedGuardianMaterialV3 → Prop}
    (h : SessionKept crypto vault node plan P M s s')
    (hP : ∀ state, P state → request.plan = some plan ∧ HasHash crypto plan s.planHash ∧
      SealedFrom crypto vault call entry request plan s state)
    (hM : ∀ staged, M staged → request.plan = some plan ∧ HasHash crypto plan s.planHash ∧
      StagedIn crypto vault node entry plan s staged) :
    SessionCarried crypto vault node call entry request s s' where
  planHash := h.planHash
  notBefore := h.notBefore
  bootId := h.bootId
  localState := h.localState.imp_right fun hseals encrypted hsome => by
    obtain ⟨nonce, guardianIndex, state, hseal, hstate⟩ := hseals encrypted hsome
    obtain ⟨hplan, hhash, hdeals⟩ := hP state hstate
    exact ⟨plan, hplan, hhash, nonce, guardianIndex, state, hseal, hdeals⟩
  staged := h.staged.imp_right fun hstaged staged hsome => ⟨plan, hM staged (hstaged staged hsome)⟩

/-- Nothing sealed or staged, whatever the plan. -/
theorem SessionKept.carried_of_moved
    (h : SessionKept crypto vault node plan (fun _ => False) (fun _ => False) s s') :
    SessionCarried crypto vault node call entry request s s' :=
  h.carried (fun _ hfalse => hfalse.elim) fun _ hfalse => hfalse.elim

/-- A session that is carried over the request. -/
def SessionBefore (crypto : Crypto) (vault : Vault) (node : GuardianNode) (call : GuardianCall)
    (entry : GuardianRotationEntryV3) (request : GuardianRotationRequestV3) (rotationId : Id32)
    (s' : GuardianRotationSessionV3) : Prop :=
  ∃ s, entry.sessions[rotationId]? = some s ∧
    SessionCarried crypto vault node call entry request s s'

/-- With one session replaced, every session is that one or an old one. -/
theorem sessionBefore_putSession {rotationId' : Id32} {t t' : GuardianRotationSessionV3}
    (hfound : entry.sessions[rotationId']? = some t)
    (hcarried : SessionCarried crypto vault node call entry request t t')
    (h : (entry.sessions.insert rotationId' t')[rotationId]? = some s') :
    SessionBefore crypto vault node call entry request rotationId s' := by
  rcases getElem?_insert_iff.mp h with ⟨rfl, rfl⟩ | ⟨-, hold⟩
  · exact ⟨t, hfound, hcarried⟩
  · exact ⟨s', hold, .refl s'⟩

theorem SessionMoved.before (h : SessionMoved crypto vault node entry plan entry')
    (hfound : entry'.sessions[rotationId]? = some s') :
    SessionBefore crypto vault node call entry request rotationId s' := by
  cases h with
  | idle => exact ⟨s', hfound, .refl s'⟩
  | moved hbefore hkept => exact sessionBefore_putSession hbefore hkept.carried_of_moved hfound

theorem SessionWorked.before (h : SessionWorked crypto vault node call entry request plan entry')
    (hplan : request.plan = some plan) (hfound : entry'.sessions[rotationId]? = some s') :
    SessionBefore crypto vault node call entry request rotationId s' := by
  cases h with
  | idle => exact ⟨s', hfound, .refl s'⟩
  | worked hopen hkept =>
    obtain ⟨hhash, hbefore, -⟩ := openSession_eq_ok hopen
    refine sessionBefore_putSession hbefore (hkept.carried ?_ ?_) hfound
    · exact fun state hstate => ⟨hplan, hhash, hstate⟩
    · exact fun staged hstaged => ⟨hplan, hhash, hstaged⟩

/-- The session an activation has moved. -/
theorem GuardianActivating.before {capsule : ConfigCapsuleV3} {drainDeadline : UInt64}
    {qc : EpochActivationQc × Id32 × Id32} {t t' : GuardianRotationSessionV3}
    (h : GuardianActivating crypto entry plan capsule drainDeadline qc t t')
    (hfound : (entry.sessions.insert plan.context.rotationId t')[rotationId]? = some s') :
    SessionBefore crypto vault node call entry request rotationId s' := by
  have hleaves : Leaves (SessionKept crypto vault node plan (fun _ => False) (fun _ => False) t)
      (activateMachine (UInt16.ofNat plan.newRoster.length) drainDeadline) t :=
    leaves_activateMachine
  obtain ⟨-, hbefore, -⟩ := openSession_eq_ok h.session
  exact sessionBefore_putSession hbefore (hleaves.ok h.machine).carried_of_moved hfound

/-- Every session that is left was there before, or has just been started. -/
theorem RotationServed.session
    (h : RotationServed crypto vault node call entry request response entry')
    (hfound : entry'.sessions[rotationId]? = some s') :
    SessionBefore crypto vault node call entry request rotationId s' ∨
      SessionStarted crypto node call entry request response rotationId s' := by
  cases h with
  | refused => exact Or.inl ⟨s', hfound, .refl s'⟩
  | begun hbegun hfresh hnotBefore =>
    rcases getElem?_insert_iff.mp hfound with ⟨rfl, rfl⟩ | ⟨-, hold⟩
    · exact Or.inr ⟨_, _, _, rfl, rfl, rfl, hbegun⟩
    · exact Or.inl ⟨s', hold, .refl s'⟩
  | begunBefore => exact Or.inl ⟨s', hfound, .refl s'⟩
  | worked _ hplan hworked => exact Or.inl (hworked.before hplan hfound)
  | moved hmoved => exact Or.inl (hmoved.before hfound)
  | preparedLate => exact Or.inl ⟨s', hfound, .refl s'⟩
  | @prepared plan _ _ _ s _ _ _ _ hprepared =>
    obtain ⟨-, hbefore, -⟩ := openSession_eq_ok hprepared.session
    have hkept : SessionKept crypto vault node plan (fun _ => False) (fun _ => False) s
        { s with stagedMaterial := none } := (SessionKept.refl s).unstage
    exact Or.inl (sessionBefore_putSession hbefore hkept.carried_of_moved hfound)
  | ended _ _ hmoved =>
    obtain ⟨-, hold⟩ := getElem?_erase_iff.mp hfound
    exact Or.inl (hmoved.before hold)
  | activationFailed hactivating => exact Or.inl (hactivating.before hfound)
  | activated hactivating =>
    obtain ⟨-, hold⟩ := getElem?_erase_iff.mp hfound
    exact Or.inl (hactivating.before hold)
  | retired => exact Or.inl ⟨s', hfound, .refl s'⟩

/-- The tombstone a request has put on a rotation. -/
inductive TombstoneLaid (crypto : Crypto) (entry : GuardianRotationEntryV3)
    (request : GuardianRotationRequestV3) (rotationId : Id32) : RotationTombstone → Prop
  | ended {plan : RotationPlan} {tombstone : RotationTombstone} (hends : request.Ends plan)
    (hrotation : plan.context.rotationId = rotationId)
    (hhash : HasHash crypto plan tombstone.planHash)
    (hfree : entry.provision.epochStore.FreeFor rotationId tombstone.planHash)
    (haborted : tombstone.terminalState = .aborted) :
    TombstoneLaid crypto entry request rotationId tombstone
  | activated {plan : RotationPlan} {tombstone : RotationTombstone}
    {capsule : ConfigCapsuleV3} {drainDeadline : UInt64} {s : GuardianRotationSessionV3}
    (hactivate : request = .activate plan capsule drainDeadline)
    (hrotation : plan.context.rotationId = rotationId)
    (hopen : openSession crypto entry plan = .ok s)
    (hactive : tombstone.terminalState ≠ .aborted) :
    TombstoneLaid crypto entry request rotationId tombstone

/-- A tombstone stays what it is, or has just been put on a rotation that has no session now. -/
theorem RotationServed.tombstone
    (h : RotationServed crypto vault node call entry request response entry') (rotationId : Id32) :
    entry'.provision.epochStore.rotationTombstones[rotationId]? =
        entry.provision.epochStore.rotationTombstones[rotationId]? ∨
      entry'.sessions[rotationId]? = none ∧ ∃ tombstone,
        entry'.provision.epochStore.rotationTombstones[rotationId]? = some tombstone ∧
        TombstoneLaid crypto entry request rotationId tombstone := by
  cases h with
  | refused => exact Or.inl rfl
  | begun => exact Or.inl rfl
  | begunBefore => exact Or.inl rfl
  | worked _ _ hworked => cases hworked <;> exact Or.inl rfl
  | moved hmoved => rw [hmoved.provision]; exact Or.inl rfl
  | preparedLate hprepared =>
    obtain ⟨-, hstore⟩ := GuardianEpochStore.prepareSuccessor_eq_ok hprepared.store
    simp only [hstore]
    exact Or.inl rfl
  | prepared hprepared =>
    obtain ⟨-, hstore⟩ := GuardianEpochStore.prepareSuccessor_eq_ok hprepared.store
    simp only [hstore]
    exact Or.inl rfl
  | @ended _ plan planHash _ entry₁ _ hends hhash hmoved hstore =>
    obtain ⟨-, hfree, rfl⟩ := GuardianEpochStore.abortPrepared_eq_ok.mp hstore
    by_cases hid : rotationId = plan.context.rotationId
    · subst hid
      refine Or.inr ⟨by simp [GuardianRotationEntryV3.dropSession], _,
        getElem?_insert_iff.mpr (Or.inl ⟨rfl, rfl⟩), .ended hends rfl hhash hfree rfl⟩
    · refine Or.inl ?_
      simp [GuardianRotationEntryV3.dropSession, GuardianRotationEntryV3.withStore,
        GuardianEpochStore.withAborted, Std.TreeMap.getElem?_insert, Ne.symm hid]
  | activationFailed _ hstore =>
    rcases activateStore_eq_error hstore with rfl | ⟨-, _, rfl⟩ <;> exact Or.inl rfl
  | @activated plan capsule _ _ _ _ store hactivating hstore =>
    obtain ⟨tombstone, hactive, hinsert⟩ := (activateStore_eq_ok hstore).tombstones
    change store.rotationTombstones[rotationId]? = _ ∨ _ ∧ ∃ tombstone,
      store.rotationTombstones[rotationId]? = _ ∧ _
    rw [hinsert]
    by_cases hid : rotationId = plan.context.rotationId
    · subst hid
      exact Or.inr ⟨by simp [GuardianRotationEntryV3.activated], tombstone,
        getElem?_insert_iff.mpr (Or.inl ⟨rfl, rfl⟩), .activated rfl rfl hactivating.session hactive⟩
    · exact Or.inl (by simp [Std.TreeMap.getElem?_insert, Ne.symm hid])
  | retired _ hstore =>
    obtain ⟨draining, -, -, -, rfl⟩ := GuardianEpochStore.retireEpoch_eq_ok hstore
    exact Or.inl rfl

/-- The request ends the rotation of the plan one way or the other. -/
def GuardianRotationRequestV3.Closes (request : GuardianRotationRequestV3) (plan : RotationPlan) :
    Prop :=
  request.Ends plan ∨ ∃ capsule drainDeadline, request = .activate plan capsule drainDeadline

/-- Where such a request is accepted it has left a tombstone. -/
theorem RotationServed.closed {answer : GuardianRotationResponseV3}
    (h : RotationServed crypto vault node call entry request (some answer) entry')
    (hcloses : request.Closes plan) :
    plan.context.rotationId ∈ entry'.provision.epochStore.rotationTombstones := by
  have hlaid {tombstone : RotationTombstone} {table : Std.TreeMap Id32 RotationTombstone} :
      plan.context.rotationId ∈ table.insert plan.context.rotationId tombstone := by simp
  rcases hcloses with (⟨certificate, rfl⟩ | ⟨certificate, rfl⟩) | ⟨capsule, drainDeadline, rfl⟩
  · cases h with
    | worked hworks => exact hworks.elim
    | ended hends _ _ hstore =>
      obtain ⟨-, -, rfl⟩ := GuardianEpochStore.abortPrepared_eq_ok.mp hstore
      rcases hends with ⟨_, heq⟩ | ⟨_, heq⟩ <;> cases heq
      exact hlaid
  · cases h with
    | worked hworks => exact hworks.elim
    | ended hends _ _ hstore =>
      obtain ⟨-, -, rfl⟩ := GuardianEpochStore.abortPrepared_eq_ok.mp hstore
      rcases hends with ⟨_, heq⟩ | ⟨_, heq⟩ <;> cases heq
      exact hlaid
  · cases h with
    | worked hworks => exact hworks.elim
    | ended hends => rcases hends with ⟨_, heq⟩ | ⟨_, heq⟩ <;> cases heq
    | @activated _ _ _ _ _ _ store _ hstore =>
      obtain ⟨tombstone, -, hinsert⟩ := (activateStore_eq_ok hstore).tombstones
      change plan.context.rotationId ∈ store.rotationTombstones
      rw [hinsert]
      exact hlaid

end MasterRecovery
