import MasterRecovery.ExpiredSlot

/-!
# The guardian's capsule and its store

An entry names its predecessor twice, by the capsule it keeps and in the epoch store. Both move on
when a guardian takes up its prepared record. One that leaves moves its capsule on alone.
-/

namespace MasterRecovery
open Checks Transcript Wire Act

variable {crypto : Crypto} {vault : Vault} {node : GuardianNode} {call : GuardianCall}
  {entry entry' : GuardianRotationEntryV3} {provision : GuardianRotationProvisionV3}
  {inputs : List GuardianInput} {x : GuardianExchange} {plan : RotationPlan}

/-! ### In step -/

/-- The checks of `guardian_rotation_provision`. -/
structure ProvisionAccepted (crypto : Crypto) (provision : GuardianRotationProvisionV3) : Prop where
  capsule : validateActivatedCapsuleV3 crypto provision.recoveryCard
    provision.predecessorCapsule = .ok ()
  signingKey : provision.signingPublicKey = crypto.verifyingKeyBytes provision.signingSeed
  config : provision.epochStore.configId = provision.predecessorCapsule.configRef.configId
  predecessor : provision.epochStore.expectedPredecessor = provision.predecessorCapsule.configRef
  predecessorHash : provision.epochStore.expectedPredecessorCapsuleHash =
    provision.predecessorCapsule.capsuleHash

/-- The store expects a successor of the capsule. -/
structure InStep (provision : GuardianRotationProvisionV3) : Prop where
  predecessor : provision.epochStore.expectedPredecessor = provision.predecessorCapsule.configRef
  predecessorHash : provision.epochStore.expectedPredecessorCapsuleHash =
    provision.predecessorCapsule.capsuleHash

theorem GuardianProvisioned.accepted (h : GuardianProvisioned crypto provision) :
    ProvisionAccepted crypto provision := by
  have hstore : provision.epochStore.configId = provision.predecessorCapsule.configRef.configId ∧
      provision.epochStore.expectedPredecessor = provision.predecessorCapsule.configRef ∧
      provision.epochStore.expectedPredecessorCapsuleHash =
        provision.predecessorCapsule.capsuleHash := by
    rcases h.store with hnew | ⟨record, hrecord, hnew⟩
    · rw [hnew]
      exact ⟨rfl, rfl, rfl⟩
    · rw [hnew, ← hrecord]
      exact ⟨rfl, rfl, rfl⟩
  exact ⟨h.capsule, h.signingKey, hstore.1, hstore.2.1, hstore.2.2⟩

/-- An active record has its capsule's hash, and recoveries begin on an active record only. -/
structure Whole (entry : GuardianRotationEntryV3) : Prop where
  hash : ¬entry.provision.epochStore.Torn
  idle : entry.provision.epochStore.active = none → entry.recoveries.isEmpty = true

/-- An accepted Activate of a plan whose new roster is without this guardian. -/
def GuardianExchange.Removes (x : GuardianExchange) : Prop :=
  match x.request, x.response with
  | .rotation (.activate plan _ _), some _ => ¬(guardianRoute x.entry plan true).isOk
  | _, _ => False

/-! ### A plan over the capsule -/

/-- The record of a plan over the capsule is one the store expects. -/
theorem InStep.preparable (h : InStep entry.provision) {now : UInt64} {planHash root commitment : Id32}
    (hvalid : PlanValid crypto plan entry.provision.predecessorCapsule now planHash)
    {sessionHash : Id32} {route : GuardianRouteV3} {staged : StagedGuardianMaterialV3}
    {proof : MerkleProofBytes} {record : GuardianRecordV3 × DpssSessionJournal}
    (hstaged : staged.recordDraft.policy.predecessorCapsuleHash =
      entry.provision.predecessorCapsule.capsuleHash)
    (hrecord : preparedRecord crypto vault node call plan sessionHash route staged root proof
      commitment = .ok record)
    (hlive : plan.context.rotationId ∉ entry.provision.epochStore.rotationTombstones)
    (hfree : entry.provision.epochStore.prepared = none) :
    ∃ prepared, entry.provision.epochStore.prepareSuccessor plan.context.rotationId sessionHash
      record.1 record.2 = .ok prepared := by
  simp only [preparedRecord, Checks.bind_eq_ok, bailIf_eq_ok, exists_const, not_or, not_not,
    ne_eq] at hrecord
  obtain ⟨_, -, _, -, -, _, -, ⟨-, -, -, hsuccessor, -⟩, _, -, -, _, -, _, -, hrecord⟩ := hrecord
  cases hrecord
  have hdirect : staged.recordDraft.policy.configRef.IsDirectSuccessorOf
      entry.provision.epochStore.expectedPredecessor := by
    rw [hsuccessor, h.predecessor, ← hvalid.predecessorRef]
    exact hvalid.direct
  simp [GuardianEpochStore.prepareSuccessor, bailIf, hlive, hfree, hdirect, hstaged,
    h.predecessorHash, Checks.bind_eq_ok]

/-- The store takes up a record that is bound, unless it is torn or a candidate has recoveries. -/
theorem GuardianEpochStore.activateSuccessor_of_binds {store : GuardianEpochStore}
    {prepared : PreparedGuardianEpoch} {rotationId planHash activationQcHash : Id32}
    {qc : EpochActivationQc} {drainDeadline : UInt64} {pendingOldRequests : Finset Id32}
    (hfound : store.prepared = some prepared)
    (hbinds : store.ActivationBinds prepared rotationId planHash qc) (hwhole : ¬store.Torn)
    (hidle : store.active = none → pendingOldRequests = ∅) :
    ∃ store', activateSuccessor rotationId planHash qc activationQcHash drainDeadline
      pendingOldRequests store = .ok () store' := by
  simp only [activateSuccessor, hfound, if_neg (activationBinds_iff.mp hbinds)]
  cases hactive : store.active with
  | none => simp [hidle hactive]
  | some old =>
    cases hhash : store.activeCapsuleHash with
    | none => exact absurd ⟨by simp [hactive], hhash⟩ hwhole
    | some oldCapsuleHash => simp

/-- A certificate of the plan's own context. -/
def CertifiedFor (capsule : ConfigCapsuleV3) (plan : RotationPlan) : Prop :=
  ∀ certificate, capsule.activationCertificate = some certificate → certificate.context = plan.context

theorem pendingOldRecoveryIds_eq_empty (h : entry.recoveries.isEmpty = true) :
    pendingOldRecoveryIds entry = ∅ := by
  have hvalues : entry.recoveries.values = [] :=
    (Std.TreeMap.Equiv.values_eq (Std.TreeMap.equiv_empty_iff_isEmpty.mpr h)).trans rfl
  simp [pendingOldRecoveryIds, hvalues]

/-- The capsule of a plan over the capsule activates its prepared record. -/
theorem InStep.activatable (h : InStep entry.provision) (hwhole : Whole entry) {now : UInt64}
    {planHash : Id32}
    (hvalid : PlanValid crypto plan entry.provision.predecessorCapsule now planHash)
    {capsule : ConfigCapsuleV3} {qc : EpochActivationQc × Id32 × Id32} {drainDeadline : UInt64}
    (hchecks : activationChecks crypto entry plan capsule = .ok qc)
    (hcertified : CertifiedFor capsule plan) (hroute : (guardianRoute entry plan true).isOk)
    {prepared : PreparedGuardianEpoch}
    (hfound : entry.provision.epochStore.prepared = some prepared)
    (hrotation : prepared.rotationId = plan.context.rotationId)
    (hplan : prepared.planHash = planHash) :
    ∃ store, activateStore entry plan qc drainDeadline entry.provision.epochStore = .ok () store := by
  have hchecked := activationChecks_eq_ok hchecks
  obtain ⟨_, hfound', hbinds⟩ := hchecked.prepared hroute
  cases hfound.symm.trans hfound'
  obtain ⟨-, -, hbranch⟩ := validateActivatedCapsuleV3_eq_ok.mp hchecked.validated
  rcases hbranch with ⟨-, -, -, hnone⟩ | ⟨-, certificate, _, found, hcertificate, hqc, -, hqcAccepted⟩
  · cases hnone.symm.trans hchecked.found
  cases hqc.symm.trans hchecked.found
  have hbinding : entry.provision.epochStore.ActivationBinds prepared plan.context.rotationId
      qc.2.2 qc.1 :=
    { rotation := hrotation
      plan := hplan.trans (hvalid.hash.functional hchecked.hash)
      qcRotation := hchecked.rotation
      predecessorEpoch := by
        rw [hqcAccepted.predecessorEpoch, hcertified certificate hcertificate, hvalid.configRef,
          h.predecessor]
      predecessorHash := by
        rw [hqcAccepted.predecessor, hchecked.predecessorHash, h.predecessorHash]
      successorEpoch := by rw [hqcAccepted.successorEpoch, hbinds.1] }
  simp only [activateStore, hroute, if_true]
  exact GuardianEpochStore.activateSuccessor_of_binds hfound hbinding hwhole.hash fun hactive =>
    pendingOldRecoveryIds_eq_empty (hwhole.idle hactive)

/-! ### What a request leaves -/

/-- The capsule and the predecessor are kept, and unless the store is torn its active record. -/
structure StandsAs (entry entry' : GuardianRotationEntryV3) : Prop where
  capsule : entry'.provision.predecessorCapsule = entry.provision.predecessorCapsule
  predecessor : entry'.provision.epochStore.expectedPredecessor =
    entry.provision.epochStore.expectedPredecessor
  predecessorHash : entry'.provision.epochStore.expectedPredecessorCapsuleHash =
    entry.provision.epochStore.expectedPredecessorCapsuleHash
  active : ¬entry.provision.epochStore.Torn →
    entry'.provision.epochStore.active = entry.provision.epochStore.active ∧
      entry'.provision.epochStore.activeCapsuleHash = entry.provision.epochStore.activeCapsuleHash

theorem StandsAs.of_provision (h : entry'.provision = entry.provision) : StandsAs entry entry' := by
  constructor <;> simp [h]

theorem StandsAs.inStep (h : StandsAs entry entry') (hstep : InStep entry.provision) :
    InStep entry'.provision := by
  constructor
  · rw [h.predecessor, h.capsule, hstep.predecessor]
  · rw [h.predecessorHash, h.capsule, hstep.predecessorHash]

theorem StandsAs.whole (h : StandsAs entry entry') (hwhole : Whole entry)
    (hrecoveries : entry.provision.epochStore.active = none → entry.recoveries.isEmpty = true →
      entry'.recoveries.isEmpty = true) : Whole entry' := by
  obtain ⟨hactive, hhash⟩ := h.active hwhole.hash
  constructor
  · rw [GuardianEpochStore.Torn, hactive, hhash]
    exact hwhole.hash
  · intro hnone
    rw [hactive] at hnone
    exact hrecoveries hnone (hwhole.idle hnone)

/-- An activation that has passed: the request, the answer and the store it leaves. -/
structure PassedActivation (crypto : Crypto) (entry : GuardianRotationEntryV3)
    (request : GuardianRotationRequestV3) (response : Option GuardianRotationResponseV3)
    (entry' : GuardianRotationEntryV3) (plan : RotationPlan) (capsule : ConfigCapsuleV3)
    (drainDeadline : UInt64) (qc : EpochActivationQc × Id32 × Id32) : Prop where
  request : request = .activate plan capsule drainDeadline
  response : response = some (.activated plan.successor.guardianEpoch)
  checked : ActivationChecked crypto entry plan capsule qc
  store : activateStore entry plan qc drainDeadline entry.provision.epochStore =
    .ok () entry'.provision.epochStore
  capsule : entry'.provision.predecessorCapsule = capsule

/-- A rotation request keeps the predecessor, or is an activation. -/
theorem RotationServed.stands {request : GuardianRotationRequestV3}
    {response : Option GuardianRotationResponseV3}
    (h : RotationServed crypto vault node call entry request response entry') :
    StandsAs entry entry' ∨ ∃ plan capsule drainDeadline qc,
      PassedActivation crypto entry request response entry' plan capsule drainDeadline qc := by
  cases h with
  | refused => exact Or.inl (.of_provision rfl)
  | begun => exact Or.inl (.of_provision rfl)
  | begunBefore => exact Or.inl (.of_provision rfl)
  | worked _ _ hworked => cases hworked <;> exact Or.inl (.of_provision rfl)
  | moved hmoved => exact Or.inl (.of_provision hmoved.provision)
  | preparedLate hprepared =>
    obtain ⟨-, hstore⟩ := GuardianEpochStore.prepareSuccessor_eq_ok hprepared.store
    simp only [hstore]
    exact Or.inl ⟨rfl, rfl, rfl, fun _ => ⟨rfl, rfl⟩⟩
  | prepared hprepared =>
    obtain ⟨-, hstore⟩ := GuardianEpochStore.prepareSuccessor_eq_ok hprepared.store
    simp only [hstore]
    exact Or.inl ⟨rfl, rfl, rfl, fun _ => ⟨rfl, rfl⟩⟩
  | ended _ _ hmoved hstore =>
    obtain ⟨-, -, rfl⟩ := GuardianEpochStore.abortPrepared_eq_ok.mp hstore
    refine Or.inl ⟨?_, rfl, rfl, fun _ => ⟨rfl, rfl⟩⟩
    exact congrArg (·.predecessorCapsule) hmoved.provision
  | activationFailed _ hstore =>
    rcases activateStore_eq_error hstore with rfl | ⟨htorn, _, rfl⟩
    · exact Or.inl (.of_provision rfl)
    · exact Or.inl ⟨rfl, rfl, rfl, fun hwhole => absurd htorn hwhole⟩
  | activated hactivating hstore =>
    exact Or.inr ⟨_, _, _, _, rfl, rfl, activationChecks_eq_ok hactivating.checks, hstore, rfl⟩
  | retired _ hstore =>
    obtain ⟨draining, -, -, -, rfl⟩ := GuardianEpochStore.retireEpoch_eq_ok hstore
    exact Or.inl ⟨rfl, rfl, rfl, fun _ => ⟨rfl, rfl⟩⟩

theorem RotationsKept.stands (h : RotationsKept entry entry') : StandsAs entry entry' := by
  obtain ⟨draining, cancelled, hprovision⟩ := h.provision
  constructor <;> simp [hprovision]

/-- A guardian that takes up its record takes its predecessor from the capsule. -/
theorem PassedActivation.taken {request : GuardianRotationRequestV3}
    {response : Option GuardianRotationResponseV3} {capsule : ConfigCapsuleV3}
    {drainDeadline : UInt64} {qc : EpochActivationQc × Id32 × Id32}
    (h : PassedActivation crypto entry request response entry' plan capsule drainDeadline qc)
    (hroute : (guardianRoute entry plan true).isOk) :
    InStep entry'.provision ∧ entry'.provision.epochStore.active.isSome = true ∧
      ¬entry'.provision.epochStore.Torn := by
  obtain ⟨prepared, hfound, hbinds, -⟩ := h.checked.prepared hroute
  obtain ⟨-, -, hbranch⟩ := validateActivatedCapsuleV3_eq_ok.mp h.checked.validated
  rcases hbranch with ⟨-, -, -, hnone⟩ | ⟨-, certificate, _, found, -, hqc, -, hqcAccepted⟩
  · cases hnone.symm.trans h.checked.found
  cases hqc.symm.trans h.checked.found
  have hstore := h.store
  simp only [activateStore, hroute, if_true] at hstore
  obtain ⟨prepared', drained, hfound', -, -, heq⟩ :=
    GuardianEpochStore.activateSuccessor_eq_ok hstore
  cases hfound.symm.trans hfound'
  refine ⟨⟨?_, ?_⟩, by rw [heq]; rfl, fun htorn => ?_⟩
  · rw [heq, h.capsule]
    exact hbinds
  · rw [heq, h.capsule]
    exact hqcAccepted.successor
  · rw [heq] at htorn
    exact Option.some_ne_none _ htorn.2

/-! ### Runs -/

/-- Where no request has removed the guardian its entry is in step, and whole if it ever was. -/
def StoreLedger (provision : GuardianRotationProvisionV3) (entry : GuardianRotationEntryV3)
    (log : List GuardianExchange) : Prop :=
  (∀ x ∈ log, ¬x.Removes) →
    InStep entry.provision ∧ (¬provision.epochStore.Torn → Whole entry)

theorem RecoveryServed.isEmpty {request : GuardianRecoveryRequestV3}
    {response : Option GuardianRecoveryResponseV3}
    (h : RecoveryServed crypto node call entry request response entry')
    (hnone : entry.provision.epochStore.active = none) (hempty : entry.recoveries.isEmpty = true) :
    entry'.recoveries.isEmpty = true := by
  have habsent (requestId : Id32) : entry.recoveries[requestId]? = none :=
    Std.TreeMap.getElem?_eq_none (Std.TreeMap.isEmpty_iff_forall_not_mem.mp hempty requestId)
  have hcancelled (request : RecoveryRequestV3) (digest : Id32) :
      (cancelledEntry request digest entry).recoveries.isEmpty = true := by
    simpa [cancelledEntry, habsent, GuardianRotationEntryV3.withStore] using hempty
  cases h with
  | refused => exact hempty
  | begun hchecks =>
    simp [recoveryBeginChecks, hnone, Checks.bind_eq_ok] at hchecks
  | begunBefore hfound => cases (habsent _).symm.trans hfound
  | cancelledLate => exact hcancelled _ _
  | cancelled => exact hcancelled _ _
  | released hchecks =>
    simp [recoveryReleaseChecks, habsent, Checks.bind_eq_ok] at hchecks

theorem GuardianServed.storeLedger {request : GuardianRequest} {response : Option GuardianResponse}
    (h : GuardianServed crypto vault node call entry request response entry')
    (hstays : ¬GuardianExchange.Removes ⟨entry, call, request, response⟩)
    (hstep : InStep entry.provision) :
    InStep entry'.provision ∧ (Whole entry → Whole entry') := by
  cases h with
  | recovery h =>
    have hstands := h.rotationsKept.stands
    exact ⟨hstands.inStep hstep, fun hwhole => hstands.whole hwhole h.isEmpty⟩
  | @rotation request response _ h =>
    rcases h.stands with hstands | ⟨plan, capsule, drainDeadline, qc, hactivation⟩
    · exact ⟨hstands.inStep hstep, fun hwhole => hstands.whole hwhole fun _ hempty =>
        h.recoveriesKept.recoveries ▸ hempty⟩
    · have hroute : (guardianRoute entry plan true).isOk := by
        by_contra hroute
        refine hstays ?_
        simp only [GuardianExchange.Removes, hactivation.request, hactivation.response]
        exact hroute
      obtain ⟨hnext, hactive, hwhole⟩ := hactivation.taken hroute
      exact ⟨hnext, fun _ => ⟨hwhole, fun hnone => by simp [hnone] at hactive⟩⟩

theorem storeLedger_invariant :
    GuardianInvariant crypto vault node (StoreLedger provision) where
  served := by
    intro entry entry' log call request response hledger hserved hstays
    obtain ⟨hlog, hlast⟩ := List.forall_mem_append.mp hstays
    obtain ⟨hstep, hwhole⟩ := hledger hlog
    obtain ⟨hnext, hkept⟩ := hserved.storeLedger (hlast _ (List.mem_singleton_self _)) hstep
    exact ⟨hnext, fun hprovisioned => hkept (hwhole hprovisioned)⟩
  refused := by
    intro entry log exchange hledger _ hstays
    exact hledger (List.forall_mem_append.mp hstays).1

theorem storeLedger_provisioned (h : ProvisionAccepted crypto provision) :
    StoreLedger provision provision.entry [] :=
  fun _ => ⟨⟨h.predecessor, h.predecessorHash⟩, fun hwhole => ⟨hwhole, fun _ => rfl⟩⟩

/-! ### Plans over the capsule -/

/-- The store of an entry follows its capsule. A plan over the capsule can be prepared, and if the
store was provisioned whole it can be activated. -/
structure StoreFollows (crypto : Crypto) (vault : Vault) (node : GuardianNode)
    (provision : GuardianRotationProvisionV3) (entry : GuardianRotationEntryV3) : Prop where
  inStep : InStep entry.provision
  prepares : ∀ {call : GuardianCall} {plan : RotationPlan} {now : UInt64}
    {planHash root commitment : Id32} {proof : MerkleProofBytes} {route : GuardianRouteV3}
    {s : GuardianRotationSessionV3} {staged : StagedGuardianMaterialV3}
    {record : GuardianRecordV3 × DpssSessionJournal},
    validateRotationPlanV3 crypto plan entry.provision.predecessorCapsule now = .ok planHash →
    guardianRoute entry plan true = .ok route → openSession crypto entry plan = .ok s →
    s.stagedMaterial = some staged →
    staged.recordDraft.policy.predecessorCapsuleHash =
      entry.provision.predecessorCapsule.capsuleHash →
    preparedRecord crypto vault node call plan s.planHash route staged root proof commitment =
      .ok record →
    plan.context.rotationId ∉ entry.provision.epochStore.rotationTombstones →
    entry.provision.epochStore.prepared = none →
    ∃ prepared, GuardianPrepared crypto vault node call entry plan root proof commitment s staged
      record prepared
  activates : ¬provision.epochStore.Torn → ∀ {plan : RotationPlan} {now drainDeadline : UInt64}
    {planHash : Id32} {capsule : ConfigCapsuleV3} {qc : EpochActivationQc × Id32 × Id32}
    {prepared : PreparedGuardianEpoch},
    validateRotationPlanV3 crypto plan entry.provision.predecessorCapsule now = .ok planHash →
    (guardianRoute entry plan true).isOk → activationChecks crypto entry plan capsule = .ok qc →
    CertifiedFor capsule plan → entry.provision.epochStore.prepared = some prepared →
    prepared.rotationId = plan.context.rotationId → prepared.planHash = planHash →
    ∃ store, activateStore entry plan qc drainDeadline entry.provision.epochStore = .ok () store

/-- While no accepted Activate has removed the guardian, its store follows its capsule. -/
theorem store_follows_capsule (haccepted : ProvisionAccepted crypto provision)
    (hstays : ∀ x ∈ guardianLog crypto vault node provision inputs, ¬x.Removes) :
    StoreFollows crypto vault node provision
      (guardianRun crypto vault node provision inputs).data := by
  have hrun := @guardian_run crypto vault node _ provision inputs storeLedger_invariant
    (storeLedger_provisioned haccepted)
  obtain ⟨hstep, hwhole⟩ := hrun.data hstays
  refine ⟨hstep, ?_, ?_⟩
  · intro call plan now planHash root commitment proof route s staged record hvalid hroute hopen
      hmaterial hstaged hrecord hlive hfree
    obtain ⟨prepared, hstore⟩ :=
      hstep.preparable (validateRotationPlanV3_iff.mp hvalid) hstaged hrecord hlive hfree
    exact ⟨prepared, hopen, hmaterial, ⟨route, hroute, hrecord⟩, hstore⟩
  · intro hprovisioned plan now drainDeadline planHash capsule qc prepared hvalid hroute hchecks
      hcertified hfound hrotation hplan
    exact hstep.activatable (hwhole hprovisioned) (validateRotationPlanV3_iff.mp hvalid) hchecks
      hcertified hroute hfound hrotation hplan

/-- A guardian that has staged its material. -/
theorem store_follows_capsule_sample :
    StoreFollows Crypto.transparent sampleDpssVault sampleGuardianNode sampleGuardian
      (guardianRun Crypto.transparent sampleDpssVault sampleGuardianNode sampleGuardian
        sampleStaging).data := by
  refine store_follows_capsule sampleGuardian_provisioned.accepted fun x hx => ?_
  have hinput := exchange_requested hx
  obtain ⟨entry, call, request, response⟩ := x
  simp only [sampleStaging, guardianInput, List.mem_cons, List.not_mem_nil, or_false,
    GuardianInput.request.injEq] at hinput
  rcases hinput with ⟨-, rfl⟩ | ⟨-, rfl⟩ | ⟨-, rfl⟩ | ⟨-, rfl⟩ | ⟨-, rfl⟩ <;> exact id

/-- A guardian that has left keeps the new capsule, while its store still expects the successor
of the old one. -/
theorem removed_store_falls_behind :
    ¬∀ (crypto : Crypto) (vault : Vault) (node : GuardianNode)
      (provision : GuardianRotationProvisionV3) (inputs : List GuardianInput),
      ProvisionAccepted crypto provision →
      InStep (guardianRun crypto vault node provision inputs).data.provision := by
  intro hclaim
  obtain ⟨hstored, hcapsule⟩ :=
    Prod.mk.inj (Prod.mk.inj (Prod.mk.inj (Prod.mk.inj sampleCancelled_drains).2).2).2
  have hstep := hclaim Crypto.transparent (Vault.transparent [1] []) sampleLeaverNode sampleLeaver
    sampleCancelled sampleLeaver_provisioned.accepted
  unfold sampleLeaverRun at hstored hcapsule
  rw [hstep.predecessor, hcapsule] at hstored
  exact absurd hstored (by decide)

end MasterRecovery
