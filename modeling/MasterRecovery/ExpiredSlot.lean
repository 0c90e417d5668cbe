import MasterRecovery.DrainingEpochs

/-!
# The prepared slot of an expired rotation

A guardian prepares one successor at a time. Only requests that carry the prepared plan free its
slot, and a guardian handles no request whose context has expired.
-/

namespace MasterRecovery
open Checks Transcript Wire Act

variable {crypto : Crypto} {vault : Vault} {node : GuardianNode} {call : GuardianCall}
  {entry entry' : GuardianRotationEntryV3} {provision : GuardianRotationProvisionV3}
  {inputs later : List GuardianInput} {plan : RotationPlan} {prepared : PreparedGuardianEpoch}
  {now : UInt64}

/-- The slot holds the record of this plan, and the plan has expired. -/
structure PreparedExpired (crypto : Crypto) (entry : GuardianRotationEntryV3)
    (prepared : PreparedGuardianEpoch) (plan : RotationPlan) (now : UInt64) : Prop where
  found : entry.provision.epochStore.prepared = some prepared
  hash : HasHash crypto plan prepared.planHash
  expired : plan.context.expiry ≤ now

/-! ### The gate -/

theorem context_of_plan {request : GuardianRotationRequestV3} (h : request.plan = some plan) :
    request.context = plan.context := by
  cases request <;> cases h <;> rfl

/-- A request that does anything is of a rotation that has not expired. -/
theorem rotation_gated (request : GuardianRotationRequestV3) :
    Outcome (fun response entry' => response = none ∧ entry' = entry ∨
        call.wallNow < request.context.expiry ∧
          RotationServed crypto vault node call entry request response entry')
      (handleGuardianRotationV3 crypto vault node call request) entry := by
  simp only [handleGuardianRotationV3, outcome_get_bind]
  refine outcome_check_bind (Or.inl ⟨rfl, rfl⟩) fun _ hgate => ?_
  simp only [guardianContextGate, bailIf_eq_ok, not_or, UInt64.not_le] at hgate
  exact outcome_guardianDispatch.mono fun _ _ hserved => Or.inr ⟨hgate.2.2.2.1, hserved⟩

/-! ### The slot -/

/-- An activation of another plan than the prepared one refuses and leaves the store alone. -/
theorem activateStore_other {qc : EpochActivationQc × Id32 × Id32} {drainDeadline : UInt64}
    {store : GuardianEpochStore} (hfound : store.prepared = some prepared)
    (hother : prepared.planHash ≠ qc.2.2) (entry : GuardianRotationEntryV3) (plan : RotationPlan) :
    ∃ e, activateStore entry plan qc drainDeadline store = .error e store := by
  unfold activateStore
  split
  · exact ⟨.invalidEpoch, by simp [GuardianEpochStore.activateSuccessor, hfound, hother]⟩
  · cases hactive : store.active with
    | none => exact ⟨.conflict, by simp [GuardianEpochStore.observeReplacementActivation, hactive]⟩
    | some old =>
      exact ⟨.conflict, by simp [GuardianEpochStore.observeReplacementActivation, hactive, hfound]⟩

/-- A request of another plan neither frees a taken slot nor prepares a record. -/
theorem RotationServed.slot {request : GuardianRotationRequestV3}
    {response : Option GuardianRotationResponseV3}
    (h : RotationServed crypto vault node call entry request response entry')
    (hfound : entry.provision.epochStore.prepared = some prepared)
    (hother : ∀ plan planHash, request.plan = some plan → HasHash crypto plan planHash →
      prepared.planHash ≠ planHash) :
    entry'.provision.epochStore.prepared = some prepared ∧ ∀ plan root proof commitment,
      request = .prepareCommit plan root proof commitment → response = none := by
  cases h with
  | refused => exact ⟨hfound, fun _ _ _ _ _ => rfl⟩
  | begun => exact ⟨hfound, by simp⟩
  | begunBefore => exact ⟨hfound, by simp⟩
  | worked hworks _ hworked =>
    refine ⟨by cases hworked <;> exact hfound, fun _ _ _ _ hrequest => ?_⟩
    cases hrequest
    exact hworks.elim
  | moved hmoved => exact ⟨hmoved.provision ▸ hfound, fun _ _ _ _ _ => rfl⟩
  | preparedLate hprepared =>
    obtain ⟨hpreparable, -⟩ := GuardianEpochStore.prepareSuccessor_eq_ok hprepared.store
    cases hfound.symm.trans hpreparable.free
  | prepared hprepared =>
    obtain ⟨hpreparable, -⟩ := GuardianEpochStore.prepareSuccessor_eq_ok hprepared.store
    cases hfound.symm.trans hpreparable.free
  | @ended _ plan _ _ _ _ hends hhash _ hstore =>
    obtain ⟨-, hfree, -⟩ := GuardianEpochStore.abortPrepared_eq_ok.mp hstore
    have hplan : request.plan = some plan := by
      rcases hends with ⟨_, rfl⟩ | ⟨_, rfl⟩ <;> rfl
    exact absurd (hfree _ hfound).2 (hother _ _ hplan hhash)
  | activationFailed hactivating hstore =>
    obtain ⟨e, hsame⟩ := activateStore_other hfound
      (hother _ _ rfl (activationChecks_eq_ok hactivating.checks).hash) _ _
    cases hstore.symm.trans hsame
    exact ⟨hfound, fun _ _ _ _ _ => rfl⟩
  | activated hactivating hstore =>
    obtain ⟨e, hrefused⟩ := activateStore_other hfound
      (hother _ _ rfl (activationChecks_eq_ok hactivating.checks).hash) _ _
    cases hstore.symm.trans hrefused
  | retired _ hstore =>
    obtain ⟨draining, -, -, -, rfl⟩ := GuardianEpochStore.retireEpoch_eq_ok hstore
    exact ⟨hfound, by simp⟩

/-! ### Runs -/

/-- A request, not before this time. -/
def GuardianInput.After (now : UInt64) : GuardianInput → Prop
  | .request call _ => now ≤ call.wallNow
  | _ => False

/-- A rotation request that carries this plan. -/
def GuardianInput.CarriesPlan (plan : RotationPlan) : GuardianInput → Prop
  | .request _ (.rotation asked) => asked.plan = some plan
  | _ => False

def guardianPlans (inputs : List GuardianInput) : Set RotationPlan :=
  {plan | ∃ input ∈ inputs, input.CarriesPlan plan}

/-- The request asks to prepare a successor. -/
def GuardianExchange.Prepares (x : GuardianExchange) : Prop :=
  ∃ plan root proof commitment, x.request = .rotation (.prepareCommit plan root proof commitment)

/-- A request at or after the expiry, whatever its plan. -/
theorem PreparedExpired.handled (h : PreparedExpired crypto entry prepared plan now)
    (hnow : now ≤ call.wallNow) {plans : Set RotationPlan}
    (hfree : crypto.CollisionFree (planTranscripts plans)) (hplan : plan ∈ plans)
    {request : GuardianRequest} (hcarried : ∀ other,
      GuardianInput.CarriesPlan other (.request call request) → other ∈ plans) :
    Outcome (fun response entry' => PreparedExpired crypto entry' prepared plan now ∧
        (GuardianExchange.Prepares ⟨entry, call, request, response⟩ → response = none))
      (handleGuardian crypto vault node call request) entry := by
  cases request with
  | recovery request =>
    refine outcome_map ((recovery_served request).mono fun response entry' hserved => ⟨?_, ?_⟩)
    · obtain ⟨draining, cancelled, hprovision⟩ := hserved.rotationsKept.provision
      refine ⟨?_, h.hash, h.expired⟩
      rw [hprovision]
      exact h.found
    · rintro ⟨_, _, _, _, hrequest⟩
      cases hrequest
  | rotation request =>
    refine outcome_map ((rotation_gated request).mono fun response entry' hserved => ?_)
    rcases hserved with ⟨hnone, rfl⟩ | ⟨hlive, hrotation⟩
    · exact ⟨h, fun _ => by simp [hnone]⟩
    · have hother (other : RotationPlan) (planHash : Id32) (hrequest : request.plan = some other)
          (hhash : HasHash crypto other planHash) : prepared.planHash ≠ planHash := by
        rintro rfl
        cases HasHash.unique hfree hplan (hcarried other hrequest) h.hash hhash
        rw [context_of_plan hrequest] at hlive
        exact UInt64.not_lt.mpr (UInt64.le_trans h.expired hnow) hlive
      obtain ⟨hslot, hprepares⟩ := hrotation.slot h.found hother
      refine ⟨⟨hslot, h.hash, h.expired⟩, ?_⟩
      rintro ⟨_, _, _, _, hrequest⟩
      cases hrequest
      simp [hprepares _ _ _ _ rfl]

/-- The slot of an expired rotation is held after any further requests, and none of them
prepares a successor. -/
theorem expired_slot_held
    (hplans : crypto.CollisionFree (planTranscripts (insert plan (guardianPlans later))))
    (hheld : PreparedExpired crypto (guardianRun crypto vault node provision inputs).data prepared
      plan now) (hlater : ∀ input ∈ later, input.After now) :
    (guardianRun crypto vault node provision (inputs ++ later)).data.provision.epochStore.prepared =
        some prepared ∧
      ∀ x ∈ (guardianMachine crypto vault node).outputs
          (guardianRun crypto vault node provision inputs) later, x.Prepares → x.response = none := by
  have hrun := @Machine.run_invariant _ _ _ (guardianMachine crypto vault node)
    (fun _ _ input => input ∈ later ∧ input.After now)
    (fun stored log => PreparedExpired crypto stored.data prepared plan now ∧
      ∀ x ∈ log, x.Prepares → x.response = none)
    (guardianRun crypto vault node provision inputs) later ⟨hheld, by simp⟩ ?_
    (Machine.along_of_forall _ (fun input hmem => ⟨hmem, hlater input hmem⟩) _ _)
  · rw [guardianRun, Machine.run_append]
    exact ⟨hrun.1.found, hrun.2⟩
  · rintro stored log input ⟨hdata, hlog⟩ ⟨hmem, hafter⟩
    cases input with
    | restart => exact hafter.elim
    | flush => exact hafter.elim
    | request call request =>
      have hhandled : Outcome (fun response entry' => PreparedExpired crypto entry' prepared plan now ∧
          (GuardianExchange.Prepares ⟨stored.data, call, request, response⟩ → response = none))
          (handleGuardian crypto vault node call request) stored.data :=
        hdata.handled hafter hplans (Set.mem_insert plan _) fun other hcarries =>
          Set.mem_insert_of_mem _ ⟨_, hmem, hcarries⟩
      cases hrun : handleGuardian crypto vault node call request stored.data with
      | ok response entry' =>
        obtain ⟨hkept, hnone⟩ := hhandled.ok hrun
        simp only [guardianMachine, guardianServe, hrun]
        exact ⟨hkept, forall_exchange hlog hnone⟩
      | error e entry' =>
        simp only [guardianMachine, guardianServe, hrun]
        exact ⟨(hhandled.error hrun).1, forall_exchange hlog fun _ => rfl⟩

/-! ### A guardian that stays

The first guardian of the small deployment takes part in the rotation up to its prepared
record. -/

def sampleReleaseVote (signerId : UInt16) : SignerRotationReleaseVote :=
  let unsigned : SignerRotationReleaseVote := {
    context := samplePlan70.context
    planHash := samplePlanHash70
    beginCertificateHash := sampleBeginHash
    signerId := signerId
    signerPublicKey := Crypto.transparent.verifyingKeyBytes (sampleSignerSeed signerId)
    signerMembershipProof := sampleMembershipProof
    signerSignature := [] }
  { unsigned with
    signerSignature := signOf (sampleSignerSeed signerId) (signerRotationReleaseVote unsigned) }

def sampleReleaseCertificate : RotationReleaseCertificate where
  context := samplePlan70.context
  planHash := samplePlanHash70
  beginCertificateHash := sampleBeginHash
  votes := [1, 2].map sampleReleaseVote

def sampleReleaseHash : Id32 := 1979501677

/-- Sealed to the recipient of the deployment. -/
def sampleSealed (context : Put) (plaintext : Bytes) : SealedMessage :=
  ⟨[1], 0, envelopeMark [1] (context.toOption.getD []) ++ plaintext⟩

def sampleUnlock : OldShareUnlockGrant :=
  let bare : OldShareUnlockGrant := {
    context := samplePlan70.context
    planHash := samplePlanHash70
    releaseCertificateHash := sampleReleaseHash
    oldGuardianIndex := 1
    encryptedUnwrapKey := ⟨[], 0, []⟩
    encryptedFragmentKey := ⟨[], 0, []⟩ }
  { bare with
    encryptedUnwrapKey := sampleSealed (oldShareUnlockGrantPayloadContext bare false) sampleShareKey
    encryptedFragmentKey :=
      sampleSealed (oldShareUnlockGrantPayloadContext bare true) sampleFragmentKey }

def sampleWrap : NewShareWrapGrant :=
  let bare : NewShareWrapGrant := {
    context := samplePlan70.context
    planHash := samplePlanHash70
    releaseCertificateHash := sampleReleaseHash
    newGuardianIndex := 1
    encryptedWrapKey := ⟨[], 0, []⟩
    encryptedFragmentKey := ⟨[], 0, []⟩ }
  { bare with
    encryptedWrapKey := sampleSealed (newShareWrapGrantPayloadContext bare false) sampleShareKey
    encryptedFragmentKey :=
      sampleSealed (newShareWrapGrantPayloadContext bare true) sampleFragmentKey }

/-- A message of another guardian to the first. -/
def sampleMessage (phase : DpssPhase) (sequence : UInt64) (sender : UInt16) :
    DpssProtocolMessage :=
  let unsigned : DpssProtocolMessage := {
    context := samplePlan70.context
    planHash := samplePlanHash70
    dpssSuite := samplePlan70.dpssSuite
    dpssSessionId := samplePlan70.dpssSessionId
    qualifiedSetCommitment := samplePlan70.dpssQualifiedSetCommitment
    phase := phase
    senderIndex := sender
    recipientIndex := 1
    sequence := sequence
    providerPayload := beBytes 2 sender.toNat
    senderSignature := [] }
  { unsigned with
    senderSignature := signOf (sampleGuardianSeed sender) (dpssProtocolMessage unsigned) }

def sampleRound1 : List DpssProtocolMessage := [2, 4].map (sampleMessage .refreshRound1 1)
def sampleRound2 : List DpssProtocolMessage := [2, 4].map (sampleMessage .refreshRound2 2)

def sampleDelivery (message : DpssProtocolMessage) : SealedMessage :=
  sampleSealed (mailboxTransportContext (sampleRoute 2 1).mailbox "dpss-direct")
    (packFields [message.providerPayload, message.senderSignature])

/-- The public package of the guardians 1 to 3 and the repaired 4; 1, 2 and 4 are refreshed. -/
def sampleOldPublic : Bytes :=
  packFields [[8], beBytes 2 2, beBytes 2 1, beBytes 2 2, beBytes 2 3, beBytes 2 4]

def sampleDpssResult : Id32 := 791024526

def sampleStagedPolicy : GuardianPolicyV3 :=
  { policyOf sampleGenesis .prepared with
    configRef := samplePlan70.successor
    dpssPublicCommitment := sampleDpssResult
    predecessorCapsuleHash := sampleGenesis.capsuleHash }

/-- The fragment's leaf and two more, under the root of the genesis capsule. -/
def sampleFragmentProof : MerkleProofBytes := idBytes 717204091 ++ idBytes 0 ++ idBytes 199247842

/-- The leaf of the staged record and two more, under the material root 985531598. -/
def sampleMaterialProof : MerkleProofBytes := idBytes 860317953 ++ idBytes 2 ++ idBytes 4

/-- The rotation up to the staged material. -/
def sampleStaging : List GuardianInput :=
  [guardianInput 16 0 (.rotation (.begin samplePlan70
      (sampleBeginCertificate samplePlan70 samplePlanHash70))),
    guardianInput 20 10 (.rotation (.refreshRound1 samplePlan70
      (some (sampleBeginCertificate samplePlan70 samplePlanHash70)) (some sampleReleaseCertificate)
      (some sampleUnlock))),
    guardianInput 21 11 (.rotation (.refreshRound2 samplePlan70 (sampleRound1.map sampleDelivery))),
    guardianInput 22 12 (.rotation (.refreshFinalize samplePlan70
      (sampleRound2.map sampleDelivery) sampleOldPublic)),
    guardianInput 23 13 (.rotation (.stageMaterial samplePlan70 sampleWrap 1 [61]
      sampleFragmentProof sampleStagedPolicy (sampleRoute 2 1).opaqueSlotId))]

def samplePrepareCommit : GuardianRotationRequestV3 :=
  .prepareCommit samplePlan70 985531598 sampleMaterialProof sampleDpssResult

/-- The successor record is prepared, and nothing more happens. -/
def samplePreparing : List GuardianInput :=
  sampleStaging ++ [guardianInput 24 14 (.rotation samplePrepareCommit)]

def sampleDpssVault : Vault := Vault.transparent [1] (sampleRound1 ++ sampleRound2)

/-! ### The run up to its dealt refresh -/

def sampleServe (call : GuardianCall) (request : GuardianRequest) :
    Act GuardianRotationEntryV3 GuardianResponse :=
  handleGuardian Crypto.transparent sampleDpssVault sampleGuardianNode call request

/-- The guardian with the rotation begun. -/
def sampleBegun : GuardianRotationEntryV3 := sampleGuardian.entry.putSession 70 (sampleSession 0)

theorem sampleBegun_served : sampleServe (sampleCall 16 0)
    (.rotation (.begin samplePlan70 (sampleBeginCertificate samplePlan70 samplePlanHash70)))
    sampleGuardian.entry = .ok (.rotation (.beginAccepted (saturatingAdd 0 10))) sampleBegun :=
  sampleBegin_served rfl (Or.inl rfl) rfl rfl (by simp [sampleGuardian, GuardianEpochStore.new,
    GuardianRotationProvisionV3.entry]) (by simp [GuardianRotationProvisionV3.entry])

/-- The first round of a refresh, past its checks. -/
theorem handle_refreshRound1_of_share {begun : Option BeginRotationCertificate}
    {release : Option RotationReleaseCertificate} {grant : Option OldShareUnlockGrant}
    {newRoute : GuardianRouteV3} {share : Bytes}
    (hgate : guardianContextGate entry plan.context call.wallNow = .ok ())
    (hroute : guardianRoute entry plan true = .ok newRoute)
    (hshare : refreshShare crypto vault node call entry plan begun release grant
      newRoute.guardianIndex = .ok share) :
    handleGuardian crypto vault node call (.rotation (.refreshRound1 plan begun release grant))
      entry = (GuardianResponse.rotation <$> sessionMut crypto plan (dealRefresh crypto vault node
        call plan entry.provision.signingSeed newRoute share)) entry := by
  refine map_congr (Eq.trans (handle_of_gate hgate) ?_)
  simp only [guardianDispatch, refreshRound1, Act.get_bind, hroute, hshare, check_ok_bind]

/-- The first round of the guardian, past its checks. -/
def sampleDealing : Act GuardianRotationEntryV3 GuardianRotationResponseV3 :=
  sessionMut Crypto.transparent samplePlan70 (dealRefresh Crypto.transparent sampleDpssVault
    sampleGuardianNode (sampleCall 20 10) samplePlan70 sampleGuardian.signingSeed
    (sampleRoute 2 1) (sampleShare 1))

/-- The certificates unlock the share under the old record, and the round is dealt. -/
theorem sampleRefresh_checked :
    validateRotationReleaseCertificateV3 Crypto.transparent sampleReleaseCertificate
        (sampleBeginCertificate samplePlan70 samplePlanHash70) samplePlan70 sampleGenesis 20 =
      .ok sampleReleaseHash ∧
    (openOldMaterial Crypto.transparent sampleDpssVault sampleGuardianNode sampleBegun samplePlan70
      sampleUnlock sampleReleaseHash).map Prod.fst = .ok (sampleShare 1) ∧
    (sampleDealing.returned sampleBegun).isSome := by
  refine ⟨?_, by decide +kernel, by decide +kernel⟩
  unfold validateRotationReleaseCertificateV3
  rw [sampleBegin_checked.1]
  decide +kernel

theorem sampleBegun_share : refreshShare Crypto.transparent sampleDpssVault sampleGuardianNode
    (sampleCall 20 10) sampleBegun samplePlan70
    (some (sampleBeginCertificate samplePlan70 samplePlanHash70)) (some sampleReleaseCertificate)
    (some sampleUnlock) (sampleRoute 2 1).guardianIndex = .ok (sampleShare 1) := by
  obtain ⟨hrelease, hmaterial, -⟩ := sampleRefresh_checked
  obtain ⟨material, hopened, hfirst⟩ := map_eq_ok.mp hmaterial
  simp only [refreshShare, okOr, Checks.bind_eq_ok]
  exact ⟨_, rfl, _, rfl, _, hrelease, material, hopened, congrArg Except.ok hfirst⟩

theorem sampleDealing_eq : sampleServe (sampleCall 20 10) (.rotation (.refreshRound1 samplePlan70
    (some (sampleBeginCertificate samplePlan70 samplePlanHash70)) (some sampleReleaseCertificate)
    (some sampleUnlock))) sampleBegun = (GuardianResponse.rotation <$> sampleDealing) sampleBegun := by
  have hgate : guardianContextGate sampleBegun samplePlan70.context 20 = .ok () :=
    samplePlan70_gate rfl (by decide) (by decide)
  have hroute : guardianRoute sampleBegun samplePlan70 true = .ok (sampleRoute 2 1) := rfl
  exact handle_refreshRound1_of_share hgate hroute sampleBegun_share

example : guardianContextGate sampleBegun samplePlan70.context 100 =
    .error "guardian rejected malformed or expired rotation context" := by
  decide +kernel

theorem sampleStaging_eq : sampleStaging =
    .request (sampleCall 16 0) (.rotation (.begin samplePlan70
      (sampleBeginCertificate samplePlan70 samplePlanHash70))) ::
    .request (sampleCall 20 10) (.rotation (.refreshRound1 samplePlan70
      (some (sampleBeginCertificate samplePlan70 samplePlanHash70)) (some sampleReleaseCertificate)
      (some sampleUnlock))) :: sampleStaging.drop 2 :=
  rfl

theorem sampleDealing_served : ∃ response,
    sampleServe (sampleCall 20 10) (.rotation (.refreshRound1 samplePlan70
      (some (sampleBeginCertificate samplePlan70 samplePlanHash70)) (some sampleReleaseCertificate)
      (some sampleUnlock))) sampleBegun = .ok response (sampleDealing.final sampleBegun) := by
  obtain ⟨response, hreturned⟩ := Option.isSome_iff_exists.mp sampleRefresh_checked.2.2
  obtain ⟨entry', hrun⟩ := returned_eq_some.mp hreturned
  rw [final_of_ok hrun]
  exact ⟨_, sampleDealing_eq.trans (map_ok hrun)⟩

theorem samplePreparing_found :
    ((guardianRun Crypto.transparent sampleDpssVault sampleGuardianNode sampleGuardian
        samplePreparing).data.provision.epochStore.prepared.map (·.planHash),
      hashPlan Crypto.transparent samplePlan70) = (some samplePlanHash70, .ok samplePlanHash70) := by
  obtain ⟨response, hdealt⟩ := sampleDealing_served
  rw [sampleBegin_checked.2]
  simp only [guardianRun, samplePreparing]
  rw [sampleStaging_eq, List.cons_append, List.cons_append, run_served sampleBegun_served,
    run_served hdealt]
  decide +kernel

theorem samplePreparing_expired : ∃ prepared, PreparedExpired Crypto.transparent
    (guardianRun Crypto.transparent sampleDpssVault sampleGuardianNode sampleGuardian
      samplePreparing).data prepared samplePlan70 100 := by
  obtain ⟨hslot, hhash⟩ := Prod.mk.inj samplePreparing_found
  obtain ⟨prepared, hfound, hplan⟩ := Option.map_eq_some_iff.mp hslot
  exact ⟨prepared, hfound, hplan ▸ hashPlan_eq_ok.mp hhash, by decide⟩

theorem expired_slot_held_sample :
    ∃ prepared, (guardianRun Crypto.transparent sampleDpssVault sampleGuardianNode sampleGuardian
        (samplePreparing ++ [guardianInput 100 90 (.rotation samplePrepareCommit)])
      ).data.provision.epochStore.prepared = some prepared ∧ prepared.planHash = samplePlanHash70 := by
  obtain ⟨prepared, hheld⟩ := samplePreparing_expired
  have hplans : insert samplePlan70
      (guardianPlans [guardianInput 100 90 (.rotation samplePrepareCommit)]) = {samplePlan70} := by
    ext other
    simp [guardianPlans, guardianInput, GuardianInput.CarriesPlan, samplePrepareCommit,
      GuardianRotationRequestV3.plan, eq_comm]
  have hlater : ∀ input ∈ [guardianInput 100 90 (.rotation samplePrepareCommit)],
      input.After 100 := by
    simp [guardianInput, GuardianInput.After]
  have hfree : Crypto.transparent.CollisionFree (planTranscripts (insert samplePlan70
      (guardianPlans [guardianInput 100 90 (.rotation samplePrepareCommit)]))) := by
    rw [hplans]
    exact planTranscripts_singleton.injOn _
  exact ⟨prepared, (expired_slot_held hfree hheld hlater).1,
    hheld.hash.functional (hashPlan_eq_ok.mp (Prod.mk.inj samplePreparing_found).2)⟩

/-- A guardian has prepared its record and nothing more; from the expiry on no accepted request,
short of one whose plan collides, frees its slot. -/
theorem expired_slot_wedges :
    ¬∀ (crypto : Crypto) (vault : Vault) (node : GuardianNode)
      (provision : GuardianRotationProvisionV3) (inputs : List GuardianInput)
      (prepared : PreparedGuardianEpoch) (plan : RotationPlan) (now : UInt64),
      GuardianProvisioned crypto provision →
      PreparedExpired crypto (guardianRun crypto vault node provision inputs).data prepared plan
        now →
      ∃ (call : GuardianCall) (request : GuardianRequest) (response : GuardianResponse),
        call.wallNow = now ∧
        crypto.CollisionFree
          (planTranscripts (insert plan (guardianPlans [.request call request]))) ∧
        (handleGuardian crypto vault node call request).returned
          (guardianRun crypto vault node provision inputs).data = some response ∧
        ((handleGuardian crypto vault node call request).final
          (guardianRun crypto vault node provision inputs).data).provision.epochStore.prepared ≠
            some prepared := by
  intro hclaim
  obtain ⟨prepared, hheld⟩ := samplePreparing_expired
  obtain ⟨call, request, response, hnow, hfree, -, hfreed⟩ := hclaim Crypto.transparent
    sampleDpssVault sampleGuardianNode sampleGuardian samplePreparing prepared samplePlan70 100
    sampleGuardian_provisioned hheld
  have hhandled : Outcome _ (handleGuardian Crypto.transparent sampleDpssVault sampleGuardianNode
      call request) _ :=
    hheld.handled (UInt64.le_of_eq hnow.symm) hfree (Set.mem_insert _ _)
      fun other hcarries => Set.mem_insert_of_mem _ ⟨_, List.mem_singleton_self _, hcarries⟩
  exact hfreed hhandled.1.found

end MasterRecovery
