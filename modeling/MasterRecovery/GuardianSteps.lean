import MasterRecovery.GuardianRecovery

/-!
# What a rotation request can do to a guardian's entry

Work on a session keeps what identifies it; what it seals and what it stages is known. For
each request the entry it leaves is said once, whether or not the request is refused.
-/

namespace MasterRecovery
open Checks Transcript Wire Act

variable {crypto : Crypto} {vault : Vault} {node : GuardianNode} {call : GuardianCall}
  {plan : RotationPlan} {P : LocalDpssState → Prop} {M : StagedGuardianMaterialV3 → Prop}
  {s₀ s t : GuardianRotationSessionV3}

/-! ### Work on a session -/

/-- The ciphertext is a local state of the plan with the property. -/
def SealsState (crypto : Crypto) (vault : Vault) (node : GuardianNode) (plan : RotationPlan)
    (P : LocalDpssState → Prop) (encrypted : AeadCiphertext) : Prop :=
  ∃ nonce guardianIndex state,
    sealLocalState crypto vault node nonce plan guardianIndex state = .ok encrypted ∧ P state

/-- What work on a session keeps, and what it may seal and stage. -/
structure SessionKept (crypto : Crypto) (vault : Vault) (node : GuardianNode)
    (plan : RotationPlan) (P : LocalDpssState → Prop) (M : StagedGuardianMaterialV3 → Prop)
    (s s' : GuardianRotationSessionV3) : Prop where
  planHash : s'.planHash = s.planHash
  beginCertificateHash : s'.beginCertificateHash = s.beginCertificateHash
  notBefore : s'.notBeforeMonotonic = s.notBeforeMonotonic
  bootId : s'.bootId = s.bootId
  cancelled : s.cancelled = true → s'.cancelled = true
  localState : s'.encryptedLocalState = s.encryptedLocalState ∨
    ∀ encrypted, s'.encryptedLocalState = some encrypted →
      SealsState crypto vault node plan P encrypted
  staged : s'.stagedMaterial = s.stagedMaterial ∨
    ∀ staged, s'.stagedMaterial = some staged → M staged

theorem SessionKept.refl (s : GuardianRotationSessionV3) :
    SessionKept crypto vault node plan P M s s :=
  ⟨rfl, rfl, rfl, rfl, id, Or.inl rfl, Or.inl rfl⟩

theorem SessionKept.forget (h : SessionKept crypto vault node plan P M s₀ s) :
    SessionKept crypto vault node plan P M s₀ { s with encryptedLocalState := none } :=
  { h with localState := Or.inr fun _ hnone => by cases hnone }

theorem SessionKept.cancel (h : SessionKept crypto vault node plan P M s₀ s) :
    SessionKept crypto vault node plan P M s₀
      { s with cancelled := true, encryptedLocalState := none, stagedMaterial := none } :=
  { h.forget with
    cancelled := fun _ => rfl
    staged := Or.inr fun _ hnone => by cases hnone }

theorem SessionKept.stage {staged : StagedGuardianMaterialV3}
    (h : SessionKept crypto vault node plan P M s₀ s) (hstaged : M staged) :
    SessionKept crypto vault node plan P M s₀
      { s with encryptedLocalState := none, stagedMaterial := some staged } :=
  { h.forget with staged := Or.inr fun _ hsome => by cases hsome; exact hstaged }

theorem SealsState.mono {P' : LocalDpssState → Prop} {encrypted : AeadCiphertext}
    (h : SealsState crypto vault node plan P encrypted) (hP : ∀ state, P state → P' state) :
    SealsState crypto vault node plan P' encrypted := by
  obtain ⟨nonce, guardianIndex, state, hseal, hstate⟩ := h
  exact ⟨nonce, guardianIndex, state, hseal, hP state hstate⟩

theorem SessionKept.unstage (h : SessionKept crypto vault node plan P M s₀ s) :
    SessionKept crypto vault node plan P M s₀ { s with stagedMaterial := none } :=
  { h with staged := Or.inr fun _ hnone => by cases hnone }

/-- No earlier round's dealing is in the state. -/
def LocalDpssState.IsDealer : LocalDpssState → Prop
  | .repairDealer _ _ => True
  | _ => False

/-- The share and the package a rotation ends with are in the state. -/
def LocalDpssState.IsRefreshed : LocalDpssState → Prop
  | .refreshed _ _ => True
  | _ => False

section Work

variable (h : SessionKept crypto vault node plan P M s₀ s)
include h

theorem leaves_saveLocalState {nonce : BitVec 192} {guardianIndex : UInt16}
    {state : LocalDpssState} (hstate : P state) :
    Leaves (SessionKept crypto vault node plan P M s₀)
      (saveLocalState crypto vault node nonce plan guardianIndex state) s := by
  refine leaves_check_bind h fun encrypted hseal => ?_
  have hsealed : SealsState crypto vault node plan P encrypted :=
    ⟨nonce, guardianIndex, state, hseal, hstate⟩
  refine leaves_modify.mpr { h with localState := Or.inr fun other hother => ?_ }
  cases hother
  exact hsealed

theorem leaves_makeDelivery {draw : Randomness} {signingSeed : Id32} {plan' : RotationPlan}
    {senderIndex : UInt16} {target : GuardianRouteV3} {phase : DpssPhase} {payload : Bytes} :
    Leaves (SessionKept crypto vault node plan P M s₀)
      (makeDelivery crypto vault draw signingSeed plan' senderIndex target phase payload) s := by
  simp only [makeDelivery, setOutgoing, leaves_get_bind, leaves_modify_bind]
  refine leaves_check_bind { h with } fun planHash _ => ?_
  simp only [leaves_modify_bind]
  refine leaves_check_bind { h with } fun transcript _ => ?_
  refine leaves_check_bind { h with } fun encoded _ => ?_
  refine leaves_check_bind { h with } fun context _ => ?_
  refine leaves_check_bind { h with } fun sealedMessage _ => ?_
  exact leaves_pure.mpr { h with }

theorem leaves_openDelivery {plan' : RotationPlan} {ownRoute : GuardianRouteV3}
    {senderRoutes : List GuardianRouteV3} {phase : DpssPhase} {senders : Finset UInt16}
    {sealedMessage : SealedMessage} :
    Leaves (SessionKept crypto vault node plan P M s₀)
      (openDelivery crypto vault node plan' ownRoute senderRoutes phase senders sealedMessage) s := by
  simp only [openDelivery]
  refine leaves_check_bind h fun opened _ => ?_
  simp only [setIncoming, leaves_get_bind, leaves_modify_bind]
  refine leaves_check_bind { h with } fun _ _ => ?_
  refine leaves_check_bind { h with } fun _ _ => ?_
  simp only [leaves_modify_bind, leaves_pure]
  exact { h with }

theorem leaves_applyEvent {event : RotationEvent} :
    Leaves (SessionKept crypto vault node plan P M s₀) (applyEvent event) s := by
  simp only [applyEvent, leaves_get_bind]
  refine leaves_check_bind h fun out _ => ?_
  exact leaves_modify.mpr { h with }

theorem leaves_advanceToPreparing {monotonicNow : UInt64} :
    Leaves (SessionKept crypto vault node plan P M s₀) (advanceToPreparing monotonicNow) s := by
  simp only [advanceToPreparing, leaves_get_bind]
  cases s.rotationMachine.state with
  | delayPending => exact leaves_applyEvent h
  | preparing => exact h
  | _ => exact leaves_check.mpr h

end Work

theorem leaves_openDeliveries (h : SessionKept crypto vault node plan P M s₀ s)
    {plan' : RotationPlan} {ownRoute : GuardianRouteV3} {senderRoutes : List GuardianRouteV3}
    {phase : DpssPhase} {senders : Finset UInt16} {incoming : List SealedMessage} :
    Leaves (SessionKept crypto vault node plan P M s₀)
      (openDeliveries crypto vault node plan' ownRoute senderRoutes phase senders incoming) s := by
  induction incoming generalizing s senders with
  | nil => exact h
  | cons sealedMessage incoming ih =>
    refine leaves_bind (leaves_openDelivery h) fun opened t _ ht => ?_
    exact leaves_bind (ih ht) fun rest u _ hu => hu

/-! ### The rounds -/

section Rounds

variable {signingSeed : Id32} {incoming : List SealedMessage}

/-- Dealing needs the boot the session was begun in and its delay. -/
theorem leaves_dealRepair {beginCertificate : BeginRotationCertificate} {releaseHash : Id32}
    {ownIndex : UInt16} {oldShare fragment : Bytes} {record : GuardianRecordV3}
    {leaf : PreparedRecordLeaf} {helperIds : List UInt16} {replacementId : UInt16}
    (hdeal : s.bootId = call.bootId → s.notBeforeMonotonic ≤ call.monotonicNow →
      ∀ share delta, P (.repairDealer share delta)) :
    Leaves (SessionKept crypto vault node plan P M s)
      (dealRepair crypto vault node call plan beginCertificate releaseHash signingSeed ownIndex
        oldShare fragment record leaf helperIds replacementId) s := by
  have h : SessionKept crypto vault node plan P M s s := SessionKept.refl s
  simp only [dealRepair, leaves_get_bind]
  refine leaves_check_bind h fun beginTranscript _ => leaves_check_bind h fun _ hdue => ?_
  simp only [bailIf_eq_ok, not_or, not_not, ne_eq, UInt64.not_lt] at hdue
  refine leaves_bind (leaves_advanceToPreparing h) fun _ s₁ _ h₁ => ?_
  refine leaves_check_bind h₁ fun deltas _ => leaves_check_bind h₁ fun selfDelta _ => ?_
  have hstate := hdeal hdue.2.1 hdue.2.2 oldShare selfDelta
  refine leaves_bind (leaves_saveLocalState h₁ hstate) fun _ s₂ _ h₂ => ?_
  refine leaves_bind (leaves_collect h₂ fun delta _ t ht => ?_) fun deliveries s₃ _ h₃ => ?_
  · exact leaves_check_bind ht fun target _ => leaves_makeDelivery ht
  · simp only [leaves_get_bind, leaves_check]
    exact h₃

section Tame

variable (htame : ∀ state : LocalDpssState, ¬state.IsDealer → ¬state.IsRefreshed → P state)
include htame

theorem leaves_sumRepair {oldRoute replacement : GuardianRouteV3} :
    Leaves (SessionKept crypto vault node plan P M s)
      (sumRepair crypto vault node call plan incoming signingSeed oldRoute replacement) s := by
  refine leaves_bind (leaves_openDeliveries (SessionKept.refl s)) fun opened s₁ _ h₁ => ?_
  simp only [leaves_get_bind]
  refine leaves_check_bind h₁ fun state _ => ?_
  cases state with
  | repairDealer oldShare selfDelta =>
    refine leaves_check_bind h₁ fun sigma _ => ?_
    refine leaves_bind (leaves_saveLocalState h₁ (htame _ id id)) fun _ s₂ _ h₂ => ?_
    exact leaves_bind (leaves_makeDelivery h₂) fun _ s₃ _ h₃ => h₃
  | _ => exact leaves_check.mpr h₁

theorem leaves_assembleRepair {oldPublicPackage : Bytes} {newRoute : GuardianRouteV3} :
    Leaves (SessionKept crypto vault node plan P M s)
      (assembleRepair crypto vault node call plan incoming oldPublicPackage newRoute) s := by
  refine leaves_bind (leaves_openDeliveries (SessionKept.refl s)) fun opened s₁ _ h₁ => ?_
  refine leaves_check_bind h₁ fun _ _ => ?_
  simp only [leaves_get_bind]
  refine leaves_bind (leaves_advanceToPreparing h₁) fun _ s₂ _ h₂ => ?_
  refine leaves_check_bind h₂ fun share _ => leaves_check_bind h₂ fun expanded _ => ?_
  refine leaves_check_bind h₂ fun participant _ => leaves_check_bind h₂ fun _ _ => ?_
  exact leaves_bind (leaves_saveLocalState h₂ (htame _ id id)) fun _ s₃ _ h₃ => h₃

theorem leaves_dealRefresh {newRoute : GuardianRouteV3} {share : Bytes} :
    Leaves (SessionKept crypto vault node plan P M s)
      (dealRefresh crypto vault node call plan signingSeed newRoute share) s := by
  have h : SessionKept crypto vault node plan P M s s := SessionKept.refl s
  simp only [dealRefresh, leaves_get_bind]
  refine leaves_check_bind h fun _ _ => ?_
  refine leaves_bind (leaves_advanceToPreparing h) fun _ s₁ _ h₁ => ?_
  refine leaves_check_bind h₁ fun total _ => leaves_check_bind h₁ fun refresh _ => ?_
  refine leaves_bind (leaves_saveLocalState h₁ (htame _ id id)) fun _ s₂ _ h₂ => ?_
  exact leaves_bind (leaves_collect h₂ fun target _ t ht => leaves_makeDelivery ht)
    fun deliveries s₃ _ h₃ => h₃

theorem leaves_answerRefresh {newRoute : GuardianRouteV3} :
    Leaves (SessionKept crypto vault node plan P M s)
      (answerRefresh crypto vault node call plan incoming signingSeed newRoute) s := by
  refine leaves_bind (leaves_openDeliveries (SessionKept.refl s)) fun round1 s₁ _ h₁ => ?_
  refine leaves_check_bind h₁ fun _ _ => ?_
  simp only [leaves_get_bind]
  refine leaves_check_bind h₁ fun state _ => ?_
  cases state with
  | refreshRound1 oldShare secretState =>
    refine leaves_check_bind h₁ fun refresh _ => ?_
    refine leaves_bind (leaves_saveLocalState h₁ (htame _ id id)) fun _ s₂ _ h₂ => ?_
    refine leaves_bind (leaves_collect h₂ fun message _ t ht => ?_) fun deliveries s₃ _ h₃ => h₃
    exact leaves_check_bind ht fun target _ => leaves_makeDelivery ht
  | _ => exact leaves_check.mpr h₁

end Tame

/-- A refreshed share comes from the package of the request. -/
theorem leaves_assembleRefresh {oldPublicPackage : Bytes} {newRoute : GuardianRouteV3}
    (hrefreshed : ∀ secretState round1 round2 oldShare output,
      frostRefreshPart3 vault.frost secretState round1 round2 oldPublicPackage oldShare =
        .ok output → P (.refreshed output.share output.publicPackage)) :
    Leaves (SessionKept crypto vault node plan P M s)
      (assembleRefresh crypto vault node call plan incoming oldPublicPackage newRoute) s := by
  refine leaves_bind (leaves_openDeliveries (SessionKept.refl s)) fun round2 s₁ _ h₁ => ?_
  refine leaves_check_bind h₁ fun _ _ => ?_
  simp only [leaves_get_bind]
  refine leaves_check_bind h₁ fun state _ => ?_
  cases state with
  | refreshRound2 oldShare secretState round1Messages =>
    refine leaves_check_bind h₁ fun output houtput => leaves_check_bind h₁ fun participant _ => ?_
    refine leaves_check_bind h₁ fun _ _ => leaves_check_bind h₁ fun commitment _ => ?_
    have hstate : P (.refreshed output.share output.publicPackage) :=
      hrefreshed _ _ _ _ output (crypt_eq_ok.mp houtput)
    exact leaves_bind (leaves_saveLocalState h₁ hstate) fun _ s₂ _ h₂ => h₂
  | _ => exact leaves_check.mpr h₁

end Rounds

/-! ### Sessions of an entry -/

variable {entry entry' : GuardianRotationEntryV3} {Q : GuardianRotationEntryV3 → Prop}

@[simp] theorem storage_eq_ok {α : Type} {x : Except StorageError α} {a : α} :
    storage x = .ok a ↔ x = .ok a :=
  mapError_eq_ok

theorem hashPlan_eq_ok {planHash : Id32} :
    hashPlan crypto plan = .ok planHash ↔ HasHash crypto plan planHash := by
  simp [hashPlan, Checks.bind_eq_ok, HasHash]

/-- A session open for work is the plan's own, begun and not cancelled. -/
theorem openSession_eq_ok (h : openSession crypto entry plan = .ok s) :
    HasHash crypto plan s.planHash ∧ entry.sessions[plan.context.rotationId]? = some s ∧
      s.cancelled = false := by
  simp only [openSession, Checks.bind_eq_ok, hashPlan_eq_ok, okOr_eq_ok, bailIf_eq_ok, exists_const,
    Except.ok.injEq, not_or, not_not, ne_eq, Bool.not_eq_true] at h
  obtain ⟨planHash, hhash, session, hfound, ⟨rfl, -, -, -, -, hlive⟩, rfl⟩ := h
  exact ⟨hhash, hfound, hlive⟩

theorem leaves_onSession {α : Type} {x : Act GuardianRotationSessionV3 α} {rotationId : Id32}
    (hwork : Leaves (fun s' => Q (entry.putSession rotationId s')) x s) :
    Leaves Q (onSession rotationId s x) entry :=
  leaves_onPart hwork

theorem leaves_sessionMut {α : Type} {x : Act GuardianRotationSessionV3 α} (hentry : Q entry)
    (hwork : ∀ s, openSession crypto entry plan = .ok s →
      Leaves (fun s' => Q (entry.putSession plan.context.rotationId s')) x s) :
    Leaves Q (sessionMut crypto plan x) entry := by
  simp only [sessionMut, leaves_get_bind]
  exact leaves_check_bind hentry fun s hs => leaves_onSession (hwork s hs)

theorem sessionMut_eq_ok {α : Type} {x : Act GuardianRotationSessionV3 α} {a : α}
    (h : sessionMut crypto plan x entry = .ok a entry') :
    ∃ s s', openSession crypto entry plan = .ok s ∧ x s = .ok a s' ∧
      entry' = entry.putSession plan.context.rotationId s' := by
  simp only [sessionMut, Act.get_bind, check_bind_eq_ok, onSession, onPart_eq_ok] at h
  obtain ⟨s, hs, s', hx, rfl⟩ := h
  exact ⟨s, s', hs, hx, rfl⟩

theorem leaves_updateStore {x : GuardianEpochStore → Except StorageError GuardianEpochStore}
    (hentry : Q entry)
    (hstore : ∀ store, x entry.provision.epochStore = .ok store → Q (entry.withStore store)) :
    Leaves Q (updateStore x) entry := by
  simp only [updateStore, leaves_get_bind]
  exact leaves_check_bind hentry fun store h => hstore store (storage_eq_ok.mp h)

theorem updateStore_eq_ok {x : GuardianEpochStore → Except StorageError GuardianEpochStore}
    {u : Unit} : updateStore x entry = .ok u entry' ↔
      ∃ store, x entry.provision.epochStore = .ok store ∧ entry.withStore store = entry' := by
  have hmodify (store : GuardianEpochStore) :
      (modify fun entry => entry.withStore store : Act GuardianRotationEntryV3 Unit) entry =
        .ok () (entry.withStore store) := rfl
  simp [updateStore, hmodify]

theorem updateStore_eq_error {x : GuardianEpochStore → Except StorageError GuardianEpochStore}
    {e : String} (h : updateStore x entry = .error e entry') : entry' = entry := by
  have hrefused : Outcome (fun o t => o = none → t = entry) (updateStore x) entry := by
    simp only [updateStore, outcome_get_bind]
    refine outcome_check_bind (fun _ => rfl) fun store _ => outcome_modify.mpr fun hsome => ?_
    cases hsome
  exact hrefused.error h rfl

/-! ### What a request leaves -/

/-- The request carries a Release of the plan that was verified. -/
def VerifiesRelease (crypto : Crypto) (call : GuardianCall) (entry : GuardianRotationEntryV3)
    (request : GuardianRotationRequestV3) (plan : RotationPlan) : Prop :=
  ∃ begun release releaseHash,
    validateRotationReleaseCertificateV3 crypto release begun plan
      entry.provision.predecessorCapsule call.wallNow = .ok releaseHash ∧
    ((∃ unlockGrant helperIds replacementId,
      request = .repairRound1 plan begun release unlockGrant helperIds replacementId) ∨
      ∃ oldShareGrant,
        request = .refreshRound1 plan (some begun) (some release) (some oldShareGrant))

/-- A dealing is sealed only under a verified Release, in the session's boot, after its delay. -/
def DealsReleased (crypto : Crypto) (call : GuardianCall) (entry : GuardianRotationEntryV3)
    (request : GuardianRotationRequestV3) (plan : RotationPlan) (s : GuardianRotationSessionV3)
    (state : LocalDpssState) : Prop :=
  state.IsDealer → VerifiesRelease crypto call entry request plan ∧ s.bootId = call.bootId ∧
    s.notBeforeMonotonic ≤ call.monotonicNow

/-- A refreshed share is the outcome of a refresh of the public package in the request. -/
def RefreshedFrom (vault : Vault) (request : GuardianRotationRequestV3) (plan : RotationPlan)
    (state : LocalDpssState) : Prop :=
  ∀ share publicPackage, state = .refreshed share publicPackage →
    ∃ incoming oldPublicPackage secretState round1 round2 oldShare,
      request = .refreshFinalize plan incoming oldPublicPackage ∧
      frostRefreshPart3 vault.frost secretState round1 round2 oldPublicPackage oldShare =
        .ok ⟨share, publicPackage⟩

/-- What a request may seal in the session it has found. -/
def SealedFrom (crypto : Crypto) (vault : Vault) (call : GuardianCall)
    (entry : GuardianRotationEntryV3) (request : GuardianRotationRequestV3) (plan : RotationPlan)
    (s : GuardianRotationSessionV3) (state : LocalDpssState) : Prop :=
  DealsReleased crypto call entry request plan s state ∧ RefreshedFrom vault request plan state

/-- What is staged carries a policy that was checked, under its own leaf. -/
def StagedFrom (crypto : Crypto) (entry : GuardianRotationEntryV3) (plan : RotationPlan)
    (staged : StagedGuardianMaterialV3) : Prop :=
  (∃ newRoute expectedFragmentIndex, guardianRoute entry plan true = .ok newRoute ∧
    StagedPolicyBinds plan entry.provision.predecessorCapsule newRoute
      staged.dpssResultCommitment expectedFragmentIndex staged.recordDraft.policy
      staged.recordDraft.opaqueSlotId staged.recordDraft.fragmentIndex) ∧
    recordLeaf crypto staged.recordDraft = .ok staged.leaf

/-- The commitment is of the public package that is refreshed in the session. -/
def CommitsRefreshed (crypto : Crypto) (vault : Vault) (node : GuardianNode) (plan : RotationPlan)
    (s : GuardianRotationSessionV3) (dpssResultCommitment : Id32) : Prop :=
  ∃ guardianIndex share publicPackage,
    openLocalState crypto vault node s plan guardianIndex = .ok (.refreshed share publicPackage) ∧
    frostPublicPackageDigest crypto vault.frost publicPackage = .ok dpssResultCommitment

/-- What a request may stage in the session it has found. -/
def StagedIn (crypto : Crypto) (vault : Vault) (node : GuardianNode)
    (entry : GuardianRotationEntryV3) (plan : RotationPlan) (s : GuardianRotationSessionV3)
    (staged : StagedGuardianMaterialV3) : Prop :=
  StagedFrom crypto entry plan staged ∧
    CommitsRefreshed crypto vault node plan s staged.dpssResultCommitment

/-- Requests that only work on the session of their plan. -/
def GuardianRotationRequestV3.Works : GuardianRotationRequestV3 → Prop
  | .repairRound1 _ _ _ _ _ _ => True
  | .repairRound2 _ _ _ => True
  | .repairFinalize _ _ _ => True
  | .refreshRound1 _ _ _ _ => True
  | .refreshRound2 _ _ => True
  | .refreshFinalize _ _ _ => True
  | .stageMaterial _ _ _ _ _ _ _ => True
  | .handoffComplete _ _ => True
  | _ => False

/-- The entry after work on the plan's session, if there was any. -/
inductive SessionWorked (crypto : Crypto) (vault : Vault) (node : GuardianNode)
    (call : GuardianCall) (entry : GuardianRotationEntryV3) (request : GuardianRotationRequestV3)
    (plan : RotationPlan) : GuardianRotationEntryV3 → Prop
  | idle : SessionWorked crypto vault node call entry request plan entry
  | worked {s s' : GuardianRotationSessionV3} (hopen : openSession crypto entry plan = .ok s)
    (hkept : SessionKept crypto vault node plan
      (SealedFrom crypto vault call entry request plan s)
      (StagedIn crypto vault node entry plan s) s s') :
    SessionWorked crypto vault node call entry request plan
      (entry.putSession plan.context.rotationId s')

theorem sealedFrom_tame {request : GuardianRotationRequestV3} (state : LocalDpssState)
    (hdealer : ¬state.IsDealer) (hrefreshed : ¬state.IsRefreshed) :
    SealedFrom crypto vault call entry request plan s state := by
  refine ⟨fun h => absurd h hdealer, ?_⟩
  rintro share publicPackage rfl
  exact absurd trivial hrefreshed

/-- Work in a session that keeps it is work on the entry. -/
theorem leaves_worked {α : Type} {x : Act GuardianRotationSessionV3 α}
    {request : GuardianRotationRequestV3}
    (hwork : ∀ s, openSession crypto entry plan = .ok s →
      Leaves (SessionKept crypto vault node plan
        (SealedFrom crypto vault call entry request plan s)
        (StagedIn crypto vault node entry plan s) s) x s) :
    Leaves (SessionWorked crypto vault node call entry request plan) (sessionMut crypto plan x)
      entry :=
  leaves_sessionMut .idle fun s hs => (hwork s hs).mono fun _ hkept => .worked hs hkept

/-- What staging has checked of a draft. -/
theorem stageDraft_eq_ok {predecessor : ConfigCapsuleV3} {newRoute : GuardianRouteV3}
    {wrapGrant : NewShareWrapGrant} {fragmentIndex : UInt16} {ciphertextFragment : Bytes}
    {ciphertextFragmentProof : MerkleProofBytes} {policy : GuardianPolicyV3} {opaqueSlotId : Id32}
    {drafted : StagedGuardianMaterialV3 × Bytes}
    (h : stageDraft crypto vault node call s plan predecessor newRoute wrapGrant fragmentIndex
      ciphertextFragment ciphertextFragmentProof policy opaqueSlotId = .ok drafted) :
    (∃ expectedFragmentIndex, StagedPolicyBinds plan predecessor newRoute
      drafted.1.dpssResultCommitment expectedFragmentIndex drafted.1.recordDraft.policy
      drafted.1.recordDraft.opaqueSlotId drafted.1.recordDraft.fragmentIndex) ∧
      recordLeaf crypto drafted.1.recordDraft = .ok drafted.1.leaf ∧
      CommitsRefreshed crypto vault node plan s drafted.1.dpssResultCommitment := by
  simp only [stageDraft, Checks.bind_eq_ok] at h
  obtain ⟨state, hstate, h⟩ := h
  cases state with
  | refreshed share publicPackage =>
    simp only [Checks.bind_eq_ok, bailIf_eq_ok, not_not, exists_const, wire_eq_ok] at h
    obtain ⟨commitment, hcommitment, position, -, expected, -, hbinds, _, -, keys, -, shareContext, -,
      sealedShare, -, fragmentContext, -, sealedFragment, -, policyBody, hbody, custody, -, h⟩ := h
    cases h
    refine ⟨⟨expected, hbinds⟩, ?_, _, share, publicPackage, hstate, crypt_eq_ok.mp hcommitment⟩
    simp [recordLeaf, Checks.bind_eq_ok, hbody]
  | _ => cases h

section Requests

variable {incoming : List SealedMessage} {oldPublicPackage : Bytes} {replacementId : UInt16}

theorem leaves_repairRound1 {beginCertificate : BeginRotationCertificate}
    {releaseCertificate : RotationReleaseCertificate} {unlockGrant : OldShareUnlockGrant}
    {helperIds : List UInt16} :
    Leaves (SessionWorked crypto vault node call entry (.repairRound1 plan beginCertificate
        releaseCertificate unlockGrant helperIds replacementId) plan)
      (repairRound1 crypto vault node call plan beginCertificate releaseCertificate unlockGrant
        helperIds replacementId) entry := by
  simp only [repairRound1, leaves_get_bind]
  refine leaves_check_bind .idle fun releaseHash hrelease => ?_
  refine leaves_check_bind .idle fun oldRoute _ => leaves_check_bind .idle fun material _ => ?_
  refine leaves_check_bind .idle fun record _ => leaves_check_bind .idle fun leaf _ => ?_
  refine leaves_worked fun s _ => leaves_dealRepair fun hboot hdue share delta => ?_
  refine ⟨fun _ => ⟨⟨beginCertificate, releaseCertificate, releaseHash, hrelease,
    Or.inl ⟨unlockGrant, helperIds, replacementId, rfl⟩⟩, hboot, hdue⟩, ?_⟩
  rintro _ _ ⟨⟩

theorem leaves_repairRound2 :
    Leaves (SessionWorked crypto vault node call entry (.repairRound2 plan incoming replacementId)
        plan)
      (repairRound2 crypto vault node call plan incoming replacementId) entry := by
  simp only [repairRound2, leaves_get_bind]
  refine leaves_check_bind .idle fun oldRoute _ => leaves_check_bind .idle fun replacement _ => ?_
  exact leaves_worked fun s _ => leaves_sumRepair sealedFrom_tame

theorem leaves_repairFinalize :
    Leaves (SessionWorked crypto vault node call entry
        (.repairFinalize plan incoming oldPublicPackage) plan)
      (repairFinalize crypto vault node call plan incoming oldPublicPackage) entry := by
  simp only [repairFinalize, leaves_get_bind]
  refine leaves_check_bind .idle fun newRoute _ => ?_
  exact leaves_worked fun s _ => leaves_assembleRepair sealedFrom_tame

theorem leaves_refreshRound1 {beginCertificate : Option BeginRotationCertificate}
    {releaseCertificate : Option RotationReleaseCertificate}
    {oldShareGrant : Option OldShareUnlockGrant} :
    Leaves (SessionWorked crypto vault node call entry
        (.refreshRound1 plan beginCertificate releaseCertificate oldShareGrant) plan)
      (refreshRound1 crypto vault node call plan beginCertificate releaseCertificate
        oldShareGrant) entry := by
  simp only [refreshRound1, leaves_get_bind]
  refine leaves_check_bind .idle fun newRoute _ => leaves_check_bind .idle fun share _ => ?_
  exact leaves_worked fun s _ => leaves_dealRefresh sealedFrom_tame

theorem leaves_refreshRound2 :
    Leaves (SessionWorked crypto vault node call entry (.refreshRound2 plan incoming) plan)
      (refreshRound2 crypto vault node call plan incoming) entry := by
  simp only [refreshRound2, leaves_get_bind]
  refine leaves_check_bind .idle fun newRoute _ => ?_
  exact leaves_worked fun s _ => leaves_answerRefresh sealedFrom_tame

theorem leaves_refreshFinalize :
    Leaves (SessionWorked crypto vault node call entry
        (.refreshFinalize plan incoming oldPublicPackage) plan)
      (refreshFinalize crypto vault node call plan incoming oldPublicPackage) entry := by
  simp only [refreshFinalize, leaves_get_bind]
  refine leaves_check_bind .idle fun newRoute _ => ?_
  refine leaves_worked fun s _ => leaves_assembleRefresh
    fun secretState round1 round2 oldShare output houtput => ⟨False.elim, ?_⟩
  rintro share publicPackage ⟨⟩
  exact ⟨_, _, secretState, round1, round2, oldShare, rfl, houtput⟩

theorem leaves_stageMaterial {wrapGrant : NewShareWrapGrant} {fragmentIndex : UInt16}
    {ciphertextFragment : Bytes} {ciphertextFragmentProof : MerkleProofBytes}
    {policy : GuardianPolicyV3} {opaqueSlotId : Id32} :
    Leaves (SessionWorked crypto vault node call entry (.stageMaterial plan wrapGrant
        fragmentIndex ciphertextFragment ciphertextFragmentProof policy opaqueSlotId) plan)
      (stageMaterial crypto vault node call plan wrapGrant fragmentIndex ciphertextFragment
        ciphertextFragmentProof policy opaqueSlotId) entry := by
  simp only [stageMaterial, leaves_get_bind]
  refine leaves_check_bind .idle fun newRoute hroute => leaves_worked fun s _ => ?_
  simp only [leaves_get_bind]
  refine leaves_check_bind (SessionKept.refl s) fun drafted hdrafted => ?_
  obtain ⟨⟨expected, hbinds⟩, hleaf, hcommits⟩ := stageDraft_eq_ok hdrafted
  exact (SessionKept.refl s).stage ⟨⟨⟨newRoute, expected, hroute, hbinds⟩, hleaf⟩, hcommits⟩

theorem leaves_handoffComplete {dpssResultCommitment : Id32} :
    Leaves (SessionWorked crypto vault node call entry
        (.handoffComplete plan dpssResultCommitment) plan)
      (handoffComplete crypto plan dpssResultCommitment) entry := by
  simp only [handoffComplete, leaves_get_bind]
  refine leaves_check_bind .idle fun route _ => leaves_worked fun s _ => ?_
  simp only [leaves_modify_bind, leaves_get_bind, leaves_check]
  exact (SessionKept.refl s).forget

/-- The requests that only work on a session. -/
theorem leaves_works {request : GuardianRotationRequestV3} (hworks : request.Works)
    (hplan : request.plan = some plan) :
    Leaves (SessionWorked crypto vault node call entry request plan)
      (guardianDispatch crypto vault node call request) entry := by
  cases request <;> first | exact hworks.elim | cases hplan
  case repairRound1 => exact leaves_repairRound1
  case repairRound2 => exact leaves_repairRound2
  case repairFinalize => exact leaves_repairFinalize
  case refreshRound1 => exact leaves_refreshRound1
  case refreshRound2 => exact leaves_refreshRound2
  case refreshFinalize => exact leaves_refreshFinalize
  case stageMaterial => exact leaves_stageMaterial
  case handoffComplete => exact leaves_handoffComplete

end Requests

end MasterRecovery
