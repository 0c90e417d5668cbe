import MasterRecovery.CustodyRelease

/-!
# What a guardian acknowledges (gp-network/src/guardian_runtime.rs)

A prepared acknowledgement is signed over what the store has just taken. A handoff acknowledgement
is signed over an open session and nothing else: that a sigma went out before is left to the
coordinator's order of requests.
-/

namespace MasterRecovery
open Checks Transcript Wire Act

variable {crypto : Crypto} {vault : Vault} {node : GuardianNode} {call : GuardianCall}
  {plan : RotationPlan} {entry entry' : GuardianRotationEntryV3}
  {request : GuardianRotationRequestV3} {response : Option GuardianRotationResponseV3}
  {rotationId : Id32} {s t : GuardianRotationSessionV3}

/-! ### Sessions last until their rotation is closed -/

theorem SameSession.refl (s : GuardianRotationSessionV3) : SameSession s s := ⟨rfl, rfl, rfl⟩

theorem SessionKept.same {P : LocalDpssState → Prop} {M : StagedGuardianMaterialV3 → Prop}
    (h : SessionKept crypto vault node plan P M s t) : SameSession s t :=
  ⟨h.planHash, h.notBefore, h.bootId⟩

/-- The session is still there. -/
def SessionLasts (entry' : GuardianRotationEntryV3) (rotationId : Id32)
    (s : GuardianRotationSessionV3) : Prop :=
  ∃ s', entry'.sessions[rotationId]? = some s' ∧ SameSession s s'

theorem sessionLasts_putSession {rotationId' : Id32} {t' : GuardianRotationSessionV3}
    (hother : entry.sessions[rotationId']? = some t) (hsame : SameSession t t')
    (hfound : entry.sessions[rotationId]? = some s) :
    SessionLasts (entry.putSession rotationId' t') rotationId s := by
  by_cases hid : rotationId = rotationId'
  · subst hid
    cases hother.symm.trans hfound
    exact ⟨t', Std.TreeMap.getElem?_insert_self, hsame⟩
  · refine ⟨s, ?_, .refl s⟩
    simpa [GuardianRotationEntryV3.putSession, Std.TreeMap.getElem?_insert, Ne.symm hid] using hfound

theorem sessionLasts_dropSession {rotationId' : Id32} (hid : rotationId ≠ rotationId')
    (h : SessionLasts entry rotationId s) :
    SessionLasts (entry.dropSession rotationId') rotationId s := by
  obtain ⟨s', hfound, hsame⟩ := h
  refine ⟨s', ?_, hsame⟩
  simpa [GuardianRotationEntryV3.dropSession, Std.TreeMap.getElem?_erase, Ne.symm hid] using hfound

theorem SessionMoved.lasts (h : SessionMoved crypto vault node entry plan entry')
    (hfound : entry.sessions[rotationId]? = some s) : SessionLasts entry' rotationId s := by
  cases h with
  | idle => exact ⟨s, hfound, .refl s⟩
  | moved hbefore hkept => exact sessionLasts_putSession hbefore hkept.same hfound

theorem SessionWorked.lasts (h : SessionWorked crypto vault node call entry request plan entry')
    (hfound : entry.sessions[rotationId]? = some s) : SessionLasts entry' rotationId s := by
  cases h with
  | idle => exact ⟨s, hfound, .refl s⟩
  | worked hopen hkept =>
    exact sessionLasts_putSession (openSession_eq_ok hopen).2.1 hkept.same hfound

theorem GuardianActivating.lasts (vault : Vault) (node : GuardianNode) {capsule : ConfigCapsuleV3}
    {drainDeadline : UInt64} {qc : EpochActivationQc × Id32 × Id32} {t' : GuardianRotationSessionV3}
    (h : GuardianActivating crypto entry plan capsule drainDeadline qc t t')
    (hfound : entry.sessions[rotationId]? = some s) :
    SessionLasts (entry.putSession plan.context.rotationId t') rotationId s := by
  have hleaves : Leaves (SessionKept crypto vault node plan (fun _ => False) (fun _ => False) t)
      (activateMachine (UInt16.ofNat plan.newRoster.length) drainDeadline) t :=
    leaves_activateMachine
  exact sessionLasts_putSession (openSession_eq_ok h.session).2.1 (hleaves.ok h.machine).same hfound

/-- A session goes only where its rotation gets a tombstone. -/
theorem RotationServed.lasts (h : RotationServed crypto vault node call entry request response entry')
    (hfound : entry.sessions[rotationId]? = some s) :
    rotationId ∈ entry'.provision.epochStore.rotationTombstones ∨
      SessionLasts entry' rotationId s := by
  cases h with
  | refused => exact Or.inr ⟨s, hfound, .refl s⟩
  | @begun plan _ _ _ _ hfresh _ =>
    refine Or.inr ⟨s, ?_, .refl s⟩
    have hid : plan.context.rotationId ≠ rotationId := by
      rintro rfl
      cases hfresh.symm.trans hfound
    simpa [GuardianRotationEntryV3.putSession, Std.TreeMap.getElem?_insert, hid] using hfound
  | begunBefore => exact Or.inr ⟨s, hfound, .refl s⟩
  | worked _ _ hworked => exact Or.inr (hworked.lasts hfound)
  | moved hmoved => exact Or.inr (hmoved.lasts hfound)
  | preparedLate => exact Or.inr ⟨s, hfound, .refl s⟩
  | prepared hprepared =>
    have hopen := (openSession_eq_ok hprepared.session).2.1
    exact Or.inr (sessionLasts_putSession hopen ⟨rfl, rfl, rfl⟩ hfound)
  | @ended _ plan _ _ entry₁ _ _ _ hmoved hstore =>
    obtain ⟨-, -, rfl⟩ := GuardianEpochStore.abortPrepared_eq_ok.mp hstore
    by_cases hid : rotationId = plan.context.rotationId
    · subst hid
      exact Or.inl Std.TreeMap.mem_insert_self
    · exact Or.inr (sessionLasts_dropSession hid (hmoved.lasts hfound))
  | activationFailed hactivating => exact Or.inr (hactivating.lasts vault node hfound)
  | @activated plan _ _ _ _ _ _ hactivating hstore =>
    obtain ⟨tombstone, -, hinsert⟩ := (activateStore_eq_ok hstore).tombstones
    by_cases hid : rotationId = plan.context.rotationId
    · subst hid
      refine Or.inl ?_
      simp only [GuardianRotationEntryV3.activated, GuardianRotationEntryV3.withStore, hinsert]
      exact Std.TreeMap.mem_insert_self
    · exact Or.inr (sessionLasts_dropSession hid (hactivating.lasts vault node hfound))
  | retired => exact Or.inr ⟨s, hfound, .refl s⟩

/-! ### The invariant -/

variable {log before after : List GuardianExchange} {x : GuardianExchange}
  {provision : GuardianRotationProvisionV3} {inputs : List GuardianInput}

/-- The sessions that answered requests have found last, and what is staged is under its leaf. -/
structure SessionLedger (crypto : Crypto) (entry : GuardianRotationEntryV3)
    (log : List GuardianExchange) : Prop where
  lasts : ∀ z ∈ log, z.response.isSome → ∀ (rotationId : Id32) (t : GuardianRotationSessionV3),
    z.entry.sessions[rotationId]? = some t →
      rotationId ∈ entry.provision.epochStore.rotationTombstones ∨ SessionLasts entry rotationId t
  leaf : ∀ (rotationId : Id32) (s : GuardianRotationSessionV3) (staged : StagedGuardianMaterialV3),
    entry.sessions[rotationId]? = some s → s.stagedMaterial = some staged →
      recordLeaf crypto staged.recordDraft = .ok staged.leaf

theorem RotationServed.lasts_on
    (h : RotationServed crypto vault node call entry request response entry')
    (hlasts : rotationId ∈ entry.provision.epochStore.rotationTombstones ∨
      SessionLasts entry rotationId t) :
    rotationId ∈ entry'.provision.epochStore.rotationTombstones ∨
      SessionLasts entry' rotationId t := by
  rcases hlasts with hclosed | ⟨s, hfound, hsame⟩
  · exact Or.inl (h.tombstones_mono.1 hclosed)
  · rcases h.lasts hfound with hclosed | ⟨s', hfound', hsame'⟩
    · exact Or.inl hclosed
    · exact Or.inr ⟨s', hfound', hsame.trans hsame'⟩

theorem SessionLedger.rotation (h : SessionLedger crypto entry log)
    (hserved : RotationServed crypto vault node call entry request response entry') :
    SessionLedger crypto entry'
      (log ++ [⟨entry, call, .rotation request, response.map .rotation⟩]) where
  lasts := forall_exchange
    (fun z hz hanswered rotationId t hfound =>
      hserved.lasts_on (h.lasts z hz hanswered rotationId t hfound))
    fun _ rotationId t hfound => hserved.lasts hfound
  leaf rotationId s' staged hfound hstaged := by
    rcases hserved.session hfound with ⟨s, hbefore, hcarried⟩ | ⟨plan, certificate, notBefore, rfl,
      rfl, rfl, hbegun⟩
    · rcases hcarried.staged with hsame | hnew
      · exact h.leaf _ _ _ hbefore (hsame ▸ hstaged)
      · obtain ⟨_, -, -, ⟨-, hleaf⟩, -⟩ := hnew staged hstaged
        exact hleaf
    · rw [hbegun.unstaged] at hstaged
      cases hstaged

/-- What a prepared record has of its draft. -/
structure RecordDrafted (plan : RotationPlan) (route : GuardianRouteV3)
    (staged : StagedGuardianMaterialV3) (guardianMaterialRoot : Id32)
    (merklePathProof : MerkleProofBytes) (dpssResultCommitment : Id32)
    (record : GuardianRecordV3) : Prop where
  drafted : record = { staged.recordDraft with
    merklePathProof := merklePathProof
    policy := { staged.recordDraft.policy with guardianMaterialRoot := guardianMaterialRoot } }
  guardianIndex : staged.recordDraft.guardianIndex = route.guardianIndex
  successor : staged.recordDraft.policy.configRef = plan.successor
  commitment : staged.recordDraft.policy.dpssPublicCommitment = dpssResultCommitment
  result : staged.dpssResultCommitment = dpssResultCommitment

theorem preparedRecord_eq_ok {planHash : Id32} {route : GuardianRouteV3}
    {staged : StagedGuardianMaterialV3} {guardianMaterialRoot : Id32}
    {merklePathProof : MerkleProofBytes} {dpssResultCommitment : Id32}
    {record : GuardianRecordV3 × DpssSessionJournal}
    (h : preparedRecord crypto vault node call plan planHash route staged guardianMaterialRoot
      merklePathProof dpssResultCommitment = .ok record) :
    RecordDrafted plan route staged guardianMaterialRoot merklePathProof dpssResultCommitment
      record.1 := by
  simp only [preparedRecord, Checks.bind_eq_ok, bailIf_eq_ok, exists_const, not_or, not_not,
    ne_eq, Except.ok.injEq] at h
  obtain ⟨_, -, _, -, ⟨hresult, -⟩, -, _, ⟨hindex, -, -, hsuccessor, hcommitment⟩, _, -, -, _, -, _,
    -, rfl⟩ := h
  exact ⟨rfl, hindex, hsuccessor, hcommitment, hresult⟩

/-- The entry the request leaves in memory. -/
def GuardianExchange.left (x : GuardianExchange) (crypto : Crypto) (vault : Vault)
    (node : GuardianNode) : GuardianRotationEntryV3 :=
  (handleGuardian crypto vault node x.call x.request).final x.entry

end MasterRecovery
