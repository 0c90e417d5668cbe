import MasterRecovery.AbortExclusion
import MasterRecovery.DrainingVotes
import MasterRecovery.GuardianRuns
import MasterRecovery.ReadAvailability
import Mathlib.Data.List.Pairwise

/-!
# Cancel and release of one recovery request

A guardian never both releases a request and acknowledges its cancellation, it releases a
request once, and what it releases rests on an accepted Begin. The pending requests, the
cancellation tombstones and the draining epochs are related by one invariant of the run.
-/

namespace MasterRecovery
open Checks Transcript Wire Act

variable {crypto : Crypto} {vault : Vault} {node : GuardianNode} {call : GuardianCall}
  {entry entry' : GuardianRotationEntryV3} {provision : GuardianRotationProvisionV3}
  {inputs : List GuardianInput} {log : List GuardianExchange}

/-! ### Exchanges -/

namespace GuardianExchange

def Contributes (x : GuardianExchange) (contribution : GuardianRecoveryContributionV3) : Prop :=
  x.response = some (.recovery (.contribution contribution))

def CancelsRecovery (x : GuardianExchange) (requestId : Id32) : Prop :=
  ∃ ack, x.response = some (.recovery (.cancelled ack)) ∧ ack.requestId = requestId

/-- An accepted Begin of the request, answered with its not-before. -/
def BeginsRecovery (x : GuardianExchange) (request : RecoveryRequestV3) (notBefore : UInt64) :
    Prop :=
  (∃ certificate, x.request = .recovery (.begin certificate) ∧ certificate.request = request) ∧
    x.response = some (.recovery (.beginAccepted notBefore))

/-- An accepted Activate. -/
def Activates (x : GuardianExchange) : Prop :=
  ∃ guardianEpoch, x.response = some (.rotation (.activated guardianEpoch))

/-- An accepted Activate that found the request pending on the active record of its epoch. -/
def Captures (x : GuardianExchange) (configRef : ConfigRef) (requestId : Id32) : Prop :=
  x.Activates ∧ (∃ old, x.entry.provision.epochStore.active = some old ∧
    old.policy.configRef = configRef) ∧ requestId ∈ pendingOldRecoveryIds x.entry

end GuardianExchange

/-! ### The invariant -/

/-- What the entry remembers of the recoveries of the run. -/
structure RecoveryLedger (crypto : Crypto) (entry : GuardianRotationEntryV3)
    (log : List GuardianExchange) : Prop where
  begun : ∀ (requestId : Id32) (pending : PendingNetworkRecoveryV3),
    entry.recoveries[requestId]? = some pending → pending.request.requestId = requestId ∧
      recoveryRequestDigestV3 crypto pending.request = .ok pending.requestDigest ∧
      ∃ x ∈ log, x.BeginsRecovery pending.request pending.notBeforeMonotonic ∧
        x.call.bootId = pending.bootId
  cancelled : ∀ x ∈ log, ∀ requestId, x.CancelsRecovery requestId →
    requestId ∈ entry.provision.epochStore.recoveryCancellationTombstones ∧
      ∀ pending : PendingNetworkRecoveryV3, entry.recoveries[requestId]? = some pending →
        pending.cancelled = true
  released : ∀ x ∈ log, ∀ contribution, x.Contributes contribution →
    ∃ pending : PendingNetworkRecoveryV3,
      entry.recoveries[contribution.requestId]? = some pending ∧ pending.released = true
  captured : ∀ (guardianEpoch : UInt64) (drains : DrainingGuardianEpoch),
    entry.provision.epochStore.draining[guardianEpoch]? = some drains →
      ∀ requestId ∈ drains.pendingRequestIds,
        ∃ x ∈ log, x.Captures drains.record.policy.configRef requestId

/-- The exchange neither releases nor cancels. -/
structure GuardianExchange.Neutral (x : GuardianExchange) : Prop where
  contributes : ∀ contribution, ¬x.Contributes contribution
  cancels : ∀ requestId, ¬x.CancelsRecovery requestId

theorem GuardianExchange.neutral_of {x : GuardianExchange}
    (hcontributes : ∀ contribution, x.response ≠ some (.recovery (.contribution contribution)))
    (hcancels : ∀ ack, x.response ≠ some (.recovery (.cancelled ack))) : x.Neutral :=
  ⟨hcontributes, fun _ ⟨ack, hresponse, _⟩ => hcancels ack hresponse⟩

/-- Every exchange is old or the new one. -/
theorem forall_exchange {x : GuardianExchange} {motive : GuardianExchange → Prop}
    (hold : ∀ y ∈ log, motive y) (hnew : motive x) : ∀ y ∈ log ++ [x], motive y := by
  intro y hy
  rcases List.mem_append.mp hy with hy | hy
  · exact hold y hy
  · exact List.mem_singleton.mp hy ▸ hnew

theorem exists_exchange {x : GuardianExchange} {motive : GuardianExchange → Prop}
    (h : ∃ y ∈ log, motive y) : ∃ y ∈ log ++ [x], motive y := by
  obtain ⟨y, hy, hmotive⟩ := h
  exact ⟨y, List.mem_append_left _ hy, hmotive⟩

/-- What a request may do to a ledger that neither begins, releases nor cancels. -/
theorem RecoveryLedger.neutral {x : GuardianExchange} (h : RecoveryLedger crypto entry log)
    (hneutral : x.Neutral) (hrecoveries : entry'.recoveries = entry.recoveries)
    (htombstones : entry'.provision.epochStore.recoveryCancellationTombstones =
      entry.provision.epochStore.recoveryCancellationTombstones)
    (hcaptured : ∀ (guardianEpoch : UInt64) (drains : DrainingGuardianEpoch),
      entry'.provision.epochStore.draining[guardianEpoch]? = some drains →
        entry.provision.epochStore.draining[guardianEpoch]? = some drains ∨
        ∀ requestId ∈ drains.pendingRequestIds,
          x.Captures drains.record.policy.configRef requestId) :
    RecoveryLedger crypto entry' (log ++ [x]) where
  begun requestId pending hfound := by
    rw [hrecoveries] at hfound
    obtain ⟨hid, hdigest, hbegins⟩ := h.begun _ _ hfound
    exact ⟨hid, hdigest, exists_exchange hbegins⟩
  cancelled := by
    rw [hrecoveries, htombstones]
    exact forall_exchange h.cancelled fun _ hcancels => absurd hcancels (hneutral.cancels _)
  released := by
    rw [hrecoveries]
    exact forall_exchange h.released fun _ hreleases => absurd hreleases (hneutral.contributes _)
  captured guardianEpoch drains hfound requestId hpending := by
    rcases hcaptured guardianEpoch drains hfound with hold | hnew
    · exact exists_exchange (h.captured _ _ hold _ hpending)
    · exact ⟨x, List.mem_append_right _ (List.mem_singleton_self x), hnew _ hpending⟩

/-! ### Rotation requests -/

/-- What a rotation request leaves of the recoveries: all but the epoch it may start to drain. -/
structure RecoveriesKept (entry entry' : GuardianRotationEntryV3)
    (response : Option GuardianRotationResponseV3) : Prop where
  recoveries : entry'.recoveries = entry.recoveries
  tombstones : entry'.provision.epochStore.recoveryCancellationTombstones =
    entry.provision.epochStore.recoveryCancellationTombstones
  draining : ∀ (guardianEpoch : UInt64) (drains : DrainingGuardianEpoch),
    entry'.provision.epochStore.draining[guardianEpoch]? = some drains →
      entry.provision.epochStore.draining[guardianEpoch]? = some drains ∨
      (∃ guardianEpoch, response = some (.activated guardianEpoch)) ∧
        (∃ old, entry.provision.epochStore.active = some old ∧
          old.policy.configRef = drains.record.policy.configRef) ∧
        drains.pendingRequestIds = pendingOldRecoveryIds entry

theorem RecoveriesKept.of_draining {response : Option GuardianRotationResponseV3}
    (hrecoveries : entry'.recoveries = entry.recoveries)
    (htombstones : entry'.provision.epochStore.recoveryCancellationTombstones =
      entry.provision.epochStore.recoveryCancellationTombstones)
    (hdraining : entry'.provision.epochStore.draining = entry.provision.epochStore.draining) :
    RecoveriesKept entry entry' response :=
  ⟨hrecoveries, htombstones, fun _ _ hfound => Or.inl (hdraining ▸ hfound)⟩

theorem SessionMoved.recoveries {plan : RotationPlan}
    (h : SessionMoved crypto vault node entry plan entry') : entry'.recoveries = entry.recoveries := by
  cases h <;> rfl

theorem RotationServed.recoveriesKept {request : GuardianRotationRequestV3}
    {response : Option GuardianRotationResponseV3}
    (h : RotationServed crypto vault node call entry request response entry') :
    RecoveriesKept entry entry' response := by
  cases h with
  | refused => exact .of_draining rfl rfl rfl
  | begun => exact .of_draining rfl rfl rfl
  | begunBefore => exact .of_draining rfl rfl rfl
  | worked _ _ hworked => cases hworked <;> exact .of_draining rfl rfl rfl
  | moved hmoved => cases hmoved <;> exact .of_draining rfl rfl rfl
  | preparedLate hprepared =>
    obtain ⟨-, hstore⟩ := GuardianEpochStore.prepareSuccessor_eq_ok hprepared.store
    simp only [hstore]
    exact .of_draining rfl rfl rfl
  | prepared hprepared =>
    obtain ⟨-, hstore⟩ := GuardianEpochStore.prepareSuccessor_eq_ok hprepared.store
    simp only [hstore]
    exact .of_draining rfl rfl rfl
  | ended _ _ hmoved hstore =>
    obtain ⟨-, -, rfl⟩ := GuardianEpochStore.abortPrepared_eq_ok.mp hstore
    exact .of_draining hmoved.recoveries rfl rfl
  | activationFailed _ hstore =>
    rcases activateStore_eq_error hstore with rfl | ⟨-, _, rfl⟩ <;> exact .of_draining rfl rfl rfl
  | @activated _ _ _ _ _ _ store _ hstore =>
    have hactivated := activateStore_eq_ok hstore
    refine ⟨rfl, hactivated.recoveryTombstones, fun guardianEpoch drains hfound => ?_⟩
    change store.draining[guardianEpoch]? = some drains at hfound
    rcases hactivated.draining with hsame | ⟨old, drained, hold, href, hpending, hinsert⟩
    · exact Or.inl (hsame ▸ hfound)
    · rw [hinsert, Std.TreeMap.getElem?_insert] at hfound
      split at hfound
      · cases hfound
        exact Or.inr ⟨⟨_, rfl⟩, ⟨old, hold, href.symm⟩, hpending⟩
      · exact Or.inl hfound
  | retired _ hstore =>
    obtain ⟨draining, -, -, -, rfl⟩ := GuardianEpochStore.retireEpoch_eq_ok hstore
    refine ⟨rfl, rfl, fun guardianEpoch drains hfound => Or.inl ?_⟩
    simp only [GuardianRotationEntryV3.withStore, Std.TreeMap.getElem?_erase] at hfound
    split at hfound
    · cases hfound
    · exact hfound

/-! ### Recovery requests -/

/-- A record that is found is of exactly the epoch asked for: active, or draining the request. -/
theorem recordForRequest_eq_ok {configRef : ConfigRef} {requestId : Id32}
    {record : GuardianRecordV3} (h : recordForRequest entry configRef requestId true = .ok record) :
    record.policy.configRef = configRef ∧
      (entry.provision.epochStore.active = some record ∨
        ∃ drains, entry.provision.epochStore.draining[configRef.guardianEpoch]? = some drains ∧
          drains.record = record ∧ requestId ∈ drains.pendingRequestIds) := by
  unfold recordForRequest at h
  split at h
  · next hactive =>
    cases h
    obtain ⟨hactive, href⟩ := Option.filter_eq_some_iff.mp hactive
    exact ⟨of_decide_eq_true href, Or.inl hactive⟩
  · simp only [Checks.bind_eq_ok, okOr_eq_ok, bailIf_eq_ok, true_and, not_not, exists_const,
      Except.ok.injEq] at h
    obtain ⟨drains, hfound, hpending, rfl⟩ := h
    obtain ⟨hfound, href⟩ := Option.filter_eq_some_iff.mp hfound
    exact ⟨of_decide_eq_true href, Or.inr ⟨drains, hfound, rfl, hpending⟩⟩

/-- The digest a Begin has checked is the request's own. -/
theorem recoveryBeginChecks_eq_ok {certificate : BeginRecoveryCertificateV3}
    {active : GuardianRecordV3} {digest : Id32}
    (h : recoveryBeginChecks crypto call entry certificate = .ok (active, digest)) :
    recoveryRequestDigestV3 crypto certificate.request = .ok digest ∧
      certificate.request.requestId ∉
        entry.provision.epochStore.recoveryCancellationTombstones := by
  simp only [recoveryBeginChecks, validateBeginRecoveryCertificateV3, validateRecoveryRequestV3,
    validateRecoveryRequestForRefV3, Checks.bind_eq_ok, bailIf_eq_ok, exists_const,
    Except.ok.injEq, Prod.mk.injEq] at h
  obtain ⟨_, -, -, found, ⟨_, ⟨-, hdigest⟩, _, -, -, _, -, rfl⟩, hlive, -, rfl⟩ := h
  exact ⟨hdigest, hlive⟩

/-- A Cancel that passes its checks has not been released. -/
theorem recoveryCancelChecks_unreleased {request : RecoveryRequestV3}
    {certificate : OwnerRecoveryCancelCertificateV3} {digest : Id32}
    (h : recoveryCancelChecks crypto call entry request certificate = .ok digest)
    {pending : PendingNetworkRecoveryV3} (hfound : entry.recoveries[request.requestId]? = some pending) :
    pending.released = false := by
  simp only [recoveryCancelChecks, Checks.bind_eq_ok, hfound, bailIf_eq_ok, exists_const] at h
  obtain ⟨_, -, _, -, -, hunreleased, -⟩ := h
  exact Bool.eq_false_iff.mpr hunreleased

/-- What a Release must find. -/
structure ReleaseReady (crypto : Crypto) (call : GuardianCall) (entry : GuardianRotationEntryV3)
    (request : RecoveryRequestV3) (certificate : RecoveryReleaseCertificateV3)
    (record : GuardianRecordV3) (pending : PendingNetworkRecoveryV3) (digest : Id32) : Prop where
  certificate : validateRecoveryReleaseCertificateForRefV3 crypto certificate
    entry.provision.predecessorCapsule request.configRef call.wallNow = .ok digest
  record : recordForRequest entry request.configRef request.requestId true = .ok record
  found : entry.recoveries[request.requestId]? = some pending
  same : pending.request = request
  digest : pending.requestDigest = digest
  live : pending.cancelled = false
  unreleased : pending.released = false
  boot : pending.bootId = call.bootId
  due : pending.notBeforeMonotonic ≤ call.monotonicNow
  unexpired : call.wallNow < pending.request.expiry

theorem recoveryReleaseChecks_eq_ok {request : RecoveryRequestV3}
    {certificate : RecoveryReleaseCertificateV3} {record : GuardianRecordV3}
    {pending : PendingNetworkRecoveryV3} {digest : Id32}
    (h : recoveryReleaseChecks crypto call entry request certificate =
      .ok (record, pending, digest)) :
    ReleaseReady crypto call entry request certificate record pending digest := by
  simp only [recoveryReleaseChecks, Checks.bind_eq_ok, okOr_eq_ok, bailIf_eq_ok, exists_const,
    not_or, not_not, ne_eq, UInt64.not_lt, UInt64.not_le, Bool.not_eq_true, Except.ok.injEq,
    Prod.mk.injEq] at h
  obtain ⟨_, hcertificate, _, hrecord, _, hfound, ⟨hsame, hdigest⟩, ⟨hlive, hunreleased, -⟩,
    ⟨hboot, hdue, hunexpired⟩, rfl, rfl, rfl⟩ := h
  exact ⟨hcertificate, hrecord, hfound, hsame, hdigest, hlive, hunreleased, hboot, hdue,
    hunexpired⟩

/-! ### The ledger of a run -/

theorem recoveryLedger_provisioned (h : ProvisionedStore provision.predecessorCapsule
    provision.epochStore) : RecoveryLedger crypto provision.entry [] where
  begun requestId pending hfound := by simp [GuardianRotationProvisionV3.entry] at hfound
  cancelled x hx := by simp at hx
  released x hx := by simp at hx
  captured guardianEpoch drains hfound := by
    change provision.epochStore.draining[guardianEpoch]? = some drains at hfound
    rcases h with heq | ⟨record, -, heq⟩ <;> rw [heq] at hfound <;>
      simp [GuardianEpochStore.newCandidate, GuardianEpochStore.new] at hfound

theorem RecoveryLedger.begun_step {certificate : BeginRecoveryCertificateV3}
    {active : GuardianRecordV3} {digest : Id32} (h : RecoveryLedger crypto entry log)
    (hchecks : recoveryBeginChecks crypto call entry certificate = .ok (active, digest))
    (hfresh : entry.recoveries[certificate.request.requestId]? = none) :
    RecoveryLedger crypto
      (entry.putRecovery certificate.request.requestId
        (begunRecovery node call certificate.request active digest))
      (log ++ [⟨entry, call, .recovery (.begin certificate), some (.recovery (.beginAccepted
        (begunRecovery node call certificate.request active digest).notBeforeMonotonic))⟩]) where
  begun requestId pending hfound := by
    obtain ⟨hdigest, -⟩ := recoveryBeginChecks_eq_ok hchecks
    rcases getElem?_insert_iff.mp hfound with ⟨rfl, rfl⟩ | ⟨-, hold⟩
    · exact ⟨rfl, hdigest, _, List.mem_append_right _ (List.mem_singleton_self _),
        ⟨⟨certificate, rfl, rfl⟩, rfl⟩, rfl⟩
    · obtain ⟨hid, hdigest', hbegins⟩ := h.begun _ _ hold
      exact ⟨hid, hdigest', exists_exchange hbegins⟩
  cancelled := by
    obtain ⟨-, hlive⟩ := recoveryBeginChecks_eq_ok hchecks
    refine forall_exchange (fun y hy requestId hcancels => ?_) fun _ ⟨_, hresponse, _⟩ => by
      cases hresponse
    obtain ⟨htombstone, hpending⟩ := h.cancelled y hy requestId hcancels
    refine ⟨htombstone, fun pending hfound => ?_⟩
    rcases getElem?_insert_iff.mp hfound with ⟨rfl, -⟩ | ⟨-, hold⟩
    · exact absurd htombstone hlive
    · exact hpending pending hold
  released := by
    refine forall_exchange (fun y hy contribution hcontributes => ?_) fun _ hresponse => by
      cases hresponse
    obtain ⟨pending, hfound, hreleased⟩ := h.released y hy contribution hcontributes
    refine ⟨pending, getElem?_insert_iff.mpr (Or.inr ⟨fun hid => ?_, hfound⟩), hreleased⟩
    rw [hid, hfresh] at hfound
    cases hfound
  captured guardianEpoch drains hfound requestId hpending :=
    exists_exchange (h.captured guardianEpoch drains hfound requestId hpending)

/-- A cancelled request is found as before, but for the mark. -/
theorem cancelledEntry_recoveries {request : RecoveryRequestV3} {digest requestId : Id32}
    {pending : PendingNetworkRecoveryV3} :
    (cancelledEntry request digest entry).recoveries[requestId]? = some pending ↔
      (requestId = request.requestId ∧ ∃ found, entry.recoveries[requestId]? = some found ∧
        pending = { found with cancelled := true }) ∨
      requestId ≠ request.requestId ∧ entry.recoveries[requestId]? = some pending := by
  cases hfound : entry.recoveries[request.requestId]? with
  | none =>
    simp only [cancelledEntry, hfound, GuardianRotationEntryV3.withStore]
    by_cases hid : requestId = request.requestId
    · subst hid
      simp [hfound]
    · simp [hid]
  | some found =>
    simp only [cancelledEntry, hfound, GuardianRotationEntryV3.withStore,
      GuardianRotationEntryV3.putRecovery, getElem?_insert_iff]
    by_cases hid : requestId = request.requestId
    · subst hid
      simp [hfound]
    · simp [hid]

theorem cancelledEntry_store {request : RecoveryRequestV3} {digest : Id32} :
    (cancelledEntry request digest entry).provision.epochStore =
      { entry.provision.epochStore with
        recoveryCancellationTombstones :=
          entry.provision.epochStore.recoveryCancellationTombstones.insert request.requestId
            digest } := by
  cases hfound : entry.recoveries[request.requestId]? <;>
    simp [cancelledEntry, hfound, GuardianRotationEntryV3.withStore,
      GuardianRotationEntryV3.putRecovery]

theorem RecoveryLedger.cancelled_step {request : RecoveryRequestV3} {digest : Id32}
    {x : GuardianExchange} (h : RecoveryLedger crypto entry log)
    (hcontributes : ∀ contribution, ¬x.Contributes contribution)
    (hcancels : ∀ requestId, x.CancelsRecovery requestId → requestId = request.requestId) :
    RecoveryLedger crypto (cancelledEntry request digest entry) (log ++ [x]) where
  begun requestId pending hfound := by
    rcases cancelledEntry_recoveries.mp hfound with ⟨-, found, hold, rfl⟩ | ⟨-, hold⟩
    · obtain ⟨hid, hdigest, hbegins⟩ := h.begun _ _ hold
      exact ⟨hid, hdigest, exists_exchange hbegins⟩
    · obtain ⟨hid, hdigest, hbegins⟩ := h.begun _ _ hold
      exact ⟨hid, hdigest, exists_exchange hbegins⟩
  cancelled := by
    rw [cancelledEntry_store]
    refine forall_exchange (fun y hy requestId hy' => ?_) fun requestId hx => ?_
    · obtain ⟨htombstone, hpending⟩ := h.cancelled y hy requestId hy'
      refine ⟨Std.TreeMap.mem_insert.mpr (Or.inr htombstone), fun pending hfound => ?_⟩
      rcases cancelledEntry_recoveries.mp hfound with ⟨-, found, hold, rfl⟩ | ⟨-, hold⟩
      · rfl
      · exact hpending pending hold
    · have hid := hcancels requestId hx
      subst hid
      refine ⟨Std.TreeMap.mem_insert_self, fun pending hfound => ?_⟩
      rcases cancelledEntry_recoveries.mp hfound with ⟨-, found, hold, rfl⟩ | ⟨hne, -⟩
      · rfl
      · exact absurd rfl hne
  released := by
    refine forall_exchange (fun y hy contribution hy' => ?_) fun _ hx => absurd hx (hcontributes _)
    obtain ⟨pending, hfound, hreleased⟩ := h.released y hy contribution hy'
    by_cases hid : contribution.requestId = request.requestId
    · exact ⟨_, cancelledEntry_recoveries.mpr (Or.inl ⟨hid, pending, hfound, rfl⟩), hreleased⟩
    · exact ⟨_, cancelledEntry_recoveries.mpr (Or.inr ⟨hid, hfound⟩), hreleased⟩
  captured guardianEpoch drains hfound requestId hpending := by
    rw [cancelledEntry_store] at hfound
    exact exists_exchange (h.captured guardianEpoch drains hfound requestId hpending)

/-- Finishing a request leaves what drains, but for that request. -/
theorem finishedStore_draining {store : GuardianEpochStore} {epoch guardianEpoch : UInt64}
    {requestId : Id32} {drains : DrainingGuardianEpoch}
    (h : (finishedStore epoch requestId store).draining[guardianEpoch]? = some drains) :
    ∃ found : DrainingGuardianEpoch, store.draining[guardianEpoch]? = some found ∧
      drains.record = found.record ∧ drains.pendingRequestIds ⊆ found.pendingRequestIds := by
  cases hfound : store.draining[epoch]? with
  | none =>
    simp only [finishedStore, hfound] at h
    exact ⟨drains, h, rfl, Finset.Subset.refl _⟩
  | some found =>
    simp only [finishedStore, hfound] at h
    rcases getElem?_insert_iff.mp h with ⟨rfl, rfl⟩ | ⟨-, hold⟩
    · exact ⟨found, hfound, rfl, Finset.erase_subset _ _⟩
    · exact ⟨drains, hold, rfl, Finset.Subset.refl _⟩

theorem finishedStore_tombstones {store : GuardianEpochStore} {epoch : UInt64} {requestId : Id32} :
    (finishedStore epoch requestId store).recoveryCancellationTombstones =
      store.recoveryCancellationTombstones := by
  unfold finishedStore
  split <;> rfl

theorem RecoveryLedger.released_step {request : RecoveryRequestV3}
    {certificate : RecoveryReleaseCertificateV3} {record : GuardianRecordV3}
    {pending : PendingNetworkRecoveryV3} {digest : Id32}
    {contribution : GuardianRecoveryContributionV3} (h : RecoveryLedger crypto entry log)
    (hready : ReleaseReady crypto call entry request certificate record pending digest)
    (hid : contribution.requestId = request.requestId) :
    RecoveryLedger crypto
      ((entry.putRecovery request.requestId { pending with released := true }).withStore
        (finishedStore request.configRef.guardianEpoch request.requestId
          entry.provision.epochStore))
      (log ++ [⟨entry, call, .recovery (.release request certificate),
        some (.recovery (.contribution contribution))⟩]) where
  begun requestId found hfound := by
    rcases getElem?_insert_iff.mp hfound with ⟨rfl, rfl⟩ | ⟨-, hold⟩
    · obtain ⟨hid, hdigest, hbegins⟩ := h.begun _ _ hready.found
      exact ⟨hid, hdigest, exists_exchange hbegins⟩
    · obtain ⟨hid, hdigest, hbegins⟩ := h.begun _ _ hold
      exact ⟨hid, hdigest, exists_exchange hbegins⟩
  cancelled := by
    refine forall_exchange (fun y hy requestId hcancels => ?_) fun _ ⟨_, hresponse, _⟩ => by
      cases hresponse
    obtain ⟨htombstone, hpending⟩ := h.cancelled y hy requestId hcancels
    refine ⟨?_, fun found hfound => ?_⟩
    · change requestId ∈ (finishedStore _ _ _).recoveryCancellationTombstones
      rw [finishedStore_tombstones]
      exact htombstone
    · rcases getElem?_insert_iff.mp hfound with ⟨rfl, -⟩ | ⟨-, hold⟩
      · have hcancelled := hpending pending hready.found
        rw [hready.live] at hcancelled
        cases hcancelled
      · exact hpending found hold
  released := by
    refine forall_exchange (fun y hy other hother => ?_) fun other hother => ?_
    · obtain ⟨found, hfound, hreleased⟩ := h.released y hy other hother
      by_cases hsame : other.requestId = request.requestId
      · exact ⟨_, getElem?_insert_iff.mpr (Or.inl ⟨hsame, rfl⟩), rfl⟩
      · exact ⟨_, getElem?_insert_iff.mpr (Or.inr ⟨hsame, hfound⟩), hreleased⟩
    · cases hother
      exact ⟨_, getElem?_insert_iff.mpr (Or.inl ⟨hid, rfl⟩), rfl⟩
  captured guardianEpoch drains hfound requestId hpending := by
    obtain ⟨found, hold, hrecord, hsubset⟩ := finishedStore_draining hfound
    rw [hrecord]
    exact exists_exchange (h.captured guardianEpoch found hold requestId (hsubset hpending))

/-- The ledger after a recovery request. -/
theorem RecoveryLedger.recovery {request : GuardianRecoveryRequestV3}
    {response : Option GuardianRecoveryResponseV3} (h : RecoveryLedger crypto entry log)
    (hserved : RecoveryServed crypto node call entry request response entry') :
    RecoveryLedger crypto entry'
      (log ++ [⟨entry, call, .recovery request, response.map .recovery⟩]) := by
  cases hserved with
  | refused =>
    exact h.neutral (GuardianExchange.neutral_of (by simp) (by simp)) rfl rfl fun _ _ hfound => Or.inl hfound
  | begunBefore hfound hsame =>
    exact h.neutral (GuardianExchange.neutral_of (by simp) (by simp)) rfl rfl fun _ _ hfound => Or.inl hfound
  | begun hchecks hfresh => exact h.begun_step hchecks hfresh
  | cancelledLate hchecks =>
    refine h.cancelled_step (fun _ => by simp [GuardianExchange.Contributes]) fun _ hcancels => ?_
    obtain ⟨_, hresponse, -⟩ := hcancels
    cases hresponse
  | cancelled hchecks hack =>
    refine h.cancelled_step (fun _ => by simp [GuardianExchange.Contributes]) fun _ hcancels => ?_
    obtain ⟨_, hresponse, rfl⟩ := hcancels
    cases hresponse
    exact hack
  | released hchecks hmaterial =>
    exact h.released_step (recoveryReleaseChecks_eq_ok hchecks) (congrArg (·.requestId) hmaterial)

theorem recoveryLedger_invariant :
    GuardianInvariant crypto vault node (RecoveryLedger crypto) where
  served h hserved := by
    cases hserved with
    | rotation hrotation =>
      have hkept := hrotation.recoveriesKept
      refine h.neutral (GuardianExchange.neutral_of (by simp) (by simp)) hkept.recoveries hkept.tombstones ?_
      intro guardianEpoch drains hfound
      rcases hkept.draining _ _ hfound with hsame | ⟨⟨epoch, hresponse⟩, hactive, hpending⟩
      · exact Or.inl hsame
      · refine Or.inr fun requestId hmem => ⟨⟨epoch, ?_⟩, hactive, hpending ▸ hmem⟩
        simp [hresponse]
    | recovery hrecovery => exact h.recovery hrecovery
  refused h hrefused :=
    h.neutral (GuardianExchange.neutral_of (by simp [hrefused]) (by simp [hrefused])) rfl rfl
      fun _ _ hfound => Or.inl hfound

/-! ### Cancel and release -/

/-- What one contribution of a run rests on. -/
structure ContributionGrounds (crypto : Crypto) (before : List GuardianExchange)
    (x : GuardianExchange) (request : RecoveryRequestV3)
    (certificate : RecoveryReleaseCertificateV3)
    (contribution : GuardianRecoveryContributionV3) : Prop where
  begun : ∃ y ∈ before, ∃ notBefore, y.BeginsRecovery request notBefore ∧
    y.call.bootId = x.call.bootId ∧ notBefore ≤ x.call.monotonicNow
  unexpired : x.call.wallNow < request.expiry
  released : ∃ digest, recoveryRequestDigestV3 crypto request = .ok digest ∧
    validateRecoveryReleaseCertificateForRefV3 crypto certificate
      x.entry.provision.predecessorCapsule request.configRef x.call.wallNow = .ok digest
  record : ∃ record digest, record.policy.configRef = request.configRef ∧
    { contribution with guardianSignature := [] } = recoveredMaterial record request digest ∧
    (x.entry.provision.epochStore.active = some record ∨
      (∃ drains, x.entry.provision.epochStore.draining[request.configRef.guardianEpoch]? =
        some drains ∧ drains.record = record) ∧
      ∃ y ∈ before, y.Captures request.configRef request.requestId)

/-- Cancel and release of a request exclude each other, and a release is grounded. -/
structure RecoveryExclusive (crypto : Crypto) (log : List GuardianExchange) : Prop where
  cancelOrRelease : ∀ x ∈ log, ∀ y ∈ log, ∀ contribution, x.Contributes contribution →
    ¬y.CancelsRecovery contribution.requestId
  once : log.Pairwise fun x y => ∀ contribution contribution', x.Contributes contribution →
    y.Contributes contribution' → contribution.requestId ≠ contribution'.requestId
  grounded : ∀ before x after contribution, log = before ++ x :: after →
    x.Contributes contribution → ∃ request certificate,
      x.request = .recovery (.release request certificate) ∧
      contribution.requestId = request.requestId ∧
      ContributionGrounds crypto before x request certificate contribution

theorem contributes_served {x : GuardianExchange} {contribution : GuardianRecoveryContributionV3}
    (hserved : GuardianServed crypto vault node x.call x.entry x.request x.response entry')
    (h : x.Contributes contribution) :
    ∃ request certificate record pending digest,
      x.request = .recovery (.release request certificate) ∧
      ReleaseReady crypto x.call x.entry request certificate record pending digest ∧
      { contribution with guardianSignature := [] } = recoveredMaterial record request digest := by
  obtain ⟨entry, call, request, response⟩ := x
  simp only [GuardianExchange.Contributes] at h hserved ⊢
  subst h
  generalize hresponse : some (GuardianResponse.recovery (.contribution contribution)) = response
    at hserved
  cases hserved with
  | rotation => simp [eq_comm] at hresponse
  | recovery hrecovery =>
    cases hrecovery <;> simp at hresponse
    case released hchecks hmaterial =>
      subst hresponse
      exact ⟨_, _, _, _, _, rfl, recoveryReleaseChecks_eq_ok hchecks, hmaterial⟩

theorem cancels_served {x : GuardianExchange} {requestId : Id32}
    (hserved : GuardianServed crypto vault node x.call x.entry x.request x.response entry')
    (h : x.CancelsRecovery requestId) :
    ∃ request certificate digest, request.requestId = requestId ∧
      recoveryCancelChecks crypto x.call x.entry request certificate = .ok digest := by
  obtain ⟨entry, call, request, response⟩ := x
  obtain ⟨ack, hack, rfl⟩ := h
  simp only at hack hserved ⊢
  subst hack
  generalize hresponse : some (GuardianResponse.recovery (.cancelled ack)) = response at hserved
  cases hserved with
  | rotation => simp [eq_comm] at hresponse
  | recovery hrecovery =>
    cases hrecovery <;> simp at hresponse
    case cancelled hchecks hid =>
      subst hresponse
      exact ⟨_, _, _, hid.symm, hchecks⟩

/-- A contribution of a run is grounded in what came before it. -/
theorem contribution_grounds {before : List GuardianExchange} {x : GuardianExchange}
    {contribution : GuardianRecoveryContributionV3}
    (hledger : RecoveryLedger crypto x.entry before)
    (hserved : GuardianServed crypto vault node x.call x.entry x.request x.response entry')
    (h : x.Contributes contribution) :
    ∃ request certificate, x.request = .recovery (.release request certificate) ∧
      contribution.requestId = request.requestId ∧
      ContributionGrounds crypto before x request certificate contribution := by
  obtain ⟨request, certificate, record, pending, digest, hrequest, hready, hmaterial⟩ :=
    contributes_served hserved h
  obtain ⟨-, hdigest, b, hb, hbegins, hboot⟩ := hledger.begun _ _ hready.found
  rw [hready.same] at hdigest hbegins
  obtain ⟨href, hrecord⟩ := recordForRequest_eq_ok hready.record
  refine ⟨request, certificate, hrequest, congrArg (·.requestId) hmaterial,
    ⟨b, hb, _, hbegins, hboot.trans hready.boot, hready.due⟩, ?_, ⟨digest, ?_, hready.certificate⟩,
    record, digest, href, hmaterial, hrecord.imp_right ?_⟩
  · rw [← hready.same]
    exact hready.unexpired
  · rw [hdigest, hready.digest]
  · rintro ⟨drains, hdrains, rfl, hpending⟩
    have hcaptured := hledger.captured _ _ hdrains _ hpending
    rw [href] at hcaptured
    exact ⟨⟨drains, hdrains, rfl⟩, hcaptured⟩

/-- Of two exchanges not one releases what the other cancels. -/
def GuardianExchange.Apart (x y : GuardianExchange) : Prop :=
  (∀ contribution, x.Contributes contribution → ¬y.CancelsRecovery contribution.requestId) ∧
    ∀ contribution, y.Contributes contribution → ¬x.CancelsRecovery contribution.requestId

theorem GuardianExchange.apart_self (x : GuardianExchange) : x.Apart x := by
  have h : ∀ contribution, x.Contributes contribution →
      ¬x.CancelsRecovery contribution.requestId := by
    rintro contribution hcontributes ⟨ack, hack, -⟩
    cases hcontributes.symm.trans hack
  exact ⟨h, h⟩

instance : Std.Symm GuardianExchange.Apart := ⟨fun _ _ h => h.symm⟩

/-- Earlier exchanges of the same request shut it. -/
theorem contribution_fresh {before : List GuardianExchange} {x y : GuardianExchange}
    (hledger : RecoveryLedger crypto x.entry before)
    (hserved : GuardianServed crypto vault node x.call x.entry x.request x.response entry')
    (hy : y ∈ before) {contribution : GuardianRecoveryContributionV3}
    (h : x.Contributes contribution) :
    ¬y.CancelsRecovery contribution.requestId ∧
      ∀ contribution', y.Contributes contribution' →
        contribution'.requestId ≠ contribution.requestId := by
  obtain ⟨request, certificate, record, pending, digest, -, hready, hmaterial⟩ :=
    contributes_served hserved h
  have hid : contribution.requestId = request.requestId := congrArg (·.requestId) hmaterial
  rw [hid]
  constructor
  · intro hcancels
    have hcancelled := (hledger.cancelled y hy _ hcancels).2 pending hready.found
    rw [hready.live] at hcancelled
    cases hcancelled
  · intro other hother hsame
    obtain ⟨found, hfound, hreleased⟩ := hledger.released y hy other hother
    rw [hsame, hready.found] at hfound
    cases hfound
    rw [hready.unreleased] at hreleased
    cases hreleased

/-- A request that has been released is not cancelled any more. -/
theorem cancel_unreleased {before : List GuardianExchange} {x y : GuardianExchange}
    (hledger : RecoveryLedger crypto x.entry before)
    (hserved : GuardianServed crypto vault node x.call x.entry x.request x.response entry')
    (hy : y ∈ before) {contribution : GuardianRecoveryContributionV3}
    (hcontributes : y.Contributes contribution) : ¬x.CancelsRecovery contribution.requestId := by
  intro hcancels
  obtain ⟨request, certificate, digest, hid, hchecks⟩ := cancels_served hserved hcancels
  obtain ⟨pending, hfound, hreleased⟩ := hledger.released y hy _ hcontributes
  rw [← hid] at hfound
  rw [recoveryCancelChecks_unreleased hchecks hfound] at hreleased
  cases hreleased

/-- Over any run a guardian releases a recovery request or acknowledges its cancellation, not
both, and once; a release rests on an accepted Begin, its delay and a valid certificate. -/
theorem recovery_exclusive (hprovisioned : GuardianProvisioned crypto provision) :
    RecoveryExclusive crypto (guardianLog crypto vault node provision inputs) := by
  have hrun : HoldsThroughout crypto vault node (RecoveryLedger crypto)
      (guardianRun crypto vault node provision inputs)
      (guardianLog crypto vault node provision inputs) :=
    guardian_run recoveryLedger_invariant (recoveryLedger_provisioned hprovisioned.store)
  have hpairwise : (guardianLog crypto vault node provision inputs).Pairwise fun y x =>
      y.Apart x ∧ ∀ c c', y.Contributes c → x.Contributes c' → c.requestId ≠ c'.requestId := by
    refine Machine.pairwise_of_split fun before x after hsplit y hy => ?_
    obtain ⟨hledger, hresponse⟩ := hrun.found hsplit
    obtain ⟨entry', hserved⟩ := exchange_served hresponse
    have hfresh {contribution : GuardianRecoveryContributionV3} (hc : x.Contributes contribution) :=
      contribution_fresh hledger hserved hy hc
    refine ⟨⟨fun c hc => ?_, fun c hc => (hfresh hc).1⟩, fun c c' hc hc' => (hfresh hc').2 c hc⟩
    exact cancel_unreleased hledger hserved hy hc
  refine ⟨fun x hx y hy => ?_, hpairwise.imp And.right, fun before x after _ hsplit h => ?_⟩
  · have hapart := (hpairwise.imp And.left).forall_of_forall fun x _ => x.apart_self
    exact (hapart hx hy).1
  · obtain ⟨hledger, hresponse⟩ := hrun.found hsplit
    obtain ⟨entry', hserved⟩ := exchange_served hresponse
    exact contribution_grounds hledger hserved h

/-! ### One guardian of the small deployment -/

def sampleGuardianNode : GuardianNode := ⟨sampleGuardianSeed 1, false⟩

def sampleShareKey : Bytes := List.replicate 32 41
def sampleFragmentKey : Bytes := List.replicate 32 42

/-- The share of a participant. -/
def sampleShare (index : ℕ) : Bytes :=
  packFields [beBytes 2 index, beBytes 2 2, beBytes 2 index, beBytes 2 index, [8]]

def sampleEncrypted (key plaintext : Bytes) (context : Put) : AeadCiphertext :=
  ⟨0, envelopeMark key (context.toOption.getD []) ++ plaintext⟩

/-- The policy that a capsule calls for. -/
def policyOf (capsule : ConfigCapsuleV3) (state : GuardianEpochState) : GuardianPolicyV3 where
  configRef := capsule.configRef
  epochState := state
  signerSetCommitment := capsule.signerSetCommitment
  signerCount := capsule.signerCount
  signerThreshold := capsule.signerThreshold
  ownerCancelPublicKey := capsule.ownerCancelPublicKey
  minimumRecoveryDelay := capsule.minimumRecoveryDelay
  guardianMaterialRoot := capsule.guardianMaterialRoot
  dpssSuite := capsule.dpssSuite
  dpssPublicCommitment := capsule.dpssPublicCommitment
  predecessorCapsuleHash := capsule.predecessorCapsuleHash
  activationQcHash := none
  drainDeadline := none

def sampleRecord : GuardianRecordV3 where
  opaqueSlotId := (sampleRoute 1 1).opaqueSlotId
  guardianIndex := 1
  fragmentIndex := 1
  encryptedCiphertextFragment := sampleEncrypted sampleFragmentKey [61]
    (guardianFragmentContextV3 sampleGenesis.configRef 1 1)
  encryptedDekShare := sampleEncrypted sampleShareKey (sampleShare 1)
    (guardianShareContextV3 sampleGenesis.configRef 1)
  merklePathProof := [62]
  custodyRoot := 63
  policy := policyOf sampleGenesis .active

/-- The first guardian of the small deployment. -/
def sampleGuardian : GuardianRotationProvisionV3 where
  signingSeed := sampleGuardianSeed 1
  signingPublicKey := Crypto.transparent.verifyingKeyBytes (sampleGuardianSeed 1)
  recoveryCard := sampleCard 4
  predecessorCapsule := sampleGenesis
  epochStore := .new sampleRecord sampleGenesis.capsuleHash

theorem sampleGuardian_provisioned : GuardianProvisioned Crypto.transparent sampleGuardian where
  capsule := sampleReads_card.2.1
  signingKey := rfl
  store := Or.inr ⟨sampleRecord, rfl, rfl⟩

def guardianInput (wallNow monotonicNow : UInt64) (request : GuardianRequest) : GuardianInput :=
  .request ⟨wallNow, monotonicNow, "boot", fun n => ⟨BitVec.ofNat 256 n, 0⟩⟩ request

def sampleGuardianLog (messages : List DpssProtocolMessage) (inputs : List GuardianInput) :
    List GuardianExchange :=
  guardianLog Crypto.transparent (Vault.transparent [1] messages) sampleGuardianNode sampleGuardian
    inputs

/-- The digest of the sample recovery under id 80. -/
def sampleRecoveryDigest : Id32 := 624359244

def sampleContribution (signerId : UInt16) : SignerRecoveryContributionV3 :=
  let unsigned : SignerRecoveryContributionV3 := {
    request := sampleRecovery 80 sampleGenesis
    signerId := signerId
    signerPublicKey := Crypto.transparent.verifyingKeyBytes (sampleSignerSeed signerId)
    signerMembershipProof := sampleMembershipProof
    encryptedAuthorizationShare := ⟨[1], 0, []⟩
    signerSignature := [] }
  { unsigned with
    signerSignature := signOf (sampleSignerSeed signerId) (signerRecoveryContributionV3 unsigned) }

def sampleRecoveryVote (signerId : UInt16) : SignerRecoveryReleaseVoteV3 :=
  let unsigned : SignerRecoveryReleaseVoteV3 := {
    request := sampleRecovery 80 sampleGenesis
    requestDigest := sampleRecoveryDigest
    signerId := signerId
    signerPublicKey := Crypto.transparent.verifyingKeyBytes (sampleSignerSeed signerId)
    signerMembershipProof := sampleMembershipProof
    signerSignature := [] }
  { unsigned with
    signerSignature := signOf (sampleSignerSeed signerId) (signerRecoveryReleaseVoteV3 unsigned) }

/-- A recovery is begun, and released after its delay. -/
def sampleRecoveryRun : List GuardianInput :=
  [guardianInput 6 0 (.recovery (.begin ⟨sampleRecovery 80 sampleGenesis, sampleRecoveryDigest,
      [1, 2].map sampleContribution⟩)),
    guardianInput 20 10 (.recovery (.release (sampleRecovery 80 sampleGenesis)
      ⟨sampleRecovery 80 sampleGenesis, sampleRecoveryDigest, [1, 2].map sampleRecoveryVote⟩))]

/-- The request a contribution answers. -/
def contributedRequest (x : GuardianExchange) : Option Id32 :=
  match x.response with
  | some (.recovery (.contribution contribution)) => some contribution.requestId
  | _ => none

theorem recovery_exclusive_sample :
    (sampleGuardianLog [] sampleRecoveryRun).map contributedRequest = [none, some 80] ∧
      RecoveryExclusive Crypto.transparent (sampleGuardianLog [] sampleRecoveryRun) := by
  have hreleased : (sampleGuardianLog [] sampleRecoveryRun).map contributedRequest =
      [none, some 80] := by
    decide +kernel
  exact ⟨hreleased, recovery_exclusive sampleGuardian_provisioned⟩

end MasterRecovery
