import MasterRecovery.RecoveryExclusion

/-!
# Draining epochs

What starts an epoch's draining, what it waits for and what ends it. A released request is taken
off the list of its epoch; one that was cancelled or has expired stays on it. The deadline of an
epoch and the clock it is retired by come with requests.
-/

namespace MasterRecovery
open Checks Transcript Wire Act

variable {crypto : Crypto} {vault : Vault} {node : GuardianNode} {call : GuardianCall}
  {entry entry' : GuardianRotationEntryV3} {provision : GuardianRotationProvisionV3}
  {inputs : List GuardianInput} {log : List GuardianExchange} {x : GuardianExchange}
  {guardianEpoch : UInt64}

/-! ### How an epoch comes to drain -/

/-- The recoveries an epoch has to finish when it begins to drain, its deadline, and the plan that
was activated; an epoch that was provisioned draining has none. -/
structure DrainStart where
  captured : Finset Id32
  drainDeadline : UInt64
  plan : Option RotationPlan

namespace GuardianExchange

/-- An accepted Activate over an active record of the epoch. -/
def starts (x : GuardianExchange) (guardianEpoch : UInt64) : Option DrainStart :=
  match x.request, x.response with
  | .rotation (.activate plan _ drainDeadline), some (.rotation (.activated _)) =>
    (x.entry.provision.epochStore.active.filter fun old =>
      old.policy.configRef.guardianEpoch = guardianEpoch).map fun _ =>
        ⟨pendingOldRecoveryIds x.entry, drainDeadline, some plan⟩
  | _, _ => none

/-- A release of the request from the record of the epoch. -/
def ReleasesRecovery (x : GuardianExchange) (guardianEpoch : UInt64) (requestId : Id32) : Prop :=
  ∃ contribution, x.Contributes contribution ∧
    contribution.configRef.guardianEpoch = guardianEpoch ∧ contribution.requestId = requestId

theorem starts_eq_some {start : DrainStart} (h : x.starts guardianEpoch = some start) :
    ∃ plan capsule drainDeadline epoch, x.request = .rotation (.activate plan capsule drainDeadline) ∧
      x.response = some (.rotation (.activated epoch)) ∧
      start = ⟨pendingOldRecoveryIds x.entry, drainDeadline, some plan⟩ := by
  unfold starts at h
  split at h
  · next plan capsule drainDeadline epoch hrequest hresponse =>
    obtain ⟨_, -, rfl⟩ := Option.map_eq_some_iff.mp h
    exact ⟨plan, capsule, drainDeadline, epoch, hrequest, hresponse, rfl⟩
  · cases h

theorem starts_of_refused (h : x.response = none) : x.starts guardianEpoch = none := by
  refine Option.eq_none_iff_forall_ne_some.mpr fun start hstart => ?_
  obtain ⟨_, _, _, _, -, hresponse, -⟩ := starts_eq_some hstart
  cases h.symm.trans hresponse

theorem starts_of_request
    (h : ∀ plan capsule drainDeadline,
      x.request ≠ .rotation (.activate plan capsule drainDeadline)) :
    x.starts guardianEpoch = none := by
  refine Option.eq_none_iff_forall_ne_some.mpr fun start hstart => ?_
  obtain ⟨_, _, _, _, hrequest, -⟩ := starts_eq_some hstart
  exact h _ _ _ hrequest

theorem starts_of_contributes {contribution : GuardianRecoveryContributionV3}
    (h : x.Contributes contribution) : x.starts guardianEpoch = none := by
  refine Option.eq_none_iff_forall_ne_some.mpr fun start hstart => ?_
  obtain ⟨_, _, _, _, -, hresponse, -⟩ := starts_eq_some hstart
  cases h.symm.trans hresponse

end GuardianExchange

/-- How the epoch last came to drain. -/
def drainStart (provision : GuardianRotationProvisionV3) (guardianEpoch : UInt64)
    (log : List GuardianExchange) : Option DrainStart :=
  log.foldl (fun start x => (x.starts guardianEpoch).or start)
    (provision.epochStore.draining[guardianEpoch]?.map fun drains =>
      ⟨drains.pendingRequestIds, drains.drainDeadline, none⟩)

/-- The exchanges since then. -/
def drainingSince (guardianEpoch : UInt64) (log : List GuardianExchange) : List GuardianExchange :=
  log.foldl (fun since x => if (x.starts guardianEpoch).isSome then [] else since ++ [x]) []

theorem drainStart_concat : drainStart provision guardianEpoch (log ++ [x]) =
    (x.starts guardianEpoch).or (drainStart provision guardianEpoch log) := by
  simp [drainStart]

theorem drainingSince_concat : drainingSince guardianEpoch (log ++ [x]) =
    if (x.starts guardianEpoch).isSome then [] else drainingSince guardianEpoch log ++ [x] := by
  simp [drainingSince]

/-! ### One request -/

/-- What one request does to one draining epoch. -/
inductive EpochMoved (x : GuardianExchange) (guardianEpoch : UInt64) :
    Option DrainingGuardianEpoch → Option DrainingGuardianEpoch → Prop
  | kept {drains : Option DrainingGuardianEpoch} (hstarts : x.starts guardianEpoch = none)
    (hreleases : ∀ requestId, ¬x.ReleasesRecovery guardianEpoch requestId) :
    EpochMoved x guardianEpoch drains drains
  | started {found : Option DrainingGuardianEpoch} {drains : DrainingGuardianEpoch}
    {start : DrainStart} (hstarts : x.starts guardianEpoch = some start)
    (hpending : drains.pendingRequestIds = start.captured)
    (hdeadline : drains.drainDeadline = start.drainDeadline) :
    EpochMoved x guardianEpoch found (some drains)
  | absent (hstarts : x.starts guardianEpoch = none) : EpochMoved x guardianEpoch none none
  | finished {contribution : GuardianRecoveryContributionV3} {drains : DrainingGuardianEpoch}
    (hcontributes : x.Contributes contribution)
    (hepoch : contribution.configRef.guardianEpoch = guardianEpoch) :
    EpochMoved x guardianEpoch (some drains) (some { drains with
      pendingRequestIds := drains.pendingRequestIds.erase contribution.requestId })
  | retired {notice : RetirementNotice} {monotonicNow : UInt64} {drains : DrainingGuardianEpoch}
    (hrequest : x.request = .rotation (.retire notice monotonicNow))
    (hepoch : notice.retiredEpoch = guardianEpoch) (hdeadline : drains.drainDeadline ≤ monotonicNow)
    (hempty : drains.pendingRequestIds = ∅) :
    EpochMoved x guardianEpoch (some drains) none

/-- An exchange that starts an epoch's draining leaves it draining under the deadline it states. -/
theorem EpochMoved.of_starts {found left : Option DrainingGuardianEpoch} {start : DrainStart}
    (h : EpochMoved x guardianEpoch found left) (hstarts : x.starts guardianEpoch = some start) :
    ∃ drains, left = some drains ∧ drains.drainDeadline = start.drainDeadline := by
  cases h with
  | kept hnone => cases hstarts.symm.trans hnone
  | started hstarts' _ hdeadline =>
    cases hstarts.symm.trans hstarts'
    exact ⟨_, rfl, hdeadline⟩
  | absent hnone => cases hstarts.symm.trans hnone
  | finished hcontributes =>
    cases hstarts.symm.trans (GuardianExchange.starts_of_contributes hcontributes)
  | retired hrequest =>
    obtain ⟨_, _, _, _, hactivate, -⟩ := GuardianExchange.starts_eq_some hstarts
    cases hrequest.symm.trans hactivate

/-- An activation starts the draining of the active record, under the deadline it is given. -/
theorem activateStore_draining {plan : RotationPlan} {qc : EpochActivationQc × Id32 × Id32}
    {drainDeadline : UInt64} {store store' : GuardianEpochStore}
    (h : activateStore entry plan qc drainDeadline store = .ok () store') :
    (store.active = none ∧ store'.draining = store.draining) ∨
      ∃ (old : GuardianRecordV3) (drains : DrainingGuardianEpoch), store.active = some old ∧
        drains.drainDeadline = drainDeadline ∧
        drains.pendingRequestIds = pendingOldRecoveryIds entry ∧
        store'.draining = store.draining.insert old.policy.configRef.guardianEpoch drains := by
  unfold activateStore at h
  split at h
  · obtain ⟨prepared, drained, -, -, hdrained, rfl⟩ := GuardianEpochStore.activateSuccessor_eq_ok h
    cases hdrained with
    | active hactive hhash => exact Or.inr ⟨_, _, hactive, rfl, rfl, rfl⟩
    | candidate hactive hpending => exact Or.inl ⟨hactive, rfl⟩
  · obtain ⟨old, oldCapsuleHash, hactive, -, -, -, rfl⟩ :=
      GuardianEpochStore.observeReplacementActivation_eq_ok h
    exact Or.inr ⟨old, _, hactive, rfl, rfl, rfl⟩

theorem getElem?_insert_self_or_ne {α : Type} {table : Std.TreeMap UInt64 α} {key other : UInt64}
    {value : α} : (table.insert key value)[other]? = if key = other then some value else table[other]? := by
  rw [Std.TreeMap.getElem?_insert]
  simp

/-- A rotation request, and the epochs that drain. -/
theorem RotationServed.epochMoved {request : GuardianRotationRequestV3}
    {response : Option GuardianRotationResponseV3}
    (h : RotationServed crypto vault node call entry request response entry') :
    EpochMoved ⟨entry, call, .rotation request, response.map .rotation⟩ guardianEpoch
      entry.provision.epochStore.draining[guardianEpoch]?
      entry'.provision.epochStore.draining[guardianEpoch]? := by
  have hreleases (requestId : Id32) : ¬(⟨entry, call, .rotation request, response.map .rotation⟩ :
      GuardianExchange).ReleasesRecovery guardianEpoch requestId := by
    rintro ⟨contribution, hcontributes, -⟩
    simp [GuardianExchange.Contributes] at hcontributes
  cases h with
  | refused => exact .kept (GuardianExchange.starts_of_refused rfl) hreleases
  | begun => exact .kept (GuardianExchange.starts_of_request (by simp)) hreleases
  | begunBefore => exact .kept (GuardianExchange.starts_of_request (by simp)) hreleases
  | worked hworks _ hworked =>
    have hstarts : (⟨entry, call, .rotation request, response.map .rotation⟩ :
        GuardianExchange).starts guardianEpoch = none := by
      refine GuardianExchange.starts_of_request fun plan capsule drainDeadline hrequest => ?_
      cases hrequest
      exact hworks.elim
    cases hworked <;> exact .kept hstarts hreleases
  | moved hmoved =>
    rw [hmoved.provision]
    exact .kept (GuardianExchange.starts_of_refused rfl) hreleases
  | preparedLate hprepared =>
    obtain ⟨-, hstore⟩ := GuardianEpochStore.prepareSuccessor_eq_ok hprepared.store
    simp only [hstore]
    exact .kept (GuardianExchange.starts_of_refused rfl) hreleases
  | prepared hprepared =>
    obtain ⟨-, hstore⟩ := GuardianEpochStore.prepareSuccessor_eq_ok hprepared.store
    simp only [hstore]
    exact .kept (GuardianExchange.starts_of_request (by simp)) hreleases
  | ended hends _ hmoved hstore =>
    obtain ⟨-, -, rfl⟩ := GuardianEpochStore.abortPrepared_eq_ok.mp hstore
    refine .kept (GuardianExchange.starts_of_request fun plan capsule drainDeadline hrequest => ?_)
      hreleases
    cases hrequest
    obtain ⟨_, hcancel⟩ | ⟨_, habort⟩ := hends
    · cases hcancel
    · cases habort
  | activationFailed _ hstore =>
    rcases activateStore_eq_error hstore with rfl | ⟨-, _, rfl⟩ <;>
      exact .kept (GuardianExchange.starts_of_refused rfl) hreleases
  | @activated plan capsule drainDeadline _ _ _ store _ hstore =>
    change EpochMoved _ _ _ store.draining[guardianEpoch]?
    rcases activateStore_draining hstore with ⟨hactive, hsame⟩ | ⟨old, drains, hactive, hdeadline,
      hpending, hinsert⟩
    · rw [hsame]
      exact .kept (by simp [GuardianExchange.starts, hactive]) hreleases
    · rw [hinsert, getElem?_insert_self_or_ne]
      split
      · next hepoch =>
        have hstarts (activated : UInt64) : GuardianExchange.starts ⟨entry, call,
            .rotation (.activate plan capsule drainDeadline), some (.rotation (.activated activated))⟩
              guardianEpoch = some ⟨pendingOldRecoveryIds entry, drainDeadline, some plan⟩ := by
          simp [GuardianExchange.starts, hactive, hepoch]
        exact .started (hstarts _) hpending hdeadline
      · next hepoch => exact .kept (by simp [GuardianExchange.starts, hactive, hepoch]) hreleases
  | @retired notice _ _ _ _ _ hstore =>
    obtain ⟨drains, hfound, hdeadline, hempty, rfl⟩ := GuardianEpochStore.retireEpoch_eq_ok hstore
    simp only [GuardianRotationEntryV3.withStore, Std.TreeMap.getElem?_erase]
    split
    · next hsame =>
      have hepoch : notice.retiredEpoch = guardianEpoch := by simpa using hsame
      rw [← hepoch, hfound]
      exact .retired rfl rfl hdeadline hempty
    · exact .kept (GuardianExchange.starts_of_request (by simp)) hreleases

theorem GuardianExchange.starts_of_recovery {request : GuardianRecoveryRequestV3}
    (h : x.request = .recovery request) : x.starts guardianEpoch = none :=
  starts_of_request fun _ _ _ hrequest => by simp [h] at hrequest

/-- A recovery request, and the epochs that drain. -/
theorem RecoveryServed.epochMoved {request : GuardianRecoveryRequestV3}
    {response : Option GuardianRecoveryResponseV3}
    (h : RecoveryServed crypto node call entry request response entry') :
    EpochMoved ⟨entry, call, .recovery request, response.map .recovery⟩ guardianEpoch
      entry.provision.epochStore.draining[guardianEpoch]?
      entry'.provision.epochStore.draining[guardianEpoch]? := by
  have hstarts : (⟨entry, call, .recovery request, response.map .recovery⟩ :
      GuardianExchange).starts guardianEpoch = none := GuardianExchange.starts_of_recovery rfl
  have hkept (hresponse : ∀ contribution, response ≠ some (.contribution contribution)) :
      EpochMoved ⟨entry, call, .recovery request, response.map .recovery⟩ guardianEpoch
        entry.provision.epochStore.draining[guardianEpoch]?
        entry.provision.epochStore.draining[guardianEpoch]? := by
    refine .kept hstarts ?_
    rintro requestId ⟨contribution, hcontributes, -⟩
    exact hresponse contribution (by simpa [GuardianExchange.Contributes] using hcontributes)
  cases h with
  | refused => exact hkept (by simp)
  | begun => exact hkept (by simp)
  | begunBefore => exact hkept (by simp)
  | cancelledLate =>
    rw [cancelledEntry_store]
    exact hkept (by simp)
  | cancelled =>
    rw [cancelledEntry_store]
    exact hkept (by simp)
  | @released request certificate record pending digest contribution hchecks hmaterial =>
    have href : contribution.configRef = request.configRef := congrArg (·.configRef) hmaterial
    have hid : contribution.requestId = request.requestId := congrArg (·.requestId) hmaterial
    change EpochMoved _ _ _ (finishedStore request.configRef.guardianEpoch request.requestId
      entry.provision.epochStore).draining[guardianEpoch]?
    by_cases hepoch : request.configRef.guardianEpoch = guardianEpoch
    · subst hepoch
      cases hfound : entry.provision.epochStore.draining[request.configRef.guardianEpoch]? with
      | none =>
        simp only [finishedStore, hfound]
        exact .absent hstarts
      | some drains =>
        simp only [finishedStore, hfound, Std.TreeMap.getElem?_insert_self, ← hid]
        exact .finished rfl (congrArg (·.guardianEpoch) href)
    · have hother : (finishedStore request.configRef.guardianEpoch request.requestId
          entry.provision.epochStore).draining[guardianEpoch]? =
          entry.provision.epochStore.draining[guardianEpoch]? := by
        unfold finishedStore
        split
        · simp [getElem?_insert_self_or_ne, hepoch]
        · rfl
      rw [hother]
      refine .kept hstarts ?_
      rintro requestId ⟨other, hcontributes, hreleased, -⟩
      cases hcontributes
      exact hepoch (href ▸ hreleased)

theorem GuardianServed.epochMoved {request : GuardianRequest} {response : Option GuardianResponse}
    (h : GuardianServed crypto vault node call entry request response entry') :
    EpochMoved ⟨entry, call, request, response⟩ guardianEpoch
      entry.provision.epochStore.draining[guardianEpoch]?
      entry'.provision.epochStore.draining[guardianEpoch]? := by
  cases h with
  | rotation hrotation => exact hrotation.epochMoved
  | recovery hrecovery => exact hrecovery.epochMoved

/-! ### Runs -/

/-- The request was released from the epoch since it began to drain. -/
def ReleasedSince (guardianEpoch : UInt64) (log : List GuardianExchange) (requestId : Id32) : Prop :=
  ∃ x ∈ drainingSince guardianEpoch log, x.ReleasesRecovery guardianEpoch requestId

/-- A draining epoch waits for what it captured and has not released, under the deadline it
began with. -/
structure DrainsFrom (guardianEpoch : UInt64) (log : List GuardianExchange) (start : DrainStart)
    (drains : DrainingGuardianEpoch) : Prop where
  deadline : drains.drainDeadline = start.drainDeadline
  pending : ∀ requestId, requestId ∈ drains.pendingRequestIds ↔
    requestId ∈ start.captured ∧ ¬ReleasedSince guardianEpoch log requestId

/-- Every draining epoch of an entry is accounted for. -/
def DrainLedger (provision : GuardianRotationProvisionV3) (entry : GuardianRotationEntryV3)
    (log : List GuardianExchange) : Prop :=
  ∀ (guardianEpoch : UInt64) (drains : DrainingGuardianEpoch),
    entry.provision.epochStore.draining[guardianEpoch]? = some drains →
      ∃ start, drainStart provision guardianEpoch log = some start ∧
        DrainsFrom guardianEpoch log start drains

theorem drainLedger_provisioned : DrainLedger provision provision.entry [] := by
  intro guardianEpoch drains hfound
  change provision.epochStore.draining[guardianEpoch]? = some drains at hfound
  refine ⟨⟨drains.pendingRequestIds, drains.drainDeadline, none⟩, by simp [drainStart, hfound], rfl,
    fun requestId => ?_⟩
  simp [ReleasedSince, drainingSince]

theorem releasedSince_concat {requestId : Id32} (h : x.starts guardianEpoch = none) :
    ReleasedSince guardianEpoch (log ++ [x]) requestId ↔
      ReleasedSince guardianEpoch log requestId ∨ x.ReleasesRecovery guardianEpoch requestId := by
  simp [ReleasedSince, drainingSince_concat, h, or_and_right, exists_or]

/-- What the exchange of a request that starts nothing leaves of an account. -/
theorem DrainsFrom.concat {start : DrainStart} {drains drains' : DrainingGuardianEpoch}
    (h : DrainsFrom guardianEpoch log start drains) (hstarts : x.starts guardianEpoch = none)
    (hdeadline : drains'.drainDeadline = drains.drainDeadline)
    (hpending : ∀ requestId, requestId ∈ drains'.pendingRequestIds ↔
      requestId ∈ drains.pendingRequestIds ∧ ¬x.ReleasesRecovery guardianEpoch requestId) :
    DrainsFrom guardianEpoch (log ++ [x]) start drains' where
  deadline := hdeadline.trans h.deadline
  pending requestId := by
    rw [hpending, h.pending, releasedSince_concat hstarts, not_or, and_assoc]

theorem DrainLedger.concat (h : DrainLedger provision entry log)
    (hmoved : ∀ guardianEpoch, EpochMoved x guardianEpoch
      entry.provision.epochStore.draining[guardianEpoch]?
      entry'.provision.epochStore.draining[guardianEpoch]?) :
    DrainLedger provision entry' (log ++ [x]) := by
  intro guardianEpoch drains' hfound
  have hstep := hmoved guardianEpoch
  rw [hfound] at hstep
  rw [drainStart_concat]
  generalize hbefore : entry.provision.epochStore.draining[guardianEpoch]? = before at hstep
  cases hstep with
  | kept hstarts hreleases =>
    obtain ⟨start, hstart, hdrains⟩ := h _ _ hbefore
    refine ⟨start, by simp [hstarts, hstart], hdrains.concat hstarts rfl fun requestId => ?_⟩
    simp [hreleases requestId]
  | @started _ _ start hstarts hpending hdeadline =>
    refine ⟨start, by simp [hstarts], hdeadline, fun requestId => ?_⟩
    rw [hpending]
    simp [ReleasedSince, drainingSince_concat, hstarts]
  | @finished contribution drains hcontributes hepoch =>
    obtain ⟨start, hstart, hdrains⟩ := h _ _ hbefore
    have hstarts : x.starts guardianEpoch = none :=
      GuardianExchange.starts_of_contributes hcontributes
    refine ⟨start, by simp [hstarts, hstart], hdrains.concat hstarts rfl fun requestId => ?_⟩
    have hreleases : x.ReleasesRecovery guardianEpoch requestId ↔ requestId = contribution.requestId := by
      constructor
      · rintro ⟨other, hother, -, rfl⟩
        cases hcontributes.symm.trans hother
        rfl
      · rintro rfl
        exact ⟨contribution, hcontributes, hepoch, rfl⟩
    rw [Finset.mem_erase, hreleases, and_comm]

theorem drainLedger_invariant : GuardianInvariant crypto vault node (DrainLedger provision) where
  served h hserved := h.concat fun _ => hserved.epochMoved
  refused h hrefused := h.concat fun _ => .kept (GuardianExchange.starts_of_refused hrefused) (by
    rintro requestId ⟨contribution, hcontributes, -⟩
    cases hrefused.symm.trans hcontributes)

theorem drainLedger_run : HoldsThroughout crypto vault node (DrainLedger provision)
    (guardianRun crypto vault node provision inputs)
    (guardianLog crypto vault node provision inputs) :=
  guardian_run drainLedger_invariant drainLedger_provisioned

/-! ### What an epoch waits for -/

/-- The recovery is over: released from the epoch, cancelled by its owner, or expired. -/
inductive RecoveryEnded (guardianEpoch : UInt64) (log : List GuardianExchange)
    (entry : GuardianRotationEntryV3) (wallNow : UInt64) (requestId : Id32) : Prop
  | released (h : ReleasedSince guardianEpoch log requestId)
  | cancelled (h : ∃ x ∈ log, x.CancelsRecovery requestId)
  | expired {pending : PendingNetworkRecoveryV3}
    (hfound : entry.recoveries[requestId]? = some pending)
    (hexpired : pending.request.expiry ≤ wallNow)

/-- Retirement erases the record of the epoch from its deadline on. -/
def RetiresWhenDue (store : GuardianEpochStore) (guardianEpoch : UInt64)
    (drains : DrainingGuardianEpoch) : Prop :=
  ∀ monotonicNow, drains.drainDeadline ≤ monotonicNow → ∃ retired,
    store.retireEpoch guardianEpoch monotonicNow = .ok retired ∧
      guardianEpoch ∉ retired.2.draining

theorem retiresWhenDue_iff {store : GuardianEpochStore} {drains : DrainingGuardianEpoch}
    (hfound : store.draining[guardianEpoch]? = some drains) :
    RetiresWhenDue store guardianEpoch drains ↔ drains.pendingRequestIds = ∅ := by
  constructor
  · intro hretires
    obtain ⟨retired, hretired, -⟩ := hretires drains.drainDeadline (UInt64.le_refl _)
    obtain ⟨drains', hfound', -, hempty, -⟩ := GuardianEpochStore.retireEpoch_eq_ok hretired
    cases hfound.symm.trans hfound'
    exact hempty
  · intro hempty monotonicNow hdue
    refine ⟨(drains.capsuleHash, { store with draining := store.draining.erase guardianEpoch }), ?_,
      by simp⟩
    simpa [GuardianEpochStore.retireEpoch, hfound, hempty, bailIf, Checks.bind_eq_ok] using hdue

/-- Once every recovery that an epoch captured is over, the epoch is retired when due exactly if
all of them were released. -/
theorem ended_epoch_retires_iff {drains : DrainingGuardianEpoch}
    (hdrains : (guardianRun crypto vault node provision inputs).data.provision.epochStore.draining[
      guardianEpoch]? = some drains) :
    let log := guardianLog crypto vault node provision inputs
    let entry := (guardianRun crypto vault node provision inputs).data
    ∃ start, drainStart provision guardianEpoch log = some start ∧ ∀ wallNow,
      (∀ requestId ∈ start.captured, RecoveryEnded guardianEpoch log entry wallNow requestId) →
        (RetiresWhenDue entry.provision.epochStore guardianEpoch drains ↔
          ∀ requestId ∈ start.captured, ReleasedSince guardianEpoch log requestId) := by
  intro log entry
  have hledger := @drainLedger_run crypto vault node provision inputs
  obtain ⟨start, hstart, hfrom⟩ := hledger.data _ _ hdrains
  refine ⟨start, hstart, fun _ _ => ?_⟩
  rw [retiresWhenDue_iff hdrains, Finset.eq_empty_iff_forall_notMem]
  refine forall_congr' fun requestId => ?_
  rw [hfrom.pending, not_and, not_not]

/-! ### Deadlines and clocks -/

/-- The draining epochs a request leaves. -/
def GuardianExchange.drainsAfter (x : GuardianExchange) (crypto : Crypto) (vault : Vault)
    (node : GuardianNode) : Std.TreeMap UInt64 DrainingGuardianEpoch :=
  ((handleGuardian crypto vault node x.call x.request).final x.entry).provision.epochStore.draining

/-- A deadline not before the plan's, and a stated clock that is not ahead of the guardian's at a
deadline. -/
def GuardianExchange.InTime (x : GuardianExchange) : Prop :=
  match x.request with
  | .rotation (.activate plan _ drainDeadline) =>
    x.entry.provision.epochStore.active.isSome = true → plan.drainDeadline ≤ drainDeadline
  | .rotation (.retire notice monotonicNow) =>
    ∀ drains ∈ x.entry.provision.epochStore.draining[notice.retiredEpoch]?,
      drains.drainDeadline ≤ monotonicNow → drains.drainDeadline ≤ x.call.monotonicNow
  | _ => True

/-- Epochs drain under their plan's deadline or a later one, and are gone when the guardian's
own clock has reached it. -/
structure RetiresInTime (crypto : Crypto) (vault : Vault) (node : GuardianNode)
    (provision : GuardianRotationProvisionV3) (log : List GuardianExchange) : Prop where
  deadline : ∀ x ∈ log, ∀ guardianEpoch start, x.starts guardianEpoch = some start →
    ∃ plan, start.plan = some plan ∧ ∃ drains,
      (x.drainsAfter crypto vault node)[guardianEpoch]? = some drains ∧
        plan.drainDeadline ≤ drains.drainDeadline
  clock : ∀ before x after, log = before ++ x :: after → ∀ guardianEpoch drains,
    x.entry.provision.epochStore.draining[guardianEpoch]? = some drains →
      (x.drainsAfter crypto vault node)[guardianEpoch]? = none →
        drains.drainDeadline ≤ x.call.monotonicNow ∧
          ∃ start, drainStart provision guardianEpoch before = some start ∧
            ∀ plan ∈ start.plan, plan.drainDeadline ≤ x.call.monotonicNow

theorem GuardianExchange.epochMoved (x : GuardianExchange)
    (h : x.response = (handleGuardian crypto vault node x.call x.request).returned x.entry) :
    EpochMoved x guardianEpoch x.entry.provision.epochStore.draining[guardianEpoch]?
      (x.drainsAfter crypto vault node)[guardianEpoch]? := by
  have hserved : GuardianServed crypto vault node x.call x.entry x.request
      ((handleGuardian crypto vault node x.call x.request).returned x.entry)
      ((handleGuardian crypto vault node x.call x.request).final x.entry) := guardian_served x.request
  rw [← h] at hserved
  exact hserved.epochMoved

theorem starts_in_time {start : DrainStart} (hstarts : x.starts guardianEpoch = some start)
    (h : x.InTime) : ∃ plan, start.plan = some plan ∧ plan.drainDeadline ≤ start.drainDeadline := by
  obtain ⟨plan, capsule, drainDeadline, epoch, hrequest, hresponse, hstart⟩ :=
    GuardianExchange.starts_eq_some hstarts
  have hactive : x.entry.provision.epochStore.active.isSome = true := by
    by_contra hnone
    rw [Option.not_isSome_iff_eq_none] at hnone
    simp [GuardianExchange.starts, hrequest, hresponse, hnone] at hstarts
  rw [GuardianExchange.InTime, hrequest] at h
  subst hstart
  exact ⟨plan, rfl, h hactive⟩

/-- What began an epoch's draining was in time, if it was an exchange at all. -/
theorem drainStart_in_time {start : DrainStart} (h : ∀ x ∈ log, x.InTime)
    (hstart : drainStart provision guardianEpoch log = some start) :
    ∀ plan ∈ start.plan, plan.drainDeadline ≤ start.drainDeadline := by
  induction log using List.reverseRecOn with
  | nil =>
    intro plan hplan
    simp only [drainStart, List.foldl_nil, Option.map_eq_some_iff] at hstart
    obtain ⟨_, -, rfl⟩ := hstart
    cases hplan
  | append_singleton log x ih =>
    rw [drainStart_concat, Option.or_eq_some_iff] at hstart
    rcases hstart with hnow | ⟨-, hbefore⟩
    · obtain ⟨plan, hplan, hdeadline⟩ := starts_in_time hnow (h x (by simp))
      intro other hother
      cases hplan.symm.trans hother
      exact hdeadline
    · exact ih (fun y hy => h y (List.mem_append_left _ hy)) hbefore

/-- Requests in time retire epochs in time. -/
theorem epochs_retire_in_time
    (h : ∀ x ∈ guardianLog crypto vault node provision inputs, x.InTime) :
    RetiresInTime crypto vault node provision (guardianLog crypto vault node provision inputs) := by
  have hrun : HoldsThroughout crypto vault node (DrainLedger provision)
      (guardianRun crypto vault node provision inputs)
      (guardianLog crypto vault node provision inputs) := drainLedger_run
  refine ⟨fun x hx guardianEpoch start hstarts => ?_, fun before x after hsplit guardianEpoch drains
    hfound hgone => ?_⟩
  · obtain ⟨plan, hplan, hdeadline⟩ := starts_in_time hstarts (h x hx)
    obtain ⟨before, after, hsplit⟩ := List.append_of_mem hx
    have hmoved : EpochMoved x guardianEpoch _ _ := x.epochMoved (hrun.found hsplit).2
    obtain ⟨drains, hdrains, hsame⟩ := hmoved.of_starts hstarts
    exact ⟨plan, hplan, drains, hdrains, hsame ▸ hdeadline⟩
  · have hmoved : EpochMoved x guardianEpoch _ _ := x.epochMoved (hrun.found hsplit).2
    rw [hfound, hgone] at hmoved
    cases hmoved with
    | @retired notice monotonicNow _ hrequest hepoch hdeadline hempty =>
      have hintime := h x (by simp [hsplit])
      rw [GuardianExchange.InTime, hrequest] at hintime
      have hclock := hintime drains (hepoch ▸ hfound) hdeadline
      obtain ⟨start, hstart, hfrom⟩ := (hrun.found hsplit).1 _ _ hfound
      refine ⟨hclock, start, hstart, fun plan hplan => ?_⟩
      have hbefore := drainStart_in_time (fun y hy => h y (by simp [hsplit, hy])) hstart plan hplan
      exact UInt64.le_trans (hfrom.deadline ▸ hbefore) hclock

/-! ### The Begin of the small deployment -/

def sampleBeginHash : Id32 := 1288894752

theorem sampleBegin_checked :
    validateBeginRotationCertificateV3 Crypto.transparent
        (sampleBeginCertificate samplePlan70 samplePlanHash70) samplePlan70 sampleGenesis 20 =
      .ok sampleBeginHash ∧
    hashPlan Crypto.transparent samplePlan70 = .ok samplePlanHash70 :=
  ⟨by decide +kernel, by decide +kernel⟩

theorem samplePlan70_gate {entry : GuardianRotationEntryV3} {wallNow : UInt64}
    (hcapsule : entry.provision.predecessorCapsule = sampleGenesis) (hissued : 5 ≤ wallNow)
    (hlive : wallNow < 100) :
    guardianContextGate entry samplePlan70.context wallNow = .ok () := by
  unfold guardianContextGate
  rw [hcapsule, bailIf_eq_ok]
  have hlength : samplePlan70.context.recipientKey.length = xwingPublicKeyLen :=
    List.length_replicate
  have hversion : samplePlan70.context.protocolVersion = protocolVersionV3 := rfl
  have hconfig : samplePlan70.context.configRef.configId = sampleGenesis.configRef.configId := rfl
  rintro (h | h | h | h | h)
  · exact h hversion
  · exact h hconfig
  · exact absurd h (UInt64.not_lt.mpr hissued)
  · exact absurd h (UInt64.not_le.mpr hlive)
  · exact h hlength

def sampleCall (wallNow monotonicNow : UInt64) : GuardianCall :=
  ⟨wallNow, monotonicNow, "boot", fun n => ⟨BitVec.ofNat 256 n, 0⟩⟩

/-- The session that the Begin starts. -/
def sampleSession (monotonicNow : UInt64) : GuardianRotationSessionV3 where
  rotationMachine :=
    { rotationId := 70
      planHash := samplePlanHash70
      predecessor := samplePlan70.predecessor
      successor := samplePlan70.successor
      state := .delayPending
      notBefore := some (saturatingAdd monotonicNow 10)
      drainDeadline := none
      tombstoned := false
      ambiguous := false }
  planHash := samplePlanHash70
  beginCertificateHash := sampleBeginHash
  acceptedWallTime := 16
  startedMonotonic := monotonicNow
  notBeforeMonotonic := saturatingAdd monotonicNow 10
  bootId := "boot"
  cancelled := false
  nextOutgoingSequences := ∅
  nextIncomingSequences := ∅
  encryptedLocalState := none
  stagedMaterial := none

theorem samplePlan70_keys {key : PublicKey} :
    ∀ route ∈ samplePlan70.oldRoster ++ samplePlan70.newRoster, route.guardianPublicKey = key →
      route.sessionRecipientKey = [1] := by
  simp [samplePlan70, sampleRotation, sampleOldRoster, sampleNewRoster, sampleRoute]

theorem sampleBegin_served {monotonicNow : UInt64}
    (hcapsule : entry.provision.predecessorCapsule = sampleGenesis)
    (hparticipates : Participates entry samplePlan70)
    (hkey : vault.recipientPublicKey node.identitySeed = [1])
    (hdelay : node.allowInsecureDemoDelay = false)
    (hlive : 70 ∉ entry.provision.epochStore.rotationTombstones)
    (hfresh : entry.sessions[(70 : Id32)]? = none) :
    handleGuardian Crypto.transparent vault node (sampleCall 16 monotonicNow)
      (.rotation (.begin samplePlan70 (sampleBeginCertificate samplePlan70 samplePlanHash70)))
      entry = .ok (.rotation (.beginAccepted (saturatingAdd monotonicNow 10)))
        (entry.putSession 70 (sampleSession monotonicNow)) := by
  have hgate : guardianContextGate entry samplePlan70.context 16 = .ok () :=
    samplePlan70_gate hcapsule (by decide) (by decide)
  have hcert : validateBeginRotationCertificateV3 Crypto.transparent
      (sampleBeginCertificate samplePlan70 samplePlanHash70) samplePlan70
      entry.provision.predecessorCapsule 16 = .ok sampleBeginHash := by
    rw [hcapsule]
    exact validateBeginRotationCertificateV3_earlier sampleBegin_checked.1 (by decide) (by decide)
  have hplan : rotationDelay node samplePlan70 = 10 := by
    unfold rotationDelay
    rw [hdelay]
    rfl
  have hid : samplePlan70.context.rotationId = 70 := by decide
  have hnew : RotationMachine.new samplePlan70.context.rotationId samplePlanHash70
      samplePlan70.predecessor samplePlan70.successor = .ok
        { (sampleSession monotonicNow).rotationMachine with
          state := .proposed
          notBefore := none } := by
    rw [hid]
    rfl
  have hbegun : RotationMachine.apply
      { (sampleSession monotonicNow).rotationMachine with
        state := .proposed
        notBefore := none }
      (.beginAccepted monotonicNow (rotationDelay node samplePlan70) true) =
        .ok ([.persistBeginAndWaitUntil (saturatingAdd monotonicNow 10)],
          (sampleSession monotonicNow).rotationMachine) := by
    rw [hplan]
    rfl
  have hkeys : ∀ route ∈ samplePlan70.oldRoster ++ samplePlan70.newRoster,
      route.guardianPublicKey = entry.provision.signingPublicKey →
        route.sessionRecipientKey = vault.recipientPublicKey node.identitySeed :=
    hkey ▸ samplePlan70_keys
  have hserved : guardianBegin Crypto.transparent vault node (sampleCall 16 monotonicNow) _ _
      entry = _ :=
    guardianBegin_fresh hcert hparticipates hkeys sampleBegin_checked.2 (hid.symm ▸ hlive)
      (hid.symm ▸ hfresh) hnew hbegun rfl
  rw [hid] at hserved
  exact map_ok ((handle_of_gate hgate).trans hserved)
/-! ### A guardian that leaves -/

/-- The third guardian of the small deployment, which the rotation replaces. -/
def sampleLeaver : GuardianRotationProvisionV3 :=
  { sampleGuardian with
    signingSeed := sampleGuardianSeed 3
    signingPublicKey := Crypto.transparent.verifyingKeyBytes (sampleGuardianSeed 3)
    epochStore := .new { sampleRecord with guardianIndex := 3 } sampleGenesis.capsuleHash }

theorem sampleLeaver_provisioned : GuardianProvisioned Crypto.transparent sampleLeaver where
  capsule := sampleReads_card.2.1
  signingKey := rfl
  store := Or.inr ⟨{ sampleRecord with guardianIndex := 3 }, rfl, rfl⟩

example : guardianRoute sampleLeaver.entry samplePlan70 true =
    .error "guardian identity is absent or duplicated in the exact plan roster" := by
  decide +kernel

def sampleLeaverNode : GuardianNode := ⟨sampleGuardianSeed 3, false⟩

def sampleLeaverRun (inputs : List GuardianInput) : Persisted GuardianRotationEntryV3 :=
  guardianRun Crypto.transparent (Vault.transparent [1] []) sampleLeaverNode sampleLeaver inputs

def sampleLeaverLog (inputs : List GuardianInput) : List GuardianExchange :=
  guardianLog Crypto.transparent (Vault.transparent [1] []) sampleLeaverNode sampleLeaver inputs

/-- A recovery and the rotation are begun, and the rotation is activated. -/
def sampleCapture (drainDeadline : UInt64) : List GuardianInput :=
  [guardianInput 6 0 (.recovery (.begin ⟨sampleRecovery 80 sampleGenesis, sampleRecoveryDigest,
      [1, 2].map sampleContribution⟩)),
    guardianInput 16 10 (.rotation (.begin samplePlan70
      (sampleBeginCertificate samplePlan70 samplePlanHash70))),
    guardianInput 20 14 (.rotation (.activate samplePlan70 sampleInstalled drainDeadline))]

def sampleRecoveryCancel : OwnerRecoveryCancelCertificateV3 :=
  let unsigned : OwnerRecoveryCancelCertificateV3 := {
    request := sampleRecovery 80 sampleGenesis
    requestDigest := sampleRecoveryDigest
    reasonCode := 1
    cancelResponseRecipientKey := sampleRecipientKey
    ownerCancelPublicKey := Crypto.transparent.verifyingKeyBytes sampleOwnerSeed
    ownerSignature := [] }
  { unsigned with
    ownerSignature := signOf sampleOwnerSeed (ownerRecoveryCancelCertificateV3 unsigned) }

/-- The owner cancels the recovery while its epoch drains. -/
def sampleCancelled : List GuardianInput :=
  sampleCapture 60 ++
    [guardianInput 21 15 (.recovery (.cancel (sampleRecovery 80 sampleGenesis)
      sampleRecoveryCancel))]

/-- The request that an exchange cancels. -/
def cancelledRequest (x : GuardianExchange) : Option Id32 :=
  match x.response with
  | some (.recovery (.cancelled ack)) => some ack.requestId
  | _ => none

theorem cancelsRecovery_of_cancelledRequest {requestId : Id32}
    (h : cancelledRequest x = some requestId) : x.CancelsRecovery requestId := by
  unfold cancelledRequest at h
  split at h
  · next ack hresponse =>
    cases h
    exact ⟨ack, hresponse, rfl⟩
  · cases h

def sampleRecoveryBegin : GuardianRequest :=
  .recovery (.begin ⟨sampleRecovery 80 sampleGenesis, sampleRecoveryDigest,
    [1, 2].map sampleContribution⟩)

def sampleLeaverServe (call : GuardianCall) (request : GuardianRequest) :
    Act GuardianRotationEntryV3 GuardianResponse :=
  handleGuardian Crypto.transparent (Vault.transparent [1] []) sampleLeaverNode call request

/-- The guardian that leaves, once the recovery is begun. -/
def sampleRecovering : GuardianRotationEntryV3 :=
  (sampleLeaverServe (sampleCall 6 0) sampleRecoveryBegin).final sampleLeaver.entry

theorem sampleRecovering_served :
    sampleLeaverServe (sampleCall 6 0) sampleRecoveryBegin sampleLeaver.entry =
      .ok (.recovery (.beginAccepted 10)) sampleRecovering := by
  have hreturned : (sampleLeaverServe (sampleCall 6 0) sampleRecoveryBegin).returned
      sampleLeaver.entry = some (.recovery (.beginAccepted 10)) := by
    decide +kernel
  obtain ⟨entry', hrun⟩ := returned_eq_some.mp hreturned
  exact hrun.trans (by rw [sampleRecovering, final_of_ok hrun])

/-- A recovery leaves the rotations and the capsule alone. -/
theorem sampleRecovering_kept : RotationsKept sampleLeaver.entry sampleRecovering := by
  have hserved := (guardian_served sampleRecoveryBegin).ok sampleRecovering_served
  generalize some (GuardianResponse.recovery (.beginAccepted 10)) = returned at hserved
  cases hserved with
  | recovery hserved => exact hserved.rotationsKept

theorem sampleLeaver_begins {entry : GuardianRotationEntryV3} {monotonicNow : UInt64}
    (hkept : RotationsKept sampleLeaver.entry entry) :
    sampleLeaverServe (sampleCall 16 monotonicNow)
      (.rotation (.begin samplePlan70 (sampleBeginCertificate samplePlan70 samplePlanHash70)))
      entry = .ok (.rotation (.beginAccepted (saturatingAdd monotonicNow 10)))
        (entry.putSession 70 (sampleSession monotonicNow)) := by
  obtain ⟨hsessions, draining, cancelled, hprovision⟩ := hkept
  have hkey : entry.provision.signingPublicKey = sampleLeaver.signingPublicKey := by
    rw [hprovision]
    rfl
  have hparticipates : Participates entry samplePlan70 := by
    left
    simp only [guardianRoute, hkey]
    rfl
  refine sampleBegin_served (by rw [hprovision]; rfl) hparticipates rfl rfl ?_ ?_
  · simp [hprovision, sampleLeaver, GuardianEpochStore.new, GuardianRotationProvisionV3.entry]
  · simp [hsessions, GuardianRotationProvisionV3.entry]

theorem sampleCapture_eq (drainDeadline : UInt64) : sampleCapture drainDeadline =
    [.request (sampleCall 6 0) sampleRecoveryBegin,
      .request (sampleCall 16 10) (.rotation (.begin samplePlan70
        (sampleBeginCertificate samplePlan70 samplePlanHash70))),
      guardianInput 20 14 (.rotation (.activate samplePlan70 sampleInstalled drainDeadline))] :=
  rfl

/-- The epoch drains, waits for the recovery, and the recovery is cancelled. The store still
expects a successor of the epoch, the capsule is the new one. -/
theorem sampleCancelled_drains :
    (((sampleLeaverRun sampleCancelled).data.provision.epochStore.draining[(1 : UInt64)]?).map
        (·.pendingRequestIds),
      (drainStart sampleLeaver 1 (sampleLeaverLog sampleCancelled)).map (·.captured),
      (sampleLeaverLog sampleCancelled).filterMap cancelledRequest,
      (sampleLeaverRun sampleCancelled).data.provision.epochStore.expectedPredecessor.guardianEpoch,
      (sampleLeaverRun sampleCancelled).data.provision.predecessorCapsule.configRef.guardianEpoch) =
    (some {80}, some {80}, [80], 1, 2) := by
  have hbegun := @sampleLeaver_begins sampleRecovering 10 sampleRecovering_kept
  simp only [sampleLeaverRun, guardianRun, sampleLeaverLog, guardianLog, sampleCancelled,
    sampleCapture_eq, List.cons_append]
  rw [run_served sampleRecovering_served, run_served hbegun,
    outputs_served sampleRecovering_served, outputs_served hbegun]
  decide +kernel

theorem sampleCancelled_found : ∃ drains, (sampleLeaverRun sampleCancelled).data.provision.epochStore.draining[
    (1 : UInt64)]? = some drains ∧ drains.pendingRequestIds = {80} :=
  Option.map_eq_some_iff.mp (Prod.mk.inj sampleCancelled_drains).1

theorem ended_epoch_retires_iff_sample :
    ∃ drains start, (sampleLeaverRun sampleCancelled).data.provision.epochStore.draining[
        (1 : UInt64)]? = some drains ∧
      drainStart sampleLeaver 1 (sampleLeaverLog sampleCancelled) = some start ∧ ∀ wallNow,
        (∀ requestId ∈ start.captured, RecoveryEnded 1 (sampleLeaverLog sampleCancelled)
          (sampleLeaverRun sampleCancelled).data wallNow requestId) →
            (RetiresWhenDue (sampleLeaverRun sampleCancelled).data.provision.epochStore 1 drains ↔
              ∀ requestId ∈ start.captured,
                ReleasedSince 1 (sampleLeaverLog sampleCancelled) requestId) := by
  obtain ⟨drains, hdrains, -⟩ := sampleCancelled_found
  unfold sampleLeaverRun at hdrains ⊢
  unfold sampleLeaverLog
  obtain ⟨start, hstart, hiff⟩ := @ended_epoch_retires_iff Crypto.transparent
    (Vault.transparent [1] []) sampleLeaverNode sampleLeaver sampleCancelled 1 drains hdrains
  exact ⟨drains, start, hdrains, hstart, hiff⟩

/-- A cancelled recovery keeps its epoch draining for ever. -/
theorem cancelled_recovery_never_drains :
    ¬∀ (crypto : Crypto) (vault : Vault) (node : GuardianNode)
      (provision : GuardianRotationProvisionV3) (inputs : List GuardianInput)
      (guardianEpoch : UInt64) (drains : DrainingGuardianEpoch) (start : DrainStart)
      (wallNow : UInt64), GuardianProvisioned crypto provision →
      (guardianRun crypto vault node provision inputs).data.provision.epochStore.draining[
        guardianEpoch]? = some drains →
      drainStart provision guardianEpoch (guardianLog crypto vault node provision inputs) =
        some start →
      (∀ requestId ∈ start.captured, RecoveryEnded guardianEpoch
        (guardianLog crypto vault node provision inputs)
        (guardianRun crypto vault node provision inputs).data wallNow requestId) →
      RetiresWhenDue (guardianRun crypto vault node provision inputs).data.provision.epochStore
        guardianEpoch drains := by
  intro hclaim
  obtain ⟨drains, hdrains, hlist⟩ := sampleCancelled_found
  obtain ⟨hcaptured, hrest⟩ := Prod.mk.inj (Prod.mk.inj sampleCancelled_drains).2
  obtain ⟨hcancelled, -⟩ := Prod.mk.inj hrest
  obtain ⟨start, hstart, hset⟩ := Option.map_eq_some_iff.mp hcaptured
  obtain ⟨x, hx, hrequest⟩ := List.mem_filterMap.mp (hcancelled ▸ List.mem_singleton_self 80)
  have hended : ∀ requestId ∈ start.captured, RecoveryEnded 1 (sampleLeaverLog sampleCancelled)
      (sampleLeaverRun sampleCancelled).data 0 requestId := by
    intro requestId hmem
    rw [hset, Finset.mem_singleton] at hmem
    subst hmem
    exact .cancelled ⟨x, hx, cancelsRecovery_of_cancelledRequest hrequest⟩
  unfold sampleLeaverRun at hdrains hended
  unfold sampleLeaverLog at hstart hended
  have hretires := hclaim Crypto.transparent (Vault.transparent [1] []) sampleLeaverNode sampleLeaver
    sampleCancelled 1 drains start 0 sampleLeaver_provisioned hdrains hstart hended
  rw [retiresWhenDue_iff hdrains, hlist] at hretires
  exact Finset.singleton_ne_empty _ hretires

/-! ### A clock that the request brings -/

/-- An exchange of a run is a request of the run. -/
theorem exchange_requested (hx : x ∈ guardianLog crypto vault node provision inputs) :
    .request x.call x.request ∈ inputs := by
  obtain ⟨before, input, after, rfl, hstep⟩ := Machine.output_split _ hx
  cases input with
  | request call request =>
    simp only [guardianMachine, guardianServe] at hstep
    split at hstep <;> cases hstep <;> simp
  | restart => cases hstep
  | flush => cases hstep

def sampleRetire (retiredEpoch monotonicNow : UInt64) : GuardianRequest :=
  .rotation (.retire
    { context := samplePlan70.context
      planHash := samplePlanHash70
      activationQcHash := Crypto.transparent.sha256
        ((epochActivationQc (sampleGenesisQc sampleFirst)).toOption.getD [])
      retiredEpoch := retiredEpoch
      drainDeadline := 60 } monotonicNow)

/-- The rotation alone, and its retirement by the clock of the guardian or another. -/
def sampleRetired (monotonicNow stated : UInt64) : List GuardianInput :=
  (sampleCapture 60).tail ++ [guardianInput 70 monotonicNow (sampleRetire 1 stated)]

theorem epochs_retire_in_time_sample :
    RetiresInTime Crypto.transparent (Vault.transparent [1] []) sampleLeaverNode sampleLeaver
      (sampleLeaverLog (sampleRetired 64 64)) := by
  refine epochs_retire_in_time fun x hx => ?_
  have hinput := exchange_requested hx
  obtain ⟨entry, call, request, response⟩ := x
  simp only [sampleRetired, sampleCapture, sampleRetire, guardianInput, List.tail_cons,
    List.cons_append, List.nil_append, List.mem_cons, List.not_mem_nil, or_false,
    GuardianInput.request.injEq] at hinput
  rcases hinput with ⟨-, rfl⟩ | ⟨-, rfl⟩ | ⟨rfl, rfl⟩
  · trivial
  · exact fun _ => UInt64.le_refl _
  · exact fun _ _ hdue => hdue

/-- The clock of a Retire is the one its request states. -/
theorem retired_before_deadline :
    ¬∀ (crypto : Crypto) (vault : Vault) (node : GuardianNode)
      (provision : GuardianRotationProvisionV3) (inputs : List GuardianInput),
      GuardianProvisioned crypto provision → RetiresInTime crypto vault node provision
        (guardianLog crypto vault node provision inputs) := by
  intro hclaim
  have hearly : (sampleLeaverLog (sampleRetired 15 60)).any fun x =>
      (x.entry.provision.epochStore.draining[(1 : UInt64)]?.any fun drains =>
        x.call.monotonicNow < drains.drainDeadline) &&
      (x.drainsAfter Crypto.transparent (Vault.transparent [1] []) sampleLeaverNode)[
        (1 : UInt64)]?.isNone := by
    have hbegun := @sampleLeaver_begins sampleLeaver.entry 10 ⟨rfl, _, _, rfl⟩
    simp only [sampleLeaverLog, guardianLog, sampleRetired, sampleCapture_eq, List.tail_cons,
      List.cons_append]
    rw [outputs_served hbegun]
    decide +kernel
  obtain ⟨x, hx, hboth⟩ := List.any_eq_true.mp hearly
  obtain ⟨hlate, hgone⟩ := Bool.and_eq_true_iff.mp hboth
  obtain ⟨drains, hfound, hlate⟩ := (Option.any_eq_true _ _).mp hlate
  obtain ⟨before, after, hsplit⟩ := List.append_of_mem hx
  have hintime : RetiresInTime Crypto.transparent (Vault.transparent [1] []) sampleLeaverNode
      sampleLeaver (sampleLeaverLog (sampleRetired 15 60)) :=
    hclaim Crypto.transparent (Vault.transparent [1] []) sampleLeaverNode sampleLeaver
      (sampleRetired 15 60) sampleLeaver_provisioned
  obtain ⟨hdue, -⟩ := hintime.clock before x after hsplit 1 drains hfound
    (Option.isNone_iff_eq_none.mp hgone)
  exact UInt64.not_le.mpr (of_decide_eq_true hlate) hdue

end MasterRecovery
