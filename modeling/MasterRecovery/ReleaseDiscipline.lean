import MasterRecovery.Lib.Calls
import MasterRecovery.GuardianMachine

/-!
# Releases of one guardian (gp-core/src/lib.rs)

Whatever is called on a new machine, in whatever order, its tables can be read back as the history
of the calls it accepted; an accepted release rests on that history.
-/

namespace MasterRecovery
open Checks

inductive GuardianMachineCall
  | beginAt (request : RecoveryRequest) (requestDigest : Id32)
    (wallNow monotonicNow delay : UInt64) (certificateValid : Bool)
  | cancel (requestId requestDigest : Id32) (certificateValid : Bool)
  | authorizeReleaseAt (requestId requestDigest : Id32) (wallNow monotonicNow : UInt64)
    (certificateValid stateUnambiguous : Bool)
  deriving DecidableEq

namespace GuardianMachine

/-- The calls side by side; only the Begin returns a value. -/
def call : GuardianMachineCall → Call (Option UInt64)
  | .beginAt request requestDigest wallNow monotonicNow delay certificateValid =>
    some <$> beginAt request requestDigest wallNow monotonicNow delay certificateValid
  | .cancel requestId requestDigest certificateValid =>
    (fun _ => none) <$> cancel requestId requestDigest certificateValid
  | .authorizeReleaseAt requestId requestDigest wallNow monotonicNow certificateValid
      stateUnambiguous =>
    (fun _ => none) <$> authorizeReleaseAt requestId requestDigest wallNow monotonicNow
      certificateValid stateUnambiguous

/-- Calls one after the other; the accepted ones are logged. -/
def calls : Machine GuardianMachine GuardianMachineCall GuardianMachineCall := Machine.ofCalls call

/-! ### What a call does -/

variable {machine machine' : GuardianMachine} {sent : GuardianMachineCall} {value : Option UInt64}
  {error : CoreError}

/-- What a Begin that is accepted has passed. -/
structure Begins (machine : GuardianMachine) (request : RecoveryRequest) (wallNow : UInt64) :
    Prop where
  version : request.protocolVersion = MasterRecovery.protocolVersion
  configId : request.configId = machine.configId
  configVersion : request.configVersion = machine.currentVersion
  requested : request.requestedAt ≤ wallNow
  expiry : wallNow < request.expiry
  live : machine.cancelled[request.requestId]? = none
  newId : request.requestId ∉ machine.seen
  newNonce : request.nonce ∉ machine.seenNonces

/-- The accepted calls, each with the machine it finds and the one it leaves. -/
inductive Accepts (machine : GuardianMachine) : GuardianMachineCall → GuardianMachine → Prop
  | begun {request : RecoveryRequest} {requestDigest : Id32} {wallNow monotonicNow delay : UInt64}
    (hbegins : machine.Begins request wallNow) :
    Accepts machine (.beginAt request requestDigest wallNow monotonicNow delay true)
      (machine.begun request requestDigest monotonicNow (saturatingAdd monotonicNow delay))
  | cancelledBefore {requestId requestDigest : Id32}
    (hcancelled : machine.cancelled[requestId]? = some requestDigest) :
    Accepts machine (.cancel requestId requestDigest true) machine
  | cancelledPending {requestId requestDigest : Id32} {pending : GuardianPending}
    (hlive : machine.cancelled[requestId]? = none)
    (hpending : machine.pending[requestId]? = some pending)
    (hdigest : pending.requestDigest = requestDigest) :
    Accepts machine (.cancel requestId requestDigest true)
      { machine.withState requestId pending .cancelled with
        cancelled := machine.cancelled.insert requestId requestDigest }
  | cancelled {requestId requestDigest : Id32} (hlive : machine.cancelled[requestId]? = none)
    (hpending : machine.pending[requestId]? = none) :
    Accepts machine (.cancel requestId requestDigest true)
      { machine with cancelled := machine.cancelled.insert requestId requestDigest }
  | released {requestId requestDigest : Id32} {wallNow monotonicNow : UInt64}
    {pending : GuardianPending} (hlive : machine.cancelled[requestId]? = none)
    (hpending : machine.pending[requestId]? = some pending)
    (hdigest : pending.requestDigest = requestDigest) (hexpiry : wallNow < pending.expiry)
    (hdue : pending.pending.notBefore ≤ monotonicNow) :
    Accepts machine (.authorizeReleaseAt requestId requestDigest wallNow monotonicNow true true)
      (machine.withState requestId pending .releasing)

/-- A refused call leaves the machine, but for a request that a release found expired. -/
inductive Refuses (machine : GuardianMachine) : GuardianMachineCall → CoreError → GuardianMachine → Prop
  | kept {sent : GuardianMachineCall} {error : CoreError}
    (hother : error = .expired → ∀ requestId requestDigest wallNow monotonicNow certificateValid
      stateUnambiguous, sent ≠ .authorizeReleaseAt requestId requestDigest wallNow monotonicNow
        certificateValid stateUnambiguous) : Refuses machine sent error machine
  | expired {requestId requestDigest : Id32} {wallNow monotonicNow : UInt64}
    {pending : GuardianPending} (hlive : machine.cancelled[requestId]? = none)
    (hpending : machine.pending[requestId]? = some pending) :
    Refuses machine
      (.authorizeReleaseAt requestId requestDigest wallNow monotonicNow true true) .expired
      (machine.withState requestId pending .expired)

theorem cancelledBy_ne_expired (cancelledDigest requestDigest : Id32) :
    cancelledBy cancelledDigest requestDigest ≠ .expired := by
  unfold cancelledBy
  split <;> simp

section Calls

variable {request : RecoveryRequest} {requestDigest requestId : Id32}
  {wallNow monotonicNow delay notBefore : UInt64} {certificateValid stateUnambiguous : Bool}
  {u : Unit}

theorem beginChecks_eq_ok
    (h : machine.beginChecks request requestDigest wallNow certificateValid = .ok ()) :
    machine.Begins request wallNow ∧ certificateValid = true := by
  simp only [beginChecks, validateRequest, bind_unit_eq_ok, bailIf_eq_ok, not_or, ne_eq, not_not,
    Bool.not_eq_false, UInt64.not_lt, UInt64.not_le] at h
  obtain ⟨⟨hversion, hid, hconfig⟩, hvalid, hrequested, hexpiry, hlast⟩ := h
  cases hcancelled : machine.cancelled[request.requestId]? with
  | some cancelledDigest => simp [hcancelled] at hlast
  | none =>
    simp only [hcancelled, bailIf_eq_ok, not_or] at hlast
    exact ⟨⟨hversion, hid, hconfig, hrequested, hexpiry, hcancelled, hlast.1, hlast.2⟩, hvalid⟩

theorem beginAt_eq_ok
    (h : beginAt request requestDigest wallNow monotonicNow delay certificateValid machine =
      .ok notBefore machine') :
    Accepts machine (.beginAt request requestDigest wallNow monotonicNow delay certificateValid)
      machine' := by
  unfold beginAt at h
  cases hchecks : machine.beginChecks request requestDigest wallNow certificateValid with
  | error e => simp [hchecks] at h
  | ok u =>
    obtain ⟨hbegins, rfl⟩ := beginChecks_eq_ok hchecks
    simp only [hchecks, EStateM.Result.ok.injEq] at h
    obtain ⟨-, rfl⟩ := h
    exact .begun hbegins

theorem beginAt_eq_error
    (h : beginAt request requestDigest wallNow monotonicNow delay certificateValid machine =
      .error error machine') : machine' = machine := by
  unfold beginAt at h
  split at h
  · cases h
    rfl
  · cases h

theorem cancel_eq_ok (h : cancel requestId requestDigest certificateValid machine = .ok u machine') :
    Accepts machine (.cancel requestId requestDigest certificateValid) machine' := by
  unfold cancel at h
  split at h
  · cases h
  · next hvalid =>
    rw [Bool.not_eq_false] at hvalid
    subst hvalid
    split at h
    · next existing hcancelled =>
      split at h
      · next hsame =>
        cases h
        subst hsame
        exact .cancelledBefore hcancelled
      · cases h
    · next hlive =>
      split at h
      · next pending hpending =>
        split at h
        · cases h
        · next hdigest =>
          cases h
          exact .cancelledPending hlive hpending (not_not.mp hdigest)
      · next hpending =>
        cases h
        exact .cancelled hlive hpending

theorem cancel_eq_error
    (h : cancel requestId requestDigest certificateValid machine = .error error machine') :
    machine' = machine := by
  unfold cancel at h
  split at h
  · cases h
    rfl
  · split at h
    · split at h
      · cases h
      · cases h
        rfl
    · split at h
      · split at h
        · cases h
          rfl
        · cases h
      · cases h

theorem authorizeReleaseAt_eq_ok
    (h : authorizeReleaseAt requestId requestDigest wallNow monotonicNow certificateValid
      stateUnambiguous machine = .ok u machine') :
    Accepts machine (.authorizeReleaseAt requestId requestDigest wallNow monotonicNow
      certificateValid stateUnambiguous) machine' := by
  unfold authorizeReleaseAt at h
  split at h
  · cases h
  · next hlive =>
    split at h
    · cases h
    · next hvalid =>
      rw [not_or, Bool.not_eq_false, Bool.not_eq_false] at hvalid
      obtain ⟨rfl, rfl⟩ := hvalid
      split at h
      · cases h
      · next pending hpending =>
        split at h
        · cases h
        · next hdigest =>
          rw [ne_eq, not_not] at hdigest
          split at h
          · cases h
          · next hexpiry =>
            rw [UInt64.not_le] at hexpiry
            split at h
            · cases h
            · next hdue =>
              rw [UInt64.not_lt] at hdue
              cases h
              exact .released hlive hpending hdigest hexpiry hdue

theorem authorizeReleaseAt_eq_error
    (h : authorizeReleaseAt requestId requestDigest wallNow monotonicNow certificateValid
      stateUnambiguous machine = .error error machine') :
    Refuses machine (.authorizeReleaseAt requestId requestDigest wallNow monotonicNow
      certificateValid stateUnambiguous) error machine' := by
  unfold authorizeReleaseAt at h
  split at h
  · cases h
    exact .kept fun herror => absurd herror (cancelledBy_ne_expired _ _)
  · next hlive =>
    split at h
    · cases h
      exact .kept (by simp)
    · next hvalid =>
      rw [not_or, Bool.not_eq_false, Bool.not_eq_false] at hvalid
      obtain ⟨rfl, rfl⟩ := hvalid
      split at h
      · cases h
        exact .kept (by simp)
      · next pending hpending =>
        split at h
        · cases h
          exact .kept (by simp)
        · split at h
          · cases h
            exact .expired hlive hpending
          · split at h
            · cases h
              exact .kept (by simp)
            · cases h

end Calls

theorem call_eq_ok (h : call sent machine = .ok value machine') : Accepts machine sent machine' := by
  cases sent <;> obtain ⟨a, hcall, -⟩ := Machine.map_eq_ok h
  case beginAt => exact beginAt_eq_ok hcall
  case cancel => exact cancel_eq_ok hcall
  case authorizeReleaseAt => exact authorizeReleaseAt_eq_ok hcall

theorem call_eq_error (h : call sent machine = .error error machine') :
    Refuses machine sent error machine' := by
  cases sent <;> have hcall := Machine.map_eq_error h
  case beginAt => exact beginAt_eq_error hcall ▸ .kept (by simp)
  case cancel => exact cancel_eq_error hcall ▸ .kept (by simp)
  case authorizeReleaseAt => exact authorizeReleaseAt_eq_error hcall

/-! ### Histories -/

/-- An accepted Begin of the request, with what the machine keeps of it. -/
def BegunWith (configId : Id32) (currentVersion : UInt64) (log : List GuardianMachineCall)
    (requestId requestDigest : Id32) (notBefore expiry : UInt64) : Prop :=
  ∃ request wallNow monotonicNow delay,
    .beginAt request requestDigest wallNow monotonicNow delay true ∈ log ∧
    request.protocolVersion = MasterRecovery.protocolVersion ∧ request.configId = configId ∧
    request.configVersion = currentVersion ∧ request.requestId = requestId ∧
    notBefore = saturatingAdd monotonicNow delay ∧ expiry = request.expiry

/-- What an accepted release rests on in the calls accepted before it. -/
structure ReleaseBasis (configId : Id32) (currentVersion : UInt64) (earlier : List GuardianMachineCall)
    (requestId requestDigest : Id32) (wallNow monotonicNow : UInt64)
    (certificateValid stateUnambiguous : Bool) : Prop where
  certificate : certificateValid = true
  unambiguous : stateUnambiguous = true
  begun : ∃ request begunWall begunMonotonic delay,
    .beginAt request requestDigest begunWall begunMonotonic delay true ∈ earlier ∧
    request.protocolVersion = MasterRecovery.protocolVersion ∧ request.configId = configId ∧
    request.configVersion = currentVersion ∧ request.requestId = requestId ∧
    min (begunMonotonic.toNat + delay.toNat) (2 ^ 64 - 1) ≤ monotonicNow.toNat ∧
    wallNow < request.expiry
  live : ∀ cancelledDigest valid, .cancel requestId cancelledDigest valid ∉ earlier

/-- What the machine's tables tell of the calls it has accepted. -/
structure Ledger (configId : Id32) (currentVersion : UInt64) (machine : GuardianMachine)
    (log : List GuardianMachineCall) : Prop where
  config : machine.configId = configId
  version : machine.currentVersion = currentVersion
  begun : ∀ (requestId : Id32) (pending : GuardianPending),
    machine.pending[requestId]? = some pending →
      BegunWith configId currentVersion log requestId pending.requestDigest
        pending.pending.notBefore pending.expiry
  cancelled : ∀ requestId requestDigest certificateValid,
    .cancel requestId requestDigest certificateValid ∈ log →
      machine.cancelled[requestId]? ≠ none
  seen : ∀ request requestDigest wallNow monotonicNow delay certificateValid,
    .beginAt request requestDigest wallNow monotonicNow delay certificateValid ∈ log →
      request.requestId ∈ machine.seen ∧ request.nonce ∈ machine.seenNonces
  once : ∀ earlier request requestDigest wallNow monotonicNow delay certificateValid later,
    log = earlier ++ .beginAt request requestDigest wallNow monotonicNow delay certificateValid ::
      later → ∀ request' requestDigest' wallNow' monotonicNow' delay' certificateValid',
        .beginAt request' requestDigest' wallNow' monotonicNow' delay' certificateValid' ∈ earlier →
          request'.requestId ≠ request.requestId ∧ request'.nonce ≠ request.nonce
  grounded : ∀ earlier requestId requestDigest wallNow monotonicNow certificateValid
    stateUnambiguous later,
    log = earlier ++ .authorizeReleaseAt requestId requestDigest wallNow monotonicNow
      certificateValid stateUnambiguous :: later →
        ReleaseBasis configId currentVersion earlier requestId requestDigest wallNow monotonicNow
          certificateValid stateUnambiguous

/-! ### What a call leaves -/

/-- The request as it was begun, in whatever state it is now. -/
def Begun (machine : GuardianMachine) (requestId : Id32) (found : GuardianPending) : Prop :=
  ∃ begun, machine.pending[requestId]? = some begun ∧
    found = { begun with pending := { begun.pending with state := found.pending.state } }

theorem withState_begun {requestId id : Id32} {pending found : GuardianPending}
    {state : RecoveryState} (hpending : machine.pending[requestId]? = some pending)
    (hfound : (machine.withState requestId pending state).pending[id]? = some found) :
    machine.Begun id found := by
  rcases getElem?_insert_iff.mp hfound with ⟨rfl, rfl⟩ | ⟨-, hold⟩
  · exact ⟨pending, hpending, rfl⟩
  · exact ⟨found, hold, rfl⟩

/-- A request is pending since before, or it is begun now. -/
theorem Accepts.pending (h : Accepts machine sent machine') {requestId : Id32}
    {found : GuardianPending} (hfound : machine'.pending[requestId]? = some found) :
    machine.Begun requestId found ∨
      ∃ request wallNow monotonicNow delay,
        sent = .beginAt request found.requestDigest wallNow monotonicNow delay true ∧
        machine.Begins request wallNow ∧ request.requestId = requestId ∧
        found.pending.notBefore = saturatingAdd monotonicNow delay ∧
        found.expiry = request.expiry := by
  cases h with
  | @begun request requestDigest wallNow monotonicNow delay hbegins =>
    rcases getElem?_insert_iff.mp hfound with ⟨rfl, rfl⟩ | ⟨-, hold⟩
    · exact Or.inr ⟨request, wallNow, monotonicNow, delay, rfl, hbegins, rfl, rfl, rfl⟩
    · exact Or.inl ⟨found, hold, rfl⟩
  | cancelledBefore => exact Or.inl ⟨found, hfound, rfl⟩
  | cancelledPending _ hpending => exact Or.inl (withState_begun hpending hfound)
  | cancelled => exact Or.inl ⟨found, hfound, rfl⟩
  | released _ hpending => exact Or.inl (withState_begun hpending hfound)

/-- A cancellation is never forgotten. -/
theorem Accepts.cancelled_ne_none (h : Accepts machine sent machine') {requestId : Id32}
    (hcancelled : machine.cancelled[requestId]? ≠ none ∨
      ∃ requestDigest certificateValid, sent = .cancel requestId requestDigest certificateValid) :
    machine'.cancelled[requestId]? ≠ none := by
  have hinsert : ∀ {id digest : Id32},
      (machine.cancelled[requestId]? ≠ none ∨
        ∃ requestDigest certificateValid,
          GuardianMachineCall.cancel id digest true = .cancel requestId requestDigest certificateValid) →
        (machine.cancelled.insert id digest)[requestId]? ≠ none := by
    intro id digest hor hnone
    obtain ⟨hne, hold⟩ := getElem?_insert_eq_none_iff.mp hnone
    rcases hor with hbefore | ⟨_, _, hsent⟩
    · exact hbefore hold
    · cases hsent
      exact hne rfl
  cases h with
  | cancelledBefore hbefore =>
    rcases hcancelled with hold | ⟨digest, valid, hsent⟩
    · exact hold
    · cases hsent
      simp [hbefore]
  | cancelledPending => exact hinsert hcancelled
  | cancelled => exact hinsert hcancelled
  | begun => exact hcancelled.resolve_right (by simp)
  | released => exact hcancelled.resolve_right (by simp)

/-- Nothing seen is forgotten, and what a Begin brings is seen from then on. -/
theorem Accepts.seen (h : Accepts machine sent machine') {request : RecoveryRequest}
    (hseen : (request.requestId ∈ machine.seen ∧ request.nonce ∈ machine.seenNonces) ∨
      ∃ requestDigest wallNow monotonicNow delay certificateValid,
        sent = .beginAt request requestDigest wallNow monotonicNow delay certificateValid) :
    request.requestId ∈ machine'.seen ∧ request.nonce ∈ machine'.seenNonces := by
  cases h with
  | begun =>
    rcases hseen with ⟨hid, hnonce⟩ | ⟨_, _, _, _, _, hsent⟩
    · exact ⟨Finset.mem_insert_of_mem hid, Finset.mem_insert_of_mem hnonce⟩
    · cases hsent
      exact ⟨Finset.mem_insert_self _ _, Finset.mem_insert_self _ _⟩
  | cancelledBefore => exact hseen.resolve_right (by simp)
  | cancelledPending => exact hseen.resolve_right (by simp)
  | cancelled => exact hseen.resolve_right (by simp)
  | released => exact hseen.resolve_right (by simp)

/-! ### Runs -/

section Ledger

variable {configId : Id32} {currentVersion : UInt64} {log : List GuardianMachineCall}

theorem BegunWith.later {requestId requestDigest : Id32} {notBefore expiry : UInt64}
    (h : BegunWith configId currentVersion log requestId requestDigest notBefore expiry)
    (sent : GuardianMachineCall) :
    BegunWith configId currentVersion (log ++ [sent]) requestId requestDigest notBefore expiry := by
  obtain ⟨request, wallNow, monotonicNow, delay, hmem, hrest⟩ := h
  exact ⟨request, wallNow, monotonicNow, delay, List.mem_append_left _ hmem, hrest⟩

theorem Ledger.new (configId : Id32) (currentVersion : UInt64) :
    Ledger configId currentVersion (new configId currentVersion) [] where
  config := rfl
  version := rfl
  begun _ _ hpending := by simp [GuardianMachine.new] at hpending
  cancelled _ _ _ hmem := by cases hmem
  seen _ _ _ _ _ _ hmem := by cases hmem
  once := by simp
  grounded := by simp

/-- A refusal keeps what the ledger speaks of. -/
theorem Ledger.refused (h : Ledger configId currentVersion machine log)
    (hrefuses : Refuses machine sent error machine') : Ledger configId currentVersion machine' log := by
  cases hrefuses with
  | kept => exact h
  | expired _ hpending =>
    refine ⟨h.config, h.version, ?_, h.cancelled, h.seen, h.once, h.grounded⟩
    intro requestId found hfound
    obtain ⟨begun, hold, hsame⟩ := withState_begun hpending hfound
    rw [hsame]
    exact h.begun requestId begun hold

/-- Grounds of a release that is accepted now. -/
theorem Ledger.grounds (h : Ledger configId currentVersion machine log)
    {requestId requestDigest : Id32} {wallNow monotonicNow : UInt64}
    {certificateValid stateUnambiguous : Bool}
    (haccepts : Accepts machine (.authorizeReleaseAt requestId requestDigest wallNow monotonicNow
      certificateValid stateUnambiguous) machine') :
    ReleaseBasis configId currentVersion log requestId requestDigest wallNow monotonicNow
      certificateValid stateUnambiguous := by
  cases haccepts with
  | @released _ _ _ _ pending hlive hpending hdigest hexpiry hdue =>
    obtain ⟨request, begunWall, begunMonotonic, delay, hmem, hversion, hconfig, hcurrent, hid,
      hnotBefore, hrequestExpiry⟩ := h.begun _ _ hpending
    rw [hdigest] at hmem
    rw [hnotBefore, UInt64.le_iff_toNat_le, saturatingAdd_toNat] at hdue
    refine ⟨rfl, rfl, ⟨request, begunWall, begunMonotonic, delay, hmem, hversion, hconfig,
      hcurrent, hid, hdue, hrequestExpiry ▸ hexpiry⟩, ?_⟩
    intro cancelledDigest valid hcancel
    exact h.cancelled _ _ _ hcancel hlive

/-- A Begin that is accepted now brings an id and a nonce of no Begin before it. -/
theorem Ledger.fresh (h : Ledger configId currentVersion machine log)
    {request : RecoveryRequest} {requestDigest : Id32} {wallNow monotonicNow delay : UInt64}
    {certificateValid : Bool}
    (haccepts : Accepts machine (.beginAt request requestDigest wallNow monotonicNow delay
      certificateValid) machine') {request' : RecoveryRequest} {requestDigest' : Id32}
    {wallNow' monotonicNow' delay' : UInt64} {certificateValid' : Bool}
    (hmem : .beginAt request' requestDigest' wallNow' monotonicNow' delay' certificateValid' ∈
      log) : request'.requestId ≠ request.requestId ∧ request'.nonce ≠ request.nonce := by
  obtain ⟨hid, hnonce⟩ := h.seen _ _ _ _ _ _ hmem
  cases haccepts with
  | begun hbegins =>
    constructor
    · intro hsame
      exact hbegins.newId (hsame ▸ hid)
    · intro hsame
      exact hbegins.newNonce (hsame ▸ hnonce)

theorem Ledger.accepted (h : Ledger configId currentVersion machine log)
    (haccepts : Accepts machine sent machine') :
    Ledger configId currentVersion machine' (log ++ [sent]) where
  config := by
    rw [← h.config]
    cases haccepts <;> rfl
  version := by
    rw [← h.version]
    cases haccepts <;> rfl
  begun := by
    intro requestId pending hfound
    rcases haccepts.pending hfound with ⟨begun, hold, hsame⟩ |
      ⟨request, wallNow, monotonicNow, delay, rfl, hbegins, hid, hnotBefore, hexpiry⟩
    · rw [hsame]
      exact (h.begun requestId begun hold).later sent
    · exact ⟨request, wallNow, monotonicNow, delay, List.mem_concat_self, hbegins.version,
        hbegins.configId.trans h.config, hbegins.configVersion.trans h.version, hid, hnotBefore,
        hexpiry⟩
  cancelled := by
    intro requestId requestDigest certificateValid hmem
    refine haccepts.cancelled_ne_none ((List.mem_append.mp hmem).imp ?_ ?_)
    · exact h.cancelled _ _ _
    · intro hnew
      exact ⟨requestDigest, certificateValid, (List.mem_singleton.mp hnew).symm⟩
  seen := by
    intro request requestDigest wallNow monotonicNow delay certificateValid hmem
    refine haccepts.seen ((List.mem_append.mp hmem).imp ?_ ?_)
    · exact h.seen _ _ _ _ _ _
    · intro hnew
      exact ⟨requestDigest, wallNow, monotonicNow, delay, certificateValid,
        (List.mem_singleton.mp hnew).symm⟩
  once := by
    intro earlier request requestDigest wallNow monotonicNow delay certificateValid later hsplit
      request' requestDigest' wallNow' monotonicNow' delay' certificateValid' hmem
    rcases Machine.concat_split hsplit with ⟨-, rfl, rfl⟩ | ⟨z, -, hold⟩
    · exact h.fresh haccepts hmem
    · exact h.once _ _ _ _ _ _ _ _ hold _ _ _ _ _ _ hmem
  grounded := by
    intro earlier requestId requestDigest wallNow monotonicNow certificateValid stateUnambiguous
      later hsplit
    rcases Machine.concat_split hsplit with ⟨-, rfl, rfl⟩ | ⟨z, -, hold⟩
    · exact h.grounds haccepts
    · exact h.grounded _ _ _ _ _ _ _ _ hold

theorem ledger_run (configId : Id32) (currentVersion : UInt64) (sent : List GuardianMachineCall) :
    Ledger configId currentVersion (calls.run (new configId currentVersion) sent)
      (calls.outputs (new configId currentVersion) sent) :=
  Machine.ofCalls_invariant (Ledger.new configId currentVersion)
    (fun _ _ _ _ _ hledger hcall => hledger.accepted (call_eq_ok hcall))
    (fun _ _ _ _ _ hledger hcall => hledger.refused (call_eq_error hcall)) sent

end Ledger

/-- What the calls made to a new machine and its tables tell of each other. -/
structure Disciplined (configId : Id32) (currentVersion : UInt64) (sent : List GuardianMachineCall) :
    Prop where
  logged : (calls.outputs (new configId currentVersion) sent).Sublist sent
  released : ∀ earlier requestId requestDigest wallNow monotonicNow certificateValid
    stateUnambiguous later,
    calls.outputs (new configId currentVersion) sent = earlier ++
      .authorizeReleaseAt requestId requestDigest wallNow monotonicNow certificateValid
        stateUnambiguous :: later →
          ReleaseBasis configId currentVersion earlier requestId requestDigest wallNow monotonicNow
            certificateValid stateUnambiguous
  once : ∀ earlier request requestDigest wallNow monotonicNow delay certificateValid later,
    calls.outputs (new configId currentVersion) sent = earlier ++
      .beginAt request requestDigest wallNow monotonicNow delay certificateValid :: later →
        ∀ request' requestDigest' wallNow' monotonicNow' delay' certificateValid',
          .beginAt request' requestDigest' wallNow' monotonicNow' delay' certificateValid' ∈
            earlier → request'.requestId ≠ request.requestId ∧ request'.nonce ≠ request.nonce
  begins : ∀ request requestDigest wallNow monotonicNow delay certificateValid error machine',
    beginAt request requestDigest wallNow monotonicNow delay certificateValid
      (calls.run (new configId currentVersion) sent) = .error error machine' →
        machine' = calls.run (new configId currentVersion) sent
  cancels : ∀ requestId requestDigest certificateValid error machine',
    GuardianMachine.cancel requestId requestDigest certificateValid
      (calls.run (new configId currentVersion) sent) = .error error machine' →
        machine' = calls.run (new configId currentVersion) sent

end GuardianMachine

open GuardianMachine

/-- Whatever is called on a new machine, a release rests on an accepted Begin of the same id and
digest, its delay, its lifetime and no cancellation; no id and no nonce is begun twice; a Begin or
a cancellation that is refused leaves the machine as it was. -/
theorem guardian_release_discipline (configId : Id32) (currentVersion : UInt64)
    (sent : List GuardianMachineCall) : Disciplined configId currentVersion sent := by
  have hledger := GuardianMachine.ledger_run configId currentVersion sent
  refine ⟨Machine.outputs_sublist Machine.ofCalls_emits _ sent, hledger.grounded, hledger.once,
    ?_, ?_⟩
  · intro request requestDigest wallNow monotonicNow delay certificateValid error machine' herror
    exact beginAt_eq_error herror
  · intro requestId requestDigest certificateValid error machine' herror
    exact GuardianMachine.cancel_eq_error herror

/-- A tombstone placed before its request, by another digest, keeps it out; the nonce it carried
stays free for a request that is begun and released. -/
def sampleGuardianCalls : List GuardianMachineCall :=
  let request (id nonce : Id32) : RecoveryRequest :=
    ⟨protocolVersion, .xwingXChaCha20Poly1305Ed25519, 1, 1, id, [4], 10, nonce, 200⟩
  [.cancel 3 9 true, .beginAt (request 3 5) 6 10 100 20 true,
    .beginAt (request 4 5) 7 10 100 20 true, .authorizeReleaseAt 4 7 20 119 true true,
    .authorizeReleaseAt 4 7 20 120 true true, .cancel 4 7 true,
    .authorizeReleaseAt 4 7 20 130 true true]

example : (calls.outputs (new 1 1) sampleGuardianCalls).map (sampleGuardianCalls.idxOf ·) =
    [0, 2, 4, 5] := by
  decide +kernel

end MasterRecovery
