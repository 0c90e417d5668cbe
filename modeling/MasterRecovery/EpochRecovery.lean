import MasterRecovery.Lib.Calls
import MasterRecovery.Lib.WriteOnce
import MasterRecovery.RecoveryTypes

/-!
# Recoveries across epochs (gp-core/src/rotation.rs)

A recovery is begun on the active epoch and may be released while its epoch is active or
draining. The machine's tables are read back as the history of the calls it has accepted.
-/

namespace MasterRecovery
open Checks

/-- The errors `EpochRecoveryMachine` returns. -/
inductive EpochRecoveryError
  | invalidEvidence
  | delayNotElapsed
  | failClosed
  | invalidSuccessor
  | replay
  | staleEpoch
  | unknownRequest
  | requestMismatch
  | cancelled
  | expired
  deriving DecidableEq

def EpochRecoveryError.text : EpochRecoveryError → String
  | .invalidEvidence => "certificate, result, or quorum is invalid"
  | .delayNotElapsed => "rotation delay has not elapsed"
  | .failClosed => "rotation state is ambiguous; fail closed"
  | .invalidSuccessor => "successor is not the exact next guardian epoch"
  | .replay => "witness request is stale or replayed"
  | .staleEpoch => "request is not bound to the active or draining epoch"
  | .unknownRequest => "recovery request was not found"
  | .requestMismatch => "recovery request transcript does not match"
  | .cancelled => "recovery request is cancelled"
  | .expired => "recovery request is expired"

structure PendingEpochRecovery where
  configRef : ConfigRef
  requestDigest : Id32
  nonce : Id32
  notBefore : UInt64
  expiry : UInt64
  state : RecoveryState
  deriving DecidableEq

structure EpochReleaseAuthorization where
  requestId : Id32
  requestDigest : Id32
  configRef : ConfigRef
  wallNow : UInt64
  monotonicNow : UInt64
  certificateValid : Bool
  stateUnambiguous : Bool
  deriving DecidableEq

/-- `draining` holds the deadline of each epoch left behind. -/
structure EpochRecoveryMachine where
  active : ConfigRef
  draining : Std.TreeMap UInt64 UInt64
  pending : Std.TreeMap Id32 PendingEpochRecovery
  seenRequestIds : Finset Id32
  seenNonces : Finset Id32
  cancelled : Std.TreeMap Id32 Id32

namespace EpochRecoveryMachine

def new (active : ConfigRef) : EpochRecoveryMachine where
  active := active
  draining := ∅
  pending := ∅
  seenRequestIds := ∅
  seenNonces := ∅
  cancelled := ∅

abbrev Call (α : Type) := EStateM EpochRecoveryError EpochRecoveryMachine α

/-- What a request whose id is cancelled is refused with. -/
def cancelledBy (cancelledDigest requestDigest : Id32) : EpochRecoveryError :=
  if cancelledDigest = requestDigest then .cancelled else .requestMismatch

def putPending (requestId : Id32) (pending : PendingEpochRecovery)
    (machine : EpochRecoveryMachine) : EpochRecoveryMachine :=
  { machine with pending := machine.pending.insert requestId pending }

@[simp] theorem putPending_active (requestId : Id32) (pending : PendingEpochRecovery)
    (machine : EpochRecoveryMachine) : (machine.putPending requestId pending).active =
      machine.active := rfl

@[simp] theorem putPending_draining (requestId : Id32) (pending : PendingEpochRecovery)
    (machine : EpochRecoveryMachine) : (machine.putPending requestId pending).draining =
      machine.draining := rfl

@[simp] theorem putPending_cancelled (requestId : Id32) (pending : PendingEpochRecovery)
    (machine : EpochRecoveryMachine) : (machine.putPending requestId pending).cancelled =
      machine.cancelled := rfl

def begin (request : RecoveryRequestV3) (requestDigest : Id32)
    (wallNow monotonicNow delaySecs : UInt64) (certificateValid : Bool) : Call UInt64 :=
  fun machine =>
  if certificateValid = false then .error .invalidEvidence machine
  else if request.configRef ≠ machine.active then .error .staleEpoch machine
  else if wallNow < request.requestedAt ∨ request.expiry ≤ wallNow then .error .expired machine
  else
    match machine.cancelled[request.requestId]? with
    | some cancelledDigest => .error (cancelledBy cancelledDigest requestDigest) machine
    | none =>
      if request.requestId ∈ machine.seenRequestIds then .error .replay machine
      else
        -- the id stays seen when the nonce turns out to be replayed
        let seen := { machine with
          seenRequestIds := insert request.requestId machine.seenRequestIds }
        if request.nonce ∈ machine.seenNonces then .error .replay seen
        else
          let notBefore := saturatingAdd monotonicNow delaySecs
          .ok notBefore ({ seen with
            seenNonces := insert request.nonce machine.seenNonces }.putPending request.requestId
              { configRef := request.configRef
                requestDigest := requestDigest
                nonce := request.nonce
                notBefore := notBefore
                expiry := request.expiry
                state := .delayPending })

def activateSuccessor (successor : ConfigRef) (drainDeadline : UInt64) (qcValid : Bool) :
    Call Unit := fun machine =>
  if qcValid = false then .error .invalidEvidence machine
  else if ¬successor.IsDirectSuccessorOf machine.active then .error .invalidSuccessor machine
  else .ok () { machine with
    draining := machine.draining.insert machine.active.guardianEpoch drainDeadline
    active := successor }

def authorizeRelease (authorization : EpochReleaseAuthorization) : Call Unit := fun machine =>
  if authorization.certificateValid = false ∨ authorization.stateUnambiguous = false then
    .error .invalidEvidence machine
  else
    match machine.cancelled[authorization.requestId]? with
    | some cancelledDigest =>
      .error (cancelledBy cancelledDigest authorization.requestDigest) machine
    | none =>
      match machine.pending[authorization.requestId]? with
      | none => .error .unknownRequest machine
      | some pending =>
        if pending.requestDigest ≠ authorization.requestDigest ∨
            pending.configRef ≠ authorization.configRef then
          .error .requestMismatch machine
        else if authorization.configRef ≠ machine.active ∧
            authorization.configRef.guardianEpoch ∉ machine.draining then
          .error .staleEpoch machine
        else if pending.expiry ≤ authorization.wallNow then
          .error .expired
            (machine.putPending authorization.requestId { pending with state := .expired })
        else if authorization.monotonicNow < pending.notBefore then
          .error .delayNotElapsed machine
        else
          .ok () (machine.putPending authorization.requestId { pending with state := .releasing })

def cancel (requestId requestDigest : Id32) (certificateValid : Bool) : Call Unit :=
  fun machine =>
  if certificateValid = false then .error .invalidEvidence machine
  else
    match machine.cancelled[requestId]? with
    | some existing =>
      if existing = requestDigest then .ok () machine else .error .requestMismatch machine
    | none =>
      let buried (machine : EpochRecoveryMachine) :=
        { machine with cancelled := machine.cancelled.insert requestId requestDigest }
      match machine.pending[requestId]? with
      | some pending =>
        if pending.requestDigest ≠ requestDigest then .error .requestMismatch machine
        else .ok () (buried (machine.putPending requestId { pending with state := .cancelled }))
      | none => .ok () (buried machine)

def retireDrainingEpoch (guardianEpoch monotonicNow : UInt64) : Call Unit := fun machine =>
  match machine.draining[guardianEpoch]? with
  | none => .error .staleEpoch machine
  | some deadline =>
    if monotonicNow < deadline then .error .delayNotElapsed machine
    else if ∃ pending ∈ machine.pending.values, pending.configRef.guardianEpoch = guardianEpoch ∧
        (pending.state = .delayPending ∨ pending.state = .releasing) then
      .error .failClosed machine
    else .ok () { machine with draining := machine.draining.erase guardianEpoch }

def state (requestId : Id32) (machine : EpochRecoveryMachine) : Option RecoveryState :=
  if requestId ∈ machine.cancelled then some .cancelled
  else machine.pending[requestId]?.map (·.state)

end EpochRecoveryMachine

inductive EpochRecoveryCall
  | begin (request : RecoveryRequestV3) (requestDigest : Id32)
    (wallNow monotonicNow delaySecs : UInt64) (certificateValid : Bool)
  | activateSuccessor (successor : ConfigRef) (drainDeadline : UInt64) (qcValid : Bool)
  | authorizeRelease (authorization : EpochReleaseAuthorization)
  | cancel (requestId requestDigest : Id32) (certificateValid : Bool)
  | retireDrainingEpoch (guardianEpoch monotonicNow : UInt64)
  deriving DecidableEq

namespace EpochRecoveryMachine

/-- The calls side by side; only the Begin returns a value. -/
def call : EpochRecoveryCall → Call (Option UInt64)
  | .begin request requestDigest wallNow monotonicNow delaySecs certificateValid =>
    some <$> begin request requestDigest wallNow monotonicNow delaySecs certificateValid
  | .activateSuccessor successor drainDeadline qcValid =>
    (fun _ => none) <$> activateSuccessor successor drainDeadline qcValid
  | .authorizeRelease authorization => (fun _ => none) <$> authorizeRelease authorization
  | .cancel requestId requestDigest certificateValid =>
    (fun _ => none) <$> cancel requestId requestDigest certificateValid
  | .retireDrainingEpoch guardianEpoch monotonicNow =>
    (fun _ => none) <$> retireDrainingEpoch guardianEpoch monotonicNow

/-- Calls one after the other; the accepted ones are logged. -/
def calls : Machine EpochRecoveryMachine EpochRecoveryCall EpochRecoveryCall where
  step machine sent :=
    match call sent machine with
    | .ok _ machine' => (machine', some sent)
    | .error _ machine' => (machine', none)

/-! ### What a call does -/

variable {machine machine' : EpochRecoveryMachine} {sent : EpochRecoveryCall} {value : Option UInt64}
  {error : EpochRecoveryError}

/-- The accepted calls, each with the machine it finds and the one it leaves. -/
inductive Accepts (machine : EpochRecoveryMachine) : EpochRecoveryCall → EpochRecoveryMachine → Prop
  | begun {request : RecoveryRequestV3} {requestDigest : Id32}
    {wallNow monotonicNow delaySecs : UInt64} (hactive : request.configRef = machine.active) :
    Accepts machine (.begin request requestDigest wallNow monotonicNow delaySecs true)
      ({ machine with
        seenRequestIds := insert request.requestId machine.seenRequestIds
        seenNonces := insert request.nonce machine.seenNonces }.putPending request.requestId
          { configRef := request.configRef
            requestDigest := requestDigest
            nonce := request.nonce
            notBefore := saturatingAdd monotonicNow delaySecs
            expiry := request.expiry
            state := .delayPending })
  | activated {successor : ConfigRef} {drainDeadline : UInt64}
    (hsuccessor : successor.IsDirectSuccessorOf machine.active) :
    Accepts machine (.activateSuccessor successor drainDeadline true)
      { machine with
        draining := machine.draining.insert machine.active.guardianEpoch drainDeadline
        active := successor }
  | released {authorization : EpochReleaseAuthorization} {pending : PendingEpochRecovery}
    (hlive : machine.cancelled[authorization.requestId]? = none)
    (hpending : machine.pending[authorization.requestId]? = some pending)
    (hdigest : pending.requestDigest = authorization.requestDigest)
    (href : pending.configRef = authorization.configRef)
    (hepoch : authorization.configRef = machine.active ∨
      authorization.configRef.guardianEpoch ∈ machine.draining)
    (hexpiry : authorization.wallNow < pending.expiry)
    (hdue : pending.notBefore ≤ authorization.monotonicNow) :
    Accepts machine (.authorizeRelease authorization)
      (machine.putPending authorization.requestId { pending with state := .releasing })
  | cancelledBefore {requestId requestDigest : Id32}
    (hcancelled : machine.cancelled[requestId]? = some requestDigest) :
    Accepts machine (.cancel requestId requestDigest true) machine
  | cancelledPending {requestId requestDigest : Id32} {pending : PendingEpochRecovery}
    (hpending : machine.pending[requestId]? = some pending) :
    Accepts machine (.cancel requestId requestDigest true)
      { machine.putPending requestId { pending with state := .cancelled } with
        cancelled := machine.cancelled.insert requestId requestDigest }
  | cancelled {requestId requestDigest : Id32} :
    Accepts machine (.cancel requestId requestDigest true)
      { machine with cancelled := machine.cancelled.insert requestId requestDigest }
  | retired {guardianEpoch monotonicNow : UInt64} :
    Accepts machine (.retireDrainingEpoch guardianEpoch monotonicNow)
      { machine with draining := machine.draining.erase guardianEpoch }

/-- A refused call leaves the machine, but for an id it has seen or a request that expired. -/
inductive Refuses (machine : EpochRecoveryMachine) : EpochRecoveryMachine → Prop
  | kept : Refuses machine machine
  | seen (requestId : Id32) :
    Refuses machine
      { machine with seenRequestIds := insert requestId machine.seenRequestIds }
  | expired {requestId : Id32} {pending : PendingEpochRecovery}
    (hpending : machine.pending[requestId]? = some pending) :
    Refuses machine (machine.putPending requestId { pending with state := .expired })

section Calls

variable {request : RecoveryRequestV3} {requestDigest requestId : Id32}
  {wallNow monotonicNow delaySecs notBefore guardianEpoch drainDeadline : UInt64}
  {certificateValid qcValid : Bool} {successor : ConfigRef}
  {authorization : EpochReleaseAuthorization} {u : Unit}

theorem begin_eq_ok
    (h : begin request requestDigest wallNow monotonicNow delaySecs certificateValid machine =
      .ok notBefore machine') :
    Accepts machine (.begin request requestDigest wallNow monotonicNow delaySecs certificateValid)
      machine' := by
  unfold begin at h
  split at h
  · cases h
  · next hvalid =>
    rw [Bool.not_eq_false] at hvalid
    subst hvalid
    split at h
    · cases h
    · next hactive =>
      rw [not_not] at hactive
      split at h
      · cases h
      · split at h
        · cases h
        · split at h
          · cases h
          · split at h
            · cases h
            · cases h
              exact .begun hactive

theorem begin_eq_error
    (h : begin request requestDigest wallNow monotonicNow delaySecs certificateValid machine =
      .error error machine') : Refuses machine machine' := by
  unfold begin at h
  split at h
  · cases h
    exact .kept
  · split at h
    · cases h
      exact .kept
    · split at h
      · cases h
        exact .kept
      · split at h
        · cases h
          exact .kept
        · split at h
          · cases h
            exact .kept
          · split at h
            · cases h
              exact .seen _
            · cases h

theorem activateSuccessor_eq_ok
    (h : activateSuccessor successor drainDeadline qcValid machine = .ok u machine') :
    Accepts machine (.activateSuccessor successor drainDeadline qcValid) machine' := by
  unfold activateSuccessor at h
  split at h
  · cases h
  · next hvalid =>
    rw [Bool.not_eq_false] at hvalid
    subst hvalid
    split at h
    · cases h
    · next hsuccessor =>
      cases h
      exact .activated (not_not.mp hsuccessor)

theorem activateSuccessor_eq_error
    (h : activateSuccessor successor drainDeadline qcValid machine = .error error machine') :
    machine' = machine := by
  unfold activateSuccessor at h
  split at h
  · cases h
    rfl
  · split at h
    · cases h
      rfl
    · cases h

theorem authorizeRelease_eq_ok
    (h : authorizeRelease authorization machine = .ok u machine') :
    Accepts machine (.authorizeRelease authorization) machine' := by
  unfold authorizeRelease at h
  split at h
  · cases h
  · split at h
    · cases h
    · next hlive =>
      split at h
      · cases h
      · next pending hpending =>
        split at h
        · cases h
        · next hsame =>
          simp only [not_or, ne_eq, not_not] at hsame
          split at h
          · cases h
          · next hepoch =>
            rw [not_and_or, ne_eq, not_not, not_not] at hepoch
            split at h
            · cases h
            · next hexpiry =>
              rw [UInt64.not_le] at hexpiry
              split at h
              · cases h
              · next hdue =>
                rw [UInt64.not_lt] at hdue
                cases h
                exact .released hlive hpending hsame.1 hsame.2 hepoch hexpiry hdue

theorem authorizeRelease_eq_error
    (h : authorizeRelease authorization machine = .error error machine') :
    Refuses machine machine' := by
  unfold authorizeRelease at h
  split at h
  · cases h
    exact .kept
  · split at h
    · cases h
      exact .kept
    · split at h
      · cases h
        exact .kept
      · next pending hpending =>
        split at h
        · cases h
          exact .kept
        · split at h
          · cases h
            exact .kept
          · split at h
            · cases h
              exact .expired hpending
            · split at h
              · cases h
                exact .kept
              · cases h

/-- What a cancellation that is accepted found. -/
theorem cancel_accepted (h : cancel requestId requestDigest certificateValid machine = .ok u machine') :
    certificateValid = true ∧
      ((machine.cancelled[requestId]? = some requestDigest ∧ machine' = machine) ∨
        (machine.cancelled[requestId]? = none ∧ ∃ pending,
          machine.pending[requestId]? = some pending ∧ pending.requestDigest = requestDigest ∧
          machine' = { machine.putPending requestId { pending with state := .cancelled } with
            cancelled := machine.cancelled.insert requestId requestDigest }) ∨
        (machine.cancelled[requestId]? = none ∧ machine.pending[requestId]? = none ∧
          machine' =
            { machine with cancelled := machine.cancelled.insert requestId requestDigest })) := by
  unfold cancel at h
  split at h
  · cases h
  · next hvalid =>
    rw [Bool.not_eq_false] at hvalid
    refine ⟨hvalid, ?_⟩
    split at h
    · next existing hcancelled =>
      split at h
      · next hsame =>
        cases h
        exact Or.inl ⟨hsame ▸ hcancelled, rfl⟩
      · cases h
    · next hlive =>
      split at h
      · next pending hpending =>
        split at h
        · cases h
        · next hdigest =>
          cases h
          exact Or.inr (Or.inl ⟨hlive, pending, hpending, not_not.mp hdigest, rfl⟩)
      · next hpending =>
        cases h
        exact Or.inr (Or.inr ⟨hlive, hpending, rfl⟩)

theorem cancel_eq_ok (h : cancel requestId requestDigest certificateValid machine = .ok u machine') :
    Accepts machine (.cancel requestId requestDigest certificateValid) machine' := by
  obtain ⟨rfl, ⟨hcancelled, rfl⟩ | ⟨-, pending, hpending, -, rfl⟩ | ⟨-, -, rfl⟩⟩ := cancel_accepted h
  · exact .cancelledBefore hcancelled
  · exact .cancelledPending hpending
  · exact .cancelled

theorem cancel_eq_error
    (h : cancel requestId requestDigest certificateValid machine = .error error machine') :
    machine' = machine := by
  unfold cancel at h
  split at h
  · cases h
    rfl
  · split at h
    · split at h
      · cases h
      · cases h
        rfl
    · split at h
      · split at h
        · cases h
          rfl
        · cases h
      · cases h

theorem retireDrainingEpoch_eq_ok
    (h : retireDrainingEpoch guardianEpoch monotonicNow machine = .ok u machine') :
    Accepts machine (.retireDrainingEpoch guardianEpoch monotonicNow) machine' := by
  unfold retireDrainingEpoch at h
  split at h
  · cases h
  · split at h
    · cases h
    · split at h
      · cases h
      · cases h
        exact .retired

theorem retireDrainingEpoch_eq_error
    (h : retireDrainingEpoch guardianEpoch monotonicNow machine = .error error machine') :
    machine' = machine := by
  unfold retireDrainingEpoch at h
  split at h
  · cases h
    rfl
  · split at h
    · cases h
      rfl
    · split at h
      · cases h
        rfl
      · cases h

end Calls

theorem call_eq_ok (h : call sent machine = .ok value machine') : Accepts machine sent machine' := by
  cases sent <;> obtain ⟨a, hcall, -⟩ := Machine.map_eq_ok h
  case begin => exact begin_eq_ok hcall
  case activateSuccessor => exact activateSuccessor_eq_ok hcall
  case authorizeRelease => exact authorizeRelease_eq_ok hcall
  case cancel => exact cancel_eq_ok hcall
  case retireDrainingEpoch => exact retireDrainingEpoch_eq_ok hcall

theorem call_eq_error (h : call sent machine = .error error machine') :
    Refuses machine machine' := by
  cases sent <;> have hcall := Machine.map_eq_error h
  case begin => exact begin_eq_error hcall
  case activateSuccessor => exact activateSuccessor_eq_error hcall ▸ .kept
  case authorizeRelease => exact authorizeRelease_eq_error hcall
  case cancel => exact cancel_eq_error hcall ▸ .kept
  case retireDrainingEpoch => exact retireDrainingEpoch_eq_error hcall ▸ .kept

/-! ### What it leaves -/

/-- The request as it was begun, in whatever state it is now. -/
def Begun (machine : EpochRecoveryMachine) (requestId : Id32) (pending : PendingEpochRecovery) :
    Prop :=
  ∃ begun, machine.pending[requestId]? = some begun ∧ pending = { begun with state := pending.state }

theorem putPending_begun {requestId id : Id32} {pending found : PendingEpochRecovery}
    (hbegun : machine.Begun requestId pending)
    (hfound : (machine.putPending requestId pending).pending[id]? = some found) :
    machine.Begun id found := by
  rcases getElem?_insert_iff.mp hfound with ⟨rfl, rfl⟩ | ⟨-, hold⟩
  · exact hbegun
  · exact ⟨found, hold, rfl⟩

theorem Refuses.pending (h : Refuses machine machine') {requestId : Id32}
    {found : PendingEpochRecovery} (hfound : machine'.pending[requestId]? = some found) :
    machine.Begun requestId found := by
  cases h with
  | kept => exact ⟨found, hfound, rfl⟩
  | seen => exact ⟨found, hfound, rfl⟩
  | expired hpending => exact putPending_begun ⟨_, hpending, rfl⟩ hfound

/-- A request is pending since before, or it is begun now. -/
theorem Accepts.pending (h : Accepts machine sent machine') {requestId : Id32}
    {found : PendingEpochRecovery} (hfound : machine'.pending[requestId]? = some found) :
    machine.Begun requestId found ∨
      ∃ request wallNow monotonicNow delaySecs,
        sent = .begin request found.requestDigest wallNow monotonicNow delaySecs true ∧
        request.requestId = requestId ∧ request.configRef = found.configRef ∧
        machine.active = found.configRef ∧
        found.notBefore = saturatingAdd monotonicNow delaySecs ∧ found.expiry = request.expiry := by
  cases h with
  | @begun request requestDigest wallNow monotonicNow delaySecs hactive =>
    rcases getElem?_insert_iff.mp hfound with ⟨rfl, rfl⟩ | ⟨-, hold⟩
    · exact Or.inr ⟨request, wallNow, monotonicNow, delaySecs, rfl, rfl, rfl, hactive.symm, rfl, rfl⟩
    · exact Or.inl ⟨found, hold, rfl⟩
  | released _ hpending => exact Or.inl (putPending_begun ⟨_, hpending, rfl⟩ hfound)
  | cancelledPending hpending => exact Or.inl (putPending_begun ⟨_, hpending, rfl⟩ hfound)
  | activated => exact Or.inl ⟨found, hfound, rfl⟩
  | cancelledBefore => exact Or.inl ⟨found, hfound, rfl⟩
  | cancelled => exact Or.inl ⟨found, hfound, rfl⟩
  | retired => exact Or.inl ⟨found, hfound, rfl⟩

theorem insert_ne_none {table : Std.TreeMap Id32 Id32} {requestId id digest : Id32}
    (h : id = requestId ∨ table[id]? ≠ none) : (table.insert requestId digest)[id]? ≠ none := by
  rw [Std.TreeMap.getElem?_insert]
  by_cases hsame : compare requestId id = .eq
  · simp [hsame]
  · rw [if_neg hsame]
    exact h.resolve_left fun heq => hsame (Std.compare_eq_iff_eq.mpr heq.symm)

/-- A cancellation is never forgotten. -/
theorem Accepts.cancelled_ne_none (h : Accepts machine sent machine') {requestId : Id32}
    (hcancelled : machine.cancelled[requestId]? ≠ none ∨
      ∃ requestDigest certificateValid, sent = .cancel requestId requestDigest certificateValid) :
    machine'.cancelled[requestId]? ≠ none := by
  cases h with
  | cancelledBefore hbefore =>
    rcases hcancelled with hold | ⟨digest, valid, hsent⟩
    · exact hold
    · cases hsent
      simp [hbefore]
  | cancelledPending =>
    refine insert_ne_none (hcancelled.symm.imp_left ?_)
    rintro ⟨digest, valid, hsent⟩
    cases hsent
    rfl
  | cancelled =>
    refine insert_ne_none (hcancelled.symm.imp_left ?_)
    rintro ⟨digest, valid, hsent⟩
    cases hsent
    rfl
  | _ => exact hcancelled.resolve_right (by simp)

/-- An epoch drains since before, or the active one starts to. -/
theorem Accepts.drains (h : Accepts machine sent machine') {guardianEpoch deadline : UInt64}
    (hfound : machine'.draining[guardianEpoch]? = some deadline) :
    (machine.draining[guardianEpoch]? = some deadline ∧
      ∀ monotonicNow, sent ≠ .retireDrainingEpoch guardianEpoch monotonicNow) ∨
    ∃ successor drainDeadline, sent = .activateSuccessor successor drainDeadline true ∧
      machine.active.guardianEpoch = guardianEpoch := by
  cases h with
  | @activated successor drainDeadline =>
    rcases getElem?_insert_iff.mp hfound with ⟨rfl, -⟩ | ⟨-, hold⟩
    · exact Or.inr ⟨successor, drainDeadline, rfl, rfl⟩
    · exact Or.inl ⟨hold, by simp⟩
  | retired =>
    obtain ⟨hother, hold⟩ := getElem?_erase_iff.mp hfound
    exact Or.inl ⟨hold, by simp [Ne.symm hother]⟩
  | _ => exact Or.inl ⟨hfound, by simp⟩

/-! ### Histories -/

/-- The active epoch after the accepted calls of a log. -/
def activeAfter (initial : ConfigRef) : List EpochRecoveryCall → ConfigRef
  | [] => initial
  | .activateSuccessor successor _ _ :: log => activeAfter successor log
  | _ :: log => activeAfter initial log

theorem activeAfter_append (initial : ConfigRef) (earlier later : List EpochRecoveryCall) :
    activeAfter initial (earlier ++ later) = activeAfter (activeAfter initial earlier) later := by
  induction earlier generalizing initial with
  | nil => rfl
  | cons sent earlier ih => cases sent <;> exact ih _

/-- An accepted Begin of the request on its epoch, while that epoch was active. -/
def BegunOn (initial : ConfigRef) (log : List EpochRecoveryCall) (requestId requestDigest : Id32)
    (configRef : ConfigRef) (notBefore expiry : UInt64) : Prop :=
  ∃ earlier request wallNow monotonicNow delaySecs later,
    log = earlier ++ .begin request requestDigest wallNow monotonicNow delaySecs true :: later ∧
    request.requestId = requestId ∧ request.configRef = configRef ∧
    activeAfter initial earlier = configRef ∧
    notBefore = saturatingAdd monotonicNow delaySecs ∧ expiry = request.expiry

/-- The epoch was left by an accepted activation, and no epoch of its number was retired since. -/
def StillDraining (initial : ConfigRef) (log : List EpochRecoveryCall) (left : ConfigRef) : Prop :=
  ∃ earlier successor drainDeadline qcValid later,
    log = earlier ++ .activateSuccessor successor drainDeadline qcValid :: later ∧
    activeAfter initial earlier = left ∧
    ∀ monotonicNow, .retireDrainingEpoch left.guardianEpoch monotonicNow ∉ later

/-- Each activated epoch directly succeeds the one before it. -/
def Succession (initial : ConfigRef) (log : List EpochRecoveryCall) : Prop :=
  ∀ earlier successor drainDeadline qcValid later,
    log = earlier ++ .activateSuccessor successor drainDeadline qcValid :: later →
      successor.IsDirectSuccessorOf (activeAfter initial earlier)

/-- What an accepted release rests on in the calls accepted before it. -/
structure ReleaseGrounds (initial : ConfigRef) (earlier : List EpochRecoveryCall)
    (authorization : EpochReleaseAuthorization) : Prop where
  begun : ∃ before request wallNow monotonicNow delaySecs after,
    earlier = before ++
      .begin request authorization.requestDigest wallNow monotonicNow delaySecs true :: after ∧
    request.requestId = authorization.requestId ∧
    request.configRef = authorization.configRef ∧
    activeAfter initial before = request.configRef ∧
    min (monotonicNow.toNat + delaySecs.toNat) (2 ^ 64 - 1) ≤ authorization.monotonicNow.toNat ∧
    authorization.wallNow < request.expiry
  live : ∀ requestDigest certificateValid,
    .cancel authorization.requestId requestDigest certificateValid ∉ earlier
  epoch : activeAfter initial earlier = authorization.configRef ∨
    ∃ left, StillDraining initial earlier left ∧
      left.guardianEpoch = authorization.configRef.guardianEpoch ∧
      (left.guardianEpoch.toNat < 2 ^ 64 - 1 → left = authorization.configRef)

/-- What the machine's tables tell of the calls it has accepted. -/
structure Ledger (initial : ConfigRef) (machine : EpochRecoveryMachine)
    (log : List EpochRecoveryCall) : Prop where
  active : machine.active = activeAfter initial log
  succession : Succession initial log
  begun : ∀ (requestId : Id32) (pending : PendingEpochRecovery),
    machine.pending[requestId]? = some pending →
      BegunOn initial log requestId pending.requestDigest pending.configRef pending.notBefore
        pending.expiry
  cancelled : ∀ requestId requestDigest certificateValid,
    .cancel requestId requestDigest certificateValid ∈ log →
      machine.cancelled[requestId]? ≠ none
  draining : ∀ guardianEpoch deadline, machine.draining[guardianEpoch]? = some deadline →
    ∃ left, StillDraining initial log left ∧ left.guardianEpoch = guardianEpoch
  grounded : ∀ earlier authorization later,
    log = earlier ++ .authorizeRelease authorization :: later →
      ReleaseGrounds initial earlier authorization

/-! ### Epoch numbers along a history -/

section Succession

variable {initial : ConfigRef} {log earlier later : List EpochRecoveryCall}

theorem Succession.before (h : Succession initial (earlier ++ later)) :
    Succession initial earlier := by
  intro x successor drainDeadline qcValid y hsplit
  exact h x successor drainDeadline qcValid (y ++ later) (by simp [hsplit])

theorem Succession.after (h : Succession initial (earlier ++ later)) :
    Succession (activeAfter initial earlier) later := by
  intro x successor drainDeadline qcValid y hsplit
  rw [← activeAfter_append]
  exact h (earlier ++ x) successor drainDeadline qcValid y (by simp [hsplit])

/-- The number of the active epoch never falls; short of the last number it stays only while the
epoch does. -/
theorem Succession.epoch_le (h : Succession initial log) :
    initial.guardianEpoch.toNat ≤ (activeAfter initial log).guardianEpoch.toNat ∧
      (initial.guardianEpoch = (activeAfter initial log).guardianEpoch →
        initial.guardianEpoch.toNat < 2 ^ 64 - 1 → initial = activeAfter initial log) := by
  induction log generalizing initial with
  | nil => exact ⟨le_refl _, fun _ _ => rfl⟩
  | cons sent log ih =>
    have hrest : Succession (activeAfter initial [sent]) log := Succession.after h
    cases sent with
    | activateSuccessor successor drainDeadline qcValid =>
      have hsuccessor := h [] successor drainDeadline qcValid log rfl
      have hnext := congrArg UInt64.toNat hsuccessor.2.2.2.1
      simp only [activeAfter] at hnext hrest ⊢
      rw [saturatingAdd_toNat, UInt64.toNat_one] at hnext
      have hle := (ih hrest).1
      have hlt := initial.guardianEpoch.toNat_lt
      refine ⟨by omega, fun hsame hsmall => ?_⟩
      have hnat := congrArg UInt64.toNat hsame
      omega
    | _ => exact ih hrest

/-- Two epochs of one history with the same number, short of the last one, are the same. -/
theorem Succession.epoch_injective (h : Succession initial log) {earlier' later' : List EpochRecoveryCall}
    (hsplit : log = earlier ++ later) (hsplit' : log = earlier' ++ later')
    (hsame : (activeAfter initial earlier).guardianEpoch =
      (activeAfter initial earlier').guardianEpoch)
    (hsmall : (activeAfter initial earlier).guardianEpoch.toNat < 2 ^ 64 - 1) :
    activeAfter initial earlier = activeAfter initial earlier' := by
  rcases List.append_eq_append_iff.mp (hsplit.symm.trans hsplit') with ⟨x, rfl, -⟩ | ⟨x, rfl, -⟩
  · rw [hsplit'] at h
    have hmore := h.before.after
    rw [activeAfter_append] at hsame ⊢
    exact hmore.epoch_le.2 hsame hsmall
  · rw [hsplit] at h
    have hmore := h.before.after
    rw [hsame] at hsmall
    rw [activeAfter_append] at hsame ⊢
    exact (hmore.epoch_le.2 hsame.symm hsmall).symm

end Succession

/-! ### Runs -/

section Ledger

variable {initial : ConfigRef} {log : List EpochRecoveryCall}

theorem Ledger.new (initial : ConfigRef) : Ledger initial (new initial) [] where
  active := rfl
  succession := by simp [Succession]
  begun _ _ hpending := by simp [EpochRecoveryMachine.new] at hpending
  cancelled _ _ _ hmem := by cases hmem
  draining _ _ hdraining := by simp [EpochRecoveryMachine.new] at hdraining
  grounded := by simp

theorem BegunOn.later {requestId requestDigest : Id32} {configRef : ConfigRef}
    {notBefore expiry : UInt64}
    (h : BegunOn initial log requestId requestDigest configRef notBefore expiry)
    (sent : EpochRecoveryCall) :
    BegunOn initial (log ++ [sent]) requestId requestDigest configRef notBefore expiry := by
  obtain ⟨earlier, request, wallNow, monotonicNow, delaySecs, later, rfl, hrest⟩ := h
  exact ⟨earlier, request, wallNow, monotonicNow, delaySecs, later ++ [sent], by simp, hrest⟩

theorem StillDraining.later {left : ConfigRef} (h : StillDraining initial log left)
    {sent : EpochRecoveryCall}
    (hsent : ∀ monotonicNow, sent ≠ .retireDrainingEpoch left.guardianEpoch monotonicNow) :
    StillDraining initial (log ++ [sent]) left := by
  obtain ⟨earlier, successor, drainDeadline, qcValid, later, rfl, hleft, hkept⟩ := h
  refine ⟨earlier, successor, drainDeadline, qcValid, later ++ [sent], by simp, hleft, ?_⟩
  intro monotonicNow hmem
  rcases List.mem_append.mp hmem with hold | hnew
  · exact hkept monotonicNow hold
  · exact hsent monotonicNow (List.mem_singleton.mp hnew).symm

/-- A refusal keeps what the ledger speaks of. -/
theorem Ledger.refused (h : Ledger initial machine log) (hrefuses : Refuses machine machine') :
    Ledger initial machine' log := by
  have hbegun : ∀ requestId pending, machine'.pending[requestId]? = some pending →
      BegunOn initial log requestId pending.requestDigest pending.configRef pending.notBefore
        pending.expiry := by
    intro requestId pending hfound
    obtain ⟨begun, hold, hsame⟩ := hrefuses.pending hfound
    rw [hsame]
    exact h.begun requestId begun hold
  cases hrefuses <;>
    exact ⟨h.active, h.succession, hbegun, h.cancelled, h.draining, h.grounded⟩

/-- Grounds of a release that is accepted now. -/
theorem Ledger.grounds (h : Ledger initial machine log)
    {authorization : EpochReleaseAuthorization}
    (haccepts : Accepts machine (.authorizeRelease authorization) machine') :
    ReleaseGrounds initial log authorization := by
  cases haccepts with
  | @released _ pending hlive hpending hdigest href hepoch hexpiry hdue =>
    obtain ⟨before, request, wallNow, monotonicNow, delaySecs, after, hlog, hid, hconfig, hactive,
      hnotBefore, hrequestExpiry⟩ := h.begun _ _ hpending
    rw [hdigest] at hlog
    rw [href] at hconfig hactive
    refine ⟨⟨before, request, wallNow, monotonicNow, delaySecs, after, hlog, hid, hconfig,
      hactive.trans hconfig.symm, ?_, hrequestExpiry ▸ hexpiry⟩, ?_, ?_⟩
    · rw [hnotBefore, UInt64.le_iff_toNat_le, saturatingAdd_toNat] at hdue
      exact hdue
    · intro requestDigest certificateValid hmem
      exact h.cancelled _ _ _ hmem hlive
    · rcases hepoch with hcurrent | hdraining
      · exact Or.inl (h.active.symm.trans hcurrent.symm)
      · obtain ⟨deadline, hdeadline⟩ := Option.isSome_iff_exists.mp
          (Std.TreeMap.isSome_getElem?_iff_mem.mpr hdraining)
        obtain ⟨left, hleft, hnumber⟩ := h.draining _ _ hdeadline
        refine Or.inr ⟨left, hleft, hnumber, fun hsmall => ?_⟩
        obtain ⟨earlier, successor, drainDeadline, qcValid, later, hsplit, rfl, -⟩ := hleft
        rw [← hactive] at hnumber ⊢
        exact h.succession.epoch_injective hsplit hlog hnumber hsmall

theorem activeAfter_concat (initial : ConfigRef) (log : List EpochRecoveryCall)
    (sent : EpochRecoveryCall) :
    activeAfter initial (log ++ [sent]) = activeAfter (activeAfter initial log) [sent] :=
  activeAfter_append initial log [sent]

theorem Ledger.accepted (h : Ledger initial machine log) (haccepts : Accepts machine sent machine') :
    Ledger initial machine' (log ++ [sent]) where
  active := by
    rw [activeAfter_concat, ← h.active]
    cases haccepts <;> rfl
  succession := by
    intro earlier successor drainDeadline qcValid later hsplit
    rcases Machine.concat_split hsplit with ⟨-, rfl, rfl⟩ | ⟨z, -, hold⟩
    · cases haccepts with
      | activated hsuccessor => exact h.active ▸ hsuccessor
    · exact h.succession _ _ _ _ _ hold
  begun := by
    intro requestId pending hfound
    rcases haccepts.pending hfound with ⟨begun, hold, hsame⟩ |
      ⟨request, wallNow, monotonicNow, delaySecs, rfl, hid, href, hactive, hnotBefore, hexpiry⟩
    · rw [hsame]
      exact (h.begun requestId begun hold).later sent
    · exact ⟨log, request, wallNow, monotonicNow, delaySecs, [], rfl, hid, href,
        h.active.symm.trans hactive, hnotBefore, hexpiry⟩
  cancelled := by
    intro requestId requestDigest certificateValid hmem
    refine haccepts.cancelled_ne_none ((List.mem_append.mp hmem).imp ?_ ?_)
    · exact h.cancelled _ _ _
    · intro hnew
      exact ⟨requestDigest, certificateValid, (List.mem_singleton.mp hnew).symm⟩
  draining := by
    intro guardianEpoch deadline hfound
    rcases haccepts.drains hfound with ⟨hold, hsent⟩ | ⟨successor, drainDeadline, rfl, rfl⟩
    · obtain ⟨left, hleft, rfl⟩ := h.draining _ _ hold
      exact ⟨left, hleft.later hsent, rfl⟩
    · exact ⟨machine.active, ⟨log, successor, drainDeadline, true, [], rfl, h.active.symm,
        by simp⟩, rfl⟩
  grounded := by
    intro earlier authorization later hsplit
    rcases Machine.concat_split hsplit with ⟨-, rfl, rfl⟩ | ⟨z, -, hold⟩
    · exact h.grounds haccepts
    · exact h.grounded _ _ _ hold

/-- One call: an accepted one is logged. -/
theorem Ledger.step (h : Ledger initial machine log) (sent : EpochRecoveryCall) :
    Ledger initial (calls.step machine sent).1 (log ++ (calls.step machine sent).2.toList) := by
  simp only [calls]
  cases hcall : call sent machine with
  | ok value machine' => exact h.accepted (call_eq_ok hcall)
  | error error machine' => simpa using h.refused (call_eq_error hcall)

theorem ledger_run (initial : ConfigRef) (sent : List EpochRecoveryCall) :
    Ledger initial (calls.run (new initial) sent) (calls.outputs (new initial) sent) :=
  Machine.run_invariant calls (P := fun _ _ _ => True) (Ledger.new initial)
    (fun _ _ sent hledger _ => hledger.step sent)
    (Machine.along_of_forall calls (P := fun _ => True) (fun _ _ => trivial) _ _)

end Ledger

theorem calls_emits (machine : EpochRecoveryMachine) (sent : EpochRecoveryCall) :
    (calls.step machine sent).2 = some sent ∨ (calls.step machine sent).2 = none := by
  simp only [calls]
  cases call sent machine with
  | ok => exact Or.inl rfl
  | error => exact Or.inr rfl

/-- What the calls made to a new machine and its tables tell of each other. -/
structure EpochBound (initial : ConfigRef) (sent : List EpochRecoveryCall) : Prop where
  logged : (calls.outputs (new initial) sent).Sublist sent
  released : ∀ earlier authorization later,
    calls.outputs (new initial) sent = earlier ++ .authorizeRelease authorization :: later →
      ReleaseGrounds initial earlier authorization
  current : ∀ request requestDigest wallNow monotonicNow delaySecs certificateValid,
    request.configRef ≠ activeAfter initial (calls.outputs (new initial) sent) →
      ∃ error, begin request requestDigest wallNow monotonicNow delaySecs certificateValid
        (calls.run (new initial) sent) = .error error (calls.run (new initial) sent)
  kept : ∀ successor drainDeadline qcValid,
    (calls.step (calls.run (new initial) sent)
      (.activateSuccessor successor drainDeadline qcValid)).1.pending =
        (calls.run (new initial) sent).pending

theorem begin_other_epoch {request : RecoveryRequestV3} (requestDigest : Id32)
    (wallNow monotonicNow delaySecs : UInt64) (certificateValid : Bool)
    (hother : request.configRef ≠ machine.active) :
    ∃ error, begin request requestDigest wallNow monotonicNow delaySecs certificateValid machine =
      .error error machine := by
  unfold begin
  cases certificateValid with
  | false => exact ⟨.invalidEvidence, rfl⟩
  | true => exact ⟨.staleEpoch, by simp [hother]⟩

theorem activateSuccessor_pending (machine : EpochRecoveryMachine) (successor : ConfigRef)
    (drainDeadline : UInt64) (qcValid : Bool) :
    (calls.step machine (.activateSuccessor successor drainDeadline qcValid)).1.pending =
      machine.pending := by
  simp only [calls]
  cases hcall : call (.activateSuccessor successor drainDeadline qcValid) machine with
  | ok value machine' =>
    have haccepts := call_eq_ok hcall
    cases haccepts with
    | activated => rfl
  | error error machine' =>
    have hkept := activateSuccessor_eq_error (Machine.map_eq_error hcall)
    exact congrArg (·.pending) hkept

end EpochRecoveryMachine

open EpochRecoveryMachine

/-- Whatever is called on a new machine, a release rests on an accepted Begin of the same digest on
the epoch active then, its delay, its lifetime, no cancellation and an epoch not yet retired; no
other epoch can be begun on, and a successor leaves the pending requests alone. -/
theorem epoch_recovery_bound (initial : ConfigRef) (sent : List EpochRecoveryCall) :
    EpochBound initial sent := by
  have hledger := ledger_run initial sent
  refine ⟨Machine.outputs_sublist calls_emits _ sent, hledger.grounded, ?_, activateSuccessor_pending _⟩
  intro request requestDigest wallNow monotonicNow delaySecs certificateValid hother
  rw [← hledger.active] at hother
  exact begin_other_epoch requestDigest wallNow monotonicNow delaySecs certificateValid hother

/-- A recovery begun before an activation is released after it; a second Begin comes too late. -/
def sampleEpochCalls : List EpochRecoveryCall :=
  let old : ConfigRef := ⟨1, 1, 1, 1, 1⟩
  [.begin ⟨3, old, 3, [4], 10, 5, 200⟩ 6 10 100 20 true,
    .activateSuccessor ⟨1, 1, 1, 2, 2⟩ 250 true,
    .authorizeRelease ⟨3, 6, old, 20, 120, true, true⟩,
    .begin ⟨3, old, 8, [4], 10, 9, 200⟩ 10 20 120 20 true]

example : calls.outputs (new ⟨1, 1, 1, 1, 1⟩) sampleEpochCalls = sampleEpochCalls.take 3 := by
  decide +kernel

end MasterRecovery
