import MasterRecovery.RequestBook
import MasterRecovery.EpochRecovery

/-!
# The requests of a machine across epochs (gp-core/src/rotation.rs)

What a Begin returns and leaves, case by case, and the book the machine keeps of its requests.
-/

namespace MasterRecovery

namespace EpochRecoveryMachine
open Checks

variable {machine machine' : EpochRecoveryMachine} {sent : EpochRecoveryCall} {value : Option UInt64}
  {error : EpochRecoveryError}

theorem calls_ok (h : call sent machine = .ok value machine') :
    calls.step machine sent = (machine', some sent) := by
  simp only [calls, h]

theorem calls_error (h : call sent machine = .error error machine') :
    calls.step machine sent = (machine', none) := by
  simp only [calls, h]

/-! ### Begin -/

/-- A Begin that passes every check but the one for its nonce. -/
structure Presentable (machine : EpochRecoveryMachine) (request : RecoveryRequestV3)
    (wallNow : UInt64) (certificateValid : Bool) : Prop where
  certificate : certificateValid = true
  active : request.configRef = machine.active
  requested : request.requestedAt ≤ wallNow
  expiry : wallNow < request.expiry
  live : machine.cancelled[request.requestId]? = none
  newId : request.requestId ∉ machine.seenRequestIds

/-- The machine with the request pending. -/
def withBegun (request : RecoveryRequestV3) (requestDigest : Id32) (notBefore : UInt64)
    (machine : EpochRecoveryMachine) : EpochRecoveryMachine :=
  { machine with
    seenRequestIds := insert request.requestId machine.seenRequestIds
    seenNonces := insert request.nonce machine.seenNonces }.putPending request.requestId
      { configRef := request.configRef
        requestDigest := requestDigest
        nonce := request.nonce
        notBefore := notBefore
        expiry := request.expiry
        state := .delayPending }

section Begin

variable {request : RecoveryRequestV3} {requestDigest : Id32}
  {wallNow monotonicNow delaySecs : UInt64} {certificateValid : Bool}

theorem begin_admitted (h : machine.Presentable request wallNow certificateValid)
    (hnonce : request.nonce ∉ machine.seenNonces) :
    begin request requestDigest wallNow monotonicNow delaySecs certificateValid machine =
      .ok (saturatingAdd monotonicNow delaySecs)
        (machine.withBegun request requestDigest (saturatingAdd monotonicNow delaySecs)) := by
  simp [begin, withBegun, h.certificate, h.active, h.live, h.newId, hnonce, UInt64.not_lt.mpr h.requested,
    UInt64.not_le.mpr h.expiry]

/-- The id is seen, and the request is not begun. -/
theorem begin_replayed (h : machine.Presentable request wallNow certificateValid)
    (hnonce : request.nonce ∈ machine.seenNonces) :
    begin request requestDigest wallNow monotonicNow delaySecs certificateValid machine =
      .error .replay { machine with
        seenRequestIds := insert request.requestId machine.seenRequestIds } := by
  simp [begin, h.certificate, h.active, h.live, h.newId, hnonce, UInt64.not_lt.mpr h.requested,
    UInt64.not_le.mpr h.expiry]

theorem begin_refused (h : ¬machine.Presentable request wallNow certificateValid)
    (requestDigest : Id32) (monotonicNow delaySecs : UInt64) :
    ∃ error, begin request requestDigest wallNow monotonicNow delaySecs certificateValid machine =
      .error error machine := by
  unfold begin
  split
  · exact ⟨_, rfl⟩
  · next hvalid =>
    split
    · exact ⟨_, rfl⟩
    · next hactive =>
      split
      · exact ⟨_, rfl⟩
      · next htime =>
        rw [not_or, UInt64.not_lt, UInt64.not_le] at htime
        split
        · exact ⟨_, rfl⟩
        · next hlive =>
          split
          · exact ⟨_, rfl⟩
          · next hnew =>
            refine absurd ⟨?_, not_not.mp hactive, htime.1, htime.2, hlive, hnew⟩ h
            rwa [Bool.not_eq_false] at hvalid

theorem begin_accepted {notBefore : UInt64}
    (h : begin request requestDigest wallNow monotonicNow delaySecs certificateValid machine =
      .ok notBefore machine') :
    machine.Presentable request wallNow certificateValid ∧ request.nonce ∉ machine.seenNonces ∧
      machine' = machine.withBegun request requestDigest notBefore := by
  by_cases hpresentable : machine.Presentable request wallNow certificateValid
  · by_cases hnonce : request.nonce ∈ machine.seenNonces
    · cases h.symm.trans (begin_replayed hpresentable hnonce)
    · cases h.symm.trans (begin_admitted hpresentable hnonce)
      exact ⟨hpresentable, hnonce, rfl⟩
  · obtain ⟨error, herror⟩ := begin_refused hpresentable requestDigest monotonicNow delaySecs
    cases h.symm.trans herror

end Begin

/-! ### The book -/

/-- What a call did to which request. -/
def deed : EpochRecoveryCall → Except EpochRecoveryError (Option UInt64) →
    Option (Id32 × RequestDeed)
  | .begin request _ _ _ _ _, .ok _ => some (request.requestId, .begun)
  | .cancel requestId _ _, .ok _ => some (requestId, .cancelled)
  | .authorizeRelease authorization, .ok _ => some (authorization.requestId, .released)
  | .authorizeRelease authorization, .error .expired => some (authorization.requestId, .foundExpired)
  | _, _ => none

/-- Calls one after the other; what they did is logged. -/
def requests : Machine EpochRecoveryMachine EpochRecoveryCall (Id32 × RequestDeed) :=
  Machine.observing call deed

def book (machine : EpochRecoveryMachine) : RequestBook where
  seen id := id ∈ machine.seenRequestIds
  pending id := machine.pending[id]?.map fun pending => (pending.requestDigest, pending.state)
  cancelled id := machine.cancelled[id]?

theorem state_eq_book (requestId : Id32) (machine : EpochRecoveryMachine) :
    machine.state requestId = machine.book.state requestId := by
  unfold state RequestBook.state
  by_cases h : requestId ∈ machine.cancelled
  · have hsome : (machine.book.cancelled requestId).isSome := by
      exact Std.TreeMap.isSome_getElem?_iff_mem.mpr h
    rw [if_pos h, if_pos hsome]
  · rw [if_neg h, if_neg (by simpa [book] using h)]
    simp [book, Function.comp_def]

theorem book_pending {requestId : Id32} {pending : PendingEpochRecovery}
    (h : machine.pending[requestId]? = some pending) :
    machine.book.pending requestId = some (pending.requestDigest, pending.state) := by
  simp [book, h]

theorem book_putPending {requestId : Id32} {pending : PendingEpochRecovery} :
    (machine.putPending requestId pending).book =
      machine.book.put requestId pending.requestDigest pending.state := by
  ext : 1
  · rfl
  · exact RequestBook.map_insert ..
  · rfl

theorem book_seen {requestId : Id32} {seenNonces : Finset Id32} :
    ({ machine with
      seenRequestIds := insert requestId machine.seenRequestIds
      seenNonces := seenNonces } : EpochRecoveryMachine).book = machine.book.see requestId := by
  ext : 1
  · funext id
    exact propext Finset.mem_insert
  · rfl
  · rfl

theorem book_buried (machine : EpochRecoveryMachine) (requestId requestDigest : Id32) :
    ({ machine with cancelled := machine.cancelled.insert requestId requestDigest } :
      EpochRecoveryMachine).book = machine.book.bury requestId requestDigest := by
  ext : 1
  · rfl
  · rfl
  · exact RequestBook.insert_eq_update ..

section Steps

variable {request : RecoveryRequestV3} {requestDigest requestId : Id32}
  {wallNow monotonicNow delaySecs notBefore : UInt64} {certificateValid : Bool}
  {authorization : EpochReleaseAuthorization} {u : Unit}

theorem begin_ok_step
    (h : begin request requestDigest wallNow monotonicNow delaySecs certificateValid machine =
      .ok notBefore machine') :
    machine.book.Step (some (request.requestId, .begun)) machine'.book := by
  obtain ⟨hpresentable, -, rfl⟩ := begin_accepted h
  rw [withBegun, book_putPending, book_seen]
  exact .begun hpresentable.newId hpresentable.live

theorem begin_error_step
    (h : begin request requestDigest wallNow monotonicNow delaySecs certificateValid machine =
      .error error machine') : machine.book.Step none machine'.book := by
  by_cases hpresentable : machine.Presentable request wallNow certificateValid
  · by_cases hnonce : request.nonce ∈ machine.seenNonces
    · cases h.symm.trans (begin_replayed hpresentable hnonce)
      rw [book_seen]
      exact .seen _
    · cases h.symm.trans (begin_admitted hpresentable hnonce)
  · obtain ⟨refusal, herror⟩ := begin_refused hpresentable requestDigest monotonicNow delaySecs
    cases h.symm.trans herror
    exact .kept

theorem activateSuccessor_ok_book {successor : ConfigRef} {drainDeadline : UInt64} {qcValid : Bool}
    (h : activateSuccessor successor drainDeadline qcValid machine = .ok u machine') :
    machine'.book = machine.book := by
  have haccepts := activateSuccessor_eq_ok h
  cases haccepts
  rfl

theorem authorizeRelease_ok_step (h : authorizeRelease authorization machine = .ok u machine') :
    machine.book.Step (some (authorization.requestId, .released)) machine'.book := by
  have haccepts := authorizeRelease_eq_ok h
  cases haccepts with
  | @released _ pending hlive hpending =>
    rw [book_putPending]
    have hfound := book_pending hpending
    exact .released hlive hfound

theorem cancelledBy_ne_expired (cancelledDigest requestDigest : Id32) :
    cancelledBy cancelledDigest requestDigest ≠ .expired := by
  unfold cancelledBy
  split <;> simp

/-- A refused release leaves the machine, but for a request it found expired. -/
theorem authorizeRelease_refused
    (h : authorizeRelease authorization machine = .error error machine') :
    (error ≠ .expired ∧ machine' = machine) ∨
      error = .expired ∧ ∃ pending, machine.cancelled[authorization.requestId]? = none ∧
        machine.pending[authorization.requestId]? = some pending ∧
        pending.expiry ≤ authorization.wallNow ∧
        machine' = machine.putPending authorization.requestId { pending with state := .expired } := by
  unfold authorizeRelease at h
  split at h
  · cases h
    exact Or.inl ⟨by simp, rfl⟩
  · split at h
    · cases h
      exact Or.inl ⟨cancelledBy_ne_expired _ _, rfl⟩
    · next hlive =>
      split at h
      · cases h
        exact Or.inl ⟨by simp, rfl⟩
      · next pending hpending =>
        split at h
        · cases h
          exact Or.inl ⟨by simp, rfl⟩
        · split at h
          · cases h
            exact Or.inl ⟨by simp, rfl⟩
          · split at h
            · next hexpiry =>
              cases h
              exact Or.inr ⟨rfl, pending, hlive, hpending, hexpiry, rfl⟩
            · split at h
              · cases h
                exact Or.inl ⟨by simp, rfl⟩
              · cases h

theorem authorizeRelease_error_step
    (h : authorizeRelease authorization machine = .error error machine') :
    machine.book.Step (deed (.authorizeRelease authorization) (.error error)) machine'.book := by
  rcases authorizeRelease_refused h with ⟨herror, rfl⟩ | ⟨rfl, pending, hlive, hpending, -, rfl⟩
  · have hnone : deed (.authorizeRelease authorization) (.error error) = none := by
      cases error with
      | expired => exact absurd rfl herror
      | _ => rfl
    rw [hnone]
    exact .kept
  · rw [book_putPending]
    have hfound := book_pending hpending
    exact .foundExpired hlive hfound

theorem cancel_ok_step (h : cancel requestId requestDigest certificateValid machine = .ok u machine') :
    machine.book.Step (some (requestId, .cancelled)) machine'.book := by
  obtain ⟨-, ⟨hcancelled, rfl⟩ | ⟨-, pending, hpending, rfl, rfl⟩ | ⟨-, hpending, rfl⟩⟩ :=
    cancel_accepted h
  · exact .cancelledBefore hcancelled
  · have hburied := (machine.putPending requestId { pending with state := .cancelled }).book_buried
      requestId pending.requestDigest
    rw [book_putPending] at hburied
    exact hburied ▸ .cancelledPending (book_pending hpending)
  · rw [book_buried]
    exact .cancelled (by simp [book, hpending])

theorem retireDrainingEpoch_ok_book {guardianEpoch : UInt64}
    (h : retireDrainingEpoch guardianEpoch monotonicNow machine = .ok u machine') :
    machine'.book = machine.book := by
  have haccepts := retireDrainingEpoch_eq_ok h
  cases haccepts
  rfl

end Steps

theorem requests_keepsBook : KeepsBook requests book := by
  intro machine sent
  apply Machine.observing_cases
    (P := fun out : EpochRecoveryMachine × Option (Id32 × RequestDeed) =>
      machine.book.Step out.2 out.1.book)
  · intro value machine' h
    cases sent <;> obtain ⟨a, hcall, -⟩ := Machine.map_eq_ok h
    case begin => exact begin_ok_step hcall
    case activateSuccessor =>
      rw [activateSuccessor_ok_book hcall]
      exact .kept
    case authorizeRelease => exact authorizeRelease_ok_step hcall
    case cancel => exact cancel_ok_step hcall
    case retireDrainingEpoch =>
      rw [retireDrainingEpoch_ok_book hcall]
      exact .kept
  · intro error machine' h
    cases sent <;> have hcall := Machine.map_eq_error h
    case begin => exact begin_error_step hcall
    case activateSuccessor =>
      rw [activateSuccessor_eq_error hcall]
      exact .kept
    case authorizeRelease => exact authorizeRelease_error_step hcall
    case cancel =>
      rw [cancel_eq_error hcall]
      exact .kept
    case retireDrainingEpoch =>
      rw [retireDrainingEpoch_eq_error hcall]
      exact .kept

theorem book_new (initial : ConfigRef) : (new initial).book = .blank := by
  ext <;> simp [book, new, RequestBook.blank]

/-- The machine's book, whatever has been called. -/
theorem book_coherent (initial : ConfigRef) (sent : List EpochRecoveryCall) :
    (requests.run (new initial) sent).book.Coherent :=
  requests_keepsBook.coherent (book_new initial ▸ RequestBook.coherent_blank) sent

end EpochRecoveryMachine

end MasterRecovery
