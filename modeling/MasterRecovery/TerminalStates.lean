import MasterRecovery.RequestBook
import MasterRecovery.RecoveryMachine
import MasterRecovery.ReleaseDiscipline
import MasterRecovery.EpochRequests

/-!
# Terminal recovery states

The machines of gp-core keep the end of a request in three ways: a guard at the entry, a table of
cancellations and a stored state. When it is final is said for each of them.
-/

namespace MasterRecovery

/-! ### The machine of one guardian -/

namespace GuardianMachine

/-- What a call did to which request. -/
def deed : GuardianMachineCall → Except CoreError (Option UInt64) → Option (Id32 × RequestDeed)
  | .beginAt request _ _ _ _ _, .ok _ => some (request.requestId, .begun)
  | .cancel requestId _ _, .ok _ => some (requestId, .cancelled)
  | .authorizeReleaseAt requestId _ _ _ _ _, .ok _ => some (requestId, .released)
  | .authorizeReleaseAt requestId _ _ _ _ _, .error .expired => some (requestId, .foundExpired)
  | _, .error _ => none

/-- Calls one after the other; what they did is logged. -/
def requests : Machine GuardianMachine GuardianMachineCall (Id32 × RequestDeed) :=
  Machine.observing call deed

def book (machine : GuardianMachine) : RequestBook where
  seen id := id ∈ machine.seen
  pending id := machine.pending[id]?.map fun pending => (pending.requestDigest, pending.pending.state)
  cancelled id := machine.cancelled[id]?

variable {machine machine' : GuardianMachine} {sent : GuardianMachineCall} {value : Option UInt64}
  {error : CoreError}

theorem state_eq_book (requestId : Id32) (machine : GuardianMachine) :
    machine.state requestId = machine.book.state requestId := by
  unfold state RequestBook.state
  by_cases h : requestId ∈ machine.cancelled
  · have hsome : (machine.book.cancelled requestId).isSome := by
      exact Std.TreeMap.isSome_getElem?_iff_mem.mpr h
    rw [if_pos h, if_pos hsome]
  · rw [if_neg h, if_neg (by simpa [book] using h)]
    simp [book, Function.comp_def]

theorem book_pending {requestId : Id32} {pending : GuardianPending}
    (h : machine.pending[requestId]? = some pending) :
    machine.book.pending requestId = some (pending.requestDigest, pending.pending.state) := by
  simp [book, h]

theorem book_withState {requestId : Id32} {pending : GuardianPending} (new : RecoveryState) :
    (machine.withState requestId pending new).book =
      machine.book.put requestId pending.requestDigest new := by
  ext : 1
  · rfl
  · exact RequestBook.map_insert ..
  · rfl

theorem book_begun {request : RecoveryRequest} {requestDigest : Id32}
    {monotonicNow notBefore : UInt64} :
    (machine.begun request requestDigest monotonicNow notBefore).book =
      (machine.book.see request.requestId).put request.requestId requestDigest .delayPending := by
  ext : 1
  · funext id
    exact propext Finset.mem_insert
  · exact RequestBook.map_insert ..
  · rfl

theorem book_buried (machine : GuardianMachine) (requestId requestDigest : Id32) :
    ({ machine with cancelled := machine.cancelled.insert requestId requestDigest } :
      GuardianMachine).book = machine.book.bury requestId requestDigest := by
  ext : 1
  · rfl
  · rfl
  · exact RequestBook.insert_eq_update ..

theorem Accepts.book (h : Accepts machine sent machine') :
    machine.book.Step (deed sent (.ok value)) machine'.book := by
  cases h with
  | begun hbegins =>
    rw [book_begun]
    exact .begun hbegins.newId hbegins.live
  | cancelledBefore hcancelled => exact .cancelledBefore hcancelled
  | @cancelledPending requestId _ pending hlive hpending hdigest =>
    subst hdigest
    have hstep := (machine.withState requestId pending .cancelled).book_buried requestId
      pending.requestDigest
    rw [book_withState] at hstep
    exact hstep ▸ .cancelledPending (book_pending hpending)
  | cancelled hlive hpending =>
    rw [book_buried]
    exact .cancelled (by simp [GuardianMachine.book, hpending])
  | @released _ _ _ _ pending hlive hpending hdigest =>
    rw [book_withState]
    exact .released hlive (book_pending hpending)

theorem Refuses.book (h : Refuses machine sent error machine') :
    machine.book.Step (deed sent (.error error)) machine'.book := by
  cases h with
  | kept hother =>
    have hnone : deed sent (.error error) = none := by
      cases sent with
      | authorizeReleaseAt =>
        cases error with
        | expired => exact absurd rfl (hother rfl _ _ _ _ _ _)
        | _ => rfl
      | _ => rfl
    rw [hnone]
    exact .kept
  | @expired _ _ _ _ pending hlive hpending =>
    rw [book_withState]
    exact .foundExpired hlive (book_pending hpending)

theorem requests_keepsBook : KeepsBook requests book := by
  intro machine sent
  apply Machine.observing_cases
    (P := fun out : GuardianMachine × Option (Id32 × RequestDeed) =>
      machine.book.Step out.2 out.1.book)
  · intro value machine' h
    exact (call_eq_ok h).book
  · intro error machine' h
    exact (call_eq_error h).book

theorem requests_released {requestId : Id32}
    (h : (requests.step machine sent).2 = some (requestId, .released)) :
    ∃ requestDigest wallNow monotonicNow certificateValid stateUnambiguous,
      sent = .authorizeReleaseAt requestId requestDigest wallNow monotonicNow certificateValid
        stateUnambiguous ∧ Accepts machine sent (requests.step machine sent).1 := by
  unfold requests at h ⊢
  cases hcall : call sent machine with
  | ok value machine' =>
    rw [Machine.observing_ok hcall] at h ⊢
    cases sent with
    | authorizeReleaseAt id requestDigest wallNow monotonicNow certificateValid stateUnambiguous =>
      cases h
      exact ⟨_, _, _, _, _, rfl, call_eq_ok hcall⟩
    | _ => cases h
  | error error machine' =>
    rw [Machine.observing_error hcall] at h
    cases sent <;> cases error <;> cases h

theorem requests_cancelled {requestId : Id32}
    (h : (requests.step machine sent).2 = some (requestId, .cancelled)) :
    ∃ requestDigest certificateValid, sent = .cancel requestId requestDigest certificateValid ∧
      Accepts machine sent (requests.step machine sent).1 := by
  unfold requests at h ⊢
  cases hcall : call sent machine with
  | ok value machine' =>
    rw [Machine.observing_ok hcall] at h ⊢
    cases sent with
    | cancel id requestDigest certificateValid =>
      cases h
      exact ⟨_, _, rfl, call_eq_ok hcall⟩
    | _ => cases h
  | error error machine' =>
    rw [Machine.observing_error hcall] at h
    cases sent <;> cases error <;> cases h

theorem live_of_expired {requestId : Id32} (h : machine.state requestId = some .expired) :
    machine.cancelled[requestId]? = none := by
  unfold state at h
  split at h
  · cases h
  · next hlive => exact Std.TreeMap.getElem?_eq_none hlive

/-- A release of a request marked as expired, under a clock that has been set back. -/
def ReleasesExpired (machine : GuardianMachine) (sent : GuardianMachineCall) : Prop :=
  ∃ requestId wallNow monotonicNow pending,
    sent = .authorizeReleaseAt requestId pending.requestDigest wallNow monotonicNow true true ∧
    machine.state requestId = some .expired ∧ machine.pending[requestId]? = some pending ∧
    wallNow < pending.expiry ∧ pending.pending.notBefore ≤ monotonicNow

/-- A cancellation of a request released before. -/
def CancelsReleased (machine : GuardianMachine) (log : List (Id32 × RequestDeed))
    (sent : GuardianMachineCall) : Prop :=
  ∃ requestId pending, sent = .cancel requestId pending.requestDigest true ∧
    (requestId, .released) ∈ log ∧ machine.pending[requestId]? = some pending

theorem releasesExpired_iff : Reopens requests state machine sent ↔ ReleasesExpired machine sent := by
  constructor
  · intro hreopens
    obtain ⟨requestId, hnote, hstate⟩ := hreopens
    obtain ⟨requestDigest, wallNow, monotonicNow, certificateValid, stateUnambiguous, rfl,
      haccepts⟩ := requests_released hnote
    generalize (requests.step machine _).1 = machine' at haccepts
    cases haccepts with
    | released hlive hpending hdigest hexpiry hdue =>
      subst hdigest
      exact ⟨requestId, wallNow, monotonicNow, _, rfl, hstate, hpending, hexpiry, hdue⟩
  · intro hreleases
    obtain ⟨requestId, wallNow, monotonicNow, pending, rfl, hstate, hpending, hexpiry, hdue⟩ :=
      hreleases
    have hlive := live_of_expired hstate
    have hcall : call (.authorizeReleaseAt requestId pending.requestDigest wallNow monotonicNow true
        true) machine = .ok none (machine.withState requestId pending .releasing) := by
      have hrun : authorizeReleaseAt requestId pending.requestDigest wallNow monotonicNow true true
          machine = .ok () (machine.withState requestId pending .releasing) := by
        simp [authorizeReleaseAt, hlive, hpending, UInt64.not_le.mpr hexpiry,
          UInt64.not_lt.mpr hdue]
      exact Machine.map_ok hrun
    refine ⟨requestId, ?_, hstate⟩
    unfold requests
    rw [Machine.observing_ok hcall]
    rfl

theorem cancelsReleased_iff {log : List (Id32 × RequestDeed)} (hbook : machine.book.Coherent)
    (hlog : ∀ id, (id, .released) ∈ log → machine.book.pending id ≠ none) :
    Recants requests log machine sent ↔ CancelsReleased machine log sent := by
  constructor
  · intro hrecants
    obtain ⟨requestId, hnote, hreleased⟩ := hrecants
    obtain ⟨requestDigest, certificateValid, rfl, haccepts⟩ := requests_cancelled hnote
    obtain ⟨pending, hpending⟩ : ∃ pending, machine.pending[requestId]? = some pending := by
      have hsome := hlog requestId hreleased
      rw [Option.ne_none_iff_exists'] at hsome
      obtain ⟨found, hfound⟩ := hsome
      simp only [book, Option.map_eq_some_iff] at hfound
      obtain ⟨pending, hpending, -⟩ := hfound
      exact ⟨pending, hpending⟩
    generalize (requests.step machine _).1 = machine' at haccepts
    cases haccepts with
    | cancelledBefore hcancelled =>
      have hburied := hbook.buried requestId _ _ (book_pending hpending)
      simp only [book, hcancelled] at hburied
      split at hburied
      · cases hburied
        exact ⟨requestId, pending, rfl, hreleased, hpending⟩
      · cases hburied
    | cancelledPending _ hfound hdigest =>
      subst hdigest
      exact ⟨requestId, _, rfl, hreleased, hfound⟩
    | cancelled _ hnone => cases hnone.symm.trans hpending
  · intro hcancels
    obtain ⟨requestId, pending, rfl, hreleased, hpending⟩ := hcancels
    have hcall : ∃ machine', call (.cancel requestId pending.requestDigest true) machine =
        .ok none machine' := by
      have hrun : ∃ machine', GuardianMachine.cancel requestId pending.requestDigest true machine =
          .ok () machine' := by
        have hburied := hbook.buried requestId _ _ (book_pending hpending)
        simp only [book] at hburied
        unfold GuardianMachine.cancel
        split at hburied <;> simp [hburied, hpending]
      obtain ⟨machine', hrun⟩ := hrun
      exact ⟨machine', Machine.map_ok hrun⟩
    obtain ⟨machine', hcall⟩ := hcall
    refine ⟨requestId, ?_, hreleased⟩
    unfold requests
    rw [Machine.observing_ok hcall]
    rfl

theorem book_new (configId : Id32) (currentVersion : UInt64) :
    (new configId currentVersion).book = .blank := by
  ext <;> simp [book, new, RequestBook.blank]

/-- The end of a request is final exactly when no expired request is released and no released one
is cancelled. -/
theorem requests_absorbing_iff (configId : Id32) (currentVersion : UInt64)
    (sent : List GuardianMachineCall) :
    Absorbing requests state (new configId currentVersion) sent ↔
      requests.Along
        (fun machine log sent => ¬ReleasesExpired machine sent ∧ ¬CancelsReleased machine log sent)
        (new configId currentVersion) [] sent := by
  have hcoherent : (new configId currentVersion).book.Coherent :=
    book_new configId currentVersion ▸ RequestBook.coherent_blank
  have hstate : (fun id (machine : GuardianMachine) => machine.book.state id) = state := by
    funext id machine
    exact (state_eq_book id machine).symm
  have habsorbing := requests_keepsBook.absorbing_iff hcoherent sent
  rw [hstate] at habsorbing
  rw [habsorbing, Machine.along_iff_split, Machine.along_iff_split]
  have hhere : ∀ before (now : GuardianMachineCall),
      (¬Reopens requests state (requests.run (new configId currentVersion) before) now ∧
        ¬Recants requests ([] ++ requests.outputs (new configId currentVersion) before)
          (requests.run (new configId currentVersion) before) now) ↔
      ¬ReleasesExpired (requests.run (new configId currentVersion) before) now ∧
        ¬CancelsReleased (requests.run (new configId currentVersion) before)
          ([] ++ requests.outputs (new configId currentVersion) before) now := by
    intro before now
    rw [releasesExpired_iff, List.nil_append,
      cancelsReleased_iff (requests_keepsBook.coherent hcoherent before)
        fun id hmem => requests_keepsBook.released_pending _ _ hmem]
  simp only [hhere]

end GuardianMachine

/-! ### The machine across epochs -/

namespace EpochRecoveryMachine

variable {machine machine' : EpochRecoveryMachine} {sent : EpochRecoveryCall}

theorem requests_released {requestId : Id32}
    (h : (requests.step machine sent).2 = some (requestId, .released)) :
    ∃ authorization machine', sent = .authorizeRelease authorization ∧
      authorization.requestId = requestId ∧
      authorizeRelease authorization machine = .ok () machine' := by
  unfold requests at h
  cases hcall : call sent machine with
  | ok value machine' =>
    rw [Machine.observing_ok hcall] at h
    cases sent with
    | authorizeRelease authorization =>
      obtain ⟨u, hrun, -⟩ := Machine.map_eq_ok hcall
      cases h
      exact ⟨authorization, machine', rfl, rfl, hrun⟩
    | _ => cases h
  | error error machine' =>
    rw [Machine.observing_error hcall] at h
    cases sent <;> cases error <;> cases h

theorem requests_cancelled {requestId : Id32}
    (h : (requests.step machine sent).2 = some (requestId, .cancelled)) :
    ∃ requestDigest certificateValid machine',
      sent = .cancel requestId requestDigest certificateValid ∧
      EpochRecoveryMachine.cancel requestId requestDigest certificateValid machine =
        .ok () machine' := by
  unfold requests at h
  cases hcall : call sent machine with
  | ok value machine' =>
    rw [Machine.observing_ok hcall] at h
    cases sent with
    | cancel id requestDigest certificateValid =>
      obtain ⟨u, hrun, -⟩ := Machine.map_eq_ok hcall
      cases h
      exact ⟨requestDigest, certificateValid, machine', rfl, hrun⟩
    | _ => cases h
  | error error machine' =>
    rw [Machine.observing_error hcall] at h
    cases sent <;> cases error <;> cases h

theorem live_of_expired {requestId : Id32} (h : machine.state requestId = some .expired) :
    machine.cancelled[requestId]? = none := by
  unfold state at h
  split at h
  · cases h
  · next hlive => exact Std.TreeMap.getElem?_eq_none hlive

/-- A release of a request marked as expired, under a clock that has been set back. -/
def ReleasesExpired (machine : EpochRecoveryMachine) (sent : EpochRecoveryCall) : Prop :=
  ∃ requestId wallNow monotonicNow pending,
    sent = .authorizeRelease
      ⟨requestId, pending.requestDigest, pending.configRef, wallNow, monotonicNow, true, true⟩ ∧
    machine.state requestId = some .expired ∧ machine.pending[requestId]? = some pending ∧
    (pending.configRef = machine.active ∨ pending.configRef.guardianEpoch ∈ machine.draining) ∧
    wallNow < pending.expiry ∧ pending.notBefore ≤ monotonicNow

/-- A cancellation of a request released before. -/
def CancelsReleased (machine : EpochRecoveryMachine) (log : List (Id32 × RequestDeed))
    (sent : EpochRecoveryCall) : Prop :=
  ∃ requestId pending, sent = .cancel requestId pending.requestDigest true ∧
    (requestId, .released) ∈ log ∧ machine.pending[requestId]? = some pending

theorem releasesExpired_iff : Reopens requests state machine sent ↔ ReleasesExpired machine sent := by
  constructor
  · intro hreopens
    obtain ⟨requestId, hnote, hstate⟩ := hreopens
    obtain ⟨⟨id, digest, config, wallNow, monotonicNow, certificateValid, stateUnambiguous⟩,
      machine', rfl, rfl, hrun⟩ := requests_released hnote
    have hvalid : certificateValid = true ∧ stateUnambiguous = true := by
      by_contra hinvalid
      have hor : certificateValid = false ∨ stateUnambiguous = false := by
        rwa [not_and_or, Bool.not_eq_true, Bool.not_eq_true] at hinvalid
      simp [authorizeRelease, hor] at hrun
    obtain ⟨rfl, rfl⟩ := hvalid
    have haccepts := authorizeRelease_eq_ok hrun
    cases haccepts with
    | @released _ pending hlive hpending hdigest href hepoch hexpiry hdue =>
      simp only at hpending hdigest href hepoch hexpiry hdue
      subst hdigest
      subst href
      exact ⟨id, wallNow, monotonicNow, pending, rfl, hstate, hpending, hepoch, hexpiry, hdue⟩
  · intro hreleases
    obtain ⟨requestId, wallNow, monotonicNow, pending, rfl, hstate, hpending, hepoch, hexpiry,
      hdue⟩ := hreleases
    have hlive := live_of_expired hstate
    have hcall : call (.authorizeRelease ⟨requestId, pending.requestDigest, pending.configRef,
        wallNow, monotonicNow, true, true⟩) machine =
          .ok none (machine.putPending requestId { pending with state := .releasing }) := by
      have hrun : authorizeRelease ⟨requestId, pending.requestDigest, pending.configRef, wallNow,
          monotonicNow, true, true⟩ machine =
            .ok () (machine.putPending requestId { pending with state := .releasing }) := by
        have hstale : ¬(pending.configRef ≠ machine.active ∧
            pending.configRef.guardianEpoch ∉ machine.draining) := by
          rw [not_and_or, not_not, not_not]
          exact hepoch
        simp only [authorizeRelease, hlive, hpending, if_neg hstale, if_neg (UInt64.not_le.mpr hexpiry),
          if_neg (UInt64.not_lt.mpr hdue)]
        simp
      exact Machine.map_ok hrun
    refine ⟨requestId, ?_, hstate⟩
    unfold requests
    rw [Machine.observing_ok hcall]
    rfl

theorem cancelsReleased_iff {log : List (Id32 × RequestDeed)} (hbook : machine.book.Coherent)
    (hlog : ∀ id, (id, .released) ∈ log → machine.book.pending id ≠ none) :
    Recants requests log machine sent ↔ CancelsReleased machine log sent := by
  constructor
  · intro hrecants
    obtain ⟨requestId, hnote, hreleased⟩ := hrecants
    obtain ⟨requestDigest, certificateValid, machine', rfl, hrun⟩ := requests_cancelled hnote
    obtain ⟨pending, hpending⟩ : ∃ pending, machine.pending[requestId]? = some pending := by
      have hsome := hlog requestId hreleased
      rw [Option.ne_none_iff_exists'] at hsome
      obtain ⟨found, hfound⟩ := hsome
      simp only [book, Option.map_eq_some_iff] at hfound
      obtain ⟨pending, hpending, -⟩ := hfound
      exact ⟨pending, hpending⟩
    obtain ⟨rfl, ⟨hcancelled, -⟩ | ⟨-, found, hfound, rfl, -⟩ | ⟨-, hnone, -⟩⟩ :=
      cancel_accepted hrun
    · have hburied := hbook.buried requestId _ _ (book_pending hpending)
      simp only [book, hcancelled] at hburied
      split at hburied
      · cases hburied
        exact ⟨requestId, pending, rfl, hreleased, hpending⟩
      · cases hburied
    · exact ⟨requestId, found, rfl, hreleased, hfound⟩
    · cases hnone.symm.trans hpending
  · intro hcancels
    obtain ⟨requestId, pending, rfl, hreleased, hpending⟩ := hcancels
    have hcall : ∃ machine', call (.cancel requestId pending.requestDigest true) machine =
        .ok none machine' := by
      have hrun : ∃ machine', EpochRecoveryMachine.cancel requestId pending.requestDigest true
          machine = .ok () machine' := by
        have hburied := hbook.buried requestId _ _ (book_pending hpending)
        simp only [book] at hburied
        unfold EpochRecoveryMachine.cancel
        split at hburied <;> simp [hburied, hpending]
      obtain ⟨machine', hrun⟩ := hrun
      exact ⟨machine', Machine.map_ok hrun⟩
    obtain ⟨machine', hcall⟩ := hcall
    refine ⟨requestId, ?_, hreleased⟩
    unfold requests
    rw [Machine.observing_ok hcall]
    rfl

/-- The end of a request is final exactly when no expired request is released and no released one
is cancelled. -/
theorem requests_absorbing_iff (initial : ConfigRef) (sent : List EpochRecoveryCall) :
    Absorbing requests state (new initial) sent ↔
      requests.Along
        (fun machine log sent => ¬ReleasesExpired machine sent ∧ ¬CancelsReleased machine log sent)
        (new initial) [] sent := by
  have hcoherent : (new initial).book.Coherent :=
    book_new initial ▸ RequestBook.coherent_blank
  have hstate : (fun id (machine : EpochRecoveryMachine) => machine.book.state id) = state := by
    funext id machine
    exact (state_eq_book id machine).symm
  have habsorbing := requests_keepsBook.absorbing_iff hcoherent sent
  rw [hstate] at habsorbing
  rw [habsorbing, Machine.along_iff_split, Machine.along_iff_split]
  have hhere : ∀ before (now : EpochRecoveryCall),
      (¬Reopens requests state (requests.run (new initial) before) now ∧
        ¬Recants requests ([] ++ requests.outputs (new initial) before)
          (requests.run (new initial) before) now) ↔
      ¬ReleasesExpired (requests.run (new initial) before) now ∧
        ¬CancelsReleased (requests.run (new initial) before)
          ([] ++ requests.outputs (new initial) before) now := by
    intro before now
    rw [releasesExpired_iff, List.nil_append, cancelsReleased_iff (book_coherent initial before)
      fun id hmem => requests_keepsBook.released_pending _ _ hmem]
  simp only [hhere]

end EpochRecoveryMachine

/-! ### All three -/

/-- Terminal states are final in the owner's machine exactly when no expiry is observed after the
completion, and in the two machines of a guardian exactly when no request marked as expired is
released under a clock set back and none released is cancelled. -/
theorem terminal_states_absorbing_iff (inputs : List RecoveryInput) (configId : Id32)
    (currentVersion : UInt64) (guardianCalls : List GuardianMachineCall) (initial : ConfigRef)
    (epochCalls : List EpochRecoveryCall) :
    (RecoveryMachine.Final inputs ↔
      RecoveryMachine.events.Along (fun machine _ input => ¬RecoveryMachine.LateExpiry machine input)
        RecoveryMachine.new [] inputs) ∧
    (Absorbing GuardianMachine.requests GuardianMachine.state
        (GuardianMachine.new configId currentVersion) guardianCalls ↔
      GuardianMachine.requests.Along
        (fun machine log sent => ¬GuardianMachine.ReleasesExpired machine sent ∧
          ¬GuardianMachine.CancelsReleased machine log sent)
        (GuardianMachine.new configId currentVersion) [] guardianCalls) ∧
    (Absorbing EpochRecoveryMachine.requests EpochRecoveryMachine.state
        (EpochRecoveryMachine.new initial) epochCalls ↔
      EpochRecoveryMachine.requests.Along
        (fun machine log sent => ¬EpochRecoveryMachine.ReleasesExpired machine sent ∧
          ¬EpochRecoveryMachine.CancelsReleased machine log sent)
        (EpochRecoveryMachine.new initial) [] epochCalls) :=
  ⟨RecoveryMachine.final_iff inputs,
    GuardianMachine.requests_absorbing_iff configId currentVersion guardianCalls,
    EpochRecoveryMachine.requests_absorbing_iff initial epochCalls⟩

/-- An expired request is released once the clock is set back, and then it is cancelled. -/
def sampleGuardianReopening : List GuardianMachineCall :=
  [.beginAt ⟨protocolVersion, .xwingXChaCha20Poly1305Ed25519, 1, 1, 3, [4], 10, 5, 200⟩ 6 10 100 20
      true,
    .authorizeReleaseAt 3 6 200 120 true true, .authorizeReleaseAt 3 6 199 120 true true,
    .cancel 3 6 true]

def sampleEpochReopening : List EpochRecoveryCall :=
  let active : ConfigRef := ⟨1, 1, 1, 1, 1⟩
  [.begin ⟨3, active, 3, [4], 10, 5, 200⟩ 6 10 100 20 true,
    .authorizeRelease ⟨3, 6, active, 200, 120, true, true⟩,
    .authorizeRelease ⟨3, 6, active, 199, 120, true, true⟩, .cancel 3 6 true]

/-- A completed recovery expires, and an expired request is released. -/
theorem terminal_states_left :
    ¬RecoveryMachine.Final (sampleRecoveryInputs ++ [⟨.expiryReached, 40, 0⟩]) ∧
    ¬Absorbing GuardianMachine.requests GuardianMachine.state (GuardianMachine.new 1 1)
      sampleGuardianReopening ∧
    ¬Absorbing EpochRecoveryMachine.requests EpochRecoveryMachine.state
      (EpochRecoveryMachine.new ⟨1, 1, 1, 1, 1⟩) sampleEpochReopening := by
  refine ⟨fun hfinal => ?_, fun habsorbing => ?_, fun habsorbing => ?_⟩
  · have hsame := hfinal sampleRecoveryInputs [⟨.expiryReached, 40, 0⟩] [] rfl
      (Or.inl (by decide +kernel))
    exact absurd hsame (by decide +kernel)
  · exact habsorbing.ended (sampleGuardianReopening.take 2) (sampleGuardianReopening.drop 2) rfl 3
      (Or.inl (by decide +kernel)) (by decide +kernel)
  · exact habsorbing.ended (sampleEpochReopening.take 2) (sampleEpochReopening.drop 2) rfl 3
      (Or.inl (by decide +kernel)) (by decide +kernel)

end MasterRecovery
