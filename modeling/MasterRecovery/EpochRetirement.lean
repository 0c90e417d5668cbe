import MasterRecovery.EpochRequests

/-!
# Retiring a drained epoch (gp-core/src/rotation.rs)

A draining epoch is retired when none of its requests is stored as waiting or releasing. Only a
cancellation and a release that comes too late change what is stored; a release that was authorized
and an expiry nobody asked about do not.
-/

namespace MasterRecovery

namespace EpochRecoveryMachine

variable {machine machine' : EpochRecoveryMachine} {sent : EpochRecoveryCall} {value : Option UInt64}
  {error : EpochRecoveryError}

theorem calls_step_eq (machine : EpochRecoveryMachine) (sent : EpochRecoveryCall) :
    (calls.step machine sent).1 = (requests.step machine sent).1 := by
  simp only [calls, requests, Machine.observing]
  cases call sent machine <;> rfl

/-- The machine does not depend on what is logged. -/
theorem calls_run_eq (machine : EpochRecoveryMachine) (sent : List EpochRecoveryCall) :
    calls.run machine sent = requests.run machine sent := by
  induction sent generalizing machine with
  | nil => rfl
  | cons now sent ih => rw [Machine.run_cons, Machine.run_cons, calls_step_eq, ih]

/-- The request as it was begun is found as pending. -/
def Recorded (machine : EpochRecoveryMachine) (log : List EpochRecoveryCall) : Prop :=
  ∀ request requestDigest wallNow monotonicNow delaySecs certificateValid,
    .begin request requestDigest wallNow monotonicNow delaySecs certificateValid ∈ log →
      request.requestId ∈ machine.seenRequestIds ∧
      ∃ pending, machine.pending[request.requestId]? = some pending ∧
        pending.configRef = request.configRef

section Recorded

variable {log : List EpochRecoveryCall}

/-- Another state of a request that is pending keeps the others and what was begun of it. -/
theorem pending_putPending {requestId id : Id32} {pending found : PendingEpochRecovery}
    (new : RecoveryState) (hpending : machine.pending[requestId]? = some pending)
    (hfound : machine.pending[id]? = some found) :
    ∃ found', (machine.putPending requestId { pending with state := new }).pending[id]? =
      some found' ∧ found'.configRef = found.configRef := by
  by_cases hsame : id = requestId
  · subst hsame
    cases hpending.symm.trans hfound
    exact ⟨_, getElem?_insert_iff.mpr (Or.inl ⟨rfl, rfl⟩), rfl⟩
  · exact ⟨found, getElem?_insert_iff.mpr (Or.inr ⟨hsame, hfound⟩), rfl⟩

theorem Recorded.put (h : Recorded machine log) {requestId : Id32} {pending : PendingEpochRecovery}
    {new : RecoveryState} (hpending : machine.pending[requestId]? = some pending) :
    Recorded (machine.putPending requestId { pending with state := new }) log := by
  intro request digest wall mono delay valid hmem
  obtain ⟨hseen, found, hfound, href⟩ := h request digest wall mono delay valid hmem
  obtain ⟨found', hfound', href'⟩ := pending_putPending new hpending hfound
  exact ⟨hseen, found', hfound', href'.trans href⟩

/-- An accepted call that is no Begin adds nothing to be recorded. -/
theorem Recorded.other (h : Recorded machine log)
    (hsent : ∀ request requestDigest wallNow monotonicNow delaySecs certificateValid,
      sent ≠ .begin request requestDigest wallNow monotonicNow delaySecs certificateValid) :
    Recorded machine (log ++ [sent]) := by
  intro request digest wall mono delay valid hmem
  rcases List.mem_append.mp hmem with hold | hnew
  · exact h request digest wall mono delay valid hold
  · exact absurd (List.mem_singleton.mp hnew).symm (hsent request digest wall mono delay valid)

theorem Recorded.accepted (h : Recorded machine log) (hcall : call sent machine = .ok value machine') :
    Recorded machine' (log ++ [sent]) := by
  cases sent with
  | begin request requestDigest wallNow monotonicNow delaySecs certificateValid =>
    obtain ⟨a, hrun, -⟩ := Machine.map_eq_ok hcall
    obtain ⟨hpresentable, -, rfl⟩ := begin_accepted hrun
    intro other digest wall mono delay valid hmem
    rcases List.mem_append.mp hmem with hold | hnew
    · obtain ⟨hseen, found, hfound, href⟩ := h other digest wall mono delay valid hold
      have hne : other.requestId ≠ request.requestId := by
        intro hsame
        exact hpresentable.newId (hsame ▸ hseen)
      exact ⟨Finset.mem_insert_of_mem hseen, found,
        getElem?_insert_iff.mpr (Or.inr ⟨hne, hfound⟩), href⟩
    · cases List.mem_singleton.mp hnew
      exact ⟨Finset.mem_insert_self _ _, _, getElem?_insert_iff.mpr (Or.inl ⟨rfl, rfl⟩), rfl⟩
  | activateSuccessor successor drainDeadline qcValid =>
    obtain ⟨a, hrun, -⟩ := Machine.map_eq_ok hcall
    have haccepts := activateSuccessor_eq_ok hrun
    cases haccepts
    exact h.other (by simp)
  | authorizeRelease authorization =>
    obtain ⟨a, hrun, -⟩ := Machine.map_eq_ok hcall
    have haccepts := authorizeRelease_eq_ok hrun
    cases haccepts with
    | released hlive hpending => exact (h.put hpending).other (by simp)
  | cancel requestId requestDigest certificateValid =>
    obtain ⟨a, hrun, -⟩ := Machine.map_eq_ok hcall
    obtain ⟨-, ⟨-, rfl⟩ | ⟨-, pending, hpending, -, rfl⟩ | ⟨-, -, rfl⟩⟩ := cancel_accepted hrun
    · exact h.other (by simp)
    · exact (h.put hpending).other (by simp)
    · exact h.other (by simp)
  | retireDrainingEpoch guardianEpoch monotonicNow =>
    obtain ⟨a, hrun, -⟩ := Machine.map_eq_ok hcall
    have haccepts := retireDrainingEpoch_eq_ok hrun
    cases haccepts
    exact h.other (by simp)

theorem Recorded.refused (h : Recorded machine log) (hcall : call sent machine = .error error machine') :
    Recorded machine' log := by
  cases sent with
  | begin request requestDigest wallNow monotonicNow delaySecs certificateValid =>
    have hrefuses := begin_eq_error (Machine.map_eq_error hcall)
    cases hrefuses with
    | kept => exact h
    | seen id =>
      intro other digest wall mono delay valid hmem
      obtain ⟨hseen, hfound⟩ := h other digest wall mono delay valid hmem
      exact ⟨Finset.mem_insert_of_mem hseen, hfound⟩
    | expired hpending => exact h.put hpending
  | activateSuccessor =>
    rw [activateSuccessor_eq_error (Machine.map_eq_error hcall)]
    exact h
  | authorizeRelease authorization =>
    rcases authorizeRelease_refused (Machine.map_eq_error hcall) with ⟨-, rfl⟩ |
      ⟨-, pending, -, hpending, -, rfl⟩
    · exact h
    · exact h.put hpending
  | cancel =>
    rw [cancel_eq_error (Machine.map_eq_error hcall)]
    exact h
  | retireDrainingEpoch =>
    rw [retireDrainingEpoch_eq_error (Machine.map_eq_error hcall)]
    exact h

theorem recorded_run (initial : ConfigRef) (sent : List EpochRecoveryCall) :
    Recorded (calls.run (new initial) sent) (calls.outputs (new initial) sent) := by
  refine calls.run_invariant (P := fun _ _ _ => True) ?_ ?_
    (calls.along_of_forall (P := fun _ => True) (fun _ _ => trivial) _ _)
  · intro request digest wall mono delay valid hmem
    cases hmem
  · intro machine log now hrecorded _
    cases hcall : call now machine with
    | ok value machine' =>
      rw [calls_ok hcall]
      exact hrecorded.accepted hcall
    | error error machine' =>
      rw [calls_error hcall]
      simpa using hrecorded.refused hcall

end Recorded

/-! ### When an epoch retires -/

/-- Every request begun on an epoch of this number has been released, cancelled, or has expired. -/
def RequestsOver (initial : ConfigRef) (sent : List EpochRecoveryCall)
    (guardianEpoch wallNow : UInt64) : Prop :=
  ∀ request requestDigest begunWall begunMonotonic delaySecs certificateValid,
    .begin request requestDigest begunWall begunMonotonic delaySecs certificateValid ∈
        calls.outputs (new initial) sent →
      request.configRef.guardianEpoch = guardianEpoch →
        (∃ authorization, .authorizeRelease authorization ∈ calls.outputs (new initial) sent ∧
          authorization.requestId = request.requestId) ∨
        (∃ cancelledDigest valid,
          .cancel request.requestId cancelledDigest valid ∈ calls.outputs (new initial) sent) ∨
        request.expiry ≤ wallNow

/-- The last thing done to every request begun on an epoch of this number is that it was cancelled,
or that a release of it came after its expiry. -/
def RequestsClosed (initial : ConfigRef) (sent : List EpochRecoveryCall) (guardianEpoch : UInt64) :
    Prop :=
  ∀ request requestDigest begunWall begunMonotonic delaySecs certificateValid,
    .begin request requestDigest begunWall begunMonotonic delaySecs certificateValid ∈
        calls.outputs (new initial) sent →
      request.configRef.guardianEpoch = guardianEpoch →
        (Machine.inbox request.requestId (requests.outputs (new initial) sent)).getLast? ∈
          [some RequestDeed.cancelled, some .foundExpired]

/-- From its deadline on, the draining epoch can be retired. -/
def Retires (machine : EpochRecoveryMachine) (guardianEpoch deadline : UInt64) : Prop :=
  ∀ monotonicNow, deadline ≤ monotonicNow →
    ∃ machine', retireDrainingEpoch guardianEpoch monotonicNow machine = .ok () machine'

/-- What is stored of a request that is over. -/
def Stored (machine : EpochRecoveryMachine) (guardianEpoch : UInt64) : Prop :=
  ∀ (id : Id32) (pending : PendingEpochRecovery), machine.pending[id]? = some pending →
    pending.configRef.guardianEpoch = guardianEpoch →
      ¬(pending.state = .delayPending ∨ pending.state = .releasing)

theorem retires_iff {guardianEpoch deadline : UInt64}
    (hdraining : machine.draining[guardianEpoch]? = some deadline) :
    machine.Retires guardianEpoch deadline ↔ machine.Stored guardianEpoch := by
  constructor
  · intro hretires id pending hpending hepoch hstate
    obtain ⟨machine', hrun⟩ := hretires deadline (UInt64.le_refl _)
    have hblocked : ∃ pending ∈ machine.pending.values,
        pending.configRef.guardianEpoch = guardianEpoch ∧
          (pending.state = .delayPending ∨ pending.state = .releasing) :=
      ⟨pending, mem_values_iff.mpr ⟨id, hpending⟩, hepoch, hstate⟩
    simp [retireDrainingEpoch, hdraining, hblocked] at hrun
  · intro hstored monotonicNow hdue
    have hfree : ¬∃ pending ∈ machine.pending.values,
        pending.configRef.guardianEpoch = guardianEpoch ∧
          (pending.state = .delayPending ∨ pending.state = .releasing) := by
      intro hblocked
      obtain ⟨pending, hmem, hepoch, hstate⟩ := hblocked
      obtain ⟨id, hpending⟩ := mem_values_iff.mp hmem
      exact hstored id pending hpending hepoch hstate
    refine ⟨{ machine with draining := machine.draining.erase guardianEpoch }, ?_⟩
    simp only [retireDrainingEpoch, hdraining, if_neg (UInt64.not_lt.mpr hdue), if_neg hfree]

/-- The state stored of a request is that of the last thing done to it. -/
theorem stored_state {initial : ConfigRef} {history : List EpochRecoveryCall} {id : Id32}
    {pending : PendingEpochRecovery}
    (hpending : (calls.run (new initial) history).pending[id]? = some pending) :
    ∃ last, (Machine.inbox id (requests.outputs (new initial) history)).getLast? = some last ∧
      last.state = pending.state := by
  rw [calls_run_eq] at hpending
  have hreported := (book_coherent initial history).state_eq (book_pending hpending)
  have hlast := requests_keepsBook.reports.run (new initial) history id
  rw [hreported, book_new] at hlast
  have hnone : RequestBook.blank.state id = none := rfl
  rw [hnone, Option.or_none] at hlast
  obtain ⟨last, hfound, hstate⟩ := Option.map_eq_some_iff.mp hlast.symm
  exact ⟨last, hfound, hstate⟩

theorem stored_iff_closed (initial : ConfigRef) (history : List EpochRecoveryCall)
    (guardianEpoch : UInt64) :
    (calls.run (new initial) history).Stored guardianEpoch ↔
      RequestsClosed initial history guardianEpoch := by
  constructor
  · intro hstored request digest wall mono delay valid hbegun hepoch
    obtain ⟨-, pending, hpending, href⟩ := recorded_run initial history request digest wall mono
      delay valid hbegun
    obtain ⟨last, hlast, hstate⟩ := stored_state hpending
    have hopen := hstored _ pending hpending (href ▸ hepoch)
    rw [← hstate] at hopen
    rw [hlast]
    cases last with
    | begun => exact absurd (Or.inl rfl) hopen
    | released => exact absurd (Or.inr rfl) hopen
    | foundExpired => simp
    | cancelled => simp
  · intro hclosed id pending hpending hepoch hopen
    obtain ⟨earlier, request, wall, mono, delay, later, hlog, hid, href, -, -, -⟩ :=
      (ledger_run initial history).begun id pending hpending
    have hmem : .begin request pending.requestDigest wall mono delay true ∈
        calls.outputs (new initial) history := by
      rw [hlog]
      exact List.mem_append_right _ List.mem_cons_self
    have hlastClosed := hclosed request _ wall mono delay true hmem (href ▸ hepoch)
    obtain ⟨last, hlast, hstate⟩ := stored_state hpending
    rw [hid, hlast] at hlastClosed
    rw [← hstate] at hopen
    cases last with
    | begun => simp at hlastClosed
    | released => simp at hlastClosed
    | foundExpired => simp [RequestDeed.state] at hopen
    | cancelled => simp [RequestDeed.state] at hopen

end EpochRecoveryMachine

open EpochRecoveryMachine

/-- An epoch whose requests are all over can be retired from its deadline on exactly when the last
thing done to each of them is a cancellation, or a release that came after its expiry. -/
theorem drained_epoch_retires_iff (initial : ConfigRef) (history : List EpochRecoveryCall)
    (wallNow : UInt64) {guardianEpoch deadline : UInt64}
    (hdraining : (calls.run (new initial) history).draining[guardianEpoch]? = some deadline) :
    (RequestsOver initial history guardianEpoch wallNow →
      (calls.run (new initial) history).Retires guardianEpoch deadline) ↔
    (RequestsOver initial history guardianEpoch wallNow →
      RequestsClosed initial history guardianEpoch) := by
  rw [EpochRecoveryMachine.retires_iff hdraining, EpochRecoveryMachine.stored_iff_closed]

/-- A request of the first epoch, begun before its successor takes over and released after it; a
second release comes after its expiry. -/
def sampleReleased : List EpochRecoveryCall :=
  let old : ConfigRef := ⟨1, 1, 1, 1, 1⟩
  [.begin ⟨3, old, 3, [4], 10, 5, 200⟩ 6 10 100 20 true,
    .activateSuccessor ⟨1, 1, 1, 2, 2⟩ 250 true,
    .authorizeRelease ⟨3, 6, old, 20, 120, true, true⟩]

def sampleLateRelease : List EpochRecoveryCall :=
  sampleReleased ++ [.authorizeRelease ⟨3, 6, ⟨1, 1, 1, 1, 1⟩, 200, 260, true, true⟩]

theorem sampleReleased_over (late : List EpochRecoveryCall)
    (hlate : calls.outputs (new ⟨1, 1, 1, 1, 1⟩) (sampleReleased ++ late) = sampleReleased) :
    RequestsOver ⟨1, 1, 1, 1, 1⟩ (sampleReleased ++ late) 1 0 := by
  intro request digest wall mono delay valid hbegun _
  rw [hlate] at hbegun ⊢
  refine Or.inl ⟨⟨3, 6, ⟨1, 1, 1, 1, 1⟩, 20, 120, true, true⟩, by decide, ?_⟩
  simp only [sampleReleased, List.mem_cons, EpochRecoveryCall.begin.injEq, reduceCtorEq,
    List.not_mem_nil, or_false] at hbegun
  rw [hbegun.1]

/-- Once the late release has found it expired, the epoch retires. -/
theorem drained_epoch_retires_iff_sample :
    (calls.run (new ⟨1, 1, 1, 1, 1⟩) sampleLateRelease).Retires 1 250 := by
  have houtputs : calls.outputs (new ⟨1, 1, 1, 1, 1⟩) sampleLateRelease = sampleReleased := by
    decide +kernel
  refine (drained_epoch_retires_iff ⟨1, 1, 1, 1, 1⟩ sampleLateRelease 0 (by decide +kernel)).mpr
    (fun _ => ?_) (sampleReleased_over _ houtputs)
  intro request digest wall mono delay valid hbegun _
  rw [houtputs] at hbegun
  simp only [sampleReleased, List.mem_cons, EpochRecoveryCall.begin.injEq, reduceCtorEq,
    List.not_mem_nil, or_false] at hbegun
  rw [hbegun.1]
  decide +kernel

/-- A request that was released keeps its epoch for good. -/
theorem released_epoch_never_retires :
    ¬(RequestsOver ⟨1, 1, 1, 1, 1⟩ sampleReleased 1 0 →
      (calls.run (new ⟨1, 1, 1, 1, 1⟩) sampleReleased).Retires 1 250) := by
  intro hretires
  have houtputs : calls.outputs (new ⟨1, 1, 1, 1, 1⟩) (sampleReleased ++ []) = sampleReleased := by
    decide +kernel
  obtain ⟨machine', hrun⟩ := hretires (sampleReleased_over [] houtputs) 250 (UInt64.le_refl _)
  have hrefused : (calls.step (calls.run (new ⟨1, 1, 1, 1, 1⟩) sampleReleased)
      (.retireDrainingEpoch 1 250)).2 = none := by
    decide +kernel
  have hcall : call (.retireDrainingEpoch 1 250) (calls.run (new ⟨1, 1, 1, 1, 1⟩) sampleReleased) =
      .ok none machine' := Machine.map_ok hrun
  rw [calls_ok hcall] at hrefused
  cases hrefused

end MasterRecovery
