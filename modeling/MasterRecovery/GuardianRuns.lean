import MasterRecovery.GuardianServed
import MasterRecovery.SignerSteps

/-!
# Runs of a guardian's entry

A recovery request, served, and the induction over a run. What is to hold has to survive every
request, and for the copy on disk every refused one.
-/

namespace MasterRecovery
open Checks Transcript Wire Act

variable {crypto : Crypto} {vault : Vault} {node : GuardianNode} {call : GuardianCall}
  {entry entry' : GuardianRotationEntryV3}

/-! ### A recovery request, served -/

/-- An epoch that drains and has one request less to finish. -/
def finishedStore (guardianEpoch : UInt64) (requestId : Id32) (store : GuardianEpochStore) :
    GuardianEpochStore :=
  match store.draining[guardianEpoch]? with
  | some draining => { store with
      draining := store.draining.insert guardianEpoch
        { draining with pendingRequestIds := draining.pendingRequestIds.erase requestId } }
  | none => store

/-- The request as an accepted Begin remembers it. -/
def begunRecovery (node : GuardianNode) (call : GuardianCall) (request : RecoveryRequestV3)
    (active : GuardianRecordV3) (digest : Id32) : PendingNetworkRecoveryV3 where
  request := request
  requestDigest := digest
  acceptedWallTime := call.wallNow
  startedMonotonic := call.monotonicNow
  notBeforeMonotonic := saturatingAdd call.monotonicNow (recoveryDelay node active)
  bootId := call.bootId
  cancelled := false
  released := false

/-- What serving a recovery request can come to. -/
inductive RecoveryServed (crypto : Crypto) (node : GuardianNode) (call : GuardianCall)
    (entry : GuardianRotationEntryV3) : GuardianRecoveryRequestV3 →
    Option GuardianRecoveryResponseV3 → GuardianRotationEntryV3 → Prop
  | refused {request : GuardianRecoveryRequestV3} :
    RecoveryServed crypto node call entry request none entry
  | begun {certificate : BeginRecoveryCertificateV3} {active : GuardianRecordV3} {digest : Id32}
    (hchecks : recoveryBeginChecks crypto call entry certificate = .ok (active, digest))
    (hfresh : entry.recoveries[certificate.request.requestId]? = none) :
    RecoveryServed crypto node call entry (.begin certificate)
      (some (.beginAccepted
        (begunRecovery node call certificate.request active digest).notBeforeMonotonic))
      (entry.putRecovery certificate.request.requestId
        (begunRecovery node call certificate.request active digest))
  | begunBefore {certificate : BeginRecoveryCertificateV3} {pending : PendingNetworkRecoveryV3}
    (hfound : entry.recoveries[certificate.request.requestId]? = some pending)
    (hsame : pending.request = certificate.request) :
    RecoveryServed crypto node call entry (.begin certificate)
      (some (.beginAccepted pending.notBeforeMonotonic)) entry
  | cancelledLate {request : RecoveryRequestV3} {certificate : OwnerRecoveryCancelCertificateV3}
    {digest : Id32}
    (hchecks : recoveryCancelChecks crypto call entry request certificate = .ok digest) :
    RecoveryServed crypto node call entry (.cancel request certificate) none
      (cancelledEntry request digest entry)
  | cancelled {request : RecoveryRequestV3} {certificate : OwnerRecoveryCancelCertificateV3}
    {digest : Id32} {ack : OwnerRecoveryCancelAckV3}
    (hchecks : recoveryCancelChecks crypto call entry request certificate = .ok digest)
    (hack : ack.requestId = request.requestId) :
    RecoveryServed crypto node call entry (.cancel request certificate) (some (.cancelled ack))
      (cancelledEntry request digest entry)
  | released {request : RecoveryRequestV3} {certificate : RecoveryReleaseCertificateV3}
    {record : GuardianRecordV3} {pending : PendingNetworkRecoveryV3} {digest : Id32}
    {contribution : GuardianRecoveryContributionV3}
    (hchecks : recoveryReleaseChecks crypto call entry request certificate =
      .ok (record, pending, digest))
    (hmaterial : { contribution with guardianSignature := [] } =
      recoveredMaterial record request digest) :
    RecoveryServed crypto node call entry (.release request certificate)
      (some (.contribution contribution))
      ((entry.putRecovery request.requestId { pending with released := true }).withStore
        (finishedStore request.configRef.guardianEpoch request.requestId
          entry.provision.epochStore))

theorem outcome_recoveryBegin {certificate : BeginRecoveryCertificateV3} :
    Outcome (RecoveryServed crypto node call entry (.begin certificate))
      (recoveryBegin crypto node call certificate) entry := by
  simp only [recoveryBegin, outcome_get_bind]
  refine outcome_check_bind .refused fun out hchecks => ?_
  cases hfound : entry.recoveries[certificate.request.requestId]? with
  | some pending =>
    refine outcome_check_bind .refused fun _ hsame => ?_
    simp only [bailIf_eq_ok, not_or, not_not, ne_eq] at hsame
    exact outcome_pure.mpr (.begunBefore hfound hsame.2)
  | none =>
    refine outcome_check_bind .refused fun _ _ => ?_
    simp only [outcome_modify_bind, outcome_pure]
    exact .begun hchecks hfound

theorem outcome_recoveryCancel {request : RecoveryRequestV3}
    {certificate : OwnerRecoveryCancelCertificateV3} :
    Outcome (RecoveryServed crypto node call entry (.cancel request certificate))
      (recoveryCancel crypto call request certificate) entry := by
  simp only [recoveryCancel, outcome_get_bind]
  refine outcome_check_bind .refused fun digest hchecks => ?_
  simp only [outcome_modify_bind, outcome_get_bind]
  refine outcome_check_bind (.cancelledLate hchecks) fun record _ => ?_
  refine outcome_check_bind (.cancelledLate hchecks) fun transcript _ => ?_
  refine outcome_check (.cancelledLate hchecks) fun response hsigned => ?_
  obtain ⟨_, _, rfl⟩ := signed_eq_ok.mp hsigned
  exact .cancelled hchecks rfl

theorem outcome_recoveryRelease {request : RecoveryRequestV3}
    {certificate : RecoveryReleaseCertificateV3} :
    Outcome (RecoveryServed crypto node call entry (.release request certificate))
      (recoveryRelease crypto call request certificate) entry := by
  simp only [recoveryRelease, outcome_get_bind]
  refine outcome_check_bind .refused fun out hchecks => ?_
  refine outcome_check_bind .refused fun response hsigned => ?_
  obtain ⟨contribution, hmaterial, rfl⟩ : ∃ contribution : GuardianRecoveryContributionV3,
      { contribution with guardianSignature := [] } = recoveredMaterial out.1 request out.2.2 ∧
        response = .contribution contribution := by
    obtain ⟨_, _, rfl⟩ := signed_eq_ok.mp hsigned
    exact ⟨_, rfl, rfl⟩
  have hreleased : RecoveryServed crypto node call entry (.release request certificate)
      (some (.contribution contribution)) _ := .released hchecks hmaterial
  simp only [outcome_modify_bind]
  split
  · next hdrains =>
    have hfinished : GuardianEpochStore.finishDrainingRequest request.configRef.guardianEpoch
        request.requestId entry.provision.epochStore =
        .ok (finishedStore request.configRef.guardianEpoch request.requestId
          entry.provision.epochStore) := by
      obtain ⟨draining, hfound⟩ := Option.isSome_iff_exists.mp
        (Std.TreeMap.isSome_getElem?_iff_mem.mpr hdrains)
      simp [GuardianEpochStore.finishDrainingRequest, finishedStore, hfound, Checks.bind_eq_ok]
    have hrun : updateStore (GuardianEpochStore.finishDrainingRequest
        request.configRef.guardianEpoch request.requestId)
        (entry.putRecovery request.requestId { out.2.1 with released := true }) = .ok () _ :=
      updateStore_eq_ok.mpr ⟨_, hfinished, rfl⟩
    refine outcome_bind (fun _ _ hrefused => ?_) fun _ _ hdone => ?_
    · cases hrun.symm.trans hrefused
    · cases hrun.symm.trans hdone
      exact outcome_pure.mpr hreleased
  · next hdrains =>
    have habsent : entry.provision.epochStore.draining[request.configRef.guardianEpoch]? = none :=
      Std.TreeMap.getElem?_eq_none hdrains
    rw [finishedStore, habsent] at hreleased
    exact outcome_pure.mpr hreleased

/-- What a recovery request leaves alone: everything of the rotations. -/
structure RotationsKept (entry entry' : GuardianRotationEntryV3) : Prop where
  sessions : entry'.sessions = entry.sessions
  provision : ∃ draining cancelled, entry'.provision = { entry.provision with
    epochStore := { entry.provision.epochStore with
      draining := draining
      recoveryCancellationTombstones := cancelled } }

theorem RotationsKept.of_store {store : GuardianEpochStore}
    {recoveries : Std.TreeMap Id32 PendingNetworkRecoveryV3}
    (h : ∃ draining cancelled, store = { entry.provision.epochStore with
      draining := draining
      recoveryCancellationTombstones := cancelled }) :
    RotationsKept entry { entry.withStore store with recoveries := recoveries } := by
  obtain ⟨draining, cancelled, rfl⟩ := h
  exact ⟨rfl, draining, cancelled, rfl⟩

theorem RecoveryServed.rotationsKept {request : GuardianRecoveryRequestV3}
    {response : Option GuardianRecoveryResponseV3}
    (h : RecoveryServed crypto node call entry request response entry') :
    RotationsKept entry entry' := by
  have hcancelled (request : RecoveryRequestV3) (digest : Id32) :
      RotationsKept entry (cancelledEntry request digest entry) := by
    unfold cancelledEntry
    split <;> exact .of_store ⟨_, _, rfl⟩
  cases h with
  | refused => exact .of_store ⟨_, _, rfl⟩
  | begun => exact .of_store ⟨_, _, rfl⟩
  | begunBefore => exact .of_store ⟨_, _, rfl⟩
  | cancelledLate => exact hcancelled _ _
  | cancelled => exact hcancelled _ _
  | released =>
    refine .of_store ?_
    unfold finishedStore
    split <;> exact ⟨_, _, rfl⟩

/-! ### Requests -/

theorem recovery_served (request : GuardianRecoveryRequestV3) :
    Outcome (RecoveryServed crypto node call entry request)
      (handleGuardianRecoveryV3 crypto node call request) entry := by
  simp only [handleGuardianRecoveryV3]
  refine outcome_check_bind .refused fun _ _ => ?_
  cases request with
  | begin certificate => exact outcome_recoveryBegin
  | cancel request certificate => exact outcome_recoveryCancel
  | release request certificate => exact outcome_recoveryRelease

/-- What serving a request comes to. -/
inductive GuardianServed (crypto : Crypto) (vault : Vault) (node : GuardianNode)
    (call : GuardianCall) (entry : GuardianRotationEntryV3) : GuardianRequest →
    Option GuardianResponse → GuardianRotationEntryV3 → Prop
  | rotation {request : GuardianRotationRequestV3} {response : Option GuardianRotationResponseV3}
    {entry' : GuardianRotationEntryV3}
    (h : RotationServed crypto vault node call entry request response entry') :
    GuardianServed crypto vault node call entry (.rotation request) (response.map .rotation) entry'
  | recovery {request : GuardianRecoveryRequestV3} {response : Option GuardianRecoveryResponseV3}
    {entry' : GuardianRotationEntryV3}
    (h : RecoveryServed crypto node call entry request response entry') :
    GuardianServed crypto vault node call entry (.recovery request) (response.map .recovery) entry'

theorem guardian_served (request : GuardianRequest) :
    Outcome (GuardianServed crypto vault node call entry request)
      (handleGuardian crypto vault node call request) entry := by
  cases request with
  | rotation request => exact outcome_map ((rotation_served request).mono fun _ _ h => .rotation h)
  | recovery request => exact outcome_map ((recovery_served request).mono fun _ _ h => .recovery h)

/-! ### Runs -/

section Runs

variable (crypto vault node)

def guardianRun (provision : GuardianRotationProvisionV3) (inputs : List GuardianInput) :
    Persisted GuardianRotationEntryV3 :=
  (guardianMachine crypto vault node).run ⟨provision.entry, provision.entry⟩ inputs

/-- The requests of a run with the entries they found, oldest first. -/
def guardianLog (provision : GuardianRotationProvisionV3) (inputs : List GuardianInput) :
    List GuardianExchange :=
  (guardianMachine crypto vault node).outputs ⟨provision.entry, provision.entry⟩ inputs

end Runs

/-! ### A request at a time -/

/-- Past the gate the request decides. -/
theorem handle_of_gate {request : GuardianRotationRequestV3}
    (h : guardianContextGate entry request.context call.wallNow = .ok ()) :
    handleGuardianRotationV3 crypto vault node call request entry =
      guardianDispatch crypto vault node call request entry := by
  simp only [handleGuardianRotationV3, Act.get_bind, h, check_ok_bind]

theorem run_served {request : GuardianRequest} {response : GuardianResponse}
    {inputs : List GuardianInput}
    (h : handleGuardian crypto vault node call request entry = .ok response entry') :
    (guardianMachine crypto vault node).run ⟨entry, entry⟩ (.request call request :: inputs) =
      (guardianMachine crypto vault node).run ⟨entry', entry'⟩ inputs := by
  simp only [Machine.run_cons, guardianMachine, guardianServe, h]

theorem outputs_served {request : GuardianRequest} {response : GuardianResponse}
    {inputs : List GuardianInput}
    (h : handleGuardian crypto vault node call request entry = .ok response entry') :
    (guardianMachine crypto vault node).outputs ⟨entry, entry⟩ (.request call request :: inputs) =
      ⟨entry, call, request, some response⟩ ::
        (guardianMachine crypto vault node).outputs ⟨entry', entry'⟩ inputs := by
  simp only [Machine.outputs_cons, guardianMachine, guardianServe, h, Option.toList,
    List.singleton_append]

/-- What has to survive a request that is served, and on disk one that is refused. -/
structure GuardianInvariant (crypto : Crypto) (vault : Vault) (node : GuardianNode)
    (J : GuardianRotationEntryV3 → List GuardianExchange → Prop) : Prop where
  served : ∀ {entry entry' : GuardianRotationEntryV3} {log : List GuardianExchange}
    {call : GuardianCall} {request : GuardianRequest} {response : Option GuardianResponse},
    J entry log → GuardianServed crypto vault node call entry request response entry' →
      J entry' (log ++ [⟨entry, call, request, response⟩])
  refused : ∀ {entry : GuardianRotationEntryV3} {log : List GuardianExchange}
    {exchange : GuardianExchange}, J entry log → exchange.response = none →
      J entry (log ++ [exchange])

variable {J : GuardianRotationEntryV3 → List GuardianExchange → Prop}
  {provision : GuardianRotationProvisionV3} {inputs : List GuardianInput}

/-- One request: the copy in memory, the copy on disk, and the exchange itself. -/
theorem GuardianInvariant.serve (hJ : GuardianInvariant crypto vault node J)
    {stored : Persisted GuardianRotationEntryV3} {log : List GuardianExchange}
    (hdata : J stored.data log) (hsaved : J stored.saved log) (call : GuardianCall)
    (request : GuardianRequest) :
    ∃ exchange : GuardianExchange,
      (guardianServe crypto vault node stored call request).2 = some exchange ∧
      exchange.entry = stored.data ∧
      exchange.response =
        (handleGuardian crypto vault node exchange.call exchange.request).returned exchange.entry ∧
      J (guardianServe crypto vault node stored call request).1.data (log ++ [exchange]) ∧
      J (guardianServe crypto vault node stored call request).1.saved (log ++ [exchange]) := by
  have hserved : Outcome (GuardianServed crypto vault node call stored.data request)
      (handleGuardian crypto vault node call request) stored.data := guardian_served request
  cases hrun : handleGuardian crypto vault node call request stored.data with
  | ok response entry' =>
    have hnext := hJ.served hdata (hserved.ok hrun)
    simp only [guardianServe, hrun]
    exact ⟨_, rfl, rfl, (returned_eq_some.mpr ⟨_, hrun⟩).symm, hnext, hnext⟩
  | error e entry' =>
    have hnext := hJ.served hdata (hserved.error hrun)
    simp only [guardianServe, hrun]
    exact ⟨_, rfl, rfl, (returned_eq_none.mpr ⟨_, _, hrun⟩).symm, hnext, hJ.refused hsaved rfl⟩

/-- An exchange of a run is a request that was served. -/
theorem exchange_served {x : GuardianExchange} (h : x.response =
    (handleGuardian crypto vault node x.call x.request).returned x.entry) :
    ∃ entry', GuardianServed crypto vault node x.call x.entry x.request x.response entry' := by
  rw [h]
  exact ⟨_, guardian_served x.request⟩

/-- What holds of a run: in memory, on disk, and of every entry a request has found. -/
structure HoldsThroughout (crypto : Crypto) (vault : Vault) (node : GuardianNode)
    (J : GuardianRotationEntryV3 → List GuardianExchange → Prop)
    (stored : Persisted GuardianRotationEntryV3) (log : List GuardianExchange) : Prop where
  data : J stored.data log
  saved : J stored.saved log
  found : ∀ {before after : List GuardianExchange} {exchange : GuardianExchange},
    log = before ++ exchange :: after → J exchange.entry before ∧ exchange.response =
      (handleGuardian crypto vault node exchange.call exchange.request).returned exchange.entry

theorem guardian_run (hJ : GuardianInvariant crypto vault node J) (hinit : J provision.entry []) :
    HoldsThroughout crypto vault node J (guardianRun crypto vault node provision inputs)
      (guardianLog crypto vault node provision inputs) := by
  refine Machine.run_invariant _ (P := fun _ _ _ => True) ?_ ?_
    (Machine.along_of_forall _ (P := fun _ => True) (fun _ _ => trivial) _ _)
  · exact ⟨hinit, hinit, fun hsplit => by simp at hsplit⟩
  · intro stored log input h _
    cases input with
    | request call request =>
      obtain ⟨exchange, hemitted, hentry, hresponse, hdata, hsaved⟩ :=
        hJ.serve h.data h.saved call request
      simp only [guardianMachine, hemitted]
      refine ⟨hdata, hsaved, fun hsplit => ?_⟩
      rcases Machine.toList_split hsplit with ⟨-, rfl, hlast⟩ | ⟨after, -, hearlier⟩
      · cases hlast
        exact ⟨hentry ▸ h.data, hresponse⟩
      · exact h.found hearlier
    | restart =>
      simp only [guardianMachine, Option.toList_none, List.append_nil]
      exact ⟨h.saved, h.saved, h.found⟩
    | flush =>
      simp only [guardianMachine, Option.toList_none, List.append_nil]
      exact ⟨h.data, h.data, h.found⟩

end MasterRecovery
