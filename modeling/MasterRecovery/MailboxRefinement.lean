import MasterRecovery.HardCancel

/-!
# The mailbox and the machine it rebuilds

A guardian's mailbox keeps its own tables and consults a machine that lives for one request. Here
the same requests go to one machine that lives on, and both are compared request by request.
-/

namespace MasterRecovery
open Checks Transcript Act

/-! ### Side by side -/

namespace GuardianMachine

/-- A request and its digest, fed to the machine with a valid certificate; the machine a refused
call leaves is kept. -/
def feed (delay : UInt64) (call : MailboxCall) (digest : Id32) (action : MailboxRequest)
    (machine : GuardianMachine) : Bool × GuardianMachine :=
  let fed {α : Type} (x : Call α) : Bool × GuardianMachine :=
    match x machine with
    | .ok _ machine' => (true, machine')
    | .error _ machine' => (false, machine')
  match action with
  | .guardianBegin certificate =>
    fed (beginAt certificate.request digest call.wallNow call.monotonicNow delay true)
  | .guardianCancel request _ => fed (cancel request.requestId digest true)
  | .guardianRelease request _ =>
    fed (authorizeReleaseAt request.requestId digest call.wallNow call.monotonicNow true true)
  | .signerApprove _ => (false, machine)
  | .signerRelease _ => (false, machine)

end GuardianMachine

structure MailboxEvent where
  call : MailboxCall
  action : MailboxRequest

/-- A request, what it found on both sides, and whether it was accepted there. -/
structure MailboxExchange where
  entry : GuardianEntry
  machine : GuardianMachine
  event : MailboxEvent
  answer : Option MailboxResponse
  accepted : Bool

/-- A request whose certificate is valid under the policy. -/
def MailboxEvent.Certified (crypto : Crypto) (policy : GuardianPolicy) (event : MailboxEvent) : Prop :=
  match event.action with
  | .guardianBegin certificate =>
    validateBeginForPolicy crypto certificate policy event.call.wallNow = .ok ()
  | .guardianCancel request certificate =>
    validateOwnerCancelForPolicy crypto certificate policy request event.call.wallNow = .ok ()
  | .guardianRelease request certificate =>
    validateReleaseForPolicy crypto certificate policy request event.call.wallNow = .ok ()
  | .signerApprove _ => False
  | .signerRelease _ => False

/-- The mailbox and the long-lived machine; a request without a digest reaches neither. -/
def sideBySide (crypto : Crypto) (corruptContribution : Bool) :
    Machine (GuardianEntry × GuardianMachine) MailboxEvent MailboxExchange where
  step state event :=
    let handled := guardianMailbox crypto corruptContribution event.call event.action
    match requestDigest crypto event.action.request with
    | .error _ => (state, none)
    | .ok digest =>
      let fed := GuardianMachine.feed state.1.provision.record.policy.minimumRecoveryDelay
        event.call digest event.action state.2
      ((handled.final state.1, fed.2),
        some ⟨state.1, state.2, event, handled.returned state.1, fed.1⟩)

/-- Both as they are provisioned. -/
def sideBySideStart (provision : GuardianProvision) : GuardianEntry × GuardianMachine :=
  (.new provision,
    .new provision.record.policy.configId provision.record.policy.configVersion)

/-! ### What is compared -/

namespace GuardianEntry

/-- The exact request is pending. -/
def Begun (entry : GuardianEntry) (requestId digest : Id32) : Prop :=
  ∃ pending, entry.pending[requestId]? = some pending ∧ pending.requestDigest = digest

end GuardianEntry

namespace MailboxExchange

/-- A Begin or a Release is accepted only where the machine accepts it; a Cancel of a begun and
unreleased request is accepted where the machine accepts it. -/
def Refines (crypto : Crypto) (x : MailboxExchange) : Prop :=
  match x.event.action with
  | .guardianBegin _ => (∃ notBefore, x.answer = some (.beginAccepted notBefore)) → x.accepted = true
  | .guardianCancel request _ => ∀ digest, requestDigest crypto request = .ok digest →
    x.entry.Begun request.requestId digest →
    x.entry.released[request.requestId]? ≠ some digest → x.accepted = true →
      ∃ ack, x.answer = some (.cancellationAccepted ack)
  | .guardianRelease _ _ =>
    (∃ contribution, x.answer = some (.guardianContribution contribution)) → x.accepted = true
  | _ => True

/-- An owner Cancel of the exact request. -/
def Cancels (crypto : Crypto) (x : MailboxExchange) (requestId digest : Id32) : Prop :=
  ∃ request certificate, x.event.action = .guardianCancel request certificate ∧
    request.requestId = requestId ∧ requestDigest crypto request = .ok digest

end MailboxExchange

/-- No Begin under an id that was cancelled for another transcript, no Cancel of a begun request
after such a cancellation, no Release of a released request that its owner has cancelled since. -/
def Untangled (crypto : Crypto) (entry : GuardianEntry) (log : List MailboxExchange)
    (event : MailboxEvent) : Prop :=
  ∀ digest, requestDigest crypto event.action.request = .ok digest →
    match event.action with
    | .guardianBegin certificate =>
      certificate.request.requestId ∉ entry.pending →
      certificate.request.nonce ∉ entry.seenNonces →
        ∀ cancelled ∈ entry.cancelled[certificate.request.requestId]?, cancelled = digest
    | .guardianCancel request _ => entry.Begun request.requestId digest →
      entry.released[request.requestId]? ≠ some digest →
        ∀ cancelled ∈ entry.cancelled[request.requestId]?, cancelled = digest
    | .guardianRelease request _ => entry.released[request.requestId]? = some digest →
        ∀ x ∈ log, ¬x.Cancels crypto request.requestId digest
    | _ => True

/-! ### The simulation -/

variable {crypto : Crypto} {corruptContribution : Bool} {entry entry' : GuardianEntry}
  {machine : GuardianMachine} {log : List MailboxExchange} {call : MailboxCall}
  {requestId digest : Id32} {request : RecoveryRequest}

/-- The pending request of the machine that an entry's pending request stands for. -/
structure Matches (delay : UInt64) (pending : PendingNetworkRecovery) (found : GuardianPending) :
    Prop where
  digest : found.requestDigest = pending.requestDigest
  expiry : found.expiry = pending.request.expiry
  notBefore : found.pending.notBefore = saturatingAdd pending.startedMonotonic delay

/-- How the machine's tables follow from the entry's, and where they may part: a cancellation
under another digest after the Begin, and one that came after the release. -/
structure Simulates (crypto : Crypto) (policy : GuardianPolicy) (entry : GuardianEntry)
    (machine : GuardianMachine) (log : List MailboxExchange) : Prop where
  same : entry.provision.record.policy = policy
  configId : machine.configId = policy.configId
  version : machine.currentVersion = policy.configVersion
  nonces : machine.seenNonces = entry.seenNonces
  seen : ∀ requestId, requestId ∈ machine.seen ↔ requestId ∈ entry.pending
  pending : ∀ (requestId : Id32) (pending : PendingNetworkRecovery),
    entry.pending[requestId]? = some pending →
      ∃ found, machine.pending[requestId]? = some found ∧
        Matches policy.minimumRecoveryDelay pending found
  absent : ∀ requestId : Id32, entry.pending[requestId]? = none →
    machine.pending[requestId]? = none
  released : ∀ (requestId digest : Id32), entry.released[requestId]? = some digest →
    entry.Begun requestId digest
  cancelled : ∀ (requestId digest : Id32), machine.cancelled[requestId]? = some digest →
    entry.cancelled[requestId]? = some digest ∨ entry.released[requestId]? = some digest ∧
      ∃ x ∈ log, x.Cancels crypto requestId digest
  recorded : ∀ (requestId digest : Id32), entry.cancelled[requestId]? = some digest →
    machine.cancelled[requestId]? = some digest ∨
      ∃ other, entry.Begun requestId other ∧ other ≠ digest
  agreed : ∀ (requestId digest other : Id32), machine.cancelled[requestId]? = some digest →
    entry.Begun requestId other → other = digest

theorem simulates_start (provision : GuardianProvision) :
    Simulates crypto provision.record.policy (sideBySideStart provision).1
      (sideBySideStart provision).2 [] where
  same := rfl
  configId := rfl
  version := rfl
  nonces := rfl
  seen := by simp [sideBySideStart, GuardianEntry.new, GuardianMachine.new]
  pending := by simp [sideBySideStart, GuardianEntry.new]
  absent := by simp [sideBySideStart, GuardianMachine.new]
  released := by simp [sideBySideStart, GuardianEntry.new]
  cancelled := by simp [sideBySideStart, GuardianMachine.new]
  recorded := by simp [sideBySideStart, GuardianEntry.new]
  agreed := by simp [sideBySideStart, GuardianMachine.new]

/-! ### The mailbox's side -/

section Handled

variable {certificate : BeginRecoveryCertificate} {cancellation : OwnerCancelCertificate}

/-- What lets a valid Begin in. -/
def AdmitsBegin (entry : GuardianEntry) (request : RecoveryRequest) (digest : Id32) : Prop :=
  entry.cancelled[request.requestId]? ≠ some digest ∧ request.requestId ∉ entry.pending ∧
    request.nonce ∉ entry.seenNonces

/-- What lets a valid Cancel in. -/
def AdmitsCancel (entry : GuardianEntry) (requestId digest : Id32) : Prop :=
  entry.released[requestId]? ≠ some digest ∧
    ∀ existing ∈ entry.cancelled[requestId]?, existing = digest

theorem begin_accepted (hdigest : requestDigest crypto certificate.request = .ok digest)
    (hvalid : validateBeginForPolicy crypto certificate entry.provision.record.policy
      call.wallNow = .ok ()) (hadmits : AdmitsBegin entry certificate.request digest) :
    (guardianMailbox crypto corruptContribution call (.guardianBegin certificate)).returned entry ≠
      none := by
  obtain ⟨hlive, hnew, hnonce⟩ := hadmits
  have hrun := mailboxBegin_accepts hvalid hlive hnew hnonce
  rw [← guardianMailbox_begin hdigest] at hrun
  rw [returned_eq_some.mpr ⟨_, hrun⟩]
  exact Option.some_ne_none _

theorem cancel_accepted (hdigest : requestDigest crypto request = .ok digest)
    (hvalid : validateOwnerCancelForPolicy crypto cancellation entry.provision.record.policy request
      call.wallNow = .ok ()) (hadmits : AdmitsCancel entry request.requestId digest) :
    (guardianMailbox crypto corruptContribution call
      (.guardianCancel request cancellation)).returned entry ≠ none := by
  obtain ⟨ack, hrun, -⟩ := mailboxCancel_accepts hvalid hadmits.1 hadmits.2
  rw [← guardianMailbox_cancel hdigest] at hrun
  rw [returned_eq_some.mpr ⟨_, hrun⟩]
  exact Option.some_ne_none _

end Handled

/-! ### The machine's side -/

namespace GuardianMachine

variable {certificate : BeginRecoveryCertificate} {cancellation : OwnerCancelCertificate}
  {policy : GuardianPolicy} {delay : UInt64}

theorem feed_begin (hfresh : ¬StaleRequest policy certificate.request call.wallNow)
    (hid : machine.configId = policy.configId)
    (hversion : machine.currentVersion = policy.configVersion) :
    (machine.cancelled[certificate.request.requestId]? = none ∧
        certificate.request.requestId ∉ machine.seen ∧
        certificate.request.nonce ∉ machine.seenNonces) ∧
      feed delay call digest (.guardianBegin certificate) machine =
        (true, machine.begun certificate.request digest call.monotonicNow
          (saturatingAdd call.monotonicNow delay)) ∨
    ¬(machine.cancelled[certificate.request.requestId]? = none ∧
        certificate.request.requestId ∉ machine.seen ∧
        certificate.request.nonce ∉ machine.seenNonces) ∧
      feed delay call digest (.guardianBegin certificate) machine = (false, machine) := by
  have hchecks := @beginChecks_iff policy certificate.request digest machine call.wallNow
    hfresh hid hversion
  rw [← hchecks]
  simp only [feed, beginAt]
  cases hrun : machine.beginChecks certificate.request digest call.wallNow true with
  | ok u => exact Or.inl ⟨rfl, rfl⟩
  | error e => exact Or.inr ⟨by simp, rfl⟩

/-- The machine with a cancellation recorded, and the request marked if it is pending. -/
def buried (requestId digest : Id32) (machine : GuardianMachine) : GuardianMachine :=
  let marked :=
    match machine.pending[requestId]? with
    | some pending => machine.withState requestId pending .cancelled
    | none => machine
  { marked with cancelled := marked.cancelled.insert requestId digest }

theorem feed_cancel_recorded {recorded : Id32}
    (hrecorded : machine.cancelled[request.requestId]? = some recorded) :
    feed delay call digest (.guardianCancel request cancellation) machine =
      (decide (recorded = digest), machine) := by
  by_cases hsame : recorded = digest <;> simp [feed, cancel, hrecorded, hsame]

theorem feed_cancel_other {found : GuardianPending}
    (hnone : machine.cancelled[request.requestId]? = none)
    (hfound : machine.pending[request.requestId]? = some found)
    (hother : found.requestDigest ≠ digest) :
    feed delay call digest (.guardianCancel request cancellation) machine = (false, machine) := by
  simp [feed, cancel, hnone, hfound, hother]

theorem feed_cancel_new (hnone : machine.cancelled[request.requestId]? = none)
    (hsame : ∀ found ∈ machine.pending[request.requestId]?, found.requestDigest = digest) :
    feed delay call digest (.guardianCancel request cancellation) machine =
      (true, machine.buried request.requestId digest) := by
  cases hfound : machine.pending[request.requestId]? with
  | none => simp [feed, cancel, buried, hnone, hfound]
  | some found =>
    have hdigest := hsame found hfound
    simp [feed, cancel, buried, hnone, hfound, hdigest]

/-- A Release at most moves the state of a pending request. -/
inductive Retouched (machine : GuardianMachine) : GuardianMachine → Prop
  | kept : Retouched machine machine
  | moved {requestId : Id32} {found : GuardianPending} {state : RecoveryState}
    (hfound : machine.pending[requestId]? = some found) :
    Retouched machine (machine.withState requestId found state)

theorem authorizeReleaseAt_retouched {machine' : GuardianMachine} {u : Unit} {e : CoreError}
    {wallNow monotonicNow : UInt64}
    (h : authorizeReleaseAt requestId digest wallNow monotonicNow true true machine =
        .ok u machine' ∨
      authorizeReleaseAt requestId digest wallNow monotonicNow true true machine =
        .error e machine') : Retouched machine machine' := by
  unfold authorizeReleaseAt at h
  simp only [Bool.true_eq_false, or_self, if_false] at h
  split at h
  · rcases h with h | h <;> cases h
    exact .kept
  · split at h
    · rcases h with h | h <;> cases h
      exact .kept
    · next found hfound =>
      split at h
      · rcases h with h | h <;> cases h
        exact .kept
      · split at h
        · rcases h with h | h <;> cases h
          exact .moved hfound
        · split at h
          · rcases h with h | h <;> cases h
            exact .kept
          · rcases h with h | h <;> cases h
            exact .moved hfound

theorem feed_release_retouched {release : ReleaseCertificate} :
    Retouched machine (feed delay call digest (.guardianRelease request release) machine).2 := by
  simp only [feed]
  cases hrun : authorizeReleaseAt request.requestId digest call.wallNow call.monotonicNow true true
    machine with
  | ok u machine' => exact authorizeReleaseAt_retouched (e := .expired) (Or.inl hrun)
  | error e machine' => exact authorizeReleaseAt_retouched (u := ()) (Or.inr hrun)

theorem feed_release_accepts {release : ReleaseCertificate} {found : GuardianPending}
    (hlive : machine.cancelled[request.requestId]? = none)
    (hfound : machine.pending[request.requestId]? = some found)
    (hdigest : found.requestDigest = digest) (hexpiry : call.wallNow < found.expiry)
    (hdue : found.pending.notBefore ≤ call.monotonicNow) :
    (feed delay call digest (.guardianRelease request release) machine).1 = true := by
  simp [feed, authorizeReleaseAt, hlive, hfound, hdigest, UInt64.not_le.mpr hexpiry,
    UInt64.not_lt.mpr hdue]

end GuardianMachine

/-! ### One request on both sides -/

namespace Simulates

variable {policy : GuardianPolicy} {x : MailboxExchange}

theorem more (h : Simulates crypto policy entry machine log) (x : MailboxExchange) :
    Simulates crypto policy entry machine (log ++ [x]) :=
  { h with
    cancelled := fun requestId digest hcancelled =>
      (h.cancelled requestId digest hcancelled).imp_right fun ⟨hreleased, y, hy, hcancels⟩ =>
        ⟨hreleased, y, List.mem_append_left _ hy, hcancels⟩ }

theorem begun_iff (h : Simulates crypto policy entry machine log) :
    entry.Begun requestId digest ↔
      ∃ found, machine.pending[requestId]? = some found ∧ found.requestDigest = digest := by
  constructor
  · rintro ⟨pending, hpending, rfl⟩
    obtain ⟨found, hfound, hmatches⟩ := h.pending requestId pending hpending
    exact ⟨found, hfound, hmatches.digest⟩
  · rintro ⟨found, hfound, rfl⟩
    cases hpending : entry.pending[requestId]? with
    | none => rw [h.absent requestId hpending] at hfound; cases hfound
    | some pending =>
      obtain ⟨found', hfound', hmatches⟩ := h.pending requestId pending hpending
      rw [hfound] at hfound'
      cases hfound'
      exact ⟨pending, hpending, hmatches.digest.symm⟩

theorem begun_unique (hfirst : entry.Begun requestId digest) {other : Id32}
    (hsecond : entry.Begun requestId other) : digest = other := by
  obtain ⟨pending, hpending, rfl⟩ := hfirst
  obtain ⟨pending', hpending', rfl⟩ := hsecond
  rw [hpending] at hpending'
  cases hpending'
  rfl

/-- The states of the machine's pending requests do not matter. -/
theorem retouched (h : Simulates crypto policy entry machine log) {machine' : GuardianMachine}
    (hretouched : GuardianMachine.Retouched machine machine') :
    Simulates crypto policy entry machine' log := by
  cases hretouched with
  | kept => exact h
  | @moved id found state hfound =>
    refine ⟨h.same, h.configId, h.version, h.nonces, h.seen, ?_, ?_, h.released, h.cancelled,
      h.recorded, h.agreed⟩
    · intro requestId pending hpending
      obtain ⟨other, hother, hmatches⟩ := h.pending requestId pending hpending
      by_cases hid : requestId = id
      · subst hid
        rw [hfound] at hother
        cases hother
        exact ⟨_, getElem?_insert_iff.mpr (Or.inl ⟨rfl, rfl⟩), hmatches.digest, hmatches.expiry,
          hmatches.notBefore⟩
      · exact ⟨other, getElem?_insert_iff.mpr (Or.inr ⟨hid, hother⟩), hmatches⟩
    · intro requestId hpending
      have habsent := h.absent requestId hpending
      have hid : requestId ≠ id := by
        rintro rfl
        rw [habsent] at hfound
        cases hfound
      exact getElem?_insert_eq_none_iff.mpr ⟨hid, habsent⟩

/-- A Begin that both accept. -/
theorem begun (h : Simulates crypto policy entry machine log) (hnew : request.requestId ∉ entry.pending)
    (hlive : machine.cancelled[request.requestId]? = none) :
    Simulates crypto policy (entry.withPending request digest call)
      (machine.begun request digest call.monotonicNow
        (saturatingAdd call.monotonicNow policy.minimumRecoveryDelay)) log := by
  have hbegun : ∀ {id other : Id32}, id ≠ request.requestId →
      ((entry.withPending request digest call).Begun id other ↔ entry.Begun id other) := by
    intro id other hid
    constructor
    · rintro ⟨pending, hpending, hdigest⟩
      rcases getElem?_insert_iff.mp hpending with ⟨rfl, -⟩ | ⟨-, hold⟩
      · exact absurd rfl hid
      · exact ⟨pending, hold, hdigest⟩
    · rintro ⟨pending, hpending, hdigest⟩
      exact ⟨pending, getElem?_insert_iff.mpr (Or.inr ⟨hid, hpending⟩), hdigest⟩
  have hold : ∀ {id other : Id32}, entry.Begun id other → id ≠ request.requestId := by
    rintro id other ⟨pending, hpending, -⟩ rfl
    exact hnew (Std.TreeMap.isSome_getElem?_iff_mem.mp (by rw [hpending]; rfl))
  refine ⟨h.same, h.configId, h.version, ?_, ?_, ?_, ?_, ?_, h.cancelled, ?_, ?_⟩
  · simp only [GuardianMachine.begun, GuardianEntry.withPending, h.nonces]
  · intro id
    simp only [GuardianMachine.begun, GuardianEntry.withPending, Finset.mem_insert,
      Std.TreeMap.mem_insert, Std.compare_eq_iff_eq, h.seen id, @eq_comm _ id]
  · intro id pending hpending
    rcases getElem?_insert_iff.mp hpending with ⟨rfl, rfl⟩ | ⟨hid, hbefore⟩
    · exact ⟨_, getElem?_insert_iff.mpr (Or.inl ⟨rfl, rfl⟩), rfl, rfl, rfl⟩
    · obtain ⟨found, hfound, hmatches⟩ := h.pending id pending hbefore
      exact ⟨found, getElem?_insert_iff.mpr (Or.inr ⟨hid, hfound⟩), hmatches⟩
  · intro id hpending
    obtain ⟨hid, habsent⟩ := getElem?_insert_eq_none_iff.mp hpending
    exact getElem?_insert_eq_none_iff.mpr ⟨hid, h.absent id habsent⟩
  · intro id other hreleased
    have hbefore := h.released id other hreleased
    exact (hbegun (hold hbefore)).mpr hbefore
  · intro id other hrecorded
    refine (h.recorded id other hrecorded).imp_right fun ⟨another, hanother, hne⟩ => ?_
    exact ⟨another, (hbegun (hold hanother)).mpr hanother, hne⟩
  · intro id other another hcancelled hanother
    have hid : id ≠ request.requestId := by
      rintro rfl
      cases hlive.symm.trans hcancelled
    exact h.agreed id other another hcancelled ((hbegun hid).mp hanother)

/-- A cancellation that the entry records. -/
theorem recordedNow (h : Simulates crypto policy entry machine log)
    (hadmits : AdmitsCancel entry requestId digest)
    (hmachine : machine.cancelled[requestId]? = some digest ∨
      ∃ other, entry.Begun requestId other ∧ other ≠ digest) :
    Simulates crypto policy
      { entry with cancelled := entry.cancelled.insert requestId digest } machine log := by
  refine ⟨h.same, h.configId, h.version, h.nonces, h.seen, h.pending, h.absent, h.released, ?_, ?_,
    h.agreed⟩
  · intro id other hcancelled
    rcases h.cancelled id other hcancelled with hbefore | hafter
    · refine Or.inl (getElem?_insert_iff.mpr ?_)
      by_cases hid : id = requestId
      · subst hid
        exact Or.inl ⟨rfl, hadmits.2 other hbefore⟩
      · exact Or.inr ⟨hid, hbefore⟩
    · exact Or.inr hafter
  · intro id other hrecorded
    rcases getElem?_insert_iff.mp hrecorded with ⟨rfl, rfl⟩ | ⟨-, hbefore⟩
    · exact hmachine
    · exact h.recorded id other hbefore

/-- A cancellation that the machine accepts anew, whether or not the entry records it. -/
theorem buriedNow (h : Simulates crypto policy entry machine log)
    (hnone : machine.cancelled[requestId]? = none)
    (hsame : ∀ other, entry.Begun requestId other → other = digest)
    {table : Std.TreeMap Id32 Id32}
    (hkept : ∀ id other : Id32, entry.cancelled[id]? = some other → table[id]? = some other)
    (hnew : ∀ id other : Id32, table[id]? = some other →
      entry.cancelled[id]? = some other ∨ id = requestId ∧ other = digest)
    (hentry : table[requestId]? = some digest ∨ entry.released[requestId]? = some digest ∧
      ∃ x ∈ log, x.Cancels crypto requestId digest) :
    Simulates crypto policy { entry with cancelled := table } (machine.buried requestId digest)
      log := by
  obtain ⟨marked, hmarked, hcancelled, hburied⟩ : ∃ marked, Simulates crypto policy entry marked log ∧
      marked.cancelled = machine.cancelled ∧ machine.buried requestId digest =
        { marked with cancelled := marked.cancelled.insert requestId digest } := by
    cases hfound : machine.pending[requestId]? with
    | none => exact ⟨machine, h, rfl, by simp [GuardianMachine.buried, hfound]⟩
    | some found =>
      exact ⟨machine.withState requestId found .cancelled, h.retouched (.moved hfound), rfl,
        by simp [GuardianMachine.buried, hfound]⟩
  rw [hburied]
  refine ⟨hmarked.same, hmarked.configId, hmarked.version, hmarked.nonces, hmarked.seen,
    hmarked.pending, hmarked.absent, hmarked.released, ?_, ?_, ?_⟩
  · intro id other hfound
    rcases getElem?_insert_iff.mp hfound with ⟨rfl, rfl⟩ | ⟨-, hbefore⟩
    · exact hentry
    · exact (hmarked.cancelled id other hbefore).imp_left (hkept id other)
  · intro id other hrecorded
    rcases hnew id other hrecorded with hold | ⟨rfl, rfl⟩
    · rcases hmarked.recorded id other hold with hbefore | hother
      · refine Or.inl (getElem?_insert_iff.mpr (Or.inr ⟨?_, hbefore⟩))
        rintro rfl
        rw [hcancelled, hnone] at hbefore
        cases hbefore
      · exact Or.inr hother
    · exact Or.inl (getElem?_insert_iff.mpr (Or.inl ⟨rfl, rfl⟩))
  · intro id other another hfound hanother
    rcases getElem?_insert_iff.mp hfound with ⟨rfl, rfl⟩ | ⟨-, hbefore⟩
    · exact hsame another hanother
    · exact hmarked.agreed id other another hbefore hanother

/-- Material that the entry gives out. -/
theorem releasedNow (h : Simulates crypto policy entry machine log)
    (hbegun : entry.Begun requestId digest) :
    Simulates crypto policy
      { entry with released := entry.released.insert requestId digest } machine log := by
  refine ⟨h.same, h.configId, h.version, h.nonces, h.seen, h.pending, h.absent, ?_, ?_, h.recorded,
    h.agreed⟩
  · intro id other hreleased
    rcases getElem?_insert_iff.mp hreleased with ⟨rfl, rfl⟩ | ⟨-, hbefore⟩
    · exact hbegun
    · exact h.released id other hbefore
  · intro id other hcancelled
    refine (h.cancelled id other hcancelled).imp_right fun ⟨hreleased, hcancels⟩ => ⟨?_, hcancels⟩
    refine getElem?_insert_iff.mpr ?_
    by_cases hid : id = requestId
    · subst hid
      exact Or.inl ⟨rfl, begun_unique (h.released id other hreleased) hbegun⟩
    · exact Or.inr ⟨hid, hreleased⟩

theorem begun_pending (hbegun : entry.Begun requestId digest) : requestId ∈ entry.pending := by
  obtain ⟨pending, hpending, -⟩ := hbegun
  exact Std.TreeMap.isSome_getElem?_iff_mem.mp (by rw [hpending]; rfl)

/-- What lets a Begin in on one side lets it in on the other. -/
theorem admits_begin_iff (h : Simulates crypto policy entry machine log)
    (huntangled : request.requestId ∉ entry.pending → request.nonce ∉ entry.seenNonces →
      ∀ cancelled ∈ entry.cancelled[request.requestId]?, cancelled = digest) :
    AdmitsBegin entry request digest ↔ machine.cancelled[request.requestId]? = none ∧
      request.requestId ∉ machine.seen ∧ request.nonce ∉ machine.seenNonces := by
  rw [h.seen, h.nonces, AdmitsBegin]
  constructor
  · rintro ⟨hlive, hnew, hnonce⟩
    refine ⟨?_, hnew, hnonce⟩
    by_contra hsome
    obtain ⟨recorded, hrecorded⟩ := Option.ne_none_iff_exists'.mp hsome
    rcases h.cancelled _ _ hrecorded with hbefore | ⟨hreleased, -⟩
    · exact hlive (huntangled hnew hnonce recorded hbefore ▸ hbefore)
    · exact hnew (begun_pending (h.released _ _ hreleased))
  · rintro ⟨hnone, hnew, hnonce⟩
    refine ⟨fun hcancelled => ?_, hnew, hnonce⟩
    rcases h.recorded _ _ hcancelled with hbefore | ⟨other, hother, -⟩
    · cases hnone.symm.trans hbefore
    · exact hnew (begun_pending hother)

theorem begin_step (h : Simulates crypto policy entry machine log)
    {certificate : BeginRecoveryCertificate}
    (hdigest : requestDigest crypto certificate.request = .ok digest)
    (hvalid : validateBeginForPolicy crypto certificate policy call.wallNow = .ok ())
    (huntangled : certificate.request.requestId ∉ entry.pending →
      certificate.request.nonce ∉ entry.seenNonces →
      ∀ cancelled ∈ entry.cancelled[certificate.request.requestId]?, cancelled = digest)
    {answer : Option MailboxResponse}
    (hserved : MailboxServed crypto call entry (.guardianBegin certificate) answer entry')
    (haccepted : AdmitsBegin entry certificate.request digest → answer ≠ none) {fed : Bool × GuardianMachine}
    (hfed : machine.feed policy.minimumRecoveryDelay call digest (.guardianBegin certificate) = fed) :
    ((∃ notBefore, answer = some (.beginAccepted notBefore)) → fed.1 = true) ∧
      Simulates crypto policy entry' fed.2 log := by
  have hadmits := h.admits_begin_iff huntangled
  have hfeed := @GuardianMachine.feed_begin machine call digest certificate policy
    policy.minimumRecoveryDelay (validateBeginForPolicy_fresh hvalid) h.configId h.version
  rw [← hadmits, hfed] at hfeed
  cases hserved with
  | refused =>
    obtain ⟨hadmitted, -⟩ | ⟨-, rfl⟩ := hfeed
    · exact absurd rfl (haccepted hadmitted)
    · exact ⟨by simp, h⟩
  | begun hdigest' hlive hnew hnonce =>
    rw [hdigest] at hdigest'
    cases hdigest'
    have hadmitted : AdmitsBegin entry certificate.request digest := ⟨hlive, hnew, hnonce⟩
    obtain ⟨-, rfl⟩ | ⟨hrefused, -⟩ := hfeed
    · exact ⟨fun _ => rfl, h.begun hnew (hadmits.mp hadmitted).1⟩
    · exact absurd hadmitted hrefused

theorem cancel_step (h : Simulates crypto policy entry machine log)
    {cancellation : OwnerCancelCertificate}
    (hdigest : requestDigest crypto request = .ok digest)
    (huntangled : entry.Begun request.requestId digest →
      entry.released[request.requestId]? ≠ some digest →
        ∀ cancelled ∈ entry.cancelled[request.requestId]?, cancelled = digest)
    {answer : Option MailboxResponse}
    (hserved : MailboxServed crypto call entry (.guardianCancel request cancellation) answer entry')
    (haccepted : AdmitsCancel entry request.requestId digest → answer ≠ none)
    {fed : Bool × GuardianMachine}
    (hfed : machine.feed policy.minimumRecoveryDelay call digest
      (.guardianCancel request cancellation) = fed)
    (hx : x.Cancels crypto request.requestId digest) :
    (entry.Begun request.requestId digest → entry.released[request.requestId]? ≠ some digest →
      ∃ ack, answer = some (.cancellationAccepted ack)) ∧
      Simulates crypto policy entry' fed.2 (log ++ [x]) := by
  have hmore := h.more x
  cases hserved with
  | refused =>
    have hrefused : ¬AdmitsCancel entry request.requestId digest := fun hadmits =>
      haccepted hadmits rfl
    refine ⟨fun hbegun hunreleased =>
      absurd ⟨hunreleased, huntangled hbegun hunreleased⟩ hrefused, ?_⟩
    cases hrecorded : machine.cancelled[request.requestId]? with
    | some recorded =>
      rw [GuardianMachine.feed_cancel_recorded hrecorded] at hfed
      subst hfed
      exact hmore
    | none =>
      by_cases hreleased : entry.released[request.requestId]? = some digest
      · -- the owner comes too late for the mailbox, not for the machine
        have hbegun := h.released _ _ hreleased
        rw [GuardianMachine.feed_cancel_new hrecorded] at hfed
        · subst hfed
          exact hmore.buriedNow hrecorded (fun other hother => begun_unique hother hbegun)
            (fun _ _ hbefore => hbefore) (fun _ _ hbefore => Or.inl hbefore)
            (Or.inr ⟨hreleased, x, by simp, hx⟩)
        · intro found hfound
          exact begun_unique (h.begun_iff.mpr ⟨found, hfound, rfl⟩) hbegun
      · -- another cancellation stands in the way; it can only have come after the Begin
        obtain ⟨cancelled, hcancelled, hne⟩ : ∃ cancelled,
            entry.cancelled[request.requestId]? = some cancelled ∧ cancelled ≠ digest := by
          by_contra hnone
          push Not at hnone
          exact hrefused ⟨hreleased, hnone⟩
        rcases h.recorded _ _ hcancelled with hmachine | ⟨other, hother, -⟩
        · cases hrecorded.symm.trans hmachine
        · obtain ⟨found, hfound, hfoundDigest⟩ := h.begun_iff.mp hother
          have hdiffers : found.requestDigest ≠ digest := by
            rintro rfl
            rw [← hfoundDigest] at hother
            exact hne (huntangled hother hreleased cancelled hcancelled)
          rw [GuardianMachine.feed_cancel_other hrecorded hfound hdiffers] at hfed
          subst hfed
          exact hmore
  | cancelled hdigest' hunreleased hsame =>
    rw [hdigest] at hdigest'
    cases hdigest'
    have hadmits : AdmitsCancel entry request.requestId digest := ⟨hunreleased, hsame⟩
    refine ⟨fun _ _ => ⟨_, rfl⟩, ?_⟩
    cases hrecorded : machine.cancelled[request.requestId]? with
    | some recorded =>
      rw [GuardianMachine.feed_cancel_recorded hrecorded] at hfed
      subst hfed
      refine hmore.recordedNow hadmits ?_
      rcases h.cancelled _ _ hrecorded with hbefore | ⟨hreleased, -⟩
      · exact Or.inl (hsame recorded hbefore ▸ hrecorded)
      · refine Or.inr ⟨recorded, h.released _ _ hreleased, ?_⟩
        rintro rfl
        exact hunreleased hreleased
    | none =>
      by_cases hother : ∃ other, entry.Begun request.requestId other ∧ other ≠ digest
      · obtain ⟨other, hbegun, hne⟩ := hother
        obtain ⟨found, hfound, rfl⟩ := h.begun_iff.mp hbegun
        rw [GuardianMachine.feed_cancel_other hrecorded hfound hne] at hfed
        subst hfed
        exact hmore.recordedNow hadmits (Or.inr ⟨_, hbegun, hne⟩)
      · push Not at hother
        rw [GuardianMachine.feed_cancel_new hrecorded] at hfed
        · subst hfed
          refine hmore.buriedNow hrecorded hother (fun id other hbefore => ?_) (fun id other hnow => ?_)
            (Or.inl (getElem?_insert_iff.mpr (Or.inl ⟨rfl, rfl⟩)))
          · refine getElem?_insert_iff.mpr ?_
            by_cases hid : id = request.requestId
            · subst hid
              exact Or.inl ⟨rfl, hsame other hbefore⟩
            · exact Or.inr ⟨hid, hbefore⟩
          · exact (getElem?_insert_iff.mp hnow).symm.imp_left And.right
        · intro found hfound
          exact hother _ (h.begun_iff.mpr ⟨found, hfound, rfl⟩)

theorem release_step (h : Simulates crypto policy entry machine log)
    {release : ReleaseCertificate} (hdigest : requestDigest crypto request = .ok digest)
    (huntangled : entry.released[request.requestId]? = some digest →
      ∀ x ∈ log, ¬x.Cancels crypto request.requestId digest)
    {answer : Option MailboxResponse}
    (hserved : MailboxServed crypto call entry (.guardianRelease request release) answer entry')
    {fed : Bool × GuardianMachine}
    (hfed : machine.feed policy.minimumRecoveryDelay call digest
      (.guardianRelease request release) = fed) :
    ((∃ contribution, answer = some (.guardianContribution contribution)) → fed.1 = true) ∧
      Simulates crypto policy entry' fed.2 log := by
  have hretouched := h.retouched (@GuardianMachine.feed_release_retouched machine call digest request
    policy.minimumRecoveryDelay release)
  rw [hfed] at hretouched
  cases hserved with
  | refused => exact ⟨by simp, hretouched⟩
  | releaseRefused => exact ⟨by simp, hretouched⟩
  | @released _ _ _ contribution pending hdigest' hlive hpasses =>
    rw [hdigest] at hdigest'
    cases hdigest'
    have hbegun : entry.Begun request.requestId digest := ⟨pending, hpasses.found, hpasses.digest⟩
    refine ⟨fun _ => ?_, hretouched.releasedNow hbegun⟩
    obtain ⟨found, hfound, hmatches⟩ := h.pending _ _ hpasses.found
    rw [← hfed]
    refine GuardianMachine.feed_release_accepts ?_ hfound (hmatches.digest.trans hpasses.digest)
      (hmatches.expiry ▸ hpasses.unexpired) ?_
    · by_contra hsome
      obtain ⟨recorded, hrecorded⟩ := Option.ne_none_iff_exists'.mp hsome
      have hsame := h.agreed _ _ _ hrecorded hbegun
      subst hsame
      rcases h.cancelled _ _ hrecorded with hbefore | ⟨hreleased, x, hx, hcancels⟩
      · exact hlive hbefore
      · exact huntangled hreleased x hx hcancels
    · rw [hmatches.notBefore, ← h.same]
      exact hpasses.due

end Simulates

/-! ### Runs -/

variable {policy : GuardianPolicy} {provision : GuardianProvision}

theorem validateOwnerCancelForPolicy_digest {certificate : OwnerCancelCertificate} {now : UInt64}
    (h : validateOwnerCancelForPolicy crypto certificate policy request now = .ok ()) :
    ∃ digest, requestDigest crypto request = .ok digest := by
  simp only [validateOwnerCancelForPolicy, Checks.bind_eq_ok] at h
  obtain ⟨-, -, digest, hdigest, -⟩ := h
  exact ⟨digest, hdigest⟩

/-- What both sides remember, and that every request so far was refined. -/
def Refined (crypto : Crypto) (policy : GuardianPolicy) (state : GuardianEntry × GuardianMachine)
    (log : List MailboxExchange) : Prop :=
  Simulates crypto policy state.1 state.2 log ∧ ∀ x ∈ log, x.Refines crypto

theorem Refined.concat {state : GuardianEntry × GuardianMachine} {x : MailboxExchange}
    (h : ∀ y ∈ log, y.Refines crypto) (hsimulates : Simulates crypto policy state.1 state.2 (log ++ [x]))
    (hx : x.Refines crypto) : Refined crypto policy state (log ++ [x]) := by
  refine ⟨hsimulates, fun y hy => ?_⟩
  rcases List.mem_append.mp hy with hold | hnew
  · exact h y hold
  · rwa [List.mem_singleton.mp hnew]

/-- The exchange of a request that has a digest. -/
def exchanged (crypto : Crypto) (corruptContribution : Bool) (entry : GuardianEntry)
    (machine : GuardianMachine) (event : MailboxEvent) (accepted : Bool) : MailboxExchange :=
  ⟨entry, machine, event,
    (guardianMailbox crypto corruptContribution event.call event.action).returned entry, accepted⟩

theorem sideBySide_step {event : MailboxEvent} {fed : Bool × GuardianMachine}
    (hdigest : requestDigest crypto event.action.request = .ok digest)
    (hfed : machine.feed entry.provision.record.policy.minimumRecoveryDelay event.call digest
      event.action = fed) :
    (sideBySide crypto corruptContribution).step (entry, machine) event =
      (((guardianMailbox crypto corruptContribution event.call event.action).final entry, fed.2),
        some (exchanged crypto corruptContribution entry machine event fed.1)) := by
  subst hfed
  simp only [sideBySide, exchanged, hdigest]

theorem sideBySide_step_refused {event : MailboxEvent} {e : String}
    (hdigest : requestDigest crypto event.action.request = .error e) :
    (sideBySide crypto corruptContribution).step (entry, machine) event =
      ((entry, machine), none) := by
  simp only [sideBySide, hdigest]

theorem Refined.step {state : GuardianEntry × GuardianMachine} (h : Refined crypto policy state log)
    {event : MailboxEvent} (hcertified : event.Certified crypto policy)
    (huntangled : Untangled crypto state.1 log event) :
    Refined crypto policy ((sideBySide crypto corruptContribution).step state event).1
      (log ++ ((sideBySide crypto corruptContribution).step state event).2.toList) := by
  obtain ⟨entry, machine⟩ := state
  obtain ⟨hsimulates, hrefined⟩ := h
  have hsame : entry.provision.record.policy = policy := hsimulates.same
  cases hdigest : requestDigest crypto event.action.request with
  | error e =>
    rw [sideBySide_step_refused hdigest]
    simpa [Refined] using ⟨hsimulates, hrefined⟩
  | ok digest =>
    have hmeets := huntangled digest hdigest
    generalize hfed : machine.feed entry.provision.record.policy.minimumRecoveryDelay event.call
      digest event.action = fed
    rw [sideBySide_step hdigest hfed]
    rw [hsame] at hfed
    have hserved : MailboxServed crypto event.call entry event.action
        ((guardianMailbox crypto corruptContribution event.call event.action).returned entry)
        ((guardianMailbox crypto corruptContribution event.call event.action).final entry) :=
      mailbox_served event.action
    obtain ⟨call, action⟩ := event
    cases action with
    | guardianBegin certificate =>
      have hvalid := hcertified
      simp only [MailboxEvent.Certified, ← hsame] at hvalid
      obtain ⟨haccepts, hnext⟩ := hsimulates.begin_step hdigest hcertified hmeets hserved
        (begin_accepted hdigest hvalid) hfed
      exact Refined.concat hrefined (hnext.more _) haccepts
    | guardianCancel request cancellation =>
      have hvalid := hcertified
      simp only [MailboxEvent.Certified, ← hsame] at hvalid
      obtain ⟨haccepts, hnext⟩ := @Simulates.cancel_step crypto entry _ machine log call digest request
        policy (exchanged crypto corruptContribution entry machine
          ⟨call, .guardianCancel request cancellation⟩ fed.1)
        hsimulates cancellation hdigest hmeets _ hserved (cancel_accepted hdigest hvalid) fed hfed
        ⟨request, cancellation, rfl, rfl, hdigest⟩
      refine Refined.concat hrefined hnext fun other hother hbegun hunreleased _ => ?_
      cases hdigest.symm.trans hother
      exact haccepts hbegun hunreleased
    | guardianRelease request release =>
      obtain ⟨haccepts, hnext⟩ := hsimulates.release_step hdigest hmeets hserved hfed
      exact Refined.concat hrefined (hnext.more _) haccepts
    | signerApprove request => exact hcertified.elim
    | signerRelease request => exact hcertified.elim

/-- The exchanges of a run of both from one provision. -/
def sideBySideLog (crypto : Crypto) (corruptContribution : Bool) (provision : GuardianProvision)
    (events : List MailboxEvent) : List MailboxExchange :=
  (sideBySide crypto corruptContribution).outputs (sideBySideStart provision) events

/-- Certified requests that keep one id to one transcript, and do not release what was cancelled
after its release, are accepted by the mailbox as its machine would. -/
theorem mailbox_refines_machine {events : List MailboxEvent}
    (hcertified : ∀ event ∈ events, event.Certified crypto provision.record.policy)
    (huntangled : (sideBySide crypto corruptContribution).Along
      (fun state log event => Untangled crypto state.1 log event) (sideBySideStart provision) []
      events) :
    ∀ x ∈ sideBySideLog crypto corruptContribution provision events, x.Refines crypto := by
  have hstart : Refined crypto provision.record.policy (sideBySideStart provision) [] :=
    ⟨simulates_start provision, by simp⟩
  have hrun := Machine.run_invariant (sideBySide crypto corruptContribution) hstart
    (fun _ _ _ hrefined hevent => hrefined.step hevent.1 hevent.2)
    ((Machine.along_of_forall _ hcertified _ _).and huntangled)
  exact hrun.2

/-! ### The small deployment -/

def sampleMailboxEvent (now : UInt64) (action : MailboxRequest) : MailboxEvent :=
  ⟨⟨now, now, "boot"⟩, action⟩

/-- A recovery that is begun and cancelled. -/
def sampleUntangled : List MailboxEvent :=
  [sampleMailboxEvent 6 (sampleMailboxBegin 91), sampleMailboxEvent 21 (sampleMailboxCancel 91)]

/-- One id, cancelled for one transcript and begun for another. -/
def sampleTangled : List MailboxEvent :=
  [sampleMailboxEvent 6 (sampleMailboxCancel 91), sampleMailboxEvent 7 (sampleMailboxBegin 92)]

example : sampleMailboxDigest 91 ≠ sampleMailboxDigest 92 := by
  decide +kernel

instance (crypto : Crypto) (policy : GuardianPolicy) (event : MailboxEvent) :
    Decidable (event.Certified crypto policy) :=
  match event with
  | ⟨call, .guardianBegin certificate⟩ => inferInstanceAs (Decidable
      (validateBeginForPolicy crypto certificate policy call.wallNow = .ok ()))
  | ⟨call, .guardianCancel request certificate⟩ => inferInstanceAs (Decidable
      (validateOwnerCancelForPolicy crypto certificate policy request call.wallNow = .ok ()))
  | ⟨call, .guardianRelease request certificate⟩ => inferInstanceAs (Decidable
      (validateReleaseForPolicy crypto certificate policy request call.wallNow = .ok ()))
  | ⟨_, .signerApprove _⟩ => inferInstanceAs (Decidable False)
  | ⟨_, .signerRelease _⟩ => inferInstanceAs (Decidable False)

theorem sampleUntangled_certified :
    ∀ event ∈ sampleUntangled, event.Certified Crypto.transparent sampleMailboxPolicy := by
  decide +kernel

theorem sampleUntangled_along : (sideBySide Crypto.transparent false).Along
    (fun state log event => Untangled Crypto.transparent state.1 log event)
    (sideBySideStart (sampleMailbox 0)) [] sampleUntangled := by
  refine ⟨fun _ _ _ _ cancelled hcancelled => ?_, fun _ _ _ _ cancelled hcancelled => ?_, trivial⟩
  · simp [sideBySideStart, GuardianEntry.new] at hcancelled
  · -- a Begin records no cancellation
    have hnone : ((sideBySide Crypto.transparent false).step (sideBySideStart (sampleMailbox 0))
        (sampleMailboxEvent 6 (sampleMailboxBegin 91))).1.1.cancelled[(90 : Id32)]? = none := by
      decide +kernel
    cases hnone.symm.trans hcancelled

theorem mailbox_refines_machine_sample :
    (sideBySideLog Crypto.transparent false (sampleMailbox 0) sampleUntangled).length = 2 ∧
      ∀ x ∈ sideBySideLog Crypto.transparent false (sampleMailbox 0) sampleUntangled,
        x.Refines Crypto.transparent :=
  ⟨by decide +kernel, mailbox_refines_machine sampleUntangled_certified sampleUntangled_along⟩

/-- What the mailbox and the machine say to a Begin. -/
def begunOnly (x : MailboxExchange) : Bool :=
  match x.event.action, x.answer with
  | .guardianBegin _, some (.beginAccepted _) => !x.accepted
  | _, _ => false

theorem not_refines_of_begunOnly {x : MailboxExchange} (h : begunOnly x = true) :
    ¬x.Refines crypto := by
  intro hrefines
  unfold begunOnly at h
  unfold MailboxExchange.Refines at hrefines
  split at h
  · next haction hanswer =>
    rw [haction] at hrefines
    simp [hrefines ⟨_, hanswer⟩] at h
  · cases h

/-- The mailbox begins a recovery that the machine rejects. -/
theorem mailbox_parts_from_machine :
    ¬∀ (crypto : Crypto) (corruptContribution : Bool) (provision : GuardianProvision)
      (events : List MailboxEvent),
      (∀ event ∈ events, event.Certified crypto provision.record.policy) →
        (∃ bootId, ∀ event ∈ events, event.call.bootId = bootId) →
        ∀ x ∈ sideBySideLog crypto corruptContribution provision events, x.Refines crypto := by
  intro hrefines
  have hcertified : ∀ event ∈ sampleTangled,
      event.Certified Crypto.transparent (sampleMailbox 0).record.policy := by decide +kernel
  have hboot : ∀ event ∈ sampleTangled, event.call.bootId = "boot" := by decide
  have hparts : ∃ x ∈ sideBySideLog Crypto.transparent false (sampleMailbox 0) sampleTangled,
      begunOnly x = true := by decide +kernel
  obtain ⟨x, hx, hbegun⟩ := hparts
  exact not_refines_of_begunOnly hbegun
    (hrefines Crypto.transparent false (sampleMailbox 0) sampleTangled hcertified ⟨_, hboot⟩ x hx)

end MasterRecovery
