import MasterRecovery.GuardianMailbox
import MasterRecovery.SignerSteps
import MasterRecovery.WireBinding

/-!
# What a mailbox request does

Each request is inverted once: the answer that goes out, what it rested on in the entry, and the
entry it leaves. A refused request leaves the entry as it was.
-/

namespace MasterRecovery
open Checks Transcript Act

variable {crypto : Crypto} {corruptContribution : Bool} {call : MailboxCall}
  {entry entry' : GuardianEntry} {policy : GuardianPolicy} {request : RecoveryRequest}
  {digest : Id32}

theorem onFresh_eq_ok {α : Type} {machine : GuardianMachine} {x : GuardianMachine.Call α}
    {out : α × GuardianMachine} : onFresh machine x = .ok out ↔ x machine = .ok out.1 out.2 := by
  obtain ⟨value, machine'⟩ := out
  cases hx : x machine <;> simp [onFresh, hx]

/-- What a Begin of its configuration and in its lifetime must still pass. -/
theorem beginChecks_iff {machine : GuardianMachine} {wallNow : UInt64}
    (hfresh : ¬StaleRequest policy request wallNow) (hid : machine.configId = policy.configId)
    (hversion : machine.currentVersion = policy.configVersion) :
    machine.beginChecks request digest wallNow true = .ok () ↔
      machine.cancelled[request.requestId]? = none ∧ request.requestId ∉ machine.seen ∧
        request.nonce ∉ machine.seenNonces := by
  simp only [StaleRequest, not_or, ne_eq, not_not] at hfresh
  obtain ⟨hprotocol, hconfig, hconfigVersion, -, hrequested, hexpiry⟩ := hfresh
  simp only [GuardianMachine.beginChecks, GuardianMachine.validateRequest, bind_unit_eq_ok,
    bailIf_eq_ok, not_or, ne_eq, not_not, Bool.true_eq_false, not_false_iff]
  cases hcancelled : machine.cancelled[request.requestId]? with
  | some cancelledDigest => simp
  | none => simp [hprotocol, hconfig, hconfigVersion, hid, hversion, hrequested, hexpiry]

/-- A new machine begins whatever is of its configuration and in its lifetime. -/
theorem onFresh_beginAt (digest : Id32) (hfresh : ¬StaleRequest policy request call.wallNow)
    (monotonicNow delay : UInt64) :
    onFresh (.new policy.configId policy.configVersion)
        (GuardianMachine.beginAt request digest call.wallNow monotonicNow delay true) =
      .ok (saturatingAdd monotonicNow delay,
        GuardianMachine.begun request digest monotonicNow (saturatingAdd monotonicNow delay)
          (.new policy.configId policy.configVersion)) := by
  have hchecks : (GuardianMachine.new policy.configId policy.configVersion).beginChecks request
      digest call.wallNow true = .ok () :=
    (beginChecks_iff hfresh rfl rfl).mpr (by simp [GuardianMachine.new])
  rw [onFresh_eq_ok]
  simp only [GuardianMachine.beginAt, hchecks]

theorem validateBeginForPolicy_fresh {certificate : BeginRecoveryCertificate} {now : UInt64}
    (h : validateBeginForPolicy crypto certificate policy now = .ok ()) :
    ¬StaleRequest policy certificate.request now := by
  simp only [validateBeginForPolicy, bind_unit_eq_ok, bailIf_eq_ok] at h
  exact h.1

theorem validateOwnerCancelForPolicy_transcript {certificate : OwnerCancelCertificate}
    {now : UInt64} (h : validateOwnerCancelForPolicy crypto certificate policy request now = .ok ()) :
    ∃ transcript, Wire.ownerCancel certificate = .ok transcript := by
  simp only [validateOwnerCancelForPolicy, Checks.bind_eq_ok, exists_const, bailIf_eq_ok,
    wire_eq_ok] at h
  obtain ⟨-, digest, -, -, transcript, htranscript, -⟩ := h
  exact ⟨transcript, htranscript⟩

theorem succeeds_ownerCancelAck (ack : OwnerCancelAck) : Wire.Succeeds (Wire.ownerCancelAck ack) :=
  (((((((Wire.succeeds_domain _ (by decide)).append (Wire.succeeds_u16 _)).append
    (Wire.succeeds_id32 _)).append (Wire.succeeds_u64 _)).append (Wire.succeeds_id32 _)).append
    (Wire.succeeds_id32 _)).append (Wire.succeeds_id32 _)).append (Wire.succeeds_u16 _)

/-- What the pending request of a Release satisfies. -/
structure ReleasePasses (call : MailboxCall) (entry : GuardianEntry) (request : RecoveryRequest)
    (digest : Id32) (pending : PendingNetworkRecovery) : Prop where
  found : entry.pending[request.requestId]? = some pending
  boot : pending.bootId = call.bootId
  digest : pending.requestDigest = digest
  unexpired : call.wallNow < pending.request.expiry
  due : saturatingAdd pending.startedMonotonic
    entry.provision.record.policy.minimumRecoveryDelay ≤ call.monotonicNow

/-- The machine a pending request is rebuilt in authorizes nothing else. -/
theorem authorizeReleaseAt_begun {machine machine' : GuardianMachine} {found : RecoveryRequest}
    {foundDigest requestId : Id32} {wallNow monotonicNow startedMonotonic notBefore : UInt64} {u : Unit}
    (hempty : machine.pending = ∅)
    (h : GuardianMachine.authorizeReleaseAt requestId digest wallNow monotonicNow true true
      (machine.begun found foundDigest startedMonotonic notBefore) = .ok u machine') :
    foundDigest = digest ∧ wallNow < found.expiry ∧ notBefore ≤ monotonicNow := by
  unfold GuardianMachine.authorizeReleaseAt at h
  split at h
  · cases h
  · simp only [Bool.true_eq_false, or_self, if_false] at h
    split at h
    · cases h
    · next pending hpending =>
      have hsame : requestId = found.requestId ∧ pending = _ ∨ _ :=
        getElem?_insert_iff.mp hpending
      rcases hsame with ⟨-, rfl⟩ | ⟨-, hother⟩
      · split at h
        · cases h
        · next hdigest =>
          split at h
          · cases h
          · next hexpiry =>
            split at h
            · cases h
            · next hdue =>
              exact ⟨not_not.mp hdigest, UInt64.not_le.mp hexpiry, UInt64.not_lt.mp hdue⟩
      · simp [hempty] at hother

theorem beginAt_eq_ok {machine machine' : GuardianMachine} {wallNow monotonicNow delay notBefore : UInt64}
    (h : GuardianMachine.beginAt request digest wallNow monotonicNow delay true machine =
      .ok notBefore machine') :
    notBefore = saturatingAdd monotonicNow delay ∧
      machine' = machine.begun request digest monotonicNow notBefore := by
  unfold GuardianMachine.beginAt at h
  split at h
  · cases h
  · cases h
    exact ⟨rfl, rfl⟩

theorem mailboxReleaseChecks_eq_ok {certificate : ReleaseCertificate}
    (h : mailboxReleaseChecks crypto call entry request certificate digest = .ok ()) :
    ∃ pending, ReleasePasses call entry request digest pending := by
  simp only [mailboxReleaseChecks, Checks.bind_eq_ok, exists_const, okOr_eq_ok, bailIf_eq_ok,
    ne_eq, not_not, onFresh_eq_ok] at h
  obtain ⟨_, -, pending, hfound, hboot, out, hbegun, out', hauthorized, -⟩ := h
  obtain ⟨hnotBefore, hmachine⟩ := beginAt_eq_ok hbegun
  rw [hmachine] at hauthorized
  obtain ⟨hdigest, hexpiry, hdue⟩ := authorizeReleaseAt_begun rfl hauthorized
  exact ⟨pending, hfound, hboot, hdigest, hexpiry, hnotBefore ▸ hdue⟩

/-- The entry with a begun request. -/
def GuardianEntry.withPending (request : RecoveryRequest) (digest : Id32) (call : MailboxCall)
    (entry : GuardianEntry) : GuardianEntry :=
  { entry with
    seenNonces := insert request.nonce entry.seenNonces
    pending := entry.pending.insert request.requestId
      { request := request
        requestDigest := digest
        acceptedWallTime := call.wallNow
        startedMonotonic := call.monotonicNow
        notBeforeMonotonic := saturatingAdd call.monotonicNow
          entry.provision.record.policy.minimumRecoveryDelay
        bootId := call.bootId } }

/-- What a request is answered with, if it is, and the entry it leaves. -/
inductive MailboxServed (crypto : Crypto) (call : MailboxCall) (entry : GuardianEntry) :
    MailboxRequest → Option MailboxResponse → GuardianEntry → Prop
  | refused {action : MailboxRequest} : MailboxServed crypto call entry action none entry
  | releaseRefused {request : RecoveryRequest} {certificate : ReleaseCertificate} {digest : Id32}
    (hdigest : requestDigest crypto request = .ok digest)
    (hcancelled : entry.cancelled[request.requestId]? = some digest) :
    MailboxServed crypto call entry (.guardianRelease request certificate)
      (some (.releaseRefused "cancelled")) entry
  | begun {certificate : BeginRecoveryCertificate} {digest : Id32}
    (hdigest : requestDigest crypto certificate.request = .ok digest)
    (hlive : entry.cancelled[certificate.request.requestId]? ≠ some digest)
    (hnew : certificate.request.requestId ∉ entry.pending)
    (hnonce : certificate.request.nonce ∉ entry.seenNonces) :
    MailboxServed crypto call entry (.guardianBegin certificate)
      (some (.beginAccepted (saturatingAdd call.monotonicNow
        entry.provision.record.policy.minimumRecoveryDelay)))
      (entry.withPending certificate.request digest call)
  | cancelled {request : RecoveryRequest} {certificate : OwnerCancelCertificate} {digest : Id32}
    {ack : OwnerCancelAck} (hdigest : requestDigest crypto request = .ok digest)
    (hunreleased : entry.released[request.requestId]? ≠ some digest)
    (hsame : ∀ existing ∈ entry.cancelled[request.requestId]?, existing = digest)
    (hid : ack.requestId = request.requestId) (hack : ack.requestDigest = digest) :
    MailboxServed crypto call entry (.guardianCancel request certificate)
      (some (.cancellationAccepted ack))
      { entry with cancelled := entry.cancelled.insert request.requestId digest }
  | released {request : RecoveryRequest} {certificate : ReleaseCertificate} {digest : Id32}
    {contribution : GuardianContribution} {pending : PendingNetworkRecovery}
    (hdigest : requestDigest crypto request = .ok digest)
    (hlive : entry.cancelled[request.requestId]? ≠ some digest)
    (hpasses : ReleasePasses call entry request digest pending)
    (hid : contribution.requestId = request.requestId)
    (hcontribution : contribution.requestDigest = digest) :
    MailboxServed crypto call entry (.guardianRelease request certificate)
      (some (.guardianContribution contribution))
      { entry with released := entry.released.insert request.requestId digest }

/-- A valid Begin is accepted unless it was cancelled or replays an id or a nonce. -/
theorem mailboxBegin_accepts {certificate : BeginRecoveryCertificate}
    (hvalid : validateBeginForPolicy crypto certificate entry.provision.record.policy
      call.wallNow = .ok ())
    (hlive : entry.cancelled[certificate.request.requestId]? ≠ some digest)
    (hnew : certificate.request.requestId ∉ entry.pending)
    (hnonce : certificate.request.nonce ∉ entry.seenNonces) :
    mailboxBegin crypto call certificate digest entry =
      .ok (.beginAccepted (saturatingAdd call.monotonicNow
          entry.provision.record.policy.minimumRecoveryDelay))
        (entry.withPending certificate.request digest call) := by
  have hbegun := onFresh_beginAt digest (validateBeginForPolicy_fresh hvalid) call.monotonicNow
    entry.provision.record.policy.minimumRecoveryDelay
  simp only [mailboxBegin, get_bind, check_bind_eq_ok, bailIf_eq_ok, not_or, exists_const,
    modify_bind, Act.pure_eq_ok]
  exact ⟨(), hvalid, hlive, ⟨hnew, hnonce⟩, _, hbegun, rfl, rfl⟩

theorem outcome_mailboxBegin {certificate : BeginRecoveryCertificate}
    (hdigest : requestDigest crypto certificate.request = .ok digest) :
    Outcome (MailboxServed crypto call entry (.guardianBegin certificate))
      (mailboxBegin crypto call certificate digest) entry := by
  by_cases haccepts : validateBeginForPolicy crypto certificate
      entry.provision.record.policy call.wallNow = .ok () ∧
      entry.cancelled[certificate.request.requestId]? ≠ some digest ∧
      certificate.request.requestId ∉ entry.pending ∧ certificate.request.nonce ∉ entry.seenNonces
  · obtain ⟨hvalid, hlive, hnew, hnonce⟩ := haccepts
    have hrun := mailboxBegin_accepts hvalid hlive hnew hnonce
    rw [Outcome, final_of_ok hrun, returned_eq_some.mpr ⟨_, hrun⟩]
    exact .begun hdigest hlive hnew hnonce
  · unfold mailboxBegin
    simp only [outcome_get_bind]
    refine outcome_check_bind .refused fun _ hvalid => ?_
    refine outcome_check_bind .refused fun _ hlive => ?_
    refine outcome_check_bind .refused fun _ hreplay => ?_
    rw [bailIf_eq_ok] at hlive hreplay
    rw [not_or] at hreplay
    exact absurd ⟨hvalid, hlive, hreplay.1, hreplay.2⟩ haccepts

theorem no_conflict_iff {recorded : Option Id32} :
    ¬(recorded.any fun stored => stored ≠ digest) = true ↔
      ∀ existing ∈ recorded, existing = digest := by
  cases recorded <;> simp

/-- A valid cancellation is acknowledged unless material has left or another one was recorded. -/
theorem mailboxCancel_accepts {certificate : OwnerCancelCertificate}
    (hvalid : validateOwnerCancelForPolicy crypto certificate entry.provision.record.policy request
      call.wallNow = .ok ())
    (hunreleased : entry.released[request.requestId]? ≠ some digest)
    (hsame : ∀ existing ∈ entry.cancelled[request.requestId]?, existing = digest) :
    ∃ ack, mailboxCancel crypto call request certificate digest entry =
        .ok (.cancellationAccepted ack)
          { entry with cancelled := entry.cancelled.insert request.requestId digest } ∧
      ack.requestId = request.requestId ∧ ack.requestDigest = digest := by
  obtain ⟨transcript, htranscript⟩ := validateOwnerCancelForPolicy_transcript hvalid
  obtain ⟨ackBytes, hackBytes⟩ :=
    succeeds_ownerCancelAck (mailboxCancelAck entry request digest (crypto.sha256 transcript))
  refine ⟨{ mailboxCancelAck entry request digest (crypto.sha256 transcript) with
    guardianSignature := crypto.sign entry.provision.signingSeed ackBytes }, ?_, rfl, rfl⟩
  simp only [mailboxCancel, get_bind, check_bind_eq_ok, bailIf_eq_ok, no_conflict_iff,
    exists_const, modify_bind, check_eq_ok, wire_eq_ok]
  exact ⟨(), hvalid, hunreleased, hsame, transcript, htranscript,
    signed_eq_ok.mpr ⟨ackBytes, hackBytes, rfl⟩, trivial⟩

theorem outcome_mailboxCancel {certificate : OwnerCancelCertificate}
    (hdigest : requestDigest crypto request = .ok digest) :
    Outcome (MailboxServed crypto call entry (.guardianCancel request certificate))
      (mailboxCancel crypto call request certificate digest) entry := by
  by_cases haccepts : validateOwnerCancelForPolicy crypto certificate
      entry.provision.record.policy request call.wallNow = .ok () ∧
      entry.released[request.requestId]? ≠ some digest ∧
      ∀ existing ∈ entry.cancelled[request.requestId]?, existing = digest
  · obtain ⟨hvalid, hunreleased, hsame⟩ := haccepts
    obtain ⟨ack, hrun, hid, hack⟩ := mailboxCancel_accepts hvalid hunreleased hsame
    rw [Outcome, final_of_ok hrun, returned_eq_some.mpr ⟨_, hrun⟩]
    exact .cancelled hdigest hunreleased hsame hid hack
  · unfold mailboxCancel
    simp only [outcome_get_bind]
    refine outcome_check_bind .refused fun _ hvalid => ?_
    refine outcome_check_bind .refused fun _ hunreleased => ?_
    refine outcome_check_bind .refused fun _ hconflict => ?_
    rw [bailIf_eq_ok] at hunreleased hconflict
    rw [no_conflict_iff] at hconflict
    exact absurd ⟨hvalid, hunreleased, hconflict⟩ haccepts

theorem outcome_mailboxRelease {certificate : ReleaseCertificate}
    (hdigest : requestDigest crypto request = .ok digest)
    (hlive : entry.cancelled[request.requestId]? ≠ some digest) :
    Outcome (MailboxServed crypto call entry (.guardianRelease request certificate))
      (mailboxRelease crypto corruptContribution call request certificate digest) entry := by
  unfold mailboxRelease
  simp only [outcome_get_bind]
  refine outcome_check_bind .refused fun _ hchecks => ?_
  refine outcome_check_bind .refused fun response hsigned => ?_
  obtain ⟨pending, hpasses⟩ := mailboxReleaseChecks_eq_ok hchecks
  obtain ⟨_, -, rfl⟩ := signed_eq_ok.mp hsigned
  exact .released hdigest hlive hpasses rfl rfl

/-- One request to a guardian's mailbox. -/
theorem mailbox_served (action : MailboxRequest) :
    Outcome (MailboxServed crypto call entry action)
      (guardianMailbox crypto corruptContribution call action) entry := by
  unfold guardianMailbox
  refine outcome_check_bind .refused fun digest hdigest => ?_
  simp only [outcome_get_bind]
  split
  · next hrefused =>
    obtain ⟨hrelease, hcancelled⟩ := hrefused
    cases action with
    | guardianRelease request certificate => exact .releaseRefused hdigest hcancelled
    | _ => exact hrelease.elim
  · next hserve =>
    cases action with
    | guardianBegin certificate => exact outcome_mailboxBegin hdigest
    | guardianCancel request certificate => exact outcome_mailboxCancel hdigest
    | guardianRelease request certificate =>
      exact outcome_mailboxRelease hdigest fun hcancelled => hserve ⟨trivial, hcancelled⟩
    | signerApprove request => exact .refused
    | signerRelease request => exact .refused

theorem guardianMailbox_begin {certificate : BeginRecoveryCertificate}
    (hdigest : requestDigest crypto certificate.request = .ok digest) :
    guardianMailbox crypto corruptContribution call (.guardianBegin certificate) entry =
      mailboxBegin crypto call certificate digest entry := by
  unfold guardianMailbox
  rw [show requestDigest crypto (MailboxRequest.guardianBegin certificate).request = .ok digest
    from hdigest, check_ok_bind, get_bind, if_neg (fun h => h.1)]

theorem guardianMailbox_cancel {certificate : OwnerCancelCertificate}
    (hdigest : requestDigest crypto request = .ok digest) :
    guardianMailbox crypto corruptContribution call (.guardianCancel request certificate) entry =
      mailboxCancel crypto call request certificate digest entry := by
  unfold guardianMailbox
  rw [show requestDigest crypto (MailboxRequest.guardianCancel request certificate).request =
    .ok digest from hdigest, check_ok_bind, get_bind, if_neg (fun h => h.1)]

/-- What is saved of a request and what leaves: nothing, only the entry, or both. -/
inductive MailboxSettled (store : Persisted GuardianEntry) (answer : Option MailboxResponse)
    (entry : GuardianEntry) : Persisted GuardianEntry × Option MailboxResponse → Prop
  | unsaved : MailboxSettled store answer entry ({ store with data := entry }, none)
  | unsealed : MailboxSettled store answer entry (⟨entry, entry⟩, none)
  | left : MailboxSettled store answer entry (⟨entry, entry⟩, answer)

theorem mailbox_settled {store : Persisted GuardianEntry} {action : MailboxRequest}
    (save sealed : Except String Unit) :
    ∃ answer entry, MailboxServed crypto call store.data action answer entry ∧
      MailboxSettled store answer entry (settleMailbox store save sealed
        (guardianMailbox crypto corruptContribution call action store.data)) := by
  have hserved : Outcome (MailboxServed crypto call store.data action)
      (guardianMailbox crypto corruptContribution call action) store.data := mailbox_served action
  generalize hrun : guardianMailbox crypto corruptContribution call action store.data = result
  cases result with
  | error e entry => exact ⟨none, entry, hserved.error hrun, .unsaved⟩
  | ok response entry =>
    refine ⟨some response, entry, hserved.ok hrun, ?_⟩
    cases save with
    | error e => exact .unsaved
    | ok u =>
      cases sealed with
      | error e => exact .unsealed
      | ok u => exact .left

end MasterRecovery
