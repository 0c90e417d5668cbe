import MasterRecovery.WitnessSteps

/-!
# The pending successor

What an entry holds while it waits for a QC, and which locks a handler keeps.
Nothing here rests on the hashes: the facts hold in every state a run of
requests reaches from a provisioned entry.
-/

namespace MasterRecovery
open Checks Transcript Wire

variable {crypto : Crypto} {seed configId : Id32} {entry entry' : WitnessConfigEntry}
  {request : WitnessRequest} {reply : Option WitnessEvent} {saves : Bool}
  {out : List WitnessEvent}

/-! ### What is pending -/

/-- What an entry holds between two answers: nothing, or a successor accepted over the
active capsule together with the acknowledgement given for it. -/
inductive HoldsPending (crypto : Crypto) (seed configId : Id32) (entry : WitnessConfigEntry) : Prop
  | idle (hcapsule : entry.pendingCapsule = none) (hack : entry.pendingAck = none)
  | waiting {request : WitnessActivationRequest} {activationHash : Id32} {ackTranscript : Bytes}
    (hcapsule : entry.pendingCapsule = some request.storedCapsule)
    (hack : entry.pendingAck =
      some (signedActivationAck crypto seed request activationHash ackTranscript entry))
    (hbinds : CertificateBinds crypto configId request activationHash)
    (hextends : Extends crypto request entry.capsule entry.signerPublicKeys)
    (hlive : request.activationCertificate.context.rotationId ∉ entry.rotationCancellations)
    (htranscript : witnessActivationAck (activationAck crypto seed request activationHash entry) =
      .ok ackTranscript)

theorem holdsPending_provisioned (provision : WitnessConfigProvision) :
    HoldsPending crypto seed configId provision.entry :=
  .idle rfl rfl

theorem HoldsPending.cancelled {certificate : OwnerRotationCancelCertificate} {transcript : Bytes}
    (h : HoldsPending crypto seed configId entry)
    (houtcome : CancelOutcome crypto certificate transcript entry entry') :
    HoldsPending crypto seed configId entry' := by
  cases houtcome with
  | repeated => exact h
  | rolledBack => exact .idle rfl rfl
  | recorded _ hnone =>
    cases h with
    | idle hcapsule hack => exact .idle hcapsule hack
    | waiting hcapsule => exact absurd (hnone.symm.trans hcapsule) (by simp)

theorem HoldsPending.handled (h : HoldsPending crypto seed configId entry)
    (hstep : Handled crypto seed configId entry request entry' reply saves) :
    HoldsPending crypto seed configId entry' := by
  cases hstep with
  | refused => exact h
  | cancelled _ _ _ houtcome _ => exact h.cancelled houtcome
  | retried => exact h
  | activated hbinds hlive _ hextends _ hack => exact .waiting rfl rfl hbinds hextends hlive hack
  | finalized => exact .idle rfl rfl
  | answered =>
    cases h with
    | idle hcapsule hack => exact .idle hcapsule hack
    | waiting hcapsule hack hbinds hextends hlive htranscript =>
      exact .waiting hcapsule hack hbinds hextends hlive htranscript

/-- An answered acknowledgement is the pending one. -/
theorem handled_acked_pending {ack : WitnessActivationAck}
    (hstep : Handled crypto seed configId entry request entry' (some (.acked ack)) saves) :
    entry'.pendingAck = some ack := by
  cases hstep with
  | retried _ _ _ _ hack => exact hack
  | activated => rfl

theorem CancelOutcome.pendingAck {certificate : OwnerRotationCancelCertificate}
    {transcript : Bytes} (h : CancelOutcome crypto certificate transcript entry entry')
    {ack : WitnessActivationAck} (hack : entry'.pendingAck = some ack) :
    entry.pendingAck = some ack := by
  cases h with
  | repeated => exact hack
  | recorded => exact hack
  | rolledBack => cases hack

/-! ### Locks -/

/-- The active capsule is locked to what is pending. -/
def LocksPending (entry : WitnessConfigEntry) : Prop :=
  ∀ pending, entry.pendingCapsule = some pending →
    entry.register.predecessorLocks[entry.capsule.capsuleHash]? = some pending.capsuleHash

/-- An accepted cancel rolled this pending child of the predecessor back. -/
def RolledBack (out : List WitnessEvent) (predecessor child : Id32) : Prop :=
  ∃ cancel released, .cancelled cancel (some released) ∈ out ∧
    released.predecessorCapsuleHash = predecessor ∧ released.capsuleHash = child

theorem RolledBack.mono {more : List WitnessEvent} {predecessor child : Id32}
    (h : RolledBack out predecessor child) (hsub : out ⊆ more) :
    RolledBack more predecessor child := by
  obtain ⟨cancel, released, hmem, hrest⟩ := h
  exact ⟨cancel, released, hsub hmem, hrest⟩

theorem persist_locks {store store' : WitnessEpochStore} {predecessor successor : ConfigRef}
    {predecessorHash successorHash : Id32}
    (h : store.persistSuccessorBeforeAck predecessor predecessorHash successor successorHash =
      .ok store') :
    store'.predecessorLocks[predecessorHash]? = some successorHash ∧
      ∀ parent child : Id32, store.predecessorLocks[parent]? = some child →
        store'.predecessorLocks[parent]? = some child := by
  obtain ⟨-, ⟨hlock, rfl⟩ | ⟨hnone, -, -, -, rfl⟩⟩ :=
    WitnessEpochStore.persistSuccessorBeforeAck_eq_ok h
  · exact ⟨hlock, fun _ _ hkept => hkept⟩
  · refine ⟨by simp, fun parent child hlock => ?_⟩
    rw [Std.TreeMap.getElem?_insert, if_neg, hlock]
    rw [Std.compare_eq_iff_eq]
    rintro rfl
    exact absurd (hnone.symm.trans hlock) (by simp)

theorem LocksPending.handled (h : LocksPending entry)
    (hstep : Handled crypto seed configId entry request entry' reply saves) :
    LocksPending entry' := by
  cases hstep with
  | refused => exact h
  | cancelled _ _ _ houtcome _ =>
    cases houtcome with
    | repeated => exact h
    | recorded => exact h
    | rolledBack => exact fun _ hs => (by cases hs)
  | retried => exact h
  | activated _ _ _ _ hpersist _ =>
    intro pending hs
    cases hs
    exact (persist_locks hpersist).1
  | finalized => exact fun _ hs => (by cases hs)
  | answered => exact h

/-- A lock is lost only to an accepted cancel of the locked child. -/
theorem handled_locks (hpending : HoldsPending crypto seed configId entry)
    (hstep : Handled crypto seed configId entry request entry' reply saves)
    {predecessor child : Id32}
    (hlock : entry.register.predecessorLocks[predecessor]? = some child) :
    entry'.register.predecessorLocks[predecessor]? = some child ∨
      RolledBack reply.toList predecessor child := by
  cases hstep with
  | refused => exact Or.inl hlock
  | retried => exact Or.inl hlock
  | activated _ _ _ _ hpersist _ => exact Or.inl ((persist_locks hpersist).2 _ _ hlock)
  | finalized => exact Or.inl hlock
  | answered => exact Or.inl hlock
  | @cancelled _ certificate transcript ackTranscript _ _ _ _ houtcome _ =>
    cases houtcome with
    | repeated => exact Or.inl hlock
    | recorded => exact Or.inl hlock
    | @rolledBack hnew pending hcapsule _ _ _ _ hlocked =>
      by_cases hactive : entry.capsule.capsuleHash = predecessor
      · -- the erased lock is the one of the child rolled back
        have hreleased : releasedBy certificate entry = some pending := by
          rw [releasedBy, if_neg hnew, hcapsule]
        refine Or.inr ⟨signedCancelAck crypto seed certificate transcript ackTranscript
          entry.witnessId, pending, ?_, ?_, ?_⟩
        · rw [hreleased, Option.toList_some, List.mem_singleton]
          rfl
        · cases hpending with
          | idle hnone => exact absurd (hnone.symm.trans hcapsule) (by simp)
          | waiting hwaiting _ _ hextends =>
            cases hwaiting.symm.trans hcapsule
            exact hextends.predecessor.trans hactive
        · rw [hactive, hlock] at hlocked
          exact (Option.some.inj hlocked).symm
      · refine Or.inl ?_
        simp only [Std.TreeMap.getElem?_erase, Std.compare_eq_iff_eq]
        rw [if_neg hactive]
        exact hlock

/-- The entry holds the acknowledgement, its successor and the lock on it. -/
structure HoldsAck (entry : WitnessConfigEntry) (ack : WitnessActivationAck) : Prop where
  held : entry.pendingAck = some ack
  successor : ∃ pending, entry.pendingCapsule = some pending ∧
    pending.capsuleHash = ack.successorCapsuleHash
  lock : entry.register.predecessorLocks[ack.predecessorCapsuleHash]? =
    some ack.successorCapsuleHash

theorem HoldsPending.holdsAck {ack : WitnessActivationAck}
    (hpending : HoldsPending crypto seed configId entry) (hlocks : LocksPending entry)
    (hack : entry.pendingAck = some ack) : HoldsAck entry ack := by
  cases hpending with
  | idle _ hnone => exact absurd (hnone.symm.trans hack) (by simp)
  | @waiting request _ _ hcapsule hwaiting _ _ _ _ =>
    cases hwaiting.symm.trans hack
    exact ⟨hack, ⟨_, hcapsule, rfl⟩, hlocks request.storedCapsule hcapsule⟩

theorem handled_holdsAck (hpending : HoldsPending crypto seed configId entry)
    (hlocks : LocksPending entry) {ack : WitnessActivationAck}
    (hstep : Handled crypto seed configId entry request entry' (some (.acked ack)) saves) :
    HoldsAck entry' ack :=
  (hpending.handled hstep).holdsAck (hlocks.handled hstep) (handled_acked_pending hstep)

end MasterRecovery
