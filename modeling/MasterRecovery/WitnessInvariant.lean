import MasterRecovery.CardQuorum
import Mathlib.Logic.Relation

/-!
# The witness entry over whole runs

Five coupled fields of an entry (the active capsule, the pending one, its
acknowledgement, the register and the tombstones) are written by four handlers.
The invariant says how they hang together; the capsules of a run are assumed to
be free of cycles, as they are when no hash can be its own ancestor's.
-/

namespace MasterRecovery
open Checks Transcript Wire Relation

/-! ### Ancestry of capsules -/

/-- `child` is the hash of a circulating capsule that names `parent` as predecessor. -/
def ChildOf (crypto : Crypto) (circulating : Set ConfigCapsuleV3) (child parent : Id32) : Prop :=
  ∃ capsule ∈ circulating, (∃ body, configCapsuleBodyV3 capsule = .ok body ∧
    crypto.sha256 body = child) ∧ capsule.predecessorCapsuleHash = parent

/-- No hash is its own ancestor. -/
def CycleFree (crypto : Crypto) (circulating : Set ConfigCapsuleV3) : Prop :=
  ∀ hash, ¬TransGen (ChildOf crypto circulating) hash hash

theorem cycleFree_of_rank {crypto : Crypto} {circulating : Set ConfigCapsuleV3} (rank : Id32 → ℕ)
    (h : ∀ child parent, ChildOf crypto circulating child parent → rank parent < rank child) :
    CycleFree crypto circulating := by
  intro hash hcycle
  have hlt : ∀ a b, TransGen (ChildOf crypto circulating) a b → rank b < rank a := by
    intro a b hab
    induction hab with
    | single hab => exact h _ _ hab
    | tail _ hbc ih => exact (h _ _ hbc).trans ih
  exact Nat.lt_irrefl _ (hlt hash hash hcycle)

/-- The capsule of an activation request. -/
def WitnessRequest.Circulates (circulating : Set ConfigCapsuleV3) : WitnessRequest → Prop
  | .activate request => request.capsule ∈ circulating
  | _ => True

/-! ### The invariant -/

/-- The acknowledgement this witness gave for this successor of the active capsule. -/
structure AckFor (crypto : Crypto) (seed : Id32) (witnessId : UInt16)
    (active successor : ConfigCapsuleV3) (ack : WitnessActivationAck) : Prop where
  predecessorEpoch : ack.predecessorEpoch = active.configRef.guardianEpoch
  predecessorHash : ack.predecessorCapsuleHash = active.capsuleHash
  successorEpoch : ack.successorEpoch = successor.configRef.guardianEpoch
  successorHash : ack.successorCapsuleHash = successor.capsuleHash
  witness : ack.witnessId = witnessId ∧
    ack.witnessPublicKey = crypto.verifyingKeyBytes seed
  certificate : ∃ certificate transcript, successor.activationCertificate = some certificate ∧
    ack.context = certificate.context ∧ ack.planHash = certificate.planHash ∧
    rotationActivateCertificate certificate = .ok transcript ∧
    ack.activationCertificateHash = crypto.sha256 transcript
  signature : ∃ transcript, witnessActivationAck ack = .ok transcript ∧
    ack.witnessSignature = crypto.sign seed transcript

/-- The register follows the active capsule, or the pending one while there is one. -/
structure RegisterFollows (crypto : Crypto) (seed : Id32) (entry : WitnessConfigEntry) : Prop where
  idle : entry.pendingCapsule = none →
    entry.register.highestGuardianEpoch = entry.capsule.configRef.guardianEpoch ∧
      entry.register.highestCapsuleHash = entry.capsule.capsuleHash ∧ entry.pendingAck = none
  pending : ∀ successor, entry.pendingCapsule = some successor →
    entry.register.highestGuardianEpoch = successor.configRef.guardianEpoch ∧
      entry.register.highestCapsuleHash = successor.capsuleHash ∧
      entry.register.predecessorLocks[entry.capsule.capsuleHash]? = some successor.capsuleHash ∧
      ∃ ack, entry.pendingAck = some ack ∧ AckFor crypto seed entry.witnessId entry.capsule successor ack

/-- With what keeps it inductive: a lock outlives its capsule only below the active
one, and what is pending is a live direct successor. -/
structure EntryInv (crypto : Crypto) (seed : Id32) (circulating : Set ConfigCapsuleV3)
    (entry : WitnessConfigEntry) : Prop where
  witnessId : entry.witnessId ≠ 0
  follows : RegisterFollows crypto seed entry
  locks : ∀ hash successor, entry.register.predecessorLocks[hash]? = some successor →
    hash = entry.capsule.capsuleHash ∧ entry.pendingCapsule ≠ none ∨
      TransGen (ChildOf crypto circulating) entry.capsule.capsuleHash hash
  direct : ∀ successor, entry.pendingCapsule = some successor →
    successor.configRef.IsDirectSuccessorOf entry.capsule.configRef ∧
      successor.predecessorCapsuleHash = entry.capsule.capsuleHash ∧
      ChildOf crypto circulating successor.capsuleHash entry.capsule.capsuleHash
  live : ∀ successor certificate, entry.pendingCapsule = some successor →
    successor.activationCertificate = some certificate →
    certificate.context.rotationId ∉ entry.rotationCancellations

variable {crypto : Crypto} {seed configId : Id32} {circulating : Set ConfigCapsuleV3}
  {entry entry' : WitnessConfigEntry} {request : WitnessRequest} {reply : Option WitnessEvent}
  {saves : Bool}

theorem entryInv_provisioned {provision : WitnessConfigProvision}
    (h : Provisioned crypto seed provision) :
    EntryInv crypto seed circulating provision.entry where
  witnessId := h.witnessId
  follows := ⟨fun _ => ⟨rfl, rfl, rfl⟩, fun _ hpending => by cases hpending⟩
  locks hash successor hlock := by
    simp [WitnessConfigProvision.entry, WitnessEpochStore.new] at hlock
  direct _ hpending := by cases hpending
  live _ _ hpending := by cases hpending

theorem EntryInv.no_lock_when_idle (hcycle : CycleFree crypto circulating)
    (h : EntryInv crypto seed circulating entry) (hidle : entry.pendingCapsule = none) :
    entry.register.predecessorLocks[entry.capsule.capsuleHash]? = none := by
  cases hlock : entry.register.predecessorLocks[entry.capsule.capsuleHash]? with
  | none => rfl
  | some successor =>
    rcases h.locks _ _ hlock with ⟨-, hpending⟩ | hcyc
    · exact absurd hidle hpending
    · exact absurd hcyc (hcycle _)

/-- A fresh activation takes the lock of the active capsule. -/
theorem EntryInv.persist_fresh (hcycle : CycleFree crypto circulating)
    (h : EntryInv crypto seed circulating entry) (hidle : entry.pendingCapsule = none)
    {successor : ConfigRef} {successorHash : Id32} {register : WitnessEpochStore}
    (hpersist : entry.register.persistSuccessorBeforeAck entry.capsule.configRef
      entry.capsule.capsuleHash successor successorHash = .ok register) :
    register = { entry.register with
      predecessorLocks :=
        entry.register.predecessorLocks.insert entry.capsule.capsuleHash successorHash
      highestGuardianEpoch := successor.guardianEpoch
      highestCapsuleHash := successorHash } := by
  obtain ⟨-, ⟨hlock, -⟩ | ⟨-, -, -, -, hregister⟩⟩ :=
    WitnessEpochStore.persistSuccessorBeforeAck_eq_ok hpersist
  · rw [h.no_lock_when_idle hcycle hidle] at hlock
    cases hlock
  · exact hregister

theorem signedActivationAck_for {request : WitnessActivationRequest} {activationHash : Id32}
    {ackTranscript : Bytes} (hbinds : CertificateBinds crypto configId request activationHash)
    (hack : witnessActivationAck (activationAck crypto seed request activationHash entry) =
      .ok ackTranscript) :
    AckFor crypto seed entry.witnessId entry.capsule request.storedCapsule
      (signedActivationAck crypto seed request activationHash ackTranscript entry) := by
  obtain ⟨transcript, htr, hhash⟩ := hbinds.certificate
  exact ⟨rfl, rfl, rfl, rfl, ⟨rfl, rfl⟩,
    ⟨request.activationCertificate, transcript, rfl, rfl, rfl, htr, hhash.symm⟩,
    ⟨ackTranscript, hack, rfl⟩⟩

/-! ### Every handler keeps it -/

theorem EntryInv.cancelled {certificate : OwnerRotationCancelCertificate} {transcript : Bytes}
    (h : EntryInv crypto seed circulating entry)
    (houtcome : CancelOutcome crypto certificate transcript entry entry') :
    EntryInv crypto seed circulating entry' := by
  cases houtcome with
  | repeated hseen => exact h
  | recorded hnew hnone =>
    refine ⟨h.witnessId, ⟨h.follows.idle, fun successor hs => ?_⟩, h.locks, h.direct,
      fun successor activation hs => ?_⟩
    · exact absurd hs (by simp [recordCancel, hnone])
    · exact absurd hs (by simp [recordCancel, hnone])
  | rolledBack hnew hpending hactivation hrotation hplan hlock =>
    refine ⟨h.witnessId, ⟨fun _ => ⟨rfl, rfl, rfl⟩, fun _ hs => (by cases hs)⟩,
      fun hash successor hs => ?_, fun _ hs => (by cases hs), fun _ _ hs => (by cases hs)⟩
    simp only [Std.TreeMap.getElem?_erase, Std.compare_eq_iff_eq, Option.ite_none_left_eq_some]
      at hs
    rcases h.locks hash successor hs.2 with ⟨rfl, -⟩ | hbelow
    · exact absurd rfl hs.1
    · exact Or.inr hbelow

theorem EntryInv.activated (hcycle : CycleFree crypto circulating)
    {request : WitnessActivationRequest} {activationHash : Id32} {register : WitnessEpochStore}
    {ackTranscript : Bytes} (h : EntryInv crypto seed circulating entry)
    (hcirc : request.capsule ∈ circulating)
    (hbinds : CertificateBinds crypto configId request activationHash)
    (hlive : request.activationCertificate.context.rotationId ∉ entry.rotationCancellations)
    (hnone : entry.pendingCapsule = none) (hextends : Extends crypto request entry.capsule entry.signerPublicKeys)
    (hpersist : entry.register.persistSuccessorBeforeAck entry.capsule.configRef
      entry.capsule.capsuleHash request.capsule.configRef request.capsule.capsuleHash =
        .ok register)
    (hack : witnessActivationAck (activationAck crypto seed request activationHash entry) =
      .ok ackTranscript) :
    EntryInv crypto seed circulating (pendingEntry request register
      (signedActivationAck crypto seed request activationHash ackTranscript entry) entry) := by
  have hregister := h.persist_fresh hcycle hnone hpersist
  subst hregister
  have hack' := signedActivationAck_for hbinds hack
  refine ⟨h.witnessId, ⟨fun hs => (by cases hs), fun successor hs => ?_⟩,
    fun hash successor hs => ?_, fun successor hs => ?_, fun successor certificate hs hc => ?_⟩
  · cases hs
    exact ⟨rfl, rfl, by simp [pendingEntry, WitnessActivationRequest.storedCapsule], _, rfl,
      hack'⟩
  · simp only [pendingEntry, Std.TreeMap.getElem?_insert, Std.compare_eq_iff_eq] at hs
    split at hs
    next heq => exact Or.inl ⟨heq.symm, by simp [pendingEntry]⟩
    next hne =>
      rcases h.locks hash successor hs with ⟨rfl, -⟩ | hbelow
      · exact absurd rfl hne
      · exact Or.inr hbelow
  · cases hs
    exact ⟨hextends.direct, hextends.predecessor,
      ⟨request.capsule, hcirc, hbinds.body, hextends.predecessor⟩⟩
  · cases hs
    cases hc
    exact hlive

theorem EntryInv.finalized {qc : EpochActivationQc} {pending : ConfigCapsuleV3}
    (h : EntryInv crypto seed circulating entry) (hpending : entry.pendingCapsule = some pending) :
    EntryInv crypto seed circulating (installed qc pending entry) := by
  obtain ⟨hepoch, hhash, -, -⟩ := h.follows.pending pending hpending
  obtain ⟨-, -, hchild⟩ := h.direct pending hpending
  refine ⟨h.witnessId, ⟨fun _ => ⟨hepoch, hhash, rfl⟩, fun _ hs => (by cases hs)⟩,
    fun hash successor hs => Or.inr ?_, fun _ hs => (by cases hs), fun _ _ hs => (by cases hs)⟩
  rcases h.locks hash successor hs with ⟨rfl, -⟩ | hbelow
  · exact .single hchild
  · exact .head hchild hbelow

theorem EntryInv.handled (hcycle : CycleFree crypto circulating)
    (h : EntryInv crypto seed circulating entry) (hcirc : request.Circulates circulating)
    (hstep : Handled crypto seed configId entry request entry' reply saves) :
    EntryInv crypto seed circulating entry' := by
  cases hstep with
  | refused => exact h
  | cancelled _ _ _ houtcome _ => exact h.cancelled houtcome
  | retried => exact h
  | activated hbinds hlive hnone hextends hpersist hack =>
    exact h.activated hcycle hcirc hbinds hlive hnone hextends hpersist hack
  | finalized hbinds => exact h.finalized hbinds.pending_eq
  | answered _ _ _ =>
    exact ⟨h.witnessId, ⟨h.follows.idle, h.follows.pending⟩, h.locks, h.direct, h.live⟩

end MasterRecovery
