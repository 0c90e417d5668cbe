import MasterRecovery.CardQuorum
import MasterRecovery.MailboxServed
import Mathlib.Data.Finset.Card

/-!
# The hard-cancel quorum (gp-network/src/server.rs, gp-network/src/client.rs)

A guardian acknowledges the cancellation of an exact request or contributes to it, never both,
also over restarts. Enough acknowledgements leave too few guardians for a recovery.
-/

namespace MasterRecovery
open Checks Machine

/-- `required_cancel_acks`. -/
def requiredCancelAcks (totalGuardians recoveryThreshold : ℕ) : Except String ℕ := do
  bailIf (recoveryThreshold = 0 ∨ totalGuardians < recoveryThreshold)
    "invalid guardian threshold in owner control state"
  .ok (totalGuardians - recoveryThreshold + 1)

namespace MailboxResponse

/-- An acknowledgement of the cancellation of this exact request. -/
def Acknowledges (response : MailboxResponse) (requestId digest : Id32) : Prop :=
  ∃ ack, response = .cancellationAccepted ack ∧ ack.requestId = requestId ∧
    ack.requestDigest = digest

/-- Material for this exact request. -/
def Contributes (response : MailboxResponse) (requestId digest : Id32) : Prop :=
  ∃ contribution, response = .guardianContribution contribution ∧
    contribution.requestId = requestId ∧ contribution.requestDigest = digest

end MailboxResponse

open MailboxResponse

variable {crypto : Crypto} {corruptContribution : Bool} {call : MailboxCall}
  {entry entry' : GuardianEntry} {action : MailboxRequest} {response : MailboxResponse}
  {log : List MailboxResponse} {requestId digest : Id32}

/-! ### One guardian -/

/-- What an entry remembers of the responses that left. -/
structure CancelLedger (entry : GuardianEntry) (log : List MailboxResponse) : Prop where
  bound : ∀ (requestId digest : Id32), entry.released[requestId]? = some digest →
    ∃ pending : PendingNetworkRecovery, entry.pending[requestId]? = some pending ∧ pending.requestDigest = digest
  acknowledged : ∀ response ∈ log, ∀ requestId digest, response.Acknowledges requestId digest →
    entry.cancelled[requestId]? = some digest ∧ entry.released[requestId]? ≠ some digest
  contributed : ∀ response ∈ log, ∀ requestId digest, response.Contributes requestId digest →
    entry.released[requestId]? = some digest ∧ entry.cancelled[requestId]? ≠ some digest

theorem cancelLedger_new (provision : GuardianProvision) : CancelLedger (.new provision) [] where
  bound _ _ hreleased := by simp [GuardianEntry.new] at hreleased
  acknowledged _ hmem := by cases hmem
  contributed _ hmem := by cases hmem

theorem CancelLedger.before {later : List MailboxResponse} (h : CancelLedger entry (log ++ later)) :
    CancelLedger entry log where
  bound := h.bound
  acknowledged response hmem := h.acknowledged response (List.mem_append_left later hmem)
  contributed response hmem := h.contributed response (List.mem_append_left later hmem)

/-- A response that neither acknowledges nor contributes. -/
theorem CancelLedger.other (h : CancelLedger entry log)
    (hack : ∀ requestId digest, ¬response.Acknowledges requestId digest)
    (hcontribution : ∀ requestId digest, ¬response.Contributes requestId digest) :
    CancelLedger entry (log ++ [response]) where
  bound := h.bound
  acknowledged x hmem requestId digest hx := by
    rcases List.mem_append.mp hmem with hold | hnew
    · exact h.acknowledged x hold requestId digest hx
    · cases List.mem_singleton.mp hnew
      exact absurd hx (hack requestId digest)
  contributed x hmem requestId digest hx := by
    rcases List.mem_append.mp hmem with hold | hnew
    · exact h.contributed x hold requestId digest hx
    · cases List.mem_singleton.mp hnew
      exact absurd hx (hcontribution requestId digest)

/-- A Begin makes a new request pending. -/
theorem CancelLedger.begun (h : CancelLedger entry log) {request : RecoveryRequest}
    (hnew : request.requestId ∉ entry.pending) :
    CancelLedger (entry.withPending request digest call) log where
  bound id found hreleased := by
    obtain ⟨pending, hpending, hdigest⟩ := h.bound id found hreleased
    refine ⟨pending, getElem?_insert_iff.mpr (Or.inr ⟨?_, hpending⟩), hdigest⟩
    intro hsame
    rw [hsame] at hpending
    exact hnew (Std.TreeMap.isSome_getElem?_iff_mem.mp (by rw [hpending]; rfl))
  acknowledged := h.acknowledged
  contributed := h.contributed

/-- An acknowledged cancellation bars the release of the request. -/
theorem CancelLedger.cancelled (h : CancelLedger entry log) {ack : OwnerCancelAck}
    (hunreleased : entry.released[ack.requestId]? ≠ some ack.requestDigest)
    (hsame : ∀ existing ∈ entry.cancelled[ack.requestId]?, existing = ack.requestDigest) :
    CancelLedger { entry with cancelled := entry.cancelled.insert ack.requestId ack.requestDigest }
      (log ++ [.cancellationAccepted ack]) where
  bound := h.bound
  acknowledged x hmem requestId digest hx := by
    rcases List.mem_append.mp hmem with hold | hnew
    · obtain ⟨hcancelled, hreleased⟩ := h.acknowledged x hold requestId digest hx
      refine ⟨getElem?_insert_iff.mpr ?_, hreleased⟩
      by_cases hid : requestId = ack.requestId
      · subst hid
        exact Or.inl ⟨rfl, hsame digest hcancelled⟩
      · exact Or.inr ⟨hid, hcancelled⟩
    · cases List.mem_singleton.mp hnew
      obtain ⟨_, hack, rfl, rfl⟩ := hx
      cases hack
      exact ⟨getElem?_insert_iff.mpr (Or.inl ⟨rfl, rfl⟩), hunreleased⟩
  contributed x hmem requestId digest hx := by
    rcases List.mem_append.mp hmem with hold | hnew
    · obtain ⟨hreleased, hcancelled⟩ := h.contributed x hold requestId digest hx
      refine ⟨hreleased, fun hfound => ?_⟩
      rcases getElem?_insert_iff.mp hfound with ⟨rfl, rfl⟩ | ⟨-, hbefore⟩
      · exact hunreleased hreleased
      · exact hcancelled hbefore
    · cases List.mem_singleton.mp hnew
      obtain ⟨_, hcontribution, -⟩ := hx
      cases hcontribution

/-- A contribution bars the cancellation of the request. -/
theorem CancelLedger.released (h : CancelLedger entry log) {contribution : GuardianContribution}
    {pending : PendingNetworkRecovery}
    (hlive : entry.cancelled[contribution.requestId]? ≠ some contribution.requestDigest)
    (hpending : entry.pending[contribution.requestId]? = some pending)
    (hdigest : pending.requestDigest = contribution.requestDigest) :
    CancelLedger
      { entry with
        released := entry.released.insert contribution.requestId contribution.requestDigest }
      (log ++ [.guardianContribution contribution]) where
  bound id found hreleased := by
    rcases getElem?_insert_iff.mp hreleased with ⟨rfl, rfl⟩ | ⟨-, hbefore⟩
    · exact ⟨pending, hpending, hdigest⟩
    · exact h.bound id found hbefore
  acknowledged x hmem requestId digest hx := by
    rcases List.mem_append.mp hmem with hold | hnew
    · obtain ⟨hcancelled, hreleased⟩ := h.acknowledged x hold requestId digest hx
      refine ⟨hcancelled, fun hfound => ?_⟩
      rcases getElem?_insert_iff.mp hfound with ⟨rfl, rfl⟩ | ⟨-, hbefore⟩
      · exact hlive hcancelled
      · exact hreleased hbefore
    · cases List.mem_singleton.mp hnew
      obtain ⟨_, hack, -⟩ := hx
      cases hack
  contributed x hmem requestId digest hx := by
    rcases List.mem_append.mp hmem with hold | hnew
    · obtain ⟨hreleased, hcancelled⟩ := h.contributed x hold requestId digest hx
      refine ⟨getElem?_insert_iff.mpr ?_, hcancelled⟩
      by_cases hid : requestId = contribution.requestId
      · -- what was released under this id is the digest of its one pending request
        subst hid
        obtain ⟨found, hfound, hfoundDigest⟩ := h.bound _ _ hreleased
        rw [hpending] at hfound
        cases hfound
        exact Or.inl ⟨rfl, hfoundDigest.symm.trans hdigest⟩
      · exact Or.inr ⟨hid, hreleased⟩
    · cases List.mem_singleton.mp hnew
      obtain ⟨_, hcontribution, rfl, rfl⟩ := hx
      cases hcontribution
      exact ⟨getElem?_insert_iff.mpr (Or.inl ⟨rfl, rfl⟩), hlive⟩

theorem CancelLedger.served (h : CancelLedger entry log) {answer : Option MailboxResponse}
    (hserved : MailboxServed crypto call entry action answer entry') :
    CancelLedger entry' (log ++ answer.toList) := by
  cases hserved with
  | refused => simpa using h
  | releaseRefused =>
    exact h.other (by simp [Acknowledges]) (by simp [Contributes])
  | begun _ _ hnew =>
    exact (h.begun hnew).other (by simp [Acknowledges]) (by simp [Contributes])
  | cancelled _ hunreleased hsame hid hack =>
    subst hack
    rw [← hid] at hunreleased hsame ⊢
    exact h.cancelled hunreleased hsame
  | released _ hlive hpasses hid hcontribution =>
    subst hcontribution
    rw [← hid] at hlive ⊢
    exact h.released hlive (hid ▸ hpasses.found) hpasses.digest

/-- The entry in memory and the saved one both remember what has left. -/
def Remembered (store : Persisted GuardianEntry) (log : List MailboxResponse) : Prop :=
  CancelLedger store.data log ∧ CancelLedger store.saved log

theorem Remembered.step {store : Persisted GuardianEntry} (h : Remembered store log)
    (input : MailboxInput) :
    Remembered ((mailboxMachine crypto corruptContribution).step store input).1
      (log ++ ((mailboxMachine crypto corruptContribution).step store input).2.toList) := by
  cases input with
  | restart => simpa [mailboxMachine, Remembered, Persisted.reload] using h.2
  | flush => simpa [mailboxMachine, Remembered, Persisted.flush] using h.1
  | request call action save sealed =>
    obtain ⟨answer, entry, hserved, hsettled⟩ := @mailbox_settled crypto corruptContribution
      call store action save sealed
    have hledger := h.1.served hserved
    simp only [mailboxMachine]
    generalize settleMailbox store save sealed _ = out at hsettled ⊢
    cases hsettled with
    | unsaved => exact ⟨by simpa using hledger.before, by simpa using h.2⟩
    | unsealed => exact ⟨by simpa using hledger.before, by simpa using hledger.before⟩
    | left => exact ⟨hledger, hledger⟩

/-- What leaves a guardian in a run from its provision. -/
def mailboxLog (crypto : Crypto) (corruptContribution : Bool) (provision : GuardianProvision)
    (inputs : List MailboxInput) : List MailboxResponse :=
  (mailboxMachine crypto corruptContribution).outputs ⟨.new provision, .new provision⟩ inputs

theorem remembered_run (provision : GuardianProvision) (inputs : List MailboxInput) :
    Remembered
      ((mailboxMachine crypto corruptContribution).run ⟨.new provision, .new provision⟩ inputs)
      (mailboxLog crypto corruptContribution provision inputs) :=
  run_invariant _ (P := fun _ _ _ => True) ⟨cancelLedger_new provision, cancelLedger_new provision⟩
    (fun _ _ input hremembered _ => hremembered.step input)
    (along_of_forall _ (P := fun _ => True) (fun _ _ => trivial) _ _)

/-- Either a guardian acknowledges a cancellation or it contributes, whatever comes first. -/
theorem mailbox_exclusive {provision : GuardianProvision} {inputs : List MailboxInput}
    {acknowledgement contribution : MailboxResponse}
    (hack : acknowledgement ∈ mailboxLog crypto corruptContribution provision inputs)
    (hacknowledges : acknowledgement.Acknowledges requestId digest)
    (hcontribution : contribution ∈ mailboxLog crypto corruptContribution provision inputs) :
    ¬contribution.Contributes requestId digest := by
  intro hcontributes
  have hledger := (@remembered_run crypto corruptContribution provision inputs).1
  exact (hledger.acknowledged _ hack _ _ hacknowledges).2
    (hledger.contributed _ hcontribution _ _ hcontributes).1

/-! ### The guardians of a roster -/

section Roster

variable {κ : Type} [DecidableEq κ]

/-- The mailboxes of a roster side by side. -/
def mailboxNetwork (crypto : Crypto) (corruptContribution : κ → Bool) :
    Machine (κ → Persisted GuardianEntry) (κ × MailboxInput) (κ × MailboxResponse) :=
  family fun k => mailboxMachine crypto (corruptContribution k)

/-- The network as it is provisioned. -/
def provisioned (provision : κ → GuardianProvision) (k : κ) : Persisted GuardianEntry :=
  ⟨.new (provision k), .new (provision k)⟩

/-- The responses are those of a run at the honest guardians, and anything at the others. -/
def HonestRun (crypto : Crypto) (corruptContribution : κ → Bool) (provision : κ → GuardianProvision)
    (honest : Finset κ) (inputs : List (κ × MailboxInput))
    (responses : List (κ × MailboxResponse)) : Prop :=
  ∀ k ∈ honest, inbox k responses =
    inbox k ((mailboxNetwork crypto corruptContribution).outputs (provisioned provision) inputs)

/-- Of an exact request, a guardian acknowledges the cancellation or contributes, not both. -/
def ExclusiveAt (responses : List (κ × MailboxResponse)) (k : κ) : Prop :=
  ∀ requestId digest, ∀ x ∈ inbox k responses, ∀ y ∈ inbox k responses,
    x.Acknowledges requestId digest → ¬y.Contributes requestId digest

/-- Fewer guardians of the roster than a recovery needs ever contribute. -/
def CancelledFor (roster : Finset κ) (threshold : ℕ) (responses : List (κ × MailboxResponse))
    (requestId digest : Id32) : Prop :=
  ∀ contributors ⊆ roster,
    (∀ k ∈ contributors, ∃ x ∈ inbox k responses, x.Contributes requestId digest) →
      contributors.card < threshold

theorem requiredCancelAcks_eq_ok {totalGuardians recoveryThreshold needed : ℕ}
    (h : requiredCancelAcks totalGuardians recoveryThreshold = .ok needed) :
    0 < recoveryThreshold ∧ recoveryThreshold ≤ totalGuardians ∧
      needed = totalGuardians - recoveryThreshold + 1 := by
  simp only [requiredCancelAcks, bind_unit_eq_ok, bailIf_eq_ok, not_or, not_lt,
    Except.ok.injEq] at h
  obtain ⟨⟨hpos, hle⟩, hneeded⟩ := h
  exact ⟨Nat.pos_of_ne_zero hpos, hle, hneeded.symm⟩

/-- Guardians that shut themselves off leave fewer than the threshold. -/
theorem card_lt_of_shut {roster shut others : Finset κ} {threshold needed : ℕ}
    (hneeded : requiredCancelAcks roster.card threshold = .ok needed) (hshut : shut ⊆ roster)
    (hcard : needed ≤ shut.card) (hothers : others ⊆ roster) (hdisjoint : Disjoint shut others) :
    others.card < threshold := by
  obtain ⟨hpos, hle, rfl⟩ := requiredCancelAcks_eq_ok hneeded
  have hunion : (shut ∪ others).card ≤ roster.card :=
    Finset.card_le_card (Finset.union_subset hshut hothers)
  rw [Finset.card_union_of_disjoint hdisjoint] at hunion
  omega

/-- Enough acknowledgements of honest guardians cancel a request for good: in any run and order
too few of the roster contribute to it, and none that acknowledged does. -/
theorem hard_cancel_final {corruptContribution : κ → Bool} {provision : κ → GuardianProvision}
    {honest : Finset κ} {inputs : List (κ × MailboxInput)} {responses : List (κ × MailboxResponse)}
    (hhonest : HonestRun crypto corruptContribution provision honest inputs responses) :
    (∀ k ∈ honest, ExclusiveAt responses k) ∧
      ∀ (roster acknowledgers : Finset κ) (threshold needed : ℕ) (requestId digest : Id32),
        requiredCancelAcks roster.card threshold = .ok needed →
        acknowledgers ⊆ roster → acknowledgers ⊆ honest → needed ≤ acknowledgers.card →
        (∀ k ∈ acknowledgers, ∃ x ∈ inbox k responses, x.Acknowledges requestId digest) →
        CancelledFor roster threshold responses requestId digest := by
  have hexclusive : ∀ k ∈ honest, ExclusiveAt responses k := by
    intro k hk requestId digest x hx y hy hack
    rw [hhonest k hk, mailboxNetwork, family_outputs] at hx hy
    exact mailbox_exclusive hx hack hy
  refine ⟨hexclusive, ?_⟩
  intro roster acknowledgers threshold needed requestId digest hneeded hroster hacked hcard hacks
    contributors hcontributors hcontributes
  refine card_lt_of_shut hneeded hroster hcard hcontributors ?_
  rw [Finset.disjoint_left]
  intro k hk hcontributor
  obtain ⟨x, hx, hack⟩ := hacks k hk
  obtain ⟨y, hy, hcontribution⟩ := hcontributes k hcontributor
  exact hexclusive k (hacked hk) requestId digest x hx y hy hack hcontribution

end Roster

/-! ### Three guardians, two of whom recover -/

/-- Requests of one id, told apart by their nonces. -/
def sampleMailboxRequest (nonce : Id32) : RecoveryRequest where
  protocolVersion := protocolVersion
  cryptoSuite := .xwingXChaCha20Poly1305Ed25519
  configId := 1
  configVersion := 1
  requestId := 90
  recoveryRecipientKey := List.replicate xwingPublicKeyLen 0
  requestedAt := 5
  nonce := nonce
  expiry := 100

def sampleMailboxDigest (nonce : Id32) : Id32 :=
  (requestDigest Crypto.transparent (sampleMailboxRequest nonce)).toOption.getD 0

def sampleMailboxBegin (nonce : Id32) : MailboxRequest :=
  let request := sampleMailboxRequest nonce
  .guardianBegin ⟨request, [1, 2].map fun id =>
    ⟨request, id, Crypto.transparent.verifyingKeyBytes (sampleSignerSeed id),
      signOf (sampleSignerSeed id) (Wire.signerApproval request id ⟨[1], 0, []⟩),
      sampleMembershipProof, ⟨[1], 0, []⟩⟩⟩

def sampleMailboxCancel (nonce : Id32) : MailboxRequest :=
  let unsigned : OwnerCancelCertificate := {
    protocolVersion := protocolVersion
    configId := 1
    configVersion := 1
    requestId := 90
    requestDigest := sampleMailboxDigest nonce
    recoveryRecipientKey := List.replicate xwingPublicKeyLen 0
    cancelResponseRecipientKey := List.replicate xwingPublicKeyLen 1
    reasonCode := 1
    nonce := nonce
    issuedAt := 6
    ownerCancelPublicKey := Crypto.transparent.verifyingKeyBytes sampleOwnerSeed
    ownerSignature := [] }
  .guardianCancel (sampleMailboxRequest nonce)
    { unsigned with ownerSignature := signOf sampleOwnerSeed (Wire.ownerCancel unsigned) }

def sampleMailboxRelease (nonce : Id32) : MailboxRequest :=
  .guardianRelease (sampleMailboxRequest nonce) ⟨[1, 2].map fun id =>
    let unsigned : ReleaseVote := {
      protocolVersion := protocolVersion
      configId := 1
      configVersion := 1
      requestId := 90
      requestDigest := sampleMailboxDigest nonce
      recoveryRecipientKey := List.replicate xwingPublicKeyLen 0
      nonce := nonce
      signerId := id
      signerPublicKey := Crypto.transparent.verifyingKeyBytes (sampleSignerSeed id)
      signerMembershipProof := sampleMembershipProof
      signerSignature := [] }
    { unsigned with signerSignature := signOf (sampleSignerSeed id) (Wire.releaseVote unsigned) }⟩

def sampleMailboxPolicy : GuardianPolicy where
  configId := 1
  configVersion := 1
  signerSetCommitment := sampleSignerRoot
  signerCount := 2
  signerThreshold := 2
  ownerCancelPublicKey := Crypto.transparent.verifyingKeyBytes sampleOwnerSeed
  minimumRecoveryDelay := 5
  guardianMaterialRoot := 7

def sampleMailbox (index : UInt16) : GuardianProvision where
  guardianId := index
  signingSeed := BitVec.ofNat 256 (600 + index.toNat)
  record :=
    { opaqueSlotId := 1
      guardianIndex := index
      ciphertextFragment := [61]
      encryptedDekShare := ⟨0, [62]⟩
      merklePathProof := [63]
      policy := sampleMailboxPolicy }

def sampleMailboxInput (wallNow : UInt64) (action : MailboxRequest) : MailboxInput :=
  .request ⟨wallNow, wallNow, "boot"⟩ action (.ok ()) (.ok ())

/-- The third guardian contributes before the others hear of the recovery, and of its end. -/
def sampleMailboxInputs : List (Fin 3 × MailboxInput) :=
  [(2, sampleMailboxInput 6 (sampleMailboxBegin 91)),
    (2, sampleMailboxInput 20 (sampleMailboxRelease 91)),
    (0, sampleMailboxInput 21 (sampleMailboxCancel 91)),
    (1, sampleMailboxInput 21 (sampleMailboxBegin 91)),
    (1, sampleMailboxInput 22 (sampleMailboxCancel 91)),
    (2, sampleMailboxInput 23 (sampleMailboxCancel 91))]

def sampleMailboxResponses : List (Fin 3 × MailboxResponse) :=
  (mailboxNetwork Crypto.transparent fun _ => false).outputs
    (provisioned fun k : Fin 3 => sampleMailbox (UInt16.ofNat k)) sampleMailboxInputs

/-- The acknowledged exact request. -/
def acknowledged : MailboxResponse → Option (Id32 × Id32)
  | .cancellationAccepted ack => some (ack.requestId, ack.requestDigest)
  | _ => none

theorem acknowledges_of_acknowledged {response : MailboxResponse}
    (h : acknowledged response = some (requestId, digest)) :
    response.Acknowledges requestId digest := by
  cases response with
  | cancellationAccepted ack =>
    simp only [acknowledged, Option.some.injEq, Prod.mk.injEq] at h
    exact ⟨ack, rfl, h.1, h.2⟩
  | _ => cases h

/-- The exact request contributed to. -/
def contributed : MailboxResponse → Option (Id32 × Id32)
  | .guardianContribution contribution =>
    some (contribution.requestId, contribution.requestDigest)
  | _ => none

theorem contributes_of_contributed {response : MailboxResponse}
    (h : contributed response = some (requestId, digest)) :
    response.Contributes requestId digest := by
  cases response with
  | guardianContribution contribution =>
    simp only [contributed, Option.some.injEq, Prod.mk.injEq] at h
    exact ⟨contribution, rfl, h.1, h.2⟩
  | _ => cases h

theorem sampleMailboxResponses_at (k : Fin 3) : inbox k sampleMailboxResponses =
    mailboxLog Crypto.transparent false (sampleMailbox (UInt16.ofNat k))
      (inbox k sampleMailboxInputs) :=
  family_outputs _ _ _ k

theorem hard_cancel_final_sample :
    (∃ x ∈ inbox 2 sampleMailboxResponses, x.Contributes 90 (sampleMailboxDigest 91)) ∧
      CancelledFor {0, 1, 2} 2 sampleMailboxResponses 90 (sampleMailboxDigest 91) := by
  have hfirst : ∃ x ∈ inbox 0 sampleMailboxResponses,
      acknowledged x = some (90, sampleMailboxDigest 91) := by
    rw [sampleMailboxResponses_at]
    decide +kernel
  have hsecond : ∃ x ∈ inbox 1 sampleMailboxResponses,
      acknowledged x = some (90, sampleMailboxDigest 91) := by
    rw [sampleMailboxResponses_at]
    decide +kernel
  have hthird : ∃ x ∈ inbox 2 sampleMailboxResponses,
      contributed x = some (90, sampleMailboxDigest 91) := by
    rw [sampleMailboxResponses_at]
    decide +kernel
  have hrun : HonestRun Crypto.transparent (fun _ => false)
      (fun k : Fin 3 => sampleMailbox (UInt16.ofNat k)) {0, 1} sampleMailboxInputs
      sampleMailboxResponses := fun _ _ => rfl
  refine ⟨hthird.imp fun x hx => ⟨hx.1, contributes_of_contributed hx.2⟩, ?_⟩
  refine (hard_cancel_final hrun).2 {0, 1, 2} {0, 1} 2 2 90 (sampleMailboxDigest 91) rfl
    (by decide) (Finset.Subset.refl _) (by decide) ?_
  intro k hk
  rcases Finset.mem_insert.mp hk with rfl | hk
  · exact hfirst.imp fun x hx => ⟨hx.1, acknowledges_of_acknowledged hx.2⟩
  · rw [Finset.mem_singleton] at hk
    subst hk
    exact hsecond.imp fun x hx => ⟨hx.1, acknowledges_of_acknowledged hx.2⟩

end MasterRecovery
