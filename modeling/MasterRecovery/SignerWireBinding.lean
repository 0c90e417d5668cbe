import MasterRecovery.SignerWire

/-!
# What plans and signer transcripts bind

A plan is determined by its transcript, a vote up to its signature, and each
kind of transcript a signer signs opens with its own domain string.
-/

namespace MasterRecovery.Wire
open Checks Transcript

/-! ### Plans -/

theorem routeInto_binding : SelfDelimiting routeInto id :=
  (((((u16_binding.comp GuardianRouteV3.guardianIndex).seq
    (id32_binding.comp GuardianRouteV3.opaqueSlotId)).seq
    (string_binding.comp GuardianRouteV3.mailbox)).seq
    (id32_binding.comp GuardianRouteV3.guardianPublicKey)).seq
    (bytes_binding.comp GuardianRouteV3.sessionRecipientKey)).seq
    (id32_binding.comp GuardianRouteV3.operatorDomainCommitment)
    |>.guarded _ |>.weaken fun a b h => by
      cases a
      cases b
      simpa [and_assoc] using h

theorem rosterInto_binding : SelfDelimiting rosterInto id :=
  (routeInto_binding.counted boundedCount_binding).weaken fun a b h => by
    simpa using h

theorem guardianRosterV3_framed :
    Framed (domain "gp/private-guardian-roster/v3") guardianRosterV3 id :=
  (Framed.start _).seq rosterInto_binding |>.guarded _ |>.weaken fun _ _ h => by
    simpa using h

theorem rotationPlan_framed :
    Framed (domain "gp/rotation-plan/v3") rotationPlan id :=
  ((((((((((((((((((Framed.start _).seq
    (contextInto_binding.comp RotationPlan.context)).seq
    (id32_binding.comp RotationPlan.intentHash)).seq
    (configRefInto_binding.comp RotationPlan.predecessor)).seq
    (configRefInto_binding.comp RotationPlan.successor)).seq
    (rosterInto_binding.comp RotationPlan.oldRoster)).seq
    (rosterInto_binding.comp RotationPlan.newRoster)).seq
    (id32_binding.comp RotationPlan.oldRosterCommitment)).seq
    (id32_binding.comp RotationPlan.newRosterCommitment)).seq
    (u16_binding.comp RotationPlan.oldGuardianThreshold)).seq
    (u16_binding.comp RotationPlan.newGuardianThreshold)).seq
    (u16_binding.comp RotationPlan.dataShards)).seq
    (u16_binding.comp RotationPlan.totalShards)).seq
    (dpssSuiteId_binding.comp RotationPlan.dpssSuite)).seq
    (id32_binding.comp RotationPlan.dpssSessionId)).seq
    (id32_binding.comp RotationPlan.dpssQualifiedSetCommitment)).seq
    (u64_binding.comp RotationPlan.minimumDelaySecs)).seq
    (u64_binding.comp RotationPlan.preparationDeadline)).seq
    (u64_binding.comp RotationPlan.drainDeadline)
    |>.guarded _ |>.guarded _ |>.guarded _ |>.weaken fun a b h => by
      cases a
      cases b
      simpa [and_assoc] using h

theorem reasonId_injective {a b : RotationReason} (h : reasonId a = reasonId b) : a = b := by
  cases a <;> cases b <;> first | rfl | (exact absurd h (by decide))

theorem reasonId_binding : SelfDelimiting (fun v => u16 (reasonId v)) id :=
  (u16_binding.comp reasonId).weaken fun _ _ h => reasonId_injective h

theorem sealedInto_binding : SelfDelimiting sealedInto id :=
  ((bytes_binding.comp SealedMessage.kemCiphertext).seq
    (nonce_binding.comp fun v : SealedMessage => v.payload.nonce)).seq
    (bytes_binding.comp fun v : SealedMessage => v.payload.ciphertext)
    |>.weaken fun a b h => by
      obtain ⟨_, ⟨_, _⟩⟩ := a
      obtain ⟨_, ⟨_, _⟩⟩ := b
      simpa [and_assoc] using h

theorem rotationIntent_framed :
    Framed (domain "gp/rotation-intent/v3") rotationIntent id :=
  (((((((((Framed.start _).seq
    (contextInto_binding.comp RotationIntent.context)).seq
    (reasonId_binding.comp RotationIntent.reason)).seq
    (u16_binding.comp RotationIntent.oldGuardianCount)).seq
    (u16_binding.comp RotationIntent.oldGuardianThreshold)).seq
    ((u16_binding.counted boundedCount_binding).comp RotationIntent.allowedNewGuardianCount)).seq
    ((u16_binding.counted boundedCount_binding).comp
      RotationIntent.allowedNewGuardianThreshold)).seq
    ((dpssSuiteId_binding.counted boundedCount_binding).comp RotationIntent.allowedDpssSuites)).seq
    (id32_binding.comp RotationIntent.selectionConstraintsCommitment)).seq
    (id32_binding.comp RotationIntent.witnessReadQcHash)
    |>.weaken fun a b h => by
      cases a
      cases b
      simpa [and_assoc] using h

def intentContributionUnsigned (value : SignerRotationIntentContribution) :
    SignerRotationIntentContribution :=
  { value with signerSignature := [] }

theorem signerRotationIntentContribution_framed :
    Framed (domain "gp/signer-rotation-intent-contribution/v3")
      signerRotationIntentContribution intentContributionUnsigned :=
  ((((((Framed.start _).seq
    (contextInto_binding.comp SignerRotationIntentContribution.context)).seq
    (id32_binding.comp SignerRotationIntentContribution.intentHash)).seq
    (u16_binding.comp SignerRotationIntentContribution.signerId)).seq
    (id32_binding.comp SignerRotationIntentContribution.signerPublicKey)).seq
    (bytes_binding.comp SignerRotationIntentContribution.signerMembershipProof)).seq
    (sealedInto_binding.comp SignerRotationIntentContribution.encryptedAuthorizationShare)
    |>.weaken fun a b h => by
      simp only [Prod.mk.injEq, id_eq] at h
      simp [intentContributionUnsigned, h]

theorem rotationIntentShareContextV3_framed :
    Framed (domain "gp/rotation-intent-a-share-context/v3")
      (fun v : RotationContext × Id32 × UInt16 => rotationIntentShareContextV3 v.1 v.2.1 v.2.2)
      id :=
  (((Framed.start _).seq (contextInto_binding.comp Prod.fst)).seq
    (id32_binding.comp fun v : RotationContext × Id32 × UInt16 => v.2.1)).seq
    (u16_binding.comp fun v : RotationContext × Id32 × UInt16 => v.2.2)
    |>.weaken fun a b h => by
      obtain ⟨_, _, _⟩ := a
      obtain ⟨_, _, _⟩ := b
      simpa [and_assoc] using h

/-! ### Begin and Release -/

/-- The vote as it is signed. -/
def beginVoteUnsigned (value : SignerRotationBeginVote) : SignerRotationBeginVote :=
  { value with signerSignature := [] }

theorem beginVoteInto_binding (includeSignature : Bool) :
    SelfDelimiting (beginVoteInto includeSignature)
      (fun value => if includeSignature then value else beginVoteUnsigned value) :=
  ((((((((contextInto_binding.comp SignerRotationBeginVote.context).seq
    (id32_binding.comp SignerRotationBeginVote.intentHash)).seq
    (id32_binding.comp SignerRotationBeginVote.planHash)).seq
    (id32_binding.comp SignerRotationBeginVote.oldRosterCommitment)).seq
    (id32_binding.comp SignerRotationBeginVote.newRosterCommitment)).seq
    (u16_binding.comp SignerRotationBeginVote.signerId)).seq
    (id32_binding.comp SignerRotationBeginVote.signerPublicKey)).seq
    (bytes_binding.comp SignerRotationBeginVote.signerMembershipProof)).seq
    (signatureInto_binding.comp SignerRotationBeginVote.signerSignature)
    |>.weaken fun a b h => by
      simp only [Prod.mk.injEq, id_eq] at h
      cases includeSignature with
      | true => cases a; cases b; simpa [and_assoc] using h
      | false => simp [beginVoteUnsigned, h]

theorem signerRotationBeginVote_framed :
    Framed (domain "gp/signer-rotation-begin-vote/v3") signerRotationBeginVote beginVoteUnsigned :=
  (Framed.start _).seq (beginVoteInto_binding false) |>.weaken fun _ _ h => by
    simpa using h

theorem beginRotationCertificate_framed :
    Framed (domain "gp/begin-rotation-certificate/v3") beginRotationCertificate id :=
  (((((((Framed.start _).seq
    (contextInto_binding.comp BeginRotationCertificate.context)).seq
    (id32_binding.comp BeginRotationCertificate.intentHash)).seq
    (id32_binding.comp BeginRotationCertificate.planHash)).seq
    (id32_binding.comp BeginRotationCertificate.oldRosterCommitment)).seq
    (id32_binding.comp BeginRotationCertificate.newRosterCommitment)).seq
    (u64_binding.comp BeginRotationCertificate.notBeforeWall)).seq
    (((beginVoteInto_binding true).counted boundedCount_binding).comp
      BeginRotationCertificate.votes)
    |>.guarded _ |>.guarded _ |>.weaken fun a b h => by
      cases a
      cases b
      simpa [and_assoc] using h

/-- The vote as it is signed. -/
def releaseVoteUnsigned (value : SignerRotationReleaseVote) : SignerRotationReleaseVote :=
  { value with signerSignature := [] }

theorem releaseVoteInto_binding (includeSignature : Bool) :
    SelfDelimiting (releaseVoteInto includeSignature)
      (fun value => if includeSignature then value else releaseVoteUnsigned value) :=
  ((((((contextInto_binding.comp SignerRotationReleaseVote.context).seq
    (id32_binding.comp SignerRotationReleaseVote.planHash)).seq
    (id32_binding.comp SignerRotationReleaseVote.beginCertificateHash)).seq
    (u16_binding.comp SignerRotationReleaseVote.signerId)).seq
    (id32_binding.comp SignerRotationReleaseVote.signerPublicKey)).seq
    (bytes_binding.comp SignerRotationReleaseVote.signerMembershipProof)).seq
    (signatureInto_binding.comp SignerRotationReleaseVote.signerSignature)
    |>.weaken fun a b h => by
      simp only [Prod.mk.injEq, id_eq] at h
      cases includeSignature with
      | true => cases a; cases b; simpa [and_assoc] using h
      | false => simp [releaseVoteUnsigned, h]

theorem signerRotationReleaseVote_framed :
    Framed (domain "gp/signer-rotation-release-vote/v3")
      signerRotationReleaseVote releaseVoteUnsigned :=
  (Framed.start _).seq (releaseVoteInto_binding false) |>.weaken fun _ _ h => by
    simpa using h

/-! ### Ready -/

theorem preparedLeafInto_binding : SelfDelimiting preparedLeafInto id :=
  (((((u16_binding.comp PreparedRecordLeaf.guardianIndex).seq
    (u16_binding.comp PreparedRecordLeaf.fragmentIndex)).seq
    (id32_binding.comp PreparedRecordLeaf.opaqueSlotId)).seq
    (id32_binding.comp PreparedRecordLeaf.encryptedShareHash)).seq
    (id32_binding.comp PreparedRecordLeaf.fragmentHash)).seq
    (id32_binding.comp PreparedRecordLeaf.policyHash)
    |>.weaken fun a b h => by
      cases a
      cases b
      simpa [and_assoc] using h

theorem preparedRecordLeafV3_framed :
    Framed (domain "gp/prepared-record-leaf/v3") preparedRecordLeafV3 id :=
  (Framed.start _).seq preparedLeafInto_binding |>.weaken fun _ _ h => by
    simpa using h

/-- The acknowledgement as it is signed. -/
def preparedAckUnsigned (value : NewGuardianPreparedAck) : NewGuardianPreparedAck :=
  { value with guardianSignature := [] }

theorem preparedAckInto_binding (includeSignature : Bool) :
    SelfDelimiting (preparedAckInto includeSignature)
      (fun value => if includeSignature then value else preparedAckUnsigned value) :=
  (((((((contextInto_binding.comp NewGuardianPreparedAck.context).seq
    (id32_binding.comp NewGuardianPreparedAck.planHash)).seq
    (id32_binding.comp NewGuardianPreparedAck.dpssResultCommitment)).seq
    (id32_binding.comp NewGuardianPreparedAck.guardianMaterialRoot)).seq
    (u16_binding.comp NewGuardianPreparedAck.newGuardianIndex)).seq
    (preparedLeafInto_binding.comp NewGuardianPreparedAck.preparedRecordLeaf)).seq
    (u64_binding.comp NewGuardianPreparedAck.durableWriteGeneration)).seq
    (signatureInto_binding.comp NewGuardianPreparedAck.guardianSignature)
    |>.weaken fun a b h => by
      simp only [Prod.mk.injEq, id_eq] at h
      cases includeSignature with
      | true => cases a; cases b; simpa [and_assoc] using h
      | false => simp [preparedAckUnsigned, h]

theorem newGuardianPreparedAck_framed :
    Framed (domain "gp/new-guardian-prepared-ack/v3") newGuardianPreparedAck preparedAckUnsigned :=
  (Framed.start _).seq (preparedAckInto_binding false) |>.guarded _ |>.weaken fun _ _ h => by
    simpa using h

/-- The acknowledgement as it is signed. -/
def handoffAckUnsigned (value : OldGuardianHandoffAck) : OldGuardianHandoffAck :=
  { value with guardianSignature := [] }

theorem handoffAckInto_binding (includeSignature : Bool) :
    SelfDelimiting (handoffAckInto includeSignature)
      (fun value => if includeSignature then value else handoffAckUnsigned value) :=
  (((((contextInto_binding.comp OldGuardianHandoffAck.context).seq
    (id32_binding.comp OldGuardianHandoffAck.planHash)).seq
    (id32_binding.comp OldGuardianHandoffAck.dpssResultCommitment)).seq
    (id32_binding.comp OldGuardianHandoffAck.qualifiedSetCommitment)).seq
    (u16_binding.comp OldGuardianHandoffAck.oldGuardianIndex)).seq
    (signatureInto_binding.comp OldGuardianHandoffAck.guardianSignature)
    |>.weaken fun a b h => by
      simp only [Prod.mk.injEq, id_eq] at h
      cases includeSignature with
      | true => cases a; cases b; simpa [and_assoc] using h
      | false => simp [handoffAckUnsigned, h]

theorem oldGuardianHandoffAck_framed :
    Framed (domain "gp/old-guardian-handoff-ack/v3") oldGuardianHandoffAck handoffAckUnsigned :=
  (Framed.start _).seq (handoffAckInto_binding false) |>.weaken fun _ _ h => by
    simpa using h

theorem rotationReadyCertificate_framed :
    Framed (domain "gp/rotation-ready-certificate/v3") rotationReadyCertificate id :=
  ((((((((Framed.start _).seq
    (contextInto_binding.comp RotationReadyCertificate.context)).seq
    (id32_binding.comp RotationReadyCertificate.planHash)).seq
    (configRefInto_binding.comp RotationReadyCertificate.successor)).seq
    (id32_binding.comp RotationReadyCertificate.dpssResultCommitment)).seq
    (id32_binding.comp RotationReadyCertificate.guardianMaterialRoot)).seq
    (id32_binding.comp RotationReadyCertificate.encryptedDescriptorHash)).seq
    (((preparedAckInto_binding true).counted boundedCount_binding).comp
      RotationReadyCertificate.preparedAcks)).seq
    (((handoffAckInto_binding true).counted boundedCount_binding).comp
      RotationReadyCertificate.oldHandoffAcks)
    |>.guarded _ |>.guarded _ |>.guarded _ |>.weaken fun a b h => by
      cases a
      cases b
      simpa [and_assoc] using h

/-! ### Abort -/

theorem stateId_injective {a b : RotationState} (h : stateId a = stateId b) : a = b := by
  cases a <;> cases b <;> first | rfl | (exact absurd h (by decide))

theorem stateId_binding : SelfDelimiting (fun v => u16 (stateId v)) id :=
  (u16_binding.comp stateId).weaken fun _ _ h => stateId_injective h

/-- The vote as it is signed. -/
def abortVoteUnsigned (value : SignerRotationAbortVote) : SignerRotationAbortVote :=
  { value with signerSignature := [] }

theorem signerRotationAbortVoteInto_binding (includeSignature : Bool) :
    SelfDelimiting (signerRotationAbortVoteInto includeSignature)
      (fun value => if includeSignature then value else abortVoteUnsigned value) :=
  (((((((contextInto_binding.comp SignerRotationAbortVote.context).seq
    (id32_binding.comp SignerRotationAbortVote.planHash)).seq
    (stateId_binding.comp SignerRotationAbortVote.stateAtAbort)).seq
    (u16_binding.comp SignerRotationAbortVote.reasonCode)).seq
    (u16_binding.comp SignerRotationAbortVote.signerId)).seq
    (id32_binding.comp SignerRotationAbortVote.signerPublicKey)).seq
    (bytes_binding.comp SignerRotationAbortVote.signerMembershipProof)).seq
    (signatureInto_binding.comp SignerRotationAbortVote.signerSignature)
    |>.weaken fun a b h => by
      simp only [Prod.mk.injEq, id_eq] at h
      cases includeSignature with
      | true => cases a; cases b; simpa [and_assoc] using h
      | false => simp [abortVoteUnsigned, h]

theorem signerRotationAbortVote_framed :
    Framed (domain "gp/signer-rotation-abort-vote/v3") signerRotationAbortVote abortVoteUnsigned :=
  (Framed.start _).seq (signerRotationAbortVoteInto_binding false) |>.weaken fun _ _ h => by
    simpa using h

theorem abortRotationCertificate_framed :
    Framed (domain "gp/abort-rotation-certificate/v3") abortRotationCertificate id :=
  (((((Framed.start _).seq
    (contextInto_binding.comp AbortRotationCertificate.context)).seq
    (id32_binding.comp AbortRotationCertificate.planHash)).seq
    (stateId_binding.comp AbortRotationCertificate.stateAtAbort)).seq
    (u16_binding.comp AbortRotationCertificate.reasonCode)).seq
    (((signerRotationAbortVoteInto_binding true).counted boundedCount_binding).comp
      AbortRotationCertificate.votes)
    |>.guarded _ |>.weaken fun a b h => by
      cases a
      cases b
      simpa [and_assoc] using h

/-! ### Recovery -/

theorem recoveryRequestV3_framed :
    Framed (domain "gp/recovery-request/v3") recoveryRequestV3 id :=
  (((((((Framed.start _).seq
    (u16_binding.comp RecoveryRequestV3.protocolVersion)).seq
    (configRefInto_binding.comp RecoveryRequestV3.configRef)).seq
    (id32_binding.comp RecoveryRequestV3.requestId)).seq
    (bytes_binding.comp RecoveryRequestV3.recoveryRecipientKey)).seq
    (u64_binding.comp RecoveryRequestV3.requestedAt)).seq
    (id32_binding.comp RecoveryRequestV3.nonce)).seq
    (u64_binding.comp RecoveryRequestV3.expiry)
    |>.guarded _ |>.weaken fun a b h => by
      cases a
      cases b
      simpa [and_assoc] using h

/-- A nested transcript binds what it binds on its own. -/
theorem nested_binding {α β : Type} {enc : α → Put} {view : α → β} (h : SelfDelimiting enc view) :
    SelfDelimiting (fun a => nested (enc a)) view := by
  intro a b x y r s ha hb heq
  simp only [nested, bind_eq_ok] at ha hb
  obtain ⟨inner, hinner, hx⟩ := ha
  obtain ⟨inner', hinner', hy⟩ := hb
  obtain ⟨hsame, hrest⟩ := bytes_binding hx hy heq
  cases hsame
  exact ⟨h.injective hinner hinner', hrest⟩

theorem nestedRequestV3_binding : SelfDelimiting (fun v => nested (recoveryRequestV3 v)) id :=
  nested_binding recoveryRequestV3_framed.binds

theorem recoveryRequestDigestV3_framed :
    Framed (domain "gp/recovery-request-digest/v3") recoveryRequestDigestV3 id :=
  (Framed.start _).seq nestedRequestV3_binding |>.weaken fun _ _ h => by
    simpa using h

theorem recoveryAuthorizationShareContextV3_framed :
    Framed (domain "gp/recovery-a-share-context/v3")
      (fun v : RecoveryRequestV3 × UInt16 => recoveryAuthorizationShareContextV3 v.1 v.2) id :=
  ((Framed.start _).seq (nestedRequestV3_binding.comp Prod.fst)).seq (u16_binding.comp Prod.snd)
    |>.weaken fun a b h => by
      cases a
      cases b
      simpa using h

/-- The contribution as it is signed. -/
def recoveryContributionUnsigned (value : SignerRecoveryContributionV3) :
    SignerRecoveryContributionV3 :=
  { value with signerSignature := [] }

theorem signerRecoveryContributionInto_binding (includeSignature : Bool) :
    SelfDelimiting (signerRecoveryContributionInto includeSignature)
      (fun value => if includeSignature then value else recoveryContributionUnsigned value) :=
  (((((nestedRequestV3_binding.comp SignerRecoveryContributionV3.request).seq
    (u16_binding.comp SignerRecoveryContributionV3.signerId)).seq
    (id32_binding.comp SignerRecoveryContributionV3.signerPublicKey)).seq
    (bytes_binding.comp SignerRecoveryContributionV3.signerMembershipProof)).seq
    (sealedInto_binding.comp SignerRecoveryContributionV3.encryptedAuthorizationShare)).seq
    (signatureInto_binding.comp SignerRecoveryContributionV3.signerSignature)
    |>.weaken fun a b h => by
      simp only [Prod.mk.injEq, id_eq] at h
      cases includeSignature with
      | true => cases a; cases b; simpa [and_assoc] using h
      | false => simp [recoveryContributionUnsigned, h]

theorem signerRecoveryContributionV3_framed :
    Framed (domain "gp/signer-recovery-contribution/v3")
      signerRecoveryContributionV3 recoveryContributionUnsigned :=
  (Framed.start _).seq (signerRecoveryContributionInto_binding false) |>.weaken fun _ _ h => by
    simpa using h

/-- The vote as it is signed. -/
def recoveryReleaseVoteUnsigned (value : SignerRecoveryReleaseVoteV3) :
    SignerRecoveryReleaseVoteV3 :=
  { value with signerSignature := [] }

theorem signerRecoveryReleaseVoteInto_binding (includeSignature : Bool) :
    SelfDelimiting (signerRecoveryReleaseVoteInto includeSignature)
      (fun value => if includeSignature then value else recoveryReleaseVoteUnsigned value) :=
  (((((nestedRequestV3_binding.comp SignerRecoveryReleaseVoteV3.request).seq
    (id32_binding.comp SignerRecoveryReleaseVoteV3.requestDigest)).seq
    (u16_binding.comp SignerRecoveryReleaseVoteV3.signerId)).seq
    (id32_binding.comp SignerRecoveryReleaseVoteV3.signerPublicKey)).seq
    (bytes_binding.comp SignerRecoveryReleaseVoteV3.signerMembershipProof)).seq
    (signatureInto_binding.comp SignerRecoveryReleaseVoteV3.signerSignature)
    |>.weaken fun a b h => by
      simp only [Prod.mk.injEq, id_eq] at h
      cases includeSignature with
      | true => cases a; cases b; simpa [and_assoc] using h
      | false => simp [recoveryReleaseVoteUnsigned, h]

theorem signerRecoveryReleaseVoteV3_framed :
    Framed (domain "gp/signer-recovery-release-vote/v3")
      signerRecoveryReleaseVoteV3 recoveryReleaseVoteUnsigned :=
  (Framed.start _).seq (signerRecoveryReleaseVoteInto_binding false) |>.weaken fun _ _ h => by
    simpa using h

end MasterRecovery.Wire
