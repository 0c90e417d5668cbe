import MasterRecovery.GuardianWireBinding
import MasterRecovery.RecoveryWireBinding

/-!
# No transcript is read as another

Every public transcript function of gp-wire, and that equal bytes come from one call: the same
function, on arguments that differ at most in what that transcript leaves out.
-/

namespace MasterRecovery.Wire
open Checks Transcript

/-- A transcript function: its domain string, what it takes, what it writes, and its arguments
without the fields the transcript leaves out. -/
structure TranscriptFn where
  name : String
  Args : Type
  encode : Args → Put
  bound : Args → Args
  framed : Framed (domain name) encode bound

def TranscriptFn.of {name : String} {α : Type} {encode : α → Put} {bound : α → α}
    (framed : Framed (domain name) encode bound) : TranscriptFn :=
  ⟨name, α, encode, bound, framed⟩

/-- The public functions of gp-wire that start a transcript of their own, in its order. -/
inductive TranscriptKind
  | recoveryRequest
  | signerApproval
  | signerLeaf
  | requestDigestPreimage
  | descriptorContext
  | recipientShareContext
  | guardianReleaseContext
  | ownerCancel
  | ownerCancelAck
  | releaseVote
  | guardianContribution
  | guardianLeaf
  | guardianShareContext
  | payloadContext
  | nodeProvisionContext
  | mailboxTransportContext
  | guardianRosterV3
  | preparedRecordLeafV3
  | rotationIntent
  | signerRotationIntentContribution
  | rotationIntentShareContextV3
  | rotationPlan
  | signerRotationBeginVote
  | beginRotationCertificate
  | ownerRotationCancelCertificate
  | ownerRotationCancelAck
  | signerRotationReleaseVote
  | rotationReleaseCertificate
  | oldShareUnlockGrant
  | oldShareUnlockGrantPayloadContext
  | newShareWrapGrant
  | newShareWrapGrantPayloadContext
  | dpssProtocolMessage
  | ciphertextFragmentContribution
  | newGuardianPreparedAck
  | oldGuardianHandoffAck
  | rotationReadyCertificate
  | signerRotationActivateVote
  | rotationActivateCertificate
  | witnessActivationAck
  | witnessRotationCancelAck
  | epochActivationQc
  | epochReadChallenge
  | witnessEpochReadResponse
  | retirementNotice
  | retirementAck
  | abortRotationCertificate
  | signerRotationAbortVote
  | recoveryRequestV3
  | recoveryRequestDigestV3
  | recoveryAuthorizationShareContextV3
  | signerRecoveryContributionV3
  | beginRecoveryCertificateV3
  | signerRecoveryReleaseVoteV3
  | recoveryReleaseCertificateV3
  | ownerRecoveryCancelCertificateV3
  | ownerRecoveryCancelAckV3
  | guardianRecoveryContributionV3
  | guardianShareContextV3
  | guardianFragmentContextV3
  | descriptorContextV3
  | configCapsuleBodyV3
  | guardianPolicyBodyV3
  | payloadContextV3
  | custodyChallenge
  | custodyResponse
  deriving DecidableEq

namespace TranscriptKind

def fn : TranscriptKind → TranscriptFn
  | recoveryRequest => .of recoveryRequest_framed
  | signerApproval => .of signerApproval_framed
  | signerLeaf => .of signerLeaf_framed
  | requestDigestPreimage => .of requestDigestPreimage_framed
  | descriptorContext => .of descriptorContext_framed
  | recipientShareContext => .of recipientShareContext_framed
  | guardianReleaseContext => .of guardianReleaseContext_framed
  | ownerCancel => .of ownerCancel_framed
  | ownerCancelAck => .of ownerCancelAck_framed
  | releaseVote => .of releaseVote_framed
  | guardianContribution => .of guardianContribution_framed
  | guardianLeaf => .of guardianLeaf_framed
  | guardianShareContext => .of guardianShareContext_framed
  | payloadContext => .of payloadContext_framed
  | nodeProvisionContext => .of nodeProvisionContext_framed
  | mailboxTransportContext => .of mailboxTransportContext_framed
  | guardianRosterV3 => .of guardianRosterV3_framed
  | preparedRecordLeafV3 => .of preparedRecordLeafV3_framed
  | rotationIntent => .of rotationIntent_framed
  | signerRotationIntentContribution => .of signerRotationIntentContribution_framed
  | rotationIntentShareContextV3 => .of rotationIntentShareContextV3_framed
  | rotationPlan => .of rotationPlan_framed
  | signerRotationBeginVote => .of signerRotationBeginVote_framed
  | beginRotationCertificate => .of beginRotationCertificate_framed
  | ownerRotationCancelCertificate => .of ownerRotationCancelCertificate_framed
  | ownerRotationCancelAck => .of ownerRotationCancelAck_framed
  | signerRotationReleaseVote => .of signerRotationReleaseVote_framed
  | rotationReleaseCertificate => .of rotationReleaseCertificate_framed
  | oldShareUnlockGrant => .of oldShareUnlockGrant_framed
  | oldShareUnlockGrantPayloadContext => .of oldShareUnlockGrantPayloadContext_framed
  | newShareWrapGrant => .of newShareWrapGrant_framed
  | newShareWrapGrantPayloadContext => .of newShareWrapGrantPayloadContext_framed
  | dpssProtocolMessage => .of dpssProtocolMessage_framed
  | ciphertextFragmentContribution => .of ciphertextFragmentContribution_framed
  | newGuardianPreparedAck => .of newGuardianPreparedAck_framed
  | oldGuardianHandoffAck => .of oldGuardianHandoffAck_framed
  | rotationReadyCertificate => .of rotationReadyCertificate_framed
  | signerRotationActivateVote => .of signerRotationActivateVote_framed
  | rotationActivateCertificate => .of rotationActivateCertificate_framed
  | witnessActivationAck => .of witnessActivationAck_framed
  | witnessRotationCancelAck => .of witnessRotationCancelAck_framed
  | epochActivationQc => .of epochActivationQc_framed
  | epochReadChallenge => .of epochReadChallenge_framed
  | witnessEpochReadResponse => .of witnessEpochReadResponse_framed
  | retirementNotice => .of retirementNotice_framed
  | retirementAck => .of retirementAck_framed
  | abortRotationCertificate => .of abortRotationCertificate_framed
  | signerRotationAbortVote => .of signerRotationAbortVote_framed
  | recoveryRequestV3 => .of recoveryRequestV3_framed
  | recoveryRequestDigestV3 => .of recoveryRequestDigestV3_framed
  | recoveryAuthorizationShareContextV3 => .of recoveryAuthorizationShareContextV3_framed
  | signerRecoveryContributionV3 => .of signerRecoveryContributionV3_framed
  | beginRecoveryCertificateV3 => .of beginRecoveryCertificateV3_framed
  | signerRecoveryReleaseVoteV3 => .of signerRecoveryReleaseVoteV3_framed
  | recoveryReleaseCertificateV3 => .of recoveryReleaseCertificateV3_framed
  | ownerRecoveryCancelCertificateV3 => .of ownerRecoveryCancelCertificateV3_framed
  | ownerRecoveryCancelAckV3 => .of ownerRecoveryCancelAckV3_framed
  | guardianRecoveryContributionV3 => .of guardianRecoveryContributionV3_framed
  | guardianShareContextV3 => .of guardianShareContextV3_framed
  | guardianFragmentContextV3 => .of guardianFragmentContextV3_framed
  | descriptorContextV3 => .of descriptorContextV3_framed
  | configCapsuleBodyV3 => .of configCapsuleBodyV3_framed
  | guardianPolicyBodyV3 => .of guardianPolicyBodyV3_framed
  | payloadContextV3 => .of payloadContextV3_framed
  | custodyChallenge => .of custodyChallenge_framed
  | custodyResponse => .of custodyResponse_framed

def all : List TranscriptKind :=
  [.recoveryRequest, .signerApproval, .signerLeaf, .requestDigestPreimage, .descriptorContext,
   .recipientShareContext, .guardianReleaseContext, .ownerCancel, .ownerCancelAck, .releaseVote,
   .guardianContribution, .guardianLeaf, .guardianShareContext, .payloadContext,
   .nodeProvisionContext, .mailboxTransportContext, .guardianRosterV3, .preparedRecordLeafV3,
   .rotationIntent, .signerRotationIntentContribution, .rotationIntentShareContextV3,
   .rotationPlan, .signerRotationBeginVote, .beginRotationCertificate,
   .ownerRotationCancelCertificate, .ownerRotationCancelAck, .signerRotationReleaseVote,
   .rotationReleaseCertificate, .oldShareUnlockGrant, .oldShareUnlockGrantPayloadContext,
   .newShareWrapGrant, .newShareWrapGrantPayloadContext, .dpssProtocolMessage,
   .ciphertextFragmentContribution, .newGuardianPreparedAck, .oldGuardianHandoffAck,
   .rotationReadyCertificate, .signerRotationActivateVote, .rotationActivateCertificate,
   .witnessActivationAck, .witnessRotationCancelAck, .epochActivationQc, .epochReadChallenge,
   .witnessEpochReadResponse, .retirementNotice, .retirementAck, .abortRotationCertificate,
   .signerRotationAbortVote, .recoveryRequestV3, .recoveryRequestDigestV3,
   .recoveryAuthorizationShareContextV3, .signerRecoveryContributionV3,
   .beginRecoveryCertificateV3, .signerRecoveryReleaseVoteV3, .recoveryReleaseCertificateV3,
   .ownerRecoveryCancelCertificateV3, .ownerRecoveryCancelAckV3, .guardianRecoveryContributionV3,
   .guardianShareContextV3, .guardianFragmentContextV3, .descriptorContextV3,
   .configCapsuleBodyV3, .guardianPolicyBodyV3, .payloadContextV3, .custodyChallenge,
   .custodyResponse]

theorem mem_all (kind : TranscriptKind) : kind ∈ all := by
  cases kind <;> decide

theorem names_nodup : (all.map fun kind => kind.fn.name).Nodup := by
  decide

theorem name_injective {kind kind' : TranscriptKind} (h : kind.fn.name = kind'.fn.name) :
    kind = kind' :=
  List.inj_on_of_nodup_map names_nodup (mem_all kind) (mem_all kind') h

end TranscriptKind

/-- A call of a transcript function. -/
structure TranscriptCall where
  kind : TranscriptKind
  args : kind.fn.Args

namespace TranscriptCall

def transcript (call : TranscriptCall) : Put := call.kind.fn.encode call.args

/-- The call without the fields its transcript leaves out: the object's own signature, the sealed
keys of a grant in the context they are sealed under, and of a capsule or a policy what is settled
after its body is hashed. -/
def bound (call : TranscriptCall) : TranscriptCall := ⟨call.kind, call.kind.fn.bound call.args⟩

theorem opens {call : TranscriptCall} {x : Bytes} (h : call.transcript = .ok x) :
    Opens call.kind.fn.name x :=
  call.kind.fn.framed.opens h

/-- What follows a transcript cannot be read as part of it. -/
theorem bound_of_append {call call' : TranscriptCall} {x y r s : Bytes}
    (h : call.transcript = .ok x) (h' : call'.transcript = .ok y) (heq : x ++ r = y ++ s) :
    call.bound = call'.bound ∧ r = s := by
  obtain ⟨kind, args⟩ := call
  obtain ⟨kind', args'⟩ := call'
  -- the two domain strings start the same bytes
  have hname : kind.fn.name = kind'.fn.name :=
    (opens h).unique_of_append (opens h') heq
  cases TranscriptKind.name_injective hname
  obtain ⟨hbound, hrest⟩ := kind.fn.framed.binds h h' heq
  exact ⟨congrArg (TranscriptCall.mk kind) hbound, hrest⟩

end TranscriptCall

/-- Equal bytes come from one call, and no transcript is a proper prefix of another. -/
theorem transcript_determines_call (call call' : TranscriptCall) {x y : Bytes}
    (h : call.transcript = .ok x) (h' : call'.transcript = .ok y) :
    (x = y → call.bound = call'.bound) ∧ (x <+: y → x = y) := by
  constructor
  · intro heq
    exact (TranscriptCall.bound_of_append h h' (congrArg (· ++ []) heq)).1
  · rintro ⟨rest, hrest⟩
    have hnil : rest = [] :=
      (TranscriptCall.bound_of_append h h' (s := []) (by simpa using hrest)).2
    simpa [hnil] using hrest

/-! ### Two calls that write the same -/

def sampleCancelAck (guardianSignature : SignatureBytes) : OwnerCancelAck where
  protocolVersion := protocolVersion
  configId := 1
  configVersion := 2
  requestId := 3
  requestDigest := 4
  ownerCancelTranscriptDigest := 5
  guardianIndex := 6
  guardianSignature := guardianSignature

theorem transcript_determines_call_sample :
    ∃ x, ownerCancelAck (sampleCancelAck [1]) = .ok x ∧
      ownerCancelAck (sampleCancelAck [2]) = .ok x ∧
      (⟨.ownerCancelAck, sampleCancelAck [1]⟩ : TranscriptCall).bound =
        (⟨.ownerCancelAck, sampleCancelAck [2]⟩ : TranscriptCall).bound := by
  obtain ⟨x, hx⟩ : Succeeds (ownerCancelAck (sampleCancelAck [1])) :=
    (((((((succeeds_domain _ (by decide)).append (succeeds_u16 _)).append
      (succeeds_id32 _)).append (succeeds_u64 _)).append (succeeds_id32 _)).append
      (succeeds_id32 _)).append (succeeds_id32 _)).append (succeeds_u16 _)
  have hx' : ownerCancelAck (sampleCancelAck [2]) = .ok x := hx
  exact ⟨x, hx, hx', (transcript_determines_call ⟨.ownerCancelAck, sampleCancelAck [1]⟩
    ⟨.ownerCancelAck, sampleCancelAck [2]⟩ hx hx').1 rfl⟩

def sampleUnlockGrant (encryptedUnwrapKey : SealedMessage) : OldShareUnlockGrant where
  context :=
    { protocolVersion := protocolVersionV3
      configRef := ⟨1, 2, 3, 4, 5⟩
      rotationId := 6
      predecessorCapsuleHash := 7
      recipientKey := [8]
      nonce := 9
      issuedAt := 10
      expiry := 11 }
  planHash := 12
  releaseCertificateHash := 13
  oldGuardianIndex := 14
  encryptedUnwrapKey := encryptedUnwrapKey
  encryptedFragmentKey := noSealed

/-- A grant is no signed object, and the context its keys are sealed under is the same for any two
keys. -/
theorem unlock_grant_context_leaves_keys_out :
    (sampleUnlockGrant noSealed).encryptedUnwrapKey ≠
      (sampleUnlockGrant ⟨[1], ⟨0, []⟩⟩).encryptedUnwrapKey ∧
    ∃ x, oldShareUnlockGrantPayloadContext (sampleUnlockGrant noSealed) false = .ok x ∧
      oldShareUnlockGrantPayloadContext (sampleUnlockGrant ⟨[1], ⟨0, []⟩⟩) false = .ok x := by
  obtain ⟨x, hx⟩ :
      Succeeds (oldShareUnlockGrantPayloadContext (sampleUnlockGrant noSealed) false) :=
    (((((succeeds_domain _ (by decide)).append
      (succeeds_contextInto rfl (by decide) (by decide))).append (succeeds_id32 _)).append
      (succeeds_id32 _)).append (succeeds_u16 _)).append (succeeds_u16 _)
  exact ⟨by decide, x, hx, hx⟩

end MasterRecovery.Wire
