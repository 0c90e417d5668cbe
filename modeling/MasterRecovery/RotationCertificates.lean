import MasterRecovery.RotationProtocol
import MasterRecovery.SignerWire
import Mathlib.Data.List.Sort

/-!
# Plans, certificates and recovery requests (gp-network/src/rotation_protocol.rs)

The validators a signer or a guardian runs on what a coordinator sends, in the
source's order and with its messages.
-/

namespace MasterRecovery
open Checks Transcript

variable (crypto : Crypto)

/-! ### Plan and Intent -/

def routesByIndex (roster : List GuardianRouteV3) : Std.TreeMap UInt16 GuardianRouteV3 :=
  Std.TreeMap.ofList (roster.map fun route => (route.guardianIndex, route))

/-- Indices of the first roster that the second lacks, in ascending order. -/
def missingFrom (roster other : Std.TreeMap UInt16 GuardianRouteV3) : List UInt16 :=
  roster.keys.filter fun id => id ∉ other

/-- A guardian in both rosters keeps its identity and gets a fresh route. -/
def KeepsIdentity (oldRoute newRoute : GuardianRouteV3) : Prop :=
  newRoute.guardianPublicKey = oldRoute.guardianPublicKey ∧
    newRoute.sessionRecipientKey = oldRoute.sessionRecipientKey ∧
    newRoute.operatorDomainCommitment = oldRoute.operatorDomainCommitment ∧
    newRoute.opaqueSlotId ≠ oldRoute.opaqueSlotId ∧ newRoute.mailbox ≠ oldRoute.mailbox

instance (oldRoute newRoute : GuardianRouteV3) : Decidable (KeepsIdentity oldRoute newRoute) := by
  unfold KeepsIdentity
  infer_instance

/-- No value of the field occurs twice in the roster. -/
def DistinctField {β : Type} [DecidableEq β] (field : GuardianRouteV3 → β)
    (roster : Std.TreeMap UInt16 GuardianRouteV3) : Prop :=
  (roster.values.map field).toFinset.card = roster.size

instance {β : Type} [DecidableEq β] (field : GuardianRouteV3 → β)
    (roster : Std.TreeMap UInt16 GuardianRouteV3) : Decidable (DistinctField field roster) := by
  unfold DistinctField
  infer_instance

def validateRotationPlanAgainstIntentV3 (plan : RotationPlan) (intent : RotationIntent)
    (predecessor : ConfigCapsuleV3) (now : UInt64) : Except String Id32 := do
  let planHash ← validateRotationPlanV3 crypto plan predecessor now
  let intentTranscript ← wire (Wire.rotationIntent intent)
  bailIf (plan.context ≠ intent.context ∨ plan.intentHash ≠ crypto.sha256 intentTranscript ∨
    intent.oldGuardianCount ≠ predecessor.guardianCount ∨
    intent.oldGuardianThreshold ≠ predecessor.guardianThreshold ∨
    (¬∃ count ∈ intent.allowedNewGuardianCount, count.toNat = plan.newRoster.length) ∨
    plan.newGuardianThreshold ∉ intent.allowedNewGuardianThreshold ∨
    plan.dpssSuite ∉ intent.allowedDpssSuites ∨
    plan.dpssQualifiedSetCommitment ≠ plan.newRosterCommitment ∨
    plan.preparationDeadline ≤ now)
    "rotation plan violates the signer-approved Intent constraints"
  let old := routesByIndex plan.oldRoster
  let new := routesByIndex plan.newRoster
  let replacement := "routine rotation must replace the exact one guardian authorized by Intent"
  let pair ← okOr (match missingFrom old new, missingFrom new old with
    | [removed], [added] => some (removed, added)
    | _, _ => none) replacement
  bailIf (crypto.sha256 (beBytes 2 pair.1.toNat) ≠ intent.selectionConstraintsCommitment)
    replacement
  bailIf (∃ route ∈ old.toList, ∃ newRoute ∈ new[route.1]?, ¬KeepsIdentity route.2 newRoute)
    "unchanged guardian identity changed or did not receive a fresh route"
  bailIf (¬DistinctField (·.guardianPublicKey) new ∨ ¬DistinctField (·.mailbox) new ∨
    ¬DistinctField (·.opaqueSlotId) new ∨ ¬DistinctField (·.operatorDomainCommitment) new ∨
    ∃ route ∈ new[pair.2]?, route.guardianPublicKey ∈ old.values.map (·.guardianPublicKey))
    "successor roster contains a reused or duplicate guardian identity/route"
  .ok planHash

/-! ### Begin, Release and Abort certificates -/

def validateBeginRotationCertificateV3 (certificate : BeginRotationCertificate)
    (plan : RotationPlan) (predecessor : ConfigCapsuleV3) (now : UInt64) : Except String Id32 := do
  let planHash ← validateRotationPlanV3 crypto plan predecessor now
  let transcript ← wire (Wire.beginRotationCertificate certificate)
  bailIf (certificate.context ≠ plan.context ∨ certificate.intentHash ≠ plan.intentHash ∨
    certificate.planHash ≠ planHash ∨
    certificate.oldRosterCommitment ≠ plan.oldRosterCommitment ∨
    certificate.newRosterCommitment ≠ plan.newRosterCommitment ∨
    plan.preparationDeadline ≤ now ∨
    certificate.notBeforeWall < saturatingAdd certificate.context.issuedAt plan.minimumDelaySecs)
    "Begin certificate does not bind the exact plan and delay"
  let ids ← scanDistinct (·.signerId) (fun _ => .ok ()) "duplicate signer Begin vote"
    (fun vote => do
      validateSignerMembership crypto vote.signerId vote.signerPublicKey
        vote.signerMembershipProof predecessor
      let voteTranscript ← wire (Wire.signerRotationBeginVote vote)
      crypt (crypto.verify vote.signerPublicKey voteTranscript vote.signerSignature))
    ∅ certificate.votes
  bailIf (ids.card < predecessor.signerThreshold.toNat)
    "Begin certificate has no signer threshold"
  .ok (crypto.sha256 transcript)

def validateAbortRotationCertificateV3 (certificate : AbortRotationCertificate)
    (plan : RotationPlan) (predecessor : ConfigCapsuleV3) (now : UInt64) : Except String Id32 := do
  let planHash ← validateRotationPlanV3 crypto plan predecessor now
  let transcript ← wire (Wire.abortRotationCertificate certificate)
  bailIf (certificate.context ≠ plan.context ∨ certificate.planHash ≠ planHash ∨
    certificate.stateAtAbort ∉ [RotationState.proposed, .delayPending, .preparing, .ready,
      .activating]) "Abort certificate is post-activation or plan-mismatched"
  let mismatch := "Abort certificate contains a duplicate or mismatched vote"
  let signerIds ← scanDistinct (·.signerId)
    (fun vote => bailIf (vote.context ≠ certificate.context ∨
      vote.planHash ≠ certificate.planHash ∨ vote.stateAtAbort ≠ certificate.stateAtAbort ∨
      vote.reasonCode ≠ certificate.reasonCode) mismatch)
    mismatch
    (fun vote => do
      validateSignerMembership crypto vote.signerId vote.signerPublicKey
        vote.signerMembershipProof predecessor
      let voteTranscript ← wire (Wire.signerRotationAbortVote vote)
      crypt (crypto.verify vote.signerPublicKey voteTranscript vote.signerSignature))
    ∅ certificate.votes
  bailIf (signerIds.card < predecessor.signerThreshold.toNat)
    "Abort certificate lacks a signer threshold"
  .ok (crypto.sha256 transcript)

/-! ### Ready -/

def guardianKeys (roster : List GuardianRouteV3) : Std.TreeMap UInt16 PublicKey :=
  Std.TreeMap.ofList (roster.map fun route => (route.guardianIndex, route.guardianPublicKey))

def validateRotationReadyCertificateV3 (ready : RotationReadyCertificate) (plan : RotationPlan)
    (predecessor : ConfigCapsuleV3) (now : UInt64) : Except String Id32 := do
  let planHash ← validateRotationPlanV3 crypto plan predecessor now
  let transcript ← wire (Wire.rotationReadyCertificate ready)
  bailIf (ready.context ≠ plan.context ∨ ready.planHash ≠ planHash ∨
    ready.successor ≠ plan.successor ∨ plan.preparationDeadline ≤ now ∨
    ready.preparedAcks.length ≠ plan.newRoster.length ∨
    ready.oldHandoffAcks.length < plan.oldGuardianThreshold.toNat)
    "Ready certificate is incomplete or plan-mismatched"
  each (fun ack => do
    let key ← okOr (guardianKeys plan.newRoster)[ack.newGuardianIndex]?
      "Prepared ack is from a non-successor guardian"
    let ackTranscript ← wire (Wire.newGuardianPreparedAck ack)
    crypt (crypto.verify key ackTranscript ack.guardianSignature)) ready.preparedAcks
  each (fun ack => do
    let key ← okOr (guardianKeys plan.oldRoster)[ack.oldGuardianIndex]?
      "handoff ack is from a non-predecessor guardian"
    let ackTranscript ← wire (Wire.oldGuardianHandoffAck ack)
    crypt (crypto.verify key ackTranscript ack.guardianSignature)) ready.oldHandoffAcks
  .ok (crypto.sha256 transcript)

/-! ### Witness reads -/

/-- The read loop of `witness_read_quorum_hash_v3`. -/
def readMaterial (ids : Finset UInt16) (material : Bytes) :
    List WitnessReadEnvelope → Except String Bytes
  | [] => .ok material
  | read :: reads => do
    bailIf (read.response.witnessId ∈ ids) "duplicate witness in read transcript"
    let response ← wire (Wire.witnessEpochReadResponse read.response)
    readMaterial (insert read.response.witnessId ids)
      (material ++ response ++ idBytes read.capsule.capsuleHash) reads

/-- Reads are taken in the order of their witness ids. -/
def witnessReadQuorumHashV3 (challenge : EpochReadChallenge) (reads : List WitnessReadEnvelope) :
    Except String Id32 := do
  let ordered := reads.insertionSort fun a b => a.response.witnessId ≤ b.response.witnessId
  let material ← wire (Wire.epochReadChallenge challenge)
  let material ← readMaterial ∅ material ordered
  .ok (crypto.sha256 material)

/-! ### Recovery requests -/

def recoveryRequestDigestV3 (request : RecoveryRequestV3) : Except String Id32 := do
  let transcript ← wire (Wire.recoveryRequestDigestV3 request)
  .ok (crypto.sha256 transcript)

def validateRecoveryRequestForRefV3 (request : RecoveryRequestV3) (capsule : ConfigCapsuleV3)
    (expectedConfigRef : ConfigRef) (now : UInt64) : Except String Id32 := do
  bailIf (request.protocolVersion ≠ protocolVersionV3 ∨ request.configRef ≠ expectedConfigRef ∨
    request.configRef.configId ≠ capsule.configRef.configId ∨
    request.configRef.payloadGeneration ≠ capsule.configRef.payloadGeneration ∨
    request.configRef.authorizationEpoch ≠ capsule.configRef.authorizationEpoch ∨
    request.recoveryRecipientKey.length ≠ xwingPublicKeyLen ∨ now < request.requestedAt ∨
    request.expiry ≤ now ∨
    saturatingAdd request.requestedAt capsule.maxRequestLifetime < request.expiry)
    "invalid, stale, expired, or recipient-mismatched v3 recovery request"
  recoveryRequestDigestV3 crypto request

def validateRecoveryRequestV3 (request : RecoveryRequestV3) (capsule : ConfigCapsuleV3)
    (now : UInt64) : Except String Id32 :=
  validateRecoveryRequestForRefV3 crypto request capsule capsule.configRef now

end MasterRecovery
