import MasterRecovery.Wire
import Std.Data.TreeMap
import Mathlib.Data.Finset.Card

/-!
# Certificate and quorum validation (gp-network/src/rotation_protocol.rs)

The refusals of each validator, in the source's order and with its messages. A
`u16` fault bound cannot overflow the `usize` products of the quorum sizes.
-/

namespace MasterRecovery
open Checks

/-- `?` on a typed error keeps its text. -/
def wire {α : Type} (x : Except WireError α) : Except String α := x.mapError WireError.text

def crypt {α : Type} (x : Except CryptoError α) : Except String α := x.mapError CryptoError.text

@[simp] theorem wire_eq_ok {α : Type} {x : Except WireError α} {a : α} :
    wire x = .ok a ↔ x = .ok a :=
  mapError_eq_ok

@[simp] theorem crypt_eq_ok {α : Type} {x : Except CryptoError α} {a : α} :
    crypt x = .ok a ↔ x = .ok a :=
  mapError_eq_ok

def requiredWitnessQuorum (faultBound : UInt16) : ℕ := 2 * faultBound.toNat + 1

def requiredWitnessRoster (faultBound : UInt16) : ℕ := 3 * faultBound.toNat + 1

/-! ### Recovery Card -/

/-- The pin loop of `validate_recovery_card_v3`. -/
def checkPins (ids : Finset UInt16) (keys : Finset PublicKey) (mailboxes : Finset String) :
    List WitnessPin → Except String Unit
  | [] => .ok ()
  | pin :: pins => do
    bailIf (pin.witnessId = 0 ∨ pin.mailbox = "" ∨ pin.witnessId ∈ ids ∨ pin.publicKey ∈ keys ∨
      pin.mailbox ∈ mailboxes) "Recovery Card contains an invalid or duplicate witness pin"
    checkPins (insert pin.witnessId ids) (insert pin.publicKey keys)
      (insert pin.mailbox mailboxes) pins

def validateRecoveryCardV3 (card : RecoveryCardV3) : Except String Unit := do
  bailIf (card.protocolVersion ≠ protocolVersionV3 ∨ card.witnessFaultBound = 0)
    "invalid protocol-v3 Recovery Card"
  bailIf (card.witnesses.length < requiredWitnessRoster card.witnessFaultBound)
    "Recovery Card does not pin at least 3f+1 witnesses"
  checkPins ∅ ∅ ∅ card.witnesses

def witnessPins (card : RecoveryCardV3) : Std.TreeMap UInt16 WitnessPin :=
  Std.TreeMap.ofList (card.witnesses.map fun pin => (pin.witnessId, pin))

def validateSignerMembership (crypto : Crypto) (signerId : UInt16) (signerPublicKey : PublicKey)
    (membershipProof : MerkleProofBytes) (capsule : ConfigCapsuleV3) : Except String Unit := do
  bailIf (signerId = 0 ∨ capsule.signerCount < signerId) "invalid signer id"
  let leaf ← wire (Wire.signerLeaf signerId signerPublicKey)
  crypt (crypto.merkleVerify capsule.signerSetCommitment (crypto.sha256 leaf)
    (signerId.toNat - 1) capsule.signerCount.toNat membershipProof)

/-! ### Plans and owner cancellation -/

def validateRotationPlanV3 (crypto : Crypto) (plan : RotationPlan) (predecessor : ConfigCapsuleV3)
    (now : UInt64) : Except String Id32 := do
  let transcript ← wire (Wire.rotationPlan plan)
  bailIf (plan.context.protocolVersion ≠ protocolVersionV3 ∨
    plan.context.configRef ≠ predecessor.configRef ∨
    plan.context.predecessorCapsuleHash ≠ predecessor.capsuleHash ∨
    plan.predecessor ≠ predecessor.configRef ∨
    ¬plan.successor.IsDirectSuccessorOf plan.predecessor ∨ now < plan.context.issuedAt ∨
    plan.context.expiry ≤ now ∨ plan.preparationDeadline ≤ plan.context.issuedAt ∨
    plan.drainDeadline ≤ plan.preparationDeadline ∨
    plan.minimumDelaySecs < predecessor.minimumRecoveryDelay ∨
    plan.oldGuardianThreshold ≠ predecessor.guardianThreshold ∨
    plan.dataShards ≠ predecessor.guardianThreshold ∨
    plan.totalShards ≠ predecessor.guardianCount ∨
    plan.oldRoster.length ≠ predecessor.guardianCount.toNat ∨
    plan.newRoster.length ≠ plan.totalShards.toNat ∨ plan.newGuardianThreshold < 2 ∨
    plan.newRoster.length < plan.newGuardianThreshold.toNat)
    "rotation plan is stale, malformed, or weakens immutable policy"
  let oldRoster ← wire (Wire.guardianRosterV3 plan.oldRoster)
  let newRoster ← wire (Wire.guardianRosterV3 plan.newRoster)
  bailIf (crypto.sha256 oldRoster ≠ plan.oldRosterCommitment ∨
    crypto.sha256 newRoster ≠ plan.newRosterCommitment) "rotation roster commitment mismatch"
  .ok (crypto.sha256 transcript)

def validateOwnerRotationCancelWitnessQuorumV3 (crypto : Crypto)
    (certificate : OwnerRotationCancelCertificate) (witnessAcks : List WitnessRotationCancelAck)
    (card : RecoveryCardV3) (plan : RotationPlan) (predecessor : ConfigCapsuleV3)
    (now : UInt64) : Except String Id32 := do
  validateRecoveryCardV3 card
  let planHash ← validateRotationPlanV3 crypto plan predecessor now
  bailIf (card.configId ≠ predecessor.configRef.configId ∨
    card.ownerCancelPublicKey ≠ predecessor.ownerCancelPublicKey ∨
    certificate.context ≠ plan.context ∨ certificate.planHash ≠ planHash ∨
    certificate.ownerCancelPublicKey ≠ predecessor.ownerCancelPublicKey ∨
    certificate.cancelResponseRecipientKey.length ≠ xwingPublicKeyLen)
    "owner rotation cancellation does not bind the active plan and card"
  let cancelTranscript ← wire (Wire.ownerRotationCancelCertificate certificate)
  crypt (crypto.verify certificate.ownerCancelPublicKey cancelTranscript
    certificate.ownerSignature)
  let cancelHash := crypto.sha256 cancelTranscript
  let mismatch := "owner cancellation contains a duplicate or mismatched witness veto"
  let witnessIds ← scanDistinct (·.witnessId)
    (fun ack => do
      let pin ← okOr (witnessPins card)[ack.witnessId]?
        "owner cancellation uses an unpinned witness"
      bailIf (ack.protocolVersion ≠ protocolVersionV3 ∨ ack.configId ≠ card.configId ∨
        ack.rotationId ≠ plan.context.rotationId ∨ ack.planHash ≠ planHash ∨
        ack.cancelCertificateHash ≠ cancelHash ∨ ack.witnessPublicKey ≠ pin.publicKey) mismatch)
    mismatch
    (fun ack => do
      let pin ← okOr (witnessPins card)[ack.witnessId]?
        "owner cancellation uses an unpinned witness"
      let transcript ← wire (Wire.witnessRotationCancelAck ack)
      crypt (crypto.verify pin.publicKey transcript ack.witnessSignature))
    ∅ witnessAcks
  bailIf (witnessIds.card < requiredWitnessQuorum card.witnessFaultBound)
    "owner cancellation lacks a 2f+1 witness veto quorum"
  .ok cancelHash

/-! ### Activated capsules -/

def validateActivateCertificate (crypto : Crypto) (capsule : ConfigCapsuleV3)
    (certificate : RotationActivateCertificate) : Except String Id32 := do
  bailIf (certificate.successor ≠ capsule.configRef ∨
    certificate.successorCapsuleHash ≠ capsule.capsuleHash ∨
    certificate.context.configRef.configId ≠ capsule.configRef.configId ∨
    certificate.context.configRef.payloadGeneration ≠ capsule.configRef.payloadGeneration ∨
    certificate.context.configRef.authorizationEpoch ≠ capsule.configRef.authorizationEpoch ∨
    saturatingAdd certificate.context.configRef.guardianEpoch 1 ≠
      capsule.configRef.guardianEpoch ∨
    certificate.context.predecessorCapsuleHash ≠ capsule.predecessorCapsuleHash)
    "Activate certificate does not bind the exact direct successor"
  let transcript ← wire (Wire.rotationActivateCertificate certificate)
  let invalidId := "Activate certificate contains an invalid signer id"
  let signerIds ← scanDistinct (·.signerId) (fun _ => .ok ()) invalidId
    (fun vote => do
      bailIf (vote.signerId = 0 ∨ capsule.signerCount < vote.signerId) invalidId
      let leaf ← wire (Wire.signerLeaf vote.signerId vote.signerPublicKey)
      crypt (crypto.merkleVerify capsule.signerSetCommitment (crypto.sha256 leaf)
        (vote.signerId.toNat - 1) capsule.signerCount.toNat vote.signerMembershipProof)
      let voteTranscript ← wire (Wire.signerRotationActivateVote vote)
      crypt (crypto.verify vote.signerPublicKey voteTranscript vote.signerSignature))
    ∅ certificate.votes
  bailIf (signerIds.card < capsule.signerThreshold.toNat)
    "Activate certificate has no signer threshold"
  .ok (crypto.sha256 transcript)

def validateActivatedCapsuleV3 (crypto : Crypto) (card : RecoveryCardV3)
    (capsule : ConfigCapsuleV3) : Except String Unit := do
  validateRecoveryCardV3 card
  let body ← wire (Wire.configCapsuleBodyV3 capsule)
  bailIf (capsule.protocolVersion ≠ protocolVersionV3 ∨
    capsule.configRef.configId ≠ card.configId ∨
    capsule.signerSetCommitment ≠ card.signerSetCommitment ∨
    capsule.ownerCancelPublicKey ≠ card.ownerCancelPublicKey ∨
    capsule.capsuleHash ≠ crypto.sha256 body)
    "capsule does not match the Recovery Card or its canonical body"
  if capsule.configRef.guardianEpoch = 1 then
    bailIf (capsule.predecessorCapsuleHash ≠ 0 ∨ capsule.activationCertificate.isSome ∨
      capsule.activationQc.isSome) "invalid genesis capsule"
  else do
    let certificate ← okOr capsule.activationCertificate
      "successor capsule has no Activate certificate"
    let activationCertificateHash ← validateActivateCertificate crypto capsule certificate
    let qc ← okOr capsule.activationQc "successor capsule has no activation QC"
    let _ ← wire (Wire.epochActivationQc qc)
    bailIf (qc.protocolVersion ≠ protocolVersionV3 ∨ qc.configId ≠ card.configId ∨
      qc.rotationId ≠ certificate.context.rotationId ∨
      qc.predecessorEpoch ≠ certificate.context.configRef.guardianEpoch ∨
      qc.predecessorCapsuleHash ≠ capsule.predecessorCapsuleHash ∨
      qc.successorEpoch ≠ capsule.configRef.guardianEpoch ∨
      qc.successorCapsuleHash ≠ capsule.capsuleHash ∨
      qc.activationCertificateHash ≠ activationCertificateHash ∨
      qc.witnessFaultBound ≠ card.witnessFaultBound)
      "activation QC does not bind the exact capsule and certificate"
    let mismatch := "activation QC contains a duplicate or mismatched witness ack"
    let witnessIds ← scanDistinct (·.witnessId)
      (fun ack => do
        let _ ← okOr (witnessPins card)[ack.witnessId]? "activation QC uses an unpinned witness"
        pure ())
      mismatch
      (fun ack => do
        let pin ← okOr (witnessPins card)[ack.witnessId]?
          "activation QC uses an unpinned witness"
        bailIf (ack.witnessPublicKey ≠ pin.publicKey ∨
          ack.activationCertificateHash ≠ activationCertificateHash) mismatch
        let transcript ← wire (Wire.witnessActivationAck ack)
        crypt (crypto.verify pin.publicKey transcript ack.witnessSignature))
      ∅ qc.witnessAcks
    bailIf (witnessIds.card < requiredWitnessQuorum card.witnessFaultBound)
      "activation QC has no 2f+1 pinned witness quorum"

/-! ### Fresh reads -/

structure ReadScan where
  seenWitnesses : Finset UInt16
  validWitnesses : Finset UInt16
  valid : List ConfigCapsuleV3

def ReadScan.empty : ReadScan := ⟨∅, ∅, []⟩

/-- The envelope names this pin and answers this challenge about its own capsule. -/
def Answers (challenge : EpochReadChallenge) (pin : WitnessPin)
    (envelope : WitnessReadEnvelope) : Prop :=
  envelope.response.protocolVersion = protocolVersionV3 ∧
    envelope.response.configId = challenge.configId ∧
    envelope.response.clientNonce = challenge.clientNonce ∧
    envelope.response.witnessPublicKey = pin.publicKey ∧
    envelope.response.highestGuardianEpoch = envelope.capsule.configRef.guardianEpoch ∧
    envelope.response.capsuleHash = envelope.capsule.capsuleHash

instance (challenge : EpochReadChallenge) (pin : WitnessPin) (envelope : WitnessReadEnvelope) :
    Decidable (Answers challenge pin envelope) := by
  unfold Answers
  infer_instance

/-- One turn of the envelope loop. A witness counts as seen before its signature
is checked. -/
def scanRead (crypto : Crypto) (card : RecoveryCardV3) (challenge : EpochReadChallenge)
    (scan : ReadScan) (envelope : WitnessReadEnvelope) : Except String ReadScan :=
  match (witnessPins card)[envelope.response.witnessId]? with
  | none => .ok scan
  | some pin =>
    if ¬Answers challenge pin envelope ∨ envelope.response.witnessId ∈ scan.seenWitnesses then
      .ok scan
    else do
      let seen := insert envelope.response.witnessId scan.seenWitnesses
      let transcript ← wire (Wire.witnessEpochReadResponse envelope.response)
      if crypto.verify pin.publicKey transcript envelope.response.witnessSignature ≠ .ok () ∨
          validateActivatedCapsuleV3 crypto card envelope.capsule ≠ .ok () then
        .ok { scan with seenWitnesses := seen }
      else
        .ok {
          seenWitnesses := seen
          validWitnesses := insert envelope.response.witnessId scan.validWitnesses
          valid := scan.valid ++ [envelope.capsule] }

def validGenesisAgreement (envelopes : List WitnessReadEnvelope) (validWitnesses : Finset UInt16)
    (capsuleHash : Id32) : ℕ :=
  ((envelopes.filter fun envelope =>
    envelope.response.witnessId ∈ validWitnesses ∧
      envelope.response.highestGuardianEpoch = 1 ∧
      envelope.response.capsuleHash = capsuleHash).map (·.response.witnessId)).toFinset.card

def selectLatestEpochV3 (crypto : Crypto) (card : RecoveryCardV3) (challenge : EpochReadChallenge)
    (envelopes : List WitnessReadEnvelope) : Except String ConfigCapsuleV3 := do
  validateRecoveryCardV3 card
  let _ ← wire (Wire.epochReadChallenge challenge)
  bailIf (challenge.configId ≠ card.configId) "witness challenge is for another configuration"
  let scan ← envelopes.foldlM (scanRead crypto card challenge) ReadScan.empty
  bailIf (scan.seenWitnesses.card < requiredWitnessQuorum card.witnessFaultBound ∨
    scan.valid.length < requiredWitnessQuorum card.witnessFaultBound)
    "fresh 2f+1 authenticated witness read quorum was not reached"
  let highestEpoch ← okOr (scan.valid.map (·.configRef.guardianEpoch)).max?
    "witness quorum returned no capsule"
  let highest := scan.valid.filter fun capsule => capsule.configRef.guardianEpoch = highestEpoch
  let hashes := (highest.map (·.capsuleHash)).toFinset
  bailIf (hashes.card ≠ 1) "conflicting valid capsules exist at the same guardian epoch"
  let selected ← okOr highest.head?
    "conflicting valid capsules exist at the same guardian epoch"
  bailIf (highestEpoch = 1 ∧
    validGenesisAgreement envelopes scan.validWitnesses selected.capsuleHash <
      requiredWitnessQuorum card.witnessFaultBound) "genesis capsule lacks 2f+1 read agreement"
  .ok selected

end MasterRecovery
