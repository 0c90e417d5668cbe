import MasterRecovery.Wire

/-!
# What a transcript binds

Two values with one transcript agree on every field the transcript covers, and
transcripts of two kinds never coincide.
-/

namespace MasterRecovery.Wire
open Checks Transcript

/-! ### Fields -/

theorem bytes_eq_ok {value x : Bytes} (h : bytes value = .ok x) :
    value.length < 2 ^ 32 ∧ beBytes 4 value.length ++ value = x := by
  simp only [bytes, bind_unit_eq_ok, bailIf_eq_ok, Except.ok.injEq] at h
  exact ⟨by omega, h.2.2⟩

theorem bytes_binding : SelfDelimiting bytes id := by
  intro a b x y r s ha hb heq
  obtain ⟨halen, rfl⟩ := bytes_eq_ok ha
  obtain ⟨hblen, rfl⟩ := bytes_eq_ok hb
  rw [List.append_assoc, List.append_assoc] at heq
  obtain ⟨hwidth, hrest⟩ := List.append_inj heq (by simp)
  have hlen : a.length = b.length := beBytes_inj (by omega) (by omega) hwidth
  exact List.append_inj hrest hlen

theorem u16_binding : SelfDelimiting u16 id :=
  (SelfDelimiting.fixed 2 fun v : UInt16 => v.toNat_lt).weaken fun _ _ => UInt16.toNat_inj.mp

theorem u64_binding : SelfDelimiting u64 id :=
  (SelfDelimiting.fixed 8 fun v : UInt64 => v.toNat_lt).weaken fun _ _ => UInt64.toNat_inj.mp

theorem id32_binding : SelfDelimiting id32 id :=
  (bytes_binding.comp idBytes).weaken fun _ _ => idBytes_inj

theorem string_binding : SelfDelimiting string id :=
  (bytes_binding.comp fun v : String => v.toUTF8.data.toList).weaken fun a b h => by
    have hdata : a.toByteArray = b.toByteArray := ByteArray.ext (Array.toList_inj.mp h)
    exact String.toByteArray_inj.mp hdata

theorem boundedCount_binding {max : UInt16} : SelfDelimiting (boundedCount · max) id := by
  intro a b x y r s ha hb heq
  simp only [boundedCount, bind_unit_eq_ok, bailIf_eq_ok, not_or] at ha hb
  obtain ⟨hnum, hr⟩ := u16_binding ha.2 hb.2 heq
  have hnat := congrArg UInt16.toNat hnum
  simp only [id_eq, UInt16.toNat_ofNat'] at hnat
  exact ⟨by simp only [id_eq]; omega, hr⟩

theorem uniqueIds_eq_ok {ids : List UInt16} {u : Unit} :
    uniqueIds ids = .ok u ↔ (∀ i ∈ ids, i ≠ 0 ∧ i ≤ maxRotationActors) ∧ ids.Nodup := by
  simp [uniqueIds, scanDistinct_eq_ok]

/-- The encoder does not refuse. -/
def Succeeds (p : Put) : Prop := ∃ x, p = .ok x

theorem Succeeds.append {p q : Put} (hp : Succeeds p) (hq : Succeeds q) : Succeeds (p ++ q) := by
  obtain ⟨x, hx⟩ := hp
  obtain ⟨y, hy⟩ := hq
  exact ⟨x ++ y, append_eq_ok.mpr ⟨x, y, hx, hy, rfl⟩⟩

theorem Succeeds.left {p q : Put} (h : Succeeds (p ++ q)) : Succeeds p := by
  obtain ⟨x, hx⟩ := h
  obtain ⟨a, b, ha, -, -⟩ := append_eq_ok.mp hx
  exact ⟨a, ha⟩

theorem Succeeds.right {p q : Put} (h : Succeeds (p ++ q)) : Succeeds q := by
  obtain ⟨x, hx⟩ := h
  obtain ⟨a, b, -, hb, -⟩ := append_eq_ok.mp hx
  exact ⟨b, hb⟩

theorem succeeds_bytes {value : Bytes} (h : value.length ≤ maxFieldLen) :
    Succeeds (bytes value) := by
  refine ⟨beBytes 4 value.length ++ value, ?_⟩
  simp only [bytes, bind_unit_eq_ok, bailIf_eq_ok, not_le, not_lt, and_true]
  simp only [maxFieldLen] at h ⊢
  exact ⟨by omega, h⟩

theorem succeeds_u16 (value : UInt16) : Succeeds (u16 value) := ⟨_, rfl⟩

theorem succeeds_u64 (value : UInt64) : Succeeds (u64 value) := ⟨_, rfl⟩

theorem succeeds_id32 (value : Id32) : Succeeds (id32 value) :=
  succeeds_bytes (by simp [maxFieldLen])

theorem succeeds_domain (name : String) (h : name.toUTF8.data.toList.length ≤ maxFieldLen) :
    Succeeds (domain name) :=
  succeeds_bytes h

/-- The transcript starts with this domain string. -/
def Opens (name : String) (x : Bytes) : Prop := ∃ rest, domain name ++ rest = .ok x

/-- Bytes that continue two transcripts open them with one domain string. -/
theorem Opens.unique_of_append {name name' : String} {x y r s : Bytes} (h : Opens name x)
    (h' : Opens name' y) (heq : x ++ r = y ++ s) : name = name' := by
  obtain ⟨rest, hx⟩ := h
  obtain ⟨rest', hx'⟩ := h'
  obtain ⟨d, t, hd, -, rfl⟩ := append_eq_ok.mp hx
  obtain ⟨d', t', hd', -, rfl⟩ := append_eq_ok.mp hx'
  rw [List.append_assoc, List.append_assoc] at heq
  exact (string_binding hd hd' heq).1

theorem Opens.unique {name name' : String} {x : Bytes} (h : Opens name x) (h' : Opens name' x) :
    name = name' :=
  h.unique_of_append h' (r := []) rfl

/-! ### Shared parts -/

theorem configRefInto_binding : SelfDelimiting configRefInto id :=
  ((((id32_binding.comp ConfigRef.configId).seq
    (u64_binding.comp ConfigRef.payloadGeneration)).seq
    (u64_binding.comp ConfigRef.authorizationEpoch)).seq
    (u64_binding.comp ConfigRef.guardianEpoch)).seq
    (id32_binding.comp ConfigRef.epochBinding) |>.weaken fun a b h => by
      cases a
      cases b
      simpa [and_assoc] using h

theorem contextInto_binding : SelfDelimiting contextInto id :=
  (((((((u16_binding.comp RotationContext.protocolVersion).seq
    (configRefInto_binding.comp RotationContext.configRef)).seq
    (id32_binding.comp RotationContext.rotationId)).seq
    (id32_binding.comp RotationContext.predecessorCapsuleHash)).seq
    (bytes_binding.comp RotationContext.recipientKey)).seq
    (id32_binding.comp RotationContext.nonce)).seq
    (u64_binding.comp RotationContext.issuedAt)).seq
    (u64_binding.comp RotationContext.expiry) |>.guarded _ |>.weaken fun a b h => by
      cases a
      cases b
      simpa [and_assoc] using h

theorem succeeds_configRefInto (value : ConfigRef) : Succeeds (configRefInto value) :=
  ((((succeeds_id32 _).append (succeeds_u64 _)).append (succeeds_u64 _)).append
    (succeeds_u64 _)).append (succeeds_id32 _)

theorem succeeds_contextInto {context : RotationContext}
    (hversion : context.protocolVersion = protocolVersionV3)
    (hlifetime : context.issuedAt < context.expiry)
    (hrecipient : context.recipientKey.length ≤ maxFieldLen) :
    Succeeds (contextInto context) := by
  have hfields : Succeeds (u16 context.protocolVersion ++ configRefInto context.configRef ++
      id32 context.rotationId ++ id32 context.predecessorCapsuleHash ++ bytes context.recipientKey ++
      id32 context.nonce ++ u64 context.issuedAt ++ u64 context.expiry) :=
    (((((((succeeds_u16 _).append (succeeds_configRefInto _)).append (succeeds_id32 _)).append
      (succeeds_id32 _)).append (succeeds_bytes hrecipient)).append
      (succeeds_id32 _)).append (succeeds_u64 _)).append (succeeds_u64 _)
  obtain ⟨transcript, htr⟩ := hfields
  refine ⟨transcript, ?_⟩
  simp only [contextInto, bind_unit_eq_ok, bailIf_eq_ok, not_or, not_not, UInt64.not_le, ne_eq]
  exact ⟨⟨hversion, hlifetime⟩, htr⟩

theorem dpssSuiteId_binding : SelfDelimiting (fun v => u16 (dpssSuiteId v)) id :=
  (u16_binding.comp dpssSuiteId).weaken fun a b _ => DpssSuiteId.eq a b

theorem nonce_binding : SelfDelimiting (fun v : BitVec 192 => bytes (beBytes 24 v.toNat)) id :=
  (bytes_binding.comp fun v : BitVec 192 => beBytes 24 v.toNat).weaken fun a b h => by
    have ha := a.isLt
    have hb := b.isLt
    exact BitVec.eq_of_toNat_eq (beBytes_inj (by norm_num at ha ⊢; exact ha)
      (by norm_num at hb ⊢; exact hb) h)

theorem aead_eq {a b : AeadCiphertext} (hnonce : a.nonce = b.nonce)
    (hciphertext : a.ciphertext = b.ciphertext) : a = b := by
  cases a
  cases b
  exact AeadCiphertext.mk.injEq .. |>.mpr ⟨hnonce, hciphertext⟩

/-- A signature that is left out is not bound. -/
theorem signatureInto_binding {includeSignature : Bool} :
    SelfDelimiting (signatureInto includeSignature)
      (fun s => if includeSignature then some s else none) := by
  cases includeSignature with
  | true => exact bytes_binding.weaken fun _ _ h => by simpa using h
  | false => exact (SelfDelimiting.constant (.ok [])).weaken fun _ _ _ => rfl

/-! ### Owner cancellation -/

def ownerCancelUnsigned (value : OwnerRotationCancelCertificate) : OwnerRotationCancelCertificate :=
  { value with ownerSignature := [] }

theorem ownerRotationCancelCertificate_framed :
    Framed (domain "gp/owner-rotation-cancel/v3")
      ownerRotationCancelCertificate ownerCancelUnsigned :=
  (((((Framed.start _).seq
    (contextInto_binding.comp OwnerRotationCancelCertificate.context)).seq
    (id32_binding.comp OwnerRotationCancelCertificate.planHash)).seq
    (u16_binding.comp OwnerRotationCancelCertificate.reasonCode)).seq
    (bytes_binding.comp OwnerRotationCancelCertificate.cancelResponseRecipientKey)).seq
    (id32_binding.comp OwnerRotationCancelCertificate.ownerCancelPublicKey)
    |>.weaken fun a b h => by
      simp only [Prod.mk.injEq, id_eq] at h
      simp [ownerCancelUnsigned, h]

def cancelAckUnsigned (value : WitnessRotationCancelAck) : WitnessRotationCancelAck :=
  { value with witnessSignature := [] }

theorem witnessRotationCancelAck_framed :
    Framed (domain "gp/witness-rotation-cancel-ack/v3")
      witnessRotationCancelAck cancelAckUnsigned :=
  (((((((Framed.start _).seq
    (u16_binding.comp WitnessRotationCancelAck.protocolVersion)).seq
    (id32_binding.comp WitnessRotationCancelAck.configId)).seq
    (id32_binding.comp WitnessRotationCancelAck.rotationId)).seq
    (id32_binding.comp WitnessRotationCancelAck.planHash)).seq
    (id32_binding.comp WitnessRotationCancelAck.cancelCertificateHash)).seq
    (u16_binding.comp WitnessRotationCancelAck.witnessId)).seq
    (id32_binding.comp WitnessRotationCancelAck.witnessPublicKey)
    |>.guarded _ |>.weaken fun a b h => by
      simp only [Prod.mk.injEq, id_eq] at h
      simp [cancelAckUnsigned, h]

theorem succeeds_witnessRotationCancelAck {ack : WitnessRotationCancelAck}
    (hversion : ack.protocolVersion = protocolVersionV3) (hid : ack.witnessId ≠ 0) :
    Succeeds (witnessRotationCancelAck ack) := by
  obtain ⟨x, hx⟩ := ((((((succeeds_domain "gp/witness-rotation-cancel-ack/v3"
    (by decide)).append (succeeds_u16 ack.protocolVersion)).append
    (succeeds_id32 ack.configId)).append (succeeds_id32 ack.rotationId)).append
    (succeeds_id32 ack.planHash)).append (succeeds_id32 ack.cancelCertificateHash)).append
    (succeeds_u16 ack.witnessId) |>.append (succeeds_id32 ack.witnessPublicKey)
  refine ⟨x, ?_⟩
  simp only [witnessRotationCancelAck, bind_unit_eq_ok, bailIf_eq_ok, not_or, not_not, ne_eq]
  exact ⟨⟨hversion, hid⟩, hx⟩

/-! ### Activation -/

theorem signerLeaf_framed : Framed (domain "gp/signer-leaf/v1")
    (fun v : UInt16 × PublicKey => signerLeaf v.1 v.2) id :=
  ((Framed.start _).seq (u16_binding.comp Prod.fst)).seq (id32_binding.comp Prod.snd)
    |>.weaken fun a b h => by
      cases a
      cases b
      simpa using h

def voteUnsigned (vote : SignerRotationActivateVote) : SignerRotationActivateVote :=
  { vote with signerSignature := [] }

theorem activateVoteInto_binding (includeSignature : Bool) :
    SelfDelimiting (activateVoteInto includeSignature)
      (fun vote => if includeSignature then vote else voteUnsigned vote) :=
  (((((((contextInto_binding.comp SignerRotationActivateVote.context).seq
    (id32_binding.comp SignerRotationActivateVote.planHash)).seq
    (id32_binding.comp SignerRotationActivateVote.readyCertificateHash)).seq
    (id32_binding.comp SignerRotationActivateVote.successorCapsuleHash)).seq
    (u16_binding.comp SignerRotationActivateVote.signerId)).seq
    (id32_binding.comp SignerRotationActivateVote.signerPublicKey)).seq
    (bytes_binding.comp SignerRotationActivateVote.signerMembershipProof)).seq
    (signatureInto_binding.comp SignerRotationActivateVote.signerSignature)
    |>.weaken fun a b h => by
      simp only [Prod.mk.injEq, id_eq] at h
      cases includeSignature with
      | true => cases a; cases b; simpa [and_assoc] using h
      | false => simp [voteUnsigned, h]

theorem signerRotationActivateVote_framed :
    Framed (domain "gp/signer-rotation-activate-vote/v3") signerRotationActivateVote voteUnsigned :=
  (Framed.start _).seq
    (activateVoteInto_binding false) |>.weaken fun _ _ h => by
      simpa using h

theorem rotationActivateCertificate_eq_ok {value : RotationActivateCertificate} {x : Bytes}
    (h : rotationActivateCertificate value = .ok x) :
    (∀ vote ∈ value.votes, vote.signerId ≠ 0 ∧ vote.signerId ≤ maxRotationActors) ∧
      (value.votes.map (·.signerId)).Nodup ∧
      ∀ vote ∈ value.votes, SameRotation value.context vote.context ∧
        vote.planHash = value.planHash ∧
        vote.readyCertificateHash = value.readyCertificateHash ∧
        vote.successorCapsuleHash = value.successorCapsuleHash := by
  simp only [rotationActivateCertificate, bind_unit_eq_ok, uniqueIds_eq_ok, bailIf_eq_ok,
    List.forall_mem_map] at h
  obtain ⟨⟨hrange, hnodup⟩, hvotes, -⟩ := h
  refine ⟨hrange, hnodup, fun vote hvote => ?_⟩
  by_contra hne
  exact hvotes ⟨vote, hvote, by tauto⟩

theorem rotationActivateCertificate_context {value : RotationActivateCertificate} {x : Bytes}
    (h : rotationActivateCertificate value = .ok x) : Succeeds (contextInto value.context) := by
  simp only [rotationActivateCertificate, bind_unit_eq_ok] at h
  exact (Succeeds.left (Succeeds.left (Succeeds.left (Succeeds.left (Succeeds.left
    ⟨x, h.2.2⟩))))).right

theorem rotationActivateCertificate_framed :
    Framed (domain "gp/rotation-activate-certificate/v3") rotationActivateCertificate id :=
  ((((((Framed.start _).seq
    (contextInto_binding.comp RotationActivateCertificate.context)).seq
    (id32_binding.comp RotationActivateCertificate.planHash)).seq
    (id32_binding.comp RotationActivateCertificate.readyCertificateHash)).seq
    (configRefInto_binding.comp RotationActivateCertificate.successor)).seq
    (id32_binding.comp RotationActivateCertificate.successorCapsuleHash)).seq
    (((activateVoteInto_binding true).counted boundedCount_binding).comp
      RotationActivateCertificate.votes)
    |>.guarded _ |>.guarded _ |>.weaken fun a b h => by
      cases a
      cases b
      simpa [and_assoc] using h

/-- The acknowledgement as it is signed. -/
def ackUnsigned (ack : WitnessActivationAck) : WitnessActivationAck :=
  { ack with witnessSignature := [] }

theorem witnessAckInto_binding (includeSignature : Bool) :
    SelfDelimiting (witnessAckInto includeSignature)
      (fun ack => if includeSignature then ack else ackUnsigned ack) :=
  (((((((((contextInto_binding.comp WitnessActivationAck.context).seq
    (id32_binding.comp WitnessActivationAck.planHash)).seq
    (id32_binding.comp WitnessActivationAck.activationCertificateHash)).seq
    (u16_binding.comp WitnessActivationAck.witnessId)).seq
    (u64_binding.comp WitnessActivationAck.predecessorEpoch)).seq
    (id32_binding.comp WitnessActivationAck.predecessorCapsuleHash)).seq
    (u64_binding.comp WitnessActivationAck.successorEpoch)).seq
    (id32_binding.comp WitnessActivationAck.successorCapsuleHash)).seq
    (id32_binding.comp WitnessActivationAck.witnessPublicKey)).seq
    (signatureInto_binding.comp WitnessActivationAck.witnessSignature)
    |>.weaken fun a b h => by
      simp only [Prod.mk.injEq, id_eq] at h
      cases includeSignature with
      | true => cases a; cases b; simpa [and_assoc] using h
      | false => simp [ackUnsigned, h]

theorem witnessActivationAck_framed :
    Framed (domain "gp/witness-activation-ack/v3") witnessActivationAck ackUnsigned :=
  (Framed.start _).seq
    (witnessAckInto_binding false) |>.weaken fun _ _ h => by
      simpa using h

/-- Only the context of an acknowledgement can be refused. -/
theorem succeeds_witnessActivationAck {ack : WitnessActivationAck}
    (h : Succeeds (contextInto ack.context)) : Succeeds (witnessActivationAck ack) :=
  (succeeds_domain _ (by decide)).append
    ((((((((((h.append (succeeds_id32 _)).append (succeeds_id32 _)).append (succeeds_u16 _)).append
      (succeeds_u64 _)).append (succeeds_id32 _)).append (succeeds_u64 _)).append
      (succeeds_id32 _)).append (succeeds_id32 _)).append ⟨[], rfl⟩))

theorem epochActivationQc_framed :
    Framed (domain "gp/epoch-activation-qc/v3") epochActivationQc id :=
  ((((((((((Framed.start _).seq
    (u16_binding.comp EpochActivationQc.protocolVersion)).seq
    (id32_binding.comp EpochActivationQc.configId)).seq
    (id32_binding.comp EpochActivationQc.rotationId)).seq
    (u64_binding.comp EpochActivationQc.predecessorEpoch)).seq
    (id32_binding.comp EpochActivationQc.predecessorCapsuleHash)).seq
    (u64_binding.comp EpochActivationQc.successorEpoch)).seq
    (id32_binding.comp EpochActivationQc.successorCapsuleHash)).seq
    (id32_binding.comp EpochActivationQc.activationCertificateHash)).seq
    (u16_binding.comp EpochActivationQc.witnessFaultBound)).seq
    (((witnessAckInto_binding true).counted boundedCount_binding).comp
      EpochActivationQc.witnessAcks)
    |>.guarded _ |>.guarded _ |>.guarded _ |>.guarded _ |>.weaken fun a b h => by
      cases a
      cases b
      simpa [and_assoc] using h

/-! ### Fresh reads -/

theorem epochReadChallenge_framed :
    Framed (domain "gp/epoch-read-challenge/v3") epochReadChallenge id :=
  ((((((Framed.start _).seq
    (u16_binding.comp EpochReadChallenge.protocolVersion)).seq
    (id32_binding.comp EpochReadChallenge.configId)).seq
    (id32_binding.comp EpochReadChallenge.clientNonce)).seq
    (bytes_binding.comp EpochReadChallenge.responseRecipientKey)).seq
    (u64_binding.comp EpochReadChallenge.issuedAt)).seq
    (u64_binding.comp EpochReadChallenge.expiry)
    |>.guarded _ |>.weaken fun a b h => by
      cases a
      cases b
      simpa [and_assoc] using h

def readResponseUnsigned (value : WitnessEpochReadResponse) : WitnessEpochReadResponse :=
  { value with witnessSignature := [] }

theorem witnessEpochReadResponse_framed :
    Framed (domain "gp/witness-epoch-read-response/v3")
      witnessEpochReadResponse readResponseUnsigned :=
  (((((((Framed.start _).seq
    (u16_binding.comp WitnessEpochReadResponse.protocolVersion)).seq
    (id32_binding.comp WitnessEpochReadResponse.configId)).seq
    (id32_binding.comp WitnessEpochReadResponse.clientNonce)).seq
    (u16_binding.comp WitnessEpochReadResponse.witnessId)).seq
    (u64_binding.comp WitnessEpochReadResponse.highestGuardianEpoch)).seq
    (id32_binding.comp WitnessEpochReadResponse.capsuleHash)).seq
    (id32_binding.comp WitnessEpochReadResponse.witnessPublicKey)
    |>.guarded _ |>.weaken fun a b h => by
      simp only [Prod.mk.injEq, id_eq] at h
      simp [readResponseUnsigned, h]

theorem succeeds_witnessEpochReadResponse {response : WitnessEpochReadResponse}
    (hversion : response.protocolVersion = protocolVersionV3) :
    Succeeds (witnessEpochReadResponse response) := by
  obtain ⟨x, hx⟩ := ((((((succeeds_domain "gp/witness-epoch-read-response/v3"
    (by decide)).append (succeeds_u16 response.protocolVersion)).append
    (succeeds_id32 response.configId)).append (succeeds_id32 response.clientNonce)).append
    (succeeds_u16 response.witnessId)).append (succeeds_u64 response.highestGuardianEpoch)).append
    (succeeds_id32 response.capsuleHash) |>.append (succeeds_id32 response.witnessPublicKey)
  refine ⟨x, ?_⟩
  simp only [witnessEpochReadResponse, bind_unit_eq_ok, bailIf_eq_ok, not_not, ne_eq]
  exact ⟨hversion, hx⟩

/-! ### Capsules -/

/-- The capsule as it is hashed. -/
def capsuleBody (value : ConfigCapsuleV3) : ConfigCapsuleV3 :=
  { value with capsuleHash := 0, activationCertificate := none, activationQc := none }

theorem configCapsuleBodyV3_framed :
    Framed (domain "gp/config-capsule-body/v3") configCapsuleBodyV3 capsuleBody :=
  ((((((((((((((((((Framed.start _).seq
    (u16_binding.comp ConfigCapsuleV3.protocolVersion)).seq
    (configRefInto_binding.comp ConfigCapsuleV3.configRef)).seq
    (id32_binding.comp ConfigCapsuleV3.predecessorCapsuleHash)).seq
    (u16_binding.comp ConfigCapsuleV3.signerCount)).seq
    (u16_binding.comp ConfigCapsuleV3.signerThreshold)).seq
    (u16_binding.comp ConfigCapsuleV3.guardianCount)).seq
    (u16_binding.comp ConfigCapsuleV3.guardianThreshold)).seq
    (u64_binding.comp ConfigCapsuleV3.minimumRecoveryDelay)).seq
    (u64_binding.comp ConfigCapsuleV3.maxRequestLifetime)).seq
    (id32_binding.comp ConfigCapsuleV3.signerSetCommitment)).seq
    (id32_binding.comp ConfigCapsuleV3.ownerCancelPublicKey)).seq
    (dpssSuiteId_binding.comp ConfigCapsuleV3.dpssSuite)).seq
    (id32_binding.comp ConfigCapsuleV3.dpssPublicCommitment)).seq
    (id32_binding.comp ConfigCapsuleV3.ciphertextFragmentRoot)).seq
    (id32_binding.comp ConfigCapsuleV3.guardianMaterialRoot)).seq
    (nonce_binding.comp fun v : ConfigCapsuleV3 => v.encryptedRecoveryDescriptor.nonce)).seq
    (bytes_binding.comp fun v : ConfigCapsuleV3 => v.encryptedRecoveryDescriptor.ciphertext))
    |>.guarded _ |>.weaken fun a b h => by
      simp only [Prod.mk.injEq, id_eq] at h
      have hdescriptor : a.encryptedRecoveryDescriptor = b.encryptedRecoveryDescriptor :=
        aead_eq h.1.2 h.2
      simp only [capsuleBody, h, hdescriptor]

end MasterRecovery.Wire
