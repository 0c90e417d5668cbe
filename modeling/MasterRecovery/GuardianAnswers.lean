import MasterRecovery.SignerAnswers

/-!
# What guardians answer a recovery (gp-network/src/recovery_runtime.rs, gp-network/src/client.rs)

A guardian that has not seen the request accepts its Begin, and releases its material when the
delay is over. The client counts a contribution only if it carries the material the setup committed
to, whoever sent it.
-/

namespace MasterRecovery
open Checks Transcript Wire Mapped Act

variable {crypto : Crypto} {vault : Vault} {libs : ClientLibs} {network : RecoveryNetwork}
  {run : RecoveryRun} {capsule : ConfigCapsuleV3} {call : GuardianCall}
  {entry : GuardianRotationEntryV3} {record : GuardianRecordV3} {seed digest : Id32}
  {request : RecoveryRequestV3} {answer : String → Option NodeInfo} {options : SetupV3Options}
  {draws : SetupDraws} {setup : OwnerSetup} {stages : SetupStages} {offset : ℕ}

/-! ### A guardian's server -/

/-- The entry of a guardian whose active record is this one. -/
structure Guards (seed : Id32) (capsule : ConfigCapsuleV3) (record : GuardianRecordV3)
    (entry : GuardianRotationEntryV3) : Prop where
  signingSeed : entry.provision.signingSeed = seed
  predecessor : entry.provision.predecessorCapsule = capsule
  active : entry.provision.epochStore.active = some record

/-- The request is new to the guardian. -/
structure Unseen (request : RecoveryRequestV3) (entry : GuardianRotationEntryV3) : Prop where
  live : request.requestId ∉ entry.provision.epochStore.recoveryCancellationTombstones
  fresh : entry.recoveries[request.requestId]? = none
  nonce : ∀ pending ∈ entry.recoveries.values, pending.request.nonce ≠ request.nonce

/-- A Begin that validates is accepted. -/
theorem guardianBegin_eq_ok (node : GuardianNode) {certificate : BeginRecoveryCertificateV3}
    (hguards : Guards seed capsule record entry)
    (hconfig : record.policy.configRef = certificate.request.configRef)
    (hunseen : Unseen certificate.request entry)
    (hversion : certificate.request.protocolVersion = protocolVersionV3)
    (hrecipient : certificate.request.recoveryRecipientKey.length = xwingPublicKeyLen)
    (hvalid : validateBeginRecoveryCertificateV3 crypto certificate capsule call.wallNow =
      .ok digest) :
    let begun := begunRecovery node call certificate.request record digest
    handleGuardianRecoveryV3 crypto node call (.begin certificate) entry =
      .ok (.beginAccepted begun.notBeforeMonotonic)
        (entry.putRecovery certificate.request.requestId begun) := by
  intro begun
  have hchecks : recoveryBeginChecks crypto call entry certificate = .ok (record, digest) := by
    simp only [recoveryBeginChecks, Checks.bind_eq_ok, okOr_eq_ok, bailIf_eq_ok, exists_const,
      Except.ok.injEq]
    refine ⟨record, hguards.active, not_not.mpr hconfig, digest, ?_, hunseen.live, rfl⟩
    rw [hguards.predecessor]
    exact hvalid
  have hnonce : ¬∃ pending ∈ entry.recoveries.values,
      pending.request.nonce = certificate.request.nonce := by
    rintro ⟨pending, hmem, hsame⟩
    exact hunseen.nonce pending hmem hsame
  have hmalformed : ¬((GuardianRecoveryRequestV3.begin certificate).request.protocolVersion ≠
      protocolVersionV3 ∨
        (GuardianRecoveryRequestV3.begin certificate).request.recoveryRecipientKey.length ≠
          xwingPublicKeyLen) := by
    simp only [GuardianRecoveryRequestV3.request, hversion, hrecipient, ne_eq, not_true_eq_false,
      or_self, not_false_eq_true]
  rw [handleGuardianRecoveryV3, bailIf, if_neg hmalformed, check_ok_bind]
  simp only [recoveryBegin, get_bind, hchecks, check_ok_bind, hunseen.fresh, bailIf, if_neg hnonce]
  rfl

/-- The recovery is begun, its delay is over, and nothing has ended it. -/
structure Waited (request : RecoveryRequestV3) (digest : Id32) (call : GuardianCall)
    (entry : GuardianRotationEntryV3) (pending : PendingNetworkRecoveryV3) : Prop where
  found : entry.recoveries[request.requestId]? = some pending
  same : pending.request = request
  digest : pending.requestDigest = digest
  live : pending.cancelled = false
  unreleased : pending.released = false
  tombstone : request.requestId ∉ entry.provision.epochStore.recoveryCancellationTombstones
  boot : pending.bootId = call.bootId
  due : pending.notBeforeMonotonic ≤ call.monotonicNow
  unexpired : call.wallNow < request.expiry

/-- The material as the guardian signs it. -/
def signedMaterial (crypto : Crypto) (seed : Id32) (record : GuardianRecordV3)
    (request : RecoveryRequestV3) (digest : Id32) (transcript : Bytes) :
    GuardianRecoveryContributionV3 :=
  { recoveredMaterial record request digest with
    guardianSignature := crypto.sign seed transcript }

/-- A Release that validates is answered with the material of the record. -/
theorem guardianRelease_eq_ok (node : GuardianNode)
    {certificate : RecoveryReleaseCertificateV3} {transcript : Bytes}
    {pending : PendingNetworkRecoveryV3} (hguards : Guards seed capsule record entry)
    (hconfig : record.policy.configRef = request.configRef)
    (hwaited : Waited request digest call entry pending)
    (hversion : request.protocolVersion = protocolVersionV3)
    (hrecipient : request.recoveryRecipientKey.length = xwingPublicKeyLen)
    (hvalid : validateRecoveryReleaseCertificateForRefV3 crypto certificate capsule
      request.configRef call.wallNow = .ok digest)
    (hwritten : guardianRecoveryContributionV3 (recoveredMaterial record request digest) =
      .ok transcript) :
    ∃ after, handleGuardianRecoveryV3 crypto node call (.release request certificate) entry =
      .ok (.contribution (signedMaterial crypto seed record request digest transcript)) after := by
  have hrecord : recordForRequest entry request.configRef request.requestId true = .ok record := by
    have hfilter : entry.provision.epochStore.active.filter (fun record =>
        record.policy.configRef = request.configRef) = some record := by
      rw [hguards.active, Option.filter_some, if_pos (decide_eq_true hconfig)]
    rw [recordForRequest, hfilter]
  have hchecks : recoveryReleaseChecks crypto call entry request certificate =
      .ok (record, pending, digest) := by
    simp only [recoveryReleaseChecks, Checks.bind_eq_ok, okOr_eq_ok, bailIf_eq_ok, exists_const,
      not_or, not_not, ne_eq, UInt64.not_lt, UInt64.not_le, Except.ok.injEq]
    refine ⟨digest, ?_, record, hrecord, pending, hwaited.found, ⟨hwaited.same, hwaited.digest⟩,
      ⟨?_, ?_, ?_⟩, ⟨hwaited.boot, hwaited.due, ?_⟩, rfl⟩
    · rw [hguards.predecessor]
      exact hvalid
    · rw [hwaited.live]
      exact Bool.false_ne_true
    · rw [hwaited.unreleased]
      exact Bool.false_ne_true
    · rw [Std.TreeMap.getElem?_eq_none hwaited.tombstone]
      exact Option.some_ne_none digest |>.symm
    · rw [hwaited.same]
      exact hwaited.unexpired
  have hsigned : signed crypto entry.provision.signingSeed guardianRecoveryContributionV3
      (fun contribution signature => { contribution with guardianSignature := signature })
      GuardianRecoveryResponseV3.contribution (recoveredMaterial record request digest) =
        .ok (.contribution (signedMaterial crypto seed record request digest transcript)) := by
    rw [signed_eq_ok, hguards.signingSeed]
    exact ⟨transcript, hwritten, rfl⟩
  have hmalformed : ¬((GuardianRecoveryRequestV3.release request certificate).request.protocolVersion ≠
      protocolVersionV3 ∨
        (GuardianRecoveryRequestV3.release request certificate).request.recoveryRecipientKey.length ≠
          xwingPublicKeyLen) := by
    simp only [GuardianRecoveryRequestV3.request, hversion, hrecipient, ne_eq, not_true_eq_false,
      or_self, not_false_eq_true]
  rw [handleGuardianRecoveryV3, bailIf, if_neg hmalformed, check_ok_bind]
  simp only [recoveryRelease, get_bind, hchecks, check_ok_bind, hsigned, modify_bind]
  split
  next hdrains =>
    obtain ⟨draining, hfound⟩ := Option.isSome_iff_exists.mp
      (Std.TreeMap.isSome_getElem?_iff_mem.mpr hdrains)
    have hfinished : ∃ store, GuardianEpochStore.finishDrainingRequest
        request.configRef.guardianEpoch request.requestId entry.provision.epochStore = .ok store := by
      simp [GuardianEpochStore.finishDrainingRequest, hfound, Checks.bind_eq_ok]
    obtain ⟨store, hstore⟩ := hfinished
    refine ⟨_, Act.bind_eq_ok.mpr ⟨(), _, updateStore_eq_ok.mpr ⟨store, hstore, rfl⟩, rfl⟩⟩
  next => exact ⟨_, rfl⟩

/-! ### What a contribution is counted for -/

/-- Of the presented paths, those that verify under the root for a leaf at a place are for the leaf
there. -/
def Crypto.MerkleBinding (crypto : Crypto) (root : Id32) (leaves : List Id32)
    (presented : Set MerkleProofBytes) : Prop :=
  ∀ path ∈ presented, ∀ index leaf,
    crypto.merkleProofVerifies path root index leaf leaves.length = true →
      leaves[index]? = some leaf

theorem Crypto.transparent_merkleBinding {root : Id32} {leaves : List Id32}
    {presented : Set MerkleProofBytes} (h : ∀ path ∈ presented, path = leaves.flatMap idBytes) :
    Crypto.transparent.MerkleBinding root leaves presented := by
  intro path hpath index leaf hverifies
  simp only [Crypto.transparent, Bool.and_eq_true, beq_iff_eq, h path hpath] at hverifies
  cases hleaf : leaves[index]? with
  | some found => rw [idBytes_inj (hverifies.2.symm.trans (take_drop_flatMap hleaf))]
  | none =>
    rw [List.getElem?_eq_none_iff] at hleaf
    have hlong : (leaves.flatMap idBytes).length ≤ 32 * index := by omega
    have hlength := congrArg List.length hverifies.2
    rw [List.drop_eq_nil_of_le hlong, List.take_nil, idBytes_length] at hlength
    cases hlength

def aeadBytes (value : AeadCiphertext) : Bytes := beBytes 24 value.nonce.toNat ++ value.ciphertext

theorem aeadBytes_inj {value value' : AeadCiphertext} (h : aeadBytes value = aeadBytes value') :
    value = value' := by
  obtain ⟨hnonce, hciphertext⟩ := List.append_inj h (by simp)
  have hbound : (2 : ℕ) ^ 192 = 256 ^ 24 := by norm_num
  have hsame := BitVec.eq_of_toNat_eq (beBytes_inj (hbound ▸ value.nonce.isLt)
    (hbound ▸ value'.nonce.isLt) hnonce)
  cases value
  cases value'
  simp_all

/-- What is hashed of the material of one leaf. -/
def materialHashed (leaf : PreparedRecordLeaf) (share fragment : AeadCiphertext) : Set Bytes :=
  {bytes | preparedRecordLeafV3 leaf = .ok bytes ∨ bytes = aeadBytes share ∨
    bytes = aeadBytes fragment}

structure CommitsTo (crypto : Crypto) (leaf : PreparedRecordLeaf) (share fragment : AeadCiphertext) :
    Prop where
  share : leaf.encryptedShareHash = hashAead crypto share
  fragment : leaf.fragmentHash = hashAead crypto fragment

/-- Leaves with one hash commit to one material. -/
theorem CommitsTo.unique {hashed : Set Bytes} {leaf leaf' : PreparedRecordLeaf}
    {share fragment share' fragment' : AeadCiphertext} {transcript transcript' : Bytes}
    (hfree : crypto.CollisionFree hashed)
    (hhashed : materialHashed leaf share fragment ⊆ hashed)
    (hhashed' : materialHashed leaf' share' fragment' ⊆ hashed)
    (hcommits : CommitsTo crypto leaf share fragment)
    (hcommits' : CommitsTo crypto leaf' share' fragment')
    (htranscript : preparedRecordLeafV3 leaf = .ok transcript)
    (htranscript' : preparedRecordLeafV3 leaf' = .ok transcript')
    (hsame : crypto.sha256 transcript = crypto.sha256 transcript') :
    leaf = leaf' ∧ share = share' ∧ fragment = fragment' := by
  have hbytes := hfree (hhashed (Or.inl htranscript)) (hhashed' (Or.inl htranscript')) hsame
  have hleaf : leaf = leaf' :=
    preparedRecordLeafV3_framed.binds.injective htranscript (hbytes ▸ htranscript')
  have hshare : hashAead crypto share = hashAead crypto share' := by
    rw [← hcommits.share, ← hcommits'.share, hleaf]
  have hfragment : hashAead crypto fragment = hashAead crypto fragment' := by
    rw [← hcommits.fragment, ← hcommits'.fragment, hleaf]
  exact ⟨hleaf,
    aeadBytes_inj (hfree (hhashed (Or.inr (Or.inl rfl))) (hhashed' (Or.inr (Or.inl rfl))) hshare),
    aeadBytes_inj (hfree (hhashed (Or.inr (Or.inr rfl))) (hhashed' (Or.inr (Or.inr rfl)))
      hfragment)⟩

/-- The leaf of a contribution, next to the leaf of a record under the same policy. -/
theorem contributionLeaf_eq_ok (route : GuardianRouteV3)
    (contribution : GuardianRecoveryContributionV3) {prepared : PreparedRecordLeaf}
    (hbody : guardianPolicyBodyV3 (capsulePolicy crypto capsule) =
      guardianPolicyBodyV3 record.policy)
    (hprepared : recordLeaf crypto record = .ok prepared) :
    contributionLeaf crypto capsule route contribution =
      .ok { guardianIndex := contribution.guardianIndex
            fragmentIndex := contribution.fragmentIndex
            opaqueSlotId := route.opaqueSlotId
            encryptedShareHash := hashAead crypto contribution.encryptedDekShare
            fragmentHash := hashAead crypto contribution.encryptedCiphertextFragment
            policyHash := prepared.policyHash } := by
  simp only [recordLeaf, Checks.bind_eq_ok, wire_eq_ok, Except.ok.injEq] at hprepared
  obtain ⟨body, hwritten, rfl⟩ := hprepared
  simp only [contributionLeaf, Checks.bind_eq_ok, wire_eq_ok, Except.ok.injEq]
  exact ⟨body, hbody.trans hwritten, rfl⟩

/-- The client and the owner hash one policy. -/
theorem SetUp.policyBody (h : SetUp crypto vault libs answer options draws stages setup)
    (hheld : RecordHeld crypto vault draws stages (stages.policy crypto options draws) offset
      record) :
    guardianPolicyBodyV3 (capsulePolicy crypto setup.capsule) =
      guardianPolicyBodyV3 record.policy := by
  obtain ⟨_, -, hcapsule⟩ := h.capsule
  rw [hcapsule, hheld.policy]
  rfl

theorem SetUp.routes_indices (h : SetUp crypto vault libs answer options draws stages setup) :
    (stages.routes crypto options draws).map (·.guardianIndex) =
      (List.range stages.actors.guardianCount.toNat).map idAt := by
  refine List.ext_getElem ?_ fun place hplace _ => ?_
  · rw [List.length_map, List.length_map, List.length_range, h.routes_length]
  · rw [List.length_map, h.routes_length] at hplace
    obtain ⟨route, hroute, hindex, -⟩ := h.routes_getElem? hplace
    obtain ⟨_, rfl⟩ := List.getElem?_eq_some_iff.mp hroute
    rw [List.getElem_map, List.getElem_map, List.getElem_range, hindex]

theorem SetUp.routes_findIdx? (h : SetUp crypto vault libs answer options draws stages setup)
    (hoffset : offset < stages.actors.guardianCount.toNat) :
    (stages.routes crypto options draws).findIdx?
      (fun candidate => candidate.guardianIndex = idAt offset) = some offset := by
  have hbound := stages.actors.guardianCount.toNat_lt
  rw [List.findIdx?_eq_some_iff_getElem]
  have hlt : offset < (stages.routes crypto options draws).length := h.routes_length ▸ hoffset
  have hindex : ∀ (i : ℕ) (hi : i < (stages.routes crypto options draws).length),
      (stages.routes crypto options draws)[i].guardianIndex = idAt i := by
    intro i hi
    obtain ⟨route, hroute, hindex, -⟩ := h.routes_getElem? (h.routes_length ▸ hi)
    rw [List.getElem?_eq_getElem hi, Option.some.injEq] at hroute
    rw [hroute]
    exact hindex
  refine ⟨hlt, decide_eq_true (hindex offset hlt), fun i hi => ?_⟩
  rw [hindex i (hi.trans hlt), Bool.not_eq_true, decide_eq_false_iff_not]
  intro hsame
  have hnat := congrArg UInt16.toNat hsame
  rw [idAt_toNat (by omega), idAt_toNat (by omega)] at hnat
  omega

/-- A contribution with the material of the record at a place. -/
structure Carries (record : GuardianRecordV3) (offset : ℕ)
    (contribution : GuardianRecoveryContributionV3) : Prop where
  guardianIndex : contribution.guardianIndex = idAt offset
  fragmentIndex : contribution.fragmentIndex = idAt offset
  share : contribution.encryptedDekShare = record.encryptedDekShare
  fragment : contribution.encryptedCiphertextFragment = record.encryptedCiphertextFragment

/-- What a contribution that carries the record decrypts to. -/
theorem decryptContribution_eq_ok {published : PublicKeyPackage} {dealt : List KeyPackage}
    {threshold total : UInt16} {contribution : GuardianRecoveryContributionV3}
    {descriptor : RecoveryDescriptorV3} (haead : vault.AeadCorrect)
    (hdealt : SharesDealt vault.frost libs.dealer threshold total stages.payload.frost published
      dealt)
    (hoffset : offset < total.toNat)
    (hheld : RecordHeld crypto vault draws stages (stages.policy crypto options draws) offset
      record)
    (hcarries : Carries record offset contribution)
    (hconfig : request.configRef = draws.configRef)
    (hpackage : descriptor.dpssPublicPackage = stages.payload.frost.publicPackage) :
    decryptContribution vault contribution descriptor request draws.authorizationKey =
      .ok (stages.payload.frost.shares.getD offset [], stages.payload.fragments.getD offset []) := by
  obtain ⟨shareKey, shareContext, share, hshareKey, hshareContext, hshare, hsealedShare⟩ := hheld.share
  obtain ⟨fragmentKey, fragmentContext, fragment, hfragmentKey, hfragmentContext, hfragment,
    hsealedFragment⟩ := hheld.fragment
  obtain ⟨_, _, -, hown, -, hverified⟩ := hdealt.share hoffset
  cases hown.symm.trans hshare
  simp only [decryptContribution, Checks.bind_eq_ok, bailIf_eq_ok, exists_const, crypt_eq_ok,
    wire_eq_ok, hconfig, hcarries.guardianIndex, hcarries.fragmentIndex, hcarries.share,
    hcarries.fragment, hpackage, List.getD_eq_getElem?_getD, hshare, hfragment, Option.getD_some,
    Except.ok.injEq]
  exact ⟨shareKey, hshareKey, shareContext, hshareContext, share, haead _ _ _ _ _ hsealedShare,
    idAt offset, hverified, not_not.mpr rfl, fragmentKey, hfragmentKey, fragmentContext,
    hfragmentContext, fragment, haead _ _ _ _ _ hsealedFragment, rfl⟩

theorem leafHash_eq_ok {hash : Id32} (h : leafHash crypto record = .ok hash) :
    ∃ prepared transcript, recordLeaf crypto record = .ok prepared ∧
      preparedRecordLeafV3 prepared = .ok transcript ∧ hash = crypto.sha256 transcript := by
  simp only [leafHash, Checks.bind_eq_ok, wire_eq_ok, Except.ok.injEq] at h
  obtain ⟨prepared, hprepared, transcript, htranscript, rfl⟩ := h
  exact ⟨prepared, transcript, hprepared, htranscript, rfl⟩

theorem recordLeaf_commitsTo {prepared : PreparedRecordLeaf}
    (h : recordLeaf crypto record = .ok prepared) :
    CommitsTo crypto prepared record.encryptedDekShare record.encryptedCiphertextFragment ∧
      prepared.guardianIndex = record.guardianIndex ∧
        prepared.fragmentIndex = record.fragmentIndex ∧ prepared.opaqueSlotId = record.opaqueSlotId := by
  simp only [recordLeaf, Checks.bind_eq_ok, wire_eq_ok, Except.ok.injEq] at h
  obtain ⟨_, -, rfl⟩ := h
  exact ⟨⟨rfl, rfl⟩, rfl, rfl, rfl⟩

/-- A contribution that passes the client's checks carries the record of its place, whoever made
it. -/
theorem SetUp.carries {route : GuardianRouteV3} {contribution : GuardianRecoveryContributionV3}
    {presented : Set MerkleProofBytes} {hashed : Set Bytes}
    (h : SetUp crypto vault libs answer options draws stages setup)
    (hbinding : crypto.MerkleBinding stages.root stages.leaves presented)
    (hpath : contribution.merklePathProof ∈ presented)
    (hfree : crypto.CollisionFree hashed) (hoffset : offset < stages.actors.guardianCount.toNat)
    (hheld : RecordHeld crypto vault draws stages (stages.policy crypto options draws) offset
      record)
    (hrecord : ∀ leaf, recordLeaf crypto record = .ok leaf →
      materialHashed leaf record.encryptedDekShare record.encryptedCiphertextFragment ⊆ hashed)
    (hcontribution : ∀ leaf, contributionLeaf crypto setup.capsule route contribution = .ok leaf →
      materialHashed leaf contribution.encryptedDekShare
        contribution.encryptedCiphertextFragment ⊆ hashed)
    (hroute : (stages.routes crypto options draws)[offset]? = some route)
    (hchecks : contributionChecks crypto contribution route (stages.descriptor crypto options draws)
      setup.capsule request = .ok ()) : Carries record offset contribution := by
  obtain ⟨own, hown, hindex, -, -⟩ := h.routes_getElem? hoffset
  rw [hroute, Option.some.injEq] at hown
  subst hown
  simp only [contributionChecks, Checks.bind_eq_ok, bailIf_eq_ok, exists_const, wire_eq_ok,
    crypt_eq_ok, okOr_eq_ok, Crypto.merkleVerify_eq_ok, Crypto.verify_eq_ok, not_or,
    not_not] at hchecks
  obtain ⟨-, _, -, ⟨-, -, -, hguardian⟩, _, -, -, leaf, hleaf, position, hposition, transcript,
    htranscript, hverifies⟩ := hchecks
  rw [hindex] at hguardian
  have hplace : position = offset := by
    have hfound := h.routes_findIdx? hoffset
    rw [hguardian] at hposition
    exact Option.some.inj (hposition.symm.trans hfound)
  obtain ⟨hash, hhash, hleaves⟩ := hheld.leaf
  obtain ⟨prepared, own, hprepared, hown, rfl⟩ := leafHash_eq_ok hhash
  have hcount : (stages.descriptor crypto options draws).guardians.length = stages.leaves.length :=
    h.routes_length.trans h.leaves_length.symm
  rw [hcount, hplace] at hverifies
  have hcommitted := hbinding _ hpath _ _ hverifies
  rw [hleaves, Option.some.injEq] at hcommitted
  have hbody := contributionLeaf_eq_ok route contribution (h.policyBody hheld) hprepared
  rw [hleaf, Except.ok.injEq] at hbody
  obtain ⟨hcommits, -, hfragmentIndex, -⟩ := recordLeaf_commitsTo hprepared
  obtain ⟨hsame, hshare, hfragment⟩ := CommitsTo.unique hfree (hrecord _ hprepared)
    (hcontribution _ hleaf) hcommits (hbody ▸ ⟨rfl, rfl⟩) hown htranscript hcommitted
  refine ⟨hguardian, ?_, hshare.symm, hfragment.symm⟩
  calc contribution.fragmentIndex = leaf.fragmentIndex := by rw [hbody]
    _ = record.fragmentIndex := by rw [← hsame, hfragmentIndex]
    _ = idAt offset := hheld.fragmentIndex

/-- The signed material has the leaf of its record. -/
theorem SetUp.signedMaterial_leaf {route : GuardianRouteV3}
    (h : SetUp crypto vault libs answer options draws stages setup)
    (hoffset : offset < stages.actors.guardianCount.toNat)
    (hheld : RecordHeld crypto vault draws stages (stages.policy crypto options draws) offset
      record)
    (hroute : (stages.routes crypto options draws)[offset]? = some route) (seed : Id32)
    (request : RecoveryRequestV3) (digest : Id32) (transcript : Bytes) :
    ∃ prepared, recordLeaf crypto record = .ok prepared ∧
      contributionLeaf crypto setup.capsule route
        (signedMaterial crypto seed record request digest transcript) = .ok prepared := by
  obtain ⟨own, hown, -, hslot, -⟩ := h.routes_getElem? hoffset
  rw [hroute, Option.some.injEq] at hown
  subst hown
  obtain ⟨hash, hhash, -⟩ := hheld.leaf
  obtain ⟨prepared, leafTranscript, hprepared, -, -⟩ := leafHash_eq_ok hhash
  refine ⟨prepared, hprepared, (contributionLeaf_eq_ok route _ (h.policyBody hheld) hprepared).trans
    (congrArg Except.ok ?_)⟩
  simp only [recordLeaf, Checks.bind_eq_ok, wire_eq_ok, Except.ok.injEq] at hprepared
  obtain ⟨_, -, rfl⟩ := hprepared
  rw [hslot, ← hheld.opaqueSlotId]
  rfl

/-- The material of a record passes the client's checks. -/
theorem SetUp.signedMaterial_checks {route : GuardianRouteV3} {transcript : Bytes}
    (h : SetUp crypto vault libs answer options draws stages setup)
    (hmerkle : crypto.MerkleComplete) (hsignatures : crypto.SignatureCorrect)
    (hoffset : offset < stages.actors.guardianCount.toNat)
    (hheld : RecordHeld crypto vault draws stages (stages.policy crypto options draws) offset
      record)
    (hroute : (stages.routes crypto options draws)[offset]? = some route)
    (hdigest : recoveryRequestDigestV3 crypto request = .ok digest)
    (hwritten : guardianRecoveryContributionV3 (recoveredMaterial record request digest) =
      .ok transcript) :
    contributionChecks crypto
      (signedMaterial crypto (draws.guardianSeed offset) record request digest transcript) route
      (stages.descriptor crypto options draws) setup.capsule request = .ok () := by
  obtain ⟨own, hown, hindex, -, hkey⟩ := h.routes_getElem? hoffset
  rw [hroute, Option.some.injEq] at hown
  subst hown
  obtain ⟨hash, hhash, -⟩ := hheld.leaf
  obtain ⟨prepared, leafTranscript, hprepared, hleafTranscript, rfl⟩ := leafHash_eq_ok hhash
  obtain ⟨_, hsame, hleaf⟩ := h.signedMaterial_leaf hoffset hheld hroute
    (draws.guardianSeed offset) request digest transcript
  cases hsame.symm.trans hprepared
  have hpath := h.path_verifies hmerkle hheld hhash
  have hfound := h.routes_findIdx? hoffset
  simp only [contributionChecks, Checks.bind_eq_ok, bailIf_eq_ok, exists_const, wire_eq_ok,
    crypt_eq_ok, okOr_eq_ok, Crypto.merkleVerify_eq_ok, Crypto.verify_eq_ok, not_or, not_not]
  refine ⟨⟨rfl, rfl⟩, digest, hdigest, ⟨rfl, rfl, rfl, hheld.guardianIndex.trans hindex.symm⟩,
    transcript, hwritten, ?_, _, hleaf, offset, ?_, leafTranscript, hleafTranscript, ?_⟩
  · rw [hkey]
    exact hsignatures _ _
  · have hguardian : (signedMaterial crypto (draws.guardianSeed offset) record request digest
        transcript).guardianIndex = idAt offset := hheld.guardianIndex
    rw [hguardian]
    exact hfound
  · have hlength : (stages.descriptor crypto options draws).guardians.length =
        stages.actors.guardianCount.toNat := h.routes_length
    rw [hlength]
    exact hpath

end MasterRecovery
