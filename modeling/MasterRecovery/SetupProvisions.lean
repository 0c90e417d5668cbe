import MasterRecovery.Lib.Mapped
import MasterRecovery.OwnerSetup

/-!
# What a setup sends (gp-network/src/client.rs, gp-network/src/server.rs)

Every party checks its provision. A setup that succeeds passes all these checks: signers are in the
signer set, guardians hold records that are committed to under the capsule's material root, and
witnesses find the signer set and their own pin.
-/

namespace MasterRecovery
open Checks Transcript Wire Mapped

variable {crypto : Crypto} {vault : Vault} {libs : ClientLibs} {answer : String → Option NodeInfo}
  {options : SetupV3Options} {draws : SetupDraws} {setup : OwnerSetup}

/-! ### The steps of a setup that succeeds -/

/-- What the owner holds on the way. -/
structure SetupStages where
  actors : SetupActors
  signers : SetupSigners
  payload : SetupPayload
  drafts : List GuardianRecordV3
  leaves : List Id32
  root : Id32
  proofs : List MerkleProofBytes
  sealedDescriptor : AeadCiphertext
  pins : List WitnessPin

namespace SetupStages

variable (crypto : Crypto) (options : SetupV3Options) (draws : SetupDraws) (stages : SetupStages)

def routes : List GuardianRouteV3 := setupRoutes crypto options draws stages.actors.guardians

def policy : GuardianPolicyV3 :=
  setupPolicy crypto options draws stages.actors.signerCount stages.signers.root
    stages.payload.dpssPublicCommitment

def records : List GuardianRecordV3 :=
  List.zipWith (placeRecord stages.root) stages.drafts stages.proofs

def descriptor : RecoveryDescriptorV3 :=
  setupDescriptor options draws stages.actors.guardianCount stages.payload
    (stages.routes crypto options draws) stages.root

def unhashed : ConfigCapsuleV3 :=
  setupCapsule crypto options draws stages.actors stages.signers.root stages.payload stages.root
    stages.sealedDescriptor

end SetupStages

structure SetUp (crypto : Crypto) (vault : Vault) (libs : ClientLibs)
    (answer : String → Option NodeInfo) (options : SetupV3Options) (draws : SetupDraws)
    (stages : SetupStages) (setup : OwnerSetup) : Prop where
  actors : setupActors answer options = .ok stages.actors
  signers : setupSigners crypto libs options draws stages.actors.signerCount = .ok stages.signers
  payload : setupPayload crypto vault libs options draws stages.actors.guardianCount =
    .ok stages.payload
  drafts : ((stages.routes crypto options draws).zipIdx.mapM fun entry =>
    sealRecord crypto vault draws (stages.policy crypto options draws) stages.payload entry.1
      entry.2) = .ok stages.drafts
  leaves : stages.drafts.mapM (leafHash crypto) = .ok stages.leaves
  tree : crypto.merkleCommit stages.leaves = .ok (stages.root, stages.proofs)
  sealedDescriptor : sealDescriptor vault libs draws (stages.descriptor crypto options draws) =
    .ok stages.sealedDescriptor
  pins : setupPins options stages.actors.witnesses = .ok stages.pins
  capsule : ∃ body, configCapsuleBodyV3 (stages.unhashed crypto options draws) = .ok body ∧
    setup.capsule = { stages.unhashed crypto options draws with capsuleHash := crypto.sha256 body }
  card : setup.card = setupCard crypto options draws stages.actors.signerCount stages.signers.root
    stages.pins
  valid : validateActivatedCapsuleV3 crypto setup.card.toRecoveryCardV3 setup.capsule = .ok ()
  signerProvisions : (List.range stages.actors.signerCount.toNat).mapM (signerProvision crypto options
    draws stages.signers setup.card.toRecoveryCardV3 setup.capsule) = .ok setup.signers
  guardianProvisions : (stages.records.zipIdx.mapM fun entry =>
    guardianProvision crypto options draws setup.card.toRecoveryCardV3 setup.capsule
      (signerPublicKeys crypto draws stages.actors.signerCount) entry.1 entry.2) = .ok setup.guardians
  witnessProvisions : setup.witnesses = (List.range options.witnesses.length).map
    (witnessProvisionOf setup.card.toRecoveryCardV3 setup.capsule
      (signerPublicKeys crypto draws stages.actors.signerCount))

theorem setupV3_eq_ok (h : setupV3 crypto vault libs answer options draws = .ok setup) :
    ∃ stages, SetUp crypto vault libs answer options draws stages setup := by
  simp only [setupV3, setupRecords, bind_eq_ok, crypt_eq_ok, wire_eq_ok, Except.ok.injEq] at h
  obtain ⟨actors, hactors, signers, hsigners, payload, hpayload, material,
    ⟨drafts, hdrafts, leaves, hleaves, tree, htree, rfl⟩, sealedDescriptor, hdescriptor, body, hbody,
    pins, hpins, _, hvalid, signerProvisions, hsignerProvisions, guardianProvisions,
    hguardianProvisions, rfl⟩ := h
  exact ⟨⟨actors, signers, payload, drafts, leaves, tree.1, tree.2, sealedDescriptor, pins⟩,
    hactors, hsigners, hpayload, hdrafts, hleaves, htree, hdescriptor, hpins, ⟨body, hbody, rfl⟩,
    rfl, hvalid, hsignerProvisions, hguardianProvisions, rfl⟩

/-! ### Counts and ids -/

theorem idAt_toNat {offset : ℕ} (h : offset + 1 < 2 ^ 16) : (idAt offset).toNat = offset + 1 := by
  rw [idAt, UInt16.toNat_ofNat']
  omega

theorem countOf_eq_ok {targets : List String} {count : UInt16} (h : countOf targets = .ok count) :
    count.toNat = targets.length := by
  simp only [countOf, bind_eq_ok, bailIf_eq_ok, exists_const, not_le, Except.ok.injEq] at h
  obtain ⟨hlt, rfl⟩ := h
  rw [UInt16.toNat_ofNat']
  omega

theorem fetchNodeInfosV3_length {role : String} {targets : Finset (List Char)}
    {nodeIds : Finset String} {transportKeys : Finset Bytes} {signingKeys : Finset PublicKey}
    {wanted : List String} {infos : List NodeInfo}
    (h : fetchNodeInfosV3 answer role targets nodeIds transportKeys signingKeys wanted = .ok infos) :
    infos.length = wanted.length := by
  induction wanted generalizing targets nodeIds transportKeys signingKeys infos with
  | nil =>
    cases h
    rfl
  | cons target rest ih =>
    simp only [fetchNodeInfosV3, bind_eq_ok, Except.ok.injEq] at h
    obtain ⟨_, -, _, -, _, -, infos, hrest, rfl⟩ := h
    rw [List.length_cons, List.length_cons, ih hrest]

/-- What is known of the counts. -/
structure ActorsCounted (options : SetupV3Options) (actors : SetupActors) : Prop where
  signers : actors.signerCount.toNat = options.signers.length
  guardians : actors.guardianCount.toNat = options.guardians.length
  signerThreshold : options.signerThreshold ≠ 0 ∧ options.signerThreshold ≤ actors.signerCount
  guardianThreshold : 2 ≤ options.guardianThreshold ∧
    options.guardianThreshold ≤ actors.guardianCount
  guardianInfos : actors.guardians.length = options.guardians.length
  witnessInfos : actors.witnesses.length = options.witnesses.length

theorem setupActors_counted {actors : SetupActors} (h : setupActors answer options = .ok actors) :
    ActorsCounted options actors := by
  simp only [setupActors, bind_eq_ok, bailIf_eq_ok, exists_const, not_or, UInt16.not_lt,
    Except.ok.injEq] at h
  obtain ⟨_, hsigners, _, hguardians, ⟨-, hle, hzero, hle', htwo, -⟩, _, -, _, hguardianInfos, _,
    hwitnessInfos, rfl⟩ := h
  exact ⟨countOf_eq_ok hsigners, countOf_eq_ok hguardians, ⟨hzero, hle⟩, ⟨htwo, hle'⟩,
    fetchNodeInfosV3_length hguardianInfos, fetchNodeInfosV3_length hwitnessInfos⟩

/-! ### Signers -/

/-- The paths that a Merkle tree comes with verify. -/
def Crypto.MerkleComplete (crypto : Crypto) : Prop :=
  ∀ leaves root proofs, crypto.merkleTree leaves = some (root, proofs) →
    proofs.length = leaves.length ∧ ∀ (index : ℕ) (leaf : Id32) (proof : MerkleProofBytes),
      leaves[index]? = some leaf → proofs[index]? = some proof →
        crypto.merkleProofVerifies proof root index leaf leaves.length = true

theorem take_drop_flatMap {leaves : List Id32} {index : ℕ} {leaf : Id32}
    (h : leaves[index]? = some leaf) :
    ((leaves.flatMap idBytes).drop (32 * index)).take 32 = idBytes leaf := by
  induction leaves generalizing index with
  | nil => cases h
  | cons first leaves ih =>
    cases index with
    | zero =>
      rw [List.getElem?_cons_zero, Option.some.injEq] at h
      rw [h, List.flatMap_cons, Nat.mul_zero, List.drop_zero,
        List.take_append_of_le_length (idBytes_length leaf).ge,
        List.take_of_length_le (idBytes_length leaf).le]
    | succ index =>
      have hdrop : (idBytes first ++ leaves.flatMap idBytes).drop (32 * (index + 1)) =
          (leaves.flatMap idBytes).drop (32 * index) := by
        rw [Nat.mul_succ, Nat.add_comm, ← List.drop_drop]
        rw [List.drop_left' (idBytes_length first)]
      rw [List.flatMap_cons, hdrop]
      exact ih (by simpa using h)

theorem Crypto.transparent_merkleComplete : Crypto.transparent.MerkleComplete := by
  intro leaves root proofs h
  simp only [Crypto.transparent, Option.some.injEq, Prod.mk.injEq] at h
  obtain ⟨rfl, rfl⟩ := h
  refine ⟨List.length_map _, fun index leaf proof hleaf hproof => ?_⟩
  rw [List.getElem?_map, Option.map_eq_some_iff] at hproof
  obtain ⟨_, -, rfl⟩ := hproof
  have hlength : (leaves.flatMap idBytes).length = 32 * leaves.length := by
    rw [List.length_flatMap, List.map_congr_left fun leaf _ => idBytes_length leaf]
    simp [Nat.mul_comm]
  simp only [Crypto.transparent, Bool.and_eq_true, beq_iff_eq]
  exact ⟨⟨trivial, hlength⟩, take_drop_flatMap hleaf⟩

theorem merkleCommit_eq_ok {leaves : List Id32} {tree : Id32 × List MerkleProofBytes} :
    crypto.merkleCommit leaves = .ok tree ↔ leaves ≠ [] ∧ crypto.merkleTree leaves = some tree := by
  simp only [Crypto.merkleCommit, bind_eq_ok, bailIf_eq_ok, exists_const, okOr_eq_ok, ne_eq]

theorem signerPublicKeys_getElem? {signerCount : UInt16} {offset : ℕ}
    (h : offset < signerCount.toNat) :
    (signerPublicKeys crypto draws signerCount)[offset]? =
      some (idAt offset, signerKey crypto draws offset) := by
  simp [signerPublicKeys, h]

/-- The tree over the signers' leaves, and the shares. -/
structure SignersPlaced (crypto : Crypto) (libs : ClientLibs) (options : SetupV3Options)
    (draws : SetupDraws) (signerCount : UInt16) (signers : SetupSigners) : Prop where
  split : splitSecret libs.shamir (idBytes draws.authorizationKey) options.signerThreshold
    signerCount draws.sharingSeed = .ok signers.shares
  tree : ∃ leaves, signerLeaves crypto (signerPublicKeys crypto draws signerCount) = .ok leaves ∧
    leaves ≠ [] ∧ crypto.merkleTree leaves = some (signers.root, signers.proofs)

theorem setupSigners_placed {signerCount : UInt16} {signers : SetupSigners}
    (h : setupSigners crypto libs options draws signerCount = .ok signers) :
    SignersPlaced crypto libs options draws signerCount signers := by
  simp only [setupSigners, bind_eq_ok, crypt_eq_ok, merkleCommit_eq_ok, Except.ok.injEq] at h
  obtain ⟨shares, hsplit, leaves, hleaves, tree, ⟨hnonempty, htree⟩, rfl⟩ := h
  exact ⟨hsplit, leaves, hleaves, hnonempty, htree⟩

theorem SignersPlaced.leaves_length {signerCount : UInt16} {leaves : List Id32}
    (h : signerLeaves crypto (signerPublicKeys crypto draws signerCount) = .ok leaves) :
    leaves.length = signerCount.toNat := by
  rw [signerLeaves] at h
  rw [length_eq h, signerPublicKeys, List.length_map, List.length_range]

/-- Each signer is in the signer set, under its id and key. -/
theorem SignersPlaced.member {signerCount : UInt16} {signers : SetupSigners}
    {capsule : ConfigCapsuleV3} (hmerkle : crypto.MerkleComplete)
    (h : SignersPlaced crypto libs options draws signerCount signers)
    (hcount : capsule.signerCount = signerCount) (hroot : capsule.signerSetCommitment = signers.root)
    {offset : ℕ} (hoffset : offset < signerCount.toNat) :
    validateSignerMembership crypto (idAt offset) (signerKey crypto draws offset)
      (signers.proofs.getD offset []) capsule = .ok () := by
  obtain ⟨leaves, hleaves, -, htree⟩ := h.tree
  have hlength := SignersPlaced.leaves_length hleaves
  obtain ⟨hproofs, hverifies⟩ := hmerkle _ _ _ htree
  have hid : (idAt offset).toNat = offset + 1 := by
    have hbound := signerCount.toNat_lt
    exact idAt_toNat (by omega)
  rw [signerLeaves] at hleaves
  obtain ⟨leaf, hleaf, hhash⟩ := getElem?_of_item hleaves (signerPublicKeys_getElem? hoffset)
  simp only [bind_eq_ok, wire_eq_ok, pure_eq_ok] at hhash
  obtain ⟨transcript, htranscript, rfl⟩ := hhash
  have hproof : signers.proofs[offset]? = some (signers.proofs.getD offset []) := by
    have hlt : offset < signers.proofs.length := by omega
    rw [List.getD_eq_getElem?_getD, List.getElem?_eq_getElem hlt]
    rfl
  have hverified := hverifies offset _ _ hleaf hproof
  rw [validateSignerMembership_eq_ok]
  refine ⟨⟨fun hzero => ?_, ?_⟩, transcript, htranscript, ?_⟩
  · rw [hzero] at hid
    cases hid
  · rw [hcount, UInt16.le_iff_toNat_le, hid]
    exact hoffset
  · rw [hid, Nat.add_sub_cancel, hroot, hcount, ← hlength]
    exact hverified

/-! ### Guardians -/

/-- What a guardian of the setup holds: its share and its fragment, sealed, and the path of its
record to the material root. -/
structure RecordHeld (crypto : Crypto) (vault : Vault) (draws : SetupDraws) (stages : SetupStages)
    (policy : GuardianPolicyV3) (offset : ℕ) (record : GuardianRecordV3) : Prop where
  guardianIndex : record.guardianIndex = idAt offset
  fragmentIndex : record.fragmentIndex = idAt offset
  opaqueSlotId : record.opaqueSlotId = draws.slotId offset
  policy : record.policy = { policy with guardianMaterialRoot := stages.root }
  share : ∃ key context share, guardianShareKeyV3 vault draws.authorizationKey draws.configRef
      (idAt offset) = .ok key ∧
    guardianShareContextV3 draws.configRef (idAt offset) = .ok context ∧
      stages.payload.frost.shares[offset]? = some share ∧
        vault.aeadEncrypt (idBytes key) (draws.shareNonce offset) share context =
          .ok record.encryptedDekShare
  fragment : ∃ key context fragment, guardianFragmentKeyV3 vault draws.authorizationKey
      draws.configRef (idAt offset) = .ok key ∧
    guardianFragmentContextV3 draws.configRef (idAt offset) (idAt offset) = .ok context ∧
      stages.payload.fragments[offset]? = some fragment ∧
        vault.aeadEncrypt (idBytes key) (draws.fragmentNonce offset) fragment context =
          .ok record.encryptedCiphertextFragment
  leaf : ∃ leaf, leafHash crypto record = .ok leaf ∧ stages.leaves[offset]? = some leaf
  path : stages.proofs[offset]? = some record.merklePathProof

theorem sealRecord_eq_ok {policy : GuardianPolicyV3} {payload : SetupPayload}
    {route : GuardianRouteV3} {offset : ℕ} {record : GuardianRecordV3}
    (h : sealRecord crypto vault draws policy payload route offset = .ok record) :
    (record.guardianIndex = route.guardianIndex ∧ record.fragmentIndex = idAt offset ∧
      record.opaqueSlotId = route.opaqueSlotId ∧ record.policy = policy) ∧
    (∃ key context share, guardianShareKeyV3 vault draws.authorizationKey draws.configRef
        route.guardianIndex = .ok key ∧
      guardianShareContextV3 draws.configRef route.guardianIndex = .ok context ∧
        payload.frost.shares[offset]? = some share ∧
          vault.aeadEncrypt (idBytes key) (draws.shareNonce offset) share context =
            .ok record.encryptedDekShare) ∧
    ∃ key context fragment, guardianFragmentKeyV3 vault draws.authorizationKey draws.configRef
        route.guardianIndex = .ok key ∧
      guardianFragmentContextV3 draws.configRef route.guardianIndex (idAt offset) = .ok context ∧
        payload.fragments[offset]? = some fragment ∧
          vault.aeadEncrypt (idBytes key) (draws.fragmentNonce offset) fragment context =
            .ok record.encryptedCiphertextFragment := by
  simp only [sealRecord, bind_eq_ok, crypt_eq_ok, wire_eq_ok, okOr_eq_ok, Except.ok.injEq] at h
  obtain ⟨shareKey, hshareKey, share, hshare, shareContext, hshareContext, encryptedShare,
    hencryptedShare, fragmentKey, hfragmentKey, fragment, hfragment, fragmentContext,
    hfragmentContext, encryptedFragment, hencryptedFragment, _, -, rfl⟩ := h
  exact ⟨⟨rfl, rfl, rfl, rfl⟩, ⟨_, _, _, hshareKey, hshareContext, hshare, hencryptedShare⟩,
    _, _, _, hfragmentKey, hfragmentContext, hfragment, hencryptedFragment⟩

theorem SetUp.routes_getElem? {stages : SetupStages}
    (h : SetUp crypto vault libs answer options draws stages setup) {offset : ℕ}
    (hoffset : offset < stages.actors.guardianCount.toNat) :
    ∃ route, (stages.routes crypto options draws)[offset]? = some route ∧
      route.guardianIndex = idAt offset ∧ route.opaqueSlotId = draws.slotId offset ∧
        route.guardianPublicKey = crypto.verifyingKeyBytes (draws.guardianSeed offset) := by
  have hcounted := setupActors_counted h.actors
  have hlt : offset < stages.actors.guardians.length := by
    rw [hcounted.guardianInfos, ← hcounted.guardians]
    exact hoffset
  refine ⟨setupRoute crypto options draws stages.actors.guardians[offset] offset, ?_, rfl, rfl, rfl⟩
  simp [SetupStages.routes, setupRoutes, hlt]

theorem SetUp.routes_length {stages : SetupStages}
    (h : SetUp crypto vault libs answer options draws stages setup) :
    (stages.routes crypto options draws).length = stages.actors.guardianCount.toNat := by
  have hcounted := setupActors_counted h.actors
  rw [SetupStages.routes, setupRoutes, List.length_map, List.length_zipIdx, hcounted.guardianInfos,
    hcounted.guardians]

theorem SetUp.leaves_length {stages : SetupStages}
    (h : SetUp crypto vault libs answer options draws stages setup) :
    stages.leaves.length = stages.actors.guardianCount.toNat := by
  rw [length_eq h.leaves, length_eq h.drafts, List.length_zipIdx, h.routes_length]

/-- The record at a place of the setup. -/
theorem SetUp.record {stages : SetupStages} (hmerkle : crypto.MerkleComplete)
    (h : SetUp crypto vault libs answer options draws stages setup) {offset : ℕ}
    (hoffset : offset < stages.actors.guardianCount.toNat) :
    ∃ record, stages.records[offset]? = some record ∧
      RecordHeld crypto vault draws stages (stages.policy crypto options draws) offset record := by
  obtain ⟨route, hroute, hindex, hslot, -⟩ := h.routes_getElem? hoffset
  have hentry : (stages.routes crypto options draws).zipIdx[offset]? = some (route, offset) := by
    simp [hroute]
  obtain ⟨draft, hdraft, hsealed⟩ := getElem?_of_item h.drafts hentry
  obtain ⟨⟨hguardianIndex, hfragmentIndex, hopaqueSlot, hpolicy⟩, hshare, hfragment⟩ :=
    sealRecord_eq_ok hsealed
  obtain ⟨leaf, hleaf, hhash⟩ := getElem?_of_item h.leaves hdraft
  obtain ⟨-, htree⟩ := merkleCommit_eq_ok.mp h.tree
  have hlt : offset < stages.proofs.length := by
    rw [(hmerkle _ _ _ htree).1, h.leaves_length]
    exact hoffset
  refine ⟨placeRecord stages.root draft stages.proofs[offset], ?_, ?_⟩
  · rw [SetupStages.records, List.getElem?_zipWith, hdraft, List.getElem?_eq_getElem hlt]
  · rw [hindex] at hguardianIndex hshare hfragment
    exact {
      guardianIndex := hguardianIndex
      fragmentIndex := hfragmentIndex
      opaqueSlotId := hopaqueSlot.trans hslot
      policy := by rw [← hpolicy]; rfl
      share := hshare
      fragment := hfragment
      leaf := ⟨leaf, hhash, hleaf⟩
      path := List.getElem?_eq_getElem hlt }

/-- The path of the record verifies under the material root. -/
theorem SetUp.path_verifies {stages : SetupStages} (hmerkle : crypto.MerkleComplete)
    (h : SetUp crypto vault libs answer options draws stages setup) {offset : ℕ}
    {record : GuardianRecordV3}
    (hheld : RecordHeld crypto vault draws stages (stages.policy crypto options draws) offset record)
    {leaf : Id32} (hleaf : leafHash crypto record = .ok leaf) :
    crypto.merkleProofVerifies record.merklePathProof stages.root offset leaf
      stages.actors.guardianCount.toNat = true := by
  obtain ⟨_, hhash, hplace⟩ := hheld.leaf
  cases hhash.symm.trans hleaf
  obtain ⟨-, htree⟩ := merkleCommit_eq_ok.mp h.tree
  rw [← h.leaves_length]
  exact (hmerkle _ _ _ htree).2 offset leaf _ hplace hheld.path

/-! ### Mailboxes -/

theorem le_utf8ByteSize (chars : List Char) : chars.length ≤ (String.ofList chars).utf8ByteSize := by
  induction chars with
  | nil => exact Nat.zero_le _
  | cons c chars ih =>
    have happend : String.ofList (c :: chars) = String.singleton c ++ String.ofList chars := by
      rw [← String.toList_inj]
      simp
    have hpos := Char.utf8Size_pos c
    rw [happend, String.utf8ByteSize_append, String.utf8ByteSize_singleton, List.length_cons]
    omega

/-- A long name is the mailbox, alone or after a slash. -/
theorem mailboxId_of_name {url name : List Char} (rest : List Char)
    (hurl : url.reverse = name.reverse ++ rest) (hrest : rest.takeWhile (· ≠ '/') = []) (hname : '/' ∉ name) (hlong : 32 ≤ name.length) :
    mailboxId (String.ofList url) = .ok (String.ofList name) := by
  have hall : ∀ c ∈ name.reverse, decide (c ≠ '/') = true := by
    intro c hc
    simp only [List.mem_reverse] at hc
    simp only [ne_eq, decide_not, Bool.not_eq_true', decide_eq_false_iff_not]
    rintro rfl
    exact hname hc
  have hdrop : (name.reverse ++ rest).dropWhile (· = '/') = name.reverse ++ rest := by
    cases hreverse : name.reverse with
    | nil =>
      rw [List.reverse_eq_nil_iff] at hreverse
      rw [hreverse] at hlong
      cases hlong
    | cons c chars =>
      have hc := hall c (by rw [hreverse]; exact List.mem_cons_self ..)
      rw [List.cons_append, List.dropWhile_cons_of_neg (by simpa using hc)]
  have hlast : ((String.ofList url).toList.reverse.dropWhile (· = '/')).takeWhile (· ≠ '/') =
      name.reverse := by
    rw [String.toList_ofList, hurl, hdrop, List.takeWhile_append_of_pos hall, hrest,
      List.append_nil]
  have hsize := hlong.trans (le_utf8ByteSize name)
  simp only [mailboxId, hlast, List.reverse_reverse]
  rw [bailIf, if_neg (Nat.not_lt.mpr hsize)]
  rfl

theorem hexDigit_ne_slash (value : ℕ) : hexDigit value ≠ '/' := by
  have hdigits : ∀ value < 16, hexDigit value ≠ '/' := by decide
  rcases Nat.lt_or_ge value 16 with hlt | hge
  · exact hdigits value hlt
  · rw [hexDigit, List.getD_eq_default _ _ (by simpa using hge)]
    decide

theorem slash_notMem_hexEncode (id : Id32) : '/' ∉ hexEncode id := by
  intro hmem
  obtain ⟨byte, -, hbyte⟩ := List.mem_flatMap.mp hmem
  simp only [List.mem_cons, List.not_mem_nil, or_false] at hbyte
  rcases hbyte with heq | heq
  · exact hexDigit_ne_slash _ heq.symm
  · exact hexDigit_ne_slash _ heq.symm

theorem length_hexEncode (id : Id32) : (hexEncode id).length = 64 := by
  simp [hexEncode]

/-- The id in the URL of a mailbox. -/
theorem mailboxId_mailboxUrlV3 (relay : List Char) (id : Id32) :
    mailboxId (mailboxUrlV3 relay id) = .ok (String.ofList (hexEncode id)) := by
  refine mailboxId_of_name ('/' :: "/v3/mailboxes".toList.reverse ++ relay.reverse) ?_ ?_
    (slash_notMem_hexEncode id) ?_
  · simp
  · rfl
  · rw [length_hexEncode]
    decide

theorem mailboxId_hexEncode (id : Id32) :
    mailboxId (String.ofList (hexEncode id)) = .ok (String.ofList (hexEncode id)) := by
  refine mailboxId_of_name [] ?_ rfl (slash_notMem_hexEncode id) ?_
  · simp
  · rw [length_hexEncode]
    decide

/-! ### What a signer's server asks -/

structure SignerServer where
  identitySeed : Id32
  nodeId : String
  adminToken : String

/-- What `signer_rotation_provision` asks before it looks at the store. -/
def openSignerProvision (crypto : Crypto) (vault : Vault)
    (decodeProvision : Bytes → Except String SignerRotationProvision) (server : SignerServer)
    (bearer : Option String) (sealedMessage : SealedMessage) :
    Except ApiError (String × SignerRotationProvisionV3) := do
  bailIf (server.adminToken = "" ∨ bearer ≠ some server.adminToken)
    ⟨.forbidden, "invalid node provisioning token"⟩
  let context ← api (wire (nodeProvisionContext server.nodeId "signer-v3"))
  let plaintext ← api (crypt (openSealed vault server.identitySeed sealedMessage context))
  let opened ← api (decodeProvision plaintext)
  let provision := opened.provision
  let capsule := provision.activeCapsule
  api (validateActivatedCapsuleV3 crypto provision.recoveryCard capsule)
  bailIf (provision.signerId = 0 ∨ capsule.signerCount < provision.signerId ∨
    provision.signingPublicKey ≠ crypto.verifyingKeyBytes provision.signingSeed)
    (badRequest "invalid protocol-v3 signer identity")
  let leaf ← api (wire (signerLeaf provision.signerId provision.signingPublicKey))
  api (crypt (crypto.merkleVerify capsule.signerSetCommitment (crypto.sha256 leaf)
    (provision.signerId.toNat - 1) capsule.signerCount.toNat provision.membershipProof))
  let mailbox ← api (mailboxId opened.mailbox)
  .ok (mailbox, provision)

/-- A node finds the value in an envelope. -/
def Receives {α : Type} (vault : Vault) (seed : Id32) (nodeId role : String)
    (decode : Bytes → Except String α) (sealedMessage : SealedMessage) (value : α) : Prop :=
  ∃ context plaintext, nodeProvisionContext nodeId role = .ok context ∧
    openSealed vault seed sealedMessage context = .ok plaintext ∧ decode plaintext = .ok value

/-! ### Acceptance -/

theorem clientMailboxId_mailboxUrlV3 (relay : List Char) (id : Id32) :
    clientMailboxId (mailboxUrlV3 relay id) = .ok (String.ofList (hexEncode id)) := by
  rw [clientMailboxId, mailboxId_mailboxUrlV3]
  rfl

theorem getElem?_range {n i a : ℕ} (h : (List.range n)[i]? = some a) : i < n ∧ a = i := by
  obtain ⟨hlt, rfl⟩ := List.getElem?_eq_some_iff.mp h
  simpa using hlt

/-- The capsule's signer set is the one of the setup. -/
theorem SetUp.capsule_signers {stages : SetupStages}
    (h : SetUp crypto vault libs answer options draws stages setup) :
    setup.capsule.signerCount = stages.actors.signerCount ∧
      setup.capsule.signerSetCommitment = stages.signers.root := by
  obtain ⟨_, -, hcapsule⟩ := h.capsule
  rw [hcapsule]
  exact ⟨rfl, rfl⟩

theorem SetUp.record_configRef {stages : SetupStages}
    (h : SetUp crypto vault libs answer options draws stages setup) {record : GuardianRecordV3}
    (hmem : record ∈ stages.records) : record.policy.configRef = setup.capsule.configRef := by
  obtain ⟨_, -, hcapsule⟩ := h.capsule
  rw [SetupStages.records] at hmem
  obtain ⟨i, hi⟩ := List.getElem?_of_mem hmem
  obtain ⟨draft, proof, hdraft, -, rfl⟩ := List.getElem?_zipWith_eq_some.mp hi
  obtain ⟨entry, -, hsealed⟩ := getElem?_of_result h.drafts hdraft
  obtain ⟨⟨-, -, -, hpolicy⟩, -, -⟩ := sealRecord_eq_ok hsealed
  calc (placeRecord stages.root draft proof).policy.configRef = draft.policy.configRef := rfl
    _ = draws.configRef := by rw [hpolicy]; rfl
    _ = setup.capsule.configRef := by rw [hcapsule]; rfl

theorem SetUp.signer_accepted {stages : SetupStages} (hmerkle : crypto.MerkleComplete)
    (h : SetUp crypto vault libs answer options draws stages setup)
    {decodeProvision : Bytes → Except String SignerRotationProvision} {server : SignerServer}
    {sealedMessage : SealedMessage} {provision : SignerRotationProvision}
    (hmem : provision ∈ setup.signers) (htoken : server.adminToken ≠ "")
    (hreceives : Receives vault server.identitySeed server.nodeId "signer-v3" decodeProvision
      sealedMessage provision) :
    openSignerProvision crypto vault decodeProvision server (some server.adminToken)
      sealedMessage = .ok (provision.mailbox, provision.provision) := by
  obtain ⟨context, plaintext, hcontext, hopened, hdecoded⟩ := hreceives
  obtain ⟨i, hi⟩ := List.getElem?_of_mem hmem
  obtain ⟨offset, hoffset, hprovision⟩ := getElem?_of_result h.signerProvisions hi
  obtain ⟨hlt, rfl⟩ := getElem?_range hoffset
  rw [signerProvision, clientMailboxId_mailboxUrlV3] at hprovision
  cases hprovision
  obtain ⟨hcount, hroot⟩ := h.capsule_signers
  obtain ⟨⟨hpositive, hbound⟩, leaf, hleaf, hpath⟩ := validateSignerMembership_eq_ok.mp
    ((setupSigners_placed h.signers).member hmerkle hcount hroot hlt)
  simp only [openSignerProvision, bind_eq_ok, bailIf_eq_ok, exists_const, api_eq_ok, wire_eq_ok,
    crypt_eq_ok, Crypto.merkleVerify_eq_ok, Except.ok.injEq]
  refine ⟨not_or.mpr ⟨htoken, not_not.mpr rfl⟩, context, hcontext, plaintext, hopened, _, hdecoded,
    (), h.valid, ?_, leaf, hleaf, hpath, _, mailboxId_hexEncode _, rfl⟩
  exact not_or.mpr ⟨hpositive, not_or.mpr ⟨UInt16.not_lt.mpr hbound, not_not.mpr rfl⟩⟩

/-! #### Guardians -/

/-- The ids of the signers increase. -/
theorem signerPublicKeys_increasing {signerCount : UInt16} :
    (signerPublicKeys crypto draws signerCount).Pairwise fun a b => compare a.1 b.1 = .lt := by
  have hbound := signerCount.toNat_lt
  rw [signerPublicKeys, List.pairwise_map]
  refine List.pairwise_lt_range.imp_of_mem fun {a b} ha hb hlt => ?_
  rw [List.mem_range] at ha hb
  rw [Std.compare_eq_lt, UInt16.lt_iff_toNat_lt, idAt_toNat (by omega), idAt_toNat (by omega)]
  omega

/-- The pins of a guardian are in range and encode. -/
theorem pinChecks_eq_ok {signerCount : UInt16} {pins : List (UInt16 × PublicKey)}
    (h : ∀ pin ∈ pins, pin.1 ≠ 0 ∧ pin.1 ≤ signerCount ∧ ∃ leaf, signerLeaf pin.1 pin.2 = .ok leaf) :
    pinChecks signerCount pins = .ok () := by
  induction pins with
  | nil => rfl
  | cons pin pins ih =>
    obtain ⟨hpositive, hbound, leaf, hleaf⟩ := h pin (List.mem_cons_self ..)
    simp only [pinChecks, bind_eq_ok, bailIf_eq_ok, exists_const, api_eq_ok, wire_eq_ok]
    refine ⟨not_or.mpr ⟨hpositive, UInt16.not_lt.mpr hbound⟩, leaf, hleaf, ?_⟩
    exact ih fun pin hpin => h pin (List.mem_cons_of_mem _ hpin)

theorem SetUp.pins_accepted {stages : SetupStages} (hmerkle : crypto.MerkleComplete)
    (h : SetUp crypto vault libs answer options draws stages setup) :
    pinChecks setup.capsule.signerCount
      (Std.TreeMap.ofList (signerPublicKeys crypto draws stages.actors.signerCount)).toList =
        .ok () := by
  rw [Keyed.toList_of_increasing signerPublicKeys_increasing]
  obtain ⟨hcount, hroot⟩ := h.capsule_signers
  refine pinChecks_eq_ok fun pin hpin => ?_
  obtain ⟨offset, hoffset, rfl⟩ := List.mem_map.mp hpin
  obtain ⟨⟨hpositive, hbound⟩, leaf, hleaf, -⟩ := validateSignerMembership_eq_ok.mp
    ((setupSigners_placed h.signers).member hmerkle hcount hroot (List.mem_range.mp hoffset))
  exact ⟨hpositive, hbound, leaf, hleaf⟩

theorem SetUp.guardian_accepted {stages : SetupStages} (hmerkle : crypto.MerkleComplete)
    (h : SetUp crypto vault libs answer options draws stages setup)
    {decodeProvision : Bytes → Except String GuardianRotationProvision} {server : GuardianServer}
    {sealedMessage : SealedMessage} {provision : GuardianRotationProvision}
    (hmem : provision ∈ setup.guardians) (htoken : server.adminToken ≠ "")
    (hdelay : productionMinDelaySecs ≤ options.delaySecs ∨
      server.node.allowInsecureDemoDelay = true)
    (hreceives : Receives vault server.node.identitySeed server.nodeId "guardian-v3"
      decodeProvision sealedMessage provision) :
    openProvision crypto vault decodeProvision server (some server.adminToken) sealedMessage =
      .ok (provision.mailbox, provision.provision) := by
  obtain ⟨context, plaintext, hcontext, hopened, hdecoded⟩ := hreceives
  obtain ⟨i, hi⟩ := List.getElem?_of_mem hmem
  obtain ⟨entry, hentry, hprovision⟩ := getElem?_of_result h.guardianProvisions hi
  rw [guardianProvision, clientMailboxId_mailboxUrlV3] at hprovision
  cases hprovision
  have hpins := h.pins_accepted hmerkle
  have hrecord : entry.1 ∈ stages.records :=
    List.fst_mem_of_mem_zipIdx (List.mem_of_getElem? hentry)
  have hbinds := h.record_configRef hrecord
  obtain ⟨_, -, hcapsule⟩ := h.capsule
  have hcapsuleDelay : setup.capsule.minimumRecoveryDelay = options.delaySecs := by
    rw [hcapsule]
    rfl
  simp only [openProvision, bind_eq_ok, bailIf_eq_ok, exists_const, api_eq_ok, wire_eq_ok,
    crypt_eq_ok, Except.ok.injEq]
  refine ⟨not_or.mpr ⟨htoken, not_not.mpr rfl⟩, context, hcontext, plaintext, hopened, _, hdecoded,
    (), h.valid, ?_, (), hpins, ?_, _, mailboxId_hexEncode _, rfl⟩
  · simp only [not_or, ne_eq, not_not]
    exact ⟨trivial, congrArg (·.configId) hbinds, hbinds, rfl⟩
  · rw [hcapsuleDelay]
    rintro ⟨hshort, hproduction⟩
    rcases hdelay with hlong | hdemo
    · exact absurd hshort (UInt64.not_lt.mpr hlong)
    · rw [hdemo] at hproduction
      cases hproduction

/-! #### Witnesses -/

theorem signerPublicKeys_keys {signerCount : UInt16} :
    (Std.TreeMap.ofList (signerPublicKeys crypto draws signerCount)).keys.toFinset =
      signerIds signerCount := by
  rw [← Std.TreeMap.map_fst_toList_eq_keys, Keyed.toList_of_increasing signerPublicKeys_increasing,
    signerIds, signerPublicKeys, List.map_map, List.range'_eq_map_range, List.map_map]
  congr 1
  refine List.map_congr_left fun offset _ => ?_
  rw [Function.comp_apply, Function.comp_apply, idAt, Nat.add_comm]

theorem signerPublicKeys_size {signerCount : UInt16} :
    (Std.TreeMap.ofList (signerPublicKeys crypto draws signerCount)).size = signerCount.toNat := by
  rw [← Std.TreeMap.length_toList, Keyed.toList_of_increasing signerPublicKeys_increasing,
    signerPublicKeys, List.length_map, List.length_range]

/-- The node behind a target of the setup. -/
theorem fetchNodeInfosV3_getElem? {role : String} {targets : Finset (List Char)}
    {nodeIds : Finset String} {transportKeys : Finset Bytes} {signingKeys : Finset PublicKey}
    {wanted : List String} {infos : List NodeInfo} {offset : ℕ} {target : String}
    (h : fetchNodeInfosV3 answer role targets nodeIds transportKeys signingKeys wanted = .ok infos)
    (htarget : wanted[offset]? = some target) :
    infos[offset]? = answer (String.ofList (trimEnd target)) := by
  induction wanted generalizing targets nodeIds transportKeys signingKeys infos offset with
  | nil => cases htarget
  | cons first rest ih =>
    simp only [fetchNodeInfosV3, bind_eq_ok, okOr_eq_ok, Except.ok.injEq] at h
    obtain ⟨_, -, info, hinfo, _, -, infos, hrest, rfl⟩ := h
    cases offset with
    | zero =>
      rw [List.getElem?_cons_zero, Option.some.injEq] at htarget
      rw [List.getElem?_cons_zero, ← htarget, hinfo]
    | succ offset =>
      rw [List.getElem?_cons_succ] at htarget ⊢
      exact ih hrest htarget

/-- The pins of the witnesses, in the order of their targets. -/
theorem setupPins_getElem? {witnesses : List NodeInfo} {pins : List WitnessPin} {offset : ℕ}
    {target : String} {info : NodeInfo} (h : setupPins options witnesses = .ok pins)
    (htarget : options.witnesses[offset]? = some target)
    (hinfo : witnesses[offset]? = some info) :
    ∃ pin, pins[offset]? = some pin ∧ pin.witnessId = idAt offset ∧
      info.signingPublicKey = some pin.publicKey := by
  have hpair : (List.zip options.witnesses witnesses).zipIdx[offset]? =
      some ((target, info), offset) := by
    simp [List.getElem?_zip_eq_some, htarget, hinfo]
  obtain ⟨pin, hpin, hresult⟩ := getElem?_of_item h hpair
  simp only [witnessPin, bind_eq_ok, okOr_eq_ok, Except.ok.injEq] at hresult
  obtain ⟨_, -, key, hkey, rfl⟩ := hresult
  exact ⟨_, hpin, rfl, hkey⟩

theorem setupActors_witness {actors : SetupActors} {offset : ℕ} {target : String}
    (h : setupActors answer options = .ok actors)
    (htarget : options.witnesses[offset]? = some target) :
    actors.witnesses[offset]? = answer (String.ofList (trimEnd target)) := by
  simp only [setupActors, bind_eq_ok, Except.ok.injEq] at h
  obtain ⟨_, -, _, -, _, -, _, -, _, -, witnesses, hwitnesses, rfl⟩ := h
  exact fetchNodeInfosV3_getElem? hwitnesses htarget

theorem setupPins_increasing {witnesses : List NodeInfo} {pins : List WitnessPin}
    (h : setupPins options witnesses = .ok pins) :
    (pins.map fun pin => (pin.witnessId, pin.publicKey)).Pairwise fun a b =>
      compare a.1 b.1 = .lt := by
  have hplaced : ∀ (i : ℕ) (pin : WitnessPin), pins[i]? = some pin →
      pin.witnessId.toNat = i + 1 := by
    intro i pin hpin
    obtain ⟨entry, hentry, hresult⟩ := getElem?_of_result h hpin
    obtain ⟨_, -, rfl⟩ : ∃ pair, (List.zip options.witnesses witnesses)[i]? = some pair ∧
        (pair, i) = entry := by simpa using hentry
    simp only [witnessPin, bind_eq_ok, bailIf_eq_ok, exists_const, okOr_eq_ok,
      Except.ok.injEq] at hresult
    obtain ⟨hbound, key, -, rfl⟩ := hresult
    exact idAt_toNat (by omega)
  rw [List.pairwise_map, List.pairwise_iff_getElem]
  intro i j hi hj hlt
  have hleft := hplaced i _ (List.getElem?_eq_getElem hi)
  have hright := hplaced j _ (List.getElem?_eq_getElem hj)
  rw [Std.compare_eq_lt, UInt16.lt_iff_toNat_lt, hleft, hright]
  omega

theorem SetUp.capsule_genesis {stages : SetupStages}
    (h : SetUp crypto vault libs answer options draws stages setup) :
    setup.capsule.configRef = draws.configRef ∧
      setup.capsule.protocolVersion = protocolVersionV3 := by
  obtain ⟨_, -, hcapsule⟩ := h.capsule
  rw [hcapsule]
  exact ⟨rfl, rfl⟩

/-- The pins a witness finds in the card. -/
structure PinsAccepted (card : RecoveryCardV3) (pins : Std.TreeMap UInt16 PublicKey) : Prop where
  roster : requiredWitnessRoster card.witnessFaultBound ≤ pins.size
  own : ∀ pin ∈ card.witnesses, pins[pin.witnessId]? = some pin.publicKey
  distinct : pins.values.toFinset.card = pins.size

theorem CardAccepted.pinsAccepted {card : RecoveryCardV3} (h : CardAccepted card)
    (hincreasing : (card.witnesses.map fun pin => (pin.witnessId, pin.publicKey)).Pairwise
      fun a b => compare a.1 b.1 = .lt) :
    PinsAccepted card (.ofList (card.witnesses.map fun pin => (pin.witnessId, pin.publicKey))) := by
  have hlist := Keyed.toList_of_increasing hincreasing
  have hsize : (Std.TreeMap.ofList (card.witnesses.map fun pin =>
      (pin.witnessId, pin.publicKey))).size = card.witnesses.length := by
    rw [← Std.TreeMap.length_toList, hlist, List.length_map]
  refine ⟨hsize ▸ h.roster, fun pin hpin => Keyed.getElem?_of_mem h.ids_nodup _ hpin, ?_⟩
  have hvalues : (card.witnesses.map fun pin => (pin.witnessId, pin.publicKey)).map (·.2) =
      card.witnesses.map (·.publicKey) := by
    rw [List.map_map]
    rfl
  rw [values_eq_map_snd, hlist, hvalues, List.toFinset_card_of_nodup h.keys_nodup, hsize,
    List.length_map]

theorem SetUp.witness_accepted {stages : SetupStages}
    (h : SetUp crypto vault libs answer options draws stages setup) {offset : ℕ} {target : String}
    {info : NodeInfo} {seed : Id32} {token : String} {provision : WitnessConfigProvision}
    (hprovision : setup.witnesses[offset]? = some provision)
    (htarget : options.witnesses[offset]? = some target)
    (hinfo : answer (String.ofList (trimEnd target)) = some info)
    (hkey : info.signingPublicKey = some (crypto.verifyingKeyBytes seed)) (htoken : token ≠ "") :
    witnessProvision crypto seed token (some token) false provision = .ok provision.entry := by
  obtain ⟨hcard, ⟨-, -, -, body, hbody, hhash⟩, -⟩ := validateActivatedCapsuleV3_eq_ok.mp h.valid
  have hwitnesses : setup.card.witnesses = stages.pins := by
    rw [h.card]
    rfl
  have hoffset : provision = witnessProvisionOf setup.card.toRecoveryCardV3 setup.capsule
      (signerPublicKeys crypto draws stages.actors.signerCount) offset := by
    rw [h.witnessProvisions, List.getElem?_map, Option.map_eq_some_iff] at hprovision
    obtain ⟨_, hplace, rfl⟩ := hprovision
    rw [(getElem?_range hplace).2]
  subst hoffset
  obtain ⟨pin, hpin, hid, hpinKey⟩ := setupPins_getElem? h.pins htarget
    ((setupActors_witness h.actors htarget).trans hinfo)
  obtain ⟨hroster, hown, hdistinct⟩ := hcard.pinsAccepted
    (hwitnesses ▸ setupPins_increasing h.pins)
  obtain ⟨hconfigRef, hversion⟩ := h.capsule_genesis
  obtain ⟨hcount, hroot⟩ := h.capsule_signers
  obtain ⟨leaves, hleaves, hnonempty, htree⟩ := (setupSigners_placed h.signers).tree
  have hmem : pin ∈ setup.card.witnesses := hwitnesses ▸ List.mem_of_getElem? hpin
  have hpositive : idAt offset ≠ 0 := hid ▸ (hcard.pins pin hmem).1
  have hownKey := hown pin hmem
  rw [hkey, Option.some.injEq] at hpinKey
  simp only [witnessProvision, bind_eq_ok, bailIf_eq_ok, exists_const, api_eq_ok, wire_eq_ok,
    crypt_eq_ok, merkleCommit_eq_ok]
  refine ⟨not_or.mpr ⟨htoken, not_not.mpr rfl⟩, ?_, body, hbody, not_not.mpr hhash, ?_, leaves, ?_,
    (stages.signers.root, stages.signers.proofs), ⟨hnonempty, htree⟩, not_not.mpr hroot.symm, ?_,
    Bool.false_ne_true, trivial⟩
  · have hepoch : setup.capsule.configRef.guardianEpoch ≠ 0 := by
      rw [hconfigRef]
      exact (by decide : (1 : UInt64) ≠ 0)
    simp only [not_or, ne_eq, not_not]
    exact ⟨hpositive, hversion, hepoch, signerPublicKeys_size.trans (congrArg _ hcount.symm),
      hcard.faultBound⟩
  · exact not_not.mpr (signerPublicKeys_keys.trans (congrArg _ hcount.symm))
  · exact (congrArg _ (Keyed.toList_of_increasing signerPublicKeys_increasing)).trans hleaves
  · simp only [not_or, ne_eq, not_not, not_lt]
    refine ⟨hroster, ?_, hdistinct⟩
    rw [hid] at hownKey
    rw [hpinKey]
    exact hownKey

/-! ### The parties of a setup -/

/-- Every party is sent a provision, and its server accepts it. -/
structure ProvisionsAccepted (crypto : Crypto) (vault : Vault) (answer : String → Option NodeInfo)
    (options : SetupV3Options) (setup : OwnerSetup) : Prop where
  counts : setup.signers.length = options.signers.length ∧
    setup.guardians.length = options.guardians.length ∧
      setup.witnesses.length = options.witnesses.length
  signers : ∀ (decodeProvision : Bytes → Except String SignerRotationProvision)
    (server : SignerServer) (sealedMessage : SealedMessage), ∀ provision ∈ setup.signers,
      server.adminToken ≠ "" →
        Receives vault server.identitySeed server.nodeId "signer-v3" decodeProvision sealedMessage
          provision →
          openSignerProvision crypto vault decodeProvision server (some server.adminToken)
            sealedMessage = .ok (provision.mailbox, provision.provision)
  guardians : ∀ (decodeProvision : Bytes → Except String GuardianRotationProvision)
    (server : GuardianServer) (sealedMessage : SealedMessage), ∀ provision ∈ setup.guardians,
      server.adminToken ≠ "" →
        (productionMinDelaySecs ≤ options.delaySecs ∨ server.node.allowInsecureDemoDelay = true) →
          Receives vault server.node.identitySeed server.nodeId "guardian-v3" decodeProvision
            sealedMessage provision →
            openProvision crypto vault decodeProvision server (some server.adminToken)
              sealedMessage = .ok (provision.mailbox, provision.provision)
  witnesses : ∀ (offset : ℕ) (target : String) (info : NodeInfo) (seed : Id32) (token : String)
    (provision : WitnessConfigProvision), setup.witnesses[offset]? = some provision →
      options.witnesses[offset]? = some target →
        answer (String.ofList (trimEnd target)) = some info →
          info.signingPublicKey = some (crypto.verifyingKeyBytes seed) → token ≠ "" →
            witnessProvision crypto seed token (some token) false provision = .ok provision.entry

theorem SetUp.counts {stages : SetupStages} (hmerkle : crypto.MerkleComplete)
    (h : SetUp crypto vault libs answer options draws stages setup) :
    setup.signers.length = options.signers.length ∧
      setup.guardians.length = options.guardians.length ∧
        setup.witnesses.length = options.witnesses.length := by
  have hcounted := setupActors_counted h.actors
  obtain ⟨-, htree⟩ := merkleCommit_eq_ok.mp h.tree
  have hdrafts : stages.drafts.length = stages.leaves.length := (length_eq h.leaves).symm
  refine ⟨?_, ?_, ?_⟩
  · rw [length_eq h.signerProvisions, List.length_range, hcounted.signers]
  · rw [length_eq h.guardianProvisions, List.length_zipIdx, SetupStages.records,
      List.length_zipWith, (hmerkle _ _ _ htree).1, hdrafts, Nat.min_self, h.leaves_length,
      hcounted.guardians]
  · rw [h.witnessProvisions, List.length_map, List.length_range]

/-- What a setup sends passes every server's checks. -/
theorem setup_accepted (crypto : Crypto) (vault : Vault) (libs : ClientLibs)
    (answer : String → Option NodeInfo) (options : SetupV3Options) (draws : SetupDraws)
    (setup : OwnerSetup) (hmerkle : crypto.MerkleComplete)
    (h : setupV3 crypto vault libs answer options draws = .ok setup) :
    ProvisionsAccepted crypto vault answer options setup := by
  obtain ⟨stages, hsetup⟩ := setupV3_eq_ok h
  exact {
    counts := hsetup.counts hmerkle
    signers := fun _ _ _ _ hmem htoken hreceives =>
      hsetup.signer_accepted hmerkle hmem htoken hreceives
    guardians := fun _ _ _ _ hmem htoken hdelay hreceives =>
      hsetup.guardian_accepted hmerkle hmem htoken hdelay hreceives
    witnesses := fun _ _ _ _ _ _ hprovision htarget hinfo hkey htoken =>
      hsetup.witness_accepted hprovision htarget hinfo hkey htoken }

/-! ### A setup of three guardians -/

/-- A dealer whose shares are the numbers of their participants; the key is the last byte of the
seed. -/
def FrostDealer.transparent : FrostDealer where
  generateWithDealer total threshold seed :=
    some ((List.range' 1 total.toNat).map fun participant =>
        packFields [beBytes 2 participant, beBytes 2 threshold.toNat, beBytes 2 participant,
          beBytes 2 participant, beBytes 1 seed.toNat],
      { verifyingShares := .ofList ((List.range' 1 total.toNat).map fun participant =>
          (participant, beBytes 2 participant))
        verifyingKey := beBytes 1 seed.toNat
        minSigners := some threshold })
  keyPackageOf := Frost.transparent.keyPackage
  reconstruct packages :=
    packages.head?.map fun package => List.replicate 31 0 ++ package.verifyingKey

/-- Two data shards and their sum. -/
def ReedSolomon.parity : ReedSolomon where
  accepts dataShards parity := dataShards == 2 && parity == 1
  encode _ _ shards :=
    match shards with
    | [first, second, _] => some [first, second, List.zipWith (· ^^^ ·) first second]
    | _ => none
  reconstruct _ _ shards :=
    match shards with
    | [(first, true), (second, true), parity] => some [(first, true), (second, true), parity]
    | [(first, true), _, (parity, true)] =>
      some [(first, true), (List.zipWith (· ^^^ ·) first parity, true), (parity, true)]
    | [_, (second, true), (parity, true)] =>
      some [(List.zipWith (· ^^^ ·) second parity, true), (second, true), (parity, true)]
    | _ => none

/-- The libraries, with a codec for one descriptor. -/
def ClientLibs.transparent (descriptor : RecoveryDescriptorV3) : ClientLibs where
  dealer := .transparent
  shamir := .constant
  coder := .parity
  encodeDescriptor sent := if sent = descriptor then .ok [7] else .error "unknown descriptor"
  decodeDescriptor encoded := if encoded = [7] then .ok descriptor else .error "malformed descriptor"

/-- The stand-in on the first bytes of what is hashed or signed. -/
def sampleCrypto : Crypto :=
  { Crypto.transparent with
    sha256 := fun data => Crypto.transparent.sha256 (data.take 400)
    sign := fun seed transcript => Crypto.transparent.sign seed (transcript.take 400)
    signatureVerifies := fun key transcript signature =>
      Crypto.transparent.signatureVerifies key (transcript.take 400) signature }

theorem sampleCrypto_merkleComplete : sampleCrypto.MerkleComplete :=
  Crypto.transparent_merkleComplete

/-- A node whose role is the first letter of its target. -/
def sampleNode (target : String) : Option NodeInfo :=
  match target.toList with
  | [role, letter] =>
    some {
      protocolVersion := protocolVersionV3
      nodeId := target
      role := if role = 's' then "signer" else if role = 'g' then "guardian" else "witness"
      transportPublicKey := List.replicate xwingPublicKeyLen (UInt8.ofNat letter.toNat)
      signingPublicKey := some (sampleCrypto.verifyingKeyBytes
        (BitVec.ofNat 256 (1000 * role.toNat + letter.toNat))) }
  | _ => none

def sampleOptions : SetupV3Options where
  secret := [1, 2, 3]
  relays := ["r/"]
  signers := ["sa", "sb"]
  guardians := ["ga", "gb", "gc"]
  witnesses := ["wa", "wb", "wc", "wd"]
  signerThreshold := 2
  guardianThreshold := 2
  witnessFaultBound := 1
  delaySecs := 10

def sampleDraws : SetupDraws where
  authorizationKey := 5
  sharingSeed := 6
  signerSeed offset := BitVec.ofNat 256 (100 + offset)
  ownerCancelSeed := 7
  configId := 8
  epochBinding := 9
  signerMailbox offset := BitVec.ofNat 256 (200 + offset)
  guardianSeed offset := BitVec.ofNat 256 (300 + offset)
  slotId offset := BitVec.ofNat 256 (400 + offset)
  guardianMailbox offset := BitVec.ofNat 256 (500 + offset)
  frostSeed := 10
  payloadNonce := 11
  shareNonce offset := BitVec.ofNat 192 (600 + offset)
  fragmentNonce offset := BitVec.ofNat 192 (700 + offset)
  descriptorNonce := 12

/-- What key and data a ciphertext is under, in four bytes. -/
def shortMark (key associatedData : Bytes) : Bytes :=
  beBytes 4 (Crypto.digest (beBytes 8 key.length ++ key ++ associatedData)).toNat

/-- What is sealed to a recipient is under the first bytes of its key. -/
def sampleVault : Vault :=
  let recipientKey : Bytes := List.replicate xwingPublicKeyLen 1
  { Vault.transparent recipientKey [] with
    sealToRecipient := fun key _ nonce plaintext associatedData =>
      .ok ⟨key.take 4, nonce, shortMark (key.take 4) associatedData ++ plaintext⟩
    decapsulate := fun _ kemCiphertext =>
      if kemCiphertext = recipientKey.take 4 then some kemCiphertext else none
    aeadEncrypt := fun key nonce plaintext associatedData =>
      .ok ⟨nonce, shortMark key associatedData ++ plaintext⟩
    aeadDecrypt := fun key encrypted associatedData => do
      bailIf (encrypted.ciphertext.take 4 ≠ shortMark key associatedData) .authentication
      .ok (encrypted.ciphertext.drop 4) }

/-- The descriptor of the setup, whose codec takes no part in it. -/
def sampleDescriptor : Except String RecoveryDescriptorV3 := do
  let libs := ClientLibs.transparent
    ⟨sampleDraws.configRef, [], 0, 0, 0, 0, 0, .zfFrostRistretto255RtsRefreshV1, [], 0⟩
  let actors ← setupActors sampleNode sampleOptions
  let payload ← setupPayload sampleCrypto sampleVault libs sampleOptions sampleDraws
    actors.guardianCount
  .ok (setupDescriptor sampleOptions sampleDraws actors.guardianCount payload
    (setupRoutes sampleCrypto sampleOptions sampleDraws actors.guardians) 1841832190)

def sampleSetup : Except String (RecoveryDescriptorV3 × OwnerSetup) := do
  let descriptor ← sampleDescriptor
  let setup ← setupV3 sampleCrypto sampleVault (ClientLibs.transparent descriptor) sampleNode
    sampleOptions sampleDraws
  .ok (descriptor, setup)

theorem sampleSetup_eq_ok : ∃ descriptor setup, setupV3 sampleCrypto sampleVault
    (ClientLibs.transparent descriptor) sampleNode sampleOptions sampleDraws = .ok setup := by
  have hsome : sampleSetup.toOption.isSome = true := by decide +kernel
  obtain ⟨out, hout⟩ := isSome_toOption.mp hsome
  simp only [sampleSetup, bind_eq_ok, Except.ok.injEq] at hout
  obtain ⟨descriptor, -, setup, hsetup, -⟩ := hout
  exact ⟨descriptor, setup, hsetup⟩

theorem setup_accepted_sample :
    ∃ descriptor setup, setupV3 sampleCrypto sampleVault (ClientLibs.transparent descriptor)
      sampleNode sampleOptions sampleDraws = .ok setup ∧
        ProvisionsAccepted sampleCrypto sampleVault sampleNode sampleOptions setup := by
  obtain ⟨descriptor, setup, hsetup⟩ := sampleSetup_eq_ok
  exact ⟨descriptor, setup, hsetup, setup_accepted sampleCrypto sampleVault
    (ClientLibs.transparent descriptor) sampleNode sampleOptions sampleDraws setup
    sampleCrypto_merkleComplete hsetup⟩

end MasterRecovery
