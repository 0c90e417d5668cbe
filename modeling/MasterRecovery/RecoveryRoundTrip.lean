import MasterRecovery.GuardianAnswers

/-!
# From a setup to its recovery (gp-network/src/client.rs)

A recovery of what a setup made: signers and enough guardians run the servers they were provisioned
for, the rest of the guardians answer as they like. The recovery returns the secret of the setup.
-/

namespace MasterRecovery
open Checks Transcript Wire Gather Mapped Act

variable {crypto : Crypto} {vault : Vault} {libs : ClientLibs} {network : RecoveryNetwork}
  {run : RecoveryRun} {answer : String → Option NodeInfo} {options : SetupV3Options}
  {draws : SetupDraws} {setup : OwnerSetup} {stages : SetupStages} {offset : ℕ}
  {capsule : ConfigCapsuleV3} {record : GuardianRecordV3} {digest : Id32}

/-! ### What the setup hands over -/

theorem SetUp.capsule_counts (h : SetUp crypto vault libs answer options draws stages setup) :
    setup.capsule.signerThreshold = options.signerThreshold ∧
      setup.capsule.guardianCount = stages.actors.guardianCount ∧
        setup.capsule.guardianThreshold = options.guardianThreshold ∧
          setup.capsule.minimumRecoveryDelay = options.delaySecs := by
  obtain ⟨_, -, hcapsule⟩ := h.capsule
  rw [hcapsule]
  exact ⟨rfl, rfl, rfl, rfl⟩

/-- The signer at a place. -/
theorem SetUp.signer (h : SetUp crypto vault libs answer options draws stages setup)
    {provision : SignerRotationProvision} (hprovision : setup.signers[offset]? = some provision) :
    offset < stages.actors.signerCount.toNat ∧ provision.provision.signerId = idAt offset ∧
      provision.provision.signingSeed = draws.signerSeed offset ∧
        provision.provision.signingPublicKey = signerKey crypto draws offset ∧
          provision.provision.membershipProof = stages.signers.proofs.getD offset [] ∧
            provision.provision.authorizationShare = stages.signers.shares.getD offset [] := by
  obtain ⟨place, hplace, hresult⟩ := getElem?_of_result h.signerProvisions hprovision
  obtain ⟨hlt, rfl⟩ := getElem?_range hplace
  rw [signerProvision, clientMailboxId_mailboxUrlV3] at hresult
  cases hresult
  exact ⟨hlt, rfl, rfl, rfl, rfl, rfl⟩

theorem SetUp.signersOf (hmerkle : crypto.MerkleComplete)
    (h : SetUp crypto vault libs answer options draws stages setup) :
    SignersOf crypto setup.capsule setup.signers := by
  have hplaced := setupSigners_placed h.signers
  obtain ⟨hcount, hroot⟩ := h.capsule_signers
  refine ⟨fun place provision hprovision => ?_, ?_, ?_⟩
  · obtain ⟨hlt, hid, hseed, hkey, hproof, -⟩ := h.signer hprovision
    refine ⟨⟨?_, ?_⟩, hid⟩
    · rw [hkey, hseed, signerKey]
    · rw [hid, hkey, hproof]
      exact hplaced.member hmerkle hcount hroot hlt
  · rw [hcount, length_eq h.signerProvisions, List.length_range]
  · rw [hcount]
    exact (splitSecret_eq_ok hplaced.split).2.2.2.1

theorem SetUp.signersReady (hmerkle : crypto.MerkleComplete)
    (h : SetUp crypto vault libs answer options draws stages setup)
    (hserve : SignersServe crypto vault.toSealing network setup.signers) :
    SignersReady crypto vault network setup.card setup.capsule setup.signers := by
  refine ⟨h.signersOf hmerkle, hserve, ?_, ?_⟩
  · rw [h.card, h.capsule_signers.1]
    simp [setupCard]
  · rw [h.capsule_counts.1]
    exact (setupActors_counted h.actors).signerThreshold.1

theorem SetUp.routes_nodup (h : SetUp crypto vault libs answer options draws stages setup) :
    ((stages.routes crypto options draws).map (·.guardianIndex)).Nodup := by
  have hbound := stages.actors.guardianCount.toNat_lt
  rw [h.routes_indices]
  refine List.nodup_range.map_on fun left hleft right hright hsame => ?_
  rw [List.mem_range] at hleft hright
  have hnat := congrArg UInt16.toNat hsame
  rw [idAt_toNat (by omega), idAt_toNat (by omega)] at hnat
  omega

/-- What is encoded of a descriptor is decoded again. -/
def ClientLibs.DecodesDescriptors (libs : ClientLibs) : Prop :=
  ∀ descriptor encoded, libs.encodeDescriptor descriptor = .ok encoded →
    libs.decodeDescriptor encoded = .ok descriptor

/-- The authorization key opens the descriptor of the setup. -/
theorem SetUp.openDescriptor (haead : vault.AeadCorrect) (hdecodes : libs.DecodesDescriptors)
    (h : SetUp crypto vault libs answer options draws stages setup) :
    openDescriptorV3 crypto vault libs setup.capsule draws.authorizationKey =
      .ok (stages.descriptor crypto options draws) := by
  have hcommitment := (setupPayload_eq_ok h.payload).commitment
  have hsealed := h.sealedDescriptor
  simp only [sealDescriptor, Checks.bind_eq_ok, crypt_eq_ok, wire_eq_ok] at hsealed
  obtain ⟨key, hkey, encoded, hencoded, context, hcontext, hsealed⟩ := hsealed
  have hlength := h.routes_length
  have hnodup := h.routes_nodup
  obtain ⟨_, -, hcapsule⟩ := h.capsule
  simp only [openDescriptorV3, validateRecoveryDescriptorV3, Checks.bind_eq_ok, bailIf_eq_ok,
    exists_const, crypt_eq_ok, wire_eq_ok, not_or, not_not, Except.ok.injEq]
  rw [hcapsule]
  exact ⟨key, hkey, context, hcontext, encoded, haead _ _ _ _ _ hsealed,
    stages.descriptor crypto options draws, hdecodes _ _ hencoded,
    ⟨⟨rfl, rfl, rfl, rfl, hlength, hnodup, trivial, rfl⟩, _, hcommitment, rfl⟩, rfl⟩

/-- The guardian at a place and its record. -/
theorem SetUp.guardian (hmerkle : crypto.MerkleComplete)
    (h : SetUp crypto vault libs answer options draws stages setup)
    (hoffset : offset < stages.actors.guardianCount.toNat) :
    ∃ provision record, setup.guardians[offset]? = some provision ∧
      provision.provision.signingSeed = draws.guardianSeed offset ∧
        provision.provision.predecessorCapsule = setup.capsule ∧
          provision.provision.epochStore.active = some record ∧
            RecordHeld crypto vault draws stages (stages.policy crypto options draws) offset
              record := by
  obtain ⟨record, hrecord, hheld⟩ := h.record hmerkle hoffset
  have hentry : stages.records.zipIdx[offset]? = some (record, offset) := by
    simp [hrecord]
  obtain ⟨provision, hprovision, hresult⟩ := getElem?_of_item h.guardianProvisions hentry
  rw [guardianProvision, clientMailboxId_mailboxUrlV3] at hresult
  cases hresult
  refine ⟨_, record, hprovision, rfl, rfl, ?_, hheld⟩
  have hactive : record.policy.epochState = .active := by
    rw [hheld.policy]
    rfl
  have hsame : { record with policy := { record.policy with epochState := .active } } = record := by
    rw [← hactive]
  simp only [GuardianEpochStore.new, hsame]

/-! ### Guardians that serve -/

/-- The entry is still that of the guardian that was provisioned. -/
structure SameGuardian (provision : GuardianRotationProvisionV3) (entry : GuardianRotationEntryV3) :
    Prop where
  signingSeed : entry.provision.signingSeed = provision.signingSeed
  predecessor : entry.provision.predecessorCapsule = provision.predecessorCapsule
  active : entry.provision.epochStore.active = provision.epochStore.active

/-- A guardian's node, and its entry and clock at the two requests of a recovery. -/
structure GuardianVisit where
  node : GuardianNode
  before : GuardianRotationEntryV3
  after : GuardianRotationEntryV3
  beginCall : GuardianCall
  releaseCall : GuardianCall

namespace GuardianVisit

variable (crypto : Crypto) (visit : GuardianVisit)

def answerBegin (certificate : BeginRecoveryCertificateV3) :
    Act GuardianRotationEntryV3 GuardianRecoveryResponseV3 :=
  handleGuardianRecoveryV3 crypto visit.node visit.beginCall (.begin certificate)

def answerRelease (certificate : RecoveryReleaseCertificateV3) :
    Act GuardianRotationEntryV3 GuardianRecoveryResponseV3 :=
  handleGuardianRecoveryV3 crypto visit.node visit.releaseCall
    (.release certificate.request certificate)

end GuardianVisit

/-- The guardian's own server answers both requests: Begin from an entry that has not seen the
request; Release in the same boot and after the delay, from an entry that still has what Begin
left. In between it may have served anything else. -/
structure GuardianServes (crypto : Crypto) (network : RecoveryNetwork) (run : RecoveryRun)
    (capsule : ConfigCapsuleV3) (provision : GuardianRotationProvisionV3) (place : ℕ)
    (begun : BeginRecoveryCertificateV3) (released : RecoveryReleaseCertificateV3)
    (visit : GuardianVisit) : Prop where
  before : SameGuardian provision visit.before
  unseen : Unseen begun.request visit.before
  begunWithin : WithinRequest run capsule visit.beginCall.wallNow
  begins : network.guardian place (.begin begun) =
    (visit.answerBegin crypto begun).returned visit.before
  after : SameGuardian provision visit.after
  kept : visit.after.recoveries[begun.request.requestId]? =
    ((visit.answerBegin crypto begun).final visit.before).recoveries[begun.request.requestId]?
  live : begun.request.requestId ∉
    visit.after.provision.epochStore.recoveryCancellationTombstones
  boot : visit.beginCall.bootId = visit.releaseCall.bootId
  waited : saturatingAdd visit.beginCall.monotonicNow capsule.minimumRecoveryDelay ≤
    visit.releaseCall.monotonicNow
  releasedWithin : WithinRequest run capsule visit.releaseCall.wallNow
  releases : network.guardian place (.release released.request released) =
    (visit.answerRelease crypto released).returned visit.after

/-- The material is no larger than the fields it is released in. -/
structure RecordFits (record : GuardianRecordV3) : Prop where
  share : record.encryptedDekShare.ciphertext.length ≤ maxFieldLen
  fragment : record.encryptedCiphertextFragment.ciphertext.length ≤ maxFieldLen
  path : record.merklePathProof.length ≤ maxFieldLen

theorem RecordFits.written (digest : Id32) (request : RecoveryRequestV3) (h : RecordFits record)
    (hindex : record.guardianIndex ≠ 0 ∧ record.fragmentIndex ≠ 0)
    (hrecipient : request.recoveryRecipientKey.length = xwingPublicKeyLen) :
    ∃ transcript, guardianRecoveryContributionV3 (recoveredMaterial record request digest) =
      .ok transcript := by
  have hnonce : ∀ nonce : BitVec 192, Succeeds (bytes (beBytes 24 nonce.toNat)) := by
    intro nonce
    exact succeeds_bytes (by simp [maxFieldLen])
  have hrecipientFits : request.recoveryRecipientKey.length ≤ maxFieldLen := by
    rw [hrecipient]
    decide
  obtain ⟨transcript, htranscript⟩ := ((((((((((((succeeds_domain
    "gp/guardian-recovery-contribution/v3" (by decide)).append
      (succeeds_configRefInto request.configRef)).append (succeeds_id32 request.requestId)).append
      (succeeds_id32 digest)).append (succeeds_bytes hrecipientFits)).append
      (succeeds_id32 request.nonce)).append (succeeds_u16 record.guardianIndex)).append
      (succeeds_u16 record.fragmentIndex)).append
      (hnonce record.encryptedCiphertextFragment.nonce)).append
      (succeeds_bytes h.fragment)).append (hnonce record.encryptedDekShare.nonce)).append
      (succeeds_bytes h.share)).append (succeeds_bytes h.path)
  refine ⟨transcript, ?_⟩
  simp only [guardianRecoveryContributionV3, Checks.bind_eq_ok, bailIf_eq_ok, exists_const]
  exact ⟨not_or.mpr hindex, htranscript⟩

theorem saturatingAdd_mono {now delay delay' : UInt64} (h : delay ≤ delay') :
    saturatingAdd now delay ≤ saturatingAdd now delay' := by
  rw [UInt64.le_iff_toNat_le, saturatingAdd_toNat, saturatingAdd_toNat]
  rw [UInt64.le_iff_toNat_le] at h
  omega

theorem recoveryDelay_le {node : GuardianNode} :
    recoveryDelay node record ≤ record.policy.minimumRecoveryDelay := by
  rw [recoveryDelay]
  split
  · rw [UInt64.min_def]
    split
    next => exact UInt64.le_refl _
    next hlt => exact UInt64.le_of_lt (UInt64.not_le.mp hlt)
  · exact UInt64.le_refl _

/-- The certificates of a recovery, made by the signers of the capsule. -/
structure RecoveryCertified (crypto : Crypto) (vault : Vault) (run : RecoveryRun)
    (capsule : ConfigCapsuleV3) (begun : BeginRecoveryCertificateV3)
    (released : RecoveryReleaseCertificateV3) (digest : Id32) : Prop where
  begunRequest : begun.request = run.request vault capsule
  releasedRequest : released.request = run.request vault capsule
  requestDigest : recoveryRequestDigestV3 crypto (run.request vault capsule) = .ok digest
  begun : ∀ now, WithinRequest run capsule now →
    validateBeginRecoveryCertificateV3 crypto begun capsule now = .ok digest
  released : ∀ now, WithinRequest run capsule now →
    validateRecoveryReleaseCertificateForRefV3 crypto released capsule capsule.configRef now =
      .ok digest

/-- A guardian that serves accepts the Begin and releases its material. -/
theorem GuardianServes.answers {provision : GuardianRotationProvisionV3} {place : ℕ}
    {begun : BeginRecoveryCertificateV3} {released : RecoveryReleaseCertificateV3}
    {visit : GuardianVisit} {transcript : Bytes}
    (hrecipient : (vault.recipientPublicKey run.recipientSeed).length = xwingPublicKeyLen)
    (hpredecessor : provision.predecessorCapsule = capsule)
    (hactive : provision.epochStore.active = some record)
    (hconfig : record.policy.configRef = capsule.configRef)
    (hdelay : record.policy.minimumRecoveryDelay = capsule.minimumRecoveryDelay)
    (hcertified : RecoveryCertified crypto vault run capsule begun released digest)
    (hwritten : guardianRecoveryContributionV3
      (recoveredMaterial record (run.request vault capsule) digest) = .ok transcript)
    (h : GuardianServes crypto network run capsule provision place begun released visit) :
    (∃ notBefore, network.guardian place (.begin begun) = some (.beginAccepted notBefore)) ∧
      network.guardian place (.release released.request released) =
        some (.contribution (signedMaterial crypto provision.signingSeed record
          (run.request vault capsule) digest transcript)) := by
  have hguards : ∀ entry, SameGuardian provision entry →
      Guards provision.signingSeed capsule record entry := fun entry hsame =>
    ⟨hsame.signingSeed, hsame.predecessor.trans hpredecessor, hsame.active.trans hactive⟩
  have hconfig' : record.policy.configRef = begun.request.configRef := by
    rw [hconfig, hcertified.begunRequest]
    rfl
  have hbegin := guardianBegin_eq_ok visit.node (hguards _ h.before) hconfig' h.unseen
    (by rw [hcertified.begunRequest]; rfl) (by rw [hcertified.begunRequest]; exact hrecipient)
    (hcertified.begun _ h.begunWithin)
  have hfinal : (visit.answerBegin crypto begun).final visit.before =
      visit.before.putRecovery begun.request.requestId
        (begunRecovery visit.node visit.beginCall begun.request record digest) :=
    final_of_ok hbegin
  have hfound : visit.after.recoveries[begun.request.requestId]? =
      some (begunRecovery visit.node visit.beginCall begun.request record digest) := by
    rw [h.kept, hfinal]
    exact Std.TreeMap.getElem?_insert_self
  have hdue : (begunRecovery visit.node visit.beginCall begun.request record
      digest).notBeforeMonotonic ≤ visit.releaseCall.monotonicNow := by
    refine UInt64.le_trans (saturatingAdd_mono ?_) h.waited
    rw [← hdelay]
    exact recoveryDelay_le
  have hlive := h.live
  rw [hcertified.begunRequest] at hfound hlive
  have hwaited : Waited (run.request vault capsule) digest visit.releaseCall visit.after _ :=
    { found := hfound
      same := rfl
      digest := rfl
      live := rfl
      unreleased := rfl
      tombstone := hlive
      boot := h.boot
      due := hcertified.begunRequest ▸ hdue
      unexpired := h.releasedWithin.unexpired }
  obtain ⟨after, hrelease⟩ := guardianRelease_eq_ok visit.node (hguards _ h.after) hconfig
    hwaited rfl hrecipient (hcertified.released _ h.releasedWithin) hwritten
  refine ⟨⟨_, h.begins.trans (returned_eq_some.mpr ⟨_, hbegin⟩)⟩, ?_⟩
  rw [h.releases, GuardianVisit.answerRelease, hcertified.releasedRequest]
  exact returned_eq_some.mpr ⟨after, hrelease⟩

/-! ### The contributions -/

/-- A guardian presents a contribution to a Release. -/
def Presents (network : RecoveryNetwork) (place : ℕ)
    (contribution : GuardianRecoveryContributionV3) : Prop :=
  ∃ request certificate,
    network.guardian place (.release request certificate) = some (.contribution contribution)

def presentedPaths (network : RecoveryNetwork) : Set MerkleProofBytes :=
  {path | ∃ place contribution, Presents network place contribution ∧
    contribution.merklePathProof = path}

/-- The hashes of the records of a setup. -/
def setupLeaves (crypto : Crypto) (setup : OwnerSetup) : List Id32 :=
  setup.guardians.filterMap fun provision =>
    provision.provision.epochStore.active.bind fun record => (leafHash crypto record).toOption

/-- What is hashed of the records of a setup, and of the contributions that are presented. -/
def materialOf (crypto : Crypto) (vault : Vault) (libs : ClientLibs) (network : RecoveryNetwork)
    (authorizationKey : Id32) (setup : OwnerSetup) : Set Bytes :=
  {bytes | (∃ provision ∈ setup.guardians, ∃ record leaf,
      provision.provision.epochStore.active = some record ∧ recordLeaf crypto record = .ok leaf ∧
        bytes ∈ materialHashed leaf record.encryptedDekShare record.encryptedCiphertextFragment) ∨
    ∃ descriptor place route contribution leaf,
      openDescriptorV3 crypto vault libs setup.capsule authorizationKey = .ok descriptor ∧
        descriptor.guardians[place]? = some route ∧ Presents network place contribution ∧
          contributionLeaf crypto setup.capsule route contribution = .ok leaf ∧
            bytes ∈ materialHashed leaf contribution.encryptedDekShare
              contribution.encryptedCiphertextFragment}

/-- No path and no material is forged against the material root of the setup. -/
structure MaterialUnforged (crypto : Crypto) (vault : Vault) (libs : ClientLibs)
    (network : RecoveryNetwork) (authorizationKey : Id32) (setup : OwnerSetup) : Prop where
  paths : crypto.MerkleBinding setup.capsule.guardianMaterialRoot (setupLeaves crypto setup)
    (presentedPaths network)
  hashes : crypto.CollisionFree (materialOf crypto vault libs network authorizationKey setup)

/-- What a recovery asks of the libraries. -/
structure LibrariesCorrect (crypto : Crypto) (vault : Vault) (libs : ClientLibs) (secret : Bytes) :
    Prop where
  signatures : crypto.SignatureCorrect
  signaturesFit : crypto.SignaturesFit
  merkle : crypto.MerkleComplete
  shamir : libs.shamir.Correct
  coder : libs.coder.Mds
  dealer : libs.dealer.Correct vault.frost
  aead : vault.AeadCorrect
  opens : vault.SealCorrect
  fits : vault.Fits secret
  descriptors : libs.DecodesDescriptors

theorem idAt_ne_zero {count : UInt16} (hoffset : offset < count.toNat) : idAt offset ≠ 0 := by
  intro hzero
  have hbound := count.toNat_lt
  have hnat := congrArg UInt16.toNat hzero
  rw [idAt_toNat (by omega)] at hnat
  cases hnat

theorem SetUp.guardians_length (hmerkle : crypto.MerkleComplete)
    (h : SetUp crypto vault libs answer options draws stages setup) :
    setup.guardians.length = stages.actors.guardianCount.toNat := by
  rw [(h.counts hmerkle).2.1, (setupActors_counted h.actors).guardians]

theorem SetUp.leaves_eq (hmerkle : crypto.MerkleComplete)
    (h : SetUp crypto vault libs answer options draws stages setup) :
    setupLeaves crypto setup = stages.leaves := by
  have hsome : (setup.guardians.map fun provision =>
      provision.provision.epochStore.active.bind fun record => (leafHash crypto record).toOption) =
        stages.leaves.map some := by
    refine List.ext_getElem ?_ fun place hplace _ => ?_
    · rw [List.length_map, List.length_map, h.guardians_length hmerkle, h.leaves_length]
    · rw [List.length_map, h.guardians_length hmerkle] at hplace
      obtain ⟨provision, record, hprovision, -, -, hactive, hheld⟩ := h.guardian hmerkle hplace
      obtain ⟨leaf, hleaf, hfound⟩ := hheld.leaf
      obtain ⟨_, rfl⟩ := List.getElem?_eq_some_iff.mp hprovision
      obtain ⟨_, rfl⟩ := List.getElem?_eq_some_iff.mp hfound
      rw [List.getElem_map, List.getElem_map, hactive, Option.bind_some, hleaf]
      rfl
  calc setupLeaves crypto setup = (setup.guardians.map fun provision =>
          provision.provision.epochStore.active.bind fun record =>
            (leafHash crypto record).toOption).filterMap id := by
        rw [List.filterMap_map]
        rfl
    _ = stages.leaves := by
        rw [hsome, List.filterMap_map]
        simp

theorem SetUp.binding (hmerkle : crypto.MerkleComplete)
    (h : SetUp crypto vault libs answer options draws stages setup)
    (hunforged : MaterialUnforged crypto vault libs network draws.authorizationKey setup) :
    crypto.MerkleBinding stages.root stages.leaves (presentedPaths network) := by
  have hpaths := hunforged.paths
  obtain ⟨_, -, hcapsule⟩ := h.capsule
  have hroot : setup.capsule.guardianMaterialRoot = stages.root := by
    rw [hcapsule]
    rfl
  rwa [hroot, h.leaves_eq hmerkle] at hpaths

section Contributions

variable {released : RecoveryReleaseCertificateV3} {route : GuardianRouteV3}

/-- A contribution that is counted is what was dealt to its place. -/
theorem SetUp.counted_dealt {secret : Bytes} {opened : OpenedContribution}
    (hlibs : LibrariesCorrect crypto vault libs secret)
    (hunforged : MaterialUnforged crypto vault libs network draws.authorizationKey setup)
    (h : SetUp crypto vault libs answer options draws stages setup)
    (hconfig : released.request.configRef = setup.capsule.configRef)
    (hroute : (stages.routes crypto options draws)[offset]? = some route)
    (hopened : askedContribution crypto vault network setup.capsule
      (stages.descriptor crypto options draws) draws.authorizationKey released (route, offset) =
        .ok opened) :
    opened = dealtContribution setup.capsule.configRef stages.payload offset := by
  have hoffset : offset < stages.actors.guardianCount.toNat := by
    rw [← h.routes_length]
    exact (List.getElem?_eq_some_iff.mp hroute).1
  obtain ⟨provision, record, hprovision, -, -, hactive, hheld⟩ := h.guardian hlibs.merkle hoffset
  obtain ⟨published, dealt, hdealt⟩ :=
    frostDealerSplit_eq_ok hlibs.dealer (setupPayload_eq_ok h.payload).frost
  have hdescriptor := h.openDescriptor hlibs.aead hlibs.descriptors
  unfold askedContribution at hopened
  split at hopened
  · cases hopened
  next contribution hpresented =>
    obtain ⟨response, hresponse, hcontribution⟩ := Option.bind_eq_some_iff.mp hpresented
    have hpresents : Presents network offset contribution := by
      cases response with
      | contribution sent =>
        cases hcontribution
        exact ⟨_, _, hresponse⟩
      | beginAccepted _ => cases hcontribution
      | cancelled _ => cases hcontribution
    split at hopened
    next out hout =>
      cases hopened
      rw [openGuardianContributionV3, bind_unit_eq_ok] at hout
      obtain ⟨hchecks, hdecrypted⟩ := hout
      have hcarries := h.carries (h.binding hlibs.merkle hunforged)
        ⟨offset, contribution, hpresents, rfl⟩ hunforged.hashes hoffset hheld
        (fun leaf hleaf bytes hbytes => Or.inl ⟨provision, List.mem_of_getElem? hprovision, record,
          leaf, hactive, hleaf, hbytes⟩)
        (fun leaf hleaf bytes hbytes => Or.inr ⟨_, offset, route, contribution, leaf, hdescriptor,
          hroute, hpresents, hleaf, hbytes⟩) hroute hchecks
      rw [decryptContribution_eq_ok hlibs.aead hdealt hoffset hheld hcarries
        (hconfig.trans h.capsule_genesis.1) rfl, Except.ok.injEq] at hdecrypted
      rw [← hdecrypted, hcarries.fragmentIndex]
      rfl
    next => cases hopened

/-- The contribution of a guardian that serves is counted. -/
theorem SetUp.asked_eq_ok {secret : Bytes} {provision : GuardianRotationProvision}
    {begun : BeginRecoveryCertificateV3} {visit : GuardianVisit}
    (hlibs : LibrariesCorrect crypto vault libs secret)
    (h : SetUp crypto vault libs answer options draws stages setup)
    (hrecipient : (vault.recipientPublicKey run.recipientSeed).length = xwingPublicKeyLen)
    (hcertified : RecoveryCertified crypto vault run setup.capsule begun released digest)
    (hprovision : setup.guardians[offset]? = some provision)
    (hactive : provision.provision.epochStore.active = some record) (hfits : RecordFits record)
    (hserves : GuardianServes crypto network run setup.capsule provision.provision offset begun
      released visit)
    (hroute : (stages.routes crypto options draws)[offset]? = some route) :
    (∃ notBefore, network.guardian offset (.begin begun) = some (.beginAccepted notBefore)) ∧
      ∃ opened, askedContribution crypto vault network setup.capsule
        (stages.descriptor crypto options draws) draws.authorizationKey released (route, offset) =
          .ok opened := by
  have hoffset : offset < stages.actors.guardianCount.toNat := by
    rw [← h.routes_length]
    exact (List.getElem?_eq_some_iff.mp hroute).1
  obtain ⟨own, ownRecord, hown, hseed, hpredecessor, hownActive, hheld⟩ :=
    h.guardian hlibs.merkle hoffset
  cases hown.symm.trans hprovision
  cases hownActive.symm.trans hactive
  obtain ⟨published, dealt, hdealt⟩ :=
    frostDealerSplit_eq_ok hlibs.dealer (setupPayload_eq_ok h.payload).frost
  have hpositive := idAt_ne_zero hoffset
  obtain ⟨transcript, hwritten⟩ := hfits.written digest (run.request vault setup.capsule)
    ⟨hheld.guardianIndex ▸ hpositive, hheld.fragmentIndex ▸ hpositive⟩ hrecipient
  have hconfig : record.policy.configRef = setup.capsule.configRef := by
    rw [hheld.policy, h.capsule_genesis.1]
    rfl
  have hdelay : record.policy.minimumRecoveryDelay = setup.capsule.minimumRecoveryDelay := by
    rw [hheld.policy, h.capsule_counts.2.2.2]
    rfl
  obtain ⟨hbegun, hreleased⟩ := hserves.answers hrecipient hpredecessor hactive hconfig hdelay
    hcertified hwritten
  rw [hseed] at hreleased
  have hchecks := h.signedMaterial_checks hlibs.merkle hlibs.signatures hoffset hheld hroute
    hcertified.requestDigest hwritten
  have hdecrypted : decryptContribution vault (signedMaterial crypto (draws.guardianSeed offset)
      record (run.request vault setup.capsule) digest transcript)
      (stages.descriptor crypto options draws) (run.request vault setup.capsule)
      draws.authorizationKey = .ok _ :=
    decryptContribution_eq_ok hlibs.aead hdealt hoffset hheld
      ⟨hheld.guardianIndex, hheld.fragmentIndex, rfl, rfl⟩ h.capsule_genesis.1 rfl
  refine ⟨hbegun, ?_⟩
  have hopen : ∃ out, openGuardianContributionV3 crypto vault (signedMaterial crypto
      (draws.guardianSeed offset) record (run.request vault setup.capsule) digest transcript) route
      (stages.descriptor crypto options draws) setup.capsule released.request
        draws.authorizationKey = .ok out := by
    rw [openGuardianContributionV3, hcertified.releasedRequest]
    exact ⟨_, bind_unit_eq_ok.mpr ⟨hchecks, hdecrypted⟩⟩
  obtain ⟨out, hout⟩ := hopen
  rw [askedContribution, hreleased]
  simp only [Option.bind_some, GuardianRecoveryResponseV3.toContribution, hout]
  exact ⟨_, rfl⟩

/-- When enough guardians are counted, what is collected was dealt to different places. -/
theorem SetUp.collected {secret : Bytes} {honest : List ℕ}
    (hlibs : LibrariesCorrect crypto vault libs secret)
    (hunforged : MaterialUnforged crypto vault libs network draws.authorizationKey setup)
    (h : SetUp crypto vault libs answer options draws stages setup)
    (hconfig : released.request.configRef = setup.capsule.configRef)
    (hdistinct : honest.Nodup) (henough : options.guardianThreshold.toNat ≤ honest.length)
    (hasked : ∀ place ∈ honest, ∃ route opened,
      (stages.routes crypto options draws)[place]? = some route ∧
        askedContribution crypto vault network setup.capsule (stages.descriptor crypto options draws)
          draws.authorizationKey released (route, place) = .ok opened) :
    ∃ places rejected, Places options.guardianThreshold stages.actors.guardianCount places ∧
      places.length = options.guardianThreshold.toNat ∧
        collectContributions crypto vault network setup.capsule
          (stages.descriptor crypto options draws) draws.authorizationKey released =
          .ok (places.map (dealtContribution setup.capsule.configRef stages.payload), rejected) := by
  have hthreshold := h.capsule_counts.2.2.1
  have hwanted : 0 < setup.capsule.guardianThreshold.toNat := by
    have htwo := UInt16.le_iff_toNat_le.mp (setupActors_counted h.actors).guardianThreshold.1
    rw [hthreshold]
    exact lt_of_lt_of_le (by decide) htwo
  have hcount : setup.capsule.guardianThreshold.toNat ≤
      (stages.routes crypto options draws).zipIdx.countP fun entry =>
        (askedContribution crypto vault network setup.capsule (stages.descriptor crypto options draws)
          draws.authorizationKey released entry).toOption.isSome := by
    rw [hthreshold]
    refine henough.trans (length_le_countP hdistinct fun place hmem => ?_)
    obtain ⟨route, opened, hroute, hopened⟩ := hasked place hmem
    refine ⟨(route, place), by simp [hroute], ?_⟩
    rw [hopened]
    rfl
  obtain ⟨collected, hcollected⟩ : ∃ collected, gather setup.capsule.guardianThreshold.toNat
      (fun _ => askedContribution crypto vault network setup.capsule
        (stages.descriptor crypto options draws) draws.authorizationKey released) [] []
      (stages.routes crypto options draws).zipIdx = collected := ⟨_, rfl⟩
  have hgathered := gather_enough (ρ := UInt16) hwanted hcount
  rw [hcollected] at hgathered
  obtain ⟨hlength, entries, hsublist, hplaces⟩ := hgathered
  have hdealt : List.Forall₂ Eq
      ((entries.map Prod.snd).map (dealtContribution setup.capsule.configRef stages.payload))
      collected.1 := by
    rw [List.forall₂_map_left_iff, List.forall₂_map_left_iff]
    refine hplaces.imp fun entry opened hentry => ?_
    obtain ⟨place, hplace⟩ := List.getElem?_of_mem hentry.1
    rw [List.getElem?_zipIdx, Option.map_eq_some_iff] at hplace
    obtain ⟨route, hroute, rfl⟩ := hplace
    rw [Nat.zero_add] at hentry ⊢
    exact (h.counted_dealt hlibs hunforged hconfig hroute hentry.2).symm
  rw [List.forall₂_eq_eq_eq] at hdealt
  have hcount : (entries.map Prod.snd).length = options.guardianThreshold.toNat := by
    rw [List.length_map, hplaces.length_eq, hlength, hthreshold]
  refine ⟨entries.map Prod.snd, collected.2, ⟨?_, ?_, hcount.ge⟩, hcount, ?_⟩
  · have hsnd := hsublist.map Prod.snd
    rw [List.zipIdx_map_snd, ← List.range_eq_range'] at hsnd
    exact List.nodup_range.sublist hsnd
  · intro place hmem
    obtain ⟨entry, hentry, rfl⟩ := List.mem_map.mp hmem
    have hlt := List.snd_lt_of_mem_zipIdx (hsublist.subset hentry)
    rw [← h.routes_length]
    exact hlt
  · simp only [collectContributions, Checks.bind_eq_ok, bailIf_eq_ok, exists_const, Except.ok.injEq]
    rw [hdealt]
    exact ⟨fun hfew => absurd (hcollected ▸ hfew) hlength.not_lt, hcollected⟩

end Contributions

/-! ### The recovery -/

/-- The client reads the epoch of the setup, and enough signers answer it with what their own
servers make of the requests. -/
structure SignersServed (crypto : Crypto) (vault : Vault) (network : RecoveryNetwork)
    (run : RecoveryRun) (setup : OwnerSetup) : Prop where
  read : readLatestEpochV3 crypto vault network run setup.card = .ok setup.capsule
  recipient : (vault.recipientPublicKey run.recipientSeed).length = xwingPublicKeyLen
  begunWithin : WithinRequest run setup.capsule run.begunAt
  releasedWithin : WithinRequest run setup.capsule run.releasedAt
  serve : SignersServe crypto vault.toSealing network setup.signers
  approved : SignersAnswer network setup.card setup.capsule.signerThreshold
    (.approve (run.request vault setup.capsule) (run.challenge vault setup.card)
      (readEnvelopes network setup.card (run.challenge vault setup.card)))
  released : SignersAnswer network setup.card setup.capsule.signerThreshold
    (.release (run.request vault setup.capsule))

/-- Guardians at these places, as many as are needed, serve the recovery; the others do what they
like. -/
structure GuardiansServe (crypto : Crypto) (vault : Vault) (network : RecoveryNetwork)
    (run : RecoveryRun) (setup : OwnerSetup) (places : List ℕ) : Prop where
  distinct : places.Nodup
  enough : setup.capsule.guardianThreshold.toNat ≤ places.length
  serve : ∀ place ∈ places, ∃ provision record, setup.guardians[place]? = some provision ∧
    provision.provision.epochStore.active = some record ∧ RecordFits record ∧
      ∀ begun released, approveRecovery crypto vault network run setup.card setup.capsule =
        .ok begun → releaseRecovery crypto network run setup.card setup.capsule begun =
          .ok released → ∃ visit, GuardianServes crypto network run setup.capsule
            provision.provision place begun released visit

/-- The certificates of signers that serve validate wherever the request is in time. -/
theorem recoveryCertified {provisions : List SignerRotationProvision} {places places' : List ℕ}
    {begun : BeginRecoveryCertificateV3} {released : RecoveryReleaseCertificateV3} {secret : Bytes}
    (hlibs : LibrariesCorrect crypto vault libs secret)
    (hrecipient : (vault.recipientPublicKey run.recipientSeed).length = xwingPublicKeyLen)
    (hof : SignersOf crypto capsule provisions)
    (hbegun : BeginOf crypto vault.toSealing capsule provisions (run.request vault capsule) places
      begun)
    (hreleased : ReleaseOf crypto capsule provisions (run.request vault capsule) places' released) :
    RecoveryCertified crypto vault run capsule begun released begun.requestDigest := by
  have hsame : released.requestDigest = begun.requestDigest :=
    Except.ok.inj (hreleased.digest.symm.trans hbegun.digest)
  refine ⟨hbegun.sameRequest, hreleased.sameRequest, hbegun.digest, fun now hnow => ?_,
    fun now hnow => ?_⟩
  · exact hbegun.valid hlibs.signatures hlibs.signaturesFit hof
      (request_valid hrecipient hnow hbegun.digest)
  · rw [← hsame]
    exact hreleased.valid hlibs.signatures hlibs.signaturesFit hof
      (request_valid hrecipient hnow hreleased.digest)

/-- The guardians that serve are counted, at Begin and at Release. -/
theorem GuardiansServe.counted {places : List ℕ} {begun : BeginRecoveryCertificateV3}
    {released : RecoveryReleaseCertificateV3} {secret : Bytes}
    (hlibs : LibrariesCorrect crypto vault libs secret)
    (hsetup : SetUp crypto vault libs answer options draws stages setup)
    (hrecipient : (vault.recipientPublicKey run.recipientSeed).length = xwingPublicKeyLen)
    (hcertified : RecoveryCertified crypto vault run setup.capsule begun released digest)
    (hbegun : approveRecovery crypto vault network run setup.card setup.capsule = .ok begun)
    (hreleased : releaseRecovery crypto network run setup.card setup.capsule begun = .ok released)
    (h : GuardiansServe crypto vault network run setup places) :
    ∀ place ∈ places, ∃ route opened,
      (stages.routes crypto options draws)[place]? = some route ∧
        (∃ notBefore, network.guardian place (.begin begun) = some (.beginAccepted notBefore)) ∧
          askedContribution crypto vault network setup.capsule
            (stages.descriptor crypto options draws) draws.authorizationKey released
              (route, place) = .ok opened := by
  intro place hmem
  obtain ⟨provision, record, hprovision, hactive, hfits, hserves⟩ := h.serve place hmem
  obtain ⟨visit, hvisit⟩ := hserves begun released hbegun hreleased
  have hplace : place < stages.actors.guardianCount.toNat := by
    rw [← hsetup.guardians_length hlibs.merkle]
    exact (List.getElem?_eq_some_iff.mp hprovision).1
  obtain ⟨route, hroute, -⟩ := hsetup.routes_getElem? hplace
  obtain ⟨haccepted, opened, hopened⟩ := hsetup.asked_eq_ok hlibs hrecipient hcertified hprovision
    hactive hfits hvisit hroute
  exact ⟨route, opened, hroute, haccepted, hopened⟩

/-- The recovery, with the stages of the setup at hand. -/
theorem SetUp.recovered {places : List ℕ}
    (hlibs : LibrariesCorrect crypto vault libs options.secret)
    (h : SetUp crypto vault libs answer options draws stages setup)
    (hsigners : SignersServed crypto vault network run setup)
    (hguardians : GuardiansServe crypto vault network run setup places)
    (hunforged : MaterialUnforged crypto vault libs network draws.authorizationKey setup) :
    ∃ result, recoverV3 crypto vault libs network run setup.card = .ok result ∧
      result.recoveredSecret = options.secret ∧
        result.guardianContributions = options.guardianThreshold.toNat := by
  have hready := h.signersReady hlibs.merkle hsigners.serve
  obtain ⟨hsignerThreshold, hguardianCount, hguardianThreshold, -⟩ := h.capsule_counts
  obtain ⟨begun, signers, hbegun, hbeginOf⟩ := approveRecovery_eq_ok hlibs.signatures
    hlibs.signaturesFit hsigners.recipient hsigners.begunWithin hready hsigners.approved
  obtain ⟨released, voters, hreleased, hreleaseOf⟩ := releaseRecovery_eq_ok hlibs.signatures
    hlibs.signaturesFit hsigners.recipient hsigners.releasedWithin hready hbeginOf.sameRequest
    hbeginOf.digest hsigners.released
  have hcertified := recoveryCertified hlibs hsigners.recipient hready.signersOf hbeginOf hreleaseOf
  have hsplit : splitSecret libs.shamir (idBytes draws.authorizationKey)
      setup.capsule.signerThreshold setup.capsule.signerCount draws.sharingSeed =
        .ok stages.signers.shares := by
    rw [hsignerThreshold, h.capsule_signers.1]
    exact (setupSigners_placed h.signers).split
  have hkey := reconstructAuthorizationKey_eq_ok hlibs.shamir hlibs.opens hsplit
    (fun place provision hprovision => (h.signer hprovision).2.2.2.2.2) hbeginOf
  have hdescriptor := h.openDescriptor hlibs.aead hlibs.descriptors
  have hcounted := hguardians.counted hlibs h hsigners.recipient hcertified hbegun hreleased
  have haccepted : setup.capsule.guardianThreshold.toNat ≤
      begunGuardians network (stages.descriptor crypto options draws) begun := by
    refine hguardians.enough.trans (length_le_countP hguardians.distinct fun place hmem => ?_)
    obtain ⟨route, _, hroute, ⟨notBefore, hanswer⟩, -⟩ := hcounted place hmem
    have hlt : place < (stages.descriptor crypto options draws).guardians.length :=
      (List.getElem?_eq_some_iff.mp hroute).1
    refine ⟨place, by simp [hlt], ?_⟩
    rw [hanswer]
    rfl
  have hconfig : released.request.configRef = setup.capsule.configRef := by
    rw [hreleaseOf.sameRequest]
    rfl
  obtain ⟨chosen, rejected, hchosen, hlength, hcollected⟩ := h.collected hlibs hunforged hconfig
    hguardians.distinct (hguardianThreshold ▸ hguardians.enough) fun place hmem =>
      let ⟨route, opened, hroute, _, hopened⟩ := hcounted place hmem
      ⟨route, opened, hroute, hopened⟩
  have hplaintext : openPayload vault libs setup.capsule (stages.descriptor crypto options draws)
      (chosen.map (dealtContribution setup.capsule.configRef stages.payload)) = .ok options.secret :=
    (setupPayload_eq_ok h.payload).opens hlibs.aead hlibs.fits hlibs.coder hlibs.dealer
      h.capsule_genesis.1 hguardianThreshold rfl rfl rfl rfl hchosen
  refine ⟨{ configId := setup.capsule.configRef.configId
            requestId := run.requestId
            recoveredSecret := options.secret
            signerContributions := setup.capsule.signerThreshold.toNat
            guardianContributions := (chosen.map
              (dealtContribution setup.capsule.configRef stages.payload)).length
            rejectedGuardians := rejected }, ?_, rfl, ?_⟩
  · simp only [recoverV3, recoverEpoch, Checks.bind_eq_ok, bailIf_eq_ok, exists_const,
      Except.ok.injEq]
    exact ⟨setup.capsule, hsigners.read, begun, hbegun, _, hkey, _, hdescriptor, haccepted.not_gt,
      released, hreleased, _, hcollected, _, hplaintext, rfl⟩
  · rw [List.length_map, hlength]

/-- What a setup sealed, a recovery returns, when the signers that answer and enough guardians run
their own servers. The other guardians may answer anything. -/
theorem recovered_from_setup (crypto : Crypto) (vault : Vault) (libs : ClientLibs)
    (answer : String → Option NodeInfo) (options : SetupV3Options) (draws : SetupDraws)
    (setup : OwnerSetup) (network : RecoveryNetwork) (run : RecoveryRun) (places : List ℕ)
    (hlibs : LibrariesCorrect crypto vault libs options.secret)
    (hsetup : setupV3 crypto vault libs answer options draws = .ok setup)
    (hsigners : SignersServed crypto vault network run setup)
    (hguardians : GuardiansServe crypto vault network run setup places)
    (hunforged : MaterialUnforged crypto vault libs network draws.authorizationKey setup) :
    ∃ result, recoverV3 crypto vault libs network run setup.card = .ok result ∧
      result.recoveredSecret = options.secret ∧
        result.guardianContributions = options.guardianThreshold.toNat := by
  obtain ⟨stages, h⟩ := setupV3_eq_ok hsetup
  exact h.recovered hlibs hsigners hguardians hunforged

/-- A recovery of what a setup made returns the secret, whatever signers, guardians and relays
answer, unless a payload was forged under the key or two packages have one digest. -/
theorem recovered_unless_forged (crypto : Crypto) (vault : Vault) (libs : ClientLibs)
    (answer : String → Option NodeInfo) (options : SetupV3Options) (draws : SetupDraws)
    (setup : OwnerSetup) (network : RecoveryNetwork) (run : RecoveryRun)
    (result : NetworkDemoResult) (haead : vault.AeadCorrect)
    (hdealer : libs.dealer.Correct vault.frost)
    (hinjective : Function.Injective vault.frost.verifyingShareOf)
    (hencodes : vault.frost.EncodesPackages)
    (hsetup : setupV3 crypto vault libs answer options draws = .ok setup)
    (hread : readLatestEpochV3 crypto vault network run setup.card = .ok setup.capsule)
    (hrecover : recoverV3 crypto vault libs network run setup.card = .ok result) :
    ∃ guardianCount payload trace,
      setupPayload crypto vault libs options draws guardianCount = .ok payload ∧
        Traced crypto vault libs network run setup.card setup.capsule trace result ∧
          RecoveryReturns crypto vault setup.capsule payload.frost.publicPackage payload.frost.dek
            payload.ciphertext options.secret trace result.recoveredSecret := by
  obtain ⟨stages, h⟩ := setupV3_eq_ok hsetup
  obtain ⟨_, -, hcapsule⟩ := h.capsule
  simp only [recoverV3, Checks.bind_eq_ok, hread, Except.ok.injEq, exists_eq_left'] at hrecover
  obtain ⟨trace, htraced⟩ := recoverEpoch_eq_ok hrecover
  have hcommitment : setup.capsule.dpssPublicCommitment = stages.payload.dpssPublicCommitment := by
    rw [hcapsule]
    rfl
  have hdeposited := (setupPayload_eq_ok h.payload).deposited haead hdealer h.capsule_genesis.1
    hcommitment
  exact ⟨_, stages.payload, trace, h.payload, htraced,
    htraced.returns hinjective hencodes hdeposited⟩

/-! ### A recovery from two of three guardians -/

theorem sampleCrypto_signatureCorrect : sampleCrypto.SignatureCorrect := fun seed transcript =>
  Crypto.transparent_signatureCorrect seed (transcript.take 400)

theorem sampleCrypto_signaturesFit : sampleCrypto.SignaturesFit := fun key transcript =>
  Crypto.transparent_signaturesFit key (transcript.take 400)

def sampleClientRun : RecoveryRun where
  recipientSeed := 20
  clientNonce := 21
  requestId := 22
  nonce := 23
  readAt := 100
  requestedAt := 101
  begunAt := 102
  releasedAt := 120

def witnessSeedOf (provision : WitnessConfigProvision) : Id32 :=
  BitVec.ofNat 256 (1000 * 'w'.toNat + 'a'.toNat + positionOf provision.witnessId)

/-- What the witnesses of a setup answer; the first one is silent. -/
def sampleReadAnswer (setup : OwnerSetup) (place : ℕ) (challenge : EpochReadChallenge) :
    Option WitnessReadEnvelope :=
  if place = 0 then none
  else setup.witnesses[place]?.bind fun provision =>
    (witnessRead sampleCrypto (witnessSeedOf provision) setup.card.configId (.ok 100)
      (.ok ()) challenge ⟨provision.entry, provision.entry⟩).1.toOption

def sampleRecoveryApproval (setup : OwnerSetup) : SignerRecoveryRequestV3 :=
  let challenge := sampleClientRun.challenge sampleVault setup.card
  .approve (sampleClientRun.request sampleVault setup.capsule) challenge
    ((List.range setup.card.witnesses.length).filterMap fun place =>
      sampleReadAnswer setup place challenge)

/-- The signer that has approved the recovery. -/
def sampleApprovedSigner (setup : OwnerSetup) (provision : SignerRotationProvisionV3) :
    SignerRotationEntryV3 :=
  signerRun sampleCrypto sampleVault.toSealing provision
    [⟨102, ⟨30, 31⟩, .inr (sampleRecoveryApproval setup)⟩]

/-- What the signers of a setup answer; a release comes after the approval. -/
def sampleSignerAnswer (setup : OwnerSetup) (place : ℕ) (request : SignerRecoveryRequestV3) :
    Option SignerRecoveryResponseV3 :=
  setup.signers[place]?.bind fun provision =>
    match request with
    | .approve _ _ _ => (handleSignerRecoveryV3 sampleCrypto sampleVault.toSealing ⟨30, 31⟩ 102
        request provision.provision.entry).1.toOption
    | .release _ => (handleSignerRecoveryV3 sampleCrypto sampleVault.toSealing ⟨30, 31⟩ 115
        request (sampleApprovedSigner setup provision.provision)).1.toOption

structure SampleCertificates where
  begun : BeginRecoveryCertificateV3
  released : RecoveryReleaseCertificateV3

def sampleVisitCall (wallNow monotonicNow : UInt64) : GuardianCall where
  wallNow := wallNow
  monotonicNow := monotonicNow
  bootId := "boot"
  random _ := ⟨0, 0⟩

def sampleVisit (provision : GuardianRotationProvisionV3) (begun : BeginRecoveryCertificateV3) :
    GuardianVisit :=
  let node : GuardianNode := ⟨0, false⟩
  let call := sampleVisitCall 102 1000
  { node := node
    before := provision.entry
    after := (handleGuardianRecoveryV3 sampleCrypto node call (.begin begun)).final
      provision.entry
    beginCall := call
    releaseCall := sampleVisitCall 120 1010 }

/-- The first guardian is silent. -/
def sampleGuardianAnswer (setup : OwnerSetup) (certificates : SampleCertificates) (place : ℕ)
    (request : GuardianRecoveryRequestV3) : Option GuardianRecoveryResponseV3 :=
  if place = 0 then none
  else setup.guardians[place]?.bind fun provision =>
    let visit := sampleVisit provision.provision certificates.begun
    match request with
    | .begin certificate => (visit.answerBegin sampleCrypto certificate).returned visit.before
    | .release _ _ =>
      (visit.answerRelease sampleCrypto certificates.released).returned visit.after
    | .cancel _ _ => none

def sampleRecoveryNetwork (setup : OwnerSetup) (certificates : Option SampleCertificates) :
    RecoveryNetwork where
  read := sampleReadAnswer setup
  signer := sampleSignerAnswer setup
  guardian place request := certificates.bind fun certificates =>
    sampleGuardianAnswer setup certificates place request

def sampleRecords (setup : OwnerSetup) : List GuardianRecordV3 :=
  setup.guardians.filterMap (·.provision.epochStore.active)

def hashedBytes (record : GuardianRecordV3) : List Bytes :=
  (recordLeaf sampleCrypto record).toOption.toList.flatMap fun leaf =>
    (preparedRecordLeafV3 leaf).toOption.toList ++
      [aeadBytes record.encryptedDekShare, aeadBytes record.encryptedCiphertextFragment]

theorem mem_hashedBytes {leaf : PreparedRecordLeaf} {bytes : Bytes}
    (hleaf : recordLeaf sampleCrypto record = .ok leaf)
    (h : bytes ∈ materialHashed leaf record.encryptedDekShare record.encryptedCiphertextFragment) :
    bytes ∈ hashedBytes record := by
  obtain hwritten | rfl | rfl := h
  · simp [hashedBytes, hleaf, hwritten, Except.toOption]
  · simp [hashedBytes, hleaf, Except.toOption]
  · simp [hashedBytes, hleaf, Except.toOption]

/-- The read, the clocks and the number of answers. -/
def SampleAnswered (setup : OwnerSetup) : Prop :=
  let network := sampleRecoveryNetwork setup none
  let expiry := saturatingAdd sampleClientRun.requestedAt setup.capsule.maxRequestLifetime
  readLatestEpochV3 sampleCrypto sampleVault network sampleClientRun setup.card =
      .ok setup.capsule ∧
    102 < expiry ∧ 120 < expiry ∧
      (∀ asked ∈ [sampleRecoveryApproval setup,
          .release (sampleClientRun.request sampleVault setup.capsule)],
        setup.capsule.signerThreshold.toNat ≤ (List.range setup.card.signerMailboxes.length).countP
          fun place => (network.signer place asked).isSome) ∧
        setup.capsule.guardianThreshold.toNat ≤ 2 ∧
          saturatingAdd 1000 setup.capsule.minimumRecoveryDelay ≤ 1010

/-- What the guardians hold: the request is not cancelled, the records fit their fields, have the
paths of the setup, and no two hashes in them are the same. -/
def SampleHeld (setup : OwnerSetup) : Prop :=
  setup.guardians.length = 3 ∧
    (∀ provision ∈ setup.guardians, sampleClientRun.requestId ∉
      provision.provision.epochStore.recoveryCancellationTombstones) ∧
    (∀ record ∈ sampleRecords setup, record.encryptedDekShare.ciphertext.length ≤ maxFieldLen ∧
      record.encryptedCiphertextFragment.ciphertext.length ≤ maxFieldLen ∧
        record.merklePathProof.length ≤ maxFieldLen ∧
          record.merklePathProof = (setupLeaves sampleCrypto setup).flatMap idBytes) ∧
    ∀ bytes ∈ (sampleRecords setup).flatMap hashedBytes,
      ∀ bytes' ∈ (sampleRecords setup).flatMap hashedBytes,
        sampleCrypto.sha256 bytes = sampleCrypto.sha256 bytes' → bytes = bytes'

instance (setup : OwnerSetup) : Decidable (SampleAnswered setup) := by
  unfold SampleAnswered
  infer_instance

instance (setup : OwnerSetup) : Decidable (SampleHeld setup) := by
  unfold SampleHeld
  infer_instance

def sampleServedSetup : Except String (RecoveryDescriptorV3 × OwnerSetup) := do
  let sample ← sampleSetup
  bailIf (¬SampleAnswered sample.2) "not answered"
  bailIf (¬SampleHeld sample.2) "not held"
  .ok sample

theorem sampleServedSetup_eq_ok :
    ∃ descriptor setup, setupV3 sampleCrypto sampleVault (.transparent descriptor) sampleNode
      sampleOptions sampleDraws = .ok setup ∧ SampleAnswered setup ∧ SampleHeld setup := by
  have hsome : sampleServedSetup.toOption.isSome = true := by decide +kernel
  obtain ⟨out, hout⟩ := isSome_toOption.mp hsome
  simp only [sampleServedSetup, sampleSetup, Checks.bind_eq_ok, bailIf_eq_ok, exists_const,
    Except.ok.injEq] at hout
  obtain ⟨_, ⟨descriptor, -, setup, hsetup, rfl⟩, hanswered, hheld, -⟩ := hout
  exact ⟨descriptor, setup, hsetup, not_not.mp hanswered, not_not.mp hheld⟩

theorem ClientLibs.transparent_decodesDescriptors (descriptor : RecoveryDescriptorV3) :
    (ClientLibs.transparent descriptor).DecodesDescriptors := by
  intro sent encoded hencoded
  simp only [ClientLibs.transparent] at hencoded ⊢
  split at hencoded
  next hsame =>
    cases hencoded
    rw [hsame, if_pos rfl]
  next => cases hencoded

theorem librariesCorrect_sample (descriptor : RecoveryDescriptorV3) :
    LibrariesCorrect sampleCrypto sampleVault (.transparent descriptor) sampleOptions.secret where
  signatures := sampleCrypto_signatureCorrect
  signaturesFit := sampleCrypto_signaturesFit
  merkle := sampleCrypto_merkleComplete
  shamir := Shamir.constant_correct
  coder := ReedSolomon.parity_mds
  dealer := FrostDealer.transparent_correct
  aead := sampleVault_aeadCorrect
  opens := sampleVault_sealCorrect
  fits := sampleVault_fits (by decide)
  descriptors := ClientLibs.transparent_decodesDescriptors descriptor

/-- The setup of the sample recovery, and the certificates its signers make of the requests. -/
structure SampleRecovered (descriptor : RecoveryDescriptorV3) (stages : SetupStages)
    (setup : OwnerSetup) (certificates : SampleCertificates) (digest : Id32) : Prop where
  made : setupV3 sampleCrypto sampleVault (.transparent descriptor) sampleNode sampleOptions
    sampleDraws = .ok setup
  setUp : SetUp sampleCrypto sampleVault (.transparent descriptor) sampleNode sampleOptions
    sampleDraws stages setup
  answered : SampleAnswered setup
  held : SampleHeld setup
  begun : approveRecovery sampleCrypto sampleVault (sampleRecoveryNetwork setup none)
    sampleClientRun setup.card setup.capsule = .ok certificates.begun
  released : releaseRecovery sampleCrypto (sampleRecoveryNetwork setup none) sampleClientRun
    setup.card setup.capsule certificates.begun = .ok certificates.released
  certified : RecoveryCertified sampleCrypto sampleVault sampleClientRun setup.capsule
    certificates.begun certificates.released digest

theorem SampleAnswered.within (h : SampleAnswered setup) :
    WithinRequest sampleClientRun setup.capsule 102 ∧
      WithinRequest sampleClientRun setup.capsule 120 := by
  obtain ⟨-, hearly, hlate, -⟩ := h
  exact ⟨⟨by decide, hearly⟩, ⟨by decide, hlate⟩⟩

theorem sampleSigners_serve (setup : OwnerSetup) (certificates : Option SampleCertificates) :
    SignersServe sampleCrypto sampleVault.toSealing (sampleRecoveryNetwork setup certificates)
      setup.signers := by
  intro place request response provision hprovision hresponse
  obtain ⟨_, hfound, hanswer⟩ := Option.bind_eq_some_iff.mp hresponse
  cases hprovision.symm.trans hfound
  cases request with
  | approve asked challenge reads =>
    exact ⟨provision.provision.entry, ⟨30, 31⟩, 102, rfl, toOption_eq_some.mp hanswer⟩
  | release asked =>
    have hsame : SameSigner provision.provision
        (sampleApprovedSigner setup provision.provision) := run_sameSigner
    exact ⟨_, ⟨30, 31⟩, 115, hsame, toOption_eq_some.mp hanswer⟩

theorem SampleAnswered.signersServed (h : SampleAnswered setup)
    (certificates : Option SampleCertificates) :
    SignersServed sampleCrypto sampleVault (sampleRecoveryNetwork setup certificates)
      sampleClientRun setup := by
  have hwithin := h.within
  obtain ⟨hread, -, -, hsigners, -⟩ := h
  exact {
    read := hread
    recipient := List.length_replicate
    begunWithin := hwithin.1
    releasedWithin := hwithin.2
    serve := sampleSigners_serve setup _
    approved := hsigners (sampleRecoveryApproval setup) List.mem_cons_self
    released := hsigners _ (List.mem_cons_of_mem _ List.mem_cons_self) }

/-- Signers that serve certify the sample recovery. -/
theorem sampleRecovered_exists :
    ∃ descriptor stages setup certificates digest,
      SampleRecovered descriptor stages setup certificates digest := by
  obtain ⟨descriptor, setup, hmade, hanswered, hheld⟩ := sampleServedSetup_eq_ok
  obtain ⟨stages, hsetUp⟩ := setupV3_eq_ok hmade
  have hlibs := librariesCorrect_sample descriptor
  have hsigners := hanswered.signersServed none
  have hready := hsetUp.signersReady hlibs.merkle hsigners.serve
  obtain ⟨begun, signers, hbegun, hbeginOf⟩ := approveRecovery_eq_ok hlibs.signatures
    hlibs.signaturesFit hsigners.recipient hsigners.begunWithin hready hsigners.approved
  obtain ⟨released, voters, hreleased, hreleaseOf⟩ := releaseRecovery_eq_ok hlibs.signatures
    hlibs.signaturesFit hsigners.recipient hsigners.releasedWithin hready hbeginOf.sameRequest
    hbeginOf.digest hsigners.released
  exact ⟨descriptor, stages, setup, ⟨begun, released⟩, _, hmade, hsetUp, hanswered, hheld, hbegun,
    hreleased, recoveryCertified hlibs hsigners.recipient hready.signersOf hbeginOf hreleaseOf⟩

namespace SampleRecovered

variable {descriptor : RecoveryDescriptorV3} {certificates : SampleCertificates}

/-- The guardian at a place holds a record that fits its fields. -/
theorem held_at {place : ℕ} (hlt : place < setup.guardians.length)
    (h : SampleRecovered descriptor stages setup certificates digest) :
    ∃ provision record, setup.guardians[place]? = some provision ∧ record ∈ sampleRecords setup ∧
      RecordFits record ∧
        Guards (sampleDraws.guardianSeed place) setup.capsule record provision.provision.entry ∧
          RecordHeld sampleCrypto sampleVault sampleDraws stages
            (stages.policy sampleCrypto sampleOptions sampleDraws) place record := by
  have hmerkle := sampleCrypto_merkleComplete
  obtain ⟨-, -, hrecords, -⟩ := h.held
  rw [h.setUp.guardians_length hmerkle] at hlt
  obtain ⟨provision, record, hprovision, hseed, hpredecessor, hactive, hheld⟩ :=
    h.setUp.guardian hmerkle hlt
  have hrecord : record ∈ sampleRecords setup :=
    List.mem_filterMap.mpr ⟨provision, List.mem_of_getElem? hprovision, hactive⟩
  obtain ⟨hshare, hfragment, hpath, -⟩ := hrecords record hrecord
  exact ⟨provision, record, hprovision, hrecord, ⟨hshare, hfragment, hpath⟩,
    ⟨hseed, hpredecessor, hactive⟩, hheld⟩

theorem policy_eq {place : ℕ} (h : SampleRecovered descriptor stages setup certificates digest)
    (hheld : RecordHeld sampleCrypto sampleVault sampleDraws stages
      (stages.policy sampleCrypto sampleOptions sampleDraws) place record) :
    record.policy.configRef = setup.capsule.configRef ∧
      record.policy.minimumRecoveryDelay = setup.capsule.minimumRecoveryDelay := by
  rw [hheld.policy, h.setUp.capsule_genesis.1, h.setUp.capsule_counts.2.2.2]
  exact ⟨rfl, rfl⟩

/-- A guardian that is not silent serves the recovery. -/
theorem serves {place : ℕ} {provision : GuardianRotationProvision} {seed : Id32}
    (hplace : place ≠ 0) (hprovision : setup.guardians[place]? = some provision)
    (hguards : Guards seed setup.capsule record provision.provision.entry)
    (hconfig : record.policy.configRef = setup.capsule.configRef)
    (h : SampleRecovered descriptor stages setup certificates digest) :
    GuardianServes sampleCrypto (sampleRecoveryNetwork setup (some certificates)) sampleClientRun
      setup.capsule provision.provision place certificates.begun certificates.released
        (sampleVisit provision.provision certificates.begun) := by
  obtain ⟨-, hlive, -, -⟩ := h.held
  obtain ⟨-, -, -, -, -, hdelayed⟩ := h.answered
  have hunseen : Unseen certificates.begun.request provision.provision.entry := by
    rw [h.certified.begunRequest]
    exact ⟨hlive provision (List.mem_of_getElem? hprovision), Std.TreeMap.getElem?_emptyc,
      fun _ hpending => by cases hpending⟩
  have hbegin := guardianBegin_eq_ok (sampleVisit provision.provision certificates.begun).node
    hguards (by rw [hconfig, h.certified.begunRequest]; rfl) hunseen
    (by rw [h.certified.begunRequest]; rfl)
    (by rw [h.certified.begunRequest]; exact List.length_replicate)
    (h.certified.begun (sampleVisitCall 102 1000).wallNow h.answered.within.1)
  -- Begin leaves the provision as it is.
  have hafter : (sampleVisit provision.provision certificates.begun).after = _ :=
    final_of_ok hbegin
  have hanswers : ∀ asked, (sampleRecoveryNetwork setup (some certificates)).guardian place asked =
      match asked with
      | .begin certificate => ((sampleVisit provision.provision certificates.begun).answerBegin
          sampleCrypto certificate).returned provision.provision.entry
      | .release _ _ => ((sampleVisit provision.provision certificates.begun).answerRelease
          sampleCrypto certificates.released).returned
            (sampleVisit provision.provision certificates.begun).after
      | .cancel _ _ => none := by
    intro asked
    simp only [sampleRecoveryNetwork, sampleGuardianAnswer, Option.bind_some, if_neg hplace,
      hprovision]
    rfl
  exact {
    before := ⟨rfl, rfl, rfl⟩
    unseen := hunseen
    begunWithin := h.answered.within.1
    begins := hanswers _
    after := by
      rw [hafter]
      exact ⟨rfl, rfl, rfl⟩
    kept := rfl
    live := by
      rw [hafter]
      exact hunseen.live
    boot := rfl
    waited := hdelayed
    releasedWithin := h.answered.within.2
    releases := hanswers _ }

theorem guardiansServe (h : SampleRecovered descriptor stages setup certificates digest) :
    GuardiansServe sampleCrypto sampleVault (sampleRecoveryNetwork setup (some certificates))
      sampleClientRun setup [1, 2] := by
  obtain ⟨-, -, -, -, henough, -⟩ := h.answered
  refine ⟨by decide, henough, fun place hplace => ?_⟩
  have hrange : place ≠ 0 ∧ place < setup.guardians.length := by
    rw [h.held.1]
    simp only [List.mem_cons, List.not_mem_nil, or_false] at hplace
    omega
  obtain ⟨provision, record, hprovision, -, hfits, hguards, hheld⟩ := h.held_at hrange.2
  refine ⟨provision, record, hprovision, hguards.active, hfits,
    fun begun released hbegun hreleased => ?_⟩
  cases Except.ok.inj (h.begun.symm.trans hbegun)
  cases Except.ok.inj (h.released.symm.trans hreleased)
  exact ⟨_, h.serves hrange.1 hprovision hguards (h.policy_eq hheld).1⟩

/-- What a guardian presents is the material of its record, signed. -/
theorem sent {place : ℕ} {contribution : GuardianRecoveryContributionV3}
    (hpresents : Presents (sampleRecoveryNetwork setup (some certificates)) place contribution)
    (h : SampleRecovered descriptor stages setup certificates digest) :
    ∃ record transcript, record ∈ sampleRecords setup ∧ place < setup.guardians.length ∧
      RecordHeld sampleCrypto sampleVault sampleDraws stages
        (stages.policy sampleCrypto sampleOptions sampleDraws) place record ∧
      contribution = signedMaterial sampleCrypto (sampleDraws.guardianSeed place) record
        (sampleClientRun.request sampleVault setup.capsule) digest transcript := by
  obtain ⟨request, certificate, hanswer⟩ := hpresents
  have hsent : sampleGuardianAnswer setup certificates place
      (.release certificates.released.request certificates.released) =
        some (.contribution contribution) := hanswer
  have hrange : place ≠ 0 ∧ place < setup.guardians.length := by
    unfold sampleGuardianAnswer at hsent
    split at hsent
    · cases hsent
    next hplace =>
      obtain ⟨provision, hprovision, -⟩ := Option.bind_eq_some_iff.mp hsent
      exact ⟨hplace, (List.getElem?_eq_some_iff.mp hprovision).1⟩
  obtain ⟨provision, record, hprovision, hrecord, hfits, hguards, hheld⟩ := h.held_at hrange.2
  obtain ⟨hconfig, hdelay⟩ := h.policy_eq hheld
  have hlt := hrange.2
  rw [h.setUp.guardians_length sampleCrypto_merkleComplete] at hlt
  have hpositive := idAt_ne_zero hlt
  obtain ⟨transcript, hwritten⟩ := hfits.written digest
    (sampleClientRun.request sampleVault setup.capsule)
    ⟨hheld.guardianIndex ▸ hpositive, hheld.fragmentIndex ▸ hpositive⟩ List.length_replicate
  have hserved := ((h.serves hrange.1 hprovision hguards hconfig).answers List.length_replicate
    hguards.predecessor hguards.active hconfig hdelay h.certified hwritten).2
  rw [hguards.signingSeed] at hserved
  cases hserved.symm.trans hsent
  exact ⟨record, transcript, hrecord, hrange.2, hheld, rfl⟩

theorem materialUnforged (h : SampleRecovered descriptor stages setup certificates digest) :
    MaterialUnforged sampleCrypto sampleVault (.transparent descriptor)
      (sampleRecoveryNetwork setup (some certificates)) sampleDraws.authorizationKey setup := by
  obtain ⟨-, -, hrecords, hhashes⟩ := h.held
  constructor
  · refine Crypto.transparent_merkleBinding ?_
    rintro path ⟨place, contribution, hpresents, rfl⟩
    obtain ⟨record, transcript, hrecord, -, -, rfl⟩ := h.sent hpresents
    exact (hrecords record hrecord).2.2.2
  · have hmem : ∀ bytes ∈ materialOf sampleCrypto sampleVault (.transparent descriptor)
        (sampleRecoveryNetwork setup (some certificates)) sampleDraws.authorizationKey setup,
          bytes ∈ (sampleRecords setup).flatMap hashedBytes := by
      rintro bytes (⟨provision, hprovision, record, leaf, hactive, hleaf, hbytes⟩ |
        ⟨opened, place, route, contribution, leaf, hopened, hroute, hpresents, hleaf, hbytes⟩)
      · exact List.mem_flatMap.mpr ⟨record, List.mem_filterMap.mpr ⟨provision, hprovision, hactive⟩,
          mem_hashedBytes hleaf hbytes⟩
      · obtain ⟨record, transcript, hrecord, hlt, hheld, rfl⟩ := h.sent hpresents
        rw [h.setUp.guardians_length sampleCrypto_merkleComplete] at hlt
        have hsame : opened = stages.descriptor sampleCrypto sampleOptions sampleDraws := by
          have hown := h.setUp.openDescriptor sampleVault_aeadCorrect
            (ClientLibs.transparent_decodesDescriptors descriptor)
          exact Except.ok.inj (hopened.symm.trans hown)
        rw [hsame] at hroute
        obtain ⟨prepared, hprepared, hpresented⟩ := h.setUp.signedMaterial_leaf hlt hheld hroute
          (sampleDraws.guardianSeed place) (sampleClientRun.request sampleVault setup.capsule)
            digest transcript
        cases hleaf.symm.trans hpresented
        exact List.mem_flatMap.mpr ⟨record, hrecord, mem_hashedBytes hprepared hbytes⟩
    intro bytes hbytes bytes' hbytes' hsame
    exact hhashes bytes (hmem bytes hbytes) bytes' (hmem bytes' hbytes') hsame

end SampleRecovered

/-- The recovery from the last two of three guardians. -/
theorem recovered_from_setup_sample :
    ∃ descriptor setup certificates result,
      setupV3 sampleCrypto sampleVault (.transparent descriptor) sampleNode sampleOptions
        sampleDraws = .ok setup ∧
      recoverV3 sampleCrypto sampleVault (.transparent descriptor)
        (sampleRecoveryNetwork setup (some certificates)) sampleClientRun setup.card =
          .ok result ∧ result.recoveredSecret = [1, 2, 3] ∧ result.guardianContributions = 2 := by
  obtain ⟨descriptor, stages, setup, certificates, _, h⟩ := sampleRecovered_exists
  obtain ⟨result, hresult⟩ := recovered_from_setup sampleCrypto sampleVault (.transparent descriptor)
    sampleNode sampleOptions sampleDraws setup (sampleRecoveryNetwork setup (some certificates))
    sampleClientRun [1, 2] (librariesCorrect_sample descriptor) h.made (h.answered.signersServed _)
    h.guardiansServe h.materialUnforged
  exact ⟨descriptor, setup, certificates, result, h.made, hresult⟩

/-- The same recovery, of which nothing is supposed. -/
theorem recovered_unless_forged_sample :
    ∃ descriptor setup certificates result guardianCount payload trace,
      recoverV3 sampleCrypto sampleVault (.transparent descriptor)
        (sampleRecoveryNetwork setup (some certificates)) sampleClientRun setup.card =
          .ok result ∧
      setupPayload sampleCrypto sampleVault (.transparent descriptor) sampleOptions sampleDraws
        guardianCount = .ok payload ∧
      RecoveryReturns sampleCrypto sampleVault setup.capsule payload.frost.publicPackage
        payload.frost.dek payload.ciphertext [1, 2, 3] trace result.recoveredSecret := by
  obtain ⟨descriptor, stages, setup, certificates, _, h⟩ := sampleRecovered_exists
  obtain ⟨hread, -⟩ := h.answered
  obtain ⟨result, hresult, -⟩ := h.setUp.recovered (librariesCorrect_sample descriptor)
    (h.answered.signersServed _) h.guardiansServe h.materialUnforged
  obtain ⟨guardianCount, payload, trace, hpayload, -, hreturns⟩ := recovered_unless_forged
    sampleCrypto sampleVault (.transparent descriptor) sampleNode sampleOptions sampleDraws setup
    (sampleRecoveryNetwork setup (some certificates)) sampleClientRun result
    sampleVault_aeadCorrect FrostDealer.transparent_correct (fun _ _ hsame => hsame)
    Frost.transparent_encodesPackages h.made hread hresult
  exact ⟨descriptor, setup, certificates, result, guardianCount, payload, trace, hresult, hpayload,
    hreturns⟩

end MasterRecovery
