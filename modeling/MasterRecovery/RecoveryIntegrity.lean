import MasterRecovery.RecoveryClient

/-!
# What a recovery returns (gp-network/src/client.rs)

Signers, guardians and witnesses answer as they like. A share is counted when it stands on the
public package the capsule commits to, so enough shares give the key that was dealt; the plaintext
opens under that key.
-/

namespace MasterRecovery
open Checks Transcript Wire Gather

variable {crypto : Crypto} {vault : Vault} {libs : ClientLibs} {network : RecoveryNetwork}
  {run : RecoveryRun} {card : ClientCardV3} {capsule : ConfigCapsuleV3} {frost : Frost}
  {dealer : FrostDealer} {published package' : PublicKeyPackage} {threshold : UInt16}
  {dealt : List KeyPackage} {dek : Bytes}

/-! ### The shares behind a public package -/

structure SamePackage (package package' : PublicKeyPackage) : Prop where
  verifyingShares : ∀ identifier : ℕ,
    package.verifyingShares[identifier]? = package'.verifyingShares[identifier]?
  verifyingKey : package.verifyingKey = package'.verifyingKey
  minSigners : package.minSigners = package'.minSigners

/-- A package that was decoded is known from its encoding. -/
def Frost.EncodesPackages (frost : Frost) : Prop :=
  ∀ left right package package' encoded, frost.publicKeyPackage left = some package →
    frost.publicKeyPackage right = some package' →
      frost.serializePublicKeyPackage package = some encoded →
        frost.serializePublicKeyPackage package' = some encoded → SamePackage package package'

/-- The key packages of the participants of a public package. Any of them that reach the threshold
give the key. -/
structure Sharing (frost : Frost) (dealer : FrostDealer) (published : PublicKeyPackage)
    (threshold : UInt16) (dealt : List KeyPackage) (dek : Bytes) : Prop where
  minSigners : published.minSigners = some threshold
  listed : ∀ package ∈ dealt, package.minSigners = threshold ∧
    package.verifyingKey = published.verifyingKey ∧
      frost.verifyingShareOf package.signingShare = package.verifyingShare ∧
        published.verifyingShares[package.identifier]? = some package.verifyingShare
  covers : ∀ (identifier : ℕ) (verifyingShare : Bytes),
    published.verifyingShares[identifier]? = some verifyingShare →
      ∃ package ∈ dealt, package.identifier = identifier
  reconstructs : ∀ chosen : List KeyPackage, (∀ package ∈ chosen, package ∈ dealt) →
    chosen.Nodup → threshold.toNat ≤ chosen.length → dealer.reconstruct chosen = some dek

/-- A share that stands on the public package is one that was dealt. -/
theorem Sharing.mem_dealt (h : Sharing frost dealer published threshold dealt dek)
    (hinjective : Function.Injective frost.verifyingShareOf) {package : KeyPackage}
    (hverifying : frost.verifyingShareOf package.signingShare = package.verifyingShare)
    (hkey : package.verifyingKey = published.verifyingKey)
    (hmin : published.minSigners = some package.minSigners)
    (hshare : published.verifyingShares[package.identifier]? = some package.verifyingShare) :
    package ∈ dealt := by
  obtain ⟨own, hown, hidentifier⟩ := h.covers package.identifier package.verifyingShare hshare
  obtain ⟨hownMin, hownKey, hownVerifying, hownShare⟩ := h.listed own hown
  rw [hidentifier, hshare, Option.some.injEq] at hownShare
  have hsigning : own.signingShare = package.signingShare := by
    apply hinjective
    rw [hownVerifying, hverifying, hownShare]
  have hthreshold : package.minSigners = threshold := by
    rw [h.minSigners, Option.some.injEq] at hmin
    exact hmin.symm
  have hsame : own = package := by
    cases own
    cases package
    simp_all
  rw [← hsame]
  exact hown

theorem decodeShare_eq_ok {value : Bytes} {package : KeyPackage} :
    decodeShare frost value = .ok package ↔ bounded value frostShareMaxLen = .ok () ∧
      frost.keyPackage value = some package ∧
        frost.verifyingShareOf package.signingShare = package.verifyingShare := by
  rw [decodeShare, bind_unit_eq_ok]
  simp only [bind_eq_ok, okOr_eq_ok, bailIf_eq_ok, exists_const, not_not, Except.ok.injEq]
  constructor
  · rintro ⟨hbounded, share, hshare, hverifying, rfl⟩
    exact ⟨hbounded, hshare, hverifying⟩
  · rintro ⟨hbounded, hshare, hverifying⟩
    exact ⟨hbounded, package, hshare, hverifying, rfl⟩

/-- What a verified share says. -/
theorem frostVerifyShare_eq_ok {share encodedPublic : Bytes} {participant : UInt16}
    (h : frostVerifyShare frost share encodedPublic = .ok participant) :
    ∃ package published, decodeShare frost share = .ok package ∧
      decodePublic frost encodedPublic = .ok published ∧
        package.verifyingKey = published.verifyingKey ∧
          published.minSigners = some package.minSigners ∧
            published.verifyingShares[package.identifier]? = some package.verifyingShare ∧
              package.identifier = participant.toNat := by
  simp only [frostVerifyShare, bind_eq_ok, bailIf_eq_ok, exists_const, not_or, not_not] at h
  obtain ⟨package, hpackage, published, hpublished, ⟨hkey, hmin, hshare⟩, hnumeric⟩ := h
  refine ⟨package, published, hpackage, hpublished, hkey, hmin, hshare, ?_⟩
  simp only [numericIdentifier, bind_eq_ok, bailIf_eq_ok, exists_const, not_or, not_lt,
    Except.ok.injEq] at hnumeric
  obtain ⟨⟨-, hle⟩, rfl⟩ := hnumeric
  have hmax : frostMaxParticipants.toNat = 32 := rfl
  rw [UInt16.toNat_ofNat']
  omega

/-- The shares decode one by one, into packages of distinct participants. -/
theorem decodePackages_eq_ok {identifiers : Finset ℕ} {verifyingKey : Option Bytes}
    {packages decoded : List KeyPackage} {shares : List Bytes}
    (hnodup : (packages.map (·.identifier)).Nodup)
    (hidentifiers : ∀ package ∈ packages, package.identifier ∈ identifiers)
    (h : decodePackages frost threshold identifiers verifyingKey packages shares = .ok decoded) :
    (decoded.map (·.identifier)).Nodup ∧ decoded.length = packages.length + shares.length ∧
      ∀ package ∈ decoded, package ∈ packages ∨
        package.minSigners = threshold ∧ ∃ share ∈ shares, decodeShare frost share = .ok package := by
  induction shares generalizing identifiers verifyingKey packages with
  | nil =>
    simp only [decodePackages, Except.ok.injEq] at h
    subst h
    exact ⟨hnodup, rfl, fun package hmem => Or.inl hmem⟩
  | cons encoded shares ih =>
    simp only [decodePackages, bind_eq_ok, bailIf_eq_ok, exists_const, not_or] at h
    obtain ⟨package, hpackage, ⟨hmin, hfresh, -⟩, hrest⟩ := h
    have hfresh' : package.identifier ∉ packages.map (·.identifier) := by
      intro hmem
      obtain ⟨other, hother, hsame⟩ := List.mem_map.mp hmem
      exact hfresh (hsame ▸ hidentifiers other hother)
    have hnodup' : ((packages ++ [package]).map (·.identifier)).Nodup := by
      rw [List.map_append, List.map_singleton, ← List.concat_eq_append]
      exact hnodup.concat hfresh'
    have hidentifiers' : ∀ other ∈ packages ++ [package],
        other.identifier ∈ insert package.identifier identifiers := by
      intro other hmem
      rcases List.mem_append.mp hmem with hold | hnew
      · exact Finset.mem_insert_of_mem (hidentifiers other hold)
      · rw [List.mem_singleton.mp hnew]
        exact Finset.mem_insert_self ..
    obtain ⟨hdistinct, hlength, hall⟩ := ih hnodup' hidentifiers' hrest
    refine ⟨hdistinct, ?_, fun other hmem => ?_⟩
    · rw [hlength, List.length_append, List.length_singleton, List.length_cons]
      omega
    · rcases hall other hmem with hkept | ⟨hthreshold, share, hshare, hdecode⟩
      · rcases List.mem_append.mp hkept with hold | hnew
        · exact Or.inl hold
        · rw [List.mem_singleton.mp hnew]
          exact Or.inr ⟨not_not.mp hmin, encoded, List.mem_cons_self .., hpackage⟩
      · exact Or.inr ⟨hthreshold, share, List.mem_cons_of_mem _ hshare, hdecode⟩

/-- Shares whose packages were dealt give the key, whichever they are. -/
theorem Sharing.frostRecoverDek_eq (h : Sharing frost dealer published threshold dealt dek)
    {shares : List Bytes} {level : UInt16} {key : Bytes}
    (hdealt : ∀ share ∈ shares, ∀ package, decodeShare frost share = .ok package → package ∈ dealt)
    (hrecover : frostRecoverDek frost dealer shares level = .ok key) : key = dek := by
  simp only [frostRecoverDek, bind_eq_ok, bailIf_eq_ok, exists_const, not_or, not_lt,
    okOr_eq_ok, Except.ok.injEq] at hrecover
  obtain ⟨⟨htwo, henough⟩, packages, hpackages, secret, hsecret, -, rfl⟩ := hrecover
  obtain ⟨hdistinct, hlength, hall⟩ := decodePackages_eq_ok (by simp) (by simp) hpackages
  have hmem : ∀ package ∈ packages, package.minSigners = level ∧ package ∈ dealt := by
    intro package hpackage
    rcases hall package hpackage with hnone | ⟨hlevel, share, hshare, hdecode⟩
    · cases hnone
    · exact ⟨hlevel, hdealt share hshare package hdecode⟩
  have hcount : level.toNat ≤ packages.length := by
    rw [hlength, List.length_nil, Nat.zero_add]
    exact henough
  have htwo' : (2 : UInt16).toNat ≤ level.toNat :=
    UInt16.le_iff_toNat_le.mp (UInt16.not_lt.mp htwo)
  have hlevel : level = threshold := by
    have hpositive : 0 < packages.length := lt_of_lt_of_le (by decide) (htwo'.trans hcount)
    obtain ⟨package, hpackage⟩ := List.exists_mem_of_length_pos hpositive
    obtain ⟨hmin, hdealtPackage⟩ := hmem package hpackage
    rw [← hmin, (h.listed package hdealtPackage).1]
  rw [h.reconstructs packages (fun package hpackage => (hmem package hpackage).2) hdistinct.of_map
    (hlevel ▸ hcount), Option.some.injEq] at hsecret
  exact hsecret.symm

/-! ### The steps of a recovery that succeeds -/

/-- What the client holds at the end. -/
structure RecoveryTrace where
  begun : BeginRecoveryCertificateV3
  authorizationKey : Id32
  descriptor : RecoveryDescriptorV3
  release : RecoveryReleaseCertificateV3
  opened : List OpenedContribution
  rejected : List UInt16
  dek : Bytes
  ciphertext : Bytes

def RecoveryTrace.payload (trace : RecoveryTrace) : AeadCiphertext :=
  ⟨trace.descriptor.payloadNonce, trace.ciphertext⟩

structure Traced (crypto : Crypto) (vault : Vault) (libs : ClientLibs) (network : RecoveryNetwork)
    (run : RecoveryRun) (card : ClientCardV3) (capsule : ConfigCapsuleV3) (trace : RecoveryTrace)
    (result : NetworkDemoResult) : Prop where
  begun : approveRecovery crypto vault network run card capsule = .ok trace.begun
  authorizationKey :
    reconstructAuthorizationKey vault libs run capsule trace.begun = .ok trace.authorizationKey
  descriptor :
    openDescriptorV3 crypto vault libs capsule trace.authorizationKey = .ok trace.descriptor
  accepted : capsule.guardianThreshold.toNat ≤ begunGuardians network trace.descriptor trace.begun
  release : releaseRecovery crypto network run card capsule trace.begun = .ok trace.release
  collected : collectContributions crypto vault network capsule trace.descriptor
    trace.authorizationKey trace.release = .ok (trace.opened, trace.rejected)
  dek : frostRecoverDekForEpoch vault.frost libs.dealer (trace.opened.map (·.share))
    capsule.configRef capsule.guardianThreshold = .ok trace.dek
  ciphertext : erasureReconstruct libs.coder (trace.opened.map (·.fragment))
    trace.descriptor.dataShards trace.descriptor.totalShards
    trace.descriptor.ciphertextLen.toNat = .ok trace.ciphertext
  opens : ∃ context, payloadContextV3 capsule.configRef.configId
      capsule.configRef.payloadGeneration = .ok context ∧
    vault.aeadDecrypt trace.dek trace.payload context = .ok result.recoveredSecret
  contributions : result.guardianContributions = trace.opened.length
  rejectedGuardians : result.rejectedGuardians = trace.rejected

theorem recoverEpoch_eq_ok {result : NetworkDemoResult}
    (h : recoverEpoch crypto vault libs network run card capsule = .ok result) :
    ∃ trace, Traced crypto vault libs network run card capsule trace result := by
  simp only [recoverEpoch, openPayload, bind_eq_ok, bailIf_eq_ok, exists_const, not_lt,
    crypt_eq_ok, wire_eq_ok, Except.ok.injEq] at h
  obtain ⟨begun, hbegun, key, hkey, descriptor, hdescriptor, haccepted, release, hrelease,
    collected, hcollected, plaintext, ⟨dek, hdek, ciphertext, hciphertext, context, hcontext,
      hopens⟩, rfl⟩ := h
  exact ⟨⟨begun, key, descriptor, release, collected.1, collected.2, dek, ciphertext⟩, hbegun, hkey,
    hdescriptor, haccepted, hrelease, hcollected, hdek, hciphertext, ⟨context, hcontext, hopens⟩,
    rfl, rfl⟩

/-- A contribution that counts has a share that stands on the descriptor's package. -/
theorem Traced.verified {trace : RecoveryTrace} {result : NetworkDemoResult}
    (h : Traced crypto vault libs network run card capsule trace result)
    {opened : OpenedContribution} (hopened : opened ∈ trace.opened) :
    opened.share.configRef = capsule.configRef ∧
      ∃ participant, frostVerifyShare vault.frost opened.share.encodedShare
        trace.descriptor.dpssPublicPackage = .ok participant := by
  have hcollected := h.collected
  simp only [collectContributions, bind_eq_ok, bailIf_eq_ok, exists_const,
    Except.ok.injEq] at hcollected
  obtain ⟨-, hgathered⟩ := hcollected
  have hkept : opened ∈ (gather capsule.guardianThreshold.toNat
      (fun _ => askedContribution crypto vault network capsule trace.descriptor
        trace.authorizationKey trace.release) [] []
      trace.descriptor.guardians.zipIdx).1 := by
    rw [hgathered]
    exact hopened
  obtain ⟨_, entry, -, hjudge⟩ := mem_gather hkept
  unfold askedContribution at hjudge
  split at hjudge
  · cases hjudge
  · split at hjudge
    next contribution _ _ share hshare =>
      simp only [Except.ok.injEq] at hjudge
      subst hjudge
      refine ⟨rfl, ?_⟩
      simp only [openGuardianContributionV3, decryptContribution, bind_eq_ok, bailIf_eq_ok,
        exists_const, crypt_eq_ok, Except.ok.injEq] at hshare
      obtain ⟨_, -, _, -, _, -, share, -, participant, hparticipant, -, _, -, _, -, _, -, rfl⟩ := hshare
      exact ⟨participant, hparticipant⟩
    next => cases hjudge

/-! ### The secret -/

/-- The encoding that a package is committed to by. -/
def PackageEncoding (frost : Frost) (publicPackage encoded : Bytes) : Prop :=
  ∃ published, decodePublic frost publicPackage = .ok published ∧
    encodePublic frost published = .ok encoded

/-- What a capsule stands for: its commitment is to a package behind which a key is shared, and the
payload opens under the key. -/
structure Deposited (crypto : Crypto) (vault : Vault) (libs : ClientLibs)
    (capsule : ConfigCapsuleV3) (publicPackage dek : Bytes) (payload : AeadCiphertext)
    (secret : Bytes) : Prop where
  committed :
    frostPublicPackageDigest crypto vault.frost publicPackage = .ok capsule.dpssPublicCommitment
  shared : ∃ published threshold dealt, decodePublic vault.frost publicPackage = .ok published ∧
    Sharing vault.frost libs.dealer published threshold dealt dek
  opens : ∀ context, payloadContextV3 capsule.configRef.configId
    capsule.configRef.payloadGeneration = .ok context →
      vault.aeadDecrypt dek payload context = .ok secret

/-- Two packages with one digest and different encodings. -/
def PackagesCollide (crypto : Crypto) (frost : Frost) (publicPackage publicPackage' : Bytes) : Prop :=
  ∃ encoded encoded', PackageEncoding frost publicPackage encoded ∧
    PackageEncoding frost publicPackage' encoded' ∧ encoded ≠ encoded' ∧
      crypto.sha256 encoded = crypto.sha256 encoded'

theorem frostPublicPackageDigest_eq_ok {encodedPublic : Bytes} {digest : Id32}
    (h : frostPublicPackageDigest crypto frost encodedPublic = .ok digest) :
    ∃ published encoded, decodePublic frost encodedPublic = .ok published ∧
      encodePublic frost published = .ok encoded ∧ digest = crypto.sha256 encoded := by
  simp only [frostPublicPackageDigest, bind_eq_ok, Except.ok.injEq] at h
  obtain ⟨published, hpublished, encoded, hencoded, rfl⟩ := h
  exact ⟨published, encoded, hpublished, hencoded, rfl⟩

/-- Packages with one digest are one package, unless they collide. -/
theorem samePackage_or_collide (hencodes : frost.EncodesPackages)
    {publicPackage publicPackage' : Bytes} {digest : Id32}
    {package package' : PublicKeyPackage}
    (hdigest : frostPublicPackageDigest crypto frost publicPackage = .ok digest)
    (hdigest' : frostPublicPackageDigest crypto frost publicPackage' = .ok digest)
    (hdecode : decodePublic frost publicPackage = .ok package)
    (hdecode' : decodePublic frost publicPackage' = .ok package') :
    SamePackage package package' ∨ PackagesCollide crypto frost publicPackage publicPackage' := by
  obtain ⟨_, encoded, hdecoded, hencoded, rfl⟩ := frostPublicPackageDigest_eq_ok hdigest
  obtain ⟨_, encoded', hdecoded', hencoded', hhash⟩ := frostPublicPackageDigest_eq_ok hdigest'
  cases hdecoded.symm.trans hdecode
  cases hdecoded'.symm.trans hdecode'
  by_cases hsame : encoded = encoded'
  · subst hsame
    left
    simp only [decodePublic, bind_unit_eq_ok, okOr_eq_ok] at hdecode hdecode'
    simp only [encodePublic, bounded, bind_eq_ok, bailIf_eq_ok, exists_const, okOr_eq_ok,
      Except.ok.injEq] at hencoded hencoded'
    obtain ⟨_, hserialized, -, rfl⟩ := hencoded
    obtain ⟨_, hserialized', -, rfl⟩ := hencoded'
    exact hencodes _ _ _ _ _ hdecode.2 hdecode'.2 hserialized hserialized'
  · right
    exact ⟨encoded, encoded', ⟨package, hdecode, hencoded⟩, ⟨package', hdecode', hencoded'⟩, hsame,
      hhash⟩

theorem Traced.descriptor_committed {trace : RecoveryTrace} {result : NetworkDemoResult}
    (h : Traced crypto vault libs network run card capsule trace result) :
    frostPublicPackageDigest crypto vault.frost trace.descriptor.dpssPublicPackage =
      .ok capsule.dpssPublicCommitment := by
  have hdescriptor := h.descriptor
  simp only [openDescriptorV3, validateRecoveryDescriptorV3, bind_eq_ok, bailIf_eq_ok,
    exists_const, crypt_eq_ok, not_not, Except.ok.injEq] at hdescriptor
  obtain ⟨_, -, _, -, _, -, descriptor, -, ⟨-, digest, hdigest, rfl⟩, rfl⟩ := hdescriptor
  exact hdigest

/-- The key of a recovery is the one that was dealt, unless two packages collide. -/
theorem Traced.dek_eq {trace : RecoveryTrace} {result : NetworkDemoResult}
    {publicPackage secret : Bytes} {payload : AeadCiphertext}
    (h : Traced crypto vault libs network run card capsule trace result)
    (hinjective : Function.Injective vault.frost.verifyingShareOf)
    (hencodes : vault.frost.EncodesPackages)
    (hdeposited : Deposited crypto vault libs capsule publicPackage dek payload secret) :
    trace.dek = dek ∨
      PackagesCollide crypto vault.frost publicPackage trace.descriptor.dpssPublicPackage := by
  obtain ⟨published, threshold, dealt, hpublished, hsharing⟩ := hdeposited.shared
  have hcommitted := h.descriptor_committed
  obtain ⟨package, _, hpackage, -, -⟩ := frostPublicPackageDigest_eq_ok hcommitted
  rcases samePackage_or_collide hencodes hdeposited.committed hcommitted hpublished hpackage with
    hsame | hcollide
  · left
    have hdealt : ∀ share ∈ (trace.opened.map (·.share)).map (·.encodedShare), ∀ keyPackage,
        decodeShare vault.frost share = .ok keyPackage → keyPackage ∈ dealt := by
      intro share hshare keyPackage hdecode
      obtain ⟨_, hepoch, rfl⟩ := List.mem_map.mp hshare
      obtain ⟨opened, hopened, rfl⟩ := List.mem_map.mp hepoch
      obtain ⟨-, participant, hverified⟩ := h.verified hopened
      obtain ⟨_, _, hdecode', hpackage', hkey, hmin, hverifying, -⟩ := frostVerifyShare_eq_ok hverified
      cases hdecode'.symm.trans hdecode
      cases hpackage'.symm.trans hpackage
      obtain ⟨-, -, hsigning⟩ := decodeShare_eq_ok.mp hdecode
      refine hsharing.mem_dealt hinjective hsigning ?_ ?_ ?_
      · rw [hkey, hsame.verifyingKey]
      · rw [hsame.minSigners, hmin]
      · rw [hsame.verifyingShares, hverifying]
    have hrecovered := h.dek
    rw [frostRecoverDekForEpoch, bind_unit_eq_ok] at hrecovered
    exact hsharing.frostRecoverDek_eq hdealt hrecovered.2
  · exact Or.inr hcollide

/-- What a recovery can return: the secret, or what a payload that was never sealed opens to under
the key, or what follows two packages with one digest. -/
inductive RecoveryReturns (crypto : Crypto) (vault : Vault) (capsule : ConfigCapsuleV3)
    (publicPackage dek : Bytes) (payload : AeadCiphertext) (secret : Bytes) (trace : RecoveryTrace)
    (returned : Bytes) : Prop
  | secret (hdek : trace.dek = dek) (hpayload : trace.payload = payload) (heq : returned = secret)
  | forged (hdek : trace.dek = dek) (hpayload : trace.payload ≠ payload)
    (hopens : ∃ context, payloadContextV3 capsule.configRef.configId
      capsule.configRef.payloadGeneration = .ok context ∧
        vault.aeadDecrypt dek trace.payload context = .ok returned)
  | collision (h : PackagesCollide crypto vault.frost publicPackage
      trace.descriptor.dpssPublicPackage)

/-- Whatever the parties answer, a recovery that succeeds returns the secret, unless the payload it
opened was forged under the key or two packages have one digest. -/
theorem Traced.returns {trace : RecoveryTrace} {result : NetworkDemoResult}
    {publicPackage secret : Bytes} {payload : AeadCiphertext}
    (hinjective : Function.Injective vault.frost.verifyingShareOf)
    (hencodes : vault.frost.EncodesPackages)
    (hdeposited : Deposited crypto vault libs capsule publicPackage dek payload secret)
    (h : Traced crypto vault libs network run card capsule trace result) :
    RecoveryReturns crypto vault capsule publicPackage dek payload secret trace
      result.recoveredSecret := by
  obtain ⟨context, hcontext, hopens⟩ := h.opens
  rcases h.dek_eq hinjective hencodes hdeposited with hdek | hcollide
  · rw [hdek] at hopens
    by_cases hpayload : trace.payload = payload
    · rw [hpayload, hdeposited.opens context hcontext, Except.ok.injEq] at hopens
      exact .secret hdek hpayload hopens.symm
    · exact .forged hdek hpayload ⟨context, hcontext, hopens⟩
  · exact .collision hcollide

end MasterRecovery
