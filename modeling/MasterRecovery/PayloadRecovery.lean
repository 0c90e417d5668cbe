import MasterRecovery.RecoveryIntegrity
import MasterRecovery.SetupProvisions

/-!
# The payload of a setup (gp-crypto/src/rotation.rs, gp-network/src/client.rs)

The payload key is dealt to the guardians and the ciphertext is cut into fragments, one of each for
each guardian. The shares and fragments of any guardians that reach the threshold open it.
-/

namespace MasterRecovery
open Checks Transcript Wire Mapped

variable {crypto : Crypto} {vault : Vault} {libs : ClientLibs} {options : SetupV3Options}
  {draws : SetupDraws} {frost : Frost} {dealer : FrostDealer} {published : PublicKeyPackage}
  {threshold total : UInt16} {dealt : List KeyPackage} {dek : Bytes} {seed : Id32}
  {out : FrostDealerOutput} {chosen : List ℕ} {configRef : ConfigRef}

/-! ### What a dealer deals -/

/-- Packages of the participants in order, with encodings that come back. -/
structure Dealt (frost : Frost) (dealer : FrostDealer) (published : PublicKeyPackage)
    (threshold : UInt16) (dealt : List KeyPackage) (dek : Bytes) : Prop where
  sharing : Sharing frost dealer published threshold dealt dek
  identifiers : ∀ (offset : ℕ) (package : KeyPackage), dealt[offset]? = some package →
    package.identifier = offset + 1
  decodes : ∀ package ∈ dealt, ∀ encoded, frost.serializeKeyPackage package = some encoded →
    frost.keyPackage encoded = some package
  publishes : ∀ encoded, frost.serializePublicKeyPackage published = some encoded →
    ∃ decoded, frost.publicKeyPackage encoded = some decoded ∧ SamePackage published decoded

def FrostDealer.Correct (frost : Frost) (dealer : FrostDealer) : Prop :=
  ∀ threshold total seed shares published packages, validateThreshold threshold total = .ok () →
    dealer.generateWithDealer total threshold seed = some (shares, published) →
      keyPackages dealer shares = .ok packages →
        ∃ dek, Dealt frost dealer published threshold packages dek

theorem keyPackages_length {shares : List Bytes} {packages : List KeyPackage}
    (h : keyPackages dealer shares = .ok packages) : packages.length = shares.length := by
  induction shares generalizing packages with
  | nil =>
    cases h
    rfl
  | cons share shares ih =>
    simp only [keyPackages, bind_eq_ok, Except.ok.injEq] at h
    obtain ⟨_, -, packages, hpackages, rfl⟩ := h
    rw [List.length_cons, List.length_cons, ih hpackages]

/-- The shares of a split and the packages they encode. -/
structure SharesDealt (frost : Frost) (dealer : FrostDealer) (threshold total : UInt16)
    (out : FrostDealerOutput) (published : PublicKeyPackage) (dealt : List KeyPackage) : Prop where
  package : Dealt frost dealer published threshold dealt out.dek
  length : dealt.length = total.toNat
  bound : 2 ≤ threshold.toNat ∧ threshold.toNat ≤ total.toNat ∧ total.toNat ≤ 32
  shares : dealt.mapM (encodeShare frost) = .ok out.shares
  publicPackage : encodePublic frost published = .ok out.publicPackage
  dek_length : out.dek.length = frostScalarLen

theorem validateThreshold_eq_ok {u : Unit} (h : validateThreshold threshold total = .ok u) :
    2 ≤ threshold.toNat ∧ threshold.toNat ≤ total.toNat ∧ total.toNat ≤ 32 := by
  simp only [validateThreshold, bailIf_eq_ok, not_or, UInt16.not_lt, UInt16.le_iff_toNat_le] at h
  exact ⟨h.1, h.2.1, h.2.2.2⟩

theorem Dealt.identifier_inj (h : Dealt frost dealer published threshold dealt dek)
    {left right : ℕ} {package package' : KeyPackage} (hleft : dealt[left]? = some package)
    (hright : dealt[right]? = some package') (hsame : package.identifier = package'.identifier) :
    left = right := by
  rw [h.identifiers left package hleft, h.identifiers right package' hright] at hsame
  omega

theorem Dealt.nodup (h : Dealt frost dealer published threshold dealt dek) : dealt.Nodup := by
  rw [List.nodup_iff_getElem?_ne_getElem?]
  intro i j hlt hj heq
  have hright := List.getElem?_eq_getElem hj
  exact absurd (h.identifier_inj (heq.trans hright) hright rfl) hlt.ne

theorem frostDealerSplit_eq_ok (hcorrect : dealer.Correct frost)
    (h : frostDealerSplit frost dealer threshold total seed = .ok out) :
    ∃ published dealt, SharesDealt frost dealer threshold total out published dealt := by
  rw [frostDealerSplit, bind_unit_eq_ok] at h
  obtain ⟨hthreshold, h⟩ := h
  simp only [bind_eq_ok, bailIf_eq_ok, exists_const, okOr_eq_ok, not_not, Except.ok.injEq] at h
  obtain ⟨generated, hgenerated, hlength, packages, hpackages, shares, hshares, key, hkey, hkeyLength,
    publicPackage, hpublic, rfl⟩ := h
  obtain ⟨dek, hdealt⟩ := hcorrect _ _ _ _ _ _ hthreshold hgenerated hpackages
  have hbound := validateThreshold_eq_ok hthreshold
  have hcount : packages.length = total.toNat := (keyPackages_length hpackages).trans hlength
  have henough : threshold.toNat ≤ (packages.take threshold.toNat).length := by
    rw [List.length_take, hcount, Nat.min_eq_left hbound.2.1]
  have hdek : key = dek := by
    rw [hdealt.sharing.reconstructs _ (fun package hmem => List.mem_of_mem_take hmem)
      (hdealt.nodup.sublist (List.take_sublist ..)) henough, Option.some.injEq] at hkey
    exact hkey.symm
  subst hdek
  exact ⟨generated.2, packages, hdealt, hcount, hbound, hshares, hpublic, hkeyLength⟩

/-! ### Shares of chosen participants -/

/-- The share at a place decodes to the package there and stands on the public package. -/
theorem SharesDealt.share {offset : ℕ}
    (h : SharesDealt frost dealer threshold total out published dealt)
    (hoffset : offset < total.toNat) :
    ∃ package share, dealt[offset]? = some package ∧ out.shares[offset]? = some share ∧
      decodeShare frost share = .ok package ∧
        frostVerifyShare frost share out.publicPackage = .ok (idAt offset) := by
  obtain ⟨package, hpackage⟩ : ∃ package, dealt[offset]? = some package :=
    ⟨_, List.getElem?_eq_getElem (h.length ▸ hoffset)⟩
  obtain ⟨share, hshare, hencoded⟩ := getElem?_of_item h.shares hpackage
  have hmem := List.mem_of_getElem? hpackage
  obtain ⟨hmin, hkey, hverifying, hlisted⟩ := h.package.sharing.listed package hmem
  have hdecode : decodeShare frost share = .ok package := by
    simp only [encodeShare, bind_eq_ok, okOr_eq_ok, Except.ok.injEq] at hencoded
    obtain ⟨encoded, hserialized, _, hbounded, rfl⟩ := hencoded
    exact decodeShare_eq_ok.mpr ⟨hbounded, h.package.decodes package hmem encoded hserialized,
      hverifying⟩
  refine ⟨package, share, hpackage, hshare, hdecode, ?_⟩
  have hpublic := h.publicPackage
  simp only [encodePublic, bind_eq_ok, okOr_eq_ok, Except.ok.injEq] at hpublic
  obtain ⟨encoded, hserialized, _, hbounded, hencodedEq⟩ := hpublic
  rw [hencodedEq] at hserialized hbounded
  obtain ⟨decoded, hdecoded, hsame⟩ := h.package.publishes _ hserialized
  have hidentifier := h.package.identifiers offset package hpackage
  have hmax : frostMaxParticipants.toNat = 32 := rfl
  have hbound := h.bound.2.2
  have hrange : ¬(offset + 1 = 0 ∨ frostMaxParticipants.toNat < offset + 1) := by omega
  simp only [frostVerifyShare, decodePublic, numericIdentifier, bind_eq_ok, bailIf_eq_ok,
    exists_const, okOr_eq_ok, Except.ok.injEq]
  refine ⟨package, hdecode, decoded, ⟨(), hbounded, hdecoded⟩, ?_, ?_, ?_⟩
  · simp only [not_or, ne_eq, not_not]
    refine ⟨hkey.trans hsame.verifyingKey, ?_, ?_⟩
    · rw [← hsame.minSigners, h.package.sharing.minSigners, hmin]
    · rw [← hsame.verifyingShares, hlisted]
  · rw [hidentifier]
    exact hrange
  · rw [hidentifier]
    rfl

/-- Shares of distinct participants decode one after the other. -/
theorem decodePackages_dealt (identifiers : Finset ℕ) (verifyingKey : Option Bytes)
    (packages : List KeyPackage) {shares : List Bytes} {decoded : List KeyPackage}
    (hsharing : Sharing frost dealer published threshold dealt dek)
    (hdecode : List.Forall₂ (fun share package => decodeShare frost share = .ok package) shares
      decoded)
    (hdealt : ∀ package ∈ decoded, package ∈ dealt)
    (hnodup : (decoded.map (·.identifier)).Nodup)
    (hfresh : ∀ package ∈ decoded, package.identifier ∉ identifiers)
    (hkey : ∀ key ∈ verifyingKey, key = published.verifyingKey) :
    decodePackages frost threshold identifiers verifyingKey packages shares =
      .ok (packages ++ decoded) := by
  induction hdecode generalizing identifiers verifyingKey packages with
  | nil => rw [decodePackages, List.append_nil]
  | @cons share package shares decoded hshare _ ih =>
    obtain ⟨hmin, hpackageKey, -, -⟩ :=
      hsharing.listed package (hdealt package (List.mem_cons_self ..))
    have hfirst := hfresh package (List.mem_cons_self ..)
    rw [List.map_cons, List.nodup_cons] at hnodup
    have hrest := ih (insert package.identifier identifiers) (some package.verifyingKey)
      (packages ++ [package]) (fun other hother => hdealt other (List.mem_cons_of_mem _ hother))
      hnodup.2 ?_ ?_
    · simp only [decodePackages, bind_eq_ok, bailIf_eq_ok, exists_const]
      refine ⟨package, hshare, ?_, ?_⟩
      · rintro (hother | hknown | ⟨key, hmem, hother⟩)
        · exact hother hmin
        · exact hfirst hknown
        · exact hother ((hkey key hmem).trans hpackageKey.symm)
      · rw [hrest, List.append_assoc, List.singleton_append]
    · intro other hother hmem
      rcases Finset.mem_insert.mp hmem with hsame | hknown
      · exact hnodup.1 (hsame ▸ List.mem_map_of_mem hother)
      · exact hfresh other (List.mem_cons_of_mem _ hother) hknown
    · intro key hmem
      rw [← Option.mem_some_iff.mp hmem, hpackageKey]

/-- The share at a place of a split, for an epoch. -/
def epochShare (configRef : ConfigRef) (out : FrostDealerOutput) (offset : ℕ) : EpochFrostShare :=
  ⟨configRef, out.shares.getD offset []⟩

/-- Places of a split that reach the threshold. -/
structure Places (threshold total : UInt16) (chosen : List ℕ) : Prop where
  distinct : chosen.Nodup
  inRange : ∀ offset ∈ chosen, offset < total.toNat
  enough : threshold.toNat ≤ chosen.length

/-- The shares of any places give the key that was dealt. -/
theorem SharesDealt.recover (configRef : ConfigRef)
    (h : SharesDealt frost dealer threshold total out published dealt)
    (hchosen : Places threshold total chosen) :
    frostRecoverDekForEpoch frost dealer (chosen.map (epochShare configRef out)) configRef threshold =
      .ok out.dek := by
  have hfound : ∀ offset ∈ chosen, ∃ package, okOr dealt[offset]? () = .ok package := by
    intro offset hmem
    obtain ⟨package, _, hpackage, -⟩ := h.share (hchosen.inRange offset hmem)
    exact ⟨package, okOr_eq_ok.mpr hpackage⟩
  obtain ⟨packages, hpackages⟩ := exists_mapM hfound
  have hplaced : List.Forall₂ (fun offset package => dealt[offset]? = some package) chosen packages :=
    (mapM_eq_ok.mp hpackages).imp fun _ _ hpackage => okOr_eq_ok.mp hpackage
  have hdecode : List.Forall₂ (fun share package => decodeShare frost share = .ok package)
      (chosen.map fun offset => out.shares.getD offset []) packages := by
    refine List.forall₂_map_left_iff.mpr (hplaced.imp fun offset package hpackage => ?_)
    have hlt : offset < total.toNat := by
      rw [← h.length]
      exact (List.getElem?_eq_some_iff.mp hpackage).1
    obtain ⟨own, share, hown, hshare, hdecode, -⟩ := h.share hlt
    rw [hpackage, Option.some.injEq] at hown
    rw [List.getD_eq_getElem?_getD, hshare, Option.getD_some, hown]
    exact hdecode
  have hidentifiers : packages.map (·.identifier) = chosen.map (· + 1) := by
    have hsame : List.Forall₂ Eq (chosen.map (· + 1)) (packages.map (·.identifier)) := by
      rw [List.forall₂_map_left_iff, List.forall₂_map_right_iff]
      exact hplaced.imp fun offset package hpackage =>
        (h.package.identifiers offset package hpackage).symm
    rw [List.forall₂_eq_eq_eq] at hsame
    exact hsame.symm
  have hnodup : (packages.map (·.identifier)).Nodup := by
    rw [hidentifiers]
    exact hchosen.distinct.map fun _ _ hsame => by omega
  have hdealt : ∀ package ∈ packages, package ∈ dealt := by
    intro package hmem
    obtain ⟨i, hi⟩ := List.getElem?_of_mem hmem
    obtain ⟨offset, -, hpackage⟩ := getElem?_of_result hpackages hi
    exact List.mem_of_getElem? (okOr_eq_ok.mp hpackage)
  have hcount : threshold.toNat ≤ packages.length := by
    rw [length_eq hpackages]
    exact hchosen.enough
  have hrecovered := decodePackages_dealt ∅ none [] h.package.sharing hdecode hdealt hnodup
    (by simp) (by simp)
  have hreconstructed := h.package.sharing.reconstructs packages hdealt hnodup.of_map hcount
  have hshares : (chosen.map (epochShare configRef out)).map (·.encodedShare) =
      chosen.map fun offset => out.shares.getD offset [] := by
    rw [List.map_map]
    rfl
  have htwo : ¬(threshold < 2 ∨ (chosen.map fun offset => out.shares.getD offset []).length <
      threshold.toNat) := by
    rw [not_or, UInt16.not_lt, UInt16.le_iff_toNat_le, List.length_map, not_lt]
    exact ⟨h.bound.1, hchosen.enough⟩
  simp only [frostRecoverDekForEpoch, frostRecoverDek, hshares, bind_eq_ok, bailIf_eq_ok,
    exists_const, okOr_eq_ok, Except.ok.injEq]
  refine ⟨?_, htwo, packages, hrecovered, out.dek, hreconstructed, not_not.mpr h.dek_length, rfl⟩
  rintro ⟨share, hmem, hother⟩
  obtain ⟨_, -, rfl⟩ := List.mem_map.mp hmem
  exact hother rfl

/-! ### The payload -/

/-- What the AEAD seals opens again. -/
def Vault.AeadCorrect (vault : Vault) : Prop :=
  ∀ key nonce plaintext context sealedText,
    vault.aeadEncrypt key nonce plaintext context = .ok sealedText →
      vault.aeadDecrypt key sealedText context = .ok plaintext

/-- A ciphertext of the plaintext has a length that is a machine word. -/
def Vault.Fits (vault : Vault) (plaintext : Bytes) : Prop :=
  ∀ key nonce context sealedText, vault.aeadEncrypt key nonce plaintext context = .ok sealedText →
    sealedText.ciphertext.length < 2 ^ 64

/-- The share and the fragment of a place, as a recovery opens them. -/
def dealtContribution (configRef : ConfigRef) (payload : SetupPayload) (offset : ℕ) :
    OpenedContribution :=
  ⟨epochShare configRef payload.frost offset, idAt offset, payload.fragments.getD offset []⟩

theorem positionOf_idAt {offset : ℕ} (h : offset + 1 < 2 ^ 16) :
    positionOf (idAt offset) = offset := by
  rw [positionOf, idAt_toNat h, Nat.add_sub_cancel]

theorem Places.inBounds (h : Places threshold total chosen) {offset : ℕ} (hmem : offset ∈ chosen) :
    offset + 1 < 2 ^ 16 := by
  have hlt := h.inRange offset hmem
  have hbound := total.toNat_lt
  omega

/-- The fragments of the places are picked from the code. -/
theorem Places.picked (h : Places threshold total chosen) (code : List Bytes) :
    pick code (chosen.map idAt) = chosen.map fun offset => (idAt offset, code.getD offset []) := by
  rw [pick, List.map_map]
  refine List.map_congr_left fun offset hmem => ?_
  rw [Function.comp_apply, positionOf_idAt (h.inBounds hmem), List.getD_eq_getElem?_getD]

theorem Places.indices (h : Places threshold total chosen) :
    Chosen threshold total (chosen.map idAt) where
  distinct := by
    refine h.distinct.map_on fun left hleft right hright hsame => ?_
    have hsameNat := congrArg UInt16.toNat hsame
    rw [idAt_toNat (h.inBounds hleft), idAt_toNat (h.inBounds hright)] at hsameNat
    omega
  inRange index hindex := by
    obtain ⟨offset, hmem, rfl⟩ := List.mem_map.mp hindex
    have hlt := h.inRange offset hmem
    rw [idAt_toNat (h.inBounds hmem)]
    omega
  enough := by
    rw [List.length_map]
    exact h.enough

/-- What a setup makes of its secret. -/
structure PayloadSealed (crypto : Crypto) (vault : Vault) (libs : ClientLibs)
    (options : SetupV3Options) (draws : SetupDraws) (guardianCount : UInt16)
    (payload : SetupPayload) : Prop where
  frost : frostDealerSplit vault.frost libs.dealer options.guardianThreshold guardianCount
    draws.frostSeed = .ok payload.frost
  ciphertext : ∃ context, payloadContextV3 draws.configId 1 = .ok context ∧
    vault.aeadEncrypt payload.frost.dek draws.payloadNonce options.secret context =
      .ok payload.ciphertext
  fragments : erasureEncode libs.coder payload.ciphertext.ciphertext options.guardianThreshold
    guardianCount = .ok payload.fragments
  commitment : frostPublicPackageDigest crypto vault.frost payload.frost.publicPackage =
    .ok payload.dpssPublicCommitment

theorem setupPayload_eq_ok {payload : SetupPayload} {guardianCount : UInt16}
    (h : setupPayload crypto vault libs options draws guardianCount = .ok payload) :
    PayloadSealed crypto vault libs options draws guardianCount payload := by
  simp only [setupPayload, bind_eq_ok, crypt_eq_ok, wire_eq_ok, Except.ok.injEq] at h
  obtain ⟨frost, hfrost, context, hcontext, ciphertext, hciphertext, fragments, hfragments, tree, -,
    commitment, hcommitment, rfl⟩ := h
  exact ⟨hfrost, ⟨context, hcontext, hciphertext⟩, hfragments, hcommitment⟩

/-- The contributions of any places open the payload. -/
theorem PayloadSealed.opens {payload : SetupPayload} {capsule : ConfigCapsuleV3}
    {descriptor : RecoveryDescriptorV3} {guardianCount : UInt16} (haead : vault.AeadCorrect)
    (hfits : vault.Fits options.secret) (hmds : libs.coder.Mds)
    (hdealer : libs.dealer.Correct vault.frost)
    (h : PayloadSealed crypto vault libs options draws guardianCount payload)
    (hconfig : capsule.configRef = draws.configRef)
    (hthreshold : capsule.guardianThreshold = options.guardianThreshold)
    (hdata : descriptor.dataShards = options.guardianThreshold)
    (htotal : descriptor.totalShards = guardianCount)
    (hlength : descriptor.ciphertextLen = UInt64.ofNat payload.ciphertext.ciphertext.length)
    (hnonce : descriptor.payloadNonce = payload.ciphertext.nonce)
    (hchosen : Places options.guardianThreshold guardianCount chosen) :
    openPayload vault libs capsule descriptor
      (chosen.map (dealtContribution capsule.configRef payload)) = .ok options.secret := by
  obtain ⟨context, hcontext, hsealed⟩ := h.ciphertext
  obtain ⟨published, dealt, hdealt⟩ := frostDealerSplit_eq_ok hdealer h.frost
  have hdek := hdealt.recover capsule.configRef hchosen
  have hshares : (chosen.map (dealtContribution capsule.configRef payload)).map (·.share) =
      chosen.map (epochShare capsule.configRef payload.frost) := by
    rw [List.map_map]
    rfl
  have hfragments : (chosen.map (dealtContribution capsule.configRef payload)).map (·.fragment) =
      pick payload.fragments (chosen.map idAt) := by
    rw [hchosen.picked, List.map_map]
    rfl
  have hwords : descriptor.ciphertextLen.toNat = payload.ciphertext.ciphertext.length := by
    rw [hlength, UInt64.toNat_ofNat']
    exact Nat.mod_eq_of_lt (hfits _ _ _ _ hsealed)
  have hciphertext := erasureReconstruct_pick hmds h.fragments hchosen.indices
  have hopens := haead _ _ _ _ _ hsealed
  simp only [openPayload, bind_eq_ok, crypt_eq_ok, wire_eq_ok]
  refine ⟨payload.frost.dek, ?_, payload.ciphertext.ciphertext, ?_, context, ?_, ?_⟩
  · rw [hshares, hthreshold]
    exact hdek
  · rw [hfragments, hdata, htotal, hwords]
    exact hciphertext
  · rw [hconfig]
    exact hcontext
  · rw [hnonce]
    exact hopens

theorem Sharing.of_same {published' : PublicKeyPackage} (hsame : SamePackage published published')
    (h : Sharing frost dealer published threshold dealt dek) :
    Sharing frost dealer published' threshold dealt dek where
  minSigners := hsame.minSigners.symm.trans h.minSigners
  listed package hmem := by
    obtain ⟨hmin, hkey, hverifying, hlisted⟩ := h.listed package hmem
    rw [hsame.verifyingKey] at hkey
    rw [hsame.verifyingShares] at hlisted
    exact ⟨hmin, hkey, hverifying, hlisted⟩
  covers identifier verifyingShare hget :=
    h.covers identifier verifyingShare ((hsame.verifyingShares identifier).trans hget)
  reconstructs := h.reconstructs

/-- The capsule of a setup stands for the secret. -/
theorem PayloadSealed.deposited {payload : SetupPayload} {capsule : ConfigCapsuleV3}
    {guardianCount : UInt16} (haead : vault.AeadCorrect) (hdealer : libs.dealer.Correct vault.frost)
    (h : PayloadSealed crypto vault libs options draws guardianCount payload)
    (hconfig : capsule.configRef = draws.configRef)
    (hcommitment : capsule.dpssPublicCommitment = payload.dpssPublicCommitment) :
    Deposited crypto vault libs capsule payload.frost.publicPackage payload.frost.dek
      payload.ciphertext options.secret := by
  obtain ⟨published, dealt, hdealt⟩ := frostDealerSplit_eq_ok hdealer h.frost
  have hpublic := hdealt.publicPackage
  simp only [encodePublic, bind_eq_ok, okOr_eq_ok, Except.ok.injEq] at hpublic
  obtain ⟨encoded, hserialized, _, hbounded, hencoded⟩ := hpublic
  rw [hencoded] at hserialized hbounded
  obtain ⟨decoded, hdecoded, hsame⟩ := hdealt.package.publishes _ hserialized
  refine ⟨?_, ⟨decoded, options.guardianThreshold, dealt, ?_,
    hdealt.package.sharing.of_same hsame⟩, fun context hcontext => ?_⟩
  · rw [hcommitment]
    exact h.commitment
  · simp only [decodePublic, bind_eq_ok, okOr_eq_ok]
    exact ⟨(), hbounded, hdecoded⟩
  · obtain ⟨own, hown, hsealed⟩ := h.ciphertext
    rw [hconfig] at hcontext
    cases hown.symm.trans hcontext
    exact haead _ _ _ _ _ hsealed

/-! ### Stand-ins on which a recovery can be evaluated -/

theorem numberOf_beBytes (width value : ℕ) : numberOf (beBytes width value) = value % 256 ^ width := by
  have hfold : ∀ (width value before : ℕ),
      (beBytes width value).foldl (fun n digit => n * 256 + digit.toNat) before =
        before * 256 ^ width + value % 256 ^ width := by
    intro width value
    induction width with
    | zero => simp [beBytes, Nat.mod_one]
    | succ width ih =>
      intro before
      have hdigit : (UInt8.ofNat (value / 256 ^ width)).toNat = value / 256 ^ width % 256 := by simp
      rw [beBytes, List.foldl_cons, ih, hdigit, Nat.mod_pow_succ (x := value) (b := 256)]
      ring
  rw [numberOf, hfold, Nat.zero_mul, Nat.zero_add]

theorem numberOf_beBytes_of_lt {width value : ℕ} (h : value < 256 ^ width) :
    numberOf (beBytes width value) = value := by
  rw [numberOf_beBytes, Nat.mod_eq_of_lt h]

theorem Frost.transparent_keyPackage {package : KeyPackage} {encoded : Bytes}
    (hidentifier : package.identifier < 2 ^ 16)
    (h : Frost.transparent.serializeKeyPackage package = some encoded) :
    Frost.transparent.keyPackage encoded = some package := by
  cases h
  have hmin : UInt16.ofNat (numberOf (beBytes 2 package.minSigners.toNat)) = package.minSigners := by
    rw [numberOf_beBytes_of_lt (by simpa using package.minSigners.toNat_lt)]
    exact UInt16.ofNat_toNat
  simp only [transparent, unpackFields_packFields, hmin,
    numberOf_beBytes_of_lt (show package.identifier < 256 ^ 2 by simpa using hidentifier)]

/-- The package of a participant. -/
def transparentPackage (threshold : UInt16) (seed : Id32) (participant : ℕ) : KeyPackage :=
  ⟨participant, threshold, beBytes 2 participant, beBytes 2 participant, beBytes 1 seed.toNat⟩

theorem keyPackages_transparent {participants : List ℕ} (h : ∀ p ∈ participants, p < 2 ^ 16) :
    keyPackages .transparent (participants.map fun participant =>
        packFields [beBytes 2 participant, beBytes 2 threshold.toNat, beBytes 2 participant,
          beBytes 2 participant, beBytes 1 seed.toNat]) =
      .ok (participants.map (transparentPackage threshold seed)) := by
  induction participants with
  | nil => rfl
  | cons participant participants ih =>
    rw [List.forall_mem_cons] at h
    have hpackage : Frost.transparent.keyPackage (packFields [beBytes 2 participant,
        beBytes 2 threshold.toNat, beBytes 2 participant, beBytes 2 participant, beBytes 1 seed.toNat]) =
          some (transparentPackage threshold seed participant) :=
      Frost.transparent_keyPackage h.1 rfl
    simp only [List.map_cons, keyPackages, bind_eq_ok, okOr_eq_ok, Except.ok.injEq]
    exact ⟨_, hpackage, _, ih h.2, rfl⟩

/-- The shares of a list of participants, by participant. -/
def transparentShares (participants : List ℕ) : Std.TreeMap ℕ Bytes :=
  .ofList (participants.map fun participant => (participant, beBytes 2 participant))

theorem transparentShares_values {n : ℕ} :
    (transparentShares (List.range' 1 n)).values = (List.range' 1 n).map (beBytes 2) := by
  have hincreasing : ((List.range' 1 n).map fun participant =>
      (participant, beBytes 2 participant)).Pairwise fun a b => compare a.1 b.1 = .lt := by
    rw [List.pairwise_map]
    refine (List.pairwise_lt_range' 1).imp fun hlt => ?_
    rw [Std.compare_eq_lt]
    exact hlt
  rw [values_eq_map_snd, transparentShares, Keyed.toList_of_increasing hincreasing, List.map_map]
  rfl

/-- The stand-in deals as a dealer is to. -/
theorem FrostDealer.transparent_correct : FrostDealer.transparent.Correct .transparent := by
  intro threshold total seed shares published packages hthreshold hgenerated hpackages
  obtain ⟨htwo, -, hbound⟩ := validateThreshold_eq_ok hthreshold
  cases hgenerated
  have hsmall : ∀ participant ∈ List.range' 1 total.toNat, participant < 2 ^ 16 := by
    intro participant hmem
    rw [List.mem_range'_1] at hmem
    omega
  rw [keyPackages_transparent hsmall, Except.ok.injEq] at hpackages
  subst hpackages
  have hdistinct : ((List.range' 1 total.toNat).map id).Nodup := by
    rw [List.map_id]
    exact List.nodup_range' ..
  have hfound : ∀ participant ∈ List.range' 1 total.toNat,
      (transparentShares (List.range' 1 total.toNat))[participant]? =
        some (beBytes 2 participant) := fun participant hmem =>
    Keyed.getElem?_of_mem hdistinct (beBytes 2) hmem
  refine ⟨List.replicate 31 0 ++ beBytes 1 seed.toNat, ⟨⟨rfl, ?_, ?_, ?_⟩, ?_, ?_, ?_⟩⟩
  · intro package hpackage
    obtain ⟨participant, hmem, rfl⟩ := List.mem_map.mp hpackage
    exact ⟨rfl, rfl, rfl, hfound participant hmem⟩
  · intro identifier verifyingShare hget
    have hmem : identifier ∈ transparentShares (List.range' 1 total.toNat) := by
      rw [Std.TreeMap.mem_iff_isSome_getElem?]
      exact Option.isSome_iff_exists.mpr ⟨verifyingShare, hget⟩
    have hlisted : ∃ participant ∈ List.range' 1 total.toNat, id participant = identifier :=
      (Keyed.mem_iff (beBytes 2)).mp hmem
    obtain ⟨participant, hparticipant, rfl⟩ := hlisted
    exact ⟨_, List.mem_map_of_mem hparticipant, rfl⟩
  · intro chosen hchosen _ henough
    cases chosen with
    | nil =>
      rw [List.length_nil] at henough
      omega
    | cons package chosen =>
      obtain ⟨participant, -, rfl⟩ := List.mem_map.mp (hchosen package (List.mem_cons_self ..))
      rfl
  · intro offset package hpackage
    rw [List.getElem?_map, Option.map_eq_some_iff] at hpackage
    obtain ⟨participant, hparticipant, rfl⟩ := hpackage
    obtain ⟨hlt, rfl⟩ := List.getElem?_eq_some_iff.mp hparticipant
    rw [List.getElem_range']
    change 1 + 1 * offset = offset + 1
    omega
  · intro package hpackage encoded hencoded
    obtain ⟨participant, hmem, rfl⟩ := List.mem_map.mp hpackage
    exact Frost.transparent_keyPackage (hsmall participant hmem) hencoded
  · intro encoded hencoded
    cases hencoded
    have hvalues := transparentShares_values (n := total.toNat)
    have hmin : UInt16.ofNat (numberOf (beBytes 2 threshold.toNat)) = threshold := by
      rw [numberOf_beBytes_of_lt (by simpa using threshold.toNat_lt)]
      exact UInt16.ofNat_toNat
    have hentries : ((List.range' 1 total.toNat).map (beBytes 2)).map
        (fun identifier => (numberOf identifier, identifier)) =
          (List.range' 1 total.toNat).map fun participant => (participant, beBytes 2 participant) := by
      rw [List.map_map]
      refine List.map_congr_left fun participant hmem => ?_
      rw [Function.comp_apply, numberOf_beBytes_of_lt (by simpa using hsmall participant hmem)]
    refine ⟨⟨transparentShares (List.range' 1 total.toNat), beBytes 1 seed.toNat, some threshold⟩, ?_,
      fun _ => rfl, rfl, rfl⟩
    change Frost.transparent.publicKeyPackage (packFields (beBytes 1 seed.toNat ::
      beBytes 2 threshold.toNat :: (transparentShares (List.range' 1 total.toNat)).values)) = _
    simp only [Frost.transparent, unpackFields_packFields, hvalues, hmin, hentries]
    rfl

theorem packFields_injective {fields fields' : List Bytes}
    (h : packFields fields = packFields fields') : fields = fields' := by
  rw [← unpackFields_packFields fields, h, unpackFields_packFields]

/-- A decoded package has each share under the number it is. -/
theorem transparent_numbered {entries : List Bytes} {identifier : ℕ} {share : Bytes}
    (h : (Std.TreeMap.ofList (entries.map fun identifier =>
      (numberOf identifier, identifier)))[identifier]? = some share) :
    numberOf share = identifier := by
  obtain ⟨_, -, heq⟩ := List.mem_map.mp (Keyed.mem_of_getElem?_ofList h)
  cases heq
  rfl

/-- Tables whose keys are made of their values are known from the values. -/
theorem getElem?_eq_of_values {table table' : Std.TreeMap ℕ Bytes}
    (h : ∀ (identifier : ℕ) (share : Bytes), table[identifier]? = some share →
      numberOf share = identifier)
    (h' : ∀ (identifier : ℕ) (share : Bytes), table'[identifier]? = some share →
      numberOf share = identifier)
    (hvalues : table.values = table'.values) (identifier : ℕ) :
    table[identifier]? = table'[identifier]? := by
  have hmem : ∀ (table table' : Std.TreeMap ℕ Bytes), (∀ (identifier : ℕ) (share : Bytes),
      table[identifier]? = some share → numberOf share = identifier) →
      (∀ (identifier : ℕ) (share : Bytes), table'[identifier]? = some share →
        numberOf share = identifier) → table.values = table'.values →
        ∀ share, table[identifier]? = some share → table'[identifier]? = some share := by
    intro table table' h h' hvalues share hget
    have hvalue : share ∈ table'.values := by
      rw [← hvalues, mem_values_iff]
      exact ⟨identifier, hget⟩
    obtain ⟨other, hother⟩ := mem_values_iff.mp hvalue
    rw [← h identifier share hget, h' other share hother]
    exact hother
  refine Option.ext fun share => ⟨hmem _ _ h h' hvalues share, hmem _ _ h' h hvalues.symm share⟩

theorem Frost.transparent_encodesPackages : Frost.transparent.EncodesPackages := by
  have hdecoded : ∀ encoded package, Frost.transparent.publicKeyPackage encoded = some package →
      (∀ (identifier : ℕ) (share : Bytes), package.verifyingShares[identifier]? = some share →
        numberOf share = identifier) ∧ ∃ threshold, package.minSigners = some threshold := by
    intro encoded package hpackage
    simp only [Frost.transparent] at hpackage
    split at hpackage
    · cases hpackage
      exact ⟨fun _ _ => transparent_numbered, _, rfl⟩
    · cases hpackage
  intro left right package package' encoded hleft hright hencoded hencoded'
  obtain ⟨hnumbered, threshold, hthreshold⟩ := hdecoded left package hleft
  obtain ⟨hnumbered', threshold', hthreshold'⟩ := hdecoded right package' hright
  cases hencoded
  simp only [Frost.transparent, Option.some.injEq] at hencoded'
  have hfields := packFields_injective hencoded'
  simp only [List.cons.injEq] at hfields
  obtain ⟨hkey, hmin, hvalues⟩ := hfields
  refine ⟨getElem?_eq_of_values hnumbered hnumbered' hvalues.symm, hkey.symm, ?_⟩
  rw [hthreshold, hthreshold'] at hmin ⊢
  have hsame := beBytes_inj (by simpa using threshold'.toNat_lt) (by simpa using threshold.toNat_lt)
    hmin
  rw [UInt16.toNat_inj.mp hsame]

theorem shortMark_length (key associatedData : Bytes) : (shortMark key associatedData).length = 4 :=
  beBytes_length ..

theorem sampleVault_decrypts (key plaintext context : Bytes) (nonce : BitVec 192) :
    sampleVault.aeadDecrypt key ⟨nonce, shortMark key context ++ plaintext⟩ context =
      .ok plaintext := by
  simp only [sampleVault, bind_eq_ok, bailIf_eq_ok, exists_const, not_not, Except.ok.injEq]
  have hlength := shortMark_length key context
  exact ⟨List.take_left' hlength, List.drop_left' hlength⟩

theorem sampleVault_aeadCorrect : sampleVault.AeadCorrect := by
  intro key nonce plaintext context sealedText h
  cases h
  exact sampleVault_decrypts key plaintext context nonce

theorem sampleVault_fits {plaintext : Bytes} (h : plaintext.length < 2 ^ 63) :
    sampleVault.Fits plaintext := by
  intro key nonce context sealedText hsealed
  cases hsealed
  rw [List.length_append, shortMark_length]
  omega

theorem xor_xor_self {first second : Bytes} (h : first.length = second.length) :
    List.zipWith (· ^^^ ·) first (List.zipWith (· ^^^ ·) first second) = second := by
  induction first generalizing second with
  | nil =>
    cases second with
    | nil => rfl
    | cons byte second => cases h
  | cons byte first ih =>
    cases second with
    | nil => cases h
    | cons byte' second =>
      simp only [List.zipWith_cons_cons]
      rw [ih (by simpa using h), ← UInt8.xor_assoc, UInt8.xor_self, UInt8.zero_xor]

theorem zipWith_xor_comm (first second : Bytes) :
    List.zipWith (· ^^^ ·) first second = List.zipWith (· ^^^ ·) second first :=
  List.zipWith_comm_of_comm fun x y => UInt8.xor_comm x y

theorem ReedSolomon.parity_mds : ReedSolomon.parity.Mds where
  encodes dataShards checks width shards haccepts hlength hwidth huniform := by
    simp only [parity, Bool.and_eq_true, beq_iff_eq] at haccepts
    obtain ⟨rfl, rfl⟩ := haccepts
    obtain ⟨first, second, third, rfl⟩ := List.length_eq_three.mp hlength
    have hfirst := huniform first (by simp)
    have hsecond := huniform second (by simp)
    refine ⟨_, rfl, rfl, fun row hrow => ?_, rfl⟩
    simp only [List.mem_cons, List.not_mem_nil, or_false] at hrow
    rcases hrow with rfl | rfl | rfl
    · exact hfirst
    · exact hsecond
    · rw [List.length_zipWith, hfirst, hsecond, Nat.min_self]
  reconstructs dataShards checks width shards code damaged haccepts hlength hwidth huniform hencode
      hdamaged := by
    simp only [parity, Bool.and_eq_true, beq_iff_eq] at haccepts
    obtain ⟨rfl, rfl⟩ := haccepts
    obtain ⟨first, second, third, rfl⟩ := List.length_eq_three.mp hlength
    have hwidths : first.length = second.length :=
      (huniform first (by simp)).trans (huniform second (by simp)).symm
    cases hencode
    obtain ⟨⟨shard₀, found₀⟩, ⟨shard₁, found₁⟩, ⟨shard₂, found₂⟩, rfl⟩ :=
      List.length_eq_three.mp hdamaged.length
    have henough := hdamaged.enough
    have hpresent₀ : found₀ = true → shard₀ = first := by
      rintro rfl
      simpa using (hdamaged.present 0 shard₀ rfl).symm
    have hpresent₁ : found₁ = true → shard₁ = second := by
      rintro rfl
      simpa using (hdamaged.present 1 shard₁ rfl).symm
    have hpresent₂ : found₂ = true → shard₂ = List.zipWith (· ^^^ ·) first second := by
      rintro rfl
      simpa using (hdamaged.present 2 shard₂ rfl).symm
    cases found₀ <;> cases found₁ <;> cases found₂ <;>
      simp only [List.countP_cons, List.countP_nil, Bool.false_eq_true, if_false, if_true,
        forall_const, IsEmpty.forall_iff] at henough hpresent₀ hpresent₁ hpresent₂
    case false.true.true =>
      refine ⟨_, rfl, ?_⟩
      rw [hpresent₁, hpresent₂, zipWith_xor_comm first second]
      simp only [List.take_succ_cons, List.take_zero, List.map_cons, List.map_nil]
      rw [xor_xor_self hwidths.symm]
    case true.false.true =>
      refine ⟨_, rfl, ?_⟩
      rw [hpresent₀, hpresent₂]
      simp only [List.take_succ_cons, List.take_zero, List.map_cons, List.map_nil]
      rw [xor_xor_self hwidths]
    case true.true.false =>
      refine ⟨_, rfl, ?_⟩
      rw [hpresent₀, hpresent₁]
      rfl
    case true.true.true =>
      refine ⟨_, rfl, ?_⟩
      rw [hpresent₀, hpresent₁]
      rfl
    all_goals omega

end MasterRecovery
