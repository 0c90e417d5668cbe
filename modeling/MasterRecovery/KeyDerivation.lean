import MasterRecovery.GuardianCrypto

/-!
# Key derivation (gp-crypto/src/lib.rs)

Every wrapping key is an HKDF output under an info string: a domain, then fields of fixed width and
no lengths. Two functions never write strings of one length, so a string names the function as well
as its arguments.
-/

namespace MasterRecovery
open Checks Transcript

def domainBytes (domain : String) : Bytes := domain.toUTF8.data.toList

def configRefKdfInfo (domain : String) (configRef : ConfigRef) (actorIndex : Option UInt16) :
    Bytes :=
  domainBytes domain ++ (idBytes configRef.configId ++
    (beBytes 8 configRef.payloadGeneration.toNat ++ (beBytes 8 configRef.authorizationEpoch.toNat ++
    (beBytes 8 configRef.guardianEpoch.toNat ++ (idBytes configRef.epochBinding ++
    (actorIndex.map fun index => beBytes 2 index.toNat).getD [])))))

def guardianShareInfo (configId : Id32) (configVersion : UInt64) (guardianIndex : UInt16) : Bytes :=
  domainBytes "gp/guardian-dek-share/v1" ++ (idBytes configId ++
    (beBytes 8 configVersion.toNat ++ beBytes 2 guardianIndex.toNat))

def guardianShareInfoV3 (configRef : ConfigRef) (guardianIndex : UInt16) : Bytes :=
  configRefKdfInfo "gp/guardian-dek-share/v3" configRef (some guardianIndex)

def guardianFragmentInfoV3 (configRef : ConfigRef) (guardianIndex : UInt16) : Bytes :=
  configRefKdfInfo "gp/guardian-ciphertext-fragment/v3" configRef (some guardianIndex)

def descriptorInfo (configId : Id32) (configVersion : UInt64) : Bytes :=
  domainBytes "gp/recovery-descriptor/v1" ++ (idBytes configId ++ beBytes 8 configVersion.toNat)

def descriptorInfoV3 (configRef : ConfigRef) : Bytes :=
  configRefKdfInfo "gp/recovery-descriptor/v3" configRef none

def localJournalInfo (contextHash : Id32) : Bytes :=
  domainBytes "gp/local-rotation-journal/v3" ++ idBytes contextHash

section Keys

variable (vault : Vault) (authorizationKey : Id32)

def guardianShareKey (configId : Id32) (configVersion : UInt64) (guardianIndex : UInt16) :
    Except CryptoError Id32 :=
  hkdfSha256 vault (idBytes authorizationKey) (guardianShareInfo configId configVersion guardianIndex)

def guardianShareKeyV3 (configRef : ConfigRef) (guardianIndex : UInt16) :
    Except CryptoError Id32 := do
  bailIf (guardianIndex = 0 ∨ frostMaxParticipants < guardianIndex) .invalidFrostParticipant
  hkdfSha256 vault (idBytes authorizationKey) (guardianShareInfoV3 configRef guardianIndex)

def guardianFragmentKeyV3 (configRef : ConfigRef) (guardianIndex : UInt16) :
    Except CryptoError Id32 := do
  bailIf (guardianIndex = 0 ∨ frostMaxParticipants < guardianIndex) .invalidFrostParticipant
  hkdfSha256 vault (idBytes authorizationKey) (guardianFragmentInfoV3 configRef guardianIndex)

def descriptorKey (configId : Id32) (configVersion : UInt64) : Except CryptoError Id32 :=
  hkdfSha256 vault (idBytes authorizationKey) (descriptorInfo configId configVersion)

def descriptorKeyV3 (configRef : ConfigRef) : Except CryptoError Id32 :=
  hkdfSha256 vault (idBytes authorizationKey) (descriptorInfoV3 configRef)

end Keys

/-- What a key is for: the function that derives it, with its arguments. A journal's canonical
context enters by its hash. -/
inductive KeyUse
  | guardianShare (configId : Id32) (configVersion : UInt64) (guardianIndex : UInt16)
  | guardianShareV3 (configRef : ConfigRef) (guardianIndex : UInt16)
  | guardianFragmentV3 (configRef : ConfigRef) (guardianIndex : UInt16)
  | descriptor (configId : Id32) (configVersion : UInt64)
  | descriptorV3 (configRef : ConfigRef)
  | localJournal (contextHash : Id32)
  deriving DecidableEq

namespace KeyUse

def info : KeyUse → Bytes
  | guardianShare configId configVersion guardianIndex =>
    guardianShareInfo configId configVersion guardianIndex
  | guardianShareV3 configRef guardianIndex => guardianShareInfoV3 configRef guardianIndex
  | guardianFragmentV3 configRef guardianIndex => guardianFragmentInfoV3 configRef guardianIndex
  | descriptor configId configVersion => descriptorInfo configId configVersion
  | descriptorV3 configRef => descriptorInfoV3 configRef
  | localJournal contextHash => localJournalInfo contextHash

def infoLength : KeyUse → ℕ
  | guardianShare .. => 66
  | guardianShareV3 .. => 114
  | guardianFragmentV3 .. => 124
  | descriptor .. => 65
  | descriptorV3 .. => 113
  | localJournal .. => 60

/-- A call of one of the functions: what it derives from which key material. -/
inductive Derives (crypto : Crypto) (vault : Vault) : KeyUse → Bytes → Except CryptoError Id32 → Prop
  | guardianShare (authorizationKey configId : Id32) (configVersion : UInt64)
    (guardianIndex : UInt16) :
    Derives crypto vault (.guardianShare configId configVersion guardianIndex)
      (idBytes authorizationKey)
      (guardianShareKey vault authorizationKey configId configVersion guardianIndex)
  | guardianShareV3 (authorizationKey : Id32) (configRef : ConfigRef) (guardianIndex : UInt16) :
    Derives crypto vault (.guardianShareV3 configRef guardianIndex) (idBytes authorizationKey)
      (guardianShareKeyV3 vault authorizationKey configRef guardianIndex)
  | guardianFragmentV3 (authorizationKey : Id32) (configRef : ConfigRef) (guardianIndex : UInt16) :
    Derives crypto vault (.guardianFragmentV3 configRef guardianIndex) (idBytes authorizationKey)
      (guardianFragmentKeyV3 vault authorizationKey configRef guardianIndex)
  | descriptor (authorizationKey configId : Id32) (configVersion : UInt64) :
    Derives crypto vault (.descriptor configId configVersion) (idBytes authorizationKey)
      (descriptorKey vault authorizationKey configId configVersion)
  | descriptorV3 (authorizationKey : Id32) (configRef : ConfigRef) :
    Derives crypto vault (.descriptorV3 configRef) (idBytes authorizationKey)
      (descriptorKeyV3 vault authorizationKey configRef)
  | localJournal (seed : Id32) (canonicalContext : Bytes) :
    Derives crypto vault (.localJournal (crypto.sha256 canonicalContext)) (idBytes seed)
      (localJournalKey crypto vault seed canonicalContext)

end KeyUse

/-! ### Fields of fixed width -/

theorem beBytes_append_inj {n x y : ℕ} {a b : Bytes} (hx : x < 256 ^ n) (hy : y < 256 ^ n) :
    beBytes n x ++ a = beBytes n y ++ b ↔ x = y ∧ a = b := by
  constructor
  · intro h
    obtain ⟨hfield, hrest⟩ := List.append_inj h (by simp)
    exact ⟨beBytes_inj hx hy hfield, hrest⟩
  · rintro ⟨rfl, rfl⟩
    rfl

@[simp] theorem idBytes_append_inj {v w : Id32} {a b : Bytes} :
    idBytes v ++ a = idBytes w ++ b ↔ v = w ∧ a = b := by
  constructor
  · intro h
    obtain ⟨hid, hrest⟩ := List.append_inj h (by simp)
    exact ⟨idBytes_inj hid, hrest⟩
  · rintro ⟨rfl, rfl⟩
    rfl

@[simp] theorem u64_append_inj {x y : UInt64} {a b : Bytes} :
    beBytes 8 x.toNat ++ a = beBytes 8 y.toNat ++ b ↔ x = y ∧ a = b := by
  rw [beBytes_append_inj (by simpa using x.toNat_lt) (by simpa using y.toNat_lt), UInt64.toNat_inj]

@[simp] theorem u64_inj {x y : UInt64} : beBytes 8 x.toNat = beBytes 8 y.toNat ↔ x = y := by
  have h := u64_append_inj (x := x) (y := y) (a := []) (b := [])
  simpa using h

@[simp] theorem u16_inj {x y : UInt16} : beBytes 2 x.toNat = beBytes 2 y.toNat ↔ x = y := by
  have h := beBytes_append_inj (n := 2) (x := x.toNat) (y := y.toNat) (a := []) (b := [])
    (by simpa using x.toNat_lt) (by simpa using y.toNat_lt)
  simpa [UInt16.toNat_inj] using h

@[simp] theorem idBytes_eq_iff {v w : Id32} : idBytes v = idBytes w ↔ v = w :=
  ⟨idBytes_inj, congrArg idBytes⟩

theorem configRefKdfInfo_inj {domain : String} {left right : ConfigRef} {i j : Option UInt16}
    (h : configRefKdfInfo domain left i = configRefKdfInfo domain right j) :
    left = right ∧ (i.map fun index => beBytes 2 index.toNat).getD [] =
      (j.map fun index => beBytes 2 index.toNat).getD [] := by
  simp only [configRefKdfInfo, List.append_cancel_left_eq, idBytes_append_inj, u64_append_inj] at h
  obtain ⟨hid, hpayload, hauthorization, hguardian, hbinding, hindex⟩ := h
  refine ⟨?_, hindex⟩
  cases left
  cases right
  simp only [ConfigRef.mk.injEq]
  exact ⟨hid, hpayload, hauthorization, hguardian, hbinding⟩

namespace KeyUse

variable {crypto : Crypto} {vault : Vault} {use use' : KeyUse} {material material' : Bytes}
  {key : Id32}

theorem info_length (use : KeyUse) : use.info.length = use.infoLength := by
  cases use <;>
    simp only [info, guardianShareInfo, guardianShareInfoV3, guardianFragmentInfoV3, descriptorInfo,
      descriptorInfoV3, localJournalInfo, configRefKdfInfo, List.length_append, idBytes_length,
      beBytes_length, Option.map_some, Option.map_none, Option.getD_some, Option.getD_none,
      List.length_nil] <;> rfl

/-- Equal strings come from one function, for their lengths, and from equal arguments. -/
theorem info_injective : Function.Injective info := by
  intro use use' h
  have hlength : use.infoLength = use'.infoLength := by
    rw [← info_length, ← info_length, h]
  cases use <;> cases use' <;> simp [infoLength] at hlength
  case guardianShare.guardianShare =>
    simpa [info, guardianShareInfo] using h
  case guardianShareV3.guardianShareV3 =>
    obtain ⟨rfl, hindex⟩ := configRefKdfInfo_inj h
    simpa using hindex
  case guardianFragmentV3.guardianFragmentV3 =>
    obtain ⟨rfl, hindex⟩ := configRefKdfInfo_inj h
    simpa using hindex
  case descriptor.descriptor =>
    simpa [info, descriptorInfo] using h
  case descriptorV3.descriptorV3 =>
    obtain ⟨rfl, -⟩ := configRefKdfInfo_inj h
    rfl
  case localJournal.localJournal =>
    simpa [info, localJournalInfo] using h

/-- Every key is an HKDF output under the string of its use. -/
theorem Derives.hkdf {derived : Except CryptoError Id32}
    (h : Derives crypto vault use material derived) (hok : derived = .ok key) :
    vault.hkdf material use.info = some key := by
  cases h with
  | guardianShareV3 => exact okOr_eq_ok.mp (bind_unit_eq_ok.mp hok).2
  | guardianFragmentV3 => exact okOr_eq_ok.mp (bind_unit_eq_ok.mp hok).2
  | _ => exact okOr_eq_ok.mp hok

/-- Two inputs of HKDF that differ in the info string and give one key. -/
def Collides (vault : Vault) (key : Id32) : Prop :=
  ∃ material material' info info', info ≠ info' ∧ vault.hkdf material info = some key ∧
    vault.hkdf material' info' = some key

/-- The info string of a use, and the keys that are derived under it. -/
structure Separated (crypto : Crypto) (vault : Vault) : Prop where
  infos : ∀ use use' : KeyUse, use.info = use'.info ↔ use = use'
  keys : ∀ use use' material material' key,
    Derives crypto vault use material (.ok key) → Derives crypto vault use' material' (.ok key) →
      use = use' ∨ Collides vault key

end KeyUse

/-- Info strings are equal only for one function, configuration, epoch, index and context; one key
for two uses is a collision of HKDF. -/
theorem key_uses_separated (crypto : Crypto) (vault : Vault) : KeyUse.Separated crypto vault where
  infos _ _ := KeyUse.info_injective.eq_iff
  keys use use' material material' key hderives hderives' := by
    by_cases hsame : use = use'
    · exact Or.inl hsame
    · refine Or.inr ⟨material, material', use.info, use'.info, ?_, ?_, ?_⟩
      · exact KeyUse.info_injective.ne hsame
      · exact hderives.hkdf rfl
      · exact hderives'.hkdf rfl

end MasterRecovery
