import MasterRecovery.Crypto
import MasterRecovery.Lib.Bitmap

/-!
# Secret sharing (gp-crypto/src/lib.rs)

The arithmetic of GF(256) is the Shamir library's. The wrapper decides which lists of shares reach
its combiner; it remembers the indices it has seen in a bitmap of four words.
-/

namespace MasterRecovery
open Checks Transcript

def shamirSecretLen : ℕ := 32
def shamirShareLen : ℕ := shamirSecretLen + 1
def shamirMaxShares : UInt16 := 255
def shamirIndexWords : ℕ := 4

/-- The Shamir library: `deal` gives the first shares of a dealer, `encode` and `decode` are the
conversions of a share to bytes and back, `recover` is the combiner. -/
structure Shamir where
  Share : Type
  deal : UInt8 → Bytes → Id32 → ℕ → List Share
  encode : Share → Bytes
  decode : Bytes → Option Share
  recover : UInt8 → List Share → Option Bytes

/-- How a recovery ends without a secret: it refuses, or it indexes out of range. -/
inductive RecoverStop
  | refused (error : CryptoError)
  | outOfRange
  deriving DecidableEq

section Sharing

variable (shamir : Shamir)

def splitSecret (secret : Bytes) (threshold total : UInt16) (seed : Id32) :
    Except CryptoError (List Bytes) := do
  bailIf (secret.length ≠ shamirSecretLen) .invalidSecretLength
  bailIf (threshold = 0 ∨ total < threshold ∨ shamirMaxShares < total) .invalidThreshold
  .ok ((shamir.deal threshold.toUInt8 secret seed total.toNat).map shamir.encode)

/-- The first byte of a share that has one. -/
def shareIndex (encoded : Bytes) : ℕ := (encoded.headD 0).toNat

/-- The loop of `recover_secret`. -/
def decodeShares (seenIndices : List UInt64) (decoded : List shamir.Share) :
    List Bytes → Except RecoverStop (List shamir.Share)
  | [] => .ok decoded
  | encoded :: shares => do
    bailIf (encoded.length ≠ shamirShareLen ∨ shareIndex encoded = 0) (.refused .invalidShare)
    let seen ← okOr (Bitmap.test seenIndices (shareIndex encoded)) .outOfRange
    bailIf (seen = true) (.refused .duplicateShare)
    let share ← okOr (shamir.decode encoded) (.refused .invalidShare)
    decodeShares (Bitmap.mark seenIndices (shareIndex encoded)) (decoded ++ [share]) shares

/-- What `recover_secret` does before it calls the combiner. -/
def validateShares (shares : List Bytes) (threshold : UInt16) :
    Except RecoverStop (List shamir.Share) := do
  bailIf (threshold = 0 ∨ shamirMaxShares < threshold) (.refused .invalidThreshold)
  bailIf (shares.length < threshold.toNat) (.refused .insufficientShares)
  bailIf (shamirMaxShares.toNat < shares.length) (.refused .invalidShare)
  decodeShares shamir (List.replicate shamirIndexWords 0) [] shares

def combineShares (threshold : UInt16) (decoded : List shamir.Share) :
    Except RecoverStop Bytes := do
  let recovered ← okOr (shamir.recover threshold.toUInt8 decoded) (.refused .invalidShare)
  bailIf (recovered.length ≠ shamirSecretLen) (.refused .invalidShare)
  .ok recovered

def recoverSecret (shares : List Bytes) (threshold : UInt16) : Except RecoverStop Bytes := do
  let decoded ← validateShares shamir shares threshold
  combineShares shamir threshold decoded

end Sharing

/-! ### What the library promises -/

/-- The behaviour the wrapper relies on. Two bytes are enough for a share, and the order of shares
does not matter. The shares of a dealer, which has a threshold and a secret, have the indices from
one up, return from their bytes, and recover the secret when they reach the threshold. -/
structure Shamir.Correct (shamir : Shamir) : Prop where
  decodes : ∀ encoded, 2 ≤ encoded.length → (shamir.decode encoded).isSome
  symmetric : ∀ threshold shares shares', List.Perm shares shares' →
    shamir.recover threshold shares = shamir.recover threshold shares'
  encodes : ∀ threshold secret seed total, 0 < threshold → secret ≠ [] → total ≤ 255 →
    ∀ share ∈ shamir.deal threshold secret seed total,
      shamir.decode (shamir.encode share) = some share ∧
        (shamir.encode share).length = secret.length + 1
  indices : ∀ threshold secret seed total, 0 < threshold → secret ≠ [] → total ≤ 255 →
    (shamir.deal threshold secret seed total).map (fun share => shareIndex (shamir.encode share)) =
      (List.range total).map (· + 1)
  recovers : ∀ threshold secret seed total chosen, 0 < threshold → secret ≠ [] → total ≤ 255 →
    (∀ share ∈ chosen, share ∈ shamir.deal threshold secret seed total) → chosen.Nodup →
    threshold.toNat ≤ chosen.length → shamir.recover threshold chosen = some secret

/-! ### What reaches the combiner -/

/-- A share of the right length under an index that is not zero. -/
def EncodedShare (encoded : Bytes) : Prop :=
  encoded.length = shamirShareLen ∧ shareIndex encoded ≠ 0

structure WellFormedShares (shares : List Bytes) (threshold : UInt16) : Prop where
  positive : 1 ≤ threshold.toNat
  thresholdBound : threshold.toNat ≤ 255
  enough : threshold.toNat ≤ shares.length
  bound : shares.length ≤ 255
  encoded : ∀ encoded ∈ shares, EncodedShare encoded
  distinct : (shares.map shareIndex).Nodup

section Validation

variable {shamir : Shamir} {seenIndices : List UInt64} {seen : Finset ℕ}
  {decoded : List shamir.Share} {shares : List Bytes} {threshold : UInt16}

theorem shareIndex_lt (encoded : Bytes) : shareIndex encoded < 256 := (encoded.headD 0).toNat_lt

/-- Every index has its bit: four words reach past the last byte. -/
theorem test_shareIndex (hseen : Bitmap.Represents seenIndices seen)
    (hwords : seenIndices.length = shamirIndexWords) (encoded : Bytes) :
    Bitmap.test seenIndices (shareIndex encoded) = some (decide (shareIndex encoded ∈ seen)) := by
  apply hseen
  rw [hwords]
  exact shareIndex_lt encoded

theorem Shamir.Correct.decodes_share (hcorrect : shamir.Correct) {encoded : Bytes}
    (h : EncodedShare encoded) : ∃ share, shamir.decode encoded = some share := by
  have hlength : 2 ≤ encoded.length := by
    rw [h.1]
    decide
  exact Option.isSome_iff_exists.mp (hcorrect.decodes encoded hlength)

/-- A share that gets through the loop, and what the loop goes on with. -/
theorem decodeShares_cons (hseen : Bitmap.Represents seenIndices seen)
    (hwords : seenIndices.length = shamirIndexWords) {encoded : Bytes} {share : shamir.Share}
    (hencoded : EncodedShare encoded) (hfresh : shareIndex encoded ∉ seen)
    (hdecode : shamir.decode encoded = some share) :
    decodeShares shamir seenIndices decoded (encoded :: shares) =
      decodeShares shamir (Bitmap.mark seenIndices (shareIndex encoded)) (decoded ++ [share])
        shares := by
  simp [decodeShares, bailIf, okOr, hencoded.1, hencoded.2, test_shareIndex hseen hwords, hfresh,
    hdecode, bind, Except.bind]

/-- Shares under new and distinct indices are decoded in order. -/
theorem decodeShares_distinct (hcorrect : shamir.Correct)
    (hseen : Bitmap.Represents seenIndices seen) (hwords : seenIndices.length = shamirIndexWords)
    (hencoded : ∀ encoded ∈ shares, EncodedShare encoded)
    (hdistinct : (shares.map shareIndex).Nodup) (hfresh : ∀ i ∈ shares.map shareIndex, i ∉ seen) :
    decodeShares shamir seenIndices decoded shares =
      .ok (decoded ++ shares.filterMap shamir.decode) := by
  induction shares generalizing seenIndices seen decoded with
  | nil => simp [decodeShares]
  | cons encoded shares ih =>
    rw [List.forall_mem_cons] at hencoded
    rw [List.map_cons, List.nodup_cons] at hdistinct
    rw [List.map_cons, List.forall_mem_cons] at hfresh
    obtain ⟨share, hdecode⟩ := hcorrect.decodes_share hencoded.1
    rw [decodeShares_cons hseen hwords hencoded.1 hfresh.1 hdecode,
      ih (hseen.marked _) (by rw [Bitmap.mark_length, hwords]) hencoded.2 hdistinct.2]
    · simp [hdecode]
    · intro i hi
      rw [Finset.mem_insert, not_or]
      exact ⟨fun heq => hdistinct.1 (heq ▸ hi), hfresh.2 i hi⟩

/-- Encoded shares under indices that repeat, or were seen before, are refused as duplicates. -/
theorem decodeShares_duplicate (hcorrect : shamir.Correct)
    (hseen : Bitmap.Represents seenIndices seen) (hwords : seenIndices.length = shamirIndexWords)
    (hencoded : ∀ encoded ∈ shares, EncodedShare encoded)
    (hrepeated : ¬((shares.map shareIndex).Nodup ∧ ∀ i ∈ shares.map shareIndex, i ∉ seen)) :
    decodeShares shamir seenIndices decoded shares = .error (.refused .duplicateShare) := by
  induction shares generalizing seenIndices seen decoded with
  | nil => exact absurd ⟨List.nodup_nil, fun i hi => absurd hi List.not_mem_nil⟩ hrepeated
  | cons encoded shares ih =>
    rw [List.forall_mem_cons] at hencoded
    by_cases hmem : shareIndex encoded ∈ seen
    · simp [decodeShares, bailIf, okOr, hencoded.1.1, hencoded.1.2, test_shareIndex hseen hwords,
        hmem, bind, Except.bind]
    · obtain ⟨share, hdecode⟩ := hcorrect.decodes_share hencoded.1
      rw [decodeShares_cons hseen hwords hencoded.1 hmem hdecode]
      refine ih (hseen.marked _) (by rw [Bitmap.mark_length, hwords]) hencoded.2 fun hrest => ?_
      refine hrepeated ⟨?_, ?_⟩
      · rw [List.map_cons, List.nodup_cons]
        exact ⟨fun hi => hrest.2 _ hi (Finset.mem_insert_self ..), hrest.1⟩
      · rw [List.map_cons, List.forall_mem_cons]
        exact ⟨hmem, fun i hi hold => hrest.2 i hi (Finset.mem_insert_of_mem hold)⟩

/-- Only encoded shares get through the loop. -/
theorem decodeShares_encoded {out : List shamir.Share}
    (h : decodeShares shamir seenIndices decoded shares = .ok out) :
    ∀ encoded ∈ shares, EncodedShare encoded := by
  induction shares generalizing seenIndices decoded with
  | nil => exact fun encoded hmem => absurd hmem List.not_mem_nil
  | cons encoded shares ih =>
    simp only [decodeShares, bailIf_eq_ok, bind_eq_ok, not_or, not_not, ne_eq, exists_const] at h
    obtain ⟨hencoded, _, -, -, _, -, hrest⟩ := h
    exact List.forall_mem_cons.mpr ⟨hencoded, ih hrest⟩

theorem bind_ne_error {ε α β : Type} {x : Except ε α} {f : α → Except ε β} {e : ε}
    (hx : x ≠ .error e) (hf : ∀ a, x = .ok a → f a ≠ .error e) : (x >>= f) ≠ .error e := by
  cases x with
  | ok a => exact hf a rfl
  | error e' =>
    intro h
    cases h
    exact hx rfl

theorem bailIf_ne_error {ε : Type} {p : Prop} [Decidable p] {e e' : ε} (h : e ≠ e') :
    bailIf p e ≠ .error e' := by
  unfold bailIf
  split
  · exact fun heq => h (Except.error.inj heq)
  · exact nofun

theorem okOr_ne_error {ε α : Type} {x : Option α} {e e' : ε} (h : x = none → e ≠ e') :
    okOr x e ≠ .error e' := by
  cases x with
  | none => exact fun heq => h rfl (Except.error.inj heq)
  | some a => exact nofun

/-- The loop never looks past the four words. -/
theorem decodeShares_inRange (hseen : Bitmap.Represents seenIndices seen)
    (hwords : seenIndices.length = shamirIndexWords) :
    decodeShares shamir seenIndices decoded shares ≠ .error .outOfRange := by
  induction shares generalizing seenIndices seen decoded with
  | nil => exact nofun
  | cons encoded shares ih =>
    refine bind_ne_error (bailIf_ne_error (by decide)) fun _ _ => ?_
    refine bind_ne_error (okOr_ne_error ?_) fun marked _ => ?_
    · rw [test_shareIndex hseen hwords]
      exact fun hnone => by cases hnone
    refine bind_ne_error (bailIf_ne_error (by decide)) fun _ _ => ?_
    refine bind_ne_error (okOr_ne_error fun _ => by decide) fun share _ => ?_
    exact ih (hseen.marked _) (by rw [Bitmap.mark_length, hwords])

theorem bitmap_start : Bitmap.Represents (List.replicate shamirIndexWords 0) ∅ :=
  Bitmap.represents_replicate _

theorem bitmap_start_length : (List.replicate shamirIndexWords (0 : UInt64)).length =
    shamirIndexWords :=
  List.length_replicate ..

theorem threshold_ok_iff :
    ¬(threshold = 0 ∨ shamirMaxShares < threshold) ↔
      1 ≤ threshold.toNat ∧ threshold.toNat ≤ 255 := by
  rw [not_or, ← UInt16.toNat_inj, UInt16.lt_iff_toNat_lt]
  simp only [shamirMaxShares, UInt16.reduceToNat]
  omega

theorem validateShares_eq_ok (hcorrect : shamir.Correct) {out : List shamir.Share} :
    validateShares shamir shares threshold = .ok out ↔
      WellFormedShares shares threshold ∧ out = shares.filterMap shamir.decode := by
  have hmax : shamirMaxShares.toNat = 255 := rfl
  simp only [validateShares, bind_unit_eq_ok, bailIf_eq_ok, threshold_ok_iff, hmax, Nat.not_lt]
  constructor
  · rintro ⟨⟨hpositive, hbound⟩, henough, hlength, hdecode⟩
    have hencoded := decodeShares_encoded hdecode
    have hdistinct : (shares.map shareIndex).Nodup := by
      by_contra hrepeated
      rw [decodeShares_duplicate hcorrect bitmap_start bitmap_start_length hencoded
        fun h => hrepeated h.1] at hdecode
      cases hdecode
    rw [decodeShares_distinct hcorrect bitmap_start bitmap_start_length hencoded hdistinct
      fun i _ => Finset.notMem_empty i] at hdecode
    cases hdecode
    exact ⟨⟨hpositive, hbound, henough, hlength, hencoded, hdistinct⟩, rfl⟩
  · rintro ⟨h, rfl⟩
    refine ⟨⟨h.positive, h.thresholdBound⟩, h.enough, h.bound, ?_⟩
    exact decodeShares_distinct hcorrect bitmap_start bitmap_start_length h.encoded h.distinct
      fun i _ => Finset.notMem_empty i

theorem recoverSecret_inRange (shamir : Shamir) (shares : List Bytes) (threshold : UInt16) :
    recoverSecret shamir shares threshold ≠ .error .outOfRange := by
  refine bind_ne_error ?_ fun decoded _ => ?_
  · refine bind_ne_error (bailIf_ne_error (by decide)) fun _ _ => ?_
    refine bind_ne_error (bailIf_ne_error (by decide)) fun _ _ => ?_
    refine bind_ne_error (bailIf_ne_error (by decide)) fun _ _ => ?_
    exact decodeShares_inRange bitmap_start bitmap_start_length
  · refine bind_ne_error (okOr_ne_error fun _ => by decide) fun recovered _ => ?_
    exact bind_ne_error (bailIf_ne_error (by decide)) fun _ _ => nofun

def markShares (words : List UInt64) (shares : List Bytes) : List UInt64 :=
  shares.foldl (fun words encoded => Bitmap.mark words (shareIndex encoded)) words

/-- The loop stands at each share with the bitmap of those before it. -/
theorem decodeShares_append (earlier later : List Bytes) :
    decodeShares shamir seenIndices decoded (earlier ++ later) = (do
      let decoded ← decodeShares shamir seenIndices decoded earlier
      decodeShares shamir (markShares seenIndices earlier) decoded later) := by
  induction earlier generalizing seenIndices decoded with
  | nil => rfl
  | cons encoded earlier ih =>
    simp only [List.cons_append, decodeShares, ih, bind_assoc]
    rfl

theorem markShares_represents (hseen : Bitmap.Represents seenIndices seen)
    (hwords : seenIndices.length = shamirIndexWords) (earlier : List Bytes) :
    Bitmap.Represents (markShares seenIndices earlier)
        ((earlier.map shareIndex).toFinset ∪ seen) ∧
      (markShares seenIndices earlier).length = shamirIndexWords := by
  induction earlier generalizing seenIndices seen with
  | nil => simpa [markShares] using ⟨hseen, hwords⟩
  | cons encoded earlier ih =>
    have hnext := ih (hseen.marked (shareIndex encoded)) (by rw [Bitmap.mark_length, hwords])
    rw [Finset.union_insert, ← Finset.insert_union] at hnext
    simpa [markShares] using hnext

theorem test_markShares (earlier : List Bytes) (encoded : Bytes) :
    Bitmap.test (markShares (List.replicate shamirIndexWords 0) earlier) (shareIndex encoded) =
      some (decide (shareIndex encoded ∈ earlier.map shareIndex)) := by
  obtain ⟨hseen, hwords⟩ := markShares_represents bitmap_start bitmap_start_length earlier
  rw [test_shareIndex hseen hwords]
  simp

/-! ### Order and recovery -/

theorem recoverSecret_perm (hcorrect : shamir.Correct) {shares' : List Bytes}
    (hperm : List.Perm shares shares') (hencoded : ∀ encoded ∈ shares, EncodedShare encoded) :
    recoverSecret shamir shares threshold = recoverSecret shamir shares' threshold := by
  have hencoded' : ∀ encoded ∈ shares', EncodedShare encoded :=
    fun encoded hmem => hencoded encoded (hperm.mem_iff.mpr hmem)
  have hindices : (shares.map shareIndex).Nodup ↔ (shares'.map shareIndex).Nodup :=
    (hperm.map shareIndex).nodup_iff
  simp only [recoverSecret, validateShares, hperm.length_eq]
  by_cases hdistinct : (shares.map shareIndex).Nodup
  · rw [decodeShares_distinct hcorrect bitmap_start bitmap_start_length hencoded hdistinct
      fun i _ => Finset.notMem_empty i,
      decodeShares_distinct hcorrect bitmap_start bitmap_start_length hencoded'
        (hindices.mp hdistinct) fun i _ => Finset.notMem_empty i]
    have hcombine : combineShares shamir threshold (shares.filterMap shamir.decode) =
        combineShares shamir threshold (shares'.filterMap shamir.decode) := by
      simp only [combineShares, hcorrect.symmetric _ _ _ (hperm.filterMap shamir.decode)]
    simp only [List.nil_append, bind_assoc]
    simp only [bind, Except.bind, hcombine]
  · rw [decodeShares_duplicate hcorrect bitmap_start bitmap_start_length hencoded
      fun h => hdistinct h.1,
      decodeShares_duplicate hcorrect bitmap_start bitmap_start_length hencoded'
        fun h => hdistinct (hindices.mpr h.1)]

theorem splitSecret_eq_ok {secret : Bytes} {total : UInt16} {seed : Id32} {dealt : List Bytes}
    (h : splitSecret shamir secret threshold total seed = .ok dealt) :
    secret.length = 32 ∧ 1 ≤ threshold.toNat ∧ threshold.toNat ≤ total.toNat ∧ total.toNat ≤ 255 ∧
      dealt = (shamir.deal threshold.toUInt8 secret seed total.toNat).map shamir.encode := by
  simp only [splitSecret, bind_unit_eq_ok, bailIf_eq_ok, ne_eq, not_not, not_or, UInt16.not_lt,
    Except.ok.injEq] at h
  obtain ⟨hlength, ⟨hpositive, htotal, hbound⟩, rfl⟩ := h
  rw [← UInt16.toNat_inj] at hpositive
  refine ⟨hlength, Nat.one_le_iff_ne_zero.mpr hpositive, htotal, hbound, rfl⟩

theorem Shamir.Correct.mem_deal (hcorrect : shamir.Correct) {level : UInt8} {secret : Bytes}
    {seed : Id32} {total : ℕ} (hlevel : 0 < level) (hsecret : secret ≠ []) (hbound : total ≤ 255)
    {encoded : Bytes}
    (hmem : encoded ∈ (shamir.deal level secret seed total).map shamir.encode) :
    (∃ share ∈ shamir.deal level secret seed total,
      shamir.decode encoded = some share ∧ shamir.encode share = encoded) ∧
      encoded.length = secret.length + 1 ∧
      shareIndex encoded ∈ (List.range total).map (· + 1) := by
  obtain ⟨share, hshare, rfl⟩ := List.mem_map.mp hmem
  obtain ⟨hdecode, hlength⟩ := hcorrect.encodes level secret seed total hlevel hsecret hbound share
    hshare
  refine ⟨⟨share, hshare, hdecode, rfl⟩, hlength, ?_⟩
  rw [← hcorrect.indices level secret seed total hlevel hsecret hbound]
  exact List.mem_map_of_mem hshare

/-- The shares of one dealer are told apart by their indices. -/
theorem Shamir.Correct.index_inj (hcorrect : shamir.Correct) {level : UInt8} {secret : Bytes}
    {seed : Id32} {total : ℕ} (hlevel : 0 < level) (hsecret : secret ≠ []) (hbound : total ≤ 255)
    {left right : Bytes}
    (hleft : left ∈ (shamir.deal level secret seed total).map shamir.encode)
    (hright : right ∈ (shamir.deal level secret seed total).map shamir.encode)
    (hindex : shareIndex left = shareIndex right) : left = right := by
  obtain ⟨share, hshare, rfl⟩ := List.mem_map.mp hleft
  obtain ⟨share', hshare', rfl⟩ := List.mem_map.mp hright
  have hnodup : ((shamir.deal level secret seed total).map
      fun share => shareIndex (shamir.encode share)).Nodup := by
    rw [hcorrect.indices level secret seed total hlevel hsecret hbound]
    exact List.nodup_range.map fun i j h => Nat.succ_injective h
  rw [List.inj_on_of_nodup_map hnodup hshare hshare' hindex]

/-- Bytes that all decode to what they encode are given back by the decoded shares. -/
theorem map_encode_filterMap {chosen : List Bytes}
    (h : ∀ encoded ∈ chosen, ∃ share, shamir.decode encoded = some share ∧
      shamir.encode share = encoded) :
    (chosen.filterMap shamir.decode).map shamir.encode = chosen := by
  induction chosen with
  | nil => rfl
  | cons encoded chosen ih =>
    rw [List.forall_mem_cons] at h
    obtain ⟨⟨share, hdecode, hencode⟩, hrest⟩ := h
    rw [List.filterMap_cons_some hdecode, List.map_cons, hencode, ih hrest]

/-- Any distinct shares of one split that reach its threshold give the secret back. -/
theorem recoverSecret_split (hcorrect : shamir.Correct) {secret : Bytes} {total : UInt16}
    {seed : Id32} {dealt chosen : List Bytes}
    (hsplit : splitSecret shamir secret threshold total seed = .ok dealt)
    (hchosen : ∀ encoded ∈ chosen, encoded ∈ dealt) (hdistinct : chosen.Nodup)
    (henough : threshold.toNat ≤ chosen.length) :
    recoverSecret shamir chosen threshold = .ok secret := by
  obtain ⟨hlength, hpositive, hle, hbound, rfl⟩ := splitSecret_eq_ok hsplit
  have hlevel : 0 < threshold.toUInt8 := by
    rw [UInt8.lt_iff_toNat_lt, UInt16.toNat_toUInt8]
    simp only [UInt8.toNat_zero]
    omega
  have hsecret : secret ≠ [] := by
    rintro rfl
    cases hlength
  have hmem := fun encoded h => hcorrect.mem_deal hlevel hsecret hbound (hchosen encoded h)
  have hindices : (chosen.map shareIndex).Nodup :=
    hdistinct.map_on fun left hleft right hright =>
      hcorrect.index_inj hlevel hsecret hbound (hchosen left hleft) (hchosen right hright)
  have hcount : chosen.length ≤ 255 := by
    have hsubset : chosen.map shareIndex ⊆ (List.range total.toNat).map (· + 1) := by
      intro i hi
      obtain ⟨encoded, hencoded, rfl⟩ := List.mem_map.mp hi
      exact (hmem encoded hencoded).2.2
    have hlen := (hindices.subperm hsubset).length_le
    rw [List.length_map, List.length_map, List.length_range] at hlen
    exact hlen.trans hbound
  have hwell : WellFormedShares chosen threshold := by
    refine ⟨hpositive, hle.trans hbound, henough, hcount, fun encoded h => ⟨?_, ?_⟩, hindices⟩
    · rw [(hmem encoded h).2.1, hlength]
      rfl
    · obtain ⟨i, -, hi⟩ := List.mem_map.mp (hmem encoded h).2.2
      omega
  -- The decoded shares are the dealer's, and as many as were chosen.
  have hmap := map_encode_filterMap fun encoded h => by
    obtain ⟨share, -, hdecode, hencode⟩ := (hmem encoded h).1
    exact ⟨share, hdecode, hencode⟩
  have hrecover : shamir.recover threshold.toUInt8 (chosen.filterMap shamir.decode) =
      some secret := by
    refine hcorrect.recovers threshold.toUInt8 secret seed total.toNat _ hlevel hsecret
      hbound ?_ ?_ ?_
    · intro share hshare
      obtain ⟨encoded, hencoded, hdecode⟩ := List.mem_filterMap.mp hshare
      obtain ⟨share', hshare', hdecode', -⟩ := (hmem encoded hencoded).1
      rw [hdecode] at hdecode'
      exact Option.some.inj hdecode' ▸ hshare'
    · refine List.Nodup.of_map shamir.encode ?_
      rw [hmap]
      exact hdistinct
    · have hsame := congrArg List.length hmap
      rw [List.length_map] at hsame
      rw [hsame, UInt16.toNat_toUInt8]
      omega
  refine bind_eq_ok.mpr ⟨_, (validateShares_eq_ok hcorrect).mpr ⟨hwell, rfl⟩, ?_⟩
  simp [combineShares, okOr, hrecover, bailIf, hlength, shamirSecretLen, bind, Except.bind]

end Validation

/-- What `recover_secret` makes of a list of shares. -/
structure RecoversExactly (shamir : Shamir) : Prop where
  accepts : ∀ shares threshold,
    (∃ decoded, validateShares shamir shares threshold = .ok decoded) ↔
      WellFormedShares shares threshold
  inRange : ∀ shares threshold, recoverSecret shamir shares threshold ≠ .error .outOfRange
  bitmap : ∀ earlier encoded,
    Bitmap.test (markShares (List.replicate shamirIndexWords 0) earlier) (shareIndex encoded) =
      some (decide (shareIndex encoded ∈ earlier.map shareIndex))
  order : ∀ shares shares' threshold, List.Perm shares shares' →
    (∀ encoded ∈ shares, EncodedShare encoded) →
      recoverSecret shamir shares threshold = recoverSecret shamir shares' threshold
  recovers : ∀ secret threshold total seed dealt chosen,
    splitSecret shamir secret threshold total seed = .ok dealt →
      (∀ encoded ∈ chosen, encoded ∈ dealt) → chosen.Nodup →
        threshold.toNat ≤ chosen.length → recoverSecret shamir chosen threshold = .ok secret

/-- With a correct library, the lists that reach the combiner are those of encoded shares under
distinct indices, the bitmap is the set of the indices, and any shares of one split that reach its
threshold recover its secret. -/
theorem recover_secret_exact (shamir : Shamir) (hcorrect : shamir.Correct) :
    RecoversExactly shamir where
  accepts shares threshold := by
    constructor
    · rintro ⟨decoded, h⟩
      exact ((validateShares_eq_ok hcorrect).mp h).1
    · exact fun h => ⟨_, (validateShares_eq_ok hcorrect).mpr ⟨h, rfl⟩⟩
  inRange := recoverSecret_inRange shamir
  bitmap := test_markShares
  order _ _ _ hperm hencoded := recoverSecret_perm hcorrect hperm hencoded
  recovers _ _ _ _ _ _ := recoverSecret_split hcorrect

/-- The payload of the shares, when they all have one and reach the threshold. -/
def recoverConstant (threshold : UInt8) (shares : List (UInt8 × Bytes)) : Option Bytes :=
  match shares with
  | [] => none
  | share :: rest =>
    if threshold.toNat ≤ rest.length + 1 ∧ ∀ other ∈ rest, other.2 = share.2 then some share.2
    else none

theorem recoverConstant_eq_some {threshold : UInt8} {shares : List (UInt8 × Bytes)}
    {payload : Bytes} :
    recoverConstant threshold shares = some payload ↔
      shares ≠ [] ∧ threshold.toNat ≤ shares.length ∧ ∀ share ∈ shares, share.2 = payload := by
  cases shares with
  | nil => simp [recoverConstant]
  | cons share rest =>
    simp only [recoverConstant, Option.ite_none_right_eq_some, Option.some.injEq, ne_eq,
      reduceCtorEq, not_false_eq_true, true_and, List.length_cons, List.forall_mem_cons]
    constructor
    · rintro ⟨⟨henough, hsame⟩, rfl⟩
      exact ⟨henough, rfl, hsame⟩
    · rintro ⟨henough, rfl, hsame⟩
      exact ⟨⟨henough, hsame⟩, rfl⟩

theorem recoverConstant_perm {threshold : UInt8} {shares shares' : List (UInt8 × Bytes)}
    (hperm : List.Perm shares shares') :
    recoverConstant threshold shares = recoverConstant threshold shares' := by
  have hnil : shares = [] ↔ shares' = [] := by
    rw [← List.length_eq_zero_iff, hperm.length_eq, List.length_eq_zero_iff]
  refine Option.ext fun payload => ?_
  rw [recoverConstant_eq_some, recoverConstant_eq_some, hperm.length_eq]
  simp only [ne_eq, hnil, hperm.mem_iff]

/-- The dealer of threshold one, whose polynomial is the secret. -/
def Shamir.constant : Shamir where
  Share := UInt8 × Bytes
  deal _ secret _ total := (List.range total).map fun i => (UInt8.ofNat (i + 1), secret)
  encode share := share.1 :: share.2
  decode
    | index :: byte :: payload => some (index, byte :: payload)
    | _ => none
  recover := recoverConstant

theorem Shamir.constant_correct : Shamir.constant.Correct where
  decodes encoded h := by
    match encoded, h with
    | _ :: _ :: _, _ => rfl
  symmetric _ _ _ hperm := recoverConstant_perm hperm
  encodes threshold secret seed total _ hsecret _ share hshare := by
    obtain ⟨i, -, rfl⟩ := List.mem_map.mp hshare
    cases secret with
    | nil => exact absurd rfl hsecret
    | cons byte secret => exact ⟨rfl, rfl⟩
  indices threshold secret seed total _ _ hbound := by
    rw [constant, List.map_map]
    refine List.map_congr_left fun i hi => ?_
    rw [List.mem_range] at hi
    simp only [Function.comp, shareIndex, List.headD_cons, UInt8.toNat_ofNat']
    omega
  recovers threshold secret seed total chosen hlevel _ _ hchosen _ henough := by
    refine recoverConstant_eq_some.mpr ⟨?_, henough, fun share hshare => ?_⟩
    · rintro rfl
      rw [UInt8.lt_iff_toNat_lt] at hlevel
      exact absurd henough (Nat.not_le.mpr hlevel)
    · obtain ⟨i, -, rfl⟩ := List.mem_map.mp (hchosen share hshare)
      rfl

/-- The third of three shares is enough where one is. -/
theorem recover_secret_exact_sample :
    recoverSecret Shamir.constant [3 :: List.replicate 32 7] 1 = .ok (List.replicate 32 7) := by
  refine (recover_secret_exact Shamir.constant Shamir.constant_correct).recovers
    (List.replicate 32 7) 1 3 0 _ _ rfl ?_ ?_ ?_
  · simp [Shamir.constant, List.range_succ]
  · simp
  · simp

end MasterRecovery
