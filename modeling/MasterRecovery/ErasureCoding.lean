import MasterRecovery.GuardianCrypto
import MasterRecovery.Lib.Rows

/-!
# Erasure coding of the ciphertext (gp-crypto/src/lib.rs)

The code itself is the Reed-Solomon library's. The wrapper cuts the ciphertext into rows, numbers
fragments from one up, and cuts what comes back to the length it was told.
-/

namespace MasterRecovery
open Checks Transcript

/-- The Reed-Solomon library, for numbers of data and parity shards. A shard that is reconstructed
comes with whether it is present. -/
structure ReedSolomon where
  accepts : ℕ → ℕ → Bool
  encode : ℕ → ℕ → List Bytes → Option (List Bytes)
  reconstruct : ℕ → ℕ → List (Bytes × Bool) → Option (List (Bytes × Bool))

section Coding

variable (coder : ReedSolomon)

def shardLen (len : ℕ) (dataShards : UInt16) : ℕ :=
  max ((len + dataShards.toNat - 1) / dataShards.toNat) 1

def erasureEncode (data : Bytes) (dataShards totalShards : UInt16) :
    Except CryptoError (List Bytes) := do
  bailIf (dataShards = 0 ∨ totalShards < dataShards) .invalidThreshold
  let parity := (totalShards - dataShards).toNat
  bailIf (coder.accepts dataShards.toNat parity = false) .invalidThreshold
  let shards := List.replicate totalShards.toNat
    (List.replicate (shardLen data.length dataShards) 0)
  okOr (coder.encode dataShards.toNat parity
    (Rows.fill (shardLen data.length dataShards) shards 0 data)) .invalidFragments

/-- The fragment loop of `erasure_reconstruct`. -/
def placeFragments (shardLen : ℕ) (shards : List (Bytes × Bool)) :
    List (UInt16 × Bytes) → Except CryptoError (List (Bytes × Bool))
  | [] => .ok shards
  | (index, fragment) :: fragments => do
    bailIf (index = 0 ∨ shards.length ≤ index.toNat - 1) .invalidFragments
    bailIf (fragment.length ≠ shardLen ∨
      (shards[index.toNat - 1]?.map (·.2)) = some true) .invalidFragments
    placeFragments shardLen (shards.set (index.toNat - 1) (fragment, true)) fragments

/-- The shards in order, all of them present. -/
def collectShards : List (Bytes × Bool) → Except CryptoError Bytes
  | [] => .ok []
  | (shard, present) :: shards => do
    bailIf (present = false) .invalidFragments
    let rest ← collectShards shards
    .ok (shard ++ rest)

def erasureReconstruct (fragments : List (UInt16 × Bytes)) (dataShards totalShards : UInt16)
    (originalLen : ℕ) : Except CryptoError Bytes := do
  bailIf (fragments.length < dataShards.toNat ∨ totalShards < dataShards) .insufficientShares
  let parity := (totalShards - dataShards).toNat
  bailIf (coder.accepts dataShards.toNat parity = false) .invalidThreshold
  let shardLen ← okOr ((fragments.head?.map (·.2.length)).filter (0 < ·)) .invalidFragments
  let shards ← placeFragments shardLen
    (List.replicate totalShards.toNat (List.replicate shardLen 0, false)) fragments
  let shards ← okOr (coder.reconstruct dataShards.toNat parity shards) .invalidFragments
  let output ← collectShards (shards.take dataShards.toNat)
  .ok (output.take originalLen)

def rotateCiphertextFragments (oldFragments : List (UInt16 × Bytes))
    (oldDataShards oldTotalShards : UInt16) (ciphertextLen : ℕ)
    (newDataShards newTotalShards : UInt16) : Except CryptoError (List Bytes) := do
  bailIf (¬(oldFragments.map (·.1)).Nodup) .invalidFragments
  let ciphertext ← erasureReconstruct coder oldFragments oldDataShards oldTotalShards ciphertextLen
  erasureEncode coder ciphertext newDataShards newTotalShards

/-- The leaves of `commit_ciphertext_fragments`, from an offset on. -/
def fragmentLeaves (crypto : Crypto) (configId : Id32) (payloadGeneration : UInt64) (offset : ℕ) :
    List Bytes → Except CryptoError (List Id32)
  | [] => .ok []
  | fragment :: fragments => do
    bailIf (2 ^ 16 ≤ offset + 1) .invalidFragments
    let leaf ← ciphertextFragmentLeaf crypto configId payloadGeneration (UInt16.ofNat (offset + 1))
      fragment
    let leaves ← fragmentLeaves crypto configId payloadGeneration (offset + 1) fragments
    .ok (leaf :: leaves)

def commitCiphertextFragments (crypto : Crypto) (configId : Id32) (payloadGeneration : UInt64)
    (fragments : List Bytes) : Except CryptoError (Id32 × List MerkleProofBytes) := do
  bailIf (fragments = [] ∨ 2 ^ 16 ≤ fragments.length) .invalidFragments
  let leaves ← fragmentLeaves crypto configId payloadGeneration 0 fragments
  crypto.merkleCommit leaves

end Coding

/-- Shards present as they stand in a code word, and enough of them. -/
structure Damaged (code : List Bytes) (dataShards : ℕ) (shards : List (Bytes × Bool)) : Prop where
  length : shards.length = code.length
  uniform : ∀ shard ∈ shards, ∀ word ∈ code, shard.1.length = word.length
  present : ∀ (i : ℕ) (shard : Bytes), shards[i]? = some (shard, true) → code[i]? = some shard
  enough : dataShards ≤ shards.countP (·.2)

/-- A systematic code that is maximum distance separable, for the numbers it accepts: the data
shards of a code word are those encoded, and come back from as many shards of it as they are. -/
structure ReedSolomon.Mds (coder : ReedSolomon) : Prop where
  encodes : ∀ dataShards parity width shards, coder.accepts dataShards parity = true →
    shards.length = dataShards + parity → 0 < width → Rows.Uniform width shards →
      ∃ code, coder.encode dataShards parity shards = some code ∧
        code.length = dataShards + parity ∧ Rows.Uniform width code ∧
        code.take dataShards = shards.take dataShards
  reconstructs : ∀ dataShards parity width shards code damaged,
    coder.accepts dataShards parity = true → shards.length = dataShards + parity → 0 < width →
      Rows.Uniform width shards → coder.encode dataShards parity shards = some code →
        Damaged code dataShards damaged →
          ∃ restored, coder.reconstruct dataShards parity damaged = some restored ∧
            restored.take dataShards = (code.take dataShards).map fun shard => (shard, true)

/-! ### Cutting and joining -/

section Encoding

variable {coder : ReedSolomon} {data : Bytes} {dataShards totalShards : UInt16} {code : List Bytes}

/-- The data in rows, with zeros behind it, before the parity is computed. -/
def dataRows (data : Bytes) (dataShards totalShards : UInt16) : List Bytes :=
  Rows.fill (shardLen data.length dataShards)
    (List.replicate totalShards.toNat (List.replicate (shardLen data.length dataShards) 0)) 0 data

theorem shardLen_pos (len : ℕ) (dataShards : UInt16) : 0 < shardLen len dataShards :=
  Nat.lt_of_lt_of_le Nat.zero_lt_one (Nat.le_max_right ..)

/-- The data fits in the data rows. -/
theorem le_shardLen_mul (len : ℕ) (hpositive : 0 < dataShards.toNat) :
    len ≤ dataShards.toNat * shardLen len dataShards := by
  have hceil : len ≤ dataShards.toNat * ((len + dataShards.toNat - 1) / dataShards.toNat) := by
    have hmod := Nat.div_add_mod (len + dataShards.toNat - 1) dataShards.toNat
    have hlt := Nat.mod_lt (len + dataShards.toNat - 1) hpositive
    omega
  exact hceil.trans (Nat.mul_le_mul_left _ (Nat.le_max_left ..))

theorem zeroRows_uniform (rows width : ℕ) :
    Rows.Uniform width (List.replicate rows (List.replicate width (0 : UInt8))) := by
  intro row hrow
  rw [List.eq_of_mem_replicate hrow, List.length_replicate]

theorem dataRows_uniform (data : Bytes) (dataShards totalShards : UInt16) :
    Rows.Uniform (shardLen data.length dataShards) (dataRows data dataShards totalShards) :=
  (zeroRows_uniform _ _).filled _ _

theorem dataRows_length (data : Bytes) (dataShards totalShards : UInt16) :
    (dataRows data dataShards totalShards).length = totalShards.toNat := by
  rw [dataRows, Rows.fill_length, List.length_replicate]

/-- Joining the data rows and cutting them to the length of the data gives the data. -/
theorem join_dataRows (hpositive : 0 < dataShards.toNat)
    (hle : dataShards.toNat ≤ totalShards.toNat) :
    (((dataRows data dataShards totalShards).take dataShards.toNat).flatten).take data.length =
      data := by
  have hdata := le_shardLen_mul data.length hpositive
  have hzero := Rows.length_flatten
    (zeroRows_uniform totalShards.toNat (shardLen data.length dataShards))
  rw [List.length_replicate] at hzero
  have hfits : 0 + data.length ≤ (List.replicate totalShards.toNat
      (List.replicate (shardLen data.length dataShards) (0 : UInt8))).flatten.length := by
    rw [hzero, Nat.zero_add]
    exact hdata.trans (Nat.mul_le_mul_right _ hle)
  have hjoined := Rows.flatten_fill
    (zeroRows_uniform totalShards.toNat (shardLen data.length dataShards))
    (shardLen_pos data.length dataShards) hfits
  rw [Rows.flatten_take (dataRows_uniform data dataShards totalShards), List.take_take,
    Nat.min_eq_left hdata, dataRows, hjoined, List.take_zero, List.nil_append, List.take_left]

theorem erasureEncode_eq_ok :
    erasureEncode coder data dataShards totalShards = .ok code ↔
      0 < dataShards.toNat ∧ dataShards.toNat ≤ totalShards.toNat ∧
        coder.accepts dataShards.toNat (totalShards - dataShards).toNat = true ∧
        coder.encode dataShards.toNat (totalShards - dataShards).toNat
          (dataRows data dataShards totalShards) = some code := by
  have hzero : dataShards = 0 ↔ ¬0 < dataShards.toNat := by
    rw [← UInt16.toNat_inj, Nat.pos_iff_ne_zero, not_not]
    rfl
  simp only [erasureEncode, bind_unit_eq_ok, bailIf_eq_ok, okOr_eq_ok, not_or, hzero, not_not,
    UInt16.not_lt, UInt16.le_iff_toNat_le, Bool.not_eq_false, dataRows, and_assoc]

theorem shard_counts (hle : dataShards.toNat ≤ totalShards.toNat) :
    dataShards.toNat + (totalShards - dataShards).toNat = totalShards.toNat := by
  rw [UInt16.toNat_sub_of_le _ _ (UInt16.le_iff_toNat_le.mpr hle)]
  omega

/-- A code word, as the library makes it. -/
structure CodeWord (coder : ReedSolomon) (data : Bytes) (dataShards totalShards : UInt16)
    (code : List Bytes) : Prop where
  length : code.length = totalShards.toNat
  uniform : Rows.Uniform (shardLen data.length dataShards) code
  systematic : code.take dataShards.toNat =
    (dataRows data dataShards totalShards).take dataShards.toNat

theorem codeWord_of_encode (hmds : coder.Mds)
    (h : erasureEncode coder data dataShards totalShards = .ok code) :
    CodeWord coder data dataShards totalShards code := by
  obtain ⟨-, hle, haccepts, hencode⟩ := erasureEncode_eq_ok.mp h
  have hlength : (dataRows data dataShards totalShards).length =
      dataShards.toNat + (totalShards - dataShards).toNat := by
    rw [dataRows_length, shard_counts hle]
  obtain ⟨word, hword, hcount, huniform, hsystematic⟩ := hmds.encodes _ _ _ _ haccepts hlength
    (shardLen_pos data.length dataShards) (dataRows_uniform data dataShards totalShards)
  rw [hencode] at hword
  cases hword
  exact ⟨hcount.trans (shard_counts hle), huniform, hsystematic⟩

theorem collectShards_present (shards : List Bytes) :
    collectShards (shards.map fun shard => (shard, true)) = .ok shards.flatten := by
  induction shards with
  | nil => rfl
  | cons shard shards ih => simp [collectShards, ih, bailIf, bind, Except.bind]

end Encoding

/-! ### Placing the fragments -/

section Placing

variable {width : ℕ} {shards placed : List (Bytes × Bool)} {fragments : List (UInt16 × Bytes)}
  {code : List Bytes}

/-- Fragments of one length under distinct indices from one up. -/
structure WellFormedFragments (fragments : List (UInt16 × Bytes)) (totalShards width : ℕ) :
    Prop where
  distinct : (fragments.map (·.1)).Nodup
  inRange : ∀ fragment ∈ fragments, 1 ≤ fragment.1.toNat ∧ fragment.1.toNat ≤ totalShards
  uniform : ∀ fragment ∈ fragments, fragment.2.length = width

/-- The position of an index that is in range. -/
def positionOf (index : UInt16) : ℕ := index.toNat - 1

theorem index_ne_zero_iff {index : UInt16} : ¬index = 0 ↔ 1 ≤ index.toNat := by
  rw [← UInt16.toNat_inj]
  exact Nat.one_le_iff_ne_zero.symm

theorem placeFragments_cons_ok {index : UInt16} {fragment : Bytes} :
    placeFragments width shards ((index, fragment) :: fragments) = .ok placed ↔
      (1 ≤ index.toNat ∧ positionOf index < shards.length) ∧
        (fragment.length = width ∧ shards[positionOf index]?.map (·.2) ≠ some true) ∧
        placeFragments width (shards.set (positionOf index) (fragment, true)) fragments =
          .ok placed := by
  simp only [placeFragments, bind_unit_eq_ok, bailIf_eq_ok, not_or, index_ne_zero_iff, Nat.not_le,
    ne_eq, not_not, positionOf]

theorem placeFragments_wellFormed (h : placeFragments width shards fragments = .ok placed) :
    WellFormedFragments fragments shards.length width ∧
      ∀ fragment ∈ fragments, shards[positionOf fragment.1]?.map (·.2) ≠ some true := by
  induction fragments generalizing shards with
  | nil => exact ⟨⟨List.nodup_nil, nofun, nofun⟩, nofun⟩
  | cons first fragments ih =>
    obtain ⟨index, fragment⟩ := first
    obtain ⟨⟨hpositive, hposition⟩, ⟨hlength, hfree⟩, hrest⟩ := placeFragments_cons_ok.mp h
    obtain ⟨hwell, hfresh⟩ := ih hrest
    rw [List.length_set] at hwell
    -- A later fragment finds this one's place taken.
    have hother : ∀ later ∈ fragments, positionOf later.1 ≠ positionOf index := by
      intro later hlater heq
      refine hfresh later hlater ?_
      rw [heq, List.getElem?_set_self hposition]
      rfl
    refine ⟨⟨?_, ?_, ?_⟩, ?_⟩
    · rw [List.map_cons, List.nodup_cons]
      refine ⟨fun hmem => ?_, hwell.distinct⟩
      obtain ⟨later, hlater, heq⟩ := List.mem_map.mp hmem
      exact hother later hlater (by rw [heq])
    · rw [List.forall_mem_cons]
      refine ⟨⟨hpositive, ?_⟩, hwell.inRange⟩
      unfold positionOf at hposition
      simp only
      omega
    · exact List.forall_mem_cons.mpr ⟨hlength, hwell.uniform⟩
    · rw [List.forall_mem_cons]
      refine ⟨hfree, fun later hlater => ?_⟩
      have hkept := hfresh later hlater
      rwa [List.getElem?_set_ne (hother later hlater).symm] at hkept

/-- Shards of the width of a code word, present only as they stand in it. -/
structure Placed (code : List Bytes) (width : ℕ) (shards : List (Bytes × Bool)) : Prop where
  length : shards.length = code.length
  uniform : ∀ shard ∈ shards, shard.1.length = width
  present : ∀ (i : ℕ) (shard : Bytes), shards[i]? = some (shard, true) → code[i]? = some shard

theorem Placed.start (code : List Bytes) (width : ℕ) :
    Placed code width (List.replicate code.length (List.replicate width 0, false)) := by
  refine ⟨List.length_replicate .., fun shard hshard => ?_, fun i shard hshard => ?_⟩
  · rw [List.eq_of_mem_replicate hshard, List.length_replicate]
  · have hmem := List.eq_of_mem_replicate (List.mem_of_getElem? hshard)
    cases hmem

theorem Placed.set (h : Placed code width shards) {i : ℕ} {fragment : Bytes}
    (hcode : code[i]? = some fragment) (hlength : fragment.length = width) :
    Placed code width (shards.set i (fragment, true)) := by
  refine ⟨?_, fun shard hshard => ?_, fun j shard hshard => ?_⟩
  · rw [List.length_set, h.length]
  · rcases List.mem_or_eq_of_mem_set hshard with hold | rfl
    · exact h.uniform shard hold
    · exact hlength
  · by_cases hsame : i = j
    · subst hsame
      have hi : i < shards.length := by
        rw [h.length]
        exact (List.getElem?_eq_some_iff.mp hcode).1
      rw [List.getElem?_set_self hi] at hshard
      cases hshard
      exact hcode
    · rw [List.getElem?_set_ne hsame] at hshard
      exact h.present j shard hshard

/-- Fragments of a code word under their own indices. -/
def pick (code : List Bytes) (chosen : List UInt16) : List (UInt16 × Bytes) :=
  chosen.map fun index => (index, (code[positionOf index]?).getD [])

theorem placeFragments_pick (huniform : Rows.Uniform width code) {chosen : List UInt16}
    (hplaced : Placed code width shards) (hdistinct : chosen.Nodup)
    (hrange : ∀ index ∈ chosen, 1 ≤ index.toNat ∧ index.toNat ≤ code.length)
    (hfree : ∀ index ∈ chosen, shards[positionOf index]?.map (·.2) = some false) :
    ∃ placed, placeFragments width shards (pick code chosen) = .ok placed ∧
      Placed code width placed ∧
      placed.countP (·.2) = shards.countP (·.2) + chosen.length := by
  induction chosen generalizing shards with
  | nil => exact ⟨shards, rfl, hplaced, rfl⟩
  | cons index chosen ih =>
    obtain ⟨hnot, hdistinct⟩ := List.nodup_cons.mp hdistinct
    obtain ⟨⟨hpositive, hle⟩, hrange⟩ := List.forall_mem_cons.mp hrange
    obtain ⟨hhere, hfree⟩ := List.forall_mem_cons.mp hfree
    have hposition : positionOf index < code.length := by
      unfold positionOf
      omega
    have hcode := List.getElem?_eq_getElem hposition
    have hlength : (code[positionOf index]).length = width :=
      huniform _ (List.getElem_mem hposition)
    have hlater : ∀ later ∈ chosen,
        (shards.set (positionOf index) (code[positionOf index], true))[positionOf later]?.map
          (·.2) = some false := by
      intro later hmem
      have hne : positionOf index ≠ positionOf later := by
        intro heq
        have hlaterPositive := (hrange later hmem).1
        have hsame : index = later := by
          apply UInt16.toNat_inj.mp
          unfold positionOf at heq
          omega
        exact hnot (hsame ▸ hmem)
      rw [List.getElem?_set_ne hne]
      exact hfree later hmem
    obtain ⟨placed, hok, hnext, hcount⟩ := ih (hplaced.set hcode hlength) hdistinct hrange hlater
    refine ⟨placed, ?_, hnext, ?_⟩
    · rw [pick, List.map_cons, hcode, Option.getD_some, placeFragments_cons_ok, hplaced.length,
        hhere]
      exact ⟨⟨hpositive, hposition⟩, ⟨hlength, nofun⟩, hok⟩
    · have hbound : positionOf index < shards.length := hplaced.length ▸ hposition
      rw [hcount, List.countP_set hbound]
      rw [List.getElem?_eq_getElem hbound, Option.map_some, Option.some.injEq] at hhere
      simp [hhere]
      omega

end Placing

/-! ### The round trip -/

/-- Indices to reconstruct from: distinct, in range, and enough of them. -/
structure Chosen (dataShards totalShards : UInt16) (chosen : List UInt16) : Prop where
  distinct : chosen.Nodup
  inRange : ∀ index ∈ chosen, 1 ≤ index.toNat ∧ index.toNat ≤ totalShards.toNat
  enough : dataShards.toNat ≤ chosen.length

section RoundTrip

variable {coder : ReedSolomon} {data : Bytes} {dataShards totalShards : UInt16} {code : List Bytes}
  {chosen : List UInt16}

/-- The chosen fragments of a code word are placed as a damaged code word. -/
theorem placeFragments_damaged (hcode : CodeWord coder data dataShards totalShards code)
    (hchosen : Chosen dataShards totalShards chosen) :
    ∃ placed, placeFragments (shardLen data.length dataShards)
        (List.replicate totalShards.toNat
          (List.replicate (shardLen data.length dataShards) 0, false)) (pick code chosen) =
        .ok placed ∧ Damaged code dataShards.toNat placed := by
  have hrange : ∀ index ∈ chosen, 1 ≤ index.toNat ∧ index.toNat ≤ code.length := by
    rw [hcode.length]
    exact hchosen.inRange
  have hfree : ∀ index ∈ chosen, (List.replicate code.length
      (List.replicate (shardLen data.length dataShards) (0 : UInt8), false))[positionOf index]?.map
        (·.2) = some false := by
    intro index hmem
    obtain ⟨hpositive, hle⟩ := hrange index hmem
    have hposition : positionOf index < code.length := by
      unfold positionOf
      omega
    rw [List.getElem?_replicate_of_lt hposition]
    rfl
  obtain ⟨placed, hok, hplaced, hcount⟩ := placeFragments_pick hcode.uniform
    (.start code (shardLen data.length dataShards)) hchosen.distinct hrange hfree
  rw [hcode.length] at hok
  refine ⟨placed, hok, hplaced.length, fun shard hshard word hword => ?_, hplaced.present, ?_⟩
  · rw [hplaced.uniform shard hshard, hcode.uniform word hword]
  · rw [hcount]
    exact hchosen.enough.trans (Nat.le_add_left ..)

/-- Any fragments that are enough give the data back, in any order. -/
theorem erasureReconstruct_pick (hmds : coder.Mds)
    (hencode : erasureEncode coder data dataShards totalShards = .ok code)
    (hchosen : Chosen dataShards totalShards chosen) :
    erasureReconstruct coder (pick code chosen) dataShards totalShards data.length = .ok data := by
  have hcode := codeWord_of_encode hmds hencode
  obtain ⟨hpositive, hle, haccepts, hword⟩ := erasureEncode_eq_ok.mp hencode
  obtain ⟨placed, hplaced, hdamaged⟩ := placeFragments_damaged hcode hchosen
  have hlength : (dataRows data dataShards totalShards).length =
      dataShards.toNat + (totalShards - dataShards).toNat := by
    rw [dataRows_length, shard_counts hle]
  obtain ⟨restored, hrestored, hdata⟩ := hmds.reconstructs _ _ _ _ code placed haccepts hlength
    (shardLen_pos data.length dataShards) (dataRows_uniform data dataShards totalShards) hword
    hdamaged
  have hhead : ((pick code chosen).head?.map (·.2.length)).filter (0 < ·) =
      some (shardLen data.length dataShards) := by
    cases chosen with
    | nil => exact absurd hchosen.enough (Nat.not_le.mpr hpositive)
    | cons index chosen =>
      obtain ⟨hone, hbound⟩ := hchosen.inRange index (List.mem_cons_self ..)
      have hposition : positionOf index < code.length := by
        rw [hcode.length]
        unfold positionOf
        omega
      have hwidth := hcode.uniform _ (List.getElem_mem hposition)
      simp [pick, List.getElem?_eq_getElem hposition, hwidth, shardLen_pos]
  have henough : ¬((pick code chosen).length < dataShards.toNat ∨ totalShards < dataShards) := by
    rw [pick, List.length_map, not_or, Nat.not_lt, UInt16.not_lt, UInt16.le_iff_toNat_le]
    exact ⟨hchosen.enough, hle⟩
  simp only [erasureReconstruct, bailIf_eq_ok, Bool.not_eq_false, haccepts, henough,
    not_false_eq_true, true_and, bind_eq_ok, exists_const, okOr_eq_ok, hhead, Option.some.injEq,
    exists_eq_left', hplaced, Except.ok.injEq, hrestored, hdata, collectShards_present]
  rw [hcode.systematic]
  exact join_dataRows hpositive hle

theorem rotateCiphertextFragments_pick (hmds : coder.Mds)
    (hencode : erasureEncode coder data dataShards totalShards = .ok code)
    (hchosen : Chosen dataShards totalShards chosen) :
    rotateCiphertextFragments coder (pick code chosen) dataShards totalShards data.length
      dataShards totalShards = .ok code := by
  have hindices : (pick code chosen).map (·.1) = chosen := by
    rw [pick, List.map_map]
    exact List.map_id chosen
  simp only [rotateCiphertextFragments, bailIf_eq_ok, hindices, not_not, bind_eq_ok, exists_const]
  exact ⟨hchosen.distinct, data, erasureReconstruct_pick hmds hencode hchosen, hencode⟩

/-- Rotation after rotation, each from fragments chosen anew. -/
def rotateRepeatedly (coder : ReedSolomon) (dataShards totalShards : UInt16) (len : ℕ) :
    List Bytes → List (List UInt16) → Except CryptoError (List Bytes)
  | code, [] => .ok code
  | code, chosen :: choices => do
    let code ← rotateCiphertextFragments coder (pick code chosen) dataShards totalShards len
      dataShards totalShards
    rotateRepeatedly coder dataShards totalShards len code choices

theorem rotateRepeatedly_eq (hmds : coder.Mds)
    (hencode : erasureEncode coder data dataShards totalShards = .ok code)
    {choices : List (List UInt16)}
    (hchoices : ∀ chosen ∈ choices, Chosen dataShards totalShards chosen) :
    rotateRepeatedly coder dataShards totalShards data.length code choices = .ok code := by
  induction choices with
  | nil => rfl
  | cons chosen choices ih =>
    obtain ⟨hchosen, hchoices⟩ := List.forall_mem_cons.mp hchoices
    refine bind_eq_ok.mpr ⟨code, ?_, ih hchoices⟩
    exact rotateCiphertextFragments_pick hmds hencode hchosen

theorem erasureReconstruct_wellFormed {fragments : List (UInt16 × Bytes)} {len : ℕ}
    (h : erasureReconstruct coder fragments dataShards totalShards len = .ok data) :
    ∃ width, 0 < width ∧ WellFormedFragments fragments totalShards.toNat width := by
  simp only [erasureReconstruct, bailIf_eq_ok, bind_eq_ok, exists_const, okOr_eq_ok,
    Option.filter_eq_some_iff, decide_eq_true_eq] at h
  obtain ⟨-, -, width, ⟨-, hpositive⟩, placed, hplaced, -⟩ := h
  have hwell := (placeFragments_wellFormed hplaced).1
  rw [List.length_replicate] at hwell
  exact ⟨width, hpositive, hwell⟩

theorem rotateCiphertextFragments_wellFormed {fragments : List (UInt16 × Bytes)} {len : ℕ}
    {newDataShards newTotalShards : UInt16}
    (h : rotateCiphertextFragments coder fragments dataShards totalShards len newDataShards
      newTotalShards = .ok code) :
    ∃ width, 0 < width ∧ WellFormedFragments fragments totalShards.toNat width := by
  simp only [rotateCiphertextFragments, bailIf_eq_ok, bind_eq_ok, exists_const] at h
  obtain ⟨-, ciphertext, hreconstruct, -⟩ := h
  exact erasureReconstruct_wellFormed hreconstruct

end RoundTrip

/-- What the wrapper makes of a systematic MDS code. -/
structure CodingStable (coder : ReedSolomon) : Prop where
  roundTrip : ∀ data dataShards totalShards code chosen,
    erasureEncode coder data dataShards totalShards = .ok code →
      Chosen dataShards totalShards chosen →
        erasureReconstruct coder (pick code chosen) dataShards totalShards data.length = .ok data
  rotated : ∀ data dataShards totalShards code choices,
    erasureEncode coder data dataShards totalShards = .ok code →
      (∀ chosen ∈ choices, Chosen dataShards totalShards chosen) →
        rotateRepeatedly coder dataShards totalShards data.length code choices = .ok code
  committed : ∀ crypto configId payloadGeneration data dataShards totalShards code choices,
    erasureEncode coder data dataShards totalShards = .ok code →
      (∀ chosen ∈ choices, Chosen dataShards totalShards chosen) →
        (do
          let code ← rotateRepeatedly coder dataShards totalShards data.length code choices
          commitCiphertextFragments crypto configId payloadGeneration code) =
        commitCiphertextFragments crypto configId payloadGeneration code
  refuses : ∀ fragments dataShards totalShards len,
    (¬∃ width, 0 < width ∧ WellFormedFragments fragments totalShards.toNat width) →
      (∃ e, erasureReconstruct coder fragments dataShards totalShards len = .error e) ∧
      ∀ newDataShards newTotalShards, ∃ e,
        rotateCiphertextFragments coder fragments dataShards totalShards len newDataShards
          newTotalShards = .error e

theorem error_of_not_ok {ε α : Type} {x : Except ε α} (h : ∀ a, x ≠ .ok a) : ∃ e, x = .error e := by
  cases x with
  | ok a => exact absurd rfl (h a)
  | error e => exact ⟨e, rfl⟩

/-- Enough fragments of any ciphertext give it back; rotating with the same numbers changes neither
the fragments nor their root; fragments under repeated or foreign indices, or of several lengths,
are refused. -/
theorem erasure_coding_stable (coder : ReedSolomon) (hmds : coder.Mds) : CodingStable coder where
  roundTrip _ _ _ _ _ := erasureReconstruct_pick hmds
  rotated _ _ _ _ _ hencode hchoices := rotateRepeatedly_eq hmds hencode hchoices
  committed _ _ _ _ _ _ _ _ hencode hchoices := by
    rw [rotateRepeatedly_eq hmds hencode hchoices]
    rfl
  refuses fragments dataShards totalShards len hmalformed := by
    refine ⟨error_of_not_ok fun data hok => ?_, fun newDataShards newTotalShards =>
      error_of_not_ok fun code hok => ?_⟩
    · exact hmalformed (erasureReconstruct_wellFormed hok)
    · exact hmalformed (rotateCiphertextFragments_wellFormed hok)

/-- The code with one data shard, whose shards are all alike. -/
def ReedSolomon.copies : ReedSolomon where
  accepts dataShards parity := dataShards == 1 && decide (0 < parity) && decide (parity < 256)
  encode _ parity shards := shards.head?.map fun shard => List.replicate (parity + 1) shard
  reconstruct _ _ shards := (shards.find? (·.2)).map fun shard => shards.map fun _ => shard

theorem ReedSolomon.copies_mds : ReedSolomon.copies.Mds where
  encodes dataShards parity width shards haccepts hlength hwidth huniform := by
    simp only [copies, Bool.and_eq_true, beq_iff_eq, decide_eq_true_eq] at haccepts
    obtain ⟨⟨rfl, -⟩, -⟩ := haccepts
    cases shards with
    | nil =>
      rw [List.length_nil] at hlength
      omega
    | cons shard shards =>
      refine ⟨List.replicate (parity + 1) shard, rfl, ?_, fun row hrow => ?_, ?_⟩
      · rw [List.length_replicate, Nat.add_comm]
      · rw [List.eq_of_mem_replicate hrow]
        exact huniform shard (List.mem_cons_self ..)
      · simp
  reconstructs dataShards parity width shards code damaged haccepts hlength hwidth huniform hencode
      hdamaged := by
    simp only [copies, Bool.and_eq_true, beq_iff_eq, decide_eq_true_eq] at haccepts
    obtain ⟨⟨rfl, -⟩, -⟩ := haccepts
    cases shards with
    | nil =>
      rw [List.length_nil] at hlength
      omega
    | cons shard shards =>
      simp only [copies, List.head?_cons, Option.map_some, Option.some.injEq] at hencode
      subst hencode
      obtain ⟨found, hmem, hpresent⟩ := List.countP_pos_iff.mp hdamaged.enough
      obtain ⟨⟨first, present⟩, hfind⟩ := Option.isSome_iff_exists.mp
        (List.find?_isSome.mpr ⟨found, hmem, hpresent⟩)
      have hsome : present = true := List.find?_some hfind
      obtain ⟨i, hi⟩ := List.mem_iff_getElem?.mp (List.mem_of_find?_eq_some hfind)
      subst hsome
      have hfirst : first = shard := by
        have hword := List.mem_of_getElem? (hdamaged.present i first hi)
        exact List.eq_of_mem_replicate hword
      have hcount : damaged ≠ [] := List.ne_nil_of_mem hmem
      refine ⟨damaged.map fun _ => (first, true), ?_, ?_⟩
      · simp [copies, hfind]
      · cases damaged with
        | nil => exact absurd rfl hcount
        | cons head damaged => simp [hfirst]

/-- A ciphertext of one data shard among three, given back by the third of them. -/
theorem erasure_coding_stable_sample :
    erasureReconstruct .copies (pick [[5, 6, 7], [5, 6, 7], [5, 6, 7]] [3]) 1 3 3 =
      .ok [5, 6, 7] := by
  refine (erasure_coding_stable .copies ReedSolomon.copies_mds).roundTrip [5, 6, 7] 1 3 _ [3] ?_
    ⟨?_, ?_, ?_⟩
  · decide
  · exact List.nodup_singleton 3
  · simp
  · decide

end MasterRecovery
