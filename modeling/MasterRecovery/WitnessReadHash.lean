import MasterRecovery.RotationCertificates
import MasterRecovery.RollbackSafety
import Mathlib.Data.List.Sort

/-!
# The hash of a witness read

What is hashed has no count: the challenge, then one record for each read, in the order of the
witness ids. The records are self-delimiting and never empty, so the bytes tell where each one ends
and how many there are.
-/

namespace MasterRecovery
open Checks Transcript Wire

variable {crypto : Crypto} {challenge challenge' : EpochReadChallenge}
  {reads reads' : List WitnessReadEnvelope} {hash : Id32}

/-! ### Records -/

/-- The bytes of one read. -/
def readRecord (read : WitnessReadEnvelope) : Put :=
  witnessEpochReadResponse read.response ++ (.ok (idBytes read.capsule.capsuleHash) : Put)

/-- The signed content of the response, and the hash of the capsule that came with it. -/
def readContent (read : WitnessReadEnvelope) : WitnessEpochReadResponse × Id32 :=
  (readResponseUnsigned read.response, read.capsule.capsuleHash)

theorem hash_binding : SelfDelimiting (fun hash : Id32 => (.ok (idBytes hash) : Put)) id :=
  (SelfDelimiting.fixed 32 fun hash : Id32 => hash.isLt.trans_eq (by norm_num)).weaken
    fun _ _ => BitVec.eq_of_toNat_eq

theorem readRecord_binding : SelfDelimiting readRecord readContent :=
  (witnessEpochReadResponse_framed.binds.comp fun read : WitnessReadEnvelope => read.response).seq
    (hash_binding.comp fun read : WitnessReadEnvelope => read.capsule.capsuleHash)

theorem readRecord_eq_ok {read : WitnessReadEnvelope} {x : Bytes} :
    readRecord read = .ok x ↔
      ∃ response, witnessEpochReadResponse read.response = .ok response ∧
        response ++ idBytes read.capsule.capsuleHash = x := by
  simp [readRecord, append_eq_ok]

theorem readRecord_ne_nil (read : WitnessReadEnvelope) : readRecord read ≠ .ok [] := by
  intro hnil
  obtain ⟨response, -, happend⟩ := readRecord_eq_ok.mp hnil
  have hlength := congrArg List.length happend
  simp at hlength

theorem succeeds_readRecord {read : WitnessReadEnvelope} :
    Succeeds (readRecord read) ↔ Succeeds (witnessEpochReadResponse read.response) :=
  ⟨Succeeds.left, fun h => h.append ⟨_, rfl⟩⟩

theorem succeeds_putAll {enc : WitnessReadEnvelope → Put} :
    Succeeds (putAll enc reads) ↔ ∀ read ∈ reads, Succeeds (enc read) := by
  induction reads with
  | nil => simp [putAll, Succeeds]
  | cons read reads ih =>
    rw [List.forall_mem_cons, ← ih]
    exact ⟨fun h => ⟨h.left, h.right⟩, fun h => h.1.append h.2⟩

/-! ### The order of the reads -/

/-- The witnesses of the reads, as they come. -/
def readWitnesses (reads : List WitnessReadEnvelope) : List UInt16 :=
  reads.map (·.response.witnessId)

/-- The reads in the order of their witnesses. -/
def orderedReads (reads : List WitnessReadEnvelope) : List WitnessReadEnvelope :=
  reads.insertionSort fun a b => a.response.witnessId ≤ b.response.witnessId

theorem orderedReads_perm (reads : List WitnessReadEnvelope) : (orderedReads reads).Perm reads :=
  List.perm_insertionSort _ _

theorem orderedReads_pairwise (reads : List WitnessReadEnvelope) :
    (orderedReads reads).Pairwise fun a b => a.response.witnessId ≤ b.response.witnessId :=
  List.pairwise_insertionSort _ reads

/-- With one read of each witness, the order does not depend on how they came. -/
theorem orderedReads_eq (hperm : reads.Perm reads') (hdistinct : (readWitnesses reads).Nodup) :
    orderedReads reads' = orderedReads reads := by
  have hperm' : (orderedReads reads').Perm (orderedReads reads) :=
    (orderedReads_perm reads').trans (hperm.symm.trans (orderedReads_perm reads).symm)
  refine hperm'.eq_of_pairwise (fun a b ha hb hab hba => ?_) (orderedReads_pairwise reads')
    (orderedReads_pairwise reads)
  have ha' : a ∈ reads := (orderedReads_perm reads).subset (hperm'.subset ha)
  have hb' : b ∈ reads := (orderedReads_perm reads).subset hb
  exact List.inj_on_of_nodup_map hdistinct ha' hb' (UInt16.le_antisymm hab hba)

/-! ### What is hashed -/

/-- The challenge and the records, one after the other. -/
def readTranscript (challenge : EpochReadChallenge) (reads : List WitnessReadEnvelope) : Put :=
  epochReadChallenge challenge ++ putAll readRecord (orderedReads reads)

theorem readMaterial_eq_ok {ids : Finset UInt16} {material x : Bytes} :
    readMaterial ids material reads = .ok x ↔
      ((readWitnesses reads).Nodup ∧ ∀ read ∈ reads, read.response.witnessId ∉ ids) ∧
        ∃ records, putAll readRecord reads = .ok records ∧ material ++ records = x := by
  induction reads generalizing ids material with
  | nil => simp [readMaterial, putAll, readWitnesses]
  | cons read reads ih =>
    simp only [readMaterial, Checks.bind_eq_ok, bailIf_eq_ok, exists_const, wire_eq_ok, ih]
    simp only [readWitnesses, List.map_cons, List.nodup_cons, List.mem_map, List.forall_mem_cons,
      Finset.mem_insert, not_or, putAll, append_eq_ok, readRecord_eq_ok]
    constructor
    · rintro ⟨hfresh, response, hresponse, ⟨hdistinct, hnew⟩, records, hrecords, rfl⟩
      have hown : ¬∃ other ∈ reads, other.response.witnessId = read.response.witnessId := by
        rintro ⟨other, hother, hsame⟩
        exact (hnew other hother).1 hsame
      exact ⟨⟨⟨hown, hdistinct⟩, hfresh, fun other hother => (hnew other hother).2⟩, _,
        ⟨_, records, ⟨response, hresponse, rfl⟩, hrecords, rfl⟩, by simp⟩
    · rintro ⟨⟨⟨hown, hdistinct⟩, hfresh, hnew⟩, _, ⟨_, records, ⟨response, hresponse, rfl⟩,
        hrecords, rfl⟩, rfl⟩
      have hother : ∀ other ∈ reads, ¬other.response.witnessId = read.response.witnessId :=
        fun other hother hsame => hown ⟨other, hother, hsame⟩
      exact ⟨hfresh, response, hresponse,
        ⟨hdistinct, fun other hmem => ⟨hother other hmem, hnew other hmem⟩⟩, records, hrecords,
        by simp⟩

theorem witnessReadQuorumHashV3_eq_ok :
    witnessReadQuorumHashV3 crypto challenge reads = .ok hash ↔
      (readWitnesses reads).Nodup ∧
        ∃ material, readTranscript challenge reads = .ok material ∧
          crypto.sha256 material = hash := by
  have hdistinct : (readWitnesses (orderedReads reads)).Nodup ↔ (readWitnesses reads).Nodup :=
    ((orderedReads_perm reads).map _).nodup_iff
  simp only [witnessReadQuorumHashV3, Checks.bind_eq_ok, wire_eq_ok, Except.ok.injEq,
    readTranscript, append_eq_ok]
  constructor
  · rintro ⟨first, hfirst, material, hmaterial, rfl⟩
    obtain ⟨⟨hnodup, -⟩, records, hrecords, rfl⟩ := readMaterial_eq_ok.mp hmaterial
    exact ⟨hdistinct.mp hnodup, _, ⟨first, records, hfirst, hrecords, rfl⟩, rfl⟩
  · rintro ⟨hnodup, _, ⟨first, records, hfirst, hrecords, rfl⟩, rfl⟩
    exact ⟨first, hfirst, _, readMaterial_eq_ok.mpr
      ⟨⟨hdistinct.mpr hnodup, by simp⟩, records, hrecords, rfl⟩, rfl⟩

/-- A call is refused for two reads of one witness or for bytes that cannot be written. -/
theorem witnessReadQuorumHashV3_succeeds :
    (∃ hash, witnessReadQuorumHashV3 crypto challenge reads = .ok hash) ↔
      (readWitnesses reads).Nodup ∧ Succeeds (epochReadChallenge challenge) ∧
        ∀ read ∈ reads, Succeeds (witnessEpochReadResponse read.response) := by
  have hrecords : Succeeds (putAll readRecord (orderedReads reads)) ↔
      ∀ read ∈ reads, Succeeds (witnessEpochReadResponse read.response) := by
    simp only [succeeds_putAll, succeeds_readRecord, (orderedReads_perm reads).mem_iff]
  rw [← hrecords]
  constructor
  · rintro ⟨hash, hhash⟩
    obtain ⟨hnodup, material, hmaterial, -⟩ := witnessReadQuorumHashV3_eq_ok.mp hhash
    exact ⟨hnodup, Succeeds.left ⟨material, hmaterial⟩, Succeeds.right ⟨material, hmaterial⟩⟩
  · rintro ⟨hnodup, hchallenge, hreads⟩
    obtain ⟨material, hmaterial⟩ : Succeeds (readTranscript challenge reads) :=
      hchallenge.append hreads
    exact ⟨_, witnessReadQuorumHashV3_eq_ok.mpr ⟨hnodup, material, hmaterial, rfl⟩⟩

theorem witnessReadQuorumHashV3_perm (hperm : reads.Perm reads') :
    witnessReadQuorumHashV3 crypto challenge reads' = .ok hash ↔
      witnessReadQuorumHashV3 crypto challenge reads = .ok hash := by
  have hnodup : (readWitnesses reads').Nodup ↔ (readWitnesses reads).Nodup :=
    (hperm.symm.map _).nodup_iff
  rw [witnessReadQuorumHashV3_eq_ok, witnessReadQuorumHashV3_eq_ok, hnodup]
  refine and_congr_right fun hdistinct => ?_
  rw [readTranscript, orderedReads_eq hperm hdistinct, ← readTranscript]

/-- The bytes determine the challenge and the contents of the reads. -/
theorem readTranscript_binding {material : Bytes}
    (h : readTranscript challenge reads = .ok material)
    (h' : readTranscript challenge' reads' = .ok material) :
    challenge = challenge' ∧ (reads.map readContent).Perm (reads'.map readContent) := by
  obtain ⟨first, records, hfirst, hrecords, rfl⟩ := append_eq_ok.mp h
  obtain ⟨first', records', hfirst', hrecords', heq⟩ := append_eq_ok.mp h'
  obtain ⟨hchallenge, rfl⟩ := epochReadChallenge_framed.binds hfirst hfirst' heq.symm
  have hsame := readRecord_binding.putAll_injective readRecord_ne_nil hrecords hrecords'
  refine ⟨hchallenge, ?_⟩
  calc (reads.map readContent).Perm ((orderedReads reads).map readContent) :=
        (orderedReads_perm reads).symm.map _
    _ = (orderedReads reads').map readContent := hsame
    _ |>.Perm (reads'.map readContent) := (orderedReads_perm reads').map _

/-! ### The hash -/

/-- What the hash of a challenge and a list of reads stands for, beside that of another. -/
structure ReadHashCommits (crypto : Crypto) (challenge challenge' : EpochReadChallenge)
    (reads reads' : List WitnessReadEnvelope) : Prop where
  permuted : reads.Perm reads' →
    (witnessReadQuorumHashV3 crypto challenge reads').toOption =
      (witnessReadQuorumHashV3 crypto challenge reads).toOption
  refused : (∃ text, witnessReadQuorumHashV3 crypto challenge reads = .error text) ↔
    ¬(readWitnesses reads).Nodup ∨ ¬Succeeds (epochReadChallenge challenge) ∨
      ∃ read ∈ reads, ¬Succeeds (witnessEpochReadResponse read.response)
  commits : ∀ hash,
    crypto.CollisionFree
      {x | readTranscript challenge reads = .ok x ∨ readTranscript challenge' reads' = .ok x} →
    witnessReadQuorumHashV3 crypto challenge reads = .ok hash →
    witnessReadQuorumHashV3 crypto challenge' reads' = .ok hash →
    challenge = challenge' ∧ (reads.map readContent).Perm (reads'.map readContent)

/-- The read hash does not depend on the order of the reads, is refused for repeated witnesses and
malformed transcripts only, and commits to the challenge and to what each witness has signed. -/
theorem read_hash_commits (crypto : Crypto) (challenge challenge' : EpochReadChallenge)
    (reads reads' : List WitnessReadEnvelope) :
    ReadHashCommits crypto challenge challenge' reads reads' where
  permuted hperm := by
    ext hash
    rw [toOption_eq_some, toOption_eq_some, witnessReadQuorumHashV3_perm hperm]
  refused := by
    have hfails : (∃ text, witnessReadQuorumHashV3 crypto challenge reads = .error text) ↔
        ¬∃ hash, witnessReadQuorumHashV3 crypto challenge reads = .ok hash := by
      cases witnessReadQuorumHashV3 crypto challenge reads <;> simp
    rw [hfails, witnessReadQuorumHashV3_succeeds, not_and_or, not_and_or]
    simp only [not_forall, exists_prop]
  commits hash hfree h h' := by
    obtain ⟨-, material, hmaterial, rfl⟩ := witnessReadQuorumHashV3_eq_ok.mp h
    obtain ⟨-, material', hmaterial', hsame⟩ := witnessReadQuorumHashV3_eq_ok.mp h'
    cases hfree (Or.inr hmaterial') (Or.inl hmaterial) hsame
    exact readTranscript_binding hmaterial hmaterial'

example : (witnessReadQuorumHashV3 Crypto.transparent sampleChallenge sampleView).isOk =
    true := by
  decide +kernel

end MasterRecovery
