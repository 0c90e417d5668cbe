import MasterRecovery.Lib.Calls
import MasterRecovery.Lib.WriteOnce
import MasterRecovery.Storage

/-!
# Two witnesses (gp-core/src/rotation.rs, gp-storage/src/rotation.rs)

The deterministic model of a witness and the register it is kept in take the same offers. The model
looks at its highest epoch before it looks at its locks, the register after; the highest epoch has
moved on from an offer that is sent again.
-/

namespace MasterRecovery
open Checks

inductive EpochWitnessError
  | invalidEvidence
  | failClosed
  | invalidSuccessor
  | predecessorLocked
  deriving DecidableEq

def EpochWitnessError.text : EpochWitnessError → String
  | .invalidEvidence => "certificate, result, or quorum is invalid"
  | .failClosed => "rotation state is ambiguous; fail closed"
  | .invalidSuccessor => "successor is not the exact next guardian epoch"
  | .predecessorLocked => "another successor is already locked for this predecessor"

/-- `WitnessAction::PersistSuccessorBeforeAck`. -/
structure PersistSuccessorBeforeAck where
  predecessorEpoch : UInt64
  predecessorHash : Id32
  successorEpoch : UInt64
  successorHash : Id32
  deriving DecidableEq

structure EpochWitnessMachine where
  configId : Id32
  highestEpoch : UInt64
  highestCapsuleHash : Id32
  predecessorLocks : Std.TreeMap Id32 Id32
  seenReadNonces : Finset Id32
  ambiguous : Bool

namespace EpochWitnessMachine

def new (configId : Id32) (highestEpoch : UInt64) (highestCapsuleHash : Id32) :
    EpochWitnessMachine where
  configId := configId
  highestEpoch := highestEpoch
  highestCapsuleHash := highestCapsuleHash
  predecessorLocks := ∅
  seenReadNonces := ∅
  ambiguous := false

def acceptSuccessor (predecessor : ConfigRef) (predecessorCapsuleHash : Id32)
    (successor : ConfigRef) (successorCapsuleHash : Id32) (activationCertificateValid : Bool) :
    EStateM EpochWitnessError EpochWitnessMachine PersistSuccessorBeforeAck := fun machine =>
  let action : PersistSuccessorBeforeAck :=
    { predecessorEpoch := predecessor.guardianEpoch
      predecessorHash := predecessorCapsuleHash
      successorEpoch := successor.guardianEpoch
      successorHash := successorCapsuleHash }
  if machine.ambiguous = true then .error .failClosed machine
  else if activationCertificateValid = false then .error .invalidEvidence machine
  else if predecessor.configId ≠ machine.configId ∨
      predecessor.guardianEpoch ≠ machine.highestEpoch ∨
      predecessorCapsuleHash ≠ machine.highestCapsuleHash ∨
      ¬successor.IsDirectSuccessorOf predecessor then .error .invalidSuccessor machine
  else
    match machine.predecessorLocks[predecessorCapsuleHash]? with
    | some lockedHash =>
      if lockedHash = successorCapsuleHash then .ok action machine
      else .error .predecessorLocked machine
    | none =>
      .ok action { machine with
        predecessorLocks := machine.predecessorLocks.insert predecessorCapsuleHash
          successorCapsuleHash
        highestEpoch := successor.guardianEpoch
        highestCapsuleHash := successorCapsuleHash }

end EpochWitnessMachine

/-- A successor offered to a witness. -/
structure SuccessorOffer where
  predecessor : ConfigRef
  predecessorCapsuleHash : Id32
  successor : ConfigRef
  successorCapsuleHash : Id32
  deriving DecidableEq

namespace SuccessorOffer

/-- The offer under a valid certificate, to the model. -/
def toModel (offer : SuccessorOffer) :
    EStateM EpochWitnessError EpochWitnessMachine PersistSuccessorBeforeAck :=
  EpochWitnessMachine.acceptSuccessor offer.predecessor offer.predecessorCapsuleHash
    offer.successor offer.successorCapsuleHash true

/-- The offer to the register, which has done nothing when it refuses. -/
def toStore (offer : SuccessorOffer) : EStateM StorageError WitnessEpochStore Unit := fun store =>
  match store.persistSuccessorBeforeAck offer.predecessor offer.predecessorCapsuleHash
      offer.successor offer.successorCapsuleHash with
  | .ok store' => .ok () store'
  | .error e => .error e store

/-- Offers one after the other; the accepted ones are logged. -/
def model : Machine EpochWitnessMachine SuccessorOffer SuccessorOffer := Machine.ofCalls toModel

def store : Machine WitnessEpochStore SuccessorOffer SuccessorOffer := Machine.ofCalls toStore

/-! ### What one offer does -/

variable {machine : EpochWitnessMachine} {register : WitnessEpochStore} {offer : SuccessorOffer}

/-- The offer is for a successor of the highest epoch. -/
def Current (register : WitnessEpochStore) (offer : SuccessorOffer) : Prop :=
  offer.predecessor.configId = register.configId ∧
    offer.predecessor.guardianEpoch = register.highestGuardianEpoch ∧
    offer.predecessorCapsuleHash = register.highestCapsuleHash

/-- The predecessor is locked to the successor offered. -/
def Repeated (register : WitnessEpochStore) (offer : SuccessorOffer) : Prop :=
  offer.successor.IsDirectSuccessorOf offer.predecessor ∧
    register.predecessorLocks[offer.predecessorCapsuleHash]? = some offer.successorCapsuleHash

/-- The predecessor is the highest epoch, and not locked. -/
def Open (register : WitnessEpochStore) (offer : SuccessorOffer) : Prop :=
  offer.successor.IsDirectSuccessorOf offer.predecessor ∧
    register.predecessorLocks[offer.predecessorCapsuleHash]? = none ∧ Current register offer

/-- An accepted pair, sent again when its predecessor is not the highest epoch. -/
def Stale (register : WitnessEpochStore) (offer : SuccessorOffer) : Prop :=
  Repeated register offer ∧ ¬Current register offer

/-- The register with the successor in it. -/
def movedOn (register : WitnessEpochStore) (offer : SuccessorOffer) : WitnessEpochStore :=
  { register with
    predecessorLocks := register.predecessorLocks.insert offer.predecessorCapsuleHash
      offer.successorCapsuleHash
    highestGuardianEpoch := offer.successor.guardianEpoch
    highestCapsuleHash := offer.successorCapsuleHash }

/-- The model and the register remember the same. -/
structure InStep (machine : EpochWitnessMachine) (register : WitnessEpochStore) : Prop where
  configId : machine.configId = register.configId
  epoch : machine.highestEpoch = register.highestGuardianEpoch
  hash : machine.highestCapsuleHash = register.highestCapsuleHash
  locks : machine.predecessorLocks = register.predecessorLocks
  unambiguous : machine.ambiguous = false

open Classical in
theorem store_step (register : WitnessEpochStore) (offer : SuccessorOffer) :
    store.step register offer =
      if Repeated register offer then (register, some offer)
      else if Open register offer then (movedOn register offer, some offer)
      else (register, none) := by
  by_cases hdirect : offer.successor.IsDirectSuccessorOf offer.predecessor
  · cases hlock : register.predecessorLocks[offer.predecessorCapsuleHash]? with
    | some existing =>
      by_cases hsame : existing = offer.successorCapsuleHash <;>
        simp [store, Machine.ofCalls, Machine.observing, Machine.accepted, toStore,
          WitnessEpochStore.persistSuccessorBeforeAck, hdirect, hlock, hsame, bailIf, Repeated, Open,
          bind, Except.bind]
    | none =>
      by_cases hcurrent : Current register offer
      · have hnot : ¬(offer.predecessor.configId ≠ register.configId ∨
            offer.predecessor.guardianEpoch ≠ register.highestGuardianEpoch ∨
            offer.predecessorCapsuleHash ≠ register.highestCapsuleHash) := by
          simpa [Current, not_or] using hcurrent
        simp [store, Machine.ofCalls, Machine.observing, Machine.accepted, toStore,
          WitnessEpochStore.persistSuccessorBeforeAck, hdirect, hlock, hnot, hcurrent, bailIf,
          Repeated, Open, movedOn, bind, Except.bind]
      · have hstale : offer.predecessor.configId ≠ register.configId ∨
            offer.predecessor.guardianEpoch ≠ register.highestGuardianEpoch ∨
            offer.predecessorCapsuleHash ≠ register.highestCapsuleHash := by
          by_contra hnot
          exact hcurrent (by simpa [Current, not_or] using hnot)
        simp [store, Machine.ofCalls, Machine.observing, Machine.accepted, toStore,
          WitnessEpochStore.persistSuccessorBeforeAck, hdirect, hlock, hstale, hcurrent, bailIf,
          Repeated, Open, bind, Except.bind]
  · simp [store, Machine.ofCalls, Machine.observing, Machine.accepted, toStore,
      WitnessEpochStore.persistSuccessorBeforeAck, hdirect, bailIf, Repeated, Open, bind,
      Except.bind]

/-- The model with the successor in it. -/
def modelMovedOn (machine : EpochWitnessMachine) (offer : SuccessorOffer) : EpochWitnessMachine :=
  { machine with
    predecessorLocks := machine.predecessorLocks.insert offer.predecessorCapsuleHash
      offer.successorCapsuleHash
    highestEpoch := offer.successor.guardianEpoch
    highestCapsuleHash := offer.successorCapsuleHash }

open Classical in
theorem model_step (h : InStep machine register) (offer : SuccessorOffer) :
    model.step machine offer =
      if Repeated register offer ∧ Current register offer then (machine, some offer)
      else if Open register offer then (modelMovedOn machine offer, some offer)
      else (machine, none) := by
  have hambiguous : ¬machine.ambiguous = true := by simp [h.unambiguous]
  by_cases hadmits : Current register offer ∧
      offer.successor.IsDirectSuccessorOf offer.predecessor
  · obtain ⟨hcurrent, hdirect⟩ := hadmits
    have hnot : ¬(offer.predecessor.configId ≠ machine.configId ∨
        offer.predecessor.guardianEpoch ≠ machine.highestEpoch ∨
        offer.predecessorCapsuleHash ≠ machine.highestCapsuleHash ∨
        ¬offer.successor.IsDirectSuccessorOf offer.predecessor) := by
      rw [h.configId, h.epoch, h.hash]
      simpa [Current, not_or, and_assoc, hdirect] using hcurrent
    cases hlock : register.predecessorLocks[offer.predecessorCapsuleHash]? with
    | some existing =>
      simp only [model, Machine.ofCalls, Machine.observing, toModel,
        EpochWitnessMachine.acceptSuccessor, if_neg hambiguous, Bool.true_eq_false, ↓reduceIte,
        if_neg hnot, h.locks, hlock]
      by_cases hsame : existing = offer.successorCapsuleHash <;>
        simp [Machine.accepted, hlock, hsame, hdirect, hcurrent, Repeated, Open]
    | none =>
      simp only [model, Machine.ofCalls, Machine.observing, toModel,
        EpochWitnessMachine.acceptSuccessor, if_neg hambiguous, Bool.true_eq_false, ↓reduceIte,
        if_neg hnot, h.locks, hlock]
      simp [Machine.accepted, hlock, hdirect, hcurrent, Repeated, Open, modelMovedOn, h.locks]
  · have hrefused : offer.predecessor.configId ≠ machine.configId ∨
        offer.predecessor.guardianEpoch ≠ machine.highestEpoch ∨
        offer.predecessorCapsuleHash ≠ machine.highestCapsuleHash ∨
        ¬offer.successor.IsDirectSuccessorOf offer.predecessor := by
      rw [h.configId, h.epoch, h.hash]
      by_contra hnot
      refine hadmits ?_
      simpa [Current, not_or, and_assoc] using hnot
    have hclosed : ¬(Repeated register offer ∧ Current register offer) :=
      fun hboth => hadmits ⟨hboth.2, hboth.1.1⟩
    have hshut : ¬Open register offer := fun hopen => hadmits ⟨hopen.2.2, hopen.1⟩
    simp only [model, Machine.ofCalls, Machine.observing, Machine.accepted, toModel,
      EpochWitnessMachine.acceptSuccessor, if_neg hambiguous, Bool.true_eq_false, ↓reduceIte,
      if_pos hrefused, if_neg hclosed, if_neg hshut]

/-- Whatever is offered, the two go on to remember the same. -/
theorem InStep.step (machine : EpochWitnessMachine) (register : WitnessEpochStore)
    (offer : SuccessorOffer) (h : InStep machine register) :
    InStep (model.step machine offer).1 (store.step register offer).1 := by
  rw [model_step h, store_step]
  by_cases hrepeated : Repeated register offer
  · have hshut : ¬Open register offer := by
      intro hopen
      have hlock := hopen.2.1
      rw [hrepeated.2] at hlock
      cases hlock
    by_cases hcurrent : Current register offer <;> simpa [hrepeated, hshut, hcurrent] using h
  · by_cases hopen : Open register offer
    · simp only [hrepeated, hopen, false_and, ↓reduceIte]
      exact ⟨h.configId, rfl, rfl, by simp only [modelMovedOn, movedOn, h.locks], h.unambiguous⟩
    · simpa [hrepeated, hopen] using h

/-- They answer alike, unless an accepted pair is sent again too late. -/
theorem InStep.answers_iff (h : InStep machine register) :
    (model.step machine offer).2 = (store.step register offer).2 ↔ ¬Stale register offer := by
  rw [model_step h, store_step]
  by_cases hrepeated : Repeated register offer
  · have hshut : ¬Open register offer := by
      intro hopen
      have hlock := hopen.2.1
      rw [hrepeated.2] at hlock
      cases hlock
    by_cases hcurrent : Current register offer <;> simp [Stale, hrepeated, hshut, hcurrent]
  · by_cases hopen : Open register offer <;> simp [Stale, hrepeated, hopen]

/-! ### Runs -/

/-- Every accepted offer is locked in. -/
def Locked (register : WitnessEpochStore) (log : List SuccessorOffer) : Prop :=
  ∀ offer ∈ log, Repeated register offer

theorem Locked.step {log : List SuccessorOffer} (h : Locked register log)
    (offer : SuccessorOffer) :
    Locked (store.step register offer).1 (log ++ (store.step register offer).2.toList) := by
  rw [store_step]
  by_cases hrepeated : Repeated register offer
  · simp only [hrepeated, ↓reduceIte, Option.toList_some]
    intro earlier hmem
    rcases List.mem_append.mp hmem with hold | hnew
    · exact h earlier hold
    · exact List.mem_singleton.mp hnew ▸ hrepeated
  · by_cases hopen : Open register offer
    · simp only [hrepeated, hopen, ↓reduceIte, Option.toList_some]
      intro earlier hmem
      rcases List.mem_append.mp hmem with hold | hnew
      · obtain ⟨hdirect, hlock⟩ := h earlier hold
        refine ⟨hdirect, getElem?_insert_iff.mpr (Or.inr ⟨fun hsame => ?_, hlock⟩)⟩
        rw [hsame, hopen.2.1] at hlock
        cases hlock
      · rw [List.mem_singleton.mp hnew]
        exact ⟨hopen.1, getElem?_insert_iff.mpr (Or.inl ⟨rfl, rfl⟩)⟩
    · simpa [hrepeated, hopen] using h

section Runs

variable (genesis : ConfigRef) (capsuleHash : Id32)

/-- The model and the register of one genesis, after some offers. -/
def modelAfter (offers : List SuccessorOffer) : EpochWitnessMachine :=
  model.run (.new genesis.configId genesis.guardianEpoch capsuleHash) offers

def storeAfter (offers : List SuccessorOffer) : WitnessEpochStore :=
  store.run (.new genesis capsuleHash) offers

def acceptedOffers (offers : List SuccessorOffer) : List SuccessorOffer :=
  store.outputs (.new genesis capsuleHash) offers

theorem inStep_run (offers : List SuccessorOffer) :
    InStep (modelAfter genesis capsuleHash offers) (storeAfter genesis capsuleHash offers) :=
  Machine.run_related InStep.step ⟨rfl, rfl, rfl, rfl, rfl⟩ offers

theorem locked_run (offers : List SuccessorOffer) :
    Locked (storeAfter genesis capsuleHash offers) (acceptedOffers genesis capsuleHash offers) :=
  store.run_invariant (P := fun _ _ _ => True) nofun (fun _ _ offer h _ => h.step offer)
    (store.along_of_forall (P := fun _ => True) (fun _ _ => trivial) _ _)

/-- The model and the register as one witness: each offer is accepted by both or by neither, they
have the same highest epoch, an accepted offer sent again is accepted and changes neither, and
another successor of its predecessor is refused. -/
structure WitnessesAgree (offers : List SuccessorOffer) : Prop where
  answers : ∀ earlier offer later, offers = earlier ++ offer :: later →
    (model.step (modelAfter genesis capsuleHash earlier) offer).2 =
      (store.step (storeAfter genesis capsuleHash earlier) offer).2
  highest : ∀ earlier later, offers = earlier ++ later →
    (modelAfter genesis capsuleHash earlier).highestEpoch =
        (storeAfter genesis capsuleHash earlier).highestGuardianEpoch ∧
      (modelAfter genesis capsuleHash earlier).highestCapsuleHash =
        (storeAfter genesis capsuleHash earlier).highestCapsuleHash
  repeated : ∀ earlier offer later, offers = earlier ++ offer :: later →
    offer ∈ acceptedOffers genesis capsuleHash earlier →
      model.step (modelAfter genesis capsuleHash earlier) offer =
          (modelAfter genesis capsuleHash earlier, some offer) ∧
        store.step (storeAfter genesis capsuleHash earlier) offer =
          (storeAfter genesis capsuleHash earlier, some offer)
  sibling : ∀ earlier offer later, offers = earlier ++ offer :: later →
    ∀ first ∈ acceptedOffers genesis capsuleHash earlier,
      first.predecessorCapsuleHash = offer.predecessorCapsuleHash →
        first.successorCapsuleHash ≠ offer.successorCapsuleHash →
          model.step (modelAfter genesis capsuleHash earlier) offer =
              (modelAfter genesis capsuleHash earlier, none) ∧
            store.step (storeAfter genesis capsuleHash earlier) offer =
              (storeAfter genesis capsuleHash earlier, none)

end Runs

end SuccessorOffer

open SuccessorOffer

/-- The model and the register are one witness exactly in the runs where no accepted pair is sent
again after the highest epoch has moved on from its predecessor. -/
theorem witness_models_agree_iff (genesis : ConfigRef) (capsuleHash : Id32)
    (offers : List SuccessorOffer) :
    WitnessesAgree genesis capsuleHash offers ↔
      ∀ earlier offer later, offers = earlier ++ offer :: later →
        ¬Stale (storeAfter genesis capsuleHash earlier) offer := by
  constructor
  · intro hagree earlier offer later hsplit
    exact (inStep_run genesis capsuleHash earlier).answers_iff.mp
      (hagree.answers earlier offer later hsplit)
  · intro hfresh
    refine ⟨fun earlier offer later hsplit => ?_, fun earlier later _ => ?_,
      fun earlier offer later hsplit hmem => ?_,
      fun earlier offer later hsplit first hmem hsame hother => ?_⟩
    · exact (inStep_run genesis capsuleHash earlier).answers_iff.mpr
        (hfresh earlier offer later hsplit)
    · exact ⟨(inStep_run genesis capsuleHash earlier).epoch,
        (inStep_run genesis capsuleHash earlier).hash⟩
    · have hrepeated := locked_run genesis capsuleHash earlier offer hmem
      have hcurrent : Current (storeAfter genesis capsuleHash earlier) offer := by
        by_contra hlate
        exact hfresh earlier offer later hsplit ⟨hrepeated, hlate⟩
      rw [model_step (inStep_run genesis capsuleHash earlier), store_step,
        if_pos ⟨hrepeated, hcurrent⟩, if_pos hrepeated]
      exact ⟨rfl, rfl⟩
    · have hlock := (locked_run genesis capsuleHash earlier first hmem).2
      rw [hsame] at hlock
      have hunlike : ¬Repeated (storeAfter genesis capsuleHash earlier) offer := by
        intro hrepeated
        rw [hrepeated.2] at hlock
        exact hother (Option.some.inj hlock).symm
      have hshut : ¬Open (storeAfter genesis capsuleHash earlier) offer := by
        intro hopen
        rw [hopen.2.1] at hlock
        cases hlock
      rw [model_step (inStep_run genesis capsuleHash earlier), store_step, if_neg hshut,
        if_neg hunlike, if_neg hshut, if_neg fun h => hunlike h.1]
      exact ⟨rfl, rfl⟩

/-- The first successor of a genesis epoch whose capsule hashes to 11. -/
def sampleOffer : SuccessorOffer where
  predecessor := ⟨1, 1, 1, 1, 1⟩
  predecessorCapsuleHash := 11
  successor := ⟨1, 1, 1, 2, 2⟩
  successorCapsuleHash := 12

/-- An offer is made and sent again: the register acknowledges it, the model refuses it. -/
theorem retransmission_refused_by_model :
    ¬WitnessesAgree ⟨1, 1, 1, 1, 1⟩ 11 [sampleOffer, sampleOffer] := by
  intro hagree
  have hanswers := hagree.answers [sampleOffer] sampleOffer [] rfl
  exact absurd hanswers (by decide +kernel)

end MasterRecovery
