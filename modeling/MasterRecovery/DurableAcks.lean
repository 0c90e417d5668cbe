import MasterRecovery.PendingSuccessor
import MasterRecovery.WitnessAcceptance

/-!
# Acknowledgements and the disk

A save may fail and leave memory ahead of the disk; a crash then loses what
memory alone knew. An answered acknowledgement is durable unless it is a retry
answered from memory after the save of the first answer failed.
-/

namespace MasterRecovery
open Checks Transcript Wire

/-! ### A witness and its disk -/

/-- What happens to a witness: a request with the outcome of its save, a crash, or a save of
the store all configurations share, asked for by another one. -/
inductive WitnessInput
  | request (save : Except String Unit) (request : WitnessRequest)
  | crash
  | flush

/-- What a request came to: its answer, or the answer a failed save held back. -/
inductive WitnessRecord
  | answered (event : WitnessEvent)
  | unsaved (event : WitnessEvent)
  deriving DecidableEq

def WitnessRecord.event : WitnessRecord → WitnessEvent
  | .answered event => event
  | .unsaved event => event

def WitnessRecord.answer : WitnessRecord → Option WitnessEvent
  | .answered event => some event
  | .unsaved _ => none

def storedWitness (crypto : Crypto) (seed configId : Id32) :
    Machine (Persisted WitnessConfigEntry) WitnessInput WitnessRecord where
  step store
    | .request save request =>
      let out := serve crypto seed configId save request store
      (out.1, match out.2 with
        | some event => some (.answered event)
        | none => (serve crypto seed configId (.ok ()) request store).2.map .unsaved)
    | .crash => (store.reload, none)
    | .flush => (store.flush, none)

variable {crypto : Crypto} {seed configId : Id32} {store store' : Persisted WitnessConfigEntry}
  {input : WitnessInput} {logged : Option WitnessRecord} {log : List WitnessRecord}
  {inputs : List WitnessInput}

/-- Every way memory and disk can change. -/
inductive Stored (crypto : Crypto) (seed configId : Id32) (store : Persisted WitnessConfigEntry) :
    WitnessInput → Persisted WitnessConfigEntry → Option WitnessRecord → Prop
  | kept {save : Except String Unit} {request : WitnessRequest} {entry' : WitnessConfigEntry}
    {reply : Option WitnessEvent}
    (hstep : Handled crypto seed configId store.data request entry' reply false) :
    Stored crypto seed configId store (.request save request) ⟨entry', store.saved⟩
      (reply.map .answered)
  | saved {request : WitnessRequest} {entry' : WitnessConfigEntry} {reply : Option WitnessEvent}
    (hstep : Handled crypto seed configId store.data request entry' reply true) :
    Stored crypto seed configId store (.request (.ok ()) request) ⟨entry', entry'⟩
      (reply.map .answered)
  | failed {text : String} {request : WitnessRequest} {entry' : WitnessConfigEntry}
    {reply : Option WitnessEvent}
    (hstep : Handled crypto seed configId store.data request entry' reply true) :
    Stored crypto seed configId store (.request (.error text) request) ⟨entry', store.saved⟩
      (reply.map .unsaved)
  | crashed : Stored crypto seed configId store .crash store.reload none
  | flushed : Stored crypto seed configId store .flush store.flush none

theorem storedWitness_stored (hid : store.data.witnessId ≠ 0) (input : WitnessInput) :
    Stored crypto seed configId store input
      ((storedWitness crypto seed configId).step store input).1
      ((storedWitness crypto seed configId).step store input).2 := by
  cases input with
  | crash => exact .crashed
  | flush => exact .flushed
  | request save request =>
    obtain ⟨entry', reply, saves, hhandled, hserve⟩ :=
      serve_handled crypto seed configId store hid request
    simp only [storedWitness, hserve]
    cases saves with
    | false =>
      have hkept : Stored crypto seed configId store (.request save request) _ _ :=
        .kept hhandled
      cases reply <;> exact hkept
    | true =>
      cases save with
      | ok u =>
        have hsaved := Stored.saved hhandled
        cases reply <;> exact hsaved
      | error text => exact Stored.failed hhandled

/-! ### What one step does -/

/-- What holds of every entry, in memory or on disk. -/
structure Intact (crypto : Crypto) (seed configId : Id32) (entry : WitnessConfigEntry) : Prop where
  witnessId : entry.witnessId ≠ 0
  pending : HoldsPending crypto seed configId entry
  locks : LocksPending entry

theorem Intact.handled {entry entry' : WitnessConfigEntry} {request : WitnessRequest}
    {reply : Option WitnessEvent} {saves : Bool} (h : Intact crypto seed configId entry)
    (hstep : Handled crypto seed configId entry request entry' reply saves) :
    Intact crypto seed configId entry' :=
  ⟨(handled_pins hstep).1 ▸ h.witnessId, h.pending.handled hstep, h.locks.handled hstep⟩

theorem Stored.intact (hdata : Intact crypto seed configId store.data)
    (hsaved : Intact crypto seed configId store.saved)
    (hstored : Stored crypto seed configId store input store' logged) :
    Intact crypto seed configId store'.data ∧ Intact crypto seed configId store'.saved := by
  cases hstored with
  | kept hstep => exact ⟨hdata.handled hstep, hsaved⟩
  | saved hstep => exact ⟨hdata.handled hstep, hdata.handled hstep⟩
  | failed hstep => exact ⟨hdata.handled hstep, hsaved⟩
  | crashed => exact ⟨hsaved, hsaved⟩
  | flushed => exact ⟨hdata, hdata⟩

/-- A retry of the pending successor whose acknowledgement is not on disk. -/
def WitnessInput.AnswersUnsaved (store : Persisted WitnessConfigEntry) : WitnessInput → Prop
  | .request _ (.activate retry) => ∃ pending, store.data.pendingCapsule = some pending ∧
      pending.capsuleHash = retry.capsule.capsuleHash ∧
      store.saved.pendingAck ≠ store.data.pendingAck
  | _ => False

/-- An owner cancel that would roll a pending successor back, and whose save fails. -/
def WitnessInput.LosesRollback (store : Persisted WitnessConfigEntry) : WitnessInput → Prop
  | .request (.error _) (.cancelRotation _ certificate) => releasedBy certificate store.data ≠ none
  | _ => False

/-- An answered acknowledgement is in memory and, unless it was a retry of an unsaved one,
on disk. -/
theorem Stored.acked {ack : WitnessActivationAck} (hdata : Intact crypto seed configId store.data)
    (hsaved : Intact crypto seed configId store.saved) (hcareful : ¬input.AnswersUnsaved store)
    (hstored : Stored crypto seed configId store input store' logged)
    (hlogged : logged = some (.answered (.acked ack))) :
    HoldsAck store'.data ack ∧ HoldsAck store'.saved ack := by
  cases hstored with
  | kept hstep =>
    obtain ⟨event, rfl, hevent⟩ := Option.map_eq_some_iff.mp hlogged
    cases hevent
    refine ⟨handled_holdsAck hdata.pending hdata.locks hstep, ?_⟩
    cases hstep with
    | retried _ _ hpending hsame hack =>
      have hsynced : store.saved.pendingAck = store.data.pendingAck :=
        not_not.mp fun hne => hcareful ⟨_, hpending, hsame, hne⟩
      exact hsaved.pending.holdsAck hsaved.locks (hsynced.trans hack)
  | saved hstep =>
    obtain ⟨event, rfl, hevent⟩ := Option.map_eq_some_iff.mp hlogged
    cases hevent
    have hholds := handled_holdsAck hdata.pending hdata.locks hstep
    exact ⟨hholds, hholds⟩
  | failed hstep =>
    obtain ⟨event, rfl, hevent⟩ := Option.map_eq_some_iff.mp hlogged
    cases hevent
  | crashed => cases hlogged
  | flushed => cases hlogged

/-- Which records count as accepted; those that roll a successor back all do. -/
def CountsRollback (accepted : WitnessRecord → Option WitnessEvent)
    (logged : Option WitnessRecord) : Prop :=
  ∀ record ∈ logged, ∀ cancel released, record.event = .cancelled cancel (some released) →
    accepted record = some record.event

theorem RolledBack.counted {accepted : WitnessRecord → Option WitnessEvent}
    {reply : Option WitnessEvent} {record : WitnessEvent → WitnessRecord}
    {predecessor child : Id32} (hrecord : ∀ event, (record event).event = event)
    (hcounts : CountsRollback accepted (reply.map record))
    (h : RolledBack reply.toList predecessor child) :
    RolledBack ((reply.map record).toList.filterMap accepted) predecessor child := by
  obtain ⟨cancel, released, hmem, hrest⟩ := h
  rw [Option.mem_toList] at hmem
  cases hmem
  have haccepted := hcounts _ rfl cancel released (hrecord _)
  rw [hrecord] at haccepted
  exact ⟨cancel, released, by simp [haccepted], hrest⟩

/-- A lock in memory and on disk is lost only to a cancel that counts. -/
theorem Stored.locked {accepted : WitnessRecord → Option WitnessEvent}
    (hdata : Intact crypto seed configId store.data) (hcounts : CountsRollback accepted logged)
    (hstored : Stored crypto seed configId store input store' logged) {predecessor child : Id32}
    (hlock : store.data.register.predecessorLocks[predecessor]? = some child)
    (hlock' : store.saved.register.predecessorLocks[predecessor]? = some child) :
    RolledBack (logged.toList.filterMap accepted) predecessor child ∨
      store'.data.register.predecessorLocks[predecessor]? = some child ∧
        store'.saved.register.predecessorLocks[predecessor]? = some child := by
  cases hstored with
  | kept hstep =>
    rcases handled_locks hdata.pending hstep hlock with hkept | hback
    · exact Or.inr ⟨hkept, hlock'⟩
    · exact Or.inl (hback.counted (fun _ => rfl) hcounts)
  | saved hstep =>
    rcases handled_locks hdata.pending hstep hlock with hkept | hback
    · exact Or.inr ⟨hkept, hkept⟩
    · exact Or.inl (hback.counted (fun _ => rfl) hcounts)
  | failed hstep =>
    rcases handled_locks hdata.pending hstep hlock with hkept | hback
    · exact Or.inr ⟨hkept, hlock'⟩
    · exact Or.inl (hback.counted (fun _ => rfl) hcounts)
  | crashed => exact Or.inr ⟨hlock', hlock'⟩
  | flushed => exact Or.inr ⟨hlock, hlock⟩

/-! ### Runs -/

/-- The record of a witness that answers `first` and later `second`, over one predecessor,
shows in between a rollback of the first child. -/
def SecondChildRolledBack (accepted : WitnessRecord → Option WitnessEvent)
    (log : List WitnessRecord) : Prop :=
  ∀ before first between second after,
    log = before ++ .answered (.acked first) :: (between ++ .answered (.acked second) :: after) →
    first.predecessorCapsuleHash = second.predecessorCapsuleHash →
    first.successorCapsuleHash ≠ second.successorCapsuleHash →
    RolledBack (between.filterMap accepted) first.predecessorCapsuleHash
      first.successorCapsuleHash

/-- Memory and disk are intact, and an answered child is locked on both or was rolled back. -/
structure StoreInv (crypto : Crypto) (seed configId : Id32)
    (accepted : WitnessRecord → Option WitnessEvent) (store : Persisted WitnessConfigEntry)
    (log : List WitnessRecord) : Prop where
  data : Intact crypto seed configId store.data
  saved : Intact crypto seed configId store.saved
  ledger : ∀ before ack later, log = before ++ .answered (.acked ack) :: later →
    RolledBack (later.filterMap accepted) ack.predecessorCapsuleHash ack.successorCapsuleHash ∨
      store.data.register.predecessorLocks[ack.predecessorCapsuleHash]? =
          some ack.successorCapsuleHash ∧
        store.saved.register.predecessorLocks[ack.predecessorCapsuleHash]? =
          some ack.successorCapsuleHash
  second : SecondChildRolledBack accepted log

theorem StoreInv.stored {accepted : WitnessRecord → Option WitnessEvent}
    (h : StoreInv crypto seed configId accepted store log)
    (hcareful : ¬input.AnswersUnsaved store) (hcounts : CountsRollback accepted logged)
    (hnone : ∀ ack, ∀ event ∈ accepted (.answered (.acked ack)), event = .acked ack)
    (hstored : Stored crypto seed configId store input store' logged) :
    StoreInv crypto seed configId accepted store' (log ++ logged.toList) := by
  obtain ⟨hdata, hsaved⟩ := hstored.intact h.data h.saved
  refine ⟨hdata, hsaved, fun before ack later hlog => ?_,
    fun before first between second after hlog hpred hne => ?_⟩
  · rcases Machine.toList_split hlog with ⟨rfl, rfl, hlast⟩ | ⟨older, rfl, hold⟩
    · obtain ⟨hmemory, hdisk⟩ := hstored.acked h.data h.saved hcareful hlast
      exact Or.inr ⟨hmemory.lock, hdisk.lock⟩
    · rw [List.filterMap_append]
      rcases h.ledger before ack older hold with hback | ⟨hlock, hlock'⟩
      · exact Or.inl (hback.mono (List.subset_append_left _ _))
      · exact (hstored.locked h.data hcounts hlock hlock').imp_left fun hback =>
          hback.mono (List.subset_append_right _ _)
  · rw [← List.cons_append, ← List.append_assoc] at hlog
    rcases Machine.toList_split hlog with ⟨rfl, rfl, hlast⟩ | ⟨older, rfl, hold⟩
    · rcases h.ledger before first between rfl with hback | ⟨hlock, hlock'⟩
      · exact hback
      · -- the lock on the first child is still there when the second is answered
        have hmine := (hstored.acked h.data h.saved hcareful hlast).1.lock
        rcases hstored.locked h.data hcounts hlock hlock' with ⟨cancel, released, hmem, -⟩ | hkept
        · subst hlast
          obtain ⟨record, hrecord, haccepted⟩ := List.mem_filterMap.mp hmem
          cases List.mem_singleton.mp hrecord
          cases hnone second _ haccepted
        · rw [hpred] at hkept
          exact absurd (Option.some.inj (hkept.1.symm.trans hmine)) hne
    · rw [List.append_assoc, List.cons_append] at hold
      exact h.second before first between second older hold hpred hne

theorem run_storeInv {accepted : WitnessRecord → Option WitnessEvent}
    {Q : Persisted WitnessConfigEntry → WitnessInput → Prop}
    (hnone : ∀ ack, ∀ event ∈ accepted (.answered (.acked ack)), event = .acked ack)
    (hQ : ∀ store input store' logged, Q store input →
      Stored crypto seed configId store input store' logged →
      ¬input.AnswersUnsaved store ∧ CountsRollback accepted logged)
    (hentry : Intact crypto seed configId store.data)
    (hentry' : Intact crypto seed configId store.saved)
    (hrun : (storedWitness crypto seed configId).Along (fun store _ input => Q store input) store []
      inputs) :
    StoreInv crypto seed configId accepted ((storedWitness crypto seed configId).run store inputs)
      ((storedWitness crypto seed configId).outputs store inputs) := by
  refine Machine.run_invariant _ ⟨hentry, hentry', fun _ _ _ hlog => ?_, fun _ _ _ _ _ hlog => ?_⟩
    ?_ hrun
  · simp at hlog
  · simp at hlog
  · intro store log input hinv hstep
    have hstored : Stored crypto seed configId store input _ _ :=
      storedWitness_stored hinv.data.witnessId input
    obtain ⟨hcareful, hcounts⟩ := hQ _ _ _ _ hstep hstored
    exact hinv.stored hcareful hcounts hnone hstored

theorem countsRollback_event (logged : Option WitnessRecord) :
    CountsRollback (fun record => some record.event) logged :=
  fun _ _ _ _ _ => rfl

theorem Stored.countsRollback_answer (hcareful : ¬input.LosesRollback store)
    (hstored : Stored crypto seed configId store input store' logged) :
    CountsRollback WitnessRecord.answer logged := by
  rintro (event | event) hrecord cancel released hevent
  · rfl
  · cases hstored with
    | kept => obtain ⟨_, -, hcontra⟩ := Option.map_eq_some_iff.mp hrecord; cases hcontra
    | saved => obtain ⟨_, -, hcontra⟩ := Option.map_eq_some_iff.mp hrecord; cases hcontra
    | crashed => cases hrecord
    | flushed => cases hrecord
    | failed hstep =>
      obtain ⟨_, rfl, hsame⟩ := Option.map_eq_some_iff.mp hrecord
      cases hsame
      cases hevent
      generalize hreply : some (WitnessEvent.cancelled cancel (some released)) = reply at hstep
      cases hstep with
      | cancelled =>
        simp only [Option.some.injEq, WitnessEvent.cancelled.injEq] at hreply
        refine absurd ?_ hcareful
        simp only [WitnessInput.LosesRollback, ← hreply.2, ne_eq, reduceCtorEq, not_false_eq_true]
      | activated => cases hreply
      | finalized => cases hreply
      | answered => cases hreply

/-- Every acknowledgement a run answers is on disk, with its successor and lock, when it
is answered. -/
def AcksDurable (crypto : Crypto) (seed configId : Id32) (store : Persisted WitnessConfigEntry)
    (inputs : List WitnessInput) : Prop :=
  ∀ before input after ack, inputs = before ++ input :: after →
    let stored := (storedWitness crypto seed configId).step
      ((storedWitness crypto seed configId).run store before) input
    stored.2 = some (.answered (.acked ack)) → HoldsAck stored.1.saved ack

/-- In every run of requests, failing saves and crashes in which no retry is answered from
memory alone, every acknowledgement is on disk when it is answered, and a witness answers
a second child only after an owner cancel rolled the first one back; the cancel has been
answered too, unless its own save failed. -/
theorem answered_acks_durable {adminToken : String} {bearer : Option String}
    {provision : WitnessConfigProvision} {entry : WitnessConfigEntry}
    (hprovision : witnessProvision crypto seed adminToken bearer false provision = .ok entry)
    (hcareful : (storedWitness crypto seed configId).Along
      (fun store _ input => ¬input.AnswersUnsaved store) ⟨entry, entry⟩ [] inputs) :
    let log := (storedWitness crypto seed configId).outputs ⟨entry, entry⟩ inputs
    AcksDurable crypto seed configId ⟨entry, entry⟩ inputs ∧
      SecondChildRolledBack (fun record => some record.event) log ∧
      ((storedWitness crypto seed configId).Along
          (fun store _ input => ¬input.LosesRollback store) ⟨entry, entry⟩ [] inputs →
        SecondChildRolledBack WitnessRecord.answer log) := by
  intro log
  obtain ⟨hprovisioned, rfl⟩ := witnessProvision_eq_ok hprovision
  have hstart : Intact crypto seed configId provision.entry :=
    ⟨hprovisioned.witnessId, holdsPending_provisioned provision, fun _ hs => (by cases hs)⟩
  have hinv : ∀ inputs, (storedWitness crypto seed configId).Along
      (fun store _ input => ¬input.AnswersUnsaved store) ⟨provision.entry, provision.entry⟩ []
      inputs → StoreInv crypto seed configId (fun record => some record.event)
        ((storedWitness crypto seed configId).run ⟨provision.entry, provision.entry⟩ inputs)
        ((storedWitness crypto seed configId).outputs ⟨provision.entry, provision.entry⟩ inputs) :=
    fun inputs hrun => run_storeInv (fun _ _ hevent => (Option.some.inj hevent).symm)
      (fun _ _ _ logged hQ _ => ⟨hQ, countsRollback_event logged⟩) hstart hstart hrun
  refine ⟨?_, (hinv inputs hcareful).second, fun hkept => ?_⟩
  · rintro before input after ack rfl stored hanswered
    obtain ⟨hbefore, hinput, -⟩ := (Machine.along_append _ _ _ _ _).mp hcareful
    have hreached := hinv before hbefore
    exact ((storedWitness_stored hreached.data.witnessId input).acked hreached.data
      hreached.saved hinput hanswered).2
  · exact (run_storeInv
      (Q := fun store input => ¬input.AnswersUnsaved store ∧ ¬input.LosesRollback store)
      (fun _ _ hevent => (Option.some.inj hevent).symm)
      (fun _ _ _ _ hQ hstored => ⟨hQ.1, hstored.countsRollback_answer hQ.2⟩) hstart hstart
      (hcareful.and hkept)).second

/-- The first activation is answered when it is retried after a failed save; the witness
then restarts and is asked for another child. -/
def sampleRetry : List WitnessInput :=
  [.request (.error "disk full") (.activate sampleFirst),
    .request (.ok ()) (.activate sampleFirst), .crash,
    .request (.ok ()) (.activate sampleSecond)]

def sampleStore : Persisted WitnessConfigEntry :=
  ⟨(sampleProvision 4 1).entry, (sampleProvision 4 1).entry⟩

def sampleStoredWitness : Machine (Persisted WitnessConfigEntry) WitnessInput WitnessRecord :=
  storedWitness Crypto.transparent (sampleWitnessSeed 1) 1

/-- A failed save, a retry and a crash let a witness acknowledge two children of the genesis
capsule; the first acknowledgement never was on disk. -/
theorem retried_ack_not_durable :
    ¬∀ (crypto : Crypto) (seed configId : Id32) (adminToken : String) (bearer : Option String)
      (provision : WitnessConfigProvision) (entry : WitnessConfigEntry)
      (inputs : List WitnessInput),
      witnessProvision crypto seed adminToken bearer false provision = .ok entry →
      AcksDurable crypto seed configId ⟨entry, entry⟩ inputs ∨
        SecondChildRolledBack (fun record => some record.event)
          ((storedWitness crypto seed configId).outputs ⟨entry, entry⟩ inputs) := by
  intro hclaim
  have hlog : sampleStoredWitness.outputs sampleStore sampleRetry =
      [.unsaved (.acked (sampleAck sampleFirst (sampleProvision 4 1).entry)),
        .answered (.acked (sampleAck sampleFirst (sampleProvision 4 1).entry)),
        .answered (.acked (sampleAck sampleSecond (sampleProvision 4 1).entry))] := by
    decide +kernel
  rcases hclaim Crypto.transparent (sampleWitnessSeed 1) 1 "admin" (some "admin")
    (sampleProvision 4 1) _ sampleRetry (sampleProvision_accepted (by decide)) with
    hdurable | hsecond
  · have hsplit : sampleRetry = [.request (.error "disk full") (.activate sampleFirst)] ++
        .request (.ok ()) (.activate sampleFirst) ::
          [.crash, .request (.ok ()) (.activate sampleSecond)] := rfl
    have hheld := hdurable _ _ _ (sampleAck sampleFirst (sampleProvision 4 1).entry) hsplit
    refine absurd (hheld (by decide +kernel)).held ?_
    decide +kernel
  · obtain ⟨_, _, hmem, -⟩ := hsecond [_] _ [] _ [] hlog rfl (by decide +kernel)
    cases hmem

theorem answered_acks_durable_sample :
    AcksDurable Crypto.transparent (sampleWitnessSeed 1) 1 sampleStore
      [.request (.ok ()) (.activate sampleFirst), .crash,
        .request (.ok ()) (.activate sampleFirst)] :=
  (answered_acks_durable (sampleProvision_accepted (by decide)) (by
    refine ⟨?_, fun hfalse => hfalse, ?_, trivial⟩
    · rintro ⟨pending, hpending, -⟩
      cases hpending
    · rintro ⟨pending, -, -, hne⟩
      revert hne
      decide +kernel)).1

end MasterRecovery
