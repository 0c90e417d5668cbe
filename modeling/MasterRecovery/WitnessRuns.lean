import MasterRecovery.WitnessInvariant

/-!
# Runs of one witness

The invariant of the entry carried along every run, and what follows for the
order of its answers: the active capsule only descends, a tombstone silences
its rotation for good, and a second child needs the first to be cancelled.
-/

namespace MasterRecovery
open Checks Transcript Wire Relation

variable {crypto : Crypto} {seed configId : Id32} {circulating : Set ConfigCapsuleV3}
  {entry entry' : WitnessConfigEntry} {request : WitnessRequest} {reply : Option WitnessEvent}
  {saves : Bool} {requests : List WitnessRequest}

/-- An invariant of states and answers may rely on the invariant of the entry. -/
theorem run_entryInv_along
    (Q : WitnessConfigEntry → List WitnessEvent → WitnessRequest → Prop)
    (R : WitnessConfigEntry → List WitnessEvent → Prop) (hcycle : CycleFree crypto circulating)
    (hentry : EntryInv crypto seed circulating entry) (hinit : R entry [])
    (hstep : ∀ entry out request entry' reply saves, EntryInv crypto seed circulating entry →
      R entry out → Q entry out request →
      Handled crypto seed configId entry request entry' reply saves →
      R entry' (out ++ reply.toList))
    (hcirc : ∀ request ∈ requests, request.Circulates circulating)
    (hQ : (witnessMachine crypto seed configId).Along Q entry [] requests) :
    EntryInv crypto seed circulating ((witnessMachine crypto seed configId).run entry requests) ∧
      R ((witnessMachine crypto seed configId).run entry requests)
        ((witnessMachine crypto seed configId).outputs entry requests) := by
  have hboth := (Machine.along_of_forall (witnessMachine crypto seed configId) hcirc entry []).and
    hQ
  refine run_handled_along _ (fun entry out => EntryInv crypto seed circulating entry ∧ R entry out)
    hentry.witnessId ⟨hentry, hinit⟩ ?_ hboth
  rintro entry out request entry' reply saves ⟨hinv, hout⟩ ⟨hcirc, hQ⟩ hhandled
  exact ⟨hinv.handled hcycle hcirc hhandled, hstep _ _ _ _ _ _ hinv hout hQ hhandled⟩

theorem run_entryInv (R : WitnessConfigEntry → List WitnessEvent → Prop)
    (hcycle : CycleFree crypto circulating) (hentry : EntryInv crypto seed circulating entry)
    (hinit : R entry [])
    (hstep : ∀ entry out request entry' reply saves, EntryInv crypto seed circulating entry →
      R entry out → Handled crypto seed configId entry request entry' reply saves →
      R entry' (out ++ reply.toList))
    (hcirc : ∀ request ∈ requests, request.Circulates circulating) :
    EntryInv crypto seed circulating ((witnessMachine crypto seed configId).run entry requests) ∧
      R ((witnessMachine crypto seed configId).run entry requests)
        ((witnessMachine crypto seed configId).outputs entry requests) :=
  run_entryInv_along (fun _ _ _ => True) R hcycle hentry hinit
    (fun _ _ _ _ _ _ hinv hout _ hhandled => hstep _ _ _ _ _ _ hinv hout hhandled) hcirc
    (Machine.along_of_forall _ (fun _ _ => trivial) entry [])

/-! ### The active capsule -/

theorem handled_active (hstep : Handled crypto seed configId entry request entry' reply saves) :
    entry'.capsule = entry.capsule ∧ (∀ capsule, reply ≠ some (.finalized capsule)) ∨
      ∃ qc pending pendingAck, request = .finalize qc ∧
        QcBinds crypto configId qc entry pending pendingAck ∧
        entry' = installed qc pending entry ∧ reply = some (.finalized entry'.capsule) := by
  cases hstep with
  | refused => exact Or.inl ⟨rfl, fun _ h => by cases h⟩
  | cancelled _ _ _ houtcome _ =>
    refine Or.inl ⟨?_, fun _ h => by cases h⟩
    cases houtcome <;> rfl
  | retried => exact Or.inl ⟨rfl, fun _ h => by cases h⟩
  | activated => exact Or.inl ⟨rfl, fun _ h => by cases h⟩
  | finalized hbinds => exact Or.inr ⟨_, _, _, rfl, hbinds, rfl, rfl⟩
  | answered => exact Or.inl ⟨rfl, fun _ h => by cases h⟩

/-- The active capsule changes only by a finalization, to a direct successor. -/
theorem handled_direct_successor (h : EntryInv crypto seed circulating entry)
    (hstep : Handled crypto seed configId entry request entry' reply saves) :
    entry'.capsule = entry.capsule ∨
      (∃ qc, request = .finalize qc) ∧
        entry'.capsule.configRef.IsDirectSuccessorOf entry.capsule.configRef ∧
        entry'.capsule.predecessorCapsuleHash = entry.capsule.capsuleHash ∧
        ChildOf crypto circulating entry'.capsule.capsuleHash entry.capsule.capsuleHash := by
  rcases handled_active hstep with ⟨hsame, -⟩ | ⟨qc, pending, pendingAck, hreq, hbinds, rfl, -⟩
  · exact Or.inl hsame
  · obtain ⟨hdirect, hpred, hchild⟩ := h.direct pending hbinds.pending_eq
    exact Or.inr ⟨⟨qc, hreq⟩, hdirect, hpred, hchild⟩

/-- The later capsule is the earlier one or a descendant of it. -/
def Descends (crypto : Crypto) (circulating : Set ConfigCapsuleV3)
    (later earlier : ConfigCapsuleV3) : Prop :=
  later = earlier ∨ TransGen (ChildOf crypto circulating) later.capsuleHash earlier.capsuleHash

theorem run_descends (hcycle : CycleFree crypto circulating)
    (h : EntryInv crypto seed circulating entry)
    (hcirc : ∀ request ∈ requests, request.Circulates circulating) :
    Descends crypto circulating
      ((witnessMachine crypto seed configId).run entry requests).capsule entry.capsule := by
  refine (run_entryInv (fun s _ => Descends crypto circulating s.capsule entry.capsule) hcycle h
    (Or.inl rfl) ?_ hcirc).2
  intro s out request s' reply saves hs hdesc hstep
  rcases handled_direct_successor hs hstep with hsame | ⟨-, -, -, hchild⟩
  · rw [hsame]
    exact hdesc
  · rcases hdesc with heq | hbelow
    · exact Or.inr (.single (heq ▸ hchild))
    · exact Or.inr (.head hchild hbelow)

/-! ### Tombstones -/

/-- The answer acknowledges or activates this rotation. -/
def WitnessEvent.Advances (rotationId : Id32) : WitnessEvent → Prop
  | .acked ack => ack.context.rotationId = rotationId
  | .finalized capsule => ∃ qc, capsule.activationQc = some qc ∧ qc.rotationId = rotationId
  | _ => False

theorem handled_cancellations (hstep : Handled crypto seed configId entry request entry' reply
    saves) {rotationId : Id32} (hcancelled : rotationId ∈ entry.rotationCancellations) :
    rotationId ∈ entry'.rotationCancellations := by
  cases hstep with
  | cancelled _ _ _ houtcome _ =>
    cases houtcome with
    | repeated => exact hcancelled
    | recorded => exact Std.TreeMap.mem_insert.mpr (Or.inr hcancelled)
    | rolledBack => exact Std.TreeMap.mem_insert.mpr (Or.inr hcancelled)
  | refused => exact hcancelled
  | retried => exact hcancelled
  | activated => exact hcancelled
  | finalized => exact hcancelled
  | answered => exact hcancelled

theorem EntryInv.pendingAck_live (h : EntryInv crypto seed circulating entry)
    {pending : ConfigCapsuleV3} {ack : WitnessActivationAck}
    (hpending : entry.pendingCapsule = some pending) (hack : entry.pendingAck = some ack) :
    ack.context.rotationId ∉ entry.rotationCancellations := by
  obtain ⟨-, -, -, found, hfound, hfor⟩ := h.follows.pending pending hpending
  cases hfound.symm.trans hack
  obtain ⟨certificate, transcript, hcert, hcontext, -⟩ := hfor.certificate
  rw [hcontext]
  exact h.live pending certificate hpending hcert

theorem handled_silent (h : EntryInv crypto seed circulating entry)
    (hstep : Handled crypto seed configId entry request entry' reply saves) {rotationId : Id32}
    (hcancelled : rotationId ∈ entry.rotationCancellations) :
    ∀ event ∈ reply, ¬event.Advances rotationId := by
  rintro event hevent hadvances
  cases hstep with
  | refused => cases hevent
  | cancelled =>
    cases hevent
    exact hadvances
  | retried _ _ hpending _ hack =>
    cases hevent
    exact h.pendingAck_live hpending hack (hadvances ▸ hcancelled)
  | activated _ hlive =>
    cases hevent
    exact hlive (hadvances ▸ hcancelled)
  | finalized hbinds =>
    cases hevent
    obtain ⟨qc, hqc, hrotation⟩ := hadvances
    cases hqc
    exact hbinds.live (hrotation ▸ hcancelled)
  | answered =>
    cases hevent
    exact hadvances

/-- A tombstone silences its rotation for the rest of the run. -/
theorem run_silent (hcycle : CycleFree crypto circulating)
    (h : EntryInv crypto seed circulating entry) {rotationId : Id32}
    (hcancelled : rotationId ∈ entry.rotationCancellations)
    (hcirc : ∀ request ∈ requests, request.Circulates circulating) :
    ∀ event ∈ (witnessMachine crypto seed configId).outputs entry requests,
      ¬event.Advances rotationId := by
  refine (run_entryInv (fun s out => rotationId ∈ s.rotationCancellations ∧
      ∀ event ∈ out, ¬event.Advances rotationId) hcycle h
    ⟨hcancelled, fun _ hmem => by cases hmem⟩ ?_ hcirc).2.2
  intro s out request s' reply saves hs hinv hstep
  refine ⟨handled_cancellations hstep hinv.1, fun event hevent => ?_⟩
  rcases List.mem_append.mp hevent with hold | hnew
  · exact hinv.2 event hold
  · exact handled_silent hs hstep hinv.1 event (Option.mem_toList.mp hnew)

/-! ### Second children -/

/-- An accepted cancel of exactly this acknowledged successor. -/
def WitnessEvent.Cancels (ack : WitnessActivationAck) : WitnessEvent → Prop
  | .cancelled cancel (some released) =>
    cancel.rotationId = ack.context.rotationId ∧ cancel.planHash = ack.planHash ∧
      released.capsuleHash = ack.successorCapsuleHash
  | _ => False

/-- An acknowledgement not cancelled since is still locked, and under the active
capsule it is the pending one. -/
def AckLedger (entry : WitnessConfigEntry) (out : List WitnessEvent) : Prop :=
  ∀ before ack after, out = before ++ .acked ack :: after →
    (∃ event ∈ after, event.Cancels ack) ∨
      entry.register.predecessorLocks[ack.predecessorCapsuleHash]? =
          some ack.successorCapsuleHash ∧
        (ack.predecessorCapsuleHash = entry.capsule.capsuleHash → entry.pendingAck = some ack)

/-- Between two acknowledged children of one predecessor the first was cancelled. -/
def SecondChildCancelled (out : List WitnessEvent) : Prop :=
  ∀ before first between second after,
    out = before ++ .acked first :: (between ++ .acked second :: after) →
    first.predecessorCapsuleHash = second.predecessorCapsuleHash →
    first.successorCapsuleHash ≠ second.successorCapsuleHash →
    ∃ event ∈ between, event.Cancels first

/-- What is open before a step stays open, or the step cancels it. -/
theorem handled_open (hcycle : CycleFree crypto circulating)
    (h : EntryInv crypto seed circulating entry)
    (hstep : Handled crypto seed configId entry request entry' reply saves)
    {ack : WitnessActivationAck}
    (hlock : entry.register.predecessorLocks[ack.predecessorCapsuleHash]? =
      some ack.successorCapsuleHash)
    (hpend : ack.predecessorCapsuleHash = entry.capsule.capsuleHash →
      entry.pendingAck = some ack) :
    (∃ event ∈ reply, event.Cancels ack) ∨
      entry'.register.predecessorLocks[ack.predecessorCapsuleHash]? =
          some ack.successorCapsuleHash ∧
        (ack.predecessorCapsuleHash = entry'.capsule.capsuleHash →
          entry'.pendingAck = some ack) := by
  cases hstep with
  | refused => exact Or.inr ⟨hlock, hpend⟩
  | retried => exact Or.inr ⟨hlock, hpend⟩
  | answered => exact Or.inr ⟨hlock, hpend⟩
  | cancelled _ _ _ houtcome _ =>
    cases houtcome with
    | repeated => exact Or.inr ⟨hlock, hpend⟩
    | recorded => exact Or.inr ⟨hlock, hpend⟩
    | rolledBack hnew hpending hactivation hrotation hplan _ =>
      by_cases hactive : ack.predecessorCapsuleHash = entry.capsule.capsuleHash
      · -- the pending acknowledgement is the one the cancel takes back
        obtain ⟨-, -, -, found, hfound, hfor⟩ := h.follows.pending _ hpending
        cases hfound.symm.trans (hpend hactive)
        obtain ⟨certificate, transcript, hcert, hcontext, hackPlan, -⟩ := hfor.certificate
        cases hcert.symm.trans hactivation
        refine Or.inl ⟨_, rfl, ?_⟩
        simp only [releasedBy, hnew, if_false, hpending]
        exact ⟨by rw [hcontext]; exact hrotation.symm, by rw [hackPlan]; exact hplan.symm,
          hfor.successorHash.symm⟩
      · refine Or.inr ⟨?_, fun heq => absurd heq hactive⟩
        simp only [Std.TreeMap.getElem?_erase, Std.compare_eq_iff_eq]
        rw [if_neg (Ne.symm hactive)]
        exact hlock
  | activated hbinds hlive hnone hextends hpersist hack =>
    have hne : entry.capsule.capsuleHash ≠ ack.predecessorCapsuleHash := by
      intro heq
      rw [← heq, h.no_lock_when_idle hcycle hnone] at hlock
      cases hlock
    have hregister := h.persist_fresh hcycle hnone hpersist
    subst hregister
    refine Or.inr ⟨?_, fun heq => absurd heq.symm hne⟩
    simp only [pendingEntry, Std.TreeMap.getElem?_insert, Std.compare_eq_iff_eq]
    rw [if_neg hne]
    exact hlock
  | finalized hbinds =>
    refine Or.inr ⟨hlock, fun heq => ?_⟩
    -- a lock on the successor itself would make it its own ancestor
    obtain ⟨-, -, hchild⟩ := h.direct _ hbinds.pending_eq
    have hself : ack.predecessorCapsuleHash = _ := heq
    rcases h.locks _ _ hlock with ⟨hsame, -⟩ | hbelow
    · rw [hsame] at hself
      exact absurd (TransGen.single hchild) (hself ▸ hcycle _)
    · exact absurd (TransGen.head hchild hbelow) (hself ▸ hcycle _)

theorem handled_acked (hcycle : CycleFree crypto circulating)
    (h : EntryInv crypto seed circulating entry)
    {ack : WitnessActivationAck}
    (hstep : Handled crypto seed configId entry request entry' (some (.acked ack)) saves) :
    entry'.register.predecessorLocks[ack.predecessorCapsuleHash]? =
        some ack.successorCapsuleHash ∧
      entry'.pendingAck = some ack := by
  cases hstep with
  | retried _ _ hpending _ hack =>
    obtain ⟨-, -, hlock, found, hfound, hfor⟩ := h.follows.pending _ hpending
    cases hfound.symm.trans hack
    rw [hfor.predecessorHash, hfor.successorHash]
    exact ⟨hlock, hack⟩
  | activated _ _ hnone _ hpersist _ =>
    have hregister := h.persist_fresh hcycle hnone hpersist
    subst hregister
    exact ⟨by simp [pendingEntry, signedActivationAck, activationAck], rfl⟩

theorem run_ackLedger (hcycle : CycleFree crypto circulating)
    (h : EntryInv crypto seed circulating entry)
    (hcirc : ∀ request ∈ requests, request.Circulates circulating) :
    AckLedger ((witnessMachine crypto seed configId).run entry requests)
        ((witnessMachine crypto seed configId).outputs entry requests) ∧
      SecondChildCancelled ((witnessMachine crypto seed configId).outputs entry requests) := by
  refine (run_entryInv (fun s out => AckLedger s out ∧ SecondChildCancelled out) hcycle h
    ⟨fun before ack after hout => by simp at hout,
      fun before first between second after hout => by simp at hout⟩ ?_ hcirc).2
  rintro s out request s' reply saves hs ⟨hledger, hsecond⟩ hstep
  cases reply with
  | none =>
    have hopen : AckLedger s' out := by
      intro before ack after hout
      rcases hledger before ack after hout with hdone | ⟨hlock, hpend⟩
      · exact Or.inl hdone
      · rcases handled_open hcycle hs hstep hlock hpend with ⟨_, hevent, -⟩ | hstill
        · cases hevent
        · exact Or.inr hstill
    simpa using ⟨hopen, hsecond⟩
  | some event =>
    have hopen : AckLedger s' (out ++ [event]) := by
      intro before ack after hout
      rcases Machine.concat_split hout with ⟨rfl, rfl, rfl⟩ | ⟨rest, rfl, hold⟩
      · obtain ⟨hlock, hpend⟩ := handled_acked hcycle hs hstep
        exact Or.inr ⟨hlock, fun _ => hpend⟩
      · rcases hledger before ack rest hold with ⟨c, hc, hcancels⟩ | ⟨hlock, hpend⟩
        · exact Or.inl ⟨c, List.mem_append_left _ hc, hcancels⟩
        · rcases handled_open hcycle hs hstep hlock hpend with ⟨c, hevent, hcancels⟩ | hstill
          · cases hevent
            exact Or.inl ⟨event, by simp, hcancels⟩
          · exact Or.inr hstill
    refine ⟨hopen, ?_⟩
    intro before first between second after hout hpred hsucc
    have hassoc : out ++ [event] = (before ++ .acked first :: between) ++ .acked second :: after := by
      simpa using hout
    rcases Machine.concat_split hassoc with ⟨rfl, hold, rfl⟩ | ⟨rest, rfl, hold⟩
    · -- the second child is the answer of this step: its lock excludes the first one's
      rcases hopen before first (between ++ [.acked second]) (by simp [← hold]) with
        ⟨c, hc, hcancels⟩ | ⟨hlock, -⟩
      · rcases List.mem_append.mp hc with hc | hc
        · exact ⟨c, hc, hcancels⟩
        · rw [List.mem_singleton] at hc
          subst hc
          exact hcancels.elim
      · have hlock' := (handled_acked hcycle hs hstep).1
        rw [← hpred, hlock] at hlock'
        exact absurd (Option.some.inj hlock') hsucc
    · exact hsecond before first between second rest (by simpa using hold) hpred hsucc

/-! ### Requests of the small deployment -/

def sampleContext (parent : ConfigCapsuleV3) (rotationId : Id32) : RotationContext where
  protocolVersion := protocolVersionV3
  configRef := parent.configRef
  rotationId := rotationId
  predecessorCapsuleHash := parent.capsuleHash
  recipientKey := [1]
  nonce := 60
  issuedAt := 5
  expiry := 100

/-- The direct successor of a capsule with this epoch binding, under its hash. -/
def sampleSuccessor (parent : ConfigCapsuleV3) (binding capsuleHash : Id32) : ConfigCapsuleV3 :=
  { parent with
    configRef := { parent.configRef with
      guardianEpoch := saturatingAdd parent.configRef.guardianEpoch 1
      epochBinding := binding }
    capsuleHash := capsuleHash
    predecessorCapsuleHash := parent.capsuleHash
    activationCertificate := none
    activationQc := none }

/-- A signer's vote, with this membership proof. -/
def sampleVote (parent successor : ConfigCapsuleV3) (planHash rotationId : Id32)
    (signerId : UInt16) (proof : MerkleProofBytes) : SignerRotationActivateVote :=
  let unsigned : SignerRotationActivateVote := {
    context := sampleContext parent rotationId
    planHash := planHash
    readyCertificateHash := 51
    successorCapsuleHash := successor.capsuleHash
    signerId := signerId
    signerPublicKey := Crypto.transparent.verifyingKeyBytes (sampleSignerSeed signerId)
    signerMembershipProof := proof
    signerSignature := [] }
  { unsigned with
    signerSignature := Crypto.transparent.sign (sampleSignerSeed signerId)
      ((signerRotationActivateVote unsigned).toOption.getD []) }

/-- The plan hash and the second signer's membership proof are left open. -/
def sampleActivation (parent successor : ConfigCapsuleV3) (planHash rotationId : Id32)
    (proof : MerkleProofBytes) : WitnessActivationRequest :=
  ⟨successor, {
    context := sampleContext parent rotationId
    planHash := planHash
    readyCertificateHash := 51
    successor := successor.configRef
    successorCapsuleHash := successor.capsuleHash
    votes := [sampleVote parent successor planHash rotationId 1 sampleMembershipProof,
      sampleVote parent successor planHash rotationId 2 proof] }⟩

def samplePlanHash : Id32 := 1780648191

/-- Two children of the genesis capsule. -/
def sampleFirstWith (proof : MerkleProofBytes) : WitnessActivationRequest :=
  sampleActivation sampleGenesis (sampleSuccessor sampleGenesis 11 339073090) samplePlanHash 70 proof

def sampleFirst : WitnessActivationRequest := sampleFirstWith sampleMembershipProof

def sampleSecond : WitnessActivationRequest :=
  sampleActivation sampleGenesis (sampleSuccessor sampleGenesis 12 1593375041) 50 71
    sampleMembershipProof

def sampleCancel (parent : ConfigCapsuleV3) (planHash rotationId : Id32) :
    OwnerRotationCancelCertificate :=
  let unsigned : OwnerRotationCancelCertificate := {
    context := sampleContext parent rotationId
    planHash := planHash
    reasonCode := 1
    cancelResponseRecipientKey := List.replicate xwingPublicKeyLen 7
    ownerCancelPublicKey := Crypto.transparent.verifyingKeyBytes sampleOwnerSeed
    ownerSignature := [] }
  { unsigned with
    ownerSignature := Crypto.transparent.sign sampleOwnerSeed
      ((ownerRotationCancelCertificate unsigned).toOption.getD []) }

def sampleWitness (id : UInt16) : Machine WitnessConfigEntry WitnessRequest WitnessEvent :=
  witnessMachine Crypto.transparent (sampleWitnessSeed id) 1

def sampleChildren : Set ConfigCapsuleV3 := {sampleFirst.capsule, sampleSecond.capsule}

theorem sampleChildren_cycleFree : CycleFree Crypto.transparent sampleChildren := by
  have hsealed : ∀ capsule ∈ [sampleFirst.capsule, sampleSecond.capsule],
      (configCapsuleBodyV3 capsule).toOption.map Crypto.transparent.sha256 =
        some capsule.capsuleHash := by
    decide +kernel
  refine cycleFree_of_rank (fun hash => if hash = sampleGenesis.capsuleHash then 0 else 1) ?_
  rintro child parent ⟨capsule, hmem, ⟨body, hok, rfl⟩, rfl⟩
  have hmem' : capsule ∈ [sampleFirst.capsule, sampleSecond.capsule] := by
    simpa [sampleChildren] using hmem
  have hhash : Crypto.transparent.sha256 body = capsule.capsuleHash := by
    have hsome := hsealed capsule hmem'
    rw [hok] at hsome
    exact Option.some.inj hsome
  have hrank : capsule.predecessorCapsuleHash = sampleGenesis.capsuleHash ∧
      capsule.capsuleHash ≠ sampleGenesis.capsuleHash := by
    rcases hmem with rfl | rfl
    · exact ⟨rfl, by decide⟩
    · exact ⟨rfl, by decide⟩
  rw [hhash, if_pos hrank.1, if_neg hrank.2]
  exact Nat.one_pos

/-! ### Reachable entries -/

/-- From an accepted provision, over every sequence of requests: the register follows
the active or pending capsule; the active capsule changes only by a finalization
and only to a direct successor; once left it never returns; a tombstoned rotation is
never acknowledged or finalized again; and a second child of a predecessor is
acknowledged only after an accepted cancel of exactly the first. -/
theorem witness_entry_invariant {adminToken : String} {bearer : Option String}
    {provision : WitnessConfigProvision}
    (hprovision : witnessProvision crypto seed adminToken bearer false provision = .ok entry)
    (hcycle : CycleFree crypto circulating)
    (hcirc : ∀ request ∈ requests, request.Circulates circulating) :
    let witness := witnessMachine crypto seed configId
    RegisterFollows crypto seed (witness.run entry requests) ∧
      (∀ before request after, requests = before ++ request :: after →
        let earlier := (witness.run entry before).capsule
        let later := (witness.run entry (before ++ [request])).capsule
        later = earlier ∨
          (∃ qc, request = .finalize qc) ∧
            later.configRef.IsDirectSuccessorOf earlier.configRef ∧
            later.predecessorCapsuleHash = earlier.capsuleHash) ∧
      (∀ before between after, requests = before ++ (between ++ after) →
        (witness.run entry (before ++ between)).capsule ≠ (witness.run entry before).capsule →
        (witness.run entry requests).capsule.capsuleHash ≠
          (witness.run entry before).capsule.capsuleHash) ∧
      (∀ before after rotationId, requests = before ++ after →
        rotationId ∈ (witness.run entry before).rotationCancellations →
        ∀ event ∈ witness.outputs (witness.run entry before) after,
          ¬event.Advances rotationId) ∧
      SecondChildCancelled (witness.outputs entry requests) := by
  intro witness
  obtain ⟨hprovisioned, rfl⟩ := witnessProvision_eq_ok hprovision
  have hstart : EntryInv crypto seed circulating provision.entry :=
    entryInv_provisioned hprovisioned
  have hreach : ∀ before, (∀ request ∈ before, request.Circulates circulating) →
      EntryInv crypto seed circulating (witness.run provision.entry before) :=
    fun before hbefore => (run_entryInv (fun _ _ => True) hcycle hstart trivial
      (fun _ _ _ _ _ _ _ _ _ => trivial) hbefore).1
  refine ⟨(hreach requests hcirc).follows, ?_, ?_, ?_, (run_ackLedger hcycle hstart hcirc).2⟩
  · rintro before request after rfl
    have hbefore := hreach before fun r hr => hcirc r (List.mem_append_left _ hr)
    obtain ⟨saves, hhandled⟩ := witnessMachine_handled crypto seed configId
      hbefore.witnessId request
    simp only [Machine.run_append, Machine.run_cons, Machine.run_nil]
    rcases handled_direct_successor hbefore hhandled with hsame | ⟨hreq, hdirect, hpred, -⟩
    · exact Or.inl hsame
    · exact Or.inr ⟨hreq, hdirect, hpred⟩
  · rintro before between after rfl hchanged
    have hbefore := hreach before fun r hr => hcirc r (List.mem_append_left _ hr)
    have hmiddle := hreach (before ++ between) fun r hr => hcirc r (by
      rw [← List.append_assoc]
      exact List.mem_append_left _ hr)
    have hfirst : Descends crypto circulating (witness.run (witness.run provision.entry before)
        between).capsule (witness.run provision.entry before).capsule :=
      run_descends hcycle hbefore fun r hr => hcirc r (by simp [hr])
    have hsecond : Descends crypto circulating (witness.run (witness.run provision.entry
        (before ++ between)) after).capsule
        (witness.run provision.entry (before ++ between)).capsule :=
      run_descends hcycle hmiddle fun r hr => hcirc r (by simp [hr])
    rw [← Machine.run_append] at hfirst hsecond
    rw [List.append_assoc] at hsecond
    have hbelow := hfirst.resolve_left hchanged
    intro heq
    rcases hsecond with hsame | hlast
    · rw [← hsame, heq] at hbelow
      exact hcycle _ hbelow
    · exact hcycle _ (heq ▸ hlast.trans hbelow)
  · rintro before after rotationId rfl hcancelled
    exact run_silent hcycle (hreach before fun r hr => hcirc r (List.mem_append_left _ hr))
      hcancelled fun r hr => hcirc r (List.mem_append_right _ hr)

theorem witness_entry_invariant_two_children :
    RegisterFollows Crypto.transparent (sampleWitnessSeed 1)
      ((sampleWitness 1).run (sampleProvision 4 1).entry [.activate sampleFirst,
          .cancelRotation (.ok 6) (sampleCancel sampleGenesis samplePlanHash 70), .activate sampleSecond]) :=
  (witness_entry_invariant (sampleProvision_accepted (by decide)) sampleChildren_cycleFree (by
    simp only [List.forall_mem_cons, List.not_mem_nil, false_implies, implies_true, and_true]
    exact ⟨Or.inl rfl, trivial, Or.inr rfl⟩)).1

end MasterRecovery
