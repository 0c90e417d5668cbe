import MasterRecovery.Lib.DryRun
import MasterRecovery.GuardianServed
import MasterRecovery.RotationHistory

/-!
# How far a rotation request gets before it changes anything

For each handler that can write and then refuse, the dry run that stops at its first change:
the same checks on the entry as it was, and for each write whether it finds its value there.
-/

namespace MasterRecovery
open Checks Transcript Act

variable (crypto : Crypto) (vault : Vault) (node : GuardianNode) (call : GuardianCall)

/-! ### Steps of a session -/

section Steps

variable (session : GuardianRotationSessionV3)

def drySave (nonce : BitVec 192) (plan : RotationPlan) (guardianIndex : UInt16)
    (state : LocalDpssState) : Dry Unit := do
  let encrypted ← Dry.check (sealLocalState crypto vault node nonce plan guardianIndex state)
  Dry.write (session.encryptedLocalState = some encrypted)

/-- Both writes are idle only where the counter has reached its end. -/
def dryDelivery (draw : Randomness) (signingSeed : Id32) (plan : RotationPlan)
    (senderIndex : UInt16) (target : GuardianRouteV3) (phase : DpssPhase)
    (providerPayload : Bytes) : Dry DpssDeliveryV3 := do
  let key := sequenceKey senderIndex target.guardianIndex
  let sequence := nextSequence session.nextOutgoingSequences key
  Dry.write (session.nextOutgoingSequences[key]? = some sequence)
  let planHash ← Dry.check (hashPlan crypto plan)
  let message : DpssProtocolMessage :=
    { context := plan.context
      planHash := planHash
      dpssSuite := plan.dpssSuite
      dpssSessionId := plan.dpssSessionId
      qualifiedSetCommitment := plan.dpssQualifiedSetCommitment
      phase := phase
      senderIndex := senderIndex
      recipientIndex := target.guardianIndex
      sequence := sequence
      providerPayload := providerPayload
      senderSignature := [] }
  Dry.write (session.nextOutgoingSequences[key]? = some (saturatingAdd sequence 1))
  let transcript ← Dry.check (wire (Wire.dpssProtocolMessage message))
  let encoded ← Dry.check (vault.encodeMessage
    { message with senderSignature := crypto.sign signingSeed transcript })
  let context ← Dry.check (wire (Wire.mailboxTransportContext target.mailbox "dpss-direct"))
  let sealedMessage ← Dry.check (crypt (vault.sealToRecipient target.sessionRecipientKey draw.id
    draw.nonce encoded context))
  pure ⟨target.mailbox, sealedMessage⟩

/-- The first delivery of a sender starts its counter, whatever becomes of the delivery. -/
def dryOpenDelivery (plan : RotationPlan) (ownRoute : GuardianRouteV3)
    (senderRoutes : List GuardianRouteV3) (expectedPhase : DpssPhase) (senders : Finset UInt16)
    (sealedMessage : SealedMessage) : Dry (UInt16 × Bytes) := do
  let opened ← Dry.check (openedMessage crypto vault node plan ownRoute senderRoutes expectedPhase
    senders sealedMessage)
  let message := opened.1
  let key := sequenceKey message.senderIndex ownRoute.guardianIndex
  let sequence := nextSequence session.nextIncomingSequences key
  Dry.write (session.nextIncomingSequences[key]? = some sequence)
  Dry.check (bailIf (message.sequence ≠ sequence) "DPSS delivery is reordered or replayed")
  Dry.check (crypt (crypto.verify opened.2.1 opened.2.2 message.senderSignature))
  Dry.write (session.nextIncomingSequences[key]? = some (saturatingAdd sequence 1))
  pure (message.senderIndex, message.providerPayload)

def dryOpenDeliveries (plan : RotationPlan) (ownRoute : GuardianRouteV3)
    (senderRoutes : List GuardianRouteV3) (expectedPhase : DpssPhase) (senders : Finset UInt16) :
    List SealedMessage → Dry (List (UInt16 × Bytes))
  | [] => pure []
  | sealedMessage :: incoming => do
    let opened ← dryOpenDelivery crypto vault node session plan ownRoute senderRoutes
      expectedPhase senders sealedMessage
    let rest ← dryOpenDeliveries plan ownRoute senderRoutes expectedPhase
      (insert opened.1 senders) incoming
    pure (opened :: rest)

/-- An event that is accepted changes the machine. -/
def dryEvent (event : RotationEvent) : Dry Unit := do
  let _ ← Dry.check ((session.rotationMachine.apply event).mapError RotationError.text)
  .wrote

def dryAdvance (monotonicNow : UInt64) : Dry Unit :=
  match session.rotationMachine.state with
  | .delayPending => dryEvent session (.releaseAccepted monotonicNow true true)
  | .preparing => pure ()
  | state => Dry.check (.error ("rotation Release is invalid from local state " ++ state.debug))

end Steps

/-! ### Rounds -/

section Rounds

variable (session : GuardianRotationSessionV3)

def dryDealRepair (plan : RotationPlan) (beginCertificate : BeginRotationCertificate)
    (releaseHash : Id32) (signingSeed : Id32) (ownIndex : UInt16) (oldShare fragment : Bytes)
    (record : GuardianRecordV3) (leaf : PreparedRecordLeaf) (helperIds : List UInt16)
    (replacementId : UInt16) : Dry GuardianRotationResponseV3 := do
  let beginTranscript ← Dry.check (wire (Wire.beginRotationCertificate beginCertificate))
  Dry.check (bailIf (session.beginCertificateHash ≠ crypto.sha256 beginTranscript ∨
    session.bootId ≠ call.bootId ∨ call.monotonicNow < session.notBeforeMonotonic)
    "guardian delay is incomplete or reboot-ambiguous")
  dryAdvance session call.monotonicNow
  let deltas ← Dry.check (crypt (beginOldShare vault.frost oldShare helperIds replacementId
    (call.random 0).id))
  let selfDelta ← Dry.check (okOr (deltas.lookup ownIndex)
    "RTS provider omitted the helper's own delta")
  drySave crypto vault node session (call.random 1).nonce plan ownIndex
    (.repairDealer oldShare selfDelta)
  let deliveries ← Dry.collect (fun delta : (UInt16 × Bytes) × ℕ => do
      let target ← Dry.check (okOr
        (plan.oldRoster.find? fun route => route.guardianIndex = delta.1.1)
        "RTS helper is not in the old roster")
      dryDelivery crypto vault session (call.random (2 + delta.2)) signingSeed plan ownIndex
        target .repairRound1 delta.1.2)
    (deltas.filter fun delta => delta.1 ≠ ownIndex).zipIdx
  Dry.check (signed crypto signingSeed Wire.ciphertextFragmentContribution
    (fun contribution signature => { contribution with guardianSignature := signature })
    (fun contribution => .dpssDeliveries deliveries (some contribution))
    { context := plan.context
      planHash := session.planHash
      releaseCertificateHash := releaseHash
      oldGuardianIndex := ownIndex
      fragmentIndex := record.fragmentIndex
      ciphertextFragment := fragment
      fragmentCommitment := crypto.sha256 fragment
      preparedRecordLeaf := leaf
      merklePathProof := record.merklePathProof
      guardianSignature := [] })

def drySumRepair (plan : RotationPlan) (incoming : List SealedMessage) (signingSeed : Id32)
    (oldRoute replacement : GuardianRouteV3) : Dry GuardianRotationResponseV3 := do
  let opened ← dryOpenDeliveries crypto vault node session plan oldRoute plan.oldRoster
    .repairRound1 ∅ incoming
  let state ← Dry.check (openLocalState crypto vault node session plan oldRoute.guardianIndex)
  match state with
  | .repairDealer oldShare selfDelta => do
    let sigma ← Dry.check (crypt (frostRepairPart2 vault.frost
      (opened.map Prod.snd ++ [selfDelta])))
    drySave crypto vault node session (call.random 0).nonce plan oldRoute.guardianIndex
      (.oldShare oldShare)
    let delivery ← dryDelivery crypto vault session (call.random 1) signingSeed plan
      oldRoute.guardianIndex replacement .repairRound2 sigma
    pure (.dpssDeliveries [delivery] none)
  | _ => Dry.check (.error "guardian is not in RTS repair-dealer state")

def dryAssembleRepair (plan : RotationPlan) (incoming : List SealedMessage)
    (oldPublicPackage : Bytes) (newRoute : GuardianRouteV3) : Dry GuardianRotationResponseV3 := do
  let opened ← dryOpenDeliveries crypto vault node session plan newRoute plan.oldRoster
    .repairRound2 ∅ incoming
  Dry.check (bailIf (opened.length < plan.oldGuardianThreshold.toNat)
    "RTS finalization lacks an old-guardian threshold")
  dryAdvance session session.notBeforeMonotonic
  let share ← Dry.check (crypt (finalizeNewShare vault.frost (opened.map Prod.snd)
    newRoute.guardianIndex oldPublicPackage))
  let expandedPublicPackage ← Dry.check (crypt (frostPublicAddRepairedShare vault.frost
    oldPublicPackage share))
  let participant ← Dry.check (crypt (frostVerifyShare vault.frost share expandedPublicPackage))
  Dry.check (bailIf (participant ≠ newRoute.guardianIndex)
    "RTS replacement share has the wrong participant id")
  drySave crypto vault node session (call.random 0).nonce plan newRoute.guardianIndex
    (.repaired share)
  pure (.repairStored newRoute.guardianIndex expandedPublicPackage)

def dryDealRefresh (plan : RotationPlan) (signingSeed : Id32) (newRoute : GuardianRouteV3)
    (share : Bytes) : Dry GuardianRotationResponseV3 := do
  Dry.check (bailIf (session.bootId ≠ call.bootId ∨
    call.monotonicNow < session.notBeforeMonotonic)
    "guardian refresh delay is incomplete or reboot-ambiguous")
  dryAdvance session call.monotonicNow
  let total ← Dry.check (lengthU16 plan.newRoster.length)
  let refresh ← Dry.check (crypt (frostRefreshPart1 vault.frost newRoute.guardianIndex
    plan.newGuardianThreshold total (call.random 0).id))
  drySave crypto vault node session (call.random 1).nonce plan newRoute.guardianIndex
    (.refreshRound1 share refresh.secretState)
  let deliveries ← Dry.collect (fun target : GuardianRouteV3 × ℕ =>
      dryDelivery crypto vault session (call.random (2 + target.2)) signingSeed plan
        newRoute.guardianIndex target.1 .refreshRound1 refresh.broadcast)
    (plan.newRoster.filter fun route => route.guardianIndex ≠ newRoute.guardianIndex).zipIdx
  pure (.dpssDeliveries deliveries none)

def dryAnswerRefresh (plan : RotationPlan) (incoming : List SealedMessage) (signingSeed : Id32)
    (newRoute : GuardianRouteV3) : Dry GuardianRotationResponseV3 := do
  let round1 ← dryOpenDeliveries crypto vault node session plan newRoute plan.newRoster
    .refreshRound1 ∅ incoming
  Dry.check (bailIf (round1.length + 1 ≠ plan.newRoster.length) "refresh round 1 is incomplete")
  let state ← Dry.check (openLocalState crypto vault node session plan newRoute.guardianIndex)
  match state with
  | .refreshRound1 oldShare secretState => do
    let refresh ← Dry.check (crypt (frostRefreshPart2 vault.frost secretState round1))
    drySave crypto vault node session (call.random 0).nonce plan newRoute.guardianIndex
      (.refreshRound2 oldShare refresh.secretState round1)
    let deliveries ← Dry.collect (fun message : (UInt16 × Bytes) × ℕ => do
        let target ← Dry.check (okOr
          (plan.newRoster.find? fun route => route.guardianIndex = message.1.1)
          "refresh provider emitted an unknown recipient")
        dryDelivery crypto vault session (call.random (1 + message.2)) signingSeed plan
          newRoute.guardianIndex target .refreshRound2 message.1.2)
      refresh.directMessages.zipIdx
    pure (.dpssDeliveries deliveries none)
  | _ => Dry.check (.error "guardian is not in refresh round-1 state")

def dryAssembleRefresh (plan : RotationPlan) (incoming : List SealedMessage)
    (oldPublicPackage : Bytes) (newRoute : GuardianRouteV3) : Dry GuardianRotationResponseV3 := do
  let round2 ← dryOpenDeliveries crypto vault node session plan newRoute plan.newRoster
    .refreshRound2 ∅ incoming
  Dry.check (bailIf (round2.length + 1 ≠ plan.newRoster.length) "refresh round 2 is incomplete")
  let state ← Dry.check (openLocalState crypto vault node session plan newRoute.guardianIndex)
  match state with
  | .refreshRound2 oldShare secretState round1Messages => do
    let output ← Dry.check (crypt (frostRefreshPart3 vault.frost secretState round1Messages
      round2 oldPublicPackage oldShare))
    let participant ← Dry.check (crypt (frostVerifyShare vault.frost output.share
      output.publicPackage))
    Dry.check (bailIf (participant ≠ newRoute.guardianIndex)
      "refreshed share has the wrong participant id")
    let dpssResultCommitment ← Dry.check (crypt (frostPublicPackageDigest crypto vault.frost
      output.publicPackage))
    drySave crypto vault node session (call.random 0).nonce plan newRoute.guardianIndex
      (.refreshed output.share output.publicPackage)
    pure (.refreshFinalized newRoute.guardianIndex output.publicPackage dpssResultCommitment)
  | _ => Dry.check (.error "guardian is not in refresh round-2 state")

end Rounds

/-! ### Counters only grow -/

section Counters

/-- Every counter is where it was or further on. -/
def Grown (before after : Std.TreeMap ℕ UInt64) : Prop :=
  ∀ (key : ℕ) (v : UInt64), before[key]? = some v → ∃ w, after[key]? = some w ∧ v ≤ w

/-- Some counter has been started or has moved on. -/
def Advanced (before after : Std.TreeMap ℕ UInt64) : Prop :=
  ∃ (key : ℕ) (w : UInt64), after[key]? = some w ∧ ∀ v, before[key]? = some v → v < w

variable {before after after' sequences : Std.TreeMap ℕ UInt64} {key : ℕ} {v : UInt64}

theorem not_advanced_self : ¬Advanced sequences sequences := by
  rintro ⟨key, w, hw, hlt⟩
  exact absurd (hlt w hw) (UInt64.lt_irrefl w)

theorem Advanced.grown (h : Advanced before after) (hgrown : Grown after after') :
    Advanced before after' := by
  obtain ⟨key, w, hw, hlt⟩ := h
  obtain ⟨w', hw', hle⟩ := hgrown key w hw
  exact ⟨key, w', hw', fun v hv => UInt64.lt_of_lt_of_le (hlt v hv) hle⟩

theorem grown_insert (h : ∀ w, sequences[key]? = some w → w ≤ v) :
    Grown sequences (sequences.insert key v) := by
  intro other w hw
  rw [Std.TreeMap.getElem?_insert]
  by_cases hkey : compare key other = .eq
  · have heq : key = other := Std.LawfulEqOrd.eq_of_compare hkey
    subst heq
    exact ⟨v, by simp, h w hw⟩
  · exact ⟨w, by simp only [hkey, if_false, hw], UInt64.le_refl w⟩

theorem advanced_insert (h : ∀ w, sequences[key]? = some w → w < v) :
    Advanced sequences (sequences.insert key v) :=
  ⟨key, v, by simp, h⟩

theorem nextSequence_of_present (h : sequences[key]? = some v) : nextSequence sequences key = v := by
  simp [nextSequence, h]

/-- Reading a counter starts it. -/
theorem grown_insert_next (key : ℕ) :
    Grown sequences (sequences.insert key (nextSequence sequences key)) :=
  grown_insert fun _ hw => (nextSequence_of_present hw).symm ▸ UInt64.le_refl _

theorem grown_insert_succ (h : sequences[key]? = some v) :
    Grown sequences (sequences.insert key (saturatingAdd v 1)) :=
  grown_insert fun w hw => by
    obtain rfl : v = w := Option.some.inj (h.symm.trans hw)
    exact le_saturatingAdd v 1

/-- A counter that was not there has been started. -/
theorem advanced_insert_next (h : ¬sequences[key]? = some (nextSequence sequences key)) :
    Advanced sequences (sequences.insert key (nextSequence sequences key)) :=
  advanced_insert fun _ hw => absurd (nextSequence_of_present hw ▸ hw) h

/-- A counter that is not at its end has moved on. -/
theorem advanced_insert_succ (hfound : sequences[key]? = some v)
    (h : ¬sequences[key]? = some (saturatingAdd v 1)) :
    Advanced sequences (sequences.insert key (saturatingAdd v 1)) :=
  advanced_insert fun w hw => by
    obtain rfl : v = w := Option.some.inj (hfound.symm.trans hw)
    have hne : v ≠ saturatingAdd v 1 := fun heq => h (hfound.trans (congrArg some heq))
    exact UInt64.lt_of_le_of_ne (le_saturatingAdd v 1) hne

end Counters

/-! ### The machine only moves on -/

/-- The place of a state on the way of a rotation. -/
def RotationState.stage : RotationState → ℕ
  | .proposed => 0
  | .delayPending => 1
  | .preparing => 2
  | .ready => 3
  | .activating => 4
  | .active => 5
  | .draining => 6
  | .retired => 7
  | .aborted => 8

theorem RotationMachine.Moves.stage_lt {machine machine' : RotationMachine} {event : RotationEvent}
    (h : machine.Moves event machine') (hevent : event ≠ .conflictObserved) :
    machine.state.stage < machine'.state.stage := by
  cases h with
  | begun hstate => simp [hstate, RotationState.stage]
  | released hstate _ => simp [hstate, RotationState.stage]
  | prepared hstate _ => simp [hstate, RotationState.stage]
  | authorized hstate => simp [hstate, RotationState.stage]
  | activated hstate => simp [hstate, RotationState.stage]
  | draining hstate => simp [hstate, RotationState.stage]
  | retired hstate _ => simp [hstate, RotationState.stage]
  | givenUp hstate _ =>
    cases hs : machine.state <;> simp_all [RotationState.Abortable, RotationState.stage]
  | conflicting => exact absurd rfl hevent

/-! ### The steps follow their dry runs -/

section Changes

variable (s t : GuardianRotationSessionV3)

/-- The machine of the second session is further on. -/
def MovedOn : Prop := s.rotationMachine.state.stage < t.rotationMachine.state.stage

/-- A counter of the messages received has moved. -/
def Heard : Prop := Advanced s.nextIncomingSequences t.nextIncomingSequences

/-- A counter of the messages sent has moved. -/
def Sent : Prop := Advanced s.nextOutgoingSequences t.nextOutgoingSequences

def Sealed : Prop := t.encryptedLocalState ≠ s.encryptedLocalState

variable {s t}

theorem MovedOn.ne (h : MovedOn s t) : t ≠ s := fun heq => Nat.lt_irrefl _ (heq ▸ h)

theorem Heard.ne (h : Heard s t) : t ≠ s := fun heq => not_advanced_self (heq ▸ h)

theorem Sent.ne (h : Sent s t) : t ≠ s := fun heq => not_advanced_self (heq ▸ h)

theorem Sealed.ne (h : Sealed s t) : t ≠ s := fun heq => h (heq ▸ rfl)

end Changes

section Steps

variable {crypto : Crypto} {vault : Vault} {node : GuardianNode} {plan : RotationPlan}
  {Q : GuardianRotationSessionV3 → Prop} {s : GuardianRotationSessionV3}

theorem keeps_saveLocalState {nonce : BitVec 192} {guardianIndex : UInt16}
    {state : LocalDpssState}
    (hQ : ∀ t encrypted, Q t → Q { t with encryptedLocalState := encrypted }) (h : Q s) :
    Leaves Q (saveLocalState crypto vault node nonce plan guardianIndex state) s :=
  leaves_check_bind h fun encrypted _ => leaves_modify.mpr (hQ s (some encrypted) h)

theorem follows_saveLocalState {nonce : BitVec 192} {guardianIndex : UInt16}
    {state : LocalDpssState} :
    Follows (Sealed s)
      (drySave crypto vault node s nonce plan guardianIndex state)
      (saveLocalState crypto vault node nonce plan guardianIndex state) s := by
  refine follows_check_bind fun encrypted _ => follows_modify (fun hidle => ?_) fun hmoved => ?_
  · rw [← hidle]
  · exact fun hsame => hmoved hsame.symm

theorem keeps_makeDelivery {draw : Randomness} {signingSeed : Id32} {senderIndex : UInt16}
    {target : GuardianRouteV3} {phase : DpssPhase} {payload : Bytes}
    (hQ : ∀ t sequences, Grown t.nextOutgoingSequences sequences → Q t →
      Q { t with nextOutgoingSequences := sequences }) (h : Q s) :
    Leaves Q (makeDelivery crypto vault draw signingSeed plan senderIndex target phase payload)
      s := by
  have h₁ := hQ s _ (grown_insert_next (sequenceKey senderIndex target.guardianIndex)) h
  have h₂ := hQ _ _ (grown_insert_succ Std.TreeMap.getElem?_insert_self) h₁
  simp only [makeDelivery, setOutgoing, leaves_get_bind, leaves_modify_bind]
  refine leaves_check_bind h₁ fun planHash _ => ?_
  simp only [leaves_modify_bind]
  refine leaves_check_bind h₂ fun transcript _ => leaves_check_bind h₂ fun encoded _ => ?_
  exact leaves_check_bind h₂ fun context _ => leaves_check_bind h₂ fun sealedMessage _ => h₂

theorem follows_makeDelivery {draw : Randomness} {signingSeed : Id32} {senderIndex : UInt16}
    {target : GuardianRouteV3} {phase : DpssPhase} {payload : Bytes} :
    Follows (Sent s)
      (dryDelivery crypto vault s draw signingSeed plan senderIndex target phase payload)
      (makeDelivery crypto vault draw signingSeed plan senderIndex target phase payload) s := by
  simp only [makeDelivery, dryDelivery]
  refine follows_get_bind (follows_modify_bind (fun hidle => ?_) (fun hidle => ?_) fun hmoved => ?_)
  · rw [insert_of_present hidle]
  · refine follows_check_bind fun planHash _ => ?_
    refine follows_modify_bind (fun hend => ?_) (fun _ => ?_) fun hmoved => ?_
    · rw [insert_of_present hend]
    · refine follows_check_bind fun transcript _ => follows_check_bind fun encoded _ => ?_
      exact follows_check_bind fun context _ => follows_check_bind fun sealedMessage _ =>
        follows_pure
    · have h := advanced_insert_succ hidle hmoved
      refine leaves_check_bind h fun transcript _ => leaves_check_bind h fun encoded _ => ?_
      exact leaves_check_bind h fun context _ => leaves_check_bind h fun sealedMessage _ => h
  · have h := advanced_insert_next hmoved
    refine leaves_check_bind h fun planHash _ => ?_
    have h₂ := h.grown (grown_insert_succ Std.TreeMap.getElem?_insert_self)
    simp only [setOutgoing, leaves_modify_bind]
    refine leaves_check_bind h₂ fun transcript _ => leaves_check_bind h₂ fun encoded _ => ?_
    exact leaves_check_bind h₂ fun context _ => leaves_check_bind h₂ fun sealedMessage _ => h₂

theorem keeps_openDelivery {ownRoute : GuardianRouteV3} {senderRoutes : List GuardianRouteV3}
    {phase : DpssPhase} {senders : Finset UInt16} {sealedMessage : SealedMessage}
    (hQ : ∀ t sequences, Grown t.nextIncomingSequences sequences → Q t →
      Q { t with nextIncomingSequences := sequences }) (h : Q s) :
    Leaves Q
      (openDelivery crypto vault node plan ownRoute senderRoutes phase senders sealedMessage) s := by
  simp only [openDelivery]
  refine leaves_check_bind h fun opened _ => ?_
  have h₁ := hQ s _
    (grown_insert_next (sequenceKey opened.1.senderIndex ownRoute.guardianIndex)) h
  have h₂ := hQ _ _ (grown_insert_succ Std.TreeMap.getElem?_insert_self) h₁
  simp only [setIncoming, leaves_get_bind, leaves_modify_bind]
  refine leaves_check_bind h₁ fun _ _ => leaves_check_bind h₁ fun _ _ => ?_
  simp only [leaves_modify_bind, leaves_pure]
  exact h₂

theorem follows_openDelivery {ownRoute : GuardianRouteV3} {senderRoutes : List GuardianRouteV3}
    {phase : DpssPhase} {senders : Finset UInt16} {sealedMessage : SealedMessage} :
    Follows (Heard s)
      (dryOpenDelivery crypto vault node s plan ownRoute senderRoutes phase senders sealedMessage)
      (openDelivery crypto vault node plan ownRoute senderRoutes phase senders sealedMessage)
      s := by
  simp only [openDelivery, dryOpenDelivery]
  refine follows_check_bind fun opened _ => follows_get_bind ?_
  refine follows_modify_bind (fun hidle => ?_) (fun hidle => ?_) fun hmoved => ?_
  · rw [insert_of_present hidle]
  · refine follows_check_bind fun _ _ => follows_check_bind fun _ _ => ?_
    refine follows_modify_bind (fun hend => ?_) (fun _ => follows_pure) fun hmoved => ?_
    · rw [insert_of_present hend]
    · exact advanced_insert_succ hidle hmoved
  · have h := advanced_insert_next hmoved
    refine leaves_check_bind h fun _ _ => leaves_check_bind h fun _ _ => ?_
    simp only [setIncoming, leaves_modify_bind, leaves_pure]
    exact h.grown (grown_insert_succ Std.TreeMap.getElem?_insert_self)

theorem keeps_openDeliveries {ownRoute : GuardianRouteV3} {senderRoutes : List GuardianRouteV3}
    {phase : DpssPhase} {senders : Finset UInt16} {incoming : List SealedMessage}
    (hQ : ∀ t sequences, Grown t.nextIncomingSequences sequences → Q t →
      Q { t with nextIncomingSequences := sequences }) (h : Q s) :
    Leaves Q
      (openDeliveries crypto vault node plan ownRoute senderRoutes phase senders incoming) s := by
  induction incoming generalizing s senders with
  | nil => exact h
  | cons sealedMessage incoming ih =>
    refine leaves_bind (keeps_openDelivery hQ h) fun opened t _ ht => ?_
    exact leaves_bind (ih ht) fun rest u _ hu => hu

theorem follows_openDeliveries {ownRoute : GuardianRouteV3} {senderRoutes : List GuardianRouteV3}
    {phase : DpssPhase} {senders : Finset UInt16} {incoming : List SealedMessage} :
    Follows (Heard s)
      (dryOpenDeliveries crypto vault node s plan ownRoute senderRoutes phase senders incoming)
      (openDeliveries crypto vault node plan ownRoute senderRoutes phase senders incoming) s := by
  induction incoming generalizing senders with
  | nil => exact follows_pure
  | cons sealedMessage incoming ih =>
    refine follows_bind follows_openDelivery (fun t => id) (fun opened _ => ?_) fun opened t ht => ?_
    · exact follows_bind ih (fun t => id) (fun rest _ => follows_pure) fun rest t ht => ht
    · refine leaves_bind (keeps_openDeliveries (fun t sequences hgrown hadv => ?_) ht)
        fun rest u _ hu => hu
      exact hadv.grown hgrown

variable {s₀ : GuardianRotationSessionV3} {event : RotationEvent}

theorem applyEvent_stage {t : GuardianRotationSessionV3} {out : List RotationAction × RotationMachine}
    (h : (s.rotationMachine.apply event).mapError RotationError.text = .ok out)
    (hevent : event ≠ .conflictObserved) (ht : t.rotationMachine = out.2) : MovedOn s t := by
  obtain ⟨-, -, hmoves⟩ := RotationMachine.apply_eq_ok (mapError_eq_ok.mp h)
  rw [MovedOn, ht]
  exact hmoves.stage_lt hevent

theorem keeps_applyEvent (hevent : event ≠ .conflictObserved) (h : MovedOn s₀ s) :
    Leaves (MovedOn s₀) (applyEvent event) s := by
  simp only [applyEvent, leaves_get_bind]
  refine leaves_check_bind h fun out hout => leaves_modify.mpr ?_
  exact h.trans (applyEvent_stage hout hevent rfl)

theorem follows_applyEvent (hevent : event ≠ .conflictObserved) :
    Follows (MovedOn s) (dryEvent s event) (applyEvent event) s := by
  simp only [applyEvent, dryEvent]
  refine follows_get_bind (follows_check_bind fun out hout => ?_)
  exact applyEvent_stage hout hevent rfl

theorem keeps_advanceToPreparing {monotonicNow : UInt64}
    (hQ : ∀ t machine, Q t → Q { t with rotationMachine := machine }) (h : Q s) :
    Leaves Q (advanceToPreparing monotonicNow) s := by
  simp only [advanceToPreparing, applyEvent, leaves_get_bind]
  cases s.rotationMachine.state with
  | delayPending => exact leaves_check_bind h fun out _ => leaves_modify.mpr (hQ s out.2 h)
  | preparing => exact h
  | _ => exact leaves_check.mpr h

theorem follows_advanceToPreparing {monotonicNow : UInt64} :
    Follows (MovedOn s) (dryAdvance s monotonicNow) (advanceToPreparing monotonicNow) s := by
  simp only [advanceToPreparing, dryAdvance]
  refine follows_get_bind ?_
  cases s.rotationMachine.state with
  | delayPending => exact follows_applyEvent (by simp)
  | preparing => exact follows_pure
  | _ => exact follows_check

end Steps

/-! ### The rounds follow theirs -/

section Rounds

variable {crypto : Crypto} {vault : Vault} {node : GuardianNode} {call : GuardianCall}
  {plan : RotationPlan} {signingSeed : Id32} {incoming : List SealedMessage}
  {Q : GuardianRotationSessionV3 → Prop} {s : GuardianRotationSessionV3}

/-- Neither sealing a state nor sending messages undoes the property. -/
structure Outlasts (Q : GuardianRotationSessionV3 → Prop) : Prop where
  resealed : ∀ t encrypted, Q t → Q { t with encryptedLocalState := encrypted }
  sent : ∀ t sequences, Grown t.nextOutgoingSequences sequences → Q t →
    Q { t with nextOutgoingSequences := sequences }

theorem outlasts_movedOn : Outlasts (MovedOn s) := ⟨fun _ _ h => h, fun _ _ _ h => h⟩

theorem outlasts_heard : Outlasts (Heard s) := ⟨fun _ _ h => h, fun _ _ _ h => h⟩

/-- The work moves nothing but the counters of the messages sent. -/
def Sends {α : Type} (x : Act GuardianRotationSessionV3 α) : Prop :=
  ∀ (Q : GuardianRotationSessionV3 → Prop) t,
    (∀ t sequences, Grown t.nextOutgoingSequences sequences → Q t →
      Q { t with nextOutgoingSequences := sequences }) → Q t → Leaves Q x t

theorem sends_makeDelivery {draw : Randomness} {senderIndex : UInt16} {target : GuardianRouteV3}
    {phase : DpssPhase} {payload : Bytes} :
    Sends (makeDelivery crypto vault draw signingSeed plan senderIndex target phase payload) :=
  fun _ _ hQ h => keeps_makeDelivery hQ h

theorem sends_check_bind {α β : Type} {y : Except String α} {g : α → Act GuardianRotationSessionV3 β}
    (h : ∀ a, Sends (g a)) : Sends (check y >>= g) :=
  fun Q t hQ ht => leaves_check_bind ht fun a _ => h a Q t hQ ht

section Sealing

variable {α β γ : Type} {nonce : BitVec 192} {guardianIndex : UInt16} {state : LocalDpssState}
  {f : α → Dry β} {g : α → Act GuardianRotationSessionV3 β} {xs : List α}
  {dryFinish : List β → Dry γ} {finish : List β → Act GuardianRotationSessionV3 γ}

/-- Every round that deals seals its state, sends its messages and answers. -/
theorem keeps_sealing (hQ : Outlasts Q) (hsends : ∀ x ∈ xs, Sends (g x))
    (hfinish : ∀ ys t, Q t → Leaves Q (finish ys) t) (h : Q s) :
    Leaves Q (do
      saveLocalState crypto vault node nonce plan guardianIndex state
      let ys ← collect g xs
      finish ys) s := by
  refine leaves_bind (keeps_saveLocalState hQ.resealed h) fun _ t _ ht => ?_
  have hcollect := leaves_collect ht fun x hx u hu => hsends x hx Q u hQ.sent hu
  exact leaves_bind hcollect fun ys u _ hu => hfinish ys u hu

theorem follows_sealing (hfollows : ∀ x ∈ xs, Follows (Sent s) (f x) (g x) s)
    (hsends : ∀ x ∈ xs, Sends (g x))
    (hanswer : ∀ ys, Follows (fun t => t ≠ s) (dryFinish ys) (finish ys) s)
    (hfinish : ∀ (Q : GuardianRotationSessionV3 → Prop) ys t, Q t → Leaves Q (finish ys) t) :
    Follows (fun t => t ≠ s)
      (do
        drySave crypto vault node s nonce plan guardianIndex state
        let ys ← Dry.collect f xs
        dryFinish ys)
      (do
        saveLocalState crypto vault node nonce plan guardianIndex state
        let ys ← collect g xs
        finish ys) s := by
  refine follows_bind follows_saveLocalState (fun t => Sealed.ne) (fun _ _ => ?_) fun _ t ht => ?_
  · refine follows_bind (follows_collect hfollows fun x hx t ht => ?_) (fun t => Sent.ne)
      (fun ys _ => hanswer ys) fun ys t ht => (hfinish (Sent s) ys t ht).mono fun u => Sent.ne
    exact hsends x hx (Sent s) t (fun u sequences hgrown hu => hu.grown hgrown) ht
  · have hcollect : Leaves (Sealed s) (collect g xs) t :=
      leaves_collect ht fun x hx u hu => hsends x hx (Sealed s) u (fun _ _ _ h => h) hu
    have hrest := leaves_bind hcollect fun ys u _ hu => hfinish (Sealed s) ys u hu
    exact hrest.mono fun u => Sealed.ne

end Sealing

theorem follows_dealRepair {beginCertificate : BeginRotationCertificate} {releaseHash : Id32}
    {ownIndex : UInt16} {oldShare fragment : Bytes} {record : GuardianRecordV3}
    {leaf : PreparedRecordLeaf} {helperIds : List UInt16} {replacementId : UInt16} :
    Follows (fun t => t ≠ s)
      (dryDealRepair crypto vault node call s plan beginCertificate releaseHash signingSeed ownIndex
        oldShare fragment record leaf helperIds replacementId)
      (dealRepair crypto vault node call plan beginCertificate releaseHash signingSeed ownIndex
        oldShare fragment record leaf helperIds replacementId) s := by
  simp only [dealRepair, dryDealRepair]
  refine follows_get_bind (follows_check_bind fun beginTranscript _ => ?_)
  refine follows_check_bind fun _ _ => ?_
  refine follows_bind follows_advanceToPreparing (fun t => MovedOn.ne) (fun _ _ => ?_)
    fun _ t ht => Leaves.mono (Q := MovedOn s) ?_ fun t => MovedOn.ne
  · refine follows_check_bind fun deltas _ => follows_check_bind fun selfDelta _ => ?_
    refine follows_sealing (fun delta _ => ?_) (fun delta _ => ?_)
      (fun deliveries => follows_get_bind follows_check) fun Q deliveries t ht => ?_
    · exact follows_check_bind fun target _ => follows_makeDelivery
    · exact sends_check_bind fun target => sends_makeDelivery
    · simp only [leaves_get_bind, leaves_check]
      exact ht
  · refine leaves_check_bind ht fun deltas _ => leaves_check_bind ht fun selfDelta _ => ?_
    refine keeps_sealing outlasts_movedOn (fun delta _ => ?_) (fun deliveries u hu => ?_) ht
    · exact sends_check_bind fun target => sends_makeDelivery
    · simp only [leaves_get_bind, leaves_check]
      exact hu

theorem follows_dealRefresh {newRoute : GuardianRouteV3} {share : Bytes} :
    Follows (fun t => t ≠ s)
      (dryDealRefresh crypto vault node call s plan signingSeed newRoute share)
      (dealRefresh crypto vault node call plan signingSeed newRoute share) s := by
  simp only [dealRefresh, dryDealRefresh]
  refine follows_get_bind (follows_check_bind fun _ _ => ?_)
  refine follows_bind follows_advanceToPreparing (fun t => MovedOn.ne) (fun _ _ => ?_)
    fun _ t ht => Leaves.mono (Q := MovedOn s) ?_ fun t => MovedOn.ne
  · refine follows_check_bind fun total _ => follows_check_bind fun refresh _ => ?_
    exact follows_sealing (fun target _ => follows_makeDelivery) (fun target _ => sends_makeDelivery)
      (fun deliveries => follows_pure) fun Q deliveries t ht => ht
  · refine leaves_check_bind ht fun total _ => leaves_check_bind ht fun refresh _ => ?_
    exact keeps_sealing outlasts_movedOn (fun target _ => sends_makeDelivery)
      (fun deliveries u hu => hu) ht

theorem follows_sumRepair {oldRoute replacement : GuardianRouteV3} :
    Follows (fun t => t ≠ s)
      (drySumRepair crypto vault node call s plan incoming signingSeed oldRoute replacement)
      (sumRepair crypto vault node call plan incoming signingSeed oldRoute replacement) s := by
  simp only [sumRepair, drySumRepair]
  refine follows_bind follows_openDeliveries (fun t => Heard.ne) (fun opened _ => ?_)
    fun opened t ht => Leaves.mono (Q := Heard s) ?_ fun t => Heard.ne
  · refine follows_get_bind (follows_check_bind fun state _ => ?_)
    cases state with
    | repairDealer oldShare selfDelta =>
      refine follows_check_bind fun sigma _ => ?_
      refine follows_bind follows_saveLocalState (fun t => Sealed.ne) (fun _ _ => ?_) fun _ t ht => ?_
      · exact follows_bind follows_makeDelivery (fun t => Sent.ne)
          (fun delivery _ => follows_pure) fun delivery t ht => ht.ne
      · refine Leaves.mono (Q := Sealed s) ?_ fun t => Sealed.ne
        exact leaves_bind (keeps_makeDelivery (fun _ _ _ h => h) ht) fun delivery u _ hu => hu
    | _ => exact follows_check
  · simp only [leaves_get_bind]
    refine leaves_check_bind ht fun state _ => ?_
    cases state with
    | repairDealer oldShare selfDelta =>
      refine leaves_check_bind ht fun sigma _ => ?_
      refine leaves_bind (keeps_saveLocalState outlasts_heard.resealed ht) fun _ u _ hu => ?_
      exact leaves_bind (keeps_makeDelivery outlasts_heard.sent hu) fun delivery v _ hv => hv
    | _ => exact leaves_check.mpr ht

/-- Nothing can go wrong after the share is sealed. -/
theorem follows_assembleRepair {oldPublicPackage : Bytes} {newRoute : GuardianRouteV3} :
    Follows (fun t => t ≠ s)
      (dryAssembleRepair crypto vault node call s plan incoming oldPublicPackage newRoute)
      (assembleRepair crypto vault node call plan incoming oldPublicPackage newRoute) s := by
  simp only [assembleRepair, dryAssembleRepair]
  refine follows_bind follows_openDeliveries (fun t => Heard.ne) (fun opened _ => ?_)
    fun opened t ht => Leaves.mono (Q := Heard s) ?_ fun t => Heard.ne
  · refine follows_check_bind fun _ _ => follows_get_bind ?_
    refine follows_bind follows_advanceToPreparing (fun t => MovedOn.ne) (fun _ _ => ?_)
      fun _ t ht => Leaves.mono (Q := MovedOn s) ?_ fun t => MovedOn.ne
    · refine follows_check_bind fun share _ => follows_check_bind fun expanded _ => ?_
      refine follows_check_bind fun participant _ => follows_check_bind fun _ _ => ?_
      exact follows_bind follows_saveLocalState (fun t => Sealed.ne) (fun _ _ => follows_pure)
        fun _ t ht => ht.ne
    · refine leaves_check_bind ht fun share _ => leaves_check_bind ht fun expanded _ => ?_
      refine leaves_check_bind ht fun participant _ => leaves_check_bind ht fun _ _ => ?_
      exact leaves_bind (keeps_saveLocalState outlasts_movedOn.resealed ht) fun _ u _ hu => hu
  · refine leaves_check_bind ht fun _ _ => ?_
    simp only [leaves_get_bind]
    refine leaves_bind (keeps_advanceToPreparing (fun _ _ h => h) ht) fun _ u _ hu => ?_
    refine leaves_check_bind hu fun share _ => leaves_check_bind hu fun expanded _ => ?_
    refine leaves_check_bind hu fun participant _ => leaves_check_bind hu fun _ _ => ?_
    exact leaves_bind (keeps_saveLocalState outlasts_heard.resealed hu) fun _ v _ hv => hv

theorem follows_answerRefresh {newRoute : GuardianRouteV3} :
    Follows (fun t => t ≠ s)
      (dryAnswerRefresh crypto vault node call s plan incoming signingSeed newRoute)
      (answerRefresh crypto vault node call plan incoming signingSeed newRoute) s := by
  simp only [answerRefresh, dryAnswerRefresh]
  refine follows_bind follows_openDeliveries (fun t => Heard.ne) (fun round1 _ => ?_)
    fun round1 t ht => Leaves.mono (Q := Heard s) ?_ fun t => Heard.ne
  · refine follows_check_bind fun _ _ => follows_get_bind (follows_check_bind fun state _ => ?_)
    cases state with
    | refreshRound1 oldShare secretState =>
      refine follows_check_bind fun refresh _ => ?_
      refine follows_sealing (fun message _ => ?_) (fun message _ => ?_)
        (fun deliveries => follows_pure) fun Q deliveries t ht => ht
      · exact follows_check_bind fun target _ => follows_makeDelivery
      · exact sends_check_bind fun target => sends_makeDelivery
    | _ => exact follows_check
  · refine leaves_check_bind ht fun _ _ => ?_
    simp only [leaves_get_bind]
    refine leaves_check_bind ht fun state _ => ?_
    cases state with
    | refreshRound1 oldShare secretState =>
      refine leaves_check_bind ht fun refresh _ => ?_
      refine keeps_sealing outlasts_heard (fun message _ => ?_) (fun deliveries u hu => hu) ht
      exact sends_check_bind fun target => sends_makeDelivery
    | _ => exact leaves_check.mpr ht

theorem follows_assembleRefresh {oldPublicPackage : Bytes} {newRoute : GuardianRouteV3} :
    Follows (fun t => t ≠ s)
      (dryAssembleRefresh crypto vault node call s plan incoming oldPublicPackage newRoute)
      (assembleRefresh crypto vault node call plan incoming oldPublicPackage newRoute) s := by
  simp only [assembleRefresh, dryAssembleRefresh]
  refine follows_bind follows_openDeliveries (fun t => Heard.ne) (fun round2 _ => ?_)
    fun round2 t ht => Leaves.mono (Q := Heard s) ?_ fun t => Heard.ne
  · refine follows_check_bind fun _ _ => follows_get_bind (follows_check_bind fun state _ => ?_)
    cases state with
    | refreshRound2 oldShare secretState round1Messages =>
      refine follows_check_bind fun output _ => follows_check_bind fun participant _ => ?_
      refine follows_check_bind fun _ _ => follows_check_bind fun commitment _ => ?_
      exact follows_bind follows_saveLocalState (fun t => Sealed.ne) (fun _ _ => follows_pure)
        fun _ t ht => ht.ne
    | _ => exact follows_check
  · refine leaves_check_bind ht fun _ _ => ?_
    simp only [leaves_get_bind]
    refine leaves_check_bind ht fun state _ => ?_
    cases state with
    | refreshRound2 oldShare secretState round1Messages =>
      refine leaves_check_bind ht fun output _ => leaves_check_bind ht fun participant _ => ?_
      refine leaves_check_bind ht fun _ _ => leaves_check_bind ht fun commitment _ => ?_
      exact leaves_bind (keeps_saveLocalState outlasts_heard.resealed ht) fun _ u _ hu => hu
    | _ => exact leaves_check.mpr ht

end Rounds

end MasterRecovery
