import MasterRecovery.CustodyDisclosure
import MasterRecovery.DrainingEpochs
import MasterRecovery.GuardianDryRun
import MasterRecovery.Lib.Keyed

/-!
# Where a guardian's session leaves its delay (gp-network/src/guardian_runtime.rs)

The machine of a session is moved by few requests. A dealing is held to the guardian's clock and
boot; a replacement that assembles its share, and a guardian that sees the successor activated, take
the delay to be over.
-/

namespace MasterRecovery
open Checks Transcript Wire Act

variable {crypto : Crypto} {vault : Vault} {node : GuardianNode} {call : GuardianCall}
  {plan : RotationPlan} {entry entry' : GuardianRotationEntryV3} {rotationId : Id32}
  {s t : GuardianRotationSessionV3}

/-! ### Work on a session -/

/-- A Release the machine accepts at this time. -/
def ReleasedAt (monotonicNow : UInt64) (machine machine' : RotationMachine) : Prop :=
  ∃ actions, machine.apply (.releaseAccepted monotonicNow true true) = .ok (actions, machine')

/-- The machine a dealing leaves: the one it found, or that one released at the guardian's clock. -/
def DealtFrom (call : GuardianCall) (s : GuardianRotationSessionV3) (machine : RotationMachine) :
    Prop :=
  machine = s.rotationMachine ∨ s.bootId = call.bootId ∧ s.notBeforeMonotonic ≤ call.monotonicNow ∧
    ReleasedAt call.monotonicNow s.rotationMachine machine

/-- A property of the machine outlasts everything that does not move the machine. -/
theorem outlasts_machine {P : RotationMachine → Prop} : Outlasts fun t => P t.rotationMachine :=
  ⟨fun _ _ h => h, fun _ _ _ h => h⟩

section Work

variable {signingSeed : Id32} {incoming : List SealedMessage}

theorem released_applyEvent {monotonicNow : UInt64} :
    Leaves (fun t => t.rotationMachine = s.rotationMachine ∨
      ReleasedAt monotonicNow s.rotationMachine t.rotationMachine)
      (applyEvent (.releaseAccepted monotonicNow true true)) s := by
  simp only [applyEvent, leaves_get_bind]
  refine leaves_check_bind (Or.inl rfl) fun out hout => leaves_modify.mpr (Or.inr ⟨out.1, ?_⟩)
  exact mapError_eq_ok.mp hout

theorem released_advanceToPreparing {monotonicNow : UInt64} :
    Leaves (fun t => t.rotationMachine = s.rotationMachine ∨
      ReleasedAt monotonicNow s.rotationMachine t.rotationMachine)
      (advanceToPreparing monotonicNow) s := by
  simp only [advanceToPreparing, leaves_get_bind]
  cases s.rotationMachine.state with
  | delayPending => exact released_applyEvent
  | preparing => exact Or.inl rfl
  | _ => exact leaves_check.mpr (Or.inl rfl)

theorem machine_dealRepair {beginCertificate : BeginRotationCertificate} {releaseHash : Id32}
    {ownIndex : UInt16} {oldShare fragment : Bytes} {record : GuardianRecordV3}
    {leaf : PreparedRecordLeaf} {helperIds : List UInt16} {replacementId : UInt16} :
    Leaves (fun t => DealtFrom call s t.rotationMachine)
      (dealRepair crypto vault node call plan beginCertificate releaseHash signingSeed ownIndex
        oldShare fragment record leaf helperIds replacementId) s := by
  have hstill : DealtFrom call s s.rotationMachine := Or.inl rfl
  simp only [dealRepair, leaves_get_bind]
  refine leaves_check_bind hstill fun beginTranscript _ => leaves_check_bind hstill fun _ hdue => ?_
  simp only [bailIf_eq_ok, not_or, not_not, ne_eq, UInt64.not_lt] at hdue
  refine leaves_bind (released_advanceToPreparing.mono fun t ht => ?_) fun _ t _ ht => ?_
  · exact ht.imp_right fun hreleased => ⟨hdue.2.1, hdue.2.2, hreleased⟩
  · refine leaves_check_bind ht fun deltas _ => leaves_check_bind ht fun selfDelta _ => ?_
    refine keeps_sealing outlasts_machine (fun delta _ => ?_) (fun deliveries u hu => ?_) ht
    · exact sends_check_bind fun target => sends_makeDelivery
    · simp only [leaves_get_bind, leaves_check]
      exact hu

theorem machine_dealRefresh {newRoute : GuardianRouteV3} {share : Bytes} :
    Leaves (fun t => DealtFrom call s t.rotationMachine)
      (dealRefresh crypto vault node call plan signingSeed newRoute share) s := by
  have hstill : DealtFrom call s s.rotationMachine := Or.inl rfl
  simp only [dealRefresh, leaves_get_bind]
  refine leaves_check_bind hstill fun _ hdue => ?_
  simp only [bailIf_eq_ok, not_or, not_not, ne_eq, UInt64.not_lt] at hdue
  refine leaves_bind (released_advanceToPreparing.mono fun t ht => ?_) fun _ t _ ht => ?_
  · exact ht.imp_right fun hreleased => ⟨hdue.1, hdue.2, hreleased⟩
  · refine leaves_check_bind ht fun total _ => leaves_check_bind ht fun refresh _ => ?_
    exact keeps_sealing outlasts_machine (fun target _ => sends_makeDelivery)
      (fun deliveries u hu => hu) ht

theorem machine_sumRepair {oldRoute replacement : GuardianRouteV3} :
    Leaves (fun t => s.rotationMachine = t.rotationMachine)
      (sumRepair crypto vault node call plan incoming signingSeed oldRoute replacement) s := by
  refine leaves_bind (keeps_openDeliveries (fun _ _ _ h => h) rfl) fun opened t _ ht => ?_
  simp only [leaves_get_bind]
  refine leaves_check_bind ht fun state _ => ?_
  cases state with
  | repairDealer oldShare selfDelta =>
    refine leaves_check_bind ht fun sigma _ => ?_
    refine leaves_bind (keeps_saveLocalState outlasts_machine.resealed ht) fun _ u _ hu => ?_
    exact leaves_bind (keeps_makeDelivery outlasts_machine.sent hu) fun _ v _ hv => hv
  | _ => exact leaves_check.mpr ht

theorem machine_answerRefresh {newRoute : GuardianRouteV3} :
    Leaves (fun t => s.rotationMachine = t.rotationMachine)
      (answerRefresh crypto vault node call plan incoming signingSeed newRoute) s := by
  refine leaves_bind (keeps_openDeliveries (fun _ _ _ h => h) rfl) fun round1 t _ ht => ?_
  refine leaves_check_bind ht fun _ _ => ?_
  simp only [leaves_get_bind]
  refine leaves_check_bind ht fun state _ => ?_
  cases state with
  | refreshRound1 oldShare secretState =>
    refine leaves_check_bind ht fun refresh _ => ?_
    exact keeps_sealing outlasts_machine
      (fun message _ => sends_check_bind fun target => sends_makeDelivery)
      (fun deliveries u hu => hu) ht
  | _ => exact leaves_check.mpr ht

theorem machine_assembleRefresh {oldPublicPackage : Bytes} {newRoute : GuardianRouteV3} :
    Leaves (fun t => s.rotationMachine = t.rotationMachine)
      (assembleRefresh crypto vault node call plan incoming oldPublicPackage newRoute) s := by
  refine leaves_bind (keeps_openDeliveries (fun _ _ _ h => h) rfl) fun round2 t _ ht => ?_
  refine leaves_check_bind ht fun _ _ => ?_
  simp only [leaves_get_bind]
  refine leaves_check_bind ht fun state _ => ?_
  cases state with
  | refreshRound2 oldShare secretState round1Messages =>
    refine leaves_check_bind ht fun output _ => leaves_check_bind ht fun participant _ => ?_
    refine leaves_check_bind ht fun _ _ => leaves_check_bind ht fun commitment _ => ?_
    exact leaves_bind (keeps_saveLocalState outlasts_machine.resealed ht) fun _ u _ hu => hu
  | _ => exact leaves_check.mpr ht

end Work

/-! ### A replacement and its helpers -/

/-- A delivery of the phase that the guardian of the roster has signed for this recipient. -/
def DeliveredBy (crypto : Crypto) (vault : Vault) (node : GuardianNode) (plan : RotationPlan)
    (ownRoute : GuardianRouteV3) (senderRoutes : List GuardianRouteV3) (phase : DpssPhase)
    (sender : UInt16) (sealedMessage : SealedMessage) : Prop :=
  ∃ senders opened, openedMessage crypto vault node plan ownRoute senderRoutes phase senders
      sealedMessage = .ok opened ∧ opened.1.senderIndex = sender ∧
    crypto.verify opened.2.1 opened.2.2 opened.1.senderSignature = .ok ()

/-- What makes an opened message the plan's, and its sender one of the roster that has not yet
been heard. -/
structure OpensAs (crypto : Crypto) (plan : RotationPlan) (ownRoute : GuardianRouteV3)
    (senderRoutes : List GuardianRouteV3) (phase : DpssPhase) (senders : Finset UInt16)
    (message : DpssProtocolMessage) (senderKey : PublicKey) (transcript : Bytes) : Prop where
  sender : (guardianKeys senderRoutes)[message.senderIndex]? = some senderKey
  transcript : Wire.dpssProtocolMessage message = .ok transcript
  context : message.context = plan.context
  planHash : HasHash crypto plan message.planHash
  phase : message.phase = phase
  recipient : message.recipientIndex = ownRoute.guardianIndex
  unheard : message.senderIndex ∉ senders

theorem openedMessage_eq_ok {ownRoute : GuardianRouteV3} {senderRoutes : List GuardianRouteV3}
    {phase : DpssPhase} {senders : Finset UInt16} {sealedMessage : SealedMessage}
    {opened : DpssProtocolMessage × PublicKey × Bytes}
    (h : openedMessage crypto vault node plan ownRoute senderRoutes phase senders sealedMessage =
      .ok opened) :
    OpensAs crypto plan ownRoute senderRoutes phase senders opened.1 opened.2.1 opened.2.2 := by
  simp only [openedMessage, Checks.bind_eq_ok, okOr_eq_ok, wire_eq_ok, hashPlan_eq_ok, bailIf_eq_ok,
    not_or, not_not, ne_eq, exists_const] at h
  obtain ⟨context, -, plaintext, -, message, -, senderKey, hsender, transcript, htranscript,
    planHash, hhash, ⟨hcontext, hplanHash, -, -, -, hphase, hrecipient, hunheard⟩, h⟩ := h
  cases h
  exact ⟨hsender, htranscript, hcontext, hplanHash ▸ hhash, hphase, hrecipient, hunheard⟩

theorem openDelivery_eq_ok {ownRoute : GuardianRouteV3} {senderRoutes : List GuardianRouteV3}
    {phase : DpssPhase} {senders : Finset UInt16} {sealedMessage : SealedMessage}
    {opened : UInt16 × Bytes}
    (h : openDelivery crypto vault node plan ownRoute senderRoutes phase senders sealedMessage s =
      .ok opened t) :
    opened.1 ∉ senders ∧
      DeliveredBy crypto vault node plan ownRoute senderRoutes phase opened.1 sealedMessage := by
  simp only [openDelivery, setIncoming, check_bind_eq_ok, Act.get_bind, Act.modify_bind,
    Act.pure_eq_ok, crypt_eq_ok] at h
  obtain ⟨message, hmessage, _, -, _, hverified, rfl, -⟩ := h
  exact ⟨(openedMessage_eq_ok hmessage).unheard, senders, message, hmessage, rfl, hverified⟩

/-- The senders are distinct, and each has signed one of the deliveries. -/
theorem openDeliveries_eq_ok {ownRoute : GuardianRouteV3} {senderRoutes : List GuardianRouteV3}
    {phase : DpssPhase} {senders : Finset UInt16} {incoming : List SealedMessage}
    {opened : List (UInt16 × Bytes)}
    (h : openDeliveries crypto vault node plan ownRoute senderRoutes phase senders incoming s =
      .ok opened t) :
    (opened.map Prod.fst).Nodup ∧ ∀ sender ∈ opened.map Prod.fst, sender ∉ senders ∧
      ∃ sealedMessage ∈ incoming,
        DeliveredBy crypto vault node plan ownRoute senderRoutes phase sender sealedMessage := by
  induction incoming generalizing s t senders opened with
  | nil =>
    simp only [openDeliveries, Act.pure_eq_ok] at h
    obtain ⟨rfl, -⟩ := h
    simp
  | cons sealedMessage incoming ih =>
    simp only [openDeliveries, Act.bind_eq_ok, Act.pure_eq_ok] at h
    obtain ⟨first, s₁, hfirst, rest, s₂, hrest, rfl, -⟩ := h
    obtain ⟨hunheard, hdelivered⟩ := openDelivery_eq_ok hfirst
    obtain ⟨hdistinct, hsenders⟩ := ih hrest
    rw [List.map_cons, List.nodup_cons]
    refine ⟨⟨fun hmem => (hsenders _ hmem).1 (Finset.mem_insert_self _ _), hdistinct⟩, ?_⟩
    refine List.forall_mem_cons.mpr ⟨⟨hunheard, _, List.mem_cons_self, hdelivered⟩, ?_⟩
    intro sender hsender
    obtain ⟨hnew, delivery, hmem, hby⟩ := hsenders sender hsender
    exact ⟨fun hold => hnew (Finset.mem_insert_of_mem hold), delivery,
      List.mem_cons_of_mem _ hmem, hby⟩

/-- A threshold of old guardians has sent its sigma. -/
def Helped (crypto : Crypto) (vault : Vault) (node : GuardianNode) (plan : RotationPlan)
    (newRoute : GuardianRouteV3) (incoming : List SealedMessage) : Prop :=
  ∃ helpers : List UInt16, helpers.Nodup ∧ plan.oldGuardianThreshold.toNat ≤ helpers.length ∧
    ∀ helper ∈ helpers, ∃ sealedMessage ∈ incoming,
      DeliveredBy crypto vault node plan newRoute plan.oldRoster .repairRound2 helper sealedMessage

/-- The machine that assembling leaves: the one it found, or that one released at the session's
own time. -/
def AssembledFrom (crypto : Crypto) (vault : Vault) (node : GuardianNode) (plan : RotationPlan)
    (newRoute : GuardianRouteV3) (incoming : List SealedMessage) (s : GuardianRotationSessionV3)
    (machine : RotationMachine) : Prop :=
  machine = s.rotationMachine ∨ Helped crypto vault node plan newRoute incoming ∧
    ReleasedAt s.notBeforeMonotonic s.rotationMachine machine

theorem machine_assembleRepair {incoming : List SealedMessage} {oldPublicPackage : Bytes}
    {newRoute : GuardianRouteV3} :
    Leaves (fun t => AssembledFrom crypto vault node plan newRoute incoming s t.rotationMachine)
      (assembleRepair crypto vault node call plan incoming oldPublicPackage newRoute) s := by
  have hsame : Leaves (fun t => t.rotationMachine = s.rotationMachine ∧
      t.notBeforeMonotonic = s.notBeforeMonotonic)
      (openDeliveries crypto vault node plan newRoute plan.oldRoster .repairRound2 ∅ incoming) s :=
    keeps_openDeliveries (fun _ _ _ h => h) ⟨rfl, rfl⟩
  refine leaves_bind (hsame.mono fun t ht => Or.inl ht.1) fun opened t hopened ht => ?_
  obtain ⟨hmachine, hnotBefore⟩ := hsame.ok hopened
  refine leaves_check_bind ht fun _ hmany => ?_
  simp only [bailIf_eq_ok, not_lt] at hmany
  obtain ⟨hdistinct, hsenders⟩ := openDeliveries_eq_ok hopened
  have hhelped : Helped crypto vault node plan newRoute incoming :=
    ⟨opened.map Prod.fst, hdistinct, by rwa [List.length_map], fun helper hhelper =>
      (hsenders helper hhelper).2⟩
  simp only [leaves_get_bind]
  refine leaves_bind (released_advanceToPreparing.mono fun u hu => ?_) fun _ u _ hu => ?_
  · rw [hmachine, hnotBefore] at hu
    exact hu.imp_right fun hreleased => ⟨hhelped, hreleased⟩
  · refine leaves_check_bind hu fun share _ => leaves_check_bind hu fun expanded _ => ?_
    refine leaves_check_bind hu fun participant _ => leaves_check_bind hu fun _ _ => ?_
    exact leaves_bind (keeps_saveLocalState outlasts_machine.resealed hu) fun _ v _ hv => hv

/-! ### An activation -/

/-- Events one after the other, as long as none is refused. -/
def RotationMachine.applyAll (machine : RotationMachine) :
    List RotationEvent → Except RotationError RotationMachine
  | [] => .ok machine
  | event :: events => do
    let out ← machine.apply event
    out.2.applyAll events

/-- The events of an activation, the Release at a time the session brings. -/
def activationEvents (releasedAt : UInt64) (count : UInt16) (drainDeadline : UInt64) :
    List RotationEvent :=
  [.releaseAccepted releasedAt true true, .preparationComplete count count true true,
    .activationAuthorized true true, .witnessQcObserved true true drainDeadline]

theorem RotationMachine.applyAll_concat {machine machine' : RotationMachine}
    {out : List RotationAction × RotationMachine} {done : List RotationEvent}
    {event : RotationEvent} (hdone : machine.applyAll done = .ok machine')
    (hout : machine'.apply event = .ok out) : machine.applyAll (done ++ [event]) = .ok out.2 := by
  induction done generalizing machine with
  | nil =>
    cases hdone
    simp only [List.nil_append, applyAll, Checks.bind_eq_ok]
    exact ⟨out, hout, rfl⟩
  | cons first done ih =>
    simp only [applyAll, List.cons_append, Checks.bind_eq_ok] at hdone ⊢
    obtain ⟨next, hnext, hdone⟩ := hdone
    exact ⟨next, hnext, ih hdone⟩

section Activation

variable {machine : RotationMachine} {event : RotationEvent} {done rest events : List RotationEvent}
  {count : UInt16} {drainDeadline : UInt64}

theorem applyEvent_eq_ok {u : Unit} (h : applyEvent event s = .ok u t)
    (hdone : machine.applyAll done = .ok s.rotationMachine) :
    machine.applyAll (done ++ [event]) = .ok t.rotationMachine := by
  simp only [applyEvent, Act.get_bind, check_bind_eq_ok, mapError_eq_ok] at h
  obtain ⟨out, hout, h⟩ := h
  cases h
  exact RotationMachine.applyAll_concat hdone hout

/-- The first of the events take the machine there. -/
def Reaches (machine : RotationMachine) (events : List RotationEvent)
    (machine' : RotationMachine) : Prop :=
  ∃ done, done <+: events ∧ machine.applyAll done = .ok machine'

theorem reaches_applyEvent (hevents : done ++ event :: rest = events)
    (hdone : machine.applyAll done = .ok s.rotationMachine) :
    Leaves (fun t => Reaches machine events t.rotationMachine) (applyEvent event) s := by
  simp only [applyEvent, leaves_get_bind]
  refine leaves_check_bind ⟨done, ⟨_, hevents⟩, hdone⟩ fun out hout => leaves_modify.mpr ?_
  refine ⟨done ++ [event], ⟨rest, by simp [hevents]⟩, ?_⟩
  exact RotationMachine.applyAll_concat hdone (mapError_eq_ok.mp hout)

theorem advanceToPreparing_pending {monotonicNow : UInt64}
    (hpending : s.rotationMachine.state = .delayPending) :
    advanceToPreparing monotonicNow s = applyEvent (.releaseAccepted monotonicNow true true) s := by
  simp only [advanceToPreparing, Act.get_bind, hpending]

theorem reaches_activateMachine (hpending : s.rotationMachine.state = .delayPending) :
    Leaves (fun t => Reaches s.rotationMachine
        (activationEvents s.notBeforeMonotonic count drainDeadline) t.rotationMachine)
      (activateMachine count drainDeadline) s := by
  have hstart : s.rotationMachine.applyAll [] = .ok s.rotationMachine := rfl
  have hreleased : Leaves (fun t => Reaches s.rotationMachine
      (activationEvents s.notBeforeMonotonic count drainDeadline) t.rotationMachine)
      (advanceToPreparing s.notBeforeMonotonic) s := by
    simp only [Leaves, final, advanceToPreparing_pending hpending]
    exact reaches_applyEvent (List.nil_append _) hstart
  simp only [activateMachine, leaves_get_bind]
  refine leaves_bind hreleased fun _ s₁ h₁ _ => ?_
  rw [advanceToPreparing_pending hpending] at h₁
  have hdone₁ := applyEvent_eq_ok h₁ hstart
  refine leaves_bind (reaches_applyEvent rfl hdone₁) fun _ s₂ h₂ _ => ?_
  have hdone₂ := applyEvent_eq_ok h₂ hdone₁
  refine leaves_bind (reaches_applyEvent rfl hdone₂) fun _ s₃ h₃ _ => ?_
  exact reaches_applyEvent rfl (applyEvent_eq_ok h₃ hdone₂)

theorem activateMachine_eq_ok {u : Unit} (hpending : s.rotationMachine.state = .delayPending)
    (h : activateMachine count drainDeadline s = .ok u t) :
    s.rotationMachine.applyAll (activationEvents s.notBeforeMonotonic count drainDeadline) =
      .ok t.rotationMachine := by
  simp only [activateMachine, Act.get_bind, Act.bind_eq_ok] at h
  obtain ⟨_, s₁, h₁, _, s₂, h₂, _, s₃, h₃, h₄⟩ := h
  rw [advanceToPreparing_pending hpending] at h₁
  have hstart : s.rotationMachine.applyAll [] = .ok s.rotationMachine := rfl
  have hdone₁ := applyEvent_eq_ok h₁ hstart
  exact applyEvent_eq_ok h₄ (applyEvent_eq_ok h₃ (applyEvent_eq_ok h₂ hdone₁))

end Activation

/-! ### A session over a request -/

/-- The request is a first round, in which a guardian deals from the share it holds. -/
def GuardianRotationRequestV3.Deals (request : GuardianRotationRequestV3) (plan : RotationPlan) :
    Prop :=
  (∃ begun release unlockGrant helperIds replacementId,
    request = .repairRound1 plan begun release unlockGrant helperIds replacementId) ∨
  ∃ begun release oldShareGrant, request = .refreshRound1 plan begun release oldShareGrant

/-- How a request takes the machine of a session out of its delay. Only a dealing looks at the
clock and the boot; the others put the session's own time in the place of a clock. -/
inductive LeavesDelay (crypto : Crypto) (vault : Vault) (node : GuardianNode) (call : GuardianCall)
    (entry : GuardianRotationEntryV3) (plan : RotationPlan) (s : GuardianRotationSessionV3) :
    GuardianRotationRequestV3 → RotationMachine → Prop
  | dealt {request : GuardianRotationRequestV3} {machine : RotationMachine}
    (hdeals : request.Deals plan) (hboot : s.bootId = call.bootId)
    (hdue : s.notBeforeMonotonic ≤ call.monotonicNow)
    (hreleased : ReleasedAt call.monotonicNow s.rotationMachine machine) :
    LeavesDelay crypto vault node call entry plan s request machine
  | assembled {incoming : List SealedMessage} {oldPublicPackage : Bytes}
    {newRoute : GuardianRouteV3} {machine : RotationMachine}
    (hroute : guardianRoute entry plan true = .ok newRoute)
    (hhelped : Helped crypto vault node plan newRoute incoming)
    (hreleased : ReleasedAt s.notBeforeMonotonic s.rotationMachine machine) :
    LeavesDelay crypto vault node call entry plan s
      (.repairFinalize plan incoming oldPublicPackage) machine
  | activated {capsule : ConfigCapsuleV3} {drainDeadline : UInt64}
    {qc : EpochActivationQc × Id32 × Id32} {machine : RotationMachine}
    (hchecked : ActivationChecked crypto entry plan capsule qc)
    (hreaches : Reaches s.rotationMachine (activationEvents s.notBeforeMonotonic
      (UInt16.ofNat plan.newRoster.length) drainDeadline) machine) :
    LeavesDelay crypto vault node call entry plan s (.activate plan capsule drainDeadline) machine

/-- A session that a request has taken out of its delay, or has ended. -/
inductive DelayLeft (crypto : Crypto) (vault : Vault) (node : GuardianNode) (call : GuardianCall)
    (entry : GuardianRotationEntryV3) (request : GuardianRotationRequestV3) (plan : RotationPlan)
    (s : GuardianRotationSessionV3) : Option GuardianRotationSessionV3 → Prop
  | moved {s' : GuardianRotationSessionV3} (hhash : HasHash crypto plan s.planHash)
    (hleaves : LeavesDelay crypto vault node call entry plan s request s'.rotationMachine) :
    DelayLeft crypto vault node call entry request plan s (some s')
  | activated {capsule : ConfigCapsuleV3} {drainDeadline : UInt64}
    {qc : EpochActivationQc × Id32 × Id32} {machine : RotationMachine}
    (hrequest : request = .activate plan capsule drainDeadline)
    (hhash : HasHash crypto plan s.planHash)
    (hchecked : ActivationChecked crypto entry plan capsule qc)
    (hmachine : s.rotationMachine.applyAll (activationEvents s.notBeforeMonotonic
      (UInt16.ofNat plan.newRoster.length) drainDeadline) = .ok machine) :
    DelayLeft crypto vault node call entry request plan s none
  | givenUp {s' : GuardianRotationSessionV3} (hends : request.Ends plan)
    (haborted : s'.rotationMachine.state = .aborted) :
    DelayLeft crypto vault node call entry request plan s (some s')
  | dropped (hends : request.Ends plan) :
    DelayLeft crypto vault node call entry request plan s none

/-- The machine of the session is where it was. -/
def Stays (s : GuardianRotationSessionV3) (after : Option GuardianRotationSessionV3) : Prop :=
  ∃ s', after = some s' ∧ s'.rotationMachine = s.rotationMachine

/-- The sessions that wait have gone on waiting, or have left their delay in one of the ways. -/
def DelaysKept (crypto : Crypto) (vault : Vault) (node : GuardianNode) (call : GuardianCall)
    (entry : GuardianRotationEntryV3) (request : GuardianRotationRequestV3)
    (entry' : GuardianRotationEntryV3) : Prop :=
  ∀ rotationId s, entry.sessions[rotationId]? = some s → s.rotationMachine.state = .delayPending →
    Stays s entry'.sessions[rotationId]? ∨
      ∃ plan, request.plan = some plan ∧ plan.context.rotationId = rotationId ∧
        DelayLeft crypto vault node call entry request plan s entry'.sessions[rotationId]?

section Served

variable {request : GuardianRotationRequestV3}

theorem delaysKept_of_sessions (h : entry'.sessions = entry.sessions) :
    DelaysKept crypto vault node call entry request entry' :=
  fun _ s hfound _ => Or.inl ⟨s, h ▸ hfound, rfl⟩

/-- One session is put back, the others are as they were. -/
theorem delaysKept_putSession (hplan : request.plan = some plan)
    (hfound : entry.sessions[plan.context.rotationId]? = some s)
    (h : s.rotationMachine.state = .delayPending → t.rotationMachine = s.rotationMachine ∨
      DelayLeft crypto vault node call entry request plan s (some t)) :
    DelaysKept crypto vault node call entry request
      (entry.putSession plan.context.rotationId t) := by
  intro rotationId s₀ hbefore hpending
  have hput : (entry.putSession plan.context.rotationId t).sessions[plan.context.rotationId]? =
      some t := Std.TreeMap.getElem?_insert_self
  by_cases hid : plan.context.rotationId = rotationId
  · subst hid
    rw [hput]
    cases hfound.symm.trans hbefore
    rcases h hpending with hsame | hleft
    · exact Or.inl ⟨t, rfl, hsame⟩
    · exact Or.inr ⟨plan, hplan, rfl, hleft⟩
  · refine Or.inl ⟨s₀, ?_, rfl⟩
    simpa [GuardianRotationEntryV3.putSession, Std.TreeMap.getElem?_insert, hid] using hbefore

/-- One session is taken away, the others are as they were. -/
theorem delaysKept_dropSession {entry₁ : GuardianRotationEntryV3} (hplan : request.plan = some plan)
    (hothers : ∀ rotationId, plan.context.rotationId ≠ rotationId →
      entry₁.sessions[rotationId]? = entry.sessions[rotationId]?)
    (h : ∀ s, entry.sessions[plan.context.rotationId]? = some s →
      s.rotationMachine.state = .delayPending →
        DelayLeft crypto vault node call entry request plan s none) :
    DelaysKept crypto vault node call entry request
      (entry₁.dropSession plan.context.rotationId) := by
  intro rotationId s₀ hbefore hpending
  by_cases hid : plan.context.rotationId = rotationId
  · subst hid
    have hgone : (entry₁.dropSession plan.context.rotationId).sessions[
        plan.context.rotationId]? = none := by simp [GuardianRotationEntryV3.dropSession]
    rw [hgone]
    exact Or.inr ⟨plan, hplan, rfl, h s₀ hbefore hpending⟩
  · refine Or.inl ⟨s₀, ?_, rfl⟩
    rw [← hothers rotationId hid] at hbefore
    simpa [GuardianRotationEntryV3.dropSession, Std.TreeMap.getElem?_erase, hid] using hbefore

/-- Work in the open session of the plan. -/
theorem delaysKept_sessionMut {α : Type} {x : Act GuardianRotationSessionV3 α}
    (hplan : request.plan = some plan)
    (hwork : ∀ s, HasHash crypto plan s.planHash → Leaves (fun t =>
      s.rotationMachine.state = .delayPending → t.rotationMachine = s.rotationMachine ∨
        DelayLeft crypto vault node call entry request plan s (some t)) x s) :
    Leaves (DelaysKept crypto vault node call entry request) (sessionMut crypto plan x) entry := by
  refine leaves_sessionMut (delaysKept_of_sessions rfl) fun s hs => ?_
  obtain ⟨hhash, hfound, -⟩ := openSession_eq_ok hs
  exact (hwork s hhash).mono fun t ht => delaysKept_putSession hplan hfound ht

/-- Work that leaves the machine alone, or takes it out of its delay. -/
theorem delaysKept_worked {α : Type} {x : Act GuardianRotationSessionV3 α}
    (hplan : request.plan = some plan)
    (hwork : ∀ s, Leaves (fun t => t.rotationMachine = s.rotationMachine ∨
      LeavesDelay crypto vault node call entry plan s request t.rotationMachine) x s) :
    Leaves (DelaysKept crypto vault node call entry request) (sessionMut crypto plan x) entry :=
  delaysKept_sessionMut hplan fun s hhash =>
    (hwork s).mono fun _ ht _ => ht.imp_right (.moved hhash)

/-! ### The requests -/

/-- The rounds, staging and the handoff. -/
theorem delaysKept_works (hworks : request.Works) (hplan : request.plan = some plan) :
    Leaves (DelaysKept crypto vault node call entry request)
      (guardianDispatch crypto vault node call request) entry := by
  have hkept : DelaysKept crypto vault node call entry request entry := delaysKept_of_sessions rfl
  cases request <;> first | exact hworks.elim | cases hplan
  case repairRound1 begun release unlockGrant helperIds replacementId =>
    simp only [guardianDispatch, repairRound1, leaves_get_bind]
    refine leaves_check_bind hkept fun releaseHash _ => leaves_check_bind hkept fun route _ => ?_
    refine leaves_check_bind hkept fun material _ => leaves_check_bind hkept fun record _ => ?_
    refine leaves_check_bind hkept fun leaf _ => delaysKept_worked rfl fun s => ?_
    refine machine_dealRepair.mono fun t ht => ht.imp_right fun hdealt => ?_
    obtain ⟨hboot, hdue, hreleased⟩ := hdealt
    exact .dealt (Or.inl ⟨_, _, _, _, _, rfl⟩) hboot hdue hreleased
  case repairRound2 incoming replacementId =>
    simp only [guardianDispatch, repairRound2, leaves_get_bind]
    refine leaves_check_bind hkept fun oldRoute _ => leaves_check_bind hkept fun replacement _ => ?_
    exact delaysKept_worked rfl fun s => machine_sumRepair.mono fun t ht => Or.inl ht.symm
  case repairFinalize incoming oldPublicPackage =>
    simp only [guardianDispatch, repairFinalize, leaves_get_bind]
    refine leaves_check_bind hkept fun newRoute hroute => delaysKept_worked rfl fun s => ?_
    exact machine_assembleRepair.mono fun t ht => ht.imp_right fun hassembled =>
      .assembled hroute hassembled.1 hassembled.2
  case refreshRound1 begun release oldShareGrant =>
    simp only [guardianDispatch, refreshRound1, leaves_get_bind]
    refine leaves_check_bind hkept fun newRoute _ => leaves_check_bind hkept fun share _ => ?_
    refine delaysKept_worked rfl fun s => ?_
    refine machine_dealRefresh.mono fun t ht => ht.imp_right fun hdealt => ?_
    obtain ⟨hboot, hdue, hreleased⟩ := hdealt
    exact .dealt (Or.inr ⟨_, _, _, rfl⟩) hboot hdue hreleased
  case refreshRound2 incoming =>
    simp only [guardianDispatch, refreshRound2, leaves_get_bind]
    refine leaves_check_bind hkept fun newRoute _ => ?_
    exact delaysKept_worked rfl fun s => machine_answerRefresh.mono fun t ht => Or.inl ht.symm
  case refreshFinalize incoming oldPublicPackage =>
    simp only [guardianDispatch, refreshFinalize, leaves_get_bind]
    refine leaves_check_bind hkept fun newRoute _ => ?_
    exact delaysKept_worked rfl fun s => machine_assembleRefresh.mono fun t ht => Or.inl ht.symm
  case stageMaterial =>
    simp only [guardianDispatch, stageMaterial, leaves_get_bind]
    refine leaves_check_bind hkept fun newRoute _ => delaysKept_worked rfl fun s => ?_
    simp only [leaves_get_bind]
    exact leaves_check_bind (Or.inl rfl) fun drafted _ => Or.inl rfl
  case handoffComplete =>
    simp only [guardianDispatch, handoffComplete, leaves_get_bind]
    refine leaves_check_bind hkept fun route _ => delaysKept_worked rfl fun s => ?_
    simp only [leaves_modify_bind, leaves_get_bind, leaves_check]
    exact Or.inl trivial

theorem delaysKept_begin {certificate : BeginRotationCertificate} :
    Leaves (DelaysKept crypto vault node call entry (.begin plan certificate))
      (guardianBegin crypto vault node call plan certificate) entry := by
  have hkept : DelaysKept crypto vault node call entry (.begin plan certificate) entry :=
    delaysKept_of_sessions rfl
  simp only [guardianBegin, leaves_get_bind]
  refine leaves_check_bind hkept fun beginHash _ => leaves_check_bind hkept fun _ _ => ?_
  refine leaves_check_bind hkept fun _ _ => leaves_check_bind hkept fun planHash _ => ?_
  refine leaves_check_bind hkept fun _ _ => ?_
  cases hfresh : entry.sessions[plan.context.rotationId]? with
  | some existing => exact leaves_check_bind hkept fun _ _ => hkept
  | none =>
    refine leaves_check_bind hkept fun machine _ => leaves_check_bind hkept fun begun _ => ?_
    refine leaves_check_bind hkept fun notBefore _ => ?_
    simp only [leaves_modify_bind, leaves_pure]
    intro rotationId s hfound _
    have hid : plan.context.rotationId ≠ rotationId := by
      rintro rfl
      rw [hfresh] at hfound
      cases hfound
    refine Or.inl ⟨s, ?_, rfl⟩
    simpa [GuardianRotationEntryV3.putSession, Std.TreeMap.getElem?_insert, hid] using hfound

theorem delaysKept_prepareCommit {guardianMaterialRoot : Id32} {merklePathProof : MerkleProofBytes}
    {dpssResultCommitment : Id32} :
    Leaves (DelaysKept crypto vault node call entry
        (.prepareCommit plan guardianMaterialRoot merklePathProof dpssResultCommitment))
      (prepareCommit crypto vault node call plan guardianMaterialRoot merklePathProof
        dpssResultCommitment) entry := by
  have hkept {entry' : GuardianRotationEntryV3} (h : entry'.sessions = entry.sessions) :
      DelaysKept crypto vault node call entry (.prepareCommit plan guardianMaterialRoot
        merklePathProof dpssResultCommitment) entry' := delaysKept_of_sessions h
  simp only [prepareCommit, leaves_get_bind]
  refine leaves_check_bind (hkept rfl) fun route _ => leaves_check_bind (hkept rfl) fun s _ => ?_
  refine leaves_check_bind (hkept rfl) fun staged _ => leaves_check_bind (hkept rfl) fun out _ => ?_
  refine leaves_check_bind (hkept rfl) fun prepared _ => ?_
  simp only [leaves_modify_bind]
  refine leaves_check_bind (hkept rfl) fun response _ => ?_
  simp only [leaves_get_bind]
  refine leaves_check_bind (hkept rfl) fun session hsession => ?_
  simp only [leaves_modify_bind, leaves_pure]
  exact delaysKept_putSession rfl (okOr_eq_ok.mp hsession) fun _ => Or.inl rfl

theorem leaves_onStore {Q : GuardianRotationEntryV3 → Prop}
    {x : EStateM StorageError GuardianEpochStore Unit} (h : ∀ store, Q (entry.withStore store)) :
    Leaves Q (onStore x) entry := by
  simp only [Leaves, final, onStore]
  cases x entry.provision.epochStore <;> exact h _

theorem delaysKept_activate {capsule : ConfigCapsuleV3} {drainDeadline : UInt64} :
    Leaves (DelaysKept crypto vault node call entry (.activate plan capsule drainDeadline))
      (guardianActivate crypto plan capsule drainDeadline) entry := by
  have hkept : DelaysKept crypto vault node call entry (.activate plan capsule drainDeadline)
      entry := delaysKept_of_sessions rfl
  simp only [guardianActivate, leaves_get_bind]
  refine leaves_check_bind hkept fun qc hchecks => ?_
  have hchecked := activationChecks_eq_ok hchecks
  refine leaves_bind (delaysKept_sessionMut rfl fun s hhash => ?_) fun _ entry₁ hrun h₁ => ?_
  · by_cases hpending : s.rotationMachine.state = .delayPending
    · exact (reaches_activateMachine hpending).mono fun t hreaches _ =>
        Or.inr (.moved hhash (.activated hchecked hreaches))
    · exact Leaves.mono (Q := fun _ => True) trivial fun _ _ hstate => absurd hstate hpending
  · obtain ⟨s, s', hsession, hmachine, rfl⟩ := sessionMut_eq_ok hrun
    obtain ⟨hhash, hbefore, -⟩ := openSession_eq_ok hsession
    refine leaves_bind (leaves_onStore fun store => h₁) fun _ entry₂ hstored _ => ?_
    obtain ⟨store, -, rfl⟩ := onStore_eq_ok.mp hstored
    simp only [leaves_modify_bind, leaves_pure]
    refine delaysKept_dropSession rfl (fun rotationId hid => ?_) fun s₀ hfound hpending => ?_
    · simp [GuardianRotationEntryV3.withStore, GuardianRotationEntryV3.putSession,
        Std.TreeMap.getElem?_insert, hid]
    · cases hbefore.symm.trans hfound
      exact .activated rfl hhash hchecked (activateMachine_eq_ok hpending hmachine)

/-- What gives a rotation up aborts its machine or leaves it alone. -/
theorem aborted_applyEvent {event : RotationEvent}
    (hevent : event = .ownerCancelObserved true ∨ event = .abortObserved true) :
    Leaves (fun t => t.rotationMachine = s.rotationMachine ∨ t.rotationMachine.state = .aborted)
      (applyEvent event) s := by
  simp only [applyEvent, leaves_get_bind]
  refine leaves_check_bind (Or.inl rfl) fun out hout => leaves_modify.mpr (Or.inr ?_)
  obtain ⟨-, -, hmoves⟩ := RotationMachine.apply_eq_ok (mapError_eq_ok.mp hout)
  change out.2.state = .aborted
  generalize out.2 = machine at hmoves
  rcases hevent with rfl | rfl <;> cases hmoves <;> rfl

theorem aborted_cancelSession :
    Leaves (fun t => t.rotationMachine = s.rotationMachine ∨ t.rotationMachine.state = .aborted)
      cancelSession s := by
  simp only [cancelSession, leaves_get_bind]
  split
  · exact Or.inl rfl
  · exact leaves_bind (aborted_applyEvent (Or.inl rfl)) fun _ t _ ht => leaves_modify.mpr ht

theorem delaysKept_cancelRotation {planHash : Id32} (hends : request.Ends plan)
    (hplan : request.plan = some plan) :
    Leaves (DelaysKept crypto vault node call entry request) (cancelRotation plan planHash)
      entry := by
  have hkept : DelaysKept crypto vault node call entry request entry := delaysKept_of_sessions rfl
  simp only [cancelRotation, leaves_get_bind]
  split
  · exact leaves_check.mpr hkept
  · split
    · next session hfound =>
      refine leaves_onSession (aborted_cancelSession.mono fun t ht => ?_)
      exact delaysKept_putSession hplan hfound fun _ => ht.imp_right (.givenUp hends)
    · exact leaves_check_bind hkept fun machine _ => leaves_check_bind hkept fun _ _ => hkept

theorem SessionMoved.others {rotationId : Id32}
    (h : SessionMoved crypto vault node entry plan entry')
    (hid : plan.context.rotationId ≠ rotationId) :
    entry'.sessions[rotationId]? = entry.sessions[rotationId]? := by
  cases h with
  | idle => rfl
  | moved => simp [GuardianRotationEntryV3.putSession, Std.TreeMap.getElem?_insert, hid]

/-- The rotation given up, its store and its session are let go. -/
theorem delaysKept_drop {store : GuardianEpochStore} (hends : request.Ends plan)
    (hplan : request.plan = some plan) (hmoved : SessionMoved crypto vault node entry plan entry') :
    DelaysKept crypto vault node call entry request
      ((entry'.withStore store).dropSession plan.context.rotationId) :=
  delaysKept_dropSession hplan (fun _ hid => hmoved.others hid) fun _ _ _ => .dropped hends

theorem delaysKept_cancel {certificate : OwnerRotationCancelCertificate} :
    Leaves (DelaysKept crypto vault node call entry (.cancel plan certificate))
      (guardianCancel crypto call plan certificate) entry := by
  have hends : (GuardianRotationRequestV3.cancel plan certificate).Ends plan :=
    Or.inl ⟨certificate, rfl⟩
  have hkept : DelaysKept crypto vault node call entry (.cancel plan certificate) entry :=
    delaysKept_of_sessions rfl
  simp only [guardianCancel, leaves_get_bind]
  refine leaves_check_bind hkept fun hashes _ => ?_
  have hleaves : Leaves (SessionMoved crypto vault node entry plan)
      (cancelRotation plan hashes.1) entry := leaves_cancelRotation
  refine leaves_bind (delaysKept_cancelRotation hends rfl) fun _ entry₁ hrun h₁ => ?_
  refine leaves_bind (leaves_updateStore h₁ fun store _ => h₁) fun _ entry₂ hstored _ => ?_
  obtain ⟨store, -, rfl⟩ := updateStore_eq_ok.mp hstored
  have hdropped : DelaysKept crypto vault node call entry (.cancel plan certificate)
      ((entry₁.withStore store).dropSession plan.context.rotationId) :=
    delaysKept_drop hends rfl (hleaves.ok hrun)
  simp only [leaves_modify_bind, leaves_get_bind]
  exact leaves_check_bind hdropped fun _ _ => leaves_check.mpr hdropped

theorem delaysKept_abort {certificate : AbortRotationCertificate} :
    Leaves (DelaysKept crypto vault node call entry (.abort plan certificate))
      (guardianAbort crypto call plan certificate) entry := by
  have hends : (GuardianRotationRequestV3.abort plan certificate).Ends plan :=
    Or.inr ⟨certificate, rfl⟩
  have hkept : DelaysKept crypto vault node call entry (.abort plan certificate) entry :=
    delaysKept_of_sessions rfl
  simp only [guardianAbort, leaves_get_bind]
  refine leaves_check_bind hkept fun _ _ => leaves_check_bind hkept fun planHash _ => ?_
  have hleaves : Leaves (SessionMoved crypto vault node entry plan)
      (sessionMut crypto plan (applyEvent (.abortObserved true))) entry :=
    leaves_moved fun s => leaves_applyEvent (.refl s)
  refine leaves_bind (delaysKept_sessionMut rfl fun s _ => ?_) fun _ entry₁ hrun h₁ => ?_
  · exact (aborted_applyEvent (Or.inr rfl)).mono fun t ht _ => ht.imp_right (.givenUp hends)
  · refine leaves_bind (leaves_updateStore h₁ fun store _ => h₁) fun _ entry₂ hstored _ => ?_
    obtain ⟨store, -, rfl⟩ := updateStore_eq_ok.mp hstored
    simp only [leaves_modify_bind, leaves_pure]
    exact delaysKept_drop hends rfl (hleaves.ok hrun)

theorem delaysKept_retire {notice : RetirementNotice} {monotonicNow : UInt64} :
    Leaves (DelaysKept crypto vault node call entry (.retire notice monotonicNow))
      (guardianRetire crypto notice monotonicNow) entry := by
  have hkept {entry' : GuardianRotationEntryV3} (h : entry'.sessions = entry.sessions) :
      DelaysKept crypto vault node call entry (.retire notice monotonicNow) entry' :=
    delaysKept_of_sessions h
  simp only [guardianRetire, leaves_get_bind]
  refine leaves_check_bind (hkept rfl) fun out _ => leaves_check_bind (hkept rfl) fun _ _ => ?_
  simp only [leaves_modify_bind, leaves_check]
  exact hkept rfl

/-- What any rotation request does to the sessions that wait. -/
theorem rotation_delaysKept (request : GuardianRotationRequestV3) :
    Leaves (DelaysKept crypto vault node call entry request)
      (handleGuardianRotationV3 crypto vault node call request) entry := by
  simp only [handleGuardianRotationV3, leaves_get_bind]
  refine leaves_check_bind (delaysKept_of_sessions rfl) fun _ _ => ?_
  cases request with
  | begin plan certificate => exact delaysKept_begin
  | cancel plan certificate => exact delaysKept_cancel
  | prepareCommit plan _ _ _ => exact delaysKept_prepareCommit
  | activate plan _ _ => exact delaysKept_activate
  | abort plan _ => exact delaysKept_abort
  | retire notice _ => exact delaysKept_retire
  | _ => exact delaysKept_works trivial rfl

end Served

/-! ### Runs -/

/-- The session of a rotation, as a request leaves it. -/
def GuardianExchange.sessionAfter (x : GuardianExchange) (crypto : Crypto) (vault : Vault)
    (node : GuardianNode) (rotationId : Id32) : Option GuardianRotationSessionV3 :=
  ((handleGuardian crypto vault node x.call x.request).final x.entry).sessions[rotationId]?

/-- What a request does to the sessions that wait. -/
theorem GuardianExchange.delaysKept (x : GuardianExchange)
    (hfound : x.entry.sessions[rotationId]? = some s)
    (hpending : s.rotationMachine.state = .delayPending) :
    Stays s (x.sessionAfter crypto vault node rotationId) ∨
      ∃ request plan, x.request = .rotation request ∧ request.plan = some plan ∧
        plan.context.rotationId = rotationId ∧ DelayLeft crypto vault node x.call x.entry request
          plan s (x.sessionAfter crypto vault node rotationId) := by
  obtain ⟨entry, call, request, response⟩ := x
  cases request with
  | rotation request =>
    have hkept : Leaves (DelaysKept crypto vault node call entry request)
        (handleGuardian crypto vault node call (.rotation request)) entry :=
      leaves_map (rotation_delaysKept request)
    rcases hkept rotationId s hfound hpending with hstays | ⟨plan, hplan, hid, hleft⟩
    · exact Or.inl hstays
    · exact Or.inr ⟨request, plan, rfl, hplan, hid, hleft⟩
  | recovery request =>
    have hserved : Leaves (fun entry' => ∃ response,
        RecoveryServed crypto node call entry request response entry')
        (handleGuardian crypto vault node call (.recovery request)) entry :=
      leaves_map ⟨_, recovery_served request⟩
    obtain ⟨response, hserved⟩ := hserved
    refine Or.inl ⟨s, ?_, rfl⟩
    rw [sessionAfter, hserved.rotationsKept.sessions]
    exact hfound

section Runs

variable {provision : GuardianRotationProvisionV3} {inputs : List GuardianInput}
  {before after : List GuardianExchange} {x : GuardianExchange}

/-- A session waits from the Begin that started it. Its machine leaves the delay in a dealing, at
the clock and in the boot of the session; with the sigmas of a threshold of old guardians; with
the activated capsule of the successor; or the rotation is given up. -/
theorem session_leaves_delay
    (hsplit : guardianLog crypto vault node provision inputs = before ++ x :: after)
    (hfound : x.entry.sessions[rotationId]? = some s)
    (hpending : s.rotationMachine.state = .delayPending) :
    (∃ b ∈ before, ∃ plan, plan.context.rotationId = rotationId ∧ BegunAt crypto node b plan s) ∧
      (Stays s (x.sessionAfter crypto vault node rotationId) ∨
        ∃ request plan, x.request = .rotation request ∧ request.plan = some plan ∧
          plan.context.rotationId = rotationId ∧ DelayLeft crypto vault node x.call x.entry request
            plan s (x.sessionAfter crypto vault node rotationId)) := by
  obtain ⟨hledger, -⟩ := (guardian_run (@disclosureLedger_invariant crypto vault node)
    (@disclosureLedger_provisioned crypto vault node provision)).found hsplit
  exact ⟨(hledger.begun rotationId s hfound).2, x.delaysKept hfound hpending⟩

end Runs

/-! ### A successor activated early -/

/-- The guardian that leaves, in its delay until 20. -/
def sampleWaiting : GuardianRotationEntryV3 := sampleLeaver.entry.putSession 70 (sampleSession 10)

def sampleEarly : GuardianExchange where
  entry := sampleWaiting
  call := sampleCall 20 14
  request := .rotation (.activate samplePlan70 sampleInstalled 60)
  response := some (.rotation (.activated 2))

/-- It sees the successor activated at 14, and its session is over. -/
theorem sampleEarly_served :
    (sampleLeaverServe sampleEarly.call sampleEarly.request).returned
        sampleEarly.entry = sampleEarly.response ∧
      sampleEarly.sessionAfter Crypto.transparent (Vault.transparent [1] []) sampleLeaverNode
        70 = none := by
  have hrun : ((sampleLeaverServe sampleEarly.call sampleEarly.request).returned
        sampleEarly.entry, (sampleEarly.sessionAfter Crypto.transparent
          (Vault.transparent [1] []) sampleLeaverNode 70).isNone) =
      (sampleEarly.response, true) := by
    decide +kernel
  obtain ⟨hreturned, hgone⟩ := Prod.mk.inj hrun
  exact ⟨hreturned, Option.isNone_iff_eq_none.mp hgone⟩

theorem sampleEarly_logged : ∃ begun, sampleLeaverLog (sampleCapture 60).tail =
    [begun] ++ sampleEarly :: [] := by
  have hbegun := @sampleLeaver_begins sampleLeaver.entry 10 ⟨rfl, _, _, rfl⟩
  obtain ⟨entry', hactivated⟩ := returned_eq_some.mp sampleEarly_served.1
  simp only [sampleLeaverLog, guardianLog, sampleCapture_eq, List.tail_cons]
  rw [outputs_served hbegun]
  exact ⟨_, congrArg (List.cons _) (outputs_served hactivated)⟩

theorem sampleWaiting_found : sampleEarly.entry.sessions[(70 : Id32)]? =
    some (sampleSession 10) :=
  Std.TreeMap.getElem?_insert_self

theorem session_leaves_delay_sample : ∃ before, sampleLeaverLog (sampleCapture 60).tail =
      before ++ sampleEarly :: [] ∧
    (∃ b ∈ before, ∃ plan, plan.context.rotationId = 70 ∧
      BegunAt Crypto.transparent sampleLeaverNode b plan (sampleSession 10)) ∧
    (Stays (sampleSession 10) (sampleEarly.sessionAfter Crypto.transparent
        (Vault.transparent [1] []) sampleLeaverNode 70) ∨
      ∃ request plan, sampleEarly.request = .rotation request ∧ request.plan = some plan ∧
        plan.context.rotationId = 70 ∧ DelayLeft Crypto.transparent (Vault.transparent [1] [])
          sampleLeaverNode sampleEarly.call sampleEarly.entry request plan
          (sampleSession 10) (sampleEarly.sessionAfter Crypto.transparent
            (Vault.transparent [1] []) sampleLeaverNode 70)) := by
  obtain ⟨begun, hsplit⟩ := sampleEarly_logged
  exact ⟨[begun], hsplit, session_leaves_delay hsplit sampleWaiting_found rfl⟩

/-- No clock is asked on the way to an activation. -/
theorem session_left_early :
    ¬∀ (crypto : Crypto) (vault : Vault) (node : GuardianNode)
      (provision : GuardianRotationProvisionV3) (inputs : List GuardianInput)
      (before after : List GuardianExchange) (x : GuardianExchange) (rotationId : Id32)
      (s : GuardianRotationSessionV3), GuardianProvisioned crypto provision →
      guardianLog crypto vault node provision inputs = before ++ x :: after →
      x.entry.sessions[rotationId]? = some s → s.rotationMachine.state = .delayPending →
      (∀ s' ∈ x.sessionAfter crypto vault node rotationId,
        s'.rotationMachine.state ≠ .delayPending) →
      (∀ request plan, x.request = .rotation request → ¬request.Ends plan) →
      s.bootId = x.call.bootId ∧ s.notBeforeMonotonic ≤ x.call.monotonicNow := by
  intro hclaim
  obtain ⟨begun, hsplit⟩ := sampleEarly_logged
  have hleft : ∀ s' ∈ sampleEarly.sessionAfter Crypto.transparent (Vault.transparent [1] [])
      sampleLeaverNode 70, s'.rotationMachine.state ≠ .delayPending := by
    rw [sampleEarly_served.2]
    rintro s' ⟨⟩
  have hgoes : ∀ request plan, sampleEarly.request = .rotation request →
      ¬request.Ends plan := by
    rintro request plan ⟨⟩ (⟨certificate, ⟨⟩⟩ | ⟨certificate, ⟨⟩⟩)
  obtain ⟨-, hdue⟩ := hclaim _ _ _ _ _ [begun] [] sampleEarly 70 (sampleSession 10)
    sampleLeaver_provisioned hsplit sampleWaiting_found rfl hleft hgoes
  exact absurd hdue (by decide)

end MasterRecovery
