import MasterRecovery.SessionDelay
import MasterRecovery.Lib.Calls
import MasterRecovery.Lib.InOrder

/-!
# Numbered DPSS messages

The provider's tracker and the deliveries of a rotation session both number the messages of a
sender to a recipient from one, and take the next number only. The tracker also refuses a payload
it has seen before, from whoever it comes.
-/

namespace MasterRecovery
open Act Checks InOrder Machine Transcript Wire

variable {crypto : Crypto}

/-! ### The tracker -/

/-- The arguments of one call. -/
structure DpssMessage where
  sender : UInt16
  recipient : UInt16
  sequence : UInt64
  providerPayload : Bytes
  deriving DecidableEq

structure DpssMessageTracker where
  nextSequences : Std.TreeMap (UInt16 × UInt16) UInt64 lexOrd.compare := ∅
  seenPayloads : Finset Id32 := ∅

namespace DpssMessageTracker

/-- What the next message of a pair must be numbered; a pair starts at one. -/
def expected (tracker : DpssMessageTracker) (pair : UInt16 × UInt16) : UInt64 :=
  tracker.nextSequences[pair]?.getD 1

def setExpected (tracker : DpssMessageTracker) (pair : UInt16 × UInt16) (sequence : UInt64) :
    DpssMessageTracker :=
  { tracker with nextSequences := tracker.nextSequences.insert pair sequence }

theorem expected_setExpected (tracker : DpssMessageTracker) (pair other : UInt16 × UInt16)
    (sequence : UInt64) :
    (tracker.setExpected pair sequence).expected other =
      if pair = other then sequence else tracker.expected other := by
  simp only [expected, setExpected, Std.TreeMap.getElem?_insert, Std.LawfulEqCmp.compare_eq_iff_eq]
  split <;> rfl

end DpssMessageTracker

namespace DpssMessage

def pair (message : DpssMessage) : UInt16 × UInt16 := (message.sender, message.recipient)

/-- The checks that do not look at the tracker. -/
def wellFormed (message : DpssMessage) : Except CryptoError Unit := do
  let _ ← frostIdentifier message.sender
  let _ ← frostIdentifier message.recipient
  bailIf (message.sender = message.recipient) .invalidFrostParticipant
  bounded message.providerPayload frostRoundPackageMaxLen

end DpssMessage

/-- The entry of the pair is there also after a refusal; a payload is recorded only when the number
is right. -/
def acceptDpssMessage (crypto : Crypto) (message : DpssMessage) :
    EStateM CryptoError DpssMessageTracker Unit := fun tracker =>
  match message.wellFormed with
  | .error e => .error e tracker
  | .ok () =>
    let expected := tracker.expected message.pair
    let tracker := tracker.setExpected message.pair expected
    let payload := crypto.sha256 message.providerPayload
    if message.sequence ≠ expected ∨ payload ∈ tracker.seenPayloads then
      .error .invalidFrost tracker
    else
      .ok () { tracker.setExpected message.pair (saturatingAdd expected 1) with
        seenPayloads := insert payload tracker.seenPayloads }

/-! #### One call -/

section Call

variable {message : DpssMessage} {tracker tracker' : DpssMessageTracker} {e : CryptoError}

/-- The trackers expect the same numbers and have seen the same payloads. -/
def DpssMessageTracker.Alike (tracker tracker' : DpssMessageTracker) : Prop :=
  (∀ pair, tracker'.expected pair = tracker.expected pair) ∧
    tracker'.seenPayloads = tracker.seenPayloads

theorem DpssMessageTracker.alike_setExpected (tracker : DpssMessageTracker)
    (pair : UInt16 × UInt16) : tracker.Alike (tracker.setExpected pair (tracker.expected pair)) := by
  refine ⟨fun other => ?_, rfl⟩
  rw [expected_setExpected]
  split
  next h => rw [h]
  · rfl

/-- What an accepted call has met, and what it leaves. -/
structure AcceptedAs (crypto : Crypto) (message : DpssMessage)
    (tracker tracker' : DpssMessageTracker) : Prop where
  sequence : message.sequence = tracker.expected message.pair
  unseen : crypto.sha256 message.providerPayload ∉ tracker.seenPayloads
  next : ∀ pair, tracker'.expected pair =
    if message.pair = pair then saturatingAdd (tracker.expected message.pair) 1
    else tracker.expected pair
  seen : tracker'.seenPayloads =
    insert (crypto.sha256 message.providerPayload) tracker.seenPayloads

theorem acceptDpssMessage_eq_ok
    (h : acceptDpssMessage crypto message tracker = .ok () tracker') :
    AcceptedAs crypto message tracker tracker' := by
  unfold acceptDpssMessage at h
  cases hformed : message.wellFormed with
  | error e => simp [hformed] at h
  | ok u =>
    simp only [hformed] at h
    split at h
    · cases h
    next hfits =>
      rw [not_or, not_not] at hfits
      cases h
      refine ⟨hfits.1, hfits.2, fun pair => ?_, rfl⟩
      have halike := (tracker.alike_setExpected message.pair).1 pair
      have hset := DpssMessageTracker.expected_setExpected
        (tracker.setExpected message.pair (tracker.expected message.pair)) message.pair pair
        (saturatingAdd (tracker.expected message.pair) 1)
      rw [halike] at hset
      exact hset

/-- A refusal leaves a tracker that takes the same messages. -/
theorem acceptDpssMessage_eq_error (h : acceptDpssMessage crypto message tracker = .error e tracker') :
    tracker.Alike tracker' := by
  unfold acceptDpssMessage at h
  cases hformed : message.wellFormed with
  | error e' =>
    simp only [hformed] at h
    cases h
    exact ⟨fun _ => rfl, rfl⟩
  | ok u =>
    simp only [hformed] at h
    split at h
    · cases h
      exact tracker.alike_setExpected message.pair
    · cases h

/-- A message is taken for its form, its number and its payload. -/
theorem acceptDpssMessage_succeeds :
    (∃ tracker', acceptDpssMessage crypto message tracker = .ok () tracker') ↔
      message.wellFormed = .ok () ∧ message.sequence = tracker.expected message.pair ∧
        crypto.sha256 message.providerPayload ∉ tracker.seenPayloads := by
  unfold acceptDpssMessage
  cases hformed : message.wellFormed with
  | error e => simp
  | ok u =>
    simp only [true_and]
    split
    next hrefused =>
      refine ⟨fun ⟨_, h⟩ => (nomatch h), fun ⟨hsequence, hunseen⟩ => ?_⟩
      exact (hrefused.elim (fun h => h hsequence) hunseen).elim
    next hfits =>
      rw [not_or, not_not] at hfits
      exact ⟨fun _ => hfits, fun _ => ⟨_, rfl⟩⟩

end Call

/-! #### Runs -/

/-- The accepted messages are logged. -/
def trackerMachine (crypto : Crypto) : Machine DpssMessageTracker DpssMessage DpssMessage :=
  Machine.ofCalls (acceptDpssMessage crypto)

/-- The pair of a message and its number. -/
def DpssMessage.entry (message : DpssMessage) : (UInt16 × UInt16) × ℕ :=
  (message.pair, message.sequence.toNat)

def DpssMessage.payloadHash (crypto : Crypto) (message : DpssMessage) : Id32 :=
  crypto.sha256 message.providerPayload

/-- The counters and the payloads of a tracker are those of the messages it has taken. -/
structure Tracks (crypto : Crypto) (tracker : DpssMessageTracker) (log : List DpssMessage) :
    Prop where
  sequenced : Sequenced (2 ^ 64 - 1) (fun _ => 1) (fun pair => (tracker.expected pair).toNat)
    (log.map DpssMessage.entry)
  seen : ∀ payload, payload ∈ tracker.seenPayloads ↔ payload ∈ log.map (DpssMessage.payloadHash crypto)
  once : (log.map (DpssMessage.payloadHash crypto)).Nodup

section Runs

variable {message : DpssMessage} {tracker tracker' : DpssMessageTracker} {log : List DpssMessage}

theorem Tracks.take (h : Tracks crypto tracker log)
    (haccepted : AcceptedAs crypto message tracker tracker') :
    Tracks crypto tracker' (log ++ [message]) := by
  refine ⟨?_, fun payload => ?_, ?_⟩
  · have hentry : message.entry = (message.pair, (tracker.expected message.pair).toNat) := by
      rw [DpssMessage.entry, haccepted.sequence]
    rw [List.map_append, List.map_singleton, hentry]
    refine h.sequenced.take ?_ fun pair hpair => ?_
    · rw [haccepted.next, if_pos rfl, saturatingAdd_toNat]
      rfl
    · rw [haccepted.next, if_neg hpair.symm]
  · rw [haccepted.seen, Finset.mem_insert, h.seen, List.map_append, List.mem_append, or_comm,
      List.map_singleton, List.mem_singleton]
    rfl
  · rw [List.map_append, List.map_singleton]
    refine List.Nodup.append h.once (List.nodup_singleton _) ?_
    rw [List.disjoint_singleton, ← h.seen]
    exact haccepted.unseen

/-- Trackers that are alike take the same messages ever after. -/
theorem DpssMessageTracker.Alike.outputs (h : tracker.Alike tracker') (messages : List DpssMessage) :
    (trackerMachine crypto).outputs tracker' messages =
      (trackerMachine crypto).outputs tracker messages := by
  induction messages generalizing tracker tracker' with
  | nil => rfl
  | cons message messages ih =>
    have hsame : (∃ t, acceptDpssMessage crypto message tracker' = .ok () t) ↔
        ∃ t, acceptDpssMessage crypto message tracker = .ok () t := by
      rw [acceptDpssMessage_succeeds, acceptDpssMessage_succeeds, h.1, h.2]
    simp only [outputs_cons, trackerMachine]
    cases hcall : acceptDpssMessage crypto message tracker with
    | ok u t =>
      obtain ⟨t', hcall'⟩ := hsame.mpr ⟨t, hcall⟩
      rw [ofCalls_ok hcall, ofCalls_ok hcall']
      have hnext := acceptDpssMessage_eq_ok hcall
      have hnext' := acceptDpssMessage_eq_ok hcall'
      refine congrArg _ (ih ⟨fun pair => ?_, ?_⟩)
      · rw [hnext.next, hnext'.next, h.1, h.1]
      · rw [hnext.seen, hnext'.seen, h.2]
    | error e t =>
      cases hcall' : acceptDpssMessage crypto message tracker' with
      | ok u t' =>
        obtain ⟨t, hok⟩ := hsame.mp ⟨t', hcall'⟩
        simp [hcall] at hok
      | error e' t' =>
        rw [ofCalls_error hcall, ofCalls_error hcall']
        have hleft := acceptDpssMessage_eq_error hcall
        have hright := acceptDpssMessage_eq_error hcall'
        refine congrArg _ (ih ⟨fun pair => ?_, ?_⟩)
        · rw [hright.1, h.1, hleft.1]
        · rw [hright.2, h.2, hleft.2]

end Runs

/-! ### Deliveries -/

section Deliveries

variable {vault : Vault} {node : GuardianNode} {plan : RotationPlan} {ownRoute : GuardianRouteV3}
  {senderRoutes : List GuardianRouteV3} {phase : DpssPhase} {senders : Finset UInt16}
  {sealedMessage : SealedMessage} {incoming : List SealedMessage} {opened : UInt16 × Bytes}
  {s t : GuardianRotationSessionV3} {e : String}

/-- The pair of a message and its number. -/
def DpssProtocolMessage.entry (message : DpssProtocolMessage) : (UInt16 × UInt16) × ℕ :=
  ((message.senderIndex, message.recipientIndex), message.sequence.toNat)

/-- The message in a delivery, where it is for this guardian and this round. -/
def deliveredMessage (crypto : Crypto) (vault : Vault) (node : GuardianNode) (plan : RotationPlan)
    (ownRoute : GuardianRouteV3) (senderRoutes : List GuardianRouteV3) (phase : DpssPhase)
    (senders : Finset UInt16) (sealedMessage : SealedMessage) : Option DpssProtocolMessage :=
  (openedMessage crypto vault node plan ownRoute senderRoutes phase senders
    sealedMessage).toOption.map Prod.fst

/-- The messages a call accepts, also when it refuses a later one. -/
def acceptedDeliveries (crypto : Crypto) (vault : Vault) (node : GuardianNode) (plan : RotationPlan)
    (ownRoute : GuardianRouteV3) (senderRoutes : List GuardianRouteV3) (phase : DpssPhase)
    (senders : Finset UInt16) :
    List SealedMessage → GuardianRotationSessionV3 → List DpssProtocolMessage
  | [], _ => []
  | sealedMessage :: incoming, s =>
    match openDelivery crypto vault node plan ownRoute senderRoutes phase senders sealedMessage s with
    | .ok opened t =>
      (deliveredMessage crypto vault node plan ownRoute senderRoutes phase senders
        sealedMessage).toList ++
      acceptedDeliveries crypto vault node plan ownRoute senderRoutes phase
        (insert opened.1 senders) incoming t
    | .error _ _ => []

end Deliveries

/-! #### Runs -/

/-- The arguments of one call on a session. -/
structure DeliveryCall where
  node : GuardianNode
  plan : RotationPlan
  ownRoute : GuardianRouteV3
  senderRoutes : List GuardianRouteV3
  expectedPhase : DpssPhase
  incoming : List SealedMessage

section DeliveryRuns

variable {vault : Vault} {call : DeliveryCall} {calls : List DeliveryCall}
  {s : GuardianRotationSessionV3}

def DeliveryCall.deliveries (crypto : Crypto) (vault : Vault) (call : DeliveryCall) :
    Act GuardianRotationSessionV3 (List (UInt16 × Bytes)) :=
  openDeliveries crypto vault call.node call.plan call.ownRoute call.senderRoutes
    call.expectedPhase ∅ call.incoming

def DeliveryCall.accepted (crypto : Crypto) (vault : Vault) (call : DeliveryCall)
    (session : GuardianRotationSessionV3) : List DpssProtocolMessage :=
  acceptedDeliveries crypto vault call.node call.plan call.ownRoute call.senderRoutes
    call.expectedPhase ∅ call.incoming session

end DeliveryRuns

/-! ### In order, and once -/

/-- A message that is replayed, one that is too early and a payload seen before are refused. -/
example :
    ((trackerMachine Crypto.transparent).outputs {}
      [⟨1, 2, 1, [65]⟩, ⟨1, 2, 1, [66]⟩, ⟨1, 2, 3, [67]⟩, ⟨1, 2, 2, [66]⟩, ⟨2, 1, 1, [65]⟩]).map
        DpssMessage.entry = [((1, 2), 1), ((1, 2), 2)] := by
  decide +kernel

end MasterRecovery
