import MasterRecovery.RotationMachine
import MasterRecovery.Lib.Machine

/-!
# The history of a rotation machine (gp-core/src/rotation.rs)

The machine as the source runs it, in place, and what its state tells about the events it has
accepted: one path leads to the activated epoch, giving up and failing closed end it.
-/

namespace MasterRecovery
open Checks

/-- The states behind the witnesses' QC. -/
def RotationState.Activated (state : RotationState) : Prop :=
  state ∈ [RotationState.active, .draining, .retired]

instance (state : RotationState) : Decidable state.Activated := by
  unfold RotationState.Activated
  infer_instance

namespace RotationMachine

/-! ### In place -/

def giveUpMut : EStateM RotationError RotationMachine (List RotationAction) := do
  let machine ← get
  if machine.state.Abortable then
    modify fun machine => { machine with state := .aborted }
    modify fun machine => { machine with tombstoned := true }
    pure [.abortAndErasePreparedState]
  else throw (.invalidTransition machine.state)

/-- The transition table on `&mut self`; a guard stands in front of what its arm writes. -/
def transitionMut (event : RotationEvent) :
    EStateM RotationError RotationMachine (List RotationAction) := do
  let machine ← get
  match machine.state, event with
  | _, .conflictObserved =>
    modify fun machine => { machine with ambiguous := true }
    pure [.failClosed]
  | .proposed, .beginAccepted monotonicNow delaySecs true =>
    let notBefore := saturatingAdd monotonicNow delaySecs
    modify fun machine => { machine with notBefore := some notBefore }
    modify fun machine => { machine with state := .delayPending }
    pure [.persistBeginAndWaitUntil notBefore]
  | .delayPending, .releaseAccepted monotonicNow true true =>
    if monotonicNow < machine.notBefore.getD (UInt64.ofNat (2 ^ 64 - 1)) then
      throw .delayNotElapsed
    else
      modify fun machine => { machine with state := .preparing }
      pure [.beginDpssAndFragmentRepair]
  | .preparing, .preparationComplete preparedCount expectedCount true true =>
    if expectedCount = 0 ∨ preparedCount ≠ expectedCount then throw .incompletePreparation
    else
      modify fun machine => { machine with state := .ready }
      pure [.assembleReadyCertificate, .requestSignerActivation]
  | .ready, .activationAuthorized true true =>
    modify fun machine => { machine with state := .activating }
    pure [.submitToWitnesses]
  | .activating, .witnessQcObserved true true drainDeadline =>
    modify fun machine => { machine with drainDeadline := some drainDeadline }
    modify fun machine => { machine with state := .active }
    pure [.activateSuccessorAndDrainOld drainDeadline]
  | .active, .drainStarted =>
    modify fun machine => { machine with state := .draining }
    pure [.refuseNewOldEpochBegins]
  | .draining, .drainDeadlineReached monotonicNow =>
    if monotonicNow < machine.drainDeadline.getD (UInt64.ofNat (2 ^ 64 - 1)) then
      throw .delayNotElapsed
    else
      modify fun machine => { machine with state := .retired }
      pure [.retireOldEpoch]
  | _, .ownerCancelObserved true => giveUpMut
  | _, .abortObserved true => giveUpMut
  | state, event =>
    throw (if event.Invalid then .invalidEvidence else .invalidTransition state)

/-- `RotationMachine::apply`. -/
def applyMut (event : RotationEvent) :
    EStateM RotationError RotationMachine (List RotationAction) := do
  let machine ← get
  if machine.ambiguous then throw .failClosed
  else if machine.tombstoned then throw .aborted
  else transitionMut event

variable {machine machine' machine₀ : RotationMachine} {event : RotationEvent}
  {actions : List RotationAction} {error : RotationError}

/-- A pure step as a step in place: a refusal keeps the machine. -/
def inPlace (machine : RotationMachine) :
    Except RotationError (List RotationAction × RotationMachine) →
      EStateM.Result RotationError RotationMachine (List RotationAction)
  | .ok out => .ok out.1 out.2
  | .error error => .error error machine

theorem inPlace_bailIf {p : Prop} [Decidable p]
    {next : Except RotationError (List RotationAction × RotationMachine)} :
    machine.inPlace (do bailIf p error; next) =
      if p then .error error machine else machine.inPlace next := by
  by_cases h : p <;> simp [bailIf, h, inPlace, bind, Except.bind]

theorem guard_eq {p : Prop} [Decidable p] {x : EStateM RotationError RotationMachine (List RotationAction)}
    {next : Except RotationError (List RotationAction × RotationMachine)}
    (h : x machine = machine.inPlace next) :
    (if p then throw error else x : EStateM RotationError RotationMachine (List RotationAction))
      machine = machine.inPlace (do bailIf p error; next) := by
  rw [inPlace_bailIf]
  by_cases hp : p
  · rw [if_pos hp, if_pos hp]
    rfl
  · rw [if_neg hp, if_neg hp]
    exact h

theorem transitionMut_eq : transitionMut event machine = machine.inPlace (machine.transition event) := by
  obtain ⟨rotationId, planHash, predecessor, successor, state, notBefore, drainDeadline, tombstoned,
    ambiguous⟩ := machine
  cases event with
  | beginAccepted now delay valid => cases valid <;> cases state <;> rfl
  | releaseAccepted now valid unambiguous =>
    cases valid <;> cases unambiguous <;> cases state <;> first | rfl | exact guard_eq rfl
  | preparationComplete prepared expected resultValid fragmentsValid =>
    cases resultValid <;> cases fragmentsValid <;> cases state <;> first | rfl | exact guard_eq rfl
  | activationAuthorized valid exact => cases valid <;> cases exact <;> cases state <;> rfl
  | witnessQcObserved valid exact deadline => cases valid <;> cases exact <;> cases state <;> rfl
  | drainStarted => cases state <;> rfl
  | drainDeadlineReached now => cases state <;> first | rfl | exact guard_eq rfl
  | ownerCancelObserved valid => cases valid <;> cases state <;> rfl
  | abortObserved valid => cases valid <;> cases state <;> rfl
  | conflictObserved => cases state <;> rfl

/-- In place an event does what the pure step says, and a refusal changes nothing. -/
theorem applyMut_eq : applyMut event machine = machine.inPlace (machine.apply event) := by
  unfold apply
  by_cases hambiguous : machine.ambiguous
  · have h : applyMut event machine = .error .failClosed machine := by
      change (if machine.ambiguous then throw .failClosed else _ : EStateM RotationError _ _) _ = _
      rw [if_pos hambiguous]
      rfl
    rw [h, inPlace_bailIf, if_pos hambiguous]
  · have h : applyMut event machine = (if machine.tombstoned then throw .aborted
        else transitionMut event : EStateM RotationError RotationMachine _) machine := by
      change (if machine.ambiguous then throw .failClosed else _ : EStateM RotationError _ _) _ = _
      rw [if_neg hambiguous]
    rw [h, inPlace_bailIf, if_neg hambiguous]
    exact guard_eq transitionMut_eq

theorem applyMut_eq_error (h : applyMut event machine = .error error machine') :
    machine' = machine := by
  rw [applyMut_eq] at h
  cases happly : machine.apply event with
  | ok out => simp [happly, inPlace] at h
  | error e =>
    simp only [happly, inPlace, EStateM.Result.error.injEq] at h
    exact h.2.symm

theorem applyMut_eq_ok (h : applyMut event machine = .ok actions machine') :
    machine.apply event = .ok (actions, machine') := by
  rw [applyMut_eq] at h
  cases happly : machine.apply event with
  | ok out =>
    simp only [happly, inPlace, EStateM.Result.ok.injEq] at h
    rw [← h.1, ← h.2]
  | error e => simp [happly, inPlace] at h

/-! ### What an accepted event does -/

/-- The accepted events, each with the machine it finds and the one it leaves. -/
inductive Moves (machine : RotationMachine) : RotationEvent → RotationMachine → Prop
  | begun {monotonicNow delaySecs : UInt64} (hstate : machine.state = .proposed) :
    Moves machine (.beginAccepted monotonicNow delaySecs true)
      { machine with
        notBefore := some (saturatingAdd monotonicNow delaySecs)
        state := .delayPending }
  | released {monotonicNow : UInt64} (hstate : machine.state = .delayPending)
    (hdue : machine.notBefore.getD (UInt64.ofNat (2 ^ 64 - 1)) ≤ monotonicNow) :
    Moves machine (.releaseAccepted monotonicNow true true) { machine with state := .preparing }
  | prepared {count : UInt16} (hstate : machine.state = .preparing) (hcount : count ≠ 0) :
    Moves machine (.preparationComplete count count true true) { machine with state := .ready }
  | authorized (hstate : machine.state = .ready) :
    Moves machine (.activationAuthorized true true) { machine with state := .activating }
  | activated {drainDeadline : UInt64} (hstate : machine.state = .activating) :
    Moves machine (.witnessQcObserved true true drainDeadline)
      { machine with drainDeadline := some drainDeadline, state := .active }
  | draining (hstate : machine.state = .active) :
    Moves machine .drainStarted { machine with state := .draining }
  | retired {monotonicNow : UInt64} (hstate : machine.state = .draining)
    (hdue : machine.drainDeadline.getD (UInt64.ofNat (2 ^ 64 - 1)) ≤ monotonicNow) :
    Moves machine (.drainDeadlineReached monotonicNow) { machine with state := .retired }
  | givenUp {event : RotationEvent} (hstate : machine.state.Abortable)
    (hevent : event = .ownerCancelObserved true ∨ event = .abortObserved true) :
    Moves machine event { machine with state := .aborted, tombstoned := true }
  | conflicting : Moves machine .conflictObserved { machine with ambiguous := true }

theorem giveUp_eq_ok (h : machine.giveUp = .ok (actions, machine')) :
    machine.state.Abortable ∧ { machine with state := .aborted, tombstoned := true } = machine' := by
  simp only [giveUp, bind_unit_eq_ok, bailIf_eq_ok, not_not, Except.ok.injEq, Prod.mk.injEq] at h
  exact ⟨h.1, h.2.2⟩

theorem transition_ownerCancel : machine.transition (.ownerCancelObserved true) = machine.giveUp := by
  obtain ⟨_, _, _, _, state, _, _, _, _⟩ := machine
  cases state <;> rfl

theorem transition_abort : machine.transition (.abortObserved true) = machine.giveUp := by
  obtain ⟨_, _, _, _, state, _, _, _, _⟩ := machine
  cases state <;> rfl

/-- An event is accepted with valid evidence only, and in one state unless it ends the rotation. -/
theorem transition_eq_ok (h : machine.transition event = .ok (actions, machine')) :
    Moves machine event machine' := by
  cases event with
  | ownerCancelObserved valid =>
    cases valid with
    | true =>
      obtain ⟨habortable, rfl⟩ := giveUp_eq_ok (transition_ownerCancel ▸ h)
      exact .givenUp habortable (Or.inl rfl)
    | false =>
      obtain ⟨_, _, _, _, state, _, _, _, _⟩ := machine
      cases state <;> cases h
  | abortObserved valid =>
    cases valid with
    | true =>
      obtain ⟨habortable, rfl⟩ := giveUp_eq_ok (transition_abort ▸ h)
      exact .givenUp habortable (Or.inr rfl)
    | false =>
      obtain ⟨_, _, _, _, state, _, _, _, _⟩ := machine
      cases state <;> cases h
  | beginAccepted monotonicNow delaySecs valid =>
    obtain ⟨_, _, _, _, state, _, _, _, _⟩ := machine
    cases valid <;> cases state <;> cases h
    exact .begun rfl
  | releaseAccepted monotonicNow valid unambiguous =>
    obtain ⟨_, _, _, _, state, _, _, _, _⟩ := machine
    cases valid <;> cases unambiguous <;> cases state <;> try cases h
    obtain ⟨hdue, hout⟩ := bind_unit_eq_ok.mp h
    simp only [bailIf_eq_ok, UInt64.not_lt] at hdue
    cases hout
    exact .released rfl hdue
  | preparationComplete preparedCount expectedCount resultValid fragmentsValid =>
    obtain ⟨_, _, _, _, state, _, _, _, _⟩ := machine
    cases resultValid <;> cases fragmentsValid <;> cases state <;> try cases h
    obtain ⟨hcount, hout⟩ := bind_unit_eq_ok.mp h
    simp only [bailIf_eq_ok, not_or, not_not, ne_eq] at hcount
    obtain ⟨hcount, rfl⟩ := hcount
    cases hout
    exact .prepared rfl hcount
  | activationAuthorized valid exact =>
    obtain ⟨_, _, _, _, state, _, _, _, _⟩ := machine
    cases valid <;> cases exact <;> cases state <;> cases h
    exact .authorized rfl
  | witnessQcObserved valid exact deadline =>
    obtain ⟨_, _, _, _, state, _, _, _, _⟩ := machine
    cases valid <;> cases exact <;> cases state <;> cases h
    exact .activated rfl
  | drainStarted =>
    obtain ⟨_, _, _, _, state, _, _, _, _⟩ := machine
    cases state <;> cases h
    exact .draining rfl
  | drainDeadlineReached monotonicNow =>
    obtain ⟨_, _, _, _, state, _, _, _, _⟩ := machine
    cases state <;> try cases h
    obtain ⟨hdue, hout⟩ := bind_unit_eq_ok.mp h
    simp only [bailIf_eq_ok, UInt64.not_lt] at hdue
    cases hout
    exact .retired rfl hdue
  | conflictObserved =>
    obtain ⟨_, _, _, _, state, _, _, _, _⟩ := machine
    cases state <;> cases h <;> exact .conflicting

theorem apply_eq_ok (h : machine.apply event = .ok (actions, machine')) :
    machine.ambiguous = false ∧ machine.tombstoned = false ∧ Moves machine event machine' := by
  simp only [apply, bind_unit_eq_ok, bailIf_eq_ok, Bool.not_eq_true] at h
  exact ⟨h.1, h.2.1, transition_eq_ok h.2.2⟩

/-! ### Histories -/

/-- The accepted events that lead to a state, with its delay and its drain deadline. -/
inductive Path : RotationState → Option UInt64 → Option UInt64 → List RotationEvent → Prop
  | proposed : Path .proposed none none []
  | delayPending (begunAt delaySecs : UInt64) :
    Path .delayPending (some (saturatingAdd begunAt delaySecs)) none
      [.beginAccepted begunAt delaySecs true]
  | preparing {notBefore releasedAt : UInt64} {path : List RotationEvent}
    (h : Path .delayPending (some notBefore) none path) (hdue : notBefore ≤ releasedAt) :
    Path .preparing (some notBefore) none (path ++ [.releaseAccepted releasedAt true true])
  | ready {notBefore : Option UInt64} {path : List RotationEvent} {count : UInt16}
    (h : Path .preparing notBefore none path) (hcount : count ≠ 0) :
    Path .ready notBefore none (path ++ [.preparationComplete count count true true])
  | activating {notBefore : Option UInt64} {path : List RotationEvent}
    (h : Path .ready notBefore none path) :
    Path .activating notBefore none (path ++ [.activationAuthorized true true])
  | active {notBefore : Option UInt64} {path : List RotationEvent} (drainDeadline : UInt64)
    (h : Path .activating notBefore none path) :
    Path .active notBefore (some drainDeadline)
      (path ++ [.witnessQcObserved true true drainDeadline])
  | draining {notBefore drainDeadline : Option UInt64} {path : List RotationEvent}
    (h : Path .active notBefore drainDeadline path) :
    Path .draining notBefore drainDeadline (path ++ [.drainStarted])
  | retired {notBefore : Option UInt64} {drainDeadline retiredAt : UInt64}
    {path : List RotationEvent} (h : Path .draining notBefore (some drainDeadline) path)
    (hdue : drainDeadline ≤ retiredAt) :
    Path .retired notBefore (some drainDeadline) (path ++ [.drainDeadlineReached retiredAt])
  | aborted {state : RotationState} {notBefore drainDeadline : Option UInt64}
    {path : List RotationEvent} {event : RotationEvent} (h : Path state notBefore drainDeadline path)
    (hevent : event = .ownerCancelObserved true ∨ event = .abortObserved true) :
    Path .aborted notBefore drainDeadline (path ++ [event])

/-- What a machine remembers of the events it accepted; a conflict can only be the last. -/
structure Remembers (machine : RotationMachine) (log : List RotationEvent) : Prop where
  path : ∃ path conflict, log = path ++ conflict ∧
    Path machine.state machine.notBefore machine.drainDeadline path ∧
    (machine.ambiguous = false → conflict = [])
  tombstoned : machine.tombstoned = true ↔ machine.state = .aborted

theorem Moves.path {path : List RotationEvent} (hmoves : Moves machine event machine')
    (h : Path machine.state machine.notBefore machine.drainDeadline path)
    (hevent : event ≠ .conflictObserved) :
    Path machine'.state machine'.notBefore machine'.drainDeadline (path ++ [event]) := by
  obtain ⟨rotationId, planHash, predecessor, successor, state, notBefore, drainDeadline, tombstoned,
    ambiguous⟩ := machine
  cases hmoves with
  | begun hstate =>
    cases hstate
    cases h
    exact .delayPending _ _
  | released hstate hdue =>
    cases hstate
    cases h with
    | delayPending begunAt delaySecs => exact .preparing (.delayPending begunAt delaySecs) hdue
  | prepared hstate hcount =>
    cases hstate
    cases h with
    | preparing h hdue => exact .ready (.preparing h hdue) hcount
  | authorized hstate =>
    cases hstate
    cases h with
    | ready h hcount => exact .activating (.ready h hcount)
  | activated hstate =>
    cases hstate
    cases h with
    | activating h => exact .active _ (.activating h)
  | draining hstate =>
    cases hstate
    exact .draining h
  | retired hstate hdue =>
    cases hstate
    cases h with
    | draining h =>
      cases h with
      | active drainDeadline h => exact .retired (.draining (.active drainDeadline h)) hdue
  | givenUp hstate hgiven => exact .aborted h hgiven
  | conflicting => exact absurd rfl hevent

/-- The five events that activate a successor, in their order. -/
def Activation (drainDeadline : UInt64) (path : List RotationEvent) : Prop :=
  ∃ (begunAt delaySecs releasedAt : UInt64) (count : UInt16),
    path = [.beginAccepted begunAt delaySecs true, .releaseAccepted releasedAt true true,
      .preparationComplete count count true true, .activationAuthorized true true,
      .witnessQcObserved true true drainDeadline] ∧
    min (begunAt.toNat + delaySecs.toNat) (2 ^ 64 - 1) ≤ releasedAt.toNat ∧ count ≠ 0

theorem Path.activation {notBefore drainDeadline : Option UInt64} {path : List RotationEvent}
    (h : Path .active notBefore drainDeadline path) :
    ∃ deadline, drainDeadline = some deadline ∧ Activation deadline path := by
  cases h with
  | active deadline h =>
    cases h with
    | activating h =>
      cases h with
      | ready h hcount =>
        cases h with
        | preparing h hdue =>
          cases h with
          | delayPending begunAt delaySecs =>
            refine ⟨deadline, rfl, begunAt, delaySecs, _, _, rfl, ?_, hcount⟩
            rw [UInt64.le_iff_toNat_le, saturatingAdd_toNat] at hdue
            exact hdue

theorem Path.activated {state : RotationState} {notBefore drainDeadline : Option UInt64}
    {path : List RotationEvent} (h : Path state notBefore drainDeadline path)
    (hstate : state.Activated) :
    ∃ activation rest deadline, path = activation ++ rest ∧ Activation deadline activation := by
  cases h with
  | active deadline h =>
    obtain ⟨deadline, -, hactivation⟩ := (Path.active deadline h).activation
    exact ⟨_, [], deadline, (List.append_nil _).symm, hactivation⟩
  | draining h =>
    obtain ⟨deadline, -, hactivation⟩ := h.activation
    exact ⟨_, _, deadline, rfl, hactivation⟩
  | retired h hdue =>
    cases h with
    | draining h =>
      obtain ⟨deadline, -, hactivation⟩ := h.activation
      exact ⟨_, _, deadline, List.append_assoc _ _ _, hactivation⟩
  | _ => simp [RotationState.Activated] at hstate

theorem Path.retirement {notBefore drainDeadline : Option UInt64} {path : List RotationEvent}
    (h : Path .retired notBefore drainDeadline path) :
    ∃ activation rest deadline retiredAt, path = activation ++ rest ∧
      Activation deadline activation ∧ .drainDeadlineReached retiredAt ∈ rest ∧
      deadline ≤ retiredAt := by
  cases h with
  | retired h hdue =>
    cases h with
    | draining h =>
      obtain ⟨deadline, hdeadline, hactivation⟩ := h.activation
      cases hdeadline
      exact ⟨_, _, _, _, List.append_assoc _ _ _, hactivation, by simp, hdue⟩

/-! ### Runs -/

/-- Events one after the other; the accepted ones are logged. -/
def events : Machine RotationMachine RotationEvent RotationEvent where
  step machine event :=
    match machine.applyMut event with
    | .ok _ machine' => (machine', some event)
    | .error _ machine' => (machine', none)

variable {sent later : List RotationEvent} {log : List RotationEvent}

theorem Remembers.new {rotationId planHash : Id32} {predecessor successor : ConfigRef}
    (h : RotationMachine.new rotationId planHash predecessor successor = .ok machine) :
    Remembers machine [] := by
  simp only [RotationMachine.new, bind_unit_eq_ok, bailIf_eq_ok, Except.ok.injEq] at h
  obtain ⟨-, rfl⟩ := h
  exact ⟨⟨[], [], rfl, .proposed, fun _ => rfl⟩, by simp⟩

theorem Moves.tombstoned (hmoves : Moves machine event machine')
    (h : machine.tombstoned = false) (hstate : machine.state ≠ .aborted) :
    machine'.tombstoned = true ↔ machine'.state = .aborted := by
  cases hmoves <;> simp [h, hstate]

/-- One event: a refused one leaves machine and log, an accepted one is remembered. -/
theorem Remembers.step (h : Remembers machine log) (event : RotationEvent) :
    Remembers (events.step machine event).1 (log ++ (events.step machine event).2.toList) := by
  simp only [events]
  cases happly : machine.applyMut event with
  | error e machine' =>
    have hkept := applyMut_eq_error happly
    subst hkept
    simpa using h
  | ok actions machine' =>
    obtain ⟨hclear, hlive, hmoves⟩ := apply_eq_ok (applyMut_eq_ok happly)
    obtain ⟨path, conflict, rfl, hpath, hconflict⟩ := h.path
    have hnone := hconflict hclear
    subst hnone
    have hstate : machine.state ≠ .aborted := fun haborted => by
      have htombstoned := h.tombstoned.mpr haborted
      rw [hlive] at htombstoned
      cases htombstoned
    refine ⟨?_, hmoves.tombstoned hlive hstate⟩
    by_cases hevent : event = .conflictObserved
    · subst hevent
      cases hmoves with
      | conflicting => exact ⟨path, [.conflictObserved], by simp, hpath, by simp⟩
      | givenUp _ hgiven => simp at hgiven
    · have hnext := hmoves.path hpath hevent
      exact ⟨path ++ [event], [], by simp, hnext, fun _ => rfl⟩

theorem remembers_run (h : Remembers machine []) (sent : List RotationEvent) :
    Remembers (events.run machine sent) (events.outputs machine sent) :=
  Machine.run_invariant events (P := fun _ _ _ => True) h (fun _ _ event hlog _ => hlog.step event)
    (Machine.along_of_forall events (P := fun _ => True) (fun _ _ => trivial) _ _)

theorem events_emits (machine : RotationMachine) (event : RotationEvent) :
    (events.step machine event).2 = some event ∨ (events.step machine event).2 = none := by
  simp only [events]
  cases applyMut event machine with
  | ok => exact Or.inl rfl
  | error => exact Or.inr rfl

/-- A tombstoned or ambiguous machine refuses whatever comes. -/
theorem apply_closed (h : machine.ambiguous = true ∨ machine.tombstoned = true)
    (event : RotationEvent) : ∃ error, machine.applyMut event = .error error machine := by
  rw [applyMut_eq]
  unfold apply
  by_cases hambiguous : machine.ambiguous = true
  · exact ⟨.failClosed, by rw [inPlace_bailIf, if_pos hambiguous]⟩
  · have htombstoned := h.resolve_left hambiguous
    exact ⟨.aborted, by
      rw [inPlace_bailIf, if_neg hambiguous, inPlace_bailIf, if_pos htombstoned]⟩

theorem run_closed (h : machine.ambiguous = true ∨ machine.tombstoned = true)
    (later : List RotationEvent) : events.run machine later = machine := by
  induction later with
  | nil => rfl
  | cons event later ih =>
    obtain ⟨error, hrefused⟩ := apply_closed h event
    have hstep : (events.step machine event).1 = machine := by simp [events, hrefused]
    rw [Machine.run_cons, hstep, ih]

/-- What the events sent to a new machine and its state tell of each other. -/
structure NoShortcut (machine : RotationMachine) (sent : List RotationEvent) : Prop where
  logged : (events.outputs machine sent).Sublist sent
  activated : (events.run machine sent).state.Activated → ∃ activation rest deadline,
    events.outputs machine sent = activation ++ rest ∧ Activation deadline activation
  retired : (events.run machine sent).state = .retired → ∃ activation rest deadline retiredAt,
    events.outputs machine sent = activation ++ rest ∧ Activation deadline activation ∧
      .drainDeadlineReached retiredAt ∈ rest ∧ deadline ≤ retiredAt
  absorbing : (events.run machine sent).state = .aborted ∨
      (events.run machine sent).ambiguous = true →
    ∀ later event, ∃ error, applyMut event (events.run machine (sent ++ later)) =
      .error error (events.run machine sent)
  refused : ∀ event error machine',
    applyMut event (events.run machine sent) = .error error machine' →
      machine' = events.run machine sent

end RotationMachine

open RotationMachine

/-- A new machine gets behind the witnesses' QC only through begin, release, preparation,
authorization and QC, none of them skipped or repeated; giving up and failing closed are final. -/
theorem rotation_no_shortcut {rotationId planHash : Id32} {predecessor successor : ConfigRef}
    {machine : RotationMachine}
    (hnew : RotationMachine.new rotationId planHash predecessor successor = .ok machine)
    (sent : List RotationEvent) : NoShortcut machine sent := by
  have hremembers := remembers_run (Remembers.new hnew) sent
  obtain ⟨path, conflict, hlog, hpath, -⟩ := hremembers.path
  refine ⟨Machine.outputs_sublist events_emits machine sent, fun hstate => ?_, fun hstate => ?_, fun hclosed => ?_,
    fun event error machine' => applyMut_eq_error⟩
  · obtain ⟨activation, rest, deadline, rfl, hactivation⟩ := hpath.activated hstate
    exact ⟨activation, rest ++ conflict, deadline, by rw [hlog, List.append_assoc], hactivation⟩
  · rw [hstate] at hpath
    obtain ⟨activation, rest, deadline, retiredAt, rfl, hactivation, hmem, hdue⟩ := hpath.retirement
    exact ⟨activation, rest ++ conflict, deadline, retiredAt, by rw [hlog, List.append_assoc],
      hactivation, List.mem_append_left _ hmem, hdue⟩
  · intro later event
    have hshut := hclosed.symm.imp_right hremembers.tombstoned.mpr
    rw [Machine.run_append, run_closed hshut]
    exact apply_closed hshut event

/-- The references of two epochs of one configuration. -/
def sampleEpochRef (guardianEpoch : UInt64) : ConfigRef :=
  ⟨1, 1, 1, guardianEpoch, BitVec.ofNat 256 guardianEpoch.toNat⟩

def sampleRotationMachine : RotationMachine where
  rotationId := 7
  planHash := 8
  predecessor := sampleEpochRef 1
  successor := sampleEpochRef 2
  state := .proposed
  notBefore := none
  drainDeadline := none
  tombstoned := false
  ambiguous := false

/-- A whole rotation, with a Release that comes too early. -/
def sampleRotationEvents : List RotationEvent :=
  [.beginAccepted 100 20 true, .releaseAccepted 119 true true, .releaseAccepted 120 true true,
    .preparationComplete 8 8 true true, .activationAuthorized true true,
    .witnessQcObserved true true 200, .drainStarted, .drainDeadlineReached 200]

theorem rotation_no_shortcut_sample :
    (events.run sampleRotationMachine sampleRotationEvents).state = .retired ∧
      NoShortcut sampleRotationMachine sampleRotationEvents :=
  ⟨by decide, @rotation_no_shortcut 7 8 (sampleEpochRef 1) (sampleEpochRef 2)
    sampleRotationMachine (by decide) sampleRotationEvents⟩

end MasterRecovery
