import MasterRecovery.Lib.Calls
import MasterRecovery.GuardianMachine

/-!
# The recovery machine of the recovering owner (gp-core/src/lib.rs)

One recovery as its owner's client follows it. An event moves the machine and names actions, or it
is refused. The accepted events are logged with the actions they named.
-/

namespace MasterRecovery

inductive RecoveryEvent
  | requestCreated
  | approvalThresholdReached
  | beginAccepted
  | releaseCertificateReady
  | guardianThresholdReached
  | ownerCancelObserved
  | expiryReached
  deriving DecidableEq

inductive Action
  | requestSignerApprovals
  | decryptRecoveryDescriptor
  | sendBeginCertificate
  | waitUntil (notBefore : UInt64)
  | requestReleaseVotes
  | requestGuardianContributions
  | reconstructLocally
  | refuseRelease
  | zeroizeRecoverySecrets
  deriving DecidableEq

structure RecoveryMachine where
  state : RecoveryState
  notBefore : Option UInt64
  deriving DecidableEq

/-- The arguments of one `apply`. -/
structure RecoveryInput where
  event : RecoveryEvent
  now : UInt64
  delay : UInt64
  deriving DecidableEq

namespace RecoveryMachine

/-- `RecoveryMachine::default`. -/
def new : RecoveryMachine := ⟨.created, none⟩

def apply (input : RecoveryInput) : EStateM CoreError RecoveryMachine (List Action) :=
  fun machine =>
  if machine.state = .cancelled then .error .cancelled machine
  else if machine.state = .expired then .error .expired machine
  else
    match machine.state, input.event with
    | .created, .requestCreated =>
      .ok [.requestSignerApprovals] { machine with state := .awaitingApprovals }
    | .awaitingApprovals, .approvalThresholdReached =>
      .ok [.decryptRecoveryDescriptor, .sendBeginCertificate] { machine with state := .authorized }
    | .authorized, .beginAccepted =>
      let notBefore := saturatingAdd input.now input.delay
      .ok [.waitUntil notBefore, .requestReleaseVotes]
        { machine with notBefore := some notBefore, state := .delayPending }
    | .delayPending, .releaseCertificateReady =>
      if machine.notBefore.getD (UInt64.ofNat (2 ^ 64 - 1)) ≤ input.now then
        .ok [.requestGuardianContributions] { machine with state := .releasing }
      else .error (.invalidTransition .delayPending) machine
    | .releasing, .guardianThresholdReached =>
      .ok [.reconstructLocally, .zeroizeRecoverySecrets] { machine with state := .completed }
    | .awaitingApprovals, .ownerCancelObserved
    | .authorized, .ownerCancelObserved
    | .delayPending, .ownerCancelObserved =>
      .ok [.refuseRelease, .zeroizeRecoverySecrets] { machine with state := .cancelled }
    | _, .expiryReached =>
      .ok [.refuseRelease, .zeroizeRecoverySecrets] { machine with state := .expired }
    | state, _ => .error (.invalidTransition state) machine

/-- Events one after the other; the accepted ones are logged with their actions. -/
def events : Machine RecoveryMachine RecoveryInput (RecoveryInput × List Action) :=
  Machine.observing apply fun input result =>
    match result with
    | .ok actions => some (input, actions)
    | .error _ => none

/-! ### What an event does -/

variable {machine machine' : RecoveryMachine} {input : RecoveryInput} {actions : List Action}
  {error : CoreError}

/-- The accepted events, each with its actions and the machine it leaves. -/
inductive Moves (machine : RecoveryMachine) (input : RecoveryInput) :
    List Action → RecoveryMachine → Prop
  | requested (hstate : machine.state = .created) (hevent : input.event = .requestCreated) :
    Moves machine input [.requestSignerApprovals] { machine with state := .awaitingApprovals }
  | approved (hstate : machine.state = .awaitingApprovals)
    (hevent : input.event = .approvalThresholdReached) :
    Moves machine input [.decryptRecoveryDescriptor, .sendBeginCertificate]
      { machine with state := .authorized }
  | begun (hstate : machine.state = .authorized) (hevent : input.event = .beginAccepted) :
    Moves machine input
      [.waitUntil (saturatingAdd input.now input.delay), .requestReleaseVotes]
      { machine with
        notBefore := some (saturatingAdd input.now input.delay)
        state := .delayPending }
  | released (hstate : machine.state = .delayPending)
    (hevent : input.event = .releaseCertificateReady)
    (hdue : machine.notBefore.getD (UInt64.ofNat (2 ^ 64 - 1)) ≤ input.now) :
    Moves machine input [.requestGuardianContributions] { machine with state := .releasing }
  | completed (hstate : machine.state = .releasing)
    (hevent : input.event = .guardianThresholdReached) :
    Moves machine input [.reconstructLocally, .zeroizeRecoverySecrets]
      { machine with state := .completed }
  | cancelled (hstate : machine.state = .awaitingApprovals ∨ machine.state = .authorized ∨
      machine.state = .delayPending) (hevent : input.event = .ownerCancelObserved) :
    Moves machine input [.refuseRelease, .zeroizeRecoverySecrets] { machine with state := .cancelled }
  | expired (hlive : machine.state ≠ .cancelled ∧ machine.state ≠ .expired)
    (hevent : input.event = .expiryReached) :
    Moves machine input [.refuseRelease, .zeroizeRecoverySecrets] { machine with state := .expired }

theorem apply_eq_ok (h : apply input machine = .ok actions machine') :
    Moves machine input actions machine' := by
  unfold apply at h
  split at h
  · cases h
  · next hcancelled =>
    split at h
    · cases h
    · next hexpired =>
      split at h
      case h_1 hstate hevent =>
        cases h
        exact .requested hstate hevent
      case h_2 hstate hevent =>
        cases h
        exact .approved hstate hevent
      case h_3 hstate hevent =>
        cases h
        exact .begun hstate hevent
      case h_4 hstate hevent =>
        split at h
        · next hdue =>
          cases h
          exact .released hstate hevent hdue
        · cases h
      case h_5 hstate hevent =>
        cases h
        exact .completed hstate hevent
      case h_6 hstate hevent =>
        cases h
        exact .cancelled (Or.inl hstate) hevent
      case h_7 hstate hevent =>
        cases h
        exact .cancelled (Or.inr (Or.inl hstate)) hevent
      case h_8 hstate hevent =>
        cases h
        exact .cancelled (Or.inr (Or.inr hstate)) hevent
      case h_9 hevent =>
        cases h
        exact .expired ⟨hcancelled, hexpired⟩ hevent
      case h_10 => cases h

theorem apply_eq_error (h : apply input machine = .error error machine') : machine' = machine := by
  unfold apply at h
  split at h
  · cases h
    rfl
  · split at h
    · cases h
      rfl
    · split at h
      case h_4 =>
        split at h
        · cases h
        · cases h
          rfl
      case h_10 =>
        cases h
        rfl
      all_goals cases h

theorem events_ok (h : apply input machine = .ok actions machine') :
    events.step machine input = (machine', some (input, actions)) :=
  Machine.observing_ok h

theorem events_error (h : apply input machine = .error error machine') :
    events.step machine input = (machine, none) := by
  have hkept := apply_eq_error h
  subst hkept
  exact Machine.observing_error h

/-- An event moves the machine, or it leaves it. -/
theorem events_cases (machine : RecoveryMachine) (input : RecoveryInput) :
    (∃ actions machine', Moves machine input actions machine' ∧
      events.step machine input = (machine', some (input, actions))) ∨
    events.step machine input = (machine, none) := by
  cases h : apply input machine with
  | ok actions machine' => exact Or.inl ⟨actions, machine', apply_eq_ok h, events_ok h⟩
  | error error machine' => exact Or.inr (events_error h)

/-! ### Actions in order -/

/-- What asking the guardians for their contributions rests on: the request, its approval and its
Begin, accepted in this order, and the delay of that Begin. -/
def ContributionsDue (earlier : List (RecoveryInput × List Action)) (now : UInt64) : Prop :=
  ∃ created approved begun : RecoveryInput,
    created.event = .requestCreated ∧ approved.event = .approvalThresholdReached ∧
    begun.event = .beginAccepted ∧
    [created, approved, begun].Sublist (earlier.map (·.1)) ∧
    min (begun.now.toNat + begun.delay.toNat) (2 ^ 64 - 1) ≤ now.toNat

/-- What the actions of an event need of the events accepted before it. -/
structure Grounded (earlier : List (RecoveryInput × List Action)) (input : RecoveryInput)
    (actions : List Action) : Prop where
  contributions : .requestGuardianContributions ∈ actions → ContributionsDue earlier input.now
  reconstruct : .reconstructLocally ∈ actions →
    (∃ entry ∈ earlier, .requestGuardianContributions ∈ entry.2) ∧
      ∀ entry ∈ earlier, .reconstructLocally ∉ entry.2
  refused : (∃ entry ∈ earlier, .refuseRelease ∈ entry.2) →
    .requestGuardianContributions ∉ actions ∧ .reconstructLocally ∉ actions

/-- Every event of the log has what its actions need. -/
def InOrder (log : List (RecoveryInput × List Action)) : Prop :=
  ∀ earlier input actions later, log = earlier ++ (input, actions) :: later →
    Grounded earlier input actions

/-- What the state of the machine tells of the events it has accepted. -/
structure Ledger (machine : RecoveryMachine) (log : List (RecoveryInput × List Action)) : Prop where
  requested : machine.state = .awaitingApprovals → ∃ created : RecoveryInput,
    created.event = .requestCreated ∧ [created].Sublist (log.map (·.1))
  approved : machine.state = .authorized → ∃ created approved : RecoveryInput,
    created.event = .requestCreated ∧ approved.event = .approvalThresholdReached ∧
    [created, approved].Sublist (log.map (·.1))
  begun : machine.state = .delayPending → ∃ created approved begun : RecoveryInput,
    created.event = .requestCreated ∧ approved.event = .approvalThresholdReached ∧
    begun.event = .beginAccepted ∧ [created, approved, begun].Sublist (log.map (·.1)) ∧
    machine.notBefore = some (saturatingAdd begun.now begun.delay)
  released : machine.state = .releasing → ∃ entry ∈ log, .requestGuardianContributions ∈ entry.2
  reconstructed : (∃ entry ∈ log, .reconstructLocally ∈ entry.2) →
    machine.state = .completed ∨ machine.state = .expired
  refused : (∃ entry ∈ log, .refuseRelease ∈ entry.2) →
    machine.state = .cancelled ∨ machine.state = .expired
  inOrder : InOrder log

theorem Ledger.new : Ledger new [] where
  requested h := by cases h
  approved h := by cases h
  begun h := by cases h
  released h := by cases h
  reconstructed h := by simp at h
  refused h := by simp at h
  inOrder := by simp [InOrder]

section Ledger

variable {log : List (RecoveryInput × List Action)}

theorem sublist_concat {inputs : List RecoveryInput} (h : inputs.Sublist (log.map (·.1)))
    (input : RecoveryInput) (actions : List Action) :
    (inputs ++ [input]).Sublist ((log ++ [(input, actions)]).map (·.1)) := by
  simpa using h.append (List.Sublist.refl [input])

/-- The state an accepted event finds is none of those nothing leaves. -/
theorem Moves.live (h : Moves machine input actions machine') :
    machine.state ≠ .cancelled ∧ machine.state ≠ .expired := by
  cases h with
  | requested hstate => simp [hstate]
  | approved hstate => simp [hstate]
  | begun hstate => simp [hstate]
  | released hstate => simp [hstate]
  | completed hstate => simp [hstate]
  | cancelled hstate => rcases hstate with hstate | hstate | hstate <;> simp [hstate]
  | expired hlive => exact hlive

theorem Ledger.unrefused (h : Ledger machine log) (hmoves : Moves machine input actions machine') :
    ¬∃ entry ∈ log, .refuseRelease ∈ entry.2 := by
  intro hrefused
  obtain ⟨hcancelled, hexpired⟩ := hmoves.live
  exact (h.refused hrefused).elim hcancelled hexpired

/-- An event that is accepted now has what its actions need. -/
theorem Ledger.grounded (h : Ledger machine log) (hmoves : Moves machine input actions machine') :
    Grounded log input actions where
  contributions := by
    intro hmem
    cases hmoves with
    | released hstate _ hdue =>
      obtain ⟨created, approved, begun, hcreated, happroved, hbegun, horder, hnotBefore⟩ :=
        h.begun hstate
      rw [hnotBefore, Option.getD_some, UInt64.le_iff_toNat_le, saturatingAdd_toNat] at hdue
      exact ⟨created, approved, begun, hcreated, happroved, hbegun, horder, hdue⟩
    | _ => simp at hmem
  reconstruct := by
    intro hmem
    cases hmoves with
    | completed hstate =>
      refine ⟨h.released hstate, fun entry hentry hbefore => ?_⟩
      rcases h.reconstructed ⟨entry, hentry, hbefore⟩ with hcompleted | hexpired
      · cases hstate.symm.trans hcompleted
      · cases hstate.symm.trans hexpired
    | _ => simp at hmem
  refused hrefused := absurd hrefused (h.unrefused hmoves)

theorem mem_concat_actions {action : Action}
    (h : ∃ entry ∈ log ++ [(input, actions)], action ∈ entry.2) :
    (∃ entry ∈ log, action ∈ entry.2) ∨ action ∈ actions := by
  obtain ⟨entry, hentry, hmem⟩ := h
  rcases List.mem_append.mp hentry with hold | hnew
  · exact Or.inl ⟨entry, hold, hmem⟩
  · rw [List.mem_singleton.mp hnew] at hmem
    exact Or.inr hmem

theorem Ledger.accepted (h : Ledger machine log) (hmoves : Moves machine input actions machine') :
    Ledger machine' (log ++ [(input, actions)]) where
  requested := by
    intro hstate
    cases hmoves with
    | requested _ hevent =>
      exact ⟨input, hevent, sublist_concat (List.nil_sublist _) input _⟩
    | _ => cases hstate
  approved := by
    intro hstate
    cases hmoves with
    | approved hbefore hevent =>
      obtain ⟨created, hcreated, horder⟩ := h.requested hbefore
      exact ⟨created, input, hcreated, hevent, sublist_concat horder input _⟩
    | _ => cases hstate
  begun := by
    intro hstate
    cases hmoves with
    | begun hbefore hevent =>
      obtain ⟨created, approved, hcreated, happroved, horder⟩ := h.approved hbefore
      exact ⟨created, approved, input, hcreated, happroved, hevent, sublist_concat horder input _,
        rfl⟩
    | _ => cases hstate
  released := by
    intro hstate
    cases hmoves with
    | released => exact ⟨_, List.mem_concat_self, List.mem_singleton_self _⟩
    | _ => cases hstate
  reconstructed := by
    intro hnoted
    rcases mem_concat_actions hnoted with hold | hnow
    · have hcompleted := (h.reconstructed hold).resolve_right hmoves.live.2
      cases hmoves with
      | expired => exact Or.inr rfl
      | cancelled hstate => simp [hcompleted] at hstate
      | requested hstate => cases hcompleted.symm.trans hstate
      | approved hstate => cases hcompleted.symm.trans hstate
      | begun hstate => cases hcompleted.symm.trans hstate
      | released hstate => cases hcompleted.symm.trans hstate
      | completed hstate => cases hcompleted.symm.trans hstate
    · cases hmoves with
      | completed => exact Or.inl rfl
      | _ => simp at hnow
  refused := by
    intro hnoted
    rcases mem_concat_actions hnoted with hold | hnow
    · exact absurd hold (h.unrefused hmoves)
    · cases hmoves with
      | cancelled => exact Or.inl rfl
      | expired => exact Or.inr rfl
      | _ => simp at hnow
  inOrder := by
    intro earlier input' actions' later hsplit
    rcases Machine.concat_split hsplit with ⟨-, rfl, hlast⟩ | ⟨z, -, hold⟩
    · cases hlast
      exact h.grounded hmoves
    · exact h.inOrder _ _ _ _ hold

theorem ledger_run (sent : List RecoveryInput) :
    Ledger (events.run new sent) (events.outputs new sent) := by
  refine events.run_invariant (P := fun _ _ _ => True) Ledger.new ?_
    (events.along_of_forall (P := fun _ => True) (fun _ _ => trivial) new [])
  intro machine log input hledger _
  rcases events_cases machine input with ⟨actions, machine', hmoves, hstep⟩ | hstep
  · rw [hstep]
    exact hledger.accepted hmoves
  · rw [hstep]
    simpa using hledger

end Ledger

/-- What every sequence of events keeps to. -/
structure Ordered (sent : List RecoveryInput) : Prop where
  inOrder : InOrder (events.outputs new sent)
  refused : ∀ input error machine',
    apply input (events.run new sent) = .error error machine' → machine' = events.run new sent

/-! ### Terminal states -/

def Terminal (state : RecoveryState) : Prop :=
  state = .completed ∨ state = .cancelled ∨ state = .expired

/-- Once in a terminal state, the machine stays in it. -/
def Final (sent : List RecoveryInput) : Prop :=
  ∀ earlier middle later, sent = earlier ++ middle ++ later →
    Terminal (events.run new earlier).state →
      (events.run new (earlier ++ middle)).state = (events.run new earlier).state

/-- An expiry observed after the completion. -/
def LateExpiry (machine : RecoveryMachine) (input : RecoveryInput) : Prop :=
  machine.state = .completed ∧ input.event = .expiryReached

theorem lateExpiry_step (h : LateExpiry machine input) :
    (events.step machine input).1.state = .expired := by
  obtain ⟨hstate, hevent⟩ := h
  have happly : apply input machine =
      .ok [.refuseRelease, .zeroizeRecoverySecrets] { machine with state := .expired } := by
    simp [apply, hstate, hevent]
  rw [events_ok happly]

theorem terminal_step (hterminal : Terminal machine.state) (hlate : ¬LateExpiry machine input) :
    (events.step machine input).1.state = machine.state := by
  rcases events_cases machine input with ⟨actions, machine', hmoves, hstep⟩ | hstep
  · have hcompleted : machine.state = .completed := by
      obtain ⟨hcancelled, hexpired⟩ := hmoves.live
      rcases hterminal with h | h | h
      · exact h
      · exact absurd h hcancelled
      · exact absurd h hexpired
    cases hmoves with
    | expired _ hevent => exact absurd ⟨hcompleted, hevent⟩ hlate
    | cancelled hstate => simp [hcompleted] at hstate
    | requested hstate => cases hcompleted.symm.trans hstate
    | approved hstate => cases hcompleted.symm.trans hstate
    | begun hstate => cases hcompleted.symm.trans hstate
    | released hstate => cases hcompleted.symm.trans hstate
    | completed hstate => cases hcompleted.symm.trans hstate
  · rw [hstep]

theorem terminal_run {log : List (RecoveryInput × List Action)} {sent : List RecoveryInput}
    (hterminal : Terminal machine.state)
    (halong : events.Along (fun machine _ input => ¬LateExpiry machine input) machine log sent) :
    (events.run machine sent).state = machine.state := by
  induction sent generalizing machine log with
  | nil => rfl
  | cons input sent ih =>
    have hsame := terminal_step hterminal halong.1
    rw [Machine.run_cons, ih (hsame ▸ hterminal) halong.2, hsame]

/-- The terminal states are final exactly when no expiry is observed after the completion. -/
theorem final_iff (sent : List RecoveryInput) :
    Final sent ↔ events.Along (fun machine _ input => ¬LateExpiry machine input) new [] sent := by
  constructor
  · intro hfinal
    rw [Machine.along_iff_split]
    intro before input after hsplit hlate
    have hsame := hfinal before [input] after (by simp [hsplit]) (Or.inl hlate.1)
    rw [Machine.run_append, hlate.1] at hsame
    cases hsame.symm.trans (lateExpiry_step hlate)
  · intro halong earlier middle later hsplit hterminal
    rw [hsplit, Machine.along_append, Machine.along_append] at halong
    rw [Machine.run_append]
    exact terminal_run hterminal halong.1.2

end RecoveryMachine

open RecoveryMachine

/-- Whatever events arrive and whatever clocks they carry, contributions are asked for in order and
in time, the secret is reconstructed at most once and only after that, a refusal is final, and an
event that is refused leaves the machine as it was. -/
theorem recovery_actions_ordered (sent : List RecoveryInput) : Ordered sent where
  inOrder := (RecoveryMachine.ledger_run sent).inOrder
  refused _ _ _ h := apply_eq_error h

/-- A whole recovery, with a release tried too early; a late cancellation is refused. -/
def sampleRecoveryInputs : List RecoveryInput :=
  [⟨.requestCreated, 5, 0⟩, ⟨.approvalThresholdReached, 6, 0⟩, ⟨.beginAccepted, 10, 20⟩,
    ⟨.releaseCertificateReady, 29, 0⟩, ⟨.releaseCertificateReady, 30, 0⟩,
    ⟨.ownerCancelObserved, 31, 0⟩, ⟨.guardianThresholdReached, 32, 0⟩]

example : (events.outputs new sampleRecoveryInputs).map (·.1.now) = [5, 6, 10, 30, 32] := by
  decide +kernel

end MasterRecovery
