import MasterRecovery.EpochRecovery
import MasterRecovery.Wire
import Mathlib.Data.List.Chain

/-!
# Epoch numbers along a chain (gp-types, gp-core and gp-wire)

A direct successor has the next epoch number, counted with saturation. Short of the last number the
numbers of a chain rise; the last number is its own successor.
-/

namespace MasterRecovery
open Checks

/-- Each configuration is the direct successor of the one before it. -/
def DirectChain (chain : List ConfigRef) : Prop :=
  chain.IsChain fun predecessor next => next.IsDirectSuccessorOf predecessor

/-- Every configuration has a higher epoch number than those before it. -/
def StrictlyLater (chain : List ConfigRef) : Prop :=
  (chain.map (·.guardianEpoch.toNat)).Pairwise (· < ·)

/-- No configuration that is followed by another has the last epoch number. -/
def Extendable (chain : List ConfigRef) : Prop :=
  chain.IsChain fun predecessor _ => predecessor.guardianEpoch.toNat < 2 ^ 64 - 1

theorem strictlyLater_iff_isChain {chain : List ConfigRef} :
    StrictlyLater chain ↔ chain.IsChain fun predecessor next =>
      predecessor.guardianEpoch.toNat < next.guardianEpoch.toNat := by
  rw [StrictlyLater, ← List.isChain_iff_pairwise, List.isChain_map]

theorem ConfigRef.IsDirectSuccessorOf.later_iff {next predecessor : ConfigRef}
    (h : next.IsDirectSuccessorOf predecessor) :
    predecessor.guardianEpoch.toNat < next.guardianEpoch.toNat ↔
      predecessor.guardianEpoch.toNat < 2 ^ 64 - 1 := by
  have hbound := next.guardianEpoch.toNat_lt
  obtain hlater | ⟨hlast, hsame⟩ := h.later_or_last
  · omega
  · rw [hsame, hlast]

theorem DirectChain.strictlyLater_iff {chain : List ConfigRef} (h : DirectChain chain) :
    StrictlyLater chain ↔ Extendable chain := by
  rw [strictlyLater_iff_isChain, Extendable, List.isChain_iff_forall_rel_of_append_cons_cons,
    List.isChain_iff_forall_rel_of_append_cons_cons]
  have hdirect := List.isChain_iff_forall_rel_of_append_cons_cons.mp h
  constructor
  · intro hlater predecessor next before after hsplit
    exact (hdirect hsplit).later_iff.mp (hlater hsplit)
  · intro hsmall predecessor next before after hsplit
    exact (hdirect hsplit).later_iff.mpr (hsmall hsplit)

namespace EpochRecoveryMachine

variable {initial : ConfigRef} {log : List EpochRecoveryCall}

/-- The epochs a machine has had, the initial one first. -/
def epochs (initial : ConfigRef) : List EpochRecoveryCall → List ConfigRef
  | [] => [initial]
  | .activateSuccessor successor _ _ :: log => initial :: epochs successor log
  | _ :: log => epochs initial log

theorem epochs_head (initial : ConfigRef) (log : List EpochRecoveryCall) :
    ∃ later, epochs initial log = initial :: later := by
  induction log with
  | nil => exact ⟨[], rfl⟩
  | cons sent log ih =>
    cases sent with
    | activateSuccessor successor drainDeadline qcValid => exact ⟨_, rfl⟩
    | _ => exact ih

theorem Succession.directChain (h : Succession initial log) : DirectChain (epochs initial log) := by
  induction log generalizing initial with
  | nil => exact .singleton _
  | cons sent log ih =>
    have hrest : Succession (activeAfter initial [sent]) log := Succession.after h
    cases sent with
    | activateSuccessor successor drainDeadline qcValid =>
      obtain ⟨later, hlater⟩ := epochs_head successor log
      have hchain : DirectChain (epochs successor log) := ih hrest
      rw [hlater] at hchain
      rw [epochs, hlater]
      exact List.isChain_cons_cons.mpr ⟨h [] successor drainDeadline qcValid log rfl, hchain⟩
    | _ => exact ih hrest

/-- An epoch left behind is followed by another. -/
theorem epochs_split (initial : ConfigRef) (earlier later : List EpochRecoveryCall)
    (successor : ConfigRef) (drainDeadline : UInt64) (qcValid : Bool) :
    ∃ before after, epochs initial
        (earlier ++ .activateSuccessor successor drainDeadline qcValid :: later) =
      before ++ activeAfter initial earlier :: successor :: after := by
  induction earlier generalizing initial with
  | nil =>
    obtain ⟨after, hafter⟩ := epochs_head successor later
    exact ⟨[], after, congrArg (initial :: ·) hafter⟩
  | cons sent earlier ih =>
    cases sent with
    | activateSuccessor first firstDeadline firstValid =>
      obtain ⟨before, after, hsplit⟩ := ih first
      exact ⟨initial :: before, after, congrArg (initial :: ·) hsplit⟩
    | _ => exact ih initial

/-- Along an extendable history, an epoch left behind has a lower number than the active one. -/
theorem left_lt_active {rest : List EpochRecoveryCall} (hsuccession : Succession initial log)
    (hextendable : Extendable (epochs initial (log ++ rest))) {left : ConfigRef}
    (hleft : StillDraining initial log left) :
    left.guardianEpoch.toNat < (activeAfter initial log).guardianEpoch.toNat := by
  obtain ⟨earlier, successor, drainDeadline, qcValid, later, rfl, rfl, -⟩ := hleft
  rw [List.append_assoc, List.cons_append] at hextendable
  obtain ⟨before, after, hsplit⟩ := epochs_split initial earlier (later ++ rest) successor
    drainDeadline qcValid
  have hsmall : (activeAfter initial earlier).guardianEpoch.toNat < 2 ^ 64 - 1 :=
    List.isChain_iff_forall_rel_of_append_cons_cons.mp hextendable hsplit
  have hdirect := hsuccession earlier successor drainDeadline qcValid later rfl
  have hafter : Succession successor later := by
    have htail : Succession (activeAfter initial earlier)
        ([.activateSuccessor successor drainDeadline qcValid] ++ later) := hsuccession.after
    exact htail.after
  have hactive : activeAfter initial
      (earlier ++ .activateSuccessor successor drainDeadline qcValid :: later) =
        activeAfter successor later := by
    rw [activeAfter_append]
    rfl
  calc (activeAfter initial earlier).guardianEpoch.toNat
      < successor.guardianEpoch.toNat := hdirect.later_iff.mpr hsmall
    _ ≤ (activeAfter successor later).guardianEpoch.toNat := hafter.epoch_le.1
    _ = _ := by rw [hactive]

/-- An activation puts the active epoch in the draining map under a number that is not there. -/
def NeverOverwrites (initial : ConfigRef) (sent : List EpochRecoveryCall) : Prop :=
  ∀ earlier successor drainDeadline qcValid later,
    sent = earlier ++ .activateSuccessor successor drainDeadline qcValid :: later →
      (calls.step (calls.run (new initial) earlier)
        (.activateSuccessor successor drainDeadline qcValid)).2 ≠ none →
        (calls.run (new initial) earlier).active.guardianEpoch ∉
          (calls.run (new initial) earlier).draining

theorem never_overwrites (initial : ConfigRef) (sent : List EpochRecoveryCall)
    (hextendable : Extendable (epochs initial (calls.outputs (new initial) sent))) :
    NeverOverwrites initial sent := by
  intro earlier successor drainDeadline qcValid later hsplit _ hmem
  have hledger := ledger_run initial earlier
  obtain ⟨deadline, hdeadline⟩ := Option.isSome_iff_exists.mp
    (Std.TreeMap.isSome_getElem?_iff_mem.mpr hmem)
  obtain ⟨left, hleft, hnumber⟩ := hledger.draining _ _ hdeadline
  rw [hsplit, Machine.outputs_append] at hextendable
  have hlower := left_lt_active hledger.succession hextendable hleft
  rw [hnumber, hledger.active] at hlower
  exact absurd hlower (lt_irrefl _)

end EpochRecoveryMachine

open EpochRecoveryMachine

/-- Where epoch numbers rise: chains of direct successors, the epochs of a recovery machine, which
then drain under numbers of their own, and the two epochs of an activation QC. -/
structure EpochsRise (chain : List ConfigRef) (initial : ConfigRef) (sent : List EpochRecoveryCall)
    (qc : EpochActivationQc) : Prop where
  chains : DirectChain chain → (StrictlyLater chain ↔ Extendable chain)
  runs : StrictlyLater (epochs initial (calls.outputs (new initial) sent)) ∧
        NeverOverwrites initial sent ↔
      Extendable (epochs initial (calls.outputs (new initial) sent))
  certificates : ∀ transcript, Wire.epochActivationQc qc = .ok transcript →
    (qc.predecessorEpoch < qc.successorEpoch ↔ qc.predecessorEpoch.toNat < 2 ^ 64 - 1)

/-- Epoch numbers rise exactly where nothing follows the last number. -/
theorem epochs_rise (chain : List ConfigRef) (initial : ConfigRef) (sent : List EpochRecoveryCall)
    (qc : EpochActivationQc) : EpochsRise chain initial sent qc where
  chains h := h.strictlyLater_iff
  runs := by
    have hchain := (ledger_run initial sent).succession.directChain
    rw [hchain.strictlyLater_iff]
    exact ⟨And.left, fun h => ⟨h, never_overwrites initial sent h⟩⟩
  certificates transcript h := by
    have hepoch : qc.successorEpoch = saturatingAdd qc.predecessorEpoch 1 := by
      simp only [Wire.epochActivationQc, bind_unit_eq_ok, bailIf_eq_ok, not_or, not_not, ne_eq] at h
      exact h.1.2.1
    have hbound := qc.predecessorEpoch.toNat_lt
    rw [hepoch, UInt64.lt_iff_toNat_lt, saturatingAdd_toNat, UInt64.toNat_one]
    omega

/-- The last epoch, and two that succeed it in turn. -/
def sampleLastEpoch (epochBinding : Id32) : ConfigRef := ⟨1, 1, 1, 18446744073709551615, epochBinding⟩

/-- Two activations at the last epoch number are accepted; all three epochs have that number, and
the second one drains in place of the first. -/
theorem last_epoch_succeeds_itself :
    let sent : List EpochRecoveryCall := [.activateSuccessor (sampleLastEpoch 2) 10 true,
      .activateSuccessor (sampleLastEpoch 3) 20 true]
    calls.outputs (new (sampleLastEpoch 1)) sent = sent ∧
      ¬StrictlyLater (epochs (sampleLastEpoch 1) sent) ∧
      ¬NeverOverwrites (sampleLastEpoch 1) sent := by
  refine ⟨by decide +kernel, ?_, fun hnever => ?_⟩
  · unfold StrictlyLater
    decide
  · have hfresh := hnever [.activateSuccessor (sampleLastEpoch 2) 10 true] (sampleLastEpoch 3) 20
      true [] rfl (by decide +kernel)
    exact hfresh (by decide +kernel)

end MasterRecovery
