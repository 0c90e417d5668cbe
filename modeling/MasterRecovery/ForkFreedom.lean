import MasterRecovery.WitnessNetwork

/-!
# Fork freedom

A witness acknowledges one child of each predecessor as long as no cancel gives
an acknowledged child up for another one. Two quorums share an honest witness,
so then no predecessor gets two activated children.
-/

namespace MasterRecovery
open Checks Transcript Wire

variable {crypto : Crypto} {seed configId : Id32} {entry entry' : WitnessConfigEntry}
  {request : WitnessRequest} {reply : Option WitnessEvent} {saves : Bool}
  {requests : List WitnessRequest} {out : List WitnessEvent}

/-! ### One witness -/

/-- The request activates a second child of the active capsule, after an accepted cancel
rolled back the first, which had been acknowledged. -/
def WitnessRequest.Reopens (crypto : Crypto) (entry : WitnessConfigEntry)
    (out : List WitnessEvent) : WitnessRequest → Prop
  | .activate request => Extends crypto request entry.capsule entry.signerPublicKeys ∧
      ∃ child, RolledBack out entry.capsule.capsuleHash child ∧ child ≠ request.capsule.capsuleHash
  | _ => False

/-- An acknowledged child is locked or was rolled back, and is the only one. -/
structure ChildLedger (entry : WitnessConfigEntry) (out : List WitnessEvent) : Prop where
  pending : ∀ ack, entry.pendingAck = some ack → .acked ack ∈ out
  locked : ∀ ack, .acked ack ∈ out →
    entry.register.predecessorLocks[ack.predecessorCapsuleHash]? =
        some ack.successorCapsuleHash ∨
      RolledBack out ack.predecessorCapsuleHash ack.successorCapsuleHash
  unique : ∀ first second, .acked first ∈ out → .acked second ∈ out →
    first.predecessorCapsuleHash = second.predecessorCapsuleHash →
    first.successorCapsuleHash = second.successorCapsuleHash

theorem ChildLedger.handled (h : ChildLedger entry out)
    (hpending : HoldsPending crypto seed configId entry) (hlocks : LocksPending entry)
    (hcondition : ¬request.Reopens crypto entry out)
    (hstep : Handled crypto seed configId entry request entry' reply saves) :
    ChildLedger entry' (out ++ reply.toList) := by
  have hkept : ∀ ack, .acked ack ∈ out →
      entry'.register.predecessorLocks[ack.predecessorCapsuleHash]? =
          some ack.successorCapsuleHash ∨
        RolledBack (out ++ reply.toList) ack.predecessorCapsuleHash ack.successorCapsuleHash := by
    intro ack hack
    rcases h.locked ack hack with hlock | hback
    · exact (handled_locks hpending hstep hlock).imp_right fun hnew =>
        hnew.mono (List.subset_append_right _ _)
    · exact Or.inr (hback.mono (List.subset_append_left _ _))
  -- a new acknowledgement agrees with the older ones over the same predecessor
  have hagrees : ∀ new old, reply = some (.acked new) → .acked old ∈ out →
      old.predecessorCapsuleHash = new.predecessorCapsuleHash →
      old.successorCapsuleHash = new.successorCapsuleHash := by
    rintro new old rfl hold hpred
    have hlock := (handled_holdsAck hpending hlocks hstep).lock
    have hmine := h.locked old hold
    cases hstep with
    | retried _ _ _ _ hack => exact h.unique old new hold (h.pending new hack) hpred
    | activated _ _ _ hextends hpersist _ =>
      rcases hmine with hlocked | hback
      · have hlocked' := (persist_locks hpersist).2 _ _ hlocked
        rw [hpred] at hlocked'
        exact Option.some.inj (hlocked'.symm.trans hlock)
      · have hactive : old.predecessorCapsuleHash = entry.capsule.capsuleHash := hpred
        rw [hactive] at hback
        by_contra hne
        exact hcondition ⟨hextends, _, hback, hne⟩
  refine ⟨fun ack hack => ?_, fun ack hack => ?_, fun first second hfirst hsecond hpred => ?_⟩
  · cases hstep with
    | activated => exact List.mem_append_right _ (by cases hack; simp)
    | cancelled _ _ _ houtcome _ =>
      exact List.mem_append_left _ (h.pending ack (houtcome.pendingAck hack))
    | finalized => cases hack
    | refused => exact List.mem_append_left _ (h.pending ack hack)
    | retried => exact List.mem_append_left _ (h.pending ack hack)
    | answered => exact List.mem_append_left _ (h.pending ack hack)
  · rcases List.mem_append.mp hack with hold | hnew
    · exact hkept ack hold
    · rw [Option.mem_toList] at hnew
      subst hnew
      exact Or.inl (handled_holdsAck hpending hlocks hstep).lock
  · rcases List.mem_append.mp hfirst with hold | hnew <;>
      rcases List.mem_append.mp hsecond with hold' | hnew'
    · exact h.unique first second hold hold' hpred
    · exact hagrees second first (Option.mem_toList.mp hnew') hold hpred
    · exact (hagrees first second (Option.mem_toList.mp hnew) hold' hpred.symm).symm
    · rw [Option.mem_toList] at hnew hnew'
      cases hnew.symm.trans hnew'
      rfl

example : sampleFirst.capsule.configRef.IsDirectSuccessorOf sampleGenesis.configRef ∧
    sampleSecond.capsule.configRef.IsDirectSuccessorOf sampleGenesis.configRef := by
  decide +kernel

end MasterRecovery
