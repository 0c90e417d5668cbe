import MasterRecovery.CertificateValidation
import MasterRecovery.Lib.Keyed
import MasterRecovery.SignerVotes

/-!
# One guardian for another (gp-network/src/rotation_protocol.rs)

A plan that keeps to its intent replaces the one guardian the intent commits to. That a route is
fresh is checked against the old route of the same index only, so a route may change hands.
-/

namespace MasterRecovery
open Checks Transcript Wire

variable {crypto : Crypto} {plan : RotationPlan} {intent : RotationIntent}
  {predecessor : ConfigCapsuleV3} {now : UInt64} {planHash : Id32}

/-! ### Rosters as lists -/

def guardianIndices (roster : List GuardianRouteV3) : Finset UInt16 :=
  (roster.map (·.guardianIndex)).toFinset

def DistinctIndices (roster : List GuardianRouteV3) : Prop := (roster.map (·.guardianIndex)).Nodup

theorem guardianRosterV3_distinct {roster : List GuardianRouteV3} {transcript : Bytes}
    (h : guardianRosterV3 roster = .ok transcript) : DistinctIndices roster := by
  simp only [guardianRosterV3, bind_unit_eq_ok, uniqueIds_eq_ok] at h
  exact h.1.2

theorem mem_guardianIndices {roster : List GuardianRouteV3} {index : UInt16} :
    index ∈ guardianIndices roster ↔ ∃ route ∈ roster, route.guardianIndex = index := by
  rw [guardianIndices, List.mem_toFinset, List.mem_map]

theorem mem_routesByIndex {roster : List GuardianRouteV3} {index : UInt16} :
    index ∈ routesByIndex roster ↔ index ∈ guardianIndices roster := by
  rw [mem_guardianIndices]
  exact Keyed.mem_iff fun route => route

theorem DistinctIndices.getElem?_routesByIndex {roster : List GuardianRouteV3}
    (h : DistinctIndices roster) {index : UInt16} {route : GuardianRouteV3} :
    (routesByIndex roster)[index]? = some route ↔ route ∈ roster ∧ route.guardianIndex = index :=
  Keyed.getElem?_eq_some_iff h

theorem DistinctIndices.distinctField_iff {β : Type} [DecidableEq β] {field : GuardianRouteV3 → β}
    {roster : List GuardianRouteV3} (h : DistinctIndices roster) :
    DistinctField field (routesByIndex roster) ↔ (roster.map field).Nodup :=
  Keyed.card_values_eq_size_iff h field

theorem mem_missingFrom {roster other : List GuardianRouteV3} {index : UInt16} :
    index ∈ missingFrom (routesByIndex roster) (routesByIndex other) ↔
      index ∈ guardianIndices roster \ guardianIndices other := by
  simp only [missingFrom, List.mem_filter, Std.TreeMap.mem_keys, decide_eq_true_eq,
    mem_routesByIndex, Finset.mem_sdiff]

/-! ### What the validator accepts -/

/-- One guardian of the old roster, the committed one, is replaced by one that was not in it. -/
structure Replaces (crypto : Crypto) (plan : RotationPlan) (intent : RotationIntent)
    (removed added : UInt16) : Prop where
  leaves : removed ∈ guardianIndices plan.oldRoster
  joins : added ∉ guardianIndices plan.oldRoster
  committed : crypto.sha256 (beBytes 2 removed.toNat) = intent.selectionConstraintsCommitment
  indices : guardianIndices plan.newRoster =
    insert added ((guardianIndices plan.oldRoster).erase removed)

/-- No signing key, mailbox, slot or domain twice. -/
structure DistinctRoutes (roster : List GuardianRouteV3) : Prop where
  keys : (roster.map (·.guardianPublicKey)).Nodup
  mailboxes : (roster.map (·.mailbox)).Nodup
  slots : (roster.map (·.opaqueSlotId)).Nodup
  domains : (roster.map (·.operatorDomainCommitment)).Nodup

/-- What `validate_rotation_plan_against_intent_v3` has checked of the two rosters. -/
structure RostersAccepted (crypto : Crypto) (plan : RotationPlan) (intent : RotationIntent) :
    Prop where
  replaces : ∃ removed added, Replaces crypto plan intent removed added
  kept : ∀ old ∈ plan.oldRoster, ∀ new ∈ plan.newRoster, new.guardianIndex = old.guardianIndex →
    KeepsIdentity old new
  distinct : DistinctRoutes plan.newRoster
  addedKey : ∀ new ∈ plan.newRoster, new.guardianIndex ∉ guardianIndices plan.oldRoster →
    ∀ old ∈ plan.oldRoster, new.guardianPublicKey ≠ old.guardianPublicKey

theorem replaces_of_missing {removed added : UInt16}
    (hremoved : missingFrom (routesByIndex plan.oldRoster) (routesByIndex plan.newRoster) =
      [removed])
    (hadded : missingFrom (routesByIndex plan.newRoster) (routesByIndex plan.oldRoster) = [added])
    (hcommitted : crypto.sha256 (beBytes 2 removed.toNat) = intent.selectionConstraintsCommitment) :
    Replaces crypto plan intent removed added := by
  have hgone : ∀ index, index ∈ guardianIndices plan.oldRoster \ guardianIndices plan.newRoster ↔
      index = removed := by
    intro index
    rw [← mem_missingFrom, hremoved, List.mem_singleton]
  have hcame : ∀ index, index ∈ guardianIndices plan.newRoster \ guardianIndices plan.oldRoster ↔
      index = added := by
    intro index
    rw [← mem_missingFrom, hadded, List.mem_singleton]
  simp only [Finset.mem_sdiff] at hgone hcame
  refine ⟨((hgone removed).mpr rfl).1, ((hcame added).mpr rfl).2, hcommitted, ?_⟩
  ext index
  rw [Finset.mem_insert, Finset.mem_erase, ← hcame, ne_eq, ← hgone]
  tauto

theorem rostersAccepted
    (h : validateRotationPlanAgainstIntentV3 crypto plan intent predecessor now = .ok planHash) :
    RostersAccepted crypto plan intent := by
  have hvalid := (validateRotationPlanAgainstIntentV3_eq_ok h).1
  obtain ⟨_, hold, -⟩ := hvalid.oldCommitment
  obtain ⟨_, hnew, -⟩ := hvalid.newCommitment
  have hold := guardianRosterV3_distinct hold
  have hnew := guardianRosterV3_distinct hnew
  simp only [validateRotationPlanAgainstIntentV3, bind_eq_ok, exists_const, bailIf_eq_ok,
    okOr_eq_ok, not_or, not_not, not_exists, not_and] at h
  obtain ⟨-, -, -, -, -, ⟨removed, added⟩, hpair, hcommitted, hkept, ⟨hkeys, hmailboxes, hslots,
    hdomains, hfresh⟩, -⟩ := h
  obtain ⟨hremoved, hadded⟩ :
      missingFrom (routesByIndex plan.oldRoster) (routesByIndex plan.newRoster) = [removed] ∧
        missingFrom (routesByIndex plan.newRoster) (routesByIndex plan.oldRoster) = [added] := by
    split at hpair
    · cases hpair
      exact ⟨‹_›, ‹_›⟩
    · cases hpair
  have hreplaces := replaces_of_missing hremoved hadded hcommitted
  refine ⟨⟨removed, added, hreplaces⟩, fun old hmem new hmem' hindex => ?_,
    ⟨hnew.distinctField_iff.mp hkeys, hnew.distinctField_iff.mp hmailboxes,
      hnew.distinctField_iff.mp hslots, hnew.distinctField_iff.mp hdomains⟩,
    fun new hmem hindex old hmem' => ?_⟩
  · have hentry : (old.guardianIndex, old) ∈ (routesByIndex plan.oldRoster).toList :=
      Std.TreeMap.mem_toList_iff_getElem?_eq_some.mpr (hold.getElem?_routesByIndex.mpr ⟨hmem, rfl⟩)
    exact hkept _ hentry new (hnew.getElem?_routesByIndex.mpr ⟨hmem', hindex⟩)
  · have hthere : new.guardianIndex ∈ guardianIndices plan.newRoster :=
      mem_guardianIndices.mpr ⟨new, hmem, rfl⟩
    rw [hreplaces.indices, Finset.mem_insert] at hthere
    have hsame : new.guardianIndex = added :=
      hthere.resolve_right fun herased => hindex (Finset.mem_of_mem_erase herased)
    intro heq
    apply hfresh new (hnew.getElem?_routesByIndex.mpr ⟨hmem, hsame⟩)
    rw [heq]
    exact List.mem_map_of_mem ((Keyed.mem_values_iff hold).mpr hmem')

/-! ### Fresh routes -/

/-- Every successor route has a mailbox and a slot the old roster does not have, under any index. -/
def FreshRoutes (plan : RotationPlan) : Prop :=
  ∀ new ∈ plan.newRoster, ∀ old ∈ plan.oldRoster,
    new.mailbox ≠ old.mailbox ∧ new.opaqueSlotId ≠ old.opaqueSlotId

/-- No guardian takes over the mailbox or the slot of an old guardian of another index. -/
def NoRouteChangesHands (plan : RotationPlan) : Prop :=
  ∀ new ∈ plan.newRoster, ∀ old ∈ plan.oldRoster, new.guardianIndex ≠ old.guardianIndex →
    new.mailbox ≠ old.mailbox ∧ new.opaqueSlotId ≠ old.opaqueSlotId

/-- An exact one-for-one replacement with fresh routes. -/
structure ExactReplacement (crypto : Crypto) (plan : RotationPlan) (intent : RotationIntent) :
    Prop where
  replaces : ∃ removed added, Replaces crypto plan intent removed added
  unchanged : ∀ old ∈ plan.oldRoster, ∀ new ∈ plan.newRoster,
    new.guardianIndex = old.guardianIndex → new.guardianPublicKey = old.guardianPublicKey ∧
      new.sessionRecipientKey = old.sessionRecipientKey ∧
      new.operatorDomainCommitment = old.operatorDomainCommitment
  distinct : DistinctRoutes plan.newRoster
  addedKey : ∀ new ∈ plan.newRoster, new.guardianIndex ∉ guardianIndices plan.oldRoster →
    ∀ old ∈ plan.oldRoster, new.guardianPublicKey ≠ old.guardianPublicKey
  fresh : FreshRoutes plan

/-- An accepted plan is an exact replacement with fresh routes if and only if no route is handed
from one index to another. -/
theorem exact_replacement_iff
    (h : validateRotationPlanAgainstIntentV3 crypto plan intent predecessor now = .ok planHash) :
    ExactReplacement crypto plan intent ↔ NoRouteChangesHands plan := by
  have haccepted := rostersAccepted h
  constructor
  · intro hexact new hnew old hold _
    exact hexact.fresh new hnew old hold
  · intro hhands
    refine ⟨haccepted.replaces, fun old hold new hnew hindex => ?_, haccepted.distinct,
      haccepted.addedKey, fun new hnew old hold => ?_⟩
    · obtain ⟨hkey, hsession, hdomain, -⟩ := haccepted.kept old hold new hnew hindex
      exact ⟨hkey, hsession, hdomain⟩
    · by_cases hindex : new.guardianIndex = old.guardianIndex
      · obtain ⟨-, -, -, hslot, hmailbox⟩ := haccepted.kept old hold new hnew hindex
        exact ⟨hmailbox, hslot⟩
      · exact hhands new hnew old hold hindex

theorem exact_replacement_sample :
    ExactReplacement Crypto.transparent samplePlan70 (sampleIntent samplePlan70.context) := by
  have haccepted : validateRotationPlanAgainstIntentV3 Crypto.transparent samplePlan70
      (sampleIntent samplePlan70.context) sampleGenesis 7 = .ok samplePlanHash70 := by
    decide +kernel
  refine (exact_replacement_iff haccepted).mpr fun new hnew old hold _ => ?_
  decide +revert

/-- The slot and the mailbox one guardian had, in the hands of another. -/
def sampleHandedRoute (index previous : UInt16) : GuardianRouteV3 :=
  { sampleRoute 2 index with
    opaqueSlotId := (sampleRoute 1 previous).opaqueSlotId
    mailbox := (sampleRoute 1 previous).mailbox }

/-- The first two guardians change places, and the fourth takes that of the third. -/
def sampleHandedPlan : RotationPlan :=
  { samplePlan70 with
    newRoster := [sampleHandedRoute 1 2, sampleHandedRoute 2 1, sampleHandedRoute 4 3]
    newRosterCommitment := 597482403
    dpssQualifiedSetCommitment := 597482403 }

/-- The plan is accepted, and no route in it is fresh. -/
theorem handed_routes_accepted :
    (validateRotationPlanAgainstIntentV3 Crypto.transparent sampleHandedPlan
        (sampleIntent sampleHandedPlan.context) sampleGenesis 7).toOption.isSome ∧
      (∀ new ∈ sampleHandedPlan.newRoster, ∃ old ∈ sampleHandedPlan.oldRoster,
        new.mailbox = old.mailbox ∧ new.opaqueSlotId = old.opaqueSlotId) ∧
      ¬ExactReplacement Crypto.transparent sampleHandedPlan
        (sampleIntent sampleHandedPlan.context) := by
  refine ⟨by decide +kernel, by decide, fun hexact => ?_⟩
  have hfresh := hexact.fresh (sampleHandedRoute 1 2) (by simp [sampleHandedPlan]) (sampleRoute 1 2)
    (List.mem_map_of_mem (by decide))
  exact hfresh.1 rfl

end MasterRecovery
