import Mathlib.Data.List.Permutation
import MasterRecovery.HandoffAcks

/-!
# The public package a refresh starts from (gp-network/src/guardian_runtime.rs)

The package to refresh comes with the request that finishes the refresh. The guardian compares
neither it nor its digest with the commitment of the predecessor capsule, and what it stages,
prepares and acknowledges is the digest of the outcome.
-/

namespace MasterRecovery
open Checks Transcript Wire Act

variable {crypto : Crypto} {vault : Vault} {node : GuardianNode} {call : GuardianCall}
  {plan : RotationPlan} {entry entry' : GuardianRotationEntryV3}
  {request : GuardianRotationRequestV3} {response : Option GuardianRotationResponseV3}
  {log before after : List GuardianExchange} {x : GuardianExchange}
  {provision : GuardianRotationProvisionV3} {inputs : List GuardianInput}

/-! ### The group key of a package -/

/-- What the FROST library is relied on for: the outcome of a refresh has the group key of the
package it is given, and a package that is decoded that of the package that was encoded. -/
structure Frost.KeepsGroup (frost : Frost) : Prop where
  refresh : ∀ secretState round1 round2 package share out,
    frost.refreshDkgShares secretState round1 round2 package share = some out →
      out.2.verifyingKey = package.verifyingKey
  encoded : ∀ package package' encoded, frost.serializePublicKeyPackage package = some encoded →
    frost.publicKeyPackage encoded = some package' → package'.verifyingKey = package.verifyingKey

section Packages

variable {frost : Frost} {encoded expanded committed : Bytes} {package package' : PublicKeyPackage}

theorem decodePublic_found (h : decodePublic frost encoded = .ok package) :
    frost.publicKeyPackage encoded = some package := by
  simp only [decodePublic, bind_unit_eq_ok, okOr_eq_ok] at h
  exact h.2

theorem encodePublic_serialized (h : encodePublic frost package = .ok encoded) :
    frost.serializePublicKeyPackage package = some encoded := by
  simp only [encodePublic, Checks.bind_eq_ok, okOr_eq_ok, Except.ok.injEq] at h
  obtain ⟨found, hfound, _, -, rfl⟩ := h
  exact hfound

/-- Encoding keeps the group key. -/
theorem Frost.KeepsGroup.decoded (h : frost.KeepsGroup)
    (hencoded : encodePublic frost package = .ok encoded)
    (hdecoded : decodePublic frost encoded = .ok package') :
    package'.verifyingKey = package.verifyingKey :=
  h.encoded _ _ _ (encodePublic_serialized hencoded) (decodePublic_found hdecoded)

end Packages

/-! ### What the sessions and the slot tell -/

/-- The request refreshes the package it is handed, for the plan. -/
def GuardianExchange.Refreshes (vault : Vault) (x : GuardianExchange) (plan : RotationPlan)
    (oldPublicPackage publicPackage : Bytes) : Prop :=
  ∃ incoming secretState round1 round2 oldShare share,
    x.request = .rotation (.refreshFinalize plan incoming oldPublicPackage) ∧
      frostRefreshPart3 vault.frost secretState round1 round2 oldPublicPackage oldShare =
        .ok ⟨share, publicPackage⟩

/-- The request works for the plan in a session of it. -/
def GuardianExchange.WorksIn (crypto : Crypto) (x : GuardianExchange) (plan : RotationPlan)
    (s : GuardianRotationSessionV3) : Prop :=
  x.Carries plan ∧ ∃ rotationId : Id32, x.entry.sessions[rotationId]? = some s ∧
    HasHash crypto plan s.planHash

/-- A request of the log has refreshed the package in a session of the plan. -/
def RefreshedBefore (crypto : Crypto) (vault : Vault) (log : List GuardianExchange)
    (plan : RotationPlan) (publicPackage : Bytes) : Prop :=
  ∃ r ∈ log, ∃ s oldPublicPackage, r.WorksIn crypto plan s ∧
    r.Refreshes vault plan oldPublicPackage publicPackage

/-- A request of the log has staged the commitment, of what was refreshed in its session. -/
def CommittedBefore (crypto : Crypto) (vault : Vault) (node : GuardianNode)
    (log : List GuardianExchange) (plan : RotationPlan) (dpssResultCommitment : Id32) : Prop :=
  ∃ y ∈ log, ∃ s, y.WorksIn crypto plan s ∧
    CommitsRefreshed crypto vault node plan s dpssResultCommitment

/-- Where the refreshed states and the commitments of an entry come from. -/
structure SharingLedger (crypto : Crypto) (vault : Vault) (node : GuardianNode)
    (entry : GuardianRotationEntryV3) (log : List GuardianExchange) : Prop where
  refreshed : ∀ (rotationId : Id32) (s : GuardianRotationSessionV3) (encrypted : AeadCiphertext),
    entry.sessions[rotationId]? = some s → s.encryptedLocalState = some encrypted →
      ∃ plan ∈ plansAsked log, HasHash crypto plan s.planHash ∧
        SealsState crypto vault node plan (fun state => ∀ share publicPackage,
          state = .refreshed share publicPackage →
            RefreshedBefore crypto vault log plan publicPackage) encrypted
  staged : ∀ (rotationId : Id32) (s : GuardianRotationSessionV3)
    (staged : StagedGuardianMaterialV3), entry.sessions[rotationId]? = some s →
    s.stagedMaterial = some staged →
      ∃ plan, HasHash crypto plan s.planHash ∧
        CommittedBefore crypto vault node log plan staged.dpssResultCommitment
  prepared : ∀ prepared, entry.provision.epochStore.prepared = some prepared →
    ∃ plan, HasHash crypto plan prepared.planHash ∧ CommittedBefore crypto vault node log plan
      prepared.record.policy.dpssPublicCommitment

section Ledger

theorem RefreshedBefore.append {publicPackage : Bytes}
    (h : RefreshedBefore crypto vault log plan publicPackage) :
    RefreshedBefore crypto vault (log ++ [x]) plan publicPackage :=
  exists_exchange h

theorem CommittedBefore.append {dpssResultCommitment : Id32}
    (h : CommittedBefore crypto vault node log plan dpssResultCommitment) :
    CommittedBefore crypto vault node (log ++ [x]) plan dpssResultCommitment :=
  exists_exchange h

/-- The slot is filled only by a preparation. -/
theorem RotationServed.slot_prepared {prepared : PreparedGuardianEpoch}
    (h : RotationServed crypto vault node call entry request response entry')
    (hfound : entry'.provision.epochStore.prepared = some prepared) :
    entry.provision.epochStore.prepared = some prepared ∨
      ∃ plan root proof commitment s staged record out,
        GuardianPrepared crypto vault node call entry plan root proof commitment s staged record
            out ∧
          entry'.provision.epochStore = out.2 := by
  cases h with
  | refused => exact Or.inl hfound
  | begun => exact Or.inl hfound
  | begunBefore => exact Or.inl hfound
  | worked _ _ hworked => cases hworked <;> exact Or.inl hfound
  | moved hmoved => exact Or.inl (hmoved.provision ▸ hfound)
  | preparedLate hprepared => exact Or.inr ⟨_, _, _, _, _, _, _, _, hprepared, rfl⟩
  | prepared hprepared => exact Or.inr ⟨_, _, _, _, _, _, _, _, hprepared, rfl⟩
  | ended _ _ _ hstore =>
    obtain ⟨-, -, rfl⟩ := GuardianEpochStore.abortPrepared_eq_ok.mp hstore
    cases hfound
  | activationFailed _ hstore =>
    unfold activateStore at hstore
    split at hstore
    · rcases GuardianEpochStore.activateSuccessor_eq_error hstore with rfl | ⟨-, rfl⟩
      · exact Or.inl hfound
      · cases hfound
    · rcases GuardianEpochStore.observeReplacementActivation_eq_error hstore with rfl | ⟨-, rfl⟩
      · exact Or.inl hfound
      · exact Or.inl hfound
  | activated _ hstore =>
    unfold activateStore at hstore
    split at hstore
    · obtain ⟨_, _, -, -, -, rfl⟩ := GuardianEpochStore.activateSuccessor_eq_ok hstore
      cases hfound
    · obtain ⟨_, _, -, -, -, -, rfl⟩ :=
        GuardianEpochStore.observeReplacementActivation_eq_ok hstore
      exact Or.inl hfound
  | retired _ hstore =>
    obtain ⟨_, -, -, -, rfl⟩ := GuardianEpochStore.retireEpoch_eq_ok hstore
    exact Or.inl hfound

/-- The slot is filled only from the staged material of an open session. -/
theorem RotationServed.slot_filled {prepared : PreparedGuardianEpoch}
    (h : RotationServed crypto vault node call entry request response entry')
    (hfound : entry'.provision.epochStore.prepared = some prepared) :
    entry.provision.epochStore.prepared = some prepared ∨
      ∃ plan s staged, openSession crypto entry plan = .ok s ∧ s.stagedMaterial = some staged ∧
        prepared.planHash = s.planHash ∧
        prepared.record.policy.dpssPublicCommitment = staged.dpssResultCommitment := by
  rcases h.slot_prepared hfound with hkept |
    ⟨plan, root, proof, commitment, s, staged, record, out, hprepared, hout⟩
  · exact Or.inl hkept
  · obtain ⟨-, hstore⟩ := GuardianEpochStore.prepareSuccessor_eq_ok hprepared.store
    obtain ⟨route, -, hrecord⟩ := hprepared.drafted
    have hdrafted : RecordDrafted plan route staged root proof commitment record.1 :=
      preparedRecord_eq_ok hrecord
    rw [hout, hstore] at hfound
    cases hfound
    refine Or.inr ⟨plan, s, staged, hprepared.session, hprepared.material, rfl, ?_⟩
    rw [hdrafted.drafted]
    exact hdrafted.commitment.trans hdrafted.result.symm

/-- A session carried over a request. -/
theorem SharingLedger.carried {answer : Option GuardianResponse}
    {s s' : GuardianRotationSessionV3} {rotationId : Id32}
    (h : SharingLedger crypto vault node entry log)
    (hbefore : entry.sessions[rotationId]? = some s)
    (hcarried : SessionCarried crypto vault node call entry request s s') :
    (∀ encrypted, s'.encryptedLocalState = some encrypted →
      ∃ plan ∈ plansAsked (log ++ [⟨entry, call, .rotation request, answer⟩]),
        HasHash crypto plan s'.planHash ∧
        SealsState crypto vault node plan (fun state => ∀ share publicPackage,
          state = .refreshed share publicPackage → RefreshedBefore crypto vault
            (log ++ [⟨entry, call, .rotation request, answer⟩]) plan publicPackage) encrypted) ∧
    ∀ staged, s'.stagedMaterial = some staged → ∃ plan, HasHash crypto plan s'.planHash ∧
      CommittedBefore crypto vault node (log ++ [⟨entry, call, .rotation request, answer⟩]) plan
        staged.dpssResultCommitment := by
  have hnew : (⟨entry, call, .rotation request, answer⟩ : GuardianExchange) ∈
      log ++ [⟨entry, call, .rotation request, answer⟩] :=
    List.mem_append_right _ (List.mem_singleton_self _)
  have hworks (plan : RotationPlan) (hplan : request.plan = some plan)
      (hhash : HasHash crypto plan s.planHash) :
      (⟨entry, call, .rotation request, answer⟩ : GuardianExchange).WorksIn crypto plan s :=
    ⟨⟨request, rfl, hplan⟩, rotationId, hbefore, hhash⟩
  rw [hcarried.planHash]
  constructor
  · intro encrypted hencrypted
    rcases hcarried.localState with hsame | hsealed
    · obtain ⟨plan, hasked, hhash, hseals⟩ := h.refreshed _ _ _ hbefore (hsame ▸ hencrypted)
      refine ⟨plan, plansAsked_mono (List.subset_append_left _ _) hasked, hhash, ?_⟩
      exact hseals.mono fun state hstate share publicPackage heq => (hstate _ _ heq).append
    · obtain ⟨plan, hplan, hhash, hseals⟩ := hsealed encrypted hencrypted
      refine ⟨plan, ⟨_, hnew, request, rfl, hplan⟩, hhash, ?_⟩
      refine hseals.mono fun state hstate share publicPackage heq => ?_
      obtain ⟨incoming, oldPublicPackage, secretState, round1, round2, oldShare, hrequest, hpart⟩ :=
        hstate.2 share publicPackage heq
      exact ⟨_, hnew, s, oldPublicPackage, hworks plan hplan hhash, incoming, secretState, round1,
        round2, oldShare, share, congrArg GuardianRequest.rotation hrequest, hpart⟩
  · intro staged hstaged
    rcases hcarried.staged with hsame | hmade
    · obtain ⟨plan, hhash, hcommitted⟩ := h.staged _ _ _ hbefore (hsame ▸ hstaged)
      exact ⟨plan, hhash, hcommitted.append⟩
    · obtain ⟨plan, hplan, hhash, -, hcommits⟩ := hmade staged hstaged
      exact ⟨plan, hhash, _, hnew, s, hworks plan hplan hhash, hcommits⟩

theorem SharingLedger.rotation (h : SharingLedger crypto vault node entry log)
    (hserved : RotationServed crypto vault node call entry request response entry') :
    SharingLedger crypto vault node entry'
      (log ++ [⟨entry, call, .rotation request, response.map .rotation⟩]) where
  refreshed rotationId s' encrypted hfound hencrypted := by
    rcases hserved.session hfound with ⟨s, hbefore, hcarried⟩ | ⟨plan, certificate, notBefore, rfl,
      rfl, rfl, hbegun⟩
    · exact (h.carried hbefore hcarried).1 encrypted hencrypted
    · rw [hbegun.unsealed] at hencrypted
      cases hencrypted
  staged rotationId s' staged hfound hstaged := by
    rcases hserved.session hfound with ⟨s, hbefore, hcarried⟩ | ⟨plan, certificate, notBefore, rfl,
      rfl, rfl, hbegun⟩
    · exact (h.carried hbefore hcarried).2 staged hstaged
    · rw [hbegun.unstaged] at hstaged
      cases hstaged
  prepared prepared hfound := by
    rcases hserved.slot_filled hfound with hold | ⟨plan, s, staged, hopen, hstaged, hhash, hresult⟩
    · obtain ⟨plan, hhash, hcommitted⟩ := h.prepared prepared hold
      exact ⟨plan, hhash, hcommitted.append⟩
    · obtain ⟨plan, hhash', hcommitted⟩ :=
        h.staged _ _ _ (openSession_eq_ok hopen).2.1 hstaged
      rw [hhash, hresult]
      exact ⟨plan, hhash', hcommitted.append⟩

/-- A request that touches neither the sessions nor the slot. -/
theorem SharingLedger.unmoved (h : SharingLedger crypto vault node entry log)
    (hsessions : entry'.sessions = entry.sessions)
    (hslot : entry'.provision.epochStore.prepared = entry.provision.epochStore.prepared) :
    SharingLedger crypto vault node entry' (log ++ [x]) where
  refreshed rotationId s encrypted hfound hencrypted := by
    rw [hsessions] at hfound
    obtain ⟨plan, hasked, hhash, hseals⟩ := h.refreshed _ _ _ hfound hencrypted
    refine ⟨plan, plansAsked_mono (List.subset_append_left _ _) hasked, hhash, ?_⟩
    exact hseals.mono fun state hstate share publicPackage heq => (hstate _ _ heq).append
  staged rotationId s staged hfound hstaged := by
    rw [hsessions] at hfound
    obtain ⟨plan, hhash, hcommitted⟩ := h.staged _ _ _ hfound hstaged
    exact ⟨plan, hhash, hcommitted.append⟩
  prepared prepared hfound := by
    rw [hslot] at hfound
    obtain ⟨plan, hhash, hcommitted⟩ := h.prepared prepared hfound
    exact ⟨plan, hhash, hcommitted.append⟩

end Ledger

/-! ### Runs -/

section Runs

variable (hgroup : vault.frost.KeepsGroup)
  (hfree : crypto.CollisionFree (planTranscripts (plansAsked
    (guardianLog crypto vault node provision inputs))))
  (hjournal : JournalAuthentic crypto vault node.identitySeed (localContexts (plansAsked
    (guardianLog crypto vault node provision inputs))))
  (hstates : vault.StatesRoundTrip)

end Runs

section Sample

variable {oldPublicPackage : Bytes} {y : GuardianExchange}

end Sample

section Handing

variable {oldPublicPackage oldPublicPackage' : Bytes}
  (hsame : ∀ secretState round1 round2 oldShare,
    frostRefreshPart3 vault.frost secretState round1 round2 oldPublicPackage oldShare =
      frostRefreshPart3 vault.frost secretState round1 round2 oldPublicPackage' oldShare)
include hsame

end Handing

end MasterRecovery
