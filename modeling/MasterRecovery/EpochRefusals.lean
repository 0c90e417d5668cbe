import MasterRecovery.EpochRequests

/-!
# Refused calls across epochs (gp-core/src/rotation.rs)

Refusals leave the machine as it was, but for a Begin whose nonce was seen: by then its id has been
put among the seen ones, and no request can be begun under it any more.
-/

namespace MasterRecovery

namespace EpochRecoveryMachine

variable {machine machine' : EpochRecoveryMachine} {sent : EpochRecoveryCall} {value : Option UInt64}
  {error : EpochRecoveryError}

/-- A Begin that passes every check but the one for its nonce. -/
def BurnsId (machine : EpochRecoveryMachine) : EpochRecoveryCall → Prop
  | .begin request _ wallNow _ _ certificateValid =>
    machine.Presentable request wallNow certificateValid ∧ request.nonce ∈ machine.seenNonces
  | _ => False

/-- A release, the one call whose refusal notes something: that the request is expired. -/
def IsRelease : EpochRecoveryCall → Prop
  | .authorizeRelease _ => True
  | _ => False

theorem BurnsId.refused (h : BurnsId machine sent) :
    ¬IsRelease sent ∧ ∃ error machine', call sent machine = .error error machine' := by
  cases sent with
  | begin request requestDigest wallNow monotonicNow delaySecs certificateValid =>
    exact ⟨fun hrelease => hrelease, .replay, _, Machine.map_error (begin_replayed h.1 h.2)⟩
  | _ => exact h.elim

/-- A refused call that is no release changes the machine exactly when it burns an id. -/
theorem refused_unchanged_iff (h : call sent machine = .error error machine')
    (hsent : ¬IsRelease sent) : machine' = machine ↔ ¬BurnsId machine sent := by
  cases sent with
  | begin request requestDigest wallNow monotonicNow delaySecs certificateValid =>
    have hcall := Machine.map_eq_error h
    by_cases hpresentable : machine.Presentable request wallNow certificateValid
    · by_cases hnonce : request.nonce ∈ machine.seenNonces
      · cases hcall.symm.trans (begin_replayed hpresentable hnonce)
        refine iff_of_false (fun hsame => ?_) (not_not.mpr ⟨hpresentable, hnonce⟩)
        have hids := congrArg (·.seenRequestIds) hsame
        exact hpresentable.newId (Finset.insert_eq_self.mp hids)
      · cases hcall.symm.trans (begin_admitted hpresentable hnonce)
    · obtain ⟨refusal, herror⟩ := begin_refused hpresentable requestDigest monotonicNow delaySecs
      cases hcall.symm.trans herror
      exact iff_of_true rfl fun hburns => hpresentable hburns.1
  | activateSuccessor =>
    exact iff_of_true (activateSuccessor_eq_error (Machine.map_eq_error h)) (fun hburns => hburns)
  | authorizeRelease => exact absurd trivial hsent
  | cancel => exact iff_of_true (cancel_eq_error (Machine.map_eq_error h)) (fun hburns => hburns)
  | retireDrainingEpoch =>
    exact iff_of_true (retireDrainingEpoch_eq_error (Machine.map_eq_error h)) (fun hburns => hburns)

/-! ### What is seen -/

/-- Every seen id and every seen nonce is that of a request begun. -/
structure SeenBegun (machine : EpochRecoveryMachine) (log : List EpochRecoveryCall) : Prop where
  ids : ∀ id ∈ machine.seenRequestIds,
    ∃ request requestDigest wallNow monotonicNow delaySecs certificateValid,
      .begin request requestDigest wallNow monotonicNow delaySecs certificateValid ∈ log ∧
        request.requestId = id
  nonces : ∀ nonce ∈ machine.seenNonces,
    ∃ request requestDigest wallNow monotonicNow delaySecs certificateValid,
      .begin request requestDigest wallNow monotonicNow delaySecs certificateValid ∈ log ∧
        request.nonce = nonce

section SeenBegun

variable {log : List EpochRecoveryCall}

theorem SeenBegun.new (initial : ConfigRef) : SeenBegun (new initial) [] where
  ids id hid := by simp [EpochRecoveryMachine.new] at hid
  nonces nonce hnonce := by simp [EpochRecoveryMachine.new] at hnonce

/-- Nothing new is seen. -/
theorem SeenBegun.later (h : SeenBegun machine log)
    (hids : machine'.seenRequestIds = machine.seenRequestIds)
    (hnonces : machine'.seenNonces = machine.seenNonces) (more : List EpochRecoveryCall) :
    SeenBegun machine' (log ++ more) where
  ids id hid := by
    obtain ⟨request, digest, wall, mono, delay, valid, hmem, hsame⟩ := h.ids id (hids ▸ hid)
    exact ⟨request, digest, wall, mono, delay, valid, List.mem_append_left _ hmem, hsame⟩
  nonces nonce hnonce := by
    obtain ⟨request, digest, wall, mono, delay, valid, hmem, hsame⟩ :=
      h.nonces nonce (hnonces ▸ hnonce)
    exact ⟨request, digest, wall, mono, delay, valid, List.mem_append_left _ hmem, hsame⟩

theorem SeenBegun.accepted (h : SeenBegun machine log) (haccepts : Accepts machine sent machine') :
    SeenBegun machine' (log ++ [sent]) := by
  have hold := h.later rfl rfl [sent]
  cases haccepts with
  | begun =>
    refine ⟨fun id hid => ?_, fun nonce hnonce => ?_⟩
    · rcases Finset.mem_insert.mp hid with rfl | hbefore
      · exact ⟨_, _, _, _, _, _, List.mem_concat_self, rfl⟩
      · exact hold.ids id hbefore
    · rcases Finset.mem_insert.mp hnonce with rfl | hbefore
      · exact ⟨_, _, _, _, _, _, List.mem_concat_self, rfl⟩
      · exact hold.nonces nonce hbefore
  | _ => exact ⟨hold.ids, hold.nonces⟩

theorem SeenBegun.refused (h : SeenBegun machine log) (hcall : call sent machine = .error error machine')
    (hkept : ¬BurnsId machine sent) : SeenBegun machine' log := by
  cases sent with
  | authorizeRelease authorization =>
    rcases authorizeRelease_refused (Machine.map_eq_error hcall) with ⟨-, rfl⟩ |
      ⟨-, pending, -, -, -, rfl⟩
    · exact h
    · exact ⟨h.ids, h.nonces⟩
  | _ =>
    rw [(refused_unchanged_iff hcall (fun hrelease => hrelease)).mpr hkept]
    exact h

theorem SeenBegun.step (h : SeenBegun machine log) (hkept : ¬BurnsId machine sent) :
    SeenBegun (calls.step machine sent).1 (log ++ (calls.step machine sent).2.toList) := by
  cases hcall : call sent machine with
  | ok value machine' =>
    rw [calls_ok hcall]
    exact h.accepted (call_eq_ok hcall)
  | error error machine' =>
    rw [calls_error hcall]
    simpa using h.refused hcall hkept

end SeenBegun

/-- Refused calls, releases apart, leave the machine as it was, and a Begin that is valid now, under
an id and a nonce no request was begun under, is accepted. -/
structure RefusesCleanly (initial : ConfigRef) (sent : List EpochRecoveryCall) : Prop where
  unchanged : ∀ earlier now later, sent = earlier ++ now :: later → ¬IsRelease now →
    (calls.step (calls.run (new initial) earlier) now).2 = none →
      (calls.step (calls.run (new initial) earlier) now).1 = calls.run (new initial) earlier
  usable : ∀ earlier later, sent = earlier ++ later →
    ∀ request requestDigest wallNow monotonicNow delaySecs,
      request.configRef = (calls.run (new initial) earlier).active →
      request.requestedAt ≤ wallNow → wallNow < request.expiry →
      (calls.run (new initial) earlier).cancelled[request.requestId]? = none →
      (∀ other digest wall mono delay valid,
        .begin other digest wall mono delay valid ∈ calls.outputs (new initial) earlier →
          other.requestId ≠ request.requestId ∧ other.nonce ≠ request.nonce) →
        ∃ machine', begin request requestDigest wallNow monotonicNow delaySecs true
          (calls.run (new initial) earlier) =
            .ok (saturatingAdd monotonicNow delaySecs) machine'

end EpochRecoveryMachine

open EpochRecoveryMachine

/-- Refusals are atomic exactly when no Begin of the run burns its id. -/
theorem refusals_atomic_iff (initial : ConfigRef) (sent : List EpochRecoveryCall) :
    RefusesCleanly initial sent ↔
      calls.Along (fun machine _ now => ¬BurnsId machine now) (new initial) [] sent := by
  constructor
  · intro hclean
    rw [Machine.along_iff_split]
    intro earlier now later hsplit hburns
    obtain ⟨hrelease, error, machine', hcall⟩ := hburns.refused
    have hstep := calls_error hcall
    have hsame := hclean.unchanged earlier now later hsplit hrelease (by rw [hstep])
    rw [hstep] at hsame
    exact (refused_unchanged_iff hcall hrelease).mp hsame hburns
  · intro halong
    refine ⟨fun earlier now later hsplit hrelease hrefused => ?_,
      fun earlier later hsplit request requestDigest wallNow monotonicNow delaySecs hactive
        hrequested hexpiry hlive hfresh => ?_⟩
    · rw [Machine.along_iff_split] at halong
      have hkept := halong earlier now later hsplit
      cases hcall : call now (calls.run (new initial) earlier) with
      | ok value machine' => simp [calls_ok hcall] at hrefused
      | error error machine' =>
        rw [calls_error hcall]
        exact (refused_unchanged_iff hcall hrelease).mpr hkept
    · rw [hsplit, Machine.along_append] at halong
      have hseen := calls.run_invariant (SeenBegun.new initial)
        (fun _ _ _ hseen hkept => hseen.step hkept) halong.1
      have hnewId : request.requestId ∉ (calls.run (new initial) earlier).seenRequestIds := by
        intro hid
        obtain ⟨other, digest, wall, mono, delay, valid, hmem, hsame⟩ := hseen.ids _ hid
        exact (hfresh other digest wall mono delay valid hmem).1 hsame
      have hnewNonce : request.nonce ∉ (calls.run (new initial) earlier).seenNonces := by
        intro hnonce
        obtain ⟨other, digest, wall, mono, delay, valid, hmem, hsame⟩ := hseen.nonces _ hnonce
        exact (hfresh other digest wall mono delay valid hmem).2 hsame
      exact ⟨_, begin_admitted ⟨rfl, hactive, hrequested, hexpiry, hlive, hnewId⟩ hnewNonce⟩

/-- A fresh id comes with a nonce that was seen, and then with a nonce of its own. -/
def sampleBurning : List EpochRecoveryCall :=
  let active : ConfigRef := ⟨1, 1, 1, 1, 1⟩
  [.begin ⟨3, active, 3, [4], 10, 5, 200⟩ 6 10 100 20 true,
    .begin ⟨3, active, 4, [4], 10, 5, 200⟩ 7 10 100 20 true,
    .begin ⟨3, active, 4, [4], 10, 6, 200⟩ 8 10 100 20 true]

/-- The refused Begin leaves its id among the seen ones, and the next one is refused for it. -/
theorem refusal_burns_id :
    ¬RefusesCleanly ⟨1, 1, 1, 1, 1⟩ sampleBurning ∧
      calls.outputs (new ⟨1, 1, 1, 1, 1⟩) sampleBurning = sampleBurning.take 1 := by
  refine ⟨fun hclean => ?_, by decide +kernel⟩
  have hsame := hclean.unchanged (sampleBurning.take 1) (sampleBurning.get ⟨1, by decide⟩)
    (sampleBurning.drop 2) rfl (fun hrelease => hrelease) (by decide +kernel)
  exact absurd (congrArg (·.seenRequestIds) hsame) (by decide +kernel)

end MasterRecovery
