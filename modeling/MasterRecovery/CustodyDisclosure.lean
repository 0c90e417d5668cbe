import MasterRecovery.RecoveryExclusion

/-!
# What a guardian discloses of its old share

A sigma is summed and a refresh dealt without a certificate in hand: what authorizes them is in
the session and in the state sealed there. The invariant says what an open session and a sealed
dealing tell about the requests before.
-/

namespace MasterRecovery
open Checks Transcript Wire Act

variable {crypto : Crypto} {vault : Vault} {node : GuardianNode} {call : GuardianCall}
  {plan : RotationPlan} {entry entry' : GuardianRotationEntryV3}
  {provision : GuardianRotationProvisionV3} {inputs : List GuardianInput}
  {log before after : List GuardianExchange} {x : GuardianExchange}

/-! ### Exchanges -/

namespace GuardianExchange

/-- The request is about the rotation of the plan. -/
def Carries (x : GuardianExchange) (plan : RotationPlan) : Prop :=
  ∃ request, x.request = .rotation request ∧ request.plan = some plan

/-- An accepted Begin of the plan. -/
def BeginsRotation (x : GuardianExchange) (plan : RotationPlan) : Prop :=
  ∃ certificate notBefore, x.request = .rotation (.begin plan certificate) ∧
    x.response = some (.rotation (.beginAccepted notBefore))

/-- A request with a Release certificate of the plan that was verified. -/
def Releases (crypto : Crypto) (x : GuardianExchange) (plan : RotationPlan) : Prop :=
  ∃ request, x.request = .rotation request ∧
    VerifiesRelease crypto x.call x.entry request plan

/-- An accepted Cancel, Abort or Activate of a plan. -/
def Closes (x : GuardianExchange) (plan : RotationPlan) : Prop :=
  ∃ request answer, x.request = .rotation request ∧ x.response = some (.rotation answer) ∧
    request.Closes plan

end GuardianExchange

/-- The plans of the rotation requests. -/
def plansAsked (log : List GuardianExchange) : Set RotationPlan := {plan | ∃ x ∈ log, x.Carries plan}

theorem plansAsked_mono {log' : List GuardianExchange} (h : log ⊆ log') :
    plansAsked log ⊆ plansAsked log' := by
  rintro plan ⟨x, hx, hcarries⟩
  exact ⟨x, h hx, hcarries⟩

/-! ### What is assumed of the local journal -/

/-- The contexts local states of the plans are sealed under. -/
def localContexts (plans : Set RotationPlan) : Set Bytes :=
  {context | ∃ plan ∈ plans, ∃ guardianIndex, localJournalContext plan guardianIndex = .ok context}

/-- What was sealed under one of the contexts opens under one of them to the same, if at all. -/
def JournalAuthentic (crypto : Crypto) (vault : Vault) (seed : Id32) (contexts : Set Bytes) : Prop :=
  ∀ nonce plaintext context context' encrypted opened, context ∈ contexts → context' ∈ contexts →
    sealLocalRotationJournal crypto vault seed nonce plaintext context = .ok encrypted →
    openLocalRotationJournal crypto vault seed encrypted context' = .ok opened → opened = plaintext

/-- A local state that is read back is the one that was written. -/
def Vault.StatesRoundTrip (vault : Vault) : Prop :=
  ∀ state state' encoded, vault.encodeState state = .ok encoded →
    vault.decodeState encoded = .ok state' → state' = state

theorem openLocalState_eq_ok {s : GuardianRotationSessionV3} {guardianIndex : UInt16}
    {state : LocalDpssState}
    (h : openLocalState crypto vault node s plan guardianIndex = .ok state) :
    ∃ encrypted context plaintext, s.encryptedLocalState = some encrypted ∧
      localJournalContext plan guardianIndex = .ok context ∧
      openLocalRotationJournal crypto vault node.identitySeed encrypted context = .ok plaintext ∧
      vault.decodeState plaintext = .ok state := by
  simp only [openLocalState, Checks.bind_eq_ok, okOr_eq_ok, crypt_eq_ok] at h
  obtain ⟨encrypted, hencrypted, context, hcontext, plaintext, hopened, hstate⟩ := h
  exact ⟨encrypted, context, plaintext, hencrypted, hcontext, hopened, hstate⟩

/-- What a state was sealed with is known of it when it is opened. -/
theorem SealsState.opened {plans : Set RotationPlan} {P : LocalDpssState → Prop}
    {encrypted : AeadCiphertext} {sealer : RotationPlan} {s : GuardianRotationSessionV3}
    {guardianIndex : UInt16} {state : LocalDpssState}
    (hjournal : JournalAuthentic crypto vault node.identitySeed (localContexts plans))
    (hstates : vault.StatesRoundTrip) (hsealer : sealer ∈ plans) (hplan : plan ∈ plans)
    (hseals : SealsState crypto vault node sealer P encrypted)
    (hfound : s.encryptedLocalState = some encrypted)
    (hopened : openLocalState crypto vault node s plan guardianIndex = .ok state) : P state := by
  obtain ⟨found, context, plaintext, hsame, hcontext, hopens, hdecoded⟩ :=
    openLocalState_eq_ok hopened
  rw [hfound] at hsame
  cases hsame
  obtain ⟨nonce, sealedIndex, original, hsealed, hP⟩ := hseals
  simp only [sealLocalState, Checks.bind_eq_ok, crypt_eq_ok] at hsealed
  obtain ⟨encoded, hencoded, sealedContext, hsealedContext, hsealed⟩ := hsealed
  have hplaintext : plaintext = encoded :=
    hjournal nonce encoded sealedContext context encrypted plaintext
      ⟨sealer, hsealer, sealedIndex, hsealedContext⟩ ⟨plan, hplan, guardianIndex, hcontext⟩
      hsealed hopens
  subst hplaintext
  rw [hstates original state _ hencoded hdecoded]
  exact hP

/-! ### The invariant -/

/-- The exchange has begun the session under the plan. -/
def BegunAt (crypto : Crypto) (node : GuardianNode) (b : GuardianExchange) (plan : RotationPlan)
    (s : GuardianRotationSessionV3) : Prop :=
  b.BeginsRotation plan ∧ HasHash crypto plan s.planHash ∧ b.call.bootId = s.bootId ∧
    s.notBeforeMonotonic = saturatingAdd b.call.monotonicNow (rotationDelay node plan)

/-- Two states of one session: begun under one plan, in one boot, with one delay. -/
structure SameSession (s s' : GuardianRotationSessionV3) : Prop where
  planHash : s'.planHash = s.planHash
  notBefore : s'.notBeforeMonotonic = s.notBeforeMonotonic
  bootId : s'.bootId = s.bootId

theorem SameSession.trans {s s' s'' : GuardianRotationSessionV3} (h : SameSession s s')
    (h' : SameSession s' s'') : SameSession s s'' :=
  ⟨h'.planHash.trans h.planHash, h'.notBefore.trans h.notBefore, h'.bootId.trans h.bootId⟩

/-- The request has found the session open under its rotation id. -/
def GuardianExchange.FindsSession (x : GuardianExchange) (rotationId : Id32)
    (s : GuardianRotationSessionV3) : Prop :=
  ∃ t, x.entry.sessions[rotationId]? = some t ∧ SameSession t s

/-- A dealing was sealed under a verified Release, in the boot of the session, after its delay. -/
def ReleasedBefore (crypto : Crypto) (log : List GuardianExchange) (rotationId : Id32)
    (plan : RotationPlan) (s : GuardianRotationSessionV3) : Prop :=
  ∃ y ∈ log, y.Releases crypto plan ∧ y.FindsSession rotationId s ∧ y.call.bootId = s.bootId ∧
    s.notBeforeMonotonic ≤ y.call.monotonicNow

/-- What the sessions and the tombstones of an entry tell about the run before. -/
structure DisclosureLedger (crypto : Crypto) (vault : Vault) (node : GuardianNode)
    (entry : GuardianRotationEntryV3) (log : List GuardianExchange) : Prop where
  begun : ∀ (rotationId : Id32) (s : GuardianRotationSessionV3),
    entry.sessions[rotationId]? = some s →
      rotationId ∉ entry.provision.epochStore.rotationTombstones ∧
      ∃ b ∈ log, ∃ plan, plan.context.rotationId = rotationId ∧ BegunAt crypto node b plan s
  dealt : ∀ (rotationId : Id32) (s : GuardianRotationSessionV3) (encrypted : AeadCiphertext),
    entry.sessions[rotationId]? = some s → s.encryptedLocalState = some encrypted →
      ∃ plan ∈ plansAsked log, HasHash crypto plan s.planHash ∧
        SealsState crypto vault node plan
          (fun state => state.IsDealer → ReleasedBefore crypto log rotationId plan s) encrypted
  closed : ∀ y ∈ log, ∀ plan, y.Closes plan →
    plan.context.rotationId ∈ entry.provision.epochStore.rotationTombstones

theorem ReleasedBefore.mono {log' : List GuardianExchange} {rotationId : Id32}
    {s s' : GuardianRotationSessionV3} (h : ReleasedBefore crypto log rotationId plan s)
    (hlog : log ⊆ log') (hsame : SameSession s s') :
    ReleasedBefore crypto log' rotationId plan s' := by
  obtain ⟨y, hy, hreleases, ⟨t, hfound, ht⟩, hboot, hdue⟩ := h
  exact ⟨y, hlog hy, hreleases, ⟨t, hfound, ht.trans hsame⟩, hboot.trans hsame.bootId.symm,
    hsame.notBefore ▸ hdue⟩

theorem SessionCarried.same {request : GuardianRotationRequestV3}
    {s s' : GuardianRotationSessionV3}
    (h : SessionCarried crypto vault node call entry request s s') : SameSession s s' :=
  ⟨h.planHash, h.notBefore, h.bootId⟩

/-- The Begin of a session is the Begin of all its states. -/
theorem BegunAt.same {b : GuardianExchange} {s s' : GuardianRotationSessionV3}
    (h : BegunAt crypto node b plan s) (hsame : SameSession s s') :
    BegunAt crypto node b plan s' := by
  obtain ⟨hbegins, hhash, hboot, hnotBefore⟩ := h
  exact ⟨hbegins, hsame.planHash ▸ hhash, hboot.trans hsame.bootId.symm,
    hsame.notBefore.trans hnotBefore⟩

/-- A session carried over a request. -/
theorem DisclosureLedger.carried {request : GuardianRotationRequestV3}
    {response : Option GuardianResponse} {s s' : GuardianRotationSessionV3} {rotationId : Id32}
    (h : DisclosureLedger crypto vault node entry log)
    (hbefore : entry.sessions[rotationId]? = some s)
    (hcarried : SessionCarried crypto vault node call entry request s s') :
    (∃ b ∈ log ++ [⟨entry, call, .rotation request, response⟩], ∃ plan,
      plan.context.rotationId = rotationId ∧ BegunAt crypto node b plan s') ∧
    ∀ encrypted, s'.encryptedLocalState = some encrypted →
      ∃ plan ∈ plansAsked (log ++ [⟨entry, call, .rotation request, response⟩]),
        HasHash crypto plan s'.planHash ∧
        SealsState crypto vault node plan (fun state => state.IsDealer →
          ReleasedBefore crypto (log ++ [⟨entry, call, .rotation request, response⟩]) rotationId
            plan s') encrypted := by
  have hlog : log ⊆ log ++ [⟨entry, call, .rotation request, response⟩] :=
    List.subset_append_left _ _
  obtain ⟨b, hb, plan, hid, hbegun⟩ := (h.begun _ _ hbefore).2
  refine ⟨⟨b, hlog hb, plan, hid, hbegun.same hcarried.same⟩, ?_⟩
  intro encrypted hencrypted
  rw [hcarried.planHash]
  rcases hcarried.localState with hsame | hnew
  · obtain ⟨sealer, hasked, hhash', hseals⟩ := h.dealt _ _ _ hbefore (hsame ▸ hencrypted)
    refine ⟨sealer, plansAsked_mono hlog hasked, hhash', hseals.mono fun state hstate hdealer => ?_⟩
    exact (hstate hdealer).mono hlog hcarried.same
  · obtain ⟨sealer, hplan, hhash', hseals⟩ := hnew encrypted hencrypted
    refine ⟨sealer, ⟨_, List.mem_append_right _ (List.mem_singleton_self _), request, rfl, hplan⟩,
      hhash', hseals.mono fun state hstate hdealer => ?_⟩
    obtain ⟨hverified, hsameBoot, hdue⟩ := hstate.1 hdealer
    exact ⟨_, List.mem_append_right _ (List.mem_singleton_self _), ⟨request, rfl, hverified⟩,
      ⟨s, hbefore, hcarried.same⟩, hsameBoot.symm.trans hcarried.bootId.symm,
      hcarried.notBefore ▸ hdue⟩

/-- A tombstone is never taken away, and a rotation that gets one has no session. -/
theorem RotationServed.tombstones_mono {request : GuardianRotationRequestV3}
    {response : Option GuardianRotationResponseV3} {rotationId : Id32}
    (h : RotationServed crypto vault node call entry request response entry') :
    (rotationId ∈ entry.provision.epochStore.rotationTombstones →
      rotationId ∈ entry'.provision.epochStore.rotationTombstones) ∧
    ∀ s, entry'.sessions[rotationId]? = some s →
      rotationId ∉ entry.provision.epochStore.rotationTombstones →
      rotationId ∉ entry'.provision.epochStore.rotationTombstones := by
  simp only [← Std.TreeMap.isSome_getElem?_iff_mem]
  rcases h.tombstone rotationId with hsame | ⟨hnone, tombstone, hlaid, -⟩
  · rw [hsame]
    exact ⟨id, fun _ _ hfree => hfree⟩
  · refine ⟨fun _ => by rw [hlaid]; rfl, fun s hfound => ?_⟩
    rw [hnone] at hfound
    cases hfound

theorem DisclosureLedger.rotation {request : GuardianRotationRequestV3}
    {response : Option GuardianRotationResponseV3}
    (h : DisclosureLedger crypto vault node entry log)
    (hserved : RotationServed crypto vault node call entry request response entry') :
    DisclosureLedger crypto vault node entry'
      (log ++ [⟨entry, call, .rotation request, response.map .rotation⟩]) where
  begun rotationId s' hfound := by
    rcases hserved.session hfound with ⟨s, hbefore, hcarried⟩ | ⟨plan, certificate, notBefore, rfl,
      rfl, rfl, hbegun⟩
    · have hlive := hserved.tombstones_mono.2 s' hfound (h.begun _ _ hbefore).1
      exact ⟨hlive, (h.carried hbefore hcarried).1⟩
    · refine ⟨hserved.tombstones_mono.2 s' hfound hbegun.live, _,
        List.mem_append_right _ (List.mem_singleton_self _), plan, rfl, ?_⟩
      exact ⟨⟨certificate, notBefore, rfl, rfl⟩, hbegun.hash, hbegun.bootId.symm, hbegun.notBefore⟩
  dealt rotationId s' encrypted hfound hencrypted := by
    rcases hserved.session hfound with ⟨s, hbefore, hcarried⟩ | ⟨plan, certificate, notBefore, rfl,
      rfl, rfl, hbegun⟩
    · exact (h.carried hbefore hcarried).2 encrypted hencrypted
    · rw [hbegun.unsealed] at hencrypted
      cases hencrypted
  closed := by
    refine forall_exchange (fun y hy plan hcloses => ?_) ?_
    · exact hserved.tombstones_mono.1 (h.closed y hy plan hcloses)
    · rintro plan ⟨request', answer, hrequest, hresponse, hcloses⟩
      cases hrequest
      obtain ⟨answer', rfl, -⟩ := Option.map_eq_some_iff.mp hresponse
      exact hserved.closed hcloses

theorem DisclosureLedger.unmoved (h : DisclosureLedger crypto vault node entry log)
    (hsessions : entry'.sessions = entry.sessions)
    (htombstones : entry'.provision.epochStore.rotationTombstones =
      entry.provision.epochStore.rotationTombstones)
    (hcloses : ∀ plan, ¬x.Closes plan) :
    DisclosureLedger crypto vault node entry' (log ++ [x]) where
  begun rotationId s hfound := by
    rw [hsessions] at hfound
    obtain ⟨hlive, hbegun⟩ := h.begun _ _ hfound
    exact ⟨htombstones ▸ hlive, exists_exchange hbegun⟩
  dealt rotationId s encrypted hfound hencrypted := by
    rw [hsessions] at hfound
    obtain ⟨plan, hasked, hhash, hseals⟩ := h.dealt _ _ _ hfound hencrypted
    refine ⟨plan, plansAsked_mono (List.subset_append_left _ _) hasked, hhash,
      hseals.mono fun state hstate hdealer => ?_⟩
    exact (hstate hdealer).mono (List.subset_append_left _ _) ⟨rfl, rfl, rfl⟩
  closed := by
    rw [htombstones]
    exact forall_exchange h.closed fun plan hclosed => absurd hclosed (hcloses plan)

theorem disclosureLedger_invariant :
    GuardianInvariant crypto vault node (DisclosureLedger crypto vault node) where
  served h hserved := by
    cases hserved with
    | rotation hrotation => exact h.rotation hrotation
    | recovery hrecovery =>
      obtain ⟨hsessions, _, _, hprovision⟩ := hrecovery.rotationsKept
      refine h.unmoved hsessions (by rw [hprovision]) ?_
      rintro plan ⟨_, _, hrequest, -⟩
      cases hrequest
  refused h hrefused := by
    refine h.unmoved rfl rfl ?_
    rintro plan ⟨_, _, -, hresponse, -⟩
    rw [hrefused] at hresponse
    cases hresponse

theorem disclosureLedger_provisioned :
    DisclosureLedger crypto vault node provision.entry [] where
  begun rotationId s hfound := by simp [GuardianRotationProvisionV3.entry] at hfound
  dealt rotationId s encrypted hfound := by simp [GuardianRotationProvisionV3.entry] at hfound
  closed y hy := by cases hy

end MasterRecovery
