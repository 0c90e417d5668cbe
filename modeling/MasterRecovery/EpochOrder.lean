import MasterRecovery.SignerVotes

/-!
# The epochs a signer acts on

Intent and Approve adopt whatever epoch their witness reads select; neither compares it
with the epoch the signer has adopted before. Where the selections of a run never go back,
neither does the signer.
-/

namespace MasterRecovery
open Checks Transcript Wire

variable {crypto : Crypto} {sealing : Sealing} {entry entry' : SignerRotationEntryV3}
  {provision : SignerRotationProvisionV3} {input : SignerInput} {reply : Option SignerEvent}
  {inputs : List SignerInput}

/-! ### Selections -/

/-- The capsule that `select_latest_epoch_v3` returns for a request, where it is asked. -/
def SignerInput.selected (crypto : Crypto) (provision : SignerRotationProvisionV3)
    (input : SignerInput) : Option ConfigCapsuleV3 :=
  match input.request with
  | .inl (.intent intent challenge reads) => Except.toOption do
    signerContextGate provision.entry intent.context input.now
    selectLatestEpochV3 crypto provision.recoveryCard challenge reads
  | .inr (.approve request challenge reads) => Except.toOption do
    bailIf (input.now < challenge.issuedAt ∨ challenge.expiry ≤ input.now ∨
      challenge.responseRecipientKey ≠ request.recoveryRecipientKey)
      "signer requires a fresh witness read bound to the recovery recipient"
    selectLatestEpochV3 crypto provision.recoveryCard challenge reads
  | _ => none

/-- The provisioned epoch and then every epoch the run's requests have had selected. -/
def viewedEpochs (crypto : Crypto) (provision : SignerRotationProvisionV3)
    (inputs : List SignerInput) : List UInt64 :=
  provision.activeCapsule.configRef.guardianEpoch :: inputs.filterMap fun input =>
    (input.selected crypto provision).map (·.configRef.guardianEpoch)

theorem viewedEpochs_append {before after : List SignerInput} :
    viewedEpochs crypto provision (before ++ after) =
      viewedEpochs crypto provision before ++ after.filterMap fun input =>
        (input.selected crypto provision).map (·.configRef.guardianEpoch) := by
  simp [viewedEpochs]

/-! ### One step -/

/-- The guardian epoch the signer's authorization share is sealed for. -/
def SignerEvent.contributedEpoch : SignerEvent → Option UInt64
  | .rotation (.intentContribution contribution) =>
    some contribution.context.configRef.guardianEpoch
  | .recovery (.contribution contribution) => some contribution.request.configRef.guardianEpoch
  | _ => none

/-- The view is kept and nothing is contributed. -/
structure KeepsView (entry entry' : SignerRotationEntryV3) (reply : Option SignerEvent) : Prop where
  active : entry'.provision.activeCapsule = entry.provision.activeCapsule
  highest : entry'.securityState.highestObservedEpoch = entry.securityState.highestObservedEpoch
  silent : ∀ event, reply = some event → event.contributedEpoch = none

/-- The selected capsule becomes the view; what is contributed is for its epoch. -/
structure AdoptsView (provision : SignerRotationProvisionV3) (capsule : ConfigCapsuleV3)
    (entry entry' : SignerRotationEntryV3) (reply : Option SignerEvent) : Prop where
  active : entry'.provision.activeCapsule = capsule
  highest : entry'.securityState.highestObservedEpoch = entry.securityState.highestObservedEpoch ∨
    entry'.securityState.highestObservedEpoch = entry.securityState.highestObservedEpoch.insert
      provision.recoveryCard.configId capsule.configRef.guardianEpoch
  contributed : ∀ event, reply = some event → ∀ epoch, event.contributedEpoch = some epoch →
    epoch = capsule.configRef.guardianEpoch

theorem SameSigner.gate (h : SameSigner provision entry) (context : RotationContext)
    (now : UInt64) :
    signerContextGate provision.entry context now = signerContextGate entry context now := by
  obtain ⟨own, store, requests, nonces⟩ := entry
  simp only [SameSigner] at h
  generalize own.activeCapsule = active at h
  subst h
  rfl

theorem handled_view (hsigner : SameSigner provision entry)
    (hstep : SignerHandled crypto sealing entry input entry' reply) :
    KeepsView entry entry' reply ∨ ∃ capsule, input.selected crypto provision = some capsule ∧
      AdoptsView provision capsule entry entry' reply := by
  cases hstep with
  | refused => exact Or.inl ⟨rfl, rfl, by simp⟩
  | intentConflict => exact Or.inl ⟨rfl, rfl, by simp⟩
  | @intentApproved now random intent challenge reads active _ _ _ hgate hchecks =>
    obtain ⟨hselected, href, -⟩ := intentChecks_eq_ok hchecks
    obtain ⟨-, hconfig, -⟩ := signerContextGate_eq_ok hgate
    rw [hsigner.recoveryCard] at hselected hconfig
    refine Or.inr ⟨active, ?_, rfl, Or.inr ?_, fun event hevent epoch hepoch => ?_⟩
    · simp only [SignerInput.selected, toOption_eq_some, bind_unit_eq_ok, hsigner.gate]
      exact ⟨hgate, hselected⟩
    · rw [← hconfig, href]
      rfl
    · obtain ⟨response, hresponse, rfl⟩ := Option.map_eq_some_iff.mp hevent
      obtain ⟨contribution, rfl, hcontext, -⟩ :=
        intentContribution_eq_ok (toOption_eq_some.mp hresponse)
      rw [href, ← hcontext]
      exact (Option.some.inj hepoch).symm
  | beginConflict => exact Or.inl ⟨rfl, rfl, by simp⟩
  | begun =>
    refine Or.inl ⟨rfl, rfl, fun event hevent => ?_⟩
    obtain ⟨response, hresponse, rfl⟩ := Option.map_eq_some_iff.mp hevent
    obtain ⟨vote, rfl, -⟩ := beginVote_eq_ok (toOption_eq_some.mp hresponse)
    rfl
  | released => exact Or.inl ⟨rfl, rfl, by simp [SignerEvent.contributedEpoch]⟩
  | activated => exact Or.inl ⟨rfl, rfl, by simp [SignerEvent.contributedEpoch]⟩
  | abortVoted _ habort =>
    obtain ⟨vote, rfl, -⟩ := signerAbort_eq_ok habort
    exact Or.inl ⟨rfl, rfl, by simp [SignerEvent.contributedEpoch]⟩
  | abortFinalized _ hfinalize =>
    obtain ⟨-, -, -, _, rfl⟩ := signerFinalizeAbort_eq_ok hfinalize
    exact Or.inl ⟨rfl, rfl, by simp [SignerEvent.contributedEpoch]⟩
  | ownerCancelFinalized _ hfinalize =>
    obtain ⟨-, -, ⟨-, rfl⟩ | ⟨-, _, rfl⟩⟩ := signerFinalizeOwnerCancel_eq_ok hfinalize
    · exact Or.inl ⟨rfl, rfl, by simp [SignerEvent.contributedEpoch]⟩
    · exact Or.inl ⟨rfl, rfl, by simp [SignerEvent.contributedEpoch]⟩
  | @recoveryApproved now random request challenge reads active _ _ hchecks hremembered =>
    obtain ⟨hfresh, hselected, hvalid⟩ := approveChecks_eq_ok hchecks
    obtain ⟨-, hstore⟩ := rememberRequest_provision hremembered
    rw [hsigner.recoveryCard] at hselected
    refine Or.inr ⟨active, ?_, rfl, Or.inl ?_, fun event hevent epoch hepoch => ?_⟩
    · simp only [SignerInput.selected, toOption_eq_some, bind_unit_eq_ok]
      exact ⟨hfresh, hselected⟩
    · rw [hstore]
    · obtain ⟨response, hresponse, rfl⟩ := Option.map_eq_some_iff.mp hevent
      obtain ⟨contribution, rfl, hrequest⟩ :=
        recoveryContribution_eq_ok (toOption_eq_some.mp hresponse)
      rw [← hvalid.configRef, ← hrequest]
      exact (Option.some.inj hepoch).symm
  | recoveryReleased hrelease =>
    obtain ⟨vote, rfl, -⟩ := signerRecoveryRelease_eq_ok hrelease
    exact Or.inl ⟨rfl, rfl, by simp [SignerEvent.contributedEpoch]⟩

/-! ### Runs -/

theorem signerRun_concat :
    signerRun crypto sealing provision (inputs ++ [input]) =
      ((answeringSigner crypto sealing).step (signerRun crypto sealing provision inputs) input).1 :=
  Machine.run_append ..

theorem run_sameSigner : SameSigner provision (signerRun crypto sealing provision inputs) :=
  run_signerHandled_along (fun _ _ _ => True) (fun entry _ => SameSigner provision entry) rfl
    (fun _ _ _ _ _ h _ hstep => h.handled hstep)
    (Machine.along_of_forall _ (fun _ _ => trivial) _ _)

/-- One more request. -/
theorem run_view (crypto : Crypto) (sealing : Sealing) (provision : SignerRotationProvisionV3)
    (inputs : List SignerInput) (input : SignerInput) :
    let entry := signerRun crypto sealing provision inputs
    let out := (signerMachine crypto sealing).step entry input
    KeepsView entry out.1 out.2 ∨ ∃ capsule, input.selected crypto provision = some capsule ∧
      AdoptsView provision capsule entry out.1 out.2 :=
  handled_view run_sameSigner (signerMachine_handled _ _)

def SignerRotationEntryV3.activeEpoch (entry : SignerRotationEntryV3) : UInt64 :=
  entry.provision.activeCapsule.configRef.guardianEpoch

/-- What the signer acts on and remembers has been provisioned or selected. -/
structure ViewInv (crypto : Crypto) (provision : SignerRotationProvisionV3)
    (inputs : List SignerInput) (entry : SignerRotationEntryV3) : Prop where
  active : entry.activeEpoch ∈ viewedEpochs crypto provision inputs
  highest : ∀ (configId : Id32) (epoch : UInt64),
    entry.securityState.highestObservedEpoch[configId]? = some epoch →
    epoch ∈ viewedEpochs crypto provision inputs

theorem ViewInv.mono {more : List SignerInput} (h : ViewInv crypto provision inputs entry) :
    ViewInv crypto provision (inputs ++ more) entry where
  active := viewedEpochs_append ▸ List.mem_append_left _ h.active
  highest configId epoch hfound :=
    viewedEpochs_append ▸ List.mem_append_left _ (h.highest configId epoch hfound)

theorem selected_mem_viewed {capsule : ConfigCapsuleV3} (inputs : List SignerInput)
    (h : input.selected crypto provision = some capsule) :
    capsule.configRef.guardianEpoch ∈ viewedEpochs crypto provision (inputs ++ [input]) := by
  rw [viewedEpochs_append]
  exact List.mem_append_right _ (by simp [h])

theorem run_viewInv (crypto : Crypto) (sealing : Sealing) (provision : SignerRotationProvisionV3)
    (inputs : List SignerInput) :
    ViewInv crypto provision inputs (signerRun crypto sealing provision inputs) := by
  induction inputs using List.reverseRecOn with
  | nil =>
    refine ⟨List.mem_cons_self, fun configId epoch hfound => ?_⟩
    simp [signerRun, SignerRotationProvisionV3.entry, SignerRotationStore.new] at hfound
  | append_singleton inputs input ih =>
    have hbefore : ViewInv crypto provision (inputs ++ [input])
        (signerRun crypto sealing provision inputs) := ih.mono
    rw [signerRun_concat]
    rcases run_view crypto sealing provision inputs input with hkeeps | ⟨capsule, hselected, hadopts⟩
    · refine ⟨?_, fun configId epoch hfound => ?_⟩
      · rw [SignerRotationEntryV3.activeEpoch]
        exact (congrArg (·.configRef.guardianEpoch) hkeeps.active) ▸ hbefore.active
      · exact hbefore.highest configId epoch (hkeeps.highest ▸ hfound)
    · have hviewed := selected_mem_viewed inputs hselected
      refine ⟨?_, fun configId epoch hfound => ?_⟩
      · rw [SignerRotationEntryV3.activeEpoch]
        exact (congrArg (·.configRef.guardianEpoch) hadopts.active) ▸ hviewed
      · rcases hadopts.highest with hsame | hinserted
        · exact hbefore.highest configId epoch (hsame ▸ hfound)
        · rcases getElem?_insert_iff.mp (hinserted ▸ hfound) with ⟨-, rfl⟩ | ⟨-, hold⟩
          · exact hviewed
          · exact hbefore.highest configId epoch hold

/-! ### Runs whose selections go forward -/

/-- In no run up to these requests does the signer step back: not in the epoch it acts on,
not in the highest one it remembers, and not in what it seals its share for. -/
structure StepsForward (crypto : Crypto) (sealing : Sealing) (provision : SignerRotationProvisionV3)
    (inputs : List SignerInput) : Prop where
  active : ∀ before after, inputs = before ++ after →
    (signerRun crypto sealing provision before).activeEpoch ≤
      (signerRun crypto sealing provision inputs).activeEpoch
  highest : ∀ before after, inputs = before ++ after → ∀ (configId : Id32) (epoch : UInt64),
    (signerRun crypto sealing provision before).securityState.highestObservedEpoch[configId]? =
      some epoch →
    ∃ later, (signerRun crypto sealing provision inputs).securityState.highestObservedEpoch[
      configId]? = some later ∧ epoch ≤ later
  contributed : ∀ before input after, inputs = before ++ input :: after → ∀ event epoch,
    ((signerMachine crypto sealing).step (signerRun crypto sealing provision before) input).2 =
      some event → event.contributedEpoch = some epoch →
    ∀ verified ∈ viewedEpochs crypto provision before, verified ≤ epoch

variable {before after : List SignerInput}

theorem selected_forward {capsule : ConfigCapsuleV3}
    (hforward : (viewedEpochs crypto provision (before ++ input :: after)).Pairwise (· ≤ ·))
    (hselected : input.selected crypto provision = some capsule) :
    ∀ verified ∈ viewedEpochs crypto provision before,
      verified ≤ capsule.configRef.guardianEpoch := by
  rw [viewedEpochs_append] at hforward
  intro verified hverified
  exact (List.pairwise_append.mp hforward).2.2 verified hverified _ (by simp [hselected])

theorem step_active_le
    (hforward : (viewedEpochs crypto provision (before ++ input :: after)).Pairwise (· ≤ ·)) :
    (signerRun crypto sealing provision before).activeEpoch ≤
      (signerRun crypto sealing provision (before ++ [input])).activeEpoch := by
  rw [signerRun_concat]
  have hinv := run_viewInv crypto sealing provision before
  rcases run_view crypto sealing provision before input with hkeeps | ⟨capsule, hselected, hadopts⟩
  · have hsame := congrArg (·.configRef.guardianEpoch) hkeeps.active
    exact UInt64.le_of_eq hsame.symm
  · have hle := selected_forward hforward hselected _ hinv.active
    have hactive := congrArg (·.configRef.guardianEpoch) hadopts.active
    exact UInt64.le_trans hle (UInt64.le_of_eq hactive.symm)

theorem step_highest_le
    (hforward : (viewedEpochs crypto provision (before ++ input :: after)).Pairwise (· ≤ ·))
    {configId : Id32} {epoch : UInt64}
    (hfound : (signerRun crypto sealing provision before).securityState.highestObservedEpoch[
      configId]? = some epoch) :
    ∃ later, (signerRun crypto sealing provision (before ++ [input])).securityState
      |>.highestObservedEpoch[configId]? = some later ∧ epoch ≤ later := by
  rw [signerRun_concat]
  have hinv := run_viewInv crypto sealing provision before
  rcases run_view crypto sealing provision before input with hkeeps | ⟨capsule, hselected, hadopts⟩
  · exact ⟨epoch, hkeeps.highest ▸ hfound, UInt64.le_refl _⟩
  · rcases hadopts.highest with hsame | hinserted
    · exact ⟨epoch, hsame ▸ hfound, UInt64.le_refl _⟩
    · by_cases hconfig : configId = provision.recoveryCard.configId
      · exact ⟨capsule.configRef.guardianEpoch,
          hinserted ▸ getElem?_insert_iff.mpr (Or.inl ⟨hconfig, rfl⟩),
          selected_forward hforward hselected _ (hinv.highest _ _ hfound)⟩
      · exact ⟨epoch, hinserted ▸ getElem?_insert_iff.mpr (Or.inr ⟨hconfig, hfound⟩),
          UInt64.le_refl _⟩

/-- Where the selections of a run never go back, the signer never does. -/
theorem epochs_step_forward
    (hforward : (viewedEpochs crypto provision inputs).Pairwise (· ≤ ·)) :
    StepsForward crypto sealing provision inputs where
  active before after hsplit := by
    induction after generalizing before with
    | nil =>
      rw [hsplit, List.append_nil]
      exact UInt64.le_refl _
    | cons input after ih =>
      have hnext := ih (before ++ [input]) (by simpa using hsplit)
      exact UInt64.le_trans (step_active_le (hsplit ▸ hforward)) hnext
  highest before after hsplit configId epoch hfound := by
    induction after generalizing before epoch with
    | nil =>
      rw [hsplit, List.append_nil]
      exact ⟨epoch, hfound, UInt64.le_refl _⟩
    | cons input after ih =>
      obtain ⟨next, hnext, hle⟩ := step_highest_le (hsplit ▸ hforward) hfound
      obtain ⟨later, hlater, hle'⟩ := ih (before ++ [input]) (by simpa using hsplit) next hnext
      exact ⟨later, hlater, UInt64.le_trans hle hle'⟩
  contributed before input after hsplit event epoch hevent hepoch verified hverified := by
    rcases run_view crypto sealing provision before input with hkeeps |
      ⟨capsule, hselected, hadopts⟩
    · rw [hkeeps.silent event hevent] at hepoch
      cases hepoch
    · rw [hadopts.contributed event hevent epoch hepoch]
      exact selected_forward (hsplit ▸ hforward) hselected verified hverified

theorem epochs_step_forward_sample :
    StepsForward Crypto.transparent sampleSealing sampleSignerProvision
      (sampleBegin samplePlan70) := by
  have hviewed : viewedEpochs Crypto.transparent sampleSignerProvision (sampleBegin samplePlan70) =
      [1, 1] := by
    decide +kernel
  exact epochs_step_forward (hviewed ▸ by simp)

/-! ### A stale view -/

/-- An intent under the capsule that a quorum of witnesses reads as active. -/
def sampleViewedIntent (rotationId : Id32) (capsule : ConfigCapsuleV3) (readHash : Id32) :
    SignerInput :=
  let intent := sampleIntent { sampleContext capsule rotationId with
    recipientKey := sampleRecipientKey }
  rotationInput 6 (.intent { intent with witnessReadQcHash := readHash } sampleChallenge
    ([1, 2, 3].map fun id => sampleEnvelope id capsule))

/-- The installed child is read first, and then an old quorum of its parent is replayed. -/
def sampleStaleInputs : List SignerInput :=
  [sampleViewedIntent 70 sampleInstalled 31435169, sampleViewedIntent 71 sampleGenesis 2109413041]

theorem signer_steps_back :
    ¬∀ (crypto : Crypto) (sealing : Sealing) (provision : SignerRotationProvisionV3)
      (inputs : List SignerInput), StepsForward crypto sealing provision inputs := by
  intro h
  have hactive := (h Crypto.transparent sampleSealing sampleSignerProvision sampleStaleInputs).active
    (sampleStaleInputs.take 1) (sampleStaleInputs.drop 1) (by simp [sampleStaleInputs])
  revert hactive
  decide +kernel

end MasterRecovery
