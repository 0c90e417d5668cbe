import MasterRecovery.RecoveryExclusion
import MasterRecovery.RecoveryWireBinding
import MasterRecovery.WitnessServer
import MasterRecovery.Lib.Calls

/-!
# Guardian mailbox routing (gp-network/src/server.rs)

A guardian server keeps its entries by mailbox, and the later mailboxes of an entry as aliases. The
alias handler asks both maps whether its mailbox is taken, the provision handler the entries only; a
request for a mailbox asks the aliases first.
-/

namespace MasterRecovery
open Act Checks Machine Transcript Wire

/-! ### The server -/

structure GuardianDisk where
  rotationEntries : Std.TreeMap String GuardianRotationEntryV3 := ∅
  rotationAliases : Std.TreeMap String String := ∅

/-- What a guardian server is started with; its identity seed is that of the node. -/
structure GuardianServer where
  node : GuardianNode
  nodeId : String
  adminToken : String

/-- A provision as it comes out of its envelope. -/
structure GuardianRotationProvision where
  mailbox : String
  signerPublicKeys : Std.TreeMap UInt16 PublicKey
  provision : GuardianRotationProvisionV3

inductive RegistrationRequest
  | provision (sealedMessage : SealedMessage)
  | routeAlias (mailbox existingMailbox : String)

/-- A request with the token it carries and what the file system answers to the save. -/
structure Registration where
  bearer : Option String
  request : RegistrationRequest
  save : Except String Unit

def productionMinDelaySecs : UInt64 := 24 * 60 * 60

/-- What follows the last slash, trailing slashes aside. -/
def mailboxId (mailboxUrl : String) : Except String String := do
  let last := (mailboxUrl.toList.reverse.dropWhile (· = '/')).takeWhile (· ≠ '/')
  let value := String.ofList last.reverse
  bailIf (value.utf8ByteSize < 32) "invalid opaque mailbox URL"
  .ok value

section Handlers

variable (crypto : Crypto) (vault : Vault)
  (decodeProvision : Bytes → Except String GuardianRotationProvision) (server : GuardianServer)

/-- The pinned signers, one after the other. -/
def pinChecks (signerCount : UInt16) : List (UInt16 × PublicKey) → Except ApiError Unit
  | [] => .ok ()
  | pin :: pins => do
    bailIf (pin.1 = 0 ∨ signerCount < pin.1) (badRequest "guardian signer pin is out of range")
    let _ ← api (wire (signerLeaf pin.1 pin.2))
    pinChecks signerCount pins

/-- What `guardian_rotation_provision` asks before it looks at the store: the mailbox and what is
provisioned there. -/
def openProvision (bearer : Option String) (sealedMessage : SealedMessage) :
    Except ApiError (String × GuardianRotationProvisionV3) := do
  bailIf (server.adminToken = "" ∨ bearer ≠ some server.adminToken)
    ⟨.forbidden, "invalid node provisioning token"⟩
  let context ← api (wire (nodeProvisionContext server.nodeId "guardian-v3"))
  let plaintext ← api (crypt (openSealed vault server.node.identitySeed sealedMessage context))
  let opened ← api (decodeProvision plaintext)
  let provision := opened.provision
  api (validateActivatedCapsuleV3 crypto provision.recoveryCard provision.predecessorCapsule)
  bailIf (provision.signingPublicKey ≠ crypto.verifyingKeyBytes provision.signingSeed ∨
    provision.epochStore.configId ≠ provision.predecessorCapsule.configRef.configId ∨
    provision.epochStore.expectedPredecessor ≠ provision.predecessorCapsule.configRef ∨
    provision.epochStore.expectedPredecessorCapsuleHash ≠
      provision.predecessorCapsule.capsuleHash)
    (badRequest "guardian provision does not bind the exact predecessor and identity")
  pinChecks provision.predecessorCapsule.signerCount opened.signerPublicKeys.toList
  bailIf (provision.predecessorCapsule.minimumRecoveryDelay < productionMinDelaySecs ∧
    server.node.allowInsecureDemoDelay = false)
    ⟨.forbidden, "guardian refuses a v3 delay below 24 hours outside explicit demo mode"⟩
  let mailbox ← api (mailboxId opened.mailbox)
  .ok (mailbox, provision)

/-- What `guardian_rotation_alias` asks before it looks at the store. -/
def aliasChecks (bearer : Option String) (mailbox existingMailbox : String) :
    Except ApiError Unit := do
  bailIf (server.adminToken = "" ∨ bearer ≠ some server.adminToken)
    ⟨.forbidden, "invalid node provisioning token"⟩
  bailIf (mailbox.utf8ByteSize < 32 ∨ existingMailbox.utf8ByteSize < 32)
    (badRequest "invalid opaque guardian mailbox alias")

namespace GuardianDisk

/-- Aliases come before primaries. -/
def primaryMailbox (disk : GuardianDisk) (mailbox : String) : String :=
  disk.rotationAliases[mailbox]?.getD mailbox

/-- The entry a request for the mailbox is served from; without one it is not found. -/
def lookup (disk : GuardianDisk) (mailbox : String) : Option GuardianRotationEntryV3 :=
  disk.rotationEntries[disk.primaryMailbox mailbox]?

def withEntry (disk : GuardianDisk) (mailbox : String) (provision : GuardianRotationProvisionV3) :
    GuardianDisk :=
  { disk with rotationEntries := disk.rotationEntries.insert mailbox ⟨provision, ∅, ∅⟩ }

def withAlias (disk : GuardianDisk) (mailbox primary : String) : GuardianDisk :=
  { disk with rotationAliases := disk.rotationAliases.insert mailbox primary }

/-- The maps in memory have changed also where the save fails. -/
def saved (disk : GuardianDisk) (save : Except String Unit) (mailbox : String) :
    EStateM.Result ApiError GuardianDisk String :=
  match save with
  | .ok () => .ok mailbox disk
  | .error text => .error (badRequest text) disk

end GuardianDisk

def guardianRotationProvision (bearer : Option String) (sealedMessage : SealedMessage)
    (save : Except String Unit) : EStateM ApiError GuardianDisk String := fun disk =>
  match openProvision crypto vault decodeProvision server bearer sealedMessage with
  | .error e => .error e disk
  | .ok (mailbox, provision) =>
    if mailbox ∈ disk.rotationEntries then
      .error (badRequest "protocol-v3 guardian mailbox is already provisioned") disk
    else (disk.withEntry mailbox provision).saved save mailbox

def guardianRotationAlias (bearer : Option String) (mailbox existingMailbox : String)
    (save : Except String Unit) : EStateM ApiError GuardianDisk String := fun disk =>
  match aliasChecks server bearer mailbox existingMailbox with
  | .error e => .error e disk
  | .ok () =>
    let existingPrimary := disk.primaryMailbox existingMailbox
    if existingPrimary ∉ disk.rotationEntries ∨ mailbox ∈ disk.rotationEntries ∨
        mailbox ∈ disk.rotationAliases ∨ mailbox = existingPrimary then
      .error (badRequest "alias target is missing or alias already exists") disk
    else (disk.withAlias mailbox existingPrimary).saved save mailbox

def Registration.serve (registration : Registration) : EStateM ApiError GuardianDisk String :=
  match registration.request with
  | .provision sealedMessage =>
    guardianRotationProvision crypto vault decodeProvision server registration.bearer sealedMessage
      registration.save
  | .routeAlias mailbox existingMailbox =>
    guardianRotationAlias server registration.bearer mailbox existingMailbox registration.save

/-- The accepted registrations are logged. -/
def routingMachine : Machine GuardianDisk Registration Registration :=
  Machine.ofCalls fun registration => registration.serve crypto vault decodeProvision server

end Handlers

/-! ### One registration -/

section Serve

variable {crypto : Crypto} {vault : Vault}
  {decodeProvision : Bytes → Except String GuardianRotationProvision} {server : GuardianServer}
  {registration : Registration} {disk disk' : GuardianDisk} {mailbox primary other : String}
  {provision : GuardianRotationProvisionV3} {entry : GuardianRotationEntryV3}
  {result : EStateM.Result ApiError GuardianDisk String}

/-- What a registration writes, given what is there. -/
inductive Registers (crypto : Crypto) (vault : Vault)
    (decodeProvision : Bytes → Except String GuardianRotationProvision) (server : GuardianServer)
    (registration : Registration) (disk : GuardianDisk) : String → GuardianDisk → Prop
  | provision {sealedMessage : SealedMessage} {mailbox : String}
    {provision : GuardianRotationProvisionV3}
    (request : registration.request = .provision sealedMessage)
    (opens : openProvision crypto vault decodeProvision server registration.bearer sealedMessage =
      .ok (mailbox, provision))
    (fresh : mailbox ∉ disk.rotationEntries) :
    Registers crypto vault decodeProvision server registration disk mailbox
      (disk.withEntry mailbox provision)
  | routeAlias {mailbox existingMailbox : String}
    (request : registration.request = .routeAlias mailbox existingMailbox)
    (allowed : aliasChecks server registration.bearer mailbox existingMailbox = .ok ())
    (target : disk.primaryMailbox existingMailbox ∈ disk.rotationEntries)
    (unprovisioned : mailbox ∉ disk.rotationEntries) (fresh : mailbox ∉ disk.rotationAliases) :
    Registers crypto vault decodeProvision server registration disk mailbox
      (disk.withAlias mailbox (disk.primaryMailbox existingMailbox))

/-- A request writes its registration, saved or not, or is refused and writes nothing. -/
theorem serve_cases (crypto : Crypto) (vault : Vault)
    (decodeProvision : Bytes → Except String GuardianRotationProvision) (server : GuardianServer)
    (registration : Registration) (disk : GuardianDisk) :
    (∃ mailbox disk', Registers crypto vault decodeProvision server registration disk mailbox disk' ∧
      registration.serve crypto vault decodeProvision server disk =
        disk'.saved registration.save mailbox) ∨
    ∃ e, registration.serve crypto vault decodeProvision server disk = .error e disk := by
  cases hrequest : registration.request with
  | provision sealedMessage =>
    simp only [Registration.serve, hrequest, guardianRotationProvision]
    cases hopen : openProvision crypto vault decodeProvision server registration.bearer
      sealedMessage with
    | error e => exact Or.inr ⟨e, rfl⟩
    | ok opened =>
      by_cases htaken : opened.1 ∈ disk.rotationEntries
      · exact Or.inr ⟨_, if_pos htaken⟩
      · exact Or.inl ⟨_, _, .provision hrequest hopen htaken, if_neg htaken⟩
  | routeAlias mailbox existingMailbox =>
    simp only [Registration.serve, hrequest, guardianRotationAlias]
    cases hallowed : aliasChecks server registration.bearer mailbox existingMailbox with
    | error e => exact Or.inr ⟨e, rfl⟩
    | ok u =>
      by_cases htaken : disk.primaryMailbox existingMailbox ∉ disk.rotationEntries ∨
          mailbox ∈ disk.rotationEntries ∨ mailbox ∈ disk.rotationAliases ∨
            mailbox = disk.primaryMailbox existingMailbox
      · exact Or.inr ⟨_, if_pos htaken⟩
      · have hfree := htaken
        simp only [not_or, not_not] at hfree
        obtain ⟨htarget, hunprovisioned, hfresh, -⟩ := hfree
        exact Or.inl ⟨_, _, .routeAlias hrequest hallowed htarget hunprovisioned hfresh,
          if_neg htaken⟩

theorem serve_eq_ok
    (h : registration.serve crypto vault decodeProvision server disk = .ok mailbox disk') :
    Registers crypto vault decodeProvision server registration disk mailbox disk' := by
  rcases serve_cases crypto vault decodeProvision server registration disk with
    ⟨other, written, hregisters, hserve⟩ | ⟨e, hserve⟩
  · rw [hserve] at h
    cases hsave : registration.save with
    | ok u =>
      rw [hsave] at h
      cases h
      exact hregisters
    | error text =>
      rw [hsave] at h
      cases h
  · rw [hserve] at h
    cases h

theorem routing_step (disk : GuardianDisk) (registration : Registration) :
    let disk' := ((routingMachine crypto vault decodeProvision server).step disk registration).1
    disk' = disk ∨
      ∃ mailbox, Registers crypto vault decodeProvision server registration disk mailbox disk' := by
  simp only [routingMachine]
  rcases serve_cases crypto vault decodeProvision server registration disk with
    ⟨mailbox, disk', hregisters, hserve⟩ | ⟨e, hserve⟩
  · refine Or.inr ⟨mailbox, ?_⟩
    cases hsave : registration.save with
    | ok u =>
      rw [hsave] at hserve
      rw [ofCalls_ok hserve]
      exact hregisters
    | error text =>
      rw [hsave] at hserve
      rw [ofCalls_error hserve]
      exact hregisters
  · rw [ofCalls_error hserve]
    exact Or.inl rfl

theorem serve_provision {sealedMessage : SealedMessage}
    (hrequest : registration.request = .provision sealedMessage)
    (hopens : openProvision crypto vault decodeProvision server registration.bearer sealedMessage =
      .ok (mailbox, provision)) (hfresh : mailbox ∉ disk.rotationEntries) :
    registration.serve crypto vault decodeProvision server disk =
      (disk.withEntry mailbox provision).saved registration.save mailbox := by
  simp only [Registration.serve, hrequest, guardianRotationProvision, hopens]
  exact if_neg hfresh

theorem serve_routeAlias {existingMailbox : String}
    (hrequest : registration.request = .routeAlias mailbox existingMailbox)
    (hallowed : aliasChecks server registration.bearer mailbox existingMailbox = .ok ())
    (htarget : disk.primaryMailbox existingMailbox ∈ disk.rotationEntries)
    (hunprovisioned : mailbox ∉ disk.rotationEntries) (hfresh : mailbox ∉ disk.rotationAliases) :
    registration.serve crypto vault decodeProvision server disk =
      (disk.withAlias mailbox (disk.primaryMailbox existingMailbox)).saved registration.save
        mailbox := by
  simp only [Registration.serve, hrequest, guardianRotationAlias, hallowed]
  refine if_neg ?_
  rintro (hmissing | htaken | htaken | hsame)
  · exact hmissing htarget
  · exact hunprovisioned htaken
  · exact hfresh htaken
  · exact hunprovisioned (hsame ▸ htarget)

theorem step_provision {sealedMessage : SealedMessage}
    (hrequest : registration.request = .provision sealedMessage)
    (hopens : openProvision crypto vault decodeProvision server registration.bearer sealedMessage =
      .ok (mailbox, provision)) (hfresh : mailbox ∉ disk.rotationEntries) :
    ((routingMachine crypto vault decodeProvision server).step disk registration).1 =
      disk.withEntry mailbox provision := by
  have hserve := serve_provision hrequest hopens hfresh
  cases hsave : registration.save with
  | ok u =>
    rw [hsave] at hserve
    rw [routingMachine, ofCalls_ok hserve]
  | error text =>
    rw [hsave] at hserve
    rw [routingMachine, ofCalls_error hserve]

/-! ### The two maps -/

theorem primaryMailbox_of_alias (h : disk.rotationAliases[mailbox]? = some primary) :
    disk.primaryMailbox mailbox = primary := by
  rw [GuardianDisk.primaryMailbox, h, Option.getD_some]

theorem primaryMailbox_of_not_mem (h : mailbox ∉ disk.rotationAliases) :
    disk.primaryMailbox mailbox = mailbox := by
  rw [GuardianDisk.primaryMailbox, Std.TreeMap.getElem?_eq_none h, Option.getD_none]

theorem primaryMailbox_withAlias :
    (disk.withAlias mailbox primary).primaryMailbox other =
      if mailbox = other then primary else disk.primaryMailbox other := by
  simp only [GuardianDisk.primaryMailbox, GuardianDisk.withAlias, Std.TreeMap.getElem?_insert,
    Std.LawfulEqCmp.compare_eq_iff_eq]
  split <;> rfl

theorem entries_withEntry :
    (disk.withEntry mailbox provision).rotationEntries[other]? =
      if mailbox = other then some ⟨provision, ∅, ∅⟩ else disk.rotationEntries[other]? := by
  simp only [GuardianDisk.withEntry, Std.TreeMap.getElem?_insert,
    Std.LawfulEqCmp.compare_eq_iff_eq]

/-- Every alias leads to an entry, and no mailbox is on both sides. -/
structure Separate (disk : GuardianDisk) : Prop where
  target : ∀ mailbox primary : String, disk.rotationAliases[mailbox]? = some primary →
    primary ∈ disk.rotationEntries
  disjoint : ∀ mailbox ∈ disk.rotationEntries, mailbox ∉ disk.rotationAliases

theorem separate_new : Separate {} where
  target mailbox primary h := by simp at h
  disjoint mailbox h := by simp at h

/-- A provision whose mailbox is free to be provisioned is not for an alias. -/
def Registration.MissesAliases (crypto : Crypto) (vault : Vault)
    (decodeProvision : Bytes → Except String GuardianRotationProvision) (server : GuardianServer)
    (registration : Registration) (disk : GuardianDisk) : Prop :=
  ∀ sealedMessage mailbox provision, registration.request = .provision sealedMessage →
    openProvision crypto vault decodeProvision server registration.bearer sealedMessage =
      .ok (mailbox, provision) →
    mailbox ∉ disk.rotationEntries → mailbox ∉ disk.rotationAliases

theorem Separate.registers (h : Separate disk)
    (hmisses : registration.MissesAliases crypto vault decodeProvision server disk)
    (hregisters : Registers crypto vault decodeProvision server registration disk mailbox disk') :
    Separate disk' := by
  cases hregisters with
  | provision hrequest hopens hfresh =>
    have hmiss := hmisses _ _ _ hrequest hopens hfresh
    refine ⟨fun other primary hother => ?_, fun other hother => ?_⟩
    · exact Std.TreeMap.mem_insert.mpr (Or.inr (h.target other primary hother))
    · rcases Std.TreeMap.mem_insert.mp hother with hsame | hold
      · rw [Std.LawfulEqCmp.compare_eq_iff_eq] at hsame
        rw [← hsame]
        exact hmiss
      · exact h.disjoint other hold
  | routeAlias hrequest hallowed htarget hunprovisioned hfresh =>
    refine ⟨fun other primary hother => ?_, fun other hother hmem => ?_⟩
    · simp only [GuardianDisk.withAlias, Std.TreeMap.getElem?_insert,
        Std.LawfulEqCmp.compare_eq_iff_eq] at hother
      split at hother
      · cases hother
        exact htarget
      · exact h.target other primary hother
    · rcases Std.TreeMap.mem_insert.mp hmem with hsame | hold
      · rw [Std.LawfulEqCmp.compare_eq_iff_eq] at hsame
        subst hsame
        exact hunprovisioned hother
      · exact h.disjoint other hother hold

/-- A mailbox that is found is found with the same entry after a registration. -/
theorem lookup_registers
    (hregisters : Registers crypto vault decodeProvision server registration disk mailbox disk')
    (hfound : disk.lookup other = some entry) : disk'.lookup other = some entry := by
  cases hregisters with
  | provision hrequest hopens hfresh =>
    have hprimary : mailbox ≠ disk.primaryMailbox other := by
      intro hsame
      rw [GuardianDisk.lookup, ← hsame, Std.TreeMap.getElem?_eq_none hfresh] at hfound
      cases hfound
    rw [GuardianDisk.lookup, entries_withEntry]
    exact (if_neg hprimary).trans hfound
  | routeAlias hrequest hallowed htarget hunprovisioned hfresh =>
    have hother : mailbox ≠ other := by
      intro hsame
      subst hsame
      rw [GuardianDisk.lookup, primaryMailbox_of_not_mem hfresh,
        Std.TreeMap.getElem?_eq_none hunprovisioned] at hfound
      cases hfound
    rw [GuardianDisk.lookup, primaryMailbox_withAlias, if_neg hother]
    exact hfound

/-- What a registration stands for: the entry it makes, or the one its alias is for. -/
def Registration.target (crypto : Crypto) (vault : Vault)
    (decodeProvision : Bytes → Except String GuardianRotationProvision) (server : GuardianServer)
    (registration : Registration) (disk : GuardianDisk) : Option GuardianRotationEntryV3 :=
  match registration.request with
  | .provision sealedMessage =>
    (openProvision crypto vault decodeProvision server registration.bearer
      sealedMessage).toOption.map fun opened => ⟨opened.2, ∅, ∅⟩
  | .routeAlias _ existingMailbox => disk.lookup existingMailbox

theorem registers_target
    (hmisses : registration.MissesAliases crypto vault decodeProvision server disk)
    (hregisters : Registers crypto vault decodeProvision server registration disk mailbox disk') :
    ∃ entry, disk'.lookup mailbox = some entry ∧
      registration.target crypto vault decodeProvision server disk = some entry := by
  cases hregisters with
  | @provision sealedMessage mailbox provision hrequest hopens hfresh =>
    have hmiss := hmisses _ _ _ hrequest hopens hfresh
    refine ⟨⟨provision, ∅, ∅⟩, ?_, ?_⟩
    · have hself : (disk.withEntry mailbox provision).primaryMailbox mailbox = mailbox :=
        primaryMailbox_of_not_mem hmiss
      rw [GuardianDisk.lookup, hself, entries_withEntry, if_pos rfl]
    · simp only [Registration.target, hrequest, hopens]
      rfl
  | @routeAlias mailbox existingMailbox hrequest hallowed htarget hunprovisioned hfresh =>
    obtain ⟨entry, hentry⟩ : ∃ entry, disk.rotationEntries[disk.primaryMailbox existingMailbox]? =
      some entry := ⟨_, Std.TreeMap.getElem?_eq_some_getElem htarget⟩
    refine ⟨entry, ?_, ?_⟩
    · rw [GuardianDisk.lookup, primaryMailbox_withAlias, if_pos rfl]
      exact hentry
    · simp only [Registration.target, hrequest]
      exact hentry

end Serve

/-! ### Runs of registrations -/

/-- Aliases lead to primaries, no mailbox is both, and both are found. -/
structure Unambiguous (disk : GuardianDisk) : Prop where
  direct : ∀ mailbox primary : String, disk.rotationAliases[mailbox]? = some primary →
    primary ∈ disk.rotationEntries ∧ primary ∉ disk.rotationAliases ∧
      disk.lookup mailbox = disk.rotationEntries[primary]?
  disjoint : ∀ mailbox ∈ disk.rotationEntries, mailbox ∉ disk.rotationAliases
  own : ∀ mailbox ∈ disk.rotationEntries, disk.lookup mailbox = disk.rotationEntries[mailbox]?

theorem Separate.unambiguous {disk : GuardianDisk} (h : Separate disk) : Unambiguous disk where
  direct mailbox primary halias := by
    have htarget := h.target mailbox primary halias
    refine ⟨htarget, h.disjoint primary htarget, ?_⟩
    rw [GuardianDisk.lookup, primaryMailbox_of_alias halias]
  disjoint := h.disjoint
  own mailbox hmem := by
    rw [GuardianDisk.lookup, primaryMailbox_of_not_mem (h.disjoint mailbox hmem)]

section Routing

variable (crypto : Crypto) (vault : Vault)
  (decodeProvision : Bytes → Except String GuardianRotationProvision) (server : GuardianServer)

/-- The disk after registrations on a new server. -/
def routed (registrations : List Registration) : GuardianDisk :=
  (routingMachine crypto vault decodeProvision server).run {} registrations

/-- The maps are unambiguous after every registration, what is found once is found ever after, and
an accepted registration is found as what it stands for ever after. -/
structure RoutingUnambiguous (registrations : List Registration) : Prop where
  unambiguous : ∀ before after, registrations = before ++ after →
    Unambiguous (routed crypto vault decodeProvision server before)
  kept : ∀ before after mailbox entry, registrations = before ++ after →
    (routed crypto vault decodeProvision server before).lookup mailbox = some entry →
    (routed crypto vault decodeProvision server registrations).lookup mailbox = some entry
  registered : ∀ before registration after mailbox disk,
    registrations = before ++ registration :: after →
    registration.serve crypto vault decodeProvision server
      (routed crypto vault decodeProvision server before) = .ok mailbox disk →
    ∃ entry, registration.target crypto vault decodeProvision server
        (routed crypto vault decodeProvision server before) = some entry ∧
      (routed crypto vault decodeProvision server registrations).lookup mailbox = some entry

/-- No provision is accepted for a mailbox that is an alias. -/
def ProvisionsMissAliases (registrations : List Registration) : Prop :=
  ∀ before registration after, registrations = before ++ registration :: after →
    registration.MissesAliases crypto vault decodeProvision server
      (routed crypto vault decodeProvision server before)

variable {crypto : Crypto} {vault : Vault}
  {decodeProvision : Bytes → Except String GuardianRotationProvision} {server : GuardianServer}
  {registrations before after : List Registration} {registration : Registration}

theorem routed_append_one :
    routed crypto vault decodeProvision server (before ++ [registration]) =
      ((routingMachine crypto vault decodeProvision server).step
        (routed crypto vault decodeProvision server before) registration).1 := by
  rw [routed, Machine.run_append]
  rfl

theorem separate_routed
    (h : ProvisionsMissAliases crypto vault decodeProvision server registrations) :
    Separate (routed crypto vault decodeProvision server registrations) := by
  induction registrations using List.reverseRecOn with
  | nil => exact separate_new
  | append_singleton before registration ih =>
    have hbefore := ih fun first other rest hsplit =>
      h first other (rest ++ [registration]) (by rw [hsplit]; simp)
    rw [routed_append_one]
    rcases routing_step (routed crypto vault decodeProvision server before) registration with
      hsame | ⟨mailbox, hregisters⟩
    · rw [hsame]
      exact hbefore
    · exact hbefore.registers (h before registration [] rfl) hregisters

/-- What is found stays. -/
theorem lookup_routed {mailbox : String} {entry : GuardianRotationEntryV3}
    (hfound : (routed crypto vault decodeProvision server before).lookup mailbox = some entry) :
    (routed crypto vault decodeProvision server (before ++ after)).lookup mailbox = some entry := by
  induction after using List.reverseRecOn with
  | nil => simpa using hfound
  | append_singleton after registration ih =>
    rw [← List.append_assoc, routed_append_one]
    rcases routing_step (routed crypto vault decodeProvision server (before ++ after)) registration
      with hsame | ⟨other, hregisters⟩
    · rw [hsame]
      exact ih
    · exact lookup_registers hregisters ih

theorem ProvisionsMissAliases.initial
    (h : ProvisionsMissAliases crypto vault decodeProvision server (before ++ after)) :
    ProvisionsMissAliases crypto vault decodeProvision server before :=
  fun first other rest hsplit => h first other (rest ++ after) (by simp [hsplit])

/-- A provision for an alias makes a mailbox that is on both sides. -/
theorem RoutingUnambiguous.missAliases
    (h : RoutingUnambiguous crypto vault decodeProvision server registrations) :
    ProvisionsMissAliases crypto vault decodeProvision server registrations := by
  intro before registration after hsplit sealedMessage mailbox provision hrequest hopens hfresh
  have hstep := step_provision hrequest hopens hfresh
  rw [← routed_append_one] at hstep
  have hdisjoint := (h.unambiguous (before ++ [registration]) after (by simp [hsplit])).disjoint
  rw [hstep] at hdisjoint
  exact hdisjoint mailbox Std.TreeMap.mem_insert_self

/-- Routing is unambiguous exactly as long as no provision is accepted for an alias. -/
theorem routing_unambiguous_iff (crypto : Crypto) (vault : Vault)
    (decodeProvision : Bytes → Except String GuardianRotationProvision) (server : GuardianServer)
    (registrations : List Registration) :
    RoutingUnambiguous crypto vault decodeProvision server registrations ↔
      ProvisionsMissAliases crypto vault decodeProvision server registrations := by
  refine ⟨RoutingUnambiguous.missAliases, fun h => ?_⟩
  refine ⟨fun before after hsplit => ?_, fun before after mailbox entry hsplit hfound => ?_,
    fun before registration after mailbox disk hsplit hserve => ?_⟩
  · subst hsplit
    exact (separate_routed h.initial).unambiguous
  · subst hsplit
    exact lookup_routed hfound
  · subst hsplit
    obtain ⟨entry, hfound, htarget⟩ :=
      registers_target (h before registration after rfl) (serve_eq_ok hserve)
    have hstep : routed crypto vault decodeProvision server (before ++ [registration]) = disk := by
      rw [routed_append_one, routingMachine, ofCalls_ok hserve]
    have hkept : (routed crypto vault decodeProvision server
        ((before ++ [registration]) ++ after)).lookup mailbox = some entry :=
      lookup_routed (hstep ▸ hfound)
    rw [List.append_assoc] at hkept
    exact ⟨entry, htarget, hkept⟩

end Routing

/-! ### A mailbox that is both -/

def sampleServer : GuardianServer := ⟨⟨sampleGuardianSeed 1, true⟩, "node", "token"⟩

def sampleMailboxId (letter : Char) : String := String.ofList (List.replicate 32 letter)

def sampleProvisionContext : Bytes :=
  (nodeProvisionContext "node" "guardian-v3").toOption.getD []

def sampleProvisionMessage (letter : Char) : SealedMessage :=
  ⟨[1], sampleEncrypted [1] [letter.toUInt8] (.ok sampleProvisionContext)⟩

/-- The first guardian is provisioned at the mailbox of this letter. -/
def sampleProvisionAt (letter : Char) : Registration :=
  ⟨some "token", .provision (sampleProvisionMessage letter), .ok ()⟩

def sampleDecode (plaintext : Bytes) : Except String GuardianRotationProvision :=
  .ok ⟨sampleMailboxId (Char.ofNat (plaintext.headD 0).toNat), ∅, sampleGuardian⟩

def sampleAlias : Registration :=
  ⟨some "token", .routeAlias (sampleMailboxId 'm') (sampleMailboxId 'p'), .ok ()⟩

/-- A primary, its alias, and then a primary at the alias. -/
def sampleRegistrations : List Registration :=
  [sampleProvisionAt 'p', sampleAlias, sampleProvisionAt 'm']

/-- What the stand-in seals to its recipient opens under the same data. -/
theorem openSealed_transparent {recipientKey plaintext context : Bytes} {seed : Id32}
    {nonce : BitVec 192} {messages : List DpssProtocolMessage} :
    openSealed (Vault.transparent recipientKey messages) seed
      ⟨recipientKey, nonce, envelopeMark recipientKey context ++ plaintext⟩ context =
        .ok plaintext := by
  have hmark : (envelopeMark recipientKey context).length = 32 := idBytes_length _
  simp [openSealed, Vault.transparent, okOr, openMarked, bailIf, List.take_left' hmark,
    List.drop_left' hmark, bind, Except.bind]

theorem sampleProvisionMessage_opens (letter : Char) :
    openSealed (Vault.transparent [1] []) sampleServer.node.identitySeed
      (sampleProvisionMessage letter) sampleProvisionContext = .ok [letter.toUInt8] := by
  simp only [sampleProvisionMessage, sampleEncrypted]
  generalize sampleProvisionContext = context
  exact openSealed_transparent

theorem sampleProvisionContext_eq :
    nodeProvisionContext "node" "guardian-v3" = .ok sampleProvisionContext := by
  have hshort : (nodeProvisionContext "node" "guardian-v3").toOption.isSome := by decide
  obtain ⟨context, hcontext⟩ := isSome_toOption.mp hshort
  have hsample : sampleProvisionContext = context := by
    rw [sampleProvisionContext, toOption_eq_some.mpr hcontext, Option.getD_some]
  rw [hcontext, hsample]

theorem mailboxId_sample {letter : Char} (h : letter ≠ '/')
    (hlong : 32 ≤ (sampleMailboxId letter).utf8ByteSize) :
    mailboxId (sampleMailboxId letter) = .ok (sampleMailboxId letter) := by
  have hlast : ((sampleMailboxId letter).toList.reverse.dropWhile (· = '/')).takeWhile (· ≠ '/') =
      List.replicate 32 letter := by
    simp [sampleMailboxId, h]
  have hvalue : String.ofList (List.replicate 32 letter) = sampleMailboxId letter := rfl
  simp only [mailboxId, hlast, List.reverse_replicate, hvalue]
  rw [bailIf, if_neg (Nat.not_lt.mpr hlong)]
  rfl

theorem sampleDecode_mailboxId {letter : Char} (h : letter ∈ ['p', 'm']) :
    mailboxId (sampleMailboxId (Char.ofNat letter.toUInt8.toNat)) =
      .ok (sampleMailboxId letter) := by
  have hcases : letter = 'p' ∨ letter = 'm' := by simpa using h
  rcases hcases with rfl | rfl
  · exact mailboxId_sample (by decide) (by decide)
  · exact mailboxId_sample (by decide) (by decide)

theorem sampleProvisionAt_opens {letter : Char} (h : letter ∈ ['p', 'm']) :
    openProvision Crypto.transparent (Vault.transparent [1] []) sampleDecode sampleServer
      (some "token") (sampleProvisionMessage letter) =
        .ok (sampleMailboxId letter, sampleGuardian) := by
  have hcontext := sampleProvisionContext_eq
  have hmailbox := sampleDecode_mailboxId h
  have hbound : ¬(sampleGuardian.signingPublicKey ≠
        Crypto.transparent.verifyingKeyBytes sampleGuardian.signingSeed ∨
      sampleGuardian.epochStore.configId ≠ sampleGuardian.predecessorCapsule.configRef.configId ∨
      sampleGuardian.epochStore.expectedPredecessor ≠ sampleGuardian.predecessorCapsule.configRef ∨
      sampleGuardian.epochStore.expectedPredecessorCapsuleHash ≠
        sampleGuardian.predecessorCapsule.capsuleHash) := by
    simp only [not_or, ne_eq, not_not]
    exact ⟨rfl, rfl, rfl, rfl⟩
  have hcapsule : validateActivatedCapsuleV3 Crypto.transparent sampleGuardian.recoveryCard
      sampleGuardian.predecessorCapsule = .ok () := sampleReads_card.2.1
  simp only [openProvision, Checks.bind_eq_ok, bailIf_eq_ok, exists_const, api_eq_ok, wire_eq_ok,
    crypt_eq_ok]
  exact ⟨by decide, _, hcontext, _, sampleProvisionMessage_opens letter, _, rfl, (), hcapsule,
    hbound, (), rfl, fun hdelay => absurd hdelay.2 (by decide), _, hmailbox, rfl⟩

/-- The sample disk after the first registration, and after the second. -/
def sampleProvisioned : GuardianDisk := GuardianDisk.withEntry {} (sampleMailboxId 'p') sampleGuardian
def sampleAliased : GuardianDisk :=
  sampleProvisioned.withAlias (sampleMailboxId 'm') (sampleMailboxId 'p')

theorem sampleAliased_maps :
    sampleMailboxId 'm' ∉ sampleProvisioned.rotationEntries ∧
      sampleMailboxId 'm' ∈ sampleAliased.rotationAliases := by
  have hapart : sampleMailboxId 'p' ≠ sampleMailboxId 'm' := by decide
  constructor
  · simp [sampleProvisioned, GuardianDisk.withEntry, hapart]
  · exact Std.TreeMap.mem_insert_self

theorem sampleRegistrations_served :
    let serve := Registration.serve Crypto.transparent (Vault.transparent [1] []) sampleDecode
      sampleServer
    serve (sampleProvisionAt 'p') {} = .ok (sampleMailboxId 'p') sampleProvisioned ∧
      serve sampleAlias sampleProvisioned = .ok (sampleMailboxId 'm') sampleAliased ∧
      serve (sampleProvisionAt 'm') sampleAliased =
        .ok (sampleMailboxId 'm') (sampleAliased.withEntry (sampleMailboxId 'm') sampleGuardian) := by
  refine ⟨?_, ?_, ?_⟩
  · exact serve_provision rfl (sampleProvisionAt_opens (by decide)) (by simp)
  · exact serve_routeAlias rfl (by decide +kernel) Std.TreeMap.mem_insert_self sampleAliased_maps.1
      (by simp [sampleProvisioned, GuardianDisk.withEntry])
  · exact serve_provision rfl (sampleProvisionAt_opens (by decide)) sampleAliased_maps.1

/-- All three registrations are accepted, and the alias has become a primary of its own that is
found as another. -/
theorem alias_provisioned :
    ¬∀ (crypto : Crypto) (vault : Vault)
        (decodeProvision : Bytes → Except String GuardianRotationProvision)
        (server : GuardianServer) (registrations : List Registration),
      (routingMachine crypto vault decodeProvision server).outputs {} registrations =
        registrations →
      RoutingUnambiguous crypto vault decodeProvision server registrations := by
  intro h
  obtain ⟨hfirst, hsecond, hthird⟩ := sampleRegistrations_served
  have hrouted : routed Crypto.transparent (Vault.transparent [1] []) sampleDecode sampleServer
      [sampleProvisionAt 'p', sampleAlias] = sampleAliased := by
    simp only [routed, routingMachine, Machine.run_cons, ofCalls_ok hfirst, ofCalls_ok hsecond,
      Machine.run_nil]
  have haccepted : (routingMachine Crypto.transparent (Vault.transparent [1] []) sampleDecode
      sampleServer).outputs {} sampleRegistrations = sampleRegistrations := by
    simp only [sampleRegistrations, routingMachine, outputs_cons, ofCalls_ok hfirst,
      ofCalls_ok hsecond, ofCalls_ok hthird, outputs_nil, Option.toList_some,
      List.singleton_append]
  have hmisses := (h _ _ _ _ _ haccepted).missAliases [sampleProvisionAt 'p', sampleAlias]
    (sampleProvisionAt 'm') [] rfl _ _ _ rfl (sampleProvisionAt_opens (by decide))
  rw [hrouted] at hmisses
  exact hmisses sampleAliased_maps.1 sampleAliased_maps.2

end MasterRecovery
