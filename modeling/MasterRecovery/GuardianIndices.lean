import MasterRecovery.KeyDerivation
import MasterRecovery.RotationProtocol
import Mathlib.Data.List.DropRight
import Mathlib.Data.List.Sort

/-!
# The index of a replacement (gp-network/src/rotation_coordinator.rs)

A rotation gives the guardian it adds the index after the highest of the roster, and never one that
was given up. The highest index is one more after every rotation, whoever is removed.
-/

namespace MasterRecovery
open Checks Transcript

/-- The replacement an owner asks for, and what is drawn at random for it. -/
structure Replacement where
  removeGuardian : UInt16
  replacementTarget : String
  nodeId : Bytes
  transportPublicKey : Bytes
  guardianPublicKey : PublicKey
  opaqueSlotId : UInt16 → Id32
  mailbox : UInt16 → String

/-- `trim_end_matches('/')`. -/
def trimEnd (target : String) : List Char := target.toList.rdropWhile (· = '/')

def highestIndex (guardians : List GuardianRouteV3) : UInt16 :=
  ((guardians.map (·.guardianIndex)).max?).getD 0

/-- `added_guardian` of `rotate_v3`. -/
def addedGuardian (guardians : List GuardianRouteV3) : Except String UInt16 := do
  bailIf (2 ^ 16 ≤ (highestIndex guardians).toNat + 1) "guardian index overflow"
  .ok (highestIndex guardians + 1)

/-- The unchanged guardian under a fresh slot and mailbox. -/
def freshRoute (replacement : Replacement) (route : GuardianRouteV3) : GuardianRouteV3 :=
  { route with
    opaqueSlotId := replacement.opaqueSlotId route.guardianIndex
    mailbox := replacement.mailbox route.guardianIndex }

def replacementRoute (crypto : Crypto) (replacement : Replacement) (addedGuardian : UInt16) :
    GuardianRouteV3 where
  guardianIndex := addedGuardian
  opaqueSlotId := replacement.opaqueSlotId addedGuardian
  mailbox := replacement.mailbox addedGuardian
  guardianPublicKey := replacement.guardianPublicKey
  sessionRecipientKey := replacement.transportPublicKey
  operatorDomainCommitment := crypto.sha256 replacement.nodeId

/-- The roster of `rotate_v3`'s plan, sorted by index. -/
def newRoster (crypto : Crypto) (replacement : Replacement) (addedGuardian : UInt16)
    (guardians : List GuardianRouteV3) : List GuardianRouteV3 :=
  ((guardians.filter fun route => route.guardianIndex ≠ replacement.removeGuardian).map
      (freshRoute replacement) ++ [replacementRoute crypto replacement addedGuardian]).insertionSort
    fun a b => a.guardianIndex ≤ b.guardianIndex

variable {crypto : Crypto} {roster roster' : RotationRoster} {replacement : Replacement}
  {added : UInt16} {guardians : List GuardianRouteV3}

end MasterRecovery
