import MasterRecovery.CustodyDisclosure
import MasterRecovery.ExpiredSlot
import MasterRecovery.GuardianDryRun

/-!
# Begin, delay and Release before a disclosure (gp-network/src/guardian_runtime.rs)

The first repair round and the refresh of a guardian that stays carry their Release with them. The
sigma of the second repair round carries none: the dealing it opens was sealed under one.
-/

namespace MasterRecovery
open Checks Transcript Wire Act

variable {crypto : Crypto} {vault : Vault} {node : GuardianNode} {call : GuardianCall}
  {plan : RotationPlan} {entry entry' : GuardianRotationEntryV3}
  {s s' : GuardianRotationSessionV3} {response : GuardianRotationResponseV3}

/-! ### Requests that are answered -/

section Rounds

variable {signingSeed : Id32}

end Rounds

/-! ### What a disclosure finds -/

section Disclosures

variable {x : GuardianExchange}

end Disclosures

/-! ### Runs -/

section Runs

variable {log before after : List GuardianExchange} {x : GuardianExchange}
  {provision : GuardianRotationProvisionV3} {inputs : List GuardianInput}

end Runs

/-! ### A guardian that deals its refresh -/

end MasterRecovery
