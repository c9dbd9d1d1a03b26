import GridPolicy.Policy.Delegation
import GridPolicy.Policy.Metadata
import GridPolicy.Policy.QueryProcessor
import GridPolicy.Policy.Replica
import GridPolicy.Policy.ResourcePairs

/-!
# The built-in policies

The policies that every registry starts with. Apart from those that invoke others
by name they know nothing of one another.
-/
namespace GridPolicy

namespace ContextLog

def name : String := "irods_policy_log_context"

/-- The documents of an invocation are for whoever watches; nothing is reported. -/
def body (_ : Invoker) (_ : Invocation) : Run PolicyError Document := return .null

end ContextLog

/-- The built-in policies. -/
def builtinPolicies : List Policy :=
  [⟨QueryProcessor.name, QueryProcessor.body⟩,
   ⟨Movement.name, Movement.body⟩,
   ⟨Replication.name, Replication.body⟩,
   ⟨ReplicaVerification.name, ReplicaVerification.body⟩,
   ⟨ReplicaRetention.name, ReplicaRetention.body⟩,
   ⟨AccessTime.name, AccessTime.body⟩,
   ⟨FilesystemUsage.name, FilesystemUsage.body⟩,
   ⟨ChecksumCheck.name, ChecksumCheck.body⟩,
   ⟨ContextLog.name, ContextLog.body⟩,
   ⟨Delegation.name, Delegation.body⟩,
   ⟨ResourcePairs.name, ResourcePairs.body⟩]

/-- A registry of the built-in policies and no others. -/
def Registry.builtin : Registry := Registry.ofList builtinPolicies

end GridPolicy
