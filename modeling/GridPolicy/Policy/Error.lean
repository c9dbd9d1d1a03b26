import GridPolicy.Query.Template
import GridPolicy.Retention
import GridPolicy.Verification

/-!
# Errors of policies

A policy fails with a cause, and the cause of a failure inside a failure is kept.
Where several independent invocations failed, each is reported by name, code and
message, in the order in which they were made.
-/
namespace GridPolicy

/-- One failed invocation among several. -/
structure InvocationFailure where
  policy : String
  code : Int
  message : String
  deriving DecidableEq, Repr

/-- One failed invocation for a row of a query. -/
structure RowError where
  rowIndex : Nat
  /-- The policy that failed; empty if it was the worker that crashed. -/
  policy : String
  code : Int
  message : String
  deriving DecidableEq, Repr

inductive QueryError where
  | rowFailures (query : String) (errors : List RowError)
  | substitution (cause : SubstitutionError)
  | service (cause : ServiceError)
  deriving DecidableEq, Repr

namespace QueryError

def status : QueryError → Status
  | .rowFailures _ _ => .aggregatedFailure
  | .substitution cause => cause.status
  | .service cause => cause.status

def message : QueryError → String
  | .rowFailures query errors =>
    "query processor encountered an error for [" ++ toString errors.length ++
      "] rows for query [" ++ query ++ "]"
  | .substitution cause => "substitution failed: " ++ cause.message
  | .service cause => "catalog query failed: " ++ cause.message

end QueryError

inductive PolicyError where
  | invalidInput (policy detail : String)
  | unknownPolicy (name : String)
  | verificationFailed (path source destination : String) (mode : VerificationMode)
  | checksumMismatch (path resource computed catalog : String)
  | service (cause : ServiceError)
  | query (cause : QueryError)
  | verification (cause : VerificationError)
  | retention (cause : RetentionError)
  | aggregated (failures : List InvocationFailure)
  deriving DecidableEq, Repr

namespace PolicyError

def status : PolicyError → Status
  | .invalidInput _ _ => .invalidInput
  | .unknownPolicy _ => .invalidInput
  | .verificationFailed _ _ _ _ => .verificationMismatch
  | .checksumMismatch _ _ _ _ => .checksumMismatch
  | .service cause => cause.status
  | .query cause => cause.status
  | .verification cause => cause.status
  | .retention cause => cause.status
  | .aggregated _ => .aggregatedFailure

/-- One failure in the summary of several. -/
def failureText (f : InvocationFailure) : String :=
  f.policy ++ " [" ++ toString f.code ++ "] " ++ f.message

def message : PolicyError → String
  | .invalidInput policy detail => policy ++ ": " ++ detail
  | .unknownPolicy name => "policy [" ++ name ++ "] is not registered"
  | .verificationFailed path source destination mode =>
    "verification [" ++ mode.name ++ "] failed for [" ++ path ++ "] between [" ++ source ++
      "] and [" ++ destination ++ "]"
  | .checksumMismatch path resource computed catalog =>
    "checksum mismatch for [" ++ path ++ "] on resource [" ++ resource ++ "] computed [" ++
      computed ++ "] catalog [" ++ catalog ++ "]"
  | .service cause => "service error: " ++ cause.message
  | .query cause => "query error: " ++ cause.message
  | .verification cause => "verification error: " ++ cause.message
  | .retention cause => "retention error: " ++ cause.message
  | .aggregated failures =>
    toString failures.length ++ " policy invocation(s) failed: " ++
      Text.join "; " (failures.map failureText)

/-- The error as the host sees it. -/
def toHost (e : PolicyError) : HostError := ⟨e.status.code, e.message⟩

/-- The error of one invocation among several. -/
def failureOf (policy : String) (e : PolicyError) : InvocationFailure :=
  ⟨policy, e.status.code, e.message⟩

/-- Failures collected on the way become an error if there are any. -/
def ofFailures : List InvocationFailure → Except PolicyError Unit
  | [] => .ok ()
  | f :: r => .error (.aggregated (f :: r))

end PolicyError

end GridPolicy
