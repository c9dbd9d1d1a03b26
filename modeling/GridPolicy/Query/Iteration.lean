import GridPolicy.Document.Decode
import GridPolicy.Policy.Basic

/-!
# Iterations over a query

One catalog query is executed and a chain of policies is invoked for each of its
rows. The rows are divided among workers, each of which takes a run of neighbours.
What a worker did is a value of its own, and the values are put together when all
have ended, so nothing is shared between them. A worker that crashes leaves no
value, and counts as one error.
-/
namespace GridPolicy

/-- The number of workers where none is asked for. -/
def defaultWorkers : Nat := 4

/-- A policy of the chain, with the parameters that win over those of the
iteration, and a configuration in place of the iteration's. -/
structure ChainedPolicy where
  policy : String
  parameters : Option Document := none
  configuration : Option Document := none

namespace ChainedPolicy

def decode (d : Document) : Option ChainedPolicy := do
  match ← Decode.members [["policy_to_invoke", "policy"], [Key.parameters], [Key.configuration]]
      d with
  | [policy, parameters, configuration] =>
    return {
      policy := ← Decode.required Decode.text policy
      parameters := ← Decode.orElse none Decode.anything parameters
      configuration := ← Decode.orElse none Decode.anything configuration }
  | _ => none

end ChainedPolicy

structure QueryIteration where
  query : String
  /-- The most rows to ask for; 0 asks for all. -/
  limit : Nat := 0
  kind : QueryKind := .general
  workers : Nat := 0
  chain : List ChainedPolicy := []
  /-- Parameters for every policy of the chain, where it has none of its own. -/
  baseParameters : Fields := []
  /-- Configuration for every policy of the chain that has none of its own. -/
  defaultConfiguration : Document := .null
  /-- Whether the chain of a row ends at its first failure. -/
  stopOnError : Bool := false
  /-- The rows to take if the query has none. -/
  defaultRows : List Row := []

/-- What an iteration did. -/
structure IterationSummary where
  rows : Nat
  invocations : Nat
  usedDefaultRows : Bool
  deriving DecidableEq, Repr

/-- What a worker did: how many invocations succeeded, and the errors of the rest. -/
structure WorkerOutcome where
  invocations : Nat := 0
  errors : List RowError := []
  deriving DecidableEq, Repr

namespace WorkerOutcome

def append (a b : WorkerOutcome) : WorkerOutcome :=
  ⟨a.invocations + b.invocations, a.errors ++ b.errors⟩

def success : WorkerOutcome := ⟨1, []⟩

def failure (e : RowError) : WorkerOutcome := ⟨0, [e]⟩

/-- A worker that crashed. Its row is not known, so the first stands for it. -/
def crash (detail : String) : WorkerOutcome :=
  failure ⟨0, "", Status.internal.code, "query worker failed: " ++ detail⟩

/-- The outcomes of the workers put together. -/
def total (outcomes : List WorkerOutcome) : WorkerOutcome := outcomes.foldr append {}

end WorkerOutcome

namespace QueryIteration

/-- The parameters of a policy of the chain for a row. -/
def parametersFor (it : QueryIteration) (row : Row) (chained : ChainedPolicy) : Document :=
  let own := (chained.parameters.map Document.fields).getD []
  .object ((own.fillMissing it.baseParameters).insert Key.queryResults (.ofTexts row))

def configurationFor (it : QueryIteration) (chained : ChainedPolicy) : Document :=
  chained.configuration.getD it.defaultConfiguration

/-- The error of an invocation for a row. -/
def rowError (index : Nat) (policy : String) (e : PolicyError) : RowError :=
  ⟨index, policy, e.status.code, e.message⟩

/-- Invokes the chain for a row. -/
def runChain (it : QueryIteration) (invoke : Invoker) (index : Nat) (row : Row) :
    List ChainedPolicy → Run QueryError WorkerOutcome
  | [] => return {}
  | chained :: r => do
    let result ← (invoke chained.policy (it.parametersFor row chained)
      (it.configurationFor chained)).attempt
    match result with
    | .ok _ => return WorkerOutcome.success.append (← runChain it invoke index row r)
    | .error e =>
      let failed := WorkerOutcome.failure (rowError index chained.policy e)
      if it.stopOnError then return failed
      else return failed.append (← runChain it invoke index row r)

/-- Invokes the chain for each of the rows, the first of which has this index. -/
def runRows (it : QueryIteration) (invoke : Invoker) (index : Nat) :
    List Row → Run QueryError WorkerOutcome
  | [] => return {}
  | row :: r => do
    let first ← runChain it invoke index row it.chain
    return first.append (← runRows it invoke (index + 1) r)

/-- A worker on its rows; if it crashes, all it did is lost. -/
def runWorker (it : QueryIteration) (invoke : Invoker) (index : Nat) (rows : List Row) :
    Run QueryError WorkerOutcome := do
  match ← (runRows it invoke index rows).catchCrash with
  | .ok outcome => return outcome
  | .error detail => return WorkerOutcome.crash detail

/-- How many rows a worker takes: enough for the wanted number of workers, of
which there is at least one and at most one for each row. -/
def chunkSize (rows workers : Nat) : Nat :=
  let workers := Nat.min (Nat.max workers 1) rows
  (rows + workers - 1) / workers

/-- The rows in runs of `size + 1`, the last of which may be shorter. -/
def chunks (size : Nat) (rows : List Row) : List (List Row) :=
  match rows with
  | [] => []
  | row :: r => (row :: r.take size) :: chunks size (r.drop size)
termination_by rows.length
decreasing_by simp only [List.length_cons, List.length_drop]; omega

/-- Runs of this many rows, each with the index of its first row. -/
def numbered (size : Nat) (runs : List (List Row)) : List (Nat × List Row) :=
  runs.zipIdx.map fun (rows, place) => (place * size, rows)

/-- Starts a worker for each run of rows, which comes with the index of its first row. -/
def runWorkers (it : QueryIteration) (invoke : Invoker) :
    List (Nat × List Row) → Run QueryError (List WorkerOutcome)
  | [] => return []
  | (index, rows) :: r => do
    let outcome ← runWorker it invoke index rows
    return outcome :: (← runWorkers it invoke r)

/-- The errors by row; those of one row keep their order. -/
def sortByRow (errors : List RowError) : List RowError :=
  errors.mergeSort fun a b => a.rowIndex ≤ b.rowIndex

/-- The rows to work on, and whether they are the default ones. -/
def chooseRows (it : QueryIteration) (fetched : List Row) : List Row × Bool :=
  if fetched.isEmpty && !it.defaultRows.isEmpty then (it.defaultRows, true) else (fetched, false)

/-- What the workers' outcomes amount to. -/
def conclude (it : QueryIteration) (rows : Nat) (usedDefaultRows : Bool)
    (outcomes : List WorkerOutcome) : Except QueryError IterationSummary :=
  let total := WorkerOutcome.total outcomes
  if total.errors.isEmpty then .ok ⟨rows, total.invocations, usedDefaultRows⟩
  else .error (.rowFailures it.query (sortByRow total.errors))

/-- Executes the query and invokes the chain for its rows. To find no rows is a
success. -/
def run (it : QueryIteration) (invoke : Invoker) : Run QueryError IterationSummary := do
  let fetched ← (queryRows it.query it.limit it.kind).mapError .service
  let (rows, usedDefaultRows) := it.chooseRows fetched
  if rows.isEmpty then return ⟨0, 0, false⟩
  let size := chunkSize rows.length it.workers
  let outcomes ← runWorkers it invoke (numbered size (chunks (size - 1) rows))
  Run.ofExcept (it.conclude rows.length usedDefaultRows outcomes)

end QueryIteration

end GridPolicy
