import GridPolicy.Policy.Chain
import GridPolicy.Query.Iteration

/-!
# The query processor

A policy that fills the tokens of a query, executes it, and invokes a chain of
policies for each row. All that can be wrong with what it received, and every
question that it has to ask first, comes before the first of these invocations.
-/
namespace GridPolicy.QueryProcessor

def name : String := "irods_policy_query_processor"

/-- The values of an array as they stand in a query; anything else has none. -/
def rowOf : Document → Row
  | .array items => items.map Document.plain
  | _ => []

/-- The row that the invocation is for, if it is for one. -/
def ownRow (parameters : Document) : Row :=
  ((parameters.get? Key.queryResults).map rowOf).getD []

/-- The rows given for the case that the query has none. -/
def defaultRows (parameters : Document) : List Row :=
  match parameters.get? "default_results_when_no_rows_found" with
  | some (.array rows) => (rows.filterMap Document.array?).map fun row => row.map Document.plain
  | _ => []

/-- The chain of policies. Every entry has to be well formed and to have a name. -/
def chain (i : Invocation) : Run PolicyError (List ChainedPolicy) :=
  let entries := chainEntries i.parameters
  if entries.isEmpty then i.refuse "empty policies_to_invoke"
  else
    match entries.mapM ChainedPolicy.decode with
    | none => i.refuse "invalid policies_to_invoke: malformed"
    | some chained =>
      match chained.findIdx? fun c => c.policy == "" with
      | some n => i.refuse ("policies_to_invoke #" ++ toString n ++ " has no name")
      | none => return chained

/-- The wanted number of workers, if it is a positive number. -/
def workers (parameters : Document) : Nat :=
  match parameters.integerField? "number_of_threads" with
  | some n => if 0 < n then n.toNat else defaultWorkers
  | none => defaultWorkers

/-- The wanted limit, if 32 bits hold it. -/
def limit (parameters : Document) : Nat :=
  match parameters.integerField? "query_limit" with
  | some n => if 0 ≤ n && n ≤ 4294967295 then n.toNat else 0
  | none => 0

def kind (i : Invocation) : Run PolicyError QueryKind :=
  match QueryKind.parse ((i.parameters.filledField? "query_type").getD "") with
  | .ok kind => return kind
  | .error detail => i.refuse detail

/-- The names that the tokens for collection and object stand for. A path that
names no object stands for a collection as it is. -/
def namesFor (path : String) : Run PolicyError (String × String) := do
  if path == "" then return ("", "")
  match ← (objectKind path).mapError .service with
  | .dataObject => return LogicalPath.split path
  | .collection => return (path, "")
  | .missing => return (path, "")

/-- The first value that a nested query answers, empty if there is none. -/
def firstValue (query : String) (c : Circumstances) : Run PolicyError String := do
  let filled ← (Template.fillNamed query c).mapError fun e => .query (.substitution e)
  let rows ← (queryRows filled 1 .general).mapError .service
  return (rows.head?.bind List.head?).getD ""

/-- A lifetime in seconds, given as a number or as the answer of a nested query. -/
def lifetimeSeconds (i : Invocation) (c : Circumstances) (lifetime : Document) :
    Run PolicyError Int :=
  if Template.isNested lifetime then
    let text := lifetime.text?.getD ""
    match Template.nestedQuery? text with
    | none => i.refuse ("malformed lifetime query [" ++ text ++ "]")
    | some query => do
      let first ← firstValue query c
      match Text.int64? (Text.trim first) with
      | some seconds => return seconds
      | none => i.refuse ("lifetime query returned [" ++ first ++ "], not a number")
  else
    match i.parameters.integerField? "lifetime" with
    | some seconds => return seconds
    | none => i.refuse "lifetime must be a number"

/-- The time before which a lifetime is over, or 0 where none is given. -/
def cutoff (i : Invocation) (c : Circumstances) : Run PolicyError Int :=
  match i.parameters.get? "lifetime" with
  | none => return 0
  | some lifetime => do
    let seconds ← lifetimeSeconds i c lifetime
    return Text.clampInt64 (c.currentTime - seconds)

/-- What the named tokens stand for. -/
def circumstances (i : Invocation) : Run PolicyError Circumstances := do
  let captured := Capture.ofParameters i.parameters .root
  let (collectionName, dataName) ← namesFor captured.logicalPath
  let known : Circumstances := {
    currentTime := ← Run.now
    userName := captured.userName
    collectionName
    dataName
    sourceResource := captured.sourceResource
    destinationResource := captured.destinationResource }
  return { known with lifetime := ← cutoff i known }

/-- The parameters for the chain: those listed for it, or all there are. -/
def baseParameters (parameters : Document) : Fields :=
  match parameters.get? Key.parameters with
  | some (.object fields) => fields
  | _ => parameters.fields

/-- The iteration that an invocation asks for. -/
def iteration (i : Invocation) : Run PolicyError QueryIteration := do
  match i.parameters.filledField? "query_string" with
  | none => i.refuse "empty query string"
  | some query =>
    let chain ← chain i
    let kind ← kind i
    let positioned := Template.fillRow query (ownRow i.parameters)
    let c ← circumstances i
    let filled ← (Template.fillNamed positioned c).mapError fun e => .query (.substitution e)
    return {
      query := filled
      limit := limit i.parameters
      kind
      workers := workers i.parameters
      chain
      baseParameters := baseParameters i.parameters
      defaultConfiguration := (i.parameters.get? Key.configuration).getD .null
      stopOnError := i.parameters.flagField "stop_on_error"
      defaultRows := defaultRows i.parameters }

/-- The report on an iteration. -/
def report (summary : IterationSummary) : Document :=
  Document.ofFields
    [("rows", .ofNat summary.rows),
     ("invocations", .ofNat summary.invocations),
     ("used_default_rows", .flag summary.usedDefaultRows)]

def body (invoke : Invoker) (i : Invocation) : Run PolicyError Document := do
  let wanted ← iteration i
  let summary ← (wanted.run invoke).mapError .query
  return report summary

end GridPolicy.QueryProcessor
