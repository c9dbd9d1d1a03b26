import GridPolicy.Policy.Basic
import GridPolicy.Policy.Chain

/-!
# Events along a chain of resources

Resources that carry the configured metadata are listed in the order of their
units, and every two neighbours become source and destination of an invocation of
each listed policy. Storage tiers marked 0, 1 and 2 so have their data moved from
each to the next.
-/
namespace GridPolicy.ResourcePairs

def name : String := "irods_policy_event_generator_resource_metadata"

/-- The columns of the catalog for the parts of a triple. -/
def columns : List (String × String) :=
  [("attribute", "META_RESC_ATTR_NAME"),
   ("value", "META_RESC_ATTR_VALUE"),
   ("units", "META_RESC_ATTR_UNITS")]

/-- The condition on a column, if the metadata has a value for it. -/
def clause? (metadata : Document) (column : String × String) : Option String :=
  (metadata.filledField? column.1).map fun wanted => column.2 ++ " = '" ++ wanted ++ "'"

/-- Asks for the resources that carry the metadata, in the order of their units. -/
def resourceQuery (metadata : Document) : String :=
  let clauses := columns.filterMap (clause? metadata)
  "SELECT RESC_NAME, ORDER(META_RESC_ATTR_UNITS)" ++
    if clauses.isEmpty then "" else " WHERE " ++ Text.join " AND " clauses

/-- The configured metadata with the values of a row put in. This is done on the
written form, so the result has to be read again and can be malformed. -/
def fillMetadata? (metadata : Document) (row : List Document) : Option Document :=
  Document.Reader.parse (Template.fillRow metadata.written (row.map Document.plain))

/-- The metadata to look for. -/
def wantedMetadata (i : Invocation) (metadata : Document) : Run PolicyError Document :=
  match i.parameters.get? Key.queryResults with
  | some (.array row) =>
    match fillMetadata? metadata row with
    | some filled => return filled
    | none => i.refuse "conditional metadata after substitution: malformed"
  | _ => return metadata

/-- The parameters for two neighbours. -/
def pairParameters (base : Fields) (source destination : String) : Document :=
  .object ((base.insert Key.sourceResource (.text source)).insert Key.destinationResource
    (.text destination))

/-- Invokes a policy for every pair and collects the failures. -/
def runPairs (invoke : Invoker) (policy : String) (base : Fields) (configuration : Document) :
    List (String × String) → Run PolicyError (List InvocationFailure)
  | [] => return []
  | (source, destination) :: r => do
    let result ← (invoke policy (pairParameters base source destination) configuration).attempt
    let failures ← runPairs invoke policy base configuration r
    match result with
    | .ok _ => return failures
    | .error e => return PolicyError.failureOf policy e :: failures

/-- Neighbours in a list. -/
def neighbours (resources : List String) : List (String × String) :=
  resources.zip resources.tail

/-- Runs the entries in order. One without a name is passed over, and one without
a configuration has that of the generator. -/
def runEntries (invoke : Invoker) (i : Invocation) (pairs : List (String × String)) :
    List Document → Run PolicyError (List InvocationFailure)
  | [] => return []
  | entry :: r => do
    let failures ←
      match entryName? entry with
      | none => pure []
      | some policy =>
        runPairs invoke policy i.parameters.fields
          ((entry.get? Key.configuration).getD i.configuration) pairs
    return failures ++ (← runEntries invoke i pairs r)

/-- The configured metadata, which has to be there. -/
def configuredMetadata? (configuration : Document) : Option Document := do
  (← configuration.get? Key.conditional).get? Key.metadata

def body (invoke : Invoker) (i : Invocation) : Run PolicyError Document := do
  let entries := chainEntries i.configuration
  if entries.isEmpty then i.refuse "policies_to_invoke is empty"
  match configuredMetadata? i.configuration with
  | none => i.refuse "missing conditional metadata"
  | some configured =>
    let metadata ← wantedMetadata i configured
    let rows ← (queryRows (resourceQuery metadata) 0 .general).mapError .service
    let failures ← runEntries invoke i (neighbours (rows.filterMap List.head?)) entries
    Run.ofExcept (PolicyError.ofFailures failures)
    return .null

end GridPolicy.ResourcePairs
