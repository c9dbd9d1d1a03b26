import GridPolicy.Conditional
import GridPolicy.Policy.Basic
import GridPolicy.Policy.Chain

/-!
# Delegation by the metadata of collections

An event is handed on to policies whose conditional metadata is found on the
collection that it concerns, or on one above it. Each entry is tried on every
collection upwards from the path, and every collection with a matching triple
leads to one invocation. The matching triple takes the place of the conditional's
metadata in the parameters handed on.
-/
namespace GridPolicy.Delegation

def name : String := "irods_policy_event_delegate_collection_metadata"

/-- The parameters with the triple that was found as the conditional's metadata. -/
def forwarded (parameters : Document) (entity : EntityType) (avu : Avu) : Document :=
  let found := Document.ofFields
    [(Key.entityType, .text entity.name),
     ("attribute", .text avu.name),
     ("value", .text avu.value),
     ("units", .text avu.units)]
  let conditional := (parameters.objectField Key.conditional).insert Key.metadata found
  .object (parameters.fields.insert Key.conditional (.object conditional))

/-- An entry that can be tried: its policy, its metadata and its configuration. -/
structure Delegate where
  policy : String
  metadata : Document
  configuration : Document

/-- An entry without a name or without conditional metadata is passed over. -/
def Delegate.ofEntry? (entry : Document) : Option Delegate := do
  let policy ← entryName? entry
  let conditional ← entry.get? Key.conditional
  let metadata ← conditional.get? Key.metadata
  return { policy, metadata, configuration := (entry.get? Key.configuration).getD .null }

/-- A text in a document, empty if it is absent or no text. -/
def textIn (d : Document) (key : String) : String := ((d.get? key).bind Document.text?).getD ""

/-- Whether the kinds of entity that entry and event speak of are compatible. -/
def Delegate.concerns (d : Delegate) (eventEntity : String) : Bool :=
  let wanted := textIn d.metadata Key.entityType
  wanted == "" || eventEntity == "" || wanted == eventEntity

/-- The constraints of an entry on a triple. -/
def Delegate.pattern (i : Invocation) (d : Delegate) : Run PolicyError MetadataPattern :=
  match Conditional.parse (.object [(Key.metadata, d.metadata)]) with
  | .ok conditional => return conditional.metadata
  | .error e => i.refuse ("conditional for [" ++ d.policy ++ "]: " ++ e.message)

/-- The first triple of a collection that is looked for. -/
def matchOn (pattern : MetadataPattern) (path : String) : Run PolicyError (Option Avu) := do
  let avus ← (Run.ask (.metadataOf .collection path)).mapError .service
  return avus.find? pattern.matchesAvu

/-- Tries an entry on one path. A data object has no metadata to look at. -/
def tryPath (invoke : Invoker) (i : Invocation) (entity : EntityType) (d : Delegate)
    (pattern : MetadataPattern) (path : String) (kind : Run PolicyError ObjectKind) :
    Run PolicyError (List InvocationFailure) := do
  if (← kind) == .dataObject then return []
  match ← matchOn pattern path with
  | none => return []
  | some avu =>
    match ← (invoke d.policy (forwarded i.parameters entity avu) d.configuration).attempt with
    | .ok _ => return []
    | .error e => return [PolicyError.failureOf d.policy e]

/-- Tries an entry on the collections above the path. -/
def tryAbove (invoke : Invoker) (i : Invocation) (entity : EntityType) (d : Delegate)
    (pattern : MetadataPattern) : List String → Run PolicyError (List InvocationFailure)
  | [] => return []
  | path :: r => do
    let failures ← tryPath invoke i entity d pattern path ((objectKind path).mapError .service)
    return failures ++ (← tryAbove invoke i entity d pattern r)

/-- Tries an entry on the path itself, whose kind is known, and on all above it. -/
def tryEntry (invoke : Invoker) (i : Invocation) (path : String) (start : ObjectKind)
    (d : Delegate) : Run PolicyError (List InvocationFailure) := do
  let pattern ← d.pattern i
  let entity := if start == .dataObject then EntityType.dataObject else .collection
  match LogicalPath.ancestors path with
  | [] => return []
  | first :: above =>
    let failures ← tryPath invoke i entity d pattern first (pure start)
    return failures ++ (← tryAbove invoke i entity d pattern above)

/-- Tries the entries in order. -/
def tryEntries (invoke : Invoker) (i : Invocation) (path : String) (start : ObjectKind)
    (eventEntity : String) : List Document → Run PolicyError (List InvocationFailure)
  | [] => return []
  | entry :: r => do
    let failures ←
      match Delegate.ofEntry? entry with
      | none => pure []
      | some d => if d.concerns eventEntity then tryEntry invoke i path start d else pure []
    return failures ++ (← tryEntries invoke i path start eventEntity r)

/-- The kind of entity that the event speaks of, empty if it speaks of none. -/
def eventEntity (parameters : Document) : String :=
  ((parameters.get? Key.metadata).map fun metadata => textIn metadata Key.entityType).getD ""

def body (invoke : Invoker) (i : Invocation) : Run PolicyError Document := do
  let entries := chainEntries i.configuration
  if entries.isEmpty then i.refuse "policies_to_invoke is empty for event delegate"
  let path := (Capture.ofParameters i.parameters .root).logicalPath
  if path == "" then i.refuse "logical_path is empty"
  let start ← (objectKind path).mapError .service
  let failures ← tryEntries invoke i path start (eventEntity i.parameters) entries
  Run.ofExcept (PolicyError.ofFailures failures)
  return .null

end GridPolicy.Delegation
