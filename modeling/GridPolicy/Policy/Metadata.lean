import GridPolicy.Decimal.Places
import GridPolicy.Policy.Basic

/-!
# Policies that write metadata

One policy writes the time of access to an object, or to all objects below a
collection. Another writes to a resource how full its file system is.
-/
namespace GridPolicy

namespace AccessTime

def name : String := "irods_policy_access_time"

/-- The attribute for the time of access, unless another one is configured. -/
def defaultAttribute : String := "irods::access_time"

/-- The keyword input that marks an operation on a collection. -/
def collectionKeyword : String := "collection"

def objectOwnerQuery (collection name : String) : String :=
  "SELECT USER_NAME WHERE COLL_NAME = '" ++ collection ++ "' AND DATA_NAME = '" ++ name ++ "'"

def collectionOwnerQuery (collection : String) : String :=
  "SELECT USER_NAME WHERE COLL_NAME = '" ++ collection ++ "'"

/-- Asks for the objects directly in a collection. -/
def memberQuery (collection : String) : String :=
  "SELECT COLL_NAME, DATA_NAME WHERE COLL_NAME = '" ++ collection ++ "'"

/-- Asks for the objects in the collections below a collection. -/
def descendantQuery (collection : String) : String :=
  "SELECT COLL_NAME, DATA_NAME WHERE COLL_NAME LIKE '" ++
    String.ofList (LogicalPath.trimmed collection.toList) ++ "/%'"

/-- The owner that a query finds; an empty name is none. -/
def owner? (query : String) : Run ServiceError (Option String) := do
  let rows ← queryRows query 1 .general
  return (rows.head?.bind List.head?).filter fun name => name != ""

/-- The path in a row of collection and name. -/
def pathOfRow? : Row → Option String
  | collection :: name :: _ => some (LogicalPath.join collection name)
  | _ => none

/-- The paths of all objects in and below a collection, in order and none twice. -/
def objectsBeneath (collection : String) : Run ServiceError (List String) := do
  let members ← queryRows (memberQuery collection) 0 .general
  let descendants ← queryRows (descendantQuery collection) 0 .general
  return Text.ordered ((members ++ descendants).filterMap pathOfRow?)

/-- What is written, and for whom. -/
structure Stamp where
  label : String
  time : String
  owner : Option String
  deriving DecidableEq, Repr

def write (stamp : Stamp) (path : String) : Run ServiceError Unit :=
  Run.ask (.modifyMetadata .set .dataObject path ⟨stamp.label, stamp.time, ""⟩ stamp.owner)

def failureOf (policy path : String) (e : ServiceError) : InvocationFailure :=
  ⟨policy, e.status.code,
    "failed to update access time for object [" ++ path ++ "]: " ++ e.message⟩

/-- Writes to every object and collects the failures. -/
def writeAll (policy : String) (stamp : Stamp) :
    List String → Run PolicyError (List InvocationFailure)
  | [] => return []
  | path :: r => do
    let result ← (write stamp path).attempt
    let failures ← writeAll policy stamp r
    match result with
    | .ok _ => return failures
    | .error e => return failureOf policy path e :: failures

/-- Whether the parameters tell of an operation on a collection. -/
def isCollectionOperation (parameters : Document) : Bool :=
  ((parameters.get? Key.condInput).bind (·.filledField? collectionKeyword)).isSome

/-- Stamps as the owner, or as the acting user where no owner is found. -/
def body (_ : Invoker) (i : Invocation) : Run PolicyError Document := do
  let captured := Capture.ofParameters i.parameters .root
  let path := captured.logicalPath
  if path == "" then i.refuse "requires user_name and logical_path"
  let label := (i.configuration.filledField? "attribute").getD defaultAttribute
  let time := toString (← Run.now)
  let actor := if captured.userName == "" then none else some captured.userName
  if isCollectionOperation i.parameters then
    let owner ← (owner? (collectionOwnerQuery path)).mapError .service
    let paths ← (objectsBeneath path).mapError .service
    let failures ← writeAll i.policy ⟨label, time, owner.or actor⟩ paths
    Run.ofExcept (PolicyError.ofFailures failures)
    return .null
  else
    let (collection, dataName) := LogicalPath.split path
    let owner ← (owner? (objectOwnerQuery collection dataName)).mapError .service
    (write ⟨label, time, owner.or actor⟩ path).mapError .service
    return .null

end AccessTime

namespace FilesystemUsage

def name : String := "irods_policy_filesystem_usage"

/-- The attribute of a resource that holds the percentage in use. -/
def percentAttribute : String := "irods::resource::filesystem_percent_used"

/-- The percentage of blocks in use, if there are any blocks. -/
def percentUsed? (stats : FilesystemStats) : Option Float :=
  if stats.total == 0 then none
  else
    some (100.0 * (1.0 - stats.available.toUInt64.toFloat / stats.total.toUInt64.toFloat))

/-- The percentage with six decimal places. -/
def percentText? (stats : FilesystemStats) : Option String :=
  (percentUsed? stats).bind (Decimal.withPlaces? 6)

def body (_ : Invoker) (i : Invocation) : Run PolicyError Document := do
  let resource := (Capture.ofParameters i.parameters .root).sourceResource
  if resource == "" then i.refuse "source_resource is empty"
  Run.mapError PolicyError.service do
    let vault ← Run.ask (.vaultPath resource)
    let stats ← Run.ask (.filesystemStats vault)
    match percentText? stats with
    | none =>
      Run.fail (.storageFailed "filesystem_stats" vault "filesystem reports zero total blocks")
    | some percent =>
      Run.ask (.modifyMetadata .set .resource resource ⟨percentAttribute, percent, ""⟩ none)
      return .null

end FilesystemUsage

end GridPolicy
