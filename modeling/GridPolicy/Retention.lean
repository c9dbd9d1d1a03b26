import GridPolicy.Capture
import GridPolicy.Run
import GridPolicy.Text.Ordered

/-!
# Retention

Which replicas of an object are removed. A replica is known by the root of the
resource hierarchy that it lies in. Only replicas on whitelisted resources are
removed, and none on a resource that carries the preservation attribute. The plan
is a function of what the catalog answered; carrying it out is separate.
-/
namespace GridPolicy

/-- The attribute that marks resources whose replicas stay, unless another one is
configured. -/
def defaultPreservationAttribute : String := "irods::retention::preserve_replicas"

inductive RetentionMode where
  /-- Removes every replica that may be removed. -/
  | removeAllReplicas
  /-- Removes exactly one replica. -/
  | trimSingleReplica
  deriving DecidableEq, Repr

inductive RetentionError where
  | unsupportedMode (mode : String)
  | missingInput (name : String)
  | service (cause : ServiceError)
  deriving DecidableEq, Repr

namespace RetentionError

def status : RetentionError → Status
  | .unsupportedMode _ => .invalidInput
  | .missingInput _ => .invalidInput
  | .service cause => cause.status

def message : RetentionError → String
  | .unsupportedMode mode => "unknown retention mode [" ++ mode ++ "]"
  | .missingInput name => name ++ " is empty"
  | .service cause => "service error: " ++ cause.message

end RetentionError

namespace RetentionMode

def name : RetentionMode → String
  | .removeAllReplicas => "remove_all_replicas"
  | .trimSingleReplica => "trim_single_replica"

def parse (s : String) : Except RetentionError RetentionMode :=
  if s == "remove_all_replicas" then .ok .removeAllReplicas
  else if s == "trim_single_replica" then .ok .trimSingleReplica
  else .error (.unsupportedMode s)

theorem parse_name (m : RetentionMode) : parse m.name = .ok m := by cases m <;> rfl

end RetentionMode

/-- Why nothing is removed. -/
inductive RetainReason where
  | noReplicas
  | nothingRemovable
  | noSingleReplica
  | notRemovable (resource : String)
  deriving DecidableEq, Repr

def RetainReason.text : RetainReason → String
  | .noReplicas => "object has no replicas"
  | .nothingRemovable => "no replica is both whitelisted and unpreserved"
  | .noSingleReplica => "no single replica identified for trimming"
  | .notRemovable resource =>
    "replica on [" ++ resource ++ "] is not whitelisted or is preserved"

inductive RemovalPlan where
  /-- The object goes altogether. -/
  | unlink
  /-- The replicas on these resources go. -/
  | trim (resources : List String)
  | retain (reason : RetainReason)
  deriving DecidableEq, Repr

/-- Whether the replica on a resource may be removed. Without a whitelist every
resource counts as listed. -/
def removable (preserved : List String) (whitelist : Option (List String))
    (resource : String) : Bool :=
  (match whitelist with
    | none => true
    | some listed => listed.contains resource) && !preserved.contains resource

/-- All replicas that may be removed; the object goes if that leaves none. -/
def planRemoveAll (replicas preserved : List String) (whitelist : Option (List String)) :
    RemovalPlan :=
  let candidates := replicas.filter (removable preserved whitelist)
  if candidates.isEmpty then .retain .nothingRemovable
  else if candidates.length == replicas.length then .unlink
  else .trim candidates

/-- The replica to trim: the one at the source if it is named, else of two
replicas the one that is not at the destination. -/
def trimTarget? (replicas : List String) (source destination : String) : Option String :=
  if source != "" then some source
  else if replicas.length == 2 && destination != "" then
    replicas.find? fun r => r != destination
  else none

def planTrimSingle (replicas preserved : List String) (whitelist : Option (List String))
    (source destination : String) : RemovalPlan :=
  match trimTarget? replicas source destination with
  | none => .retain .noSingleReplica
  | some target =>
    if removable preserved whitelist target then .trim [target]
    else .retain (.notRemovable target)

/-- What to remove. A source that is named need not be among the replicas. -/
def planRemoval (mode : RetentionMode) (replicas preserved : List String)
    (whitelist : Option (List String)) (source destination : String) : RemovalPlan :=
  match mode with
  | .removeAllReplicas => planRemoveAll replicas preserved whitelist
  | .trimSingleReplica => planTrimSingle replicas preserved whitelist source destination

structure RetentionRequest where
  mode : RetentionMode
  /-- The user that removes. -/
  userName : String
  logicalPath : String
  sourceResource : String
  destinationResource : String
  whitelist : Option (List String)
  preservationAttribute : String
  deriving DecidableEq, Repr

namespace Retention

/-- Asks for the resources that hold a replica. -/
def replicaQuery (collection name : String) : String :=
  "SELECT RESC_NAME, DATA_RESC_HIER WHERE COLL_NAME = '" ++ collection ++
    "' AND DATA_NAME = '" ++ name ++ "'"

/-- Asks which of the resources are marked for preservation. -/
def preservationQuery (resources : List String) (marker : String) : String :=
  "SELECT RESC_NAME WHERE RESC_NAME IN (" ++
    Text.join ", " (resources.map fun r => "'" ++ r ++ "'") ++
    ") AND META_RESC_ATTR_NAME = '" ++ marker ++ "'"

/-- The root of the hierarchy in a row of the replica query, or the resource
itself where there is no hierarchy. -/
def replicaRoot? : Row → Option String
  | [] => none
  | [name] => some name
  | name :: hierarchy :: _ =>
    let root := hierarchyResource hierarchy .root
    some (if root == "" then name else root)

/-- The replicas with the source behind them if it is named and not one of them. -/
def considered (replicas : List String) (source : String) : List String :=
  if source != "" && !replicas.contains source then replicas ++ [source] else replicas

/-- Carries a plan out. The first removal that fails ends the run. -/
def carryOut (request : RetentionRequest) : RemovalPlan → Run ServiceError Unit
  | .unlink => Run.ask (.unlink request.userName request.logicalPath)
  | .trim resources => do
    let _ ← Run.forEach
      (fun resource => Run.ask (.trim request.userName request.logicalPath resource)) resources
    return ()
  | .retain _ => return ()

/-- The plan for an object that has replicas. -/
def plan (request : RetentionRequest) (replicas : List String) :
    Run ServiceError RemovalPlan := do
  let rows ← queryRows
    (preservationQuery (considered replicas request.sourceResource)
      request.preservationAttribute) 0 .general
  return planRemoval request.mode replicas (rows.filterMap List.head?) request.whitelist
    request.sourceResource request.destinationResource

/-- Plans and carries out the removal for one object. -/
def apply (request : RetentionRequest) : Run RetentionError RemovalPlan := do
  if request.logicalPath == "" then Run.fail (.missingInput "logical path")
  let (collection, name) := LogicalPath.split request.logicalPath
  Run.mapError RetentionError.service do
    let rows ← queryRows (replicaQuery collection name) 0 .general
    let replicas := Text.ordered (rows.filterMap replicaRoot?)
    if replicas.isEmpty then return .retain .noReplicas
    let decision ← plan request replicas
    carryOut request decision
    return decision

end Retention

end GridPolicy
