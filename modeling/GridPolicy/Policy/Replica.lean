import GridPolicy.Policy.Basic

/-!
# Policies on replicas

Replication makes copies of an object, verification compares a copy with its
source, retention removes what need not be kept, and movement is the three in
this order. A separate policy compares the checksum of a stored file with the
catalog.
-/
namespace GridPolicy

/-- The configured resource for new replicas, by the resource of the source. -/
def destinationMapKey : String := "source_to_destination_map"

/-- The destinations of a source in the configured map: one, or a list of which
only the names count. Without a map there is no answer, not even an empty one. -/
def mappedDestinations? (configuration : Document) (source : String) : Option (List String) :=
  (configuration.get? destinationMapKey).map fun destinations =>
    match destinations.get? source with
    | some (.text name) => if name == "" then [] else [name]
    | some (.array items) => (items.filterMap Document.text?).filter fun name => name != ""
    | _ => []

/-- Where an object is to be copied to: the destination of the parameters, or the
configured one, or those that the map has for the source. -/
def destinations? (captured : Capture) (configuration : Document) : Option (List String) :=
  if captured.destinationResource != "" then some [captured.destinationResource]
  else
    match configuration.filledField? Key.destinationResource with
    | some destination => some [destination]
    | none => mappedDestinations? configuration captured.sourceResource

/-- What is said where no destination can be found. -/
def noDestinationDetail : String :=
  "destination_resource or source_to_destination_map not provided"

namespace Replication

def name : String := "irods_policy_data_replication"

/-- Makes one copy. -/
def copyTo (captured : Capture) (destination : String) : Run ServiceError Unit :=
  Run.ask (.replicate captured.userName captured.logicalPath captured.sourceResource destination)

/-- The failure of one copy among several. -/
def failureOf (policy : String) (captured : Capture) (destination : String) (e : ServiceError) :
    InvocationFailure :=
  ⟨policy, e.status.code,
    "failed to replicate [" ++ captured.logicalPath ++ "] from [" ++ captured.sourceResource ++
      "] to [" ++ destination ++ "]: " ++ e.message⟩

/-- Makes several copies and collects the failures. -/
def copyToAll (policy : String) (captured : Capture) :
    List String → Run PolicyError (List InvocationFailure)
  | [] => return []
  | destination :: r => do
    let result ← (copyTo captured destination).attempt
    let failures ← copyToAll policy captured r
    match result with
    | .ok _ => return failures
    | .error e => return failureOf policy captured destination e :: failures

/-- A single copy fails with its own error, several with all of theirs. -/
def body (_ : Invoker) (i : Invocation) : Run PolicyError Document := do
  let captured := Capture.ofParameters i.parameters .root
  if captured.logicalPath == "" then i.refuse "logical_path is empty"
  match destinations? captured i.configuration with
  | none => i.refuse noDestinationDetail
  | some [] => return .null
  | some [destination] =>
    (copyTo captured destination).mapError .service
    return .null
  | some destinations =>
    let failures ← copyToAll i.policy captured destinations
    Run.ofExcept (PolicyError.ofFailures failures)
    return .null

end Replication

namespace ReplicaVerification

def name : String := "irods_policy_data_verification"

/-- The attribute of a resource that says how its replicas are verified. -/
def defaultModeAttribute : String := "irods::verification::type"

/-- The value of the first triple with the given attribute, empty if there is none. -/
def modeName (avus : List Avu) (marker : String) : String :=
  ((avus.find? fun avu => avu.name == marker).map (·.value)).getD ""

def body (_ : Invoker) (i : Invocation) : Run PolicyError Document := do
  let captured := Capture.ofParameters i.parameters .root
  let source := (i.configuration.filledField? Key.sourceResource).getD captured.sourceResource
  if source == "" then i.refuse "source_resource is not specified"
  let destination := captured.destinationResource
  if destination == "" then i.refuse "destination_resource is not specified"
  let marker := (i.configuration.filledField? "attribute").getD defaultModeAttribute
  let avus ← (Run.ask (.metadataOf .resource destination)).mapError .service
  let mode ← (Run.ofExcept (VerificationMode.parse (modeName avus marker))).mapError .verification
  let agrees ← (Verification.verify mode captured.logicalPath source destination).mapError
    .verification
  if agrees then return .null
  else Run.fail (.verificationFailed captured.logicalPath source destination mode)

end ReplicaVerification

namespace ReplicaRetention

def name : String := "irods_policy_data_retention"

/-- A row of a query names the user, the collection and the object, and may name
the resource of the replica. -/
def captureRow? (row : List Document) : Option Capture := do
  let column (n : Nat) : Option String := row[n]?.bind Document.text?
  let userName ← column 0
  let collection ← column 1
  let dataName ← column 2
  return {
    userName
    logicalPath := LogicalPath.join collection dataName
    sourceResource := (column 3).getD ""
    destinationResource := "" }

/-- What is to be removed, from a row or from the parameters. -/
def capture (i : Invocation) : Run PolicyError Capture :=
  match i.parameters.get? Key.queryResults with
  | some (.array row) =>
    match captureRow? row with
    | some captured => return captured
    | none => i.refuse "query_results must hold user name, collection name and data name"
  | _ => return Capture.ofParameters i.parameters .root

/-- The resources that removal is allowed from. -/
def whitelist (i : Invocation) : Run PolicyError (Option (List String)) :=
  match i.configuration.get? "resource_white_list" with
  | none => return none
  | some .null => return none
  | some (.array items) => return some (items.filterMap Document.text?)
  | some _ => i.refuse "resource_white_list must be an array"

/-- With a whitelist the source has to be named, and to be on it. -/
def checkSource (i : Invocation) (source : String) : Option (List String) → Run PolicyError Unit
  | none => return ()
  | some allowed =>
    if source == "" then i.refuse "resource whitelist provided with empty source resource"
    else if !allowed.contains source then
      i.refuse ("source resource not matched [" ++ source ++ "]")
    else return ()

/-- The configured mode, or else the one that fits what is named. -/
def mode (i : Invocation) (source : String) : Run PolicyError RetentionMode :=
  match i.configuration.filledField? "mode" with
  | some word => (Run.ofExcept (RetentionMode.parse word)).mapError .retention
  | none => return if source == "" then .removeAllReplicas else .trimSingleReplica

def body (_ : Invoker) (i : Invocation) : Run PolicyError Document := do
  let captured ← capture i
  let listed ← whitelist i
  checkSource i captured.sourceResource listed
  let mode ← mode i captured.sourceResource
  let _ ← (Retention.apply {
    mode
    userName := captured.userName
    logicalPath := captured.logicalPath
    sourceResource := captured.sourceResource
    destinationResource := captured.destinationResource
    whitelist := listed
    preservationAttribute :=
      (i.configuration.filledField? "attribute").getD defaultPreservationAttribute }).mapError
    .retention
  return .null

end ReplicaRetention

namespace Movement

def name : String := "irods_policy_data_movement"

/-- The policies that a movement consists of, in order. -/
def steps : List String := [Replication.name, ReplicaVerification.name, ReplicaRetention.name]

/-- What every step receives. -/
def stepParameters (captured : Capture) (destination : String) : Document :=
  Document.ofFields
    [(Key.userName, .text captured.userName),
     (Key.logicalPath, .text captured.logicalPath),
     (Key.sourceResource, .text captured.sourceResource),
     (Key.destinationResource, .text destination)]

/-- Invokes the steps in order. The first that fails ends the movement. -/
def runSteps (invoke : Invoker) (parameters configuration : Document) :
    List String → Run PolicyError Unit
  | [] => return ()
  | step :: r => do
    let _ ← invoke step parameters configuration
    runSteps invoke parameters configuration r

/-- An object moves to one place, the first of those that it would be copied to. -/
def body (invoke : Invoker) (i : Invocation) : Run PolicyError Document := do
  let captured := Capture.ofParameters i.parameters .root
  match destinations? captured i.configuration with
  | none => i.refuse noDestinationDetail
  | some [] => return .null
  | some (destination :: _) =>
    runSteps invoke (stepParameters captured destination) i.configuration steps
    return .null

end Movement

namespace ChecksumCheck

def name : String := "irods_policy_verify_checksum"

/-- Asks for the replica of an object on a resource. -/
def replicaQuery (collection name resource : String) : String :=
  "SELECT DATA_CHECKSUM, DATA_RESC_HIER, DATA_PATH, DATA_SIZE WHERE DATA_NAME = '" ++ name ++
    "' AND COLL_NAME = '" ++ collection ++ "' AND RESC_NAME = '" ++ resource ++ "'"

/-- Computes the checksum of a replica where it is stored and holds it against the
catalog. A catalog without a checksum disagrees with nothing. -/
def body (_ : Invoker) (i : Invocation) : Run PolicyError Document := do
  let captured := Capture.ofParameters i.parameters .leaf
  let path := captured.logicalPath
  let resource := captured.sourceResource
  if path == "" || resource == "" then i.refuse "requires logical_path and source_resource"
  let (collection, dataName) := LogicalPath.split path
  let rows ← (queryRows (replicaQuery collection dataName resource) 1 .general).mapError .service
  match rows with
  | [] => Run.fail (.verification (.replicaDoesNotExist path resource))
  | row :: _ =>
    let registered := row[0]?.getD ""
    let hierarchy := row[1]?.getD ""
    let physicalPath := row[2]?.getD ""
    let size := row[3]?.getD ""
    let location ← (Run.ask (.location hierarchy)).mapError .service
    match Text.nat64? (Text.trim size) with
    | none => Run.fail (.verification (.invalidSize size))
    | some bytes =>
      let computed ← (Run.ask (.fileChecksum location physicalPath hierarchy path bytes)).mapError
        .service
      if registered != "" && registered != computed then
        Run.fail (.checksumMismatch path resource computed registered)
      return .object [("checksum", .text computed)]

end ChecksumCheck

end GridPolicy
