import GridPolicy.Query.Template
import GridPolicy.Text.Integer

/-!
# Verification

Whether the replica of an object on one resource agrees with the one on another.
A replica that is not there is an error and never a disagreement.
-/
namespace GridPolicy

inductive VerificationMode where
  /-- The sizes in the catalog agree. -/
  | catalog
  /-- The size of the file at the destination is the one the catalog has for the source. -/
  | filesystem
  /-- The checksums agree; one that the catalog does not have is computed. -/
  | checksum
  deriving DecidableEq, Repr

inductive VerificationError where
  | unsupportedMode (mode : String)
  | missingInput (name : String)
  | replicaDoesNotExist (path resource : String)
  | invalidSize (size : String)
  | substitution (cause : SubstitutionError)
  | service (cause : ServiceError)
  deriving DecidableEq, Repr

namespace VerificationError

def status : VerificationError → Status
  | .unsupportedMode _ => .invalidInput
  | .missingInput _ => .invalidInput
  | .replicaDoesNotExist _ _ => .replicaDoesNotExist
  | .invalidSize _ => .invalidInput
  | .substitution cause => cause.status
  | .service cause => cause.status

def message : VerificationError → String
  | .unsupportedMode mode => "invalid verification type [" ++ mode ++ "]"
  | .missingInput name => name ++ " is empty"
  | .replicaDoesNotExist path resource =>
    "replica for [" ++ path ++ "] does not exist on resource [" ++ resource ++ "]"
  | .invalidSize size => "replica size [" ++ size ++ "] is not a number"
  | .substitution cause => "leaf resolution failed: " ++ cause.message
  | .service cause => "service error: " ++ cause.message

end VerificationError

namespace VerificationMode

def name : VerificationMode → String
  | .catalog => "catalog"
  | .filesystem => "filesystem"
  | .checksum => "checksum"

/-- Reads a mode; no text means the catalog. -/
def parse (s : String) : Except VerificationError VerificationMode :=
  if s == "" || s == "catalog" then .ok .catalog
  else if s == "filesystem" then .ok .filesystem
  else if s == "checksum" then .ok .checksum
  else .error (.unsupportedMode s)

theorem parse_name (m : VerificationMode) : parse m.name = .ok m := by cases m <;> rfl

end VerificationMode

/-- What the catalog knows of a replica. The size is kept as it was reported. -/
structure ReplicaAttributes where
  physicalPath : String
  hierarchy : String
  dataSize : String
  checksum : String
  deriving DecidableEq, Repr

namespace Verification

/-- Asks for the replica of an object on one of the leaves. -/
def replicaQuery (collection name leaves : String) : String :=
  "SELECT DATA_PATH, DATA_RESC_HIER, DATA_SIZE, DATA_CHECKSUM WHERE DATA_NAME = '" ++ name ++
    "' AND COLL_NAME = '" ++ collection ++ "' AND DATA_RESC_ID IN (" ++ leaves ++ ")"

/-- The attributes in a row of the replica query; a missing column is empty. -/
def attributesOf (row : Row) : ReplicaAttributes where
  physicalPath := row[0]?.getD ""
  hierarchy := row[1]?.getD ""
  dataSize := row[2]?.getD ""
  checksum := row[3]?.getD ""

/-- Looks up the replica of an object on any leaf of a resource. -/
def replicaAttributes (path resource : String) : Run VerificationError ReplicaAttributes := do
  let (collection, name) := LogicalPath.split path
  let leaves ← (leafBundle resource).mapError .substitution
  let rows ← (queryRows (replicaQuery collection name leaves) 1 .general).mapError .service
  match rows with
  | [] => Run.fail (.replicaDoesNotExist path resource)
  | row :: _ => return attributesOf row

/-- The checksum that the catalog has, or else one computed now. -/
def knownChecksum (path resource cached : String) : Run VerificationError String :=
  if cached != "" then return cached
  else (Run.ask (.checksum path resource)).mapError .service

/-- Compares two replicas of an object. -/
def compare (mode : VerificationMode) (path source destination : String)
    (atSource atDestination : ReplicaAttributes) : Run VerificationError Bool :=
  match mode with
  | .catalog => return atSource.dataSize == atDestination.dataSize
  | .filesystem =>
    match Text.nat64? (Text.trim atSource.dataSize) with
    | none => Run.fail (.invalidSize atSource.dataSize)
    | some expected => do
      let actual ←
        (Run.ask (.stat path atDestination.hierarchy atDestination.physicalPath)).mapError .service
      return actual == expected
  | .checksum => do
    let first ← knownChecksum path source atSource.checksum
    let second ← knownChecksum path destination atDestination.checksum
    return first == second

/-- Whether the replica on the destination agrees with the one on the source. -/
def verify (mode : VerificationMode) (path source destination : String) :
    Run VerificationError Bool := do
  if path == "" then Run.fail (.missingInput "logical path")
  if source == "" then Run.fail (.missingInput "source resource")
  if destination == "" then Run.fail (.missingInput "destination resource")
  let atSource ← replicaAttributes path source
  let atDestination ← replicaAttributes path destination
  compare mode path source destination atSource atDestination

end Verification

end GridPolicy
