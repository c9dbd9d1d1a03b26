import GridPolicy.Capture
import GridPolicy.Document.Reader
import GridPolicy.Event.Session
import GridPolicy.Grid

/-!
# Classification

A call at an interception point becomes a list of events, each with a record. An
empty list means that the call only changed what the session remembers, or is of
no interest. An open leaves no event of its own: what it was for shows at the
close, from the operation that hierarchy resolution chose and from the flags the
object was opened with. Truncation shows both at the open and at the close.

A close after success or failure releases its handle before anything else can go
wrong, so a close that cannot be classified still ends the handle's life.
-/
namespace GridPolicy

structure ClassifiedEvent where
  event : Event
  record : EventRecord
  deriving Repr

inductive ClassifierError where
  | malformedName (name : String)
  | unsupportedPoint (name : String)
  | unexpectedArguments (name expected actual : String)
  | unknownHandle (name : String) (handle : Handle)
  | missingHierarchyOperation (name : String)
  | invalidArgument (name detail : String)
  deriving DecidableEq, Repr

namespace ClassifierError

def status : ClassifierError → Status
  | .unsupportedPoint _ => .unsupportedPoint
  | _ => .invalidInput

def message : ClassifierError → String
  | .malformedName name =>
    "interception point [" ++ name ++ "] is not of the form <operation>_<phase>"
  | .unsupportedPoint name => "interception point [" ++ name ++ "] is not supported"
  | .unexpectedArguments name expected actual =>
    "interception point [" ++ name ++ "] expects " ++ expected ++ " arguments, got " ++ actual
  | .unknownHandle name handle =>
    "no record in flight for handle " ++ toString handle ++ " at [" ++ name ++ "]"
  | .missingHierarchyOperation name =>
    "no hierarchy resolution recorded before [" ++ name ++ "]"
  | .invalidArgument name detail => "invalid argument at [" ++ name ++ "]: " ++ detail

end ClassifierError

/-- The event of an operation that has just one. -/
def tableEvent? : String → Option Event
  | "bulk_data_obj_put" => some .create
  | "data_obj_chksum" => some .checksum
  | "data_obj_copy" => some .copy
  | "data_obj_create_and_stat" => some .create
  | "data_obj_create" => some .create
  | "data_obj_get" => some .get
  | "data_obj_lseek" => some .seek
  | "data_obj_phymv" => some .replication
  | "data_obj_put" => some .put
  | "data_obj_rename" => some .rename
  | "data_obj_repl" => some .replication
  | "data_obj_trim" => some .trim
  | "data_obj_truncate" => some .truncate
  | "data_obj_unlink" => some .unlink
  | "phy_path_reg" => some .register
  | "coll_create" => some .create
  | "rm_coll" => some .remove
  | "mod_avu_metadata" => some .metadata
  | _ => none

/-- What the close of an object reports. A creation is a put, an open is a write
if the flags ask for writing and a get if they do not, and any other event that
hierarchy resolution named stands for itself. -/
def closeEvent? (operation : String) (openFlags : Int) : Option Event :=
  let word := Text.upper operation
  if word == "CREATE" then some .put
  else if word == "OPEN" then some (if hasWriteFlag openFlags then .write else .get)
  else Event.read? word

/-- The differences of neighbouring offsets, beginning at `previous`, if each of
them is an integer of 64 bits and none is negative. -/
def sizesFrom (previous : Int) : List Int → Option (List Int)
  | [] => some []
  | offset :: r =>
    match (Text.subInt64? offset previous).filter fun size => 0 ≤ size with
    | none => none
    | some size => (sizesFrom offset r).map fun sizes => size :: sizes

/-- The sizes of the objects in a bulk upload, from the offsets where each ends. -/
def bulkSizes? (offsets : List Int) : Option (List Int) := sizesFrom 0 offsets

namespace Classifier

/-- What classifying a call gives: the session as it is afterwards, and events or
an error. -/
abbrev Result := Session × Except ClassifierError (List ClassifiedEvent)

def objectRecord (input : DataObjectInput) : EventRecord := ⟨input.toFields⟩

/-- Completes a record: the event and the point, the client, and the user and the
resources where the record has none. -/
def decorate (client : ClientInfo) (point : String) (item : ClassifiedEvent) : ClassifiedEvent :=
  let record := (item.record.stamp item.event point).insert Key.comm client.toDocument
  let record := record.fillIfEmpty Key.userName client.userName
  let captured := Capture.ofParameters record.toDocument .root
  let record := record.fillIfEmpty Key.sourceResource captured.sourceResource
  let record := record.fillIfEmpty Key.destinationResource captured.destinationResource
  ⟨item.event, record⟩

def unexpected (point : InterceptionPoint) (expected : String) (actual : CallArguments) :
    ClassifierError :=
  .unexpectedArguments point.name expected actual.kind

/-- The handle that a call names, outright or in a payload. -/
def handleOf (point : InterceptionPoint) : CallArguments → Except ClassifierError Handle
  | .descriptor input => .ok input.handle
  | .replicaClose payload =>
    match Document.Reader.parse payload with
    | none => .error (.invalidArgument point.name "replica close payload is not JSON: malformed")
    | some doc =>
      match (doc.get? "fd").bind Decode.nat32 with
      | some handle => .ok handle
      | none =>
        .error (.invalidArgument point.name "replica close payload has no usable \"fd\"")
  | other => .error (unexpected point "descriptor" other)

/-- At the end of a call its handle may be gone already; at any other time that
is an error. -/
def missingHandle (point : InterceptionPoint) (handle : Handle) :
    Except ClassifierError (List ClassifiedEvent) :=
  if point.phase == .finally then .ok [] else .error (.unknownHandle point.name handle)

def resolveHierarchy (s : Session) (point : InterceptionPoint) : CallArguments → Result
  | .hierarchyResolution operation => (s.setHierarchyOperation (Text.trim operation), .ok [])
  | other => (s, .error (unexpected point "hierarchy_resolution" other))

/-- Opens an object: its record is kept if the handle is known, and only a
truncation is reported. -/
def openInput (s : Session) (input : DataObjectInput) (handle : Option Handle) : Result :=
  let record := objectRecord input
  let s := match handle with
    | some handle => s.track handle record
    | none => s
  (s, .ok (if hasTruncateFlag input.openFlags.toInt then [⟨.truncate, record⟩] else []))

def openObject (s : Session) (point : InterceptionPoint) : CallArguments → Result
  | .opened input handle => openInput s input handle
  | .dataObject input => openInput s input none
  | other => (s, .error (unexpected point "open" other))

/-- The events of a close, from the record of the open. -/
def closeEvents (point : InterceptionPoint) (operation : Option String) (record : EventRecord) :
    Except ClassifierError (List ClassifiedEvent) :=
  match operation with
  | none => .error (.missingHierarchyOperation point.name)
  | some operation =>
    let openFlags := (Text.int32? (record.field "open_flags")).getD 0
    match closeEvent? operation openFlags with
    | none =>
      .error (.invalidArgument point.name ("unknown hierarchy operation [" ++ operation ++ "]"))
    | some event =>
      .ok (⟨event, record⟩ :: if hasTruncateFlag openFlags then [⟨.truncate, record⟩] else [])

def closeObject (s : Session) (point : InterceptionPoint) (arguments : CallArguments) : Result :=
  match handleOf point arguments with
  | .error e => (s, .error e)
  | .ok handle =>
    let after := match point.phase with
      | .post | .except => s.release handle
      | .pre | .finally => s
    match s.peek? handle with
    | none => (after, missingHandle point handle)
    | some record => (after, closeEvents point s.hierarchyOperation record)

def seekObject (s : Session) (point : InterceptionPoint) (arguments : CallArguments) :
    Except ClassifierError (List ClassifiedEvent) :=
  match handleOf point arguments with
  | .error e => .error e
  | .ok handle =>
    match s.peek? handle with
    | some record => .ok [⟨.seek, record⟩]
    | none => missingHandle point handle

def bulkPut (point : InterceptionPoint) :
    CallArguments → Except ClassifierError (List ClassifiedEvent)
  | .bulkPut paths offsets keywords =>
    if paths.length ≠ offsets.length then
      .error (.invalidArgument point.name
        (toString paths.length ++ " logical paths but " ++ toString offsets.length ++ " offsets"))
    else
      match bulkSizes? offsets with
      | none => .error (.invalidArgument point.name "bulk offsets must not decrease")
      | some sizes =>
        .ok (paths.zipWith
          (fun path size =>
            ⟨.create, objectRecord { path, dataSize := size, keywords }⟩) sizes)
  | other => .error (unexpected point "bulk_put" other)

/-- A rename is reported once, by the old path before it and by the new one from
then on; a copy is reported for both paths. -/
def copyOrRename (point : InterceptionPoint) :
    CallArguments → Except ClassifierError (List ClassifiedEvent)
  | .copy source destination =>
    if point.base == "data_obj_rename" then
      .ok [⟨.rename, objectRecord (if point.phase == .pre then source else destination)⟩]
    else .ok [⟨.copy, objectRecord source⟩, ⟨.copy, objectRecord destination⟩]
  | other => .error (unexpected point "copy" other)

def dataObject (point : InterceptionPoint) (event : Event) :
    CallArguments → Except ClassifierError (List ClassifiedEvent)
  | .dataObject input =>
    let event := if input.operationType = unregisterOperation then .unregister else event
    .ok [⟨event, objectRecord input⟩]
  | other => .error (unexpected point "data_obj" other)

def collection (point : InterceptionPoint) :
    CallArguments → Except ClassifierError (List ClassifiedEvent)
  | .collection input =>
    match tableEvent? point.base with
    | some event => .ok [⟨event, ⟨input.toFields⟩⟩]
    | none => .error (.unsupportedPoint point.name)
  | other => .error (unexpected point "collection" other)

/-- The key under which a record names the entity that metadata is attached to. -/
def entityKey : EntityType → String
  | .dataObject => Key.logicalPath
  | .collection => Key.logicalPath
  | .user => Key.userName
  | .resource => Key.sourceResource

def metadata (point : InterceptionPoint) :
    CallArguments → Except ClassifierError (List ClassifiedEvent)
  | .metadata input =>
    match EntityType.ofOption? input.entityOption with
    | none =>
      .error (.invalidArgument point.name
        ("unknown entity option [" ++ input.entityOption ++ "]"))
    | some entity =>
      let details := Document.ofFields
        [(Key.entityType, .text entity.name),
         ("operation", .text input.operation),
         ("entity", .text input.entity),
         ("attribute", .text input.name),
         ("value", .text input.value),
         ("units", .text input.units)]
      .ok [⟨.metadata,
        ⟨Fields.ofList [(entityKey entity, .text input.entity), (Key.metadata, details)]⟩⟩]
  | other => .error (unexpected point "mod_avu" other)

def adminEvent? : String → Option Event
  | "add" => some .create
  | "modify" => some .modify
  | "rm" => some .remove
  | _ => none

def adminKey? : String → Option String
  | "user" => some Key.userName
  | "resource" => some Key.sourceResource
  | "zone" => some "zone"
  | _ => none

/-- Administration of users, resources and zones; anything else is of no interest. -/
def generalAdmin (point : InterceptionPoint) :
    CallArguments → Except ClassifierError (List ClassifiedEvent)
  | .admin input =>
    match adminEvent? input.operation, adminKey? input.target with
    | some event, some key =>
      .ok [⟨event, ⟨Fields.ofList
        [("operation", .text input.operation),
         ("target", .text input.target),
         ("arguments", .ofTexts input.arguments),
         (key, .text input.name)]⟩⟩]
    | _, _ => .ok []
  | other => .error (unexpected point "general_admin" other)

/-- What the operation of a point does to the session and which bare events it has. -/
def handle (s : Session) (point : InterceptionPoint) (arguments : CallArguments) : Result :=
  match point.base with
  | "resolve_hierarchy" => resolveHierarchy s point arguments
  | "data_obj_open" => openObject s point arguments
  | "data_obj_create" => openObject s point arguments
  | "data_obj_create_and_stat" => openObject s point arguments
  | "replica_open" => openObject s point arguments
  | "data_obj_close" => closeObject s point arguments
  | "replica_close" => closeObject s point arguments
  | "data_obj_lseek" => (s, seekObject s point arguments)
  | "bulk_data_obj_put" => (s, bulkPut point arguments)
  | "data_obj_copy" => (s, copyOrRename point arguments)
  | "data_obj_rename" => (s, copyOrRename point arguments)
  | "coll_create" => (s, collection point arguments)
  | "rm_coll" => (s, collection point arguments)
  | "mod_avu_metadata" => (s, metadata point arguments)
  | "general_admin" => (s, generalAdmin point arguments)
  | base =>
    match tableEvent? base with
    | some event => (s, dataObject point event arguments)
    | none => (s, .error (.unsupportedPoint point.name))

end Classifier

/-- Classifies a call for a session. -/
def classify (s : Session) (name : String) (arguments : CallArguments) : Classifier.Result :=
  match InterceptionPoint.parse? name with
  | none => (s, .error (.malformedName name))
  | some point =>
    let (after, result) := Classifier.handle s point arguments
    (after, result.map fun events => events.map (Classifier.decorate after.client name))

end GridPolicy
