import GridPolicy.Document.Decode
import GridPolicy.Document.Field

/-!
# Call arguments

The host decodes the arguments of a native call into one of ten kinds. The
integers keep the widths of the native interface: the readers refuse what does
not fit, so nothing below has to think of overflow but where sizes are computed
from offsets. The open flags of an object keep their width in the type too,
because they are read back from the text in the record when the object is
closed. They are a set of bits, told apart by arithmetic that holds for negative
numbers too.
-/
namespace GridPolicy

/-- The keyword input of a native call. Of the values of one keyword the last counts. -/
abbrev KeywordInput := List (String × String)

def KeywordInput.toDocument (input : KeywordInput) : Document :=
  Document.ofFields (input.map fun pair => (pair.1, .text pair.2))

/-- A descriptor of an open object. -/
abbrev Handle := Nat

/-- The two lowest bits ask for writing, one without and one with reading. -/
def hasWriteFlag (openFlags : Int) : Bool := openFlags % 4 != 0

/-- The tenth bit asks for truncation. -/
def hasTruncateFlag (openFlags : Int) : Bool := openFlags / 512 % 2 == 1

/-- The operation type of a call that takes a file out of the catalog. -/
def unregisterOperation : Int := 26

structure DataObjectInput where
  path : String := ""
  createMode : Int := 0
  openFlags : Int32 := 0
  offset : Int := 0
  dataSize : Int := 0
  threads : Int := 0
  operationType : Int := 0
  keywords : KeywordInput := []
  deriving DecidableEq, Repr

/-- A number in a record is a text. -/
def numberText (n : Int) : Document := .text (toString n)

/-- The fields of a record for the object; the path stands under two keys. -/
def DataObjectInput.toFields (input : DataObjectInput) : Fields :=
  Fields.ofList
    [("obj_path", .text input.path),
     (Key.logicalPath, .text input.path),
     ("create_mode", numberText input.createMode),
     ("open_flags", numberText input.openFlags.toInt),
     ("offset", numberText input.offset),
     ("data_size", numberText input.dataSize),
     ("num_threads", numberText input.threads),
     ("opr_type", numberText input.operationType),
     (Key.condInput, input.keywords.toDocument)]

/-- Input that names an open object by its handle. Only the handle is used. -/
structure DescriptorInput where
  handle : Handle := 0
  deriving DecidableEq, Repr

structure CollectionInput where
  name : String := ""
  flags : Int := 0
  operationType : Int := 0
  keywords : KeywordInput := []
  deriving DecidableEq, Repr

def CollectionInput.toFields (input : CollectionInput) : Fields :=
  Fields.ofList
    [("coll_name", .text input.name),
     (Key.logicalPath, .text input.name),
     ("flags", numberText input.flags),
     ("opr_type", numberText input.operationType),
     (Key.condInput, input.keywords.toDocument)]

structure MetadataInput where
  operation : String := ""
  entityOption : String := ""
  entity : String := ""
  name : String := ""
  value : String := ""
  units : String := ""
  deriving DecidableEq, Repr

structure AdminInput where
  operation : String := ""
  target : String := ""
  name : String := ""
  arguments : List String := []
  deriving DecidableEq, Repr

inductive CallArguments where
  | dataObject (input : DataObjectInput)
  | opened (input : DataObjectInput) (handle : Option Handle)
  | descriptor (input : DescriptorInput)
  | replicaClose (payload : String)
  | copy (source destination : DataObjectInput)
  | bulkPut (paths : List String) (offsets : List Int) (keywords : KeywordInput)
  | hierarchyResolution (operation : String)
  | collection (input : CollectionInput)
  | metadata (input : MetadataInput)
  | admin (input : AdminInput)
  deriving DecidableEq, Repr

/-- The word for a kind of arguments. -/
def CallArguments.kind : CallArguments → String
  | .dataObject _ => "data_obj"
  | .opened _ _ => "open"
  | .descriptor _ => "descriptor"
  | .replicaClose _ => "replica_close"
  | .copy _ _ => "copy"
  | .bulkPut _ _ _ => "bulk_put"
  | .hierarchyResolution _ => "hierarchy_resolution"
  | .collection _ => "collection"
  | .metadata _ => "mod_avu"
  | .admin _ => "general_admin"

namespace Decode

def openFlags (d : Document) : Option Int32 := (int32 d).map Int32.ofInt

def dataObjectInput (d : Document) : Option DataObjectInput := do
  match ← members [["obj_path"], ["create_mode"], ["open_flags"], ["offset"], ["data_size"],
      ["num_threads"], ["opr_type"], [Key.condInput]] d with
  | [path, createMode, flags, offset, dataSize, threads, operationType, keywords] =>
    return {
      path := ← orElse "" text path
      createMode := ← orElse 0 int32 createMode
      openFlags := ← orElse 0 openFlags flags
      offset := ← orElse 0 int64 offset
      dataSize := ← orElse 0 int64 dataSize
      threads := ← orElse 0 int32 threads
      operationType := ← orElse 0 int32 operationType
      keywords := ← orElse [] textMap keywords }
  | _ => none

def descriptorInput (d : Document) : Option DescriptorInput := do
  match ← members [["l1_desc_inx"], ["len"], ["whence"], ["opr_type"], ["offset"],
      ["bytes_written"], [Key.condInput]] d with
  | [handle, length, whence, operationType, offset, written, keywords] =>
    let handle ← orElse 0 nat32 handle
    let _ ← orElse 0 int32 length
    let _ ← orElse 0 int32 whence
    let _ ← orElse 0 int32 operationType
    let _ ← orElse 0 int64 offset
    let _ ← orElse 0 int64 written
    let _ ← orElse [] textMap keywords
    return { handle }
  | _ => none

def collectionInput (d : Document) : Option CollectionInput := do
  match ← members [["coll_name"], ["flags"], ["opr_type"], [Key.condInput]] d with
  | [name, flags, operationType, keywords] =>
    return {
      name := ← orElse "" text name
      flags := ← orElse 0 int32 flags
      operationType := ← orElse 0 int32 operationType
      keywords := ← orElse [] textMap keywords }
  | _ => none

def metadataInput (d : Document) : Option MetadataInput := do
  match ← members [["operation"], ["entity_option"], ["entity"], ["attribute"], ["value"],
      ["units"]] d with
  | [operation, entityOption, entity, name, value, units] =>
    return {
      operation := ← orElse "" text operation
      entityOption := ← orElse "" text entityOption
      entity := ← orElse "" text entity
      name := ← orElse "" text name
      value := ← orElse "" text value
      units := ← orElse "" text units }
  | _ => none

def adminInput (d : Document) : Option AdminInput := do
  match ← members [["operation"], ["target"], ["name"], ["arguments"]] d with
  | [operation, target, name, arguments] =>
    return {
      operation := ← orElse "" text operation
      target := ← orElse "" text target
      name := ← orElse "" text name
      arguments := ← orElse [] (list text) arguments }
  | _ => none

/-- The arguments of the named kind from their members. -/
def argumentsOfKind (kind : String) (d : Document) : Option CallArguments := do
  match kind with
  | "data_obj" =>
    match ← members [["input"]] d with
    | [input] => return .dataObject (← required dataObjectInput input)
    | _ => none
  | "open" =>
    match ← members [["input"], ["handle"]] d with
    | [input, handle] =>
      let input ← required dataObjectInput input
      return .opened input (← orElse none (optional nat32) handle)
    | _ => none
  | "descriptor" =>
    match ← members [["input"]] d with
    | [input] => return .descriptor (← required descriptorInput input)
    | _ => none
  | "replica_close" =>
    match ← members [["payload"]] d with
    | [payload] => return .replicaClose (← required text payload)
    | _ => none
  | "copy" =>
    match ← members [["source"], ["destination"]] d with
    | [source, destination] =>
      let source ← required dataObjectInput source
      return .copy source (← required dataObjectInput destination)
    | _ => none
  | "bulk_put" =>
    match ← members [["logical_paths"], ["offsets"], [Key.condInput]] d with
    | [paths, offsets, keywords] =>
      let paths ← required (list text) paths
      let offsets ← required (list int64) offsets
      return .bulkPut paths offsets (← orElse [] textMap keywords)
    | _ => none
  | "hierarchy_resolution" =>
    match ← members [["operation"]] d with
    | [operation] => return .hierarchyResolution (← required text operation)
    | _ => none
  | "collection" =>
    match ← members [["input"]] d with
    | [input] => return .collection (← required collectionInput input)
    | _ => none
  | "mod_avu" =>
    match ← members [["input"]] d with
    | [input] => return .metadata (← required metadataInput input)
    | _ => none
  | "general_admin" =>
    match ← members [["input"]] d with
    | [input] => return .admin (← required adminInput input)
    | _ => none
  | _ => none

/-- Arguments of any kind: an object that says its kind, once, or an array of the
kind and the members. -/
def callArguments (d : Document) : Option CallArguments :=
  match d with
  | .object fields =>
    match fields.filter fun field => field.1 == "kind" with
    | [(_, .text kind)] =>
      argumentsOfKind kind (.object (fields.filter fun field => field.1 != "kind"))
    | _ => none
  | .array (.text kind :: rest) => argumentsOfKind kind (.array rest)
  | _ => none

end Decode

end GridPolicy
