import GridPolicy.LogicalPath
import GridPolicy.Status

/-!
# The grid

The catalog, the storage, the metadata store and the resource manager belong to
the data grid that this library steers. They are known here only by the calls
that can be made to them and by what each call can answer. A grid is a function
that answers every call, and the answer may depend on all that was asked before,
so a grid may change as it is used.
-/
namespace GridPolicy

/-- A row that a catalog query answers, columns in the order selected. -/
abbrev Row := List String

inductive QueryKind where
  | general
  | specific
  deriving DecidableEq, Repr

namespace QueryKind

def name : QueryKind → String
  | .general => "general"
  | .specific => "specific"

/-- Reads a kind in any case; no text means a general query. -/
def parse (s : String) : Except String QueryKind :=
  let word := Text.lower s
  if word == "" || word == "general" then .ok .general
  else if word == "specific" then .ok .specific
  else .error ("unknown query type [" ++ word ++ "]")

end QueryKind

/-- The kinds of entity that metadata is attached to. -/
inductive EntityType where
  | dataObject
  | collection
  | user
  | resource
  deriving DecidableEq, Repr

namespace EntityType

/-- The name in records and conditionals. -/
def name : EntityType → String
  | .dataObject => "data_object"
  | .collection => "collection"
  | .user => "user"
  | .resource => "resource"

/-- The command-line option for the entity. -/
def option : EntityType → String
  | .dataObject => "-d"
  | .collection => "-C"
  | .user => "-u"
  | .resource => "-R"

/-- Reads an option; collections and resources have two spellings. -/
def ofOption? : String → Option EntityType
  | "-d" => some .dataObject
  | "-C" => some .collection
  | "-c" => some .collection
  | "-u" => some .user
  | "-R" => some .resource
  | "-r" => some .resource
  | _ => none

theorem ofOption?_option (t : EntityType) : ofOption? t.option = some t := by
  cases t <;> rfl

end EntityType

/-- A triple of metadata: the name of an attribute, its value and its units. -/
structure Avu where
  name : String
  value : String
  units : String
  deriving DecidableEq, Repr

inductive AvuAction where
  | set
  | add
  | remove
  deriving DecidableEq, Repr

def AvuAction.name : AvuAction → String
  | .set => "set"
  | .add => "add"
  | .remove => "remove"

/-- The block counts of a file system. -/
structure FilesystemStats where
  available : Nat
  total : Nat
  deriving DecidableEq, Repr

/-- What a call to the grid can fail with. -/
inductive ServiceError where
  | noRowsFound (query : String)
  | queryFailed (query detail : String)
  | storageFailed (operation target detail : String)
  | metadataFailed (target detail : String)
  | unknownResource (resource : String)
  deriving DecidableEq, Repr

namespace ServiceError

def status : ServiceError → Status
  | .noRowsFound _ => .noRowsFound
  | .queryFailed _ _ => .catalogFailure
  | .storageFailed _ _ _ => .storageFailure
  | .metadataFailed _ _ => .metadataFailure
  | .unknownResource _ => .invalidResource

def message : ServiceError → String
  | .noRowsFound query => "no rows found for query [" ++ query ++ "]"
  | .queryFailed query detail => "query [" ++ query ++ "] failed: " ++ detail
  | .storageFailed operation target detail =>
    operation ++ " failed for [" ++ target ++ "]: " ++ detail
  | .metadataFailed target detail => "metadata operation on [" ++ target ++ "] failed: " ++ detail
  | .unknownResource resource => "unknown resource [" ++ resource ++ "]"

end ServiceError

/-- The calls that can be made to the grid. -/
inductive Call where
  | query (text : String) (limit : Nat) (kind : QueryKind)
  | replicate (user path source destination : String)
  | trim (user path resource : String)
  | unlink (user path : String)
  | checksum (path resource : String)
  | stat (path hierarchy physicalPath : String)
  | filesystemStats (vault : String)
  | fileChecksum (location physicalPath hierarchy path : String) (size : Nat)
  | modifyMetadata (action : AvuAction) (entity : EntityType) (target : String) (avu : Avu)
      (asUser : Option String)
  | metadataOf (entity : EntityType) (target : String)
  | leafBundle (resource : String)
  | vaultPath (resource : String)
  | location (hierarchy : String)
  deriving DecidableEq, Repr

/-- What a call answers when it succeeds. -/
abbrev Call.Answer : Call → Type
  | .query _ _ _ => List Row
  | .replicate _ _ _ _ => Unit
  | .trim _ _ _ => Unit
  | .unlink _ _ => Unit
  | .checksum _ _ => String
  | .stat _ _ _ => Nat
  | .filesystemStats _ => FilesystemStats
  | .fileChecksum _ _ _ _ _ => String
  | .modifyMetadata _ _ _ _ _ => Unit
  | .metadataOf _ _ => List Avu
  | .leafBundle _ => List Int
  | .vaultPath _ => String
  | .location _ => String

end GridPolicy
