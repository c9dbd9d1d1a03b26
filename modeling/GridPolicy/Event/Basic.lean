import GridPolicy.Text

/-!
# Events and interception points

An interception point is a hook of the storage server: the name of an operation
and a phase, with an underscore between them. The events are the vocabulary that
calls at these points are reported in. `OPEN` is a word of that vocabulary only
because hierarchy resolution says it; it is no event of its own.
-/
namespace GridPolicy

inductive Event where
  | put
  | get
  | write
  | create
  | remove
  | metadata
  | replication
  | register
  | unregister
  | truncate
  | seek
  | copy
  | rename
  | trim
  | unlink
  | checksum
  | modify
  | openObject
  deriving DecidableEq, Repr

namespace Event

/-- The name of an event in records. -/
def name : Event → String
  | .put => "PUT"
  | .get => "GET"
  | .write => "WRITE"
  | .create => "CREATE"
  | .remove => "REMOVE"
  | .metadata => "METADATA"
  | .replication => "REPLICATION"
  | .register => "REGISTER"
  | .unregister => "UNREGISTER"
  | .truncate => "TRUNCATE"
  | .seek => "SEEK"
  | .copy => "COPY"
  | .rename => "RENAME"
  | .trim => "TRIM"
  | .unlink => "UNLINK"
  | .checksum => "CHECKSUM"
  | .modify => "MODIFY"
  | .openObject => "OPEN"

def all : List Event :=
  [.put, .get, .write, .create, .remove, .metadata, .replication, .register, .unregister,
    .truncate, .seek, .copy, .rename, .trim, .unlink, .checksum, .modify, .openObject]

theorem mem_all (e : Event) : e ∈ all := by cases e <;> decide

/-- The event with exactly this name. -/
def ofName? (name : String) : Option Event := all.find? fun e => e.name == name

/-- Reads an event in any case, with blanks around it. -/
def read? (s : String) : Option Event := ofName? (Text.upper (Text.trim s))

/-- What is said about a text that names no event. -/
def unknownMessage (s : String) : String := "unknown event [" ++ s ++ "]"

end Event

/-- When a hook runs: before the operation, after it has succeeded, after it has
failed, or at its end in any case. -/
inductive Phase where
  | pre
  | post
  | except
  | finally
  deriving DecidableEq, Repr

namespace Phase

def name : Phase → String
  | .pre => "pre"
  | .post => "post"
  | .except => "except"
  | .finally => "finally"

def all : List Phase := [.pre, .post, .except, .finally]

/-- The phase with exactly this name. -/
def ofName? (name : String) : Option Phase := all.find? fun p => p.name == name

def unknownMessage (s : String) : String := "unknown phase [" ++ s ++ "]"

theorem ofName?_name (p : Phase) : ofName? p.name = some p := by cases p <;> decide

end Phase

/-- A parsed name of an interception point. -/
structure InterceptionPoint where
  /-- The name as the host gave it. -/
  name : String
  /-- The operation. -/
  base : String
  phase : Phase
  deriving DecidableEq, Repr

namespace InterceptionPoint

/-- What the host may put in front of the name of an operation. -/
def hostLeads : List String := ["pep_api_", "pep_resource_"]

/-- The name without the host's lead; only one is taken off. -/
def withoutLead (name : String) : String :=
  (hostLeads.findSome? fun lead => Text.after? lead name).getD name

/-- Reads a name: an operation that is not empty, and a phase behind the last
underscore. -/
def parse? (name : String) : Option InterceptionPoint :=
  match Text.cutLast '_' (withoutLead name).toList with
  | none => none
  | some ([], _) => none
  | some (base, phase) =>
    (Phase.ofName? (String.ofList phase)).map fun p => ⟨name, String.ofList base, p⟩

end InterceptionPoint

end GridPolicy
