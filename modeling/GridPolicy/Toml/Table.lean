import GridPolicy.Document

/-!
# Tables of TOML

A table comes about in one of three ways: it is defined by its own header or
braces, implied by the header of a table inside it, or implied by a dotted key. A
table can be defined only once, and dotted keys add only to tables that dotted
keys made. The ways have to be kept apart while a text is read; in the finished
document they no longer show.
-/
namespace GridPolicy.Toml

/-- How a table came about. -/
inductive Origin where
  | defined
  | impliedByHeader
  | impliedByKey
  deriving DecidableEq, Repr

/-- What a key stands for while a text is read. -/
inductive Node where
  /-- A value that nothing can be added to. -/
  | value (document : Document)
  | table (origin : Origin) (entries : List (String × Node))
  /-- An array of tables: those before the last, and the last, which is added to. -/
  | tables (before : List (List (String × Node))) (last : List (String × Node))

abbrev Entries := List (String × Node)

namespace Entries

def find? (key : String) : Entries → Option Node
  | [] => none
  | (k, node) :: r => if k = key then some node else find? key r

/-- Gives a key this node, in place of any it had. -/
def put (key : String) (node : Node) : Entries → Entries
  | [] => [(key, node)]
  | (k, old) :: r => if k = key then (key, node) :: r else (k, old) :: put key node r

end Entries

/-- A change of a table, which may be refused. -/
abbrev Change := Origin → Entries → Option (Origin × Entries)

/-- Makes a change at the end of a path. Tables on the way are made where they are
missing; `dotted` says whether the path is a dotted key or a header. -/
def changeAt (dotted : Bool) (change : Change) : List String → Change
  | [], origin, entries => change origin entries
  | key :: r, origin, entries =>
    match entries.find? key with
    | none => do
      let made := if dotted then Origin.impliedByKey else .impliedByHeader
      let (made, inner) ← changeAt dotted change r made []
      return (origin, entries.put key (.table made inner))
    | some (.value _) => none
    | some (.tables before last) => do
      let (_, inner) ← changeAt dotted change r .defined last
      return (origin, entries.put key (.tables before inner))
    | some (.table made inner) => do
      if dotted && made == .defined then none
      let (made, inner) ← changeAt dotted change r made inner
      return (origin, entries.put key (.table made inner))

/-- Adds a value under a key that the table must not have. A dotted key ends in a
table that a dotted key made, and a plain key in one that none made. -/
def addValue (dotted : Bool) (key : String) (value : Document) : Change :=
  fun origin entries =>
    if dotted != (origin == .impliedByKey) then none
    else if (entries.find? key).isSome then none
    else some (origin, entries.put key (.value value))

/-- Adds a value under a key that may be dotted. -/
def addAt (path : List String) (value : Document) : Change :=
  match path.getLast? with
  | none => fun _ _ => none
  | some key =>
    let parents := path.dropLast
    changeAt true (addValue (!parents.isEmpty) key value) parents

/-- Defines the table of a header. -/
def defineTable (key : String) : Change := fun origin entries =>
  match entries.find? key with
  | none => some (origin, entries.put key (.table .defined []))
  | some (.table .impliedByHeader inner) => some (origin, entries.put key (.table .defined inner))
  | some _ => none

/-- Adds one more table to the array of a header. -/
def addTable (key : String) : Change := fun origin entries =>
  match entries.find? key with
  | none => some (origin, entries.put key (.tables [] []))
  | some (.tables before last) => some (origin, entries.put key (.tables (before ++ [last]) []))
  | some _ => none

/-- Makes the change of a header with the given path. -/
def changeByHeader (change : String → Change) (path : List String) : Change :=
  match path.getLast? with
  | none => fun _ _ => none
  | some key => changeAt false (change key) path.dropLast

mutual

/-- The document that a finished node stands for. -/
def Node.toDocument : Node → Document
  | .value document => document
  | .table _ entries => .object (Fields.ofList (entryFields entries))
  | .tables before last =>
    .array (tableDocuments before ++ [.object (Fields.ofList (entryFields last))])

def entryFields : List (String × Node) → List (String × Document)
  | [] => []
  | (key, node) :: r => (key, node.toDocument) :: entryFields r

def tableDocuments : List (List (String × Node)) → List Document
  | [] => []
  | entries :: r => .object (Fields.ofList (entryFields entries)) :: tableDocuments r

end

end GridPolicy.Toml
