import GridPolicy.Text

/-!
# Logical paths

A logical path names a data object or a collection of the grid. It splits into
the collection and the name in it; slashes at the end say nothing. The walk
upwards from a path visits the path and then its collections, and stops below
the root.
-/
namespace GridPolicy.LogicalPath

def isSlash (c : Char) : Bool := c == '/'

/-- The characters without the slashes at the end. -/
def trimmed (path : List Char) : List Char := Text.dropEndWhile isSlash path

/-- The collection and the name, both as characters. What lies directly below
the root has `/` as its collection, and a path without a slash has none. -/
def splitChars (path : List Char) : List Char × List Char :=
  match Text.cutLast '/' (trimmed path) with
  | some ([], name) => (['/'], name)
  | some parts => parts
  | none => ([], trimmed path)

/-- The collection of a path and the name in it. -/
def split (path : String) : String × String :=
  let (collection, name) := splitChars path.toList
  (String.ofList collection, String.ofList name)

def joinChars (collection name : List Char) : List Char :=
  if collection.getLast? = some '/' then collection ++ name else collection ++ '/' :: name

/-- The path of a name in a collection. -/
def join (collection name : String) : String :=
  String.ofList (joinChars collection.toList name.toList)

def parentChars? (path : List Char) : Option (List Char) :=
  if trimmed path = [] then none
  else
    match (splitChars (trimmed path)).1 with
    | [] => none
    | parent => some parent

/-- The collection that holds a path; the root and a lone name are in none. -/
def parent? (path : String) : Option String := (parentChars? path.toList).map String.ofList

/-- The walk from `path` upwards for at most `steps` paths. -/
def walk : Nat → List Char → List (List Char)
  | 0, _ => []
  | steps + 1, path =>
    if path = [] ∨ path = ['/'] then []
    else
      match parentChars? path with
      | none => [path]
      | some parent => path :: walk steps parent

/-- The path itself and the collections above it, nearest first, without the
root. Each is shorter than the one before, so the length bounds their number. -/
def ancestors (path : String) : List String :=
  let start := trimmed path.toList
  (walk start.length start).map String.ofList

end GridPolicy.LogicalPath
