import GridPolicy.Toml.Scalar
import GridPolicy.Toml.Table

/-!
# Reading TOML

A text is read line by line: headers choose the table, and lines of key and value
add to it. Arrays may span lines and hold comments, tables in braces may not.
Arrays and tables in braces nest fewer than 80 deep, and a key has fewer than 80
parts.
-/
namespace GridPolicy.Toml

def skipBlanks (cs : List Char) : List Char := cs.dropWhile isBlank

/-- How many more levels, or parts of a key, there may be. -/
def depthLimit : Nat := 79

/-- The end of a line: blanks and a comment, then a line end or the end of text. -/
def readLineEnd (cs : List Char) : Option (List Char) :=
  let rest := match skipBlanks cs with
    | '#' :: r => r.dropWhile isPrinting
    | r => r
  if rest.isEmpty then some [] else lineEnd? rest

/-- Blanks, line ends and whole comments. Each step consumes a character. -/
def skipLines : Nat → List Char → Option (List Char)
  | 0, cs => some cs
  | steps + 1, cs =>
    match cs with
    | '#' :: r =>
      match lineEnd? (r.dropWhile isPrinting) with
      | some rest => skipLines steps rest
      | none => none
    | c :: r =>
      if isBlank c then skipLines steps r
      else
        match lineEnd? (c :: r) with
        | some rest => skipLines steps rest
        | none => some (c :: r)
    | [] => some []

def isBare (c : Char) : Bool := c.isAlphanum || c == '_' || c == '-'

/-- One part of a key. -/
def readKeyPart : List Char → Option (String × List Char)
  | '\"' :: r => readBasic [] r
  | '\'' :: r => readLiteral [] r
  | cs =>
    let (name, rest) := spanOf isBare cs
    if name.isEmpty then none else some (String.ofList name, rest)

/-- The parts of a key with blanks around them and dots between; `parts` bounds
their number. -/
def readKey : Nat → List Char → Option (List String × List Char)
  | 0, _ => none
  | parts + 1, cs => do
    let (name, rest) ← readKeyPart (skipBlanks cs)
    match skipBlanks rest with
    | '.' :: r =>
      let (names, rest) ← readKey parts r
      return (name :: names, rest)
    | rest => return ([name], rest)

mutual

/-- A value at the front of the text. `steps` bounds the number of calls: each
consumes a character. -/
def readValue (depth : Nat) : Nat → List Char → Option (Document × List Char)
  | 0, _ => none
  | steps + 1, cs =>
    match cs with
    | '[' :: r =>
      if depth == 0 then none
      else (readItems (depth - 1) steps r []).map fun (items, rest) => (.array items, rest)
    | '\x7b' :: r =>
      if depth == 0 then none
      else
        match skipBlanks r with
        | '\x7d' :: rest => some (.object [], rest)
        | r =>
          (readPairs (depth - 1) steps r []).map fun (entries, rest) =>
            (.object (Fields.ofList (entryFields entries)), rest)
    | c :: _ =>
      if c == '\"' || c == '\'' then (readText cs).map fun (s, rest) => (.text s, rest)
      else readToken cs
    | [] => none

/-- The items of an array up to and with the closing bracket; `acc` holds those
read, last first. A comma may stand behind the last. -/
def readItems (depth : Nat) : Nat → List Char → List Document →
    Option (List Document × List Char)
  | 0, _, _ => none
  | steps + 1, cs, acc =>
    match skipLines cs.length cs with
    | none => none
    | some (']' :: r) => some (acc.reverse, r)
    | some r =>
      match readValue depth steps r with
      | none => none
      | some (item, rest) =>
        match skipLines rest.length rest with
        | some (',' :: r) => readItems depth steps r (item :: acc)
        | some (']' :: r) => some ((item :: acc).reverse, r)
        | _ => none

/-- The pairs of a table in braces up to and with the closing brace. -/
def readPairs (depth : Nat) : Nat → List Char → Entries → Option (Entries × List Char)
  | 0, _, _ => none
  | steps + 1, cs, entries =>
    match readKey depthLimit cs with
    | some (path, '=' :: r) =>
      match readValue depth steps (skipBlanks r) with
      | none => none
      | some (value, rest) =>
        match addAt path value .defined entries with
        | none => none
        | some (_, entries) =>
          match skipBlanks rest with
          | ',' :: r => readPairs depth steps r entries
          | '\x7d' :: r => some (entries, r)
          | _ => none
    | _ => none

end

/-- The tables read so far, and the path of the one that lines add to. -/
structure Reading where
  root : Entries := []
  current : List String := []

namespace Reading

/-- Makes a change to the tables read so far. -/
def changed (s : Reading) (change : Change) : Option Entries :=
  (change .defined s.root).map (·.2)

/-- A header after its opening brackets, as far as the closing ones. -/
def header (s : Reading) (change : String → Change) (closing : List Char) (cs : List Char) :
    Option (Reading × List Char) := do
  let (path, rest) ← readKey depthLimit cs
  let rest ← closing.isPrefixOf? rest
  let root ← s.changed (changeByHeader change path)
  return (⟨root, path⟩, rest)

/-- A line of key and value. -/
def pair (s : Reading) (cs : List Char) : Option (Reading × List Char) := do
  let (path, rest) ← readKey depthLimit cs
  match rest with
  | '=' :: r =>
    let (value, rest) ← readValue depthLimit (2 * r.length + 2) (skipBlanks r)
    let root ← s.changed (changeAt false (addAt path value) s.current)
    return ({ s with root }, rest)
  | _ => none

/-- The lines of a text. `steps` bounds their number. -/
def lines : Nat → Reading → List Char → Option Entries
  | 0, _, _ => none
  | steps + 1, s, cs =>
    match skipBlanks cs with
    | [] => some s.root
    | c :: r => do
      let (s, rest) ←
        match c, r with
        | '#', _ => some (s, c :: r)
        | '\n', _ => some (s, c :: r)
        | '\r', _ => some (s, c :: r)
        | '[', '[' :: r => s.header addTable [']', ']'] r
        | '[', _ => s.header defineTable [']'] r
        | _, _ => s.pair (c :: r)
      lines steps s (← readLineEnd rest)

end Reading

/-- A byte order mark at the beginning is no part of the text. -/
def withoutMark : List Char → List Char
  | c :: r => if c.toNat == 0xFEFF then r else c :: r
  | [] => []

/-- The table that a text describes. -/
def parse (text : String) : Option Document :=
  let cs := withoutMark text.toList
  (Reading.lines (cs.length + 1) {} cs).map fun entries =>
    .object (Fields.ofList (entryFields entries))

end GridPolicy.Toml
