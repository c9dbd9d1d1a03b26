import GridPolicy.Document
import GridPolicy.Text.Integer

/-!
# Typed data in documents

Typed data is read strictly: a value of the wrong kind, an integer out of range
or a missing member without a default refuses the whole. A record of members may
be written as an object, where the order is free and members of unknown name are
passed over, or as an array of its members in order, whose end may be missing.
In an object no member may stand twice, under whichever of its names. Where the
format of a text says so, an array may also hold more than the members.
-/
namespace GridPolicy.Decode

variable {α : Type}

def text : Document → Option String := Document.text?

def flag : Document → Option Bool
  | .flag b => some b
  | _ => none

/-- An integer between two bounds. A double is none, whatever its value. -/
def integer (low high : Int) : Document → Option Int
  | .number (.whole n) => if low ≤ n && n ≤ high then some n else none
  | _ => none

def int32 : Document → Option Int := integer (-2147483648) 2147483647

def int64 : Document → Option Int := integer (-9223372036854775808) 9223372036854775807

def natUpTo (high : Nat) (d : Document) : Option Nat := (integer 0 high d).map Int.toNat

def nat32 : Document → Option Nat := natUpTo 4294967295

/-- A value that may be `null`. -/
def optional (f : Document → Option α) : Document → Option (Option α)
  | .null => some none
  | d => (f d).map some

/-- Any document; `null` counts as absent. A double that is not finite is there,
but only as `null`. -/
def anything : Document → Option (Option Document) := optional fun d => some d.finite

def list (f : Document → Option α) : Document → Option (List α)
  | .array items => items.mapM f
  | _ => none

/-- An object whose values are texts. A key may stand in it more than once. -/
def textMap : Document → Option (List (String × String))
  | .object fields => fields.mapM fun field => (text field.2).map fun s => (field.1, s)
  | _ => none

/-- The members of a record by the lists of their names, in order. -/
def members (names : List (List String)) : Document → Option (List (Option Document))
  | .object fields =>
    names.mapM fun spellings =>
      match fields.filter fun field => spellings.contains field.1 with
      | [] => some none
      | [field] => some (some field.2)
      | _ => none
  | .array items =>
    if items.length ≤ names.length then
      some (items.map some ++ List.replicate (names.length - items.length) none)
    else none
  | _ => none

/-- Passes over what stands in an array behind the named members. -/
def leading (names : List (List String)) (f : Document → Option α) : Document → Option α
  | .array items => f (.array (items.take names.length))
  | d => f d

/-- A member that must be there. -/
def required (f : Document → Option α) (d : Option Document) : Option α := d.bind f

/-- A member that stands for a fixed value when it is missing. -/
def orElse (missing : α) (f : Document → Option α) : Option Document → Option α
  | none => some missing
  | some d => f d

end GridPolicy.Decode
