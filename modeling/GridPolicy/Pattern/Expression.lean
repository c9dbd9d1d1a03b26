/-!
# Pattern expressions

The tree of a written pattern, before its flags are applied. What a letter or a
class stands for depends on the flags in force where it is written, and a flag
change reaches to the end of its group, so changes stay in the tree as items.
-/
namespace GridPolicy.Pattern

/-- The switches of a pattern. `verbose` only changes how the text is read. -/
inductive Flag where
  | ignoreCase
  | multiLine
  | dotAll
  | swapGreed
  | unicode
  | crlf
  | verbose
  deriving DecidableEq, Repr

/-- Flags in the order written, each to be switched on or off. -/
abbrev FlagChange := List (Flag × Bool)

/-- What the change says about a flag. -/
def FlagChange.get? (change : FlagChange) (flag : Flag) : Option Bool :=
  (change.find? fun item => item.1 == flag).map (·.2)

/-- The short classes `\d`, `\s` and `\w`. -/
inductive ShortClass where
  | digit
  | space
  | word
  deriving DecidableEq, Repr

/-- What a property class asks for: a lone name, or a value of a property. -/
inductive Query where
  | named (name : String)
  | valued (name value : String)
  deriving DecidableEq, Repr

inductive AsciiClass where
  | alnum
  | alpha
  | ascii
  | blank
  | cntrl
  | digit
  | graph
  | lower
  | print
  | punct
  | space
  | upper
  | word
  | xdigit
  deriving DecidableEq, Repr

inductive SetOperation where
  | intersection
  | difference
  | symmetricDifference
  deriving DecidableEq, Repr

/-- The contents of a class in brackets. -/
inductive SetExpression where
  | empty
  | literal (c : Char)
  | range (first last : Char)
  | ascii (kind : AsciiClass) (negated : Bool)
  | short (kind : ShortClass) (negated : Bool)
  | property (query : Query) (negated : Bool)
  | bracketed (negated : Bool) (inner : SetExpression)
  | union (items : List SetExpression)
  | operation (kind : SetOperation) (left right : SetExpression)

inductive Assertion where
  | lineStart
  | lineEnd
  | textStart
  | textEnd
  | wordBoundary
  | notWordBoundary
  | wordStart
  | wordEnd
  | wordStartHalf
  | wordEndHalf
  deriving DecidableEq, Repr

inductive Expression where
  | empty
  | flags (change : FlagChange)
  | literal (c : Char)
  /-- A character written as two hexadecimal digits, which without Unicode is a byte. -/
  | byte (c : Char)
  | dot
  | assertion (kind : Assertion)
  | short (kind : ShortClass) (negated : Bool)
  | property (query : Query) (negated : Bool)
  | bracketed (negated : Bool) (inner : SetExpression)
  | repetition (low : Nat) (high : Option Nat) (greedy : Bool) (inner : Expression)
  | group (change : FlagChange) (captures : Bool) (inner : Expression)
  | sequence (items : List Expression)
  | choice (branches : List Expression)

/-- Several items in a row; one alone is itself. -/
def Expression.ofItems : List Expression → Expression
  | [] => .empty
  | [e] => e
  | items => .sequence items

/-- Several branches; one alone is itself. -/
def Expression.ofBranches : List Expression → Expression
  | [e] => e
  | branches => .choice branches

def SetExpression.ofItems : List SetExpression → SetExpression
  | [] => .empty
  | [e] => e
  | items => .union items

mutual

/-- How deep brackets, unions and operations lie inside one another. -/
def SetExpression.depth : SetExpression → Nat
  | .bracketed _ inner => inner.depth + 1
  | .union items => setItemsDepth items + 1
  | .operation _ left right => max left.depth right.depth + 1
  | _ => 0

def setItemsDepth : List SetExpression → Nat
  | [] => 0
  | e :: r => max e.depth (setItemsDepth r)

end

mutual

/-- How deep groups, repetitions, choices, sequences and classes lie inside one
another. -/
def Expression.depth : Expression → Nat
  | .bracketed _ inner => inner.depth + 1
  | .repetition _ _ _ inner => inner.depth + 1
  | .group _ _ inner => inner.depth + 1
  | .sequence items => itemsDepth items + 1
  | .choice branches => itemsDepth branches + 1
  | _ => 0

def itemsDepth : List Expression → Nat
  | [] => 0
  | e :: r => max e.depth (itemsDepth r)

end

end GridPolicy.Pattern
