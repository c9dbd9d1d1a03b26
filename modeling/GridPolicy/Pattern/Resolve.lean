import GridPolicy.Pattern.Shape

/-!
# Applying flags

An expression becomes a pattern when the flags in force at each of its items are
applied. Flags are changed by items of a group for what follows in the group, in
later branches too, and by a group for its contents; behind a group they are as
before it.

Without the Unicode flag a class is about bytes. A pattern only ever matches
whole characters, so what could match a byte outside ASCII is refused: any
negation, the dot, property classes, and in brackets letters outside ASCII. By
itself such a letter is still a letter, unless it is written as a byte.
-/
namespace GridPolicy.Pattern

structure Flags where
  ignoreCase : Bool := false
  multiLine : Bool := false
  dotAll : Bool := false
  swapGreed : Bool := false
  unicode : Bool := true
  crlf : Bool := false
  deriving DecidableEq, Repr

/-- The flags after a change. -/
def Flags.apply (flags : Flags) (change : FlagChange) : Flags where
  ignoreCase := (change.get? .ignoreCase).getD flags.ignoreCase
  multiLine := (change.get? .multiLine).getD flags.multiLine
  dotAll := (change.get? .dotAll).getD flags.dotAll
  swapGreed := (change.get? .swapGreed).getD flags.swapGreed
  unicode := (change.get? .unicode).getD flags.unicode
  crlf := (change.get? .crlf).getD flags.crlf

namespace Flags

/-- Case folding, if it is on; without Unicode only letters of ASCII have a case. -/
def fold (flags : Flags) (set : CharSet) : CharSet :=
  if !flags.ignoreCase then set
  else if flags.unicode then set.folded
  else set.foldedAscii

/-- Folds a set and turns it around if asked to. -/
def close? (flags : Flags) (negated : Bool) (set : CharSet) : Option CharSet :=
  if !negated then some (flags.fold set)
  else if flags.unicode then some (flags.fold set).complement
  else none

/-- Whether a character may stand for a byte. -/
def allows (flags : Flags) (c : Char) : Bool := flags.unicode || c.toNat < 128

/-- The letters that a literal stands for. -/
def letters (flags : Flags) (c : Char) : List Nat :=
  if !flags.ignoreCase then [c.toNat]
  else if flags.unicode then Unicode.foldingFamily c.toNat
  else if c.isUpper then [c.toNat, c.toNat + 32]
  else if c.isLower then [c.toNat, c.toNat - 32]
  else [c.toNat]

def literal (flags : Flags) (c : Char) : Pattern := .ofSet (.ofMembers (flags.letters c))

def short? (flags : Flags) (kind : ShortClass) (negated : Bool) : Option CharSet :=
  if flags.unicode then
    some (if negated then kind.members.complement else kind.members)
  else if negated then none
  else some kind.asciiMembers

def property? (flags : Flags) (query : Query) (negated : Bool) : Option CharSet :=
  if flags.unicode then query.members?.bind (flags.close? negated) else none

def dot? (flags : Flags) : Option CharSet :=
  if !flags.unicode then none
  else if flags.dotAll then some (.range 0 CharSet.greatest)
  else if flags.crlf then some (CharSet.ofText "A D").complement
  else some (CharSet.single '\n').complement

end Flags

def SetOperation.apply : SetOperation → CharSet → CharSet → CharSet
  | .intersection, a, b => a.intersection b
  | .difference, a, b => a.difference b
  | .symmetricDifference, a, b => a.symmetricDifference b

mutual

/-- The set that the contents of brackets stand for. -/
def SetExpression.members? (flags : Flags) : SetExpression → Option CharSet
  | .empty => some .empty
  | .literal c => if flags.allows c then some (.single c) else none
  | .range a b =>
    if flags.allows a && flags.allows b then some (.range a.toNat b.toNat) else none
  | .ascii kind negated => flags.close? negated kind.members
  | .short kind negated => flags.short? kind negated
  | .property query negated => flags.property? query negated
  | .bracketed negated inner => (inner.members? flags).bind (flags.close? negated)
  | .union items => setMembers? flags items
  | .operation kind left right =>
    match left.members? flags, right.members? flags with
    | some a, some b => some (kind.apply (flags.fold a) (flags.fold b))
    | _, _ => none

def setMembers? (flags : Flags) : List SetExpression → Option CharSet
  | [] => some .empty
  | e :: r =>
    match e.members? flags, setMembers? flags r with
    | some a, some b => some (a.union b)
    | _, _ => none

end

def Assertion.look (flags : Flags) : Assertion → Look
  | .lineStart =>
    if !flags.multiLine then .textStart
    else if flags.crlf then .crlfLineStart else .lineStart
  | .lineEnd =>
    if !flags.multiLine then .textEnd
    else if flags.crlf then .crlfLineEnd else .lineEnd
  | .textStart => .textStart
  | .textEnd => .textEnd
  | .wordBoundary => .wordBoundary flags.unicode
  | .notWordBoundary => .notWordBoundary flags.unicode
  | .wordStart => .wordStart flags.unicode
  | .wordEnd => .wordEnd flags.unicode
  | .wordStartHalf => .wordStartHalf flags.unicode
  | .wordEndHalf => .wordEndHalf flags.unicode

mutual

/-- The pattern of an expression, and the flags in force behind it. -/
def Expression.resolve? (flags : Flags) : Expression → Option (Pattern × Flags)
  | .empty => some (.empty, flags)
  | .flags change => some (.empty, flags.apply change)
  | .literal c => some (flags.literal c, flags)
  | .byte c => if flags.allows c then some (flags.literal c, flags) else none
  | .dot => flags.dot?.map fun set => (.ofSet set, flags)
  | .assertion kind => some (.look (kind.look flags), flags)
  | .short kind negated => (flags.short? kind negated).map fun set => (.ofSet set, flags)
  | .property query negated => (flags.property? query negated).map fun set => (.ofSet set, flags)
  | .bracketed negated inner =>
    ((inner.members? flags).bind (flags.close? negated)).map fun set => (.ofSet set, flags)
  | .repetition low high greedy inner =>
    match inner.resolve? flags with
    | some (p, after) => some (.repeated low high (greedy != flags.swapGreed) p, after)
    | none => none
  | .group change captures inner =>
    match inner.resolve? (flags.apply change) with
    | some (p, _) => some (if captures then .capture p else p, flags)
    | none => none
  | .sequence items => (sequence? flags items).map fun (ps, after) => (.ofItems ps, after)
  | .choice branches => (sequence? flags branches).map fun (ps, after) => (.ofBranches ps, after)

/-- The patterns of expressions, where the flags behind one are in force in the next. -/
def sequence? (flags : Flags) : List Expression → Option (List Pattern × Flags)
  | [] => some ([], flags)
  | e :: r =>
    match e.resolve? flags with
    | none => none
    | some (p, after) =>
      match sequence? after r with
      | some (ps, last) => some (p :: ps, last)
      | none => none

end

end GridPolicy.Pattern
