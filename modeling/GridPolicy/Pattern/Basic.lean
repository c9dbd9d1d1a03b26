import GridPolicy.Pattern.CharClass

/-!
# Patterns

A pattern relates positions of a text: from a position it leads to every
position where a match that begins there can end. `reach` computes that for a
whole set of positions at once, so alternatives never multiply and no match is
tried twice. A repetition without a bound is the closure of one step; a round
that finds no new position ends it, and since there are no more positions than
characters and one, so many rounds suffice.
-/
namespace GridPolicy

/-- What can be asked of a place between characters. `unicode` chooses which
characters make up words. -/
inductive Look where
  | textStart
  | textEnd
  | lineStart
  | lineEnd
  | crlfLineStart
  | crlfLineEnd
  | wordBoundary (unicode : Bool)
  | notWordBoundary (unicode : Bool)
  | wordStart (unicode : Bool)
  | wordEnd (unicode : Bool)
  | wordStartHalf (unicode : Bool)
  | wordEndHalf (unicode : Bool)
  deriving DecidableEq, Repr

inductive Pattern where
  | empty
  | literal (cs : List Char)
  | one (set : Pattern.CharSet)
  | look (kind : Look)
  | repetition (low : Nat) (high : Option Nat) (greedy : Bool) (inner : Pattern)
  | capture (inner : Pattern)
  | sequence (items : List Pattern)
  | choice (branches : List Pattern)

/-- Whether a neighbouring character belongs to a word; a missing one does not. -/
def isWordAt (unicode : Bool) : Option Char → Bool
  | none => false
  | some c =>
    if unicode then Pattern.wordClass.accepts c else Pattern.AsciiClass.word.members.accepts c

/-- Whether a place between the two given neighbours has the wanted quality. -/
def Look.holds (before after : Option Char) : Look → Bool
  | .textStart => before.isNone
  | .textEnd => after.isNone
  | .lineStart => before.isNone || before == some '\n'
  | .lineEnd => after.isNone || after == some '\n'
  | .crlfLineStart =>
    before.isNone || before == some '\n' || (before == some '\r' && after != some '\n')
  | .crlfLineEnd =>
    after.isNone || after == some '\r' || (after == some '\n' && before != some '\r')
  | .wordBoundary u => isWordAt u before != isWordAt u after
  | .notWordBoundary u => isWordAt u before == isWordAt u after
  | .wordStart u => !isWordAt u before && isWordAt u after
  | .wordEnd u => isWordAt u before && !isWordAt u after
  | .wordStartHalf u => !isWordAt u before
  | .wordEndHalf u => !isWordAt u after

namespace Pattern

/-- The positions of both lists, each once if each list has its own once. -/
def either (a b : List Nat) : List Nat := a ++ b.filter fun i => !a.contains i

/-- The positions that at most `rounds` steps lead to. `seen` holds those found
so far and `frontier` those of them that the last round found. -/
def closure (step : List Nat → List Nat) : Nat → List Nat → List Nat → List Nat
  | 0, seen, _ => seen
  | rounds + 1, seen, frontier =>
    let fresh := (step frontier).filter fun i => !seen.contains i
    if fresh.isEmpty then seen else closure step rounds (seen ++ fresh) fresh

/-- The positions that exactly so many steps lead to. -/
def iterate (step : List Nat → List Nat) : Nat → List Nat → List Nat
  | 0, starts => starts
  | _ + 1, [] => []
  | n + 1, starts => iterate step n (step starts)

/-- The character before a position. -/
def before? (text : Array Char) (i : Nat) : Option Char :=
  if i = 0 then none else text[i - 1]?

/-- The position behind characters that stand at a position. -/
def behind? (text : Array Char) : List Char → Nat → Option Nat
  | [], i => some i
  | c :: r, i => if text[i]? = some c then behind? text r (i + 1) else none

mutual

/-- The positions where matches that begin at one of `starts` can end. -/
def reach (text : Array Char) : Pattern → List Nat → List Nat
  | .empty, starts => starts
  | .literal cs, starts => starts.filterMap (behind? text cs)
  | .one set, starts =>
    starts.filterMap fun i =>
      match text[i]? with
      | some c => if set.accepts c then some (i + 1) else none
      | none => none
  | .look kind, starts => starts.filter fun i => kind.holds (before? text i) text[i]?
  | .repetition low high _ inner, starts =>
    let first := iterate (inner.reach text) low starts
    closure (inner.reach text) ((high.map fun n => n - low).getD (text.size + 1)) first first
  | .capture inner, starts => inner.reach text starts
  | .sequence items, starts => reachAll text items starts
  | .choice branches, starts => reachAny text branches starts

/-- The positions behind a match of every item, one after another. -/
def reachAll (text : Array Char) : List Pattern → List Nat → List Nat
  | [], starts => starts
  | p :: r, starts => reachAll text r (p.reach text starts)

/-- The positions behind a match of any branch. -/
def reachAny (text : Array Char) : List Pattern → List Nat → List Nat
  | [], _ => []
  | p :: r, starts => either (p.reach text starts) (reachAny text r starts)

end

/-- Whether the pattern matches any part of the text. -/
def occursIn (p : Pattern) (text : String) : Bool :=
  let cs := text.toList.toArray
  !(p.reach cs (List.range (cs.size + 1))).isEmpty

end Pattern

end GridPolicy
