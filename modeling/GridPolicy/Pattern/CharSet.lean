/-!
# Sets of code points

A set of code points is kept as its maximal ranges, ascending and without contact,
so that two sets with the same members have the same ranges and membership is a
binary search. Long sets are written as text, one range or single code point after
another in hexadecimal, which keeps them readable.
-/
namespace GridPolicy.Pattern

/-- The value of a hexadecimal digit; any other character counts as zero. -/
def hexDigitValue (c : Char) : Nat :=
  let n := c.toNat
  if 48 ≤ n && n ≤ 57 then n - 48 else if 65 ≤ n && n ≤ 70 then n - 55 else 0

def hexValue (cs : List Char) : Nat := cs.foldl (fun n c => n * 16 + hexDigitValue c) 0

def isSeparator (c : Char) : Bool := c == ' ' || c == '\n'

/-- The entries of a written table, which blanks and ends of lines separate. -/
def splitTable (s : String) : List (List Char) :=
  ((s.toList.map fun c => if isSeparator c then ' ' else c).splitOn ' ').filter fun e => !e.isEmpty

/-- One entry of a written table. -/
def readRange (cs : List Char) : Nat × Nat :=
  match cs.splitOn '-' with
  | [lo, hi] => (hexValue lo, hexValue hi)
  | _ => (hexValue cs, hexValue cs)

/-- A set of code points, as its maximal ranges in ascending order. -/
structure CharSet where
  ranges : Array (Nat × Nat)
  deriving DecidableEq, Repr

namespace CharSet

def empty : CharSet := ⟨#[]⟩

def isEmpty (s : CharSet) : Bool := s.ranges.isEmpty

def range (first last : Nat) : CharSet := ⟨#[(first, last)]⟩

def single (c : Char) : CharSet := .range c.toNat c.toNat

/-- The only member, if there is just one. -/
def only? (s : CharSet) : Option Char :=
  match s.ranges.toList with
  | [(first, last)] => if first = last then some (Char.ofNat first) else none
  | _ => none

/-- A table whose entries ascend and do not touch. -/
def ofText (s : String) : CharSet := ⟨((splitTable s).map readRange).toArray⟩

/-- Looks for a range with `n` between the indices `low` and `high`, the latter
excluded, halving the span at each of at most `steps` steps. -/
def search (s : CharSet) (n low high : Nat) : Nat → Bool
  | 0 => false
  | steps + 1 =>
    if high ≤ low then false
    else
      let middle := (low + high) / 2
      match s.ranges[middle]? with
      | none => false
      | some (first, last) =>
        if n < first then s.search n low middle steps
        else if last < n then s.search n (middle + 1) high steps
        else true

/-- Whether the set has the code point; thirty-two halvings end any search. -/
def contains (s : CharSet) (n : Nat) : Bool := s.search n 0 s.ranges.size 32

def accepts (s : CharSet) (c : Char) : Bool := s.contains c.toNat

/-- Joins a range with those behind it that it overlaps or touches. The ranges
ascend by their first members. -/
def joinFrom (first last : Nat) : List (Nat × Nat) → List (Nat × Nat)
  | [] => [(first, last)]
  | (a, b) :: r =>
    if a ≤ last + 1 then joinFrom first (max last b) r else (first, last) :: joinFrom a b r

/-- The set that ranges make up that ascend by their first members. -/
def ofAscending : List (Nat × Nat) → CharSet
  | [] => .empty
  | (first, last) :: r => ⟨(joinFrom first last r).toArray⟩

def startsBefore (a b : Nat × Nat) : Bool := a.1 ≤ b.1

/-- The set that ranges in any order make up. -/
def ofRanges (ranges : List (Nat × Nat)) : CharSet := .ofAscending (ranges.mergeSort startsBefore)

def ofMembers (members : List Nat) : CharSet := .ofRanges (members.map fun n => (n, n))

def union (s t : CharSet) : CharSet :=
  .ofAscending (List.merge s.ranges.toList t.ranges.toList startsBefore)

def unions (sets : List CharSet) : CharSet := sets.foldl union .empty

/-- The part of a range that lies in another. -/
def overlap? (a b : Nat × Nat) : Option (Nat × Nat) :=
  if max a.1 b.1 ≤ min a.2 b.2 then some (max a.1 b.1, min a.2 b.2) else none

def intersection (s t : CharSet) : CharSet :=
  ⟨(s.ranges.toList.flatMap fun a => t.ranges.toList.filterMap (overlap? a)).toArray⟩

/-- The greatest code point. -/
def greatest : Nat := 0x10FFFF

/-- The next code point that is a character: none of the halves of pairs is. -/
def next (n : Nat) : Nat := if n = 0xD7FF then 0xE000 else n + 1

/-- The code point before, halves of pairs left out. -/
def previous (n : Nat) : Nat := if n = 0xE000 then 0xD7FF else n - 1

/-- The first and the last code point between neighbouring ranges, where `last`
ends the range before. Between ranges that only halves of pairs separate the last
one comes before the first. -/
def gapsAfter (last : Nat) : List (Nat × Nat) → List (Nat × Nat)
  | [] => if last < greatest then [(next last, greatest)] else []
  | (a, b) :: r => (next last, previous a) :: gapsAfter b r

/-- The first and the last code point of each gap in the set. -/
def gaps (s : CharSet) : List (Nat × Nat) :=
  match s.ranges.toList with
  | [] => [(0, greatest)]
  | (a, b) :: r => if a = 0 then gapsAfter b r else (0, previous a) :: gapsAfter b r

/-- All characters that are not in the set. -/
def outside (s : CharSet) : CharSet := ⟨(s.gaps.filter fun gap => gap.1 ≤ gap.2).toArray⟩

/-- What a negated class stands for. It differs from the characters outside the set
only where the set has both neighbours of the halves of pairs in ranges of their
own: these two make up a gap as well. -/
def complement (s : CharSet) : CharSet :=
  ⟨(s.gaps.map fun gap => (min gap.1 gap.2, max gap.1 gap.2)).toArray⟩

/-- What remains of a range without the given ones. -/
def remainder (first last : Nat) : List (Nat × Nat) → List (Nat × Nat)
  | [] => [(first, last)]
  | (a, b) :: r =>
    if b < first || last < a then remainder first last r
    else
      (if first < a then [(first, previous a)] else []) ++
        if b < last then remainder (next b) last r else []

def difference (s t : CharSet) : CharSet :=
  ⟨(s.ranges.toList.flatMap fun a => remainder a.1 a.2 t.ranges.toList).toArray⟩

def symmetricDifference (s t : CharSet) : CharSet :=
  (s.union t).difference (s.intersection t)

def ascii : CharSet := .range 0 127

/-- Whether all members belong to ASCII. -/
def isAscii (s : CharSet) : Bool := s.ranges.all fun r => r.2 ≤ 127

end CharSet

end GridPolicy.Pattern
