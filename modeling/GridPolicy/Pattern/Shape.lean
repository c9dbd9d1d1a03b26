import GridPolicy.Pattern.Basic

/-!
# The shape of patterns

Patterns are put together in a simplified shape: neighbouring literals are joined,
sequences and choices dissolve into those around them, a choice between single
characters is a set, and what all branches of a choice begin with stands before it
once. The shape changes nothing about what is matched, but it decides how large the
automaton of a pattern is.
-/
namespace GridPolicy.Pattern

/-- How many bytes a code point takes up. -/
def byteWidth (n : Nat) : Nat :=
  if n ≤ 0x7F then 1 else if n ≤ 0x7FF then 2 else if n ≤ 0xFFFF then 3 else 4

def literalWidth (cs : List Char) : Nat := cs.foldl (fun n c => n + byteWidth c.toNat) 0

mutual

/-- The fewest bytes that a match has, if anything can match. -/
def least? : Pattern → Option Nat
  | .empty | .look _ => some 0
  | .literal cs => some (literalWidth cs)
  | .one set => set.ranges[0]?.map fun r => byteWidth r.1
  | .repetition low _ _ inner => inner.least?.map (low * ·)
  | .capture inner => inner.least?
  | .sequence items => leastOfAll? items
  | .choice branches => leastOfAny? branches

def leastOfAll? : List Pattern → Option Nat
  | [] => some 0
  | p :: r =>
    match p.least?, leastOfAll? r with
    | some a, some b => some (a + b)
    | _, _ => none

/-- A branch that nothing matches leaves it open. -/
def leastOfAny? : List Pattern → Option Nat
  | [] => none
  | [p] => p.least?
  | p :: r =>
    match p.least?, leastOfAny? r with
    | some a, some b => some (min a b)
    | _, _ => none

end

mutual

/-- The most bytes that a match has, if there is a bound. -/
def most? : Pattern → Option Nat
  | .empty | .look _ => some 0
  | .literal cs => some (literalWidth cs)
  | .one set => set.ranges.back?.map fun r => byteWidth r.2
  | .repetition _ high _ inner =>
    match high, inner.most? with
    | some n, some b => some (n * b)
    | _, _ => none
  | .capture inner => inner.most?
  | .sequence items => mostOfAll? items
  | .choice branches => mostOfAny? branches

def mostOfAll? : List Pattern → Option Nat
  | [] => some 0
  | p :: r =>
    match p.most?, mostOfAll? r with
    | some a, some b => some (a + b)
    | _, _ => none

def mostOfAny? : List Pattern → Option Nat
  | [] => none
  | [p] => p.most?
  | p :: r =>
    match p.most?, mostOfAny? r with
    | some a, some b => some (max a b)
    | _, _ => none

end

mutual

/-- Whether every match begins with an assertion of the kind. -/
def opensWith (kind : Look) : Pattern → Bool
  | .look k => k == kind
  | .repetition low _ _ inner => low != 0 && inner.opensWith kind
  | .capture inner => inner.opensWith kind
  | .sequence items => firstOpensWith kind items
  | .choice branches => allOpenWith kind branches
  | _ => false

/-- Items of no width do not hide what is behind them. -/
def firstOpensWith (kind : Look) : List Pattern → Bool
  | [] => false
  | p :: r => p.opensWith kind || (p.most? == some 0 && firstOpensWith kind r)

def allOpenWith (kind : Look) : List Pattern → Bool
  | [] => true
  | p :: r => p.opensWith kind && allOpenWith kind r

end

mutual

/-- Whether every match ends with an assertion of the kind. -/
def closesWith (kind : Look) : Pattern → Bool
  | .look k => k == kind
  | .repetition low _ _ inner => low != 0 && inner.closesWith kind
  | .capture inner => inner.closesWith kind
  | .sequence items => lastClosesWith kind items
  | .choice branches => allCloseWith kind branches
  | _ => false

def lastClosesWith (kind : Look) : List Pattern → Bool
  | [] => false
  | p :: r => lastClosesWith kind r || (mostOfAll? r == some 0 && p.closesWith kind)

def allCloseWith (kind : Look) : List Pattern → Bool
  | [] => true
  | p :: r => p.closesWith kind && allCloseWith kind r

end

mutual

/-- Whether an assertion that satisfies the condition stands anywhere. -/
def anyLook (f : Look → Bool) : Pattern → Bool
  | .look kind => f kind
  | .repetition _ _ _ inner => inner.anyLook f
  | .capture inner => inner.anyLook f
  | .sequence items => anyLookIn f items
  | .choice branches => anyLookIn f branches
  | _ => false

def anyLookIn (f : Look → Bool) : List Pattern → Bool
  | [] => false
  | p :: r => p.anyLook f || anyLookIn f r

end

mutual

/-- Whether two patterns are written alike. A group that captures is like no other
one, since each keeps a text of its own. -/
def isLike : Pattern → Pattern → Bool
  | .empty, .empty => true
  | .literal a, .literal b => a == b
  | .one s, .one t => s == t
  | .look a, .look b => a == b
  | .repetition low high greedy p, .repetition low' high' greedy' q =>
    low == low' && high == high' && greedy == greedy' && p.isLike q
  | .sequence ps, .sequence qs => areLike ps qs
  | .choice ps, .choice qs => areLike ps qs
  | _, _ => false

def areLike : List Pattern → List Pattern → Bool
  | [], [] => true
  | p :: ps, q :: qs => p.isLike q && areLike ps qs
  | _, _ => false

end

/-- A single character is a literal, not a set. -/
def ofSet (set : CharSet) : Pattern :=
  match set.only? with
  | some c => .literal [c]
  | none => .one set

/-- Repeating what has no width more than once changes nothing. -/
def repeated (low : Nat) (high : Option Nat) (greedy : Bool) (inner : Pattern) : Pattern :=
  let flat := inner.most? == some 0
  let low := if flat then min low 1 else low
  let high := if flat then some (min (high.getD 1) 1) else high
  if high = some 0 then .empty
  else if low = 1 ∧ high = some 1 then inner
  else .repetition low high greedy inner

/-- The items with sequences among them dissolved and without empty ones. -/
def flatItems : List Pattern → List Pattern
  | [] => []
  | .empty :: r => flatItems r
  | .sequence items :: r => items ++ flatItems r
  | p :: r => p :: flatItems r

def joinLiterals : List Pattern → List Pattern
  | [] => []
  | .literal a :: r =>
    match joinLiterals r with
    | .literal b :: s => .literal (a ++ b) :: s
    | s => .literal a :: s
  | p :: r => p :: joinLiterals r

/-- The items one after another. -/
def ofItems (items : List Pattern) : Pattern :=
  match joinLiterals (flatItems items) with
  | [] => .empty
  | [p] => p
  | ps => .sequence ps

/-- The branches with choices among them dissolved. -/
def flatBranches : List Pattern → List Pattern
  | [] => []
  | .choice branches :: r => branches ++ flatBranches r
  | p :: r => p :: flatBranches r

def letter? : Pattern → Option CharSet
  | .literal [c] => some (.single c)
  | _ => none

def set? : Pattern → Option CharSet
  | .one set => some set
  | _ => none

/-- The one set that a choice between single characters stands for, or a choice
between sets. A choice between both kinds is left alone. -/
def setOfBranches? (branches : List Pattern) : Option CharSet :=
  ((branches.mapM letter?).or (branches.mapM set?)).map CharSet.unions

def items? : Pattern → Option (List Pattern)
  | .sequence items => some items
  | _ => none

/-- The part of the first list that the second one begins with too. -/
def commonLead : List Pattern → List Pattern → List Pattern
  | p :: ps, q :: qs => if p.isLike q then p :: commonLead ps qs else []
  | _, _ => []

/-- What all branches begin with, and what follows that in each. -/
def splitLead? (branches : List Pattern) : Option (List Pattern × List (List Pattern)) :=
  match branches.mapM items? with
  | some (first :: rest) =>
    let lead := rest.foldl commonLead first
    if lead.isEmpty then none
    else some (lead, (first :: rest).map fun items => items.drop lead.length)
  | _ => none

mutual

/-- The number of patterns in a pattern. -/
def count : Pattern → Nat
  | .repetition _ _ _ inner => inner.count + 1
  | .capture inner => inner.count + 1
  | .sequence items => countAll items + 1
  | .choice branches => countAll branches + 1
  | _ => 1

def countAll : List Pattern → Nat
  | [] => 0
  | p :: r => p.count + countAll r

end

/-- Any of the branches. Each step takes the lead off all of them, so that their
count bounds the steps. -/
def ofBranchesWithin : Nat → List Pattern → Pattern
  | 0, branches => .choice branches
  | steps + 1, branches =>
    match flatBranches branches with
    | [] => .one .empty
    | [p] => p
    | flat =>
      match setOfBranches? flat with
      | some set => ofSet set
      | none =>
        match splitLead? flat with
        | some (lead, rests) => ofItems (lead ++ [ofBranchesWithin steps (rests.map ofItems)])
        | none => .choice flat

def ofBranches (branches : List Pattern) : Pattern :=
  ofBranchesWithin (countAll branches + 1) branches

end GridPolicy.Pattern
