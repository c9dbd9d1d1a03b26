import Std.Data.HashMap
import GridPolicy.Pattern.Bytes
import GridPolicy.Pattern.LiteralTree
import GridPolicy.Pattern.Shape

/-!
# The size of a pattern

A counted repetition stands for that many copies of what it repeats, so a short text
can ask for a huge pattern. Patterns are therefore refused if one of their two
automata, which read a text from the left and from the right, takes up more than ten
mebibytes. A node counts 32 bytes, and nodes with any number of edges count these as
well: 8 bytes for an edge that reads a byte, 4 bytes for one that does not.

The nodes of a set share their common ends. What can be shared is found again by way
of tables with a fixed number of places, where a later node takes the place of an
earlier one with the same hash. The place depends on the numbers of the nodes, so the
nodes are numbered here in the order in which they come to be.
-/
namespace GridPolicy.Pattern

/-- In which direction an automaton reads. -/
inductive Direction where
  | fromLeft
  | fromRight
  deriving DecidableEq, Repr

def Direction.order {α : Type} : Direction → List α → List α
  | .fromLeft, items => items
  | .fromRight, items => items.reverse

/-- What has been built of an automaton: the nodes, and the bytes of their edges. -/
structure Extent where
  nodes : Nat
  edgeBytes : Nat
  deriving DecidableEq, Repr

def nodeBytes : Nat := 32

def byteEdge : Nat := 8

def plainEdge : Nat := 4

/-- The greatest size that is accepted. -/
def sizeLimit : Nat := 10 * 1024 * 1024

namespace Extent

def bytes (e : Extent) : Nat := nodeBytes * e.nodes + e.edgeBytes

/-- As many nodes and bytes more, if there is room for them. -/
def grow? (e : Extent) (nodes edgeBytes : Nat) : Option Extent :=
  let grown : Extent := ⟨e.nodes + nodes, e.edgeBytes + edgeBytes⟩
  if grown.bytes ≤ sizeLimit then some grown else none

/-- Goes on from the end of a part. If that is a node with any number of edges, it
gets one more. -/
def join? (e : Extent) (branching : Bool) : Option Extent :=
  if branching then e.grow? 0 plainEdge else some e

end Extent

/-- An edge that reads one of some bytes and leads to a node. -/
structure Edge where
  bytes : ByteRange
  target : Nat
  deriving DecidableEq, Repr

/-- The hash of a list of numbers. -/
def hashOf (numbers : List Nat) : UInt64 :=
  numbers.foldl (fun h n => (h ^^^ n.toUInt64) * 1099511628211) 14695981039346656037

/-- A table of nodes by what is behind them. -/
abbrev NodeTable (α : Type) := Std.HashMap Nat (α × Nat)

/-- The node that is kept in the place of a key, if it is the one for that key. -/
def NodeTable.find? {α : Type} [BEq α] (table : NodeTable α) (place : Nat) (key : α) : Option Nat :=
  match table[place]? with
  | some (k, node) => if k == key then some node else none
  | none => none

/-- A part of the automaton of a set that reads from the left. -/
structure SetBuild where
  extent : Extent
  known : NodeTable (List Edge)

namespace SetBuild

def places : Nat := 10000

def placeOf (edges : List Edge) : Nat :=
  (hashOf (edges.flatMap fun e => [e.bytes.first, e.bytes.last, e.target])).toNat % places

/-- The node with the given edges, which is built unless it is known. -/
def nodeFor? (b : SetBuild) (edges : List Edge) : Option (Nat × SetBuild) :=
  let place := placeOf edges
  match b.known.find? place edges with
  | some node => some (node, b)
  | none => do
    let node := b.extent.nodes
    let extent ← b.extent.grow? 1 (byteEdge * edges.length)
    return (node, ⟨extent, b.known.insert place (edges, node)⟩)

end SetBuild

/-- A node to which edges may still be added. What follows the pending bytes is not
complete. -/
structure OpenNode where
  edges : List Edge
  pending : Option ByteRange

/-- The edges, where the pending bytes lead to a node. -/
def OpenNode.closed (n : OpenNode) (target : Nat) : List Edge :=
  match n.pending with
  | some bytes => n.edges ++ [⟨bytes, target⟩]
  | none => n.edges

/-- Builds nodes that lead to one another, the last one to `target`. Gives the node
that the first one became. -/
def closeChain? (target : Nat) : List OpenNode → SetBuild → Option (Nat × SetBuild)
  | [], b => some (target, b)
  | n :: r, b => do
    let (next, b) ← closeChain? target r b
    b.nodeFor? (n.closed next)

/-- How many nodes of a path await exactly the bytes of a sequence. -/
def sharedLength : List OpenNode → List ByteRange → Nat
  | n :: path, bytes :: r => if n.pending = some bytes then sharedLength path r + 1 else 0
  | _, _ => 0

/-- Closes all nodes of a path behind the given depth, and what the node at that
depth awaits. -/
def closeBehind? (target depth : Nat) (path : List OpenNode) (b : SetBuild) :
    Option (List OpenNode × SetBuild) := do
  let (next, b) ← closeChain? target (path.drop (depth + 1)) b
  match path[depth]? with
  | some n => return (path.take depth ++ [⟨n.closed next, none⟩], b)
  | none => return (path, b)

/-- Makes a path await a sequence, from its last node on. -/
def await (path : List OpenNode) (rest : List ByteRange) : List OpenNode :=
  match path.getLast?, rest with
  | some n, bytes :: r =>
    path.dropLast ++ { n with pending := some bytes } :: r.map fun bytes => ⟨[], some bytes⟩
  | _, _ => path

/-- Adds ascending sequences to a path from the root. -/
def addSequences? (target : Nat) :
    List (List ByteRange) → List OpenNode → SetBuild → Option (List OpenNode × SetBuild)
  | [], path, b => some (path, b)
  | bytes :: r, path, b => do
    let depth := sharedLength path bytes
    let (path, b) ← closeBehind? target depth path b
    addSequences? target r (await path (bytes.drop depth)) b

/-- The automaton of a set that reads from the left: an end, and nodes that share
what is behind them. -/
def growSetFromLeft? (set : CharSet) (e : Extent) : Option Extent := do
  let target := e.nodes
  let e ← e.grow? 1 0
  let (path, b) ← addSequences? target set.byteSequences [⟨[], none⟩] ⟨e, ∅⟩
  let (path, b) ← closeBehind? target 0 path b
  let (_, b) ← closeChain? target path b
  return b.extent

/-- What a node leads to, when it reads one of some bytes. -/
structure Suffix where
  target : Nat
  bytes : ByteRange
  deriving DecidableEq, Repr

def suffixPlaces : Nat := 1000

def Suffix.place (s : Suffix) : Nat :=
  (hashOf [s.target, s.bytes.first, s.bytes.last]).toNat % suffixPlaces

/-- The nodes for a sequence read from the right, where those that are known are
used again. -/
def growSequence? : List ByteRange → Nat → Extent → NodeTable Suffix →
    Option (Extent × NodeTable Suffix)
  | [], _, e, known => some (e, known)
  | bytes :: r, target, e, known =>
    let suffix : Suffix := ⟨target, bytes⟩
    match known.find? suffix.place suffix with
    | some node => growSequence? r node e known
    | none =>
      match e.grow? 1 0 with
      | some grown => growSequence? r e.nodes grown (known.insert suffix.place (suffix, e.nodes))
      | none => none

/-- The sequences of a set, each with an edge from the node that chooses. -/
def growSequences? (target : Nat) :
    List (List ByteRange) → Extent → NodeTable Suffix → Option Extent
  | [], e, _ => some e
  | bytes :: r, e, known =>
    match growSequence? bytes target e known with
    | some (e, known) =>
      match e.grow? 0 plainEdge with
      | some e => growSequences? target r e known
      | none => none
    | none => none

/-- The automaton of a set that reads from the right: a choice between the sequences
and an end. -/
def growSetFromRight? (set : CharSet) (e : Extent) : Option Extent := do
  let target := e.nodes + 1
  let e ← e.grow? 2 0
  growSequences? target set.byteSequences e ∅

/-- The automaton of a set. In ASCII one node with an edge for each range does. -/
def growSet? (direction : Direction) (set : CharSet) (e : Extent) : Option Extent :=
  if set.isAscii then e.grow? 2 (byteEdge * set.ranges.size)
  else
    match direction with
    | .fromLeft => growSetFromLeft? set e
    | .fromRight => growSetFromRight? set e

mutual

/-- The extent of a tree of literals. Every group is one node, and a node chooses
between the groups and the ends between them. -/
def LiteralTree.extent : LiteralTree → Extent
  | .node closed current =>
    let groups := groupsExtent closed
    let last := branchesExtent current
    let own := groupExtent current.length
    ⟨groups.nodes + last.nodes + own.nodes + 1,
      groups.edgeBytes + last.edgeBytes + own.edgeBytes + plainEdge * closed.length⟩

/-- The extent of a group of so many branches, with the edge that leads to it. -/
def groupExtent : Nat → Extent
  | 0 => ⟨0, 0⟩
  | 1 => ⟨1, plainEdge⟩
  | n => ⟨1, plainEdge + byteEdge * n⟩

def groupsExtent : List (List (Nat × LiteralTree)) → Extent
  | [] => ⟨0, 0⟩
  | branches :: r =>
    let inner := branchesExtent branches
    let own := groupExtent branches.length
    let rest := groupsExtent r
    ⟨inner.nodes + own.nodes + rest.nodes, inner.edgeBytes + own.edgeBytes + rest.edgeBytes⟩

/-- The extent of what is behind the branches; a leaf is the common end. -/
def branchesExtent : List (Nat × LiteralTree) → Extent
  | [] => ⟨0, 0⟩
  | (_, tree) :: r =>
    let inner := if tree.isLeaf then ⟨0, 0⟩ else tree.extent
    let rest := branchesExtent r
    ⟨inner.nodes + rest.nodes, inner.edgeBytes + rest.edgeBytes⟩

end

/-- A part of an automaton under construction: whether its end is a node with any
number of edges, and what has been built so far. -/
abbrev Part := Bool × Extent

/-- So many more parts in a row. -/
def follow? (part : Extent → Option Part) : Nat → Part → Option Part
  | 0, before => some before
  | n + 1, (branching, e) =>
    match part e with
    | none => none
    | some (next, e) =>
      match e.join? branching with
      | none => none
      | some e => follow? part n (next, e)

/-- So many parts in a row; none at all is a node of its own. -/
def copies? (part : Extent → Option Part) (n : Nat) (e : Extent) : Option Part :=
  match n with
  | 0 => (e.grow? 1 0).map (false, ·)
  | n + 1 => (part e).bind (follow? part n)

/-- So many more parts in a row, in front of each of which is a node that may leave. -/
def followOptional? (part : Extent → Option Part) : Nat → Part → Option Part
  | 0, before => some before
  | n + 1, (branching, e) =>
    match e.grow? 1 (2 * plainEdge) with
    | none => none
    | some e =>
      match part e with
      | none => none
      | some (next, e) =>
        match e.join? branching with
        | none => none
        | some e => followOptional? part n (next, e)

/-- At least `low` and at most `high` parts. -/
def between? (part : Extent → Option Part) (low high : Nat) (e : Extent) : Option Part := do
  let (branching, e) ← copies? part low e
  let e ← e.grow? 1 0
  let (branching, e) ← followOptional? part (high - low) (branching, e)
  return (false, ← e.join? branching)

/-- One part or none. -/
def optional? (part : Extent → Option Part) (e : Extent) : Option Part := do
  let e ← e.grow? 1 (2 * plainEdge)
  let (branching, e) ← part e
  let e ← e.grow? 1 0
  return (false, ← e.join? branching)

/-- Any number of parts. A part that may be empty needs a second node to choose. -/
def anyNumber? (part : Extent → Option Part) (mayBeEmpty : Bool) (e : Extent) : Option Part :=
  if mayBeEmpty then do
    let (branching, e) ← part e
    let e ← e.grow? 3 (4 * plainEdge)
    return (false, ← e.join? branching)
  else do
    let e ← e.grow? 1 plainEdge
    let (branching, e) ← part e
    return (true, ← e.join? branching)

/-- At least `low` parts. -/
def atLeast? (part : Extent → Option Part) (mayBeEmpty : Bool) (low : Nat) (e : Extent) :
    Option Part :=
  match low with
  | 0 => anyNumber? part mayBeEmpty e
  | low + 1 => do
    let (branching, e) ← copies? part (low + 1) e
    let e ← e.grow? 1 plainEdge
    return (true, ← e.join? branching)

def repetition? (part : Extent → Option Part) (mayBeEmpty : Bool) (low : Nat) :
    Option Nat → Extent → Option Part
  | none, e => atLeast? part mayBeEmpty low e
  | some high, e =>
    if low = 0 ∧ high = 1 then optional? part e
    else if low = high then copies? part low e
    else between? part low high e

def literalBytes (cs : List Char) : List Nat := cs.flatMap fun c => encode c.toNat

/-- The literals of a choice between nothing else. -/
def literals? (branches : List Pattern) : Option (List (List Nat)) :=
  branches.mapM fun
    | .literal cs => some (literalBytes cs)
    | _ => none

mutual

/-- Builds the automaton of a pattern. -/
def grow? (direction : Direction) : Pattern → Extent → Option Part
  | .empty, e => (e.grow? 1 0).map (false, ·)
  | .literal cs, e => (e.grow? (literalWidth cs) 0).map (false, ·)
  | .one set, e => (growSet? direction set e).map (false, ·)
  | .look _, e => (e.grow? 1 0).map (false, ·)
  | .repetition low high _ inner, e =>
    repetition? (inner.grow? direction) (!(inner.least?.any fun n => 0 < n)) low high e
  | .capture inner, e =>
    match direction with
    | .fromRight => inner.grow? direction e
    | .fromLeft => do
      let e ← e.grow? 1 0
      let (branching, e) ← inner.grow? direction e
      let e ← e.grow? 1 0
      return (false, ← e.join? branching)
  | .sequence items, e =>
    match direction with
    | .fromLeft => growAll? direction items e
    | .fromRight => growAllFromRight? direction items e
  | .choice branches, e =>
    match literals? branches with
    | some literals =>
      let tree := LiteralTree.ofLiterals (literals.map direction.order)
      let extent := tree.extent
      (e.grow? (extent.nodes + 1) extent.edgeBytes).map (false, ·)
    | none => (growAny? direction 2 branches e).map (false, ·)

def growAll? (direction : Direction) : List Pattern → Extent → Option Part
  | [], e => (e.grow? 1 0).map (false, ·)
  | [p], e => p.grow? direction e
  | p :: r, e => do
    let (branching, e) ← p.grow? direction e
    let (last, e) ← growAll? direction r e
    return (last, ← e.join? branching)

def growAllFromRight? (direction : Direction) : List Pattern → Extent → Option Part
  | [], e => (e.grow? 1 0).map (false, ·)
  | [p], e => p.grow? direction e
  | p :: r, e => do
    let (branching, e) ← growAllFromRight? direction r e
    let (last, e) ← p.grow? direction e
    return (last, ← e.join? branching)

/-- Every branch, with the edge that leads to it and the one from its end. The nodes
where the branches part and meet come to be when `before` of them have been built. -/
def growAny? (direction : Direction) (before : Nat) : List Pattern → Extent → Option Extent
  | [], e => some e
  | p :: r, e => do
    let (branching, e) ← p.grow? direction e
    let e ← e.join? branching
    growAny? direction (before - 1) r (← e.grow? (if before = 1 then 2 else 0) plainEdge)

end

/-- Builds the whole automaton. In front of what does not have to begin at the edge of
the text stands a loop over any bytes; and the whole is a group that captures. -/
def automaton? (direction : Direction) (p : Pattern) : Option Extent := do
  let anchored := match direction with
    | .fromLeft => p.opensWith .textStart
    | .fromRight => p.closesWith .textEnd
  let e ← if anchored then (Extent.mk 0 0).grow? 1 0
    else (Extent.mk 0 0).grow? 3 (byteEdge + 2 * plainEdge)
  let (branching, e) ← (Pattern.capture p).grow? direction e
  (← e.grow? 1 0).join? branching

/-- Whether both automata are of acceptable size. -/
def fits (p : Pattern) : Bool :=
  (automaton? .fromLeft p).isSome && (automaton? .fromRight p).isSome

end GridPolicy.Pattern
