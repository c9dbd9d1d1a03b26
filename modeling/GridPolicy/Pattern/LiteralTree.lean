/-!
# Trees of literals

Literals to choose from are kept as a tree of their bytes, so that what several of
them begin with is there once. Earlier literals win over later ones. Where one ends,
the branches that are added afterwards are therefore kept apart from those before:
they form a group of their own, and branches ascend inside their group only.
-/
namespace GridPolicy.Pattern

/-- A place in the tree: the groups that are closed because a literal ended here,
and the branches added since. -/
inductive LiteralTree where
  | node (closed : List (List (Nat × LiteralTree))) (current : List (Nat × LiteralTree))

namespace LiteralTree

def leaf : LiteralTree := .node [] []

/-- Whether nothing goes on from here. -/
def isLeaf : LiteralTree → Bool
  | .node closed current => closed.all List.isEmpty && current.isEmpty

/-- A literal ends here. A place from which nothing goes on is closed once only. -/
def close : LiteralTree → LiteralTree
  | .node closed current =>
    if !closed.isEmpty && (LiteralTree.node closed current).isLeaf then .node closed current
    else .node (closed ++ [current]) []

/-- Puts a new branch at its place in a group. -/
def insertBranch (byte : Nat) (tree : LiteralTree) :
    List (Nat × LiteralTree) → List (Nat × LiteralTree)
  | [] => [(byte, tree)]
  | (b, t) :: r =>
    if b < byte then (b, t) :: insertBranch byte tree r else (byte, tree) :: (b, t) :: r

/-- The branches after one of them has changed. -/
def replaceBranch (byte : Nat) (tree : LiteralTree) :
    List (Nat × LiteralTree) → List (Nat × LiteralTree)
  | [] => []
  | (b, t) :: r => if b = byte then (b, tree) :: r else (b, t) :: replaceBranch byte tree r

/-- Adds a literal. -/
def add : LiteralTree → List Nat → LiteralTree
  | tree, [] => tree.close
  | .node closed current, byte :: r =>
    match current.lookup byte with
    | some tree => .node closed (replaceBranch byte (tree.add r) current)
    | none => .node closed (insertBranch byte (leaf.add r) current)
termination_by _ bytes => bytes.length

def ofLiterals (literals : List (List Nat)) : LiteralTree := literals.foldl add leaf

end LiteralTree

end GridPolicy.Pattern
