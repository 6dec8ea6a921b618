/-!
# Trees of conditions

A tree joins leaves by AND and OR in groups of any width and depth. The type of the leaves
is left open: filters, compiled predicates and their truth values are trees alike.

* `Tree.leaves`: the leaves in document order.
* `Tree.traverse`: replaces each leaf in that order, up to the first error.
-/
namespace RowFilter

inductive Conjunction
  | and | or
  deriving DecidableEq, Repr

namespace Conjunction

def all : List Conjunction := [and, or]

def name : Conjunction → String
  | and => "and"
  | or => "or"

end Conjunction

inductive Tree (α : Type)
  | leaf (a : α)
  | group (c : Conjunction) (children : List (Tree α))
  deriving Repr

namespace Tree

variable {α β ε : Type}

/-! ## Measures -/

mutual

/-- The leaves in document order. -/
def leaves : Tree α → List α
  | leaf a => [a]
  | group _ ts => leavesOf ts

def leavesOf : List (Tree α) → List α
  | [] => []
  | t :: ts => leaves t ++ leavesOf ts

end

mutual

/-- A leaf alone has depth one, and each group adds a level. -/
def depth : Tree α → Nat
  | leaf _ => 1
  | group _ ts => 1 + depthOf ts

def depthOf : List (Tree α) → Nat
  | [] => 0
  | t :: ts => max (depth t) (depthOf ts)

end

def leafCount (t : Tree α) : Nat := t.leaves.length

/-! ## Replacing leaves -/

mutual

/-- The tree with each leaf replaced. -/
def map (f : α → β) : Tree α → Tree β
  | leaf a => leaf (f a)
  | group c ts => group c (mapOf f ts)

def mapOf (f : α → β) : List (Tree α) → List (Tree β)
  | [] => []
  | t :: ts => map f t :: mapOf f ts

end

mutual

/-- The tree with each leaf replaced, or the error of the first leaf that has one. -/
def traverse (f : α → Except ε β) : Tree α → Except ε (Tree β)
  | leaf a => (f a).map leaf
  | group c ts => (traverseOf f ts).map (group c)

def traverseOf (f : α → Except ε β) : List (Tree α) → Except ε (List (Tree β))
  | [] => .ok []
  | t :: ts => do
    let t ← traverse f t
    let ts ← traverseOf f ts
    return t :: ts

end

mutual

/-- The tree of the leaves that are kept. A group that keeps no child goes with them. The
error is that of the first leaf that has one. -/
def prune (f : α → Except ε (Option β)) : Tree α → Except ε (Option (Tree β))
  | leaf a => (f a).map (·.map leaf)
  | group c ts => do
    match ← pruneOf f ts with
    | [] => return none
    | ts => return some (group c ts)

def pruneOf (f : α → Except ε (Option β)) : List (Tree α) → Except ε (List (Tree β))
  | [] => .ok []
  | t :: ts => do
    let t ← prune f t
    let ts ← pruneOf f ts
    return t.toList ++ ts

end

end Tree

end RowFilter
