import ScriptTree.Arena.NodeList
import ScriptTree.Json.Basic

/-!
# The correspondence of the two trees

A conversion records which normalized node each concrete node became, in two tables, so that it
can be looked up from either side. The first record of a concrete node stays, and so does the
first of a normalized one: the pairs are always a one-to-one correspondence.
-/

namespace ScriptTree

/-- Two tables of the same pairs, the latest first. -/
structure NodeMaps where
  /-- Every concrete node with the normalized node it became. -/
  pairs : List (NodeRef × Nat) := []
  /-- Every normalized node with the concrete node it came from. -/
  inverse : List (Nat × NodeRef) := []
  inverse_eq : inverse = pairs.map Prod.swap := by rfl
  deriving DecidableEq, Repr

namespace NodeMaps

/-- No pairs. -/
def empty : NodeMaps := {}

/-- Forgets every pair. -/
def reset (maps : NodeMaps) : NodeMaps :=
  { maps with pairs := [], inverse := [], inverse_eq := rfl }

/-- Puts a pair into both tables. -/
def insert (maps : NodeMaps) (concrete : NodeRef) (normalized : Nat) : NodeMaps where
  pairs := (concrete, normalized) :: maps.pairs
  inverse := (normalized, concrete) :: maps.inverse
  inverse_eq := by rw [maps.inverse_eq]; rfl

/-- Records a pair, unless one of its nodes has a partner already. -/
def register (maps : NodeMaps) (concrete : NodeRef) (normalized : Nat) : NodeMaps :=
  if maps.pairs.any (·.1 == concrete) || maps.inverse.any (·.1 == normalized) then maps
  else maps.insert concrete normalized

/-- The normalized node that a concrete one became. -/
def normalizedOf? (maps : NodeMaps) (concrete : NodeRef) : Option Nat :=
  (maps.pairs.find? (·.1 == concrete)).map (·.2)

/-- The concrete node that a normalized one came from. -/
def concreteOf? (maps : NodeMaps) (normalized : Nat) : Option NodeRef :=
  (maps.inverse.find? (·.1 == normalized)).map (·.2)

/-- The number of pairs. -/
def size (maps : NodeMaps) : Nat := maps.pairs.length

/-- The pairs in the order of the concrete nodes. -/
def byConcrete (maps : NodeMaps) : List (Nat × Nat) :=
  (maps.pairs.map fun p => (p.1.raw, p.2)).mergeSort fun x y => x.1 ≤ y.1

/-- The pairs, turned around, in the order of the normalized nodes. -/
def byNormalized (maps : NodeMaps) : List (Nat × Nat) :=
  (maps.inverse.map fun p => (p.1, p.2.raw)).mergeSort fun x y => x.1 ≤ y.1

/-- Writes pairs. -/
def pairsJson (pairs : List (Nat × Nat)) : Json :=
  .ofList (fun p => .arr [.nat p.1, .nat p.2]) pairs

/-- Writes both directions. -/
def toJson (maps : NodeMaps) : Json :=
  .obj [("tsNodeToEsNode", pairsJson maps.byConcrete),
    ("esNodeToTsNode", pairsJson maps.byNormalized)]

@[simp] theorem reset_eq_empty (maps : NodeMaps) : maps.reset = empty := rfl

end NodeMaps

end ScriptTree
