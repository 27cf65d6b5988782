/-!
# References to nodes

The nodes of a file live in one table and refer to each other by their place in it. A
reference may be absent, and documents write an absent one as the greatest number of four
bytes, `ScriptTree.NodeRef.absent`.

A list of nodes has a span of its own: that of a parameter list, for instance, is the text
between its parentheses.
-/

namespace ScriptTree

/-- The place of a node in its arena. -/
abbrev NodeId := Nat

/-- A reference to a node, which may be absent. -/
abbrev NodeRef := Option NodeId

namespace NodeRef

/-- The number that stands for an absent reference. -/
def absent : Nat := 0xFFFFFFFF

/-- A reference as a number. -/
def raw (r : NodeRef) : Nat := r.getD absent

/-- The reference that a number stands for. -/
def ofRaw (n : Nat) : NodeRef := if n = absent then none else some n

theorem ofRaw_raw {r : NodeRef} (h : r ≠ some absent) : ofRaw (raw r) = r := by
  cases r with
  | none => rfl
  | some n =>
    have hn : n ≠ absent := fun hn => h (by rw [hn])
    simp [ofRaw, raw, hn]

end NodeRef

/-- An ordered list of nodes with the span of its text. -/
structure NodeList where
  nodes : List NodeRef
  pos : Nat
  stop : Nat
  hasTrailingComma : Bool := false
  deriving DecidableEq, Repr

namespace NodeList

/-- The list without nodes at the start of the file. -/
def blank : NodeList := ⟨[], 0, 0, false⟩

/-- The list without nodes at an offset. -/
def empty (pos : Nat) : NodeList := ⟨[], pos, pos, false⟩

/-- The first node of a list; absent for an empty list, and where the first reference is. -/
def first (l : NodeList) : NodeRef := l.nodes.head?.join

/-- The last node of a list; absent for an empty list, and where the last reference is. -/
def last (l : NodeList) : NodeRef := l.nodes.getLast?.join

end NodeList

end ScriptTree
