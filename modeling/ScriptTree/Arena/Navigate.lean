import ScriptTree.Arena.Basic
import ScriptTree.Loop

/-!
# Moving through an arena

From a node one can go up, along the parents, and down, to the deepest node that covers a
range of the source. Where nodes lie below themselves neither way need have an end. A search that
has gone on as often as there are nodes has come back to a node and goes round in circles: it has
no answer.
-/

namespace ScriptTree

namespace Arena

/-- The answer of a search through the nodes, if it comes to an end. -/
def search {σ α : Type} (a : Arena) (turn : σ → Turn σ α) (s : σ) : Option α :=
  loop turn (a.nodes.size + 1) s

/-! ### Upwards -/

/-- The strict ancestors of a node, the nearest first, up to the first one with a property; none if
the fuel runs out on the way. -/
def ancestorsUntil (a : Arena) (test : NodeId → Node → Bool) :
    (fuel : Nat) → NodeRef → Option (List (NodeId × Node))
  | 0, _ => none
  | fuel + 1, r =>
    match a.parent r with
    | none => some []
    | some p => match a.nodes[p]? with
      | none => some []
      | some n =>
        if test p n then some [(p, n)]
        else (ancestorsUntil a test fuel (some p)).map ((p, n) :: ·)

/-- The nearest strict ancestor with a property, if the way up has an end. -/
def findAncestor (a : Arena) (r : NodeRef) (test : NodeId → Node → Bool) : Option NodeRef :=
  (a.ancestorsUntil test (a.nodes.size + 1) r).map fun passed =>
    (passed.find? fun p => test p.1 p.2).map (·.1)

/-! ### Downwards -/

/-- The first child whose span contains a range and is not empty. -/
def childContaining (a : Arena) (i : NodeId) (start stop : Nat) : Option NodeId :=
  (a.children (some i)).find? fun child =>
    (a.nodes[child]?).any fun n => n.contains start stop && n.pos < n.stop

/-- Goes down from a node to a child that contains the range, if there is one. -/
def descend (a : Arena) (start stop : Nat) (i : NodeId) : Turn NodeId NodeId :=
  match a.childContaining i start stop with
  | none => .answer i
  | some child => .goOn child

/-- The deepest node at or below a root whose span contains a range, if the way down has an end. -/
def nodeContaining (a : Arena) (root : NodeRef) (start stop : Nat) : Option NodeRef :=
  match root with
  | none => some none
  | some i => match a.nodes[i]? with
    | none => some none
    | some n =>
      if n.contains start stop then (a.search (a.descend start stop) i).map some else some none

/-! ### Parts that many nodes have -/

/-- The modifiers of a declaration, if it has a list of them. -/
def modifiersOf (a : Arena) (r : NodeRef) : Option NodeList :=
  match a.node? r with
  | none => none
  | some n => match n.pool with
    | none => none
    | some p => ((a.data? p n).bind fun d => d.get? .modifiers).join

/-- The set of modifiers in a list of nodes. -/
def modifierSet (a : Arena) (modifiers : Option NodeList) : List Modifier :=
  ((modifiers.map NodeList.nodes).getD []).filterMap fun r =>
    (a.kind? r).bind Modifier.ofKeyword?

/-- A list of modifiers has a word of the given kind. -/
def hasModifier (a : Arena) (modifiers : Option NodeList) (kind : SyntaxKind) : Bool :=
  ((modifiers.map NodeList.nodes).getD []).any fun r => a.kind? r == some kind

/-- The text of a name. -/
def nameText? (a : Arena) (r : NodeRef) : Option String :=
  (a.dataAt? .identifier r).map fun d => d.get .escapedText

/-- What is known about a source file as a whole. -/
def sourceFile? (a : Arena) (root : NodeRef) : Option (Data .sourceFile) :=
  a.dataAt? .sourceFile root

end Arena

end ScriptTree
