import ScriptTree.Arena.Pool

/-!
# Records

The parts of one node are a record: a value for every field of a layout. A record is a
tuple, and `ScriptTree.Record.get` picks the value of a field that the layout has. Since all
records are built from the same sorts of values, what is said about every node is said
once, by recursion on the layout: its blank form, its children, and in
`ScriptTree.Arena.Document` the way it is written.
-/

namespace ScriptTree

/-- A layout has a field. -/
class inductive Field.In (f : Field) : List Field → Type
  | head (fs : List Field) : Field.In f (f :: fs)
  | tail (g : Field) (fs : List Field) (h : Field.In f fs) : Field.In f (g :: fs)

namespace Field.In

instance first (f : Field) (fs : List Field) : f.In (f :: fs) := .head fs

instance later (f g : Field) (fs : List Field) [h : f.In fs] : f.In (g :: fs) := .tail g fs h

end Field.In

/-- A value for every field of a layout. -/
def Record : List Field → Type
  | [] => Unit
  | f :: fs => f.Value × Record fs

namespace Record

/-- The record that says nothing. -/
def blank : (fs : List Field) → Record fs
  | [] => ()
  | f :: fs => (f.sort.blank, blank fs)

/-- The value of a field, if the layout has it. -/
def get? : {fs : List Field} → Record fs → (f : Field) → Option f.Value
  | [], _, _ => none
  | g :: gs, r, f => if e : f = g then some (e ▸ r.1) else @get? gs r.2 f

/-- The record with a value in place of that of a field. -/
def set : {fs : List Field} → Record fs → (f : Field) → f.Value → Record fs
  | [], r, _, _ => r
  | g :: gs, r, f, v =>
    if e : f = g then (e ▸ v, r.2) else (r.1, @set gs r.2 f v)

theorem isSome_get? {fs : List Field} (r : Record fs) (f : Field) (h : f.In fs) :
    (r.get? f).isSome = true := by
  induction h with
  | head fs => simp [get?]
  | tail g fs h ih =>
    rw [get?]
    split
    · rfl
    · exact ih r.2

/-- The value of a field that the layout has. -/
def get {fs : List Field} (r : Record fs) (f : Field) [h : f.In fs] : f.Value :=
  (r.get? f).get (isSome_get? r f h)

end Record

/-! ### Reading a field by its sort -/

namespace FieldSort

/-- The node that a value is; absent for a value of another sort. -/
def nodeOf : (s : FieldSort) → s.Value → NodeRef
  | .node, r => r
  | .list, _ | .optList, _ | .flag, _ | .kind, _ | .text, _ | .target, _ | .diagnostics, _ => none

/-- The list that a value is, if it is one. -/
def listOf : (s : FieldSort) → s.Value → Option NodeList
  | .list, l => some l
  | .optList, l => l
  | .node, _ | .flag, _ | .kind, _ | .text, _ | .target, _ | .diagnostics, _ => none

/-- The mark that a value is; false for a value of another sort. -/
def flagOf : (s : FieldSort) → s.Value → Bool
  | .flag, b => b
  | .node, _ | .list, _ | .optList, _ | .kind, _ | .text, _ | .target, _ | .diagnostics, _ => false

/-- The kind that a value is; unknown for a value of another sort. -/
def kindOf : (s : FieldSort) → s.Value → SyntaxKind
  | .kind, k => k
  | .node, _ | .list, _ | .optList, _ | .flag, _ | .text, _ | .target, _ | .diagnostics, _ =>
    .unknown

/-- The text that a value is; empty for a value of another sort. -/
def textOf : (s : FieldSort) → s.Value → String
  | .text, t => t
  | .node, _ | .list, _ | .optList, _ | .flag, _ | .kind, _ | .target, _ | .diagnostics, _ => ""

end FieldSort

namespace Record

variable {fs : List Field}

/-- The node in a field. -/
def nodeAt (r : Record fs) (f : Field) : NodeRef := (r.get? f).bind f.sort.nodeOf

/-- The list in a field. -/
def listAt (r : Record fs) (f : Field) : Option NodeList := (r.get? f).bind f.sort.listOf

/-- The mark in a field. -/
def flagAt (r : Record fs) (f : Field) : Bool := ((r.get? f).map f.sort.flagOf).getD false

/-- The kind in a field. -/
def kindAt (r : Record fs) (f : Field) : SyntaxKind :=
  ((r.get? f).map f.sort.kindOf).getD .unknown

/-- The text in a field. -/
def textAt (r : Record fs) (f : Field) : String := ((r.get? f).map f.sort.textOf).getD ""

end Record

/-! ### The nodes that a record refers to -/

/-- The nodes that a value of a sort refers to. -/
def FieldSort.refs : (s : FieldSort) → s.Value → List NodeId
  | .node, r => r.toList
  | .list, l => l.nodes.filterMap id
  | .optList, l => ((l.map NodeList.nodes).getD []).filterMap id
  | .flag, _ => []
  | .kind, _ => []
  | .text, _ => []
  | .target, _ => []
  | .diagnostics, _ => []

/-- The nodes that a field of a record refers to. -/
def Record.refs {fs : List Field} (r : Record fs) (f : Field) : List NodeId :=
  ((r.get? f).map f.sort.refs).getD []

/-- The parts of a node in a pool. -/
abbrev Data (p : Pool) : Type := Record p.layout

/-- The children of a node of a kind, in the order of the source. -/
def Data.children {p : Pool} (kind : SyntaxKind) (d : Data p) : List NodeId :=
  (p.childFields kind).flatMap d.refs

end ScriptTree
