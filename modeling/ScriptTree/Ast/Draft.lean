import ScriptTree.Ast.Node

/-!
# Nodes under construction

A normalized node starts as a draft: its range may still move while its children are
attached, and only `ScriptTree.Draft.finish` computes the location, from the range as it
then is. A finished node can be reopened; it keeps its identity.

Whatever is done to a draft, its range never ends before it starts.
-/

namespace ScriptTree

/-- A normalized node whose range may still move. -/
structure Draft where
  id : Nat
  type : EsType
  start : Nat
  stop : Nat
  props : EsProps := []

namespace Draft

/-- A draft with a range; an end before the start counts as the start. -/
def new (id : Nat) (type : EsType) (start stop : Nat) : Draft :=
  { id := id, type := type, start := start, stop := max stop start }

/-- A draft of a finished node. -/
def reopen (n : EsNode) : Draft :=
  { id := n.head.id, type := n.head.type, start := n.head.start, stop := n.head.stop
    props := n.props }

/-- Changes the type. -/
def retype (d : Draft) (type : EsType) : Draft := { d with type := type }

/-- Gives a field a value. -/
def prop (d : Draft) (key : String) (value : EsValue) : Draft :=
  { d with props := EsProps.insert key value d.props }

/-- Gives a field a value if there is one. -/
def propOpt (d : Draft) (key : String) : Option EsValue → Draft
  | none => d
  | some value => d.prop key value

/-- Gives fields values; a field without a value is left out. -/
def fill (d : Draft) (fields : List (String × Option EsValue)) : Draft :=
  fields.foldl (fun d field => d.propOpt field.1 field.2) d

/-- Moves the start; the end gives way. -/
def startAt (d : Draft) (start : Nat) : Draft :=
  { d with start := start, stop := max d.stop start }

/-- Moves the end, at least to the start. -/
def endAt (d : Draft) (stop : Nat) : Draft :=
  { d with stop := max stop d.start }

/-- Moves the end further right, never left. -/
def extendTo (d : Draft) (stop : Nat) : Draft :=
  { d with stop := max d.stop stop }

/-- The finished node, with the location of its range. -/
def finish (d : Draft) (map : LineMap) : EsNode where
  head :=
    { id := d.id, type := d.type, start := d.start, stop := d.stop
      loc := map.location d.start d.stop }
  props := d.props

/-! ### Laws -/

theorem new_start_le (id : Nat) (type : EsType) (start stop : Nat) :
    (new id type start stop).start ≤ (new id type start stop).stop :=
  Nat.le_max_right _ _

@[simp] theorem reopen_finish (d : Draft) (map : LineMap) : reopen (d.finish map) = d := rfl

end Draft

end ScriptTree
