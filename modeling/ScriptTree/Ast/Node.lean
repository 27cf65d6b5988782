import ScriptTree.Ast.NodeType
import ScriptTree.Json.Basic
import ScriptTree.Text.LineMap

/-!
# The normalized tree

A normalized node has a type, fields in the order in which it was built, a range of bytes
and the location of that range. Fields hold any value, because nodes outside the
vocabulary get their fields from a table.

The identity of a node counts the nodes that were started before it in the same run. It
is not written; it links the node to the concrete node it came from.
-/

namespace ScriptTree

/-- What a normalized node is apart from its fields. -/
structure EsHead where
  id : Nat
  type : EsType
  start : Nat
  stop : Nat
  loc : SourceLocation
  deriving Repr, DecidableEq

/-- The value of a field. -/
inductive EsValue
  | null
  | bool (b : Bool)
  | number (x : Float)
  | string (s : String)
  | node (head : EsHead) (props : List (String × EsValue))
  | array (items : List EsValue)
  | object (fields : List (String × EsValue))
  deriving Inhabited

/-- Named values in the order in which they were given. -/
abbrev EsProps := List (String × EsValue)

/-- A node of the normalized tree. -/
structure EsNode where
  head : EsHead
  props : EsProps

/-! ### Fields -/

namespace EsProps

/-- Gives a field a value. A field that is there keeps its place; a new one comes last. -/
def insert (key : String) (value : EsValue) : EsProps → EsProps
  | [] => [(key, value)]
  | (k, v) :: rest => if k = key then (k, value) :: rest else (k, v) :: insert key value rest

/-- The value of a field. -/
def get? (props : EsProps) (key : String) : Option EsValue :=
  props.lookup key

theorem get?_insert_self (key : String) (value : EsValue) (props : EsProps) :
    get? (insert key value props) key = some value := by
  induction props with
  | nil => simp [insert, get?]
  | cons e rest ih =>
    obtain ⟨k, v⟩ := e
    by_cases h : k = key
    · simp [insert, get?, h]
    · have hk : (key == k) = false := by simpa using fun e => h e.symm
      simpa [insert, get?, h, List.lookup_cons, hk] using ih

end EsProps

namespace EsNode

/-- A node as the value of a field. -/
def toValue (n : EsNode) : EsValue := .node n.head n.props

/-- The value of a field. -/
def get? (n : EsNode) (key : String) : Option EsValue := EsProps.get? n.props key

/-- The node has the given type. -/
def is (n : EsNode) (t : AstType) : Bool := n.head.type == .known t

end EsNode

namespace EsValue

instance : Coe Bool EsValue := ⟨bool⟩
instance : Coe String EsValue := ⟨string⟩
instance : Coe EsNode EsValue := ⟨EsNode.toValue⟩

/-- A node, or null where there is none. -/
def ofNode? : Option EsNode → EsValue
  | none => null
  | some n => n

instance : Coe (Option EsNode) (Option EsValue) := ⟨Option.map EsNode.toValue⟩

/-- A text as a value. -/
def text (t : Text) : EsValue := string (String.ofList t)

/-- A mark that is left out where it would be false. -/
def mark (b : Bool) : Option EsValue :=
  if b then some (bool true) else none

/-- A list of nodes. -/
def ofNodes (ns : List EsNode) : EsValue :=
  array (ns.map EsNode.toValue)

/-- The node that a value is. -/
def node? : EsValue → Option EsNode
  | node head props => some ⟨head, props⟩
  | _ => none

/-- The items of an array. -/
def items? : EsValue → Option (List EsValue)
  | array items => some items
  | _ => none

/-- The string that a value is. -/
def string? : EsValue → Option String
  | string s => some s
  | _ => none

/-- The boolean that a value is. -/
def bool? : EsValue → Option Bool
  | bool b => some b
  | _ => none

/-- The number that a value is. -/
def number? : EsValue → Option Float
  | number x => some x
  | _ => none

/-- A value is null. -/
def isNull : EsValue → Bool
  | null => true
  | _ => false

/-! ### All nodes of a tree -/

mutual

/-- The nodes in a value, those above before those below. -/
def heads : EsValue → List EsHead
  | node head props => head :: headsOfFields props
  | array items => headsOfItems items
  | object fields => headsOfFields fields
  | _ => []

/-- The nodes in a list of values. -/
def headsOfItems : List EsValue → List EsHead
  | [] => []
  | v :: vs => heads v ++ headsOfItems vs

/-- The nodes in named values. -/
def headsOfFields : List (String × EsValue) → List EsHead
  | [] => []
  | (_, v) :: fs => heads v ++ headsOfFields fs

end

end EsValue

namespace EsNode

/-- A node and all nodes below it, those above before those below. -/
def walk (n : EsNode) : List EsHead := n.toValue.heads

/-- The child under a field. -/
def child? (n : EsNode) (key : String) : Option EsNode :=
  (n.get? key).bind EsValue.node?

/-- The children in the array under a field; what is no node is passed over. -/
def children (n : EsNode) (key : String) : List EsNode :=
  (((n.get? key).bind EsValue.items?).getD []).filterMap EsValue.node?

/-- The node with its child under a field replaced, if there is one. -/
def mapChild? (n : EsNode) (key : String) (f : EsNode → EsNode) : Option EsNode :=
  (n.child? key).map fun child => { n with props := EsProps.insert key (f child) n.props }

end EsNode

/-! ### Writing -/

namespace LineColumn

/-- Writes a place. -/
def toJson (p : LineColumn) : Json :=
  .obj [("line", .nat p.line), ("column", .nat p.column)]

end LineColumn

namespace SourceLocation

/-- Writes a location. -/
def toJson (l : SourceLocation) : Json :=
  .obj [("start", l.start.toJson), ("end", l.stop.toJson)]

end SourceLocation

/-- A range of bytes as it is written. -/
def Json.range (start stop : Nat) : Json := .arr [.nat start, .nat stop]

namespace EsValue

/-- Writes a number: an integer where it is one and every integer near it is a double, null where
it is not finite. -/
def numberJson (x : Float) : Json :=
  match Binary.integer? x with
  | some i => if i.natAbs ≤ Binary.maxSafeInteger then .int i else .float x
  | none => if (Binary.parts x).finite then .float x else .null

mutual

/-- Writes a value. -/
def toJson : EsValue → Json
  | null => .null
  | bool b => .bool b
  | number x => numberJson x
  | string s => .str s
  | node head props =>
    .obj (("type", .str head.type.name) :: (fieldsJson props ++
      [("range", Json.range head.start head.stop), ("loc", head.loc.toJson)]))
  | array items => .arr (itemsJson items)
  | object fields => .obj (fieldsJson fields)

/-- Writes a list of values. -/
def itemsJson : List EsValue → List Json
  | [] => []
  | v :: vs => toJson v :: itemsJson vs

/-- Writes named values. -/
def fieldsJson : List (String × EsValue) → List (String × Json)
  | [] => []
  | (k, v) :: fs => (k, toJson v) :: fieldsJson fs

end

end EsValue

/-- Writes a node. -/
def EsNode.toJson (n : EsNode) : Json := n.toValue.toJson

end ScriptTree
