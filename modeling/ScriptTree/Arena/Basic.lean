import ScriptTree.Arena.Flags
import ScriptTree.Arena.Record

/-!
# The arena

An arena owns every node of one source file. A node itself is small: its kind, its span,
some flags, and where its parts are, namely the pool and the row of that pool. Tokens have no
parts.

Besides the nodes and the pools an arena knows the parent of each node. A node that is
added becomes the parent of its children, which are there already; an arena that was read
from a document gets its parents from `ScriptTree.Arena.linkParents`. Where two nodes
list the same child, the later one is its parent.
-/

namespace ScriptTree

/-- A node without its parts. -/
structure Node where
  kind : SyntaxKind
  flags : Nat := 0
  /-- Where its first token starts; blanks and comments before it do not count. -/
  pos : Nat
  stop : Nat
  /-- The pool that its parts are in. -/
  pool : Option Pool := none
  /-- The row of the pool. -/
  dataIndex : Nat := 0
  deriving DecidableEq, Repr

namespace Node

/-- The row that stands for no data. -/
def noData : Nat := 0xFFFFFFFF

/-- A node without parts. -/
def token (kind : SyntaxKind) (pos stop : Nat) : Node :=
  { kind := kind, pos := pos, stop := stop, dataIndex := noData }

/-- Whether a node refers to a pool. -/
def hasData (n : Node) : Bool := n.pool.isSome

/-- Whether a node has one of the flags. -/
def hasFlag (n : Node) (bits : Nat) : Bool := NodeFlag.has n.flags bits

/-- The length of a node; zero when its span is inverted. -/
def width (n : Node) : Nat := n.stop - n.pos

/-- The span of a node contains a range. -/
def contains (n : Node) (start stop : Nat) : Bool :=
  n.pos ≤ start && stop ≤ n.stop

end Node

/-- The nodes of one source file. -/
structure Arena where
  nodes : Array Node
  /-- The parent of each node. -/
  parents : Array NodeRef
  /-- The rows of each pool. -/
  pools : (p : Pool) → Array (Data p)

namespace Arena

/-- The arena without nodes. -/
def empty : Arena := ⟨#[], #[], fun _ => #[]⟩

instance : Inhabited Arena := ⟨empty⟩

/-! ### Reading -/

/-- The node in a place. -/
def node? (a : Arena) (r : NodeRef) : Option Node :=
  r.bind fun i => a.nodes[i]?

/-- The kind of the node in a place. -/
def kind? (a : Arena) (r : NodeRef) : Option SyntaxKind :=
  (a.node? r).map Node.kind

/-- The parent of the node in a place. -/
def parent (a : Arena) (r : NodeRef) : NodeRef :=
  (r.bind fun i => a.parents[i]?).join

/-- The parts of a node, if they are in the given pool. -/
def data? (a : Arena) (p : Pool) (n : Node) : Option (Data p) :=
  if n.pool = some p then (a.pools p)[n.dataIndex]? else none

/-- The parts of the node in a place, if they are in the given pool. -/
def dataAt? (a : Arena) (p : Pool) (r : NodeRef) : Option (Data p) :=
  (a.node? r).bind (a.data? p)

/-- The children of a node, in the order of the source. -/
def childrenOf (a : Arena) (n : Node) : List NodeId :=
  match n.pool with
  | none => []
  | some p => match (a.pools p)[n.dataIndex]? with
    | none => []
    | some d => Data.children n.kind d

/-- The children of the node in a place, in the order of the source. -/
def children (a : Arena) (r : NodeRef) : List NodeId :=
  ((a.node? r).map a.childrenOf).getD []

/-! ### Building -/

/-- The rows of the pools with those of one pool replaced. -/
def setPool (pools : (p : Pool) → Array (Data p)) (p : Pool) (rows : Array (Data p)) :
    (p : Pool) → Array (Data p) :=
  fun q => if h : q = p then h ▸ rows else pools q

/-- A node becomes the parent of others. -/
def adopt (parents : Array NodeRef) (parent : NodeId) (children : List NodeId) : Array NodeRef :=
  children.foldl (fun ps child => ps.setIfInBounds child (some parent)) parents

/-- Adds a node without parts. -/
def addToken (a : Arena) (kind : SyntaxKind) (pos stop : Nat) : NodeId × Arena :=
  (a.nodes.size,
    { a with nodes := a.nodes.push (Node.token kind pos stop), parents := a.parents.push none })

/-- Adds a node with its parts and becomes the parent of its children. -/
def add (a : Arena) (kind : SyntaxKind) (pos stop : Nat) (p : Pool) (data : Data p) :
    NodeId × Arena :=
  let index := a.nodes.size
  let rows := a.pools p
  let node : Node :=
    { kind := kind, pos := pos, stop := stop, pool := some p, dataIndex := rows.size }
  (index, {
    nodes := a.nodes.push node
    parents := adopt (a.parents.push none) index (Data.children kind data)
    pools := setPool a.pools p (rows.push data) })

/-- Adds flags to the node in a place. -/
def setFlags (a : Arena) (r : NodeRef) (flags : Nat) : Arena :=
  match r with
  | none => a
  | some i => { a with nodes := a.nodes.modify i fun n => { n with flags := n.flags ||| flags } }

/-- The parents of all nodes, read off their children. -/
def linkParents (a : Arena) : Arena :=
  let start : Array NodeRef := Array.replicate a.nodes.size none
  let link := fun (parents : Array NodeRef) (i : NodeId) => adopt parents i (a.children (some i))
  { a with parents := (List.range a.nodes.size).foldl link start }

/-! ### Laws -/

@[simp] theorem setPool_self (pools : (p : Pool) → Array (Data p)) (p : Pool)
    (rows : Array (Data p)) : setPool pools p rows p = rows := by
  simp [setPool]

theorem setPool_of_ne (pools : (p : Pool) → Array (Data p)) {p q : Pool}
    (rows : Array (Data p)) (h : q ≠ p) : setPool pools p rows q = pools q := by
  simp [setPool, h]

/-- Adopting does not change how many nodes there are. -/
theorem size_adopt (ps : Array NodeRef) (q : NodeId) (cs : List NodeId) :
    (adopt ps q cs).size = ps.size := by
  induction cs generalizing ps with
  | nil => rfl
  | cons c cs ih =>
    rw [adopt, List.foldl_cons]
    exact (ih _).trans (Array.size_setIfInBounds ..)

@[simp] theorem node?_none (a : Arena) : a.node? none = none := rfl

@[simp] theorem node?_some (a : Arena) (i : NodeId) : a.node? (some i) = a.nodes[i]? := rfl

end Arena

end ScriptTree
