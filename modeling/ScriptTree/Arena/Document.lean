import ScriptTree.Arena.Basic
import ScriptTree.Json.Printer
import ScriptTree.Json.Reader

/-!
# Arena documents

A document is an arena together with its root, written as JSON. Nodes and rows are
records: objects with the fields by name, or lists with the fields in order. A field that
is missing takes its blank value where it has one. Parents are not written; they follow
from the children.

`ScriptTree.Document.ofText?` reads a document and `ScriptTree.Document.text` writes one. A
written document names every field of every node, leaves out empty pools, and lists the
others in the order of the vocabulary.
-/

namespace ScriptTree

/-- An arena together with its root. -/
structure Document where
  arena : Arena
  root : NodeRef

/-! ### References, lists and messages -/

namespace NodeRef

/-- Writes a reference. -/
def toJson (r : NodeRef) : Json := .nat r.raw

/-- Reads a reference. -/
def ofJson? (j : Json) : Option NodeRef := j.word?.map ofRaw

end NodeRef

/-- Reads a field of a record that has to be there. -/
def Json.required? {α : Type} (read : Json → Option α) (slot : Option Json) : Option α :=
  slot.bind read

/-- Reads a field of a record that stands for a given value when it is missing. -/
def Json.defaulted? {α : Type} (read : Json → Option α) (blank : α) : Option Json → Option α
  | none => some blank
  | some j => read j

namespace NodeList

/-- Writes a list. -/
def toJson (l : NodeList) : Json :=
  .obj [("nodes", .ofList NodeRef.toJson l.nodes), ("pos", .nat l.pos), ("end", .nat l.stop),
    ("has_trailing_comma", .bool l.hasTrailingComma)]

/-- Reads a list. -/
def ofJson? (j : Json) : Option NodeList := do
  let [nodes, pos, stop, comma] ← j.slots? [["nodes"], ["pos"], ["end"], ["has_trailing_comma"]]
    | none
  let nodes ← (← Json.required? Json.items? nodes).mapM NodeRef.ofJson?
  let pos ← Json.required? Json.word? pos
  let stop ← Json.required? Json.word? stop
  let comma ← Json.defaulted? Json.bool? false comma
  pure ⟨nodes, pos, stop, comma⟩

end NodeList

namespace DiagnosticCategory

/-- The name of a category in documents. -/
def name : DiagnosticCategory → String
  | warning => "Warning"
  | error => "Error"
  | suggestion => "Suggestion"
  | message => "Message"

/-- The category that a document names. -/
def ofName? (s : String) : Option DiagnosticCategory :=
  [warning, error, suggestion, message].find? (·.name == s)

end DiagnosticCategory

namespace Diagnostic

/-- Writes a message. -/
def toJson (d : Diagnostic) : Json :=
  .obj [("category", .str d.category.name), ("code", .nat d.code), ("file", .str d.file),
    ("start", .nat d.start), ("length", .nat d.length), ("messageText", .str d.messageText)]

/-- Reads a message. -/
def ofJson? (j : Json) : Option Diagnostic := do
  let [category, code, file, start, length, text] ←
    j.slots? [["category"], ["code"], ["file"], ["start"], ["length"], ["messageText"]] | none
  let category ← (← Json.required? Json.name? category) |> DiagnosticCategory.ofName?
  let code ← Json.required? Json.word? code
  let file ← Json.required? Json.str? file
  let start ← Json.required? Json.word? start
  let length ← Json.required? Json.word? length
  let text ← Json.required? Json.str? text
  pure ⟨category, code, file, start, length, text⟩

end Diagnostic

/-! ### Records -/

/-- Writes a value of a sort. -/
def FieldSort.toJson : (s : FieldSort) → s.Value → Json
  | .node, r => NodeRef.toJson r
  | .list, l => l.toJson
  | .optList, l => Json.ofOption NodeList.toJson l
  | .flag, b => .bool b
  | .kind, k => .str k.name
  | .text, s => .str s
  | .target, t => .str t.name
  | .diagnostics, ds => .ofList Diagnostic.toJson ds

/-- Reads a value of a sort. -/
def FieldSort.ofJson? : (s : FieldSort) → Json → Option s.Value
  | .node, j => NodeRef.ofJson? j
  | .list, j => NodeList.ofJson? j
  | .optList, .null => some none
  | .optList, j => (NodeList.ofJson? j).map some
  | .flag, j => j.bool?
  | .kind, j => j.name?.bind SyntaxKind.ofName?
  | .text, j => j.str?
  | .target, j => j.name?.bind ScriptTarget.ofName?
  | .diagnostics, j => j.items?.bind (·.mapM Diagnostic.ofJson?)

namespace Record

/-- Writes the fields of a record. -/
def entries : {fs : List Field} → Record fs → List (String × Json)
  | [], _ => []
  | f :: fs, r => (f.key, f.sort.toJson r.1) :: @entries fs r.2

/-- Writes a record. -/
def toJson {fs : List Field} (r : Record fs) : Json := .obj r.entries

/-- Reads a record from the values of its fields, each of which may be missing. -/
def ofSlots? : (fs : List Field) → List (Option Json) → Option (Record fs)
  | [], _ => some ()
  | f :: fs, slots => do
    let v ← Json.defaulted? f.sort.ofJson? f.sort.blank slots.head?.join
    let r ← ofSlots? fs slots.tail
    pure (v, r)

/-- Reads a record. -/
def ofJson? (fs : List Field) (j : Json) : Option (Record fs) :=
  (j.slots? (fs.map fun f => [f.key])).bind (ofSlots? fs)

end Record

/-! ### Nodes -/

namespace Node

/-- The name that stands for no pool. -/
def noPoolName : String := "None"

/-- Writes a node. -/
def toJson (n : Node) : Json :=
  .obj [("kind", .str n.kind.name), ("flags", .nat n.flags), ("pos", .nat n.pos),
    ("end", .nat n.stop), ("pool", .str ((n.pool.map Pool.name).getD noPoolName)),
    ("data_index", .nat n.dataIndex)]

/-- Reads the pool of a node. -/
def poolOfJson? (j : Json) : Option (Option Pool) := do
  let s ← j.name?
  if s = noPoolName then pure none else (Pool.ofName? s).map some

/-- Reads a node. -/
def ofJson? (j : Json) : Option Node := do
  let [kind, flags, pos, stop, pool, dataIndex] ←
    j.slots? [["kind"], ["flags"], ["pos"], ["end"], ["pool"], ["data_index"]] | none
  let kind ← (← Json.required? Json.name? kind) |> SyntaxKind.ofName?
  let flags ← Json.defaulted? (Json.natBelow? 0x10000) 0 flags
  let pos ← Json.required? Json.word? pos
  let stop ← Json.required? Json.word? stop
  let pool ← Json.defaulted? poolOfJson? none pool
  let dataIndex ← Json.defaulted? Json.word? 0 dataIndex
  pure ⟨kind, flags, pos, stop, pool, dataIndex⟩

end Node

/-! ### Arenas -/

namespace Arena

/-- Writes the rows of a pool, unless there are none. -/
def poolEntry (a : Arena) (p : Pool) : Option (String × Json) :=
  let rows := (a.pools p).toList
  if rows.isEmpty then none else some (p.table, .ofList Record.toJson rows)

/-- Writes an arena. -/
def toJson (a : Arena) : Json :=
  .obj (("nodes", .ofList Node.toJson a.nodes.toList) :: Pool.all.filterMap a.poolEntry)

/-- Reads the rows of some pools from the values of their tables, each of which may be missing. -/
def poolsOfSlots? : List Pool → List (Option Json) → Option ((p : Pool) → Array (Data p))
  | [], _ => some fun _ => #[]
  | p :: ps, slots => do
    let read := fun (j : Json) => j.items?.bind (·.mapM (Record.ofJson? p.layout))
    let rows ← Json.defaulted? read [] slots.head?.join
    let pools ← poolsOfSlots? ps slots.tail
    pure (setPool pools p rows.toArray)

/-- Reads an arena. Its nodes have no parents yet. -/
def ofJson? (j : Json) : Option Arena := do
  let nodes :: tables ← j.slots? (["nodes"] :: Pool.all.map fun p => [p.table]) | none
  let nodes ← (← Json.required? Json.items? nodes).mapM Node.ofJson?
  let pools ← poolsOfSlots? Pool.all tables
  pure ⟨nodes.toArray, Array.replicate nodes.length none, pools⟩

end Arena

/-! ### Documents -/

namespace Document

/-- Writes a document. -/
def toJson (d : Document) : Json :=
  .obj [("arena", d.arena.toJson), ("root", d.root.toJson)]

/-- The message about a text that is no document. -/
def errorText : String := "invalid arena document"

/-- Reads a document and finds the parents of its nodes. -/
def ofJson? (j : Json) : Option Document := do
  let [arena, root] ← j.slots? [["arena"], ["root"]] | none
  let arena ← Json.required? Arena.ofJson? arena
  let root ← Json.required? NodeRef.ofJson? root
  pure ⟨arena.linkParents, root⟩

/-- The text of a document. -/
def text (d : Document) : Text := d.toJson.compact

/-- The document that a text holds. -/
def ofText? (cs : Text) : Option Document := (Json.ofText? cs).bind ofJson?

end Document

end ScriptTree
