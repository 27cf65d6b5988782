import ScriptTree.Arena.Navigate
import ScriptTree.Ast.Draft
import ScriptTree.Convert.Error
import ScriptTree.Convert.NodeMaps
import ScriptTree.Convert.Options
import ScriptTree.Trivia.TokenIndex

/-!
# Conversions

A conversion turns nodes of an arena into normalized nodes. It reads the arena, the text and
its tokens, which never change; it keeps the number of nodes that it has started and the
correspondence of the two trees; and it may come to a halt.

What is converted below a node is not the business of the rules for that node. So the rules
are functions of a `ScriptTree.Converter`, which holds, besides what is read, the three
functions that go down: to a node, to a type argument and to the name of a tag.
`ScriptTree.Convert.Visit` ties them to the rules.
-/

namespace ScriptTree

/-- What a conversion keeps. -/
structure Progress where
  /-- The number of nodes that were started. -/
  issued : Nat := 0
  /-- The correspondence of the two trees. -/
  maps : NodeMaps := .empty
  deriving DecidableEq, Repr

namespace Progress

/-- There is a number left for another node: the one after it fits into four bytes. -/
def HasNumber (p : Progress) : Prop := p.issued + 1 < 0x100000000

instance (p : Progress) : Decidable p.HasNumber := inferInstanceAs (Decidable (_ < _))

/-- Gives out a number. -/
def next (p : Progress) : Progress := { p with issued := p.issued + 1 }

@[simp] theorem issued_next (p : Progress) : p.next.issued = p.issued + 1 := rfl

end Progress

/-- A step of a conversion. What it has kept stays, also when it comes to a halt. -/
abbrev Conversion := ExceptT Halt (StateM Progress)

/-- What a conversion reads. -/
structure Source where
  arena : Arena
  root : NodeRef
  map : LineMap
  options : ConvertOptions
  /-- The tokens and comments, if the text has an end to them. -/
  trivia : Option Trivia
  /-- The tokens, to be looked up. -/
  index : Option TokenIndex

/-- The source that an arena and a text make. -/
def Source.ofText (arena : Arena) (root : NodeRef) (text : Text) (target : ScriptTarget)
    (options : ConvertOptions) : Source :=
  let trivia := Trivia.ofText? arena root text target
  { arena := arena, root := root, map := LineMap.ofText text, options := options
    trivia := trivia, index := trivia.map fun t => TokenIndex.ofList t.tokens }

/-- A source together with the ways down. -/
structure Converter extends Source where
  /-- Converts the node in a place; nothing comes of an absent node, nor of some others. -/
  convert : NodeRef → Conversion (Option EsNode)
  /-- Converts one type argument. -/
  typeArgument : NodeRef → Conversion EsValue
  /-- Converts the name of a tag. -/
  tagName : NodeRef → Conversion EsValue

namespace Conversion

/-- Comes to a halt with an error. -/
def fail {α : Type} (e : ConvertError) : Conversion α := throw (.failed e)

/-- Starts a node, if there is a number left for it. -/
def start (type : EsType) (start stop : Nat) : Conversion Draft := do
  let p ← get
  if p.HasNumber then
    set p.next
    pure (Draft.new p.issued type start stop)
  else throw .exhausted

/-- Starts a node that covers a concrete one. -/
def startOver (type : EsType) (n : Node) : Conversion Draft := start type n.pos n.stop

/-- Waits for something that may have no end. -/
def await {α : Type} : Option α → Conversion α
  | some x => pure x
  | none => throw .endless

/-- The node that is started has the number of the nodes started before it. -/
theorem run_start (type : EsType) (first stop : Nat) (p : Progress) :
    (start type first stop).run.run p =
      if p.HasNumber then (.ok (Draft.new p.issued type first stop), p.next)
      else (.error .exhausted, p) := by
  have hrun : (start type first stop).run.run p =
      (if p.HasNumber then do
        set p.next
        pure (Draft.new p.issued type first stop)
      else throw .exhausted : Conversion Draft).run.run p := rfl
  rw [hrun]
  split <;> rfl

/-- An offset moved to the right. -/
def moved (offset width : Nat) : Conversion Nat :=
  if offset + width < 0x100000000 then pure (offset + width) else throw .misplaced

end Conversion

namespace Source

/-! ### Reading -/

/-- The node in a place. -/
def node? (s : Source) (r : NodeRef) : Option Node := s.arena.node? r

/-- A node is there and has a kind. -/
def hasKind (s : Source) (r : NodeRef) (kind : SyntaxKind) : Bool := s.arena.kind? r == some kind

/-- The text between two offsets. -/
def textOf (s : Source) (start stop : Nat) : Text := s.map.text.slice start stop

/-- The text of a node. -/
def nodeText (s : Source) (n : Node) : Text := s.textOf n.pos n.stop

/-- The parts of a node; it is an error if they are not of the shape that is asked for. -/
def parts (s : Source) (p : Pool) (i : NodeId) (n : Node) : Conversion (Data p) :=
  match s.arena.data? p n with
  | some d => pure d
  | none => .fail (.missingData n.kind (some i))

/-- The tokens of the text. -/
def tokens (s : Source) : Conversion TokenIndex := .await s.index

/-- The error that the tree has no normalized form, because of what stands at an offset. -/
def structural (s : Source) (offset : Nat) (message : String) : ConvertError :=
  let place := s.map.lineColumn offset
  .structural ⟨offset, place.line, place.column, message⟩

/-- The modifiers of a declaration. -/
def modifiers (s : Source) (list : Option NodeList) : List Modifier := s.arena.modifierSet list

/-! ### Building -/

/-- The finished node. -/
def finish (s : Source) (d : Draft) : EsNode := d.finish s.map

/-- A node with a range of its own. -/
def buildAt (s : Source) (type : AstType) (start stop : Nat)
    (fields : List (String × Option EsValue)) : Conversion EsNode := do
  let d ← Conversion.start type start stop
  pure (s.finish (d.fill fields))

/-- A node that covers a concrete one. -/
def build (s : Source) (type : AstType) (n : Node) (fields : List (String × Option EsValue)) :
    Conversion EsNode :=
  s.buildAt type n.pos n.stop fields

/-- Records what a concrete node has become, if the correspondence is wanted. -/
def register (s : Source) (r : NodeRef) (n : EsNode) : Conversion Unit :=
  if s.options.provideCorrespondenceMaps then
    modify fun p => { p with maps := p.maps.register r n.head.id }
  else pure ()

end Source

namespace Converter

/-! ### Going down -/

/-- A converted child, null where nothing comes of it. -/
def child (c : Converter) (r : NodeRef) : Conversion EsValue :=
  EsValue.ofNode? <$> c.convert r

/-- The converted nodes of a list; nodes that nothing comes of leave holes. -/
def list (c : Converter) (l : NodeList) : Conversion EsValue :=
  EsValue.array <$> l.nodes.mapM c.child

/-- The converted nodes of a list, without holes. -/
def statements (c : Converter) (l : NodeList) : Conversion EsValue :=
  EsValue.ofNodes <$> l.nodes.filterMapM c.convert

end Converter

end ScriptTree
