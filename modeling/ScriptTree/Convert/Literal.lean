import ScriptTree.Arena.Surroundings
import ScriptTree.Convert.Basic
import ScriptTree.Number.Literal
import ScriptTree.Text.Entity
import ScriptTree.Text.Regex

/-!
# Literals

A literal has a value and the text that it was written as. What the value is depends on the
kind: the text without its quotes, a number, or nothing at all where the normalized tree has no
value for it.
-/

namespace ScriptTree

namespace Source

variable (s : Source)

/-- A name behind a number sign, without the sign. -/
def privateName (i : NodeId) (n : Node) : Conversion EsNode := do
  let d ← s.parts .identifier i n
  s.build .privateIdentifier n
    [("name", EsValue.text (Text.dropStart ['#'] (d.get .escapedText).toList))]

/-! ### Values -/

/-- A text in quotes. In the attribute of a tag it may hold references to characters. -/
def stringLiteral (i : NodeId) (n : Node) : Conversion EsNode := do
  let d ← s.parts .literal i n
  let text := (d.get .text).toList
  let inAttribute := s.hasKind (s.arena.parent (some i)) .jsxAttribute
  let value := if inAttribute then Entity.decode text else text
  s.build .literal n [("value", EsValue.text value), ("raw", EsValue.text (s.nodeText n))]

/-- A number. -/
def numericLiteral (n : Node) : Conversion EsNode :=
  let raw := s.nodeText n
  s.build .literal n
    [("value", EsValue.number (NumericLiteral.value raw)), ("raw", EsValue.text raw)]

/-- An integer of any size; its value is a text, since not every reader can hold it. -/
def bigIntLiteral (n : Node) : Conversion EsNode :=
  let raw := s.nodeText n
  s.build .bigIntLiteral n
    [("value", EsValue.text (Text.dropEnd ['n'] raw)), ("raw", EsValue.text raw)]

/-- A regular expression has no value, but it is taken apart. -/
def regexLiteral (n : Node) : Conversion EsNode := do
  let raw := s.nodeText n
  let some regex := Regex.split? raw | throw .misplaced
  s.build .literal n
    [("value", EsValue.null), ("raw", EsValue.text raw),
      ("regex", EsValue.object
        [("pattern", EsValue.text regex.pattern), ("flags", EsValue.text regex.flags)])]

/-- A truth value. -/
def booleanLiteral (n : Node) : Conversion EsNode :=
  s.build .literal n
    [("value", EsValue.bool (n.kind == .trueKeyword)), ("raw", EsValue.text (s.nodeText n))]

/-- The word `null`: a type where a type is written, and a value elsewhere. -/
def nullLiteral (i : NodeId) (n : Node) : Conversion EsNode :=
  if s.arena.inTypePosition i then s.build .tsNullKeyword n []
  else s.build .literal n [("value", EsValue.null), ("raw", "null")]

/-- The text between two tags; value and written text are the same. -/
def markupText (n : Node) : Conversion EsNode :=
  let type : AstType := if s.options.useLiteralTextNodeForMarkupText then .jsxText else .literal
  let text := EsValue.text (s.nodeText n)
  s.build type n [("value", text), ("raw", text)]

/-! ### Pieces of templates -/

/-- A piece of a template, whose closing mark is `close` bytes long. -/
def templateElement (n : Node) (cooked : String) (close : Nat) (tail : Bool) :
    Conversion EsNode := do
  let start ← Conversion.moved n.pos 1
  let raw := s.textOf start (max (n.stop - close) start)
  s.build .templateElement n
    [("value", EsValue.object [("raw", EsValue.text raw), ("cooked", cooked)]), ("tail", tail)]

/-- A piece of a template with expressions. The last one ends with the closing mark of the
template, the others with that of an opening brace. -/
def templatePiece (i : NodeId) (n : Node) : Conversion EsNode := do
  let d ← s.parts .literal i n
  if n.kind = .templateTail then s.templateElement n (d.get .text) 1 true
  else s.templateElement n (d.get .text) 2 false

/-- A template without expressions. -/
def plainTemplate (i : NodeId) (n : Node) : Conversion EsNode := do
  let d ← s.parts .literal i n
  let piece ← s.templateElement n (d.get .text) 1 true
  s.build .templateLiteral n
    [("quasis", EsValue.ofNodes [piece]), ("expressions", EsValue.array [])]

end Source

end ScriptTree
