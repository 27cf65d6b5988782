import ScriptTree.Arena.NodeList
import ScriptTree.Kind.Basic

/-!
# Why a conversion fails

A conversion fails because the front end has reported an error, because a node has no
type in the vocabulary and the options insist on one, because the tree cannot be expressed
in normalized form, or because a node has not the parts that its kind asks for. And it may come to
a halt without an error that has a name (`ScriptTree.Halt`).
-/

namespace ScriptTree

/-- A message about a place in the source. -/
structure LocatedMessage where
  /-- The offset of the place. -/
  index : Nat
  line : Nat
  column : Nat
  message : String
  deriving DecidableEq, Repr

/-- Why a conversion fails. -/
inductive ConvertError
  /-- The front end has reported an error. -/
  | parse (m : LocatedMessage)
  /-- A type is not in the vocabulary. -/
  | unknownNodeType (name : String)
  /-- The tree has no normalized form. -/
  | structural (m : LocatedMessage)
  /-- A node has not the parts that its kind asks for. -/
  | missingData (kind : SyntaxKind) (node : NodeRef)
  deriving DecidableEq, Repr

namespace ConvertError

/-- A message with its place. -/
def locatedText (m : LocatedMessage) : String :=
  m.message ++ " (" ++ toString m.line ++ ":" ++ toString m.column ++ ")"

/-- The text of an error. -/
def message : ConvertError → String
  | parse m => locatedText m
  | unknownNodeType name => "Unknown AST_NODE_TYPE: \"" ++ name ++ "\""
  | structural m => locatedText m
  | missingData kind node =>
    "node " ++ toString node.raw ++ " of kind " ++ kind.name ++ " is missing its data"

/-- The offset of the place that an error is about, if it is about one. -/
def index? : ConvertError → Option Nat
  | parse m => some m.index
  | structural m => some m.index
  | unknownNodeType _ => none
  | missingData _ _ => none

end ConvertError

/-- Why a conversion has no result. -/
inductive Halt
  /-- There is an error in the document. -/
  | failed (e : ConvertError)
  /-- A text was to be cut inside a character, or an offset does not fit into four bytes. -/
  | misplaced
  /-- There is no number left for another node: the numbers have to fit into four bytes as well. -/
  | exhausted
  /-- The tokens of the text, the nodes below a node, or those above it, do not come to an end. -/
  | endless
  deriving DecidableEq, Repr

end ScriptTree
