import ScriptTree.Arena.Navigate
import ScriptTree.Ast.Node
import ScriptTree.Convert.Error
import ScriptTree.Kind.Class
import ScriptTree.Text.Regex
import ScriptTree.Trivia.Walk

/-!
# Tokens of the normalized tree

The program may carry its tokens. Each has a type, which depends on its kind and for texts in
quotes and names on the tree as well: in markup they have types of their own.
-/

namespace ScriptTree

/-- The type of a token. -/
inductive TokenType
  | boolean | null | keyword | identifier | punctuator | numeric | string | regularExpression
  | template | jsxIdentifier | jsxText
  deriving DecidableEq, Repr

namespace TokenType

/-- The name of a type. -/
def name : TokenType → String
  | boolean => "Boolean"
  | null => "Null"
  | keyword => "Keyword"
  | identifier => "Identifier"
  | punctuator => "Punctuator"
  | numeric => "Numeric"
  | string => "String"
  | regularExpression => "RegularExpression"
  | template => "Template"
  | jsxIdentifier => "JSXIdentifier"
  | jsxText => "JSXText"

end TokenType

/-- A token as the normalized tree has it. -/
structure EsToken where
  type : TokenType
  value : Text
  start : Nat
  stop : Nat
  loc : SourceLocation
  /-- The parts of a regular expression. -/
  regex : Option Regex
  deriving Repr, DecidableEq

namespace Arena

/-- Looks at the node above: a tag or an attribute, of which the node is the name, or a dotted name,
which hands on the question. -/
def climbNames (a : Arena) (i : NodeId) : Turn NodeId Bool :=
  match a.parent (some i) with
  | none => .answer false
  | some up => match a.kind? (some up) with
    | some .jsxOpeningElement | some .jsxSelfClosingElement | some .jsxClosingElement
    | some .jsxAttribute => .answer true
    | some .propertyAccessExpression => .goOn up
    | _ => .answer false

/-- A token is the name of a tag or attribute, or part of the dotted name of a tag. There is no
answer if the way to its node, or up from it, has no end. -/
def isMarkupName (a : Arena) (root : NodeRef) (t : SourceToken) : Option Bool := do
  match ← a.nodeContaining root t.start t.stop with
  | none => pure false
  | some i => a.search a.climbNames i

/-- A token is the value of an attribute. -/
def isAttributeValue (a : Arena) (root : NodeRef) (t : SourceToken) : Option Bool :=
  (a.nodeContaining root t.start t.stop).map fun r =>
    r.any fun i => a.kind? (a.parent (some i)) == some .jsxAttribute

/-- The type of a token, if the tree that is asked has an answer. -/
def tokenType (a : Arena) (root : NodeRef) (t : SourceToken) : Option TokenType :=
  match t.kind with
  | .trueKeyword | .falseKeyword => some .boolean
  | .nullKeyword => some .null
  | .numericLiteral | .bigIntLiteral => some .numeric
  | .regularExpressionLiteral => some .regularExpression
  | .jsxText | .jsxTextAllWhiteSpaces => some .jsxText
  | .stringLiteral => (a.isAttributeValue root t).map fun isValue =>
    if isValue then .jsxText else .string
  | .identifier | .privateIdentifier => (a.isMarkupName root t).map fun isName =>
    if isName then .jsxIdentifier else .identifier
  | k => some <|
    if k.isTemplatePiece then .template
    else if k.isReservedWord then .keyword
    else if k.isContextualKeyword then .identifier
    else .punctuator

end Arena

namespace EsToken

/-- The normalized form of a token. It may be that its type is not decided, or that a regular
expression cannot be taken apart. -/
def ofToken (a : Arena) (root : NodeRef) (map : LineMap) (t : SourceToken) :
    Except Halt EsToken := do
  let value := map.text.slice t.start t.stop
  let some type := a.tokenType root t | throw .endless
  let regex ← if type = .regularExpression then
      match Regex.split? value with
      | some parts => pure (some parts)
      | none => throw .misplaced
    else pure none
  pure {
    type := type, value := value, start := t.start, stop := t.stop
    loc := map.location t.start t.stop, regex := regex }

/-- Writes a token. -/
def toJson (t : EsToken) : Json :=
  .obj ([("type", .str t.type.name), ("value", .text t.value),
    ("range", Json.range t.start t.stop), ("loc", t.loc.toJson)] ++
    (t.regex.map fun r =>
      ("regex", Json.obj [("pattern", .text r.pattern), ("flags", .text r.flags)])).toList)

end EsToken

end ScriptTree
