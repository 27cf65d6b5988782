import ScriptTree.Arena.Surroundings
import ScriptTree.Convert.Ascription
import ScriptTree.Convert.Operator

/-!
# Expressions

The expressions whose normalized form depends on more than their kind: operators, which
decide about the type of the result, templates, and the array and object literals that may be
destructuring targets.
-/

namespace ScriptTree

/-- The operands of a chain of commas from the last to the first. A chain grows to the left, and
an operand in parentheses does not belong to it. There are none if the fuel runs out in the chain. -/
def Arena.commaOperands (a : Arena) : (fuel : Nat) → NodeRef → Option (List NodeRef)
  | 0, _ => none
  | fuel + 1, r =>
    match a.node? r with
    | none => some [r]
    | some n => match a.data? .binary n with
      | none => some [r]
      | some d =>
        if n.kind = .binaryExpression ∧ d.get .operatorToken = .commaToken then
          (commaOperands a fuel (d.get .left)).map (d.get .right :: ·)
        else some [r]

namespace Converter

variable (c : Converter)

/-! ### Operators -/

/-- A chain of commas, as one sequence. -/
def sequence (n : Node) (d : Data .binary) : Conversion EsNode := do
  let others ← .await (c.arena.commaOperands (c.arena.nodes.size + 1) (d.get .left))
  let expressions ← (d.get .right :: others).reverse.mapM c.child
  c.build .sequenceExpression n [("expressions", EsValue.array expressions)]

/-- Two operands with an operator between them, or with a default. -/
def operands (n : Node) (d : Data .binary) (isDefault : Bool) : Conversion EsNode := do
  let operator := d.get .operatorToken
  let left ← c.child (d.get .left)
  let right ← c.child (d.get .right)
  if isDefault then
    c.build .assignmentPattern n [("left", left), ("right", right)]
  else
    c.build operator.binaryType n
      [("operator", operator.operatorText), ("left", left), ("right", right)]

/-- An expression with two operands. Inside of a destructuring target `=` gives a default. -/
def binary (i : NodeId) (n : Node) : Conversion EsNode := do
  let d ← c.parts .binary i n
  if d.get .operatorToken = .commaToken then
    c.sequence n d
  else if d.get .operatorToken = .equalsToken then do
    let inside ← .await (c.arena.inPattern (some i))
    c.operands n d inside
  else
    c.operands n d false

/-- An expression with an operator before or behind its operand. -/
def unary (i : NodeId) (n : Node) : Conversion EsNode := do
  let d ← c.parts .unary i n
  let operator := d.get .operator
  let argument ← c.child (d.get .operand)
  let type : AstType :=
    if operator = .plusPlusToken ∨ operator = .minusMinusToken then .updateExpression
    else .unaryExpression
  c.build type n
    [("operator", operator.operatorText), ("prefix", n.kind == .prefixUnaryExpression),
      ("argument", argument)]

/-- A property of a keyword, as in `new.target`. -/
def metaProperty (i : NodeId) (n : Node) : Conversion EsNode := do
  let d ← c.parts .metaProperty i n
  let keyword := (d.get .keywordToken).operatorText
  let stop ← Conversion.moved n.pos keyword.utf8ByteSize
  let owner ← c.buildAt .identifier n.pos stop [("name", keyword)]
  let property ← c.child (d.get .name)
  c.build .metaProperty n [("meta", owner), ("property", property)]

/-! ### Templates -/

/-- The expression and the piece of text of a span; an absent span has none. -/
def templateSpan (r : NodeRef) : Conversion (Option (EsValue × EsValue)) := do
  let some i := r | pure none
  let some n := c.node? i | pure none
  let d ← c.parts .templateSpan i n
  let expression ← c.child (d.get .expression)
  pure (some (expression, ← c.child (d.get .literal)))

/-- A template with expressions. -/
def template (i : NodeId) (n : Node) : Conversion EsNode := do
  let d ← c.parts .templateExpr i n
  let head ← c.child (d.get .head)
  let spans ← (d.get .templateSpans).nodes.filterMapM c.templateSpan
  c.build .templateLiteral n
    [("quasis", EsValue.array (head :: spans.map (·.2))),
      ("expressions", EsValue.array (spans.map (·.1)))]

/-- A template behind the function that reads it. -/
def taggedTemplate (i : NodeId) (n : Node) : Conversion EsNode := do
  let d ← c.parts .taggedTemplate i n
  let tag ← c.child (d.get .tag)
  let arguments ← c.typeArguments? (d.get .typeArguments)
  let quasi ← c.child (d.get .template)
  c.build .taggedTemplateExpression n
    [("tag", tag), ("quasi", quasi), ("typeParameters", arguments)]

/-! ### Literals that may be targets -/

/-- An array literal. -/
def arrayLiteral (i : NodeId) (n : Node) : Conversion EsNode := do
  let d ← c.parts .literalExpr i n
  let type : AstType := match ← .await (c.arena.literalRole (some i)) with
    | .pattern => .arrayPattern
    | .expression => .arrayExpression
  let elements ← c.list (d.get .elements)
  c.build type n [("elements", elements)]

/-- An object literal. -/
def objectLiteral (i : NodeId) (n : Node) : Conversion EsNode := do
  let d ← c.parts .literalExpr i n
  let type : AstType := match ← .await (c.arena.literalRole (some i)) with
    | .pattern => .objectPattern
    | .expression => .objectExpression
  let properties ← c.list (d.get .elements)
  c.build type n [("properties", properties)]

/-- Three dots before a part of a literal: the rest in a target, and a spread elsewhere. -/
def spread (i : NodeId) (n : Node) : Conversion EsNode := do
  let d ← c.parts .keywordUnary i n
  let inside ← .await (c.arena.inPattern (some i))
  let type : AstType := if inside then .restElement else .spreadElement
  let argument ← c.child (d.get .expression)
  c.build type n [("argument", argument)]

/-- A property whose name is its value. The name is converted for both, and a default value
makes the value a pattern. -/
def shorthandProperty (i : NodeId) (n : Node) : Conversion EsNode := do
  let d ← c.parts .shorthandProperty i n
  let key ← c.child (d.get .name)
  let value ← c.child (d.get .name)
  let value ← match c.node? (d.get .objectAssignmentInitializer) with
    | none => pure value
    | some _ => do
      let right ← c.child (d.get .objectAssignmentInitializer)
      EsNode.toValue <$> c.build .assignmentPattern n [("left", value), ("right", right)]
  c.build .property n
    [("key", key), ("value", value), ("computed", false), ("method", false), ("shorthand", true),
      ("kind", "init")]

end Converter

end ScriptTree
