import ScriptTree.Arena.Navigate
import ScriptTree.Kind.Class

/-!
# What the surroundings of a node decide

Two questions about a node are answered above it. An array or object literal may be a
destructuring target: then its elements are assigned to, not read. And the word `null` is a
type where a type is written, and a value elsewhere.

A literal is a target by itself when something is assigned to it
(`ScriptTree.Arena.isAssigned`), or because the literal around it is one
(`ScriptTree.Arena.inPattern`). The second question is answered further and further up, along the
parents.
-/

namespace ScriptTree

/-- How an array or object literal is read. -/
inductive LiteralRole
  /-- A destructuring target. -/
  | pattern
  /-- A value. -/
  | expression
  deriving DecidableEq, Repr

namespace LiteralRole

/-- The name of a role. -/
def name : LiteralRole → String
  | pattern => "Pattern"
  | expression => "Expression"

end LiteralRole

namespace Pool

/-- The fields of a pool that hold types, in nodes that are no types themselves. -/
def typeFields : Pool → List Field
  | .variableDeclaration | .parameter | .propertyDecl | .function | .propertySignature
  | .indexSignature | .signatureType => [.declaredType]
  | .typeAlias | .typeAssertion => [.typeNode]
  | .typeParameter => [.constraint, .defaultType]
  | .call | .exprWithTypeArgs => [.typeArguments]
  | _ => []

end Pool

namespace Arena

/-! ### Destructuring targets -/

/-- Something is assigned to a node: it is the left side of `=`, or what a loop over the items or
keys of a value binds. -/
def isAssigned (a : Arena) (r : NodeRef) : Bool :=
  match a.node? (a.parent r) with
  | none => false
  | some n =>
    if n.kind = .binaryExpression then
      (a.data? .binary n).any fun d => d.get .operatorToken == .equalsToken && d.get .left == r
    else if n.kind = .forInStatement ∨ n.kind = .forOfStatement then
      (a.data? .forInOf n).any fun d => d.get .initializer == r
    else false

/-- Looks at the node above. An element of a literal that something is assigned to is part of a
target; otherwise the question is handed on to the literal. A property hands on the question for its
value, and parentheses on the way up do not count. -/
def climbTargets (a : Arena) (r : NodeRef) : Turn NodeRef Bool :=
  let up := a.parent r
  match a.node? up with
  | none => .answer false
  | some n =>
    if n.kind = .arrayLiteralExpression ∨ n.kind = .objectLiteralExpression then
      if a.isAssigned up then .answer true else .goOn up
    else if n.kind = .propertyAssignment then
      if (a.data? .propertyAssignment n).any fun d => d.get .initializer == r then .goOn up
      else .answer false
    else if n.kind = .parenthesizedExpression then .goOn up
    else .answer false

/-- A node is an element or the value of a property of a literal that is a target. There is no
answer if the way up has no end. -/
def inPattern (a : Arena) (r : NodeRef) : Option Bool :=
  a.search a.climbTargets r

/-- How the literal in a place is read, if this is decided. -/
def literalRole (a : Arena) (r : NodeRef) : Option LiteralRole :=
  if a.isAssigned r then some .pattern
  else (a.inPattern r).map fun inside => if inside then .pattern else .expression

/-! ### Types -/

/-- A node stands where a type is written: directly below a type, or in a field for types. -/
def inTypePosition (a : Arena) (i : NodeId) : Bool :=
  match a.node? (a.parent (some i)) with
  | none => false
  | some n => n.kind.isType ||
    match n.pool with
    | none => false
    | some p => (a.data? p n).any fun d => p.typeFields.any fun f => (d.refs f).contains i

end Arena

end ScriptTree
