import ScriptTree.Convert.Basic
import ScriptTree.Kind.Class

/-!
# Types in brackets and behind colons

The concrete tree keeps a type and a list of types without the marks around them. In
normalized form a type that belongs to a declaration stands in an ascription that starts at
its colon or arrow, and a list of type arguments or parameters in a node that covers the
angle brackets as well. The marks are found among the tokens.
-/

namespace ScriptTree

namespace TokenIndex

variable (index : TokenIndex)

/-- Where the bracket in front of a list starts. A bracket that is not found is taken to be next to
the list. -/
def openingOf (l : NodeList) : Nat :=
  let left := (index.before l.pos).filter fun t => t.kind == .lessThanToken
  (left.map SourceToken.start).getD (l.pos - 1)

/-- Where the bracket behind a list ends. -/
def closingOf? (l : NodeList) : Option Nat :=
  (index.findAfter l.stop .greaterThanToken).map SourceToken.stop

end TokenIndex

namespace Converter

variable (c : Converter)

/-! ### Ascriptions -/

/-- The ascription around a type, if there is a type. It starts at the colon or arrow before
the type, or else where the type does. -/
def ascription? (r : NodeRef) : Conversion (Option EsNode) := do
  let some n := c.node? r | pure none
  let mark := ((← c.tokens).before n.pos).filter fun t =>
    t.kind == .colonToken || t.kind == .equalsGreaterThanToken
  let type ← c.child r
  let start := (mark.map SourceToken.start).getD n.pos
  some <$> c.buildAt .tsTypeAscription start n.stop [("typeAnnotation", type)]

/-! ### Lists in angle brackets -/

/-- Where the brackets around a list start and end. -/
def brackets (l : NodeList) : Conversion (Nat × Nat) := do
  if l.nodes.isEmpty then
    pure (l.pos - 1, ← Conversion.moved l.stop 1)
  else
    let tokens ← c.tokens
    let next ← Conversion.moved l.stop 1
    pure (tokens.openingOf l, (tokens.closingOf? l).getD next)

/-- A list of type arguments. -/
def typeArguments (l : NodeList) : Conversion EsNode := do
  let (start, stop) ← c.brackets l
  let params ← l.nodes.mapM c.typeArgument
  c.buildAt .tsTypeParameterInstantiation start stop [("params", EsValue.array params)]

/-- A list of type arguments, if there is one. -/
def typeArguments? (l : Option NodeList) : Conversion (Option EsNode) :=
  l.mapM c.typeArguments

/-- One type argument: words for types and imported types stand for themselves, every other
type is presented as a reference to a type. -/
def typeArgumentOf (r : NodeRef) : Conversion EsValue := do
  let some n := c.node? r | pure .null
  if n.kind.isTypeKeyword || n.kind == .importType then
    c.child r
  else
    let (name, arguments) ← match c.arena.data? .typeRef n with
      | some d => do
        let name ← c.child (d.get .typeName)
        pure (name, ← c.typeArguments? (d.get .typeArguments))
      | none => do pure (← c.child r, none)
    let reference ← c.build .tsTypeReference n
      [("typeName", name), ("typeParameters", arguments)]
    pure reference.toValue

/-- A list of type parameters. -/
def typeParameters (l : NodeList) : Conversion EsNode := do
  let (start, stop) ← c.brackets l
  let params ← c.list l
  c.buildAt .tsTypeParameterDeclaration start stop [("params", params)]

/-- A list of type parameters, if there is one. -/
def typeParameters? (l : Option NodeList) : Conversion (Option EsNode) :=
  l.mapM c.typeParameters

/-! ### Decorators -/

/-- The decorators of a declaration, if it has some. -/
def decorators? (l : Option NodeList) : Conversion (Option EsValue) :=
  (l.filter fun l => !l.nodes.isEmpty).mapM c.list

end Converter

end ScriptTree
