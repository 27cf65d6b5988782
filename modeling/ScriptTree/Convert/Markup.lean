import ScriptTree.Convert.Ascription

/-!
# Markup

Tags, their names and attributes, and the expressions between braces. The names of tags and
attributes are nodes of their own type, whose name is the text that is written, so that
`this` and other words are names as well.
-/

namespace ScriptTree

namespace Converter

variable (c : Converter)

/-! ### Names -/

/-- A name in markup, recorded for the concrete node that it comes from. -/
def markupName (r : NodeRef) (n : Node) : Conversion EsNode := do
  let name ← c.build .jsxIdentifier n [("name", EsValue.text (c.nodeText n))]
  c.register r name
  pure name

/-- The name of a tag, which may be dotted. -/
def tagNameOf (r : NodeRef) : Conversion EsValue := do
  let some i := r | pure .null
  let some n := c.node? i | pure .null
  if n.kind = .propertyAccessExpression then
    let d ← c.parts .access i n
    let object ← c.tagName (d.get .expression)
    let property ← c.tagName (d.get .nameOrArgument)
    let name ← c.build .jsxMemberExpression n [("object", object), ("property", property)]
    c.register r name
    pure name.toValue
  else EsNode.toValue <$> c.markupName r n

/-! ### Tags -/

/-- The attributes of a tag. -/
def markupAttributes (r : NodeRef) : Conversion EsValue := do
  let some i := r | pure (.array [])
  let some n := c.node? i | pure (.array [])
  let d ← c.parts .jsxAttributes i n
  c.list (d.get .properties)

/-- An opening tag, which may close itself. -/
def openingTag (i : NodeId) (n : Node) (selfClosing : Bool) : Conversion EsNode := do
  let d ← c.parts .jsxOpening i n
  let arguments ← c.typeArguments? (d.get .typeArguments)
  let name ← c.tagName (d.get .tagName)
  let attributes ← c.markupAttributes (d.get .attributes)
  c.build .jsxOpeningElement n
    [("typeParameters", arguments), ("selfClosing", selfClosing), ("name", name),
      ("attributes", attributes)]

/-- An element that is one tag: the tag covers all of it. -/
def selfClosingElement (i : NodeId) (n : Node) : Conversion EsNode := do
  let tag ← c.openingTag i n true
  c.build .jsxElement n
    [("openingElement", tag), ("closingElement", EsValue.null), ("children", EsValue.array [])]

/-! ### Attributes and children -/

/-- An attribute. -/
def markupAttribute (i : NodeId) (n : Node) : Conversion EsNode := do
  let d ← c.parts .jsxAttribute i n
  let name ← (c.node? (d.get .name)).mapM (c.markupName (d.get .name))
  let value ← c.child (d.get .initializer)
  c.build .jsxAttribute n [("name", EsValue.ofNode? name), ("value", value)]

/-- An expression in braces. Braces without an expression hold an empty one, which covers what is
between them. -/
def markupExpression (i : NodeId) (n : Node) : Conversion EsNode := do
  let d ← c.parts .jsxExpression i n
  let expression ← match ← c.convert (d.get .expression) with
    | some expression => pure expression
    | none =>
      let start := min (n.pos + 1) 0xFFFFFFFF
      c.buildAt .jsxEmptyExpression start (max (n.stop - 1) start) []
  let type : AstType :=
    if d.get .dotDotDotToken then .jsxSpreadChild else .jsxExpressionContainer
  c.build type n [("expression", expression)]

end Converter

end ScriptTree
