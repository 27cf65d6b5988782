import ScriptTree.Convert.Ascription
import ScriptTree.Convert.Operator

/-!
# Variables and what they are bound to

A variable statement holds a list of declarators, and a declarator binds a name or a pattern.
The ascription of a declarator belongs to the name: the name then covers it, too. In
patterns an element binds a part of the value, perhaps with a default.
-/

namespace ScriptTree

namespace Converter

variable (c : Converter)

/-! ### Exports -/

/-- A declaration whose modifiers say that it is exported stands inside of the export. The
export covers everything from its keyword on, and the declaration then starts at the first token
behind the keywords of the export. -/
def exported (modifiers : Option NodeList) (declaration : EsNode) : Conversion EsNode := do
  let words := (modifiers.map NodeList.nodes).getD []
  match c.node? words.head?.join with
  | none => pure declaration
  | some first =>
    if first.kind = .exportKeyword then
      let second := (c.node? words[1]?.join).filter fun n => n.kind == .defaultKeyword
      let start := (← c.tokens).nextStart (second.getD first).stop
      let inner := c.finish ((Draft.reopen declaration).startAt start)
      if second.isSome then
        c.buildAt .exportDefaultDeclaration first.pos inner.head.stop [("declaration", inner)]
      else
        c.buildAt .exportNamedDeclaration first.pos inner.head.stop
          [("declaration", inner), ("specifiers", EsValue.array []), ("source", EsValue.null)]
    else pure declaration

/-! ### Variables -/

/-- A statement that declares variables. -/
def variableStatement (i : NodeId) (n : Node) : Conversion EsNode := do
  let d ← c.parts .variableStatement i n
  let some j := d.get .declarationList | lost
  let some list := c.node? j | lost
  let parts ← c.parts .variableList j list
  let declarations ← c.list (parts.get .declarations)
  let modifiers := d.get .modifiers
  let declaration ← c.build .variableDeclaration n
    [("declarations", declarations), ("kind", declarationWord list.flags),
      ("declare", EsValue.mark (c.arena.hasModifier modifiers .declareKeyword))]
  c.exported modifiers declaration
where
  lost {α : Type} : Conversion α :=
    .fail (c.structural n.pos "Variable statement without a declaration list.")

/-- A variable, with what it is bound to. -/
def declarator (i : NodeId) (n : Node) : Conversion EsNode := do
  let d ← c.parts .variableDeclaration i n
  let id ← match ← c.convert (d.get .name) with
    | none => pure EsValue.null
    | some name => match ← c.ascription? (d.get .declaredType) with
      | none => pure name.toValue
      | some ascription =>
        let name := ((Draft.reopen name).prop "typeAnnotation" ascription).extendTo
          ascription.head.stop
        pure (c.finish name).toValue
  let init ← c.child (d.get .initializer)
  c.build .variableDeclarator n
    [("id", id), ("init", init), ("definite", EsValue.mark (d.get .exclamationToken))]

/-! ### Elements of patterns -/

/-- An element of the pattern for an array. -/
def arrayElement (n : Node) (d : Data .bindingElement) : Conversion (Option EsNode) :=
  match c.node? (d.get .initializer) with
  | none => c.convert (d.get .name)
  | some _ => do
    let left ← c.child (d.get .name)
    let right ← c.child (d.get .initializer)
    some <$> c.build .assignmentPattern n [("left", left), ("right", right)]

/-- An element of the pattern for an object. Without a property name the name is both key and
value. -/
def objectElement (n : Node) (d : Data .bindingElement) : Conversion EsNode := do
  let shorthand := (d.get .propertyName).isNone
  let keyRef := if shorthand then d.get .name else d.get .propertyName
  let key ← c.child keyRef
  let left ← c.child (d.get .name)
  let value ← match c.node? (d.get .name), c.node? (d.get .initializer) with
    | some name, some init => do
      let right ← c.child (d.get .initializer)
      EsNode.toValue <$> c.buildAt .assignmentPattern name.pos init.stop
        [("left", left), ("right", right)]
    | _, _ => pure left
  c.build .property n
    [("key", key), ("value", value), ("computed", c.hasKind keyRef .computedPropertyName),
      ("method", false), ("shorthand", shorthand), ("kind", "init")]

/-- An element of a pattern. -/
def bindingElement (i : NodeId) (n : Node) : Conversion (Option EsNode) := do
  let d ← c.parts .bindingElement i n
  let inObject := c.hasKind (c.arena.parent (some i)) .objectBindingPattern
  if d.get .dotDotDotToken then
    let target :=
      if inObject ∧ (d.get .propertyName).isSome then d.get .propertyName else d.get .name
    let argument ← c.child target
    some <$> c.build .restElement n [("argument", argument)]
  else if inObject then some <$> c.objectElement n d
  else c.arrayElement n d

end Converter

end ScriptTree
