import ScriptTree.Convert.Binding

/-!
# Declarations of types, enumerations and namespaces

These declarations may be exported. A type alias is presented as a variable declaration of
its own sort, with the type in the place of the value. Enumerations and namespaces keep their other
modifiers, some as marks and the rest in a list.

The clauses of `switch` and `try` are here, too: their concrete nodes have a node in between
that the normalized tree does without.
-/

namespace ScriptTree

namespace Converter

variable (c : Converter)

/-! ### Clauses -/

/-- The cases in the block of a switch. -/
def cases (block : NodeRef) : Conversion EsValue := do
  let some i := block | pure (.array [])
  let some n := c.node? i | pure (.array [])
  let d ← c.parts .block i n
  c.list (d.get .statements)

/-- A switch. -/
def switch (i : NodeId) (n : Node) : Conversion EsNode := do
  let d ← c.parts .switch i n
  let discriminant ← c.child (d.get .expression)
  let cases ← c.cases (d.get .caseBlock)
  c.build .switchStatement n [("discriminant", discriminant), ("cases", cases)]

/-- What a catch clause binds: the name in a declaration. -/
def caught (declaration : NodeRef) : Conversion EsValue := do
  let some i := declaration | pure .null
  let some n := c.node? i | pure .null
  let d ← c.parts .variableDeclaration i n
  c.child (d.get .name)

/-- A catch clause. -/
def catchClause (i : NodeId) (n : Node) : Conversion EsNode := do
  let d ← c.parts .catchClause i n
  let param ← c.caught (d.get .variableDeclaration)
  let body ← c.child (d.get .block)
  c.build .catchClause n [("param", param), ("body", body)]

/-! ### Types -/

/-- A type alias. -/
def typeAlias (i : NodeId) (n : Node) : Conversion EsNode := do
  let d ← c.parts .typeAlias i n
  let start := ((c.node? (d.get .name)).map Node.pos).getD n.pos
  let id ← c.child (d.get .name)
  let parameters ← c.typeParameters? (d.get .typeParameters)
  let type ← c.child (d.get .typeNode)
  let declarator ← c.buildAt .variableDeclarator start n.stop
    [("id", id), ("init", type), ("typeParameters", parameters)]
  let declaration ← c.build .variableDeclaration n
    [("kind", "type"), ("declarations", EsValue.ofNodes [declarator])]
  c.exported (d.get .modifiers) declaration

/-- A condition on the type of a parameter. The ascription in it covers just the type. -/
def typePredicate (i : NodeId) (n : Node) : Conversion EsNode := do
  let d ← c.parts .typePredicate i n
  let name ← c.child (d.get .parameterName)
  let ascription ← match c.node? (d.get .typeNode) with
    | none => pure EsValue.null
    | some type => do
      let inner ← c.child (d.get .typeNode)
      EsNode.toValue <$> c.build .tsTypeAscription type [("typeAnnotation", inner)]
  c.build .tsTypePredicate n [("parameterName", name), ("typeAnnotation", ascription)]

/-! ### Enumerations and namespaces -/

/-- Takes one more modifier of a declaration into account. The words for an export are left to
the export, some words become marks, and the other modifiers are converted. -/
def addModifier (found : Draft × List EsValue) (r : NodeRef) :
    Conversion (Draft × List EsValue) := do
  let (d, rest) := found
  match c.arena.kind? r with
  | some .exportKeyword | some .defaultKeyword => pure (d, rest)
  | some .constKeyword => pure (d.prop "const" true, rest)
  | some .declareKeyword => pure (d.prop "declare" true, rest)
  | _ => do pure (d, rest ++ [← c.child r])

/-- Gives a declaration its modifiers. -/
def modify (d : Draft) (modifiers : Option NodeList) : Conversion Draft := do
  let (d, rest) ← ((modifiers.map NodeList.nodes).getD []).foldlM c.addModifier (d, [])
  pure (if rest.isEmpty then d else d.prop "modifiers" (.array rest))

/-- An enumeration. -/
def enumeration (i : NodeId) (n : Node) : Conversion EsNode := do
  let d ← c.parts .enumeration i n
  let id ← c.child (d.get .name)
  let members ← c.list (d.get .members)
  let draft ← Conversion.startOver AstType.tsEnumDeclaration n
  let draft ← c.modify (draft.fill [("id", id), ("members", members)]) (d.get .modifiers)
  c.exported (d.get .modifiers) (c.finish draft)

/-- A namespace, a module with a name, or an addition to the global scope. -/
def moduleDeclaration (i : NodeId) (n : Node) : Conversion EsNode := do
  let d ← c.parts .moduleDecl i n
  let id ← c.child (d.get .name)
  let body ← c.convert (d.get .body)
  let draft ← Conversion.startOver AstType.tsModuleDeclaration n
  let draft ← c.modify (draft.fill [("id", id), ("body", body)]) (d.get .modifiers)
  let global := EsValue.mark (n.hasFlag NodeFlag.globalBit)
  c.exported (d.get .modifiers) (c.finish (draft.propOpt "global" global))

end Converter

end ScriptTree
