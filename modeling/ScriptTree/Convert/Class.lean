import ScriptTree.Convert.Function

/-!
# Classes and interfaces

A class may extend one other class and implement any number of interfaces; an interface may
extend several. The body of either starts at its opening brace, which is looked for behind
everything that stands before it.
-/

namespace ScriptTree

namespace Converter

variable (c : Converter)

/-! ### Bodies and heritage -/

/-- Where the last node of a list ends; zero if there is none. -/
def lastStop (l : Option NodeList) : Nat :=
  ((c.node? (l.bind NodeList.last)).map Node.stop).getD 0

/-- Where the brace opens that the body is in. A brace that is not found is taken to be at the
start of the node. -/
def braceOf (tokens : TokenIndex) (n : Node) (d : Data .classLike) : Nat :=
  let nameStop := ((c.node? (d.get .name)).map Node.stop).getD 0
  let bracketStop := ((d.get .typeParameters).map NodeList.stop).getD 0
  let behind := [nameStop, c.lastStop (d.get .modifiers), c.lastStop (d.get .decorators),
    bracketStop, c.lastStop (d.get .heritageClauses)].foldl max n.pos
  let brace := tokens.findAfter behind .openBraceToken
  (brace.map SourceToken.start).getD n.pos

/-- Where the body starts. -/
def bodyStart (n : Node) (d : Data .classLike) : Conversion Nat := do
  pure (c.braceOf (← c.tokens) n d)

/-- A name with type arguments in a heritage clause; an absent one is null. -/
def heritage (type : AstType) (key : String) (r : NodeRef) : Conversion EsValue := do
  let some i := r | pure .null
  let some n := c.node? i | pure .null
  let d ← c.parts .exprWithTypeArgs i n
  let name ← c.child (d.get .expression)
  let arguments ← c.typeArguments? (d.get .typeArguments)
  EsNode.toValue <$> c.build type n [(key, name), ("typeParameters", arguments)]

/-- The clauses of a class: the last one with `extends`, and the last one with `implements`. -/
structure Clauses where
  extended : Option (Data .heritageClause) := none
  implemented : Option (Data .heritageClause) := none

/-- Takes one more clause into account. -/
def addClause (found : Clauses) (r : NodeRef) : Conversion Clauses := do
  let some i := r | pure found
  let some n := c.node? i | pure found
  let d ← c.parts .heritageClause i n
  if d.get .token = .extendsKeyword then pure { found with extended := some d }
  else if d.get .token = .implementsKeyword then pure { found with implemented := some d }
  else pure found

/-- The clauses of a class. A second class behind `extends` is an error. -/
def clauses (n : Node) (l : Option NodeList) : Conversion Clauses := do
  let found ← ((l.map NodeList.nodes).getD []).foldlM c.addClause {}
  match found.extended.bind fun d => (d.get .types).nodes[1]? with
  | none => pure found
  | some second =>
    let pos := ((c.node? second).map Node.pos).getD n.pos
    .fail (c.structural pos "Classes can only extend a single class.")

/-! ### Classes -/

/-- The class that is extended, and its type arguments. -/
def extended (found : Clauses) : Conversion (EsValue × Option EsNode) := do
  let some i := found.extended.bind fun d => (d.get .types).first | pure (.null, none)
  let some n := c.node? i | pure (.null, none)
  let d ← c.parts .exprWithTypeArgs i n
  let name ← c.child (d.get .expression)
  pure (name, ← c.typeArguments? (d.get .typeArguments))

/-- A class. -/
def classLike (i : NodeId) (n : Node) : Conversion EsNode := do
  let d ← c.parts .classLike i n
  let found ← c.clauses n (d.get .heritageClauses)
  let isDeclaration := n.kind == .classDeclaration
  let type : AstType :=
    if !isDeclaration then .classExpression
    else if c.arena.hasModifier (d.get .modifiers) .abstractKeyword then .tsAbstractClassDeclaration
    else .classDeclaration
  let id ← c.child (d.get .name)
  let brace ← c.bodyStart n d
  let members ← c.statements (d.get .members)
  let body ← c.buildAt .classBody brace n.stop [("body", members)]
  let (superClass, superArguments) ← c.extended found
  let implemented ← found.implemented.mapM fun clause =>
    (clause.get .types).nodes.mapM (c.heritage .classImplements "expression")
  let decorators ← c.decorators? (d.get .decorators)
  let parameters ← c.typeParameters? (d.get .typeParameters)
  let result ← c.build type n
    [("id", id), ("body", body), ("superClass", superClass),
      ("superTypeParameters", superArguments), ("implements", implemented.map EsValue.array),
      ("decorators", decorators), ("typeParameters", parameters)]
  if isDeclaration then c.exported (d.get .modifiers) result else pure result

/-- The interfaces in a heritage clause. -/
def extendedInterfaces (clause : NodeRef) : Conversion (List EsValue) := do
  let some i := clause | pure []
  let some n := c.node? i | pure []
  let d ← c.parts .heritageClause i n
  (d.get .types).nodes.mapM (c.heritage .tsInterfaceHeritage "id")

/-- An interface. -/
def interface (i : NodeId) (n : Node) : Conversion EsNode := do
  let d ← c.parts .classLike i n
  let brace ← c.bodyStart n d
  let members ← c.list (d.get .members)
  let body ← c.buildAt .tsInterfaceBody brace n.stop [("body", members)]
  let id ← c.child (d.get .name)
  let heritage ← c.extendedInterfaces ((d.get .heritageClauses).bind NodeList.first)
  let parameters ← c.typeParameters? (d.get .typeParameters)
  let decorators ← c.decorators? (d.get .decorators)
  let result ← c.build .tsInterfaceDeclaration n
    [("abstract", c.arena.hasModifier (d.get .modifiers) .abstractKeyword), ("body", body),
      ("id", id), ("heritage", EsValue.array heritage), ("typeParameters", parameters),
      ("decorators", decorators)]
  c.exported (d.get .modifiers) result

/-! ### Members -/

/-- The type of a method. -/
def methodType (flags : List Modifier) : AstType :=
  if flags.contains .abstract then .tsAbstractMethodDefinition else .methodDefinition

/-- A field of a class. A question mark behind it counts only if the field has a plain name. -/
def classProperty (i : NodeId) (n : Node) : Conversion EsNode := do
  let d ← c.parts .propertyDecl i n
  let flags := c.modifiers (d.get .modifiers)
  let name := d.get .name
  let hasPlainName := c.hasKind name .identifier || c.hasKind name .stringLiteral ||
    c.hasKind name .numericLiteral
  let key ← c.child name
  let value ← c.child (d.get .initializer)
  let ascription ← c.ascription? (d.get .declaredType)
  let decorators ← c.decorators? (d.get .decorators)
  let type : AstType :=
    if flags.contains .abstract then .tsAbstractClassProperty else .classProperty
  c.build type n
    [("key", key), ("value", value), ("computed", c.hasKind name .computedPropertyName),
      ("static", flags.contains .static),
      ("readonly", EsValue.mark (flags.contains .readonly)), ("typeAnnotation", ascription),
      ("decorators", decorators),
      ("accessibility", (Modifier.accessibility? flags).map EsValue.string),
      ("optional", EsValue.mark (d.get .questionToken && hasPlainName)),
      ("definite", EsValue.mark (d.get .exclamationToken))]

/-- The word for an accessor. -/
def accessorWord? (kind : SyntaxKind) : Option String :=
  if kind = .getAccessor then some "get"
  else if kind = .setAccessor then some "set"
  else none

/-- A method is a constructor if its name is the word in quotes. -/
def isNamedConstructor (n : Node) (name : NodeRef) (flags : List Modifier) : Bool :=
  !flags.contains .static && n.kind == .methodDeclaration && c.hasKind name .stringLiteral &&
    (c.arena.dataAt? .literal name).any fun d => d.get .text == "constructor"

/-- A method or an accessor of a class or of an object. -/
def method (i : NodeId) (n : Node) : Conversion EsNode := do
  let d ← c.parts .function i n
  let flags := c.modifiers (d.get .modifiers)
  let name := d.get .name
  let computed := c.hasKind name .computedPropertyName
  let key ← c.child name
  let value ← c.methodValue n d (((c.node? name).map Node.stop).getD n.pos)
  let optional := EsValue.mark (d.get .questionToken)
  if c.hasKind (c.arena.parent (some i)) .objectLiteralExpression then
    c.build .property n
      [("key", key), ("value", value), ("computed", computed),
        ("method", n.kind == .methodDeclaration), ("shorthand", false),
        ("kind", (accessorWord? n.kind).getD "init"), ("optional", optional)]
  else
    let word := if c.isNamedConstructor n name flags then "constructor" else "method"
    let decorators ← c.decorators? (d.get .decorators)
    c.build (methodType flags) n
      [("key", key), ("value", value), ("computed", computed),
        ("static", flags.contains .static), ("kind", (accessorWord? n.kind).getD word),
        ("decorators", decorators),
        ("accessibility", (Modifier.accessibility? flags).map EsValue.string),
        ("optional", optional)]

/-- The name of a constructor, which is a token of its own: a word or a text in quotes. -/
def constructorKey (t : SourceToken) : Conversion EsNode :=
  if t.kind = .stringLiteral then
    let raw := c.textOf t.start t.stop
    let value := raw.slice 1 (raw.byteLength - 1)
    c.buildAt .literal t.start t.stop [("value", EsValue.text value), ("raw", EsValue.text raw)]
  else c.buildAt .identifier t.start t.stop [("name", "constructor")]

/-- A constructor. -/
def constructorMethod (i : NodeId) (n : Node) : Conversion EsNode := do
  let d ← c.parts .function i n
  let flags := c.modifiers (d.get .modifiers)
  let behind := ((c.node? ((d.get .modifiers).bind NodeList.last)).map Node.stop).getD n.pos
  let some token := (← c.tokens).atOrAfter behind
    | .fail (c.structural n.pos "Constructor keyword not found.")
  let key ← c.constructorKey token
  let value ← c.methodValue n d token.stop
  let static := flags.contains .static
  c.build (methodType flags) n
    [("key", key), ("value", value), ("computed", false), ("static", static),
      ("kind", if static then "method" else "constructor"),
      ("accessibility", (Modifier.accessibility? flags).map EsValue.string)]

end Converter

end ScriptTree
