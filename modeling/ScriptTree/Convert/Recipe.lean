import ScriptTree.Convert.Ascription
import ScriptTree.Convert.Operator

/-!
# Recipes

Most kinds are converted by rote: the parts of the node, one after the other, become fields
of one normalized node. A recipe says which pool the parts are in, what the type of the
result is, and how each of its fields is made. The order of the fields is also the order in
which the children are converted, and so the order in which the nodes of the result are numbered.

The node itself is numbered after its parts, apart from those that a recipe lists as
`ScriptTree.Recipe.later`.
-/

namespace ScriptTree

/-- What a field is when the part that it is made of is absent. -/
inductive Absence
  /-- The field is null. -/
  | null
  /-- There is no such field. -/
  | omitted
  deriving DecidableEq, Repr

/-- The value of a field that is made of a node, which may be absent. -/
def Absence.value : Absence → Option EsNode → Option EsValue
  | _, some n => some n
  | null, none => some .null
  | omitted, none => none

/-- How a field of a normalized node is made of the parts of the concrete one. -/
inductive Part
  /-- A child. -/
  | child (f : Field) (absence : Absence := .null)
  /-- The first child of a list. -/
  | first (f : Field)
  /-- The children of a list, with holes; without the list there are none. -/
  | list (f : Field)
  /-- The children of a list, with holes; without the list there is no field. -/
  | listIfAny (f : Field)
  /-- The children of a list, without holes. -/
  | statements (f : Field)
  /-- A list of type arguments. -/
  | typeArguments (f : Field) (absence : Absence := .omitted)
  /-- A list of type parameters. -/
  | typeParameters (f : Field)
  /-- The ascription around a type. -/
  | ascription (f : Field) (absence : Absence := .omitted)
  /-- The decorators, if there are any. -/
  | decorators (f : Field)
  /-- The name of a tag. -/
  | tagName (f : Field)
  /-- A text. -/
  | text (f : Field)
  /-- The text of a child that is a name. -/
  | nameText (f : Field)
  /-- Whether something is there. -/
  | flag (f : Field)
  /-- A mark if something is there. -/
  | mark (f : Field)
  /-- The text of an operator. -/
  | spelling (f : Field)
  /-- Whether a child is of a kind. -/
  | isKind (f : Field) (kind : SyntaxKind)
  /-- Whether a child is absent or of another kind. -/
  | isNotKind (f : Field) (kind : SyntaxKind)
  /-- Whether the declaration has a modifier. -/
  | modifier (m : Modifier)
  /-- A mark if the declaration has a modifier. -/
  | modifierMark (m : Modifier)
  /-- Who may access the member, if the modifiers say so. -/
  | accessibility
  /-- The word that declares the variables. -/
  | declarationWord
  /-- Always this text. -/
  | word (s : String)
  /-- Always this truth value. -/
  | always (b : Bool)
  /-- Always null. -/
  | null
  deriving DecidableEq, Repr

/-- How nodes of a kind are converted. -/
structure Recipe where
  /-- The pool that the parts are in. -/
  pool : Pool
  /-- The type of the normalized node. -/
  type : AstType
  /-- The fields whose children are numbered before the node. -/
  parts : List (String × Part)
  /-- The fields whose children are numbered after the node. -/
  later : List (String × Part) := []
  deriving DecidableEq, Repr

/-! ### Following a recipe -/

namespace Converter

variable (c : Converter)

/-- The value of a field. -/
def part {p : Pool} (n : Node) (d : Data p) : Part → Conversion (Option EsValue)
  | .child f absence => absence.value <$> c.convert (d.nodeAt f)
  | .first f => some <$> c.child ((d.listAt f).bind NodeList.first)
  | .list f => do
    let l ← (d.listAt f).mapM c.list
    pure (some (l.getD (EsValue.array [])))
  | .listIfAny f => (d.listAt f).mapM c.list
  | .statements f => (d.listAt f).mapM c.statements
  | .typeArguments f absence => absence.value <$> c.typeArguments? (d.listAt f)
  | .typeParameters f => Absence.omitted.value <$> c.typeParameters? (d.listAt f)
  | .ascription f absence => absence.value <$> c.ascription? (d.nodeAt f)
  | .decorators f => c.decorators? (d.listAt f)
  | .tagName f => some <$> c.tagName (d.nodeAt f)
  | .text f => pure (d.textAt f : EsValue)
  | .nameText f => pure (((c.arena.nameText? (d.nodeAt f)).getD "" : String) : EsValue)
  | .flag f => pure (d.flagAt f : EsValue)
  | .mark f => pure (EsValue.mark (d.flagAt f))
  | .spelling f => pure ((d.kindAt f).operatorText : EsValue)
  | .isKind f kind => pure (c.hasKind (d.nodeAt f) kind : EsValue)
  | .isNotKind f kind => pure (!c.hasKind (d.nodeAt f) kind : EsValue)
  | .modifier m => pure (((c.modifiers (d.listAt .modifiers)).contains m : Bool) : EsValue)
  | .modifierMark m => pure (EsValue.mark ((c.modifiers (d.listAt .modifiers)).contains m))
  | .accessibility =>
    pure ((Modifier.accessibility? (c.modifiers (d.listAt .modifiers))).map EsValue.string)
  | .declarationWord => pure (ScriptTree.declarationWord n.flags : EsValue)
  | .word s => pure (s : EsValue)
  | .always b => pure (b : EsValue)
  | .null => pure EsValue.null

/-- The values of some fields, made in their order. -/
def gather {p : Pool} (n : Node) (d : Data p) (parts : List (String × Part)) :
    Conversion (List (String × Option EsValue)) :=
  parts.mapM fun field => do pure (field.1, ← c.part n d field.2)

/-- Converts a node by a recipe. -/
def follow (r : Recipe) (i : NodeId) (n : Node) : Conversion EsNode := do
  let d ← c.parts r.pool i n
  let fields ← c.gather n d r.parts
  let draft ← Conversion.startOver r.type n
  let later ← c.gather n d r.later
  pure (c.finish (draft.fill (fields ++ later)))

end Converter

/-! ### The recipes -/

namespace Recipe

/-- The operand of a word that is written like a function. -/
def keywordUnary (operator : String) : Recipe where
  pool := .keywordUnary
  type := .unaryExpression
  parts := [("operator", .word operator), ("prefix", .always true),
    ("argument", .child .expression)]

/-- The access to a member. -/
def member (computed : Bool) : Recipe where
  pool := .access
  type := .memberExpression
  parts := [("object", .child .expression), ("property", .child .nameOrArgument),
    ("computed", .always computed), ("optional", .mark .questionDotToken)]

/-- What a function gives back, and its type parameters. -/
def signature : List (String × Part) :=
  [("returnType", .ascription .declaredType), ("typeParameters", .typeParameters .typeParameters)]

/-- A function with a body in braces. -/
def function (type : AstType) : Recipe where
  pool := .function
  type := type
  parts := [("id", .child .name), ("generator", .flag .asteriskToken),
    ("expression", .always false), ("async", .modifier .async), ("params", .list .parameters),
    ("body", .child .body)]
  later := signature

/-- A jump to a label. -/
def jump (type : AstType) : Recipe where
  pool := .jump
  type := type
  parts := [("label", .child .label)]

/-- The end of a function, with a result or an exception. -/
def exit (type : AstType) : Recipe where
  pool := .exitStatement
  type := type
  parts := [("argument", .child .expression)]

/-- A case of a switch. -/
def case : Recipe where
  pool := .caseClause
  type := .switchCase
  parts := [("test", .child .expression), ("consequent", .statements .statements)]

end Recipe

/-- The recipe of a kind, if it is converted by rote. -/
def SyntaxKind.recipe? : SyntaxKind → Option Recipe
  -- names
  | .identifier => some {
      pool := .identifier, type := .identifier
      parts := [("name", .text .escapedText)] }
  | .qualifiedName => some {
      pool := .qualifiedName, type := .tsQualifiedName
      parts := [("left", .child .left), ("right", .child .right)] }
  -- expressions
  | .deleteExpression => some (.keywordUnary "delete")
  | .typeOfExpression => some (.keywordUnary "typeof")
  | .voidExpression => some (.keywordUnary "void")
  | .awaitExpression => some {
      pool := .keywordUnary, type := .awaitExpression
      parts := [("argument", .child .expression)] }
  | .yieldExpression => some {
      pool := .keywordUnary, type := .yieldExpression
      parts := [("delegate", .flag .asteriskToken), ("argument", .child .expression)] }
  | .conditionalExpression => some {
      pool := .conditional, type := .conditionalExpression
      parts := [("test", .child .condition), ("consequent", .child .whenTrue),
        ("alternate", .child .whenFalse)] }
  | .callExpression => some {
      pool := .call, type := .callExpression
      parts := [("callee", .child .expression), ("arguments", .list .arguments),
        ("typeParameters", .typeArguments .typeArguments), ("optional", .mark .questionDotToken)] }
  | .newExpression => some {
      pool := .call, type := .newExpression
      parts := [("callee", .child .expression), ("arguments", .list .arguments),
        ("typeParameters", .typeArguments .typeArguments)] }
  | .propertyAccessExpression => some (.member false)
  | .elementAccessExpression => some (.member true)
  -- literals and patterns
  | .propertyAssignment => some {
      pool := .propertyAssignment, type := .property
      parts := [("key", .child .name), ("value", .child .initializer),
        ("computed", .isKind .name .computedPropertyName), ("method", .always false),
        ("shorthand", .always false), ("kind", .word "init")] }
  | .objectBindingPattern => some {
      pool := .bindingPattern, type := .objectPattern
      parts := [("properties", .list .elements)] }
  | .arrayBindingPattern => some {
      pool := .bindingPattern, type := .arrayPattern
      parts := [("elements", .list .elements)] }
  -- functions
  | .functionExpression => some (.function .functionExpression)
  | .arrowFunction => some {
      pool := .function, type := .arrowFunctionExpression
      parts := [("generator", .always false), ("id", .null), ("params", .list .parameters),
        ("body", .child .body), ("async", .modifier .async),
        ("expression", .isNotKind .body .block)]
      later := Recipe.signature }
  | .decorator => some {
      pool := .decorator, type := .decorator
      parts := [("expression", .child .expression)] }
  -- statements
  | .block => some {
      pool := .block, type := .blockStatement
      parts := [("body", .statements .statements)] }
  | .expressionStatement => some {
      pool := .exprStatement, type := .expressionStatement
      parts := [("expression", .child .expression)] }
  | .variableDeclarationList => some {
      pool := .variableList, type := .variableDeclaration
      parts := [("declarations", .list .declarations), ("kind", .declarationWord)] }
  | .ifStatement => some {
      pool := .ifStatement, type := .ifStatement
      parts := [("test", .child .expression), ("consequent", .child .thenStatement),
        ("alternate", .child .elseStatement)] }
  | .forStatement => some {
      pool := .loop, type := .forStatement
      parts := [("init", .child .initializer), ("test", .child .condition),
        ("update", .child .incrementor), ("body", .child .statement)] }
  | .doStatement => some {
      pool := .loop, type := .doWhileStatement
      parts := [("body", .child .statement), ("test", .child .condition)] }
  | .whileStatement => some {
      pool := .loop, type := .whileStatement
      parts := [("test", .child .condition), ("body", .child .statement)] }
  | .forOfStatement => some {
      pool := .forInOf, type := .forOfStatement
      parts := [("left", .child .initializer), ("right", .child .expression),
        ("body", .child .statement), ("await", .flag .awaitModifier)] }
  | .forInStatement => some {
      pool := .forInOf, type := .forInStatement
      parts := [("left", .child .initializer), ("right", .child .expression),
        ("body", .child .statement)] }
  | .breakStatement => some (.jump .breakStatement)
  | .continueStatement => some (.jump .continueStatement)
  | .returnStatement => some (.exit .returnStatement)
  | .throwStatement => some (.exit .throwStatement)
  | .withStatement => some {
      pool := .withStatement, type := .withStatement
      parts := [("object", .child .expression), ("body", .child .statement)] }
  | .labeledStatement => some {
      pool := .labeled, type := .labeledStatement
      parts := [("label", .child .label), ("body", .child .statement)] }
  | .caseClause => some .case
  | .defaultClause => some .case
  | .tryStatement => some {
      pool := .tryStatement, type := .tryStatement
      parts := [("block", .child .tryBlock), ("handler", .child .catchClause),
        ("finalizer", .child .finallyBlock)] }
  -- modules
  | .namespaceImport => some {
      pool := .specifier, type := .importNamespaceSpecifier
      parts := [("local", .child .name)] }
  | .moduleBlock => some {
      pool := .block, type := .tsModuleBlock
      parts := [("body", .statements .statements)] }
  -- declarations and types
  | .typeParameter => some {
      pool := .typeParameter, type := .tsTypeParameter
      parts := [("name", .nameText .name), ("constraint", .child .constraint .omitted),
        ("default", .child .defaultType .omitted)] }
  | .enumMember => some {
      pool := .enumMember, type := .tsEnumMember
      parts := [("id", .child .name), ("initializer", .child .initializer .omitted)] }
  | .methodSignature => some {
      pool := .function, type := .tsMethodSignature
      parts := [("optional", .flag .questionToken),
        ("computed", .isKind .name .computedPropertyName), ("key", .child .name),
        ("params", .list .parameters), ("typeAnnotation", .ascription .declaredType .null),
        ("readonly", .modifierMark .readonly), ("static", .modifier .static),
        ("export", .modifierMark .exported), ("typeParameters", .typeParameters .typeParameters),
        ("accessibility", .accessibility)] }
  | .propertySignature => some {
      pool := .propertySignature, type := .tsPropertySignature
      parts := [("optional", .mark .questionToken),
        ("computed", .isKind .name .computedPropertyName), ("key", .child .name),
        ("typeAnnotation", .ascription .declaredType),
        ("initializer", .child .initializer .omitted), ("readonly", .modifierMark .readonly),
        ("static", .modifierMark .static), ("export", .modifierMark .exported),
        ("accessibility", .accessibility)] }
  | .indexSignature => some {
      pool := .indexSignature, type := .tsIndexSignature
      parts := [("index", .first .parameters),
        ("typeAnnotation", .ascription .declaredType .null),
        ("readonly", .modifierMark .readonly), ("static", .modifier .static),
        ("export", .modifierMark .exported), ("accessibility", .accessibility)] }
  | .constructSignature => some {
      pool := .signatureType, type := .tsConstructSignature
      parts := [("params", .list .parameters),
        ("typeAnnotation", .ascription .declaredType .null),
        ("typeParameters", .typeParameters .typeParameters)] }
  | .importType => some {
      pool := .importType, type := .tsImportType
      parts := [("isTypeOf", .flag .isTypeOf), ("parameter", .child .argument),
        ("qualifier", .child .qualifier),
        ("typeParameters", .typeArguments .typeArguments .null)] }
  | .typeOperator => some {
      pool := .typeOperator, type := .tsTypeOperator
      parts := [("operator", .spelling .operator), ("typeAnnotation", .child .typeNode)] }
  -- markup
  | .jsxElement => some {
      pool := .jsxElement, type := .jsxElement
      parts := [("openingElement", .child .openingElement),
        ("closingElement", .child .closingElement), ("children", .list .children)] }
  | .jsxFragment => some {
      pool := .jsxElement, type := .jsxFragment
      parts := [("openingFragment", .child .openingElement),
        ("closingFragment", .child .closingElement), ("children", .list .children)] }
  | .jsxClosingElement => some {
      pool := .jsxClosing, type := .jsxClosingElement
      parts := [("name", .tagName .tagName)] }
  | .jsxSpreadAttribute => some {
      pool := .jsxSpreadAttribute, type := .jsxSpreadAttribute
      parts := [("argument", .child .expression)] }
  | _ => none

end ScriptTree
