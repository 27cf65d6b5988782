import ScriptTree.Convert.Recipe

/-!
# Nodes outside the vocabulary

A kind for which the normalized tree has no form of its own gets a type that is made up of its
name. A table says which of its parts become fields; a kind that is not in the table has no
fields. Some of the types that arise are in the vocabulary all the same, and the
options may ask for an error where one is not.

Other than with a recipe the node is numbered before its parts.
-/

namespace ScriptTree

/-- What becomes of a part of a node outside the vocabulary. -/
inductive FieldRole
  /-- A child, if there is one. -/
  | child
  /-- The children of a list, if there is one. -/
  | children
  /-- Whether something is there. -/
  | scalar
  /-- The ascription around a type. -/
  | typeSlot
  /-- A list of type arguments. -/
  | typeArgs
  /-- A list of type parameters. -/
  | typeParams
  /-- The decorators, if there are any. -/
  | decorators
  deriving DecidableEq, Repr

namespace FieldRole

/-- The name of a role. -/
def name : FieldRole → String
  | child => "Child"
  | children => "Children"
  | scalar => "Scalar"
  | typeSlot => "TypeSlot"
  | typeArgs => "TypeArgs"
  | typeParams => "TypeParams"
  | decorators => "Decorators"

end FieldRole

/-- A part of a node outside the vocabulary, and what becomes of it. -/
structure TableField where
  name : String
  role : FieldRole
  source : Field
  deriving DecidableEq, Repr

/-- The field of the normalized node. Types and the lists that belong to them have names of their
own there. -/
def TableField.part (f : TableField) : String × Part :=
  match f.role with
  | .child => (f.name, .child f.source .omitted)
  | .children => (f.name, .listIfAny f.source)
  | .scalar => (f.name, .flag f.source)
  | .typeSlot => ("typeAnnotation", .ascription f.source)
  | .typeArgs => ("typeParameters", .typeArguments f.source)
  | .typeParams => ("typeParameters", .typeParameters f.source)
  | .decorators => ("decorators", .decorators f.source)

/-- What the table says about a kind. -/
structure TableEntry where
  /-- The pool that the parts are in. -/
  pool : Pool
  fields : List TableField
  /-- The type, where it is not the one that the name of the kind makes. -/
  typeName : Option String := none
  deriving DecidableEq, Repr

namespace TableEntry

/-- A type around another type. -/
def wrappedType : TableEntry := ⟨.wrappedType, [⟨"type", .typeSlot, .typeNode⟩], none⟩

/-- A signature. -/
def signature : TableEntry where
  pool := .signatureType
  fields := [⟨"typeParameters", .typeParams, .typeParameters⟩,
    ⟨"parameters", .children, .parameters⟩, ⟨"type", .typeSlot, .declaredType⟩]

/-- A type that is claimed for an expression. -/
def typeAssertion : TableEntry where
  pool := .typeAssertion
  fields := [⟨"expression", .child, .expression⟩, ⟨"type", .typeSlot, .typeNode⟩]

/-- Several types. -/
def compositeType (name : String) : TableEntry :=
  ⟨.compositeType, [⟨name, .children, .types⟩], none⟩

end TableEntry

/-- The table. -/
def SyntaxKind.tableEntry? : SyntaxKind → Option TableEntry
  | .typeReference => some {
      pool := .typeRef
      fields := [⟨"typeName", .child, .typeName⟩, ⟨"typeArguments", .typeArgs, .typeArguments⟩] }
  | .unionType => some (.compositeType "types")
  | .intersectionType => some (.compositeType "types")
  | .tupleType => some (.compositeType "elementTypes")
  | .arrayType => some {
      pool := .arrayType
      fields := [⟨"elementType", .child, .elementType⟩] }
  | .optionalType => some .wrappedType
  | .restType => some .wrappedType
  | .parenthesizedType => some .wrappedType
  | .indexedAccessType => some {
      pool := .indexedAccessType
      fields := [⟨"objectType", .child, .objectType⟩, ⟨"indexType", .child, .indexType⟩] }
  | .conditionalType => some {
      pool := .conditionalType
      fields := [⟨"checkType", .child, .checkType⟩, ⟨"extendsType", .child, .extendsType⟩,
        ⟨"trueType", .child, .trueType⟩, ⟨"falseType", .child, .falseType⟩] }
  | .inferType => some {
      pool := .inferType
      fields := [⟨"typeParameter", .child, .typeParameter⟩] }
  | .mappedType => some {
      pool := .mappedType
      fields := [⟨"readonlyToken", .child, .readonlyToken⟩,
        ⟨"typeParameter", .child, .typeParameter⟩, ⟨"nameType", .child, .nameType⟩,
        ⟨"questionToken", .child, .questionMark⟩, ⟨"type", .typeSlot, .typeNode⟩] }
  | .literalType => some {
      pool := .literalType
      fields := [⟨"literal", .child, .literal⟩] }
  | .typeQuery => some {
      pool := .typeQuery
      fields := [⟨"exprName", .child, .exprName⟩, ⟨"typeArguments", .typeArgs, .typeArguments⟩] }
  | .typeLiteral => some {
      pool := .typeLiteral
      fields := [⟨"members", .children, .members⟩] }
  | .functionType => some .signature
  | .constructorType => some .signature
  | .callSignature => some .signature
  | .asExpression => some .typeAssertion
  | .satisfiesExpression => some .typeAssertion
  | .typeAssertionExpression =>
    some { TableEntry.typeAssertion with typeName := some "TSTypeAssertion" }
  | .nonNullExpression => some {
      pool := .keywordUnary
      fields := [⟨"expression", .child, .expression⟩] }
  | .expressionWithTypeArguments => some {
      pool := .exprWithTypeArgs
      fields := [⟨"expression", .child, .expression⟩,
        ⟨"typeArguments", .typeArgs, .typeArguments⟩] }
  | .importEqualsDeclaration => some {
      pool := .importEquals
      fields := [⟨"decorators", .decorators, .decorators⟩, ⟨"modifiers", .children, .modifiers⟩,
        ⟨"isTypeOnly", .scalar, .isTypeOnly⟩, ⟨"name", .child, .name⟩,
        ⟨"moduleReference", .child, .moduleReference⟩] }
  | .externalModuleReference => some {
      pool := .externalModuleRef
      fields := [⟨"expression", .child, .expression⟩] }
  | .namespaceExportDeclaration => some {
      pool := .namespaceExportDecl
      fields := [⟨"name", .child, .name⟩] }
  | .namedTupleMember => some {
      pool := .namedTupleMember
      fields := [⟨"dotDotDotToken", .scalar, .dotDotDotToken⟩, ⟨"name", .child, .name⟩,
        ⟨"questionToken", .scalar, .questionToken⟩, ⟨"type", .typeSlot, .typeNode⟩] }
  | .templateLiteralType => some {
      pool := .templateExpr
      fields := [⟨"head", .child, .head⟩, ⟨"templateSpans", .children, .templateSpans⟩] }
  | .templateLiteralTypeSpan => some {
      pool := .templateSpan
      fields := [⟨"type", .typeSlot, .expression⟩, ⟨"literal", .child, .literal⟩] }
  | _ => none

/-- The name of the type that a kind makes. -/
def SyntaxKind.syntheticName (k : SyntaxKind) : String :=
  (k.tableEntry?.bind TableEntry.typeName).getD ("TS" ++ k.name)

namespace Converter

variable (c : Converter)

/-- Converts a node to one whose type is made up. -/
def synthesize (i : NodeId) (n : Node) : Conversion EsNode := do
  let name := n.kind.syntheticName
  let type := EsType.ofName name
  if c.options.failOnUnknownNodeKind ∧ type.known?.isNone then
    .fail (.unknownNodeType name)
  else
    let draft ← Conversion.startOver type n
    match n.kind.tableEntry? with
    | none => pure (c.finish draft)
    | some entry => do
      let d ← c.parts entry.pool i n
      let fields ← c.gather n d (entry.fields.map TableField.part)
      pure (c.finish (draft.fill fields))

end Converter

end ScriptTree
