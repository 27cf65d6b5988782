import ScriptTree.Arena.Field

/-!
# The pools of an arena

The parts of nodes are stored in pools: one table for each shape that nodes may have.
Kinds of the same shape share a pool, so the pool alone says which fields a node has. The
layout of a pool is the list of these fields in the order in which they stand in the
source.
-/

namespace ScriptTree

/-- A table of an arena. -/
inductive Pool
  | identifier | literal | qualifiedName | computedProperty | binary | unary | keywordUnary | call
  | access | conditional | literalExpr | parenthesized | typeAssertion | templateExpr
  | templateSpan | taggedTemplate | metaProperty | function | classLike | heritageClause
  | exprWithTypeArgs | propertyDecl | parameter | typeParameter | decorator | block
  | variableStatement | variableList | variableDeclaration | ifStatement | loop | forInOf
  | exitStatement | exprStatement | jump | labeled | withStatement | switch | caseClause
  | tryStatement | catchClause | typeRef | compositeType | arrayType | wrappedType | typeOperator
  | indexedAccessType | conditionalType | inferType | mappedType | literalType | typeQuery
  | typeLiteral | typePredicate | importType | namedTupleMember | signatureType | indexSignature
  | propertySignature | importDecl | importClause | namedImports | specifier | exportDecl
  | exportAssignment | importEquals | externalModuleRef | namespaceExportDecl | enumeration
  | enumMember | moduleDecl | typeAlias | bindingPattern | bindingElement | propertyAssignment
  | shorthandProperty | jsxElement | jsxOpening | jsxClosing | jsxAttributes | jsxAttribute
  | jsxSpreadAttribute | jsxExpression | sourceFile
  deriving DecidableEq, Repr

namespace Pool

/-- Every pool, in the order in which documents list them. -/
def all : List Pool := [
  identifier, literal, qualifiedName, computedProperty, binary, unary, keywordUnary, call, access,
  conditional, literalExpr, parenthesized, typeAssertion, templateExpr, templateSpan,
  taggedTemplate, metaProperty, function, classLike, heritageClause, exprWithTypeArgs,
  propertyDecl, parameter, typeParameter, decorator, block, variableStatement, variableList,
  variableDeclaration, ifStatement, loop, forInOf, exitStatement, exprStatement, jump, labeled,
  withStatement, switch, caseClause, tryStatement, catchClause, typeRef, compositeType, arrayType,
  wrappedType, typeOperator, indexedAccessType, conditionalType, inferType, mappedType,
  literalType, typeQuery, typeLiteral, typePredicate, importType, namedTupleMember, signatureType,
  indexSignature, propertySignature, importDecl, importClause, namedImports, specifier,
  exportDecl, exportAssignment, importEquals, externalModuleRef, namespaceExportDecl, enumeration,
  enumMember, moduleDecl, typeAlias, bindingPattern, bindingElement, propertyAssignment,
  shorthandProperty, jsxElement, jsxOpening, jsxClosing, jsxAttributes, jsxAttribute,
  jsxSpreadAttribute, jsxExpression, sourceFile]

/-- The fields of the nodes in a pool. -/
@[reducible] def layout : Pool → List Field
  | .identifier => [.escapedText]
  | .literal => [.text, .isUnterminated]
  | .qualifiedName => [.left, .right]
  | .computedProperty => [.expression]
  | .binary => [.left, .operatorToken, .right]
  | .unary => [.operator, .operand]
  | .keywordUnary => [.expression, .asteriskToken]
  | .call => [.expression, .questionDotToken, .typeArguments, .arguments]
  | .access => [.expression, .questionDotToken, .nameOrArgument]
  | .conditional => [.condition, .whenTrue, .whenFalse]
  | .literalExpr => [.elements, .multiLine]
  | .parenthesized => [.expression]
  | .typeAssertion => [.expression, .typeNode]
  | .templateExpr => [.head, .templateSpans]
  | .templateSpan => [.expression, .literal]
  | .taggedTemplate => [.tag, .typeArguments, .template]
  | .metaProperty => [.keywordToken, .name]
  | .function => [
      .decorators, .modifiers, .asteriskToken, .name, .questionToken, .typeParameters,
      .parameters, .declaredType, .body]
  | .classLike => [.decorators, .modifiers, .name, .typeParameters, .heritageClauses, .members]
  | .heritageClause => [.token, .types]
  | .exprWithTypeArgs => [.expression, .typeArguments]
  | .propertyDecl => [
      .decorators, .modifiers, .name, .questionToken, .exclamationToken, .declaredType,
      .initializer]
  | .parameter => [
      .decorators, .modifiers, .dotDotDotToken, .name, .questionToken, .declaredType, .initializer]
  | .typeParameter => [.modifiers, .name, .constraint, .defaultType]
  | .decorator => [.expression]
  | .block => [.statements, .multiLine]
  | .variableStatement => [.modifiers, .declarationList]
  | .variableList => [.declarations]
  | .variableDeclaration => [.name, .exclamationToken, .declaredType, .initializer]
  | .ifStatement => [.expression, .thenStatement, .elseStatement]
  | .loop => [.initializer, .condition, .incrementor, .statement]
  | .forInOf => [.awaitModifier, .initializer, .expression, .statement]
  | .exitStatement => [.expression]
  | .exprStatement => [.expression]
  | .jump => [.label]
  | .labeled => [.label, .statement]
  | .withStatement => [.expression, .statement]
  | .switch => [.expression, .caseBlock]
  | .caseClause => [.expression, .statements]
  | .tryStatement => [.tryBlock, .catchClause, .finallyBlock]
  | .catchClause => [.variableDeclaration, .block]
  | .typeRef => [.typeName, .typeArguments]
  | .compositeType => [.types]
  | .arrayType => [.elementType]
  | .wrappedType => [.typeNode]
  | .typeOperator => [.operator, .typeNode]
  | .indexedAccessType => [.objectType, .indexType]
  | .conditionalType => [.checkType, .extendsType, .trueType, .falseType]
  | .inferType => [.typeParameter]
  | .mappedType => [.readonlyToken, .typeParameter, .nameType, .questionMark, .typeNode]
  | .literalType => [.literal]
  | .typeQuery => [.exprName, .typeArguments]
  | .typeLiteral => [.members]
  | .typePredicate => [.assertsModifier, .parameterName, .typeNode]
  | .importType => [.isTypeOf, .argument, .qualifier, .typeArguments]
  | .namedTupleMember => [.dotDotDotToken, .name, .questionToken, .typeNode]
  | .signatureType => [.modifiers, .typeParameters, .parameters, .declaredType]
  | .indexSignature => [.modifiers, .parameters, .declaredType]
  | .propertySignature => [.modifiers, .name, .questionToken, .declaredType, .initializer]
  | .importDecl => [.modifiers, .importClause, .moduleSpecifier]
  | .importClause => [.isTypeOnly, .name, .namedBindings]
  | .namedImports => [.elements]
  | .specifier => [.isTypeOnly, .propertyName, .name]
  | .exportDecl => [.modifiers, .isTypeOnly, .exportClause, .moduleSpecifier]
  | .exportAssignment => [.modifiers, .isExportEquals, .expression]
  | .importEquals => [.decorators, .modifiers, .isTypeOnly, .name, .moduleReference]
  | .externalModuleRef => [.expression]
  | .namespaceExportDecl => [.name]
  | .enumeration => [.modifiers, .name, .members]
  | .enumMember => [.name, .initializer]
  | .moduleDecl => [.modifiers, .name, .body]
  | .typeAlias => [.modifiers, .name, .typeParameters, .typeNode]
  | .bindingPattern => [.elements]
  | .bindingElement => [.dotDotDotToken, .propertyName, .name, .initializer]
  | .propertyAssignment => [.name, .questionToken, .initializer]
  | .shorthandProperty => [.name, .objectAssignmentInitializer]
  | .jsxElement => [.openingElement, .children, .closingElement]
  | .jsxOpening => [.tagName, .typeArguments, .attributes]
  | .jsxClosing => [.tagName]
  | .jsxAttributes => [.properties]
  | .jsxAttribute => [.name, .initializer]
  | .jsxSpreadAttribute => [.expression]
  | .jsxExpression => [.dotDotDotToken, .expression]
  | .sourceFile => [
      .statements, .endOfFileToken, .fileName, .text, .languageVersion, .externalModuleIndicator,
      .parseDiagnostics]

/-- The name by which a node refers to a pool in documents. -/
def name : Pool → String
  | .identifier => "Identifier"
  | .literal => "Literal"
  | .qualifiedName => "QualifiedName"
  | .computedProperty => "ComputedProperty"
  | .binary => "Binary"
  | .unary => "Unary"
  | .keywordUnary => "UnaryEx"
  | .call => "Call"
  | .access => "Access"
  | .conditional => "Conditional"
  | .literalExpr => "LiteralExpr"
  | .parenthesized => "Parenthesized"
  | .typeAssertion => "TypeAssertion"
  | .templateExpr => "TemplateExpr"
  | .templateSpan => "TemplateSpan"
  | .taggedTemplate => "TaggedTemplate"
  | .metaProperty => "MetaProperty"
  | .function => "Function"
  | .classLike => "Class"
  | .heritageClause => "HeritageClause"
  | .exprWithTypeArgs => "ExprWithTypeArgs"
  | .propertyDecl => "PropertyDecl"
  | .parameter => "Parameter"
  | .typeParameter => "TypeParameter"
  | .decorator => "Decorator"
  | .block => "Block"
  | .variableStatement => "VariableStatement"
  | .variableList => "VariableList"
  | .variableDeclaration => "VariableDeclaration"
  | .ifStatement => "If"
  | .loop => "Loop"
  | .forInOf => "ForInOf"
  | .exitStatement => "Return"
  | .exprStatement => "ExprStatement"
  | .jump => "Jump"
  | .labeled => "Labeled"
  | .withStatement => "With"
  | .switch => "Switch"
  | .caseClause => "CaseClause"
  | .tryStatement => "Try"
  | .catchClause => "CatchClause"
  | .typeRef => "TypeRef"
  | .compositeType => "CompositeType"
  | .arrayType => "ArrayType"
  | .wrappedType => "WrappedType"
  | .typeOperator => "TypeOperator"
  | .indexedAccessType => "IndexedAccessType"
  | .conditionalType => "ConditionalType"
  | .inferType => "InferType"
  | .mappedType => "MappedType"
  | .literalType => "LiteralType"
  | .typeQuery => "TypeQuery"
  | .typeLiteral => "TypeLiteral"
  | .typePredicate => "TypePredicate"
  | .importType => "ImportType"
  | .namedTupleMember => "NamedTupleMember"
  | .signatureType => "SignatureType"
  | .indexSignature => "IndexSignature"
  | .propertySignature => "PropertySignature"
  | .importDecl => "ImportDecl"
  | .importClause => "ImportClause"
  | .namedImports => "NamedImports"
  | .specifier => "Specifier"
  | .exportDecl => "ExportDecl"
  | .exportAssignment => "ExportAssignment"
  | .importEquals => "ImportEquals"
  | .externalModuleRef => "ExternalModuleRef"
  | .namespaceExportDecl => "NamespaceExportDecl"
  | .enumeration => "Enum"
  | .enumMember => "EnumMember"
  | .moduleDecl => "Module"
  | .typeAlias => "TypeAlias"
  | .bindingPattern => "BindingPattern"
  | .bindingElement => "BindingElement"
  | .propertyAssignment => "PropertyAssignment"
  | .shorthandProperty => "ShorthandProperty"
  | .jsxElement => "JsxElement"
  | .jsxOpening => "JsxOpening"
  | .jsxClosing => "JsxClosing"
  | .jsxAttributes => "JsxAttributes"
  | .jsxAttribute => "JsxAttribute"
  | .jsxSpreadAttribute => "JsxSpreadAttribute"
  | .jsxExpression => "JsxExpression"
  | .sourceFile => "SourceFile"

/-- The name of the table of a pool in documents. -/
def table : Pool → String
  | .identifier => "identifiers"
  | .literal => "literals"
  | .qualifiedName => "qualified_names"
  | .computedProperty => "computed_properties"
  | .binary => "binary_exprs"
  | .unary => "unary_exprs"
  | .keywordUnary => "unary_exprs_ex"
  | .call => "call_exprs"
  | .access => "access_exprs"
  | .conditional => "conditional_exprs"
  | .literalExpr => "literal_exprs"
  | .parenthesized => "parenthesized"
  | .typeAssertion => "type_assertions"
  | .templateExpr => "template_exprs"
  | .templateSpan => "template_spans"
  | .taggedTemplate => "tagged_templates"
  | .metaProperty => "meta_properties"
  | .function => "functions"
  | .classLike => "classes"
  | .heritageClause => "heritage_clauses"
  | .exprWithTypeArgs => "expr_with_type_args"
  | .propertyDecl => "property_decls"
  | .parameter => "parameters"
  | .typeParameter => "type_parameters"
  | .decorator => "decorators"
  | .block => "blocks"
  | .variableStatement => "variable_statements"
  | .variableList => "variable_lists"
  | .variableDeclaration => "variable_declarations"
  | .ifStatement => "if_statements"
  | .loop => "loops"
  | .forInOf => "for_in_of"
  | .exitStatement => "return_data"
  | .exprStatement => "expr_statements"
  | .jump => "jump_data"
  | .labeled => "labeled_data"
  | .withStatement => "with_data"
  | .switch => "switch_data"
  | .caseClause => "case_clauses"
  | .tryStatement => "try_data"
  | .catchClause => "catch_clauses"
  | .typeRef => "type_refs"
  | .compositeType => "composite_types"
  | .arrayType => "array_types"
  | .wrappedType => "wrapped_types"
  | .typeOperator => "type_operators"
  | .indexedAccessType => "indexed_access_types"
  | .conditionalType => "conditional_types"
  | .inferType => "infer_types"
  | .mappedType => "mapped_types"
  | .literalType => "literal_types"
  | .typeQuery => "type_queries"
  | .typeLiteral => "type_literals"
  | .typePredicate => "type_predicates"
  | .importType => "import_types"
  | .namedTupleMember => "named_tuple_members"
  | .signatureType => "signature_types"
  | .indexSignature => "index_signatures"
  | .propertySignature => "property_signatures"
  | .importDecl => "import_decls"
  | .importClause => "import_clauses"
  | .namedImports => "named_imports"
  | .specifier => "specifiers"
  | .exportDecl => "export_decls"
  | .exportAssignment => "export_assignments"
  | .importEquals => "import_equals"
  | .externalModuleRef => "external_module_refs"
  | .namespaceExportDecl => "namespace_export_decls"
  | .enumeration => "enums"
  | .enumMember => "enum_members"
  | .moduleDecl => "modules"
  | .typeAlias => "type_aliases"
  | .bindingPattern => "binding_patterns"
  | .bindingElement => "binding_elements"
  | .propertyAssignment => "property_assignments"
  | .shorthandProperty => "shorthand_properties"
  | .jsxElement => "jsx_elements"
  | .jsxOpening => "jsx_openings"
  | .jsxClosing => "jsx_closings"
  | .jsxAttributes => "jsx_attribute_lists"
  | .jsxAttribute => "jsx_attributes"
  | .jsxSpreadAttribute => "jsx_spread_attributes"
  | .jsxExpression => "jsx_expressions"
  | .sourceFile => "source_files"

/-- The pool that a document names. -/
def ofName? (s : String) : Option Pool :=
  all.find? (·.name == s)

/-- The fields with children, in the order of the children in the source. Two pools are shared by
kinds that write the same parts in different orders: an assertion may stand before its
expression, and a loop may have its condition at the end. -/
def childFields (kind : SyntaxKind) (p : Pool) : List Field :=
  if p = typeAssertion ∧ kind = .typeAssertionExpression then [.typeNode, .expression]
  else if p = loop ∧ kind = .doStatement then [.statement, .condition]
  else p.layout

end Pool

end ScriptTree
