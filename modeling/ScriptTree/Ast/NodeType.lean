/-!
# Types of normalized nodes

The normalized tree has a vocabulary of its own, that of ESTree with the extensions for
types. A node may also have a type outside the vocabulary: one that is made up from the
name of a kind for which ESTree has no word.
-/

namespace ScriptTree

/-- A type of the vocabulary of normalized trees. -/
inductive AstType
  | arrayExpression | arrayPattern | arrowFunctionExpression | assignmentExpression
  | assignmentPattern | awaitExpression | bigIntLiteral | binaryExpression | blockStatement
  | breakStatement | callExpression | catchClause | classBody | classDeclaration | classExpression
  | classImplements | classProperty | conditionalExpression | continueStatement
  | debuggerStatement | declareFunction | decorator | doWhileStatement | emptyStatement
  | exportAllDeclaration | exportDefaultDeclaration | exportNamedDeclaration | exportSpecifier
  | expressionStatement | forInStatement | forOfStatement | forStatement | functionDeclaration
  | functionExpression | identifier | ifStatement | importExpression | importDeclaration
  | importDefaultSpecifier | importNamespaceSpecifier | importSpecifier | jsxAttribute
  | jsxClosingElement | jsxClosingFragment | jsxElement | jsxEmptyExpression
  | jsxExpressionContainer | jsxFragment | jsxIdentifier | jsxMemberExpression | jsxOpeningElement
  | jsxOpeningFragment | jsxSpreadAttribute | jsxSpreadChild | jsxText | labeledStatement
  | literal | logicalExpression | memberExpression | metaProperty | methodDefinition
  | newExpression | objectExpression | objectPattern | privateIdentifier | program | property
  | restElement | returnStatement | sequenceExpression | spreadElement | super | switchCase
  | switchStatement | taggedTemplateExpression | templateElement | templateLiteral
  | thisExpression | throwStatement | tryStatement | unaryExpression | updateExpression
  | variableDeclaration | variableDeclarator | whileStatement | withStatement | yieldExpression
  | tsAbstractClassDeclaration | tsAbstractClassProperty | tsAbstractKeyword
  | tsAbstractMethodDefinition | tsAnyKeyword | tsArrayType | tsAsExpression | tsAsyncKeyword
  | tsBigIntKeyword | tsBooleanKeyword | tsCallSignature | tsConditionalType | tsConstructorType
  | tsConstructSignature | tsDeclareFunction | tsDeclareKeyword | tsEnumDeclaration | tsEnumMember
  | tsExportAssignment | tsExportKeyword | tsExternalModuleReference | tsFunctionType
  | tsImportEqualsDeclaration | tsImportType | tsIndexedAccessType | tsIndexSignature
  | tsInferType | tsInterfaceBody | tsInterfaceDeclaration | tsInterfaceHeritage
  | tsIntersectionType | tsLiteralType | tsMappedType | tsMethodSignature | tsMinusToken
  | tsModuleBlock | tsModuleDeclaration | tsNamespaceExportDeclaration | tsNeverKeyword
  | tsNonNullExpression | tsNullKeyword | tsNumberKeyword | tsObjectKeyword | tsOptionalType
  | tsParameterProperty | tsParenthesizedType | tsPlusToken | tsPrivateKeyword
  | tsPropertySignature | tsProtectedKeyword | tsPublicKeyword | tsQualifiedName | tsQuestionToken
  | tsReadonlyKeyword | tsRestType | tsStaticKeyword | tsStringKeyword | tsSymbolKeyword
  | tsThisType | tsTupleType | tsTypeAscription | tsTypeAssertion | tsTypeLiteral | tsTypeOperator
  | tsTypeParameter | tsTypeParameterDeclaration | tsTypeParameterInstantiation | tsTypePredicate
  | tsTypeQuery | tsTypeReference | tsUndefinedKeyword | tsUnionType | tsUnknownKeyword
  | tsVoidKeyword
  deriving DecidableEq, Repr

namespace AstType

/-- The vocabulary, in its order. -/
def all : List AstType := [
  arrayExpression, arrayPattern, arrowFunctionExpression, assignmentExpression, assignmentPattern,
  awaitExpression, bigIntLiteral, binaryExpression, blockStatement, breakStatement,
  callExpression, catchClause, classBody, classDeclaration, classExpression, classImplements,
  classProperty, conditionalExpression, continueStatement, debuggerStatement, declareFunction,
  decorator, doWhileStatement, emptyStatement, exportAllDeclaration, exportDefaultDeclaration,
  exportNamedDeclaration, exportSpecifier, expressionStatement, forInStatement, forOfStatement,
  forStatement, functionDeclaration, functionExpression, identifier, ifStatement,
  importExpression, importDeclaration, importDefaultSpecifier, importNamespaceSpecifier,
  importSpecifier, jsxAttribute, jsxClosingElement, jsxClosingFragment, jsxElement,
  jsxEmptyExpression, jsxExpressionContainer, jsxFragment, jsxIdentifier, jsxMemberExpression,
  jsxOpeningElement, jsxOpeningFragment, jsxSpreadAttribute, jsxSpreadChild, jsxText,
  labeledStatement, literal, logicalExpression, memberExpression, metaProperty, methodDefinition,
  newExpression, objectExpression, objectPattern, privateIdentifier, program, property,
  restElement, returnStatement, sequenceExpression, spreadElement, super, switchCase,
  switchStatement, taggedTemplateExpression, templateElement, templateLiteral, thisExpression,
  throwStatement, tryStatement, unaryExpression, updateExpression, variableDeclaration,
  variableDeclarator, whileStatement, withStatement, yieldExpression, tsAbstractClassDeclaration,
  tsAbstractClassProperty, tsAbstractKeyword, tsAbstractMethodDefinition, tsAnyKeyword,
  tsArrayType, tsAsExpression, tsAsyncKeyword, tsBigIntKeyword, tsBooleanKeyword, tsCallSignature,
  tsConditionalType, tsConstructorType, tsConstructSignature, tsDeclareFunction, tsDeclareKeyword,
  tsEnumDeclaration, tsEnumMember, tsExportAssignment, tsExportKeyword, tsExternalModuleReference,
  tsFunctionType, tsImportEqualsDeclaration, tsImportType, tsIndexedAccessType, tsIndexSignature,
  tsInferType, tsInterfaceBody, tsInterfaceDeclaration, tsInterfaceHeritage, tsIntersectionType,
  tsLiteralType, tsMappedType, tsMethodSignature, tsMinusToken, tsModuleBlock,
  tsModuleDeclaration, tsNamespaceExportDeclaration, tsNeverKeyword, tsNonNullExpression,
  tsNullKeyword, tsNumberKeyword, tsObjectKeyword, tsOptionalType, tsParameterProperty,
  tsParenthesizedType, tsPlusToken, tsPrivateKeyword, tsPropertySignature, tsProtectedKeyword,
  tsPublicKeyword, tsQualifiedName, tsQuestionToken, tsReadonlyKeyword, tsRestType,
  tsStaticKeyword, tsStringKeyword, tsSymbolKeyword, tsThisType, tsTupleType, tsTypeAscription,
  tsTypeAssertion, tsTypeLiteral, tsTypeOperator, tsTypeParameter, tsTypeParameterDeclaration,
  tsTypeParameterInstantiation, tsTypePredicate, tsTypeQuery, tsTypeReference, tsUndefinedKeyword,
  tsUnionType, tsUnknownKeyword, tsVoidKeyword]

/-- The name of a type. -/
def name : AstType → String
  | arrayExpression => "ArrayExpression"
  | arrayPattern => "ArrayPattern"
  | arrowFunctionExpression => "ArrowFunctionExpression"
  | assignmentExpression => "AssignmentExpression"
  | assignmentPattern => "AssignmentPattern"
  | awaitExpression => "AwaitExpression"
  | bigIntLiteral => "BigIntLiteral"
  | binaryExpression => "BinaryExpression"
  | blockStatement => "BlockStatement"
  | breakStatement => "BreakStatement"
  | callExpression => "CallExpression"
  | catchClause => "CatchClause"
  | classBody => "ClassBody"
  | classDeclaration => "ClassDeclaration"
  | classExpression => "ClassExpression"
  | classImplements => "ClassImplements"
  | classProperty => "ClassProperty"
  | conditionalExpression => "ConditionalExpression"
  | continueStatement => "ContinueStatement"
  | debuggerStatement => "DebuggerStatement"
  | declareFunction => "DeclareFunction"
  | decorator => "Decorator"
  | doWhileStatement => "DoWhileStatement"
  | emptyStatement => "EmptyStatement"
  | exportAllDeclaration => "ExportAllDeclaration"
  | exportDefaultDeclaration => "ExportDefaultDeclaration"
  | exportNamedDeclaration => "ExportNamedDeclaration"
  | exportSpecifier => "ExportSpecifier"
  | expressionStatement => "ExpressionStatement"
  | forInStatement => "ForInStatement"
  | forOfStatement => "ForOfStatement"
  | forStatement => "ForStatement"
  | functionDeclaration => "FunctionDeclaration"
  | functionExpression => "FunctionExpression"
  | identifier => "Identifier"
  | ifStatement => "IfStatement"
  | importExpression => "Import"
  | importDeclaration => "ImportDeclaration"
  | importDefaultSpecifier => "ImportDefaultSpecifier"
  | importNamespaceSpecifier => "ImportNamespaceSpecifier"
  | importSpecifier => "ImportSpecifier"
  | jsxAttribute => "JSXAttribute"
  | jsxClosingElement => "JSXClosingElement"
  | jsxClosingFragment => "JSXClosingFragment"
  | jsxElement => "JSXElement"
  | jsxEmptyExpression => "JSXEmptyExpression"
  | jsxExpressionContainer => "JSXExpressionContainer"
  | jsxFragment => "JSXFragment"
  | jsxIdentifier => "JSXIdentifier"
  | jsxMemberExpression => "JSXMemberExpression"
  | jsxOpeningElement => "JSXOpeningElement"
  | jsxOpeningFragment => "JSXOpeningFragment"
  | jsxSpreadAttribute => "JSXSpreadAttribute"
  | jsxSpreadChild => "JSXSpreadChild"
  | jsxText => "JSXText"
  | labeledStatement => "LabeledStatement"
  | literal => "Literal"
  | logicalExpression => "LogicalExpression"
  | memberExpression => "MemberExpression"
  | metaProperty => "MetaProperty"
  | methodDefinition => "MethodDefinition"
  | newExpression => "NewExpression"
  | objectExpression => "ObjectExpression"
  | objectPattern => "ObjectPattern"
  | privateIdentifier => "PrivateIdentifier"
  | program => "Program"
  | property => "Property"
  | restElement => "RestElement"
  | returnStatement => "ReturnStatement"
  | sequenceExpression => "SequenceExpression"
  | spreadElement => "SpreadElement"
  | super => "Super"
  | switchCase => "SwitchCase"
  | switchStatement => "SwitchStatement"
  | taggedTemplateExpression => "TaggedTemplateExpression"
  | templateElement => "TemplateElement"
  | templateLiteral => "TemplateLiteral"
  | thisExpression => "ThisExpression"
  | throwStatement => "ThrowStatement"
  | tryStatement => "TryStatement"
  | unaryExpression => "UnaryExpression"
  | updateExpression => "UpdateExpression"
  | variableDeclaration => "VariableDeclaration"
  | variableDeclarator => "VariableDeclarator"
  | whileStatement => "WhileStatement"
  | withStatement => "WithStatement"
  | yieldExpression => "YieldExpression"
  | tsAbstractClassDeclaration => "TSAbstractClassDeclaration"
  | tsAbstractClassProperty => "TSAbstractClassProperty"
  | tsAbstractKeyword => "TSAbstractKeyword"
  | tsAbstractMethodDefinition => "TSAbstractMethodDefinition"
  | tsAnyKeyword => "TSAnyKeyword"
  | tsArrayType => "TSArrayType"
  | tsAsExpression => "TSAsExpression"
  | tsAsyncKeyword => "TSAsyncKeyword"
  | tsBigIntKeyword => "TSBigIntKeyword"
  | tsBooleanKeyword => "TSBooleanKeyword"
  | tsCallSignature => "TSCallSignature"
  | tsConditionalType => "TSConditionalType"
  | tsConstructorType => "TSConstructorType"
  | tsConstructSignature => "TSConstructSignature"
  | tsDeclareFunction => "TSDeclareFunction"
  | tsDeclareKeyword => "TSDeclareKeyword"
  | tsEnumDeclaration => "TSEnumDeclaration"
  | tsEnumMember => "TSEnumMember"
  | tsExportAssignment => "TSExportAssignment"
  | tsExportKeyword => "TSExportKeyword"
  | tsExternalModuleReference => "TSExternalModuleReference"
  | tsFunctionType => "TSFunctionType"
  | tsImportEqualsDeclaration => "TSImportEqualsDeclaration"
  | tsImportType => "TSImportType"
  | tsIndexedAccessType => "TSIndexedAccessType"
  | tsIndexSignature => "TSIndexSignature"
  | tsInferType => "TSInferType"
  | tsInterfaceBody => "TSInterfaceBody"
  | tsInterfaceDeclaration => "TSInterfaceDeclaration"
  | tsInterfaceHeritage => "TSInterfaceHeritage"
  | tsIntersectionType => "TSIntersectionType"
  | tsLiteralType => "TSLiteralType"
  | tsMappedType => "TSMappedType"
  | tsMethodSignature => "TSMethodSignature"
  | tsMinusToken => "TSMinusToken"
  | tsModuleBlock => "TSModuleBlock"
  | tsModuleDeclaration => "TSModuleDeclaration"
  | tsNamespaceExportDeclaration => "TSNamespaceExportDeclaration"
  | tsNeverKeyword => "TSNeverKeyword"
  | tsNonNullExpression => "TSNonNullExpression"
  | tsNullKeyword => "TSNullKeyword"
  | tsNumberKeyword => "TSNumberKeyword"
  | tsObjectKeyword => "TSObjectKeyword"
  | tsOptionalType => "TSOptionalType"
  | tsParameterProperty => "TSParameterProperty"
  | tsParenthesizedType => "TSParenthesizedType"
  | tsPlusToken => "TSPlusToken"
  | tsPrivateKeyword => "TSPrivateKeyword"
  | tsPropertySignature => "TSPropertySignature"
  | tsProtectedKeyword => "TSProtectedKeyword"
  | tsPublicKeyword => "TSPublicKeyword"
  | tsQualifiedName => "TSQualifiedName"
  | tsQuestionToken => "TSQuestionToken"
  | tsReadonlyKeyword => "TSReadonlyKeyword"
  | tsRestType => "TSRestType"
  | tsStaticKeyword => "TSStaticKeyword"
  | tsStringKeyword => "TSStringKeyword"
  | tsSymbolKeyword => "TSSymbolKeyword"
  | tsThisType => "TSThisType"
  | tsTupleType => "TSTupleType"
  | tsTypeAscription => "TSTypeAnnotation"
  | tsTypeAssertion => "TSTypeAssertion"
  | tsTypeLiteral => "TSTypeLiteral"
  | tsTypeOperator => "TSTypeOperator"
  | tsTypeParameter => "TSTypeParameter"
  | tsTypeParameterDeclaration => "TSTypeParameterDeclaration"
  | tsTypeParameterInstantiation => "TSTypeParameterInstantiation"
  | tsTypePredicate => "TSTypePredicate"
  | tsTypeQuery => "TSTypeQuery"
  | tsTypeReference => "TSTypeReference"
  | tsUndefinedKeyword => "TSUndefinedKeyword"
  | tsUnionType => "TSUnionType"
  | tsUnknownKeyword => "TSUnknownKeyword"
  | tsVoidKeyword => "TSVoidKeyword"

/-- The place of a type in the vocabulary, from zero. -/
def ordinal (t : AstType) : Nat :=
  t.ctorIdx

/-- The type that a name denotes. -/
def ofName? (s : String) : Option AstType :=
  all.find? (·.name == s)

end AstType

/-- The type of a normalized node. -/
inductive EsType
  /-- A type of the vocabulary. -/
  | known (t : AstType)
  /-- A name outside the vocabulary. -/
  | synthesized (name : String)
  deriving DecidableEq, Repr

namespace EsType

/-- The name of a type. -/
def name : EsType → String
  | known t => t.name
  | synthesized s => s

/-- The type that a name denotes: of the vocabulary where it has the name. -/
def ofName (s : String) : EsType :=
  match AstType.ofName? s with
  | some t => known t
  | none => synthesized s

/-- The type of the vocabulary that a type is. -/
def known? : EsType → Option AstType
  | known t => some t
  | synthesized _ => none

end EsType

instance : Coe AstType EsType := ⟨EsType.known⟩

end ScriptTree
