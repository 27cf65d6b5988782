import ScriptTree.Arena.NodeList
import ScriptTree.Kind.Basic
import ScriptTree.Target

/-!
# The fields of nodes

The parts of a node are kept under named fields. What a field holds is its sort: another
node, a list of nodes, a mark that says whether a token is written, the kind of an
operator, or a text. Nodes of different kinds share fields, and a field has one sort and
one name in documents wherever it occurs.
-/

namespace ScriptTree

/-- How severe a message of the front end is. -/
inductive DiagnosticCategory
  | warning | error | suggestion | message
  deriving DecidableEq, Repr

/-- A message of the front end about a source file. -/
structure Diagnostic where
  category : DiagnosticCategory
  code : Nat
  file : String
  start : Nat
  length : Nat
  messageText : String
  deriving DecidableEq, Repr

/-- What a field of a node holds. -/
inductive FieldSort
  /-- A node, which may be absent. -/
  | node
  /-- A list of nodes. -/
  | list
  /-- A list of nodes, which may be absent as a whole. -/
  | optList
  /-- Whether something is there. -/
  | flag
  /-- The kind of a token. -/
  | kind
  /-- A text. -/
  | text
  /-- A version of the language. -/
  | target
  /-- The messages of the front end. -/
  | diagnostics
  deriving DecidableEq, Repr

/-- The values of a sort. -/
@[reducible] def FieldSort.Value : FieldSort → Type
  | .node => NodeRef
  | .list => NodeList
  | .optList => Option NodeList
  | .flag => Bool
  | .kind => SyntaxKind
  | .text => String
  | .target => ScriptTarget
  | .diagnostics => List Diagnostic

/-- What a field of a sort holds when nothing is said about it. -/
def FieldSort.blank : (s : FieldSort) → s.Value
  | .node => none
  | .list => NodeList.blank
  | .optList => none
  | .flag => false
  | .kind => .unknown
  | .text => ""
  | .target => .latest
  | .diagnostics => []

/-- A field of a node. -/
inductive Field
  | left | right | expression | operand | nameOrArgument | condition | whenTrue | whenFalse
  | typeNode | head | literal | tag | template | name | declaredType | body | initializer
  | constraint | defaultType | declarationList | thenStatement | elseStatement | incrementor
  | statement | label | caseBlock | tryBlock | catchClause | finallyBlock | variableDeclaration
  | block | typeName | elementType | objectType | indexType | checkType | extendsType | trueType
  | falseType | typeParameter | readonlyToken | nameType | questionMark | exprName | parameterName
  | argument | qualifier | importClause | moduleSpecifier | namedBindings | propertyName
  | exportClause | moduleReference | objectAssignmentInitializer | openingElement | closingElement
  | tagName | attributes | endOfFileToken | elements | templateSpans | parameters | members
  | types | statements | declarations | children | properties | typeArguments | arguments
  | decorators | modifiers | typeParameters | heritageClauses | isUnterminated | asteriskToken
  | questionDotToken | multiLine | questionToken | exclamationToken | dotDotDotToken
  | awaitModifier | assertsModifier | isTypeOf | isTypeOnly | isExportEquals
  | externalModuleIndicator | operatorToken | operator | keywordToken | token | escapedText | text
  | fileName | languageVersion | parseDiagnostics
  deriving DecidableEq, Repr

namespace Field

/-- What a field holds. -/
@[reducible] def sort : Field → FieldSort
  | .elements | .templateSpans | .parameters | .members | .types | .statements | .declarations
  | .children | .properties => .list
  | .typeArguments | .arguments | .decorators | .modifiers | .typeParameters
  | .heritageClauses => .optList
  | .isUnterminated | .asteriskToken | .questionDotToken | .multiLine | .questionToken
  | .exclamationToken | .dotDotDotToken | .awaitModifier | .assertsModifier | .isTypeOf
  | .isTypeOnly | .isExportEquals | .externalModuleIndicator => .flag
  | .operatorToken | .operator | .keywordToken | .token => .kind
  | .escapedText | .text | .fileName => .text
  | .languageVersion => .target
  | .parseDiagnostics => .diagnostics
  | _ => .node

/-- The values of a field. -/
abbrev Value (f : Field) : Type := f.sort.Value

/-- The name of a field in documents. -/
def key : Field → String
  | .left => "left"
  | .right => "right"
  | .expression => "expression"
  | .operand => "operand"
  | .nameOrArgument => "name_or_argument"
  | .condition => "condition"
  | .whenTrue => "when_true"
  | .whenFalse => "when_false"
  | .typeNode => "type_node"
  | .head => "head"
  | .literal => "literal"
  | .tag => "tag"
  | .template => "template"
  | .name => "name"
  | .declaredType => "type_annotation"
  | .body => "body"
  | .initializer => "initializer"
  | .constraint => "constraint"
  | .defaultType => "default"
  | .declarationList => "declaration_list"
  | .thenStatement => "then_statement"
  | .elseStatement => "else_statement"
  | .incrementor => "incrementor"
  | .statement => "statement"
  | .label => "label"
  | .caseBlock => "case_block"
  | .tryBlock => "try_block"
  | .catchClause => "catch_clause"
  | .finallyBlock => "finally_block"
  | .variableDeclaration => "variable_declaration"
  | .block => "block"
  | .typeName => "type_name"
  | .elementType => "element_type"
  | .objectType => "object_type"
  | .indexType => "index_type"
  | .checkType => "check_type"
  | .extendsType => "extends_type"
  | .trueType => "true_type"
  | .falseType => "false_type"
  | .typeParameter => "type_parameter"
  | .readonlyToken => "readonly_token"
  | .nameType => "name_type"
  | .questionMark => "question_token"
  | .exprName => "expr_name"
  | .parameterName => "parameter_name"
  | .argument => "argument"
  | .qualifier => "qualifier"
  | .importClause => "import_clause"
  | .moduleSpecifier => "module_specifier"
  | .namedBindings => "named_bindings"
  | .propertyName => "property_name"
  | .exportClause => "export_clause"
  | .moduleReference => "module_reference"
  | .objectAssignmentInitializer => "object_assignment_initializer"
  | .openingElement => "opening_element"
  | .closingElement => "closing_element"
  | .tagName => "tag_name"
  | .attributes => "attributes"
  | .endOfFileToken => "end_of_file_token"
  | .elements => "elements"
  | .templateSpans => "template_spans"
  | .parameters => "parameters"
  | .members => "members"
  | .types => "types"
  | .statements => "statements"
  | .declarations => "declarations"
  | .children => "children"
  | .properties => "properties"
  | .typeArguments => "type_arguments"
  | .arguments => "arguments"
  | .decorators => "decorators"
  | .modifiers => "modifiers"
  | .typeParameters => "type_parameters"
  | .heritageClauses => "heritage_clauses"
  | .isUnterminated => "is_unterminated"
  | .asteriskToken => "asterisk_token"
  | .questionDotToken => "question_dot_token"
  | .multiLine => "multi_line"
  | .questionToken => "question_token"
  | .exclamationToken => "exclamation_token"
  | .dotDotDotToken => "dot_dot_dot_token"
  | .awaitModifier => "await_modifier"
  | .assertsModifier => "asserts_modifier"
  | .isTypeOf => "is_type_of"
  | .isTypeOnly => "is_type_only"
  | .isExportEquals => "is_export_equals"
  | .externalModuleIndicator => "external_module_indicator"
  | .operatorToken => "operator_token"
  | .operator => "operator"
  | .keywordToken => "keyword_token"
  | .token => "token"
  | .escapedText => "escaped_text"
  | .text => "text"
  | .fileName => "file_name"
  | .languageVersion => "language_version"
  | .parseDiagnostics => "parse_diagnostics"

end Field

end ScriptTree
