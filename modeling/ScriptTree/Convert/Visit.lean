import ScriptTree.Convert.Class
import ScriptTree.Convert.Declaration
import ScriptTree.Convert.Exchange
import ScriptTree.Convert.Expression
import ScriptTree.Convert.Literal
import ScriptTree.Convert.Markup
import ScriptTree.Convert.Synthesis

/-!
# Converting a tree

Every kind has a rule: a recipe, a type that needs no more than the range of the node, a rule
of its own, or the table for kinds outside the vocabulary. `ScriptTree.Converter.visit`
chooses the rule, and `ScriptTree.Source.converter` ties the rules together.

A rule goes down only to nodes below its own. So a converter that may go down as often as the
arena has nodes gets to the end of every tree.
-/

namespace ScriptTree

/-- The type of the nodes that are nothing but their range, where the kind says it. -/
def SyntaxKind.bareType? : SyntaxKind → Option AstType
  | .thisKeyword => some .thisExpression
  | .superKeyword => some .super
  | .importKeyword => some .importExpression
  | .debuggerStatement => some .debuggerStatement
  | .emptyStatement => some .emptyStatement
  | .abstractKeyword => some .tsAbstractKeyword
  | .jsxOpeningFragment => some .jsxOpeningFragment
  | .jsxClosingFragment => some .jsxClosingFragment
  | _ => none

/-- A kind has no form of its own in the normalized tree: its nodes are holes, or other nodes
take over their parts. -/
def SyntaxKind.isElided : SyntaxKind → Bool
  | .omittedExpression | .semicolonClassElement | .heritageClause | .caseBlock | .endOfFileToken
  | .importClause | .namedImports | .namedExports | .namespaceExport | .jsxAttributes => true
  | _ => false

namespace Converter

variable (c : Converter)

/-! ### The rule of a kind -/

/-- Nodes that stand for the expression inside of them. -/
def passThrough (p : Pool) (i : NodeId) (n : Node) : Conversion (Option EsNode) := do
  let d ← c.parts p i n
  c.convert (d.nodeAt .expression)

/-- The file. It starts at its first token and ends where the text does; the file without
tokens starts at its end. -/
def program (i : NodeId) (n : Node) : Conversion EsNode := do
  let d ← c.parts .sourceFile i n
  let stop := ((c.node? (d.get .endOfFileToken)).map Node.stop).getD n.stop
  let token := (← c.tokens).atOrAfter n.pos
  let start := (token.map SourceToken.start).getD stop
  let body ← c.statements (d.get .statements)
  c.buildAt .program start stop
    [("body", body),
      ("sourceType", if d.get .externalModuleIndicator then "module" else "script")]

/-- The rule of a kind that is neither converted by rote nor outside the vocabulary. -/
def ownRule? (i : NodeId) (n : Node) : Option (Conversion (Option EsNode)) :=
  match n.kind with
  | .sourceFile => some (some <$> c.program i n)
  -- names and literals
  | .privateIdentifier => some (some <$> c.privateName i n)
  | .stringLiteral => some (some <$> c.stringLiteral i n)
  | .numericLiteral => some (some <$> c.numericLiteral n)
  | .bigIntLiteral => some (some <$> c.bigIntLiteral n)
  | .regularExpressionLiteral => some (some <$> c.regexLiteral n)
  | .noSubstitutionTemplateLiteral => some (some <$> c.plainTemplate i n)
  | .templateHead | .templateMiddle | .templateTail => some (some <$> c.templatePiece i n)
  | .trueKeyword | .falseKeyword => some (some <$> c.booleanLiteral n)
  | .nullKeyword => some (some <$> c.nullLiteral i n)
  | .jsxText | .jsxTextAllWhiteSpaces => some (some <$> c.markupText n)
  -- expressions
  | .computedPropertyName => some (c.passThrough .computedProperty i n)
  | .parenthesizedExpression => some (c.passThrough .parenthesized i n)
  | .templateExpression => some (some <$> c.template i n)
  | .taggedTemplateExpression => some (some <$> c.taggedTemplate i n)
  | .binaryExpression => some (some <$> c.binary i n)
  | .prefixUnaryExpression | .postfixUnaryExpression => some (some <$> c.unary i n)
  | .metaProperty => some (some <$> c.metaProperty i n)
  | .arrayLiteralExpression => some (some <$> c.arrayLiteral i n)
  | .objectLiteralExpression => some (some <$> c.objectLiteral i n)
  | .shorthandPropertyAssignment => some (some <$> c.shorthandProperty i n)
  | .spreadElement | .spreadAssignment => some (some <$> c.spread i n)
  -- variables, functions and classes
  | .bindingElement => some (c.bindingElement i n)
  | .variableStatement => some (some <$> c.variableStatement i n)
  | .variableDeclaration => some (some <$> c.declarator i n)
  | .functionDeclaration => some (some <$> c.functionDeclaration i n)
  | .parameter => some (c.parameter i n)
  | .classDeclaration | .classExpression => some (some <$> c.classLike i n)
  | .propertyDeclaration => some (some <$> c.classProperty i n)
  | .methodDeclaration | .getAccessor | .setAccessor => some (some <$> c.method i n)
  | .constructor => some (some <$> c.constructorMethod i n)
  -- clauses
  | .switchStatement => some (some <$> c.switch i n)
  | .catchClause => some (some <$> c.catchClause i n)
  -- imports and exports
  | .importDeclaration => some (some <$> c.importDeclaration i n)
  | .importSpecifier => some (some <$> c.importSpecifier i n)
  | .exportDeclaration => some (some <$> c.exportDeclaration i n)
  | .exportSpecifier => some (some <$> c.exportSpecifier i n)
  | .exportAssignment => some (some <$> c.exportAssignment i n)
  -- types and their declarations
  | .typeAliasDeclaration => some (some <$> c.typeAlias i n)
  | .typePredicate => some (some <$> c.typePredicate i n)
  | .interfaceDeclaration => some (some <$> c.interface i n)
  | .enumDeclaration => some (some <$> c.enumeration i n)
  | .moduleDeclaration => some (some <$> c.moduleDeclaration i n)
  -- markup
  | .jsxSelfClosingElement => some (some <$> c.selfClosingElement i n)
  | .jsxOpeningElement => some (some <$> c.openingTag i n false)
  | .jsxAttribute => some (some <$> c.markupAttribute i n)
  | .jsxExpression => some (some <$> c.markupExpression i n)
  | _ => none

/-- Converts a node by the rule of its kind. -/
def visit (i : NodeId) (n : Node) : Conversion (Option EsNode) :=
  if n.kind.isElided then pure none
  else
    match n.kind.bareType? with
    | some type => some <$> c.build type n []
    | none => match n.kind.recipe? with
      | some r => some <$> c.follow r i n
      | none => match c.ownRule? i n with
        | some rule => rule
        | none => some <$> c.synthesize i n

/-- Converts the node in a place, and records what it has become. -/
def visitAt (r : NodeRef) : Conversion (Option EsNode) :=
  match r with
  | none => pure none
  | some i => match c.node? (some i) with
    | none => pure none
    | some n => do
      let result ← c.visit i n
      if let some es := result then c.register (some i) es
      pure result

end Converter

/-! ### Tying the knot -/

namespace Source

/-- The converter that goes down `depth` times. -/
def converter (s : Source) : (depth : Nat) → Converter
  | 0 => {
    s with
    convert := fun _ => throw .endless
    typeArgument := fun _ => throw .endless
    tagName := fun _ => throw .endless }
  | depth + 1 =>
    let below := s.converter depth
    let here := { below with convert := below.visitAt }
    { here with
      typeArgument := here.typeArgumentOf
      tagName := below.tagNameOf }

/-- Converts the node in a place and all nodes below it. -/
def convert (s : Source) (r : NodeRef) : Conversion (Option EsNode) :=
  (s.converter (s.arena.nodes.size + 2)).convert r

end Source

end ScriptTree
