import Mathlib.Logic.Relation
import ScriptTree.Convert.Visit
import ScriptTree.Proofs.Arena.Descent

/-!
# Where a conversion goes

A conversion goes down from a node to some of its children, and a leaf that it comes by is
recorded. This file says which children these are, without a word about the conversion
itself: `ScriptTree.Arena.GoesTo` relates a node to the children that the conversion goes to, and
`ScriptTree.Arena.Finds` to the leaves that it finds on its way.

In most fields every node is converted. The fields in which it is otherwise are listed kind by kind
(`ScriptTree.SyntaxKind.exceptions`), and what is dropped depends in a few of them on the other
parts of the node (`ScriptTree.Slot.Leads`). A node may also be come by in other ways than by
the rule of its kind (`ScriptTree.Way`): the clauses in between, for instance, which have no form of
their own, hand their parts over to the node above.
-/

namespace ScriptTree

/-! ### Ways -/

/-- How a conversion comes by a node. -/
inductive Way
  /-- The node is converted by the rule of its kind. -/
  | rule
  /-- The rule of the node above takes over its parts. -/
  | parts
  /-- The node is the name of a tag. -/
  | tag
  /-- The node is a name in markup, and nothing else. -/
  | word
  deriving DecidableEq, Repr

/-- What becomes of the nodes in a field. -/
inductive Slot
  /-- They are dropped. -/
  | dropped
  /-- They are converted by the rules of their kinds. -/
  | rule
  /-- They are converted as type arguments. -/
  | argument
  /-- Their parts are taken over. -/
  | parts
  /-- They are names of tags. -/
  | tag
  /-- They are names in markup. -/
  | word
  /-- The first one is converted. -/
  | first
  /-- The parts of the first one are taken over. -/
  | firstParts
  /-- The parts of the last clause of either sort are taken over. -/
  | clause
  /-- The name for everything is converted, and the parts of a list of names are taken over. -/
  | bindings
  /-- The words that neither export nor become marks are converted. -/
  | modifier
  /-- They are converted, but not in an object literal. -/
  | member
  /-- They are converted if something comes of the name. -/
  | named
  /-- They are converted if something comes of the name, which does not stand for the rest. -/
  | fallback
  /-- They are converted in the pattern for an object. -/
  | outerName
  /-- They are converted unless the outer name stands for the rest. -/
  | innerName
  /-- They are converted in an element that does not stand for the rest, and in the pattern for an
  object if there is a name. -/
  | elementDefault
  deriving DecidableEq, Repr

/-! ### The fields of each kind -/

/-- What a variable or parameter may be called: a name, or a pattern of names. -/
def SyntaxKind.isBindingName : SyntaxKind → Bool
  | .identifier | .objectBindingPattern | .arrayBindingPattern => true
  | _ => false

/-- What becomes of a field where nothing else is said: modifiers are read, but not converted. -/
def Field.usual : Field → Slot
  | .modifiers => .dropped
  | .typeArguments => .argument
  | _ => .rule

/-- The fields of which a rule makes something else. -/
def SyntaxKind.exceptions : SyntaxKind → List (Field × Slot)
  | .sourceFile => [(.endOfFileToken, .dropped)]
  -- functions
  | .functionDeclaration | .functionExpression => [(.decorators, .dropped)]
  | .arrowFunction | .constructor => [(.decorators, .dropped), (.name, .dropped)]
  | .methodSignature => [(.decorators, .dropped), (.body, .dropped)]
  | .methodDeclaration | .getAccessor | .setAccessor => [(.decorators, .member)]
  | .parameter => [(.decorators, .named), (.declaredType, .named), (.initializer, .fallback)]
  -- classes and interfaces
  | .classDeclaration | .classExpression => [(.heritageClauses, .clause)]
  | .interfaceDeclaration => [(.heritageClauses, .firstParts)]
  -- variables and patterns
  | .variableStatement => [(.declarationList, .parts)]
  | .variableDeclaration => [(.declaredType, .named)]
  | .bindingElement =>
    [(.propertyName, .outerName), (.name, .innerName), (.initializer, .elementDefault)]
  -- statements
  | .whileStatement => [(.initializer, .dropped), (.incrementor, .dropped)]
  | .switchStatement => [(.caseBlock, .parts)]
  | .catchClause => [(.variableDeclaration, .parts)]
  -- modules
  | .importDeclaration => [(.importClause, .parts)]
  | .namespaceImport => [(.propertyName, .dropped)]
  | .exportDeclaration => [(.exportClause, .parts)]
  | .importEqualsDeclaration => [(.modifiers, .rule)]
  -- declarations and types
  | .enumDeclaration | .moduleDeclaration => [(.modifiers, .modifier)]
  | .typeParameter => [(.name, .dropped)]
  | .indexSignature => [(.parameters, .first)]
  -- templates and markup
  | .templateExpression => [(.templateSpans, .parts)]
  | .jsxOpeningElement | .jsxSelfClosingElement => [(.tagName, .tag), (.attributes, .parts)]
  | .jsxClosingElement => [(.tagName, .tag)]
  | .jsxAttribute => [(.name, .word)]
  | _ => []

/-- The fields of which something else is made where the node above takes over the parts: a catch
clause takes over no more than the name of its variable. -/
def Pool.exceptions : Pool → List (Field × Slot)
  | .heritageClause => [(.types, .parts)]
  | .importClause => [(.namedBindings, .bindings)]
  | .specifier => [(.propertyName, .dropped)]
  | .variableDeclaration => [(.declaredType, .dropped), (.initializer, .dropped)]
  | _ => []

/-- The pool that the rule of a kind takes the parts from, for kinds with a rule of their own. -/
def SyntaxKind.ownPool? : SyntaxKind → Option Pool
  | .sourceFile => some .sourceFile
  | .privateIdentifier => some .identifier
  | .stringLiteral | .noSubstitutionTemplateLiteral | .templateHead | .templateMiddle
  | .templateTail => some .literal
  | .computedPropertyName => some .computedProperty
  | .parenthesizedExpression => some .parenthesized
  | .templateExpression => some .templateExpr
  | .taggedTemplateExpression => some .taggedTemplate
  | .binaryExpression => some .binary
  | .prefixUnaryExpression | .postfixUnaryExpression => some .unary
  | .metaProperty => some .metaProperty
  | .arrayLiteralExpression | .objectLiteralExpression => some .literalExpr
  | .shorthandPropertyAssignment => some .shorthandProperty
  | .spreadElement | .spreadAssignment => some .keywordUnary
  | .bindingElement => some .bindingElement
  | .variableStatement => some .variableStatement
  | .variableDeclaration => some .variableDeclaration
  | .functionDeclaration | .methodDeclaration | .getAccessor | .setAccessor
  | .constructor => some .function
  | .parameter => some .parameter
  | .classDeclaration | .classExpression | .interfaceDeclaration => some .classLike
  | .propertyDeclaration => some .propertyDecl
  | .switchStatement => some .switch
  | .catchClause => some .catchClause
  | .importDeclaration => some .importDecl
  | .importSpecifier | .exportSpecifier => some .specifier
  | .exportDeclaration => some .exportDecl
  | .exportAssignment => some .exportAssignment
  | .typeAliasDeclaration => some .typeAlias
  | .typePredicate => some .typePredicate
  | .enumDeclaration => some .enumeration
  | .moduleDeclaration => some .moduleDecl
  | .jsxSelfClosingElement | .jsxOpeningElement => some .jsxOpening
  | .jsxAttribute => some .jsxAttribute
  | .jsxExpression => some .jsxExpression
  | _ => none

/-- The pool that the rule of a kind takes the parts from, if it needs them. -/
def SyntaxKind.pool? (k : SyntaxKind) : Option Pool :=
  if k.isElided ∨ k.bareType?.isSome then none
  else ((k.recipe?.map Recipe.pool).or k.ownPool?).or (k.tableEntry?.map TableEntry.pool)

/-- What becomes of a field of a node. -/
def Way.slot (kind : SyntaxKind) (p : Pool) (f : Field) : Way → Slot
  | .rule =>
    if kind.pool? = some p then (kind.exceptions.lookup f).getD f.usual else .dropped
  | .parts => (p.exceptions.lookup f).getD f.usual
  | .tag => if kind = .propertyAccessExpression then .tag else .dropped
  | .word => .dropped

/-! ### Nodes that nothing comes of -/

namespace Arena

/-- A node is in the pattern for an object. -/
def inObjectPattern (a : Arena) (i : NodeId) : Prop :=
  a.kind? (a.parent (some i)) = some .objectBindingPattern

/-- Nothing comes of a node: there is none, its kind has no form of its own, or it stands for
another node that nothing comes of. -/
inductive IsHole (a : Arena) : NodeRef → Prop
  | absent {r : NodeRef} (h : a.node? r = none) : IsHole a r
  | elided {i : NodeId} {n : Node} (hn : a.nodes[i]? = some n) (h : n.kind.isElided = true) :
      IsHole a (some i)
  | computed {i : NodeId} {n : Node} {d : Data .computedProperty} (hn : a.nodes[i]? = some n)
      (hk : n.kind = .computedPropertyName) (hd : a.data? .computedProperty n = some d)
      (h : IsHole a (d.get .expression)) : IsHole a (some i)
  | parenthesized {i : NodeId} {n : Node} {d : Data .parenthesized} (hn : a.nodes[i]? = some n)
      (hk : n.kind = .parenthesizedExpression) (hd : a.data? .parenthesized n = some d)
      (h : IsHole a (d.get .expression)) : IsHole a (some i)
  | parameter {i : NodeId} {n : Node} {d : Data .parameter} (hn : a.nodes[i]? = some n)
      (hk : n.kind = .parameter) (hd : a.data? .parameter n = some d)
      (h : IsHole a (d.get .name)) : IsHole a (some i)
  | element {i : NodeId} {n : Node} {d : Data .bindingElement} (hn : a.nodes[i]? = some n)
      (hk : n.kind = .bindingElement) (hd : a.data? .bindingElement n = some d)
      (hrest : d.get .dotDotDotToken = false) (hout : ¬ a.inObjectPattern i)
      (hdefault : a.node? (d.get .initializer) = none) (h : IsHole a (d.get .name)) :
      IsHole a (some i)

/-! ### Plain names -/

/-- A name is an identifier or a pattern, or there is none. -/
def IsPlainName (a : Arena) (r : NodeRef) : Prop :=
  ∀ kind ∈ a.kind? r, kind.isBindingName = true

/-- A variable or a parameter has a plain name. -/
structure HasPlainName (a : Arena) (n : Node) : Prop where
  variable_name : n.kind = .variableDeclaration → ∀ d, a.data? .variableDeclaration n = some d →
    a.IsPlainName (d.get .name)
  parameter_name : n.kind = .parameter → ∀ d, a.data? .parameter n = some d →
    a.IsPlainName (d.get .name)

instance (a : Arena) (r : NodeRef) : Decidable (a.IsPlainName r) :=
  inferInstanceAs (Decidable (∀ kind ∈ a.kind? r, kind.isBindingName = true))

instance (a : Arena) (n : Node) : Decidable (a.HasPlainName n) :=
  decidable_of_iff
    ((n.kind = .variableDeclaration →
        ∀ d ∈ a.data? .variableDeclaration n, a.IsPlainName (d.get .name)) ∧
      (n.kind = .parameter → ∀ d ∈ a.data? .parameter n, a.IsPlainName (d.get .name)))
    ⟨fun h => ⟨h.1, h.2⟩, fun h => ⟨h.variable_name, h.parameter_name⟩⟩

/-- All variables and parameters from a node on have plain names. -/
def HasPlainNames (a : Arena) (r : NodeRef) : Prop :=
  ∀ i n, a.Reaches r i → a.nodes[i]? = some n → a.HasPlainName n

/-- It is enough that all variables and parameters of the arena do. -/
theorem hasPlainNames_of_forall {a : Arena} (h : ∀ n ∈ a.nodes.toList, a.HasPlainName n)
    (r : NodeRef) : a.HasPlainNames r :=
  fun _ n _ hn => h n (Array.mem_toList_iff.mpr (Array.mem_of_getElem? hn))

/-! ### Steps -/

/-- How a type argument is come by: of a reference to a type the parts are taken over. -/
def argumentWay (a : Arena) (j : NodeId) : Way :=
  match a.nodes[j]? with
  | none => .rule
  | some n =>
    if n.kind.isTypeKeyword || n.kind == .importType then .rule
    else if (a.data? .typeRef n).isSome then .parts
    else .rule

/-- The last heritage clause with a word. -/
def lastClause? (a : Arena) (clauses : Option NodeList) (word : SyntaxKind) : Option NodeId :=
  (((clauses.map NodeList.nodes).getD []).filterMap id).findRev? fun j =>
    (a.dataAt? .heritageClause (some j)).any fun d => d.get .token == word

/-- A word of a declaration that exports it or becomes a mark. -/
def isMark (a : Arena) (j : NodeId) : Bool :=
  match a.kind? (some j) with
  | some .exportKeyword | some .defaultKeyword | some .constKeyword | some .declareKeyword => true
  | _ => false

end Arena

/-- A node in a field is come by in a way. -/
def Slot.Leads (a : Arena) (i : NodeId) {p : Pool} (d : Data p) (f : Field) (j : NodeId) :
    Slot → Way → Prop
  | .dropped, _ => False
  | .rule, w => w = .rule
  | .argument, w => w = a.argumentWay j
  | .parts, w => w = .parts
  | .tag, w => w = .tag
  | .word, w => w = .word
  | .first, w => w = .rule ∧ (d.listAt f).bind NodeList.first = some j
  | .firstParts, w => w = .parts ∧ (d.listAt f).bind NodeList.first = some j
  | .clause, w => w = .parts ∧
    (a.lastClause? (d.listAt f) .extendsKeyword = some j ∨
      a.lastClause? (d.listAt f) .implementsKeyword = some j)
  | .bindings, w => w = if a.kind? (some j) = some .namespaceImport then .rule else .parts
  | .modifier, w => w = .rule ∧ a.isMark j = false
  | .member, w => w = .rule ∧ a.kind? (a.parent (some i)) ≠ some .objectLiteralExpression
  | .named, w => w = .rule ∧ ¬ a.IsHole (d.nodeAt .name)
  | .fallback, w => w = .rule ∧ ¬ a.IsHole (d.nodeAt .name) ∧ d.flagAt .dotDotDotToken = false
  | .outerName, w => w = .rule ∧ a.inObjectPattern i
  | .innerName, w => w = .rule ∧
    ¬ (d.flagAt .dotDotDotToken = true ∧ a.inObjectPattern i ∧ (d.nodeAt .propertyName).isSome)
  | .elementDefault, w => w = .rule ∧ d.flagAt .dotDotDotToken = false ∧
    (a.inObjectPattern i → (a.node? (d.nodeAt .name)).isSome)

namespace Arena

/-- **The conversion goes from a node to one of its children**, and comes by both in some way. -/
def GoesTo (a : Arena) (x y : Way × NodeId) : Prop :=
  ∃ (n : Node) (p : Pool) (d : Data p) (f : Field), a.nodes[x.2]? = some n ∧
    a.data? p n = some d ∧ f ∈ p.childFields n.kind ∧ y.2 ∈ d.refs f ∧
    (x.1.slot n.kind p f).Leads a x.2 d f y.2 y.1

/-- A leaf: a token other than the end of the file. -/
def IsLeaf (a : Arena) (l : NodeId) : Prop :=
  ∃ n, a.nodes[l]? = some n ∧ n.kind.isToken = true ∧ n.kind ≠ .endOfFileToken

/-- On its way from a node the conversion comes by another one, and records it. -/
def Finds (a : Arena) (x : Way × NodeId) (l : NodeId) : Prop :=
  ∃ w, w ≠ .parts ∧ Relation.ReflTransGen a.GoesTo x (w, l)

end Arena

end ScriptTree
