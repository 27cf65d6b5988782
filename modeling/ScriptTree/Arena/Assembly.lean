import ScriptTree.Arena.Document
import ScriptTree.Arena.Navigate
import ScriptTree.Kind.Spelling
import ScriptTree.Text.Letter

/-!
# Putting a tree together along a text

An assembly builds the arena of a text from the leaves up. It keeps a cursor in the text:
each leaf is looked for from the cursor on, and a node that is built without an end of its
own ends at the cursor. So the leaves have to come in the order of the source, and a node
right after its last token.

A leaf that looks like a word is found only where the word stands by itself, not as a part of
another one. The cursor never moves to the left.
-/

namespace ScriptTree

/-! ### Looking for a leaf -/

namespace Text

/-- A character that words are made of. -/
def isWordPart (c : Char) : Bool := isAlphanumeric c || c == '_' || c == '$'

/-- A text of which every character belongs to words. -/
def isWordLike (text : Text) : Bool := text.all isWordPart

/-- Between two characters that may be absent a word starts or ends. -/
def breaksWord (c : Option Char) : Bool := !c.any isWordPart

/-- A leaf stands at the start of a text, given the character before it. -/
def isLeafAt (leaf : Text) (before : Option Char) (rest : Text) : Bool :=
  leaf.isPrefixOf rest &&
    (!isWordLike leaf || (breaksWord before && breaksWord (rest.drop leaf.length).head?))

/-- Where a leaf stands next: how many bytes lie before it. Where it is written but does not stand by
itself the search goes on behind all of it; `skip` characters still belong to such a place. The empty
leaf is looked for byte by byte, so that it is not found behind a longer character. -/
def leafOffset? (leaf : Text) (skip : Nat) (before : Option Char) (rest : Text) : Option Nat :=
  if skip = 0 ∧ isLeafAt leaf before rest = true then some 0
  else
    match rest with
    | [] => none
    | c :: cs =>
      if leaf.isEmpty ∧ c.utf8Size ≠ 1 then none
      else
        let skip := if skip = 0 ∧ leaf.isPrefixOf (c :: cs) then leaf.length - 1 else skip - 1
        (leafOffset? leaf skip (some c) cs).map (c.utf8Size + ·)

/-- The text that an escaped text stands for. Only the shortest escapes have a meaning; any other
escaped character stands for itself. -/
def unescape : Text → Text
  | [] => []
  | ['\\'] => ['\\']
  | '\\' :: c :: cs =>
    let c := match c with
      | 'n' => '\n'
      | 't' => '\t'
      | 'r' => '\r'
      | '0' => '\x00'
      | c => c
    c :: unescape cs
  | c :: cs => c :: unescape cs

/-- The text with each line break of two characters made one. -/
def joinLineBreaks : Text → Text
  | '\r' :: '\n' :: cs => '\n' :: joinLineBreaks cs
  | c :: cs => c :: joinLineBreaks cs
  | [] => []

end Text

/-! ### Assemblies -/

/-- A tree that is being put together. -/
structure Assembly where
  text : Text
  arena : Arena := Arena.empty
  /-- The end of what has been consumed of the text. -/
  cursor : Nat := 0
  fileName : String := "input.ts"
  target : ScriptTarget := .latest
  diagnostics : List Diagnostic := []

namespace Assembly

variable (a : Assembly)

/-- Where a node starts; the cursor for an absent one. -/
def startOf (r : NodeRef) : Nat := ((a.arena.node? r).map Node.pos).getD a.cursor

/-- Where a node ends; the cursor for an absent one. -/
def stopOf (r : NodeRef) : Nat := ((a.arena.node? r).map Node.stop).getD a.cursor

/-- What has been consumed of the text. -/
def consumed : Text := (a.text.takeBytes? a.cursor).getD []

/-- What is left of the text. -/
def rest : Text := (a.text.dropBytes? a.cursor).getD []

/-- Consumes the text up to the next place where a leaf stands and the leaf; none if it stands
nowhere. The number is where the leaf starts. -/
def take? (leaf : Text) : Option (Nat × Assembly) := do
  let offset ← Text.leafOffset? leaf 0 a.consumed.getLast? a.rest
  let start := a.cursor + offset
  pure (start, { a with cursor := start + leaf.byteLength })

/-- Consumes a semicolon if nothing but blanks stand before it. -/
def semicolon : Assembly :=
  let blanks := a.rest.takeWhile Text.isWhiteSpace
  if (a.rest.drop blanks.length).head? = some ';' then
    { a with cursor := a.cursor + Text.byteLength blanks + 1 }
  else a

/-! ### Leaves -/

/-- Adds a node with its parts. -/
def addAt (kind : SyntaxKind) (pos stop : Nat) (p : Pool) (data : Data p) : NodeId × Assembly :=
  let (i, arena) := a.arena.add kind pos stop p data
  (i, { a with arena := arena })

/-- Adds a node that ends at the cursor. -/
def add (kind : SyntaxKind) (pos : Nat) (p : Pool) (data : Data p) : NodeId × Assembly :=
  a.addAt kind pos a.cursor p data

/-- Adds a node without parts that ends at the cursor. -/
def addBare (kind : SyntaxKind) (pos : Nat) : NodeId × Assembly :=
  let (i, arena) := a.arena.addToken kind pos a.cursor
  (i, { a with arena := arena })

/-- A token whose kind says how it is spelled. -/
def token? (kind : SyntaxKind) : Option (NodeId × Assembly) := do
  let spelling ← kind.spelling?
  let (pos, a) ← a.take? spelling.toList
  pure (a.addBare kind pos)

/-- A name. -/
def name? (kind : SyntaxKind) (name : String) : Option (NodeId × Assembly) := do
  let (pos, a) ← a.take? name.toList
  pure (a.add kind pos .identifier ⟨name, ()⟩)

/-- A literal with a value of its own. -/
def literalOf? (kind : SyntaxKind) (raw value : Text) : Option (NodeId × Assembly) := do
  let (pos, a) ← a.take? raw
  pure (a.add kind pos .literal ⟨String.ofList value, false, ()⟩)

/-- A literal that is written as its value. -/
def literal? (kind : SyntaxKind) (raw : Text) : Option (NodeId × Assembly) :=
  a.literalOf? kind raw raw

/-- A text in quotes. -/
def string? (raw : Text) : Option (NodeId × Assembly) :=
  a.literalOf? .stringLiteral raw (Text.unescape (raw.slice 1 (raw.byteLength - 1)))

/-- A piece of a template with its marks. -/
def templatePiece? (kind : SyntaxKind) (raw : Text) : Option (NodeId × Assembly) :=
  let close := if kind = .templateHead ∨ kind = .templateMiddle then 2 else 1
  let inner := raw.slice 1 (raw.byteLength - close)
  a.literalOf? kind raw (Text.unescape (Text.joinLineBreaks inner))

/-! ### Nodes above the leaves -/

/-- A list that reaches from its first node to its last. -/
def list (nodes : List NodeRef) : NodeList :=
  ⟨nodes, (nodes.head?.map a.startOf).getD a.cursor, (nodes.getLast?.map a.stopOf).getD a.cursor,
    false⟩

/-- An expression with two operands. -/
def binary (left : NodeRef) (operator : SyntaxKind) (right : NodeRef) : NodeId × Assembly :=
  a.addAt .binaryExpression (a.startOf left) (a.stopOf right) .binary
    ⟨left, operator, right, ()⟩

/-- The access to a member by its name. -/
def propertyAccess (object name : NodeRef) : NodeId × Assembly :=
  a.addAt .propertyAccessExpression (a.startOf object) (a.stopOf name) .access
    ⟨object, false, name, ()⟩

/-- An expression as a statement, with or without a semicolon. -/
def expressionStatement (expression : NodeRef) : NodeId × Assembly :=
  a.semicolon.add .expressionStatement (a.startOf expression) .exprStatement ⟨expression, ()⟩

/-- A call, up to its closing parenthesis. -/
def call? (callee : NodeRef) (arguments : List NodeRef) : Option (NodeId × Assembly) := do
  let (_, b) ← a.take? [')']
  pure (b.add .callExpression (a.startOf callee) .call
    ⟨callee, false, none, some (b.list arguments), ()⟩)

/-- A block, up to its closing brace. -/
def block? (pos : Nat) (statements : List NodeRef) : Option (NodeId × Assembly) := do
  let (_, a) ← a.take? ['\x7d']
  pure (a.add .block pos .block ⟨a.list statements, false, ()⟩)

/-- A variable. -/
def declaration (name type init : NodeRef) : NodeId × Assembly :=
  a.add .variableDeclaration (a.startOf name) .variableDeclaration ⟨name, false, type, init, ()⟩

/-- A statement that declares variables, with or without a semicolon. -/
def variableStatement (pos flags : Nat) (declarations : List NodeRef) : NodeId × Assembly :=
  let (i, a) := a.add .variableDeclarationList pos .variableList ⟨a.list declarations, ()⟩
  let a := { a with arena := a.arena.setFlags (some i) flags }
  a.semicolon.add .variableStatement pos .variableStatement ⟨none, some i, ()⟩

end Assembly

/-! ### The file -/

namespace Arena

/-- A statement makes its file a module: it imports or exports something. -/
def makesModule (a : Arena) (statement : NodeRef) : Bool :=
  match a.kind? statement with
  | none => false
  | some .importDeclaration | some .exportDeclaration | some .exportAssignment => true
  | some .importEqualsDeclaration =>
    (a.dataAt? .importEquals statement).any fun d =>
      a.kind? (d.get .moduleReference) == some .externalModuleReference
  | some _ => a.hasModifier (a.modifiersOf statement) .exportKeyword

end Arena

namespace Assembly

/-- The document of the text, with the given statements. -/
def finish (a : Assembly) (statements : List NodeRef) : Document :=
  let size := a.text.byteLength
  let (stop, arena) := a.arena.addToken .endOfFileToken size size
  let isModule := statements.any arena.makesModule
  let (root, arena) := arena.add .sourceFile 0 size .sourceFile
    ⟨⟨statements, 0, size, false⟩, some stop, a.fileName, String.ofList a.text, a.target, isModule,
      a.diagnostics, ()⟩
  ⟨arena, some root⟩

end Assembly

end ScriptTree
