import ScriptTree.Arena.Navigate
import ScriptTree.Scan.Scanner

/-!
# The tokens and comments of a file

The concrete tree holds neither comments nor punctuation, so both are recovered from the
text. The scanner alone cannot do it: whether a closing brace continues a template, a
slash starts a regular expression, or two greater signs are one operator is known to the
tree only. The walk therefore asks, wherever a token is ambiguous, for the deepest node that
covers it, and reads the token again as that node requires. Text between tags is not
scanned at all; its spans are taken from the tree.

A walk that comes to the end of the text yields `ScriptTree.Trivia`. It need not come to an
end, since a node may claim a span that the text does not have, and may lie below itself;
`ScriptTree.Trivia.ofText?` then yields `none`.
-/

namespace ScriptTree

/-- The two kinds of comments. -/
inductive CommentKind
  | block | line
  deriving DecidableEq, Repr

/-- A token of the source with its span. -/
structure SourceToken where
  kind : SyntaxKind
  start : Nat
  stop : Nat
  deriving DecidableEq, Repr

/-- A comment of the source with its span, marks included. -/
structure SourceComment where
  kind : CommentKind
  start : Nat
  stop : Nat
  deriving DecidableEq, Repr

/-- The tokens and the comments of a file, both in the order of the source. -/
structure Trivia where
  tokens : List SourceToken := []
  comments : List SourceComment := []
  deriving DecidableEq, Repr

namespace Trivia

/-- What one step of a walk finds. -/
inductive Item
  | token (t : SourceToken)
  | comment (c : SourceComment)
  /-- Blanks and line breaks, which are not kept. -/
  | nothing
  deriving DecidableEq, Repr

/-- Puts what a step has found before what follows. -/
def cons (item : Item) (t : Trivia) : Trivia :=
  match item with
  | .token x => { t with tokens := x :: t.tokens }
  | .comment x => { t with comments := x :: t.comments }
  | .nothing => t

/-! ### What the tree says -/

/-- The spans of the texts between tags that are not empty, in order. -/
def markupSpans (a : Arena) : List (Nat × Nat) :=
  let texts := a.nodes.toList.filter fun n => n.kind == .jsxText && n.pos < n.stop
  (texts.map fun n => (n.pos, n.stop)).mergeSort fun x y =>
    x.1 < y.1 || (x.1 == y.1 && x.2 ≤ y.2)

/-- The end of the text between tags that an offset lies in. Of the spans that start at or before
the offset only the last one counts. -/
def markupEnd? (spans : List (Nat × Nat)) (pos : Nat) : Option Nat :=
  ((spans.takeWhile fun s => s.1 ≤ pos).getLast?.filter fun s => pos < s.2).map (·.2)

/-- The operators that start with a greater sign and go on. -/
def isCompoundGreater (k : SyntaxKind) : Bool :=
  [SyntaxKind.greaterThanEqualsToken, .greaterThanGreaterThanToken,
    .greaterThanGreaterThanGreaterThanToken, .greaterThanGreaterThanEqualsToken,
    .greaterThanGreaterThanGreaterThanEqualsToken].contains k

/-- A greater sign at an offset belongs to the compound operator of a binary expression: it lies
between the operands. -/
def isOperatorStart (a : Arena) (n : Node) (pos : Nat) : Bool :=
  match a.data? .binary n with
  | none => false
  | some d => isCompoundGreater (d.get .operatorToken) &&
    match a.node? (d.get .left), a.node? (d.get .right) with
    | some left, some right => left.stop ≤ pos && pos < right.pos
    | _, _ => false

/-- The character at an offset. -/
def charAt? (text : Text) (pos : Nat) : Option Char :=
  (text.dropBytes? pos).bind List.head?

/-- A token that may mean something else, depending on the tree. -/
def isAmbiguous (text : Text) (t : SourceToken) : Bool :=
  [SyntaxKind.closeBraceToken, .slashToken, .slashEqualsToken, .greaterThanToken,
      .lessThanToken].contains t.kind ||
    ((t.kind == .identifier || t.kind.isAnyKeyword) && charAt? text t.stop == some '-')

/-- Reads the current token again as the node that covers it requires. The scanner returned stands
behind the token, whose kind and end are given; none when the token is what it seems. -/
def reread? (a : Arena) (n : Node) (s : Scanner) (t : SourceToken) :
    Option (SyntaxKind × Nat × Scanner) :=
  let starts := n.pos == t.start
  if t.kind = .closeBraceToken ∧ starts ∧ (n.kind = .templateMiddle ∨ n.kind = .templateTail) then
    let s := s.rescanTemplate
    some (s.kind, s.pos, s)
  else if (t.kind = .slashToken ∨ t.kind = .slashEqualsToken) ∧ starts ∧
      n.kind = .regularExpressionLiteral then
    let s := s.rescanSlash
    some (s.kind, s.pos, s)
  else if t.kind = .greaterThanToken ∧ isOperatorStart a n t.start then
    let s := s.rescanGreater
    some (s.kind, s.pos, s)
  else if t.kind = .lessThanToken ∧ starts ∧
      (n.kind = .jsxClosingElement ∨ n.kind = .jsxClosingFragment) ∧
      charAt? s.text t.stop = some '/' then
    some (.lessThanSlashToken, t.stop + 1, s.moveTo (t.stop + 1))
  else if starts ∧ n.kind = .identifier ∧ t.stop < n.stop then
    some (.identifier, n.stop, s.moveTo n.stop)
  else none

/-- The token that a node, if there is one, makes of an ambiguous token, and the scanner behind
it. -/
def readAs (a : Arena) (covering : Option Node) (s : Scanner) (t : SourceToken) :
    SourceToken × Scanner :=
  match covering with
  | none => (t, s)
  | some n => match reread? a n s t with
    | none => (t, s)
    | some (kind, stop, s) => (⟨kind, t.start, stop⟩, s)

/-- The token that the tree makes of an ambiguous one, if the search for the node has an end. -/
def resolve (a : Arena) (root : NodeRef) (s : Scanner) (t : SourceToken) :
    Option (SourceToken × Scanner) :=
  (a.nodeContaining root t.start t.stop).map fun r => readAs a (a.node? r) s t

/-! ### The walk -/

/-- Why a walk takes no further step. -/
inductive Stop
  /-- The text is at its end. -/
  | atEnd
  /-- The search for a node has no end. -/
  | endless
  deriving DecidableEq, Repr

/-- One step of a walk: what it finds, and the scanner behind it. -/
def step (a : Arena) (root : NodeRef) (spans : List (Nat × Nat)) (s : Scanner) :
    Except Stop (Item × Scanner) :=
  match markupEnd? spans s.pos with
  | some stop => .ok (.token ⟨.jsxText, s.pos, stop⟩, s.moveTo stop)
  | none =>
    let s := s.scan
    let t : SourceToken := ⟨s.kind, s.start, s.pos⟩
    if t.kind = .endOfFileToken then .error .atEnd
    else if t.kind = .singleLineCommentTrivia then
      .ok (.comment ⟨.line, t.start, t.stop⟩, s)
    else if t.kind = .multiLineCommentTrivia then
      .ok (.comment ⟨.block, t.start, t.stop⟩, s)
    else if t.kind.isTrivia then .ok (.nothing, s)
    else if isAmbiguous s.text t then
      match resolve a root s t with
      | none => .error .endless
      | some (t, s) => .ok (.token t, s)
    else .ok (.token t, s)

/-- The steps from a scanner on, if there are fewer of them than the fuel. -/
def walkFrom? (a : Arena) (root : NodeRef) (spans : List (Nat × Nat)) :
    (fuel : Nat) → Scanner → Option Trivia
  | 0, _ => none
  | fuel + 1, s =>
    match step a root spans s with
    | .error .atEnd => some {}
    | .error .endless => none
    | .ok (item, s) => (walkFrom? a root spans fuel s).map (cons item)

/-- The tokens and comments of a text, read along a tree. -/
def ofText? (a : Arena) (root : NodeRef) (text : Text) (target : ScriptTarget) : Option Trivia :=
  walkFrom? a root (markupSpans a) (text.byteLength + 2) (Scanner.ofText text false target)

end Trivia

end ScriptTree
