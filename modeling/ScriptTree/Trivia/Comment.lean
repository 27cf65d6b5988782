import ScriptTree.Ast.Node
import ScriptTree.Trivia.Walk

/-!
# Comments

A comment of the normalized tree has the text between its marks, and its place. An
unterminated block comment has all of the text behind its opening mark.
-/

namespace ScriptTree

/-- A comment as the normalized tree has it. -/
structure Comment where
  kind : CommentKind
  value : Text
  start : Nat
  stop : Nat
  loc : SourceLocation
  deriving Repr, DecidableEq

namespace CommentKind

/-- The name of a kind of comments. -/
def name : CommentKind → String
  | block => "Block"
  | line => "Line"

/-- The kind of comments that a name denotes. -/
def ofName? (s : String) : Option CommentKind :=
  [block, line].find? (·.name == s)

end CommentKind

namespace Comment

/-- The text of a comment without its marks. -/
def valueOf (kind : CommentKind) (text : Text) (start stop : Nat) : Text :=
  let raw := text.slice start stop
  match kind with
  | .line => Text.dropStart ['/', '/'] raw
  | .block => Text.dropEnd ['*', '/'] (Text.dropStart ['/', '*'] raw)

/-- The comment in a range of a text. -/
def ofRange (kind : CommentKind) (map : LineMap) (start stop : Nat) : Comment where
  kind := kind
  value := valueOf kind map.text start stop
  start := start
  stop := stop
  loc := map.location start stop

/-- The comments of a file. -/
def ofTrivia (trivia : Trivia) (map : LineMap) : List Comment :=
  trivia.comments.map fun c => ofRange c.kind map c.start c.stop

/-- Writes a comment. -/
def toJson (c : Comment) : Json :=
  .obj [("type", .str c.kind.name), ("value", .text c.value), ("range", Json.range c.start c.stop),
    ("loc", c.loc.toJson)]

end Comment

end ScriptTree
