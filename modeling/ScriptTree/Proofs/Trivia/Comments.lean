import ScriptTree.Proofs.Scan.Comments
import ScriptTree.Proofs.Trivia.Regexes
import ScriptTree.Trivia.Comment

/-!
# Comments and their source

The scanner says where a comment ends, and its value is cut out of its span afterwards, by taking the
marks away. The two are made to fit: with its marks put back a value is the text of its span
(`ScriptTree.Comment.IsLine`, `ScriptTree.Comment.IsBlock`).

They would not fit if a mark were taken away that is none. The value of a comment up to the end of
its line loses its first two slashes only, however many there are. That of a block comment loses the
closing mark, if there is one: the inside of a comment that is not closed holds no such mark, so it
does not end with one, and in `/*/` the star belongs to the opening mark alone.
-/

namespace ScriptTree

namespace Text

end Text

namespace Comment

/-! ### Values with their marks -/

/-- A closing mark stands somewhere behind the opening mark of a comment. -/
def IsClosed (text : Text) (c : Comment) : Prop :=
  ∃ behind, text.dropBytes? (c.start + 2) = some behind ∧ ['*', '/'] <:+: behind

variable {map : LineMap} {start : Nat} {rest : Text}

end Comment

namespace Trivia

/-! ### Comments of a walk -/

variable {a : Arena} {root : NodeRef} {spans : List (Nat × Nat)} {s s' : Scanner} {text : Text}

end Trivia

end ScriptTree
