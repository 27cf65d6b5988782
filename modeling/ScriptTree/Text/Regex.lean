import ScriptTree.Text.Utf8

/-!
# The parts of a regular expression

A regular expression literal is written between slashes, with flags behind the second.
The last slash is taken for the second one, since no flag is a slash.

The pattern starts at the second byte. Where that is inside a character the literal cannot
be split, and `ScriptTree.Regex.split?` has no result.
-/

namespace ScriptTree

/-- The parts of a regular expression literal. -/
structure Regex where
  pattern : Text
  flags : Text
  deriving DecidableEq, Repr

namespace Regex

/-- The texts before and behind the last slash. -/
def splitLast? : Text → Option (Text × Text)
  | [] => none
  | c :: cs =>
    match splitLast? cs with
    | some (before, behind) => some (c :: before, behind)
    | none => if c = '/' then some ([], cs) else none

/-- The parts of a literal. Without a slash behind the first byte all of it is the pattern, but for
leading slashes. -/
def split? (raw : Text) : Option Regex :=
  match splitLast? raw with
  | some (c :: before, flags) => if c.utf8Size = 1 then some ⟨before, flags⟩ else none
  | _ => some ⟨raw.dropWhile (· == '/'), []⟩

end Regex

end ScriptTree
