import ScriptTree.Text.CharClass

/-!
# Escapes

A backslash stands for a character that is hard to write. This file reads the escapes of
strings and templates, and the Unicode escapes that names may hold as well.

All readers look at the text that follows and say how many characters belong to the
escape; they consume nothing themselves.
-/

namespace ScriptTree

namespace Escape

/-- Splits a text at its first closing brace, which belongs to neither part. -/
def splitBrace? : Text → Option (Text × Text)
  | [] => none
  | '\x7d' :: cs => some ([], cs)
  | c :: cs => (splitBrace? cs).map fun p => (c :: p.1, p.2)

/-- The character that a Unicode escape denotes, given the text behind its backslash and
letter, and the number of characters of that text that belong to the escape: four hexadecimal
digits, or a number in braces. -/
def unicodeBody? : Text → Option (Char × Nat)
  | '\x7b' :: cs => do
    let (digits, _) ← splitBrace? cs
    let c ← (Text.wordValue? 16 digits).bind Text.charOf?
    pure (c, digits.length + 2)
  | cs => do
    let digits := cs.take 4
    guard (digits.length == 4 && digits.all Text.isHexDigit)
    let c ← (Text.wordValue? 16 digits).bind Text.charOf?
    pure (c, 4)

/-- The character that a whole Unicode escape denotes, and the number of its characters. -/
def unicode? : Text → Option (Char × Nat)
  | '\\' :: 'u' :: cs => (unicodeBody? cs).map fun p => (p.1, p.2 + 2)
  | _ => none

/-- What an escape in a string or template stands for, and how many characters behind its
backslash belong to it. An escaped line break stands for nothing; a letter that starts no
escape stands for itself. -/
def read : Text → Text × Nat
  | [] => ([], 0)
  | '0' :: cs => if cs.head?.any Text.isDigit then (['0'], 1) else (['\x00'], 1)
  | 'b' :: _ => (['\x08'], 1)
  | 't' :: _ => (['\t'], 1)
  | 'n' :: _ => (['\n'], 1)
  | 'v' :: _ => (['\x0b'], 1)
  | 'f' :: _ => (['\x0c'], 1)
  | 'r' :: _ => (['\r'], 1)
  | 'x' :: cs =>
    let digits := cs.take 2
    match (if digits.length == 2 then Text.wordValue? 16 digits else none) with
    | some code => ([Char.ofNat code], 3)
    | none => (['x'], 1)
  | 'u' :: cs =>
    match unicodeBody? cs with
    | some (c, n) => ([c], n + 1)
    | none => (['u'], 1)
  | '\r' :: cs => if cs.head? == some '\n' then ([], 2) else ([], 1)
  | c :: _ => if Text.isLineBreak c then ([], 1) else ([c], 1)

/-- The parts of a text around its first closing brace. -/
theorem splitBrace?_eq_some {text before behind : Text}
    (h : splitBrace? text = some (before, behind)) : text = before ++ '\x7d' :: behind := by
  fun_induction splitBrace? text generalizing before behind with
  | case1 => cases h
  | case2 cs => cases h; rfl
  | case3 c cs _ ih =>
    obtain ⟨⟨b, r⟩, hp, hb⟩ := Option.map_eq_some_iff.1 h
    cases hb
    simp [ih hp]

end Escape

end ScriptTree
