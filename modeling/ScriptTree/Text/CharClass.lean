import ScriptTree.Text.Utf8

/-!
# Line breaks, blanks and digits

The small classes of characters that the tokens of the language are made of. They
are closed lists, fixed by the language itself; the letters, which the Unicode
standard fixes, are in `ScriptTree.Text.Letter`.
-/

namespace ScriptTree

namespace Text

/-- A character lies in one of the ranges, whose ends belong to them. -/
def inRanges (ranges : List (Nat × Nat)) (c : Char) : Bool :=
  ranges.any fun r => r.1 ≤ c.toNat && c.toNat ≤ r.2

/-- The four characters that end a line: line feed, carriage return, and the line and
paragraph separators. -/
def isLineBreak (c : Char) : Bool :=
  c == '\n' || c == '\r' || c == '\u2028' || c == '\u2029'

/-- The blanks that do not end a line. -/
def isBlank (c : Char) : Bool :=
  c == ' ' || c == '\t' || c == '\x0b' || c == '\x0c' || c == '\u00a0' || c == '\u0085' ||
    c == '\u1680' || inRanges [(0x2000, 0x200A)] c || c == '\u202f' || c == '\u205f' ||
    c == '\u3000' || c == '\ufeff'

/-- Blanks and line breaks. -/
def isBlankOrBreak (c : Char) : Bool :=
  isBlank c || isLineBreak c

/-- The ten decimal digits. -/
def isDigit (c : Char) : Bool :=
  '0' ≤ c && c ≤ '9'

/-- The eight octal digits. -/
def isOctalDigit (c : Char) : Bool :=
  '0' ≤ c && c ≤ '7'

/-- The two binary digits. -/
def isBinaryDigit (c : Char) : Bool :=
  c == '0' || c == '1'

/-- The hexadecimal digits, in either case. -/
def isHexDigit (c : Char) : Bool :=
  isDigit c || ('a' ≤ c && c ≤ 'f') || ('A' ≤ c && c ≤ 'F')

/-- The letters of the basic Latin alphabet. -/
def isBasicLetter (c : Char) : Bool :=
  ('a' ≤ c && c ≤ 'z') || ('A' ≤ c && c ≤ 'Z')

/-- The characters of one byte. -/
def isBasic (c : Char) : Bool :=
  c.toNat < 0x80

/-- The value of a digit in a base up to thirty-six, if the character is a digit of it. -/
def digitValue? (base : Nat) (c : Char) : Option Nat :=
  let value? :=
    if isDigit c then some (c.toNat - '0'.toNat)
    else if 'a' ≤ c && c ≤ 'z' then some (c.toNat - 'a'.toNat + 10)
    else if 'A' ≤ c && c ≤ 'Z' then some (c.toNat - 'A'.toNat + 10)
    else none
  value?.filter (· < base)

/-- The number that digits of a base write, if there is at least one digit and nothing else. -/
def digitsValue? (base : Nat) : Text → Option Nat
  | [] => none
  | cs => cs.foldlM (fun value c => (digitValue? base c).map (value * base + ·)) 0

/-- The number below `2 ^ 32` that a text writes in a base; one leading plus sign is allowed. -/
def wordValue? (base : Nat) (cs : Text) : Option Nat :=
  let digits := match cs with
    | '+' :: rest => rest
    | _ => cs
  (digitsValue? base digits).filter (· < 0x100000000)

/-- The character with a given code point, if there is one: surrogates are no characters. -/
def charOf? (code : Nat) : Option Char :=
  if code < 0xD800 || (0xE000 ≤ code && code < 0x110000) then some (Char.ofNat code) else none

end Text

end ScriptTree
