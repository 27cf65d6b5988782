import ScriptTree.Json.Basic
import ScriptTree.Number.Shortest

/-!
# Writing JSON

Two layouts: one line without blanks, and one entry a line with two blanks of indentation
a level. Quotes, backslashes and control characters are escaped; all other characters
stand for themselves.
-/

namespace ScriptTree

namespace Json

/-! ### Strings -/

/-- The hexadecimal digit of a number below sixteen. -/
def hexDigit (n : Nat) : Char :=
  Nat.digitChar n

/-- A character as it is written inside a string. -/
def escapeChar (c : Char) : Text :=
  if c = '"' then ['\\', '"']
  else if c = '\\' then ['\\', '\\']
  else if c = '\x08' then ['\\', 'b']
  else if c = '\x0c' then ['\\', 'f']
  else if c = '\n' then ['\\', 'n']
  else if c = '\r' then ['\\', 'r']
  else if c = '\t' then ['\\', 't']
  else if c.toNat < 0x20 then
    ['\\', 'u', '0', '0', hexDigit (c.toNat / 16), hexDigit (c.toNat % 16)]
  else [c]

/-- A string with its quotes. -/
def quoted (s : String) : Text :=
  '"' :: (s.toList.flatMap escapeChar ++ ['"'])

/-! ### Numbers -/

/-- The digits of a natural. -/
def natText (n : Nat) : Text :=
  Nat.toDigits 10 n

/-- The digits of an integer with its sign. -/
def intText (i : Int) : Text :=
  if i < 0 then '-' :: natText i.natAbs else natText i.natAbs

/-- A decimal as it is written: positional where its first digit stands for a power of ten from
-5 to 15, with an exponent elsewhere. A positional one always has a point. -/
def decimalText (d : Decimal) : Text :=
  let ds := natText d.digits
  let point : Int := ds.length + d.exponent
  let sign := if d.negative then ['-'] else []
  if d.digits = 0 then sign ++ ['0', '.', '0']
  else if 0 ≤ d.exponent ∧ point ≤ 16 then
    sign ++ ds ++ List.replicate d.exponent.toNat '0' ++ ['.', '0']
  else if 0 < point ∧ point ≤ 16 then
    sign ++ ds.take point.toNat ++ '.' :: ds.drop point.toNat
  else if -5 < point ∧ point ≤ 0 then
    sign ++ '0' :: '.' :: (List.replicate (-point).toNat '0' ++ ds)
  else
    let fraction := if ds.length = 1 then [] else '.' :: ds.drop 1
    sign ++ ds.take 1 ++ fraction ++ 'e' :: intText (point - 1)

/-- A double as it is written; one that is not finite is written as null. -/
def floatText (x : Float) : Text :=
  if (Binary.parts x).finite then decimalText (Shortest.ofFloat x) else ['n', 'u', 'l', 'l']

/-! ### Values on one line -/

/-- A value without parts as it is written; the empty text for lists and objects. -/
def scalarText : Json → Text
  | .null => ['n', 'u', 'l', 'l']
  | .bool true => ['t', 'r', 'u', 'e']
  | .bool false => ['f', 'a', 'l', 's', 'e']
  | .int i => intText i
  | .float x => floatText x
  | .str s => quoted s
  | .unpaired => ['"', '"']
  | .arr _ => []
  | .obj _ => []

mutual

/-- A value on one line. -/
def compact : Json → Text
  | .arr items => '[' :: (compactItems items ++ [']'])
  | .obj entries => '\x7b' :: (compactEntries entries ++ ['\x7d'])
  | v => scalarText v

/-- The items of a list on one line, with commas between them. -/
def compactItems : List Json → Text
  | [] => []
  | [v] => compact v
  | v :: vs => compact v ++ ',' :: compactItems vs

/-- The entries of an object on one line, with commas between them. -/
def compactEntries : List (String × Json) → Text
  | [] => []
  | [(name, v)] => quoted name ++ ':' :: compact v
  | (name, v) :: es => quoted name ++ ':' :: (compact v ++ ',' :: compactEntries es)

end

/-! ### Values on several lines -/

/-- The start of a line at a level of indentation. -/
def newLine (level : Nat) : Text :=
  '\n' :: List.replicate (2 * level) ' '

mutual

/-- A value on several lines, at a level of indentation. -/
def pretty (level : Nat) : Json → Text
  | .arr [] => ['[', ']']
  | .arr (v :: vs) => '[' :: (prettyItems (level + 1) (v :: vs) ++ newLine level ++ [']'])
  | .obj [] => ['\x7b', '\x7d']
  | .obj (e :: es) =>
    '\x7b' :: (prettyEntries (level + 1) (e :: es) ++ newLine level ++ ['\x7d'])
  | v => scalarText v

/-- The items of a list, each on lines of its own. -/
def prettyItems (level : Nat) : List Json → Text
  | [] => []
  | [v] => newLine level ++ pretty level v
  | v :: vs => newLine level ++ pretty level v ++ ',' :: prettyItems level vs

/-- The entries of an object, each on lines of its own. -/
def prettyEntries (level : Nat) : List (String × Json) → Text
  | [] => []
  | [(name, v)] => newLine level ++ quoted name ++ ':' :: ' ' :: pretty level v
  | (name, v) :: es =>
    newLine level ++ quoted name ++ ':' :: ' ' :: (pretty level v ++ ',' :: prettyEntries level es)

end

end Json

end ScriptTree
