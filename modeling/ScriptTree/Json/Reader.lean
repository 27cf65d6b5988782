import ScriptTree.Json.Basic
import ScriptTree.Text.CharClass

/-!
# Reading JSON

A recursive reader over the characters of a text. Each part of it reads from the start of
a text and returns what it has read with what is left; `none` says that the text does not
start with such a part. The fuel bounds the depth and the length of lists together, and
the length of the text is always enough.
-/

namespace ScriptTree

namespace Json

namespace Reader

/-- The blanks that may stand between the parts of a text. -/
def isBlank (c : Char) : Bool :=
  c == ' ' || c == '\n' || c == '\t' || c == '\r'

/-- The text without its leading blanks. -/
def skipBlanks (cs : Text) : Text :=
  cs.dropWhile isBlank

/-! ### Strings -/

/-- The code units of a string behind its opening quote, up to its closing one. An escape of four
digits is one unit; the halves of a surrogate pair are still two. -/
def stringUnits? : Text → Option (List Nat × Text)
  | [] => none
  | '"' :: cs => some ([], cs)
  | '\\' :: 'u' :: a :: b :: c :: d :: cs => do
    let unit ← Text.digitsValue? 16 [a, b, c, d]
    let (units, rest) ← stringUnits? cs
    pure (unit :: units, rest)
  | '\\' :: e :: cs => do
    let unit ← [('"', 0x22), ('\\', 0x5C), ('/', 0x2F), ('b', 0x08), ('f', 0x0C), ('n', 0x0A),
      ('r', 0x0D), ('t', 0x09)].lookup e
    let (units, rest) ← stringUnits? cs
    pure (unit :: units, rest)
  | c :: cs => do
    guard (0x20 ≤ c.toNat)
    let (units, rest) ← stringUnits? cs
    pure (c.toNat :: units, rest)

/-- The characters of code units, in which two halves of a surrogate pair stand for one; none
when a half stands alone. -/
def joinUnits? : List Nat → Option Text
  | [] => some []
  | high :: low :: units =>
    if 0xD800 ≤ high ∧ high < 0xDC00 ∧ 0xDC00 ≤ low ∧ low < 0xE000 then
      let code := 0x10000 + (high - 0xD800) * 0x400 + (low - 0xDC00)
      (joinUnits? units).map (Char.ofNat code :: ·)
    else do
      let c ← Text.charOf? high
      (joinUnits? (low :: units)).map (c :: ·)
  | [unit] => (Text.charOf? unit).map fun c => [c]

/-- The string behind an opening quote; its inside is none when it holds no text. -/
def stringBody? (cs : Text) : Option (Option String × Text) :=
  (stringUnits? cs).map fun p => ((joinUnits? p.1).map String.ofList, p.2)

/-! ### Numbers -/

/-- The digits at the start of a text and what follows. -/
def digits (cs : Text) : Text × Text :=
  cs.span Text.isDigit

/-- The natural that digits write. -/
def digitsNat (ds : Text) : Nat :=
  (Text.digitsValue? 10 ds).getD 0

/-- The fraction of a number: a point and at least one digit. A text without a point has an empty
one. -/
def fraction? : Text → Option (Text × Text)
  | '.' :: cs =>
    let (ds, rest) := digits cs
    if ds.isEmpty then none else some (ds, rest)
  | cs => some ([], cs)

/-- The exponent of a number, which needs at least one digit; none inside when there is none. -/
def exponent? : Text → Option (Option Int × Text)
  | c :: cs =>
    if c = 'e' ∨ c = 'E' then
      let (negative, unsigned) := match cs with
        | '+' :: r => (false, r)
        | '-' :: r => (true, r)
        | r => (false, r)
      let (ds, rest) := digits unsigned
      let n : Int := digitsNat ds
      if ds.isEmpty then none else some (some (if negative then -n else n), rest)
    else some (none, c :: cs)
  | [] => some (none, [])

/-- Whether a number starts with a minus sign, and what is behind it. -/
def sign : Text → Bool × Text
  | '-' :: cs => (true, cs)
  | cs => (false, cs)

/-- The number at the start of a text. No digit may stand behind a leading zero, and a negative
zero is not whole. -/
def number? (cs : Text) : Option (Json × Text) := do
  let (negative, unsigned) := sign cs
  let (whole, afterWhole) := digits unsigned
  guard (!whole.isEmpty && !(whole.head? == some '0' && 1 < whole.length))
  let (fraction, afterFraction) ← fraction? afterWhole
  let (exponent, rest) ← exponent? afterFraction
  let n := digitsNat (whole ++ fraction)
  if fraction.isEmpty && exponent.isNone && !(negative && n == 0) then
    pure (.int (if negative then -(n : Int) else n), rest)
  else
    let d : Decimal := ⟨negative, n, exponent.getD 0 - fraction.length⟩
    pure (.float d.toFloat, rest)

/-! ### Values -/

/-- The text behind a word that it starts with. -/
def afterWord? (word : List Char) (cs : Text) : Option Text :=
  if word.isPrefixOf cs then some (cs.drop word.length) else none

mutual

/-- The value at the start of a text. -/
def value? : (fuel : Nat) → Text → Option (Json × Text)
  | 0, _ => none
  | fuel + 1, cs =>
    match skipBlanks cs with
    | [] => none
    | '"' :: rest => do
      let (s, rest) ← stringBody? rest
      pure ((s.map Json.str).getD .unpaired, rest)
    | '[' :: rest =>
      match skipBlanks rest with
      | ']' :: rest => some (.arr [], rest)
      | rest => do
        let (items, rest) ← items? fuel rest
        pure (.arr items, rest)
    | '\x7b' :: rest =>
      match skipBlanks rest with
      | '\x7d' :: rest => some (.obj [], rest)
      | rest => do
        let (entries, rest) ← entries? fuel rest
        let value := match entries.mapM fun e => e.1.map fun name => (name, e.2) with
          | some entries => Json.obj entries
          | none => .unpaired
        pure (value, rest)
    | 'n' :: rest => (afterWord? ['u', 'l', 'l'] rest).map (.null, ·)
    | 't' :: rest => (afterWord? ['r', 'u', 'e'] rest).map (.bool true, ·)
    | 'f' :: rest => (afterWord? ['a', 'l', 's', 'e'] rest).map (.bool false, ·)
    | rest => number? rest

/-- The items of a list, at least one, up to its closing bracket. -/
def items? : (fuel : Nat) → Text → Option (List Json × Text)
  | 0, _ => none
  | fuel + 1, cs => do
    let (v, rest) ← value? fuel cs
    match skipBlanks rest with
    | ',' :: rest =>
      let (vs, rest) ← items? fuel rest
      pure (v :: vs, rest)
    | ']' :: rest => pure ([v], rest)
    | _ => none

/-- The entries of an object, at least one, up to its closing brace. A name is none when it holds
no text. -/
def entries? : (fuel : Nat) → Text → Option (List (Option String × Json) × Text)
  | 0, _ => none
  | fuel + 1, cs => do
    let '"' :: rest := skipBlanks cs | none
    let (name, rest) ← stringBody? rest
    let ':' :: rest := skipBlanks rest | none
    let (v, rest) ← value? fuel rest
    match skipBlanks rest with
    | ',' :: rest =>
      let (es, rest) ← entries? fuel rest
      pure ((name, v) :: es, rest)
    | '\x7d' :: rest => pure ([(name, v)], rest)
    | _ => none

end

end Reader

/-- The value that a whole text writes. -/
def ofText? (cs : Text) : Option Json := do
  let (v, rest) ← Reader.value? (cs.length + 1) cs
  guard (Reader.skipBlanks rest).isEmpty
  pure v

end Json

end ScriptTree
