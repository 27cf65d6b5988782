import ScriptTree.Number.Binary
import ScriptTree.Text.CharClass

/-!
# Numeric literals

The value of a number as it is written in source text. Separators do not count. A prefix
gives the base; a leading zero before octal digits alone makes the number octal, too. All
other numbers are decimal and are rounded once, to the nearest double. What is no number
has the value that is no number.

Digits in a base are added up in double precision, digit by digit, so a long number of
this form is rounded at every step.
-/

namespace ScriptTree

namespace NumericLiteral

/-- The value that is no number. -/
def notANumber : Float := 0.0 / 0.0

/-- The value of the digits of a base, added up in double precision. -/
def radixValue (base : Nat) (digits : Text) : Float :=
  if digits.isEmpty then notANumber
  else
    let value? := digits.foldlM (fun (x : Float) c =>
      (Text.digitValue? base c).map fun d => x * Float.ofNat base + Float.ofNat d) 0.0
    value?.getD notANumber

/-- A decimal number without its sign: digits with a point somewhere among them, and an exponent.
There has to be a digit besides those of the exponent. -/
def decimal? (negative : Bool) (cs : Text) : Option Decimal := do
  let (whole, afterWhole) := cs.span Text.isDigit
  let (fraction, afterFraction) := match afterWhole with
    | '.' :: rest => rest.span Text.isDigit
    | rest => ([], rest)
  guard !(whole.isEmpty && fraction.isEmpty)
  let digits ← Text.digitsValue? 10 (whole ++ fraction)
  let exponent : Int ← match afterFraction with
    | [] => some 0
    | 'e' :: '-' :: ds => (Text.digitsValue? 10 ds).map fun n => -(n : Int)
    | 'e' :: '+' :: ds => (Text.digitsValue? 10 ds).map fun n => (n : Int)
    | 'e' :: ds => (Text.digitsValue? 10 ds).map fun n => (n : Int)
    | _ => none
  pure ⟨negative, digits, exponent - fraction.length⟩

/-- The value of a decimal number with an optional sign, or of one of the words for values that are
not finite. Letters are small ones. -/
def decimalValue (cs : Text) : Float :=
  let (negative, unsigned) := match cs with
    | '-' :: rest => (true, rest)
    | '+' :: rest => (false, rest)
    | rest => (false, rest)
  if unsigned = ['i', 'n', 'f'] ∨ unsigned = ['i', 'n', 'f', 'i', 'n', 'i', 't', 'y'] then
    if negative then -1.0 / 0.0 else 1.0 / 0.0
  else ((decimal? negative unsigned).map Decimal.toFloat).getD notANumber

/-- The value of a literal. -/
def value (raw : Text) : Float :=
  let lower := (raw.filter (· != '_')).map Char.toLower
  match lower with
  | '0' :: 'x' :: digits => radixValue 16 digits
  | '0' :: 'o' :: digits => radixValue 8 digits
  | '0' :: 'b' :: digits => radixValue 2 digits
  | '0' :: d :: digits =>
    if (d :: digits).all Text.isOctalDigit then radixValue 8 (d :: digits)
    else decimalValue lower
  | _ => decimalValue lower

end NumericLiteral

end ScriptTree
