/-!
# Binary floating-point numbers

A number literal is a decimal fraction, and its value is the double-precision number
nearest to it. This file computes that number from an exact ratio of naturals, with no
rounding on the way: `ScriptTree.Binary.nearestBits` gives the bits of the double nearest to
a ratio, an exact half going to the even neighbour. In the other direction
`ScriptTree.Binary.parts` takes a finite double apart into its mantissa and its exponent.
-/

namespace ScriptTree

namespace Binary

/-- The natural nearest to a ratio, a half going to the even neighbour. -/
def roundRatio (num den : Nat) : Nat :=
  let whole := num / den
  let rest := num % den
  if 2 * rest < den then whole
  else if 2 * rest > den then whole + 1
  else whole + whole % 2

/-- A ratio times a power of two. -/
def scale (num den : Nat) (power : Int) : Nat × Nat :=
  if 0 ≤ power then (num * Nat.pow 2 power.toNat, den) else (num, den * Nat.pow 2 (-power).toNat)

/-- The largest power of two that is not above a ratio of positive numbers. -/
def floorLog2 (num den : Nat) : Int :=
  let guess : Int := (num.log2 : Int) - (den.log2 : Int)
  let (n, d) := scale num den (-guess)
  if d ≤ n then guess else guess - 1

/-- The bits of the double nearest to a ratio. A ratio beyond all doubles gives infinity. -/
def nearestBits (num den : Nat) : Nat :=
  if num = 0 ∨ den = 0 then 0
  else
    let unit := max (floorLog2 num den - 52) (-1074)
    let (n, d) := scale num den (-unit)
    let mantissa := roundRatio n d
    let bits := (unit + 1074).toNat * Nat.pow 2 52 + mantissa
    min bits (0x7FF * Nat.pow 2 52)

/-- The double nearest to a ratio, with a sign. -/
def nearest (negative : Bool) (num den : Nat) : Float :=
  let sign : Nat := if negative then Nat.pow 2 63 else 0
  Float.ofBits (UInt64.ofNat (nearestBits num den + sign))

/-- A double taken apart. -/
structure Parts where
  negative : Bool
  mantissa : Nat
  /-- The power of two that one unit of the mantissa is worth. -/
  unit : Int
  /-- The double is finite; otherwise it is infinite with mantissa zero, or no number. -/
  finite : Bool
  deriving Repr, DecidableEq

/-- Takes the bits of a double apart. -/
def partsOfBits (bits : Nat) : Parts :=
  let fraction : Nat := bits % Nat.pow 2 52
  let power : Nat := bits / Nat.pow 2 52 % Nat.pow 2 11
  let negative := bits / Nat.pow 2 63 % 2 == 1
  if power = 0 then ⟨negative, fraction, -1074, true⟩
  else if power = 0x7FF then ⟨negative, fraction, 0, false⟩
  else ⟨negative, Nat.pow 2 52 + fraction, (power : Int) - 1075, true⟩

/-- Takes a double apart. -/
def parts (x : Float) : Parts :=
  partsOfBits x.toBits.toNat

/-- The integer that a double is, if it is one. A negative zero is not taken for an integer. -/
def integer? (x : Float) : Option Int :=
  let p := parts x
  if !p.finite || (p.negative && p.mantissa == 0) then none
  else
    let den : Nat := Nat.pow 2 (-p.unit).toNat
    let magnitude : Int := (p.mantissa * Nat.pow 2 p.unit.toNat / den : Nat)
    if p.mantissa % den = 0 then some (if p.negative then -magnitude else magnitude) else none

/-- The magnitudes up to which every integer is a double. -/
def maxSafeInteger : Nat := Nat.pow 2 53 - 1

end Binary

/-! ### Decimal fractions -/

/-- A decimal fraction: a natural times a power of ten, with a sign. -/
structure Decimal where
  negative : Bool := false
  digits : Nat
  exponent : Int
  deriving Repr, DecidableEq

namespace Decimal

/-- The power of ten that a decimal fraction is about as large as, to within two. -/
def magnitude (d : Decimal) : Int :=
  (d.digits.log2 : Int) * 30103 / 100000 + d.exponent

/-- The double nearest to a decimal fraction. Exponents so large or so small that the result does
not depend on the digits are decided without computing the power. -/
def toFloat (d : Decimal) : Float :=
  if d.digits = 0 ∨ d.magnitude < -400 then Binary.nearest d.negative 0 1
  else if d.magnitude > 400 then Binary.nearest d.negative (Nat.pow 2 1024) 1
  else if 0 ≤ d.exponent then
    Binary.nearest d.negative (d.digits * Nat.pow 10 d.exponent.toNat) 1
  else Binary.nearest d.negative d.digits (Nat.pow 10 (-d.exponent).toNat)

end Decimal

end ScriptTree
