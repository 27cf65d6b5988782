import ScriptTree.Number.Binary

/-!
# The shortest decimal of a double

A double is printed with the fewest digits that read back as the same double; of two such
decimals the one nearer to the double is taken. The search runs over the powers of ten
from large to small: on each grid only the two neighbours of the value can read back, and
the first grid with a hit has the fewest digits.
-/

namespace ScriptTree

namespace Shortest

/-- The order of `c` times a power of ten and `x` times a power of two. -/
def compareScaled (c : Nat) (ten : Int) (x : Nat) (two : Int) : Ordering :=
  let left := c * Nat.pow 10 ten.toNat * Nat.pow 2 (-two).toNat
  let right := x * Nat.pow 2 two.toNat * Nat.pow 10 (-ten).toNat
  compare left right

/-- The reals that read back as a double, in quarters of the unit of its mantissa: from the lower
bound to the upper one, the bounds included when the mantissa is even. -/
structure Interval where
  low : Nat
  value : Nat
  high : Nat
  /-- The power of two that a quarter of the mantissa's unit is worth. -/
  quarter : Int
  closed : Bool

/-- The reals that read back as a finite positive double. -/
def Interval.ofParts (p : Binary.Parts) : Interval where
  low :=
    if p.mantissa = Nat.pow 2 52 ∧ -1074 < p.unit then 4 * p.mantissa - 1
    else 4 * p.mantissa - 2
  value := 4 * p.mantissa
  high := 4 * p.mantissa + 2
  quarter := p.unit - 2
  closed := p.mantissa % 2 == 0

/-- A decimal reads back as the double. -/
def Interval.holds (i : Interval) (c : Nat) (ten : Int) : Bool :=
  match compareScaled c ten i.low i.quarter, compareScaled c ten i.high i.quarter with
  | .gt, .lt => true
  | .eq, _ => i.closed
  | _, .eq => i.closed
  | _, _ => false

/-- The neighbour of the value on the grid of a power of ten that reads back; of two the nearer,
and of two equally near the even one. -/
def Interval.hit? (i : Interval) (ten : Int) : Option Nat :=
  let den := Nat.pow 10 ten.toNat * Nat.pow 2 (-i.quarter).toNat
  let num := i.value * Nat.pow 2 i.quarter.toNat * Nat.pow 10 (-ten).toNat
  let below := num / den
  match i.holds below ten, i.holds (below + 1) ten with
  | true, true => some (Binary.roundRatio num den)
  | true, false => some below
  | false, true => some (below + 1)
  | false, false => none

/-- The first grid with a hit, from a power of ten downwards. -/
def Interval.search (i : Interval) : (fuel : Nat) → (ten : Int) → Nat × Int
  | 0, ten => (0, ten)
  | fuel + 1, ten =>
    match i.hit? ten with
    | some c => (c, ten)
    | none => i.search fuel (ten - 1)

/-- The shortest decimal that reads back as a finite double. -/
def ofParts (p : Binary.Parts) : Decimal :=
  if p.mantissa = 0 then ⟨p.negative, 0, 0⟩
  else
    let start := ((p.mantissa.log2 : Int) + p.unit) * 30103 / 100000 + 2
    let (digits, ten) := (Interval.ofParts p).search 24 start
    ⟨p.negative, digits, ten⟩

/-- The shortest decimal that reads back as a double. -/
def ofFloat (x : Float) : Decimal :=
  ofParts (Binary.parts x)

end Shortest

end ScriptTree
