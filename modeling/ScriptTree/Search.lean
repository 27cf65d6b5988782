/-!
# Searching by halving

What is looked up by its offset, a token or a line, stands in an array in the order of the source.
A property that holds of the first elements and of no later one divides the array, and the dividing
place is found by halving (`ScriptTree.Search.partitionPoint`).
-/

namespace ScriptTree

namespace Search

variable {α : Type}

/-- Halves a stretch of `size` elements that starts at `base` until one is left, keeping the half
that the last element with the property lies in. The fuel bounds the halvings; the size of the
stretch is always enough. -/
def halve (xs : Array α) (test : α → Bool) : (fuel base size : Nat) → Nat
  | 0, base, _ => base
  | fuel + 1, base, size =>
    if size ≤ 1 then base
    else
      let half := size / 2
      let mid := base + half
      halve xs test fuel (if (xs[mid]?).any test then mid else base) (size - half)

/-- The number of leading elements with a property, where no element with the property follows one
without it. -/
def partitionPoint (xs : Array α) (test : α → Bool) : Nat :=
  let base := halve xs test xs.size 0 xs.size
  if (xs[base]?).any test then base + 1 else base

end Search

end ScriptTree
