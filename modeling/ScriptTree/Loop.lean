/-!
# Loops

A loop goes from one state to the next until it has an answer, and nothing says that it ever has
one. So it is run with fuel, and has no answer if the fuel runs out first.
-/

namespace ScriptTree

/-- What a loop does in a state. -/
inductive Turn (σ α : Type)
  /-- It has an answer. -/
  | answer (x : α)
  /-- It goes on to another state. -/
  | goOn (s : σ)

/-- The answer of a loop, if it comes to one before the fuel runs out. -/
def loop {σ α : Type} (turn : σ → Turn σ α) : (fuel : Nat) → σ → Option α
  | 0, _ => none
  | fuel + 1, s =>
    match turn s with
    | .answer x => some x
    | .goOn s => loop turn fuel s

end ScriptTree
