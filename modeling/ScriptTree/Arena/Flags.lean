import ScriptTree.Kind.Basic

/-!
# Flags and modifiers

A node carries a number whose bits say what its kind leaves open: whether a variable is
declared by `let`, `const` or `using`, and the like. The modifiers of a declaration are
nodes of their own; their set, too, can be packed into a number.
-/

namespace ScriptTree

/-! ### The flags of a node -/

namespace NodeFlag

/-- Declared by `let`. -/
def letBit : Nat := 1

/-- Declared by `const`. -/
def constBit : Nat := 2

/-- Declared by `using`. -/
def usingBit : Nat := 8

/-- The declarations of a module that belong to the global scope. -/
def globalBit : Nat := 1024

/-- The flags have one of the bits. -/
def has (flags bits : Nat) : Bool :=
  flags &&& bits != 0

end NodeFlag

/-! ### Modifiers -/

/-- A modifier of a declaration. -/
inductive Modifier
  | exported | ambient | publicAccess | privateAccess | protectedAccess | static | readonly
  | abstract | async | defaultExport | const | override | accessor | contravariant | covariant
  deriving DecidableEq, Repr

namespace Modifier

/-- Every modifier, in the order of their bits. -/
def all : List Modifier := [
  .exported, .ambient, .publicAccess, .privateAccess, .protectedAccess, .static, .readonly,
  .abstract, .async, .defaultExport, .const, .override, .accessor, .contravariant, .covariant]

/-- The modifier that a keyword is. -/
def ofKeyword? : SyntaxKind → Option Modifier
  | .exportKeyword => some .exported
  | .declareKeyword => some .ambient
  | .publicKeyword => some .publicAccess
  | .privateKeyword => some .privateAccess
  | .protectedKeyword => some .protectedAccess
  | .staticKeyword => some .static
  | .readonlyKeyword => some .readonly
  | .abstractKeyword => some .abstract
  | .asyncKeyword => some .async
  | .defaultKeyword => some .defaultExport
  | .constKeyword => some .const
  | .overrideKeyword => some .override
  | .accessorKeyword => some .accessor
  | .inKeyword => some .contravariant
  | .outKeyword => some .covariant
  | _ => none

/-- A set of modifiers as a number, one bit for each. -/
def bits (ms : List Modifier) : Nat :=
  all.foldr (fun m n => if ms.contains m then Nat.pow 2 m.ctorIdx + n else n) 0

/-- The modifiers that make a parameter of a constructor a property as well. -/
def makesProperty : Modifier → Bool
  | .publicAccess | .privateAccess | .protectedAccess | .readonly | .override => true
  | _ => false

/-- The word for who may access a member, if the modifiers say so: of several the most open one
counts. -/
def accessibility? (ms : List Modifier) : Option String :=
  if ms.contains .publicAccess then some "public"
  else if ms.contains .protectedAccess then some "protected"
  else if ms.contains .privateAccess then some "private"
  else none

end Modifier

end ScriptTree
