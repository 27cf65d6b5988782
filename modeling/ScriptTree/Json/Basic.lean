import ScriptTree.Number.Binary
import ScriptTree.Text.Utf8

/-!
# JSON values

Documents, options and converted trees are exchanged as JSON. The order of the entries of
an object is kept, since readers of a tree rely on it, and a name that occurs twice stays
twice, so that those who read a record can refuse it.

Whole numbers and other numbers are told apart by the way they are written.
-/

namespace ScriptTree

/-- A JSON value. -/
inductive Json
  | null
  | bool (b : Bool)
  /-- A number written with digits alone. -/
  | int (i : Int)
  /-- A number written with a point or an exponent. -/
  | float (x : Float)
  | str (s : String)
  | arr (items : List Json)
  /-- The entries of an object in their order. -/
  | obj (entries : List (String × Json))
  /-- A string, or an object with a name, in which half of a surrogate pair stands alone. It is
  JSON, but it holds no text. -/
  | unpaired
  deriving Inhabited

namespace Json

/-- A natural number. -/
def nat (n : Nat) : Json := .int n

/-- A text. -/
def text (t : Text) : Json := .str (String.ofList t)

/-- A value, or null where there is none. -/
def ofOption {α : Type} (f : α → Json) : Option α → Json
  | none => .null
  | some a => f a

/-- The list of the values of some things. -/
def ofList {α : Type} (f : α → Json) (items : List α) : Json :=
  .arr (items.map f)

/-! ### Looking into a value -/

/-- The boolean that a value is. -/
def bool? : Json → Option Bool
  | .bool b => some b
  | _ => none

/-- The string that a value is. -/
def str? : Json → Option String
  | .str s => some s
  | _ => none

/-- The name that a value gives to one of several cases: a string, or an object with this one name
and nothing under it. -/
def name? : Json → Option String
  | .str s => some s
  | .obj [(s, .null)] => some s
  | _ => none

/-- The items of a list. -/
def items? : Json → Option (List Json)
  | .arr items => some items
  | _ => none

/-- The natural below a bound that a value is. -/
def natBelow? (bound : Nat) : Json → Option Nat
  | .int i => if 0 ≤ i ∧ i.toNat < bound then some i.toNat else none
  | _ => none

/-- The number below `2 ^ 32` that a value is. -/
def word? : Json → Option Nat :=
  natBelow? 0x100000000

/-- The value under a name in an object, the last one where the name occurs twice. -/
def get? (name : String) : Json → Option Json
  | .obj entries => entries.reverse.lookup name
  | _ => none

/-! ### Records -/

/-- The value of a field among the entries of an object: `some none` when it is missing, `none`
when it is given twice. A field may have several names. -/
def slot? (names : List String) (entries : List (String × Json)) : Option (Option Json) :=
  match entries.filter fun e => names.contains e.1 with
  | [] => some none
  | [e] => some (some e.2)
  | _ => none

/-- The values of the fields of a record, each of which may be missing. A record is an object,
whose entries with other names are passed over, or a list of the values in the order of the
fields, of which the last ones may be missing. -/
def slots? (fields : List (List String)) : Json → Option (List (Option Json))
  | .obj entries => fields.mapM fun names => slot? names entries
  | .arr items =>
    if items.length ≤ fields.length then
      some (items.map some ++ List.replicate (fields.length - items.length) none)
    else none
  | _ => none

/-- A string gives its own text as a name. -/
@[simp] theorem name?_str (s : String) : (Json.str s).name? = some s := rfl

end Json

end ScriptTree
