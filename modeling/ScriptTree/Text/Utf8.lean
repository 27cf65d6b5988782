/-!
# Text measured in bytes

Source text is a list of characters, and every offset into it counts the bytes of
its UTF-8 form. This file relates the two: how long a text is, what is left of it
after a number of bytes, and which part of it a range of offsets denotes.

An offset that falls inside a character, or behind the end, denotes no place in the
text. That is why `ScriptTree.Text.dropBytes?` and `ScriptTree.Text.slice?` are partial:
`none` says that a cut was asked for where no cut can be made.
-/

namespace ScriptTree

/-- Source text, as its characters. -/
abbrev Text := List Char

namespace Text

/-- The bytes that the UTF-8 form of a text takes. -/
def byteLength : Text → Nat
  | [] => 0
  | c :: cs => c.utf8Size + byteLength cs

@[simp] theorem byteLength_nil : byteLength [] = 0 := rfl

@[simp] theorem byteLength_cons (c : Char) (cs : Text) :
    byteLength (c :: cs) = c.utf8Size + byteLength cs := rfl

@[simp] theorem byteLength_append (s t : Text) :
    byteLength (s ++ t) = byteLength s + byteLength t := by
  induction s with
  | nil => simp
  | cons c cs ih => simp [ih, Nat.add_assoc]

/-- The bytes of the UTF-8 form of a text. -/
def bytes (text : Text) : List UInt8 :=
  text.flatMap String.utf8EncodeChar

/-! ### Cutting at an offset -/

/-- What follows the first `n` bytes, if a character starts there or the text ends there. -/
def dropBytes? : Nat → Text → Option Text
  | 0, cs => some cs
  | _ + 1, [] => none
  | n + 1, c :: cs => if c.utf8Size ≤ n + 1 then dropBytes? (n + 1 - c.utf8Size) cs else none

/-- The characters that take the first `n` bytes, if `n` is the end of a character. -/
def takeBytes? : Nat → Text → Option Text
  | 0, _ => some []
  | _ + 1, [] => none
  | n + 1, c :: cs =>
    if c.utf8Size ≤ n + 1 then (takeBytes? (n + 1 - c.utf8Size) cs).map (c :: ·) else none

@[simp] theorem dropBytes?_zero (cs : Text) : dropBytes? 0 cs = some cs := by
  cases cs <;> rfl

@[simp] theorem takeBytes?_zero (cs : Text) : takeBytes? 0 cs = some [] := by
  cases cs <;> rfl

/-- The text between two offsets, if both are places in the text and in order. -/
def slice? (text : Text) (start stop : Nat) : Option Text :=
  if start ≤ stop then (dropBytes? start text).bind (takeBytes? (stop - start)) else none

/-- The text between two offsets, empty where they denote no part of the text. -/
def slice (text : Text) (start stop : Nat) : Text :=
  (slice? text start stop).getD []

/-- An offset is a place in the text when the text can be cut there. -/
def isBoundary (text : Text) (offset : Nat) : Bool :=
  (dropBytes? offset text).isSome

/-- Cutting a text behind its first part leaves the second. -/
theorem dropBytes?_append (s t : Text) : dropBytes? (byteLength s) (s ++ t) = some t := by
  induction s with
  | nil => simp
  | cons c cs ih =>
    obtain ⟨n, hn⟩ : ∃ n, c.utf8Size + byteLength cs = n + 1 :=
      ⟨c.utf8Size + byteLength cs - 1, by have := c.utf8Size_pos; omega⟩
    have hle : c.utf8Size ≤ n + 1 := by omega
    have hsub : n + 1 - c.utf8Size = byteLength cs := by omega
    rw [byteLength_cons, hn, List.cons_append, dropBytes?, if_pos hle, hsub, ih]

/-- The bytes of the first part are the first part. -/
theorem takeBytes?_append (s t : Text) : takeBytes? (byteLength s) (s ++ t) = some s := by
  induction s with
  | nil => simp
  | cons c cs ih =>
    obtain ⟨n, hn⟩ : ∃ n, c.utf8Size + byteLength cs = n + 1 :=
      ⟨c.utf8Size + byteLength cs - 1, by have := c.utf8Size_pos; omega⟩
    have hle : c.utf8Size ≤ n + 1 := by omega
    have hsub : n + 1 - c.utf8Size = byteLength cs := by omega
    rw [byteLength_cons, hn, List.cons_append, takeBytes?, if_pos hle, hsub, ih, Option.map_some]

/-- Between the lengths of a first part and of the first two parts lies the second part. -/
theorem slice?_append (s t u : Text) :
    slice? (s ++ t ++ u) (byteLength s) (byteLength s + byteLength t) = some t := by
  rw [slice?, if_pos (Nat.le_add_right _ _), List.append_assoc, dropBytes?_append, Option.bind_some,
    Nat.add_sub_cancel_left, takeBytes?_append]

/-- What is left after a cut is a last part of the text, and the cut lies before it. -/
theorem exists_append_of_dropBytes? {n : Nat} {text rest : Text}
    (h : dropBytes? n text = some rest) : ∃ s, text = s ++ rest ∧ byteLength s = n := by
  induction text generalizing n with
  | nil =>
    cases n with
    | zero => exact ⟨[], by simpa using h, rfl⟩
    | succ n => simp [dropBytes?] at h
  | cons c cs ih =>
    cases n with
    | zero => exact ⟨[], by simpa using h, rfl⟩
    | succ n =>
      rw [dropBytes?] at h
      split at h
      · next hle =>
        obtain ⟨s, rfl, hs⟩ := ih h
        exact ⟨c :: s, rfl, by rw [byteLength_cons, hs]; omega⟩
      · cases h

/-! ### Beginnings and endings -/

/-- The text without a given beginning, if it has it. -/
def dropStart (start text : Text) : Text :=
  if start.isPrefixOf text then text.drop start.length else text

/-- The text without a given ending, if it has it. -/
def dropEnd (ending text : Text) : Text :=
  if ending.isSuffixOf text then text.take (text.length - ending.length) else text

/-! ### UTF-16 columns -/

/-- The UTF-16 code units that a character takes. -/
def unitsOf (c : Char) : Nat :=
  if c.toNat < 0x10000 then 1 else 2

/-- The UTF-16 code units that a text takes. -/
def unitLength : Text → Nat
  | [] => 0
  | c :: cs => unitsOf c + unitLength cs

/-- A text takes one byte for every character. -/
def isAscii (text : Text) : Bool :=
  text.all fun c => c.toNat < 0x80

/-- The columns that a text takes, which are its UTF-16 code units; its bytes are as many if they
are one for every character. -/
def columns (text : Text) : Nat :=
  if text.isAscii then text.byteLength else text.unitLength

end Text

end ScriptTree
