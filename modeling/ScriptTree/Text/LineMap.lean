import ScriptTree.Search
import ScriptTree.Text.CharClass

/-!
# Lines and columns

Readers of a syntax tree want lines and columns, while the tree itself holds byte
offsets. A line map knows where the lines of a text start, and so turns an offset
into a place: the line it lies in, counted from zero, and the number of UTF-16 code
units between the start of that line and the offset.

A line starts behind every line break, and a carriage return followed by a line feed
is one line break. Line breaks are found in the bytes of the text, and lines by halving. The
printed form of a place, `ScriptTree.LineColumn`, counts lines from one.
-/

namespace ScriptTree

/-- The offsets at which lines start behind the first of some bytes, which itself has an offset. Only
the three bytes of a line or paragraph separator are looked at together. -/
def Text.lineStartsFrom (offset : Nat) : List UInt8 → List Nat
  | [] => []
  | b :: bs =>
    if b = 0x0A then (offset + 1) :: lineStartsFrom (offset + 1) bs
    else if b = 0x0D then
      -- The line feed behind a carriage return starts the line.
      if bs.head? = some 0x0A then lineStartsFrom (offset + 1) bs
      else (offset + 1) :: lineStartsFrom (offset + 1) bs
    else if b = 0xE2 ∧ bs[0]? = some 0x80 ∧ (bs[1]? = some 0xA8 ∨ bs[1]? = some 0xA9) then
      (offset + 3) :: lineStartsFrom (offset + 1) bs
    else lineStartsFrom (offset + 1) bs

/-- The offsets at which the lines of a text start, the first of which starts with the text. -/
def Text.lineStarts (text : Text) : Array Nat :=
  (0 :: lineStartsFrom 0 text.bytes).toArray

/-- A text together with the offsets at which its lines start. -/
structure LineMap where
  /-- The text that offsets refer to. -/
  text : Text
  /-- The length of the text in bytes. -/
  size : Nat
  /-- Where the lines start, in order; the first line starts at zero. -/
  starts : Array Nat
  deriving Repr

/-- A place in a text: line and column, both counted from zero. -/
structure Position where
  line : Nat
  character : Nat
  deriving Repr, DecidableEq

/-- A place as it is printed: the line counted from one, the column from zero. -/
structure LineColumn where
  line : Nat
  column : Nat
  deriving Repr, DecidableEq

/-- The places where a range of a text starts and ends. -/
structure SourceLocation where
  start : LineColumn
  stop : LineColumn
  deriving Repr, DecidableEq

namespace LineMap

/-- The line map of a text. -/
def ofText (text : Text) : LineMap where
  text := text
  size := text.byteLength
  starts := text.lineStarts

/-- The line that an offset lies in: the last one that starts at or before it. -/
@[irreducible] def lineOf (map : LineMap) (offset : Nat) : Nat :=
  Search.partitionPoint map.starts (· ≤ offset) - 1

/-- The place of an offset. An offset behind the end has the column of the end, and one inside
a character has column zero. -/
def position (map : LineMap) (offset : Nat) : Position :=
  let line := map.lineOf offset
  let stop := min offset map.size
  let start := min (map.starts[line]?.getD 0) stop
  ⟨line, ((map.text.slice? start stop).map Text.columns).getD 0⟩

/-- The place of an offset as it is printed. -/
def lineColumn (map : LineMap) (offset : Nat) : LineColumn :=
  let p := map.position offset
  ⟨p.line + 1, p.character⟩

/-- The places of both ends of a range. -/
def location (map : LineMap) (start stop : Nat) : SourceLocation :=
  ⟨map.lineColumn start, map.lineColumn stop⟩

@[simp] theorem ofText_text (text : Text) : (ofText text).text = text := rfl

@[simp] theorem ofText_size (text : Text) : (ofText text).size = text.byteLength := rfl

@[simp] theorem lineColumn_column (map : LineMap) (offset : Nat) :
    (map.lineColumn offset).column = (map.position offset).character := rfl

end LineMap

end ScriptTree
