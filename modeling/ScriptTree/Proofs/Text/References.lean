import ScriptTree.Proofs.Text.Entities

/-!
# Text written with references

A character can be written in several ways (`ScriptTree.Entity.Encodes`): it stands for itself,
unless it is an ampersand, or a reference stands for it, by its number or by one of its names. A text
is written by writing its characters one after the other, each in a way of its own
(`ScriptTree.Entity.EncodesText`). Decoding undoes all of this
(`ScriptTree.Entity.decode_eq_of_encodesText`).

There are two things to be seen. What stands beside a reference is never drawn into it: an ampersand
stands only at the start of a reference, and the first semicolon behind it is the end of the same
reference. And the references are short enough to be read: the names of the table are, and the
number of a character has at most seven digits if it is not padded.
-/

namespace ScriptTree

namespace Entity

/-- **The ways of writing a character.** -/
inductive Encodes (c : Char) : Text → Prop
  /-- The character stands for itself. An ampersand does not: it would start a reference. -/
  | itself : c ≠ '&' → Encodes c [c]
  /-- A number sign and the number of the character in decimal digits. -/
  | decimal {digits : Text} : Text.Writes 10 digits c.toNat → digits.IsUnpadded →
    Encodes c ('&' :: '#' :: (digits ++ [';']))
  /-- A number sign, an `x` in either case and the number in hexadecimal digits, each of which may
  be in either case as well. -/
  | hexadecimal {mark : Char} {digits : Text} : mark = 'x' ∨ mark = 'X' →
    Text.Writes 16 digits c.toNat → digits.IsUnpadded →
    Encodes c ('&' :: '#' :: mark :: (digits ++ [';']))
  /-- A name of the table that denotes the character. -/
  | named {name : Text} : IsNamed name c → Encodes c ('&' :: (name ++ [';']))

/-- **The ways of writing a text**: its characters one after the other, each of them in any way. -/
inductive EncodesText : Text → Text → Prop
  | nil : EncodesText [] []
  | cons {c : Char} {u s t : Text} : Encodes c u → EncodesText s t → EncodesText (c :: s) (u ++ t)

variable {c : Char} {u s t : Text}

/-- The number of a character is small: seven decimal digits are enough for it, and six hexadecimal
ones. -/
theorem toNat_lt_pow (c : Char) : c.toNat < 10 ^ 7 ∧ c.toNat < 16 ^ 6 := by
  have hvalid : c.toNat < 0xD800 ∨ 0xDFFF < c.toNat ∧ c.toNat < 0x110000 := c.valid
  omega

/-- **A character that does not stand for itself is written as a reference that is read.** -/
theorem Encodes.cases (h : Encodes c u) :
    (c ≠ '&' ∧ u = [c]) ∨ ∃ body, u = '&' :: (body ++ [';']) ∧ IsShort IsRead body c := by
  have hsign : ('#' : Char).utf8Size = 1 := rfl
  cases h with
  | itself hc => exact .inl ⟨hc, rfl⟩
  | @decimal digits hdigits hpad =>
    refine .inr ⟨'#' :: digits, rfl, .inl (.inr (.decimal hdigits)), ?_⟩
    have hlength := hdigits.length_le hpad (by decide) (by decide) (toNat_lt_pow c).1
    rw [Text.byteLength_cons, hsign, hdigits.byteLength_eq]
    omega
  | @hexadecimal mark digits hmark hdigits hpad =>
    refine .inr ⟨'#' :: mark :: digits, rfl, .inl (.inr (.hexadecimal hmark hdigits)), ?_⟩
    have hlength := hdigits.length_le hpad (by decide) (by decide) (toNat_lt_pow c).2
    have hsize : mark.utf8Size = 1 := by
      rcases hmark with rfl | rfl
      · rfl
      · rfl
    rw [Text.byteLength_cons, Text.byteLength_cons, hsign, hsize,
      hdigits.byteLength_eq]
    omega
  | @named name hname =>
    exact .inr ⟨name, rfl, .inl (.inl hname), (names_checked.2 name hname.mem_names).1.2⟩

/-- However a character is written, it is decoded, and what follows it is decoded on its own. -/
theorem Encodes.decode_append (h : Encodes c u) (rest : Text) :
    decode (u ++ rest) = c :: decode rest := by
  rcases h.cases with ⟨hc, rfl⟩ | ⟨body, rfl, hbody⟩
  · refine decode_keep fun body rest' d heq => ?_
    exact absurd (List.cons.inj heq).1 hc
  · rw [List.cons_append, List.append_assoc, List.singleton_append, decode_reference hbody]

/-- **Decoding undoes every way of writing a text.** -/
theorem decode_eq_of_encodesText (h : EncodesText s t) : decode t = s := by
  induction h with
  | nil => rfl
  | cons hc _ ih => rw [hc.decode_append, ih]

/-- The same sign in all its ways, between a semicolon and a letter that belong to none of them. -/
theorem decode_quotes :
    decode ['"', ';', '&', '#', '3', '4', ';', '&', '#', 'x', '2', '2', ';',
      '&', '#', 'X', '2', '2', ';', '&', 'q', 'u', 'o', 't', ';', 't'] =
      ['"', ';', '"', '"', '"', '"', 't'] := by
  have hdecimal : Encodes '"' ['&', '#', '3', '4', ';'] :=
    @Encodes.decimal '"' ['3', '4'] ⟨by decide, [3, 4], by decide, by decide⟩ nofun
  have hhexadecimal (mark : Char) (hmark : mark = 'x' ∨ mark = 'X') :
      Encodes '"' ['&', '#', mark, '2', '2', ';'] :=
    @Encodes.hexadecimal '"' mark ['2', '2'] hmark ⟨by decide, [2, 2], by decide, by decide⟩ nofun
  have hname : Encodes '"' ['&', 'q', 'u', 'o', 't', ';'] :=
    @Encodes.named '"' ['q', 'u', 'o', 't'] (by rw [IsNamed]; decide)
  exact decode_eq_of_encodesText <|
    .cons (.itself (by decide)) <| .cons (.itself (by decide)) <| .cons hdecimal <|
    .cons (hhexadecimal 'x' (.inl rfl)) <| .cons (hhexadecimal 'X' (.inr rfl)) <| .cons hname <|
    .cons (.itself (by decide)) .nil

end Entity

end ScriptTree
