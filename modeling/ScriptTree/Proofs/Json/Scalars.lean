import Mathlib.Data.List.Basic
import Mathlib.Data.List.TakeDrop
import Mathlib.Data.Option.Basic
import ScriptTree.Json.Printer
import ScriptTree.Json.Reader

/-!
# Strings and numbers, read back

What is written of a string is read as the same string: a character that stands for itself is a code
unit of its own, and an escape stands for the character that it was written for
(`ScriptTree.Json.Reader.stringBody?_quoted`). The digits of an integer are read as the same integer,
in front of anything that does not go on with a number (`ScriptTree.Json.Reader.number?_intText`).
-/

namespace ScriptTree

namespace Json

namespace Reader

/-! ### Strings -/

/-- A control character is the one that its four digits stand for. -/
theorem digitsValue?_escape {n : Nat} (h : n < 0x20) :
    Text.digitsValue? 16 ['0', '0', hexDigit (n / 16), hexDigit (n % 16)] = some n := by
  revert n
  decide

/-- A character that stands for itself. -/
theorem stringUnits?_cons {c : Char} (hquote : c ≠ '"') (hback : c ≠ '\\') (hplain : 0x20 ≤ c.toNat)
    (cs : Text) :
    stringUnits? (c :: cs) = (stringUnits? cs).map fun p => (c.toNat :: p.1, p.2) := by
  rw [stringUnits?]
  · rw [guard, if_pos hplain]
    cases stringUnits? cs <;> rfl
  · exact hquote
  · exact fun _ _ _ _ _ h _ => hback h
  · exact fun _ _ h _ => hback h

/-- An escape of one letter. -/
theorem stringUnits?_escape {e : Char} {unit : Nat} (he : e ≠ 'u')
    (h : [('"', 0x22), ('\\', 0x5C), ('/', 0x2F), ('b', 0x08), ('f', 0x0C), ('n', 0x0A),
      ('r', 0x0D), ('t', 0x09)].lookup e = some unit) (cs : Text) :
    stringUnits? ('\\' :: e :: cs) = (stringUnits? cs).map fun p => (unit :: p.1, p.2) := by
  rw [stringUnits?.eq_def]
  split
  · next h' => cases h'
  · next h' => cases h'
  · next h' =>
    obtain ⟨-, h'⟩ := List.cons.inj h'
    exact absurd (List.cons.inj h').1 he
  · next e' cs' _ h' =>
    obtain ⟨-, h'⟩ := List.cons.inj h'
    obtain ⟨rfl, rfl⟩ := List.cons.inj h'
    rw [h]
    cases stringUnits? cs <;> rfl
  · next hother h' =>
    obtain ⟨rfl, rfl⟩ := List.cons.inj h'
    exact (hother e cs rfl rfl).elim

/-- **What is written of a character is read as its code unit.** -/
theorem stringUnits?_escapeChar (c : Char) (cs : Text) :
    stringUnits? (escapeChar c ++ cs) = (stringUnits? cs).map fun p => (c.toNat :: p.1, p.2) := by
  -- Two marks and five controls have escapes of their own; other controls are given by number.
  rw [escapeChar]
  split
  · next h =>
    subst h
    exact stringUnits?_escape (by decide) rfl cs
  split
  · next h =>
    subst h
    exact stringUnits?_escape (by decide) rfl cs
  split
  · next h =>
    subst h
    exact stringUnits?_escape (by decide) rfl cs
  split
  · next h =>
    subst h
    exact stringUnits?_escape (by decide) rfl cs
  split
  · next h =>
    subst h
    exact stringUnits?_escape (by decide) rfl cs
  split
  · next h =>
    subst h
    exact stringUnits?_escape (by decide) rfl cs
  split
  · next h =>
    subst h
    exact stringUnits?_escape (by decide) rfl cs
  split
  · next hlt =>
    simp only [List.cons_append, List.nil_append]
    rw [stringUnits?, digitsValue?_escape hlt]
    cases stringUnits? cs <;> rfl
  · next hquote hback _ _ _ _ _ hlt =>
    exact stringUnits?_cons hquote hback (Nat.le_of_not_lt hlt) cs

/-- A character is not half of a surrogate pair. -/
theorem not_surrogate (c : Char) : ¬(0xD800 ≤ c.toNat ∧ c.toNat < 0xE000) := by
  have hvalid : c.toNat < 0xD800 ∨ 0xDFFF < c.toNat ∧ c.toNat < 0x110000 := c.valid
  omega

theorem charOf?_toNat (c : Char) : Text.charOf? c.toNat = some c := by
  have hvalid : c.toNat < 0xD800 ∨ 0xDFFF < c.toNat ∧ c.toNat < 0x110000 := c.valid
  rw [Text.charOf?, if_pos, Char.ofNat_toNat]
  simp only [Bool.or_eq_true, decide_eq_true_eq, Bool.and_eq_true]
  omega

/-- A code unit that is a character stands for it, in front of any others. -/
theorem joinUnits?_cons (c : Char) (units : List Nat) :
    joinUnits? (c.toNat :: units) = (joinUnits? units).map (c :: ·) := by
  cases units with
  | nil => simp only [joinUnits?, charOf?_toNat, Option.map_some]
  | cons low units =>
    have hpair : ¬(0xD800 ≤ c.toNat ∧ c.toNat < 0xDC00 ∧ 0xDC00 ≤ low ∧ low < 0xE000) := by
      have := not_surrogate c
      omega
    rw [joinUnits?, if_neg hpair, charOf?_toNat]
    cases joinUnits? (low :: units) <;> rfl

theorem joinUnits?_map_toNat (s : Text) : joinUnits? (s.map Char.toNat) = some s := by
  induction s with
  | nil => rfl
  | cons c cs ih => rw [List.map_cons, joinUnits?_cons, ih, Option.map_some]

/-- **A string is read as it was written**, up to its closing quote. -/
theorem stringBody?_flatMap (s : String) (rest : Text) :
    stringBody? (s.toList.flatMap escapeChar ++ '"' :: rest) = some (some s, rest) := by
  have hunits (cs : Text) : stringUnits? (cs.flatMap escapeChar ++ '"' :: rest) =
      some (cs.map Char.toNat, rest) := by
    induction cs with
    | nil => rw [List.flatMap_nil, List.nil_append, stringUnits?, List.map_nil]
    | cons c cs ih =>
      rw [List.flatMap_cons, List.append_assoc, stringUnits?_escapeChar, ih, Option.map_some,
        List.map_cons]
  rw [stringBody?, hunits, Option.map_some, joinUnits?_map_toNat, Option.map_some,
    String.ofList_toList]

/-! ### Numbers -/

/-- A text does not go on with a number. -/
def EndsNumber (rest : Text) : Prop :=
  ∀ c ∈ rest.head?, Text.isDigit c = false ∧ c ≠ '.' ∧ c ≠ 'e' ∧ c ≠ 'E'

theorem isDigit_digitChar {d : Nat} (h : d < 10) : Text.isDigit d.digitChar = true := by
  revert d
  decide

theorem digitValue?_digitChar {d : Nat} (h : d < 10) :
    Text.digitValue? 10 d.digitChar = some d := by
  revert d
  decide

/-- The digits of a number with several are those of its tenth, and one more. -/
theorem natText_of_ge {n : Nat} (h : 10 ≤ n) :
    natText n = natText (n / 10) ++ [(n % 10).digitChar] := by
  rw [natText, Nat.toDigits_eq_if (by decide), if_neg (Nat.not_lt.mpr h), natText]

theorem natText_of_lt {n : Nat} (h : n < 10) : natText n = [n.digitChar] := by
  rw [natText, Nat.toDigits_eq_if (by decide), if_pos h]

/-- Digit after digit: a property of every natural, by its number of digits. -/
theorem digitsInduction {P : Nat → Prop} (digit : ∀ n < 10, P n)
    (more : ∀ n, 10 ≤ n → P (n / 10) → P n) (n : Nat) : P n := by
  induction n using Nat.strongRecOn with
  | ind n ih =>
    rcases Nat.lt_or_ge n 10 with h | h
    · exact digit n h
    · exact more n h (ih (n / 10) (by omega))

theorem natText_ne_nil (n : Nat) : natText n ≠ [] := by
  rcases Nat.lt_or_ge n 10 with h | h
  · rw [natText_of_lt h]
    exact List.cons_ne_nil _ _
  · rw [natText_of_ge h]
    exact List.append_ne_nil_of_right_ne_nil _ (List.cons_ne_nil _ _)

/-- The digits of a natural are digits. -/
theorem isDigit_natText (n : Nat) : ∀ c ∈ natText n, Text.isDigit c = true := by
  induction n using digitsInduction with
  | digit n h =>
    rw [natText_of_lt h]
    simpa using isDigit_digitChar h
  | more n h ih =>
    intro c hc
    rw [natText_of_ge h] at hc
    rcases List.mem_append.mp hc with hc | hc
    · exact ih c hc
    · rw [List.mem_singleton.mp hc]
      exact isDigit_digitChar (Nat.mod_lt _ (by decide))

/-- No number begins with a zero, except zero itself. -/
theorem head?_natText {n : Nat} (h : n ≠ 0) : (natText n).head? ≠ some '0' := by
  induction n using digitsInduction with
  | digit n hlt =>
    rw [natText_of_lt hlt]
    revert h hlt
    revert n
    decide
  | more n hge ih =>
    rw [natText_of_ge hge, List.head?_append_of_ne_nil _ (natText_ne_nil _)]
    exact ih (by omega)

/-- The digits of a natural are a whole number: no digit stands behind a leading zero. -/
theorem whole_natText (n : Nat) : (!(natText n).isEmpty &&
    !((natText n).head? == some '0' && decide (1 < (natText n).length))) = true := by
  have hne : (natText n).isEmpty = false := by simpa using natText_ne_nil n
  rw [hne, Bool.not_false, Bool.true_and]
  by_cases h : n = 0
  · subst h
    decide
  · rw [beq_eq_false_iff_ne.mpr (head?_natText h), Bool.false_and, Bool.not_false]

/-- The digits of a natural write it. -/
theorem digitsValue?_natText (n : Nat) : Text.digitsValue? 10 (natText n) = some n := by
  have hfold : ∀ n, (natText n).foldlM (fun value c => (Text.digitValue? 10 c).map (value * 10 + ·))
      0 = some n := by
    intro n
    induction n using digitsInduction with
    | digit n h =>
      rw [natText_of_lt h]
      simp [digitValue?_digitChar h]
    | more n h ih =>
      rw [natText_of_ge h, List.foldlM_append, ih]
      simp only [Option.bind_eq_bind, Option.bind_some, List.foldlM_cons, List.foldlM_nil,
        digitValue?_digitChar (Nat.mod_lt n (by decide)), Option.map_some]
      exact congrArg some (by omega)
  rw [Text.digitsValue?.eq_def]
  split
  · next h => exact absurd h (natText_ne_nil n)
  · exact hfold n

theorem digitsNat_natText (n : Nat) : digitsNat (natText n) = n := by
  rw [digitsNat, digitsValue?_natText, Option.getD_some]

/-- The digits of a natural in front of something that does not go on with a number. -/
theorem digits_natText (n : Nat) {rest : Text} (hrest : EndsNumber rest) :
    digits (natText n ++ rest) = (natText n, rest) := by
  rw [digits, List.span_eq_takeWhile_dropWhile]
  have hhead : rest.takeWhile Text.isDigit = [] ∧ rest.dropWhile Text.isDigit = rest := by
    cases rest with
    | nil => exact ⟨rfl, rfl⟩
    | cons c cs =>
      have hc := (hrest c rfl).1
      rw [List.takeWhile_cons, List.dropWhile_cons, hc]
      exact ⟨rfl, rfl⟩
  rw [List.takeWhile_append_of_pos (isDigit_natText n), List.dropWhile_append_of_pos
    (isDigit_natText n), hhead.1, hhead.2, List.append_nil]

theorem fraction?_of_endsNumber {rest : Text} (hrest : EndsNumber rest) :
    fraction? rest = some ([], rest) := by
  rw [fraction?.eq_def]
  split
  · next cs => exact absurd rfl (hrest '.' rfl).2.1
  · rfl

theorem exponent?_of_endsNumber {rest : Text} (hrest : EndsNumber rest) :
    exponent? rest = some (none, rest) := by
  cases rest with
  | nil => rfl
  | cons c cs =>
    have hc := hrest c rfl
    rw [exponent?.eq_def]
    exact if_neg (not_or.mpr hc.2.2)

/-- What is read of a number behind its sign, when it has no fraction and no exponent. -/
theorem number?_of_sign {cs : Text} {negative : Bool} {n : Nat} {rest : Text}
    (hsign : sign cs = (negative, natText n ++ rest)) (hn : negative = true → n ≠ 0)
    (hrest : EndsNumber rest) :
    number? cs = some (.int (if negative then -(n : Int) else n), rest) := by
  have hnegative : (negative && n == 0) = false := by
    cases negative with
    | false => rfl
    | true => simpa using hn rfl
  rw [number?, hsign]
  dsimp only
  rw [digits_natText n hrest]
  dsimp only
  rw [whole_natText, fraction?_of_endsNumber hrest]
  change (exponent? rest).bind _ = _
  rw [exponent?_of_endsNumber hrest, Option.bind_some]
  dsimp only
  rw [List.append_nil, digitsNat_natText, hnegative]
  rfl

/-- A digit is no sign. -/
theorem sign_natText (n : Nat) (rest : Text) :
    sign (natText n ++ rest) = (false, natText n ++ rest) := by
  rw [sign.eq_def]
  split
  · next cs h =>
    obtain ⟨c, digits, hn⟩ := List.exists_cons_of_ne_nil (natText_ne_nil n)
    rw [hn, List.cons_append] at h
    have hc := isDigit_natText n c (by rw [hn]; exact List.mem_cons_self)
    rw [(List.cons.inj h).1] at hc
    exact absurd hc (by decide)
  · rfl

/-- **An integer is read as it was written.** -/
theorem number?_intText (i : Int) {rest : Text} (hrest : EndsNumber rest) :
    number? (intText i ++ rest) = some (.int i, rest) := by
  rw [intText]
  split
  · next h =>
    have hsign : sign ('-' :: natText i.natAbs ++ rest) = (true, natText i.natAbs ++ rest) := rfl
    rw [number?_of_sign hsign (by omega) hrest, if_pos rfl]
    exact congrArg (fun j => some (Json.int j, rest)) (by omega)
  · next h =>
    rw [number?_of_sign (sign_natText _ _) (by simp) hrest, if_neg (by decide)]
    exact congrArg (fun j => some (Json.int j, rest)) (by omega)

end Reader

end Json

end ScriptTree
