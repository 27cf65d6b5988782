import ScriptTree.Proofs.Json.Scalars

/-!
# Values, read back

A value on one line is read as the same value (`ScriptTree.Json.ofText?_compact`), as long as it
says what it stands for: a number with a fraction or an exponent is written with the digits that
its nearest double needs, and a string without a text cannot be written at all, so neither is part
of an exact value.

Reading stops where the value stops. Of all values only a number could go on, so what follows must
not go on with a number; behind a value inside another one stands a comma or a closing bracket,
neither of which does.
-/

namespace ScriptTree

namespace Json

/-- A value without numbers that are written with a point or an exponent, and without strings that
hold no text. -/
inductive IsExact : Json → Prop
  | null : IsExact .null
  | bool (b : Bool) : IsExact (.bool b)
  | int (i : Int) : IsExact (.int i)
  | str (s : String) : IsExact (.str s)
  | arr {items : List Json} (h : ∀ v ∈ items, IsExact v) : IsExact (.arr items)
  | obj {entries : List (String × Json)} (h : ∀ e ∈ entries, IsExact e.2) : IsExact (.obj entries)

theorem IsExact.nat (n : Nat) : IsExact (.nat n) := .int n

theorem IsExact.ofOption {α : Type} {f : α → Json} {o : Option α} (h : ∀ a ∈ o, IsExact (f a)) :
    IsExact (.ofOption f o) := by
  cases o with
  | none => exact .null
  | some a => exact h a rfl

theorem IsExact.ofList {α : Type} {f : α → Json} {items : List α}
    (h : ∀ a ∈ items, IsExact (f a)) : IsExact (.ofList f items) := by
  refine .arr fun v hv => ?_
  obtain ⟨a, ha, rfl⟩ := List.mem_map.mp hv
  exact h a ha

/-- The object without entries is exact, and one stays exact with an exact value more. -/
theorem IsExact.nil : IsExact (.obj []) := .obj (by rintro _ ⟨⟩)

theorem IsExact.cons {name : String} {v : Json} {entries : List (String × Json)} (hv : IsExact v)
    (h : IsExact (.obj entries)) : IsExact (.obj ((name, v) :: entries)) := by
  cases h with
  | obj h => exact .obj (List.forall_mem_cons.mpr ⟨hv, h⟩)

namespace Reader

/-! ### How a value begins -/

theorem skipBlanks_cons {c : Char} (h : isBlank c = false) (cs : Text) :
    skipBlanks (c :: cs) = c :: cs := by
  rw [skipBlanks, List.dropWhile_cons, h, if_neg Bool.false_ne_true]

/-- An integer begins with its sign or with a digit. -/
theorem intText_eq_cons (i : Int) :
    ∃ c cs, intText i = c :: cs ∧ (c = '-' ∨ Text.isDigit c = true) := by
  rw [intText]
  split
  · exact ⟨'-', _, rfl, .inl rfl⟩
  · obtain ⟨c, cs, h⟩ := List.exists_cons_of_ne_nil (natText_ne_nil i.natAbs)
    exact ⟨c, cs, h, .inr (isDigit_natText _ c (by rw [h]; exact List.mem_cons_self))⟩

/-- A digit, like a minus sign, is none of the other characters that mean something in a text. -/
theorem ne_of_numeric {c d : Char} (hc : c = '-' ∨ Text.isDigit c = true)
    (hd : (d == '-' || Text.isDigit d) = false) : c ≠ d := by
  rintro rfl
  rcases hc with rfl | hc
  · exact absurd hd (by decide)
  · rw [hc, Bool.or_true] at hd
    cases hd

theorem isBlank_of_numeric {c : Char} (hc : c = '-' ∨ Text.isDigit c = true) :
    isBlank c = false := by
  simp only [isBlank, Bool.or_eq_false_iff, beq_eq_false_iff_ne]
  exact ⟨⟨⟨ne_of_numeric hc (by decide), ne_of_numeric hc (by decide)⟩,
    ne_of_numeric hc (by decide)⟩, ne_of_numeric hc (by decide)⟩

/-- A value begins with a character of its own, which closes no list. -/
theorem compact_eq_cons {v : Json} (h : IsExact v) :
    ∃ c cs, compact v = c :: cs ∧ isBlank c = false ∧ c ≠ ']' := by
  cases h with
  | null => exact ⟨_, _, rfl, rfl, by decide⟩
  | bool b => cases b <;> exact ⟨_, _, rfl, rfl, by decide⟩
  | str s => exact ⟨_, _, rfl, rfl, by decide⟩
  | arr h => exact ⟨'[', _, by rw [compact], rfl, by decide⟩
  | obj h => exact ⟨'\x7b', _, by rw [compact], rfl, by decide⟩
  | int i =>
    obtain ⟨c, cs, hi, hc⟩ := intText_eq_cons i
    exact ⟨c, cs, hi, isBlank_of_numeric hc, ne_of_numeric hc (by decide)⟩

theorem one_le_length_compact {v : Json} (h : IsExact v) : 1 ≤ (compact v).length := by
  obtain ⟨c, cs, hv, -, -⟩ := compact_eq_cons h
  rw [hv]
  exact Nat.le_add_left 1 _

/-! ### What follows a value -/

/-- No number goes on behind a comma or a closing bracket. -/
theorem endsNumber_cons {c : Char} (hc : c ∈ [',', ']', '\x7d']) (rest : Text) :
    EndsNumber (c :: rest) := by
  rw [List.mem_cons, List.mem_cons, List.mem_singleton] at hc
  rintro _ ⟨⟩
  rcases hc with rfl | rfl | rfl <;> decide

theorem endsNumber_nil : EndsNumber [] := by
  rintro _ ⟨⟩

/-! ### Values without parts -/

/-- What begins like a number is one. -/
theorem value?_of_numeric {c : Char} (hc : c = '-' ∨ Text.isDigit c = true) (fuel : Nat)
    (cs : Text) : value? (fuel + 1) (c :: cs) = number? (c :: cs) := by
  rw [value?, skipBlanks_cons (isBlank_of_numeric hc)]
  split
  · next h => cases h
  · next h => exact absurd (List.cons.inj h).1 (ne_of_numeric hc (by decide))
  · next h => exact absurd (List.cons.inj h).1 (ne_of_numeric hc (by decide))
  · next h => exact absurd (List.cons.inj h).1 (ne_of_numeric hc (by decide))
  · next h => exact absurd (List.cons.inj h).1 (ne_of_numeric hc (by decide))
  · next h => exact absurd (List.cons.inj h).1 (ne_of_numeric hc (by decide))
  · next h => exact absurd (List.cons.inj h).1 (ne_of_numeric hc (by decide))
  · rfl

theorem quoted_append (s : String) (rest : Text) :
    quoted s ++ rest = '"' :: (s.toList.flatMap escapeChar ++ '"' :: rest) := by
  rw [quoted, List.cons_append, List.append_assoc]
  rfl

theorem value?_quoted (fuel : Nat) (s : String) (rest : Text) :
    value? (fuel + 1) (quoted s ++ rest) = some (.str s, rest) := by
  rw [value?, quoted_append, skipBlanks_cons rfl]
  simp only [stringBody?_flatMap]
  rfl

theorem value?_scalar {v : Json} (hv : IsExact v) (harr : ∀ items, v ≠ .arr items)
    (hobj : ∀ entries, v ≠ .obj entries) (fuel : Nat) {rest : Text} (hrest : EndsNumber rest) :
    value? (fuel + 1) (compact v ++ rest) = some (v, rest) := by
  cases hv with
  | null => rfl
  | bool b => cases b <;> rfl
  | int i =>
    obtain ⟨c, cs, hi, hc⟩ := intText_eq_cons i
    have hcompact : compact (.int i) = intText i := rfl
    rw [hcompact, hi, List.cons_append, value?_of_numeric hc, ← List.cons_append, ← hi,
      number?_intText i hrest]
  | str s => exact value?_quoted fuel s rest
  | arr h => exact absurd rfl (harr _)
  | obj h => exact absurd rfl (hobj _)

/-! ### Values with parts -/

/-- A value is read as it was written, with the length of its text as fuel. -/
def ReadsBack (v : Json) : Prop :=
  ∀ fuel rest, (compact v).length ≤ fuel → EndsNumber rest →
    value? fuel (compact v ++ rest) = some (v, rest)

theorem compactItems_cons (v w : Json) (vs : List Json) :
    compactItems (v :: w :: vs) = compact v ++ ',' :: compactItems (w :: vs) := by
  rw [compactItems]
  exact List.cons_ne_nil _ _

theorem compactEntries_cons (e f : String × Json) (es : List (String × Json)) :
    compactEntries (e :: f :: es) =
      quoted e.1 ++ ':' :: (compact e.2 ++ ',' :: compactEntries (f :: es)) := by
  rw [compactEntries]
  exact List.cons_ne_nil _ _

/-- Items are read as they were written, up to the closing bracket. -/
theorem items?_compactItems {items : List Json} (hne : items ≠ [])
    (hread : ∀ v ∈ items, ReadsBack v) {fuel : Nat} (hfuel : (compactItems items).length < fuel)
    (rest : Text) : items? fuel (compactItems items ++ ']' :: rest) = some (items, rest) := by
  induction items generalizing fuel with
  | nil => exact absurd rfl hne
  | cons v vs ih =>
    obtain ⟨fuel, rfl⟩ := Nat.exists_eq_succ_of_ne_zero (Nat.ne_zero_of_lt hfuel)
    have hv := hread v List.mem_cons_self
    cases vs with
    | nil =>
      rw [compactItems] at hfuel ⊢
      rw [items?, hv fuel _ (by omega) (endsNumber_cons (by decide) rest)]
      rfl
    | cons w vs =>
      have hlength := congrArg List.length (compactItems_cons v w vs)
      rw [List.length_append, List.length_cons] at hlength
      have hvs : items? fuel (compactItems (w :: vs) ++ ']' :: rest) = some (w :: vs, rest) :=
        ih (List.cons_ne_nil w vs) (fun u hu => hread u (List.mem_cons_of_mem v hu)) (by omega)
      rw [compactItems_cons, List.append_assoc, List.cons_append, items?,
        hv fuel _ (by omega) (endsNumber_cons (by decide) _)]
      simp only [Option.bind_eq_bind, Option.bind_some, skipBlanks_cons (c := ',') rfl, hvs]
      rfl

/-- Entries are read as they were written, up to the closing brace. -/
theorem entries?_compactEntries {entries : List (String × Json)} (hne : entries ≠ [])
    (hread : ∀ e ∈ entries, ReadsBack e.2) {fuel : Nat}
    (hfuel : (compactEntries entries).length < fuel) (rest : Text) :
    entries? fuel (compactEntries entries ++ '\x7d' :: rest) =
      some (entries.map fun e => (some e.1, e.2), rest) := by
  induction entries generalizing fuel with
  | nil => exact absurd rfl hne
  | cons e es ih =>
    obtain ⟨fuel, rfl⟩ := Nat.exists_eq_succ_of_ne_zero (Nat.ne_zero_of_lt hfuel)
    have he := hread e List.mem_cons_self
    cases es with
    | nil =>
      have hlength : (compactEntries [e]).length =
          (quoted e.1).length + ((compact e.2).length + 1) := by
        rw [compactEntries, List.length_append, List.length_cons]
      rw [compactEntries, List.append_assoc, List.cons_append, entries?, quoted_append,
        skipBlanks_cons rfl]
      simp only [Option.bind_eq_bind, stringBody?_flatMap, Option.bind_some,
        skipBlanks_cons (c := ':') rfl,
        he fuel _ (by omega) (endsNumber_cons (c := '\x7d') (by decide) rest),
        skipBlanks_cons (c := '\x7d') rfl]
      rfl
    | cons f es =>
      have hlength : (compactEntries (e :: f :: es)).length = (quoted e.1).length +
          ((compact e.2).length + ((compactEntries (f :: es)).length + 1) + 1) := by
        rw [compactEntries_cons, List.length_append, List.length_cons, List.length_append,
          List.length_cons]
      have hes : entries? fuel (compactEntries (f :: es) ++ '\x7d' :: rest) =
          some ((f :: es).map fun e => (some e.1, e.2), rest) :=
        ih (List.cons_ne_nil f es) (fun u hu => hread u (List.mem_cons_of_mem e hu)) (by omega)
      rw [compactEntries_cons, List.append_assoc, List.cons_append, List.append_assoc,
        List.cons_append, entries?, quoted_append, skipBlanks_cons rfl]
      simp only [Option.bind_eq_bind, stringBody?_flatMap, Option.bind_some,
        skipBlanks_cons (c := ':') rfl, skipBlanks_cons (c := ',') rfl,
        he fuel _ (by omega) (endsNumber_cons (c := ',') (by decide) _), hes]
      rfl

theorem mapM_names (entries : List (String × Json)) :
    (entries.map fun e => (some e.1, e.2)).mapM
      (fun e : Option String × Json => e.1.map fun name => (name, e.2)) = some entries := by
  induction entries with
  | nil => rfl
  | cons e es ih =>
    rw [List.map_cons, List.mapM_cons, ih]
    rfl

/-- The text of some entries begins with a quote. -/
theorem compactEntries_eq_cons (e : String × Json) (es : List (String × Json)) :
    ∃ cs, compactEntries (e :: es) = '"' :: cs := by
  cases es with
  | nil => exact ⟨_, by rw [compactEntries, quoted_append]⟩
  | cons f es => exact ⟨_, by rw [compactEntries_cons, quoted_append]⟩

/-- The text of some items begins as that of the first one. -/
theorem compactItems_eq_cons {v : Json} (h : IsExact v) (vs : List Json) :
    ∃ c cs, compactItems (v :: vs) = c :: cs ∧ isBlank c = false ∧ c ≠ ']' := by
  obtain ⟨c, cs, hv, hc⟩ := compact_eq_cons h
  cases vs with
  | nil => exact ⟨c, cs, by rw [compactItems, hv], hc⟩
  | cons w vs => exact ⟨c, _, by rw [compactItems_cons, hv, List.cons_append], hc⟩

theorem value?_list {fuel : Nat} {v : Json} {vs : List Json} (hv : IsExact v) {rest : Text}
    (hitems : items? fuel (compactItems (v :: vs) ++ ']' :: rest) = some (v :: vs, rest)) :
    value? (fuel + 1) (compact (.arr (v :: vs)) ++ rest) = some (.arr (v :: vs), rest) := by
  obtain ⟨c, cs, hcs, hblank, hc⟩ := compactItems_eq_cons hv vs
  rw [hcs, List.cons_append] at hitems
  rw [compact, List.cons_append, List.append_assoc, List.cons_append, List.nil_append, value?,
    skipBlanks_cons rfl]
  simp only [hcs, List.cons_append, skipBlanks_cons hblank]
  split
  · next h => exact absurd (List.cons.inj h).1 hc
  · rw [hitems]
    rfl

theorem value?_object {fuel : Nat} {e : String × Json} {es : List (String × Json)} {rest : Text}
    (hentries : entries? fuel (compactEntries (e :: es) ++ '\x7d' :: rest) =
      some ((e :: es).map fun e => (some e.1, e.2), rest)) :
    value? (fuel + 1) (compact (.obj (e :: es)) ++ rest) = some (.obj (e :: es), rest) := by
  obtain ⟨cs, hcs⟩ := compactEntries_eq_cons e es
  rw [hcs, List.cons_append] at hentries
  rw [compact, List.cons_append, List.append_assoc, List.cons_append, List.nil_append, value?,
    skipBlanks_cons rfl]
  simp only [hcs, List.cons_append, skipBlanks_cons (c := '"') rfl]
  split
  · next h => cases h
  · simp only [hentries, Option.bind_eq_bind, Option.bind_some, mapM_names]
    rfl

theorem readsBack_of_succ {v : Json} (hv : IsExact v)
    (h : ∀ fuel rest, (compact v).length ≤ fuel + 1 → EndsNumber rest →
      value? (fuel + 1) (compact v ++ rest) = some (v, rest)) : ReadsBack v := by
  rintro (_ | fuel) rest hfuel hrest
  · exact absurd (Nat.le_trans (one_le_length_compact hv) hfuel) (Nat.not_succ_le_zero 0)
  · exact h fuel rest hfuel hrest

/-- **A value is read as it was written**, in front of anything that does not go on with a
number. -/
theorem value?_compact {v : Json} (hv : IsExact v) : ReadsBack v := by
  induction hv with
  | null =>
    exact readsBack_of_succ .null fun fuel _ _ => value?_scalar .null (by simp) (by simp) fuel
  | bool b =>
    exact readsBack_of_succ (.bool b) fun fuel _ _ =>
      value?_scalar (.bool b) (by simp) (by simp) fuel
  | int i =>
    exact readsBack_of_succ (.int i) fun fuel _ _ =>
      value?_scalar (.int i) (by simp) (by simp) fuel
  | str s =>
    exact readsBack_of_succ (.str s) fun fuel _ _ =>
      value?_scalar (.str s) (by simp) (by simp) fuel
  | @arr items h ih =>
    refine readsBack_of_succ (.arr h) fun fuel rest hfuel _ => ?_
    cases items with
    | nil => rfl
    | cons v vs =>
      rw [compact, List.length_cons, List.length_append, List.length_singleton] at hfuel
      exact value?_list (h v List.mem_cons_self)
        (items?_compactItems (List.cons_ne_nil v vs) ih (by omega) rest)
  | @obj entries h ih =>
    refine readsBack_of_succ (.obj h) fun fuel rest hfuel _ => ?_
    cases entries with
    | nil => rfl
    | cons e es =>
      rw [compact, List.length_cons, List.length_append, List.length_singleton] at hfuel
      exact value?_object (entries?_compactEntries (List.cons_ne_nil e es) ih (by omega) rest)

end Reader

/-- **A value on one line is read as the same value.** -/
theorem ofText?_compact {v : Json} (hv : IsExact v) : ofText? v.compact = some v := by
  have hread := Reader.value?_compact hv (v.compact.length + 1) [] (Nat.le_succ _)
    Reader.endsNumber_nil
  rw [List.append_nil] at hread
  rw [ofText?, hread]
  rfl

end Json

end ScriptTree
