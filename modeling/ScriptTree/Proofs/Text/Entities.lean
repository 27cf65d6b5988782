import Mathlib.Data.List.Nodup
import Mathlib.Data.List.TakeWhile
import ScriptTree.Proofs.Text.Numerals
import ScriptTree.Text.Entity

/-!
# The grammar of character references

A reference is what stands between an ampersand and a semicolon: a name of the table
(`ScriptTree.Entity.IsNamed`), or a number sign with the number of a character in one of two bases
(`ScriptTree.Entity.Numbers`). Decoding a text replaces references from left to right and keeps
every other character (`ScriptTree.Entity.Replaces`), but only those references that take nine bytes
at most (`ScriptTree.Entity.replaces_decode`): a number that is padded with more zeros stays as it
is written.

What is read between the ampersand and the semicolon is more than the grammar has: the digits of a
number may also stand behind a plus sign. Which of these are replaced is left open in the result.
-/

namespace ScriptTree

namespace Entity

variable {sign body rest : Text} {c : Char}

/-! ### The table of names -/

/-- The names of the table, as characters. -/
def names : List Text := named.map fun p => p.1.toList

/-- A small number for every name, so that the names of the table are told apart by marking bits of
a word, and not pair by pair. -/
def hash (name : Text) : Nat := name.foldr (fun c k => (k * 36 + c.toNat) % 2617) 0

/-- None of the numbers is marked in a word of bits, and none of them occurs twice. -/
def unmarked : (word : Nat) → List Nat → Bool
  | _, [] => true
  | word, k :: ks => !word.testBit k && unmarked (word ||| 2 ^ k) ks

theorem nodup_of_unmarked {word : Nat} {ks : List Nat} (h : unmarked word ks = true) :
    ks.Nodup ∧ ∀ k ∈ ks, word.testBit k = false := by
  induction ks generalizing word with
  | nil => exact ⟨List.nodup_nil, fun k hk => absurd hk List.not_mem_nil⟩
  | cons k ks ih =>
    rw [unmarked, Bool.and_eq_true, Bool.not_eq_true'] at h
    obtain ⟨hnodup, hrest⟩ := ih h.2
    simp only [Nat.testBit_or, Bool.or_eq_false_iff] at hrest
    refine ⟨List.nodup_cons.mpr ⟨fun hk => ?_, hnodup⟩,
      List.forall_mem_cons.mpr ⟨h.1, fun j hj => (hrest j hj).1⟩⟩
    have hmark := (hrest k hk).2
    rw [Nat.testBit_two_pow_self] at hmark
    cases hmark

set_option maxRecDepth 4000 in
/-- What is checked of the table: different names have different numbers, and a name is short and
has none of the marks around it. -/
theorem names_checked :
    unmarked 0 (names.map hash) = true ∧
      ∀ name ∈ names, (1 ≤ Text.byteLength name ∧ Text.byteLength name ≤ 9) ∧
        ';' ∉ name ∧ '#' ∉ name := by
  unfold names named
  simp only [List.map_cons, List.map_nil, String.reduceToList]
  decide +kernel

/-- **No name stands twice in the table.** -/
theorem nodup_names : names.Nodup :=
  .of_map hash (nodup_of_unmarked names_checked.1).1

/-- Every entry of the table is about a character. -/
theorem toNat_named : ∀ p ∈ named, (Char.ofNat p.2).toNat = p.2 := by
  decide +kernel

/-- A name of the table denotes its character. -/
def IsNamed (body : Text) (c : Char) : Prop := (String.ofList body, c.toNat) ∈ named

theorem IsNamed.mem_names (h : IsNamed body c) : body ∈ names := by
  refine List.mem_map.mpr ⟨_, h, ?_⟩
  exact String.toList_ofList

/-- A name is looked up in the table. -/
theorem lookup_named_eq_some_iff :
    (named.lookup (String.ofList body)).map Char.ofNat = some c ↔ IsNamed body c := by
  constructor
  · intro h
    obtain ⟨n, hlookup, rfl⟩ := Option.map_eq_some_iff.mp h
    obtain ⟨s, t, hsplit, -⟩ := List.lookup_eq_some_iff.mp hlookup
    have hmem : (String.ofList body, n) ∈ named := by
      rw [hsplit]
      exact List.mem_append_right s List.mem_cons_self
    rw [IsNamed, toNat_named _ hmem]
    exact hmem
  · intro h
    obtain ⟨s, t, hsplit⟩ := List.append_of_mem h
    have hfirst : ∀ p ∈ s, (String.ofList body != p.1) = true := by
      have hnodup := nodup_names
      rw [names, hsplit, List.map_append, List.map_cons] at hnodup
      intro p hp
      refine bne_iff_ne.mpr fun heq => ?_
      exact (List.nodup_append.mp hnodup).2.2 _ (List.mem_map_of_mem hp) _ List.mem_cons_self
        (congrArg String.toList heq.symm)
    rw [List.lookup_eq_some_iff.mpr ⟨s, t, hsplit, hfirst⟩, Option.map_some, Char.ofNat_toNat]

/-! ### References -/

/-- A number sign, and the number of a character in decimal digits, or in hexadecimal digits behind
an `x` in either case; the digits stand behind a sign. -/
inductive Numbers (sign : Text) : Text → Char → Prop
  /-- The number in decimal digits. -/
  | decimal {digits : Text} {c : Char} :
    Text.Writes 10 digits c.toNat → Numbers sign ('#' :: (sign ++ digits)) c
  /-- The number in hexadecimal digits. -/
  | hexadecimal {mark : Char} {digits : Text} {c : Char} :
    mark = 'x' ∨ mark = 'X' → Text.Writes 16 digits c.toNat →
      Numbers sign ('#' :: mark :: (sign ++ digits)) c

/-- **A reference**: the name of a character, or its number without a sign. -/
def IsReference (body : Text) (c : Char) : Prop := IsNamed body c ∨ Numbers [] body c

/-- What takes nine bytes at most. -/
def IsShort (ref : Text → Char → Prop) (body : Text) (c : Char) : Prop :=
  ref body c ∧ Text.byteLength body ≤ 9

/-- What is read as a reference: one of the grammar, or a number behind a plus sign. -/
def IsRead (body : Text) (c : Char) : Prop := IsReference body c ∨ Numbers ['+'] body c

/-- The number of a character is read with a plus sign or without one. -/
theorem bind_charOf?_eq_some_iff {base : Nat} {cs : Text} :
    (Text.wordValue? base cs).bind Text.charOf? = some c ↔
      ∃ sign, (sign = [] ∨ sign = ['+']) ∧
        ∃ digits, cs = sign ++ digits ∧ Text.Writes base digits c.toNat := by
  simp only [Option.bind_eq_some_iff, Text.charOf?_eq_some_iff, Text.wordValue?_eq_some_iff]
  constructor
  · rintro ⟨n, ⟨-, h | ⟨digits, rfl, h⟩⟩, rfl⟩
    · exact ⟨[], .inl rfl, cs, rfl, h⟩
    · exact ⟨['+'], .inr rfl, digits, rfl, h⟩
  · rintro ⟨sign, hsign, digits, rfl, h⟩
    refine ⟨c.toNat, ⟨c.val.toNat_lt, ?_⟩, rfl⟩
    rcases hsign with rfl | rfl
    · exact .inl h
    · exact .inr ⟨digits, rfl, h⟩

theorem Numbers.isRead (h : Numbers sign body c) (hsign : sign = [] ∨ sign = ['+']) :
    IsRead body c := by
  rcases hsign with rfl | rfl
  · exact .inl (.inr h)
  · exact .inr h

/-- The number of a character is read as the character. -/
theorem Numbers.decodeBody?_eq (h : Numbers sign body c) (hsign : sign = [] ∨ sign = ['+']) :
    decodeBody? body = some c := by
  cases h with
  | @decimal digits _ h =>
    have hread : (Text.wordValue? 10 (sign ++ digits)).bind Text.charOf? = some c :=
      bind_charOf?_eq_some_iff.mpr ⟨sign, hsign, digits, rfl, h⟩
    -- No decimal digit is an `x`, so the number is not taken for a hexadecimal one.
    have hmark {m : Char} (hm : m = 'x' ∨ m = 'X') : m ∉ sign ++ digits := by
      rw [List.mem_append, not_or]
      rcases hm with rfl | rfl
      · exact ⟨by rcases hsign with rfl | rfl <;> decide, h.not_mem rfl⟩
      · exact ⟨by rcases hsign with rfl | rfl <;> decide, h.not_mem rfl⟩
    rw [decodeBody?, hread]
    · exact fun cs hcs => hmark (.inl rfl) (hcs ▸ List.mem_cons_self)
    · exact fun cs hcs => hmark (.inr rfl) (hcs ▸ List.mem_cons_self)
  | @hexadecimal mark digits _ hmark h =>
    have hread : (Text.wordValue? 16 (sign ++ digits)).bind Text.charOf? = some c :=
      bind_charOf?_eq_some_iff.mpr ⟨sign, hsign, digits, rfl, h⟩
    rcases hmark with rfl | rfl
    · exact hread
    · exact hread

theorem IsNamed.decodeBody?_eq (h : IsNamed body c) : decodeBody? body = some c := by
  have hsign : '#' ∉ body := (names_checked.2 body h.mem_names).2.2
  rw [decodeBody?, lookup_named_eq_some_iff.mpr h]
  · exact fun cs hcs => hsign (hcs ▸ List.mem_cons_self)
  · exact fun cs hcs => hsign (hcs ▸ List.mem_cons_self)
  · exact fun cs hcs => hsign (hcs ▸ List.mem_cons_self)

/-- **What is read between an ampersand and a semicolon.** -/
theorem decodeBody?_eq_some_iff : decodeBody? body = some c ↔ IsRead body c := by
  constructor
  · intro h
    unfold decodeBody? at h
    split at h
    · obtain ⟨sign, hsign, digits, rfl, hw⟩ := bind_charOf?_eq_some_iff.mp h
      exact Numbers.isRead (.hexadecimal (.inl rfl) hw) hsign
    · obtain ⟨sign, hsign, digits, rfl, hw⟩ := bind_charOf?_eq_some_iff.mp h
      exact Numbers.isRead (.hexadecimal (.inr rfl) hw) hsign
    · obtain ⟨sign, hsign, digits, rfl, hw⟩ := bind_charOf?_eq_some_iff.mp h
      exact Numbers.isRead (.decimal hw) hsign
    · exact .inl (.inl (lookup_named_eq_some_iff.mp h))
  · rintro ((h | h) | h)
    · exact h.decodeBody?_eq
    · exact h.decodeBody?_eq (.inl rfl)
    · exact h.decodeBody?_eq (.inr rfl)

theorem Numbers.semicolon_not_mem (h : Numbers sign body c) (hsign : ';' ∉ sign) :
    ';' ∉ body := by
  cases h with
  | decimal h =>
    simp only [List.mem_cons, List.mem_append, not_or]
    exact ⟨by decide, hsign, h.not_mem rfl⟩
  | hexadecimal hmark h =>
    simp only [List.mem_cons, List.mem_append, not_or]
    refine ⟨by decide, ?_, hsign, h.not_mem rfl⟩
    rcases hmark with rfl | rfl
    · decide
    · decide

theorem IsRead.semicolon_not_mem (h : IsRead body c) : ';' ∉ body := by
  rcases h with (h | h) | h
  · exact (names_checked.2 body h.mem_names).2.1
  · exact h.semicolon_not_mem (by decide)
  · exact h.semicolon_not_mem (by decide)

theorem Numbers.byteLength_pos (h : Numbers sign body c) : 1 ≤ Text.byteLength body := by
  cases h with
  | decimal => exact Nat.le_add_right_of_le (Char.utf8Size_pos _)
  | hexadecimal => exact Nat.le_add_right_of_le (Char.utf8Size_pos _)

theorem IsRead.byteLength_pos (h : IsRead body c) : 1 ≤ Text.byteLength body := by
  rcases h with (h | h) | h
  · exact (names_checked.2 body h.mem_names).1.1
  · exact h.byteLength_pos
  · exact h.byteLength_pos

/-! ### Behind an ampersand -/

theorem takeWhile_body (h : ';' ∉ body) :
    (body ++ ';' :: rest).takeWhile (· != ';') = body := by
  have hbody : ∀ c ∈ body, (c != ';') = true := fun c hc =>
    bne_iff_ne.mpr fun heq => h (heq ▸ hc)
  rw [List.takeWhile_append_of_pos hbody, List.takeWhile_cons_of_neg (by decide), List.append_nil]

/-- The first semicolon divides a text in one way. -/
theorem append_semicolon_inj {body' rest' : Text} (h : ';' ∉ body) (h' : ';' ∉ body')
    (heq : body ++ ';' :: rest = body' ++ ';' :: rest') : body = body' ∧ rest = rest' := by
  have hbody := congrArg (List.takeWhile (· != ';')) heq
  rw [takeWhile_body h, takeWhile_body h'] at hbody
  subst hbody
  exact ⟨rfl, (List.cons.inj (List.append_cancel_left heq)).2⟩

/-- What stands before the first semicolon, where it is neither empty nor long. -/
theorem body?_eq_some_iff {cs : Text} :
    body? cs = some body ↔ (∃ rest, cs = body ++ ';' :: rest) ∧ ';' ∉ body ∧
      1 ≤ Text.byteLength body ∧ Text.byteLength body ≤ 9 := by
  rw [body?]
  constructor
  · intro h
    split at h
    · next hcond =>
      rw [← Option.some.inj h]
      refine ⟨?_, fun hmem => absurd (List.mem_takeWhile_imp hmem) (by decide), hcond.2⟩
      cases hdrop : cs.dropWhile (· != ';') with
      | nil =>
        have hall := List.takeWhile_append_dropWhile (p := (· != ';')) (l := cs)
        rw [hdrop, List.append_nil] at hall
        exact absurd hcond.1 (by rw [hall]; exact Nat.lt_irrefl _)
      | cons d rest =>
        have hd : d = ';' := by
          have := List.head?_dropWhile_not (· != ';') cs
          rw [hdrop] at this
          simpa using this
        rw [hd] at hdrop
        exact ⟨rest, by rw [← hdrop, List.takeWhile_append_dropWhile]⟩
    · cases h
  · rintro ⟨⟨rest, rfl⟩, hsemi, hlength⟩
    have hlt : body.length < (body ++ ';' :: rest).length := by
      rw [List.length_append, List.length_cons]
      omega
    rw [takeWhile_body hsemi, if_pos ⟨hlt, hlength⟩]

/-- **What is replaced behind an ampersand** is what is read before the first semicolon and takes
nine bytes at most. -/
theorem reference?_eq_some_iff {cs : Text} {n : Nat} :
    reference? cs = some (c, n) ↔
      ∃ body rest, cs = body ++ ';' :: rest ∧ IsShort IsRead body c ∧ n = body.length + 1 := by
  constructor
  · intro h
    obtain ⟨body, hbody, h⟩ := Option.bind_eq_some_iff.mp h
    obtain ⟨d, hd, h⟩ := Option.bind_eq_some_iff.mp h
    cases h
    obtain ⟨⟨rest, hrest⟩, -, -, hnine⟩ := body?_eq_some_iff.mp hbody
    exact ⟨body, rest, hrest, ⟨decodeBody?_eq_some_iff.mp hd, hnine⟩, rfl⟩
  · rintro ⟨body, rest, rfl, ⟨hread, hnine⟩, rfl⟩
    have hbody : body? (body ++ ';' :: rest) = some body :=
      body?_eq_some_iff.mpr ⟨⟨rest, rfl⟩, hread.semicolon_not_mem, hread.byteLength_pos, hnine⟩
    rw [reference?, hbody, Option.bind_eq_bind, Option.bind_some,
      decodeBody?_eq_some_iff.mpr hread]
    rfl

/-! ### Decoding -/

/-- Characters that still belong to a reference are passed over. -/
theorem decodeFrom_append (s t : Text) : decodeFrom s.length (s ++ t) = decode t := by
  induction s with
  | nil => rfl
  | cons c s ih => rw [List.length_cons, List.cons_append, decodeFrom, ih]

/-- A reference is replaced, and what follows it is decoded on its own. -/
theorem decode_reference (h : IsShort IsRead body c) (rest : Text) :
    decode ('&' :: (body ++ ';' :: rest)) = c :: decode rest := by
  have hread := reference?_eq_some_iff.mpr ⟨body, rest, rfl, h, rfl⟩
  have hskip : decodeFrom (body.length + 1) (body ++ ';' :: rest) = decode rest := by
    have := decodeFrom_append (body ++ [';']) rest
    rwa [List.length_append, List.append_assoc] at this
  rw [decode, decodeFrom, if_pos rfl, hread]
  exact congrArg (c :: ·) hskip

/-- A character is kept where no reference starts. -/
theorem decode_keep {cs : Text}
    (h : ∀ body rest d, c :: cs = '&' :: (body ++ ';' :: rest) → ¬IsShort IsRead body d) :
    decode (c :: cs) = c :: decode cs := by
  rw [decode, decodeFrom]
  split
  · next hamp =>
    split
    · next d n hread =>
      obtain ⟨body, rest, rfl, hshort, -⟩ := reference?_eq_some_iff.mp hread
      exact absurd hshort (h body rest d (by rw [hamp]))
    · rfl
  · rfl

/-- **Replacing references from left to right.** Where a reference stands behind an ampersand, its
character takes its place, up to the semicolon; where none does, a character is kept. What has taken
the place of a reference is not read again. -/
inductive Replaces (ref : Text → Char → Prop) : Text → Text → Prop
  /-- Nothing is left. -/
  | nil : Replaces ref [] []
  /-- A reference is replaced. -/
  | reference {body rest out : Text} {c : Char} :
    ref body c → Replaces ref rest out → Replaces ref ('&' :: (body ++ ';' :: rest)) (c :: out)
  /-- A character is kept where no reference starts. -/
  | keep {c : Char} {cs out : Text} :
    (∀ body rest d, c :: cs = '&' :: (body ++ ';' :: rest) → ¬ref body d) →
      Replaces ref cs out → Replaces ref (c :: cs) (c :: out)

/-- There is one way of replacing references that denote one character each, and end at the first
semicolon. -/
theorem Replaces.unique {ref : Text → Char → Prop} (href : ∀ body c, ref body c → IsRead body c)
    {text out out' : Text} (h : Replaces ref text out) (h' : Replaces ref text out') :
    out = out' := by
  induction h generalizing out' with
  | nil =>
    cases h'
    rfl
  | @reference body rest out c hbody _ ih =>
    -- The second way must begin with the same reference: both end at the first semicolon.
    generalize htext : '&' :: (body ++ ';' :: rest) = text at h'
    cases h' with
    | nil => cases htext
    | @reference body' rest' out' c' hbody' hrest' =>
      obtain ⟨rfl, rfl⟩ := append_semicolon_inj (href _ _ hbody).semicolon_not_mem
        (href _ _ hbody').semicolon_not_mem (List.cons.inj htext).2
      have hc : some c = some c' := by
        rw [← decodeBody?_eq_some_iff.mpr (href _ _ hbody),
          decodeBody?_eq_some_iff.mpr (href _ _ hbody')]
      rw [Option.some.inj hc, ih hrest']
    | keep hkeep _ => exact absurd hbody (hkeep body rest c htext.symm)
  | @keep c cs out hkeep _ ih =>
    generalize htext : c :: cs = text at h'
    cases h' with
    | nil => cases htext
    | reference hbody _ => exact absurd hbody (hkeep _ _ _ htext)
    | keep _ hrest =>
      obtain ⟨rfl, rfl⟩ := List.cons.inj htext
      rw [ih hrest]

/-- Decoding replaces what it reads, where that is short. -/
theorem replaces_decode (text : Text) : Replaces (IsShort IsRead) text (decode text) := by
  -- A reference takes several characters at once, so the induction is on the length.
  induction hn : text.length using Nat.strongRecOn generalizing text with
  | ind n ih =>
    cases text with
    | nil => exact .nil
    | cons c cs =>
      by_cases h : ∃ body rest d, c :: cs = '&' :: (body ++ ';' :: rest) ∧ IsShort IsRead body d
      · obtain ⟨body, rest, d, heq, hshort⟩ := h
        rw [heq] at hn ⊢
        rw [decode_reference hshort]
        refine .reference hshort (ih rest.length ?_ rest rfl)
        rw [← hn, List.length_cons, List.length_append, List.length_cons]
        omega
      · have hkeep : ∀ body rest d, c :: cs = '&' :: (body ++ ';' :: rest) →
            ¬IsShort IsRead body d := fun body rest d heq hshort =>
          h ⟨body, rest, d, heq, hshort⟩
        rw [decode_keep hkeep]
        exact .keep hkeep (ih cs.length (hn ▸ Nat.lt_succ_self _) cs rfl)

/-- **Decoding follows the grammar of references**, as far as they are short: the text that it gives
is the one, and the only one, that replaces the references of nine bytes at most, and maybe some
numbers behind a plus sign. -/
theorem replaces_iff_eq_decode :
    ∃ signed : Text → Char → Prop, (∀ body c, signed body c → Numbers ['+'] body c) ∧
      ∀ text out, Replaces (fun body c => IsShort IsReference body c ∨ signed body c) text out ↔
        out = decode text := by
  refine ⟨IsShort (Numbers ['+']), fun _ _ h => h.1, fun text out => ?_⟩
  have href : (fun body c => IsShort IsReference body c ∨ IsShort (Numbers ['+']) body c) =
      IsShort IsRead := by
    funext body c
    exact propext or_and_right.symm
  rw [href]
  constructor
  · exact fun h => h.unique (fun _ _ hshort => hshort.1) (replaces_decode text)
  · rintro rfl
    exact replaces_decode text

example : decode "AT&T &lt;&#65;&#x42;&bogus;".toList = "AT&T <AB&bogus;".toList := by decide

/-- A number that is padded with zeros beyond nine bytes is a reference, and stays as it is. -/
theorem not_replaces_padded :
    Replaces IsReference "&#000000065;".toList ['A'] ∧
      ¬Replaces IsReference "&#000000065;".toList (decode "&#000000065;".toList) := by
  have hbody : IsReference "#000000065".toList 'A' :=
    .inr (.decimal ⟨by decide, [0, 0, 0, 0, 0, 0, 0, 6, 5], by decide, by decide⟩)
  have hreplaced : Replaces IsReference "&#000000065;".toList ['A'] := .reference hbody .nil
  refine ⟨hreplaced, fun h => ?_⟩
  have heq := h.unique (fun _ _ => .inl) hreplaced
  revert heq
  decide

end Entity

end ScriptTree
