import ScriptTree.Proofs.Scan.Escapes
import ScriptTree.Proofs.Scan.Progress
import ScriptTree.Proofs.Text.Numerals

/-!
# What strings and templates stand for

A character of a string can be written in several ways. Most stand for themselves
(`ScriptTree.Lexeme.IsPlain`), and all of them can be written as an escape, most in more ways than
one (`ScriptTree.Escape.Spells`). Between them the line may be broken behind a backslash. A scan
undoes all of this: it takes everything up to the closing quote as one token, and the value of the
token is what was written (`ScriptTree.Scanner.scan_of_isSpelled`).

Only two of the escapes depend on what follows: the escape for zero is none in front of a digit, and
an escaped carriage return takes a line feed behind it. Both look at one character only, which is
the closing quote if the escape is the last one.
-/

namespace ScriptTree

namespace Escape

/-- The letters that stand for another character, with what they stand for. -/
def letters : List (Char × Char) :=
  [('b', '\x08'), ('t', '\t'), ('n', '\n'), ('v', '\x0b'), ('f', '\x0c'), ('r', '\r')]

/-- The characters that have a meaning in a string or a template, and stand for themselves behind a
backslash. -/
def marks : List Char := ['"', '\'', '\x60', '$', '\\']

/-- **The ways of writing an escape**: what it stands for, and the characters behind its backslash.
`next` is the character that follows the escape. -/
inductive Spells (next : Option Char) : (value source : Text) → Prop
  | letter {a c : Char} : (a, c) ∈ letters → Spells next [c] [a]
  /-- The character with the number zero. In front of a digit it cannot be written in this way. -/
  | zero : (∀ d ∈ next, Text.isDigit d = false) → Spells next ['\x00'] ['0']
  | byte {c : Char} {digits : Text} : Text.Writes 16 digits c.toNat → digits.length = 2 →
    Spells next [c] ('x' :: digits)
  | unit {c : Char} {digits : Text} : Text.Writes 16 digits c.toNat → digits.length = 4 →
    Spells next [c] ('u' :: digits)
  | braced {c : Char} {digits : Text} : Text.Writes 16 digits c.toNat → digits.length ≤ 6 →
    Spells next [c] ('u' :: '\x7b' :: (digits ++ ['\x7d']))
  | mark {c : Char} : c ∈ marks → Spells next [c] [c]
  /-- A line break behind a backslash stands for nothing. -/
  | line {c : Char} : c ∈ ['\n', '\u2028', '\u2029'] → Spells next [] [c]
  /-- Nor does one of two characters. -/
  | lines : Spells next [] ['\r', '\n']
  /-- A carriage return is a line break of its own, unless it is the first of those two. -/
  | carriage : next ≠ some '\n' → Spells next [] ['\r']

variable {c : Char} {digits value source : Text}

/-- The digits of the number of a character are read as the number. -/
theorem wordValue?_of_writes (h : Text.Writes 16 digits c.toNat) :
    Text.wordValue? 16 digits = some c.toNat :=
  Text.wordValue?_eq_some_iff.mpr ⟨c.val.toNat_lt, .inl h⟩

/-- The digits of a number are hexadecimal ones. -/
theorem isHexDigit_of_writes {n : Nat} (h : Text.Writes 16 digits n) :
    ∀ d ∈ digits, Text.isHexDigit d = true := by
  intro d hd
  have hvalue : Text.digitValue? 16 d ≠ none := fun hnone => h.not_mem hnone hd
  obtain ⟨v, hv⟩ := Option.ne_none_iff_exists'.mp hvalue
  exact isHexDigit_of_digitValue? hv

/-- A text without a closing brace is split at the brace behind it. -/
theorem splitBrace?_append {before : Text} (h : '\x7d' ∉ before) (behind : Text) :
    splitBrace? (before ++ '\x7d' :: behind) = some (before, behind) := by
  induction before with
  | nil => rfl
  | cons d before ih =>
    obtain ⟨hd, hbefore⟩ := not_or.mp (mt List.mem_cons.mpr h)
    rw [List.cons_append, splitBrace?, ih hbefore]
    · rfl
    · exact fun heq => hd heq.symm

/-- A Unicode escape with four digits. -/
theorem unicodeBody?_of_writes (h : Text.Writes 16 digits c.toNat) (hlength : digits.length = 4)
    (next : Text) : unicodeBody? (digits ++ next) = some (c, 4) := by
  have htake : (digits ++ next).take 4 = digits := List.take_left' hlength
  have hall : digits.all Text.isHexDigit = true := List.all_eq_true.mpr (isHexDigit_of_writes h)
  unfold unicodeBody?
  split
  · next cs heq =>
    -- A brace would be the first digit.
    obtain ⟨d, digits, rfl⟩ := List.exists_cons_of_ne_nil h.1
    obtain ⟨rfl, -⟩ := List.cons.inj heq
    exact absurd List.mem_cons_self (h.not_mem rfl)
  · dsimp only
    rw [htake, hlength, hall, wordValue?_of_writes h]
    simp [Text.charOf?_eq_some_iff.mpr rfl]

/-- A Unicode escape with a number in braces. -/
theorem unicodeBody?_of_braced (h : Text.Writes 16 digits c.toNat) (next : Text) :
    unicodeBody? ('\x7b' :: (digits ++ '\x7d' :: next)) = some (c, digits.length + 2) := by
  rw [unicodeBody?, splitBrace?_append (h.not_mem rfl)]
  simp [wordValue?_of_writes h, Text.charOf?_eq_some_iff.mpr rfl]

/-- **An escape is read as what it stands for**, and nothing more is taken. -/
theorem read_of_spells {next : Text} (h : Spells next.head? value source) :
    read (source ++ next) = (value, source.length) := by
  cases h with
  | letter hmem =>
    simp only [letters, List.mem_cons, Prod.mk.injEq, List.not_mem_nil, or_false] at hmem
    rcases hmem with ⟨rfl, rfl⟩ | ⟨rfl, rfl⟩ | ⟨rfl, rfl⟩ | ⟨rfl, rfl⟩ | ⟨rfl, rfl⟩ | ⟨rfl, rfl⟩
    all_goals rfl
  | zero hnext =>
    have hdigit : next.head?.any Text.isDigit = false := by
      cases hhead : next.head? with
      | none => rfl
      | some d => exact hnext d hhead
    rw [List.singleton_append, read, hdigit]
    rfl
  | @byte c digits hdigits hlength =>
    have htake : (digits ++ next).take 2 = digits := List.take_left' hlength
    rw [List.cons_append, read, htake, hlength]
    simp [wordValue?_of_writes hdigits, hlength]
  | @unit c digits hdigits hlength =>
    rw [List.cons_append, read, unicodeBody?_of_writes hdigits hlength, List.length_cons, hlength]
  | @braced c digits hdigits hlength =>
    have hsource : 'u' :: '\x7b' :: (digits ++ ['\x7d']) ++ next =
        'u' :: '\x7b' :: (digits ++ '\x7d' :: next) := by simp
    rw [hsource, read, unicodeBody?_of_braced hdigits]
    simp
  | mark hmem =>
    simp only [marks, List.mem_cons, List.not_mem_nil, or_false] at hmem
    rcases hmem with rfl | rfl | rfl | rfl | rfl
    all_goals rfl
  | line hmem =>
    simp only [List.mem_cons, List.not_mem_nil, or_false] at hmem
    rcases hmem with rfl | rfl | rfl
    all_goals rfl
  | lines => rfl
  | carriage hnext =>
    rw [List.singleton_append, read, beq_false_of_ne hnext]
    rfl

end Escape

namespace Lexeme

/-- **A character that stands for itself between two quotes.** In a template it may be a line feed,
but it may not be a dollar sign, which could start a substitution. -/
def IsPlain (quote c : Char) : Prop :=
  c ≠ quote ∧ c ≠ '\\' ∧ c ≠ '\r' ∧ if quote = '\x60' then c ≠ '$' else c ≠ '\n'

/-- **The ways of writing a text between two quotes.** -/
inductive IsSpelled (quote : Char) : (value body : Text) → Prop
  | nil : IsSpelled quote [] []
  | plain {c : Char} {value body : Text} : IsPlain quote c → IsSpelled quote value body →
    IsSpelled quote (c :: value) (c :: body)
  /-- Behind an escape the rest follows, and behind that the closing quote. -/
  | escape {part source value body : Text} : Escape.Spells (body ++ [quote]).head? part source →
    IsSpelled quote value body → IsSpelled quote (part ++ value) ('\\' :: (source ++ body))

/-- A reader of quoted texts goes on as it should: it ends at the closing quote, takes a plain
character as it is, and takes an escape for what it stands for. -/
structure ReadsQuoted {ending : Type} (quote : Char) (closed : ending)
    (run : Text → QuotedRun ending) : Prop where
  quote_eq : ∀ rest, run (quote :: rest) = ⟨[quote], [], closed⟩
  plain_eq : ∀ c cs, IsPlain quote c → run (c :: cs) = (run cs).before [c] [c]
  escape_eq : ∀ {next value source : Text}, Escape.Spells next.head? value source →
    run ('\\' :: (source ++ next)) = (run next).before ('\\' :: source) value

variable {ending : Type} {quote : Char} {closed : ending} {run : Text → QuotedRun ending}
  {value body : Text}

/-- **Such a reader finds the closing quote and what was written.** -/
theorem ReadsQuoted.eq_of_isSpelled (h : ReadsQuoted quote closed run)
    (hspelled : IsSpelled quote value body) (rest : Text) :
    run (body ++ quote :: rest) = ⟨body ++ [quote], value, closed⟩ := by
  -- What follows the text is the same in every step: the rest of it, and the closing quote.
  induction hspelled with
  | nil => exact h.quote_eq rest
  | plain hc _ ih =>
    rw [List.cons_append, h.plain_eq _ _ hc, ih]
    rfl
  | @escape part source value body hpart _ ih =>
    -- The escape looks at one character only, so that what stands behind the quote does not matter.
    have hnext : (body ++ quote :: rest).head? = (body ++ [quote]).head? := by
      cases body <;> rfl
    rw [List.cons_append, List.append_assoc, h.escape_eq (hnext ▸ hpart), ih]
    simp [QuotedRun.before]

theorem readsQuoted_stringRun (hquote : quote = '"' ∨ quote = '\'') :
    ReadsQuoted quote true (stringRun quote 0) where
  quote_eq rest := by rw [stringRun, if_pos rfl]
  plain_eq c cs hc := by
    obtain ⟨hne, hescape, hreturn, hfeed⟩ := hc
    rw [if_neg (by rcases hquote with rfl | rfl <;> decide)] at hfeed
    rw [stringRun, if_neg hne, if_neg hescape, if_neg (not_or.mpr ⟨hfeed, hreturn⟩)]
    rfl
  escape_eq := by
    intro next value source hspells
    have hback : '\\' ≠ quote := by rcases hquote with rfl | rfl <;> decide
    rw [stringRun, if_neg hback, if_pos rfl, Escape.read_of_spells hspells]
    -- The rest of the escape is passed over, whatever its characters are.
    dsimp only
    rw [stringRun_skip]
    rfl

theorem readsQuoted_templateRun : ReadsQuoted '\x60' .quote (templateRun 0) where
  quote_eq rest := by rw [templateRun, if_pos rfl]
  plain_eq c cs hc := by
    obtain ⟨hne, hescape, hreturn, hdollar⟩ := hc
    rw [if_pos rfl] at hdollar
    rw [templateRun, if_neg hne, if_neg fun h => hdollar h.1, if_neg hescape, if_neg hreturn]
    rfl
  escape_eq := by
    intro next value source hspells
    rw [templateRun, if_neg (by decide), if_neg fun h => absurd h.1 (by decide), if_pos rfl,
      Escape.read_of_spells hspells]
    dsimp only
    rw [templateRun_skip]
    rfl

/-- The kind of a quoted text without substitutions. -/
def quotedKind (quote : Char) : SyntaxKind :=
  if quote = '\x60' then .noSubstitutionTemplateLiteral else .stringLiteral

/-- A quote is always the start of a string or a template. -/
theorem read?_of_quote {target : ScriptTarget} {atStart : Bool} (cs : Text)
    (hquote : quote ∈ ['"', '\'', '\x60']) :
    read? target atStart (quote :: cs) =
      some (if quote = '\x60' then template cs else string quote cs) := by
  simp only [List.mem_cons, List.not_mem_nil, or_false] at hquote
  rcases hquote with rfl | rfl | rfl
  all_goals simp [read?, token, Text.isLineBreak, Text.isBlank, Text.inRanges]

/-- **A quoted text is read as one token.** -/
theorem read?_of_isSpelled {target : ScriptTarget} {atStart : Bool}
    (hquote : quote ∈ ['"', '\'', '\x60']) (hspelled : IsSpelled quote value body) (rest : Text) :
    read? target atStart (quote :: (body ++ quote :: rest)) =
      some ⟨quotedKind quote, quote :: (body ++ [quote]), value, {}⟩ := by
  rw [read?_of_quote _ hquote, quotedKind]
  split
  · next htemplate =>
    subst htemplate
    rw [template, readsQuoted_templateRun.eq_of_isSpelled hspelled]
    rfl
  · next htemplate =>
    have hstring : quote = '"' ∨ quote = '\'' := by
      simpa [htemplate] using hquote
    rw [string, (readsQuoted_stringRun hstring).eq_of_isSpelled hspelled]
    rfl

end Lexeme

namespace Scanner

/-- **A scan undoes every way of writing a string or a template.** Wherever a quoted text starts, a
scan takes all of it, up to its closing quote, and its value is the text that was written. -/
theorem scan_of_isSpelled {s : Scanner} {quote : Char} {value body rest : Text}
    (hquote : quote ∈ ['"', '\'', '\x60']) (hspelled : Lexeme.IsSpelled quote value body)
    (h : s.text.dropBytes? s.pos = some (quote :: (body ++ quote :: rest))) :
    s.scan.kind = Lexeme.quotedKind quote ∧
      s.scan.start = s.pos ∧
      s.scan.pos = s.pos + Text.byteLength (quote :: (body ++ [quote])) ∧
      s.scan.value = value ∧
      s.scan.flags.unterminated = false := by
  have hread :=
    @Lexeme.read?_of_isSpelled quote value body s.target (s.pos == 0) hquote hspelled rest
  have htoken : (Lexeme.quotedKind quote).isTrivia = false := by
    rw [Lexeme.quotedKind]
    split <;> rfl
  rw [scan_eq_accept h hread htoken]
  exact ⟨rfl, rfl, rfl, rfl, rfl⟩

/-- A string with a letter that stands for itself, a broken line and escapes. The last one is for
zero, and the digit behind the quote does not disturb it. -/
theorem scan_escapes :
    let s := ofText ['"', 'a', '\\', 'x', '4', '1', '\\', '\r', '\n', '\\', 'n', '\\', '"', '\\',
      '0', '"', '7'] true .latest
    s.scan.kind = .stringLiteral ∧ s.scan.start = 0 ∧ s.scan.pos = 16 ∧
      s.scan.value = ['a', 'A', '\n', '"', '\x00'] ∧ s.scan.flags.unterminated = false := by
  have hspelled : Lexeme.IsSpelled '"' ['a', 'A', '\n', '"', '\x00']
      ['a', '\\', 'x', '4', '1', '\\', '\r', '\n', '\\', 'n', '\\', '"', '\\', '0'] := by
    have hbyte : Text.Writes 16 ['4', '1'] 'A'.toNat := ⟨by decide, [4, 1], by decide, by decide⟩
    refine .plain ⟨by decide, by decide, by decide, by decide⟩ ?_
    refine .escape (.byte hbyte rfl) ?_
    refine .escape .lines ?_
    refine .escape (.letter (by decide)) ?_
    refine .escape (.mark (by decide)) ?_
    refine .escape (.zero fun d hd => ?_) .nil
    cases hd
    rfl
  exact scan_of_isSpelled List.mem_cons_self hspelled (Text.dropBytes?_zero _)

end Scanner

end ScriptTree
