import Mathlib.Data.List.TakeWhile
import Mathlib.Tactic.SplitIfs
import ScriptTree.Proofs.Text.Cut
import ScriptTree.Scan.Scanner

/-!
# What a lexeme takes of a text

Every reader of `ScriptTree.Lexeme` returns the characters that it took. They are a first part
of the text that it was given (`ScriptTree.Lexeme.raw_prefix_of_read?`), so that reading on
behind them neither skips nor repeats anything.

A lexeme may be empty, in one case only (`ScriptTree.Lexeme.raw_eq_nil_iff_of_read?`): a Unicode
escape sends the scanner to the reader of names, whatever it denotes, and that reader takes
nothing if no name starts with the character denoted. `ScriptTree.Escape.isStray` singles out
these texts.
-/

namespace ScriptTree

/-- A text starts with a Unicode escape, and no name starts with the character that the escape
denotes. -/
def Escape.isStray (target : ScriptTarget) (cs : Text) : Bool :=
  (Escape.unicode? cs).any fun p => !Text.isNameStart target p.1

/-- What starts with another character than a backslash starts with no escape. -/
theorem Escape.isStray_cons_of_ne (target : ScriptTarget) {c : Char} (cs : Text) (h : c ≠ '\\') :
    Escape.isStray target (c :: cs) = false := by
  rw [isStray, unicode?]
  · rfl
  · rintro rest ⟨hc, -⟩
    exact h rfl

/-- Punctuation is no keyword. -/
theorem SyntaxKind.isAnyKeyword_of_isPunctuation {k : SyntaxKind} (h : k.isPunctuation = true) :
    k.isAnyKeyword = false := by
  simp only [SyntaxKind.isPunctuation, SyntaxKind.isAnyKeyword, SyntaxKind.isBetween,
    Bool.and_eq_true, decide_eq_true_eq, Bool.and_eq_false_iff, decide_eq_false_iff_not] at h ⊢
  have hbetween : SyntaxKind.caretEqualsToken.ordinal < SyntaxKind.breakKeyword.ordinal := by decide
  omega

namespace Lexeme

variable (target : ScriptTarget)

/-! ### The cases of the reader -/

/-- The ways in which a token starts. -/
inductive TokenForm (c : Char) (cs : Text) : Lexeme → Prop
  | string : c = '"' ∨ c = '\'' → TokenForm c cs (string c cs)
  | template : c = '\x60' → TokenForm c cs (template cs)
  | number : Text.isDigit c = true ∨ (c = '.' ∧ cs.head?.any Text.isDigit = true) →
      TokenForm c cs (number (c :: cs))
  | privateName : c = '#' → TokenForm c cs (privateName target cs)
  /-- A name, unless an escape at its start is a stray one. -/
  | name : (c = '\\' ∧ (Escape.unicode? (c :: cs)).isSome = true) ∨
        (c ≠ '\\' ∧ Text.isNameStart target c = true) →
      TokenForm c cs (name target (c :: cs))
  | punctuator {kind : SyntaxKind} {n : Nat} : punctuator? (c :: cs) = some (kind, n) →
      TokenForm c cs (punctuator kind n (c :: cs))
  /-- A number sign, or a character that belongs to no token. -/
  | single {kind : SyntaxKind} : (kind = .hashToken ∧ c = '#') ∨ kind = .unknown →
      (Escape.unicode? (c :: cs)).isSome = false →
      TokenForm c cs (Lexeme.punctuator kind 1 (c :: cs))

theorem unicode?_isSome_of_ne {c : Char} (cs : Text) (h : c ≠ '\\') :
    (Escape.unicode? (c :: cs)).isSome = false := by
  rw [Escape.unicode?]
  · rfl
  · rintro rest ⟨hc, -⟩
    exact h rfl

theorem token_form (c : Char) (cs : Text) : TokenForm target c cs (token target c cs) := by
  unfold token
  split
  · next h => exact .string h
  split
  · next h => exact .template h
  split
  · next h => exact .number h
  split
  · next h =>
    split
    · exact .privateName h
    · exact .single (.inl ⟨rfl, h⟩) (unicode?_isSome_of_ne cs (by rw [h]; decide))
  split
  · next h =>
    split
    · next hsome => exact .name (.inl ⟨h, hsome⟩)
    · next hnone => exact .single (.inr rfl) (Bool.eq_false_iff.mpr hnone)
  · next hback =>
    split
    · next h => exact .punctuator h
    · split
      · next h => exact .name (.inr ⟨hback, h⟩)
      · exact .single (.inr rfl) (unicode?_isSome_of_ne cs hback)

/-- The ways in which a text starts. -/
inductive ReadForm (c : Char) (cs : Text) : Bool → Lexeme → Prop
  | shebang : c = '#' → cs.head? = some '!' →
      ReadForm c cs true { kind := .shebangTrivia, raw := lineRest (c :: cs) }
  | lineBreak {atStart : Bool} {raw : Text} {flags : TokenFlags} :
      raw = [c] ∨ (raw = [c, '\n'] ∧ cs.head? = some '\n') → Text.isLineBreak c = true →
      ReadForm c cs atStart { kind := .newLineTrivia, raw := raw, flags := flags }
  | blank {atStart : Bool} : Text.isBlank c = true →
      ReadForm c cs atStart
        { kind := .whitespaceTrivia, raw := (c :: cs).takeWhile Text.isBlank }
  | lineComment {atStart : Bool} : c = '/' → cs.head? = some '/' →
      ReadForm c cs atStart (lineComment (cs.drop 1))
  | blockComment {atStart : Bool} : c = '/' → cs.head? = some '*' →
      ReadForm c cs atStart (blockComment (cs.drop 1))
  | token {atStart : Bool} {l : Lexeme} : TokenForm target c cs l → ReadForm c cs atStart l

theorem read?_form {atStart : Bool} {c : Char} {cs : Text} {l : Lexeme}
    (h : read? target atStart (c :: cs) = some l) : ReadForm target c cs atStart l := by
  rw [read?, Option.some.injEq] at h
  subst h
  split
  · next h =>
    obtain ⟨hstart, hc, hbang⟩ := h
    rw [hstart]
    exact .shebang hc hbang
  split
  · next h => exact .lineBreak (.inr ⟨rfl, h.2⟩) (by rw [h.1]; decide)
  split
  · next h => exact .lineBreak (.inl rfl) h
  split
  · next h => exact .blank h
  split
  · next h => exact .lineComment h.1 h.2
  split
  · next h => exact .blockComment h.1 h.2
  · exact .token (token_form target c cs)

/-! ### First parts -/

/-- A character that a name may start with, or go on with. -/
def nameFits (first : Bool) (c : Char) : Bool :=
  if first then Text.isNameStart target c else Text.isNamePart target c

theorem nameRun_zero_cons (first : Bool) (c : Char) (cs : Text) :
    nameRun target 0 first (c :: cs) =
      if c = '\\' then
        match Escape.unicode? (c :: cs) with
        | some (d, n) =>
          if nameFits target first d then
            { raw := c :: (nameRun target (n - 1) false cs).raw
              value := d :: (nameRun target (n - 1) false cs).value
              flags := (nameRun target (n - 1) false cs).flags.union
                { unicodeEscape := true
                  extendedUnicodeEscape := (cs.drop 1).head? == some '\x7b' } }
          else {}
        | none => {}
      else if nameFits target first c then
        { raw := c :: (nameRun target 0 false cs).raw
          value := c :: (nameRun target 0 false cs).value
          flags := (nameRun target 0 false cs).flags }
      else {} := by
  rw [nameRun]
  cases first <;> rfl

theorem nameRun_raw_isPrefix (skip : Nat) (first : Bool) (cs : Text) :
    (nameRun target skip first cs).raw <+: cs := by
  induction cs generalizing skip first with
  | nil => cases skip <;> exact List.nil_prefix
  | cons c cs ih =>
    cases skip with
    | succ skip =>
      rw [nameRun]
      exact List.cons_prefix_cons.mpr ⟨rfl, ih skip first⟩
    | zero =>
      rw [nameRun_zero_cons]
      split
      · split
        · split
          · exact List.cons_prefix_cons.mpr ⟨rfl, ih _ false⟩
          · exact List.nil_prefix
        · exact List.nil_prefix
      · split
        · exact List.cons_prefix_cons.mpr ⟨rfl, ih 0 false⟩
        · exact List.nil_prefix

theorem digitRun_isPrefix (isDigit : Char → Bool) (cs : Text) : digitRun isDigit cs <+: cs :=
  List.takeWhile_prefix _

/-- A first part of a text, followed by a first part of what is left. -/
theorem append_isPrefix {u v cs : Text} (hu : u <+: cs) (hv : v <+: cs.drop u.length) :
    u ++ v <+: cs := by
  obtain ⟨w, hw⟩ := hv
  refine ⟨w, ?_⟩
  rw [List.append_assoc, hw]
  exact (Text.eq_append_drop hu).symm

theorem fractionPart_raw_isPrefix (cs : Text) : (fractionPart cs).raw <+: cs := by
  unfold fractionPart
  split
  · exact List.cons_prefix_cons.mpr ⟨rfl, digitRun_isPrefix _ _⟩
  · exact List.nil_prefix

theorem exponentPart_raw_isPrefix (cs : Text) : (exponentPart cs).raw <+: cs := by
  unfold exponentPart
  split
  · next mark rest =>
    split_ifs
    · dsimp only
      split_ifs
      · refine List.cons_prefix_cons.mpr ⟨rfl, append_isPrefix ?_ (digitRun_isPrefix _ _)⟩
        split
        · exact List.cons_prefix_cons.mpr ⟨rfl, List.nil_prefix⟩
        · exact List.cons_prefix_cons.mpr ⟨rfl, List.nil_prefix⟩
        · exact List.nil_prefix
      · exact List.nil_prefix
    · exact List.nil_prefix
  · exact List.nil_prefix

theorem decimalPart_raw_isPrefix (cs : Text) : (decimalPart cs).raw <+: cs := by
  rw [decimalPart]
  exact append_isPrefix (append_isPrefix (digitRun_isPrefix _ _) (fractionPart_raw_isPrefix _))
    (exponentPart_raw_isPrefix _)

theorem numberPart_raw_isPrefix (cs : Text) : (numberPart cs).raw <+: cs := by
  unfold numberPart
  split
  · next mark rest =>
    have hmark (v : Text) (hv : v <+: rest) : ['0', mark] ++ v <+: '0' :: mark :: rest :=
      List.cons_prefix_cons.mpr ⟨rfl, List.cons_prefix_cons.mpr ⟨rfl, hv⟩⟩
    split_ifs
    · exact hmark _ (digitRun_isPrefix _ _)
    · exact hmark _ (digitRun_isPrefix _ _)
    · exact hmark _ (digitRun_isPrefix _ _)
    · exact List.cons_prefix_cons.mpr ⟨rfl, digitRun_isPrefix _ _⟩
    · exact decimalPart_raw_isPrefix _
  · exact decimalPart_raw_isPrefix _

theorem number_raw_isPrefix (cs : Text) : (number cs).raw <+: cs := by
  have hpart := numberPart_raw_isPrefix cs
  rw [number]
  split_ifs with hn
  · refine append_isPrefix hpart ?_
    cases hrest : cs.drop (numberPart cs).raw.length with
    | nil => simp [hrest] at hn
    | cons d ds =>
      rw [hrest, List.head?_cons, Option.some.injEq] at hn
      exact List.cons_prefix_cons.mpr ⟨hn.symm, List.nil_prefix⟩
  · exact hpart

theorem stringRun_raw_isPrefix (quote : Char) (skip : Nat) (cs : Text) :
    (stringRun quote skip cs).raw <+: cs := by
  induction cs generalizing skip with
  | nil => cases skip <;> exact List.nil_prefix
  | cons c cs ih =>
    cases skip with
    | succ skip => exact List.cons_prefix_cons.mpr ⟨rfl, ih skip⟩
    | zero =>
      rw [stringRun]
      split_ifs
      · exact List.cons_prefix_cons.mpr ⟨rfl, List.nil_prefix⟩
      · exact List.cons_prefix_cons.mpr ⟨rfl, ih _⟩
      · exact List.nil_prefix
      · exact List.cons_prefix_cons.mpr ⟨rfl, ih 0⟩

theorem templateRun_raw_isPrefix (skip : Nat) (cs : Text) : (templateRun skip cs).raw <+: cs := by
  induction cs generalizing skip with
  | nil => cases skip <;> exact List.nil_prefix
  | cons c cs ih =>
    cases skip with
    | succ skip => exact List.cons_prefix_cons.mpr ⟨rfl, ih skip⟩
    | zero =>
      rw [templateRun]
      split_ifs with hquote hopen
      · exact List.cons_prefix_cons.mpr ⟨rfl, List.nil_prefix⟩
      · cases cs with
        | nil => simp at hopen
        | cons d ds =>
          rw [List.head?_cons, Option.some.injEq] at hopen
          exact List.cons_prefix_cons.mpr
            ⟨rfl, List.cons_prefix_cons.mpr ⟨hopen.2.symm, List.nil_prefix⟩⟩
      · exact List.cons_prefix_cons.mpr ⟨rfl, ih _⟩
      · exact List.cons_prefix_cons.mpr ⟨rfl, ih 1⟩
      · exact List.cons_prefix_cons.mpr ⟨rfl, ih 0⟩
      · exact List.cons_prefix_cons.mpr ⟨rfl, ih 0⟩

theorem blockBody_isPrefix (cs : Text) :
    ((blockBody cs).1 ++ if (blockBody cs).2 then ['*', '/'] else []) <+: cs := by
  fun_induction blockBody cs with
  | case1 => exact List.nil_prefix
  | case2 cs =>
    exact List.cons_prefix_cons.mpr ⟨rfl, List.cons_prefix_cons.mpr ⟨rfl, List.nil_prefix⟩⟩
  | case3 c cs _ ih => exact List.cons_prefix_cons.mpr ⟨rfl, ih⟩

theorem regexRun_isPrefix (escaped inClass : Bool) (cs : Text) :
    (regexRun escaped inClass cs).1 <+: cs := by
  induction cs generalizing escaped inClass with
  | nil => exact List.nil_prefix
  | cons c cs ih =>
    rw [regexRun]
    dsimp only
    split
    · exact List.nil_prefix
    · split
      · exact List.cons_prefix_cons.mpr ⟨rfl, ih false inClass⟩
      · split
        · exact List.cons_prefix_cons.mpr ⟨rfl, List.nil_prefix⟩
        · exact List.cons_prefix_cons.mpr ⟨rfl, ih _ _⟩

theorem regex_raw_isPrefix (cs : Text) : (regex target cs).raw <+: '/' :: cs := by
  rw [regex]
  refine List.cons_prefix_cons.mpr ⟨rfl, append_isPrefix (regexRun_isPrefix _ _ _) ?_⟩
  split_ifs
  · exact List.takeWhile_prefix _
  · exact List.nil_prefix

/-- What goes on behind a greater sign takes a byte for each of its characters. -/
theorem byteLength_take_of_greater? {cs : Text} {kind : SyntaxKind} {n : Nat}
    (h : greater? cs = some (kind, n)) : Text.byteLength (cs.take n) = n := by
  unfold greater? at h
  split at h <;> cases h <;> rfl

/-- **A token is a first part of the text.** -/
theorem raw_prefix_of_tokenForm {c : Char} {cs : Text} {l : Lexeme} (h : TokenForm target c cs l) :
    l.raw <+: c :: cs := by
  cases h with
  | string => exact List.cons_prefix_cons.mpr ⟨rfl, stringRun_raw_isPrefix _ _ _⟩
  | template hc => exact List.cons_prefix_cons.mpr ⟨hc.symm, templateRun_raw_isPrefix _ _⟩
  | number => exact number_raw_isPrefix _
  | privateName hc => exact List.cons_prefix_cons.mpr ⟨hc.symm, nameRun_raw_isPrefix target _ _ _⟩
  | name => exact nameRun_raw_isPrefix target _ _ _
  | punctuator => exact List.take_prefix _ _
  | single => exact List.take_prefix _ _

/-- **A lexeme is a first part of the text.** -/
theorem raw_prefix_of_read? {atStart : Bool} {cs : Text} {l : Lexeme}
    (h : read? target atStart cs = some l) : l.raw <+: cs := by
  cases cs with
  | nil => cases h
  | cons c cs =>
    -- Some forms take two characters that were compared, and something behind them.
    have hmark {d : Char} {v : Text} (hd : cs.head? = some d) (hv : v <+: cs.drop 1) :
        c :: d :: v <+: c :: cs := by
      cases cs with
      | nil => cases hd
      | cons e es =>
        rw [List.head?_cons, Option.some.injEq] at hd
        exact List.cons_prefix_cons.mpr ⟨rfl, List.cons_prefix_cons.mpr ⟨hd.symm, hv⟩⟩
    cases read?_form target h with
    | shebang => exact List.takeWhile_prefix _
    | lineBreak hraw =>
      rcases hraw with rfl | ⟨rfl, hfeed⟩
      · exact List.cons_prefix_cons.mpr ⟨rfl, List.nil_prefix⟩
      · exact hmark hfeed List.nil_prefix
    | blank => exact List.takeWhile_prefix _
    | lineComment hc hhead =>
      subst hc
      exact hmark hhead (List.takeWhile_prefix _)
    | blockComment hc hhead =>
      subst hc
      exact hmark hhead (blockBody_isPrefix _)
    | token htoken => exact raw_prefix_of_tokenForm target htoken

/-! ### The empty lexeme -/

theorem nameRun_raw_eq_nil_iff (c : Char) (cs : Text) :
    (nameRun target 0 true (c :: cs)).raw = [] ↔
      if c = '\\' then
        (Escape.unicode? (c :: cs)).all (fun p => !Text.isNameStart target p.1) = true
      else Text.isNameStart target c = false := by
  rw [nameRun_zero_cons]
  split
  · cases Escape.unicode? (c :: cs) with
    | none => simp
    | some p =>
      by_cases hp : Text.isNameStart target p.1 = true <;> simp [nameFits, hp]
  · by_cases hc : Text.isNameStart target c = true <;> simp [nameFits, hc]

theorem decimalPart_raw_ne_nil {c : Char} {cs : Text}
    (h : Text.isDigit c = true ∨ (c = '.' ∧ cs.head?.any Text.isDigit = true)) :
    (decimalPart (c :: cs)).raw ≠ [] := by
  rw [decimalPart, NumberPart.append_raw, NumberPart.append_raw]
  rcases h with hdigit | ⟨rfl, -⟩
  · have hwhole : (digitPart Text.isDigit (c :: cs)).raw ≠ [] := by
      simp [digitPart, digitRun, hdigit]
    simp [hwhole]
  · have hwhole : (digitPart Text.isDigit ('.' :: cs)).raw = [] := by
      simp [digitPart, digitRun, Text.isDigit]
    simp [hwhole, fractionPart]

theorem numberPart_raw_ne_nil {c : Char} {cs : Text}
    (h : Text.isDigit c = true ∨ (c = '.' ∧ cs.head?.any Text.isDigit = true)) :
    (numberPart (c :: cs)).raw ≠ [] := by
  unfold numberPart
  split
  · split_ifs
    · simp
    · simp
    · simp
    · simp
    · next heq _ _ _ _ => exact decimalPart_raw_ne_nil h
  · exact decimalPart_raw_ne_nil h

theorem number_raw_ne_nil {c : Char} {cs : Text}
    (h : Text.isDigit c = true ∨ (c = '.' ∧ cs.head?.any Text.isDigit = true)) :
    (number (c :: cs)).raw ≠ [] := by
  rw [number]
  split_ifs
  · simp
  · exact numberPart_raw_ne_nil h

/-- The kind of punctuation, and that it takes at least one character. -/
theorem punctuator?_eq_some {cs : Text} {kind : SyntaxKind} {n : Nat}
    (h : punctuator? cs = some (kind, n)) : kind.isPunctuation = true ∧ 0 < n := by
  unfold punctuator? at h
  split at h <;> first | (cases h; exact ⟨by decide, by decide⟩) | skip
  · split at h <;> cases h <;> exact ⟨by decide, by decide⟩
  · cases h

/-- **A token is empty only where a stray escape starts.** -/
theorem raw_eq_nil_iff_of_tokenForm {c : Char} {cs : Text} {l : Lexeme}
    (h : TokenForm target c cs l) : l.raw = [] ↔ Escape.isStray target (c :: cs) = true := by
  -- Of all forms only a name that starts with an escape may be empty.
  cases h with
  | string hc =>
    have hne : c ≠ '\\' := by
      rcases hc with rfl | rfl <;> decide
    rw [Escape.isStray_cons_of_ne target cs hne]
    simp [string]
  | template hc =>
    rw [Escape.isStray_cons_of_ne target cs (by rw [hc]; decide)]
    simp [template]
  | number hc =>
    have hne : c ≠ '\\' := by
      rcases hc with hdigit | ⟨rfl, -⟩
      · rintro rfl
        exact absurd hdigit (by decide)
      · decide
    rw [Escape.isStray_cons_of_ne target cs hne]
    simp [number_raw_ne_nil hc]
  | privateName hc =>
    rw [Escape.isStray_cons_of_ne target cs (by rw [hc]; decide)]
    simp [privateName]
  | name hc =>
    refine (nameRun_raw_eq_nil_iff target c cs).trans ?_
    rcases hc with ⟨hback, hsome⟩ | ⟨hback, hstart⟩
    · obtain ⟨p, hp⟩ := Option.isSome_iff_exists.mp hsome
      rw [if_pos hback, Escape.isStray, hp]
      rfl
    · rw [if_neg hback, Escape.isStray_cons_of_ne target cs hback, hstart]
      decide
  | punctuator hp =>
    have hpos := (punctuator?_eq_some hp).2
    have hstray : Escape.isStray target (c :: cs) = false := by
      refine Escape.isStray_cons_of_ne target cs ?_
      rintro rfl
      cases hp
    rw [hstray]
    simp [Lexeme.punctuator, Nat.ne_of_gt hpos]
  | single _ hnone =>
    have hstray : Escape.isStray target (c :: cs) = false := by
      rw [Escape.isStray, Option.isSome_eq_false_iff.mp hnone |> Option.isNone_iff_eq_none.mp]
      rfl
    rw [hstray]
    simp [Lexeme.punctuator]

/-- **A lexeme is empty only where a stray escape starts.** -/
theorem raw_eq_nil_iff_of_read? {atStart : Bool} {cs : Text} {l : Lexeme}
    (h : read? target atStart cs = some l) :
    l.raw = [] ↔ Escape.isStray target cs = true := by
  cases cs with
  | nil => cases h
  | cons c cs =>
    cases read?_form target h with
    | shebang hc =>
      rw [Escape.isStray_cons_of_ne target cs (by rw [hc]; decide)]
      subst hc
      simp [lineRest, Text.isLineBreak]
    | lineBreak hraw hbreak =>
      have hne : c ≠ '\\' := by
        rintro rfl
        exact absurd hbreak (by decide)
      rw [Escape.isStray_cons_of_ne target cs hne]
      rcases hraw with rfl | ⟨rfl, -⟩ <;> simp
    | blank hblank =>
      have hne : c ≠ '\\' := by
        rintro rfl
        exact absurd hblank (by decide)
      rw [Escape.isStray_cons_of_ne target cs hne]
      simp [hblank]
    | lineComment hc =>
      rw [Escape.isStray_cons_of_ne target cs (by rw [hc]; decide)]
      simp [lineComment]
    | blockComment hc =>
      rw [Escape.isStray_cons_of_ne target cs (by rw [hc]; decide)]
      simp [blockComment]
    | token htoken => exact raw_eq_nil_iff_of_tokenForm target htoken

/-! ### Kinds of lexemes -/

/-- A name is of the kind of names, or of that of a keyword. -/
theorem name_kind (cs : Text) :
    (name target cs).kind = .identifier ∨ (name target cs).kind.isAnyKeyword = true := by
  have htable : ∀ p ∈ SyntaxKind.keywords, p.2.isAnyKeyword = true := by decide
  rw [name]
  dsimp only
  split
  · exact .inl rfl
  · cases hword : SyntaxKind.keyword? (String.ofList (nameRun target 0 true cs).value) with
    | none => exact .inl rfl
    | some k =>
      obtain ⟨before, behind, hmem, -⟩ := List.lookup_eq_some_iff.mp hword
      refine .inr (htable (String.ofList (nameRun target 0 true cs).value, k) ?_)
      rw [hmem]
      exact List.mem_append_right _ (List.mem_cons_self ..)

theorem templateKind_first (ending : TemplateEnd) :
    templateKind true ending = .templateHead ∨
      templateKind true ending = .noSubstitutionTemplateLiteral := by
  cases ending with
  | quote => exact .inr rfl
  | substitution => exact .inl rfl
  | missing => exact .inr rfl

theorem number_kind (cs : Text) :
    (number cs).kind = .bigIntLiteral ∨ (number cs).kind = .numericLiteral := by
  rw [number]
  split_ifs
  · exact .inl rfl
  · exact .inr rfl

/-- A token is punctuation only if the table of punctuation says so, or if it is a number sign. -/
theorem punctuation_of_tokenForm {c : Char} {cs : Text} {l : Lexeme} (h : TokenForm target c cs l)
    (hkind : l.kind.isPunctuation = true) :
    (∃ n, punctuator? (c :: cs) = some (l.kind, n) ∧ l.raw = (c :: cs).take n) ∨
      (l.kind = .hashToken ∧ c = '#' ∧ l.raw = ['#']) := by
  cases h with
  | string => cases hkind
  | template =>
    rcases templateKind_first (templateRun 0 cs).ending with hk | hk <;>
      rw [template, hk] at hkind <;> cases hkind
  | number =>
    rcases number_kind (c :: cs) with hk | hk <;> rw [hk] at hkind <;> cases hkind
  | privateName => cases hkind
  | name =>
    rcases name_kind target (c :: cs) with hk | hk
    · rw [hk] at hkind
      cases hkind
    · rw [SyntaxKind.isAnyKeyword_of_isPunctuation hkind] at hk
      cases hk
  | punctuator hp => exact .inl ⟨_, hp, rfl⟩
  | single hk =>
    rcases hk with ⟨rfl, rfl⟩ | rfl
    · exact .inr ⟨rfl, rfl, rfl⟩
    · cases hkind

/-- A token is punctuation only if the table of punctuation says so, number signs apart. -/
theorem punctuator?_of_tokenForm {c : Char} {cs : Text} {l : Lexeme} (h : TokenForm target c cs l)
    (hkind : l.kind.isPunctuation = true) (hne : l.kind ≠ .hashToken) :
    ∃ n, punctuator? (c :: cs) = some (l.kind, n) ∧ l.raw = (c :: cs).take n :=
  (punctuation_of_tokenForm target h hkind).resolve_right fun hhash => hne hhash.1

/-- No token is trivia, and none is the end of the file. -/
theorem kind_of_tokenForm {c : Char} {cs : Text} {l : Lexeme} (h : TokenForm target c cs l) :
    l.kind.isTrivia = false ∧ l.kind ≠ .endOfFileToken := by
  -- The kinds of trivia come before those of words and of punctuation.
  cases h with
  | string => exact ⟨rfl, nofun⟩
  | template =>
    rw [template]
    rcases templateKind_first (templateRun 0 cs).ending with hk | hk <;> rw [hk] <;>
      exact ⟨rfl, nofun⟩
  | number =>
    rcases number_kind (c :: cs) with hk | hk <;> rw [hk] <;> exact ⟨rfl, nofun⟩
  | privateName => exact ⟨rfl, nofun⟩
  | name =>
    rcases name_kind target (c :: cs) with hk | hk
    · rw [hk]
      exact ⟨rfl, nofun⟩
    · refine ⟨?_, fun hend => by rw [hend] at hk; cases hk⟩
      simp only [SyntaxKind.isAnyKeyword, SyntaxKind.isTrivia, SyntaxKind.isBetween,
        Bool.and_eq_true, decide_eq_true_eq, Bool.and_eq_false_iff, decide_eq_false_iff_not] at hk ⊢
      have hbetween :
          SyntaxKind.conflictMarkerTrivia.ordinal < SyntaxKind.breakKeyword.ordinal := by decide
      omega
  | @punctuator kind n hp =>
    have hk := (punctuator?_eq_some hp).1
    change kind.isTrivia = false ∧ kind ≠ .endOfFileToken
    refine ⟨?_, fun hend => by rw [hend] at hk; cases hk⟩
    simp only [SyntaxKind.isPunctuation, SyntaxKind.isTrivia, SyntaxKind.isBetween,
      Bool.and_eq_true, decide_eq_true_eq, Bool.and_eq_false_iff, decide_eq_false_iff_not] at hk ⊢
    have hbetween :
        SyntaxKind.conflictMarkerTrivia.ordinal < SyntaxKind.openBraceToken.ordinal := by decide
    omega
  | single hk =>
    rcases hk with ⟨rfl, -⟩ | rfl <;> exact ⟨rfl, nofun⟩

/-- The punctuation that is read again as the tree requires starts with the character that the
second reading takes for granted. -/
theorem head_of_punctuator? {c : Char} {cs : Text} {kind : SyntaxKind} {n : Nat}
    (h : punctuator? (c :: cs) = some (kind, n)) :
    (kind = .closeBraceToken → c = '\x7d') ∧
      (kind = .slashToken ∨ kind = .slashEqualsToken → c = '/') := by
  unfold punctuator? at h
  split at h <;>
    first
      | (rename_i heq; cases heq; cases h; exact ⟨by decide, by decide⟩)
      | skip
  · rename_i heq
    cases heq
    split at h <;> cases h <;> exact ⟨by decide, by decide⟩
  · cases h

/-- The kinds of trivia, with the characters that they take. -/
theorem trivia_of_read? {atStart : Bool} {c : Char} {cs : Text} {l : Lexeme}
    (h : read? target atStart (c :: cs) = some l) (htrivia : l.kind.isTrivia = true) :
    l.kind = .singleLineCommentTrivia ∨ l.kind = .multiLineCommentTrivia ∨
      (∀ d ∈ l.raw, Text.isBlankOrBreak d = true) ∨
      (atStart = true ∧ c = '#' ∧ cs.head? = some '!' ∧ l.raw = lineRest (c :: cs)) := by
  cases read?_form target h with
  | shebang hc hbang => exact .inr (.inr (.inr ⟨rfl, hc, hbang, rfl⟩))
  | lineBreak hraw hbreak =>
    refine .inr (.inr (.inl fun d hd => ?_))
    rcases hraw with rfl | ⟨rfl, -⟩
    · rw [List.mem_singleton.mp hd, Text.isBlankOrBreak, hbreak, Bool.or_true]
    · rcases List.mem_cons.mp hd with rfl | hd
      · rw [Text.isBlankOrBreak, hbreak, Bool.or_true]
      · rw [List.mem_singleton.mp hd]
        decide
  | blank =>
    refine .inr (.inr (.inl fun d hd => ?_))
    rw [Text.isBlankOrBreak, List.mem_takeWhile_imp hd, Bool.true_or]
  | lineComment => exact .inl rfl
  | blockComment => exact .inr (.inl rfl)
  | token htoken =>
    rw [(kind_of_tokenForm target htoken).1] at htrivia
    cases htrivia

/-- Trivia say nothing of the separators of a number. -/
theorem containsInvalidSeparator_of_isTrivia {atStart : Bool} {cs : Text} {l : Lexeme}
    (h : read? target atStart cs = some l) (htrivia : l.kind.isTrivia = true) :
    l.flags.containsInvalidSeparator = false := by
  cases cs with
  | nil => cases h
  | cons c cs =>
    rw [read?, Option.some.injEq] at h
    subst h
    split_ifs at htrivia ⊢
    -- All trivia are alike in this, and what is left is a token.
    all_goals try rfl
    rw [(kind_of_tokenForm target (token_form target c cs)).1] at htrivia
    cases htrivia

/-- What is no trivia is a token. -/
theorem tokenForm_of_read? {atStart : Bool} {c : Char} {cs : Text} {l : Lexeme}
    (h : read? target atStart (c :: cs) = some l) (htrivia : l.kind.isTrivia = false) :
    TokenForm target c cs l := by
  cases read?_form target h with
  | token htoken => exact htoken
  | _ => cases htrivia

/-- A lexeme of a kind that is read again starts with the character that the kind stands for. -/
theorem head_of_read? {atStart : Bool} {cs : Text} {l : Lexeme}
    (h : read? target atStart cs = some l) :
    (l.kind = .slashToken ∨ l.kind = .slashEqualsToken → cs.head? = some '/') ∧
      (l.kind = .closeBraceToken → cs.head? = some '\x7d') := by
  cases cs with
  | nil => cases h
  | cons c cs =>
    -- A kind of punctuation comes from the table of punctuation, which names its first character.
    have hhead (hpunct : l.kind.isPunctuation = true) (hhash : l.kind ≠ .hashToken)
        (htrivia : l.kind.isTrivia = false) :
        ∃ n, punctuator? (c :: cs) = some (l.kind, n) := by
      have hform := tokenForm_of_read? target h htrivia
      obtain ⟨n, hn, -⟩ := punctuator?_of_tokenForm target hform hpunct hhash
      exact ⟨n, hn⟩
    refine ⟨fun hkind => ?_, fun hkind => ?_⟩
    · obtain ⟨n, hn⟩ : ∃ n, punctuator? (c :: cs) = some (l.kind, n) := by
        rcases hkind with hkind | hkind <;>
          exact hhead (by rw [hkind]; decide) (by rw [hkind]; decide) (by rw [hkind]; decide)
      rw [List.head?_cons, (head_of_punctuator? hn).2 hkind]
    · obtain ⟨n, hn⟩ :=
        hhead (by rw [hkind]; decide) (by rw [hkind]; decide) (by rw [hkind]; decide)
      rw [List.head?_cons, (head_of_punctuator? hn).1 hkind]

/-- A stray escape starts with a backslash. -/
theorem eq_backslash_of_isStray {c : Char} {cs : Text}
    (h : Escape.isStray target (c :: cs) = true) : c = '\\' := by
  by_contra hne
  rw [Escape.isStray_cons_of_ne target cs hne] at h
  cases h

/-- A stray escape starts no trivia. -/
theorem isTrivia_eq_false_of_isStray {atStart : Bool} {cs : Text} {l : Lexeme}
    (hstray : Escape.isStray target cs = true) (h : read? target atStart cs = some l) :
    l.kind.isTrivia = false := by
  cases cs with
  | nil => cases h
  | cons c cs =>
    obtain rfl := eq_backslash_of_isStray target hstray
    cases read?_form target h with
    | shebang hc => cases hc
    | lineBreak _ hbreak => exact absurd hbreak (by decide)
    | blank hblank => exact absurd hblank (by decide)
    | lineComment hc => cases hc
    | blockComment hc => cases hc
    | token htoken => exact (kind_of_tokenForm target htoken).1

/-- The end of the file is no lexeme. -/
theorem kind_ne_endOfFile_of_read? {atStart : Bool} {cs : Text} {l : Lexeme}
    (h : read? target atStart cs = some l) : l.kind ≠ .endOfFileToken := by
  cases cs with
  | nil => cases h
  | cons c cs =>
    cases read?_form target h with
    | token htoken => exact (kind_of_tokenForm target htoken).2
    | _ => nofun

end Lexeme

end ScriptTree
