import ScriptTree.Proofs.Scan.LongestMatch

/-!
# Separators in numbers

A number is read in parts: the digits behind a mark such as `0x`, or whole digits, a fraction and an
exponent. Each run of digits and separators is judged alone, by a pass over it that does not know
what stands around it (`ScriptTree.Lexeme.separatorFlags`). In the text of the whole number, however,
a separator is in its place if it has a digit on either side.

The two agree (`ScriptTree.Scanner.containsInvalidSeparator_iff`) because what joins two runs, a
point, a mark, a sign or the end, is neither a digit nor a separator. The only digit that is read
apart is the zero of an old octal number, and the run behind it starts with a digit. For the same
reason every run, and with it the number, is as long as it can be.

What a part contributes is a structure (`ScriptTree.Lexeme.NumberPart.IsExact`), and parts are put
together by one lemma (`ScriptTree.Lexeme.NumberPart.IsExact.append`).
-/

namespace ScriptTree

namespace Text

/-- The digits of the notation that the text of a number starts with: hexadecimal, binary or octal
behind the mark of such a number, else decimal. -/
def notationDigit : Text → Char → Bool
  | '0' :: mark :: _ =>
    if mark = 'x' ∨ mark = 'X' then isHexDigit
    else if mark = 'b' ∨ mark = 'B' then isBinaryDigit
    else if mark = 'o' ∨ mark = 'O' then isOctalDigit
    else isDigit
  | _ => isDigit

/-- **A separator out of place**: one without a digit directly before it, or without one directly
behind it. -/
def HasStraySeparator (isDigit : Char → Bool) (raw : Text) : Prop :=
  ∃ u v, raw = u ++ '_' :: v ∧
    ¬ (u.getLast?.any isDigit = true ∧ v.head?.any isDigit = true)

/-- A run of digits does not go on with a text. -/
def EndsDigits (isDigit : Char → Bool) (cs : Text) : Prop :=
  ∀ c ∈ cs.head?, c ≠ '_' ∧ isDigit c = false

/-- The test for separators out of place, from left to right; `last` says that a digit stands in
front of the text. -/
def straysAfter (isDigit : Char → Bool) : (last : Bool) → Text → Bool
  | _, [] => false
  | last, c :: cs =>
    (c == '_' && !(last && cs.head?.any isDigit)) || straysAfter isDigit (isDigit c) cs

variable {isDigit : Char → Bool}

/-- The test finds the separators out of place behind a text `front`. -/
theorem straysAfter_iff (front cs : Text) :
    straysAfter isDigit (front.getLast?.any isDigit) cs = true ↔ ∃ u v, cs = u ++ '_' :: v ∧
      ¬ ((front ++ u).getLast?.any isDigit = true ∧ v.head?.any isDigit = true) := by
  induction cs generalizing front with
  | nil => simp [straysAfter]
  | cons c cs ih =>
    have hlast : isDigit c = (front ++ [c]).getLast?.any isDigit := by simp
    rw [straysAfter, Bool.or_eq_true, hlast, ih]
    constructor
    · rintro (hc | ⟨u, v, rfl, hstray⟩)
      · rw [Bool.and_eq_true, beq_iff_eq, Bool.not_eq_true', ← Bool.not_eq_true,
          Bool.and_eq_true] at hc
        exact ⟨[], cs, by rw [hc.1]; rfl, by rw [List.append_nil]; exact hc.2⟩
      · exact ⟨c :: u, v, rfl, by rwa [List.append_assoc] at hstray⟩
    · rintro ⟨u, v, hcs, hstray⟩
      cases u with
      | nil =>
        obtain ⟨rfl, rfl⟩ := List.cons.inj hcs
        rw [List.append_nil, ← Bool.and_eq_true, Bool.not_eq_true] at hstray
        exact .inl (by rw [hstray]; rfl)
      | cons d u =>
        obtain ⟨rfl, rfl⟩ := List.cons.inj hcs
        exact .inr ⟨u, v, rfl, by rwa [List.append_assoc]⟩

/-- The test finds all separators out of place. -/
theorem straysAfter_false_iff (cs : Text) :
    straysAfter isDigit false cs = true ↔ HasStraySeparator isDigit cs :=
  straysAfter_iff [] cs

/-- Behind a character that is no separator the test goes on. -/
theorem straysAfter_cons_of_ne (last : Bool) {c : Char} (hc : c ≠ '_') (cs : Text) :
    straysAfter isDigit last (c :: cs) = straysAfter isDigit (isDigit c) cs := by
  rw [straysAfter, beq_eq_false_iff_ne.mpr hc, Bool.false_and, Bool.false_or]

/-- Behind characters that are neither digits nor separators the test starts afresh. -/
theorem straysAfter_behind {front : Text} (hfront : ∀ c ∈ front, c ≠ '_' ∧ isDigit c = false)
    (cs : Text) : straysAfter isDigit false (front ++ cs) = straysAfter isDigit false cs := by
  induction front with
  | nil => rfl
  | cons c front ih =>
    obtain ⟨hne, hc⟩ := hfront c (List.mem_cons_self ..)
    rw [List.cons_append, straysAfter_cons_of_ne false hne, hc]
    exact ih fun d hd => hfront d (List.mem_cons_of_mem _ hd)

/-- Where a run of digits ends, the test starts afresh. -/
theorem straysAfter_append (last : Bool) (u : Text) {v : Text} (hv : EndsDigits isDigit v) :
    straysAfter isDigit last (u ++ v) =
      (straysAfter isDigit last u || straysAfter isDigit false v) := by
  induction u generalizing last with
  | nil =>
    cases v with
    | nil => rfl
    | cons c v =>
      have hc := (hv c rfl).1
      rw [List.nil_append, straysAfter_cons_of_ne _ hc, straysAfter_cons_of_ne _ hc]
      rfl
  | cons d u ih =>
    have hhead : (u ++ v).head?.any isDigit = u.head?.any isDigit := by
      cases u with
      | cons => rfl
      | nil =>
        cases v with
        | nil => rfl
        | cons c v => exact (hv c rfl).2
    rw [List.cons_append, straysAfter, straysAfter, hhead, ih, Bool.or_assoc]

theorem endsDigits_nil : EndsDigits isDigit [] :=
  nofun

theorem endsDigits_cons {c : Char} (hne : c ≠ '_') (hc : isDigit c = false) (cs : Text) :
    EndsDigits isDigit (c :: cs) := by
  intro d hd
  obtain rfl := Option.some.inj hd
  exact ⟨hne, hc⟩

end Text

namespace Lexeme

open Text

variable {isDigit : Char → Bool} {cs : Text}

/-! ### Runs of digits -/

/-- **The pass over a run of digits finds the separators out of place.** Its first fact tells a
separator at the start of the run from others, and its second one waits for the next digit. -/
theorem containsInvalidSeparator_separatorFlags (hline : isDigit '_' = false) {run : Text}
    (hrun : ∀ c ∈ run, c = '_' ∨ isDigit c = true) (digit separator : Bool) :
    (separatorFlags digit separator run).containsInvalidSeparator =
      ((separator && !run.head?.any isDigit) ||
        straysAfter isDigit (digit && !separator) run) := by
  fun_induction separatorFlags digit separator run with
  | case1 digit separator => simp [straysAfter]
  | case2 digit separator cs valid ih =>
    have htail := ih fun c hc => hrun c (List.mem_cons_of_mem _ hc)
    change ((separatorFlags digit true cs).containsInvalidSeparator || !valid) = _
    rw [htail, straysAfter, List.head?_cons, Option.any_some, hline]
    cases digit <;> cases separator <;> simp [valid, Bool.or_comm]
  | case3 digit separator c cs hne ih =>
    have hc : isDigit c = true :=
      (hrun c (List.mem_cons_self ..)).resolve_left fun heq => hne heq
    rw [ih fun d hd => hrun d (List.mem_cons_of_mem _ hd), straysAfter_cons_of_ne _ hne,
      List.head?_cons, Option.any_some, hc]
    simp

/-- **What a part contributes to a number** that goes on with a text from the part on: it notes the
separators out of place, it is as long as it can be, and it has no suffix. -/
structure NumberPart.IsExact (isDigit : Char → Bool) (cs : Text) (part : NumberPart) : Prop where
  flag : part.flags.containsInvalidSeparator = straysAfter isDigit false part.raw
  next : EndsDigits isDigit (cs.drop part.raw.length)
  plain : 'n' ∉ part.raw

/-- A part that is missing. -/
theorem NumberPart.isExact_nil (h : EndsDigits isDigit cs) :
    NumberPart.IsExact isDigit cs {} where
  flag := rfl
  next := h
  plain := List.not_mem_nil

/-- A part behind another one, which it does not go on with. -/
theorem NumberPart.IsExact.append {a b : NumberPart} (ha : a.IsExact isDigit cs)
    (hb : b.IsExact isDigit (cs.drop a.raw.length)) (hends : EndsDigits isDigit b.raw) :
    (a.append b).IsExact isDigit cs where
  flag := by
    rw [NumberPart.append_raw, straysAfter_append false a.raw hends, ← ha.flag, ← hb.flag]
    rfl
  next := by
    rw [NumberPart.append_raw, List.length_append, ← List.drop_drop]
    exact hb.next
  plain := by
    rw [NumberPart.append_raw, List.mem_append]
    exact not_or.mpr ⟨ha.plain, hb.plain⟩

/-- A part behind characters that are read apart from it. -/
theorem NumberPart.IsExact.behind {part : NumberPart} (h : part.IsExact isDigit cs) (front : Text)
    {flags : TokenFlags} (hflags : flags.containsInvalidSeparator = false) (hplain : 'n' ∉ front)
    (hjoin : straysAfter isDigit false (front ++ part.raw) =
      straysAfter isDigit false part.raw) :
    (NumberPart.append ⟨front, flags⟩ part).IsExact isDigit (front ++ cs) where
  flag := by
    rw [NumberPart.append_raw, hjoin, ← h.flag]
    exact Bool.or_eq_right_iff_imp.mpr fun heq => absurd (hflags.symm.trans heq) Bool.false_ne_true
  next := by
    rw [NumberPart.append_raw, List.length_append, List.drop_length_add_append]
    exact h.next
  plain := by
    rw [NumberPart.append_raw, List.mem_append]
    exact not_or.mpr ⟨hplain, h.plain⟩

/-- A run of digits and separators, up to the first other character. -/
theorem isExact_digitPart (hline : isDigit '_' = false) (hn : isDigit 'n' = false) (cs : Text) :
    (digitPart isDigit cs).IsExact isDigit cs where
  flag := by
    have hrun : ∀ c ∈ digitRun isDigit cs, c = '_' ∨ isDigit c = true := by
      intro c hc
      simpa using List.mem_takeWhile_imp hc
    rw [digitPart, containsInvalidSeparator_separatorFlags hline hrun]
    rfl
  next := by
    let goesOn (c : Char) : Bool := c == '_' || isDigit c
    have hrest : (cs.takeWhile goesOn ++ cs.dropWhile goesOn).drop (cs.takeWhile goesOn).length =
        cs.dropWhile goesOn := List.drop_left
    have hstop := List.head?_dropWhile_not goesOn cs
    rw [List.takeWhile_append_dropWhile] at hrest
    change EndsDigits isDigit (cs.drop (cs.takeWhile goesOn).length)
    rw [hrest]
    intro c hc
    rw [Option.mem_def.mp hc] at hstop
    simpa [goesOn] using hstop
  plain := by
    intro hmem
    have hdigit := List.mem_takeWhile_imp hmem
    rw [hn] at hdigit
    cases hdigit

/-! ### Parts of a decimal number -/

/-- Decimal digits up to the first other character. -/
theorem isExact_decimalDigits (cs : Text) :
    (digitPart Text.isDigit cs).IsExact Text.isDigit cs :=
  isExact_digitPart (by decide) (by decide) cs

/-- Decimal digits behind a point, or behind the mark and the sign of an exponent. -/
theorem isExact_decimalDigits_behind (front : Text) {flags : TokenFlags}
    (hflags : flags.containsInvalidSeparator = false)
    (hfront : ∀ c ∈ front, c ≠ '_' ∧ c ≠ 'n' ∧ Text.isDigit c = false) (cs : Text) :
    (NumberPart.append ⟨front, flags⟩ (digitPart Text.isDigit cs)).IsExact Text.isDigit
      (front ++ cs) := by
  refine (isExact_decimalDigits cs).behind front hflags (fun hmem => ?_) (straysAfter_behind ?_ _)
  · exact (hfront _ hmem).2.1 rfl
  · intro c hc
    obtain ⟨hne, -, hdigit⟩ := hfront c hc
    exact ⟨hne, hdigit⟩

/-- A fraction begins with its point. -/
theorem isExact_fractionPart (h : EndsDigits Text.isDigit cs) :
    (fractionPart cs).IsExact Text.isDigit cs ∧ EndsDigits Text.isDigit (fractionPart cs).raw := by
  unfold fractionPart
  split
  · next cs =>
    refine ⟨?_, endsDigits_cons (c := '.') (by decide) (by decide) _⟩
    refine isExact_decimalDigits_behind ['.'] rfl ?_ cs
    exact List.forall_mem_singleton.mpr ⟨by decide, by decide, by decide⟩
  · exact ⟨NumberPart.isExact_nil h, endsDigits_nil⟩

/-- An exponent begins with its mark, and its sign, if there is one, is no digit either. -/
theorem isExact_exponentPart (h : EndsDigits Text.isDigit cs) :
    (exponentPart cs).IsExact Text.isDigit cs ∧ EndsDigits Text.isDigit (exponentPart cs).raw := by
  have hnone : NumberPart.IsExact Text.isDigit cs {} ∧ EndsDigits Text.isDigit [] :=
    ⟨NumberPart.isExact_nil h, endsDigits_nil⟩
  unfold exponentPart
  split
  · next mark rest =>
    split_ifs with hmark
    · dsimp only
      split_ifs
      · refine ⟨?_, ?_⟩
        · have hmark : mark ≠ '_' ∧ mark ≠ 'n' ∧ Text.isDigit mark = false := by
            rcases hmark with rfl | rfl <;> exact ⟨by decide, by decide, by decide⟩
          have hsigned (sign : Char) (hsign : sign ≠ '_' ∧ sign ≠ 'n' ∧ Text.isDigit sign = false) :
              ∀ c ∈ [mark, sign], c ≠ '_' ∧ c ≠ 'n' ∧ Text.isDigit c = false :=
            List.forall_mem_cons.mpr ⟨hmark, List.forall_mem_singleton.mpr hsign⟩
          split
          · exact isExact_decimalDigits_behind [mark, '+'] rfl
              (hsigned '+' ⟨by decide, by decide, by decide⟩) _
          · exact isExact_decimalDigits_behind [mark, '-'] rfl
              (hsigned '-' ⟨by decide, by decide, by decide⟩) _
          · exact isExact_decimalDigits_behind [mark] rfl (List.forall_mem_singleton.mpr hmark) _
        · refine endsDigits_cons ?_ ?_ _ <;> rcases hmark with rfl | rfl <;> decide
      · exact hnone
    · exact hnone
  · exact hnone

/-- Whole digits, a fraction and an exponent. -/
theorem isExact_decimalPart (cs : Text) : (decimalPart cs).IsExact Text.isDigit cs := by
  have hwhole := isExact_decimalDigits cs
  obtain ⟨hfraction, hpoint⟩ := isExact_fractionPart hwhole.next
  have hstart := hwhole.append hfraction hpoint
  obtain ⟨hexponent, hmark⟩ := isExact_exponentPart hstart.next
  exact hstart.append hexponent hmark

/-! ### Whole numbers -/

/-- The digits of every notation are neither separators nor the suffix. -/
theorem notationDigit_eq_false (cs : Text) :
    notationDigit cs '_' = false ∧ notationDigit cs 'n' = false := by
  unfold notationDigit
  split
  · split_ifs <;> decide
  · decide

/-- The notation is told by the first two characters, so that it is decimal for a first part of a
text for which it is. -/
theorem notationDigit_of_isPrefix {raw : Text} (h : raw <+: cs)
    (hdecimal : notationDigit cs = Text.isDigit) : notationDigit raw = Text.isDigit := by
  unfold notationDigit
  split
  · obtain ⟨rest, rfl⟩ := h
    exact hdecimal
  · rfl

/-- Digits behind a mark that is none of them. -/
theorem isExact_behind_mark (hline : isDigit '_' = false) (hn : isDigit 'n' = false) {mark : Char}
    {flags : TokenFlags} (hmark : isDigit mark = false ∧ mark ≠ '_' ∧ mark ≠ 'n')
    (hflags : flags.containsInvalidSeparator = false) (rest : Text) :
    (NumberPart.append ⟨['0', mark], flags⟩ (digitPart isDigit rest)).IsExact isDigit
      ('0' :: mark :: rest) := by
  obtain ⟨hdigit, hne, hsuffix⟩ := hmark
  have hplain : 'n' ∉ ['0', mark] := by
    simpa using hsuffix.symm
  refine (isExact_digitPart hline hn rest).behind ['0', mark] hflags hplain ?_
  rw [List.cons_append, List.cons_append, List.nil_append,
    straysAfter_cons_of_ne _ (by decide), straysAfter_cons_of_ne _ hne, hdigit]

/-- Decimal digits behind a zero, of which the first is no separator. -/
theorem isExact_behind_zero {mark : Char} {flags : TokenFlags} {rest : Text}
    (hmark : Text.isOctalDigit mark = true) (hflags : flags.containsInvalidSeparator = false) :
    (NumberPart.append ⟨['0'], flags⟩ (digitPart Text.isDigit (mark :: rest))).IsExact
      Text.isDigit ('0' :: mark :: rest) := by
  have hne : mark ≠ '_' := by
    rintro rfl
    exact absurd hmark (by decide)
  have hdigit : Text.isDigit mark = true := by
    simp only [Text.isOctalDigit, Text.isDigit, Bool.and_eq_true, decide_eq_true_eq] at hmark ⊢
    exact ⟨hmark.1, Char.le_trans hmark.2 (by decide)⟩
  have hrun : (digitPart Text.isDigit (mark :: rest)).raw = mark :: digitRun Text.isDigit rest := by
    rw [digitPart, digitRun, List.takeWhile_cons_of_pos (by simp [hdigit])]
    rfl
  refine (isExact_decimalDigits (mark :: rest)).behind ['0'] hflags (by decide) ?_
  rw [hrun, List.cons_append, List.nil_append, straysAfter_cons_of_ne _ (by decide),
    straysAfter_cons_of_ne _ hne, straysAfter_cons_of_ne _ hne]

/-- **A number is exact for its notation**, which is that of all texts that start with it. -/
theorem exists_isExact_numberPart (cs : Text) :
    ∃ isDigit, (numberPart cs).IsExact isDigit cs ∧
      ∀ raw, (numberPart cs).raw <+: raw → raw <+: cs → notationDigit raw = isDigit := by
  -- A number without a mark is decimal.
  have hdecimal (h : notationDigit cs = Text.isDigit) :
      ∃ isDigit, (decimalPart cs).IsExact isDigit cs ∧
        ∀ raw, (decimalPart cs).raw <+: raw → raw <+: cs → notationDigit raw = isDigit :=
    ⟨Text.isDigit, isExact_decimalPart cs, fun _ _ hraw => notationDigit_of_isPrefix hraw h⟩
  unfold numberPart
  split
  · next mark rest =>
    split_ifs with hx hb ho hoctal
    · refine ⟨Text.isHexDigit, isExact_behind_mark (by decide) (by decide) ?_ rfl rest, ?_⟩
      · rcases hx with rfl | rfl <;> decide
      · rintro _ ⟨w, rfl⟩ -
        exact if_pos hx
    · refine ⟨Text.isBinaryDigit, isExact_behind_mark (by decide) (by decide) ?_ rfl rest, ?_⟩
      · rcases hb with rfl | rfl <;> decide
      · rintro _ ⟨w, rfl⟩ -
        exact (if_neg hx).trans (if_pos hb)
    · refine ⟨Text.isOctalDigit, isExact_behind_mark (by decide) (by decide) ?_ rfl rest, ?_⟩
      · rcases ho with rfl | rfl <;> decide
      · rintro _ ⟨w, rfl⟩ -
        exact (if_neg hx).trans ((if_neg hb).trans (if_pos ho))
    · refine ⟨Text.isDigit, isExact_behind_zero hoctal rfl, fun raw _ hraw => ?_⟩
      exact notationDigit_of_isPrefix hraw (by simp [notationDigit, hx, hb, ho])
    · exact hdecimal (by simp [notationDigit, hx, hb, ho])
  · next hne =>
    refine hdecimal ?_
    unfold notationDigit
    split
    · exact absurd rfl (hne _ _)
    · rfl

/-- **The separators and the end of a number**: a stray separator is noted if there is one, and
behind a number without a suffix no digit of its notation and no separator stands. -/
theorem number_isExact (cs : Text) :
    (number cs).flags.containsInvalidSeparator =
        straysAfter (notationDigit (number cs).raw) false (number cs).raw ∧
      ((number cs).raw.getLast? ≠ some 'n' →
        EndsDigits (notationDigit (number cs).raw) (cs.drop (number cs).raw.length)) ∧
      ((number cs).kind = .bigIntLiteral ↔ (number cs).raw.getLast? = some 'n') := by
  obtain ⟨isDigit, hpart, hnotation⟩ := exists_isExact_numberPart cs
  have hraw := number_raw_isPrefix cs
  obtain ⟨-, hn⟩ := notationDigit_eq_false (number cs).raw
  -- The notation of a number is told by the part in front of its suffix.
  have hdigit : notationDigit (number cs).raw = isDigit := by
    refine hnotation _ ?_ hraw
    rw [number]
    split_ifs
    · exact List.prefix_append _ _
    · exact List.prefix_refl _
  rw [hdigit] at hn ⊢
  rw [number]
  split_ifs
  · refine ⟨?_, fun hne => absurd List.getLast?_concat hne, iff_of_true rfl List.getLast?_concat⟩
    rw [straysAfter_append _ _ (endsDigits_cons (by decide) hn []), hpart.flag,
      straysAfter_cons_of_ne _ (by decide)]
    exact (Bool.or_false _).symm
  · refine ⟨hpart.flag, fun _ => hpart.next, iff_of_false not_false fun hlast => ?_⟩
    exact hpart.plain (List.mem_of_getLast? hlast)

/-- What is read as a number or a big integer is the number at the start of the text. -/
theorem eq_number_of_read? {target : ScriptTarget} {atStart : Bool} {l : Lexeme}
    (h : read? target atStart cs = some l)
    (hkind : l.kind = .numericLiteral ∨ l.kind = .bigIntLiteral) : l = number cs := by
  have hno {k : SyntaxKind} (hk : l.kind = k) : k = .numericLiteral ∨ k = .bigIntLiteral :=
    hk ▸ hkind
  cases cs with
  | nil => cases h
  | cons c cs =>
    -- Of all forms only numbers have one of these kinds.
    cases read?_form target h with
    | token htoken =>
      cases htoken with
      | number => rfl
      | template =>
        rcases templateKind_first (templateRun 0 cs).ending with hk | hk
        all_goals exact absurd (hno hk) (by decide)
      | name =>
        rcases name_kind target (c :: cs) with hk | hk
        · exact absurd (hno hk) (by decide)
        · rcases hkind with heq | heq <;> rw [heq] at hk <;> cases hk
      | @punctuator kind n hp =>
        have hpunctuation := (punctuator?_eq_some hp).1
        rcases hno (k := kind) rfl with rfl | rfl <;> cases hpunctuation
      | single hk =>
        rcases hk with ⟨rfl, -⟩ | rfl
        all_goals rcases hkind with hk | hk <;> cases hk
      | _ => rcases hkind with hk | hk <;> cases hk
    | _ => rcases hkind with hk | hk <;> cases hk

end Lexeme

namespace Scanner

open Text

/-- **Separators in numbers are noted exactly.** Of a number that a scan finds: it notes a separator
out of place if and only if some separator of its text does not have a digit of its notation directly
before it and directly behind it. And the number is as long as it can be: unless it ends with the
suffix of a big integer, the character behind it is neither a separator nor such a digit. -/
theorem containsInvalidSeparator_iff (s : Scanner)
    (hkind : s.scan.kind = .numericLiteral ∨ s.scan.kind = .bigIntLiteral) :
    (s.scan.flags.containsInvalidSeparator = true ↔
        HasStraySeparator (notationDigit s.scan.raw) s.scan.raw) ∧
      (s.scan.kind = .bigIntLiteral ↔ s.scan.raw.getLast? = some 'n') ∧
      ∃ behind, s.scan.IsFollowedBy behind ∧ (s.scan.raw.getLast? ≠ some 'n' →
        ∀ c ∈ behind.head?, c ≠ '_' ∧ notationDigit s.scan.raw c = false) := by
  have hend : s.scan.kind ≠ .endOfFileToken := by
    intro heq
    rw [heq] at hkind
    rcases hkind with hk | hk <;> cases hk
  obtain ⟨atStart, l, behind, flags, hread, hraw, hbehind, hflags, hscan⟩ :=
    exists_lexeme_of_scan hend
  obtain ⟨hl, hnoted⟩ : s.scan.kind = l.kind ∧ s.scan.flags.containsInvalidSeparator =
      (flags.containsInvalidSeparator || l.flags.containsInvalidSeparator) := by
    rw [hscan]
    exact ⟨rfl, rfl⟩
  have hnumber := Lexeme.eq_number_of_read? hread (hl ▸ hkind)
  obtain ⟨hflag, hnext, hsuffix⟩ := Lexeme.number_isExact (l.raw ++ behind)
  rw [← hnumber, ← hraw] at hflag hnext hsuffix
  refine ⟨?_, hl ▸ hsuffix, behind, hbehind, fun hplain => ?_⟩
  · rw [hnoted, hflags, Bool.false_or, hflag, straysAfter_false_iff]
  · have hrest := hnext hplain
    rwa [List.drop_left] at hrest

/-- A hexadecimal number with a separator behind its mark, and a big integer with one between its
digits and a digit behind its suffix. -/
theorem containsInvalidSeparator_iff_samples :
    (let s := ofText "0x_fg".toList true .latest;
      s.scan.flags.containsInvalidSeparator = true ∧
        HasStraySeparator (notationDigit s.scan.raw) s.scan.raw) ∧
    (let s := ofText "1_2n3".toList true .latest;
      s.scan.kind = .bigIntLiteral ∧ s.scan.flags.containsInvalidSeparator = false ∧
        ¬ HasStraySeparator (notationDigit s.scan.raw) s.scan.raw) := by
  refine ⟨⟨by decide, ?_⟩, by decide, by decide, ?_⟩
  · exact (containsInvalidSeparator_iff _ (.inl (by decide))).1.mp (by decide)
  · exact fun h => absurd ((containsInvalidSeparator_iff _ (.inr (by decide))).1.mpr h) (by decide)

end Scanner

end ScriptTree
