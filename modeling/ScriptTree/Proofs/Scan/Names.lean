import ScriptTree.Proofs.Scan.Extent

/-!
# Names and keywords

A name is a keyword if it is written as one; what it stands for does not count, so that a name with
an escape is never a keyword (`ScriptTree.Lexeme.name_kind_eq`). And where a name starts no other
token does, and no trivia do (`ScriptTree.Lexeme.read?_of_isNameStart`).

A name goes as far as it can (`ScriptTree.Lexeme.name_raw_eq_takeWhile`), so that a complete name is
read to its end (`ScriptTree.Lexeme.name_of_isName`).
-/

namespace ScriptTree

variable {target : ScriptTarget} {c : Char} {cs : Text} {l : Lexeme} {atStart : Bool}

/-- Keywords are made of basic letters. -/
theorem SyntaxKind.keyword?_eq_none {w : Text} (hc : c ∈ w)
    (hletter : Text.isBasicLetter c = false) :
    keyword? (String.ofList w) = none := by
  have htable : ∀ p ∈ keywords, p.1.toList.all Text.isBasicLetter = true := by decide
  refine Option.eq_none_iff_forall_ne_some.mpr fun k hk => ?_
  obtain ⟨before, behind, hmem, -⟩ := List.lookup_eq_some_iff.mp hk
  have hword : (String.ofList w, k) ∈ keywords := by simp [hmem]
  have hbasic := List.all_eq_true.mp (htable _ hword) c (by rwa [String.toList_ofList])
  rw [hletter] at hbasic
  cases hbasic

/-- A keyword has a kind of its own. -/
theorem SyntaxKind.isAnyKeyword_of_keyword? {w : String} {k : SyntaxKind}
    (h : keyword? w = some k) : k.isAnyKeyword = true := by
  obtain ⟨before, behind, hmem, -⟩ := List.lookup_eq_some_iff.mp h
  have htable : ∀ p ∈ keywords, p.2.isAnyKeyword = true := by decide
  exact htable (w, k) (by simp [hmem])

/-- Of the characters below the letters only the dollar sign starts a name. -/
theorem Text.isNameStart_of_lt (h : c.toNat < 0x41) (hdollar : c ≠ '$') :
    isNameStart target c = false := by
  have hle (a b : Char) : a ≤ b ↔ a.toNat ≤ b.toNat := UInt32.le_iff_toNat_le
  have hbasic : isBasic c = true := by
    rw [isBasic, decide_eq_true_eq]
    omega
  have hletter : isBasicLetter c = false := by
    simp only [isBasicLetter, hle, Char.reduceToNat, Bool.or_eq_false_iff, Bool.and_eq_false_iff,
      decide_eq_false_iff_not]
    omega
  have hline : c ≠ '_' := by
    rintro rfl
    simp at h
  simp [isNameStart, hbasic, hletter, hdollar, hline]

/-- A character of one list of ranges lies in no other list that is apart from it. -/
theorem Text.inRanges_eq_false {gaps ranges : List (Nat × Nat)}
    (h : ∀ g ∈ gaps, ∀ r ∈ ranges, r.2 < g.1 ∨ g.2 < r.1) (hc : inRanges gaps c = true) :
    inRanges ranges c = false := by
  obtain ⟨g, hg, hin⟩ := List.any_eq_true.mp hc
  refine List.any_eq_false.mpr fun r hr hin' => ?_
  rw [Bool.and_eq_true, decide_eq_true_eq, decide_eq_true_eq] at hin hin'
  rcases h g hg r hr with hbelow | habove
  · omega
  · omega

/-- The stretches between the letters in which blanks and line breaks lie, apart from those at the
start of the basic characters. -/
def Text.blankGaps : List (Nat × Nat) :=
  [(0x80, 0xA9), (0x1680, 0x1680), (0x2000, 0x2070), (0x3000, 0x3004), (0xFEFF, 0xFEFF)]

theorem Text.isAlphabetic_of_blankGaps (h : inRanges blankGaps c = true) :
    isAlphabetic c = false := by
  rw [isAlphabetic]
  split
  · exact inRanges_eq_false (by decide +kernel) h
  split
  · exact inRanges_eq_false (by decide +kernel) h
  · exact inRanges_eq_false (by decide +kernel) h

/-- Where the blanks and line breaks lie. -/
theorem Text.toNat_of_isBlankOrBreak (h : isBlankOrBreak c = true) :
    c.toNat ≤ 0x20 ∨ inRanges blankGaps c = true := by
  simp only [isBlankOrBreak, isBlank, isLineBreak, Bool.or_eq_true, beq_iff_eq, or_assoc] at h
  rcases h with rfl | rfl | rfl | rfl | rfl | rfl | rfl | hspaces | rfl | rfl | rfl | rfl | rfl |
    rfl | rfl | rfl
  case inr.inr.inr.inr.inr.inr.inr.inl =>
    have hbounds : 0x2000 ≤ c.toNat ∧ c.toNat ≤ 0x200A := by simpa [inRanges] using hspaces
    right
    simp only [inRanges, blankGaps, List.any_cons, Bool.or_eq_true, Bool.and_eq_true,
      decide_eq_true_eq]
    omega
  all_goals decide

/-- No name starts with a blank or a line break. -/
theorem Text.isNameStart_of_isBlankOrBreak (h : isBlankOrBreak c = true) :
    isNameStart target c = false := by
  rcases toNat_of_isBlankOrBreak h with hbasic | hgaps
  · refine isNameStart_of_lt (by omega) ?_
    rintro rfl
    simp at hbasic
  · have hletter := isAlphabetic_of_blankGaps hgaps
    have hbasic : isBasic c = false := by
      obtain ⟨g, hg, hin⟩ := List.any_eq_true.mp hgaps
      have hlow := (by decide : ∀ g ∈ blankGaps, 0x80 ≤ g.1) g hg
      rw [Bool.and_eq_true, decide_eq_true_eq, decide_eq_true_eq] at hin
      rw [isBasic, decide_eq_false_iff_not]
      omega
    rw [isNameStart, hbasic, hletter, Bool.and_false]
    rfl

namespace Lexeme

/-- A name without escapes stands for what it is written as. -/
theorem nameRun_value (target : ScriptTarget) (first : Bool) (cs : Text) :
    (nameRun target 0 first cs).flags.unicodeEscape = true ∧
        '\\' ∈ (nameRun target 0 first cs).raw ∨
      (nameRun target 0 first cs).flags.unicodeEscape = false ∧
        (nameRun target 0 first cs).value = (nameRun target 0 first cs).raw := by
  induction cs generalizing first with
  | nil => exact .inr ⟨rfl, rfl⟩
  | cons c cs ih =>
    rw [nameRun_zero_cons]
    split
    · next hback =>
      split
      · split
        · exact .inl ⟨by simp [TokenFlags.union], by simp [hback]⟩
        · exact .inr ⟨rfl, rfl⟩
      · exact .inr ⟨rfl, rfl⟩
    · split
      · rcases ih false with ⟨hescape, hmem⟩ | ⟨hescape, hvalue⟩
        · exact .inl ⟨hescape, List.mem_cons_of_mem c hmem⟩
        · exact .inr ⟨hescape, congrArg (c :: ·) hvalue⟩
      · exact .inr ⟨rfl, rfl⟩

/-- **A name is of the kind of the keyword that it is written as**, if it is one. -/
theorem name_kind_eq (cs : Text) : (name target cs).kind =
    (SyntaxKind.keyword? (String.ofList (name target cs).raw)).getD .identifier := by
  rw [name]
  dsimp only
  rcases nameRun_value target true cs with ⟨hescape, hmem⟩ | ⟨hescape, hvalue⟩
  · rw [hescape, if_pos rfl, SyntaxKind.keyword?_eq_none hmem (by decide)]
    rfl
  · rw [hescape, hvalue, if_neg Bool.false_ne_true]

/-- Punctuation does not start as a name does. -/
theorem isNameStart_of_punctuator? {kind : SyntaxKind} {n : Nat}
    (h : punctuator? (c :: cs) = some (kind, n)) : Text.isNameStart target c = false := by
  unfold punctuator? at h
  split at h <;> first | (obtain ⟨rfl, -⟩ := List.cons.inj ‹_ = _›; rfl) | cases h

/-- Numbers do not start as a name does. -/
theorem isNameStart_of_isDigit (h : Text.isDigit c = true) : Text.isNameStart target c = false := by
  have hle (a b : Char) : a ≤ b ↔ a.toNat ≤ b.toNat := UInt32.le_iff_toNat_le
  simp only [Text.isDigit, Bool.and_eq_true, decide_eq_true_eq, hle, Char.reduceToNat] at h
  refine Text.isNameStart_of_lt (by omega) ?_
  rintro rfl
  simp at h

/-- Where a name starts, it is the token. -/
theorem token_of_isNameStart (h : Text.isNameStart target c = true) :
    token target c cs = name target (c :: cs) := by
  have hne {d : Char} (hd : Text.isNameStart target d = false) : c ≠ d := by
    rintro rfl
    rw [hd] at h
    cases h
  have hdigit : Text.isDigit c ≠ true := fun hc => by
    rw [isNameStart_of_isDigit hc] at h
    cases h
  have hpunctuator : punctuator? (c :: cs) = none := by
    refine Option.eq_none_iff_forall_ne_some.mpr fun p hp => ?_
    rw [isNameStart_of_punctuator? hp] at h
    cases h
  rw [token, if_neg (not_or.mpr ⟨hne rfl, hne rfl⟩), if_neg (hne rfl),
    if_neg (not_or.mpr ⟨hdigit, fun hpoint => hne rfl hpoint.1⟩), if_neg (hne rfl),
    if_neg (hne rfl), hpunctuator]
  exact if_pos h

/-- What is read is the token, unless it is trivia. -/
theorem eq_token_of_read? (h : read? target atStart (c :: cs) = some l)
    (htrivia : l.kind.isTrivia = false) : l = token target c cs := by
  rw [read?, Option.some.injEq] at h
  subst h
  split_ifs at htrivia ⊢ <;> first | rfl | cases htrivia

/-- Where a name starts, it is what is read. -/
theorem read?_of_isNameStart (h : Text.isNameStart target c = true) :
    read? target atStart (c :: cs) = some (name target (c :: cs)) := by
  have hne {d : Char} (hd : Text.isNameStart target d = false) : c ≠ d := by
    rintro rfl
    rw [hd] at h
    cases h
  have hblank : Text.isBlankOrBreak c = false := by
    by_contra hc
    rw [Text.isNameStart_of_isBlankOrBreak (Bool.not_eq_false _ ▸ hc)] at h
    cases h
  obtain ⟨hspace, hbreak⟩ := Bool.or_eq_false_iff.mp hblank
  rw [read?, if_neg fun hhash => hne rfl hhash.2.1, if_neg fun hpair => hne rfl hpair.1,
    if_neg (by rw [hbreak]; decide), if_neg (by rw [hspace]; decide),
    if_neg fun hslash => hne rfl hslash.1, if_neg fun hslash => hne rfl hslash.1,
    token_of_isNameStart h]

/-! ### Where a name ends -/

/-- An escape in a name is noted, so that a name without one takes no backslash. -/
theorem nameRun_of_backslash {first : Bool}
    (h : (nameRun target 0 first ('\\' :: cs)).flags.unicodeEscape = false) :
    nameRun target 0 first ('\\' :: cs) = {} := by
  rw [nameRun_zero_cons, if_pos rfl] at h ⊢
  split at h
  · split at h
    · simp [TokenFlags.union] at h
    · next hfits => rw [if_neg hfits]
  · rfl

/-- Without escapes the rest of a name goes as far as it can. -/
theorem nameRun_raw_eq_takeWhile
    (h : (nameRun target 0 false cs).flags.unicodeEscape = false) :
    (nameRun target 0 false cs).raw = cs.takeWhile (Text.isNamePart target) := by
  induction cs with
  | nil => rfl
  | cons c cs ih =>
    by_cases hback : c = '\\'
    · subst hback
      rw [nameRun_of_backslash h]
      rfl
    · rw [nameRun_zero_cons, if_neg hback] at h ⊢
      rw [List.takeWhile_cons]
      split at h
      · next hc =>
        have hpart : Text.isNamePart target c = true := hc
        rw [if_pos hc, if_pos hpart, ← ih h]
      · next hc =>
        have hpart : ¬ Text.isNamePart target c = true := hc
        rw [if_neg hc, if_neg hpart]

theorem isNamePart_of_isNameStart (h : Text.isNameStart target c = true) :
    Text.isNamePart target c = true := by
  rw [Text.isNameStart] at h
  rw [Text.isNamePart]
  split at h
  · next hbasic =>
    rw [if_pos hbasic]
    simp only [Bool.or_eq_true] at h ⊢
    rcases h with (h | h) | h
    · simp [h]
    · simp [h]
    · simp [h]
  · next hbasic =>
    rw [if_neg hbasic]
    rw [Bool.and_eq_true] at h
    simp [h, Text.isAlphanumeric]

/-- **A name without escapes goes as far as it can.** -/
theorem name_raw_eq_takeWhile (hstart : c = '\\' ∨ Text.isNameStart target c = true)
    (h : (name target (c :: cs)).flags.unicodeEscape = false) :
    (name target (c :: cs)).raw = (c :: cs).takeWhile (Text.isNamePart target) := by
  rcases hstart with rfl | hstart
  · have hrun : nameRun target 0 true ('\\' :: cs) = {} := nameRun_of_backslash h
    rw [name, hrun]
    rfl
  · have hback : c ≠ '\\' := by
      rintro rfl
      cases hstart
    have hfits : nameFits target true c = true := hstart
    have hrun := nameRun_zero_cons target true c cs
    rw [if_neg hback, if_pos hfits] at hrun
    rw [name, hrun] at h ⊢
    rw [List.takeWhile_cons_of_pos (isNamePart_of_isNameStart hstart), ← nameRun_raw_eq_takeWhile h]

/-- **A complete name is read to its end.** -/
theorem name_of_isName {w : Text} (h : Text.isName target w = true) :
    (name target w).raw = w ∧ (name target w).flags.unicodeEscape = false := by
  cases w with
  | nil => cases h
  | cons c cs =>
    obtain ⟨hstart, hall⟩ := Bool.and_eq_true .. |>.mp h
    have hparts : ∀ d ∈ c :: cs, Text.isNamePart target d = true :=
      List.forall_mem_cons.mpr ⟨isNamePart_of_isNameStart hstart, List.all_eq_true.mp hall⟩
    have hescape : (name target (c :: cs)).flags.unicodeEscape = false := by
      rcases nameRun_value target true (c :: cs) with ⟨-, hmem⟩ | ⟨hescape, -⟩
      · -- A backslash would be a part of the name.
        have hback := hparts _ ((nameRun_raw_isPrefix target 0 true (c :: cs)).subset hmem)
        cases hback
      · exact hescape
    refine ⟨?_, hescape⟩
    rw [name_raw_eq_takeWhile (.inr hstart) hescape, List.takeWhile_eq_self_iff]
    exact hparts

end Lexeme

end ScriptTree
