import ScriptTree.Proofs.Scan.Filter
import ScriptTree.Proofs.Scan.Operations
import ScriptTree.Proofs.Scan.Rereads
import ScriptTree.Proofs.Trivia.Regexes

/-!
# The parts of a regular expression

Where a regular expression ends is found by reading forward, and keeping in mind what is escaped and
what is in a class. Its parts are found by looking back for the last slash. The two agree
(`ScriptTree.Scanner.split?_rescanSlash`): what was read forward up to the closing slash is the
pattern, with all slashes that do not close it, and behind the closing slash there are none, because
flags are made of what names are made of. The pattern is described by its own grammar,
`ScriptTree.Text.IsRegexBody`, of which the forward reading finds exactly the texts
(`ScriptTree.Lexeme.isRegexBody_of_regexRun` and `ScriptTree.Lexeme.regexRun_of_isRegexBody`).
-/

namespace ScriptTree

/-! ### Reading forward -/

namespace Lexeme

/-- **What is read up to the closing slash is the inside of a regular expression.** Behind a
backslash that has been read already, it is one together with the backslash. -/
theorem isRegexBody_of_regexRun {escaped inClass : Bool} {cs run : Text}
    (h : regexRun escaped inClass cs = (run, true)) :
    ∃ body, run = body ++ ['/'] ∧
      Text.IsRegexBody inClass (if escaped then '\\' :: body else body) := by
  induction cs generalizing escaped inClass run with
  | nil => cases h
  | cons c cs ih =>
    rw [regexRun] at h
    split at h
    · cases h
    next hbreak =>
    rw [Bool.not_eq_true] at hbreak
    -- In all cases but that of the closing slash the character stands before what is read next.
    have hnext {escaped' inClass' : Bool}
        (h : (c :: (regexRun escaped' inClass' cs).1, (regexRun escaped' inClass' cs).2) =
          (run, true)) : ∃ body, run = c :: body ++ ['/'] ∧
            Text.IsRegexBody inClass' (if escaped' then '\\' :: body else body) := by
      obtain ⟨hrun, hclosed⟩ := Prod.mk.inj h
      have hread : regexRun escaped' inClass' cs = ((regexRun escaped' inClass' cs).1, true) :=
        Prod.ext rfl hclosed
      obtain ⟨body, hbody, hgrammar⟩ := ih hread
      exact ⟨body, by rw [← hrun, hbody, List.cons_append], hgrammar⟩
    split at h
    · next hescaped =>
      obtain ⟨body, hrun, hbody⟩ := hnext h
      refine ⟨c :: body, hrun, ?_⟩
      rw [if_pos hescaped]
      exact .escape hbreak hbody
    next hescaped =>
    simp only [if_neg hescaped]
    split at h
    · next hclosing =>
      rw [Bool.not_eq_true'] at hclosing
      cases h
      exact ⟨[], by rw [hclosing.1, List.nil_append], hclosing.2 ▸ .nil⟩
    next hclosing =>
    obtain ⟨body, hrun, hbody⟩ := hnext h
    refine ⟨c :: body, hrun, ?_⟩
    by_cases hback : c = '\\'
    · subst hback
      simpa using hbody
    rw [decide_eq_false hback, if_neg Bool.false_ne_true] at hbody
    cases inClass with
    | false =>
      have hslash : c ≠ '/' := by simpa using hclosing
      by_cases hopen : c = '['
      · subst hopen
        exact .opening hbody
      · rw [if_neg hopen, ite_self] at hbody
        exact .plain hbreak hslash hback hopen hbody
    | true =>
      by_cases hclose : c = ']'
      · subst hclose
        exact .closing hbody
      · rw [if_neg hclose, ite_self] at hbody
        exact .inside hbreak hclose hback hbody

/-- A regular expression that is closed, with its flags. -/
theorem exists_parts_of_regex {target : ScriptTarget} {cs : Text}
    (h : (regex target cs).flags.unterminated = false) :
    ∃ body flags rest, cs = body ++ '/' :: (flags ++ rest) ∧ body.IsRegexBody false ∧
      (∀ c ∈ flags, Text.isNamePart target c = true) ∧
      (regex target cs).raw = '/' :: (body ++ '/' :: flags) := by
  have hclosed : (regexRun false false cs).2 = true := by simpa [regex] using h
  have hread : regexRun false false cs = ((regexRun false false cs).1, true) :=
    Prod.ext rfl hclosed
  obtain ⟨body, hrun, hbody⟩ := isRegexBody_of_regexRun hread
  have hcs := Text.eq_append_drop (regexRun_isPrefix false false cs)
  rw [hrun] at hcs
  generalize hbehind : cs.drop (body ++ ['/']).length = behind at hcs
  refine ⟨body, behind.takeWhile (Text.isNamePart target),
    behind.dropWhile (Text.isNamePart target), ?_, hbody,
    fun c hc => List.mem_takeWhile_imp hc, ?_⟩
  · rw [List.takeWhile_append_dropWhile, hcs, List.append_assoc, List.singleton_append]
  · rw [regex]
    dsimp only
    rw [if_pos hclosed, hrun, hbehind, List.append_assoc, List.singleton_append]

end Lexeme

/-- No name goes on with a slash. -/
theorem Text.isNamePart_slash (target : ScriptTarget) : isNamePart target '/' = false := by
  rw [isNamePart, if_pos (by decide)]
  decide

/-! ### Looking back -/

namespace Regex

/-- The last slash is one that has none behind it. -/
theorem splitLast?_append {before behind : Text} (h : '/' ∉ behind) :
    splitLast? (before ++ '/' :: behind) = some (before, behind) := by
  induction before with
  | nil =>
    have hnone : splitLast? behind = none := by
      rw [← Option.not_isSome_iff_eq_none, isSome_splitLast?_iff]
      exact h
    rw [List.nil_append, splitLast?, hnone]
    rfl
  | cons c before ih => rw [List.cons_append, splitLast?, ih]

/-- A literal is divided at the last of its slashes. -/
theorem split?_append {pattern flags : Text} (h : '/' ∉ flags) :
    split? ('/' :: (pattern ++ '/' :: flags)) = some ⟨pattern, flags⟩ := by
  have hlast : splitLast? ('/' :: pattern ++ '/' :: flags) = some ('/' :: pattern, flags) :=
    splitLast?_append h
  rw [List.cons_append] at hlast
  rw [split?, hlast]
  rfl

end Regex

namespace Scanner

variable {s : Scanner}

/-- A scan that finds a slash has found one in the text. -/
theorem exists_slash_of_scan
    (h : s.scan.kind = .slashToken ∨ s.scan.kind = .slashEqualsToken) :
    ∃ cs, s.text.dropBytes? s.scan.start = some ('/' :: cs) := by
  cases hcs : s.text.dropBytes? s.pos with
  | none =>
    rw [scan, hcs] at h
    rcases h with h | h <;> cases h
  | some cs =>
    obtain ⟨u, rest, flags, rfl, -, hscan | ⟨atStart, l, hread, hscan⟩⟩ := scan_cases hcs
    · rw [hscan] at h
      rcases h with h | h <;> cases h
    · rw [hscan] at h ⊢
      obtain ⟨cs, rfl⟩ := List.head?_eq_some_iff.mp ((Lexeme.head_of_read? s.target hread).1 h)
      exact ⟨cs, Text.dropBytes?_add hcs⟩

/-- The text of a token is what was taken of the text that is left. -/
theorem raw_accept {fullStart start : Nat} {l : Lexeme} {flags : TokenFlags} {cs : Text}
    (h : s.text.dropBytes? start = some cs) (hraw : l.raw <+: cs) :
    (s.accept fullStart start l flags).raw = l.raw := by
  change s.text.slice start (start + l.width) = l.raw
  rw [Text.slice, Lexeme.width, Text.slice?_of_isPrefix h hraw, Option.getD_some]

/-- **The parts of a regular expression are those that were read.** Wherever a scan finds a slash,
and the second reading of it comes to a closing slash, the text there is a slash, the inside of a
regular expression, the slash that closes it, and flags; these are the text of the token, and it is
divided into just this pattern and these flags. -/
theorem split?_rescanSlash (hslash : s.scan.kind = .slashToken ∨ s.scan.kind = .slashEqualsToken)
    (hclosed : s.scan.rescanSlash.flags.unterminated = false) :
    ∃ (pattern flags rest : Text), pattern.IsRegexBody false ∧
      (∀ c ∈ flags, Text.isNamePart s.target c = true) ∧
      s.text.dropBytes? s.scan.start = some ('/' :: (pattern ++ '/' :: (flags ++ rest))) ∧
      s.scan.rescanSlash.raw = '/' :: (pattern ++ '/' :: flags) ∧
      Regex.split? s.scan.rescanSlash.raw = some ⟨pattern, flags⟩ := by
  obtain ⟨cs, hcs⟩ := exists_slash_of_scan hslash
  rw [← scan_text] at hcs
  have hrescan : s.scan.rescanSlash =
      s.scan.accept s.scan.fullStart s.scan.start (Lexeme.regex s.target cs) s.scan.flags := by
    rw [rescanSlash, if_pos hslash, Text.dropBytes?_succ (by decide) hcs, Option.getD_some,
      scan_target]
  rw [hrescan] at hclosed ⊢
  have hread : (Lexeme.regex s.target cs).flags.unterminated = false := by
    simp only [accept, TokenFlags.union, Bool.or_eq_false_iff] at hclosed
    exact hclosed.2
  obtain ⟨pattern, flags, rest, rfl, hpattern, hflags, hraw⟩ := Lexeme.exists_parts_of_regex hread
  have hfirst : (Lexeme.regex s.target (pattern ++ '/' :: (flags ++ rest))).raw <+:
      '/' :: (pattern ++ '/' :: (flags ++ rest)) := by
    rw [hraw]
    exact ⟨rest, by simp⟩
  rw [raw_accept hcs hfirst, hraw]
  rw [scan_text] at hcs
  refine ⟨pattern, flags, rest, hpattern, hflags, hcs, rfl, ?_⟩
  -- What follows the closing slash is part of a name, and a slash is not.
  refine Regex.split?_append fun hmem => ?_
  have hname := hflags '/' hmem
  rw [Text.isNamePart_slash] at hname
  cases hname

/-- A division sign with an equals sign, read again as a regular expression with one slash in a class
and one that is escaped; a flag is no basic letter. -/
theorem split?_rescanSlash_accented :
    let s := ofText " /=[/]\\//gï+1".toList true .esNext
    (s.scan.kind = .slashEqualsToken ∧ s.scan.rescanSlash.flags.unterminated = false) ∧
      (∃ (pattern flags rest : Text), pattern.IsRegexBody false ∧
        (∀ c ∈ flags, Text.isNamePart s.target c = true) ∧
        s.text.dropBytes? s.scan.start = some ('/' :: (pattern ++ '/' :: (flags ++ rest))) ∧
        s.scan.rescanSlash.raw = '/' :: (pattern ++ '/' :: flags) ∧
        Regex.split? s.scan.rescanSlash.raw = some ⟨pattern, flags⟩) ∧
      Regex.split? s.scan.rescanSlash.raw = some ⟨"=[/]\\/".toList, "gï".toList⟩ := by
  intro s
  have hkind : s.scan.kind = .slashEqualsToken := by decide
  have hclosed : s.scan.rescanSlash.flags.unterminated = false := by decide
  exact ⟨⟨hkind, hclosed⟩, split?_rescanSlash (.inr hkind) hclosed, by decide⟩

end Scanner

end ScriptTree
