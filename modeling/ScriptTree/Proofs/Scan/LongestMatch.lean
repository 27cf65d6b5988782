import ScriptTree.Proofs.Scan.Filter
import ScriptTree.Proofs.Scan.Names
import ScriptTree.Proofs.Scan.Operations
import ScriptTree.Proofs.Scan.Rereads

/-!
# The longest match

What a scan reads is written as its kind says, and it is as long as it can be. Punctuation is read
by looking at the next characters, while a table says how it is written; the two agree
(`ScriptTree.Lexeme.spelling?_of_punctuator?`, `ScriptTree.Lexeme.length_le_of_punctuator?`). A name
goes on up to the first character that no name goes on with
(`ScriptTree.Lexeme.name_raw_eq_takeWhile`).

Three things are left apart (`ScriptTree.Text.IsUnread`). Of punctuation that starts with a greater
sign only the sign is read, and the second reading goes on from there as far as it can
(`ScriptTree.Scanner.isLongest_rescanGreater`). The start of a closing tag is read as two signs. And
a question mark in front of a number without whole digits stands alone.

There is a test of complete names that does not scan. It holds exactly for the texts that a scan
takes as one name (`ScriptTree.Scanner.isName_iff_scan`).
-/

namespace ScriptTree

namespace Text

/-- **Punctuation that a scan does not read where it is written**, at the start of a text: all that
starts with a greater sign, the start of a closing tag, and the mark of an optional chain in front
of a digit. -/
def IsUnread (cs : Text) (word : String) : Prop :=
  word.toList.head? = some '>' ∨ word = "</" ∨
    word = "?." ∧ (cs.drop 2).head?.any isDigit = true

end Text

namespace Lexeme

variable {target : ScriptTarget} {atStart : Bool} {c : Char} {cs : Text} {kind : SyntaxKind}
  {n : Nat} {l : Lexeme}

/-! ### Punctuation -/

/-- Punctuation is written as the table says. -/
theorem spelling?_of_punctuator? (h : punctuator? cs = some (kind, n)) :
    kind.spelling? = some (String.ofList (cs.take n)) := by
  unfold punctuator? at h
  split at h
  all_goals try split at h
  all_goals cases h
  all_goals
    simp only [List.take_succ_cons, List.take_zero]
    decide

/-- Punctuation of three signs that a scan reads. -/
def threeSigns : List Text :=
  [['=', '=', '='], ['!', '=', '='], ['*', '*', '='], ['<', '<', '='], ['|', '|', '='],
    ['&', '&', '='], ['?', '?', '='], ['.', '.', '.']]

/-- Punctuation of two signs that a scan reads, whatever follows. -/
def twoSigns : List Text :=
  [['<', '='], ['=', '>'], ['+', '+'], ['-', '-'], ['+', '='], ['-', '='], ['*', '='], ['/', '='],
    ['%', '='], ['&', '='], ['|', '='], ['^', '=']]

/-- Punctuation of two signs that goes on if an equals sign follows. -/
def openSigns : List Text :=
  [['=', '='], ['!', '='], ['*', '*'], ['<', '<'], ['&', '&'], ['|', '|'], ['?', '?']]

/-- The table of punctuation, by length and by what a scan makes of it. -/
theorem punctuation_cases {p : String × SyntaxKind} (hp : p ∈ SyntaxKind.punctuation) :
    p.1.length ≤ 1 ∨ (p.1.length = 2 ∧ p.1.toList ∈ twoSigns) ∨
      (p.1.length = 2 ∧ p.1.toList ∈ openSigns) ∨ (p.1.length = 3 ∧ p.1.toList ∈ threeSigns) ∨
      p.1.toList.head? = some '>' ∨ p.1 = "</" ∨ p.1 = "?." := by
  revert p
  decide

section Signs

variable {w rest : Text}

theorem eq_three_of_punctuator? (hw : w ∈ threeSigns)
    (h : punctuator? (w ++ rest) = some (kind, n)) : n = 3 := by
  simp only [threeSigns, List.mem_cons, List.not_mem_nil, or_false] at hw
  rcases hw with rfl | rfl | rfl | rfl | rfl | rfl | rfl | rfl
  all_goals
    cases h
    rfl

theorem eq_two_of_punctuator? (hw : w ∈ twoSigns)
    (h : punctuator? (w ++ rest) = some (kind, n)) : n = 2 := by
  simp only [twoSigns, List.mem_cons, List.not_mem_nil, or_false] at hw
  rcases hw with rfl | rfl | rfl | rfl | rfl | rfl | rfl | rfl | rfl | rfl | rfl | rfl
  all_goals
    cases h
    rfl

/-- Two signs go on if an equals sign follows, and only then. -/
theorem eq_ite_of_punctuator? (hw : w ∈ openSigns)
    (h : punctuator? (w ++ rest) = some (kind, n)) :
    n = if rest.head? = some '=' then 3 else 2 := by
  simp only [openSigns, List.mem_cons, List.not_mem_nil, or_false] at hw
  split
  · next hnext =>
    obtain ⟨rest, rfl⟩ := List.head?_eq_some_iff.mp hnext
    rcases hw with rfl | rfl | rfl | rfl | rfl | rfl | rfl
    all_goals
      cases h
      rfl
  · next hnext =>
    have hmore : ∀ tail, rest = '=' :: tail → False := by
      rintro tail rfl
      exact hnext rfl
    rcases hw with rfl | rfl | rfl | rfl | rfl | rfl | rfl
    all_goals
      simp only [List.cons_append, List.nil_append, punctuator?] at h
      cases h
      rfl

end Signs

/-- **No longer punctuation is written where some is read.** -/
theorem length_le_of_punctuator? (h : punctuator? cs = some (kind, n)) {p : String × SyntaxKind}
    (hp : p ∈ SyntaxKind.punctuation) (hstarts : p.1.toList <+: cs)
    (hread : ¬ Text.IsUnread cs p.1) : p.1.length ≤ n := by
  obtain ⟨rest, rfl⟩ := hstarts
  rcases punctuation_cases hp with hone | ⟨htwo, hmem⟩ | ⟨hopen, hmem⟩ | ⟨hthree, hmem⟩ | hgreater |
    htag | hchain
  · exact hone.trans (punctuator?_eq_some h).2
  · have hn := eq_two_of_punctuator? hmem h
    omega
  · have hn := eq_ite_of_punctuator? hmem h
    split at hn <;> omega
  · have hn := eq_three_of_punctuator? hmem h
    omega
  · exact absurd (.inl hgreater) hread
  · exact absurd (.inr (.inl htag)) hread
  · -- The mark of a chain is read, since no digit follows.
    have hlist : p.1.toList = ['?', '.'] := by rw [hchain]; rfl
    rw [hlist] at h hread
    have hdigit : ¬ rest.head?.any Text.isDigit = true :=
      fun hdigit => hread (.inr (.inr ⟨hchain, hdigit⟩))
    have hmark : punctuator? ('?' :: '.' :: rest) = some (.questionDotToken, 2) := if_neg hdigit
    rw [List.cons_append, List.singleton_append, hmark] at h
    cases h
    rw [hchain]
    rfl

/-- **Punctuation is read as its kind is written, and no longer punctuation is written there.** -/
theorem longest_of_read? (h : read? target atStart cs = some l)
    (hkind : l.kind.isPunctuation = true) :
    l.kind.spelling? = some (String.ofList l.raw) ∧
      ∀ p ∈ SyntaxKind.punctuation, p.1.toList <+: cs → ¬ Text.IsUnread cs p.1 →
        p.1.length ≤ l.raw.length := by
  cases cs with
  | nil => cases h
  | cons c cs =>
    cases read?_form target h with
    | token htoken =>
      -- The reader has no number sign in its table: it is read alone if no private name starts.
      rcases punctuation_of_tokenForm target htoken hkind with ⟨n, hn, hraw⟩ | ⟨hhash, rfl, hraw⟩
      · rw [hraw]
        refine ⟨spelling?_of_punctuator? hn, fun p hp hstarts hread => ?_⟩
        rw [List.length_take]
        have hlength := hstarts.length_le
        rw [String.length_toList] at hlength
        exact Nat.le_min.mpr ⟨length_le_of_punctuator? hn hp hstarts hread, hlength⟩
      · rw [hhash, hraw]
        refine ⟨rfl, fun p hp hstarts _ => ?_⟩
        have hhead := SyntaxKind.head?_of_isPrefix hp hstarts
        exact (by decide : ∀ p ∈ SyntaxKind.punctuation,
          p.1.toList.head? = some '#' → p.1.length ≤ 1) p hp hhead
    | _ => cases hkind

/-! ### Names -/

/-- A name or a keyword is what is read as a name. -/
theorem eq_name_of_read? (h : read? target atStart (c :: cs) = some l)
    (hkind : l.kind = .identifier ∨ l.kind.isAnyKeyword = true) :
    l = name target (c :: cs) ∧ (c = '\\' ∨ Text.isNameStart target c = true) := by
  have hno {k : SyntaxKind} (hk : l.kind = k) :
      k = .identifier ∨ k.isAnyKeyword = true := hk ▸ hkind
  cases read?_form target h with
  | token htoken =>
    cases htoken with
    | name hstart => exact ⟨rfl, hstart.imp And.left And.right⟩
    | template =>
      rcases templateKind_first (templateRun 0 cs).ending with hk | hk
      all_goals exact absurd (hno hk) (by decide)
    | number =>
      rcases number_kind (c :: cs) with hk | hk
      all_goals exact absurd (hno hk) (by decide)
    | @punctuator kind n hp =>
      have hpunctuation := (punctuator?_eq_some hp).1
      rcases hno (k := kind) rfl with rfl | hkeyword
      · cases hpunctuation
      · rw [SyntaxKind.isAnyKeyword_of_isPunctuation hpunctuation] at hkeyword
        cases hkeyword
    | single hk =>
      rcases hk with ⟨rfl, -⟩ | rfl
      all_goals rcases hkind with hk | hk <;> cases hk
    | _ => rcases hkind with hk | hk <;> cases hk
  | _ => rcases hkind with hk | hk <;> cases hk

/-- What a name takes is a complete name, unless a stray escape stands there. -/
theorem isName_of_takeWhile (hstart : c = '\\' ∨ Text.isNameStart target c = true)
    (hne : (c :: cs).takeWhile (Text.isNamePart target) ≠ []) :
    Text.isName target ((c :: cs).takeWhile (Text.isNamePart target)) = true := by
  rcases hstart with rfl | hstart
  · exact absurd rfl hne
  · rw [List.takeWhile_cons_of_pos (isNamePart_of_isNameStart hstart), Text.isName, hstart,
      Bool.true_and, List.all_takeWhile]

/-- **A name without escapes is read as far as it goes**, and it is a keyword if it is written as
one. -/
theorem wholeName_of_read? {behind : Text} (h : read? target atStart (l.raw ++ behind) = some l)
    (hkind : l.kind = .identifier ∨ l.kind.isAnyKeyword = true)
    (hescape : l.flags.unicodeEscape = false) :
    (l.raw ≠ [] → Text.isName target l.raw = true) ∧
      l.raw = (l.raw ++ behind).takeWhile (Text.isNamePart target) ∧ l.value = l.raw ∧
      l.kind = (SyntaxKind.keyword? (String.ofList l.raw)).getD .identifier := by
  generalize hcs : l.raw ++ behind = cs at h ⊢
  cases cs with
  | nil => cases h
  | cons c cs =>
    obtain ⟨rfl, hstart⟩ := eq_name_of_read? h hkind
    have hlongest := name_raw_eq_takeWhile hstart hescape
    refine ⟨?_, hlongest, ?_, name_kind_eq _⟩
    · rw [hlongest]
      exact isName_of_takeWhile hstart
    · rcases nameRun_value target true (c :: cs) with ⟨hnoted, -⟩ | ⟨-, hvalue⟩
      · exact absurd (hnoted.symm.trans hescape) (by decide)
      · exact hvalue

end Lexeme

namespace Scanner

variable {s : Scanner} {behind u : Text}

/-! ### Scans -/

/-- **The current token and the text behind it** are what is left of the text from its start on. -/
structure IsFollowedBy (s : Scanner) (behind : Text) : Prop where
  text : s.text.dropBytes? s.start = some (s.raw ++ behind)
  pos : s.pos = s.start + s.raw.byteLength

/-- **The current token is as long as it can be**: it is written as its kind says, and no longer
punctuation is written at its start. `apart` are spellings that do not count. -/
structure IsLongest (s : Scanner) (behind : Text) (apart : String → Prop) : Prop extends
    IsFollowedBy s behind where
  spelling : s.kind.spelling? = some (String.ofList s.raw)
  length_le : ∀ p ∈ SyntaxKind.punctuation, p.1.toList <+: s.raw ++ behind → ¬ apart p.1 →
    p.1.length ≤ s.raw.length

/-- **The current token is a name, and goes as far as a name can**: it stands for what it is written
as, no name goes on with the next character, and whether it is a keyword, and which, is told by the
table of keywords. It is empty where a stray escape stands. -/
structure IsWholeName (s : Scanner) (behind : Text) : Prop extends IsFollowedBy s behind where
  name : s.raw ≠ [] → Text.isName s.target s.raw = true
  value : s.value = s.raw
  next : ∀ c ∈ behind.head?, Text.isNamePart s.target c = false
  kind : s.kind = (SyntaxKind.keyword? (String.ofList s.raw)).getD .identifier
  kind_iff : s.kind = .identifier ↔ SyntaxKind.keyword? (String.ofList s.raw) = none

/-- A token that takes the first part of what is left is that part. -/
theorem isFollowedBy_of_dropBytes? (htext : s.text.dropBytes? s.start = some (u ++ behind))
    (hpos : s.pos = s.start + u.byteLength) : s.raw = u ∧ s.IsFollowedBy behind := by
  have hraw : s.raw = u := by
    rw [raw, Text.slice, Text.slice?_eq_some_iff.mpr ⟨behind, htext, hpos⟩, Option.getD_some]
  exact ⟨hraw, hraw.symm ▸ htext, hraw.symm ▸ hpos⟩

/-- What a scan finds in front of the end of the file: a lexeme, and the text behind it. -/
theorem exists_lexeme_of_scan (hkind : s.scan.kind ≠ .endOfFileToken) :
    ∃ atStart l behind flags, Lexeme.read? s.target atStart (l.raw ++ behind) = some l ∧
      s.scan.raw = l.raw ∧ s.scan.IsFollowedBy behind ∧
      flags.containsInvalidSeparator = false ∧ s.scan = s.accept s.pos s.scan.start l flags := by
  cases hcs : s.text.dropBytes? s.pos with
  | none =>
    refine absurd ?_ hkind
    rw [scan, hcs]
    rfl
  | some cs =>
    -- `u` is what is passed over, so that the token starts behind it.
    obtain ⟨u, rest, flags, rfl, hflags, hscan | ⟨atStart, l, hread, hscan⟩⟩ := scan_cases hcs
    · refine absurd ?_ hkind
      rw [hscan]
      rfl
    · have hsplit := Text.eq_append_drop (Lexeme.raw_prefix_of_read? s.target hread)
      have hstart : s.scan.start = s.pos + u.byteLength := by
        rw [hscan]
        rfl
      have htext : s.scan.text.dropBytes? s.scan.start =
          some (l.raw ++ rest.drop l.raw.length) := by
        rw [scan_text, hstart, Text.dropBytes?_add hcs, ← hsplit]
      obtain ⟨hraw, hbehind⟩ := isFollowedBy_of_dropBytes? htext (by rw [hscan]; rfl)
      exact ⟨atStart, l, _, flags, hsplit ▸ hread, hraw, hbehind, hflags, hstart ▸ hscan⟩

/-- Punctuation is read as far as it goes. -/
theorem isLongest_scan (hkind : s.scan.kind.isPunctuation = true) :
    ∃ behind, s.scan.IsLongest behind (Text.IsUnread (s.scan.raw ++ behind)) := by
  have hend : s.scan.kind ≠ .endOfFileToken := by
    intro heq
    rw [heq] at hkind
    cases hkind
  obtain ⟨atStart, l, behind, flags, hread, hraw, hbehind, -, hscan⟩ := exists_lexeme_of_scan hend
  have hl : s.scan.kind = l.kind := by
    rw [hscan]
    rfl
  obtain ⟨hspelling, hlongest⟩ := Lexeme.longest_of_read? hread (hl ▸ hkind)
  refine ⟨behind, hbehind, ?_, ?_⟩
  · rw [hl, hraw, hspelling]
  · rwa [hraw]

/-- What is the longest punctuation of the text is the longest token. -/
theorem IsLongest.of_text (htext : s.text.dropBytes? s.start = some (u ++ behind))
    (hpos : s.pos = s.start + u.byteLength)
    (h : Text.IsLongest (u ++ behind) (String.ofList u) s.kind) :
    s.IsLongest behind fun _ => False := by
  obtain ⟨hraw, hbehind⟩ := isFollowedBy_of_dropBytes? htext hpos
  have hspelling := (by decide : ∀ p ∈ SyntaxKind.punctuation, p.2.spelling? = some p.1)
    _ h.mem
  refine ⟨hbehind, by rw [hspelling, hraw], fun p hp hstarts _ => ?_⟩
  rw [hraw] at hstarts ⊢
  simpa using h.length_le p hp hstarts

/-- **A greater sign that is read again goes on as far as it can.** -/
theorem isLongest_rescanGreater (hkind : s.kind = .greaterThanToken) (hraw : s.raw = ['>'])
    (h : s.IsFollowedBy behind) : ∃ behind, s.rescanGreater.IsLongest behind fun _ => False := by
  obtain ⟨htext, hpos⟩ := h
  rw [hraw] at htext hpos
  rw [rescanGreater, if_pos hkind, hpos, Text.dropBytes?_add htext, Option.bind_some]
  -- The second reading looks at the text behind the sign, and finds the longest word there.
  cases hgreater : Lexeme.greater? behind with
  | none =>
    have hlongest := Lexeme.isLongest_of_greater?_eq_none hgreater
    exact ⟨behind, .of_text (u := ['>']) htext hpos (hkind ▸ hlongest)⟩
  | some p =>
    obtain ⟨kind, n⟩ := p
    obtain ⟨word, hlongest, hlength⟩ := Lexeme.isLongest_of_greater? hgreater
    have htake : '>' :: behind.take n = word.toList := by
      have hstarts := List.prefix_iff_eq_take.mp hlongest.starts
      rw [String.length_toList, hlength] at hstarts
      exact hstarts.symm
    have hsplit : '>' :: behind = '>' :: behind.take n ++ behind.drop n := by
      rw [List.cons_append, List.take_append_drop]
    refine ⟨behind.drop n, .of_text (u := '>' :: behind.take n) (hsplit ▸ htext) ?_ ?_⟩
    · have hwidth : Text.byteLength ('>' :: behind.take n) = 1 + n := by
        rw [Text.byteLength_cons, Lexeme.byteLength_take_of_greater? hgreater]
        rfl
      rw [hwidth]
      exact Nat.add_assoc ..
    · rw [← hsplit, htake, String.ofList_toList]
      exact hlongest

/-- A name without escapes is read as far as it goes. -/
theorem isWholeName_scan (hkind : s.scan.kind = .identifier ∨ s.scan.kind.isAnyKeyword = true)
    (hescape : s.scan.flags.unicodeEscape = false) : ∃ behind, s.scan.IsWholeName behind := by
  have hend : s.scan.kind ≠ .endOfFileToken := by
    intro heq
    rw [heq] at hkind
    rcases hkind with hk | hk <;> cases hk
  obtain ⟨atStart, l, behind, flags, hread, hraw, hbehind, -, hscan⟩ := exists_lexeme_of_scan hend
  obtain ⟨hl, hvalue⟩ : s.scan.kind = l.kind ∧ s.scan.value = l.value := by
    rw [hscan]
    exact ⟨rfl, rfl⟩
  have hnoted : l.flags.unicodeEscape = false := by
    rw [hscan] at hescape
    exact (Bool.or_eq_false_iff.mp hescape).2
  obtain ⟨hname, hlongest, hword, hkeyword⟩ :=
    Lexeme.wholeName_of_read? hread (hl ▸ hkind) hnoted
  rw [← hraw] at hname hlongest hword hkeyword
  rw [← s.scan_target] at hname hlongest
  refine ⟨behind, hbehind, hname, hvalue.trans hword, fun c hc => ?_, hl.trans hkeyword, ?_⟩
  · -- What is behind the name is what its characters leave over.
    have hsplit := List.takeWhile_append_dropWhile (p := Text.isNamePart s.scan.target)
      (l := s.scan.raw ++ behind)
    rw [← hlongest, List.append_cancel_left_eq] at hsplit
    have hstop := List.head?_dropWhile_not (Text.isNamePart s.scan.target) (s.scan.raw ++ behind)
    rw [hsplit, Option.mem_def.mp hc] at hstop
    simpa using hstop
  · rw [hl, hkeyword]
    cases hlookup : SyntaxKind.keyword? (String.ofList s.scan.raw) with
    | none => simp
    | some k =>
      have hk := SyntaxKind.isAnyKeyword_of_keyword? hlookup
      have hne : k ≠ .identifier := by
        rintro rfl
        cases hk
      simpa using hne

/-- **What a scan reads is as long as it can be**, and written as the tables say.

Punctuation is followed by nothing that would make it longer, apart from what a scan leaves alone. A
greater sign goes on as far as it can when it is read again. And a name or a keyword without escapes
ends where no name goes on. -/
theorem scan_longest (s : Scanner) :
    (s.scan.kind.isPunctuation = true →
      ∃ behind, s.scan.IsLongest behind (Text.IsUnread (s.scan.raw ++ behind))) ∧
    (s.scan.kind = .greaterThanToken →
      ∃ behind, s.scan.rescanGreater.IsLongest behind fun _ => False) ∧
    (s.scan.kind = .identifier ∨ s.scan.kind.isAnyKeyword = true →
      s.scan.flags.unicodeEscape = false → ∃ behind, s.scan.IsWholeName behind) := by
  refine ⟨isLongest_scan, fun hgreater => ?_, isWholeName_scan⟩
  obtain ⟨behind, hlongest⟩ := isLongest_scan (s := s) (by rw [hgreater]; rfl)
  have hraw : s.scan.raw = ['>'] := by
    have hspelling := hlongest.spelling
    rw [hgreater] at hspelling
    have hword : ">" = String.ofList s.scan.raw := Option.some.inj hspelling
    rw [← String.toList_ofList (l := s.scan.raw), ← hword]
    rfl
  exact isLongest_rescanGreater hgreater hraw hlongest.toIsFollowedBy

/-- The mark of a chain in front of a name, a shift that assigns, which is read twice, and a
keyword. -/
theorem scan_longest_samples :
    (let s := ofText ['?', '.', 'c'] true .latest;
      s.scan.kind = .questionDotToken ∧
        ∃ behind, s.scan.IsLongest behind (Text.IsUnread (s.scan.raw ++ behind))) ∧
    (let s := ofText ['>', '>', '>', '=', 'c'] true .latest;
      s.scan.rescanGreater.kind = .greaterThanGreaterThanGreaterThanEqualsToken ∧
        ∃ behind, s.scan.rescanGreater.IsLongest behind fun _ => False) ∧
    (let s := ofText ['i', 'f', '('] true .latest;
      s.scan.kind = .ifKeyword ∧ ∃ behind, s.scan.IsWholeName behind) := by
  refine ⟨⟨by decide, ?_⟩, ⟨by decide, ?_⟩, by decide, ?_⟩
  · exact (scan_longest _).1 (by decide)
  · exact (scan_longest _).2.1 (by decide)
  · exact (scan_longest _).2.2 (.inr (by decide)) (by decide)

/-! ### Complete names -/

/-- **A text is a complete name exactly if a scan takes all of it as one name or keyword**, without
escapes. -/
theorem isName_iff_scan (text : Text) (target : ScriptTarget) :
    Text.isName target text = true ↔
      let s := (ofText text false target).scan
      (s.kind = .identifier ∨ s.kind.isAnyKeyword = true) ∧ text ≠ [] ∧
        s.start = 0 ∧ s.pos = text.byteLength ∧ s.flags.unicodeEscape = false := by
  cases text with
  | nil => exact ⟨nofun, fun h => absurd rfl h.2.1⟩
  | cons c cs =>
    constructor
    · intro h
      obtain ⟨hraw, hescape⟩ := Lexeme.name_of_isName h
      have hstart := (Bool.and_eq_true .. |>.mp h).1
      have htoken : (Lexeme.name target (c :: cs)).kind.isTrivia = false := by
        rw [← Lexeme.token_of_isNameStart hstart]
        exact (Lexeme.kind_of_tokenForm target (Lexeme.token_form target c cs)).1
      have hscan := scan_eq_accept (s := ofText (c :: cs) false target) (Text.dropBytes?_zero _)
        (Lexeme.read?_of_isNameStart hstart) htoken
      have hpos : (ofText (c :: cs) false target).scan.pos = Text.byteLength (c :: cs) := by
        rw [hscan, accept_pos, Lexeme.width]
        exact (Nat.zero_add _).trans (congrArg Text.byteLength hraw)
      refine ⟨?_, List.cons_ne_nil c cs, ?_, hpos, ?_⟩
      · rw [hscan]
        exact Lexeme.name_kind target (c :: cs)
      · rw [hscan]
        rfl
      · rw [hscan]
        exact hescape
    · rintro ⟨hkind, -, hstart, hpos, hescape⟩
      -- The token is a complete name, and it is the whole text since it has the same width.
      obtain ⟨behind, hname⟩ := isWholeName_scan hkind hescape
      have htext := hname.text
      have hwidth := hname.pos
      rw [hstart, scan_text, Text.dropBytes?_zero] at htext
      rw [hstart, hpos, Nat.zero_add] at hwidth
      have hraw : (ofText (c :: cs) false target).scan.raw = c :: cs :=
        Text.eq_of_isPrefix ⟨behind, (Option.some.inj htext).symm⟩ (List.prefix_refl _) hwidth.symm
      have hcomplete := hname.name (by rw [hraw]; exact List.cons_ne_nil c cs)
      rwa [hraw, scan_target] at hcomplete

end Scanner

end ScriptTree
