import ScriptTree.Convert.Token
import ScriptTree.Proofs.Trivia.Walks

/-!
# Regular expressions among the tokens

A regular expression is a slash that was read again. So its text starts with a slash, wherever the
token may end, and can be taken apart. So the tokens of a text have a normalized form, all of them,
unless the type of one is never decided (`ScriptTree.Trivia.mapM_ofToken`).
-/

namespace ScriptTree

/-! ### Taking regular expressions apart -/

namespace Regex

/-- There is a last slash where there is a slash. -/
theorem isSome_splitLast?_iff {raw : Text} : (splitLast? raw).isSome = true ↔ '/' ∈ raw := by
  induction raw with
  | nil => simp [splitLast?]
  | cons c cs ih =>
    rw [splitLast?, List.mem_cons, ← ih]
    cases splitLast? cs with
    | some => simp
    | none =>
      by_cases hc : c = '/'
      · simp [hc]
      · simp [hc, Ne.symm hc]

/-- **A text can be taken apart** unless its first character is longer than one byte and a slash
follows. -/
theorem isSome_split?_iff {raw : Text} : (split? raw).isSome = true ↔
    ∀ c cs, raw = c :: cs → '/' ∈ cs → c.utf8Size = 1 := by
  cases raw with
  | nil => simp [split?, splitLast?]
  | cons c cs =>
    have hlast : (splitLast? cs).isSome = true ↔ '/' ∈ cs := isSome_splitLast?_iff
    rw [split?, splitLast?]
    cases hsplit : splitLast? cs with
    | none =>
      rw [hsplit] at hlast
      have hnone : '/' ∉ cs := fun hmem => Bool.false_ne_true (hlast.mpr hmem)
      refine iff_of_true ?_ ?_
      · by_cases hc : c = '/' <;> simp [hc]
      · rintro _ _ ⟨⟩ hmem
        exact absurd hmem hnone
    | some parts =>
      rw [hsplit] at hlast
      have hmem : '/' ∈ cs := hlast.mp rfl
      by_cases hc : c.utf8Size = 1
      · simp [hc]
      · simp [hc, hmem]

/-- A text that starts with a slash can be taken apart. -/
theorem isSome_split?_of_head {raw : Text} (h : ∀ c ∈ raw.head?, c = '/') :
    (split? raw).isSome = true := by
  rw [isSome_split?_iff]
  rintro c cs rfl -
  rw [h c rfl]
  rfl

end Regex

namespace Text

/-- The first characters of a text start as the text does. -/
theorem head?_of_takeBytes? {n : Nat} {c d : Char} {text taken : Text}
    (h : takeBytes? n (c :: text) = some taken) (hd : d ∈ taken.head?) : d = c := by
  cases n with
  | zero =>
    rw [takeBytes?_zero] at h
    cases h
    cases hd
  | succ n =>
    rw [takeBytes?] at h
    split at h
    · obtain ⟨rest, -, rfl⟩ := Option.map_eq_some_iff.mp h
      exact (Option.some.inj hd).symm
    · cases h

/-- A slice starts with the character at its start, if it is not empty. -/
theorem head?_slice {text rest : Text} {c d : Char} {start stop : Nat}
    (h : text.dropBytes? start = some (c :: rest)) (hd : d ∈ (text.slice start stop).head?) :
    d = c := by
  rw [slice, slice?] at hd
  split at hd
  · rw [h, Option.bind_some] at hd
    cases htaken : takeBytes? (stop - start) (c :: rest) with
    | none =>
      rw [htaken] at hd
      cases hd
    | some taken =>
      rw [htaken] at hd
      exact head?_of_takeBytes? htaken hd
  · cases hd

end Text

/-! ### Where regular expressions come from -/

/-- A piece of a template is no regular expression. -/
theorem Lexeme.templateKind_ne_regex (first : Bool) (ending : TemplateEnd) :
    templateKind first ending ≠ .regularExpressionLiteral := by
  cases first <;> cases ending <;> nofun

/-- No lexeme is read as a regular expression at once. -/
theorem Lexeme.kind_ne_regex {target : ScriptTarget} {atStart : Bool} {cs : Text} {l : Lexeme}
    (h : read? target atStart cs = some l) : l.kind ≠ .regularExpressionLiteral := by
  cases cs with
  | nil => cases h
  | cons c cs =>
    cases read?_form target h with
    | token htoken =>
      cases htoken with
      | template => exact templateKind_ne_regex true _
      | number => rcases number_kind (c :: cs) with hk | hk <;> rw [hk] <;> nofun
      | name =>
        rcases name_kind target (c :: cs) with hk | hk
        · rw [hk]
          nofun
        · intro heq
          rw [heq] at hk
          cases hk
      | punctuator hp =>
        rintro rfl
        cases (punctuator?_eq_some hp).1
      | single hk => rcases hk with ⟨rfl, -⟩ | rfl <;> nofun
      | _ => nofun
    | _ => nofun

/-- A greater sign that goes on is an operator. -/
theorem Lexeme.kind_ne_regex_of_greater? {cs : Text} {kind : SyntaxKind} {n : Nat}
    (h : greater? cs = some (kind, n)) : kind ≠ .regularExpressionLiteral := by
  unfold greater? at h
  split at h <;> cases h <;> nofun

/-- **If a token is a regular expression, a slash stands where it starts.** -/
def SourceToken.SlashesRegex (text : Text) (t : SourceToken) : Prop :=
  t.kind = .regularExpressionLiteral → ∃ rest, text.dropBytes? t.start = some ('/' :: rest)

namespace Trivia

variable {a : Arena} {root : NodeRef} {spans : List (Nat × Nat)} {s s' : Scanner}

/-- A scanner of a walk over a text. -/
structure WalksOver (text : Text) (s : Scanner) : Prop where
  text_eq : s.text = text
  keepsTrivia : s.skipTrivia = false

/-- A scan keeps to its text; it reads no regular expression, and a slash only where one stands. -/
theorem scan_walksOver {text : Text} (hs : WalksOver text s) :
    WalksOver text s.scan ∧ s.scan.kind ≠ .regularExpressionLiteral ∧
      (s.scan.kind = .slashToken ∨ s.scan.kind = .slashEqualsToken →
        ∃ rest, text.dropBytes? s.scan.start = some ('/' :: rest)) := by
  obtain ⟨rfl, hskip⟩ := hs
  cases hdrop : s.text.dropBytes? s.pos with
  | none =>
    have hscan : s.scan = s.acceptEnd s.pos s.pos {} := by rw [Scanner.scan, hdrop]
    rw [hscan]
    exact ⟨⟨rfl, hskip⟩, by rintro ⟨⟩, by rintro (h | h) <;> cases h⟩
  | some cs =>
    have hscan := Scanner.scan_eq hskip hdrop
    cases hread : Lexeme.read? s.target (s.pos == 0) cs with
    | none =>
      rw [hread] at hscan
      rw [hscan]
      exact ⟨⟨rfl, hskip⟩, by rintro ⟨⟩, by rintro (h | h) <;> cases h⟩
    | some l =>
      rw [hread] at hscan
      rw [hscan]
      refine ⟨⟨rfl, hskip⟩, Lexeme.kind_ne_regex hread, fun hk => ?_⟩
      obtain ⟨rest, rfl⟩ := List.head?_eq_some_iff.mp ((Lexeme.head_of_read? _ hread).1 hk)
      exact ⟨rest, hdrop⟩

/-- A token that is read again is a regular expression only if it was a slash. -/
theorem walksOver_of_reread? {text : Text} {n : Node} {t : SourceToken} {kind : SyntaxKind}
    {stop : Nat} (hs : WalksOver text s) (hkind : s.kind ≠ .regularExpressionLiteral)
    (h : reread? a n s t = some (kind, stop, s')) :
    WalksOver text s' ∧ (kind = .regularExpressionLiteral →
      t.kind = .slashToken ∨ t.kind = .slashEqualsToken) := by
  obtain ⟨rfl, hskip⟩ := hs
  -- Of the ways of reading a token again only that of a slash gives a regular expression.
  rw [reread?] at h
  split at h
  · cases h
    refine ⟨⟨rfl, hskip⟩, fun hk => ?_⟩
    rw [Scanner.rescanTemplate] at hk
    dsimp only at hk
    split at hk <;> exact absurd hk (Lexeme.templateKind_ne_regex false _)
  split at h
  · next hslash =>
    cases h
    refine ⟨⟨s.rescanSlash_text, ?_⟩, fun _ => hslash.1⟩
    rw [Scanner.rescanSlash]
    split <;> exact hskip
  split at h
  · cases h
    refine ⟨⟨s.rescanGreater_text, ?_⟩, fun hk => ?_⟩
    · rw [Scanner.rescanGreater]
      split
      · split <;> exact hskip
      · exact hskip
    · rw [Scanner.rescanGreater] at hk
      split at hk
      · split at hk
        · next hgreater =>
          obtain ⟨cs, -, hgreater⟩ := Option.bind_eq_some_iff.mp hgreater
          exact absurd hk (Lexeme.kind_ne_regex_of_greater? hgreater)
        · exact absurd hk hkind
      · exact absurd hk hkind
  split at h
  · cases h
    exact ⟨⟨rfl, hskip⟩, by rintro ⟨⟩⟩
  split at h
  · cases h
    exact ⟨⟨rfl, hskip⟩, by rintro ⟨⟩⟩
  · cases h

/-- Whatever a node makes of a token, it is a regular expression only where a slash stands. -/
theorem walksOver_readAs {text : Text} {t : SourceToken} (covering : Option Node)
    (hs : WalksOver text s) (hkind : s.kind ≠ .regularExpressionLiteral) (ht : t.kind = s.kind)
    (hslash : t.kind = .slashToken ∨ t.kind = .slashEqualsToken →
      ∃ rest, text.dropBytes? t.start = some ('/' :: rest)) :
    WalksOver text (readAs a covering s t).2 ∧ (readAs a covering s t).1.SlashesRegex text := by
  have hsame : t.SlashesRegex text := fun hregex => absurd (ht.symm.trans hregex) hkind
  obtain heq | ⟨n, kind, stop, s', -, hreread, heq⟩ := readAs_cases a covering s t
  · rw [heq]
    exact ⟨hs, hsame⟩
  · rw [heq]
    obtain ⟨hs', hregex⟩ := walksOver_of_reread? hs hkind hreread
    exact ⟨hs', fun hk => hslash (hregex hk)⟩

/-- **A step finds a regular expression only where a slash stands.** -/
theorem slashesRegex_of_step {text : Text} {item : Item} (hs : WalksOver text s)
    (h : step a root spans s = .ok (item, s')) :
    WalksOver text s' ∧ ∀ t, item = .token t → t.SlashesRegex text := by
  rw [step] at h
  split at h
  · cases h
    refine ⟨⟨hs.text_eq, hs.keepsTrivia⟩, ?_⟩
    rintro t ⟨⟩ ⟨⟩
  obtain ⟨hscan, hkind, hslash⟩ := scan_walksOver hs
  dsimp only at h
  split at h
  · cases h
  split at h
  · cases h
    exact ⟨hscan, by rintro _ ⟨⟩⟩
  split at h
  · cases h
    exact ⟨hscan, by rintro _ ⟨⟩⟩
  split at h
  · cases h
    exact ⟨hscan, by rintro _ ⟨⟩⟩
  split at h
  · split at h
    · cases h
    next hresolve =>
    cases h
    obtain ⟨r, -, hread⟩ := resolve_eq_some_iff.mp hresolve
    have hresolved := walksOver_readAs (a := a) (t := ⟨s.scan.kind, s.scan.start, s.scan.pos⟩)
      (a.node? r) hscan hkind rfl hslash
    rw [hread] at hresolved
    refine ⟨hresolved.1, ?_⟩
    rintro t ⟨⟩
    exact hresolved.2
  · cases h
    refine ⟨hscan, ?_⟩
    rintro t ⟨⟩ hregex
    exact absurd hregex hkind

/-- What a whole walk finds. -/
theorem slashesRegex_of_walk {text : Text} {items : List Item} (h : Walk a root spans s items)
    (hs : WalksOver text s) : ∀ t ∈ (collect items).tokens, t.SlashesRegex text := by
  induction h with
  | done => exact List.forall_mem_nil _
  | @more s s' item items hstep _ ih =>
    obtain ⟨hs', hitem⟩ := slashesRegex_of_step hs hstep
    change ∀ t ∈ (cons item (collect items)).tokens, _
    cases item with
    | token t => exact List.forall_mem_cons.mpr ⟨hitem t rfl, ih hs'⟩
    | comment => exact ih hs'
    | nothing => exact ih hs'

end Trivia

/-! ### The normalized tokens -/

/-- Only a regular expression has the type of one. -/
theorem Arena.kind_of_tokenType {a : Arena} {root : NodeRef} {t : SourceToken}
    (h : a.tokenType root t = some .regularExpression) : t.kind = .regularExpressionLiteral := by
  rw [tokenType] at h
  split at h <;> first | assumption | cases h | skip
  · obtain ⟨isValue, -, h⟩ := Option.map_eq_some_iff.mp h
    split at h <;> cases h
  · obtain ⟨isName, -, h⟩ := Option.map_eq_some_iff.mp h
    split at h <;> cases h
  · obtain ⟨isName, -, h⟩ := Option.map_eq_some_iff.mp h
    split at h <;> cases h
  · have h := Option.some.inj h
    split at h
    · cases h
    · split at h
      · cases h
      · split at h <;> cases h

/-- **A token has a normalized form if its type is decided**, and a slash stands where it starts as a
regular expression. -/
theorem EsToken.ofToken_of_tokenType {a : Arena} {root : NodeRef} (map : LineMap) {t : SourceToken}
    {type : TokenType} (ht : t.SlashesRegex map.text) (htype : a.tokenType root t = some type) :
    ∃ es, ofToken a root map t = .ok es := by
  simp only [ofToken, htype]
  by_cases hregex : type = .regularExpression
  · subst hregex
    obtain ⟨rest, hrest⟩ := ht (Arena.kind_of_tokenType htype)
    have hsome : (Regex.split? (map.text.slice t.start t.stop)).isSome = true :=
      Regex.isSome_split?_of_head fun c hc => Text.head?_slice hrest hc
    obtain ⟨regex, hregex⟩ := Option.isSome_iff_exists.mp hsome
    rw [if_pos rfl, hregex]
    exact ⟨_, rfl⟩
  · rw [if_neg hregex]
    exact ⟨_, rfl⟩

/-- Otherwise it has none. -/
theorem EsToken.ofToken_of_tokenType_eq_none {a : Arena} {root : NodeRef} {map : LineMap}
    {t : SourceToken} (htype : a.tokenType root t = none) :
    ofToken a root map t = .error .endless := by
  simp only [ofToken, htype]
  rfl

/-- **The tokens of a text have a normalized form**, all of them, if their types are decided; and if
one is not, they have none. -/
theorem Trivia.mapM_ofToken {a : Arena} {root : NodeRef} {text : Text} {target : ScriptTarget}
    {trivia : Trivia} (h : ofText? a root text target = some trivia) :
    (∃ tokens, trivia.tokens.mapM (EsToken.ofToken a root (LineMap.ofText text)) = .ok tokens) ∨
      trivia.tokens.mapM (EsToken.ofToken a root (LineMap.ofText text)) = .error .endless ∧
        ∃ t ∈ trivia.tokens, a.tokenType root t = none := by
  obtain ⟨items, hwalk, -, rfl⟩ := walkFrom?_eq_some_iff.mp h
  have hslash : ∀ t ∈ (collect items).tokens, t.SlashesRegex text :=
    slashesRegex_of_walk hwalk ⟨rfl, rfl⟩
  generalize (collect items).tokens = tokens at hslash
  induction tokens with
  | nil => exact .inl ⟨[], rfl⟩
  | cons t tokens ih =>
    obtain ⟨ht, hrest⟩ := List.forall_mem_cons.mp hslash
    rw [List.mapM_cons]
    cases htype : a.tokenType root t with
    | none =>
      rw [EsToken.ofToken_of_tokenType_eq_none htype]
      exact .inr ⟨rfl, t, List.mem_cons_self, htype⟩
    | some type =>
      obtain ⟨es, hes⟩ := EsToken.ofToken_of_tokenType (LineMap.ofText text) ht htype
      rw [hes]
      obtain ⟨others, hothers⟩ | ⟨hnone, x, hx, htype⟩ := ih hrest
      · rw [hothers]
        exact .inl ⟨es :: others, rfl⟩
      · rw [hnone]
        exact .inr ⟨rfl, x, List.mem_cons_of_mem t hx, htype⟩

end ScriptTree
