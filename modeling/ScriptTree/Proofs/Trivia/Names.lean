import ScriptTree.Proofs.Arena.MarkupNames
import ScriptTree.Proofs.Scan.Names
import ScriptTree.Proofs.Trivia.Markup
import ScriptTree.Proofs.Trivia.Spans

/-!
# The tokens of names

The kind of a token that starts as a name does is told by how the token is written, and by nothing
else (`ScriptTree.Trivia.kind_of_startsName`): it is a keyword if it is spelled as one, whatever the
tree says. The type of the token is that of a name in markup if it is a name at all, and the node
that it spans names markup. So a name of markup that is spelled as a keyword has the type of the
keyword (`ScriptTree.Trivia.tokenType_of_identifier`).
-/

namespace ScriptTree

/-- A text starts as a name does: with a character for this, or with an escape. -/
def Text.StartsName (target : ScriptTarget) (w : Text) : Prop :=
  ∃ c cs, w = c :: cs ∧ (Text.isNameStart target c = true ∨ c = '\\' ∧ cs ≠ [])

namespace Trivia

variable {a : Arena} {root : NodeRef} {spans : List (Nat × Nat)} {s s' : Scanner} {text w : Text}
  {target : ScriptTarget} {t : SourceToken}

/-- Every token that a walk collects is found by a step of it, and the walk goes on from there to
the end of the text. -/
theorem exists_step_of_mem_tokens {trivia : Trivia} (h : ofText? a root text target = some trivia)
    (ht : t ∈ trivia.tokens) : ∃ s s' items, IsOnWay a root text target s ∧
      Walk a root (markupSpans a) s items ∧
      step a root (markupSpans a) s = .ok (.token t, s') := by
  obtain ⟨items, hwalk, -, rfl⟩ := walkFrom?_eq_some_iff.mp h
  have hfound {s : Scanner} {items : List Item} (hwalk : Walk a root (markupSpans a) s items)
      (hs : IsOnWay a root text target s) (ht : t ∈ (collect items).tokens) :
      ∃ s s' items, IsOnWay a root text target s ∧ Walk a root (markupSpans a) s items ∧
        step a root (markupSpans a) s = .ok (.token t, s') := by
    induction hwalk with
    | done => cases ht
    | @more s s' item items hstep hrest ih =>
      have hlater := ih (hs.tail ⟨item, hstep⟩)
      change t ∈ (cons item (collect items)).tokens at ht
      cases item with
      | token x =>
        rcases List.mem_cons.mp ht with rfl | ht
        · exact ⟨s, s', _, hs, .more hstep hrest, hstep⟩
        · exact hlater ht
      | comment => exact hlater ht
      | nothing => exact hlater ht
  exact hfound hwalk .refl ht

/-- **A token outside of the texts between tags** was read from the text. -/
theorem exists_read_of_step (hs : WalksOver text s) (hmarkup : markupEnd? spans s.pos = none)
    (h : step a root spans s = .ok (.token t, s')) :
    ∃ cs l, Ready s ∧ s.text.dropBytes? s.pos = some cs ∧
      Lexeme.read? s.target (s.pos == 0) cs = some l ∧ l.kind.isTrivia = false := by
  rw [step, hmarkup] at h
  dsimp only at h
  have hend : s.scan.kind ≠ .endOfFileToken := by
    intro hend
    rw [if_pos hend] at h
    cases h
  obtain ⟨cs, l, hcs, hl, hscan⟩ := Scanner.exists_read_of_scan hs.keepsTrivia hend
  refine ⟨cs, l, ⟨hs.keepsTrivia, Text.isBoundary_iff.mpr ⟨cs, hcs⟩⟩, hcs, hl, ?_⟩
  have hkind : s.scan.kind = l.kind := by rw [hscan]; rfl
  rw [hkind] at h
  rw [Bool.eq_false_iff]
  intro htrivia
  split_ifs at h <;> cases h

/-- A token outside of the texts between tags is what was read, or what the tree makes of it. -/
theorem eq_or_readAs_of_step (hs : WalksOver text s) (hmarkup : markupEnd? spans s.pos = none)
    (h : step a root spans s = .ok (.token t, s')) :
    ∃ cs l, Ready s ∧ text.dropBytes? s.pos = some cs ∧
      Lexeme.read? s.target (s.pos == 0) cs = some l ∧ l.kind.isTrivia = false ∧
      (t = ⟨l.kind, s.pos, s.pos + l.width⟩ ∨
        isAmbiguous text ⟨l.kind, s.pos, s.pos + l.width⟩ = true ∧ ∃ covering,
          t = (readAs a covering (s.accept s.pos s.pos l {})
            ⟨l.kind, s.pos, s.pos + l.width⟩).1) := by
  obtain ⟨cs, l, hready, hcs, hl, htrivia⟩ := exists_read_of_step hs hmarkup h
  refine ⟨cs, l, hready, hs.text_eq ▸ hcs, hl, htrivia, ?_⟩
  rw [step_of_read hready hmarkup hcs hl htrivia, hs.text_eq] at h
  dsimp only at h
  split at h
  · next hambiguous =>
    split at h
    · cases h
    next hresolve =>
    cases h
    obtain ⟨r, -, hread⟩ := resolve_eq_some_iff.mp hresolve
    exact .inr ⟨hambiguous, a.node? r, (congrArg Prod.fst hread).symm⟩
  · cases h
    exact .inl rfl

/-- **A token starts where the step to it does, and has a width**, if the walk comes to an end. -/
theorem start_lt_stop_of_step {items : List Item} (hs : WalksOver text s)
    (hwalk : Walk a root spans s items) (h : step a root spans s = .ok (.token t, s')) :
    t.start = s.pos ∧ t.start < t.stop := by
  cases hmarkup : markupEnd? spans s.pos with
  | some stop =>
    rw [step, hmarkup] at h
    cases h
    obtain ⟨span, hspan, rfl⟩ := Option.map_eq_some_iff.mp hmarkup
    exact ⟨rfl, of_decide_eq_true (Option.filter_eq_some_iff.mp hspan).2⟩
  | none =>
    obtain ⟨cs, l, hready, hcs, hl, -, hfound⟩ := eq_or_readAs_of_step hs hmarkup h
    -- A token without width is a stray escape, where the walk would stall.
    have hwidth : 0 < l.width := by
      refine Text.byteLength_pos.mpr fun hraw => not_stalls_of_walk hwalk hready ⟨hmarkup, ?_⟩
      rw [Scanner.isStuck, hs.text_eq, hcs, Option.any_some]
      exact (Lexeme.raw_eq_nil_iff_of_read? s.target hl).mp hraw
    rcases hfound with rfl | ⟨-, covering, rfl⟩
    · exact ⟨rfl, Nat.lt_add_of_pos_right hwidth⟩
    · refine ⟨start_readAs, ?_⟩
      rw [start_readAs]
      rcases @lt_or_le_of_readAs a (s.accept s.pos s.pos l {}) covering
        ⟨l.kind, s.pos, s.pos + l.width⟩ rfl rfl with hlt | hle
      · exact hlt
      · exact (Nat.lt_add_of_pos_right hwidth).trans_le hle

/-! ### Names -/

/-- A name is not of any kind of punctuation. -/
theorem kind_ne_of_name (hname : t.kind = .identifier ∨ t.kind.isAnyKeyword = true) {k : SyntaxKind}
    (hk : k ≠ .identifier) (hword : k.isAnyKeyword = false) : t.kind ≠ k := by
  rintro rfl
  rcases hname with hname | hname
  · exact hk hname
  · rw [hword] at hname
    cases hname

/-- A name may mean something else only in front of a hyphen. -/
theorem charAt?_of_isAmbiguous (hname : t.kind = .identifier ∨ t.kind.isAnyKeyword = true)
    (h : isAmbiguous text t = true) : charAt? text t.stop = some '-' := by
  have hne {k : SyntaxKind} (hk : k ≠ .identifier) (hword : k.isAnyKeyword = false) :=
    kind_ne_of_name hname hk hword
  rw [isAmbiguous, Bool.or_eq_true] at h
  rcases h with h | h
  · have hmem := List.contains_iff_mem.mp h
    simp only [List.mem_cons, List.not_mem_nil, or_false] at hmem
    rcases hmem with hk | hk | hk | hk | hk <;> exact absurd hk (hne (by decide) rfl)
  · rw [Bool.and_eq_true, beq_iff_eq] at h
    exact h.2

/-- What the tree makes of a name is the name, or an identifier that goes on behind it. -/
theorem readAs_name (covering : Option Node)
    (hname : t.kind = .identifier ∨ t.kind.isAnyKeyword = true) :
    (readAs a covering s t).1 = t ∨
      (readAs a covering s t).1.kind = .identifier ∧ t.stop < (readAs a covering s t).1.stop := by
  have hne {k : SyntaxKind} (hk : k ≠ .identifier) (hword : k.isAnyKeyword = false) :=
    kind_ne_of_name hname hk hword
  obtain heq | ⟨n, kind, stop, s', -, hreread, heq⟩ := readAs_cases a covering s t
  · exact .inl (congrArg Prod.fst heq)
  · rw [heq]
    rw [reread?, if_neg fun h => hne (by decide) rfl h.1,
      if_neg fun h => h.1.elim (hne (by decide) rfl) (hne (by decide) rfl),
      if_neg fun h => hne (by decide) rfl h.1, if_neg fun h => hne (by decide) rfl h.1] at hreread
    split at hreread
    · next hwider =>
      cases hreread
      exact .inr ⟨rfl, hwider.2.2⟩
    · cases hreread

/-- What starts as a name does is a name, or a stray backslash. -/
theorem eq_name_of_startsName {rest : Text} {l : Lexeme} {atStart : Bool}
    (hstarts : w.StartsName target) (hl : Lexeme.read? target atStart (w ++ rest) = some l)
    (htrivia : l.kind.isTrivia = false) :
    l = Lexeme.name target (w ++ rest) ∨ l.kind = .unknown ∧ l.width < w.byteLength := by
  obtain ⟨_, cs, rfl, hstart | ⟨rfl, hne⟩⟩ := hstarts
  · rw [Lexeme.eq_token_of_read? hl htrivia, Lexeme.token_of_isNameStart hstart]
    exact .inl rfl
  · have htoken : l = Lexeme.token target '\\' (cs ++ rest) := Lexeme.eq_token_of_read? hl htrivia
    rw [Lexeme.token, if_neg (by decide), if_neg (by decide), if_neg (by simp [Text.isDigit]),
      if_neg (by decide), if_pos rfl] at htoken
    split at htoken
    · exact .inl htoken
    · refine .inr ⟨by rw [htoken]; rfl, ?_⟩
      have hwidth : l.width = 1 := by rw [htoken]; rfl
      have hback : ('\\' : Char).utf8Size = 1 := rfl
      have hlength := Text.byteLength_pos.mpr hne
      rw [hwidth, Text.byteLength_cons]
      omega

/-- A name that goes on behind what was read of it has a hyphen. -/
theorem hyphen_mem {l : Lexeme} {rest : Text} (hcs : text.dropBytes? s.pos = some (w ++ rest))
    (hraw : l.raw <+: w ++ rest) (hlt : l.width < w.byteLength)
    (hnext : charAt? text (s.pos + l.width) = some '-') : '-' ∈ w := by
  have hprefix : l.raw <+: w := by
    rcases List.prefix_or_prefix_of_prefix hraw (List.prefix_append w rest) with hle | ⟨v, hv⟩
    · exact hle
    · rw [Lexeme.width, ← hv, Text.byteLength_append] at hlt
      omega
  obtain ⟨u, rfl⟩ := hprefix
  have hu : u ≠ [] := by
    rintro rfl
    simp [Lexeme.width] at hlt
  obtain ⟨c, u, rfl⟩ := List.exists_cons_of_ne_nil hu
  rw [List.append_assoc] at hcs
  rw [Lexeme.width, charAt?_behind hcs] at hnext
  obtain rfl : c = '-' := Option.some.inj hnext
  simp

/-- **The kind of a token that starts as a name does** is told by how it is written. -/
theorem kind_of_startsName (hs : WalksOver text s) (hmarkup : markupEnd? spans s.pos = none)
    (h : step a root spans s = .ok (.token t, s')) (hw : text.slice? t.start t.stop = some w)
    (hstarts : w.StartsName s.target) :
    t.kind = (SyntaxKind.keyword? (String.ofList w)).getD .identifier := by
  obtain ⟨cs, l, -, hcs, hl, htrivia, hfound⟩ := eq_or_readAs_of_step hs hmarkup h
  obtain ⟨rest, hrest, hstop⟩ := Text.slice?_eq_some_iff.mp hw
  have hstart : t.start = s.pos := by
    rcases hfound with rfl | ⟨-, covering, rfl⟩
    · rfl
    · exact start_readAs
  rw [hstart] at hrest hstop
  obtain rfl : cs = w ++ rest := Option.some.inj (hcs.symm.trans hrest)
  rcases eq_name_of_startsName hstarts hl htrivia with rfl | ⟨hunknown, hlt⟩
  · have hraw : (Lexeme.name s.target (w ++ rest)).raw <+: w ++ rest :=
      Lexeme.nameRun_raw_isPrefix s.target 0 true (w ++ rest)
    have hkind := Lexeme.name_kind s.target (w ++ rest)
    -- What was read is the whole token, unless the tree has the name go on behind it.
    have hwhole (hwidth : (Lexeme.name s.target (w ++ rest)).width = w.byteLength) :
        (Lexeme.name s.target (w ++ rest)).kind =
          (SyntaxKind.keyword? (String.ofList w)).getD .identifier := by
      rw [Lexeme.name_kind_eq, Text.eq_of_isPrefix hraw (List.prefix_append w rest) hwidth]
    rcases hfound with rfl | ⟨hambiguous, covering, ht⟩
    · exact hwhole (Nat.add_left_cancel hstop)
    · rcases readAs_name (t := ⟨_, s.pos, s.pos + (Lexeme.name s.target (w ++ rest)).width⟩) covering
        hkind with heq | ⟨hidentifier, hlt⟩
      · rw [heq] at ht
        rw [ht]
        rw [ht] at hstop
        exact hwhole (Nat.add_left_cancel hstop)
      · rw [← ht] at hidentifier hlt
        have hnext := charAt?_of_isAmbiguous hkind hambiguous
        rw [hidentifier, SyntaxKind.keyword?_eq_none
          (hyphen_mem hcs hraw (by simp only at hlt; omega) hnext) (by decide)]
        rfl
  · rcases hfound with rfl | ⟨hambiguous, -⟩
    · simp only at hstop
      omega
    · rw [hunknown] at hambiguous
      cases hambiguous

/-! ### The types of the tokens of names -/

/-- The type of names in markup. -/
theorem tokenType_eq_jsxIdentifier_iff : a.tokenType root t = some .jsxIdentifier ↔
    (t.kind = .identifier ∨ t.kind = .privateIdentifier) ∧ a.isMarkupName root t = some true := by
  rw [Arena.tokenType]
  split
  all_goals try simp_all
  all_goals split_ifs <;> simp_all

/-- **The type of a token that spans an identifier.**

If the identifier names markup, it is that of names in markup just when the token is a name; and no
other identifier has it, if tags and attributes hold no names but their own. Whether the token is a
name is told by how it is written: it is not if it is spelled as a keyword. -/
theorem tokenType_of_identifier {trivia : Trivia} {i : NodeId} {n : Node} (h : a.IsNested root)
    (hlinked : a.IsLinkedTree root) (hbare : a.HasBareTokens root)
    (htrivia : ofText? a root text target = some trivia) (ht : t ∈ trivia.tokens)
    (hi : a.Reaches root i) (hn : a.nodes[i]? = some n) (hk : n.kind = .identifier)
    (hspan : (n.pos, n.stop) = (t.start, t.stop)) :
    (a.NamesMarkup i → (a.tokenType root t = some .jsxIdentifier ↔
      t.kind = .identifier ∨ t.kind = .privateIdentifier)) ∧
    (a.HasPlainMarkup root → a.tokenType root t = some .jsxIdentifier → a.NamesMarkup i) ∧
    ∀ w, text.slice? t.start t.stop = some w → w.StartsName target →
      t.kind = (SyntaxKind.keyword? (String.ofList w)).getD .identifier ∧
      (a.NamesMarkup i → (a.tokenType root t = some .jsxIdentifier ↔
        SyntaxKind.keyword? (String.ofList w) = none)) := by
  obtain ⟨s, s', items, hway, hwalk, hstep⟩ := exists_step_of_mem_tokens htrivia ht
  obtain ⟨hstart, hlt⟩ := start_lt_stop_of_step hway.walksOver.1 hwalk hstep
  obtain ⟨hpos, hstop⟩ := Prod.mk.inj hspan
  have hcovers (x : Nat) (hle : t.start ≤ x) (hx : x < t.stop) : a.Covers i x :=
    (Arena.covers_iff hn).mpr ⟨by omega, by omega⟩
  have hnode : a.nodeContaining root t.start t.stop = some (some i) :=
    h.nodeContaining_eq hlt hi (hcovers _ (Nat.le_refl _) hlt) (hcovers _ (by omega) (by omega))
      fun k hk' => absurd hk' (hbare.not_isChild i k n hi hn (by rw [hk]; rfl))
  have hfound : a.isMarkupName root t = a.search a.climbNames i := by
    rw [Arena.isMarkupName, hnode]
    rfl
  have htype (hnames : a.NamesMarkup i) : a.tokenType root t = some .jsxIdentifier ↔
      t.kind = .identifier ∨ t.kind = .privateIdentifier := by
    rw [tokenType_eq_jsxIdentifier_iff, hfound]
    exact and_iff_left (hlinked.climbNames_of_namesMarkup hi hn hnames)
  refine ⟨htype, fun hplain htype => ?_, fun w hw hstarts => ?_⟩
  · have hclimb := (tokenType_eq_jsxIdentifier_iff.mp htype).2
    rw [hfound] at hclimb
    exact hlinked.namesMarkup_of_climbNames hplain hi hn (by rw [hk]; rfl) hclimb
  have hmarkup := markupEnd?_eq_none_of_isToken h hbare hi hn (by rw [hk]; rfl)
    (by rw [hk]; decide) (hcovers s.pos hstart.le (hstart ▸ hlt))
  have hkind := kind_of_startsName hway.walksOver.1 hmarkup hstep hw (hway.walksOver.2 ▸ hstarts)
  refine ⟨hkind, fun hnames => (htype hnames).trans ?_⟩
  rw [hkind]
  cases hword : SyntaxKind.keyword? (String.ofList w) with
  | none => simp
  | some k =>
    have hk' := SyntaxKind.isAnyKeyword_of_keyword? hword
    refine iff_of_false ?_ (Option.some_ne_none k)
    rintro (rfl | rfl) <;> cases hk'

/-! ### An attribute with the name of a keyword -/

/-- The tree of `<a class="x"/>`. -/
def classAttribute : Arena where
  nodes := #[
    { kind := .identifier, pos := 1, stop := 2, pool := some .identifier, dataIndex := 0 },
    { kind := .identifier, pos := 3, stop := 8, pool := some .identifier, dataIndex := 1 },
    { kind := .stringLiteral, pos := 9, stop := 12, pool := some .literal, dataIndex := 0 },
    { kind := .jsxAttribute, pos := 3, stop := 12, pool := some .jsxAttribute, dataIndex := 0 },
    { kind := .jsxAttributes, pos := 3, stop := 12, pool := some .jsxAttributes, dataIndex := 0 },
    { kind := .jsxSelfClosingElement, pos := 0, stop := 14, pool := some .jsxOpening
      dataIndex := 0 }]
  parents := #[some 5, some 3, some 3, some 4, some 5, none]
  pools := fun
    | .identifier => #[⟨"a", ()⟩, ⟨"class", ()⟩]
    | .literal => #[⟨"x", false, ()⟩]
    | .jsxAttribute => #[⟨some 1, some 2, ()⟩]
    | .jsxAttributes => #[⟨⟨[some 3], 3, 12, false⟩, ()⟩]
    | .jsxOpening => #[⟨some 0, none, some 4, ()⟩]
    | _ => #[]

/-- The name of the attribute is a keyword among the tokens. -/
theorem classAttribute_keyword :
    (ofText? classAttribute (some 5) "<a class=\"x\"/>".toList .latest).map
        (fun t => t.tokens.map (classAttribute.tokenType (some 5))) =
      some [some .punctuator, some .jsxIdentifier, some .keyword, some .punctuator, some .jsxText,
        some .punctuator, some .punctuator] ∧
    classAttribute.NamesMarkup 1 ∧ classAttribute.HasPlainMarkup (some 5) ∧
    classAttribute.tokenType (some 5) ⟨.classKeyword, 3, 8⟩ ≠ some .jsxIdentifier := by
  have hnested : classAttribute.IsNested (some 5) :=
    Arena.isNested_of_forall (Arena.isTree_of_forall (by decide) (by decide))
      (by decide) (by decide)
  have hlinked : classAttribute.IsLinkedTree (some 5) :=
    Arena.isLinkedTree_of_forall (by decide) (by decide) rfl
  have hbare : classAttribute.HasBareTokens (some 5) :=
    Arena.hasBareTokens_of_forall (by decide) fun i n hn hkind =>
      absurd hkind ((by decide : ∀ n ∈ classAttribute.nodes, n.kind ≠ .jsxText) n
        (Array.mem_of_getElem? hn))
  have hreaches : classAttribute.Reaches (some 5) 1 :=
    ⟨5, rfl, .head (b := 4) (by decide) (.head (b := 3) (by decide)
      (.single (by decide)))⟩
  have hnames : classAttribute.NamesMarkup 1 := .inr ⟨3, _, _, rfl, rfl, rfl, rfl⟩
  have hwalk : ofText? classAttribute (some 5) "<a class=\"x\"/>".toList .latest =
      some ⟨[⟨.lessThanToken, 0, 1⟩, ⟨.identifier, 1, 2⟩, ⟨.classKeyword, 3, 8⟩,
        ⟨.equalsToken, 8, 9⟩, ⟨.stringLiteral, 9, 12⟩, ⟨.slashToken, 12, 13⟩,
        ⟨.greaterThanToken, 13, 14⟩], []⟩ := by
    decide +kernel
  obtain ⟨-, -, hspelled⟩ := tokenType_of_identifier (t := ⟨.classKeyword, 3, 8⟩) hnested hlinked
    hbare hwalk (by decide) hreaches rfl rfl rfl
  obtain ⟨-, htype⟩ := hspelled "class".toList (by decide)
    ⟨'c', "lass".toList, rfl, .inl rfl⟩
  have hplain : classAttribute.HasPlainMarkup (some 5) :=
    Arena.hasPlainMarkup_of_forall (by decide) _
  refine ⟨by rw [hwalk]; decide, hnames, hplain, fun heq => ?_⟩
  exact absurd ((htype hnames).mp heq) (by decide)

end Trivia

end ScriptTree
