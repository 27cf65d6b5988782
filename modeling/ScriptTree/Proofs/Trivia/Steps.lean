import ScriptTree.Proofs.Scan.Progress
import ScriptTree.Trivia.Walk

/-!
# The steps of a walk

A walk is a sequence of steps, and everything that is said about it rests on what one step
does (`ScriptTree.Trivia.Advances`): it goes from one place of the text to a later one, and
what it finds covers exactly what lies between, or there are only gaps. Scans, spans of text
between tags, second readings and widened names all take this form, provided that the nodes
whose ends the walk jumps to end in the text (`ScriptTree.Arena.EndsInText`).

The one step that does not advance is a scan in front of a stray escape
(`ScriptTree.Trivia.Stalls`). It leaves the scanner where it was, so the walk takes it for ever.
-/

namespace ScriptTree

/-- The line at the start of a text that names an interpreter; empty if there is none. -/
def Text.shebangLine : Text → Text
  | '#' :: '!' :: cs => Lexeme.lineRest ('#' :: '!' :: cs)
  | _ => []

/-- The byte at an offset belongs to a blank, to a line break, or to the line that names an
interpreter. -/
def Text.IsGap (text : Text) (offset : Nat) : Prop :=
  offset < text.shebangLine.byteLength ∨
    ∃ c, text.charOver? offset = some c ∧ Text.isBlankOrBreak c = true

/-- The nodes whose ends a walk may jump to end in the text, between two of its characters. -/
def Arena.EndsInText (a : Arena) (text : Text) : Prop :=
  ∀ n ∈ a.nodes, n.kind = .jsxText ∨ n.kind = .identifier → text.isBoundary n.stop = true

namespace Trivia

/-! ### What a step is to do -/

/-- What a step finds covers the range between two offsets, or there are only gaps in it. -/
def Item.Covers (text : Text) (start stop : Nat) : Item → Prop
  | .token t => t.start = start ∧ t.stop = stop
  | .comment c => c.start = start ∧ c.stop = stop
  | .nothing => ∀ offset, start ≤ offset → offset < stop → text.IsGap offset

/-- A scanner that a walk may be at. -/
structure Ready (s : Scanner) : Prop where
  keepsTrivia : s.skipTrivia = false
  isBoundary : s.text.isBoundary s.pos = true

/-- Two scanners over the same text and for the same version of the language. -/
structure SameText (s s' : Scanner) : Prop where
  text : s'.text = s.text
  target : s'.target = s.target

/-- A step goes from one scanner to one further on, and finds what lies between. -/
structure Advances (s : Scanner) (item : Item) (s' : Scanner) : Prop where
  ready : Ready s'
  same : SameText s s'
  lt : s.pos < s'.pos
  covers : item.Covers s.text s.pos s'.pos

/-- The scanner is stuck in front of a stray escape, and not in a text between tags, where nothing
is scanned. -/
def Stalls (spans : List (Nat × Nat)) (s : Scanner) : Prop :=
  markupEnd? spans s.pos = none ∧ s.isStuck = true

/-! ### Jumps -/

/-- A span of a text between tags is that of a node. -/
theorem exists_node_of_markupEnd? {a : Arena} {pos stop : Nat}
    (h : markupEnd? (markupSpans a) pos = some stop) :
    ∃ n ∈ a.nodes, n.kind = .jsxText ∧ n.stop = stop ∧ pos < stop := by
  obtain ⟨span, hspan, rfl⟩ := Option.map_eq_some_iff.mp h
  obtain ⟨hlast, hlt⟩ := Option.filter_eq_some_iff.mp hspan
  have hmem : span ∈ markupSpans a :=
    List.takeWhile_subset _ (List.mem_of_getLast? hlast)
  rw [markupSpans, List.mem_mergeSort] at hmem
  obtain ⟨n, hn, rfl⟩ := List.mem_map.mp hmem
  obtain ⟨hnode, hkind⟩ := List.mem_filter.mp hn
  rw [Bool.and_eq_true, beq_iff_eq] at hkind
  exact ⟨n, Array.mem_toList_iff.mp hnode, hkind.1, rfl, of_decide_eq_true hlt⟩

/-- A jump to a place of the text arrives there. -/
theorem ready_moveTo {s : Scanner} {offset : Nat} (hs : Ready s)
    (h : s.text.isBoundary offset = true) :
    Ready (s.moveTo offset) ∧ (s.moveTo offset).pos = offset := by
  have hpos : (s.moveTo offset).pos = offset :=
    Nat.min_eq_left (Text.le_byteLength_of_isBoundary h)
  refine ⟨⟨hs.keepsTrivia, ?_⟩, hpos⟩
  rw [hpos]
  exact h

/-- Text between tags is passed in one step. -/
theorem advances_markup {a : Arena} {s : Scanner} {stop : Nat} (hs : Ready s)
    (hends : a.EndsInText s.text) (h : markupEnd? (markupSpans a) s.pos = some stop) :
    Advances s (.token ⟨.jsxText, s.pos, stop⟩) (s.moveTo stop) := by
  obtain ⟨n, hn, hkind, rfl, hlt⟩ := exists_node_of_markupEnd? h
  obtain ⟨hready, hpos⟩ := ready_moveTo hs (hends n hn (.inl hkind))
  refine ⟨hready, ⟨rfl, rfl⟩, ?_, rfl, hpos.symm⟩
  rw [hpos]
  exact hlt

/-! ### Second readings -/

/-- What holds of a token and of the scanner behind it after the tree was asked: the token still
starts in the same place, and the scanner is behind it. -/
structure Resolved (s : Scanner) (start : Nat) (t : SourceToken) (s' : Scanner) : Prop where
  ready : Ready s'
  same : SameText s s'
  start_eq : t.start = start
  stop_eq : t.stop = s'.pos
  lt : start < s'.pos

variable {s : Scanner} {c : Char} {cs : Text}

/-- A closing brace that goes on with a template. -/
theorem resolved_rescanTemplate (hs : s.skipTrivia = false) (hc : c.utf8Size = 1)
    (h : s.text.dropBytes? s.start = some (c :: cs)) :
    Resolved s s.start ⟨s.rescanTemplate.kind, s.start, s.rescanTemplate.pos⟩ s.rescanTemplate := by
  have hnext := Text.dropBytes?_succ hc h
  have hpos : s.rescanTemplate.pos = s.start + 1 + (Lexeme.templateRun 0 cs).raw.byteLength := by
    rw [Scanner.rescanTemplate, hnext]
  refine ⟨⟨hs, ?_⟩, ⟨rfl, rfl⟩, rfl, rfl, by omega⟩
  rw [hpos, Text.isBoundary_iff]
  rw [Text.eq_append_drop (Lexeme.templateRun_raw_isPrefix 0 cs)] at hnext
  exact ⟨_, Text.dropBytes?_add hnext⟩

/-- A slash that starts a regular expression. -/
theorem resolved_rescanSlash (hs : s.skipTrivia = false)
    (hkind : s.kind = .slashToken ∨ s.kind = .slashEqualsToken)
    (h : s.text.dropBytes? s.start = some ('/' :: cs)) :
    Resolved s s.start ⟨s.rescanSlash.kind, s.start, s.rescanSlash.pos⟩ s.rescanSlash := by
  have hnext := Text.dropBytes?_succ (by decide) h
  have hscan : s.rescanSlash = s.accept s.fullStart s.start (Lexeme.regex s.target cs) s.flags := by
    rw [Scanner.rescanSlash, if_pos hkind, hnext, Option.getD_some]
  have hraw := Lexeme.regex_raw_isPrefix s.target cs
  have hpos : s.rescanSlash.pos = s.start + (Lexeme.regex s.target cs).raw.byteLength := by
    rw [hscan]
    rfl
  refine ⟨⟨?_, ?_⟩, ⟨by rw [hscan]; rfl, by rw [hscan]; rfl⟩, rfl, rfl, ?_⟩
  · rw [hscan]
    exact hs
  · rw [hpos, Text.isBoundary_iff, Scanner.rescanSlash_text]
    rw [Text.eq_append_drop hraw] at h
    exact ⟨_, Text.dropBytes?_add h⟩
  · rw [hpos, Nat.lt_add_right_iff_pos, Text.byteLength_pos]
    exact List.cons_ne_nil _ _

/-- A greater sign that is part of a longer operator. -/
theorem resolved_rescanGreater (hs : Ready s) (hlt : s.start < s.pos) :
    Resolved s s.start ⟨s.rescanGreater.kind, s.start, s.rescanGreater.pos⟩ s.rescanGreater := by
  obtain ⟨rest, hrest⟩ := Text.isBoundary_iff.mp hs.isBoundary
  have hsame : Resolved s s.start ⟨s.kind, s.start, s.pos⟩ s :=
    ⟨hs, ⟨rfl, rfl⟩, rfl, rfl, hlt⟩
  rw [Scanner.rescanGreater]
  split
  · rw [hrest, Option.bind_some]
    cases hop : Lexeme.greater? rest with
    | none => exact hsame
    | some op =>
      obtain ⟨kind, n⟩ := op
      refine ⟨⟨hs.keepsTrivia, ?_⟩, ⟨rfl, rfl⟩, rfl, rfl, Nat.lt_add_right n hlt⟩
      rw [Text.isBoundary_iff]
      rw [← List.take_append_drop n rest] at hrest
      have hcut := Text.dropBytes?_add hrest
      rw [Lexeme.byteLength_take_of_greater? hop] at hcut
      exact ⟨_, hcut⟩
  · exact hsame

/-- A token that goes on to a place further on in the text. -/
theorem resolved_moveTo (hs : Ready s) {start stop : Nat} (kind : SyntaxKind)
    (h : s.text.isBoundary stop = true) (hlt : start < stop) :
    Resolved s start ⟨kind, start, stop⟩ (s.moveTo stop) := by
  obtain ⟨hready, hpos⟩ := ready_moveTo hs h
  exact ⟨hready, ⟨rfl, rfl⟩, rfl, hpos.symm, by rw [hpos]; exact hlt⟩

/-- The tree is asked for the deepest node that covers a token. -/
theorem resolve_eq_some_iff {a : Arena} {root : NodeRef} {t : SourceToken}
    {x : SourceToken × Scanner} : resolve a root s t = some x ↔
      ∃ r, a.nodeContaining root t.start t.stop = some r ∧ readAs a (a.node? r) s t = x :=
  Option.map_eq_some_iff

/-- A token stays what it is, or the node that covers it makes another one of it. -/
theorem readAs_cases (a : Arena) (covering : Option Node) (s : Scanner) (t : SourceToken) :
    readAs a covering s t = (t, s) ∨ ∃ n kind stop s', covering = some n ∧
      reread? a n s t = some (kind, stop, s') ∧
      readAs a covering s t = (⟨kind, t.start, stop⟩, s') := by
  cases covering with
  | none => exact .inl rfl
  | some n =>
    cases hreread : reread? a n s t with
    | none => exact .inl (by simp only [readAs, hreread])
    | some x =>
      obtain ⟨kind, stop, s'⟩ := x
      exact .inr ⟨n, kind, stop, s', rfl, hreread, by simp only [readAs, hreread]⟩

/-- **Whatever the tree makes of a token**, it starts where it did, and the walk goes on behind
it. -/
theorem resolved_readAs {a : Arena} (r : NodeRef) (hs : Ready s) (hends : a.EndsInText s.text)
    (hlt : s.start < s.pos) (h : s.text.dropBytes? s.start = some (c :: cs))
    (hbrace : s.kind = .closeBraceToken → c.utf8Size = 1)
    (hslash : s.kind = .slashToken ∨ s.kind = .slashEqualsToken → c = '/') :
    Resolved s s.start (readAs a (a.node? r) s ⟨s.kind, s.start, s.pos⟩).1
      (readAs a (a.node? r) s ⟨s.kind, s.start, s.pos⟩).2 := by
  have hsame : Resolved s s.start ⟨s.kind, s.start, s.pos⟩ s := ⟨hs, ⟨rfl, rfl⟩, rfl, rfl, hlt⟩
  obtain heq | ⟨n, kind, stop, s', hn, hre, heq⟩ :=
    readAs_cases a (a.node? r) s ⟨s.kind, s.start, s.pos⟩
  · rw [heq]
    exact hsame
  rw [heq]
  obtain ⟨i, -, hi⟩ := Option.bind_eq_some_iff.mp hn
  have hmem : n ∈ a.nodes := Array.mem_of_getElem? hi
  -- The ways of reading a token again, in the order in which they are tried.
  unfold reread? at hre
  dsimp only at hre
  split at hre
  · next hcond =>
    cases hre
    exact resolved_rescanTemplate hs.keepsTrivia (hbrace hcond.1) h
  split at hre
  · next hcond =>
    cases hre
    rw [hslash hcond.1] at h
    exact resolved_rescanSlash hs.keepsTrivia hcond.1 h
  split at hre
  · cases hre
    exact resolved_rescanGreater hs hlt
  split at hre
  · next hcond =>
    cases hre
    obtain ⟨-, -, -, hchar⟩ := hcond
    obtain ⟨rest, hrest, hhead⟩ := Option.bind_eq_some_iff.mp hchar
    cases rest with
    | nil => cases hhead
    | cons d ds =>
      cases hhead
      have hnext := Text.dropBytes?_succ (by decide) hrest
      exact resolved_moveTo hs .lessThanSlashToken (Text.isBoundary_iff.mpr ⟨ds, hnext⟩)
        (Nat.lt_succ_of_lt hlt)
  split at hre
  · next hcond =>
    cases hre
    obtain ⟨-, hkind, hstop⟩ := hcond
    exact resolved_moveTo hs .identifier (hends n hmem (.inr hkind)) (Nat.lt_trans hlt hstop)
  · cases hre

/-! ### Scans -/

/-- Blanks, line breaks and the line that names an interpreter leave gaps only. -/
theorem covers_nothing {l : Lexeme} {atStart : Bool}
    (h : s.text.dropBytes? s.pos = some (c :: cs)) (hstart : atStart = (s.pos == 0))
    (hl : Lexeme.read? s.target atStart (c :: cs) = some l) (htrivia : l.kind.isTrivia = true)
    (hline : l.kind ≠ .singleLineCommentTrivia) (hblock : l.kind ≠ .multiLineCommentTrivia) :
    Item.nothing.Covers s.text s.pos (s.pos + l.width) := by
  intro offset hle hlt
  rcases Lexeme.trivia_of_read? s.target hl htrivia with hk | hk | hblank | hbang
  · exact absurd hk hline
  · exact absurd hk hblock
  · rw [Text.eq_append_drop (Lexeme.raw_prefix_of_read? s.target hl)] at h
    obtain ⟨d, hd, hover⟩ := Text.exists_charOver?_of_dropBytes? h hle hlt
    exact .inr ⟨d, hover, hblank d hd⟩
  · obtain ⟨hzero, rfl, hhead, hraw⟩ := hbang
    have hpos : s.pos = 0 := by simpa [hzero] using hstart
    rw [hpos, Text.dropBytes?_zero, Option.some.injEq] at h
    cases cs with
    | nil => cases hhead
    | cons d ds =>
      cases hhead
      left
      rw [hpos, Nat.zero_add, Lexeme.width, hraw] at hlt
      rw [h]
      exact hlt

/-- A scan that takes something is a step that advances. -/
theorem advances_scan {a : Arena} {root : NodeRef} {l : Lexeme} {item : Item} {s' : Scanner}
    (hs : Ready s) (hends : a.EndsInText s.text) (hmarkup : markupEnd? (markupSpans a) s.pos = none)
    (h : s.text.dropBytes? s.pos = some (c :: cs))
    (hl : Lexeme.read? s.target (s.pos == 0) (c :: cs) = some l) (hne : l.raw ≠ [])
    (hstep : step a root (markupSpans a) s = .ok (item, s')) : Advances s item s' := by
  have hscan : s.scan = s.accept s.pos s.pos l {} := by rw [Scanner.scan_eq hs.keepsTrivia h, hl]
  have hlt : s.pos < s.pos + l.width :=
    Nat.lt_add_right_iff_pos.mpr (Text.byteLength_pos.mpr hne)
  have hready : Ready s.scan := by
    refine ⟨?_, ?_⟩
    · rw [hscan]
      exact hs.keepsTrivia
    · rw [Scanner.scan_text]
      exact Scanner.isBoundary_scan_pos hs.isBoundary
  rw [hscan] at hready
  -- Unless the tree has a say, the step is to the end of what was read.
  have hplain (i : Item) (hi : i.Covers s.text s.pos (s.pos + l.width)) :
      Advances s i (s.accept s.pos s.pos l {}) := ⟨hready, ⟨rfl, rfl⟩, hlt, hi⟩
  rw [step, hmarkup] at hstep
  dsimp only at hstep
  rw [hscan] at hstep
  split at hstep
  · cases hstep
  split at hstep
  · cases hstep
    exact hplain _ ⟨rfl, rfl⟩
  split at hstep
  · cases hstep
    exact hplain _ ⟨rfl, rfl⟩
  split at hstep
  · next hline hblock htrivia =>
    cases hstep
    exact hplain _ (covers_nothing h rfl hl htrivia hline hblock)
  split at hstep
  · split at hstep
    · cases hstep
    next hresolve =>
    cases hstep
    obtain ⟨r, -, hread⟩ := resolve_eq_some_iff.mp hresolve
    obtain ⟨hslash, hbrace⟩ := Lexeme.head_of_read? s.target hl
    have hbrace : (s.accept s.pos s.pos l {}).kind = .closeBraceToken → c.utf8Size = 1 := by
      intro hk
      rw [Option.some.inj (hbrace hk)]
      decide
    have hslash : (s.accept s.pos s.pos l {}).kind = .slashToken ∨
        (s.accept s.pos s.pos l {}).kind = .slashEqualsToken → c = '/' :=
      fun hk => Option.some.inj (hslash hk)
    have hres := resolved_readAs (a := a) r hready hends hlt h hbrace hslash
    rw [show readAs a (a.node? r) (s.accept s.pos s.pos l {}) _ = _ from hread] at hres
    exact ⟨hres.ready, ⟨hres.same.text, hres.same.target⟩, hres.lt, hres.start_eq, hres.stop_eq⟩
  · cases hstep
    exact hplain _ ⟨rfl, rfl⟩

/-! ### Steps -/

/-- **A step advances, unless the walk stalls.** -/
theorem advances_step {a : Arena} {root : NodeRef} {item : Item} {s' : Scanner} (hs : Ready s)
    (hends : a.EndsInText s.text) (hstalls : ¬ Stalls (markupSpans a) s)
    (h : step a root (markupSpans a) s = .ok (item, s')) : Advances s item s' := by
  cases hmarkup : markupEnd? (markupSpans a) s.pos with
  | some stop =>
    rw [step, hmarkup] at h
    cases h
    exact advances_markup hs hends hmarkup
  | none =>
    obtain ⟨rest, hrest⟩ := Text.isBoundary_iff.mp hs.isBoundary
    -- Outside of the texts between tags only a stray escape makes a walk stall.
    have hstuck : s.isStuck = false := by
      by_contra hne
      exact hstalls ⟨hmarkup, by simpa using hne⟩
    rw [Scanner.isStuck, hrest, Option.any_some] at hstuck
    cases rest with
    | nil =>
      rw [step, hmarkup] at h
      dsimp only at h
      rw [Scanner.scan_eq hs.keepsTrivia hrest] at h
      cases h
    | cons c cs =>
      have hl : ∃ l, Lexeme.read? s.target (s.pos == 0) (c :: cs) = some l := ⟨_, rfl⟩
      obtain ⟨l, hl⟩ := hl
      refine advances_scan hs hends hmarkup hrest hl ?_ h
      rw [Ne, Lexeme.raw_eq_nil_iff_of_read? s.target hl, hstuck]
      decide

/-- A walk takes a further step, or is at its end, if every search for a node has an end. -/
theorem step_ne_endless {a : Arena} {root : NodeRef} (spans : List (Nat × Nat)) (s : Scanner)
    (hlook : ∀ start stop, a.nodeContaining root start stop ≠ none) :
    step a root spans s ≠ .error .endless := by
  intro h
  rw [step] at h
  split at h
  · cases h
  dsimp only at h
  split at h
  · cases h
  split at h
  · cases h
  split at h
  · cases h
  split at h
  · cases h
  split at h
  · split at h
    · next hresolve => exact hlook _ _ (Option.map_eq_none_iff.mp hresolve)
    · cases h
  · cases h

/-- A walk ends at the end of the text. -/
theorem pos_of_step_eq_atEnd {a : Arena} {root : NodeRef} {spans : List (Nat × Nat)} (hs : Ready s)
    (h : step a root spans s = .error .atEnd) : s.pos = s.text.byteLength := by
  obtain ⟨rest, hrest⟩ := Text.isBoundary_iff.mp hs.isBoundary
  rw [← Text.eq_nil_iff_of_dropBytes? hrest]
  cases rest with
  | nil => rfl
  | cons c cs =>
    -- Before the end there is something to read, and whatever it is makes an item.
    exfalso
    have hl : ∃ l, Lexeme.read? s.target (s.pos == 0) (c :: cs) = some l := ⟨_, rfl⟩
    obtain ⟨l, hl⟩ := hl
    rw [step] at h
    split at h
    · cases h
    · dsimp only at h
      rw [Scanner.scan_eq hs.keepsTrivia hrest, hl] at h
      dsimp only at h
      split at h
      · next hend => exact Lexeme.kind_ne_endOfFile_of_read? s.target hl hend
      split at h
      · cases h
      split at h
      · cases h
      split at h
      · cases h
      split at h
      · split at h <;> cases h
      · cases h

/-- A token without width is not looked up in the tree: it is no punctuation, and a backslash and
not a hyphen stands behind it. -/
theorem not_isAmbiguous_of_raw_eq_nil {l : Lexeme}
    (h : s.text.dropBytes? s.pos = some (c :: cs))
    (hstray : Escape.isStray s.target (c :: cs) = true)
    (hform : Lexeme.TokenForm s.target c cs l) (hraw : l.raw = []) :
    isAmbiguous s.text ⟨l.kind, s.pos, s.pos⟩ = false := by
  have hpunctuation : l.kind.isPunctuation = true → l.kind = .hashToken := by
    intro hk
    by_contra hne
    obtain ⟨n, hn, htake⟩ := Lexeme.punctuator?_of_tokenForm s.target hform hk hne
    have hpos := (Lexeme.punctuator?_eq_some hn).2
    rw [hraw] at htake
    cases n with
    | zero => exact Nat.lt_irrefl 0 hpos
    | succ n => cases htake
  have hchar : charAt? s.text s.pos = some '\\' := by
    rw [charAt?, h, Lexeme.eq_backslash_of_isStray s.target hstray]
    rfl
  rw [isAmbiguous, Bool.or_eq_false_iff]
  constructor
  · rw [Bool.eq_false_iff, Ne, List.contains_iff_mem]
    intro hmem
    have htable : ∀ k ∈ [SyntaxKind.closeBraceToken, .slashToken, .slashEqualsToken,
        .greaterThanToken, .lessThanToken], k.isPunctuation = true ∧ k ≠ .hashToken := by decide
    obtain ⟨hk, hne⟩ := htable _ hmem
    exact hne (hpunctuation hk)
  · rw [hchar]
    simp

/-- **A walk that stalls finds a token without width, and is where it was.** -/
theorem step_of_stalls (a : Arena) (root : NodeRef) {spans : List (Nat × Nat)} (hs : Ready s)
    (h : Stalls spans s) :
    ∃ item s', step a root spans s = .ok (item, s') ∧ Ready s' ∧ Stalls spans s' := by
  obtain ⟨hmarkup, hstuck⟩ := h
  obtain ⟨rest, hrest⟩ := Text.isBoundary_iff.mp hs.isBoundary
  have hstray : Escape.isStray s.target rest = true := by
    rwa [Scanner.isStuck, hrest, Option.any_some] at hstuck
  cases rest with
  | nil => cases hstray
  | cons c cs =>
    have hl : ∃ l, Lexeme.read? s.target (s.pos == 0) (c :: cs) = some l := ⟨_, rfl⟩
    obtain ⟨l, hl⟩ := hl
    -- What is read has no characters, so it is accepted in place.
    have hraw : l.raw = [] := (Lexeme.raw_eq_nil_iff_of_read? s.target hl).mpr hstray
    have htrivia := Lexeme.isTrivia_eq_false_of_isStray s.target hstray hl
    have hscan : s.scan = s.accept s.pos s.pos l {} := by
      rw [Scanner.scan_eq hs.keepsTrivia hrest, hl]
    have hpos : (s.accept s.pos s.pos l {}).pos = s.pos := by
      rw [Scanner.accept_pos, Lexeme.width, hraw, Text.byteLength_nil, Nat.add_zero]
    have hplain := not_isAmbiguous_of_raw_eq_nil hrest hstray
      (Lexeme.tokenForm_of_read? s.target hl htrivia) hraw
    refine ⟨.token ⟨l.kind, s.pos, s.pos⟩, s.accept s.pos s.pos l {}, ?_, ⟨hs.keepsTrivia, ?_⟩,
      ?_, ?_⟩
    · have hkinds : l.kind ≠ .endOfFileToken ∧ l.kind ≠ .singleLineCommentTrivia ∧
          l.kind ≠ .multiLineCommentTrivia := by
        refine ⟨Lexeme.kind_ne_endOfFile_of_read? s.target hl, ?_, ?_⟩ <;>
          · intro hk
            rw [hk] at htrivia
            cases htrivia
      have hkind : (s.accept s.pos s.pos l {}).kind = l.kind := rfl
      have hstart : (s.accept s.pos s.pos l {}).start = s.pos := rfl
      have htext : (s.accept s.pos s.pos l {}).text = s.text := rfl
      rw [step, hmarkup]
      dsimp only
      rw [hscan, hkind, hstart, hpos, htext, if_neg hkinds.1, if_neg hkinds.2.1,
        if_neg hkinds.2.2, if_neg (Bool.eq_false_iff.mp htrivia),
        if_neg (Bool.eq_false_iff.mp hplain)]
    · rw [hpos]
      exact hs.isBoundary
    · rw [hpos]
      exact hmarkup
    · rw [← hstuck]
      exact Scanner.isStuck_congr rfl rfl hpos

end Trivia

end ScriptTree
