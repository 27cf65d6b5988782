import ScriptTree.Proofs.Arena.MarkupNames
import ScriptTree.Proofs.Convert.Outcome
import ScriptTree.Proofs.Convert.Tandem.Likeness

/-!
# What is asked for besides the tree

Tokens, comments and the correspondence of the two trees are read off a run; asking for them does
not change what is built. The only option that does is about the type of the texts between tags. So
a document has one full result, with everything in it that can be asked for, and every run that
treats types outside the vocabulary in the same way presents a part of it
(`ScriptTree.Document.presents`). Two such runs agree (`ScriptTree.Document.outputs_agree`).

But what is asked for may not be there to be had. A text may have no end to its tokens, and the search
for the type of a token may go round in the tree. A run that asks for them then waits for ever
(`ScriptTree.Document.Waits`), while one that does not has a result
(`ScriptTree.Document.waits_for_tokens`).
-/

namespace ScriptTree

open Conversion

/-! ### Presenting a result -/

namespace ConvertOptions

/-- The same options, but everything is asked for that can be asked for. -/
def rich (o : ConvertOptions) : ConvertOptions where
  failOnUnknownNodeKind := o.failOnUnknownNodeKind
  useLiteralTextNodeForMarkupText := true
  provideCorrespondenceMaps := true
  emitTokens := true
  emitComments := true

/-- Texts between tags get the type that the options say, and nothing else is changed. -/
def texts (o : ConvertOptions) : Relabeling where
  type := fun type => if type = .known .jsxText then .known o.markupType else type

/-- The part of a correspondence that the options ask for: all or nothing. -/
def mapsOf (o : ConvertOptions) (maps : NodeMaps) : NodeMaps :=
  if o.provideCorrespondenceMaps then maps else .empty

/-- **The part of a full result that the options ask for.** -/
def present (o : ConvertOptions) (full : Program) : Program where
  node := full.node.relabel o.texts
  tokens := if o.emitTokens then full.tokens else none
  comments := if o.emitComments then full.comments else none

end ConvertOptions

/-- **A node was made of a text between tags**: it starts where one starts that lies below the root,
and goes at least as far. -/
def Arena.IsMarkupText (a : Arena) (root : NodeRef) (n : EsNode) : Prop :=
  ∃ i m, a.Reaches root i ∧ a.nodes[i]? = some m ∧
    (m.kind = .jsxText ∨ m.kind = .jsxTextAllWhiteSpaces) ∧
    n.head.start = m.pos ∧ m.stop ≤ n.head.stop

/-! ### Two runs over one source -/

namespace Source

variable {s : Source} {o : ConvertOptions}

/-- **A run with fewer outputs builds the same**, but for the types of texts between tags, and
records the same or nothing. -/
def rendering (s : Source) (o : ConvertOptions)
    (htext : s.options.useLiteralTextNodeForMarkupText = true)
    (hmaps : s.options.provideCorrespondenceMaps = true) :
    Likeness s o (s.arena.Reaches s.root) where
  labels := o.texts
  holds := fun n => n.head.type = .known .jsxText → s.arena.IsMarkupText s.root n
  states := fun p p' => p'.issued = p.issued ∧ p'.maps = o.mapsOf p.maps
  counts := fun hp => .inl hp.1
  type_eq := by
    rintro _ _ first stop (⟨hne, -⟩ | -)
    · exact (if_neg hne).symm
    · have htype : s.options.markupType = .jsxText := if_pos htext
      rw [htype]
      rfl
  issue := by
    rintro p p' ⟨hissued, hp⟩
    exact ⟨hissued, congrArg (· + 1) hissued, hp⟩
  record := by
    rintro i p p' id - ⟨hissued, hp⟩
    rw [if_pos hmaps]
    rw [ConvertOptions.mapsOf] at hp ⊢
    split at hp
    · next ho =>
      rw [if_pos ho, if_pos ho, hp]
      exact ⟨hissued, rfl⟩
    · next ho =>
      rw [if_neg ho, if_neg ho]
      exact ⟨hissued, hp⟩
  start := by
    rintro _ _ _ _ id (⟨hne, -⟩ | ⟨hi, hn, hk⟩) htype
    · exact absurd htype hne
    · exact ⟨_, _, hi, hn, hk, rfl, Nat.le_max_left _ _⟩
  reopen := fun hn => hn
  prop := fun _ _ hd => hd
  startAt := fun _ hne _ htype => absurd htype hne
  extendTo := by
    intro d pos hd htype
    obtain ⟨i, m, hi, hm, hk, hstart, hstop⟩ := hd htype
    exact ⟨i, m, hi, hm, hk, hstart, hstop.trans (Nat.le_max_left _ _)⟩

/-- What two runs of the conversion of the root come to, the second of which is asked for less. -/
theorem run_withOptions (hfail : o.failOnUnknownNodeKind = s.options.failOnUnknownNodeKind)
    (htext : s.options.useLiteralTextNodeForMarkupText = true)
    (hmaps : s.options.provideCorrespondenceMaps = true) :
    let run := (s.convert s.root).run.run {}
    let run' := ((s.withOptions o).convert s.root).run.run {}
    run'.1 = run.1.map (Option.map (EsNode.relabel o.texts)) ∧ run'.2.maps = o.mapsOf run.2.maps ∧
      ∀ es, run.1 = .ok (some es) → ∀ n ∈ es.toValue.nodes,
        n.head.type = .known .jsxText → s.arena.IsMarkupText s.root n := by
  -- The first run is asked for everything, and what it holds is rendered for the second.
  let T := (s.rendering o htext hmaps).tie (s.arena.Reaches s.root) (.alike s _ hfail) id
    Arena.Reaches.isChild False.elim
  have htandem : T.Tandem 0 (s.convert s.root) ((s.withOptions o).convert s.root)
      (Holding.opt T.nodes) :=
    T.tandem_convert (fun _ => trivial) fun i hi => ⟨i, hi, .refl⟩
  have hempty : o.mapsOf {} = {} := by
    rw [ConvertOptions.mapsOf]
    split <;> rfl
  have hstates : T.states 0 {} {} := ⟨rfl, hempty.symm⟩
  have hends := htandem.ends hstates
  generalize (s.convert s.root).run.run {} = run,
    ((s.withOptions o).convert s.root).run.run {} = run' at hends ⊢
  cases hends with
  | error _ hq => exact ⟨rfl, hq.2, fun _ h => by cases h⟩
  | stopped he => exact he.elim
  | late hlate => exact hlate.elim
  | ok hq hx =>
    obtain ⟨rfl, hnodes⟩ := Likeness.eq_of_opt_nodes hx
    refine ⟨rfl, hq.2, ?_⟩
    rintro es ⟨⟩
    exact hnodes es rfl

/-- The conversion of a file comes to nothing if there is no end to its tokens. -/
theorem index_isSome_of_ok {r : NodeRef} (hkind : s.arena.kind? r = some .sourceFile)
    {es : EsNode} {p q : Progress} (h : Ok (s.convert r) p (some es) q) :
    s.index.isSome = true := by
  obtain ⟨i, rfl⟩ : ∃ i, r = some i := by
    cases r with
    | none => cases hkind
    | some i => exact ⟨i, rfl⟩
  obtain ⟨w, n, q', -, hn, hvisit, -⟩ := exists_ok_visit h
  rw [Arena.kind?, Arena.node?_some, hn] at hkind
  rw [Converter.visit_eq_program _ (Option.some.inj hkind)] at hvisit
  obtain ⟨es', hprogram, -⟩ := ok_map.mp hvisit
  rw [Converter.program] at hprogram
  obtain ⟨d, r, -, hprogram⟩ := ok_bind.mp hprogram
  obtain ⟨index, r', htokens, -⟩ := ok_bind.mp hprogram
  exact Option.isSome_iff_exists.mpr ⟨index, (ok_tokens.mp htokens).1⟩

end Source

/-! ### Documents -/

namespace Document

/-- **A run waits for what it never gets**: the root is converted, and only then are tokens or
comments asked for. Either the text has no end to them, although the root is no file by its kind; or
the type of one of the tokens is never decided. -/
def Waits (doc : Document) (o : ConvertOptions) : Prop :=
  (doc.convert o).1 = .error .endless ∧ ∃ file, doc.file = .ok file ∧
    ((o.emitTokens = true ∨ o.emitComments = true) ∧ (doc.source file o).trivia = none ∧
        doc.arena.kind? doc.root ≠ some .sourceFile ∨
      o.emitTokens = true ∧ ∃ trivia, (doc.source file o).trivia = some trivia ∧
        ∃ t ∈ trivia.tokens, doc.arena.tokenType doc.root t = none)

variable {doc : Document}

/-- **Nothing is waited for in vain** if the root is a file by its kind and no node lies below
itself. -/
theorem not_waits (hlinked : doc.arena.IsLinked) (hacyclic : doc.arena.Acyclic)
    (hkind : doc.arena.kind? doc.root = some .sourceFile) (o : ConvertOptions) : ¬ doc.Waits o := by
  rintro ⟨-, file, -, ⟨-, -, hne⟩ | ⟨-, trivia, -, t, -, htype⟩⟩
  · exact hne hkind
  · obtain ⟨type, hsome⟩ := Arena.exists_tokenType hlinked hacyclic doc.root t
    cases htype.symm.trans hsome

/-- What a run comes to, read off one with every output. -/
theorem convert_eq_rich {file : Data .sourceFile} (hfile : doc.file = .ok file)
    (o : ConvertOptions) :
    let s := doc.source file o.rich
    let run := (s.convert s.root).run.run {}
    doc.convert o = ((doc.source file o).outcome (run.1.map (Option.map (EsNode.relabel o.texts))),
      o.mapsOf run.2.maps) := by
  obtain ⟨hresult, hmaps, -⟩ := (doc.source file o.rich).run_withOptions (o := o) rfl rfl rfl
  rw [doc.convert_eq, hfile]
  exact Prod.ext (congrArg (doc.source file o).outcome hresult) hmaps

/-- What is asked for in vain has no end, or is the type of a token. -/
theorem trivia_of_asksInVain {file : Data .sourceFile} {o : ConvertOptions}
    (h : (doc.source file o).AsksInVain) :
    (o.emitTokens = true ∨ o.emitComments = true) ∧ (doc.source file o).trivia = none ∨
      o.emitTokens = true ∧ ∃ trivia, (doc.source file o).trivia = some trivia ∧
        ∃ t ∈ trivia.tokens, doc.arena.tokenType doc.root t = none := by
  cases htrivia : (doc.source file o).trivia with
  | none => exact .inl ⟨h.imp And.left And.left, rfl⟩
  | some trivia =>
    rcases h with ⟨hasked, hnone⟩ | ⟨-, hnone⟩
    · refine .inr ⟨hasked, trivia, rfl, ?_⟩
      rw [Source.esTokens?, htrivia, Option.bind_some] at hnone
      obtain ⟨tokens, hok⟩ | ⟨-, hundecided⟩ := Trivia.mapM_ofToken htrivia
      · cases hnone.symm.trans (congrArg Except.toOption hok)
      · exact hundecided
    · rw [Source.esComments?, htrivia] at hnone
      cases hnone

/-- A run that has converted the root has a result with all that is asked for, or waits. -/
theorem convert_eq_or_waits {file : Data .sourceFile} (hfile : doc.file = .ok file)
    {o : ConvertOptions} {node : EsNode} {q : Progress}
    (hnode : Ok ((doc.source file o.rich).convert doc.root) {} (some node) q) :
    (doc.convert o = (.ok (o.present ⟨node, (doc.source file o).esTokens?,
        (doc.source file o).esComments?⟩), o.mapsOf q.maps) ∧
      (o.emitTokens = true → (doc.source file o).esTokens?.isSome = true) ∧
      (o.emitComments = true → (doc.source file o).esComments?.isSome = true)) ∨ doc.Waits o := by
  have hrun : doc.convert o =
      ((doc.source file o).emitted (node.relabel o.texts), o.mapsOf q.maps) := by
    have hnode' : ((doc.source file o.rich).convert (doc.source file o.rich).root).run.run {} =
        (.ok (some node), q) := hnode
    rw [convert_eq_rich hfile, hnode']
    rfl
  by_cases hvain : (doc.source file o).AsksInVain
  · have hendless : (doc.convert o).1 = .error .endless := by
      rw [hrun, Source.emitted, if_pos hvain]
    refine .inr ⟨hendless, file, hfile, ?_⟩
    obtain ⟨hasked, hnone⟩ | htype := trivia_of_asksInVain hvain
    · refine .inl ⟨hasked, hnone, fun hkind => ?_⟩
      -- A file is converted with its tokens at hand, so there is an end to them.
      have hindex := Source.index_isSome_of_ok hkind hnode
      have hnoIndex : (doc.source file o.rich).index = none := congrArg (Option.map _) hnone
      rw [hnoIndex] at hindex
      cases hindex
    · exact .inr htype
  · obtain ⟨htokens, hcomments⟩ := not_or.mp hvain
    refine .inl ⟨?_, fun hasked => ?_, fun hasked => ?_⟩
    · rw [hrun, Source.emitted, if_neg hvain]
      rfl
    · exact Option.isSome_iff_ne_none.mpr fun hnone => htokens ⟨hasked, hnone⟩
    · exact Option.isSome_iff_ne_none.mpr fun hnone => hcomments ⟨hasked, hnone⟩

/-- **A document has one full result**, and every run presents a part of it, with all that the options
ask for, unless it waits for what it never gets. -/
theorem presents (doc : Document) (strict : Bool) :
    (∃ e, ∀ o : ConvertOptions, o.failOnUnknownNodeKind = strict →
      (doc.convert o).1 = .error e) ∨
    ∃ (full : Program) (maps : NodeMaps),
      (∀ n ∈ full.node.toValue.nodes, n.head.type = .known .jsxText →
        doc.arena.IsMarkupText doc.root n) ∧
      ∀ o : ConvertOptions, o.failOnUnknownNodeKind = strict →
        (doc.convert o = (.ok (o.present full), o.mapsOf maps) ∧
          (o.emitTokens = true → full.tokens.isSome = true) ∧
          (o.emitComments = true → full.comments.isSome = true)) ∨ doc.Waits o := by
  cases hfile : doc.file with
  | error e => exact .inl ⟨.failed e, fun o _ => by rw [doc.convert_eq, hfile]⟩
  | ok file =>
    -- The full result is that of the run that is asked for everything.
    let rich : ConvertOptions := ⟨strict, true, true, true, true⟩
    let s := doc.source file rich
    have hrich {o : ConvertOptions} (ho : o.failOnUnknownNodeKind = strict) : o.rich = rich := by
      rw [ConvertOptions.rich, ho]
    rcases hrun : (s.convert s.root).run.run {} with ⟨e | _ | node, q⟩
    · refine .inl ⟨e, fun o ho => ?_⟩
      rw [convert_eq_rich hfile, hrich ho, hrun]
      rfl
    · refine .inl ⟨.failed (.missingData ((doc.arena.kind? doc.root).getD .unknown) doc.root),
        fun o ho => ?_⟩
      rw [convert_eq_rich hfile, hrich ho, hrun]
      rfl
    · refine .inr ⟨⟨node, s.esTokens?, s.esComments?⟩, q.maps, ?_, ?_⟩
      · exact (Source.run_withOptions (s := s) (o := rich) rfl rfl rfl).2.2 node
          (congrArg Prod.fst hrun)
      · intro o ho
        have hnode : Ok ((doc.source file o.rich).convert doc.root) {} (some node) q :=
          hrich ho ▸ hrun
        exact convert_eq_or_waits hfile hnode

/-- **Runs that agree about types outside the vocabulary agree in all they have in common**: they
come to the same error or build the same tree, but for the types of texts between tags; and the
trees are the same if the runs agree about these as well. What both are asked for, both have, and it
is the same. Only a run that waits for what it never gets has no part in this. -/
theorem outputs_agree (doc : Document) (o o' : ConvertOptions)
    (hfail : o'.failOnUnknownNodeKind = o.failOnUnknownNodeKind) :
    (∃ e, (doc.convert o).1 = .error e ∧ (doc.convert o').1 = .error e) ∨
    (doc.Waits o ∨ doc.Waits o') ∨
    ∃ program program' : Program,
      (doc.convert o).1 = .ok program ∧ (doc.convert o').1 = .ok program' ∧
      (o'.useLiteralTextNodeForMarkupText = o.useLiteralTextNodeForMarkupText →
        program'.node = program.node) ∧
      (o.emitTokens = true → o'.emitTokens = true →
        ∃ tokens, program.tokens = some tokens ∧ program'.tokens = some tokens) ∧
      (o.emitComments = true → o'.emitComments = true →
        ∃ comments, program.comments = some comments ∧ program'.comments = some comments) ∧
      ∃ tree : EsNode, program.node = tree.relabel o.texts ∧ program'.node = tree.relabel o'.texts ∧
        ∀ n ∈ tree.toValue.nodes, n.head.type = .known .jsxText →
          doc.arena.IsMarkupText doc.root n := by
  obtain ⟨e, he⟩ | ⟨full, maps, htexts, hfull⟩ := doc.presents o.failOnUnknownNodeKind
  · exact .inl ⟨e, he o rfl, he o' hfail⟩
  obtain ⟨hrun, htokens, hcomments⟩ | hwaits := hfull o rfl
  · obtain ⟨hrun', -, -⟩ | hwaits' := hfull o' hfail
    · refine .inr (.inr ⟨_, _, congrArg Prod.fst hrun, congrArg Prod.fst hrun', ?_, ?_, ?_,
        full.node, rfl, rfl, htexts⟩)
      · intro htext
        change full.node.relabel o'.texts = full.node.relabel o.texts
        rw [ConvertOptions.texts, ConvertOptions.markupType, htext]
        rfl
      · intro hasked hasked'
        obtain ⟨tokens, hsome⟩ := Option.isSome_iff_exists.mp (htokens hasked)
        exact ⟨tokens, (if_pos hasked).trans hsome, (if_pos hasked').trans hsome⟩
      · intro hasked hasked'
        obtain ⟨comments, hsome⟩ := Option.isSome_iff_exists.mp (hcomments hasked)
        exact ⟨comments, (if_pos hasked).trans hsome, (if_pos hasked').trans hsome⟩
    · exact .inr (.inl (.inr hwaits'))
  · exact .inr (.inl (.inl hwaits))

/-! ### Tokens that never come -/

/-- A statement that has itself for its expression, and the text `a`. The root is an empty statement,
though it has the parts of a file. -/
def selfContained : Document where
  arena := {
    nodes := #[
      { kind := .emptyStatement, pos := 0, stop := 1, pool := some .sourceFile, dataIndex := 0 },
      { kind := .expressionStatement, pos := 0, stop := 1, pool := some .exprStatement
        dataIndex := 0 }]
    parents := #[none, some 1]
    pools := fun
      | .exprStatement => #[⟨some 1, ()⟩]
      | .sourceFile => #[⟨⟨[some 1], 0, 1, false⟩, none, "", "a", .latest, false, [], ()⟩]
      | _ => #[] }
  root := some 0

/-- An empty statement that has the parts of a file, and a text whose only escape does not start a
name. -/
def escapedDigit : Document where
  arena := {
    nodes := #[
      { kind := .emptyStatement, pos := 0, stop := 6, pool := some .sourceFile, dataIndex := 0 }]
    parents := #[none]
    pools := fun
      | .sourceFile => #[⟨⟨[], 0, 6, false⟩, none, "", "\\u0030", .latest, false, [], ()⟩]
      | _ => #[] }
  root := some 0

/-- **Asking for tokens may keep a run from having a result**: the type of the name is never found,
since the descent to it goes round, and the text with the escape has no end to its tokens. -/
theorem waits_for_tokens :
    ((∃ program, (selfContained.convert {}).1 = .ok program) ∧
      (selfContained.convert { emitTokens := true }).1 = .error .endless) ∧
    (∃ program, (escapedDigit.convert {}).1 = .ok program) ∧
      (escapedDigit.convert { emitTokens := true }).1 = .error .endless := by
  have hok (doc : Document) (h : (doc.convert {}).1.isOk = true) :
      ∃ program, (doc.convert {}).1 = .ok program := by
    rcases hrun : (doc.convert {}).1 with e | program
    · rw [hrun] at h
      cases h
    · exact ⟨program, rfl⟩
  have hhalt (doc : Document)
      (h : (fun _ => ()) <$> (doc.convert { emitTokens := true }).1 = .error .endless) :
      (doc.convert { emitTokens := true }).1 = .error .endless := by
    rcases hrun : (doc.convert { emitTokens := true }).1 with e | program
    · rw [hrun] at h
      cases h
      rfl
    · rw [hrun] at h
      cases h
  exact ⟨⟨hok _ (by decide +kernel), hhalt _ (by decide +kernel)⟩, hok _ (by decide +kernel),
    hhalt _ (by decide +kernel)⟩

/-! ### A text between tags -/

/-- The document of `<> </>`. -/
def fragment : Document where
  arena := {
    nodes := #[
      .token .jsxOpeningFragment 0 2, .token .jsxTextAllWhiteSpaces 2 3,
      .token .jsxClosingFragment 3 6,
      { kind := .jsxFragment, pos := 0, stop := 6, pool := some .jsxElement, dataIndex := 0 },
      { kind := .expressionStatement, pos := 0, stop := 6, pool := some .exprStatement
        dataIndex := 0 },
      .token .endOfFileToken 6 6,
      { kind := .sourceFile, pos := 0, stop := 6, pool := some .sourceFile, dataIndex := 0 }]
    parents := #[some 3, some 3, some 3, some 4, some 6, some 6, none]
    pools := fun
      | .jsxElement => #[⟨some 0, ⟨[some 1], 2, 3, false⟩, some 2, ()⟩]
      | .exprStatement => #[⟨some 3, ()⟩]
      | .sourceFile => #[⟨⟨[some 4], 0, 6, false⟩, some 5, "input.tsx", "<> </>", .latest, false,
          [], ()⟩]
      | _ => #[] }
  root := some 6

/-- The text is a literal or has a type of its own, and the rest of the tree is the same. -/
theorem fragment_outputs : ∃ program program' : Program,
    (fragment.convert {}).1 = .ok program ∧
      (fragment.convert
        { useLiteralTextNodeForMarkupText := true, emitTokens := true }).1 = .ok program' ∧
      program.node.walk.map EsHead.type = [.known .program, .known .expressionStatement,
        .known .jsxFragment, .known .jsxOpeningFragment, .known .jsxClosingFragment,
        .known .literal] ∧
      ∃ tree : EsNode, program.node = tree.relabel (ConvertOptions.texts {}) ∧
        program'.node = tree.relabel
          (ConvertOptions.texts { useLiteralTextNodeForMarkupText := true, emitTokens := true }) := by
  have hok : (fragment.convert {}).1.toOption.map (fun p => p.node.walk.map EsHead.type) =
      some [.known .program, .known .expressionStatement, .known .jsxFragment,
        .known .jsxOpeningFragment, .known .jsxClosingFragment, .known .literal] := by
    decide +kernel
  have hok' : (fragment.convert
      { useLiteralTextNodeForMarkupText := true, emitTokens := true }).1.isOk = true := by
    decide +kernel
  have hagree := fragment.outputs_agree {}
    { useLiteralTextNodeForMarkupText := true, emitTokens := true } rfl
  rcases hrun : (fragment.convert {}).1 with e | program
  · rw [hrun] at hok
    cases hok
  rcases hrun' : (fragment.convert
      { useLiteralTextNodeForMarkupText := true, emitTokens := true }).1 with e | program'
  · rw [hrun'] at hok'
    cases hok'
  rw [hrun] at hok
  rw [Waits, Waits, hrun, hrun'] at hagree
  obtain ⟨e, he, -⟩ | (hwaits | hwaits) | ⟨_, _, ⟨⟩, ⟨⟩, -, -, -, tree, htree, htree', -⟩ := hagree
  · cases he
  · cases hwaits.1
  · cases hwaits.1
  · exact ⟨program, program', rfl, rfl, Option.some.inj hok, tree, htree, htree'⟩

end Document

end ScriptTree
