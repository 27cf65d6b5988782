import ScriptTree.Proofs.Convert.Beginnings.Rules

/-!
# Only the tree counts

A converter reads its arena around the nodes that it comes to, so it does the same over an arena to
which nodes were added that have nothing to do with the tree
(`ScriptTree.Arena.LooksAlike.convert`). The one thing that is read elsewhere are the texts
between tags: they are looked for in the whole arena, and a text that was added takes the
place of the tokens it covers. Where no such text was added, a run comes to the same
(`ScriptTree.Document.convert_begins`).
-/

namespace ScriptTree

namespace Arena.LooksAlike

/-! ### Conversions -/

section

variable {s : Source} {a' : Arena} (h : s.arena.LooksAlike a')

include h

/-- Only what is seen lies below a node that is seen. -/
theorem sees_of_transGen {i j : NodeId} (hi : s.arena.Sees a' (some i))
    (hj : Relation.TransGen a'.IsChild i j) :
    s.arena.Sees a' (some j) ∧ Relation.TransGen s.arena.IsChild i j := by
  have hstep {i j : NodeId} (hi : s.arena.Sees a' (some i)) (hj : a'.IsChild i j) :
      s.arena.Sees a' (some j) ∧ s.arena.IsChild i j := by
    have hsize : i < s.arena.nodes.size := by
      have hn : a'.node? (some i) = some _ := Array.getElem?_eq_getElem (lt_size_of_isChild hj)
      exact lt_of_node? (hi.symm.trans hn)
    rw [IsChild, h.children hsize] at hj
    exact ⟨h.sees_of_isChild hj, hj⟩
  induction hj with
  | single hj => exact (hstep hi hj).imp_right .single
  | tail _ hj ih => exact (hstep ih.1 hj).imp_right ih.2.tail

/-- **Converters that go down equally often do the same**, wherever they are seen to start, if no
node from there on lies below itself. -/
theorem ways_over (depth : Nat) : ∀ r, s.arena.Sees a' r → s.arena.AcyclicFrom r →
    ((s.over a').ways depth).convert r = (s.ways depth).convert r ∧
      ((s.over a').ways depth).typeArgument r = (s.ways depth).typeArgument r ∧
      ((s.over a').ways depth).tagName r = (s.ways depth).tagName r := by
  induction depth with
  | zero => exact fun r _ _ => ⟨rfl, rfl, rfl⟩
  | succ depth ih =>
    intro r hr hacyclic
    rw [Source.ways, Source.ways]
    cases hn : s.node? r with
    | none =>
      obtain ⟨hconvert, htype, htag⟩ := Source.onwards_of_node?_eq_none hn (s.ways depth)
      obtain ⟨hconvert', htype', htag'⟩ := Source.onwards_of_node?_eq_none
        ((node?_over hr).trans hn) ((s.over a').ways depth)
      exact ⟨hconvert'.trans hconvert.symm, htype'.trans htype.symm, htag'.trans htag.symm⟩
    | some n =>
      obtain ⟨i, rfl, -⟩ := Option.bind_eq_some_iff.mp hn
      -- below this node nothing but what is seen is come to, so the ways may be exchanged
      have hbelow : WaysDown.AgreeBelow a' i ((s.over a').ways depth) (s.ways depth) := by
        intro r hbelow
        cases r with
        | none => exact ih none rfl fun _ ⟨_, hnone, _⟩ => nomatch hnone
        | some j =>
          obtain ⟨hj, hij⟩ := h.sees_of_transGen hr (hbelow j rfl)
          exact ih (some j) hj (hacyclic.below hij.to_reflTransGen)
      obtain ⟨hconvert, htype, htag⟩ := Source.onwards_eq (s := s.over a') hbelow
      have hargument : ((s.over a').onwards (s.ways depth)).typeArgument (some i) =
          (s.onwards (s.ways depth)).typeArgument (some i) :=
        h.typeArgumentOf (w := { s.ways depth with convert := (s.along (s.ways depth)).visitAt }) hr
          hacyclic fun r hr hacyclic => h.visitAt hr hacyclic
      exact ⟨hconvert.trans (h.visitAt hr hacyclic), htype.trans hargument, htag.trans (h.tagNameOf hr)⟩

/-- **What is converted is the same over every arena that looks alike.** -/
theorem convert {r : NodeRef} (hr : s.arena.Sees a' r) (hacyclic : s.arena.AcyclicFrom r) :
    (s.over a').convert r = s.convert r := by
  have hdepth : s.arena.nodes.size < a'.nodes.size + 2 := by
    have := h.size_le
    omega
  calc (s.over a').convert r
    _ = ((s.over a').ways (a'.nodes.size + 2)).convert r := by
      rw [Source.convert, Source.converter_eq]
      rfl
    _ = (s.ways (a'.nodes.size + 2)).convert r := (h.ways_over _ r hr hacyclic).1
    _ = (s.converter (a'.nodes.size + 2)).convert r := by
      rw [Source.converter_eq]
      rfl
    _ = s.convert r := Source.converter_eq_convert hacyclic hdepth

end

/-! ### Tokens -/

section

variable {a a' : Arena} (h : a.LooksAlike a') {root : NodeRef}
  (hroot : ∀ i ∈ root, i < a.nodes.size) (map : LineMap) (x : SourceToken)

include h

theorem isOperatorStart {n : Node} (hn : n ∈ a.nodes) (pos : Nat) :
    Trivia.isOperatorStart a' n pos = Trivia.isOperatorStart a n pos := by
  rw [Trivia.isOperatorStart, Trivia.isOperatorStart, h.data hn]
  cases hd : a.data? .binary n with
  | none => rfl
  | some d =>
    have hparts := h.seesParts hn hd
    have hleft : a.Sees a' (d.get .left) := hparts.nodeAt .left
    have hright : a.Sees a' (d.get .right) := hparts.nodeAt .right
    dsimp only
    rw [hleft, hright]

/-- A node makes the same of an ambiguous token. -/
theorem readAs {r : NodeRef} (hr : a.Sees a' r) (s : Scanner) :
    Trivia.readAs a' (a'.node? r) s x = Trivia.readAs a (a.node? r) s x := by
  rw [hr]
  cases hn : a.node? r with
  | none => rfl
  | some n => simp only [Trivia.readAs, Trivia.reread?, h.isOperatorStart (mem_of_node? hn)]

include hroot

/-- An ambiguous token is read as the tree says. -/
theorem resolve (s : Scanner) : Trivia.resolve a' root s x = Trivia.resolve a root s x := by
  rw [Trivia.resolve, Trivia.resolve, h.nodeContaining hroot]
  rcases hfound : a.nodeContaining root x.start x.stop with _ | _ | i
  · rfl
  · rfl
  · rw [Option.map_some, Option.map_some, h.readAs x (h.sees (lt_of_nodeContaining hfound))]

theorem walkFrom? (spans : List (Nat × Nat)) (fuel : Nat) (s : Scanner) :
    Trivia.walkFrom? a' root spans fuel s = Trivia.walkFrom? a root spans fuel s := by
  have hstep (s : Scanner) : Trivia.step a' root spans s = Trivia.step a root spans s := by
    simp only [Trivia.step, h.resolve hroot]
  induction fuel generalizing s with
  | zero => rfl
  | succ fuel ih =>
    rw [Trivia.walkFrom?, Trivia.walkFrom?, hstep]
    split
    · rfl
    · rfl
    · rw [ih]

theorem tokenType : a'.tokenType root x = a.tokenType root x := by
  have hname : a'.isMarkupName root x = a.isMarkupName root x := by
    rw [Arena.isMarkupName, Arena.isMarkupName, h.nodeContaining hroot]
    rcases hfound : a.nodeContaining root x.start x.stop with _ | _ | i
    · rfl
    · rfl
    · exact h.search_climbNames (lt_of_nodeContaining hfound)
  have hvalue : a'.isAttributeValue root x = a.isAttributeValue root x := by
    rw [Arena.isAttributeValue, Arena.isAttributeValue, h.nodeContaining hroot]
    rcases hfound : a.nodeContaining root x.start x.stop with _ | _ | i
    · rfl
    · rfl
    · simp only [Option.map_some, Option.any_some, h.kind?_parent (lt_of_nodeContaining hfound)]
  rw [Arena.tokenType, Arena.tokenType, hname, hvalue]

theorem ofToken : EsToken.ofToken a' root map x = EsToken.ofToken a root map x := by
  rw [EsToken.ofToken, EsToken.ofToken, h.tokenType hroot]

end

/-! ### Runs -/

section

variable {s : Source} {a' : Arena} (h : s.arena.LooksAlike a')
  (hacyclic : s.arena.AcyclicFrom s.root) (hroot : ∀ i ∈ s.root, i < s.arena.nodes.size)

include h hroot

theorem sees_root : s.arena.Sees a' s.root := by
  cases hr : s.root with
  | none => rfl
  | some i => exact h.sees (hroot i hr)

theorem programTokens : (s.over a').programTokens = s.programTokens := by
  have htoken : EsToken.ofToken a' s.root s.map = EsToken.ofToken s.arena s.root s.map :=
    funext fun x => h.ofToken hroot s.map x
  simp only [Source.programTokens, Source.arena_over, Source.root_over, Source.map_over, htoken]
  rfl

include hacyclic

/-- What a source has become over an arena that looks alike. -/
theorem run : (s.over a').program = s.program := by
  have hroot' := h.sees_root hroot
  simp only [Source.program, Source.arena_over, Source.root_over, h.convert hroot' hacyclic,
    hroot'.kind?, h.programTokens hroot]
  rfl

end

end Arena.LooksAlike

namespace Arena

variable {a a' : Arena} {root : NodeRef}

/-- **The same is made of a text along two trees that look alike**, if the same texts stand between
tags. -/
theorem LooksAlike.ofText (h : a.LooksAlike a') (hroot : ∀ i ∈ root, i < a.nodes.size)
    (hspans : Trivia.markupSpans a' = Trivia.markupSpans a) (text : Text) (target : ScriptTarget)
    (o : ConvertOptions) :
    Source.ofText a' root text target o = (Source.ofText a root text target o).over a' := by
  have htrivia : Trivia.ofText? a' root text target = Trivia.ofText? a root text target := by
    rw [Trivia.ofText?, Trivia.ofText?, hspans, h.walkFrom? hroot]
  rw [Source.ofText, Source.ofText, htrivia]
  rfl

/-- The further nodes of an arena are no texts between tags, or they are empty. -/
def AddsNoText (a a' : Arena) : Prop :=
  ∀ n ∈ a'.nodes.toList.drop a.nodes.size, n.kind = .jsxText → n.stop ≤ n.pos

instance (a a' : Arena) : Decidable (a.AddsNoText a') :=
  inferInstanceAs (Decidable (∀ n ∈ a'.nodes.toList.drop a.nodes.size,
    n.kind = .jsxText → n.stop ≤ n.pos))

/-- Then the texts between tags are the same. -/
theorem Begins.markupSpans (h : a.Begins a') (htexts : a.AddsNoText a') :
    Trivia.markupSpans a' = Trivia.markupSpans a := by
  obtain ⟨more, hmore⟩ := h.nodes
  rw [AddsNoText, hmore, Array.toList_append, ← Array.length_toList, List.drop_left] at htexts
  have hnone : more.toList.filter (fun n => n.kind == .jsxText && n.pos < n.stop) = [] := by
    refine List.filter_eq_nil_iff.mpr fun n hn htext => ?_
    rw [Bool.and_eq_true, beq_iff_eq, decide_eq_true_iff] at htext
    exact absurd (htexts n hn htext.1) (Nat.not_le_of_lt htext.2)
  rw [Trivia.markupSpans, Trivia.markupSpans, hmore, Array.toList_append, List.filter_append, hnone,
    List.append_nil]

end Arena

namespace Document

/-- **Only the tree counts.** A document comes to the same result, with the same tokens, comments and
correspondence, or to the same error, when nodes are added to its arena that refer to none of its
nodes and that none of its nodes refers to, as long as these are no texts between tags. No node of
the tree may lie below itself; what the arena holds outside of the tree may. -/
theorem convert_begins {a a' : Arena} {root : NodeRef} (h : a.Begins a')
    (hacyclic : a.AcyclicFrom root) (htexts : a.AddsNoText a')
    (hroot : ∀ i ∈ root, i < a.nodes.size) (o : ConvertOptions) :
    convert ⟨a'.linkParents, root⟩ o = convert ⟨a.linkParents, root⟩ o := by
  have hlooks : a.linkParents.LooksAlike a'.linkParents := h.looksAlike
  have hacyclic' : a.linkParents.AcyclicFrom root := hacyclic
  have hspans : Trivia.markupSpans a'.linkParents = Trivia.markupSpans a.linkParents :=
    h.markupSpans htexts
  have hsees : a.linkParents.Sees a'.linkParents root := by
    cases root with
    | none => rfl
    | some i => exact hlooks.sees (hroot i rfl)
  have hfile : a'.linkParents.sourceFile? root = a.linkParents.sourceFile? root :=
    hlooks.dataAt? hsees .sourceFile
  rw [convert, convert, convertOver, convertOver, hfile, hsees.kind?]
  cases a.linkParents.sourceFile? root with
  | none => rfl
  | some file =>
    dsimp only
    cases (file.get .parseDiagnostics).head? with
    | some d => rfl
    | none =>
      dsimp only
      rw [hlooks.ofText hroot hspans]
      rw [Arena.LooksAlike.run (s := .ofText a.linkParents root _ _ o) hlooks hacyclic' hroot]

/-! ### A statement among others -/

/-- The arena of `a;`. -/
def letter : Arena where
  nodes := #[
    { kind := .identifier, pos := 0, stop := 1, pool := some .identifier, dataIndex := 0 },
    { kind := .expressionStatement, pos := 0, stop := 2, pool := some .exprStatement
      dataIndex := 0 },
    .token .endOfFileToken 2 2,
    { kind := .sourceFile, pos := 0, stop := 2, pool := some .sourceFile, dataIndex := 0 }]
  parents := #[some 1, some 3, some 3, none]
  pools := fun
    | .identifier => #[⟨"a", ()⟩]
    | .exprStatement => #[⟨some 0, ()⟩]
    | .sourceFile => #[⟨⟨[some 1], 0, 2, false⟩, some 2, "input.ts", "a;", .latest, false, [], ()⟩]
    | _ => #[]

theorem acyclic_letter : letter.Acyclic := Arena.acyclic_of_lt (by decide)

/-- The same arena with further nodes and their rows. -/
def letterAnd (nodes : Array Node) (rows : (p : Pool) → Array (Data p)) : Arena where
  nodes := letter.nodes ++ nodes
  parents := letter.parents
  pools := fun p => letter.pools p ++ rows p

/-- It is enough that no child of the further nodes is a letter's. -/
theorem begins_letterAnd {nodes : Array Node} {rows : (p : Pool) → Array (Data p)}
    (h : ∀ i < (letterAnd nodes rows).nodes.size, 4 ≤ i →
      ∀ c ∈ (letterAnd nodes rows).children (some i), 4 ≤ c) :
    letter.Begins (letterAnd nodes rows) where
  nodes := ⟨nodes, rfl⟩
  rows := fun p => ⟨rows p, rfl⟩
  apart := fun i c hi hc => h i (Arena.lt_size_of_isChild hc) hi c hc
  own_row := by
    have hrows : ∀ n ∈ letter.nodes.toList, ∀ p ∈ n.pool, n.dataIndex < (letter.pools p).size := by
      decide
    exact fun n hn p hp => .inl (hrows n (Array.mem_toList_iff.mpr hn) p hp)
  own_refs := by
    have hrefs : ∀ n ∈ letter.nodes.toList, ∀ p ∈ n.pool, ∀ d ∈ letter.data? p n, ∀ f ∈ p.layout,
        ∀ c ∈ d.refs f, c < letter.nodes.size := by
      decide
    intro n hn p d hd f hf c hc
    have hp : n.pool = some p := by
      by_contra hp
      rw [Arena.data?, if_neg hp] at hd
      cases hd
    exact .inl (hrefs n (Array.mem_toList_iff.mpr hn) p hp d hd f hf c hc)

/-- The arena of `a;` in which a statement was left behind. -/
def letterAndStatement : Arena :=
  letterAnd
    #[{ kind := .identifier, pos := 0, stop := 1, pool := some .identifier, dataIndex := 1 },
      { kind := .expressionStatement, pos := 0, stop := 2, pool := some .exprStatement
        dataIndex := 1 }]
    fun
      | .identifier => #[⟨"b", ()⟩]
      | .exprStatement => #[⟨some 4, ()⟩]
      | _ => #[]

/-- It is converted as if nothing had been left behind. -/
theorem letterAndStatement_begins :
    letter.Begins letterAndStatement ∧ letter.AcyclicFrom (some 3) ∧
      letter.AddsNoText letterAndStatement ∧
      convert ⟨letterAndStatement.linkParents, some 3⟩ .full =
        convert ⟨letter.linkParents, some 3⟩ .full ∧
      (convert ⟨letter.linkParents, some 3⟩ .full).1.isOk = true := by
  have hbegins : letter.Begins letterAndStatement := begins_letterAnd (by decide)
  have htexts : letter.AddsNoText letterAndStatement := by decide
  have hroot : ∀ i ∈ (some 3 : NodeRef), i < letter.nodes.size := by
    rintro _ ⟨⟩
    decide
  have hacyclic : letter.AcyclicFrom (some 3) := acyclic_letter.acyclicFrom _
  exact ⟨hbegins, hacyclic, htexts, convert_begins hbegins hacyclic htexts hroot .full,
    by decide +kernel⟩

/-- The arena of `a;` in which a text between tags was left behind. -/
def letterAndText : Arena :=
  letterAnd
    #[{ kind := .jsxText, pos := 0, stop := 2, pool := some .literal, dataIndex := 0 }]
    fun
      | .literal => #[⟨"a;", false, ()⟩]
      | _ => #[]

/-- **A text between tags does count**: it takes the place of the two tokens. -/
theorem letterAndText_begins :
    letter.Begins letterAndText ∧ letter.Acyclic ∧
      convert ⟨letterAndText.linkParents, some 3⟩ .full ≠
        convert ⟨letter.linkParents, some 3⟩ .full := by
  refine ⟨begins_letterAnd (by decide), acyclic_letter, fun heq => ?_⟩
  have hcount := congrArg (fun run => run.1.toOption.bind fun program : Program =>
    program.tokens.map List.length) heq
  have hcounts : ((convert ⟨letterAndText.linkParents, some 3⟩ .full).1.toOption.bind
        fun program => program.tokens.map List.length) = some 1 ∧
      ((convert ⟨letter.linkParents, some 3⟩ .full).1.toOption.bind
        fun program => program.tokens.map List.length) = some 2 := by
    decide +kernel
  rw [hcounts.1, hcounts.2] at hcount
  cases hcount

end Document

end ScriptTree
