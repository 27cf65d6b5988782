import ScriptTree.Proofs.Convert.Remains
import ScriptTree.Proofs.Convert.Sequences.Rules

/-!
# Chains of commas become sequences

A chain of commas becomes one flat sequence of what its operands become, and the commas inside of it
become nothing at all (`ScriptTree.Document.convert_commas`). That nothing is recorded for them is
true of whole runs: no conversion goes down to them (`ScriptTree.Source.recorded_of_visits`). An
entry of a sequence is a sequence itself only where a node stands between the two commas, such as
parentheses (`ScriptTree.nestedCommas_convert`).
-/

namespace ScriptTree

open Conversion

/-! ### Chains of commas -/

/-- **A place is kept apart**: the node in it stands for a comma expression, perhaps by way of
others, and is none itself. -/
def Arena.KeepsApart (a : Arena) (r : NodeRef) : Prop :=
  ∃ i j d, r = some i ∧ Relation.TransGen a.StandsFor i j ∧ a.IsComma j d

/-- **What a chain of commas has become**, from one state on. -/
structure Source.Flattens (s : Source) (convert : NodeRef → Conversion (Option EsNode)) (i : NodeId)
    (n : Node) (p : Progress) (es : EsNode) (inner : List NodeId) (operands : List NodeRef)
    (entries : List (Option EsNode)) : Prop where
  /-- The operands are those of the whole chain, as they were written. -/
  chain : s.arena.CommaChain i inner operands
  /-- No node is an operand twice. -/
  once : operands.reduceOption.Nodup
  /-- There is one entry more than there are commas. -/
  length_eq : entries.length = inner.length + 2
  /-- The entries are what the operands become, one after the other. -/
  converted : ∃ q, Ok (operands.mapM convert) p entries q
  absent : List.Forall₂ (fun r x => r = none → x = none) operands entries
  type_eq : es.IsSequence
  /-- The sequence covers the node. -/
  range_eq : es.head.start = n.pos ∧ es.head.stop = max n.stop n.pos
  props_eq : es.props = [("expressions", .array (entries.map EsValue.ofNode?))]
  /-- Only what is kept apart becomes a sequence in the sequence, unless a comma stands to the
  right. -/
  apart : (∀ r ∈ operands.tail, ¬ s.arena.HoldsComma r) →
    List.Forall₂ (fun r x => ∀ es ∈ x, es.IsSequence → s.arena.KeepsApart r) operands entries

/-- The first operand of a chain is no comma expression. -/
theorem Arena.CommaChain.not_holdsComma_first {a : Arena} {i : NodeId} {inner : List NodeId}
    {operands : List NodeRef} (h : a.CommaChain i inner operands) :
    ∃ first rest, operands = first :: rest ∧ ¬ a.HoldsComma first := by
  induction h with
  | last _ hleft => exact ⟨_, _, rfl, hleft⟩
  | link _ _ _ ih =>
    obtain ⟨first, rest, rfl, hfirst⟩ := ih
    exact ⟨first, _, rfl, hfirst⟩

/-- A run over a list whose results are changed one by one. -/
theorem Conversion.ok_mapM_map {α β γ : Type} {f : α → Conversion β} {g : β → γ} {as : List α}
    {p q : Progress} {ys : List γ} :
    Ok (as.mapM fun a => g <$> f a) p ys q ↔ ∃ xs, Ok (as.mapM f) p xs q ∧ ys = xs.map g := by
  induction as generalizing p ys with
  | nil =>
    simp only [List.mapM_nil, ok_pure]
    constructor
    · rintro ⟨rfl, rfl⟩
      exact ⟨[], ⟨rfl, rfl⟩, rfl⟩
    · rintro ⟨_, ⟨rfl, rfl⟩, rfl⟩
      exact ⟨rfl, rfl⟩
  | cons a as ih =>
    simp only [List.mapM_cons, ok_bind, ok_map, ok_pure]
    constructor
    · rintro ⟨_, r, ⟨x, hx, rfl⟩, _, _, hrest, rfl, rfl⟩
      obtain ⟨xs, hxs, rfl⟩ := ih.mp hrest
      exact ⟨x :: xs, ⟨x, r, hx, xs, _, hxs, rfl, rfl⟩, rfl⟩
    · rintro ⟨_, ⟨x, r, hx, xs, _, hxs, rfl, rfl⟩, rfl⟩
      exact ⟨_, r, ⟨x, hx, rfl⟩, _, _, ih.mpr ⟨xs, hxs, rfl⟩, rfl, rfl⟩

namespace Source

variable {s : Source} {i : NodeId} {n : Node} {d : Data .binary} {p q : Progress}

/-- **The rule of a comma** converts the operands of its chain one after the other, and builds a
sequence of them. -/
theorem exists_ok_sequence {c : Converter} {es : EsNode} (h : Ok (c.sequence n d) p es q) :
    ∃ others entries r,
      c.arena.commaOperands (c.arena.nodes.size + 1) (d.get .left) = some others ∧
      Ok ((d.get .right :: others).reverse.mapM c.convert) p entries r ∧
      es = c.finish ((Draft.new r.issued AstType.sequenceExpression n.pos n.stop).fill
        [("expressions", EsValue.array (entries.map EsValue.ofNode?))]) := by
  obtain ⟨others, r, hawait, hrest⟩ := ok_bind.mp h
  obtain ⟨hothers, rfl⟩ := ok_await.mp hawait
  obtain ⟨values, r, hvalues, hbuild⟩ := ok_bind.mp hrest
  obtain ⟨entries, hentries, rfl⟩ := ok_mapM_map.mp hvalues
  exact ⟨others, entries, r, hothers, hentries, (ok_build.mp hbuild).2.1⟩

/-- What a converter makes of a comma is made by the rule of a comma. -/
theorem exists_ok_comma (hn : s.arena.nodes[i]? = some n) (hcomma : s.arena.IsComma i d)
    {depth : Nat} {x : Option EsNode}
    (h : Ok ((s.converter (depth + 1)).convert (some i)) p x q) :
    ∃ es r, x = some es ∧ Ok ((s.converter depth).sequence n d) p es r := by
  have hsource := s.toSource_converter depth
  obtain ⟨m, hm, hk, hd, hoperator⟩ := hcomma
  obtain rfl : n = m := Option.some.inj (hn.symm.trans hm)
  change Ok ((s.converter depth).visitAt (some i)) p x q at h
  rw [Converter.visitAt, hsource, show s.node? (some i) = some n from hn] at h
  obtain ⟨y, r, hvisit, h⟩ := ok_bind.mp h
  have hrule : (s.converter depth).visit i n = some <$> (s.converter depth).binary i n := by
    rw [Converter.visit, Converter.ownRule?, hk]
    rfl
  rw [hrule] at hvisit
  obtain ⟨es, hbinary, rfl⟩ := ok_map.mp hvisit
  dsimp only at h
  obtain ⟨_, _, -, h⟩ := ok_bind.mp h
  obtain ⟨rfl, -⟩ := ok_pure.mp h
  obtain ⟨d', r'', hparts, hbinary⟩ := ok_bind.mp hbinary
  obtain ⟨hd', rfl⟩ := ok_parts.mp hparts
  obtain rfl : d = d' := Option.some.inj (hd.symm.trans (hsource ▸ hd'))
  rw [if_pos hoperator] at hbinary
  exact ⟨es, r, rfl, hbinary⟩

/-- **A chain of commas becomes one flat sequence.** -/
theorem flattens_of_ok {root : NodeRef} (htree : s.arena.IsTree root)
    (honce : s.arena.ListsOnce root) (hi : s.arena.Reaches root i)
    (hn : s.arena.nodes[i]? = some n) (hcomma : s.arena.IsComma i d) {depth : Nat}
    {x : Option EsNode} (h : Ok ((s.converter (depth + 1)).convert (some i)) p x q) :
    ∃ es inner operands entries, x = some es ∧
      s.Flattens (s.converter depth).convert i n p es inner operands entries := by
  obtain ⟨es, r, rfl, hsequence⟩ := exists_ok_comma hn hcomma h
  obtain ⟨others, entries, r', hothers, hentries, rfl⟩ := exists_ok_sequence hsequence
  rw [s.toSource_converter depth] at hothers ⊢
  obtain ⟨inner, hchain⟩ := Arena.exists_commaChain hcomma hothers
  generalize (d.get .right :: others).reverse = operands at hchain hentries
  have heach {post : NodeRef → Option EsNode → Prop}
      (hpost : ∀ r ∈ operands, Yields ((s.converter depth).convert r) (post r)) :
      List.Forall₂ post operands entries :=
    Yields.mapM operands hpost hentries
  obtain ⟨hstart, hstop, htype⟩ := Draft.fill_range
    (.new r'.issued AstType.sequenceExpression n.pos n.stop)
    [("expressions", EsValue.array (entries.map EsValue.ofNode?))]
  refine ⟨_, inner, operands, entries, rfl, {
    chain := hchain
    once := htree.nodup_operands honce hi hchain
    length_eq := ?_
    converted := ⟨r', hentries⟩
    absent := heach fun r _ => ?_
    type_eq := htype
    range_eq := ⟨hstart, hstop⟩
    props_eq := rfl
    apart := fun hright => heach fun r hr => ?_ }⟩
  · have hpairs : List.Forall₂ (fun _ _ => True) operands entries :=
      heach fun r _ => Yields.trivial _
    rw [← hpairs.length_eq, hchain.length_operands]
  · intro p x q hok hr
    subst hr
    exact s.yields_convert_absent depth rfl hok
  · -- The chain is maximal, so its first operand is no comma; the others are none by assumption.
    have hnot : ¬ s.arena.HoldsComma r := by
      obtain ⟨first, rest, rfl, hfirst⟩ := hchain.not_holdsComma_first
      rcases List.mem_cons.mp hr with rfl | hr
      · exact hfirst
      · exact hright r hr
    have honly := s.onlyOfCommas depth r
    rw [s.toSource_converter depth] at honly
    refine honly.mono fun x hx es hes heq => ?_
    obtain ⟨j, rfl, k, e, hstands, he⟩ := hx es hes heq
    rcases Relation.reflTransGen_iff_eq_or_transGen.mp hstands with rfl | hstands
    · exact absurd ⟨_, e, rfl, he⟩ hnot
    · exact ⟨j, k, e, rfl, hstands, he⟩

/-! ### What is recorded -/

/-- **What is recorded is for nodes that a conversion goes down to**, or was recorded before. -/
theorem recorded_of_visits (near : NodeId → Prop)
    (hvisits : ∀ {i j}, near i → s.arena.Visits i j → near j) {r : NodeRef}
    (hr : ∀ i, r = some i → near i) :
    ∀ x ∈ ((s.convert r).run.run {}).2.maps.pairs, ∃ i, x.1 = some i ∧ near i := by
  let T : Tie PUnit s s.options :=
    { (s.solitude near {}).tie (fun _ => False) (.same s _) False.elim False.elim
        (Nat.lt_irrefl 0) with
      near := near
      here_of_near := id
      near_of_visits := hvisits
      hasPlainName := fun h => h.elim }
  have htandem : T.Tandem 0 (s.convert r) (s.convert r) (Holding.opt _) :=
    T.tandem_convert (fun _ => trivial) hr
  have hstates : T.states 0 {} {} := ⟨rfl, ⟨fun _ => ⟨rfl, rfl⟩, fun _ => rfl⟩, nofun⟩
  have hends := htandem.ends hstates
  generalize (s.convert r).run.run {} = run at hends ⊢
  have hpairs {h : PUnit} {q q' : Progress} (hq : T.states h q q') (x : NodeRef × Nat)
      (hx : x ∈ q'.maps.pairs) : ∃ i, x.1 = some i ∧ near i :=
    (hq.2.2 x hx).resolve_left List.not_mem_nil
  cases hends with
  | ok hq => exact hpairs hq
  | error _ hq => exact hpairs hq
  | stopped he => exact he.elim
  | late hlate => exact hlate.elim

end Source

namespace Document

/-- **Chains of commas in a document that is a tree.** Whatever a run over the document comes to, it
records nothing for the commas inside of a chain. And wherever the conversion of a comma has a
result, however deep the converter may still go and whatever was converted before, that is one flat
sequence of what the operands of the whole chain become. -/
theorem convert_commas {doc : Document} (htree : doc.arena.IsTree doc.root)
    (honce : doc.arena.ListsOnce doc.root) (options : ConvertOptions) :
    (∀ i inner operands, doc.arena.Reaches doc.root i → doc.arena.CommaChain i inner operands →
      ∀ j ∈ inner, ∀ x ∈ (doc.convert options).2.pairs, x.1 ≠ some j) ∧
    ∀ file, doc.arena.sourceFile? doc.root = some file → ∀ i n d, doc.arena.Reaches doc.root i →
      doc.arena.nodes[i]? = some n → doc.arena.IsComma i d → ∀ depth p x q,
        Ok (((doc.source file options).converter (depth + 1)).convert (some i)) p x q →
          ∃ es inner operands entries, x = some es ∧
            (doc.source file options).Flattens ((doc.source file options).converter depth).convert
              i n p es inner operands entries := by
  constructor
  · intro i inner operands hi hchain j hj x hx hxj
    have hinner := hchain.isInnerComma hi hj
    rw [convert_eq] at hx
    cases hfile : doc.file with
    | error e =>
      rw [hfile] at hx
      exact absurd hx List.not_mem_nil
    | ok file =>
      rw [hfile] at hx
      -- The nodes that are gone down to from the root on, all but the commas inside of chains.
      have hrecorded := Source.recorded_of_visits (s := doc.source file options)
        (fun k => doc.arena.Reaches doc.root k ∧ ¬ doc.arena.IsInnerComma doc.root k)
        (fun hk hvisits => ⟨hk.1.below hvisits.below.to_reflTransGen,
          htree.not_isInnerComma_of_visits honce hk.1 hvisits⟩)
        (fun k hk => ⟨⟨k, hk, .refl⟩, htree.not_isInnerComma_root hk⟩) x hx
      obtain ⟨k, hk, -, hnot⟩ := hrecorded
      obtain rfl := Option.some.inj (hxj.symm.trans hk)
      exact hnot hinner
  · intro file _ i n d hi hn hcomma depth p x q hok
    exact Source.flattens_of_ok (s := doc.source file options) htree honce hi hn hcomma hok

end Document

/-! ### Commas in parentheses -/

/-- The file of `a, b, (c, d);`. -/
def nestedCommasFile : Data .sourceFile :=
  ⟨⟨[some 8], 0, 13, false⟩, some 9, "input.ts", "a, b, (c, d);", .latest, false, [], ()⟩

/-- The document of this file. -/
def nestedCommas : Document where
  arena := {
    nodes := #[
      { kind := .identifier, pos := 0, stop := 1, pool := some .identifier, dataIndex := 0 },
      { kind := .identifier, pos := 3, stop := 4, pool := some .identifier, dataIndex := 1 },
      { kind := .binaryExpression, pos := 0, stop := 4, pool := some .binary, dataIndex := 0 },
      { kind := .identifier, pos := 7, stop := 8, pool := some .identifier, dataIndex := 2 },
      { kind := .identifier, pos := 10, stop := 11, pool := some .identifier, dataIndex := 3 },
      { kind := .binaryExpression, pos := 7, stop := 11, pool := some .binary, dataIndex := 1 },
      { kind := .parenthesizedExpression, pos := 6, stop := 12, pool := some .parenthesized
        dataIndex := 0 },
      { kind := .binaryExpression, pos := 0, stop := 12, pool := some .binary, dataIndex := 2 },
      { kind := .expressionStatement, pos := 0, stop := 13, pool := some .exprStatement
        dataIndex := 0 },
      .token .endOfFileToken 13 13,
      { kind := .sourceFile, pos := 0, stop := 13, pool := some .sourceFile, dataIndex := 0 }]
    parents := #[some 2, some 2, some 7, some 5, some 5, some 6, some 7, some 8, some 10, some 10,
      none]
    pools := fun
      | .identifier => #[⟨"a", ()⟩, ⟨"b", ()⟩, ⟨"c", ()⟩, ⟨"d", ()⟩]
      | .binary => #[⟨some 0, .commaToken, some 1, ()⟩, ⟨some 3, .commaToken, some 4, ()⟩,
          ⟨some 2, .commaToken, some 6, ()⟩]
      | .parenthesized => #[⟨some 5, ()⟩]
      | .exprStatement => #[⟨some 7, ()⟩]
      | .sourceFile => #[nestedCommasFile]
      | _ => #[] }
  root := some 10

/-- The chain from the last comma on has three operands. -/
theorem nestedCommas_chain : nestedCommas.arena.CommaChain 7 [2] [some 0, some 1, some 6] := by
  have hinner : nestedCommas.arena.CommaChain 2 [] [some 0, some 1] := by
    refine .last (d := ⟨some 0, .commaToken, some 1, ()⟩) ⟨_, rfl, rfl, rfl, rfl⟩ ?_
    rintro ⟨j, e, hj, n, hn, hk, -⟩
    cases hj
    cases hn
    cases hk
  exact .link (d := ⟨some 2, .commaToken, some 6, ()⟩) ⟨_, rfl, rfl, rfl, rfl⟩ rfl hinner

/-- The sequence has three entries. The comma in parentheses becomes a sequence of its own and is
recorded, and the one inside of the chain is not. -/
theorem nestedCommas_convert :
    (nestedCommas.convert .full).1.toOption.map (fun p => p.node.walk.map EsHead.type) =
      some [.known .program, .known .expressionStatement, .known .sequenceExpression,
        .known .identifier, .known .identifier, .known .sequenceExpression, .known .identifier,
        .known .identifier] ∧
    ((nestedCommas.convert .full).2.normalizedOf? (some 5)).isSome = true ∧
    (∀ x ∈ (nestedCommas.convert .full).2.pairs, x.1 ≠ some 2) ∧
    ∃ es inner operands entries, (nestedCommas.source nestedCommasFile .full).Flattens
      ((nestedCommas.source nestedCommasFile .full).converter 12).convert 7
      nestedCommas.arena.nodes[7] {} es inner operands entries := by
  have htree : nestedCommas.arena.IsTree nestedCommas.root :=
    Arena.isTree_of_forall (by decide) (by decide)
  have honce : nestedCommas.arena.ListsOnce nestedCommas.root :=
    Arena.listsOnce_of_forall (by decide) _
  have hreaches : nestedCommas.arena.Reaches nestedCommas.root 7 :=
    ⟨10, rfl, .head (b := 8) (by decide) (.single (by decide))⟩
  obtain ⟨hquiet, hflat⟩ := Document.convert_commas htree honce .full
  refine ⟨by decide +kernel, by decide +kernel,
    hquiet 7 [2] _ hreaches nestedCommas_chain 2 (List.mem_singleton_self 2), ?_⟩
  have hok : ((((nestedCommas.source nestedCommasFile .full).converter 13).convert
      (some 7)).run.run {}).1.isOk = true := by decide
  rcases hrun : (((nestedCommas.source nestedCommasFile .full).converter 13).convert
      (some 7)).run.run {} with ⟨_ | x, q⟩
  · rw [hrun] at hok
    cases hok
  · obtain ⟨es, inner, operands, entries, -, h⟩ := hflat nestedCommasFile rfl 7 _
      ⟨some 2, .commaToken, some 6, ()⟩ hreaches rfl ⟨_, rfl, rfl, rfl, rfl⟩ 12 {} x q hrun
    exact ⟨es, inner, operands, entries, h⟩

end ScriptTree
