import ScriptTree.Proofs.Convert.Leaves
import ScriptTree.Proofs.Convert.Ledger

/-!
# The correspondence of the two trees

What is recorded relates nodes of the tree to nodes of the file: every number that is recorded was
issued, so it is in the tree if no number was lost, and every node that it is recorded for lies
below the root (`ScriptTree.Source.recorded_of_ok`).

The root is recorded last, for the node that the whole tree becomes. It can have a partner by then
only if it was come by on the way down, so only if it lies below itself
(`ScriptTree.Source.normalizedOf?_root`).
-/

namespace ScriptTree

open Conversion Holding

/-! ### Files of another kind -/

namespace Conversion

variable {α β : Type}

/-- A conversion records nothing. -/
def KeepsMaps (m : Conversion α) : Prop :=
  ∀ ⦃p x q⦄, m.Ok p x q → q.maps = p.maps

theorem Steady.keepsMaps {m : Conversion α} (h : Steady m) : KeepsMaps m :=
  fun _ _ _ hok => congrArg Progress.maps (h hok)

theorem MakesNew.keepsMaps {m : Conversion EsNode} (h : MakesNew m) : KeepsMaps m :=
  fun _ _ _ hok => (h hok).1

theorem KeepsMaps.map {m : Conversion α} (h : KeepsMaps m) (f : α → β) : KeepsMaps (f <$> m) := by
  intro p y q hok
  obtain ⟨x, hx, rfl⟩ := ok_map.mp hok
  exact h hx

/-- A conversion has no results. -/
def Fails (m : Conversion α) : Prop :=
  ∀ ⦃p x q⦄, ¬ m.Ok p x q

theorem Fails.bind {m : Conversion α} (h : Fails m) (f : α → Conversion β) : Fails (m >>= f) := by
  intro p y q hok
  obtain ⟨x, r, hx, -⟩ := ok_bind.mp hok
  exact h hx

theorem Fails.keepsMaps {m : Conversion α} (h : Fails m) : KeepsMaps m :=
  fun _ _ _ hok => (h hok).elim

/-- A node does not have the parts that are asked for. -/
theorem fails_parts {s : Source} {pool : Pool} {i : NodeId} {n : Node}
    (h : s.arena.data? pool n = none) : Fails (s.parts pool i n) := by
  intro p d q hok
  rw [(Source.ok_parts.mp hok).1] at h
  cases h

end Conversion

namespace Converter

variable (c : Converter) (i : NodeId) (n : Node)

/-- A node with the parts of a file has no others. -/
theorem fails_parts_of_sourceFile (hpool : n.pool = some .sourceFile) {p : Pool}
    (hp : p ≠ .sourceFile) : Fails (c.parts p i n) := by
  refine fails_parts ?_
  rw [Arena.data?, if_neg]
  rw [hpool]
  exact fun h => hp (Option.some.inj h).symm

/-- A kind outside the vocabulary has no parts of a file to go down to. -/
theorem keepsMaps_synthesize (hpool : n.pool = some .sourceFile) :
    KeepsMaps (c.synthesize i n) := by
  cases hentry : n.kind.tableEntry? with
  | none => exact (c.makesNew_synthesize i n hentry).keepsMaps
  | some entry =>
    have hparts := c.fails_parts_of_sourceFile i n hpool (n.kind.rote_agrees.2 entry hentry).2
    rw [synthesize]
    split
    · exact fun p es q hok => absurd hok (not_ok_fail _ es)
    · rw [hentry]
      intro p es q hok
      obtain ⟨draft, r, -, hok⟩ := ok_bind.mp hok
      exact (hparts.bind _ hok).elim

/-- The kinds whose rules read nothing but the text of the node. -/
def textual : List SyntaxKind :=
  [.numericLiteral, .bigIntLiteral, .regularExpressionLiteral, .trueKeyword, .falseKeyword,
    .nullKeyword, .jsxText, .jsxTextAllWhiteSpaces]

/-- Whatever is read off more than its text has parts, and its rule reads them first. -/
theorem exists_parts_of_ownRule {rule : Conversion (Option EsNode)} (hkind : n.kind ≠ .sourceFile)
    (htext : n.kind ∉ textual) (hrule : c.ownRule? i n = some rule) :
    ∃ p, p ≠ .sourceFile ∧ ∃ f, rule = c.parts p i n >>= f := by
  simp only [textual, List.mem_cons, List.not_mem_nil, or_false, not_or] at htext
  obtain ⟨_, _, _, _, _, _, _, _⟩ := htext
  rw [ownRule?] at hrule
  split at hrule
  all_goals first
    | contradiction
    | cases hrule
  all_goals first
    | exact ⟨_, by decide, _, map_bind ..⟩
    | exact ⟨_, by decide, _, rfl⟩
    -- An element that closes itself has the parts of its tag.
    | exact ⟨.jsxOpening, by decide, _,
        by rw [selfClosingElement, openingTag, bind_assoc, map_bind]⟩

/-- **A node with the parts of a file, but of another kind, has no children** that a rule would go
to. -/
theorem keepsMaps_visit (hpool : n.pool = some .sourceFile) (hkind : n.kind ≠ .sourceFile) :
    KeepsMaps (c.visit i n) := by
  have hparts {p : Pool} (hp : p ≠ .sourceFile) : Fails (c.parts p i n) :=
    c.fails_parts_of_sourceFile i n hpool hp
  by_cases htoken : n.kind.isToken = true ∧ n.kind ≠ .endOfFileToken
  · obtain ⟨m, hvisit, hm⟩ := c.visit_of_isToken i n htoken.1 htoken.2
    rw [hvisit]
    exact hm.keepsMaps.map _
  have htokens : ∀ k ∈ textual, k.isToken = true ∧ k ≠ .endOfFileToken := by decide
  rw [visit]
  split
  · exact (steady_pure _).keepsMaps
  split
  · exact (makesNew_build ..).keepsMaps.map _
  split
  · next r hr =>
    exact ((hparts (n.kind.rote_agrees.1 r hr).2).bind _).keepsMaps.map _
  split
  · next rule hrule =>
    obtain ⟨p, hp, f, rfl⟩ :=
      c.exists_parts_of_ownRule i n hkind (fun htext => htoken (htokens _ htext)) hrule
    exact ((hparts hp).bind f).keepsMaps
  · exact (c.keepsMaps_synthesize i n hpool).map _

end Converter

/-! ### The root -/

namespace Source

variable {s : Source}

/-- When the root of a file is recorded, neither the root nor what it has become has a partner,
unless the root lies below itself. -/
theorem free_of_ok_program {i : NodeId} {n : Node} (hn : s.arena.nodes[i]? = some n)
    (hcycle : ¬ Relation.TransGen s.arena.IsChild i i) {depth : Nat} {es : EsNode} {q : Progress}
    (h : Ok ((s.along (s.ways depth)).program i n) {} es q) :
    ∀ x ∈ q.maps.pairs, x.1 ≠ some i ∧ x.2 ≠ es.head.id := by
  -- All that is recorded before the root is properly below it.
  let T := s.ledger (Relation.TransGen s.arena.IsChild i) False (fun h hj => h.trans hj.below)
    (fun h => h.elim)
  have hdescents : T.Descents (s.ways depth) (s.ways depth) := T.descents_ways (fun _ => trivial) depth
  rw [Converter.program] at h
  obtain ⟨d, r, hparts, h⟩ := ok_bind.mp h
  obtain ⟨hd, rfl⟩ := ok_parts.mp hparts
  obtain ⟨index, r, htokens, h⟩ := ok_bind.mp h
  obtain ⟨-, rfl⟩ := ok_tokens.mp htokens
  obtain ⟨body, r, hbody, h⟩ := ok_bind.mp h
  obtain ⟨-, rfl, rfl⟩ := ok_buildAt.mp h
  have hnear : T.AllNear (d.get .statements).nodes := by
    rintro statement hstatement j rfl
    have hfield : Field.statements ∈ Pool.childFields n.kind .sourceFile :=
      Pool.mem_childFields (by decide) (by decide) n.kind
    refine .single (Arena.isChild_of_mem_refs hn hd hfield ?_)
    rw [d.refs_eq]
    exact List.mem_append_right _ (List.mem_filterMap.mpr ⟨_, hstatement, rfl⟩)
  obtain ⟨held, -, r', -, ⟨rfl, hr⟩, -⟩ := (hdescents.statements hnear).ok id ⟨rfl, .start⟩ hbody
  intro x hx
  obtain ⟨j, hj, hbelow⟩ := hr.near x hx
  refine ⟨fun heq => ?_, fun heq => Nat.ne_of_lt (hr.sound x hx) (heq.trans (id_fill _ _))⟩
  rw [hj] at heq
  cases heq
  exact hcycle hbelow

/-- **The root of a file is recorded for what it has become**, unless it lies below itself. -/
theorem normalizedOf?_root {i : NodeId} {d : Data .sourceFile}
    (hfile : s.arena.sourceFile? (some i) = some d)
    (hmaps : s.options.provideCorrespondenceMaps = true)
    (hcycle : ¬ Relation.TransGen s.arena.IsChild i i) {es : EsNode} {q : Progress}
    (h : Ok (s.convert (some i)) {} (some es) q) :
    q.maps.normalizedOf? (some i) = some es.head.id := by
  obtain ⟨w, n, q', rfl, hn, hvisit, hregister⟩ := exists_ok_visit h
  have hfree : ∀ x ∈ q'.maps.pairs, x.1 ≠ some i ∧ x.2 ≠ es.head.id := by
    by_cases hkind : n.kind = .sourceFile
    · rw [Converter.visit_eq_program _ hkind] at hvisit
      obtain ⟨es', hprogram, hes⟩ := ok_map.mp hvisit
      cases hes
      exact free_of_ok_program hn hcycle hprogram
    · -- Any other kind of node with the parts of a file does not go down.
      have hpool : n.pool = some .sourceFile := by
        rw [Arena.sourceFile?, Arena.dataAt?, Arena.node?_some, hn] at hfile
        exact Arena.pool_of_data? hfile
      rw [Converter.keepsMaps_visit _ i n hpool hkind hvisit]
      exact fun _ h => absurd h List.not_mem_nil
  rw [ok_register, if_pos hmaps] at hregister
  rw [hregister]
  exact NodeMaps.normalizedOf?_register_of_free (fun x hx => (hfree x hx).1)
    fun x hx => (hfree x hx).2

/-- **What is recorded relates nodes of the tree to nodes below the root**, if variables and
parameters have plain names. -/
theorem recorded_of_ok {r : NodeRef} (hplain : s.arena.HasPlainNames r) {es : EsNode}
    {q : Progress} (h : Ok (s.convert r) {} (some es) q) :
    ∀ x ∈ q.maps.pairs, x.2 ∈ es.walk.map EsHead.id ∧ ∃ i, x.1 = some i ∧ s.arena.Reaches r i := by
  obtain ⟨held, hq, hes⟩ := accounts_of_ok_reaches h
  refine fun x hx => ⟨?_, hq.near x hx⟩
  have hid : x.2 ∈ (es.walk.map EsHead.id : Multiset Nat) := by
    rw [EsValue.coe_walk_ids, hes.eq hplain, hq.eq hplain]
    exact Multiset.mem_range.mpr (hq.sound x hx)
  exact Multiset.mem_coe.mp hid

end Source

/-! ### Documents -/

namespace Document

/-- The two tables are each other's inverse after all calls, and a pair stays as long as nothing is
thrown away. **What a document's conversion records relates nodes of the program to nodes below the
root**, if variables and parameters have plain names, and the root to the program, unless the root
lies below itself. -/
theorem correspondence :
    (∀ calls, (NodeMaps.empty.run calls).IsBijective ∧ ∀ later, .reset ∉ later →
      (NodeMaps.empty.run calls).Extends ((NodeMaps.empty.run calls).run later)) ∧
    ∀ (doc : Document) (options : ConvertOptions) (program : Program) (maps : NodeMaps),
      options.provideCorrespondenceMaps = true → doc.arena.HasPlainNames doc.root →
      doc.convert options = (.ok program, maps) →
        (∀ x ∈ maps.pairs, x.2 ∈ program.node.walk.map EsHead.id ∧
          ∃ i, x.1 = some i ∧ doc.arena.Reaches doc.root i) ∧
        ∀ i, doc.root = some i → ¬ Relation.TransGen doc.arena.IsChild i i →
          maps.normalizedOf? (some i) = some program.node.head.id := by
  refine ⟨fun calls => ⟨NodeMaps.isBijective_run calls, fun later => NodeMaps.extends_run⟩, ?_⟩
  intro doc options program maps hmaps hplain h
  obtain ⟨file, q, hfile, hwritten, rfl⟩ := exists_written h
  have hplain' : (doc.source file options).arena.HasPlainNames doc.root := hplain
  refine ⟨Source.recorded_of_ok hplain' hwritten.node, fun i hi hcycle => ?_⟩
  have hnode : Ok ((doc.source file options).convert (some i)) {} (some program.node) q :=
    hi ▸ hwritten.node
  exact Source.normalizedOf?_root (s := doc.source file options) (hi ▸ hfile) hmaps hcycle hnode

/-! ### A root below itself -/

/-- The document of `a` in which an empty tag bears the name of the whole file. -/
def tagNamedAfterFile : Document where
  arena := {
    nodes := #[
      { kind := .jsxSelfClosingElement, pos := 0, stop := 1, pool := some .jsxOpening
        dataIndex := 0 },
      { kind := .expressionStatement, pos := 0, stop := 1, pool := some .exprStatement
        dataIndex := 0 },
      { kind := .sourceFile, pos := 0, stop := 1, pool := some .sourceFile, dataIndex := 0 }]
    parents := #[some 1, some 2, some 0]
    pools := fun
      | .jsxOpening => #[⟨some 2, none, none, ()⟩]
      | .exprStatement => #[⟨some 0, ()⟩]
      | .sourceFile => #[⟨⟨[some 1], 0, 1, false⟩, none, "input.tsx", "a", .latest, false, [], ()⟩]
      | _ => #[] }
  root := some 2

/-- The file has become the name of the tag, and not the program. -/
theorem tagNamedAfterFile_root : ∃ program maps,
    tagNamedAfterFile.convert { provideCorrespondenceMaps := true } = (.ok program, maps) ∧
      tagNamedAfterFile.arena.HasPlainNames tagNamedAfterFile.root ∧
      tagNamedAfterFile.root = some 2 ∧ maps.normalizedOf? (some 2) = some 0 ∧
      program.node.head.id = 4 := by
  have hok : (tagNamedAfterFile.convert { provideCorrespondenceMaps := true }).1.toOption.map
      (fun p => p.node.head.id) = some 4 ∧
      (tagNamedAfterFile.convert { provideCorrespondenceMaps := true }).2.normalizedOf? (some 2) =
        some 0 := by
    decide +kernel
  rcases hrun : tagNamedAfterFile.convert { provideCorrespondenceMaps := true } with
    ⟨_ | program, maps⟩
  · rw [hrun] at hok
    cases hok.1
  · rw [hrun] at hok
    refine ⟨program, maps, rfl, ?_, rfl, hok.2, Option.some.inj hok.1⟩
    exact Arena.hasPlainNames_of_forall (by decide) _

/-- A pair that is thrown away, and then two pairs, with two calls in between that meet a node with a
partner. -/
def busyCalls : List NodeMaps.Call :=
  [.register (some 4) 8, .reset, .register (some 1) 0, .register (some 1) 5, .register (some 2) 0,
    .register (some 2) 3]

/-- After these calls the tables hold two pairs, and they stay when there is another call. In the
document of `let a: any` the root does not lie below itself, and is recorded for the program. -/
theorem invertedLet_correspondence :
    ((NodeMaps.empty.run busyCalls).IsBijective ∧
      (NodeMaps.empty.run busyCalls).pairs = [(some 2, 3), (some 1, 0)] ∧
      (NodeMaps.empty.run busyCalls).Extends
        ((NodeMaps.empty.run busyCalls).run [.register (some 4) 0])) ∧
    ∃ program maps, invertedLet.convert .full = (.ok program, maps) ∧
      (∀ x ∈ maps.pairs, x.2 ∈ program.node.walk.map EsHead.id) ∧
      maps.normalizedOf? (some 6) = some program.node.head.id := by
  obtain ⟨hbijective, hextends⟩ := correspondence.1 busyCalls
  refine ⟨⟨hbijective, rfl, hextends _ (by simp)⟩, ?_⟩
  have hplain : invertedLet.arena.HasPlainNames invertedLet.root :=
    Arena.hasPlainNames_of_forall (by decide) _
  have hcycle : ¬ Relation.TransGen invertedLet.arena.IsChild 6 6 := by
    intro hpath
    obtain ⟨i, -, hi⟩ := Relation.TransGen.tail'_iff.mp hpath
    have hnone : ∀ i < 7, ¬ invertedLet.arena.IsChild i 6 := by decide
    exact hnone i (Arena.lt_size_of_isChild hi) hi
  obtain ⟨program, maps, hrun, -⟩ := invertedLet_convert
  obtain ⟨hrecorded, hroot⟩ := correspondence.2 invertedLet .full program maps rfl hplain hrun
  exact ⟨program, maps, hrun, fun x hx => (hrecorded x hx).1, hroot 6 rfl hcycle⟩

end Document

end ScriptTree
