import ScriptTree.Proofs.Convert.Tandem.Class
import ScriptTree.Proofs.Convert.Tandem.Declaration
import ScriptTree.Proofs.Convert.Tandem.Expression

/-!
# The whole conversion in tandem

Every rule is in tandem with itself (`ScriptTree.Tie.Descents.visit`), so a converter that goes down
one step further has ways down in tandem if the one below it has
(`ScriptTree.Tie.descents_ways`). There is nothing to show for how far it goes.
-/

namespace ScriptTree

open Holding

variable {M : Type} [AddCommMonoid M]

/-- A node that is nothing but its range is no text between tags. -/
theorem SyntaxKind.bareType_ne {kind : SyntaxKind} {type : AstType}
    (h : kind.bareType? = some type) : type ≠ .jsxText := by
  have hall : ∀ k ∈ all, ∀ type ∈ k.bareType?, type ≠ .jsxText := by decide +kernel
  exact hall kind kind.mem_all type h

namespace Converter

/-- Whether a kind has a rule of its own does not depend on the converter. -/
theorem isSome_ownRule? (c c' : Converter) {i : NodeId} {n : Node}
    {rule : Conversion (Option EsNode)} (h : c.ownRule? i n = some rule) :
    (c'.ownRule? i n).isSome = true := by
  rw [ownRule?] at h
  split at h
  all_goals first
    | (next hk => rw [ownRule?, hk]; rfl)
    | cases h

/-- What is made of a name or a pattern has no other fields than names have. -/
theorem yields_visit_of_isBindingName (c : Converter) {i : NodeId} {n : Node}
    (h : n.kind.isBindingName = true) : Conversion.Yields (c.visit i n) fun x =>
      ∀ es ∈ x, (Draft.reopen es).keys ⊆ EsProps.ofNames := by
  have hkinds : ∀ k ∈ SyntaxKind.all, k.isBindingName = true → k.isElided = false ∧
      k.bareType? = none ∧ ∃ r ∈ k.recipe?,
        r.later = [] ∧ ∀ key ∈ r.parts.map Prod.fst, key ∈ EsProps.ofNames := by
    decide +kernel
  obtain ⟨helided, hbare, r, hr, hlater, hkeys⟩ := hkinds n.kind n.kind.mem_all h
  rw [visit, helided, if_neg Bool.false_ne_true, hbare, show n.kind.recipe? = some r from hr]
  refine Conversion.Yields.map (Conversion.yields_parts fun d _ => ?_)
  refine (c.yields_gather n d r.parts).bind fun fields hfields => ?_
  refine (Conversion.yields_start _ n.pos n.stop).bind ?_
  rintro _ ⟨id, rfl⟩
  refine (c.yields_gather n d r.later).bind fun later hlater' => Conversion.Yields.pure ?_
  rintro _ ⟨⟩ key hkey
  refine hkeys key ?_
  rw [hlater, List.map_nil, List.map_eq_nil_iff] at hlater'
  rw [hlater', List.append_nil] at hkey
  exact hfields ▸ (Draft.mem_keys_fill hkey).resolve_left List.not_mem_nil

/-- What is made of a plain name has no other fields than names have. -/
theorem yields_visitAt_of_isPlainName (c : Converter) {r : NodeRef} (h : c.arena.IsPlainName r) :
    Conversion.Yields (c.visitAt r) fun x =>
      ∀ es ∈ x, (Draft.reopen es).keys ⊆ EsProps.ofNames := by
  cases r with
  | none => exact Conversion.Yields.pure fun _ h => absurd h (Option.not_mem_none _)
  | some i =>
    rw [Converter.visitAt]
    split
    · exact Conversion.Yields.pure fun _ h => absurd h (Option.not_mem_none _)
    · next n hn =>
      have hname : n.kind.isBindingName = true := h n.kind (Option.map_eq_some_iff.mpr ⟨n, hn, rfl⟩)
      refine (c.yields_visit_of_isBindingName hname).bind fun x hx => ?_
      cases x with
      | none => exact Conversion.Yields.pure hx
      | some es => exact (Conversion.Yields.trivial _).bind fun _ _ => Conversion.Yields.pure hx

end Converter

namespace Tie

variable {s : Source} {o : ConvertOptions} {T : Tie M s o} {w w' : WaysDown} {i : NodeId} {n : Node}

namespace Descents

/-! ### The rules -/

theorem passThrough (hw : T.Descents w w') (hi : T.Around i n) {p : Pool}
    (hf : Field.expression ∈ p.layout) (hp : p ≠ .loop ∧ p ≠ .binary) :
    T.Tandem 0 ((T.left w).passThrough p i n) ((T.right w').passThrough p i n) (opt T.nodes) := by
  refine Tandem.parts fun d hd => ?_
  exact hw.convert (hi.nodeAt hd hp.2 (Pool.mem_childFields hp.1 hf n.kind))

theorem program (hw : T.Descents w w') (hi : T.Around i n) :
    T.Tandem 0 ((T.left w).program i n) ((T.right w').program i n) T.nodes := by
  refine Tandem.parts fun d hd => ?_
  refine Tandem.tokens fun index _ => ?_
  refine Tandem.step (hw.statements (hi.list hd .statements rfl)) fun a _ _ hbody => ?_
  refine Tandem.buildAt (field hbody (plain ?_ .nil)) rfl (by abel)
  split <;> rfl

theorem ownRule (hw : T.Descents w w') (hi : T.Around i n) {m : Conversion (Option EsNode)}
    (hm : (T.left w).ownRule? i n = some m) :
    ∃ m', (T.right w').ownRule? i n = some m' ∧ T.Tandem 0 m m' (opt T.nodes) := by
  have plain {m m' : Conversion EsNode} (h : T.Tandem 0 m m' T.nodes)
      (hm' : (T.right w').ownRule? i n = some (some <$> m')) :
      ∃ m', (T.right w').ownRule? i n = some m' ∧ T.Tandem 0 (some <$> m) m' (opt T.nodes) :=
    ⟨_, hm', Tandem.map h⟩
  -- One case for each rule, in the order in which the rules are listed.
  rw [Converter.ownRule?] at hm
  split at hm
  all_goals cases hm
  · next hk => exact plain (hw.program hi) (by rw [Converter.ownRule?, hk])
  · next hk => exact plain tandem_privateName (by rw [Converter.ownRule?, hk]; rfl)
  · next hk => exact plain tandem_stringLiteral (by rw [Converter.ownRule?, hk]; rfl)
  · next hk => exact plain tandem_numericLiteral (by rw [Converter.ownRule?, hk]; rfl)
  · next hk => exact plain tandem_bigIntLiteral (by rw [Converter.ownRule?, hk]; rfl)
  · next hk => exact plain (tandem_regexLiteral hi hk) (by rw [Converter.ownRule?, hk]; rfl)
  · next hk =>
    exact plain (tandem_plainTemplate hi (by rw [hk]; rfl)) (by rw [Converter.ownRule?, hk]; rfl)
  · next hk =>
    exact plain (tandem_templatePiece hi (by rw [hk]; rfl)) (by rw [Converter.ownRule?, hk]; rfl)
  · next hk =>
    exact plain (tandem_templatePiece hi (by rw [hk]; rfl)) (by rw [Converter.ownRule?, hk]; rfl)
  · next hk =>
    exact plain (tandem_templatePiece hi (by rw [hk]; rfl)) (by rw [Converter.ownRule?, hk]; rfl)
  · next hk => exact plain tandem_booleanLiteral (by rw [Converter.ownRule?, hk]; rfl)
  · next hk => exact plain tandem_booleanLiteral (by rw [Converter.ownRule?, hk]; rfl)
  · next hk => exact plain tandem_nullLiteral (by rw [Converter.ownRule?, hk]; rfl)
  · next hk => exact plain (tandem_markupText hi (.inl hk)) (by rw [Converter.ownRule?, hk]; rfl)
  · next hk => exact plain (tandem_markupText hi (.inr hk)) (by rw [Converter.ownRule?, hk]; rfl)
  · next hk =>
    exact ⟨_, by rw [Converter.ownRule?, hk], hw.passThrough hi (by decide) (by decide)⟩
  · next hk =>
    exact ⟨_, by rw [Converter.ownRule?, hk], hw.passThrough hi (by decide) (by decide)⟩
  · next hk => exact plain (hw.template hi) (by rw [Converter.ownRule?, hk])
  · next hk => exact plain (hw.taggedTemplate hi) (by rw [Converter.ownRule?, hk])
  · next hk => exact plain (hw.binary hi hk) (by rw [Converter.ownRule?, hk])
  · next hk => exact plain (hw.unary hi) (by rw [Converter.ownRule?, hk])
  · next hk => exact plain (hw.unary hi) (by rw [Converter.ownRule?, hk])
  · next hk => exact plain (hw.metaProperty hi hk) (by rw [Converter.ownRule?, hk])
  · next hk => exact plain (hw.arrayLiteral hi) (by rw [Converter.ownRule?, hk])
  · next hk => exact plain (hw.objectLiteral hi) (by rw [Converter.ownRule?, hk])
  · next hk => exact plain (hw.shorthandProperty hi) (by rw [Converter.ownRule?, hk])
  · next hk => exact plain (hw.spread hi) (by rw [Converter.ownRule?, hk])
  · next hk => exact plain (hw.spread hi) (by rw [Converter.ownRule?, hk])
  · next hk => exact ⟨_, by rw [Converter.ownRule?, hk], hw.bindingElement hi⟩
  · next hk => exact plain (hw.variableStatement hi) (by rw [Converter.ownRule?, hk])
  · next hk => exact plain (hw.declarator hi hk) (by rw [Converter.ownRule?, hk])
  · next hk => exact plain (hw.functionDeclaration hi hk) (by rw [Converter.ownRule?, hk])
  · next hk => exact ⟨_, by rw [Converter.ownRule?, hk], hw.parameter hi hk⟩
  · next hk => exact plain (hw.classLike hi) (by rw [Converter.ownRule?, hk])
  · next hk => exact plain (hw.classLike hi) (by rw [Converter.ownRule?, hk])
  · next hk => exact plain (hw.classProperty hi) (by rw [Converter.ownRule?, hk])
  · next hk => exact plain (hw.method hi) (by rw [Converter.ownRule?, hk])
  · next hk => exact plain (hw.method hi) (by rw [Converter.ownRule?, hk])
  · next hk => exact plain (hw.method hi) (by rw [Converter.ownRule?, hk])
  · next hk => exact plain (hw.constructorMethod hi) (by rw [Converter.ownRule?, hk])
  · next hk => exact plain (hw.switch hi) (by rw [Converter.ownRule?, hk])
  · next hk => exact plain (hw.catchClause hi) (by rw [Converter.ownRule?, hk])
  · next hk => exact plain (hw.importDeclaration hi) (by rw [Converter.ownRule?, hk])
  · next hk => exact plain (hw.importSpecifier hi) (by rw [Converter.ownRule?, hk])
  · next hk => exact plain (hw.exportDeclaration hi) (by rw [Converter.ownRule?, hk])
  · next hk => exact plain (hw.exportSpecifier hi) (by rw [Converter.ownRule?, hk])
  · next hk => exact plain (hw.exportAssignment hi) (by rw [Converter.ownRule?, hk])
  · next hk => exact plain (hw.typeAlias hi) (by rw [Converter.ownRule?, hk])
  · next hk => exact plain (hw.typePredicate hi) (by rw [Converter.ownRule?, hk])
  · next hk => exact plain (hw.interface hi) (by rw [Converter.ownRule?, hk])
  · next hk => exact plain (hw.enumeration hi) (by rw [Converter.ownRule?, hk])
  · next hk => exact plain (hw.moduleDeclaration hi) (by rw [Converter.ownRule?, hk])
  · next hk => exact plain (hw.selfClosingElement hi) (by rw [Converter.ownRule?, hk])
  · next hk => exact plain (hw.openingTag hi false) (by rw [Converter.ownRule?, hk])
  · next hk => exact plain (hw.markupAttribute hi) (by rw [Converter.ownRule?, hk])
  · next hk => exact plain (hw.markupExpression hi) (by rw [Converter.ownRule?, hk])

/-- **Every rule is in tandem with itself.** -/
theorem visit (hw : T.Descents w w') (hi : T.Around i n) :
    T.Tandem 0 ((T.left w).visit i n) ((T.right w').visit i n) (opt T.nodes) := by
  rw [Converter.visit, Converter.visit]
  refine Tandem.ite (fun _ => Tandem.pure opt_none) fun _ => ?_
  cases hbare : n.kind.bareType? with
  | some type =>
    exact Tandem.map (Tandem.build .nil
      (decide_eq_true ⟨SyntaxKind.bareType_ne hbare, of_decide_eq_true rfl⟩) rfl)
  | none =>
    cases hrecipe : n.kind.recipe? with
    | some r =>
      exact Tandem.map ((hw.follow hi (Recipe.suits_of_recipe? hrecipe)).mono
        fun _ _ _ hes => hes.1)
    | none =>
      dsimp only
      cases hm : (T.left w).ownRule? i n with
      | some m =>
        obtain ⟨m', hm', htandem⟩ := hw.ownRule hi hm
        rw [hm']
        exact htandem
      | none =>
        cases hm' : (T.right w').ownRule? i n with
        | some m' =>
          have hsome := (T.right w').isSome_ownRule? (T.left w) hm'
          rw [hm] at hsome
          cases hsome
        | none => exact Tandem.map (hw.synthesize hi)

/-! ### Going down -/

theorem visitAt (hw : T.Descents w w') {r : NodeRef} (hr : T.Enters r) :
    T.Tandem 0 ((T.left w).visitAt r) ((T.right w').visitAt r) (opt T.nodes) := by
  cases r with
  | none => exact Tandem.pure opt_none
  | some i =>
    simp only [Converter.visitAt, Source.toSource_along, Source.node?_withOptions]
    cases hn : s.node? (some i) with
    | none => exact Tandem.pure opt_none
    | some n =>
      have hi := hr i n rfl hn
      refine Tandem.bind (hw.visit hi) fun a x x' hx => ?_
      obtain ⟨rfl, rfl, rfl⟩ | ⟨es, es', rfl, rfl, hes⟩ := hx.cases
      · exact Tandem.pure opt_none
      · exact Tandem.register hi.here hes (Tandem.pure hes)

/-- A type argument is converted by the rule of its node, or else its parts are taken over. -/
theorem typeArgumentOf (hw : T.Descents w w') {r : NodeRef} (hr : T.Enters r)
    (hconvert : T.Tandem 0 (w.convert r) (w'.convert r) (opt T.nodes)) :
    T.Tandem 0 ((T.left w).typeArgumentOf r) ((T.right w').typeArgumentOf r) T.values := by
  cases r with
  | none => exact Tandem.pure T.null
  | some i =>
    simp only [Converter.typeArgumentOf, Source.toSource_along, Source.node?_withOptions]
    cases hn : s.node? (some i) with
    | none => exact Tandem.pure T.null
    | some n =>
      -- Either way the node is built in the same manner of a name and arguments.
      have hreference {a b : M} {name name' : EsValue} {arguments arguments' : Option EsNode}
          (hname : T.values a name name') (harguments : opt T.nodes b arguments arguments') :
          T.Tandem (a + b)
            (do
              let reference ← (T.left w).build .tsTypeReference n
                [("typeName", name), ("typeParameters", arguments)]
              pure reference.toValue)
            (do
              let reference ← (T.right w').build .tsTypeReference n
                [("typeName", name'), ("typeParameters", arguments')]
              pure reference.toValue) T.values :=
        Tandem.bind (Tandem.build (field hname (field (opt_lift harguments) .nil)) rfl (by abel))
          fun _ _ _ hes => Tandem.pure hes
      have hchild : T.Tandem 0 ((T.left w).child (some i)) ((T.right w').child (some i)) T.values :=
        Tandem.map (hconvert.mono fun _ _ _ hx => ofNode? hx)
      refine Tandem.ite (fun _ => hchild) fun _ => ?_
      have hdata : (s.withOptions o).arena.data? .typeRef n = s.arena.data? .typeRef n := rfl
      rw [hdata]
      cases hd : s.arena.data? .typeRef n with
      | none =>
        refine Tandem.step hchild fun a _ _ hname => ?_
        exact Tandem.cast (hreference hname opt_none) (by abel)
      | some d =>
        have hi := hr i n rfl hn
        refine Tandem.step (hw.child (hi.child hd .typeName rfl)) fun a _ _ hname => ?_
        refine Tandem.step (hw.typeArguments? (hi.bracketed hd .typeArguments rfl rfl))
          fun b _ _ harguments => ?_
        exact Tandem.cast (hreference hname harguments) (by abel)

end Descents

end Tie

/-- The rule of a file makes the program. -/
theorem Converter.visit_eq_program (c : Converter) {i : NodeId} {n : Node}
    (hkind : n.kind = .sourceFile) : c.visit i n = some <$> c.program i n := by
  rw [visit, ownRule?, hkind]
  rfl

/-! ### Tying the knot -/

namespace Source

open Conversion

/-- The ways of a converter that goes down once and takes the given ways from there on. -/
def onwards (s : Source) (w : WaysDown) : WaysDown :=
  let below := s.along w
  let here := { below with convert := below.visitAt }
  ⟨below.visitAt, here.typeArgumentOf, below.tagNameOf⟩

/-- The ways of the converter that goes down so many times. -/
def ways (s : Source) : (depth : Nat) → WaysDown
  | 0 => ⟨fun _ => throw .endless, fun _ => throw .endless, fun _ => throw .endless⟩
  | depth + 1 => s.onwards (s.ways depth)

/-- Every converter goes down in these ways. -/
theorem converter_eq (s : Source) (depth : Nat) : s.converter depth = s.along (s.ways depth) := by
  induction depth with
  | zero => rfl
  | succ depth ih =>
    rw [converter, ih]
    rfl

variable {s : Source}

/-- A node is recorded after it was converted. -/
theorem exists_ok_visit {i : NodeId} {es : EsNode} {p q : Progress}
    (h : Ok (s.convert (some i)) p (some es) q) :
    ∃ w : WaysDown, ∃ n q', w = s.ways (s.arena.nodes.size + 1) ∧ s.arena.nodes[i]? = some n ∧
      Ok ((s.along w).visit i n) p (some es) q' ∧ Ok (s.register (some i) es) q' () q := by
  rw [convert, converter_eq] at h
  change Ok ((s.along (s.ways (s.arena.nodes.size + 1))).visitAt (some i)) p (some es) q at h
  rw [Converter.visitAt] at h
  split at h
  · obtain ⟨hes, -⟩ := ok_pure.mp h
    cases hes
  · next n hn =>
    obtain ⟨x, q', hvisit, h⟩ := ok_bind.mp h
    cases x with
    | none =>
      obtain ⟨hes, -⟩ := ok_pure.mp h
      cases hes
    | some es' =>
      obtain ⟨_, r, hregister, h⟩ := ok_bind.mp h
      obtain ⟨hes, rfl⟩ := ok_pure.mp h
      cases hes
      exact ⟨_, n, q', rfl, hn, hvisit, hregister⟩

end Source

namespace Tie

variable {s : Source} {o : ConvertOptions} {T : Tie M s o} {w w' : WaysDown}

/-- Plain names have no other fields than names do, whatever a converter does further down. -/
theorem yields_onwards (T : Tie M s o) (w : WaysDown) {r : NodeRef}
    (hplain : T.exact → s.arena.IsPlainName r) :
    Conversion.Yields ((s.onwards w).convert r) fun x =>
      T.exact → ∀ es ∈ x, (Draft.reopen es).keys ⊆ EsProps.ofNames :=
  fun _ _ _ hok hexact => (s.along w).yields_visitAt_of_isPlainName (hplain hexact) hok

/-- **One step down**: the conversions of a node, in either way, if they go on in tandem. -/
theorem Descents.enter (hw : T.Descents w w') {r : NodeRef} (hr : T.Enters r) :
    T.Tandem 0 ((s.onwards w).convert r) (((s.withOptions o).onwards w').convert r)
        (opt T.nodes) ∧
      T.Tandem 0 ((s.onwards w).typeArgument r) (((s.withOptions o).onwards w').typeArgument r)
        T.values ∧
      T.Tandem 0 ((s.onwards w).tagName r) (((s.withOptions o).onwards w').tagName r)
        T.values := by
  have hhere : T.Descents { w with convert := (T.left w).visitAt }
      { w' with convert := (T.right w').visitAt } :=
    ⟨fun hr => hw.visitAt hr.enters, hw.typeArgument, hw.tagName, T.yields_onwards w⟩
  exact ⟨hw.visitAt hr, hhere.typeArgumentOf hr (hw.visitAt hr), hw.tagNameOf hr⟩

/-- **All ways down are in tandem**, if both conversions may find that there is no end to them. -/
theorem descents_ways (T : Tie M s o) (hendless : ∀ q, T.breaks.both .endless q) (depth : Nat) :
    T.Descents (s.ways depth) ((s.withOptions o).ways depth) := by
  induction depth with
  | zero =>
    exact ⟨fun _ => Tandem.throw hendless, fun _ => Tandem.throw hendless,
      fun _ => Tandem.throw hendless, fun _ => Conversion.Yields.throw⟩
  | succ depth ih =>
    exact ⟨fun hr => (ih.enter hr.enters).1, fun hr => (ih.enter hr.enters).2.1,
      fun hr => (ih.enter hr.enters).2.2, T.yields_onwards (s.ways depth)⟩

/-- **Two conversions of a node are in tandem**, if the node is to be converted. -/
theorem tandem_convert (T : Tie M s o) (hendless : ∀ q, T.breaks.both .endless q) {r : NodeRef}
    (hr : T.Nears r) :
    T.Tandem 0 (s.convert r) ((s.withOptions o).convert r) (opt T.nodes) := by
  have hsize : (s.withOptions o).arena.nodes.size = s.arena.nodes.size := rfl
  rw [Source.convert, Source.convert, hsize, Source.converter_eq, Source.converter_eq]
  exact (T.descents_ways hendless (s.arena.nodes.size + 2)).convert hr

end Tie

end ScriptTree
