import ScriptTree.Proofs.Convert.Leaves
import ScriptTree.Proofs.Convert.Records.Class
import ScriptTree.Proofs.Convert.Records.Declaration
import ScriptTree.Proofs.Convert.Records.Exchange
import ScriptTree.Proofs.Convert.Records.Expression
import ScriptTree.Proofs.Convert.Records.Markup

/-!
# What a conversion records on its way down

Every rule records what is found below its node (`ScriptTree.Converter.Faithful.visit`), so a
converter that goes down one step further is faithful if the one below it is
(`ScriptTree.Source.faithful_converter`). There is nothing to show for how far it goes: a converter
that has come to its end has no result.
-/

namespace ScriptTree

open Conversion

/-- Nodes of these kinds stand for another node, which may be a hole. -/
def SyntaxKind.standsForAnother : SyntaxKind → Bool
  | .computedPropertyName | .parenthesizedExpression | .parameter | .bindingElement => true
  | _ => false

/-- A node that neither is elided nor stands for another one is no hole. -/
theorem Arena.not_isHole {a : Arena} {i : NodeId} {n : Node} (hn : a.nodes[i]? = some n)
    (helided : n.kind.isElided = false) (hother : n.kind.standsForAnother = false) :
    ¬ a.IsHole (some i) := by
  rw [isHole_some_iff hn, helided]
  rintro (h | ⟨h, -⟩ | ⟨h, -⟩ | ⟨h, -⟩ | ⟨h, -⟩)
  · cases h
  all_goals
    rw [h] at hother
    cases hother

namespace Converter

variable (c : Converter) (i : NodeId) {n : Node}

/-- Only rules of their own make nothing, or what another node has become. -/
theorem exists_ownRule? (h : n.kind.standsForAnother = true) :
    n.kind.bareType? = none ∧ n.kind.recipe? = none ∧ (c.ownRule? i n).isSome = true := by
  unfold SyntaxKind.standsForAnother at h
  split at h
  all_goals first
    | (next hk => rw [ownRule?, hk]; exact ⟨rfl, rfl, rfl⟩)
    | cases h

/-- A kind without a rule of its own does not need its parts for one. -/
theorem ownPool?_eq_none (h : c.ownRule? i n = none) : n.kind.ownPool? = none := by
  unfold SyntaxKind.ownPool?
  split
  all_goals first
    | rfl
    | (next hk => rw [ownRule?, hk] at h; cases h)

end Converter

namespace Converter.Faithful

variable {c : Converter} {i : NodeId} {n : Node}

/-! ### The rules -/

/-- A node that stands for the expression inside of it. -/
theorem passThrough (hc : c.Faithful) {p : Pool} (hn : c.arena.nodes[i]? = some n)
    (hkept : Way.rule.kept n.kind p = [(.expression, .rule)])
    (hhole : ∀ d, c.arena.data? p n = some d →
      (c.arena.IsHole (some i) ↔ c.arena.IsHole (d.nodeAt .expression))) (k : Nat) :
    Records c.arena k (c.arena.Rest (.rule, i)) (c.passThrough p i n)
      (Outcome c.arena (some i)) := by
  refine records_parts fun d hd => ?_
  refine Records.of _ ((hc.convert _ k).mono fun x _ _ hx => ?_) fun l _ =>
    (Arena.hasNext_of_kept hn hd rfl hkept).trans (Arena.hasInSlot_child (d.refs_of_node rfl))
  exact ⟨hx.1.trans (hhole d hd).symm, hx.2⟩

theorem program (hc : c.Faithful) (hn : c.arena.nodes[i]? = some n) (hk : n.kind = .sourceFile)
    (k : Nat) : Records c.arena k (c.arena.Rest (.rule, i)) (c.program i n) IsIssued := by
  refine records_parts fun d hd => ?_
  have hkept : Way.rule.kept .sourceFile .sourceFile = [(.statements, .rule)] := rfl
  refine Records.of (c.arena.BelowAny .rule (d.get .statements).nodes) ?_ fun l _ =>
    (Arena.hasNext_of_kept hn hd hk hkept).trans (Arena.hasInSlot_children rfl)
  refine Records.quiet_bind (records_tokens c.toSource) fun _ k _ _ => ?_
  exact Records.bind_quiet (hc.statements _ k) fun _ _ _ _ => records_buildAt ..

theorem ownRule (hc : c.Faithful) (hn : c.arena.nodes[i]? = some n)
    (htoken : n.kind.isToken = false) {rule : Conversion (Option EsNode)}
    (hrule : c.ownRule? i n = some rule) (k : Nat) :
    Records c.arena k (c.arena.Rest (.rule, i)) rule (Outcome c.arena (some i)) := by
  have plain {m : Conversion EsNode} {kind : SyntaxKind} (hk : n.kind = kind)
      (h : Records c.arena k (c.arena.Rest (.rule, i)) m IsIssued)
      (helided : kind.isElided = false) (hother : kind.standsForAnother = false) :
      Records c.arena k (c.arena.Rest (.rule, i)) (some <$> m) (Outcome c.arena (some i)) :=
    Records.map (h.mono fun _ _ _ => .of_isIssued
      (Arena.not_isHole hn (hk ▸ helided) (hk ▸ hother)))
  rw [Converter.ownRule?] at hrule
  split at hrule
  -- The rules of tokens do not apply; the other cases are in the order of the rules.
  all_goals first
    | (next hk => exact absurd htoken (by rw [hk]; decide))
    | cases hrule
  · next hk => exact plain hk (hc.program hn hk k) rfl rfl
  · next hk =>
    refine hc.passThrough hn (by rw [hk]; rfl) (fun d hd => ?_) k
    rw [Arena.isHole_some_iff hn, hk]
    simp [SyntaxKind.isElided, hd]
    rfl
  · next hk =>
    refine hc.passThrough hn (by rw [hk]; rfl) (fun d hd => ?_) k
    rw [Arena.isHole_some_iff hn, hk]
    simp [SyntaxKind.isElided, hd]
    rfl
  · next hk => exact plain hk (hc.template hn hk k) rfl rfl
  · next hk => exact plain hk (hc.taggedTemplate hn hk k) rfl rfl
  · next hk => exact plain hk (hc.binary hn hk k) rfl rfl
  · next hk => exact plain hk (hc.unary hn (.inl hk) k) rfl rfl
  · next hk => exact plain hk (hc.unary hn (.inr hk) k) rfl rfl
  · next hk => exact plain hk (hc.metaProperty hn hk k) rfl rfl
  · next hk => exact plain hk (hc.arrayLiteral hn hk k) rfl rfl
  · next hk => exact plain hk (hc.objectLiteral hn hk k) rfl rfl
  · next hk => exact plain hk (hc.shorthandProperty hn hk k) rfl rfl
  · next hk => exact plain hk (hc.spread hn (.inl hk) k) rfl rfl
  · next hk => exact plain hk (hc.spread hn (.inr hk) k) rfl rfl
  · next hk => exact hc.bindingElement hn hk k
  · next hk => exact plain hk (hc.variableStatement hn hk k) rfl rfl
  · next hk => exact plain hk (hc.declarator hn hk k) rfl rfl
  · next hk => exact plain hk (hc.functionDeclaration hn hk k) rfl rfl
  · next hk => exact hc.parameter hn hk k
  · next hk => exact plain hk (hc.classLike hn (.inl hk) k) rfl rfl
  · next hk => exact plain hk (hc.classLike hn (.inr hk) k) rfl rfl
  · next hk => exact plain hk (hc.classProperty hn hk k) rfl rfl
  · next hk => exact plain hk (hc.method hn (.inl hk) k) rfl rfl
  · next hk => exact plain hk (hc.method hn (.inr (.inl hk)) k) rfl rfl
  · next hk => exact plain hk (hc.method hn (.inr (.inr hk)) k) rfl rfl
  · next hk => exact plain hk (hc.constructorMethod hn hk k) rfl rfl
  · next hk => exact plain hk (hc.switch hn hk k) rfl rfl
  · next hk => exact plain hk (hc.catchClause hn hk k) rfl rfl
  · next hk => exact plain hk (hc.importDeclaration hn hk k) rfl rfl
  · next hk => exact plain hk (hc.importSpecifier hn hk k) rfl rfl
  · next hk => exact plain hk (hc.exportDeclaration hn hk k) rfl rfl
  · next hk => exact plain hk (hc.exportSpecifier hn hk k) rfl rfl
  · next hk => exact plain hk (hc.exportAssignment hn hk k) rfl rfl
  · next hk => exact plain hk (hc.typeAlias hn hk k) rfl rfl
  · next hk => exact plain hk (hc.typePredicate hn hk k) rfl rfl
  · next hk => exact plain hk (hc.interface hn hk k) rfl rfl
  · next hk => exact plain hk (hc.enumeration hn hk k) rfl rfl
  · next hk => exact plain hk (hc.moduleDeclaration hn hk k) rfl rfl
  · next hk => exact plain hk (hc.selfClosingElement hn hk k) rfl rfl
  · next hk => exact plain hk (hc.openingTag hn (.inl hk) false k) rfl rfl
  · next hk => exact plain hk (hc.markupAttribute hn hk k) rfl rfl
  · next hk => exact plain hk (hc.markupExpression hn hk k) rfl rfl

/-- **The rule of a node with parts records what is found below the node.** -/
theorem visit (hc : c.Faithful) (hn : c.arena.nodes[i]? = some n)
    (hleaf : ¬ c.arena.IsLeaf i) (k : Nat) :
    Records c.arena k (c.arena.Rest (.rule, i)) (c.visit i n) (Outcome c.arena (some i)) := by
  -- A kind without a pool has no parts, so nothing is found below its nodes.
  have hdropped (hpool : n.kind.pool? = none) (l : NodeId) :
      c.arena.Rest (.rule, i) l ↔ False :=
    iff_false_intro <| Arena.not_hasNext_of_kept hn fun p =>
      Way.kept_eq_nil fun f => if_neg (by rw [hpool]; exact (Option.some_ne_none p).symm)
  have plain {m : Conversion EsNode} (h : Records c.arena k (c.arena.Rest (.rule, i)) m IsIssued)
      (helided : n.kind.isElided = false) (hother : n.kind.standsForAnother = false) :
      Records c.arena k (c.arena.Rest (.rule, i)) (some <$> m) (Outcome c.arena (some i)) :=
    Records.map (h.mono fun _ _ _ => .of_isIssued (Arena.not_isHole hn helided hother))
  rw [Converter.visit]
  split
  · next helided =>
    refine Records.of _ (Records.pure fun _ _ => ?_) fun l _ => hdropped (if_pos (.inl helided)) l
    exact .of_isHole (.elided hn helided)
  · next hnot =>
    have helided : n.kind.isElided = false := Bool.eq_false_iff.mpr hnot
    have htoken : n.kind.isToken = false := by
      rw [Bool.eq_false_iff]
      intro htoken
      refine hleaf ⟨n, hn, htoken, fun hend => ?_⟩
      rw [hend] at helided
      cases helided
    have hother (h : n.kind.standsForAnother = true → False) : n.kind.standsForAnother = false :=
      Bool.eq_false_iff.mpr h
    split
    · next type hbare =>
      have hpool : n.kind.pool? = none := if_pos (.inr (by rw [hbare]; rfl))
      refine plain (Records.of _ (records_build ..) fun l _ => hdropped hpool l) helided
        (hother fun h => ?_)
      rw [(c.exists_ownRule? i h).1] at hbare
      cases hbare
    · next hbare =>
      split
      · next r hrecipe =>
        refine plain (hc.follow i hn (n.kind.rote_agrees.1 r hrecipe).1 k) helided
          (hother fun h => ?_)
        rw [(c.exists_ownRule? i h).2.1] at hrecipe
        cases hrecipe
      · next hrecipe =>
        split
        · next rule hrule => exact hc.ownRule hn htoken hrule k
        · next hrule =>
          refine plain (hc.synthesize hn (fun htable => ?_) k) helided (hother fun h => ?_)
          · rw [SyntaxKind.pool?, hrecipe, c.ownPool?_eq_none i hrule, htable]
            exact ite_self _
          · have hsome := (c.exists_ownRule? i h).2.2
            rw [hrule] at hsome
            cases hsome

/-! ### Going down -/

/-- **The conversion of a node records what is found from the node on.** -/
theorem visitAt (hc : c.Faithful) (r : NodeRef) (k : Nat) :
    Records c.arena k (c.arena.Below .rule r) (c.visitAt r) (Outcome c.arena r) := by
  have habsent {r : NodeRef} (hr : c.node? r = none) :
      Records c.arena k (c.arena.Below .rule r) (pure none) (Outcome c.arena r) :=
    pure_of_node? .rule hr k fun _ _ => .of_isHole (.absent hr)
  cases r with
  | none => exact habsent rfl
  | some i =>
    rw [Converter.visitAt]
    split
    · next hn => exact habsent hn
    · next n hn =>
      have hbelow (l : NodeId) : c.arena.Below .rule (some i) l ↔
          i = l ∨ c.arena.Rest (.rule, i) l := by
        rw [Arena.below_some, Arena.finds_iff]
        exact or_congr_left (and_iff_right nofun)
      refine Records.of _ ?_ fun l _ => hbelow l
      -- A leaf is recorded itself; of other nodes only what is below them counts.
      by_cases hleaf : c.arena.IsLeaf i
      · obtain ⟨n', hn', htoken, hend⟩ := id hleaf
        obtain rfl : n = n' := Option.some.inj (hn.symm.trans hn')
        obtain ⟨m, hvisit, hnew⟩ := c.visit_of_isToken i n htoken hend
        have hkinds : ∀ k ∈ SyntaxKind.all, k.isToken = true → k ≠ .endOfFileToken →
            k.isElided = false ∧ k.standsForAnother = false := by decide +kernel
        obtain ⟨helided, hother⟩ := hkinds n.kind n.kind.mem_all htoken hend
        have hnone (l : NodeId) : ¬ c.arena.Rest (.rule, i) l :=
          Arena.not_hasNext_of_kept hn (Way.kept_of_isToken htoken)
        rw [hvisit, bind_map_left]
        exact Records.of _ (hnew.records_register hc.wanted (f := some) fun es k' hes =>
          .of_isIssued (Arena.not_isHole hn helided hother) hes) fun l _ => or_iff_left (hnone l)
      · have hself (l : NodeId) (hl : c.arena.IsLeaf l) :
            i = l ∨ c.arena.Rest (.rule, i) l ↔ c.arena.Rest (.rule, i) l :=
          or_iff_right fun h => hleaf (h ▸ hl)
        refine Records.of _ (Records.bind_quiet (hc.visit hn hleaf k) fun result k _ hresult => ?_)
          hself
        cases result with
        | none => exact Records.pure fun k' hk' => hresult.mono hk'
        | some es =>
          refine Records.quiet_bind (records_register hleaf (hresult.2 es rfl)) fun _ k' hk' _ => ?_
          exact Records.pure fun k'' hk'' => hresult.mono (Nat.le_trans hk' hk'')

/-- A type argument that is a reference hands its parts over to a node of its own. -/
theorem typeArgumentOf (hc : c.Faithful) (r : NodeRef) (k : Nat) :
    Records c.arena k (c.arena.BelowArgument r) (c.typeArgumentOf r) AnyResult := by
  rw [Converter.typeArgumentOf]
  split
  · next n hn =>
    obtain ⟨i, rfl, hn'⟩ := Option.bind_eq_some_iff.mp hn
    have hway : c.arena.argumentWay i =
        if n.kind.isTypeKeyword || n.kind == .importType then .rule
        else if (c.arena.data? .typeRef n).isSome then .parts else .rule := by
      rw [Arena.argumentWay, hn']
    have hargument (l : NodeId) : c.arena.BelowArgument (some i) l ↔
        c.arena.Below (c.arena.argumentWay i) (some i) l := by
      simp [Arena.HasArgument]
    refine Records.of _ ?_ fun l _ => hargument l
    -- A word and an imported type are converted by their own rules, a reference by its parts.
    by_cases hword : (n.kind.isTypeKeyword || n.kind == .importType) = true
    · rw [hway, if_pos hword, if_pos hword]
      exact hc.child _ k
    · rw [hway, if_neg hword, if_neg hword]
      cases hd : c.arena.data? .typeRef n with
      | none =>
        rw [if_neg (by nofun)]
        refine Records.bind_quiet (hc.child _ k) fun _ k _ _ => ?_
        refine Records.quiet_bind (Records.pure_any _) fun ⟨_, _⟩ k _ _ => ?_
        exact Records.quiet_bind (records_build ..) fun _ _ _ _ => Records.pure_any _
      | some d =>
        have hkept : Way.parts.kept n.kind .typeRef =
            [(.typeName, .rule), (.typeArguments, .argument)] := rfl
        have hrest (l : NodeId) : c.arena.Below .parts (some i) l ↔
            c.arena.Below .rule (d.get .typeName) l ∨
              ∃ r ∈ NodeList.nodesOf (d.get .typeArguments), c.arena.BelowArgument r l :=
          Arena.below_parts_some.trans ((Arena.hasNext_of_kept hn' hd rfl hkept).trans
            (or_congr (Arena.hasInSlot_child rfl) (Arena.hasInSlot_argument rfl)))
        rw [if_pos (by rfl)]
        refine Records.of _ (Records.bind (hc.child _ k) fun _ k _ _ => ?_) fun l _ => hrest l
        refine Records.bind_quiet (hc.typeArguments? _ k) fun _ k _ _ => ?_
        refine Records.quiet_bind (Records.pure_any _) fun ⟨_, _⟩ k _ _ => ?_
        exact Records.quiet_bind (records_build ..) fun _ _ _ _ => Records.pure_any _
  · next hn =>
    refine Records.of _ (Records.pure_any _) fun l hl => iff_false_intro ?_
    rintro ⟨j, rfl, hfinds⟩
    exact Arena.not_below_of_node?_eq_none hl (Option.eq_none_iff_forall_ne_some.mpr hn)
      ⟨j, rfl, hfinds⟩

end Converter.Faithful

/-! ### Tying the knot -/

namespace Source

variable (s : Source)

theorem toSource_converter (depth : Nat) : (s.converter depth).toSource = s := by
  induction depth with
  | zero => rfl
  | succ depth ih => exact ih

/-- **Every converter is faithful.** -/
theorem faithful_converter (hs : s.options.provideCorrespondenceMaps = true) (depth : Nat) :
    (s.converter depth).Faithful := by
  induction depth with
  | zero =>
    exact ⟨hs, fun _ _ => Records.throw, fun _ _ => Records.throw, fun _ _ => Records.throw⟩
  | succ depth ih =>
    have hhere : ({ s.converter depth with
        convert := (s.converter depth).visitAt } : Converter).Faithful :=
      ⟨ih.wanted, ih.visitAt, ih.typeArgument, ih.tagName⟩
    exact ⟨ih.wanted, ih.visitAt, hhere.typeArgumentOf, ih.tagNameOf⟩

end Source

end ScriptTree
