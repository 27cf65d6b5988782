import ScriptTree.Convert.Declaration
import ScriptTree.Proofs.Convert.Records.Binding

/-!
# What declarations and clauses record

A catch clause keeps of its variable the name only. The words that export a declaration or
become marks are not converted; the other modifiers of enumerations and namespaces are.
-/

namespace ScriptTree

open Conversion

namespace Arena

/-- What is found in modifiers of which some become marks. -/
theorem inSlot_modifier {a : Arena} {i l : NodeId} {p : Pool} {d : Data p} {f : Field}
    {rs : List NodeRef} (hr : d.refs f = rs.filterMap id) :
    a.InSlot i d f .modifier l ↔
      ∃ r ∈ rs, ∃ j, r = some j ∧ a.isMark j = false ∧ a.Finds (.rule, j) l := by
  constructor
  · rintro ⟨j, hj, w, ⟨rfl, hmark⟩, hfinds⟩
    rw [hr] at hj
    obtain ⟨r, hr, rfl⟩ := List.mem_filterMap.mp hj
    exact ⟨_, hr, j, rfl, hmark, hfinds⟩
  · rintro ⟨r, hr', j, rfl, hmark, hfinds⟩
    refine ⟨j, ?_, .rule, ⟨rfl, hmark⟩, hfinds⟩
    rw [hr]
    exact List.mem_filterMap.mpr ⟨_, hr', rfl⟩

end Arena

namespace Converter.Faithful

variable {c : Converter} {i : NodeId} {n : Node}

/-! ### Clauses -/

theorem cases (hc : c.Faithful) (block : NodeRef) (k : Nat) :
    Records c.arena k (c.arena.Below .parts block) (c.cases block) AnyResult := by
  refine takeOver (fun i n => do
    let d ← c.parts .block i n
    c.list (d.get .statements)) (Records.pure_any _) fun i n hn => ?_
  refine records_parts fun d hd => ?_
  have hkept : Way.parts.kept n.kind .block = [(.statements, .rule)] := rfl
  exact Records.of _ (hc.list _ k) fun l _ =>
    (Arena.hasNext_of_kept hn hd rfl hkept).trans (Arena.hasInSlot_children rfl)

theorem switch (hc : c.Faithful) (hn : c.arena.nodes[i]? = some n)
    (hk : n.kind = .switchStatement) (k : Nat) :
    Records c.arena k (c.arena.Rest (.rule, i)) (c.switch i n) IsIssued := by
  refine records_parts fun d hd => ?_
  have hkept : Way.rule.kept .switchStatement .switch =
      [(.expression, .rule), (.caseBlock, .parts)] := rfl
  refine Records.of (fun l => c.arena.Below .rule (d.get .expression) l ∨
    c.arena.Below .parts (d.get .caseBlock) l) ?_ fun l _ =>
      (Arena.hasNext_of_kept hn hd hk hkept).trans
        (or_congr (Arena.hasInSlot_child rfl) (Arena.hasInSlot_node rfl fun _ _ => Iff.rfl))
  refine Records.bind (hc.child _ k) fun _ k _ _ => ?_
  exact Records.bind_quiet (hc.cases _ k) fun _ _ _ _ => records_build ..

/-- The type of the variable is not looked at, nor is its initializer. -/
theorem caught (hc : c.Faithful) (declaration : NodeRef) (k : Nat) :
    Records c.arena k (c.arena.Below .parts declaration) (c.caught declaration) AnyResult := by
  refine takeOver (fun i n => do
    let d ← c.parts .variableDeclaration i n
    c.child (d.get .name)) (Records.pure_any _) fun i n hn => ?_
  refine records_parts fun d hd => ?_
  have hkept : Way.parts.kept n.kind .variableDeclaration = [(.name, .rule)] := rfl
  exact Records.of _ (hc.child _ k) fun l _ =>
    (Arena.hasNext_of_kept hn hd rfl hkept).trans (Arena.hasInSlot_child rfl)

theorem catchClause (hc : c.Faithful) (hn : c.arena.nodes[i]? = some n)
    (hk : n.kind = .catchClause) (k : Nat) :
    Records c.arena k (c.arena.Rest (.rule, i)) (c.catchClause i n) IsIssued := by
  refine records_parts fun d hd => ?_
  have hkept : Way.rule.kept .catchClause .catchClause =
      [(.variableDeclaration, .parts), (.block, .rule)] := rfl
  refine Records.of (fun l => c.arena.Below .parts (d.get .variableDeclaration) l ∨
    c.arena.Below .rule (d.get .block) l) ?_ fun l _ =>
      (Arena.hasNext_of_kept hn hd hk hkept).trans
        (or_congr (Arena.hasInSlot_node rfl fun _ _ => Iff.rfl) (Arena.hasInSlot_child rfl))
  refine Records.bind (hc.caught _ k) fun _ k _ _ => ?_
  exact Records.bind_quiet (hc.child _ k) fun _ _ _ _ => records_build ..

/-! ### Types -/

theorem typeAlias (hc : c.Faithful) (hn : c.arena.nodes[i]? = some n)
    (hk : n.kind = .typeAliasDeclaration) (k : Nat) :
    Records c.arena k (c.arena.Rest (.rule, i)) (c.typeAlias i n) IsIssued := by
  refine records_parts fun d hd => ?_
  have hkept : Way.rule.kept .typeAliasDeclaration .typeAlias =
      [(.name, .rule), (.typeParameters, .rule), (.typeNode, .rule)] := rfl
  refine Records.of (fun l => c.arena.Below .rule (d.get .name) l ∨
    c.arena.BelowAny .rule (NodeList.nodesOf (d.get .typeParameters)) l ∨
    c.arena.Below .rule (d.get .typeNode) l) ?_ fun l _ =>
      (Arena.hasNext_of_kept hn hd hk hkept).trans (or_congr (Arena.hasInSlot_child rfl)
        (or_congr (Arena.hasInSlot_children rfl) (Arena.hasInSlot_child rfl)))
  refine Records.bind (hc.child _ k) fun _ k _ _ => ?_
  refine Records.bind (hc.typeParameters? _ k) fun _ k _ _ => ?_
  refine Records.bind_quiet (hc.child _ k) fun _ k _ _ => ?_
  refine Records.quiet_bind (records_buildAt ..) fun _ k _ _ => ?_
  exact Records.quiet_bind (records_build ..) fun _ _ _ hes => exported _ hes

theorem typePredicate (hc : c.Faithful) (hn : c.arena.nodes[i]? = some n)
    (hk : n.kind = .typePredicate) (k : Nat) :
    Records c.arena k (c.arena.Rest (.rule, i)) (c.typePredicate i n) IsIssued := by
  refine records_parts fun d hd => ?_
  have hkept : Way.rule.kept .typePredicate .typePredicate =
      [(.parameterName, .rule), (.typeNode, .rule)] := rfl
  refine Records.of (fun l => c.arena.Below .rule (d.get .parameterName) l ∨
    c.arena.Below .rule (d.get .typeNode) l) ?_ fun l _ =>
      (Arena.hasNext_of_kept hn hd hk hkept).trans
        (or_congr (Arena.hasInSlot_child rfl) (Arena.hasInSlot_child rfl))
  refine Records.bind (hc.child _ k) fun _ k _ _ => ?_
  dsimp only
  split
  · next hnone =>
    exact Records.bind_quiet (pure_any_of_node? .rule hnone k _) fun _ _ _ _ => records_build ..
  · refine Records.bind_quiet (hc.child _ k) fun _ k _ _ => ?_
    exact Records.quiet_bind ((records_build ..).map_any _) fun _ _ _ _ => records_build ..

/-! ### Enumerations and namespaces -/

/-- Taking one more modifier into account does not change which declaration it is. -/
theorem addModifier (hc : c.Faithful) {id : Nat} {found : Draft × List EsValue}
    (h : found.1.id = id) (r : NodeRef) (k : Nat) :
    Records c.arena k
      (fun l => ∃ j, r = some j ∧ c.arena.isMark j = false ∧ c.arena.Finds (.rule, j) l)
      (c.addModifier found r) fun found _ => found.1.id = id := by
  -- Words that only mark the declaration are not converted.
  have hmark {j : NodeId} (hj : c.arena.isMark j = true) (l : NodeId) :
      (∃ j', some j = some j' ∧ c.arena.isMark j' = false ∧ c.arena.Finds (.rule, j') l) ↔
        False := by
    refine iff_false_intro ?_
    rintro ⟨j', hj', hnot, -⟩
    cases hj'
    rw [hj] at hnot
    cases hnot
  cases r with
  | none =>
    refine Records.of (c.arena.Below .rule none) ?_ fun l _ => by simp
    exact Records.bind_quiet (hc.child none k) fun _ _ _ _ => Records.pure fun _ _ => h
  | some j =>
    have hquiet {found' : Draft × List EsValue} (hj : c.arena.isMark j = true)
        (h : found'.1.id = id) :
        Records c.arena k
          (fun l => ∃ j', some j = some j' ∧ c.arena.isMark j' = false ∧
            c.arena.Finds (.rule, j') l) (pure found') fun found _ => found.1.id = id :=
      Records.of _ (Records.pure fun _ _ => h) fun l _ => hmark hj l
    rw [Converter.addModifier]
    split
    · next hkind => exact hquiet (by rw [Arena.isMark, hkind]) h
    · next hkind => exact hquiet (by rw [Arena.isMark, hkind]) h
    · next hkind => exact hquiet (by rw [Arena.isMark, hkind]) h
    · next hkind => exact hquiet (by rw [Arena.isMark, hkind]) h
    · next hexport hdefault hconst hdeclare =>
      have hnot : c.arena.isMark j = false := by
        rw [Arena.isMark]
        split <;> first | rfl | contradiction
      refine Records.of (c.arena.Below .rule (some j)) ?_ fun l _ => by simp [hnot]
      exact Records.bind_quiet (hc.child _ k) fun _ _ _ _ => Records.pure fun _ _ => h

theorem modify (hc : c.Faithful) (d : Draft) (modifiers : Option NodeList) (k : Nat) :
    Records c.arena k (fun l => ∃ r ∈ NodeList.nodesOf modifiers,
        ∃ j, r = some j ∧ c.arena.isMark j = false ∧ c.arena.Finds (.rule, j) l)
      (c.modify d modifiers) fun d' _ => d'.id = d.id := by
  refine Records.bind_quiet (Records.foldlM _ (fun found h r _ k => hc.addModifier h r k)
    (x := (d, [])) rfl) fun found k _ h => ?_
  refine Records.pure fun _ _ => ?_
  split <;> exact h

theorem enumeration (hc : c.Faithful) (hn : c.arena.nodes[i]? = some n)
    (hk : n.kind = .enumDeclaration) (k : Nat) :
    Records c.arena k (c.arena.Rest (.rule, i)) (c.enumeration i n) IsIssued := by
  refine records_parts fun d hd => ?_
  have hkept : Way.rule.kept .enumDeclaration .enumeration =
      [(.modifiers, .modifier), (.name, .rule), (.members, .rule)] := rfl
  have hrest (l : NodeId) : c.arena.Rest (.rule, i) l ↔
      (∃ r ∈ NodeList.nodesOf (d.get .modifiers),
        ∃ j, r = some j ∧ c.arena.isMark j = false ∧ c.arena.Finds (.rule, j) l) ∨
      c.arena.Below .rule (d.get .name) l ∨ c.arena.BelowAny .rule (d.get .members).nodes l :=
    (Arena.hasNext_of_kept hn hd hk hkept).trans
      (or_congr (Arena.inSlot_modifier rfl) (or_congr (Arena.hasInSlot_child rfl)
        (Arena.hasInSlot_children rfl)))
  refine Records.of (fun l => c.arena.Below .rule (d.get .name) l ∨
    c.arena.BelowAny .rule (d.get .members).nodes l ∨
    ∃ r ∈ NodeList.nodesOf (d.get .modifiers),
      ∃ j, r = some j ∧ c.arena.isMark j = false ∧ c.arena.Finds (.rule, j) l) ?_ fun l _ => ?_
  · refine Records.bind (hc.child _ k) fun _ k _ _ => ?_
    refine Records.bind (hc.list _ k) fun _ k _ _ => ?_
    refine Records.quiet_bind (records_start ..) fun draft k _ hid => ?_
    refine Records.bind_quiet (hc.modify _ _ k) fun draft' k' hk' hsame => exported _ ?_
    change draft'.id < k'
    rw [hsame, id_fill]
    exact Nat.lt_of_lt_of_le hid hk'
  · rw [hrest]
    exact iff_of_eq (by ac_rfl)

theorem moduleDeclaration (hc : c.Faithful) (hn : c.arena.nodes[i]? = some n)
    (hk : n.kind = .moduleDeclaration) (k : Nat) :
    Records c.arena k (c.arena.Rest (.rule, i)) (c.moduleDeclaration i n) IsIssued := by
  refine records_parts fun d hd => ?_
  have hkept : Way.rule.kept .moduleDeclaration .moduleDecl =
      [(.modifiers, .modifier), (.name, .rule), (.body, .rule)] := rfl
  have hrest (l : NodeId) : c.arena.Rest (.rule, i) l ↔
      (∃ r ∈ NodeList.nodesOf (d.get .modifiers),
        ∃ j, r = some j ∧ c.arena.isMark j = false ∧ c.arena.Finds (.rule, j) l) ∨
      c.arena.Below .rule (d.get .name) l ∨ c.arena.Below .rule (d.get .body) l :=
    (Arena.hasNext_of_kept hn hd hk hkept).trans
      (or_congr (Arena.inSlot_modifier rfl) (or_congr (Arena.hasInSlot_child rfl)
        (Arena.hasInSlot_child rfl)))
  refine Records.of (fun l => c.arena.Below .rule (d.get .name) l ∨
    c.arena.Below .rule (d.get .body) l ∨
    ∃ r ∈ NodeList.nodesOf (d.get .modifiers),
      ∃ j, r = some j ∧ c.arena.isMark j = false ∧ c.arena.Finds (.rule, j) l) ?_ fun l _ => ?_
  · refine Records.bind (hc.child _ k) fun _ k _ _ => ?_
    refine Records.bind (hc.convert _ k).any fun _ k _ _ => ?_
    refine Records.quiet_bind (records_start ..) fun draft k _ hid => ?_
    refine Records.bind_quiet (hc.modify _ _ k) fun draft' k' hk' hsame => exported _ ?_
    have hlt : draft'.id < k' := by
      rw [hsame, id_fill]
      exact Nat.lt_of_lt_of_le hid hk'
    rw [EsValue.mark]
    split <;> exact hlt
  · rw [hrest]
    exact iff_of_eq (by ac_rfl)

end Converter.Faithful

end ScriptTree
