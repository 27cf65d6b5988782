import ScriptTree.Convert.Exchange
import ScriptTree.Proofs.Convert.Records

/-!
# What imports and exports record

All names are kept that an import or an export mentions. A name that is the outer one and the inner
one at once is converted for both.
-/

namespace ScriptTree

open Conversion

namespace Converter.Faithful

variable {c : Converter} {i : NodeId} {n : Node}

/-! ### Imports -/

theorem defaultSpecifier (hc : c.Faithful) (clause : Node) (name : NodeRef) (k : Nat) :
    Records c.arena k (c.arena.Below .rule name) (c.defaultSpecifier clause name) AnyResult := by
  rw [Converter.defaultSpecifier]
  split
  · refine Records.bind_quiet (hc.child _ k) fun _ k _ _ => ?_
    exact Records.quiet_bind (records_buildAt ..) fun _ _ _ _ => Records.pure_any _
  · next hn => exact pure_any_of_node? .rule (Option.eq_none_iff_forall_ne_some.mpr hn) k _

/-- What is found in what an import clause names: one name for everything, or a list of names. -/
def BelowBindings (a : Arena) (r : NodeRef) (l : NodeId) : Prop :=
  ∃ j, r = some j ∧
    a.Finds (if a.kind? (some j) = some .namespaceImport then .rule else .parts, j) l

theorem listedSpecifiers (hc : c.Faithful) (bindings : NodeRef) (k : Nat) :
    Records c.arena k (BelowBindings c.arena bindings) (c.listedSpecifiers bindings) AnyResult := by
  have habsent (hr : c.node? bindings = none) :
      Records c.arena k (BelowBindings c.arena bindings) (pure ([] : List EsNode)) AnyResult := by
    refine Records.of _ (Records.pure_any _) fun l hl => iff_false_intro ?_
    rintro ⟨j, hj, hfinds⟩
    exact Arena.not_below_of_node?_eq_none hl hr ⟨j, hj, hfinds⟩
  cases bindings with
  | none => exact habsent rfl
  | some i =>
    rw [Converter.listedSpecifiers]
    split
    · next n hn =>
      have hkind : c.arena.kind? (some i) = some n.kind := by
        rw [Arena.kind?, show c.arena.node? (some i) = some n from hn]
        rfl
      split
      · next hk =>
        refine Records.of (c.arena.Below .rule (some i)) ?_ fun l _ => by
          simp [BelowBindings, hkind, hk]
        exact Records.bind_quiet (hc.convert _ k).any fun _ _ _ _ => Records.pure_any _
      · next hk =>
        refine Records.of (c.arena.Rest (.parts, i)) ?_ fun l _ => by
          rw [← Arena.below_parts_some]
          simp [BelowBindings, hkind, hk]
        refine records_parts fun d hd => ?_
        have hkept : Way.parts.kept n.kind .namedImports = [(.elements, .rule)] := rfl
        exact Records.of _ (Records.filterMapM _ fun r _ k => (hc.convert r k).any) fun l _ =>
          (Arena.hasNext_of_kept hn hd rfl hkept).trans (Arena.hasInSlot_children rfl)
    · next hn => exact habsent (Option.eq_none_iff_forall_ne_some.mpr hn)

theorem importSpecifiers (hc : c.Faithful) (clause : NodeRef) (k : Nat) :
    Records c.arena k (c.arena.Below .parts clause) (c.importSpecifiers clause) AnyResult := by
  refine takeOver (fun i n => do
    let d ← c.parts .importClause i n
    let first ← c.defaultSpecifier n (d.get .name)
    let others ← c.listedSpecifiers (d.get .namedBindings)
    pure (first ++ others)) (Records.pure_any _) fun i n hn => ?_
  refine records_parts fun d hd => ?_
  have hkept : Way.parts.kept n.kind .importClause =
      [(.name, .rule), (.namedBindings, .bindings)] := rfl
  have hbindings (l : NodeId) : c.arena.InSlot i d .namedBindings .bindings l ↔
      BelowBindings c.arena (d.get .namedBindings) l := by
    constructor
    · rintro ⟨j, hj, w, rfl, hfinds⟩
      exact ⟨j, Option.mem_toList.mp hj, hfinds⟩
    · rintro ⟨j, hj, hfinds⟩
      exact ⟨j, Option.mem_toList.mpr hj, _, rfl, hfinds⟩
  refine Records.of (fun l => c.arena.Below .rule (d.get .name) l ∨
    BelowBindings c.arena (d.get .namedBindings) l) ?_ fun l _ =>
      (Arena.hasNext_of_kept hn hd rfl hkept).trans
        (or_congr (Arena.hasInSlot_child rfl) (hbindings l))
  refine Records.bind (hc.defaultSpecifier n _ k) fun _ k _ _ => ?_
  exact Records.bind_quiet (hc.listedSpecifiers _ k) fun _ _ _ _ => Records.pure_any _

theorem importDeclaration (hc : c.Faithful) (hn : c.arena.nodes[i]? = some n)
    (hk : n.kind = .importDeclaration) (k : Nat) :
    Records c.arena k (c.arena.Rest (.rule, i)) (c.importDeclaration i n) IsIssued := by
  refine records_parts fun d hd => ?_
  have hkept : Way.rule.kept .importDeclaration .importDecl =
      [(.importClause, .parts), (.moduleSpecifier, .rule)] := rfl
  refine Records.of (fun l => c.arena.Below .rule (d.get .moduleSpecifier) l ∨
    c.arena.Below .parts (d.get .importClause) l) ?_ fun l _ =>
      ((Arena.hasNext_of_kept hn hd hk hkept).trans (or_congr
        (Arena.hasInSlot_node rfl fun _ _ => Iff.rfl) (Arena.hasInSlot_child rfl))).trans or_comm
  refine Records.bind (hc.child _ k) fun _ k _ _ => ?_
  exact Records.bind_quiet (hc.importSpecifiers _ k) fun _ _ _ _ => records_build ..

/-! ### Specifiers -/

/-- Both names of a specifier are kept. -/
theorem rest_specifier {a : Arena} {d : Data .specifier} (hn : a.nodes[i]? = some n)
    (hd : a.data? .specifier n = some d)
    (hk : n.kind = .importSpecifier ∨ n.kind = .exportSpecifier) (l : NodeId) :
    a.Rest (.rule, i) l ↔
      a.Below .rule (d.get .name) l ∨ a.Below .rule (outerName d) l := by
  have hkept : Way.rule.kept n.kind .specifier = [(.propertyName, .rule), (.name, .rule)] := by
    rcases hk with hk | hk <;> rw [hk] <;> rfl
  have hrest : a.Rest (.rule, i) l ↔
      a.Below .rule (d.get .propertyName) l ∨ a.Below .rule (d.get .name) l :=
    (Arena.hasNext_of_kept hn hd rfl hkept).trans
      (or_congr (Arena.hasInSlot_child rfl) (Arena.hasInSlot_child rfl))
  rw [hrest, outerName]
  cases d.get .propertyName with
  | none => simp
  | some j => exact or_comm

theorem importSpecifier (hc : c.Faithful) (hn : c.arena.nodes[i]? = some n)
    (hk : n.kind = .importSpecifier) (k : Nat) :
    Records c.arena k (c.arena.Rest (.rule, i)) (c.importSpecifier i n) IsIssued := by
  refine records_parts fun d hd => ?_
  refine Records.of _ (Records.bind (hc.child _ k) fun _ k _ _ => ?_)
    fun l _ => rest_specifier hn hd (.inl hk) l
  exact Records.bind_quiet (hc.child _ k) fun _ _ _ _ => records_build ..

theorem exportSpecifier (hc : c.Faithful) (hn : c.arena.nodes[i]? = some n)
    (hk : n.kind = .exportSpecifier) (k : Nat) :
    Records c.arena k (c.arena.Rest (.rule, i)) (c.exportSpecifier i n) IsIssued := by
  refine records_parts fun d hd => ?_
  refine Records.of _ (Records.bind (hc.child _ k) fun _ k _ _ => ?_)
    fun l _ => (rest_specifier hn hd (.inr hk) l).trans or_comm
  exact Records.bind_quiet (hc.child _ k) fun _ _ _ _ => records_build ..

/-! ### Exports -/

theorem exportDeclaration (hc : c.Faithful) (hn : c.arena.nodes[i]? = some n)
    (hk : n.kind = .exportDeclaration) (k : Nat) :
    Records c.arena k (c.arena.Rest (.rule, i)) (c.exportDeclaration i n) IsIssued := by
  refine records_parts fun d hd => ?_
  have hkept : Way.rule.kept .exportDeclaration .exportDecl =
      [(.exportClause, .parts), (.moduleSpecifier, .rule)] := rfl
  refine Records.of (fun l => c.arena.Below .rule (d.get .moduleSpecifier) l ∨
    c.arena.Below .parts (d.get .exportClause) l) ?_ fun l _ =>
      ((Arena.hasNext_of_kept hn hd hk hkept).trans (or_congr
        (Arena.hasInSlot_node rfl fun _ _ => Iff.rfl) (Arena.hasInSlot_child rfl))).trans or_comm
  refine Records.bind (hc.child _ k) fun source k _ _ => ?_
  refine takeOver (fun j clause => do
    if clause.kind = .namedExports then
      let named ← c.parts .namedImports j clause
      let specifiers ← c.list (named.get .elements)
      c.build .exportNamedDeclaration n
        [("declaration", EsValue.null), ("specifiers", specifiers), ("source", source)]
    else
      let namespaced ← c.parts .specifier j clause
      let exported ← c.child (namespaced.get .name)
      c.build .exportAllDeclaration n [("source", source), ("exported", exported)])
    (records_build ..) fun j clause hclause => ?_
  split
  · refine records_parts fun named hnamed => ?_
    have hkept : Way.parts.kept clause.kind .namedImports = [(.elements, .rule)] := rfl
    refine Records.of _ (Records.bind_quiet (hc.list _ k) fun _ _ _ _ => records_build ..)
      fun l _ => (Arena.hasNext_of_kept hclause hnamed rfl hkept).trans (Arena.hasInSlot_children rfl)
  · refine records_parts fun namespaced hnamespaced => ?_
    have hkept : Way.parts.kept clause.kind .specifier = [(.name, .rule)] := rfl
    refine Records.of _ (Records.bind_quiet (hc.child _ k) fun _ _ _ _ => records_build ..)
      fun l _ => (Arena.hasNext_of_kept hclause hnamespaced rfl hkept).trans (Arena.hasInSlot_child rfl)

theorem exportAssignment (hc : c.Faithful) (hn : c.arena.nodes[i]? = some n)
    (hk : n.kind = .exportAssignment) (k : Nat) :
    Records c.arena k (c.arena.Rest (.rule, i)) (c.exportAssignment i n) IsIssued := by
  refine records_parts fun d hd => ?_
  have hkept : Way.rule.kept .exportAssignment .exportAssignment = [(.expression, .rule)] := rfl
  refine Records.of (c.arena.Below .rule (d.get .expression)) ?_ fun l _ =>
    (Arena.hasNext_of_kept hn hd hk hkept).trans (Arena.hasInSlot_child rfl)
  refine Records.bind_quiet (hc.child _ k) fun _ _ _ _ => ?_
  split <;> exact records_build ..

end Converter.Faithful

end ScriptTree
