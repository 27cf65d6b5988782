import ScriptTree.Proofs.Convert.Commas
import ScriptTree.Proofs.Convert.Records

/-!
# What expressions record

The rules for expressions keep all of their parts. In a chain of commas the inner links are skipped;
their operands are not.
-/

namespace ScriptTree

open Conversion

namespace Converter.Faithful

variable {c : Converter} {i : NodeId} {n : Node}

/-! ### Operators -/

/-- What is found from an operand on is found from the operands of its chain on. -/
theorem below_commaOperands {a : Arena} {l : NodeId} (hl : a.IsLeaf l) {fuel : Nat} {r : NodeRef}
    {operands : List NodeRef} (h : a.commaOperands fuel r = some operands) :
    a.Below .rule r l ↔ a.BelowAny .rule operands l := by
  induction fuel generalizing r operands with
  | zero => cases h
  | succ fuel ih =>
    obtain ⟨-, rfl⟩ | ⟨i, d, others, rfl, hcomma, hothers, rfl⟩ := Arena.commaOperands_eq_some h
    · simp
    · obtain ⟨n, hn, hk, hd, -⟩ := id hcomma
      have hkept : Way.rule.kept .binaryExpression .binary =
          [(.left, .rule), (.right, .rule)] := rfl
      have hrest : a.Rest (.rule, i) l ↔
          a.Below .rule (d.get .left) l ∨ a.Below .rule (d.get .right) l :=
        (Arena.hasNext_of_kept hn hd hk hkept).trans
          (or_congr (Arena.hasInSlot_child rfl) (Arena.hasInSlot_child rfl))
      -- The comma itself is no leaf, so only its operands count.
      have hne : i ≠ l := by
        rintro rfl
        obtain ⟨n', hn', htoken, -⟩ := hl
        obtain rfl : n = n' := Option.some.inj (hn.symm.trans hn')
        rw [hk] at htoken
        exact absurd htoken (by decide)
      rw [Arena.below_some, Arena.finds_iff, hrest, Arena.belowAny_cons, ← ih hothers]
      simp [hne, or_comm]

theorem sequence (hc : c.Faithful) (d : Data .binary) (k : Nat) :
    Records c.arena k
      (fun l => c.arena.Below .rule (d.get .left) l ∨ c.arena.Below .rule (d.get .right) l)
      (c.sequence n d) IsIssued := by
  refine Records.quiet_bind (records_await _) fun others k _ hothers => ?_
  refine Records.of _ (Records.bind_quiet (Records.mapM _ fun r _ k => hc.child r k)
    fun _ _ _ _ => records_build ..) fun l hl => ?_
  simp only [below_commaOperands hl hothers, Arena.BelowAny, List.mem_reverse, List.mem_cons,
    exists_eq_or_imp]
  exact or_comm

theorem operands (hc : c.Faithful) (d : Data .binary) (isDefault : Bool) (k : Nat) :
    Records c.arena k
      (fun l => c.arena.Below .rule (d.get .left) l ∨ c.arena.Below .rule (d.get .right) l)
      (c.operands n d isDefault) IsIssued := by
  refine Records.bind (hc.child _ k) fun _ k _ _ => ?_
  refine Records.bind_quiet (hc.child _ k) fun _ k _ _ => ?_
  split
  · exact records_build ..
  · exact records_build ..

theorem binary (hc : c.Faithful) (hn : c.arena.nodes[i]? = some n)
    (hk : n.kind = .binaryExpression) (k : Nat) :
    Records c.arena k (c.arena.Rest (.rule, i)) (c.binary i n) IsIssued := by
  refine records_parts fun d hd => ?_
  have hkept : Way.rule.kept .binaryExpression .binary = [(.left, .rule), (.right, .rule)] := rfl
  refine Records.of
    (fun l => c.arena.Below .rule (d.get .left) l ∨ c.arena.Below .rule (d.get .right) l) ?_
    fun l _ => (Arena.hasNext_of_kept hn hd hk hkept).trans
      (or_congr (Arena.hasInSlot_child rfl) (Arena.hasInSlot_child rfl))
  split
  · exact hc.sequence d k
  split
  · exact Records.quiet_bind (records_await _) fun inside k _ _ => hc.operands d inside k
  · exact hc.operands d false k

theorem unary (hc : c.Faithful) (hn : c.arena.nodes[i]? = some n)
    (hk : n.kind = .prefixUnaryExpression ∨ n.kind = .postfixUnaryExpression) (k : Nat) :
    Records c.arena k (c.arena.Rest (.rule, i)) (c.unary i n) IsIssued := by
  refine records_parts fun d hd => ?_
  have hkept : Way.rule.kept n.kind .unary = [(.operand, .rule)] := by
    rcases hk with hk | hk <;> rw [hk] <;> rfl
  refine Records.of (c.arena.Below .rule (d.get .operand)) ?_
    fun l _ => (Arena.hasNext_of_kept hn hd rfl hkept).trans (Arena.hasInSlot_child rfl)
  exact Records.bind_quiet (hc.child _ k) fun _ _ _ _ => records_build ..

theorem metaProperty (hc : c.Faithful) (hn : c.arena.nodes[i]? = some n)
    (hk : n.kind = .metaProperty) (k : Nat) :
    Records c.arena k (c.arena.Rest (.rule, i)) (c.metaProperty i n) IsIssued := by
  refine records_parts fun d hd => ?_
  have hkept : Way.rule.kept .metaProperty .metaProperty = [(.name, .rule)] := rfl
  refine Records.of (c.arena.Below .rule (d.get .name)) ?_
    fun l _ => (Arena.hasNext_of_kept hn hd hk hkept).trans (Arena.hasInSlot_child rfl)
  refine Records.quiet_bind (records_moved ..) fun _ k _ _ => ?_
  refine Records.quiet_bind (records_buildAt ..) fun _ k _ _ => ?_
  exact Records.bind_quiet (hc.child _ k) fun _ _ _ _ => records_build ..

/-! ### Templates -/

theorem templateSpan (hc : c.Faithful) (r : NodeRef) (k : Nat) :
    Records c.arena k (c.arena.Below .parts r) (c.templateSpan r) AnyResult := by
  refine takeOver (fun i n => do
    let d ← c.parts .templateSpan i n
    let expression ← c.child (d.get .expression)
    pure (some (expression, ← c.child (d.get .literal))))
    (Records.pure_any _) fun i n hn => ?_
  refine records_parts fun d hd => ?_
  have hkept : Way.parts.kept n.kind .templateSpan = [(.expression, .rule), (.literal, .rule)] :=
    rfl
  refine Records.of (fun l => c.arena.Below .rule (d.get .expression) l ∨
    c.arena.Below .rule (d.get .literal) l) ?_ fun l _ =>
      (Arena.hasNext_of_kept hn hd rfl hkept).trans
        (or_congr (Arena.hasInSlot_child rfl) (Arena.hasInSlot_child rfl))
  refine Records.bind (hc.child _ k) fun _ k _ _ => ?_
  exact Records.bind_quiet (hc.child _ k) fun _ _ _ _ => Records.pure_any _

theorem template (hc : c.Faithful) (hn : c.arena.nodes[i]? = some n)
    (hk : n.kind = .templateExpression) (k : Nat) :
    Records c.arena k (c.arena.Rest (.rule, i)) (c.template i n) IsIssued := by
  refine records_parts fun d hd => ?_
  have hkept : Way.rule.kept .templateExpression .templateExpr =
      [(.head, .rule), (.templateSpans, .parts)] := rfl
  refine Records.of (fun l => c.arena.Below .rule (d.get .head) l ∨
    c.arena.BelowAny .parts (d.get .templateSpans).nodes l) ?_ fun l _ =>
      (Arena.hasNext_of_kept hn hd hk hkept).trans
        (or_congr (Arena.hasInSlot_child rfl) (Arena.hasInSlot_list rfl fun _ _ => Iff.rfl))
  refine Records.bind (hc.child _ k) fun _ k _ _ => ?_
  exact Records.bind_quiet (Records.filterMapM _ fun r _ k => hc.templateSpan r k)
    fun _ _ _ _ => records_build ..

theorem taggedTemplate (hc : c.Faithful) (hn : c.arena.nodes[i]? = some n)
    (hk : n.kind = .taggedTemplateExpression) (k : Nat) :
    Records c.arena k (c.arena.Rest (.rule, i)) (c.taggedTemplate i n) IsIssued := by
  refine records_parts fun d hd => ?_
  have hkept : Way.rule.kept .taggedTemplateExpression .taggedTemplate =
      [(.tag, .rule), (.typeArguments, .argument), (.template, .rule)] := rfl
  refine Records.of (fun l => c.arena.Below .rule (d.get .tag) l ∨
    (∃ r ∈ NodeList.nodesOf (d.get .typeArguments), c.arena.BelowArgument r l) ∨
    c.arena.Below .rule (d.get .template) l) ?_ fun l _ =>
      (Arena.hasNext_of_kept hn hd hk hkept).trans (or_congr (Arena.hasInSlot_child rfl)
        (or_congr (Arena.hasInSlot_argument rfl) (Arena.hasInSlot_child rfl)))
  refine Records.bind (hc.child _ k) fun _ k _ _ => ?_
  refine Records.bind (hc.typeArguments? _ k) fun _ k _ _ => ?_
  exact Records.bind_quiet (hc.child _ k) fun _ _ _ _ => records_build ..

/-! ### Literals that may be targets -/

theorem arrayLiteral (hc : c.Faithful) (hn : c.arena.nodes[i]? = some n)
    (hk : n.kind = .arrayLiteralExpression) (k : Nat) :
    Records c.arena k (c.arena.Rest (.rule, i)) (c.arrayLiteral i n) IsIssued := by
  refine records_parts fun d hd => ?_
  have hkept : Way.rule.kept .arrayLiteralExpression .literalExpr = [(.elements, .rule)] := rfl
  refine Records.of (c.arena.BelowAny .rule (d.get .elements).nodes) ?_ fun l _ =>
    (Arena.hasNext_of_kept hn hd hk hkept).trans (Arena.hasInSlot_children rfl)
  refine Records.quiet_bind (records_await _) fun _ k _ _ => ?_
  exact Records.bind_quiet (hc.list _ k) fun _ _ _ _ => records_build ..

theorem objectLiteral (hc : c.Faithful) (hn : c.arena.nodes[i]? = some n)
    (hk : n.kind = .objectLiteralExpression) (k : Nat) :
    Records c.arena k (c.arena.Rest (.rule, i)) (c.objectLiteral i n) IsIssued := by
  refine records_parts fun d hd => ?_
  have hkept : Way.rule.kept .objectLiteralExpression .literalExpr = [(.elements, .rule)] := rfl
  refine Records.of (c.arena.BelowAny .rule (d.get .elements).nodes) ?_ fun l _ =>
    (Arena.hasNext_of_kept hn hd hk hkept).trans (Arena.hasInSlot_children rfl)
  refine Records.quiet_bind (records_await _) fun _ k _ _ => ?_
  exact Records.bind_quiet (hc.list _ k) fun _ _ _ _ => records_build ..

theorem spread (hc : c.Faithful) (hn : c.arena.nodes[i]? = some n)
    (hk : n.kind = .spreadElement ∨ n.kind = .spreadAssignment) (k : Nat) :
    Records c.arena k (c.arena.Rest (.rule, i)) (c.spread i n) IsIssued := by
  refine records_parts fun d hd => ?_
  have hkept : Way.rule.kept n.kind .keywordUnary = [(.expression, .rule)] := by
    rcases hk with hk | hk <;> rw [hk] <;> rfl
  refine Records.of (c.arena.Below .rule (d.get .expression)) ?_ fun l _ =>
    (Arena.hasNext_of_kept hn hd rfl hkept).trans (Arena.hasInSlot_child rfl)
  refine Records.quiet_bind (records_await _) fun _ k _ _ => ?_
  exact Records.bind_quiet (hc.child _ k) fun _ _ _ _ => records_build ..

/-- The name is converted twice, which records no more than converting it once. -/
theorem shorthandProperty (hc : c.Faithful) (hn : c.arena.nodes[i]? = some n)
    (hk : n.kind = .shorthandPropertyAssignment) (k : Nat) :
    Records c.arena k (c.arena.Rest (.rule, i)) (c.shorthandProperty i n) IsIssued := by
  refine records_parts fun d hd => ?_
  have hkept : Way.rule.kept .shorthandPropertyAssignment .shorthandProperty =
      [(.name, .rule), (.objectAssignmentInitializer, .rule)] := rfl
  refine Records.of (fun l => c.arena.Below .rule (d.get .name) l ∨
    c.arena.Below .rule (d.get .name) l ∨
    c.arena.Below .rule (d.get .objectAssignmentInitializer) l) ?_ fun l _ => ?_
  · refine Records.bind (hc.child _ k) fun key k _ _ => ?_
    refine Records.bind (hc.child _ k) fun value k _ _ => ?_
    dsimp only
    split
    · next hnone =>
      exact Records.bind_quiet (pure_any_of_node? .rule hnone k _)
        fun _ _ _ _ => records_build ..
    · refine Records.bind_quiet (hc.child _ k) fun _ _ _ _ => ?_
      exact Records.quiet_bind ((records_build ..).map_any _) fun _ _ _ _ => records_build ..
  · have hfields : c.arena.Rest (.rule, i) l ↔ c.arena.Below .rule (d.get .name) l ∨
        c.arena.Below .rule (d.get .objectAssignmentInitializer) l :=
      (Arena.hasNext_of_kept hn hd hk hkept).trans
        (or_congr (Arena.hasInSlot_child rfl) (Arena.hasInSlot_child rfl))
    rw [hfields, ← or_assoc, or_self]

end Converter.Faithful

end ScriptTree
