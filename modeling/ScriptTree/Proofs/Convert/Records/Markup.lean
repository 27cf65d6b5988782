import ScriptTree.Convert.Markup
import ScriptTree.Proofs.Convert.Records

/-!
# What markup records

Names in markup are recorded where they are built, and not where every other node is.
-/

namespace ScriptTree

open Conversion

namespace Converter.Faithful

variable {c : Converter} {i : NodeId} {n : Node}

/-! ### Names -/

theorem markupName (hc : c.Faithful) (i : NodeId) (n : Node) (k : Nat) :
    Records c.arena k (fun l => i = l) (c.markupName (some i) n) IsIssued :=
  (makesNew_build c.toSource ..).records_register hc.wanted fun _ _ hes => hes

/-- What is found from the name of a tag on. -/
theorem below_tag {a : Arena} {l : NodeId} :
    a.Below .tag (some i) l ↔ i = l ∨ a.Rest (.tag, i) l := by
  rw [Arena.below_some, Arena.finds_iff]
  exact or_congr_left (and_iff_right nofun)

theorem tagNameOf (hc : c.Faithful) (r : NodeRef) (k : Nat) :
    Records c.arena k (c.arena.Below .tag r) (c.tagNameOf r) AnyResult := by
  cases r with
  | none => exact pure_any_of_node? .tag rfl k _
  | some i =>
    rw [Converter.tagNameOf]
    split
    · next n hn =>
      refine Records.of _ ?_ fun l _ => below_tag
      split
      · next hk =>
        refine records_parts fun d hd => ?_
        have hkept : Way.tag.kept .propertyAccessExpression .access =
            [(.expression, .tag), (.nameOrArgument, .tag)] := rfl
        have hrest (l : NodeId) : c.arena.Rest (.tag, i) l ↔
            c.arena.Below .tag (d.get .expression) l ∨
              c.arena.Below .tag (d.get .nameOrArgument) l :=
          (Arena.hasNext_of_kept hn hd hk hkept).trans
            (or_congr (Arena.hasInSlot_node rfl fun _ _ => Iff.rfl)
              (Arena.hasInSlot_node rfl fun _ _ => Iff.rfl))
        -- A dotted name is recorded itself, behind its two parts.
        refine Records.of (fun l => c.arena.Below .tag (d.get .expression) l ∨
          c.arena.Below .tag (d.get .nameOrArgument) l ∨ i = l) ?_ fun l _ => ?_
        · refine Records.bind (hc.tagName _ k) fun _ k _ _ => ?_
          refine Records.bind (hc.tagName _ k) fun _ k _ _ => ?_
          exact (makesNew_build c.toSource ..).records_register hc.wanted fun _ _ _ => trivial
        · rw [hrest]
          exact iff_of_eq (by ac_rfl)
      · next hk =>
        have hkept (p : Pool) : Way.tag.kept n.kind p = [] :=
          Way.kept_eq_nil fun _ => if_neg hk
        refine Records.of _ (Records.map (hc.markupName i n k).any) fun l _ =>
          or_iff_left (Arena.not_hasNext_of_kept hn hkept)
    · next hn => exact pure_any_of_node? .tag (Option.eq_none_iff_forall_ne_some.mpr hn) k _

/-! ### Tags -/

theorem markupAttributes (hc : c.Faithful) (r : NodeRef) (k : Nat) :
    Records c.arena k (c.arena.Below .parts r) (c.markupAttributes r) AnyResult := by
  refine takeOver (fun i n => do
    let d ← c.parts .jsxAttributes i n
    c.list (d.get .properties)) (Records.pure_any _) fun i n hn => ?_
  refine records_parts fun d hd => ?_
  have hkept : Way.parts.kept n.kind .jsxAttributes = [(.properties, .rule)] := rfl
  exact Records.of _ (hc.list _ k) fun l _ =>
    (Arena.hasNext_of_kept hn hd rfl hkept).trans (Arena.hasInSlot_children rfl)

theorem openingTag (hc : c.Faithful) (hn : c.arena.nodes[i]? = some n)
    (hk : n.kind = .jsxOpeningElement ∨ n.kind = .jsxSelfClosingElement) (selfClosing : Bool)
    (k : Nat) :
    Records c.arena k (c.arena.Rest (.rule, i)) (c.openingTag i n selfClosing) IsIssued := by
  refine records_parts fun d hd => ?_
  have hkept : Way.rule.kept n.kind .jsxOpening =
      [(.tagName, .tag), (.typeArguments, .argument), (.attributes, .parts)] := by
    rcases hk with hk | hk <;> rw [hk] <;> rfl
  have hrest (l : NodeId) : c.arena.Rest (.rule, i) l ↔ c.arena.Below .tag (d.get .tagName) l ∨
      (∃ r ∈ NodeList.nodesOf (d.get .typeArguments), c.arena.BelowArgument r l) ∨
      c.arena.Below .parts (d.get .attributes) l :=
    (Arena.hasNext_of_kept hn hd rfl hkept).trans
      (or_congr (Arena.hasInSlot_node rfl fun _ _ => Iff.rfl) (or_congr (Arena.hasInSlot_argument rfl)
        (Arena.hasInSlot_node rfl fun _ _ => Iff.rfl)))
  refine Records.of (fun l =>
    (∃ r ∈ NodeList.nodesOf (d.get .typeArguments), c.arena.BelowArgument r l) ∨
    c.arena.Below .tag (d.get .tagName) l ∨ c.arena.Below .parts (d.get .attributes) l) ?_
    fun l _ => (hrest l).trans or_left_comm
  refine Records.bind (hc.typeArguments? _ k) fun _ k _ _ => ?_
  refine Records.bind (hc.tagName _ k) fun _ k _ _ => ?_
  exact Records.bind_quiet (hc.markupAttributes _ k) fun _ _ _ _ => records_build ..

theorem selfClosingElement (hc : c.Faithful) (hn : c.arena.nodes[i]? = some n)
    (hk : n.kind = .jsxSelfClosingElement) (k : Nat) :
    Records c.arena k (c.arena.Rest (.rule, i)) (c.selfClosingElement i n) IsIssued :=
  Records.bind_quiet (hc.openingTag hn (.inr hk) true k) fun _ _ _ _ => records_build ..

/-! ### Attributes and children -/

theorem attributeName (hc : c.Faithful) (r : NodeRef) (k : Nat) :
    Records c.arena k (c.arena.Below .word r) ((c.node? r).mapM (c.markupName r)) AnyResult := by
  cases hn : c.node? r with
  | none => exact pure_any_of_node? .word hn k _
  | some n =>
    obtain ⟨i, rfl, hn⟩ := Option.bind_eq_some_iff.mp hn
    have hword (l : NodeId) : c.arena.Below .word (some i) l ↔ i = l := by
      have hnone : ¬ c.arena.Rest (.word, i) l :=
        Arena.not_hasNext_of_kept hn fun p => Way.kept_eq_nil fun _ => rfl
      rw [Arena.below_some, Arena.finds_iff]
      exact (or_iff_left hnone).trans (and_iff_right nofun)
    rw [Option.mapM_some]
    exact Records.of _ (Records.map (hc.markupName i n k).any) fun l _ => hword l

theorem markupAttribute (hc : c.Faithful) (hn : c.arena.nodes[i]? = some n)
    (hk : n.kind = .jsxAttribute) (k : Nat) :
    Records c.arena k (c.arena.Rest (.rule, i)) (c.markupAttribute i n) IsIssued := by
  refine records_parts fun d hd => ?_
  have hkept : Way.rule.kept .jsxAttribute .jsxAttribute =
      [(.name, .word), (.initializer, .rule)] := rfl
  refine Records.of (fun l => c.arena.Below .word (d.get .name) l ∨
    c.arena.Below .rule (d.get .initializer) l) ?_ fun l _ =>
      (Arena.hasNext_of_kept hn hd hk hkept).trans
        (or_congr (Arena.hasInSlot_node rfl fun _ _ => Iff.rfl) (Arena.hasInSlot_child rfl))
  refine Records.bind (hc.attributeName _ k) fun _ k _ _ => ?_
  exact Records.bind_quiet (hc.child _ k) fun _ _ _ _ => records_build ..

/-- Braces without an expression hold a node that nothing was converted to. -/
theorem markupExpression (hc : c.Faithful) (hn : c.arena.nodes[i]? = some n)
    (hk : n.kind = .jsxExpression) (k : Nat) :
    Records c.arena k (c.arena.Rest (.rule, i)) (c.markupExpression i n) IsIssued := by
  refine records_parts fun d hd => ?_
  have hkept : Way.rule.kept .jsxExpression .jsxExpression = [(.expression, .rule)] := rfl
  refine Records.of (c.arena.Below .rule (d.get .expression)) ?_ fun l _ =>
    (Arena.hasNext_of_kept hn hd hk hkept).trans (Arena.hasInSlot_child rfl)
  refine Records.bind_quiet (hc.convert _ k) fun expression k _ _ => ?_
  cases expression with
  | none => exact Records.quiet_bind (records_buildAt ..) fun _ _ _ _ => records_build ..
  | some expression => exact records_build ..

end Converter.Faithful

end ScriptTree
