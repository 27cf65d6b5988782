import ScriptTree.Convert.Function
import ScriptTree.Proofs.Convert.ByRote
import ScriptTree.Proofs.Convert.Records.Binding

/-!
# What functions and parameters record

A function keeps all of its parts, whether it is a declaration or the value of a method. With
the name of a parameter everything else of the parameter is lost.
-/

namespace ScriptTree

open Conversion

namespace Converter.Faithful

variable {c : Converter} {i : NodeId} {n : Node}

theorem functionDeclaration (hc : c.Faithful) (hn : c.arena.nodes[i]? = some n)
    (hk : n.kind = .functionDeclaration) (k : Nat) :
    Records c.arena k (c.arena.Rest (.rule, i)) (c.functionDeclaration i n) IsIssued := by
  refine records_parts fun d hd => ?_
  have hagree (type : AstType) : Part.agree ((Recipe.function type).parts ++
      (Recipe.function type).later) (Way.rule.kept n.kind (Recipe.function type).pool) = true := by
    rw [hk]
    exact Recipe.agrees_of_function type
  exact Records.bind_quiet (hc.follow i hn (hagree _) k) fun _ _ _ hes => exported _ hes

/-- The value of a method keeps the parameters, the body and the signature. -/
theorem methodValue (hc : c.Faithful) (i : NodeId) (n : Node) (d : Data .function) (behind k : Nat) :
    Records c.arena k (fun l => c.arena.BelowAny .rule (d.get .parameters).nodes l ∨
        c.arena.Below .rule (d.get .body) l ∨
        c.arena.Below .rule (d.get .declaredType) l ∨
        c.arena.BelowAny .rule (NodeList.nodesOf (d.get .typeParameters)) l)
      (c.methodValue n d behind) IsIssued := by
  have hsignature (l : NodeId) :
      (∃ e ∈ Part.slots Recipe.signature, c.arena.InSlot i d e.1 e.2 l) ↔
        c.arena.Below .rule (d.get .declaredType) l ∨
          c.arena.BelowAny .rule (NodeList.nodesOf (d.get .typeParameters)) l := by
    rw [← Arena.hasInSlots_iff]
    exact or_congr (Arena.hasInSlot_child rfl) (Arena.hasInSlot_children rfl)
  refine Records.quiet_bind (records_tokens c.toSource) fun _ k _ _ => ?_
  refine Records.bind (hc.list _ k) fun _ k _ _ => ?_
  refine Records.bind (hc.child _ k) fun _ k _ _ => ?_
  refine Records.quiet_bind (records_start ..) fun draft k _ hid => ?_
  refine Records.of _ (Records.bind_quiet
    (hc.gather i n d Recipe.signature (by decide) k) fun signature k' hk' _ => ?_)
    fun l _ => (hsignature l).symm
  refine Records.pure fun k'' hk'' => ?_
  change ((draft.fill _).fill _).id < k''
  rw [id_fill, id_fill]
  omega

/-! ### Parameters -/

theorem restParameter (a : Arena) (n : Node) (d : Data .parameter) {name : EsNode} {k : Nat}
    (h : IsIssued name k) :
    Records a k (fun _ => False) (Converter.restParameter n d name) fun target k' =>
      target.id < k' := by
  rw [Converter.restParameter]
  split
  · refine Records.quiet_bind (records_start ..) fun draft k _ hid => ?_
    exact Records.pure fun k' hk' => Nat.lt_of_lt_of_le hid hk'
  · exact Records.pure fun k' hk' => Nat.lt_of_lt_of_le h hk'

theorem annotatedParameter (hc : c.Faithful) (d : Data .parameter) (nameStop : Nat)
    {target : Draft} {k : Nat} (h : target.id < k) :
    Records c.arena k (c.arena.Below .rule (d.get .declaredType))
      (c.annotatedParameter d nameStop target) IsIssued := by
  refine Records.bind_quiet (hc.ascription? _ k) fun ascription k' hk' _ => ?_
  -- No change to a draft changes which node it is.
  have hsame {k'' : Nat} (hk'' : k' ≤ k'') : target.id < k'' :=
    Nat.lt_of_lt_of_le h (Nat.le_trans hk' hk'')
  dsimp only
  split
  · refine Records.quiet_bind (records_tokens c.toSource) fun _ k'' hk'' _ => ?_
    refine Records.pure fun k''' hk''' => ?_
    cases ascription <;> exact hsame (Nat.le_trans hk'' hk''')
  · refine Records.pure fun k'' hk'' => ?_
    cases ascription <;> exact hsame hk''

theorem defaultedParameter (hc : c.Faithful) (n : Node) (d : Data .parameter) (isProperty : Bool)
    {target : EsNode} {k : Nat} (h : IsIssued target k) :
    Records c.arena k (fun l => d.get .dotDotDotToken = false ∧
        c.arena.Below .rule (d.get .initializer) l)
      (c.defaultedParameter n d isProperty target) fun result k' => result.id < k' := by
  rw [Converter.defaultedParameter]
  split
  · next hdefault =>
    refine Records.of (c.arena.Below .rule (d.get .initializer)) ?_ fun l _ =>
      and_iff_right (Bool.eq_false_iff.mpr hdefault.2)
    refine Records.bind_quiet (hc.child _ k) fun right k _ _ => ?_
    refine Records.quiet_bind (records_start ..) fun draft k _ hid => ?_
    refine Records.pure fun k' hk' => ?_
    rw [id_fill]
    exact Nat.lt_of_lt_of_le hid hk'
  · next hdefault =>
    refine Records.of _ (Records.pure fun k' hk' => Nat.lt_of_lt_of_le h hk') fun l hl =>
      iff_false_intro fun ⟨hdots, hbelow⟩ => hdefault ⟨?_, ?_⟩
    · rw [Option.isSome_iff_ne_none]
      exact fun hnone => Arena.not_below_of_node?_eq_none hl hnone hbelow
    · rw [hdots]
      nofun

theorem propertyParameter (n : Node) (modifiers : Option NodeList) {parameter : Draft} {k : Nat}
    (h : parameter.id < k) :
    Records c.arena k (fun _ => False) (c.propertyParameter n modifiers parameter)
      fun result k' => result.id < k' := by
  rw [Converter.propertyParameter]
  split
  · refine Records.quiet_bind (records_start ..) fun draft k _ hid => ?_
    refine Records.pure fun k' hk' => ?_
    rw [id_fill]
    exact Nat.lt_of_lt_of_le hid hk'
  · exact Records.pure fun k' hk' => Nat.lt_of_lt_of_le h hk'

theorem parameter (hc : c.Faithful) (hn : c.arena.nodes[i]? = some n)
    (hk : n.kind = .parameter) (k : Nat) :
    Records c.arena k (c.arena.Rest (.rule, i)) (c.parameter i n)
      (Outcome c.arena (some i)) := by
  refine records_parts fun d hd => ?_
  have hkept : Way.rule.kept .parameter .parameter = [(.decorators, .named), (.name, .rule),
      (.declaredType, .named), (.initializer, .fallback)] := rfl
  have hhole : c.arena.IsHole (some i) ↔ c.arena.IsHole (d.get .name) := by
    rw [Arena.isHole_some_iff hn, hk]
    simp [SyntaxKind.isElided, hd]
  have hrest (l : NodeId) : c.arena.Rest (.rule, i) l ↔
      (¬ c.arena.IsHole (d.get .name) ∧
        c.arena.BelowAny .rule (NodeList.nodesOf (d.get .decorators)) l) ∨
      c.arena.Below .rule (d.get .name) l ∨
      (¬ c.arena.IsHole (d.get .name) ∧ c.arena.Below .rule (d.get .declaredType) l) ∨
      ((¬ c.arena.IsHole (d.get .name) ∧ d.get .dotDotDotToken = false) ∧
        c.arena.Below .rule (d.get .initializer) l) :=
    (Arena.hasNext_of_kept hn hd hk hkept).trans
      (or_congr (Arena.hasInSlot_list_if rfl fun _ _ => Iff.rfl)
        (or_congr (Arena.hasInSlot_child rfl)
          (or_congr (Arena.inSlot_named rfl) (Arena.hasInSlot_node_if rfl fun _ _ => Iff.rfl))))
  refine Records.of (fun l => c.arena.Below .rule (d.get .name) l ∨
    (¬ c.arena.IsHole (d.get .name) ∧ (c.arena.Below .rule (d.get .declaredType) l ∨
      (d.get .dotDotDotToken = false ∧ c.arena.Below .rule (d.get .initializer) l) ∨
      c.arena.BelowAny .rule (NodeList.nodesOf (d.get .decorators)) l))) ?_ fun l _ => ?_
  · refine Records.bind (hc.convert _ k) fun name k hk hname => ?_
    -- A parameter disappears as a whole if its name does.
    cases name with
    | none =>
      have hnone : c.arena.IsHole (d.get .name) := hname.isHole
      refine Records.of _ (Records.pure fun _ _ => ?_) fun l _ => iff_false_intro fun h => h.1 hnone
      exact .of_isHole (hhole.mpr hnone)
    | some name =>
      have hnot : ¬ c.arena.IsHole (d.get .name) := hname.not_isHole
      refine Records.of (fun l => c.arena.Below .rule (d.get .declaredType) l ∨
        (d.get .dotDotDotToken = false ∧ c.arena.Below .rule (d.get .initializer) l) ∨
        c.arena.BelowAny .rule (NodeList.nodesOf (d.get .decorators)) l) ?_ fun l _ =>
          and_iff_right hnot
      refine Records.quiet_bind (restParameter c.arena n d (hname.2 name rfl)) fun target k _ h => ?_
      refine Records.bind (hc.annotatedParameter d _ h) fun target k _ h => ?_
      refine Records.bind (hc.defaultedParameter n d _ h) fun result k _ h => ?_
      refine Records.quiet_bind (propertyParameter n _ h) fun result k _ h => ?_
      refine Records.bind_quiet (hc.decorators? _ k) fun decorators k' hk' _ => ?_
      refine Records.pure fun k'' hk'' => .of_isIssued (mt hhole.mp hnot) ?_
      cases decorators <;> exact Nat.lt_of_lt_of_le h (Nat.le_trans hk' hk'')
  · rw [hrest]
    tauto

end Converter.Faithful

end ScriptTree
