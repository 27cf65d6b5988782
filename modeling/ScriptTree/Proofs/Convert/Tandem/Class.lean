import ScriptTree.Convert.Class
import ScriptTree.Proofs.Convert.Tandem.Binding

/-!
# Classes and interfaces in tandem

The clauses of a class are read before anything is converted; of each sort the last one counts
(`ScriptTree.Tie.Clauses`).
-/

namespace ScriptTree

open Holding

variable {M : Type} [AddCommMonoid M]

namespace Tie

variable {s : Source} {o : ConvertOptions} {T : Tie M s o} {w w' : WaysDown} {i : NodeId} {n : Node}
  {h k : M}

/-! ### Heritage -/

/-- The same clauses, whose types are to be converted. -/
def Clauses (T : Tie M s o) : Holding M Converter.Clauses := fun h found found' =>
  same h found found' ∧ (∀ d ∈ found.extended, T.AllNear (d.get .types).nodes) ∧
    ∀ d ∈ found.implemented, T.AllNear (d.get .types).nodes

theorem Clauses.none : T.Clauses 0 {} {} :=
  ⟨⟨rfl, rfl⟩, fun _ hd => absurd hd.symm (Option.some_ne_none _),
    fun _ hd => absurd hd.symm (Option.some_ne_none _)⟩

theorem addClause {found found' : Converter.Clauses} (hfound : T.Clauses k found found')
    {r : NodeRef} (hr : T.Nears r) :
    T.Tandem k ((T.left w).addClause found r) ((T.right w').addClause found' r) T.Clauses := by
  obtain ⟨⟨rfl, rfl⟩, hextended, himplemented⟩ := id hfound
  cases r with
  | none => exact Tandem.pure hfound
  | some i =>
    simp only [Converter.addClause, Source.toSource_along, Source.node?_withOptions]
    cases hn : s.node? (some i) with
    | none => exact Tandem.pure hfound
    | some n =>
      refine Tandem.parts fun d hd => ?_
      have htypes : T.AllNear (d.get .types).nodes := (hr.around rfl hn).list hd .types rfl
      refine Tandem.ite (fun _ => Tandem.pure ?_) fun _ =>
        Tandem.ite (fun _ => Tandem.pure ?_) fun _ => Tandem.pure hfound
      · refine ⟨⟨rfl, rfl⟩, ?_, himplemented⟩
        rintro _ ⟨⟩
        exact htypes
      · refine ⟨⟨rfl, rfl⟩, hextended, ?_⟩
        rintro _ ⟨⟩
        exact htypes

theorem clauses (n : Node) {l : Option NodeList} (hl : T.AllNear (NodeList.nodesOf l)) :
    T.Tandem 0 ((T.left w).clauses n l) ((T.right w').clauses n l) T.Clauses := by
  have hclause : ∀ h found found', T.Clauses h found found' → ∀ r ∈ NodeList.nodesOf l,
      T.Tandem h ((T.left w).addClause found r) ((T.right w').addClause found' r) T.Clauses :=
    fun h found found' hfound r hr => addClause hfound (hl r hr)
  refine Tandem.bind (Tandem.foldlM _ hclause Clauses.none) fun h _ found hfound => ?_
  obtain ⟨⟨rfl, rfl⟩, -, -⟩ := id hfound
  cases found.extended.bind fun d => (d.get .types).nodes[1]? with
  | none => exact Tandem.pure hfound
  | some second => exact Tandem.fail (by rintro _ ⟨⟩)

namespace Descents

theorem heritage (hw : T.Descents w w') {type : AstType} (htype : type ≠ .jsxText) {key : String}
    (hkey : EsProps.AreNames [key, "typeParameters"]) {r : NodeRef} (hr : T.Nears r) :
    T.Tandem 0 ((T.left w).heritage type key r) ((T.right w').heritage type key r) T.values := by
  cases r with
  | none => exact Tandem.pure T.null
  | some i =>
    simp only [Converter.heritage, Source.toSource_along, Source.node?_withOptions]
    cases hn : s.node? (some i) with
    | none => exact Tandem.pure T.null
    | some n =>
      refine Tandem.parts fun d hd => ?_
      have hi := hr.around rfl hn
      refine Tandem.step (hw.child (hi.child hd .expression rfl)) fun _ _ _ hname => ?_
      refine Tandem.step (hw.typeArguments? (hi.bracketed hd .typeArguments rfl rfl))
        fun _ _ _ harguments => ?_
      exact Tandem.map (Tandem.build (field hname (field (opt_lift harguments) .nil))
        (decide_eq_true ⟨htype, hkey⟩) (by abel))

theorem extended (hw : T.Descents w w') {found : Converter.Clauses}
    (hfound : T.Clauses 0 found found) :
    T.Tandem 0 ((T.left w).extended found) ((T.right w').extended found)
      (both T.values (opt T.nodes)) := by
  have hr : T.Nears (found.extended.bind fun d => (d.get .types).first) := by
    cases hextended : found.extended with
    | none => exact fun j hj => absurd hj.symm (Option.some_ne_none j)
    | some d => exact (hfound.2.1 d hextended).first
  have hnone : T.Tandem 0 (pure (EsValue.null, none)) (pure (EsValue.null, none))
      (both T.values (opt T.nodes)) :=
    Tandem.pure ⟨0, 0, (add_zero 0).symm, T.null, opt_none⟩
  rw [Converter.extended, Converter.extended]
  cases hi : found.extended.bind fun d => (d.get .types).first with
  | none => exact hnone
  | some i =>
    simp only [Source.toSource_along, Source.node?_withOptions]
    cases hn : s.node? (some i) with
    | none => exact hnone
    | some n =>
      refine Tandem.parts fun d hd => ?_
      have hi := hr.around hi hn
      refine Tandem.step (hw.child (hi.child hd .expression rfl)) fun a _ _ hname => ?_
      refine Tandem.step (hw.typeArguments? (hi.bracketed hd .typeArguments rfl rfl))
        fun b _ _ harguments => ?_
      exact Tandem.pure ⟨a, b, by rw [zero_add], hname, harguments⟩

theorem implemented (hw : T.Descents w w') {found : Converter.Clauses}
    (hfound : T.Clauses 0 found found) :
    T.Tandem 0
      (found.implemented.mapM fun clause =>
        (clause.get .types).nodes.mapM ((T.left w).heritage .classImplements "expression"))
      (found.implemented.mapM fun clause =>
        (clause.get .types).nodes.mapM ((T.right w').heritage .classImplements "expression"))
      (opt (each T.values)) :=
  Tandem.optionMapM _ fun d hd => Tandem.mapM _ fun r hr =>
    hw.heritage (by decide) (by decide) (hfound.2.2 d hd r hr)

theorem extendedInterfaces (hw : T.Descents w w') {r : NodeRef} (hr : T.Nears r) :
    T.Tandem 0 ((T.left w).extendedInterfaces r) ((T.right w').extendedInterfaces r)
      (each T.values) := by
  cases r with
  | none => exact Tandem.pure .nil
  | some i =>
    simp only [Converter.extendedInterfaces, Source.toSource_along, Source.node?_withOptions]
    cases hn : s.node? (some i) with
    | none => exact Tandem.pure .nil
    | some n =>
      refine Tandem.parts fun d hd => ?_
      have htypes : T.AllNear (d.get .types).nodes := (hr.around rfl hn).list hd .types rfl
      exact Tandem.mapM _ fun r hr => hw.heritage (by decide) (by decide) (htypes r hr)

/-! ### Classes and interfaces -/

theorem classLike (hw : T.Descents w w') (hi : T.Around i n) :
    T.Tandem 0 ((T.left w).classLike i n) ((T.right w').classLike i n) T.nodes := by
  refine Tandem.parts fun d hd => ?_
  refine Tandem.bind (clauses n (hi.list hd .heritageClauses rfl)) fun h _ found hfound => ?_
  obtain ⟨⟨rfl, rfl⟩, -, -⟩ := id hfound
  refine Tandem.step (hw.child (hi.child hd .name rfl)) fun a _ _ hid => ?_
  rw [Converter.bodyStart, Converter.bodyStart, bind_assoc, bind_assoc]
  refine Tandem.tokens fun index _ => ?_
  rw [pure_bind, pure_bind]
  refine Tandem.step (hw.statements (hi.list hd .members rfl)) fun b _ _ hmembers => ?_
  refine Tandem.stepWith (l := b) (Tandem.buildAt (field hmembers .nil) rfl (by abel)) a
    (by abel) fun b _ _ hbody => ?_
  refine Tandem.step (hw.extended hfound) fun c sup sup' hsuper => ?_
  obtain ⟨c₁, c₂, rfl, hsuperClass, hsuperArguments⟩ := hsuper
  refine Tandem.step (hw.implemented hfound) fun e _ _ himplemented => ?_
  refine Tandem.step (hw.decorators? (hi.list hd .decorators rfl)) fun f _ _ hdecorators => ?_
  refine Tandem.step (hw.typeParameters? (hi.bracketed hd .typeParameters rfl rfl))
    fun g _ _ hparameters => ?_
  refine Tandem.bind (Tandem.declare (field hid (field hbody (field hsuperClass
    (field (opt_lift hsuperArguments) (field (himplemented.map fun _ _ => T.array)
      (field hdecorators (field (opt_lift hparameters) .nil))))))) (by (repeat' split) <;> rfl)
        (by abel)) fun _ _ _ hes => ?_
  exact Tandem.ite (fun _ => exported _ hes) fun _ => Tandem.pure hes.1

theorem interface (hw : T.Descents w w') (hi : T.Around i n) :
    T.Tandem 0 ((T.left w).interface i n) ((T.right w').interface i n) T.nodes := by
  refine Tandem.parts fun d hd => ?_
  rw [Converter.bodyStart, Converter.bodyStart, bind_assoc, bind_assoc]
  refine Tandem.tokens fun index _ => ?_
  rw [pure_bind, pure_bind]
  refine Tandem.step (hw.list (hi.list hd .members rfl)) fun a _ _ hmembers => ?_
  refine Tandem.bind (Tandem.buildAt (field hmembers .nil) rfl (by abel)) fun a _ _ hbody => ?_
  refine Tandem.step (hw.child (hi.child hd .name rfl)) fun b _ _ hid => ?_
  have hclauses : T.AllNear (NodeList.nodesOf (d.get .heritageClauses)) :=
    hi.list hd .heritageClauses rfl
  refine Tandem.step (hw.extendedInterfaces hclauses.bind_first) fun c _ _ hheritage => ?_
  refine Tandem.step (hw.typeParameters? (hi.bracketed hd .typeParameters rfl rfl))
    fun e _ _ hparameters => ?_
  refine Tandem.step (hw.decorators? (hi.list hd .decorators rfl)) fun f _ _ hdecorators => ?_
  refine Tandem.bind (Tandem.declare (plain rfl (field hbody (field hid (field (T.array hheritage)
    (field (opt_lift hparameters) (field hdecorators .nil)))))) rfl (by abel)) fun _ _ _ hes => ?_
  exact exported _ hes

/-! ### Members -/

theorem classProperty (hw : T.Descents w w') (hi : T.Around i n) :
    T.Tandem 0 ((T.left w).classProperty i n) ((T.right w').classProperty i n) T.nodes := by
  refine Tandem.parts fun d hd => ?_
  refine Tandem.step (hw.child (hi.child hd .name rfl)) fun a _ _ hkey => ?_
  refine Tandem.step (hw.child (hi.child hd .initializer rfl)) fun b _ _ hvalue => ?_
  refine Tandem.step (hw.ascription? (hi.child hd .declaredType rfl)) fun c _ _ hascription => ?_
  refine Tandem.step (hw.decorators? (hi.list hd .decorators rfl)) fun e _ _ hdecorators => ?_
  exact Tandem.build (field hkey (field hvalue (plain rfl (plain rfl (mark
    (field (opt_lift hascription) (field hdecorators (plain (by simp) (mark (mark .nil))))))))))
    (by split <;> rfl) (by abel)

/-- A method is not a text between tags. -/
theorem methodType_ne (flags : List Modifier) : Converter.methodType flags ≠ .jsxText := by
  rw [Converter.methodType]
  split <;> decide

theorem method (hw : T.Descents w w') (hi : T.Around i n) :
    T.Tandem 0 ((T.left w).method i n) ((T.right w').method i n) T.nodes := by
  refine Tandem.parts fun d hd => ?_
  refine Tandem.step (hw.child (hi.child hd .name rfl)) fun a _ _ hkey => ?_
  refine Tandem.step (hw.methodValue hi hd _) fun b _ _ hvalue => ?_
  refine Tandem.ite (fun _ => ?_) fun _ => ?_
  · exact Tandem.build (field hkey (field hvalue (plain rfl (plain rfl (plain rfl (plain rfl
      (mark .nil))))))) rfl (by abel)
  · refine Tandem.step (hw.decorators? (hi.list hd .decorators rfl)) fun c _ _ hdecorators => ?_
    exact Tandem.build (field hkey (field hvalue (plain rfl (plain rfl (plain rfl
      (field hdecorators (plain (by simp) (mark .nil))))))))
      (decide_eq_true ⟨methodType_ne _, of_decide_eq_true rfl⟩) (by abel)

theorem constructorKey (t : SourceToken) :
    T.Tandem 0 ((T.left w).constructorKey t) ((T.right w').constructorKey t) T.nodes :=
  Tandem.ite (fun _ => Tandem.buildAt (plain rfl (plain rfl .nil)) rfl rfl) fun _ =>
    Tandem.buildAt (plain rfl .nil) rfl rfl

theorem constructorMethod (hw : T.Descents w w') (hi : T.Around i n) :
    T.Tandem 0 ((T.left w).constructorMethod i n) ((T.right w').constructorMethod i n) T.nodes := by
  refine Tandem.parts fun d hd => ?_
  refine Tandem.tokens fun index _ => ?_
  simp only [Source.toSource_along, Source.node?_withOptions]
  cases index.atOrAfter
    (((s.node? ((d.get .modifiers).bind NodeList.last)).map Node.stop).getD n.pos) with
  | none => exact Tandem.fail (by rintro _ ⟨⟩)
  | some token =>
    refine Tandem.step (constructorKey token) fun a _ _ hkey => ?_
    refine Tandem.step (hw.methodValue hi hd _) fun b _ _ hvalue => ?_
    exact Tandem.build (field hkey (field hvalue (plain rfl (plain rfl (plain (by simp)
      (plain (by simp) .nil))))))
      (decide_eq_true ⟨methodType_ne _, of_decide_eq_true rfl⟩) (by abel)

end Descents

end Tie

end ScriptTree
