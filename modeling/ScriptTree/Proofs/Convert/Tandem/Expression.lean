import ScriptTree.Convert.Expression
import ScriptTree.Convert.Markup
import ScriptTree.Proofs.Convert.Tandem.Down

/-!
# Expressions and markup in tandem

A chain of commas goes down along the chain at once: all of its operands are to be converted
(`ScriptTree.Tie.allNear_operands`). Names in markup are recorded as soon as they are made.
-/

namespace ScriptTree

open Holding

variable {M : Type} [AddCommMonoid M]

/-- An operator does not make a text. -/
theorem SyntaxKind.binaryType_ne (operator : SyntaxKind) : operator.binaryType ≠ .jsxText := by
  rw [binaryType]
  split
  · decide
  · split <;> decide

namespace Tie

variable {s : Source} {o : ConvertOptions} {T : Tie M s o} {w w' : WaysDown} {i : NodeId} {n : Node}
  {h k : M}

/-! ### Operators -/

/-- The operands of a chain of commas are to be converted. -/
theorem allNear_operands (hi : T.Around i n) {d : Data .binary} (hcomma : s.arena.IsComma i d)
    {others : List NodeRef}
    (hothers : s.arena.commaOperands (s.arena.nodes.size + 1) (d.get .left) = some others) :
    T.AllNear (d.get .right :: others).reverse :=
  fun _ hr _ hj => hi.near_of_visits (.operand hcomma hothers (hj ▸ List.mem_reverse.mp hr))

/-- The operands of another operator are children. -/
theorem Around.operands (hi : T.Around i n) {d : Data .binary}
    (hd : s.arena.data? .binary n = some d) (hoperator : d.get .operatorToken ≠ .commaToken) :
    T.Nears (d.get .left) ∧ T.Nears (d.get .right) := by
  have hnot (e : Data .binary) : ¬ s.arena.IsComma i e := by
    rintro ⟨m, hm, -, he, hcomma⟩
    obtain rfl : n = m := Option.some.inj (hi.node.symm.trans hm)
    obtain rfl : d = e := Option.some.inj (hd.symm.trans he)
    exact hoperator hcomma
  have hchild {f : Field} (hf : f ∈ Pool.binary.layout) : T.Nears (d.nodeAt f) := fun j hj =>
    hi.near_of_visits (.child hnot (Arena.isChild_of_nodeAt hi.node hd
      (Pool.mem_childFields (by decide) hf n.kind) hj))
  exact ⟨hchild (f := .left) (by decide), hchild (f := .right) (by decide)⟩

namespace Descents

theorem sequence (hw : T.Descents w w') (hi : T.Around i n) {d : Data .binary}
    (hcomma : s.arena.IsComma i d) :
    T.Tandem 0 ((T.left w).sequence n d) ((T.right w').sequence n d) T.nodes := by
  refine Tandem.await (hi.settled.imp_right fun h => h.operands d hcomma) fun others hothers => ?_
  have hoperands := allNear_operands hi hcomma hothers
  refine Tandem.step (Tandem.mapM _ fun r hr => hw.child (hoperands r hr)) fun a _ _ hx => ?_
  exact Tandem.build (field (T.array hx) .nil) rfl (by abel)

theorem operands (hw : T.Descents w w') {d : Data .binary} (hleft : T.Nears (d.get .left))
    (hright : T.Nears (d.get .right)) (isDefault : Bool) :
    T.Tandem 0 ((T.left w).operands n d isDefault) ((T.right w').operands n d isDefault)
      T.nodes := by
  refine Tandem.step (hw.child hleft) fun a _ _ hleft => ?_
  refine Tandem.step (hw.child hright) fun b _ _ hright => ?_
  refine Tandem.ite (fun _ => ?_) fun _ => ?_
  · exact Tandem.build (field hleft (field hright .nil)) rfl (by abel)
  · exact Tandem.build (plain rfl (field hleft (field hright .nil)))
      (decide_eq_true ⟨SyntaxKind.binaryType_ne _, of_decide_eq_true rfl⟩) (by abel)

theorem binary (hw : T.Descents w w') (hi : T.Around i n) (hk : n.kind = .binaryExpression) :
    T.Tandem 0 ((T.left w).binary i n) ((T.right w').binary i n) T.nodes := by
  refine Tandem.parts fun d hd => ?_
  refine Tandem.ite (fun hcomma => hw.sequence hi ⟨n, hi.node, hk, hd, hcomma⟩)
    fun hoperator => ?_
  obtain ⟨hleft, hright⟩ := hi.operands hd hoperator
  refine Tandem.ite (fun _ => ?_) fun _ => hw.operands hleft hright false
  refine Tandem.await (hi.settled.imp_right Source.IsSettled.target) fun inside _ => ?_
  exact hw.operands hleft hright inside

theorem unary (hw : T.Descents w w') (hi : T.Around i n) :
    T.Tandem 0 ((T.left w).unary i n) ((T.right w').unary i n) T.nodes := by
  refine Tandem.parts fun d hd => ?_
  refine Tandem.step (hw.child (hi.child hd .operand rfl)) fun a _ _ hargument => ?_
  exact Tandem.build (plain rfl (plain rfl (field hargument .nil))) (by split <;> rfl) (by abel)

theorem metaProperty (hw : T.Descents w w') (hi : T.Around i n) (hk : n.kind = .metaProperty) :
    T.Tandem 0 ((T.left w).metaProperty i n) ((T.right w').metaProperty i n) T.nodes := by
  refine Tandem.parts fun d hd => ?_
  refine Tandem.moved (hi.placed.imp_right fun hplaced => hplaced.keyword hk d hd) ?_
  refine Tandem.bind (Tandem.buildAt (plain rfl .nil) rfl rfl) fun a _ _ howner => ?_
  refine Tandem.step (hw.child (hi.child hd .name rfl)) fun b _ _ hproperty => ?_
  exact Tandem.build (field howner (field hproperty .nil)) rfl (by abel)

/-! ### Templates -/

theorem templateSpan (hw : T.Descents w w') {r : NodeRef} (hr : T.Nears r) :
    T.Tandem 0 ((T.left w).templateSpan r) ((T.right w').templateSpan r)
      (opt (both T.values T.values)) := by
  cases r with
  | none => exact Tandem.pure opt_none
  | some i =>
    simp only [Converter.templateSpan, Source.toSource_along, Source.node?_withOptions]
    cases hn : s.node? (some i) with
    | none => exact Tandem.pure opt_none
    | some n =>
      refine Tandem.parts fun d hd => ?_
      have hi := hr.around rfl hn
      refine Tandem.step (hw.child (hi.child hd .expression rfl)) fun a _ _ hexpression => ?_
      refine Tandem.step (hw.child (hi.child hd .literal rfl)) fun b _ _ hliteral => ?_
      exact Tandem.pure ⟨a, b, by rw [zero_add], hexpression, hliteral⟩

theorem template (hw : T.Descents w w') (hi : T.Around i n) :
    T.Tandem 0 ((T.left w).template i n) ((T.right w').template i n) T.nodes := by
  refine Tandem.parts fun d hd => ?_
  refine Tandem.step (hw.child (hi.child hd .head rfl)) fun a _ _ hhead => ?_
  have hlist : T.AllNear (d.get .templateSpans).nodes := hi.list hd .templateSpans rfl
  refine Tandem.step (Tandem.filterMapM _ fun r hr => hw.templateSpan (hlist r hr))
    fun b _ _ hspans => ?_
  obtain ⟨b₁, b₂, rfl, hexpressions, hpieces⟩ := hspans.unzip
  exact Tandem.build (field (T.array (.cons hhead hpieces)) (field (T.array hexpressions) .nil))
    rfl (by abel)

theorem taggedTemplate (hw : T.Descents w w') (hi : T.Around i n) :
    T.Tandem 0 ((T.left w).taggedTemplate i n) ((T.right w').taggedTemplate i n) T.nodes := by
  refine Tandem.parts fun d hd => ?_
  refine Tandem.step (hw.child (hi.child hd .tag rfl)) fun a _ _ htag => ?_
  refine Tandem.step (hw.typeArguments? (hi.bracketed hd .typeArguments rfl rfl))
    fun b _ _ harguments => ?_
  refine Tandem.step (hw.child (hi.child hd .template rfl)) fun c _ _ hquasi => ?_
  exact Tandem.build (field htag (field hquasi (field (opt_lift harguments) .nil))) rfl (by abel)

/-! ### Literals that may be targets -/

theorem arrayLiteral (hw : T.Descents w w') (hi : T.Around i n) :
    T.Tandem 0 ((T.left w).arrayLiteral i n) ((T.right w').arrayLiteral i n) T.nodes := by
  refine Tandem.parts fun d hd => ?_
  refine Tandem.await (hi.settled.imp_right Source.IsSettled.role) fun role _ => ?_
  refine Tandem.step (hw.list (hi.list hd .elements rfl)) fun a _ _ helements => ?_
  exact Tandem.build (field helements .nil) (by split <;> rfl) (by abel)

theorem objectLiteral (hw : T.Descents w w') (hi : T.Around i n) :
    T.Tandem 0 ((T.left w).objectLiteral i n) ((T.right w').objectLiteral i n) T.nodes := by
  refine Tandem.parts fun d hd => ?_
  refine Tandem.await (hi.settled.imp_right Source.IsSettled.role) fun role _ => ?_
  refine Tandem.step (hw.list (hi.list hd .elements rfl)) fun a _ _ hproperties => ?_
  exact Tandem.build (field hproperties .nil) (by split <;> rfl) (by abel)

theorem spread (hw : T.Descents w w') (hi : T.Around i n) :
    T.Tandem 0 ((T.left w).spread i n) ((T.right w').spread i n) T.nodes := by
  refine Tandem.parts fun d hd => ?_
  refine Tandem.await (hi.settled.imp_right Source.IsSettled.target) fun inside _ => ?_
  refine Tandem.step (hw.child (hi.child hd .expression rfl)) fun a _ _ hargument => ?_
  exact Tandem.build (field hargument .nil) (by split <;> rfl) (by abel)

theorem shorthandProperty (hw : T.Descents w w') (hi : T.Around i n) :
    T.Tandem 0 ((T.left w).shorthandProperty i n) ((T.right w').shorthandProperty i n) T.nodes := by
  refine Tandem.parts fun d hd => ?_
  refine Tandem.step (hw.child (hi.child hd .name rfl)) fun a _ _ hkey => ?_
  refine Tandem.step (hw.child (hi.child hd .name rfl)) fun b _ _ hvalue => ?_
  simp only [Source.toSource_along, Source.node?_withOptions]
  cases s.node? (d.get .objectAssignmentInitializer) with
  | none =>
    dsimp only
    rw [pure_bind, pure_bind]
    exact Tandem.build (field hkey (field hvalue (plain rfl (plain rfl (plain rfl
      (plain rfl .nil)))))) rfl (by abel)
  | some =>
    refine Tandem.step (hw.child (hi.child hd .objectAssignmentInitializer rfl))
      fun c _ _ hright => ?_
    refine Tandem.stepWith (l := b + c)
      (Tandem.map (Tandem.build (field hvalue (field hright .nil)) rfl (by abel))) a (by abel)
        fun e _ _ hvalue => ?_
    exact Tandem.build (field hkey (field hvalue (plain rfl (plain rfl (plain rfl
      (plain rfl .nil)))))) rfl (by abel)

/-! ### Names in markup -/

theorem markupName {i : NodeId} (hi : T.here i) (n : Node) :
    T.Tandem 0 ((T.left w).markupName (some i) n) ((T.right w').markupName (some i) n) T.nodes := by
  refine Tandem.bind (Tandem.build (plain rfl .nil) rfl rfl) fun a _ _ hname => ?_
  exact Tandem.register hi hname (Tandem.pure hname)

theorem tagNameOf (hw : T.Descents w w') {r : NodeRef} (hr : T.Enters r) :
    T.Tandem 0 ((T.left w).tagNameOf r) ((T.right w').tagNameOf r) T.values := by
  cases r with
  | none => exact Tandem.pure T.null
  | some i =>
    simp only [Converter.tagNameOf, Source.toSource_along, Source.node?_withOptions]
    cases hn : s.node? (some i) with
    | none => exact Tandem.pure T.null
    | some n =>
      have hi := hr i n rfl hn
      refine Tandem.ite (fun _ => ?_) fun _ => Tandem.map (markupName hi.here n)
      refine Tandem.parts fun d hd => ?_
      refine Tandem.step (hw.tagName (hi.child hd .expression rfl)) fun a _ _ hobject => ?_
      refine Tandem.step (hw.tagName (hi.child hd .nameOrArgument rfl)) fun b _ _ hproperty => ?_
      refine Tandem.bind (Tandem.build (field hobject (field hproperty .nil)) rfl (by abel))
        fun c _ _ hname => ?_
      exact Tandem.register hi.here hname (Tandem.pure hname)

/-! ### Tags -/

theorem markupAttributes (hw : T.Descents w w') {r : NodeRef} (hr : T.Nears r) :
    T.Tandem 0 ((T.left w).markupAttributes r) ((T.right w').markupAttributes r) T.values := by
  cases r with
  | none => exact Tandem.pure (T.array .nil)
  | some i =>
    simp only [Converter.markupAttributes, Source.toSource_along, Source.node?_withOptions]
    cases hn : s.node? (some i) with
    | none => exact Tandem.pure (T.array .nil)
    | some n =>
      refine Tandem.parts fun d hd => ?_
      exact hw.list ((hr.around rfl hn).list hd .properties rfl)

theorem openingTag (hw : T.Descents w w') (hi : T.Around i n) (selfClosing : Bool) :
    T.Tandem 0 ((T.left w).openingTag i n selfClosing) ((T.right w').openingTag i n selfClosing)
      T.nodes := by
  refine Tandem.parts fun d hd => ?_
  refine Tandem.step (hw.typeArguments? (hi.bracketed hd .typeArguments rfl rfl))
    fun a _ _ harguments => ?_
  refine Tandem.step (hw.tagName (hi.child hd .tagName rfl)) fun b _ _ hname => ?_
  refine Tandem.step (hw.markupAttributes (hi.child hd .attributes rfl))
    fun c _ _ hattributes => ?_
  exact Tandem.build (field (opt_lift harguments) (plain rfl
    (field hname (field hattributes .nil)))) rfl (by abel)

theorem selfClosingElement (hw : T.Descents w w') (hi : T.Around i n) :
    T.Tandem 0 ((T.left w).selfClosingElement i n) ((T.right w').selfClosingElement i n)
      T.nodes := by
  refine Tandem.bind (hw.openingTag hi true) fun a _ _ htag => ?_
  exact Tandem.build (field htag (plain rfl (field (T.array .nil) .nil))) rfl (by abel)

/-! ### Attributes and children -/

theorem markupAttribute (hw : T.Descents w w') (hi : T.Around i n) :
    T.Tandem 0 ((T.left w).markupAttribute i n) ((T.right w').markupAttribute i n) T.nodes := by
  refine Tandem.parts fun d hd => ?_
  have hname : T.Nears (d.get .name) := hi.child hd .name rfl
  have hword : T.Tandem 0
      ((s.node? (d.get .name)).mapM ((T.left w).markupName (d.get .name)))
      ((s.node? (d.get .name)).mapM ((T.right w').markupName (d.get .name))) (opt T.nodes) := by
    refine Tandem.optionMapM _ fun n hn => ?_
    obtain ⟨j, hj, -⟩ := Option.bind_eq_some_iff.mp hn
    rw [hj]
    exact markupName (T.here_of_near (hname j hj)) n
  refine Tandem.step hword fun a _ _ hname => ?_
  refine Tandem.step (hw.child (hi.child hd .initializer rfl)) fun b _ _ hvalue => ?_
  exact Tandem.build (field (ofNode? hname) (field hvalue .nil)) rfl (by abel)

theorem markupExpression (hw : T.Descents w w') (hi : T.Around i n) :
    T.Tandem 0 ((T.left w).markupExpression i n) ((T.right w').markupExpression i n) T.nodes := by
  refine Tandem.parts fun d hd => ?_
  refine Tandem.step (hw.convert (hi.child hd .expression rfl)) fun a x x' hx => ?_
  obtain ⟨rfl, rfl, rfl⟩ | ⟨es, es', rfl, rfl, hes⟩ := hx.cases
  · refine Tandem.stepWith (l := 0) (Tandem.buildAt .nil rfl rfl) 0 (by abel)
      fun b _ _ hexpression => ?_
    exact Tandem.build (field hexpression .nil) (by split <;> rfl) (by abel)
  · dsimp only
    rw [pure_bind, pure_bind]
    exact Tandem.build (field hes .nil) (by split <;> rfl) (by abel)

end Descents

end Tie

end ScriptTree
