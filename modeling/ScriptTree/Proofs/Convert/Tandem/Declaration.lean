import ScriptTree.Convert.Declaration
import ScriptTree.Convert.Exchange
import ScriptTree.Proofs.Convert.Tandem.Binding

/-!
# Declarations, imports and exports in tandem

Some rules take over the parts of another node, which may be absent. A declaration that gets its
modifiers one after the other may get the same mark twice; a mark holds nothing that could be lost.
-/

namespace ScriptTree

open Holding

variable {M : Type} [AddCommMonoid M]

namespace Tie

variable {s : Source} {o : ConvertOptions} {T : Tie M s o} {w w' : WaysDown} {i : NodeId} {n : Node}
  {h k : M}

/-- A draft to which modifiers are added has room for them, and is no text between tags. -/
structure HasMarks (d : Draft) : Prop where
  const : d.HasRoom "const"
  declare : d.HasRoom "declare"
  modifiers : "modifiers" ∉ d.keys
  global : "global" ∉ d.keys
  type_ne : d.type ≠ .known .jsxText

theorem HasMarks.prop {d : Draft} (h : HasMarks d) {key : String} {v : EsValue}
    (hv : v.isBare = true) (hkey : key = "const" ∨ key = "declare") :
    HasMarks (d.prop key v) where
  const := h.const.prop_of_isBare hv
  declare := h.declare.prop_of_isBare hv
  modifiers := by
    rw [Draft.mem_keys_prop, not_or]
    exact ⟨h.modifiers, by rcases hkey with rfl | rfl <;> decide⟩
  global := by
    rw [Draft.mem_keys_prop, not_or]
    exact ⟨h.global, by rcases hkey with rfl | rfl <;> decide⟩
  type_ne := h.type_ne

namespace Descents

/-! ### Clauses -/

theorem cases (hw : T.Descents w w') {r : NodeRef} (hr : T.Nears r) :
    T.Tandem 0 ((T.left w).cases r) ((T.right w').cases r) T.values := by
  cases r with
  | none => exact Tandem.pure (T.array .nil)
  | some i =>
    simp only [Converter.cases, Source.toSource_along, Source.node?_withOptions]
    cases hn : s.node? (some i) with
    | none => exact Tandem.pure (T.array .nil)
    | some n =>
      refine Tandem.parts fun d hd => ?_
      exact hw.list ((hr.around rfl hn).list hd .statements rfl)

theorem switch (hw : T.Descents w w') (hi : T.Around i n) :
    T.Tandem 0 ((T.left w).switch i n) ((T.right w').switch i n) T.nodes := by
  refine Tandem.parts fun d hd => ?_
  refine Tandem.step (hw.child (hi.child hd .expression rfl)) fun a _ _ hdiscriminant => ?_
  refine Tandem.step (hw.cases (hi.child hd .caseBlock rfl)) fun b _ _ hcases => ?_
  exact Tandem.build (field hdiscriminant (field hcases .nil)) rfl (by abel)

theorem caught (hw : T.Descents w w') {r : NodeRef} (hr : T.Nears r) :
    T.Tandem 0 ((T.left w).caught r) ((T.right w').caught r) T.values := by
  cases r with
  | none => exact Tandem.pure T.null
  | some i =>
    simp only [Converter.caught, Source.toSource_along, Source.node?_withOptions]
    cases hn : s.node? (some i) with
    | none => exact Tandem.pure T.null
    | some n =>
      refine Tandem.parts fun d hd => ?_
      exact hw.child ((hr.around rfl hn).child hd .name rfl)

theorem catchClause (hw : T.Descents w w') (hi : T.Around i n) :
    T.Tandem 0 ((T.left w).catchClause i n) ((T.right w').catchClause i n) T.nodes := by
  refine Tandem.parts fun d hd => ?_
  refine Tandem.step (hw.caught (hi.child hd .variableDeclaration rfl)) fun a _ _ hparam => ?_
  refine Tandem.step (hw.child (hi.child hd .block rfl)) fun b _ _ hbody => ?_
  exact Tandem.build (field hparam (field hbody .nil)) rfl (by abel)

/-! ### Types -/

theorem typeAlias (hw : T.Descents w w') (hi : T.Around i n) :
    T.Tandem 0 ((T.left w).typeAlias i n) ((T.right w').typeAlias i n) T.nodes := by
  refine Tandem.parts fun d hd => ?_
  refine Tandem.step (hw.child (hi.child hd .name rfl)) fun a _ _ hid => ?_
  refine Tandem.step (hw.typeParameters? (hi.bracketed hd .typeParameters rfl rfl))
    fun b _ _ hparameters => ?_
  refine Tandem.step (hw.child (hi.child hd .typeNode rfl)) fun c _ _ htype => ?_
  refine Tandem.bind (Tandem.buildAt (field hid (field htype (field (opt_lift hparameters) .nil)))
    rfl (by abel))
    fun e declarator _ hdeclarator => ?_
  refine Tandem.bind (Tandem.declare
    (plain rfl (field (ofNodes (each.singleton hdeclarator)) .nil)) rfl (by abel))
      fun _ _ _ hes => ?_
  exact exported _ hes

theorem typePredicate (hw : T.Descents w w') (hi : T.Around i n) :
    T.Tandem 0 ((T.left w).typePredicate i n) ((T.right w').typePredicate i n) T.nodes := by
  refine Tandem.parts fun d hd => ?_
  refine Tandem.step (hw.child (hi.child hd .parameterName rfl)) fun a _ _ hname => ?_
  simp only [Source.toSource_along, Source.node?_withOptions]
  cases s.node? (d.get .typeNode) with
  | none =>
    dsimp only
    rw [pure_bind, pure_bind]
    exact Tandem.build (field hname (plain rfl .nil)) rfl (by abel)
  | some type =>
    refine Tandem.step (hw.child (hi.child hd .typeNode rfl)) fun b _ _ hinner => ?_
    refine Tandem.stepWith (l := b) (Tandem.map (Tandem.build (field hinner .nil) rfl (by abel)))
      a (by abel) fun c _ _ hascription => ?_
    exact Tandem.build (field hname (field hascription .nil)) rfl (by abel)

/-! ### Enumerations and namespaces -/

/-- A declaration with some of its modifiers: what is converted so far, and what is still to be
added to the declaration. -/
def Modified (T : Tie M s o) : Holding M (Draft × List EsValue) := fun h x x' =>
  both T.drafts (each T.values) h x x' ∧ HasMarks x.1

theorem addModifier (hw : T.Descents w w') {x x' : Draft × List EsValue}
    (hx : Modified T k x x') {r : NodeRef} (hr : T.Nears r) :
    T.Tandem k ((T.left w).addModifier x r) ((T.right w').addModifier x' r) (Modified T) := by
  obtain ⟨⟨a, b, rfl, hd, hrest⟩, hmarks⟩ := id hx
  have hmark {key : String} (hkey : key = "const" ∨ key = "declare") :
      Modified T (a + b) (x.1.prop key (.bool true), x.2) (x'.1.prop key (.bool true), x'.2) := by
    refine ⟨⟨a, b, rfl, ?_, hrest⟩, hmarks.prop rfl hkey⟩
    rw [← add_zero a]
    refine T.prop ?_ (fun _ => ?_) hd (T.bare rfl)
    · rcases hkey with rfl | rfl <;> decide
    · rcases hkey with rfl | rfl
      · exact hmarks.const
      · exact hmarks.declare
  have hconverted : T.Tandem (a + b)
      (do pure (x.1, x.2 ++ [← (T.left w).child r]))
      (do pure (x'.1, x'.2 ++ [← (T.right w').child r]))
      (Modified T) := by
    refine Tandem.step (hw.child hr) fun c v v' hv => Tandem.pure ?_
    exact ⟨⟨a, b + c, add_assoc .., hd, hrest.append (each.singleton hv)⟩, hmarks⟩
  have hkind : (T.right w').arena.kind? r = (T.left w).arena.kind? r := rfl
  rw [Converter.addModifier, Converter.addModifier, hkind]
  split
  · exact Tandem.pure hx
  · exact Tandem.pure hx
  · exact Tandem.pure (hmark (.inl rfl))
  · exact Tandem.pure (hmark (.inr rfl))
  · exact hconverted

theorem modify (hw : T.Descents w w') {d d' : Draft} (hd : T.drafts k d d') (hmarks : HasMarks d)
    {modifiers : Option NodeList} (hl : T.AllNear (NodeList.nodesOf modifiers)) :
    T.Tandem k ((T.left w).modify d modifiers) ((T.right w').modify d' modifiers)
      fun h d d' => T.drafts h d d' ∧ "global" ∉ d.keys ∧ d.type ≠ .known .jsxText := by
  have hstep : ∀ h x x', Modified T h x x' → ∀ r ∈ NodeList.nodesOf modifiers,
      T.Tandem h ((T.left w).addModifier x r) ((T.right w').addModifier x' r) (Modified T) :=
    fun h x x' hx r hr => hw.addModifier hx (hl r hr)
  refine Tandem.bind (Tandem.foldlM _ hstep ⟨⟨k, 0, (add_zero k).symm, hd, .nil⟩, hmarks⟩) ?_
  rintro h ⟨d, rest⟩ ⟨d', rest'⟩ ⟨⟨a, b, rfl, hd, hrest⟩, hmarks⟩
  refine Tandem.pure ?_
  dsimp only at hrest hd hmarks ⊢
  rw [hrest.isEmpty_eq]
  split
  · next hempty =>
    obtain rfl : b = 0 := by
      cases hrest with
      | nil => rfl
      | cons => cases hempty
    rw [add_zero]
    exact ⟨hd, hmarks.global, hmarks.type_ne⟩
  · refine ⟨T.prop (by decide) (fun _ => Draft.hasRoom_of_not_mem hmarks.modifiers) hd
      (T.array hrest), ?_, hmarks.type_ne⟩
    rw [Draft.mem_keys_prop, not_or]
    exact ⟨hmarks.global, by decide⟩

/-- A draft with other fields than these has room for all marks. -/
theorem hasMarks_fill {d : Draft} {type : AstType} (htype : d.type = .known type)
    (hne : type ≠ .jsxText) {fs : List (String × Option EsValue)} (hempty : d.keys = [])
    (hfs : ∀ key ∈ ["const", "declare", "modifiers", "global"], key ∉ fs.map Prod.fst) :
    HasMarks (d.fill fs) := by
  have hnot (key : String) (hkey : key ∈ ["const", "declare", "modifiers", "global"]) :
      key ∉ (d.fill fs).keys := by
    intro hmem
    rcases Draft.mem_keys_fill hmem with hmem | hmem
    · rw [hempty] at hmem
      cases hmem
    · exact hfs key hkey hmem
  refine ⟨Draft.hasRoom_of_not_mem (hnot _ (by decide)),
    Draft.hasRoom_of_not_mem (hnot _ (by decide)), hnot _ (by decide), hnot _ (by decide), ?_⟩
  rw [(d.fill_range fs).2.2, htype]
  exact fun heq => hne (EsType.known.inj heq)

theorem enumeration (hw : T.Descents w w') (hi : T.Around i n) :
    T.Tandem 0 ((T.left w).enumeration i n) ((T.right w').enumeration i n) T.nodes := by
  refine Tandem.parts fun d hd => ?_
  refine Tandem.step (hw.child (hi.child hd .name rfl)) fun a _ _ hid => ?_
  refine Tandem.step (hw.list (hi.list hd .members rfl)) fun b _ _ hmembers => ?_
  refine Tandem.step (Tandem.startOver (by decide) n.pos n.stop) ?_
  rintro c draft draft' ⟨hdraft, hempty, htype⟩
  refine Tandem.bind (Tandem.cast (k := c + (a + (b + 0))) (hw.modify ?_
    (hasMarks_fill htype (by decide) hempty (by simp)) (hi.list hd .modifiers rfl)) (by abel)) ?_
  · exact fill_of_keys_eq_nil hdraft hempty (field hid (field hmembers .nil))
      (of_decide_eq_true rfl)
  rintro e draft draft' ⟨hdraft, -, htype⟩
  exact exported _ ⟨hdraft, htype⟩

theorem moduleDeclaration (hw : T.Descents w w') (hi : T.Around i n) :
    T.Tandem 0 ((T.left w).moduleDeclaration i n) ((T.right w').moduleDeclaration i n) T.nodes := by
  refine Tandem.parts fun d hd => ?_
  refine Tandem.step (hw.child (hi.child hd .name rfl)) fun a _ _ hid => ?_
  refine Tandem.step (hw.convert (hi.child hd .body rfl)) fun b _ _ hbody => ?_
  refine Tandem.step (Tandem.startOver (by decide) n.pos n.stop) ?_
  rintro c draft draft' ⟨hdraft, hempty, htype⟩
  refine Tandem.bind (Tandem.cast (k := c + (a + (b + 0))) (hw.modify ?_
    (hasMarks_fill htype (by decide) hempty (by simp)) (hi.list hd .modifiers rfl)) (by abel)) ?_
  · exact fill_of_keys_eq_nil hdraft hempty (field hid (field (opt_lift hbody) .nil))
      (of_decide_eq_true rfl)
  rintro e draft draft' ⟨hdraft, hglobal, htype⟩
  refine exported _ ⟨?_, ?_⟩
  · rw [← add_zero e]
    exact propOpt hdraft (opt_bare (EsValue.all_isBare_mark _)) (by decide)
      fun _ => Draft.hasRoom_of_not_mem hglobal
  · change (draft.propOpt "global" _).type ≠ _
    cases EsValue.mark (n.hasFlag NodeFlag.globalBit) <;> exact htype

/-! ### Imports -/

theorem defaultSpecifier (hw : T.Descents w w') (clause : Node) {r : NodeRef} (hr : T.Nears r) :
    T.Tandem 0 ((T.left w).defaultSpecifier clause r) ((T.right w').defaultSpecifier clause r)
      (each T.nodes) := by
  simp only [Converter.defaultSpecifier, Source.toSource_along, Source.node?_withOptions]
  cases s.node? r with
  | none => exact Tandem.pure .nil
  | some n =>
    refine Tandem.step (hw.child hr) fun a _ _ hlocal => ?_
    refine Tandem.bind (Tandem.buildAt (field hlocal .nil) rfl (by abel)) fun b _ _ hspecifier => ?_
    exact Tandem.pure (each.singleton hspecifier)

theorem listedSpecifiers (hw : T.Descents w w') {r : NodeRef} (hr : T.Nears r) :
    T.Tandem 0 ((T.left w).listedSpecifiers r) ((T.right w').listedSpecifiers r)
      (each T.nodes) := by
  cases r with
  | none => exact Tandem.pure .nil
  | some i =>
    simp only [Converter.listedSpecifiers, Source.toSource_along, Source.node?_withOptions]
    cases hn : s.node? (some i) with
    | none => exact Tandem.pure .nil
    | some n =>
      refine Tandem.ite (fun _ => ?_) fun _ => ?_
      · refine Tandem.bind (hw.convert hr) fun a x x' hx => Tandem.pure ?_
        obtain ⟨rfl, rfl, rfl⟩ | ⟨es, es', rfl, rfl, hes⟩ := hx.cases
        · exact .nil
        · exact each.singleton hes
      · refine Tandem.parts fun d hd => ?_
        have helements : T.AllNear (d.get .elements).nodes := (hr.around
          rfl hn).list hd .elements rfl
        exact Tandem.filterMapM _ fun r hr => hw.convert (helements r hr)

theorem importSpecifiers (hw : T.Descents w w') {r : NodeRef} (hr : T.Nears r) :
    T.Tandem 0 ((T.left w).importSpecifiers r) ((T.right w').importSpecifiers r)
      (each T.nodes) := by
  cases r with
  | none => exact Tandem.pure .nil
  | some i =>
    simp only [Converter.importSpecifiers, Source.toSource_along, Source.node?_withOptions]
    cases hn : s.node? (some i) with
    | none => exact Tandem.pure .nil
    | some n =>
      refine Tandem.parts fun d hd => ?_
      have hi := hr.around rfl hn
      refine Tandem.step (hw.defaultSpecifier n (hi.child hd .name rfl)) fun a _ _ hfirst => ?_
      refine Tandem.step (hw.listedSpecifiers (hi.child hd .namedBindings rfl))
        fun b _ _ hothers => ?_
      rw [zero_add]
      exact Tandem.pure (hfirst.append hothers)

theorem importDeclaration (hw : T.Descents w w') (hi : T.Around i n) :
    T.Tandem 0 ((T.left w).importDeclaration i n) ((T.right w').importDeclaration i n) T.nodes := by
  refine Tandem.parts fun d hd => ?_
  refine Tandem.step (hw.child (hi.child hd .moduleSpecifier rfl)) fun a _ _ hsource => ?_
  refine Tandem.step (hw.importSpecifiers (hi.child hd .importClause rfl))
    fun b _ _ hspecifiers => ?_
  exact Tandem.build (field hsource (field (ofNodes hspecifiers) .nil)) rfl (by abel)

/-- The name that a specifier has outside of this module is to be converted. -/
theorem nears_outerName (hi : T.Around i n) {d : Data .specifier}
    (hd : s.arena.data? .specifier n = some d) : T.Nears (Converter.outerName d) := by
  have hproperty : T.Nears (d.get .propertyName) := hi.child hd .propertyName rfl
  have hname : T.Nears (d.get .name) := hi.child hd .name rfl
  exact hproperty.or hname

theorem importSpecifier (hw : T.Descents w w') (hi : T.Around i n) :
    T.Tandem 0 ((T.left w).importSpecifier i n) ((T.right w').importSpecifier i n) T.nodes := by
  refine Tandem.parts fun d hd => ?_
  refine Tandem.step (hw.child (hi.child hd .name rfl)) fun a _ _ hlocal => ?_
  refine Tandem.step (hw.child (nears_outerName hi hd)) fun b _ _ himported => ?_
  exact Tandem.build (field hlocal (field himported .nil)) rfl (by abel)

/-! ### Exports -/

theorem exportSpecifier (hw : T.Descents w w') (hi : T.Around i n) :
    T.Tandem 0 ((T.left w).exportSpecifier i n) ((T.right w').exportSpecifier i n) T.nodes := by
  refine Tandem.parts fun d hd => ?_
  refine Tandem.step (hw.child (nears_outerName hi hd)) fun a _ _ hlocal => ?_
  refine Tandem.step (hw.child (hi.child hd .name rfl)) fun b _ _ hexported => ?_
  exact Tandem.build (field hlocal (field hexported .nil)) rfl (by abel)

theorem exportDeclaration (hw : T.Descents w w') (hi : T.Around i n) :
    T.Tandem 0 ((T.left w).exportDeclaration i n) ((T.right w').exportDeclaration i n) T.nodes := by
  refine Tandem.parts fun d hd => ?_
  refine Tandem.step (hw.child (hi.child hd .moduleSpecifier rfl))
    fun a source source' hsource => ?_
  have heverything : T.Tandem (0 + a)
      (Converter.exportDeclaration.everything (T.left w) n source)
      (Converter.exportDeclaration.everything (T.right w') n source') T.nodes :=
    Tandem.build (field hsource .nil) rfl (by abel)
  have hclause : T.Nears (d.get .exportClause) := hi.child hd .exportClause rfl
  cases hj : d.get .exportClause with
  | none => exact heverything
  | some j =>
    simp only [Source.toSource_along, Source.node?_withOptions]
    cases hn : s.node? (some j) with
    | none => exact heverything
    | some clause =>
      have hi := hclause.around hj hn
      refine Tandem.ite (fun _ => ?_) fun _ => ?_
      · refine Tandem.parts fun named hnamed => ?_
        refine Tandem.step (hw.list (hi.list hnamed .elements rfl)) fun b _ _ hspecifiers => ?_
        exact Tandem.build (plain rfl (field hspecifiers (field hsource .nil))) rfl (by abel)
      · refine Tandem.parts fun namespaced hnamespaced => ?_
        refine Tandem.step (hw.child (hi.child hnamespaced .name rfl)) fun b _ _ hexported => ?_
        exact Tandem.build (field hsource (field hexported .nil)) rfl (by abel)

theorem exportAssignment (hw : T.Descents w w') (hi : T.Around i n) :
    T.Tandem 0 ((T.left w).exportAssignment i n) ((T.right w').exportAssignment i n) T.nodes := by
  refine Tandem.parts fun d hd => ?_
  refine Tandem.step (hw.child (hi.child hd .expression rfl)) fun a _ _ hexpression => ?_
  refine Tandem.ite (fun _ => ?_) fun _ => ?_
  · exact Tandem.build (field hexpression .nil) rfl (by abel)
  · exact Tandem.build (field hexpression .nil) rfl (by abel)

end Descents

end Tie

end ScriptTree
