import ScriptTree.Convert.Function
import ScriptTree.Proofs.Convert.Tandem.Rote

/-!
# Variables and parameters in tandem

Here finished nodes are opened again: an exported declaration gets another start, and the name of a
variable or parameter gets an ascription, a mark and decorators. If the name has such a field
already, the value that was there is lost. A plain name has none of them.
-/

namespace ScriptTree

open Holding

variable {M : Type} [AddCommMonoid M]

/-- The fields that are added to a name that is finished. -/
def EsProps.adornments : List String := ["typeAnnotation", "optional", "decorators"]

/-- Nothing is lost if fields are added to a name. -/
def Draft.IsUnadorned (d : Draft) : Prop := ∀ key ∈ EsProps.adornments, d.HasRoom key

namespace Tie

variable {s : Source} {o : ConvertOptions} {T : Tie M s o} {w w' : WaysDown} {i : NodeId} {n : Node}
  {h k : M}

/-! ### Exports -/

/-- An exported declaration starts behind the words for the export. -/
theorem exported (modifiers : Option NodeList) {declaration declaration' : EsNode}
    (hd : T.declarations k declaration declaration') :
    T.Tandem k ((T.left w).exported modifiers declaration)
      ((T.right w').exported modifiers declaration') T.nodes := by
  simp only [Converter.exported, Source.toSource_along, Source.node?_withOptions]
  cases s.node? ((modifiers.map NodeList.nodes).getD []).head?.join with
  | none => exact Tandem.pure hd.1
  | some first =>
    refine Tandem.ite (fun _ => ?_) fun _ => Tandem.pure hd.1
    refine Tandem.tokens fun index _ => ?_
    have hinner {pos : Nat} : T.nodes k (s.finish ((Draft.reopen declaration).startAt pos))
        (s.finish ((Draft.reopen declaration').startAt pos)) :=
      T.startAt pos hd.2 (T.reopen hd.1)
    have hstop (pos : Nat) : (s.finish ((Draft.reopen declaration').startAt pos)).head.stop =
        (s.finish ((Draft.reopen declaration).startAt pos)).head.stop := (T.range hinner).2
    refine Tandem.ite (fun _ => ?_) fun _ => ?_
    · change T.Tandem k _ ((s.withOptions o).buildAt _ _
        (s.finish ((Draft.reopen declaration').startAt _)).head.stop _) _
      rw [hstop]
      exact Tandem.buildAt (field hinner .nil) rfl (by abel)
    · change T.Tandem k _ ((s.withOptions o).buildAt _ _
        (s.finish ((Draft.reopen declaration').startAt _)).head.stop _) _
      rw [hstop]
      exact Tandem.buildAt (field hinner (field (T.array .nil) (plain rfl .nil))) rfl (by abel)

/-! ### Names that are opened again -/

/-- An ascription, and the end that follows it. -/
theorem ascribe {d d' : Draft} {a a' : EsNode} (hd : T.drafts h d d') (ha : T.nodes k a a')
    (hroom : T.exact → d.HasRoom "typeAnnotation") :
    T.drafts (h + k) ((d.prop "typeAnnotation" a).extendTo a.head.stop)
      ((d'.prop "typeAnnotation" a').extendTo a'.head.stop) := by
  rw [(T.range ha).2]
  exact T.extendTo _ (T.prop (by decide) hroom hd ha)

namespace Descents

/-- A name to which nothing was added has no other fields than names do. -/
theorem plainName (hw : T.Descents w w') {r : NodeRef} (hr : T.Nears r)
    (hplain : T.exact → s.arena.IsPlainName r) :
    T.Tandem 0 (w.convert r) (w'.convert r) fun h x x' => opt T.nodes h x x' ∧
      (T.exact → ∀ es ∈ x, (Draft.reopen es).IsUnadorned) := by
  refine ((hw.convert hr).yields (hw.names hplain)).mono ?_
  rintro h x x' ⟨hx, hkeys⟩
  refine ⟨hx, fun hexact es hes key hkey => Draft.hasRoom_of_not_mem fun hmem => ?_⟩
  have hdisjoint : ∀ key ∈ EsProps.ofNames, key ∉ EsProps.adornments := by decide
  exact hdisjoint key (hkeys hexact es hes hmem) hkey

/-! ### Variables -/

theorem variableStatement (hw : T.Descents w w') (hi : T.Around i n) :
    T.Tandem 0 ((T.left w).variableStatement i n) ((T.right w').variableStatement i n) T.nodes := by
  refine Tandem.parts fun d hd => ?_
  have hj : T.Nears (d.get .declarationList) := hi.child hd .declarationList rfl
  cases hlist : d.get .declarationList with
  | none => exact Tandem.fail (by rintro _ ⟨⟩)
  | some j =>
    rw [hlist] at hj
    simp only [Source.toSource_along, Source.node?_withOptions]
    cases hnode : s.node? (some j) with
    | none => exact Tandem.fail (by rintro _ ⟨⟩)
    | some list =>
      refine Tandem.parts fun parts hparts => ?_
      refine Tandem.step (hw.list ((hj.around rfl hnode).list hparts .declarations rfl))
        fun _ _ _ hdeclarations => ?_
      refine Tandem.bind (Tandem.declare (field hdeclarations (plain rfl (mark .nil))) rfl
        (by abel)) fun _ _ _ hes => exported _ hes

theorem declarator (hw : T.Descents w w') (hi : T.Around i n)
    (hk : n.kind = .variableDeclaration) :
    T.Tandem 0 ((T.left w).declarator i n) ((T.right w').declarator i n) T.nodes := by
  refine Tandem.parts fun d hd => ?_
  have hinit {id id' : EsValue} {k : M} (hid : T.values k id id') : T.Tandem k
      (do
        let init ← (T.left w).child (d.get .initializer)
        (T.left w).build .variableDeclarator n
          [("id", id), ("init", init), ("definite", EsValue.mark (d.get .exclamationToken))])
      (do
        let init ← (T.right w').child (d.get .initializer)
        (T.right w').build .variableDeclarator n
          [("id", id'), ("init", init), ("definite", EsValue.mark (d.get .exclamationToken))])
      T.nodes :=
    Tandem.step (hw.child (hi.child hd .initializer rfl)) fun _ _ _ hinit =>
      Tandem.build (field hid (field hinit (mark .nil))) rfl (by abel)
  refine Tandem.step (hw.plainName (hi.child hd .name rfl) fun hexact =>
    (hi.hasPlainName hexact).variable_name hk d hd) ?_
  rintro a x x' ⟨hx, hroom⟩
  obtain ⟨rfl, rfl, rfl⟩ | ⟨name, name', rfl, rfl, hname⟩ := hx.cases
  · exact (hinit T.null).cast (add_zero 0)
  · refine Tandem.step (hw.ascription? (hi.child hd .declaredType rfl)) fun b y y' hy => ?_
    obtain ⟨rfl, rfl, rfl⟩ | ⟨ascription, ascription', rfl, rfl, hascription⟩ := hy.cases
    · exact (hinit hname).cast (by abel)
    · refine (hinit ?_).cast (congrArg (· + b) (zero_add a))
      exact ascribe (T.reopen hname) hascription fun hexact =>
        hroom hexact name rfl "typeAnnotation" (by decide)

/-! ### Elements of patterns -/

theorem arrayElement (hw : T.Descents w w') (d : Data .bindingElement)
    (hname : T.Nears (d.get .name)) (hinit : T.Nears (d.get .initializer)) :
    T.Tandem 0 ((T.left w).arrayElement n d) ((T.right w').arrayElement n d) (opt T.nodes) := by
  simp only [Converter.arrayElement, Source.toSource_along, Source.node?_withOptions]
  cases s.node? (d.get .initializer) with
  | none => exact hw.convert hname
  | some =>
    refine Tandem.step (hw.child hname) fun _ _ _ hleft => ?_
    refine Tandem.step (hw.child hinit) fun _ _ _ hright => ?_
    exact Tandem.map (Tandem.build (field hleft (field hright .nil)) rfl (by abel))

theorem objectElement (hw : T.Descents w w') (d : Data .bindingElement)
    (hproperty : T.Nears (d.get .propertyName)) (hname : T.Nears (d.get .name))
    (hinit : T.Nears (d.get .initializer)) :
    T.Tandem 0 ((T.left w).objectElement n d) ((T.right w').objectElement n d) T.nodes := by
  have hkey : T.Nears (if (d.get .propertyName).isNone then d.get .name
      else d.get .propertyName) := by
    split
    · exact hname
    · exact hproperty
  simp only [Converter.objectElement, Source.toSource_along, Source.node?_withOptions]
  refine Tandem.step (hw.child hkey) fun a _ _ hkey => ?_
  refine Tandem.step (hw.child hname) fun b left left' hleft => ?_
  split
  · refine Tandem.step (hw.child hinit) fun c _ _ hright => ?_
    refine Tandem.stepWith (l := b + c)
      (Tandem.map (Tandem.buildAt (field hleft (field hright .nil)) rfl (by abel))) a (by abel)
        fun e _ _ hvalue => ?_
    exact Tandem.build (field hkey (field hvalue (plain rfl (plain rfl (plain rfl
      (plain rfl .nil)))))) rfl (by abel)
  · rw [pure_bind, pure_bind]
    exact Tandem.build (field hkey (field hleft (plain rfl (plain rfl (plain rfl
      (plain rfl .nil)))))) rfl (by abel)

theorem bindingElement (hw : T.Descents w w') (hi : T.Around i n) :
    T.Tandem 0 ((T.left w).bindingElement i n) ((T.right w').bindingElement i n)
      (opt T.nodes) := by
  refine Tandem.parts fun d hd => ?_
  refine Tandem.ite (fun _ => ?_) fun _ => Tandem.ite (fun _ => ?_) fun _ => ?_
  · have htarget : T.Nears (if (T.left w).hasKind ((T.left w).arena.parent (some i))
        .objectBindingPattern = true ∧ (d.get .propertyName).isSome = true
        then d.get .propertyName else d.get .name) := by
      split
      · exact hi.child hd .propertyName rfl
      · exact hi.child hd .name rfl
    refine Tandem.step (hw.child htarget) fun _ _ _ hargument => ?_
    exact Tandem.map (Tandem.build (field hargument .nil) rfl (by abel))
  · exact Tandem.map (hw.objectElement d (hi.child hd .propertyName rfl) (hi.child hd .name rfl)
      (hi.child hd .initializer rfl))
  · exact hw.arrayElement d (hi.child hd .name rfl) (hi.child hd .initializer rfl)

/-! ### Functions -/

theorem functionDeclaration (hw : T.Descents w w') (hi : T.Around i n)
    (hk : n.kind = .functionDeclaration) :
    T.Tandem 0 ((T.left w).functionDeclaration i n) ((T.right w').functionDeclaration i n)
      T.nodes := by
  refine Tandem.parts fun d hd => ?_
  refine Tandem.bind (hw.follow hi ?_) fun _ _ _ hes => exported _ hes
  rw [hk]
  refine Recipe.suits_of_function ?_
  split <;> decide

theorem methodValue (hw : T.Descents w w') (hi : T.Around i n) {d : Data .function}
    (hd : s.arena.data? .function n = some d) (behind : Nat) :
    T.Tandem 0 ((T.left w).methodValue n d behind) ((T.right w').methodValue n d behind)
      T.nodes := by
  refine Tandem.tokens fun index _ => ?_
  refine Tandem.step (hw.list (hi.list hd .parameters rfl)) fun a params params' hparams => ?_
  refine Tandem.step (hw.child (hi.child hd .body rfl)) fun b body body' hbody => ?_
  refine Tandem.step (Tandem.startOver (by decide) _ n.stop) ?_
  rintro c draft draft' ⟨hdraft, hempty, -⟩
  refine Tandem.step (hw.gather hi hd nofun fun x hx => ?_) ?_
  · have hof : ∀ x ∈ Recipe.signature, ∀ e, x.2.slot? = some e → e.1 ∈ Pool.layout .function := by
      decide
    have hbrackets : ∀ x ∈ Recipe.signature, ∀ f ∈ x.2.brackets?, f ∈ Field.bracketed := by decide
    exact ⟨fun e he => Pool.mem_childFields (by decide) (hof x hx e he) n.kind, hbrackets x hx⟩
  rintro e fs fs' ⟨hfs, hkeys⟩
  refine Tandem.pure ?_
  have hsum : 0 + a + b + c + e = c + (b + (a + 0)) + e := by abel
  rw [hsum]
  refine fill (fill_of_keys_eq_nil hdraft hempty
    (plain rfl (plain rfl (plain rfl (plain rfl (field hbody (field hparams .nil))))))
    (of_decide_eq_true rfl))
      hfs ?_ fun _ key hkey => ?_
  · rw [hkeys]
    decide
  · rw [hkeys] at hkey
    have hother : ∀ key ∈ Recipe.signature.map Prod.fst,
        key ∉ ["id", "generator", "expression", "async", "body", "params"] := by decide
    exact Draft.hasRoom_fill hempty (hother key hkey)

/-! ### Parameters -/

/-- The rest of the arguments is a node of its own, without other fields. -/
theorem restParameter (n : Node) (d : Data .parameter) {name name' : EsNode}
    (hname : T.nodes k name name') (hroom : T.exact → (Draft.reopen name).IsUnadorned) :
    T.Tandem k (Converter.restParameter n d name) (Converter.restParameter n d name')
      fun h t t' => T.drafts h t t' ∧ (T.exact → t.IsUnadorned) := by
  refine Tandem.ite (fun _ => ?_) fun _ => Tandem.pure ⟨T.reopen hname, hroom⟩
  refine Tandem.step (Tandem.startOver (by decide) n.pos n.stop) ?_
  rintro a draft draft' ⟨hdraft, hempty, -⟩
  refine Tandem.pure ⟨?_, fun _ key hkey => ?_⟩
  · rw [add_comm]
    refine T.prop (by decide) (fun _ => Draft.hasRoom_of_not_mem ?_) hdraft hname
    rw [hempty]
    exact List.not_mem_nil
  · refine (Draft.hasRoom_of_not_mem ?_).prop_of_ne ?_
    · rw [hempty]
      exact List.not_mem_nil
    · rintro rfl
      revert hkey
      decide

theorem annotatedParameter (hw : T.Descents w w') (d : Data .parameter)
    (hr : T.Nears (d.get .declaredType)) (nameStop : Nat) {t t' : Draft} (ht : T.drafts k t t')
    (hroom : T.exact → t.IsUnadorned) :
    T.Tandem k ((T.left w).annotatedParameter d nameStop t)
      ((T.right w').annotatedParameter d nameStop t')
      fun h es es' => T.nodes h es es' ∧ (T.exact → (Draft.reopen es).HasRoom "decorators") := by
  -- With a type or without, the mark is looked for behind what was built.
  have hmark {k : M} {t t' : Draft} (ht : T.drafts k t t')
      (hoptional : T.exact → t.HasRoom "optional")
      (hdecorators : T.exact → t.HasRoom "decorators") : T.Tandem k
      (if d.get .questionToken then do
        let mark := ((← (T.left w).tokens).atOrAfter nameStop).filter fun t =>
          t.kind == .questionToken
        let target := t.extendTo ((mark.map SourceToken.stop).getD t.stop)
        pure ((T.left w).finish (target.prop "optional" true))
      else pure ((T.left w).finish t))
      (if d.get .questionToken then do
        let mark := ((← (T.right w').tokens).atOrAfter nameStop).filter fun t =>
          t.kind == .questionToken
        let target := t'.extendTo ((mark.map SourceToken.stop).getD t'.stop)
        pure ((T.right w').finish (target.prop "optional" true))
      else pure ((T.right w').finish t'))
      fun h es es' => T.nodes h es es' ∧
        (T.exact → (Draft.reopen es).HasRoom "decorators") := by
    refine Tandem.ite (fun _ => ?_) fun _ => Tandem.pure ⟨ht, hdecorators⟩
    refine Tandem.tokens fun index _ => Tandem.pure ⟨?_, fun hexact => ?_⟩
    · have hstop : t'.stop = t.stop := (T.range ht).2
      rw [hstop, ← add_zero k]
      exact T.prop (by decide) hoptional (T.extendTo _ ht) (T.bare rfl)
    · exact (hdecorators hexact).prop_of_isBare rfl
  refine Tandem.step (hw.ascription? hr) fun a x x' hx => ?_
  obtain ⟨rfl, rfl, rfl⟩ | ⟨ascription, ascription', rfl, rfl, hascription⟩ := hx.cases
  · rw [add_zero]
    exact hmark ht (fun hexact => hroom hexact _ (by decide))
      fun hexact => hroom hexact _ (by decide)
  · refine hmark (ascribe ht hascription fun hexact => hroom hexact _ (by decide)) ?_ ?_
    · exact fun hexact => (hroom hexact "optional" (by decide)).prop_of_ne (by decide)
    · exact fun hexact => (hroom hexact "decorators" (by decide)).prop_of_ne (by decide)

theorem defaultedParameter (hw : T.Descents w w') (n : Node) (d : Data .parameter)
    (hr : T.Nears (d.get .initializer)) (isProperty : Bool) {target target' : EsNode}
    (ht : T.nodes k target target') (hroom : T.exact → (Draft.reopen target).HasRoom "decorators") :
    T.Tandem k ((T.left w).defaultedParameter n d isProperty target)
      ((T.right w').defaultedParameter n d isProperty target')
      fun h t t' => T.drafts h t t' ∧ (T.exact → t.HasRoom "decorators") := by
  refine Tandem.ite (fun _ => ?_) fun _ => Tandem.pure ⟨T.reopen ht, hroom⟩
  refine Tandem.step (hw.child hr) fun a right right' hright => ?_
  refine Tandem.step (Tandem.startOver (by decide) n.pos n.stop) ?_
  rintro b draft draft' ⟨hdraft, hempty, htype⟩
  refine Tandem.pure ⟨?_, fun _ => Draft.hasRoom_fill hempty (by simp)⟩
  have hsum : k + a + b = b + (k + (a + 0)) := by abel
  rw [(T.range ht).1, hsum]
  have hne : draft.type ≠ .known .jsxText := by
    rw [htype]
    decide
  exact fill_of_keys_eq_nil (T.startAt _ hne hdraft) hempty (field ht (field hright .nil))
    (of_decide_eq_true rfl)

theorem propertyParameter (n : Node) (modifiers : Option NodeList) {t t' : Draft}
    (ht : T.drafts k t t') (hroom : T.exact → t.HasRoom "decorators") :
    T.Tandem k ((T.left w).propertyParameter n modifiers t)
      ((T.right w').propertyParameter n modifiers t')
      fun h t t' => T.drafts h t t' ∧ (T.exact → t.HasRoom "decorators") := by
  refine Tandem.ite (fun _ => ?_) fun _ => Tandem.pure ⟨ht, hroom⟩
  refine Tandem.step (Tandem.startOver (by decide) n.pos n.stop) ?_
  rintro a draft draft' ⟨hdraft, hempty, -⟩
  refine Tandem.pure ⟨?_, fun _ => Draft.hasRoom_fill hempty (by simp)⟩
  have hsum : k + a = a + (k + 0) := by abel
  rw [hsum]
  exact fill_of_keys_eq_nil hdraft hempty (plain (by simp) (mark (mark (mark (field ht .nil)))))
    (of_decide_eq_true rfl)

theorem parameter (hw : T.Descents w w') (hi : T.Around i n) (hk : n.kind = .parameter) :
    T.Tandem 0 ((T.left w).parameter i n) ((T.right w').parameter i n) (opt T.nodes) := by
  refine Tandem.parts fun d hd => ?_
  refine Tandem.step (hw.plainName (hi.child hd .name rfl) fun hexact =>
    (hi.hasPlainName hexact).parameter_name hk d hd) ?_
  rintro a x x' ⟨hx, hroom⟩
  obtain ⟨rfl, rfl, rfl⟩ | ⟨name, name', rfl, rfl, hname⟩ := hx.cases
  · exact Tandem.pure (add_zero 0)
  · rw [zero_add]
    refine Tandem.bind (restParameter n d hname fun hexact => hroom hexact name rfl) ?_
    rintro b t t' ⟨ht, hroom⟩
    rw [(T.range hname).2]
    refine Tandem.bind (hw.annotatedParameter d (hi.child hd .declaredType rfl) _ ht hroom) ?_
    rintro b target target' ⟨htarget, hroom⟩
    refine Tandem.bind (hw.defaultedParameter n d
      (hi.child hd .initializer rfl) _ htarget hroom) ?_
    rintro b result result' ⟨hresult, hroom⟩
    refine Tandem.bind (propertyParameter n _ hresult hroom) ?_
    rintro b result result' ⟨hresult, hroom⟩
    refine Tandem.step (hw.decorators? (hi.list hd .decorators rfl)) fun c v v' hv => ?_
    exact Tandem.pure (propOpt hresult hv (by decide) hroom)

end Descents

end Tie

end ScriptTree
