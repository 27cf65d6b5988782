import ScriptTree.Convert.Class
import ScriptTree.Proofs.Convert.Nesting.Function

/-!
# Bounds on classes and interfaces

The body of a class or interface starts at a brace that is found behind everything in front of the
members, so it holds the members. It lies in the node all the same, but the class need not hold it
once it is cut by an export. The decorators are the only part in front of the words of an export.
-/

namespace ScriptTree

open Conversion (Yields)

/-- The types in the clauses of a class lie within some bounds. -/
def Converter.Clauses.Fits (a : Arena) (tokens : List SourceToken) (lo hi : Nat)
    (found : Clauses) : Prop :=
  (∀ d ∈ found.extended, a.FieldFits tokens lo hi d .types) ∧
    ∀ d ∈ found.implemented, a.FieldFits tokens lo hi d .types

namespace Converter.Nests

variable {c : Converter} {tokens : List SourceToken} {lo hi : Nat} {i : NodeId} {n : Node}
  {r : NodeRef}

/-! ### Bodies -/

/-- **The brace of a body is found in the node**, and in front of the members. -/
theorem bodyStart (h : c.Nests tokens) (hi : c.arena.Stands tokens i n)
    (hk : n.kind.hasMembers = true) {d : Data .classLike}
    (hd : c.arena.data? .classLike n = some d) :
    Yields (c.bodyStart n d) fun x =>
      x ≤ n.stop ∧ c.arena.FieldFits tokens x n.stop d .members := by
  refine Conversion.yields_tokens h.index_eq (.pure ?_)
  obtain ⟨t, ht, hkind, hbehind, hstop, htypes, hmembers⟩ := hi.isLaidOut.brace hk d hd
  have hfull := h.inOrder.nonempty t ht
  have hbrackets : ((d.get .typeParameters).map NodeList.stop).getD 0 ≤ t.start := by
    cases hl : d.get .typeParameters with
    | none => exact Nat.zero_le _
    | some l => exact htypes l hl
  have hends (f : Field) (hf : f ∈ Pool.classLike.layout.takeWhile (· != .members)) {r : NodeRef}
      (hr : ∀ j ∈ r, j ∈ d.refs f) : ((c.node? r).map Node.stop).getD 0 ≤ t.start :=
    Arena.stop_le_of_behind (Arena.Stands.behind_le_of_before ⟨by decide, by decide, hf⟩ hbehind)
      (Nat.zero_le _) hr
  -- The search starts behind all that is in front of the members, and so in front of the brace.
  obtain ⟨behind, hpos, hle, hbrace⟩ : ∃ behind, n.pos ≤ behind ∧ behind ≤ t.start ∧
      c.braceOf (TokenIndex.ofList tokens) n d =
        (((TokenIndex.ofList tokens).findAfter behind .openBraceToken).map
          SourceToken.start).getD n.pos := by
    refine ⟨_, (Arena.foldl_max_le_iff.mp (Nat.le_refl _)).1, Arena.foldl_max_le_iff.mpr ?_, rfl⟩
    refine ⟨(Arena.behind_le_iff.mp hbehind).1, ?_⟩
    simp only [List.forall_mem_cons]
    exact ⟨hends .name (by decide) fun j hj => Record.mem_refs_of_nodeAt hj,
      hends .modifiers (by decide) fun j hj => Record.mem_refs_of_last hj,
      hends .decorators (by decide) fun j hj => Record.mem_refs_of_last hj, hbrackets,
      hends .heritageClauses (by decide) fun j hj => Record.mem_refs_of_last hj,
      fun y hy => absurd hy List.not_mem_nil⟩
  obtain ⟨u, hu, hfind, hbefore, hstart, -⟩ := TokenIndex.exists_findAfter h.inOrder ht hkind hle
  rw [hbrace, hfind, Option.map_some, Option.getD_some]
  refine ⟨by omega, (hi.fits hd .members (by decide)).raise rfl fun j hj m hm => ?_⟩
  have hm := hmembers j hj m hm
  omega

/-! ### Heritage -/

theorem heritage (h : c.Nests tokens) (type : AstType) (key : String)
    (hr : c.arena.FitsIn tokens lo hi r) :
    Yields (c.heritage type key r) fun v => v.nested lo hi = true := by
  rw [Converter.heritage.eq_def]
  split
  · next i =>
    split
    · next n hn =>
      refine Conversion.yields_parts fun d hd => ?_
      have hself := hr.self hn
      have hle := (hr.stands rfl hn).isLaidOut.pos_le_stop
      refine (h.child (hself.fits hn hd .expression (by decide)).node).bind fun name hname => ?_
      refine (h.typeArguments? ((hself.fits hn hd .typeArguments (by decide)).angled rfl)).bind
        fun arguments harguments => Yields.toValue ?_
      refine (Source.yields_build hle (.value hname
        (.node? (fun es hes => (harguments es hes).nested) .nil))).mono fun es hes => ?_
      exact hes.mono (hr.le_pos n hn (Arena.isBlank_of_data? hd (by decide))) (hr.stop_le n hn)
    · exact .pure rfl
  · exact .pure rfl

theorem addClause {found : Clauses} (hfound : Clauses.Fits c.arena tokens lo hi found)
    (hr : c.arena.FitsIn tokens lo hi r) :
    Yields (c.addClause found r) (Clauses.Fits c.arena tokens lo hi) := by
  rw [Converter.addClause.eq_def]
  split
  · next i =>
    split
    · next n hn =>
      refine Conversion.yields_parts fun d hd => ?_
      have htypes := hr.fits hn hd .types (by decide)
      have hsome : ∀ e ∈ some d, c.arena.FieldFits tokens lo hi e .types := by
        rintro _ ⟨⟩
        exact htypes
      exact .ite (fun _ => .pure ⟨hsome, hfound.2⟩) fun _ =>
        .ite (fun _ => .pure ⟨hfound.1, hsome⟩) fun _ => .pure hfound
    · exact .pure hfound
  · exact .pure hfound

theorem clauses {l : Option NodeList}
    (hl : ∀ r ∈ NodeList.nodesOf l, c.arena.FitsIn tokens lo hi r) :
    Yields (c.clauses n l) (Clauses.Fits c.arena tokens lo hi) := by
  have hnone : Clauses.Fits c.arena tokens lo hi {} :=
    ⟨fun d hd => absurd hd (Option.not_mem_none d), fun d hd => absurd hd (Option.not_mem_none d)⟩
  refine (Yields.foldlM _ (fun found r hfound hr => addClause hfound (hl r hr)) hnone).bind
    fun found hfound => ?_
  split
  · exact .pure hfound
  · exact .fail

theorem extended (h : c.Nests tokens) {found : Clauses}
    (hfound : Clauses.Fits c.arena tokens lo hi found) :
    Yields (c.extended found) fun x => x.1.nested lo hi = true ∧ ∀ es ∈ x.2, es.Fits lo hi := by
  have hnone : EsValue.null.nested lo hi = true ∧ ∀ es ∈ (none : Option EsNode), es.Fits lo hi :=
    ⟨rfl, fun es hes => absurd hes (Option.not_mem_none es)⟩
  have hfirst : c.arena.FitsIn tokens lo hi
      (found.extended.bind fun d => (d.get .types).first) := by
    cases hclause : found.extended with
    | none => exact .none
    | some d => exact Arena.fitsIn_first (l := some (d.get .types)) (hfound.1 d hclause).list
  rw [Converter.extended.eq_def]
  split
  · next i hi =>
    rw [hi] at hfirst
    split
    · next n hn =>
      refine Conversion.yields_parts fun d hd => ?_
      refine (h.child (hfirst.fits hn hd .expression (by decide)).node).bind fun name hname => ?_
      refine (h.typeArguments? ((hfirst.fits hn hd .typeArguments (by decide)).angled rfl)).bind
        fun arguments harguments => .pure ⟨hname, harguments⟩
    · exact .pure hnone
  · exact .pure hnone

/-! ### Classes -/

/-- **The decorators of a declaration lie in it**, if they are not left outside. -/
theorem declaredDecorators (h : c.Nests tokens) {modifiers decorators : Option NodeList}
    (hdecorators : ∀ r ∈ NodeList.nodesOf decorators, c.arena.FitsIn tokens n.pos n.stop r)
    (hslips : c.arena.isExported modifiers = true →
      (NodeList.nodesOf decorators).isEmpty = true) :
    Yields (c.decorators? decorators) fun x => ∀ v ∈ x,
      v.nested (c.declaredStart (.ofList tokens) n modifiers) n.stop = true := by
  cases hexported : c.arena.isExported modifiers with
  | true =>
    rw [decorators?_eq_none (hslips hexported)]
    exact .pure fun v hv => absurd hv (Option.not_mem_none v)
  | false =>
    rw [declaredStart_eq hexported]
    exact h.decorators? hdecorators

/-- An exported class or interface has no decorators, if it leaves nothing outside. -/
theorem isEmpty_of_isExported (hi : c.arena.Stands tokens i n)
    (hk : n.kind = .classDeclaration ∨ n.kind = .interfaceDeclaration) {d : Data .classLike}
    (hd : c.arena.data? .classLike n = some d)
    (hexported : c.arena.isExported (d.get .modifiers) = true) :
    (NodeList.nodesOf (d.get .decorators)).isEmpty = true := by
  have hslips := hi.slips_eq_false
  rcases hk with hk | hk
  all_goals
    simp only [Arena.slips, hk, hd, Option.any_some, hexported, Bool.true_and] at hslips
    simpa using hslips

theorem classLike (h : c.Nests tokens) (hi : c.arena.Stands tokens i n)
    (hk : n.kind = .classDeclaration ∨ n.kind = .classExpression) :
    Yields (c.classLike i n) (EsNode.Fits n.pos n.stop) := by
  have hmembers : n.kind.hasMembers = true := by rcases hk with hk | hk <;> rw [hk] <;> rfl
  have hfile : n.kind ≠ .sourceFile := by rcases hk with hk | hk <;> rw [hk] <;> decide
  have hle := hi.isLaidOut.pos_le_stop
  refine Conversion.yields_parts fun d hd => ?_
  have hp : Field.modifiers ∈ Pool.classLike.childFields n.kind :=
    Pool.mem_childFields (by decide) (by decide) _
  have hblank := Arena.isBlank_of_data? hd (by decide)
  have hpos := (h.declaredStart_le hi hd hp hblank hfile).1
  have hdecorators := (hi.fits hd .decorators (by decide)).list
  -- What is in front of an exported class is not in it.
  obtain ⟨lo, hlo, hdecorators, hexported⟩ : ∃ lo ≤ c.declaredStart (.ofList tokens) n
      (d.get .modifiers),
      Yields (c.decorators? (d.get .decorators)) (fun x => ∀ v ∈ x, v.nested lo n.stop = true) ∧
      ∀ es : EsNode, es.Spans n.pos n.stop lo →
        Yields (if n.kind == .classDeclaration then c.exported (d.get .modifiers) es else pure es)
          (EsNode.Fits n.pos n.stop) := by
    rcases hk with hk | hk
    · refine ⟨_, Nat.le_refl _, h.declaredDecorators hdecorators
        (isEmpty_of_isExported hi (.inl hk) hd), fun es hes => ?_⟩
      rw [hk]
      exact h.exported hi hd hp hblank hfile hes
    · refine ⟨n.pos, hpos, h.decorators? hdecorators, fun es hes => ?_⟩
      rw [hk]
      exact .pure (hes.fits (Nat.le_refl _) (Nat.le_refl _) (Nat.le_refl _))
  have hname := (h.fits_declared hi hd .name (by decide)).mono hlo (Nat.le_refl _)
  have hclauses := (h.fits_declared hi hd .heritageClauses (by decide)).mono hlo (Nat.le_refl _)
  have htypes := (h.fits_declared hi hd .typeParameters (by decide)).mono hlo (Nat.le_refl _)
  refine (clauses hclauses.list).bind fun found hfound => ?_
  refine (h.child hname.node).bind fun id hid => ?_
  refine (h.bodyStart hi hmembers hd).bind fun brace ⟨hbrace, hmembers⟩ => ?_
  refine (h.statements hmembers.list).bind fun members hmembers => ?_
  refine (Source.yields_hangs rfl hbrace (.value hmembers .nil)).bind fun body hbody => ?_
  refine (h.extended hfound).bind fun superClass ⟨hsuper, harguments⟩ => ?_
  refine (Yields.optionMapM found.implemented fun clause hclause =>
    Yields.mapM_all (clause.get .types).nodes fun r hr =>
      h.heritage .classImplements "expression" ((hfound.2 clause hclause).list r hr)).bind
    fun implemented himplemented => ?_
  refine hdecorators.bind fun decorators hdecorators => ?_
  refine (h.typeParameters? (htypes.angled rfl)).bind fun parameters hparameters => ?_
  refine (Source.yields_spans hle ?_).bind fun es hes => hexported es hes.1
  refine .value hid (.value hbody.nested (.value hsuper (.node?
    (fun es hes => (harguments es hes).nested) (.cons (fun v hv => ?_) (.cons hdecorators (.node?
      (fun es hes => (hparameters es hes).nested) .nil))))))
  obtain ⟨vs, hvs, rfl⟩ := Option.map_eq_some_iff.mp hv
  exact EsValue.nested_array_iff.mpr (himplemented vs hvs)

/-! ### Interfaces -/

theorem extendedInterfaces (h : c.Nests tokens) (hr : c.arena.FitsIn tokens lo hi r) :
    Yields (c.extendedInterfaces r) fun vs => ∀ v ∈ vs, v.nested lo hi = true := by
  have hnone : ∀ v ∈ ([] : List EsValue), v.nested lo hi = true :=
    fun v hv => absurd hv List.not_mem_nil
  rw [Converter.extendedInterfaces.eq_def]
  split
  · next i =>
    split
    · next n hn =>
      refine Conversion.yields_parts fun d hd => ?_
      exact Yields.mapM_all (d.get .types).nodes fun r hr' =>
        h.heritage .tsInterfaceHeritage "id" ((hr.fits hn hd .types (by decide)).list r hr')
    · exact .pure hnone
  · exact .pure hnone

theorem interface (h : c.Nests tokens) (hi : c.arena.Stands tokens i n)
    (hk : n.kind = .interfaceDeclaration) :
    Yields (c.interface i n) (EsNode.Fits n.pos n.stop) := by
  have hmembers : n.kind.hasMembers = true := by rw [hk]; rfl
  have hfile : n.kind ≠ .sourceFile := by rw [hk]; decide
  refine Conversion.yields_parts fun d hd => ?_
  have hclauses := Arena.fitsIn_first (h.fits_declared hi hd .heritageClauses (by decide)).list
  have hdecorators := (hi.fits hd .decorators (by decide)).list
  refine (h.bodyStart hi hmembers hd).bind fun brace ⟨hbrace, hmembers⟩ => ?_
  refine (h.list hmembers.list).bind fun members hmembers => ?_
  refine (Source.yields_hangs rfl hbrace (.value hmembers .nil)).bind fun body hbody => ?_
  refine (h.child (h.fits_declared hi hd .name (by decide)).node).bind fun id hid => ?_
  refine (h.extendedInterfaces hclauses).bind fun heritage hheritage => ?_
  refine (h.typeParameters?
    ((h.fits_declared hi hd .typeParameters (by decide)).angled rfl)).bind
      fun parameters hparameters => ?_
  refine (h.declaredDecorators hdecorators (isEmpty_of_isExported hi (.inr hk) hd)).bind
    fun decorators hdecorators => ?_
  refine (Source.yields_spans hi.isLaidOut.pos_le_stop ?_).bind fun es hes =>
    h.exported hi hd (Pool.mem_childFields (by decide) (by decide) _)
      (Arena.isBlank_of_data? hd (by decide)) hfile hes.1
  exact .plain rfl (.value hbody.nested (.value hid (.value
    (EsValue.nested_array_iff.mpr hheritage) (.node?
      (fun es hes => (hparameters es hes).nested) (.cons hdecorators .nil)))))

/-! ### Members -/

theorem classProperty (h : c.Nests tokens) (hi : c.arena.Stands tokens i n) :
    Yields (c.classProperty i n) (EsNode.Fits n.pos n.stop) := by
  refine Conversion.yields_parts fun d hd => ?_
  refine (h.child (hi.fits hd .name (by decide)).node).bind fun key hkey => ?_
  refine (h.child (hi.fits hd .initializer (by decide)).node).bind fun value hvalue => ?_
  refine (h.ascription? (hi.fits hd .declaredType (by decide)).node).bind fun type htype => ?_
  refine (h.decorators? (hi.fits hd .decorators (by decide)).list).bind
    fun decorators hdecorators => ?_
  exact Source.yields_build hi.isLaidOut.pos_le_stop (.value hkey (.value hvalue (.plain rfl
    (.plain rfl (.mark (.node? (fun es hes => (htype es hes).nested) (.cons hdecorators
      (.plain (EsValue.all_isBare_string _) (.mark (.mark .nil))))))))))

theorem method (h : c.Nests tokens) (hi : c.arena.Stands tokens i n)
    (hk : n.kind.hasSignature = true) : Yields (c.method i n) (EsNode.Fits n.pos n.stop) := by
  have hle := hi.isLaidOut.pos_le_stop
  refine Conversion.yields_parts fun d hd => ?_
  have hvalue : Yields (c.methodValue n d (((c.node? (d.get .name)).map Node.stop).getD n.pos))
      (EsNode.Fits n.pos n.stop) := by
    obtain ⟨t, ht, hkind, hname, hstop, -, htypes, hfields⟩ := hi.isLaidOut.signature hk d hd
    have hbehind : ((c.node? (d.get .name)).map Node.stop).getD n.pos ≤ t.start :=
      Arena.stop_le_of_behind hname (Arena.behind_le_iff.mp hname).1
        fun j hj => Record.mem_refs_of_nodeAt hj
    have hpos : n.pos ≤ ((c.node? (d.get .name)).map Node.stop).getD n.pos :=
      hi.le_stop_of_refs hd (Pool.mem_childFields (by decide) (by decide) n.kind)
        fun j hj => Record.mem_refs_of_nodeAt (f := .name) hj
    exact (h.methodValue hi hd ht hkind hbehind hstop htypes hfields).mono fun es hes =>
      hes.mono hpos (Nat.le_refl _)
  refine (h.child (hi.fits hd .name (by decide)).node).bind fun key hkey => ?_
  refine hvalue.bind fun value hvalue => ?_
  refine .ite (fun _ => ?_) fun _ => ?_
  · exact Source.yields_build hle (.value hkey (.value hvalue.nested (.plain rfl (.plain rfl
      (.plain rfl (.plain rfl (.mark .nil)))))))
  · refine (h.decorators? (hi.fits hd .decorators (by decide)).list).bind
      fun decorators hdecorators => ?_
    exact Source.yields_build hle (.value hkey (.value hvalue.nested (.plain rfl (.plain rfl
      (.plain rfl (.cons hdecorators (.plain (EsValue.all_isBare_string _) (.mark .nil))))))))

theorem constructorKey {t : SourceToken} (hle : t.start ≤ t.stop) :
    Yields (c.constructorKey t) (EsNode.Fits t.start t.stop) := by
  rw [Converter.constructorKey]
  refine .ite (fun _ => ?_) fun _ => ?_
  · exact Source.yields_buildAt (Nat.le_refl _) hle (Nat.le_refl _) (.plain rfl (.plain rfl .nil))
  · exact Source.yields_buildAt (Nat.le_refl _) hle (Nat.le_refl _) (.plain rfl .nil)

/-- The name of a constructor is the first token behind the modifiers, in front of the signature. -/
theorem constructorMethod (h : c.Nests tokens) (hi : c.arena.Stands tokens i n)
    (hk : n.kind = .constructor) : Yields (c.constructorMethod i n) (EsNode.Fits n.pos n.stop) := by
  have hsignature : n.kind.hasSignature = true := by rw [hk]; rfl
  refine Conversion.yields_parts fun d hd => ?_
  obtain ⟨t, ht, hkind, -, hstop, hword, htypes, hfields⟩ := hi.isLaidOut.signature hsignature d hd
  obtain ⟨word, hmem, hbehind, hwordstop⟩ := hword hk
  have hle : ((c.node? ((d.get .modifiers).bind NodeList.last)).map Node.stop).getD n.pos ≤
      word.start :=
    Arena.stop_le_of_behind hbehind (Arena.behind_le_iff.mp hbehind).1
      fun j hj => Record.mem_refs_of_last hj
  have hpos : n.pos ≤
      ((c.node? ((d.get .modifiers).bind NodeList.last)).map Node.stop).getD n.pos :=
    hi.le_stop_of_refs hd (Pool.mem_childFields (by decide) (by decide) n.kind)
      fun j hj => Record.mem_refs_of_last (f := .modifiers) hj
  obtain ⟨u, hu, hfind, hustart, -, hustop⟩ := TokenIndex.exists_atOrAfter h.inOrder hmem hle
  have hfull := h.inOrder.nonempty u hu
  have htfull := h.inOrder.nonempty t ht
  refine Conversion.yields_tokens h.index_eq ?_
  rw [hfind]
  refine (constructorKey (Nat.le_of_lt hfull)).bind fun key hkey => ?_
  refine (h.methodValue hi hd ht hkind (by omega) hstop htypes hfields).bind fun value hvalue => ?_
  have hkey : key.Fits n.pos n.stop := hkey.mono (by omega) (by omega)
  have hvalue : value.Fits n.pos n.stop := hvalue.mono (by omega) (Nat.le_refl _)
  exact Source.yields_build hi.isLaidOut.pos_le_stop (.value hkey.nested (.value hvalue.nested
    (.plain rfl (.plain rfl (.plain (EsValue.all_isBare_ite ..)
      (.plain (EsValue.all_isBare_string _) .nil))))))

end Converter.Nests

end ScriptTree
