import ScriptTree.Proofs.Convert.Nesting.Rote

/-!
# Bounds on exports and bindings

Inside of an export a declaration starts at the first token behind the words of the export
(`ScriptTree.Converter.declaredStart`). Everything that stands behind its modifiers lies behind this
place (`ScriptTree.Converter.Nests.fits_declared`), so the declaration still holds it, and lies
inside of the export (`ScriptTree.Converter.Nests.exported`).
-/

namespace ScriptTree

open Conversion (Yields)

namespace Converter

/-! ### The words of an export -/

/-- The last word of the export around a declaration, if the declaration is exported. -/
def exportEnd? (c : Converter) (modifiers : Option NodeList) : Option Node :=
  let words := NodeList.nodesOf modifiers
  ((c.node? words.head?.join).filter fun m => m.kind == .exportKeyword).map fun first =>
    ((c.node? words[1]?.join).filter fun m => m.kind == .defaultKeyword).getD first

/-- Where a declaration starts: behind the words of its export, or where its node does. -/
def declaredStart (c : Converter) (index : TokenIndex) (n : Node) (modifiers : Option NodeList) :
    Nat :=
  match c.exportEnd? modifiers with
  | none => n.pos
  | some last => index.nextStart last.stop

theorem exportEnd?_eq {c : Converter} {modifiers : Option NodeList} {first : Node}
    (hfirst : c.node? (NodeList.nodesOf modifiers).head?.join = some first)
    (hk : first.kind = .exportKeyword) :
    c.exportEnd? modifiers = some (((c.node? (NodeList.nodesOf modifiers)[1]?.join).filter
      fun m => m.kind == .defaultKeyword).getD first) := by
  have hexport : (first.kind == .exportKeyword) = true := beq_iff_eq.mpr hk
  simp only [exportEnd?, hfirst, Option.filter_some, hexport, if_true, Option.map_some]

/-- The last word of an export stands behind nothing but the first one. -/
theorem exists_append_of_exportEnd? {c : Converter} {modifiers : Option NodeList} {last : Node}
    (h : c.exportEnd? modifiers = some last) :
    ∃ xs j ys, NodeList.nodesOf modifiers = xs ++ some j :: ys ∧ c.node? (some j) = some last ∧
      (last.kind = .exportKeyword ∨ last.kind = .defaultKeyword) ∧
      ∀ r ∈ xs, c.arena.kind? r = some .exportKeyword := by
  obtain ⟨first, hfirst, hlast⟩ := Option.map_eq_some_iff.mp h
  obtain ⟨hfirst, hexport⟩ := Option.filter_eq_some_iff.mp hfirst
  have hexport : first.kind = .exportKeyword := beq_iff_eq.mp hexport
  cases hwords : NodeList.nodesOf modifiers with
  | nil =>
    rw [hwords] at hfirst
    cases hfirst
  | cons r rs =>
    rw [hwords] at hfirst hlast
    have hfirst : c.node? r = some first := hfirst
    obtain ⟨j, rfl, hj⟩ := Option.bind_eq_some_iff.mp hfirst
    -- A second word counts only if it is that of a default.
    cases hsecond : (c.node? (some j :: rs)[1]?.join).filter fun m => m.kind == .defaultKeyword with
    | none =>
      rw [hsecond, Option.getD_none] at hlast
      subst hlast
      exact ⟨[], j, rs, rfl, hfirst, .inl hexport, fun r hr => absurd hr List.not_mem_nil⟩
    | some second =>
      rw [hsecond, Option.getD_some] at hlast
      subst hlast
      obtain ⟨hsecond, hdefault⟩ := Option.filter_eq_some_iff.mp hsecond
      cases rs with
      | nil => cases hsecond
      | cons r rs =>
        have hsecond : c.node? r = some second := hsecond
        obtain ⟨k, rfl, hk⟩ := Option.bind_eq_some_iff.mp hsecond
        refine ⟨[some j], k, rs, rfl, hsecond, .inr (beq_iff_eq.mp hdefault), ?_⟩
        refine List.forall_mem_singleton.mpr ?_
        rw [Arena.kind?, show c.arena.node? (some j) = some first from hfirst, Option.map_some,
          hexport]

/-- The last word of an export is one of the modifiers. -/
theorem exists_mem_of_exportEnd? {c : Converter} {modifiers : Option NodeList} {last : Node}
    (h : c.exportEnd? modifiers = some last) :
    (last.kind = .exportKeyword ∨ last.kind = .defaultKeyword) ∧
      ∃ r ∈ NodeList.nodesOf modifiers, c.node? r = some last := by
  obtain ⟨xs, j, ys, hwords, hnode, hkind, -⟩ := exists_append_of_exportEnd? h
  refine ⟨hkind, some j, ?_, hnode⟩
  rw [hwords]
  exact List.mem_append_right _ List.mem_cons_self

namespace Nests

variable {c : Converter} {tokens : List SourceToken} {lo hi : Nat} {i : NodeId} {n : Node}
  {r : NodeRef} {p : Pool} {d : Data p}

/-- A word in front of a declaration is a token of the text. -/
structure IsWord (tokens : List SourceToken) (n m : Node) : Prop where
  le_pos : n.pos ≤ m.pos
  pos_lt_stop : m.pos < m.stop
  stop_lt : m.stop < n.stop
  stops : ∃ t ∈ tokens, t.stop = m.stop

theorem isWord (hi : c.arena.Stands tokens i n) (hd : c.arena.data? p n = some d)
    (hp : Field.modifiers ∈ p.childFields n.kind)
    (hr : r ∈ NodeList.nodesOf (d.listAt .modifiers)) {m : Node} (hm : c.node? r = some m)
    (hkind : m.kind = .exportKeyword ∨ m.kind = .defaultKeyword) : IsWord tokens n m := by
  have hfits := (hi.fieldFits hd hp).list r hr
  obtain ⟨j, hj, hnode⟩ := Option.bind_eq_some_iff.mp hm
  have hblank : m.isBlank = false := by
    rcases hkind with hk | hk <;> rw [Node.isBlank, hk] <;> rfl
  have hfile : m.kind ≠ .sourceFile := by
    rcases hkind with hk | hk <;> rw [hk] <;> decide
  have hbounded := (hfits.stands hj hnode).isLaidOut.isBounded hblank hfile
  refine ⟨hfits.le_pos m hm hblank, hbounded.pos_lt_stop, ?_, hbounded.stops⟩
  refine hi.isLaidOut.modifiers_lt r ?_ m hm
  have hmodifiers : c.arena.modifiersOf (some i) = d.listAt .modifiers := by
    have hnode : c.arena.node? (some i) = some n := hi.node
    simp only [Arena.modifiersOf, hnode, Arena.pool_of_data? hd, hd, Option.bind_some]
    rw [Record.listAt]
    cases d.get? .modifiers <;> rfl
  rw [hmodifiers]
  exact hr

/-- Where nothing is exported a declaration starts with its node. -/
theorem declaredStart_eq {modifiers : Option NodeList}
    (hexported : c.arena.isExported modifiers = false) :
    c.declaredStart (.ofList tokens) n modifiers = n.pos := by
  have hnone : c.exportEnd? modifiers = none := by
    rw [exportEnd?, Option.map_eq_none_iff, Option.filter_eq_none_iff]
    intro first hfirst hk
    have hfirst : c.arena.node? (NodeList.nodesOf modifiers).head?.join = some first := hfirst
    rw [Arena.isExported, Arena.kind?, hfirst, Option.map_some, beq_iff_eq.mp hk] at hexported
    cases hexported
  rw [declaredStart, hnone]

/-- A declaration starts in its node. -/
theorem declaredStart_le (h : c.Nests tokens) (hi : c.arena.Stands tokens i n)
    (hd : c.arena.data? p n = some d) (hp : Field.modifiers ∈ p.childFields n.kind)
    (hblank : n.isBlank = false) (hfile : n.kind ≠ .sourceFile) :
    n.pos ≤ c.declaredStart (.ofList tokens) n (d.listAt .modifiers) ∧
      c.declaredStart (.ofList tokens) n (d.listAt .modifiers) ≤ n.stop := by
  rw [declaredStart]
  split
  · exact ⟨Nat.le_refl _, hi.isLaidOut.pos_le_stop⟩
  · next last hlast =>
    obtain ⟨hkind, r, hr, hm⟩ := exists_mem_of_exportEnd? hlast
    have hword := isWord hi hd hp hr hm hkind
    obtain ⟨t, ht, hstop⟩ := (hi.isLaidOut.isBounded hblank hfile).stops
    obtain ⟨u, hu, hustop⟩ := hword.stops
    have hpos := hword.le_pos
    have hfull := hword.pos_lt_stop
    have hlt := hword.stop_lt
    have hstart := h.inOrder.stop_le_start_of_lt hu ht (by omega)
    have hnext := TokenIndex.le_nextStart h.inOrder last.stop
    have hle := TokenIndex.nextStart_le h.inOrder ht (hustop ▸ hstart)
    have htfull := h.inOrder.nonempty t ht
    omega

/-- **What stands behind the modifiers lies in the declaration**, also if it is exported. -/
theorem fits_declared (h : c.Nests tokens) (hi : c.arena.Stands tokens i n)
    (hd : c.arena.data? p n = some d) (f : Field) [hf : f.In p.layout]
    (hp : p ≠ .typeAssertion ∧ p ≠ .loop ∧ Field.modifiers ∈ p.layout.takeWhile (· != f)) :
    c.arena.FieldFits tokens (c.declaredStart (.ofList tokens) n (d.listAt .modifiers)) n.stop
      d f := by
  refine hi.fieldFits_of_behind hd (Pool.mem_childFields hp.2.1 hf.mem n.kind)
    fun t ht hbehind => ?_
  obtain ⟨hpos, hbehind⟩ := Arena.behind_le_iff.mp hbehind
  rw [declaredStart]
  split
  · exact hpos
  · next last hlast =>
    obtain ⟨-, r, hr, hm⟩ := exists_mem_of_exportEnd? hlast
    obtain ⟨j, rfl, hnode⟩ := Option.bind_eq_some_iff.mp hm
    have hbefore : j ∈ d.before n.kind f :=
      Arena.Stands.mem_before hp (Record.mem_refs_of_mem_listAt hr)
    exact TokenIndex.nextStart_le h.inOrder ht (hbehind j hbefore last hnode)

/-- The words of a declaration stand one after the other. -/
theorem words_ordered (hi : c.arena.Stands tokens i n) (hd : c.arena.data? p n = some d)
    (hp : Field.modifiers ∈ p.childFields n.kind) :
    ((NodeList.nodesOf (d.listAt .modifiers)).filterMap id).Pairwise c.arena.Precedes := by
  obtain ⟨fs, hfs⟩ := Arena.Stands.exists_childFields_eq hp
  have hordered := hi.isLaidOut.children_ordered
  rw [Arena.childrenOf_of_data? hd, Data.children, hfs, List.flatMap_append, List.flatMap_cons,
    List.pairwise_append, List.pairwise_append] at hordered
  have hwords := hordered.2.1.1
  rw [d.refs_eq, List.pairwise_append] at hwords
  exact hwords.2.1

/-- **A modifier that is no word of the export lies in the declaration.** -/
theorem fits_modifier (h : c.Nests tokens) (hi : c.arena.Stands tokens i n)
    (hd : c.arena.data? p n = some d) (hp : Field.modifiers ∈ p.childFields n.kind)
    (hr : r ∈ NodeList.nodesOf (d.listAt .modifiers))
    (hexport : c.arena.kind? r ≠ some .exportKeyword)
    (hdefault : c.arena.kind? r ≠ some .defaultKeyword) :
    c.arena.FitsIn tokens (c.declaredStart (.ofList tokens) n (d.listAt .modifiers)) n.stop r := by
  have hfits := (hi.fieldFits hd hp).list r hr
  refine { hfits with le_pos := fun m hm hblank => ?_ }
  rw [declaredStart]
  split
  · exact hfits.le_pos m hm hblank
  · next last hlast =>
    obtain ⟨xs, j, ys, hwords, hnode, hkind, hxs⟩ := exists_append_of_exportEnd? hlast
    obtain ⟨k, rfl, hk⟩ := Option.bind_eq_some_iff.mp hm
    obtain ⟨t, ht, hstart⟩ := hfits.exists_start hm hblank
    rw [← hstart]
    refine TokenIndex.nextStart_le h.inOrder ht ?_
    rw [hstart]
    have hordered := words_ordered hi hd hp
    -- Listed in front of the last word of the export, or as that word, it would be one of them.
    rw [hwords] at hr hordered
    rw [List.filterMap_append, List.pairwise_append] at hordered
    have hbehind : (j :: ys.filterMap id).Pairwise c.arena.Precedes := hordered.2.1
    rcases List.mem_append.mp hr with hr | hr
    · exact absurd (hxs _ hr) hexport
    · rcases List.mem_cons.mp hr with heq | hr
      · have hlast : c.arena.kind? (some k) = some last.kind := by
          rw [heq, Arena.kind?, show c.arena.node? (some j) = some last from hnode]
          rfl
        rcases hkind with hkind | hkind
        · exact absurd (hkind ▸ hlast) hexport
        · exact absurd (hkind ▸ hlast) hdefault
      · exact (List.pairwise_cons.mp hbehind).1 k (List.mem_filterMap.mpr ⟨_, hr, rfl⟩)
          last hnode m hk

/-- The export starts in front of what is exported. -/
theorem pos_le_declaredStart (h : c.Nests tokens) (hi : c.arena.Stands tokens i n)
    (hd : c.arena.data? p n = some d) (hp : Field.modifiers ∈ p.childFields n.kind) {first : Node}
    (hfirst : c.node? (NodeList.nodesOf (d.listAt .modifiers)).head?.join = some first)
    (hk : first.kind = .exportKeyword) :
    n.pos ≤ first.pos ∧
      first.pos ≤ c.declaredStart (.ofList tokens) n (d.listAt .modifiers) := by
  obtain ⟨last, hlast⟩ : ∃ last, c.exportEnd? (d.listAt .modifiers) = some last :=
    ⟨_, exportEnd?_eq hfirst hk⟩
  obtain ⟨xs, j, ys, hwords, hnode, hkind, -⟩ := exists_append_of_exportEnd? hlast
  have hword {r : NodeRef} (hr : r ∈ xs ++ some j :: ys) {m : Node} (hm : c.node? r = some m)
      (hkind : m.kind = .exportKeyword ∨ m.kind = .defaultKeyword) : IsWord tokens n m :=
    isWord hi hd hp (hwords ▸ hr) hm hkind
  have hlastword := hword (List.mem_append_right _ List.mem_cons_self) hnode hkind
  have hstart : last.stop ≤ c.declaredStart (.ofList tokens) n (d.listAt .modifiers) := by
    rw [declaredStart, hlast]
    exact TokenIndex.le_nextStart h.inOrder last.stop
  have hfull := hlastword.pos_lt_stop
  -- The first word is the last one, or stands in front of it.
  cases xs with
  | nil =>
    rw [hwords] at hfirst
    obtain rfl : first = last := Option.some.inj (hfirst.symm.trans hnode)
    exact ⟨hlastword.le_pos, by omega⟩
  | cons r rs =>
    rw [hwords] at hfirst
    obtain ⟨k, rfl, hk'⟩ := Option.bind_eq_some_iff.mp hfirst
    have hfirstword := hword (List.mem_append_left _ List.mem_cons_self) hfirst (.inl hk)
    have hordered := words_ordered hi hd hp
    rw [hwords, List.filterMap_append, List.pairwise_append] at hordered
    have hle := hordered.2.2 k (List.mem_filterMap.mpr ⟨_, List.mem_cons_self, rfl⟩) j
      (List.mem_filterMap.mpr ⟨_, List.mem_cons_self, rfl⟩) first hk' last hnode
    have hfirstfull := hfirstword.pos_lt_stop
    exact ⟨hfirstword.le_pos, by omega⟩

/-- **An export lies in the node of what is exported**, and holds it. -/
theorem exported (h : c.Nests tokens) (hi : c.arena.Stands tokens i n)
    (hd : c.arena.data? p n = some d) (hp : Field.modifiers ∈ p.childFields n.kind)
    (hblank : n.isBlank = false) (hfile : n.kind ≠ .sourceFile) {es : EsNode}
    (hes : es.Spans n.pos n.stop (c.declaredStart (.ofList tokens) n (d.listAt .modifiers))) :
    Yields (c.exported (d.listAt .modifiers) es) (EsNode.Fits n.pos n.stop) := by
  obtain ⟨hpos, hstop⟩ := h.declaredStart_le hi hd hp hblank hfile
  have hplain : es.Fits n.pos n.stop := hes.fits hpos (Nat.le_refl _) (Nat.le_refl _)
  rw [Converter.exported]
  split
  · exact .pure hplain
  · next first hfirst =>
    refine .ite (fun hk => ?_) fun _ => .pure hplain
    refine Conversion.yields_tokens h.index_eq ?_
    obtain ⟨hfirstpos, hle⟩ := h.pos_le_declaredStart hi hd hp hfirst hk
    rw [declaredStart, exportEnd?_eq hfirst hk, NodeList.nodesOf] at hes hstop hle
    dsimp only at hes hstop hle ⊢
    generalize (TokenIndex.ofList tokens).nextStart _ = start at hes hstop hle ⊢
    -- the declaration inside of the export, which has lost the words
    have hend : (c.finish ((Draft.reopen es).startAt start)).head.stop = n.stop := by
      change max es.head.stop start = n.stop
      rw [hes.stop_eq]
      exact Nat.max_eq_left hstop
    have hinner : EsNode.Fits first.pos n.stop (c.finish ((Draft.reopen es).startAt start)) := by
      refine ⟨hle, Nat.le_trans hstop (Nat.le_of_eq hend.symm), Nat.le_of_eq hend, ?_⟩
      rw [EsNode.isNested, hend]
      exact hes.nested
    rw [hend]
    have hfull := Nat.le_trans hle hstop
    exact .ite
      (fun _ => Source.yields_buildAt hfirstpos hfull (Nat.le_refl _) (.value hinner.nested .nil))
      fun _ => Source.yields_buildAt hfirstpos hfull (Nat.le_refl _)
        (.value hinner.nested (.value rfl (.value rfl .nil)))

/-! ### Variables -/

theorem variableStatement (h : c.Nests tokens) (hi : c.arena.Stands tokens i n)
    (hfile : n.kind ≠ .sourceFile) :
    Yields (c.variableStatement i n) (EsNode.Fits n.pos n.stop) := by
  refine Conversion.yields_parts fun d hd => ?_
  have hlist : c.arena.FitsIn tokens (c.declaredStart (.ofList tokens) n (d.get .modifiers)) n.stop
      (d.get .declarationList) := (h.fits_declared hi hd .declarationList (by decide)).node
  split
  · next j hj =>
    rw [hj] at hlist
    split
    · next list hnode =>
      refine Conversion.yields_parts fun parts hparts => ?_
      refine (h.list (hlist.fits hnode hparts .declarations (by decide)).list).bind
        fun declarations hdeclarations => ?_
      refine (Source.yields_spans hi.isLaidOut.pos_le_stop
        (.value hdeclarations (.plain rfl (.mark .nil)))).bind fun es hes => ?_
      exact h.exported hi hd (Pool.mem_childFields (by decide) (by decide) _)
        (Arena.isBlank_of_data? hd (by decide)) hfile hes.1
    · exact .fail
  · exact .fail

theorem declarator (h : c.Nests tokens) (hi : c.arena.Stands tokens i n) :
    Yields (c.declarator i n) (EsNode.Fits n.pos n.stop) := by
  refine Conversion.yields_parts fun d hd => ?_
  have hbuild {id : EsValue} (hid : id.nested n.pos n.stop = true) :
      Yields (do
        let init ← c.child (d.get .initializer)
        c.build .variableDeclarator n
          [("id", id), ("init", init), ("definite", EsValue.mark (d.get .exclamationToken))])
        (EsNode.Fits n.pos n.stop) :=
    (h.child (hi.fits hd .initializer (by decide)).node).bind fun init hinit =>
      Source.yields_build hi.isLaidOut.pos_le_stop (.value hid (.value hinit (.mark .nil)))
  refine (h.convert (hi.fits hd .name (by decide)).node).bind fun x hx => ?_
  cases x with
  | none => exact hbuild rfl
  | some name =>
    refine (h.ascription? (hi.fits hd .declaredType (by decide)).node).bind fun y hy => ?_
    cases y with
    | none => exact hbuild (hx name rfl).nested
    | some ascription =>
      have hname := Draft.Fits.reopen (hx name rfl)
      exact hbuild ((hname.annotated (hy ascription rfl)).finish _).nested

/-! ### Elements of patterns -/

theorem arrayElement (h : c.Nests tokens) (hi : c.arena.Stands tokens i n)
    {d : Data .bindingElement} (hd : c.arena.data? .bindingElement n = some d) :
    Yields (c.arrayElement n d) fun x => ∀ es ∈ x, es.Fits n.pos n.stop := by
  have hname := (hi.fits hd .name (by decide)).node
  rw [Converter.arrayElement]
  split
  · exact h.convert hname
  · refine (h.child hname).bind fun left hleft => ?_
    refine (h.child (hi.fits hd .initializer (by decide)).node).bind fun right hright => ?_
    exact (Source.yields_build hi.isLaidOut.pos_le_stop
      (.value hleft (.value hright .nil))).toOption

theorem objectElement (h : c.Nests tokens) (hi : c.arena.Stands tokens i n)
    {d : Data .bindingElement} (hd : c.arena.data? .bindingElement n = some d) :
    Yields (c.objectElement n d) (EsNode.Fits n.pos n.stop) := by
  have hle := hi.isLaidOut.pos_le_stop
  have hproperty := (hi.fits hd .propertyName (by decide)).node
  have hname := (hi.fits hd .name (by decide)).node
  have hinit := (hi.fits hd .initializer (by decide)).node
  have hkey : c.arena.FitsIn tokens n.pos n.stop
      (if (d.get .propertyName).isNone then d.get .name else d.get .propertyName) := by
    split
    · exact hname
    · exact hproperty
  rw [Converter.objectElement]
  dsimp only
  generalize (if (d.get .propertyName).isNone then d.get .name else d.get .propertyName) = keyRef
    at hkey ⊢
  refine (h.child hkey).bind fun key hkey => ?_
  refine (h.child_self hname).bind fun left ⟨hleft, hself⟩ => ?_
  split
  · next name init hnode hnode' =>
    -- The name and its default make a node from the start of the one to the end of the other.
    have hleft := hself name hnode
    obtain ⟨j, hj, hm⟩ := Option.bind_eq_some_iff.mp hnode
    obtain ⟨k, hk, hm'⟩ := Option.bind_eq_some_iff.mp hnode'
    have hj : j ∈ d.refs .name := Record.mem_refs_of_nodeAt hj
    have hk : k ∈ d.refs .initializer := Record.mem_refs_of_nodeAt hk
    have hbounds := hi.within hd (Pool.mem_childFields (by decide) (by decide) _) hj hm
    have hbounds' := hi.within hd (Pool.mem_childFields (by decide) (by decide) _) hk hm'
    have hordered : name.stop ≤ init.pos :=
      (Arena.behind_le_iff.mp (hi.behind_le_pos hd
        (Pool.mem_childFields (by decide) (by decide) _) hk hm')).2 j
          (Arena.Stands.mem_before (by decide) hj) name hm
    refine (h.child (hinit.self hnode')).bind fun right hright => ?_
    have hfields : FieldsFit name.pos init.stop [("left", some left), ("right", some right)] :=
      .value (EsValue.nested_mono (Nat.le_refl _) (by omega) hleft)
        (.value (EsValue.nested_mono (by omega) (Nat.le_refl _) hright) .nil)
    refine (Source.yields_buildAt hbounds.1 (by omega) hbounds'.2.2 hfields).toValue.bind
      fun value hvalue => ?_
    exact Source.yields_build hle (.value hkey (.value hvalue
      (.plain rfl (.plain rfl (.plain rfl (.plain rfl .nil))))))
  · rw [pure_bind]
    exact Source.yields_build hle (.value hkey (.value hleft
      (.plain rfl (.plain rfl (.plain rfl (.plain rfl .nil))))))

theorem bindingElement (h : c.Nests tokens) (hi : c.arena.Stands tokens i n) :
    Yields (c.bindingElement i n) fun x => ∀ es ∈ x, es.Fits n.pos n.stop := by
  refine Conversion.yields_parts fun d hd => ?_
  refine .ite (fun _ => ?_) fun _ => .ite (fun _ => ?_) fun _ => h.arrayElement hi hd
  · have htarget : c.arena.FitsIn tokens n.pos n.stop
        (if c.hasKind (c.arena.parent (some i)) .objectBindingPattern = true ∧
          (d.get .propertyName).isSome = true then d.get .propertyName else d.get .name) := by
      split
      · exact (hi.fits hd .propertyName (by decide)).node
      · exact (hi.fits hd .name (by decide)).node
    refine (h.child htarget).bind fun argument hargument => Yields.toOption ?_
    exact Source.yields_build hi.isLaidOut.pos_le_stop (.value hargument .nil)
  · exact (h.objectElement hi hd).toOption

end Nests

end Converter

end ScriptTree
