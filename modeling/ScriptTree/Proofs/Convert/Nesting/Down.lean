import ScriptTree.Proofs.Ast.Nested
import ScriptTree.Proofs.Convert.Nesting.Layout
import ScriptTree.Proofs.Convert.Yields

/-!
# Bounds on the way down

A converter nests if whatever it makes of a node lies within all bounds that the node lies within
(`ScriptTree.Converter.Nests`). This file goes down with such a converter: to lists, to types in
brackets and behind colons, and to decorators. Where a node of the normalized tree starts or ends
at a token, the token is looked up, and it is found within the bounds because the concrete node
has one there.
-/

namespace ScriptTree

open Conversion (Yields)

/-! ### Nodes that are built -/

/-- A node covers a stretch, and its fields lie in the part of it that starts at some place. -/
structure EsNode.Spans (first stop inner : Nat) (es : EsNode) : Prop where
  start_eq : es.head.start = first
  stop_eq : es.head.stop = stop
  le : first ≤ stop
  nested : EsValue.nestedFields inner stop es.props = true

/-- A node that need not lie within bounds, but does not end behind them. -/
structure EsNode.Hangs (hi : Nat) (es : EsNode) : Prop where
  isLoose : es.head.type.isLoose = true
  isNested : es.isNested = true
  stop_le : es.head.stop ≤ hi

theorem EsNode.Spans.fits {first stop inner lo hi : Nat} {es : EsNode}
    (h : es.Spans first stop inner) (hinner : first ≤ inner) (hlo : lo ≤ first)
    (hhi : stop ≤ hi) : es.Fits lo hi where
  le_start := h.start_eq ▸ hlo
  start_le_stop := h.start_eq ▸ h.stop_eq ▸ h.le
  stop_le := h.stop_eq ▸ hhi
  isNested := by
    rw [isNested, h.start_eq, h.stop_eq]
    exact EsValue.nestedFields_mono hinner (Nat.le_refl _) h.nested

/-- A node that may lie anywhere lies within any bounds. -/
theorem EsNode.Hangs.nested {hi lo hi' : Nat} {es : EsNode} (h : es.Hangs hi) :
    es.toValue.nested lo hi' = true :=
  nested_toValue_iff.mpr ⟨.inl h.isLoose, h.isNested⟩

/-- What takes an ascription covers it as well. -/
theorem Draft.Fits.annotated {lo hi : Nat} {d : Draft} {es : EsNode} (h : d.Fits lo hi)
    (hes : es.Hangs hi) :
    ((d.prop "typeAnnotation" es.toValue).extendTo es.head.stop).Fits lo hi :=
  (h.prop hes.nested).extendTo hes.stop_le

namespace Source

variable {s : Source} {type : AstType} {n : Node} {first stop inner lo hi : Nat}
  {fields : List (String × Option EsValue)}

/-- **A node that is filled with fields covers its range, and its fields lie where they do.** -/
theorem spans_fill (s : Source) (id : Nat) (type : EsType) (hle : first ≤ stop)
    (hfields : FieldsFit inner stop fields) :
    (s.finish ((Draft.new id type first stop).fill fields)).Spans first stop inner := by
  obtain ⟨hstart, hstop, -⟩ := Draft.fill_range (Draft.new id type first stop) fields
  exact ⟨hstart, hstop.trans (Nat.max_eq_left hle), hle, Draft.nestedFields_fill rfl hfields⟩

theorem yields_spans (hle : first ≤ stop) (hfields : FieldsFit inner stop fields) :
    Yields (s.buildAt type first stop fields) fun es =>
      es.Spans first stop inner ∧ es.head.type = .known type := by
  refine (Conversion.yields_buildAt s type first stop fields).mono ?_
  rintro _ ⟨id, rfl⟩
  exact ⟨s.spans_fill id type hle hfields, (Draft.fill_range _ fields).2.2⟩

/-- A node lies within bounds if its range does, and its fields lie in its range. -/
theorem yields_buildAt (hlo : lo ≤ first) (hle : first ≤ stop) (hhi : stop ≤ hi)
    (hfields : FieldsFit first stop fields) :
    Yields (s.buildAt type first stop fields) (EsNode.Fits lo hi) :=
  (yields_spans hle hfields).mono fun _ h => h.1.fits (Nat.le_refl _) hlo hhi

/-- A node that covers a concrete one. -/
theorem yields_build (hle : n.pos ≤ n.stop) (hfields : FieldsFit n.pos n.stop fields) :
    Yields (s.build type n fields) (EsNode.Fits n.pos n.stop) :=
  yields_buildAt (Nat.le_refl _) hle (Nat.le_refl _) hfields

/-- A node that may lie anywhere. -/
theorem yields_hangs (htype : EsType.isLoose (.known type) = true) (hle : first ≤ stop)
    (hfields : FieldsFit first stop fields) :
    Yields (s.buildAt type first stop fields) (EsNode.Hangs stop) := by
  refine (yields_spans hle hfields).mono fun es ⟨hspans, heq⟩ => ⟨heq ▸ htype, ?_, ?_⟩
  · exact (hspans.fits (Nat.le_refl _) (Nat.le_refl _) (Nat.le_refl _)).isNested
  · exact Nat.le_of_eq hspans.stop_eq

end Source

namespace Conversion.Yields

variable {m : Conversion EsNode} {lo hi : Nat}

theorem toValue (h : Yields m (EsNode.Fits lo hi)) :
    Yields (EsNode.toValue <$> m) fun v => v.nested lo hi = true :=
  .map (h.mono fun _ hes => hes.nested)

theorem toOption (h : Yields m (EsNode.Fits lo hi)) :
    Yields (some <$> m) fun x => ∀ es ∈ x, es.Fits lo hi := by
  refine .map (h.mono ?_)
  rintro es hes _ ⟨⟩
  exact hes

end Conversion.Yields

/-! ### Converters -/

/-- **What a converter makes of a node lies within the bounds that the node lies within.** -/
structure Converter.Nests (c : Converter) (tokens : List SourceToken) : Prop where
  index_eq : c.index = some (TokenIndex.ofList tokens)
  inOrder : SourceToken.InOrder tokens
  convert : ∀ {lo hi r}, c.arena.FitsIn tokens lo hi r →
    Yields (c.convert r) fun x => ∀ es ∈ x, es.Fits lo hi
  typeArgument : ∀ {lo hi r}, c.arena.FitsIn tokens lo hi r → c.arena.StartsFrom lo r →
    Yields (c.typeArgument r) fun v => v.nested lo hi = true
  tagName : ∀ {lo hi r}, c.arena.FitsIn tokens lo hi r → c.arena.StartsFrom lo r →
    Yields (c.tagName r) fun v => v.nested lo hi = true

namespace Converter

variable {c : Converter} {tokens : List SourceToken} {lo hi : Nat} {r : NodeRef} {l : NodeList}

/-- A node that comes of a concrete one, or null. -/
theorem nested_ofNode? {x : Option EsNode} (hx : ∀ es ∈ x, es.Fits lo hi) :
    (EsValue.ofNode? x).nested lo hi = true := by
  cases x with
  | none => rfl
  | some es => exact (hx es rfl).nested

theorem nested_ofNodes {xs : List EsNode} (hxs : ∀ es ∈ xs, es.Fits lo hi) :
    (EsValue.ofNodes xs).nested lo hi = true :=
  EsValue.nested_array_iff.mpr (List.forall_mem_map.mpr fun es hes => (hxs es hes).nested)

namespace Nests

theorem child (h : c.Nests tokens) (hr : c.arena.FitsIn tokens lo hi r) :
    Yields (c.child r) fun v => v.nested lo hi = true :=
  Yields.map ((h.convert hr).mono fun _ hx => nested_ofNode? hx)

/-- What comes of a node lies in the node as well. -/
theorem child_self (h : c.Nests tokens) (hr : c.arena.FitsIn tokens lo hi r) :
    Yields (c.child r) fun v => v.nested lo hi = true ∧
      ∀ n ∈ c.node? r, v.nested n.pos n.stop = true :=
  (h.child hr).and fun _ _ _ hok _ hn => h.child (hr.self hn) hok

theorem list (h : c.Nests tokens) (hl : ∀ r ∈ l.nodes, c.arena.FitsIn tokens lo hi r) :
    Yields (c.list l) fun v => v.nested lo hi = true :=
  Yields.map ((Yields.mapM_all l.nodes fun r hr => h.child (hl r hr)).mono fun _ hxs =>
    EsValue.nested_array_iff.mpr hxs)

theorem statements (h : c.Nests tokens) (hl : ∀ r ∈ l.nodes, c.arena.FitsIn tokens lo hi r) :
    Yields (c.statements l) fun v => v.nested lo hi = true :=
  Yields.map ((Yields.filterMapM l.nodes fun r hr => h.convert (hl r hr)).mono fun _ hxs =>
    nested_ofNodes hxs)

/-- A list that may be missing. -/
theorem optionList {α : Type} {post : α → Prop} {m : NodeList → Conversion α}
    {l : Option NodeList} (hl : ∀ r ∈ NodeList.nodesOf l, c.arena.FitsIn tokens lo hi r)
    (hm : ∀ l : NodeList, (∀ r ∈ l.nodes, c.arena.FitsIn tokens lo hi r) → Yields (m l) post) :
    Yields (l.mapM m) fun x => ∀ y ∈ x, post y := by
  refine Yields.optionMapM l fun l' hl' => hm l' ?_
  obtain rfl : l = some l' := hl'
  exact hl

theorem decorators? (h : c.Nests tokens) {l : Option NodeList}
    (hl : ∀ r ∈ NodeList.nodesOf l, c.arena.FitsIn tokens lo hi r) :
    Yields (c.decorators? l) fun x => ∀ v ∈ x, v.nested lo hi = true := by
  refine optionList (fun r hr => hl r ?_) fun l hl => h.list hl
  cases l with
  | none => exact hr
  | some l =>
    rw [Option.filter_some] at hr
    split at hr
    · exact hr
    · exact absurd hr List.not_mem_nil

/-- Without decorators nothing is converted. -/
theorem decorators?_eq_none {l : Option NodeList} (hl : (NodeList.nodesOf l).isEmpty = true) :
    c.decorators? l = pure none := by
  rw [Converter.decorators?]
  cases l with
  | none => rfl
  | some l =>
    have hl : l.nodes.isEmpty = true := hl
    simp only [Option.filter_some, hl, Bool.not_true, Bool.false_eq_true, if_false,
      Option.mapM_none]

/-! ### Brackets and ascriptions -/

/-- **An ascription does not end behind the bounds of its type.** It starts before the type. -/
theorem ascription? (h : c.Nests tokens) (hr : c.arena.FitsIn tokens lo hi r) :
    Yields (c.ascription? r) fun x => ∀ es ∈ x, es.Hangs hi := by
  rw [Converter.ascription?]
  cases hn : c.node? r with
  | none => exact Yields.pure fun es hes => absurd hes (Option.not_mem_none es)
  | some n =>
    refine Conversion.yields_tokens h.index_eq ?_
    refine (h.child (hr.self hn)).bind fun type htype => Yields.map ?_
    have hle : n.pos ≤ n.stop := by
      obtain ⟨i, rfl, hi⟩ := Option.bind_eq_some_iff.mp hn
      exact (hr.stands rfl hi).isLaidOut.pos_le_stop
    -- A colon or an arrow in front of the type ends before it.
    obtain ⟨start, hstart, heq⟩ : ∃ start ≤ n.pos,
        start = (((((TokenIndex.ofList tokens).before n.pos).filter fun t =>
          t.kind == .colonToken || t.kind == .equalsGreaterThanToken).map
            SourceToken.start).getD n.pos) := by
      refine ⟨_, ?_, rfl⟩
      cases hmark : ((TokenIndex.ofList tokens).before n.pos).filter fun t =>
          t.kind == .colonToken || t.kind == .equalsGreaterThanToken with
      | none => exact Nat.le_refl _
      | some t =>
        have hstop := TokenIndex.stop_le_of_before h.inOrder (Option.filter_eq_some_iff.mp hmark).1
        exact Nat.le_of_lt (Nat.lt_of_lt_of_le hstop.1 hstop.2)
    rw [← heq]
    refine (Source.yields_hangs rfl (Nat.le_trans hstart hle)
      (.value (EsValue.nested_mono hstart (Nat.le_refl _) htype) .nil)).mono ?_
    rintro es hes _ ⟨⟩
    exact { hes with stop_le := Nat.le_trans hes.stop_le (hr.stop_le n hn) }

/-- **The brackets around a list are found within its bounds**, and around the list. -/
theorem brackets (h : c.Nests tokens) (hl : c.arena.InAngles tokens lo hi l) :
    Yields (c.brackets l) fun x => lo ≤ x.1 ∧ x.1 ≤ l.pos ∧ l.stop ≤ x.2 ∧ x.2 ≤ hi := by
  obtain ⟨t, ht, -, hlo, hpos⟩ := hl.opening
  obtain ⟨u, hu, hkind, hstop, hhi⟩ := hl.closing
  have hfull := h.inOrder.nonempty t ht
  have hfull' := h.inOrder.nonempty u hu
  rw [Converter.brackets]
  split
  · -- Around an empty list one character on each side is taken, and a bracket has a width.
    refine Conversion.yields_moved (Yields.pure ?_)
    dsimp only
    omega
  · refine Conversion.yields_tokens h.index_eq (Conversion.yields_moved (Yields.pure ?_))
    obtain ⟨v, -, hv, hle, -, hvstop⟩ := TokenIndex.exists_findAfter h.inOrder hu hkind hstop
    obtain ⟨w, hw, htw⟩ := TokenIndex.exists_before_of_stop_le h.inOrder ht hpos
    have hwstop := TokenIndex.stop_le_of_before h.inOrder hw
    have hopening : lo ≤ (TokenIndex.ofList tokens).openingOf l ∧
        (TokenIndex.ofList tokens).openingOf l ≤ l.pos := by
      rw [TokenIndex.openingOf, hw, Option.filter_some]
      split
      · rw [Option.map_some, Option.getD_some]
        omega
      · rw [Option.map_none, Option.getD_none]
        omega
    have hclosing : (TokenIndex.ofList tokens).closingOf? l = some v.stop := by
      rw [TokenIndex.closingOf?, hv]
      rfl
    have hvfull := TokenIndex.le_start_of_findAfter h.inOrder hv
    rw [hclosing]
    dsimp only
    rw [Option.getD_some]
    omega

/-- The nodes of a list in angle brackets lie within the list. -/
theorem fitsIn_inside (hl : c.arena.ListFits tokens lo hi l) :
    ∀ r ∈ l.nodes, c.arena.FitsIn tokens l.pos l.stop r := fun r hr =>
  { hl.nodes r hr with
    le_pos := fun n hn _ => (hl.angles.inside r hr n hn).1
    stop_le := fun n hn => (hl.angles.inside r hr n hn).2 }

theorem typeArguments (h : c.Nests tokens) (hl : c.arena.ListFits tokens lo hi l) :
    Yields (c.typeArguments l) (EsNode.Fits lo hi) := by
  refine (h.brackets hl.angles).bind fun x ⟨hlo, hpos, hstop, hhi⟩ => ?_
  refine (Yields.mapM_all l.nodes fun r hr => h.typeArgument (fitsIn_inside hl r hr)
    fun m hm => (hl.angles.inside r hr m hm).1).bind fun vs hvs => ?_
  have hle := hl.angles.pos_le_stop
  refine Source.yields_buildAt hlo (by omega) hhi (.value ?_ .nil)
  exact EsValue.nested_mono hpos hstop (EsValue.nested_array_iff.mpr hvs)

theorem typeParameters (h : c.Nests tokens) (hl : c.arena.ListFits tokens lo hi l) :
    Yields (c.typeParameters l) (EsNode.Fits lo hi) := by
  refine (h.brackets hl.angles).bind fun x ⟨hlo, hpos, hstop, hhi⟩ => ?_
  refine (h.list (fitsIn_inside hl)).bind fun v hv => ?_
  have hle := hl.angles.pos_le_stop
  exact Source.yields_buildAt hlo (by omega) hhi (.value (EsValue.nested_mono hpos hstop hv) .nil)

theorem typeArguments? (h : c.Nests tokens) {l : Option NodeList}
    (hl : ∀ x ∈ l, c.arena.ListFits tokens lo hi x) :
    Yields (c.typeArguments? l) fun x => ∀ es ∈ x, es.Fits lo hi :=
  Yields.optionMapM l fun x hx => h.typeArguments (hl x hx)

theorem typeParameters? (h : c.Nests tokens) {l : Option NodeList}
    (hl : ∀ x ∈ l, c.arena.ListFits tokens lo hi x) :
    Yields (c.typeParameters? l) fun x => ∀ es ∈ x, es.Fits lo hi :=
  Yields.optionMapM l fun x hx => h.typeParameters (hl x hx)

end Nests

end Converter

end ScriptTree
