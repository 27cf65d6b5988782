import ScriptTree.Convert.Markup
import ScriptTree.Proofs.Convert.Nesting.Down

/-!
# Bounds on markup

Names in markup cover their nodes, and an empty expression covers what is between its braces.
-/

namespace ScriptTree

open Conversion (Yields)

namespace Converter.Nests

variable {c : Converter} {tokens : List SourceToken} {lo hi : Nat} {i : NodeId} {n : Node}
  {r : NodeRef}

/-! ### Names -/

theorem markupName (hle : n.pos ≤ n.stop) :
    Yields (c.markupName r n) (EsNode.Fits n.pos n.stop) :=
  (Source.yields_build hle (.plain rfl .nil)).bind fun _ hname =>
    (Yields.trivial _).bind fun _ _ => .pure hname

/-- **The name of a tag lies within bounds**, together with its parts. -/
theorem tagNameOf (h : c.Nests tokens) (hr : c.arena.FitsIn tokens lo hi r)
    (hstart : c.arena.StartsFrom lo r) :
    Yields (c.tagNameOf r) fun v => v.nested lo hi = true := by
  rw [Converter.tagNameOf.eq_def]
  split
  · next i =>
    split
    · next n hn =>
      have hself := hr.stands rfl hn
      have hle := hself.isLaidOut.pos_le_stop
      have hwide {es : EsNode} (hes : es.Fits n.pos n.stop) : es.toValue.nested lo hi = true :=
        (hes.mono (hstart n hn) (hr.stop_le n hn)).nested
      refine .ite (fun _ => ?_) fun _ => .map ((markupName hle).mono fun es hes => hwide hes)
      refine Conversion.yields_parts fun d hd => ?_
      have hname (f : Field) (hf : f ∈ Pool.access.layout) :
          Yields (c.tagName (d.nodeAt f)) fun v => v.nested n.pos n.stop = true := by
        have hchild := Pool.mem_childFields (p := .access) (by decide) hf n.kind
        exact h.tagName (hself.fieldFits hd hchild).node (hself.startsFrom hd hchild)
      refine (hname .expression (by decide)).bind fun object hobject => ?_
      refine (hname .nameOrArgument (by decide)).bind fun property hproperty => ?_
      refine (Source.yields_build hle (.value hobject (.value hproperty .nil))).bind
        fun name hes => ?_
      exact (Yields.trivial _).bind fun _ _ => .pure (hwide hes)
    · exact .pure rfl
  · exact .pure rfl

/-! ### Tags -/

/-- The attributes of a tag may be empty, but do not start in front of it. -/
theorem markupAttributes (h : c.Nests tokens) (hr : c.arena.FitsIn tokens lo hi r)
    (hstart : c.arena.StartsFrom lo r) :
    Yields (c.markupAttributes r) fun v => v.nested lo hi = true := by
  rw [Converter.markupAttributes.eq_def]
  split
  · next i =>
    split
    · next n hn =>
      refine Conversion.yields_parts fun d hd => ?_
      exact h.list (((hr.stands rfl hn).fits hd .properties (by decide)).mono (hstart n hn)
        (hr.stop_le n hn)).list
    · exact .pure rfl
  · exact .pure rfl

theorem openingTag (h : c.Nests tokens) (hi : c.arena.Stands tokens i n) (selfClosing : Bool) :
    Yields (c.openingTag i n selfClosing) (EsNode.Fits n.pos n.stop) := by
  refine Conversion.yields_parts fun d hd => ?_
  have hchild (f : Field) (hf : f ∈ Pool.jsxOpening.layout) :
      f ∈ Pool.jsxOpening.childFields n.kind := Pool.mem_childFields (by decide) hf _
  refine (h.typeArguments? ((hi.fits hd .typeArguments (by decide)).angled rfl)).bind
    fun arguments harguments => ?_
  refine (h.tagName (hi.fits hd .tagName (by decide)).node
    (hi.startsFrom hd (hchild .tagName (by decide)))).bind fun name hname => ?_
  refine (h.markupAttributes (hi.fits hd .attributes (by decide)).node
    (hi.startsFrom hd (hchild .attributes (by decide)))).bind fun attributes hattributes => ?_
  exact Source.yields_build hi.isLaidOut.pos_le_stop (.node?
    (fun es hes => (harguments es hes).nested)
      (.plain rfl (.value hname (.value hattributes .nil))))

theorem selfClosingElement (h : c.Nests tokens) (hi : c.arena.Stands tokens i n) :
    Yields (c.selfClosingElement i n) (EsNode.Fits n.pos n.stop) := by
  refine (h.openingTag hi true).bind fun tag htag => ?_
  exact Source.yields_build hi.isLaidOut.pos_le_stop
    (.value htag.nested (.value rfl (.value rfl .nil)))

/-! ### Attributes and children -/

theorem markupAttribute (h : c.Nests tokens) (hi : c.arena.Stands tokens i n) :
    Yields (c.markupAttribute i n) (EsNode.Fits n.pos n.stop) := by
  refine Conversion.yields_parts fun d hd => ?_
  have hchild : Field.name ∈ Pool.jsxAttribute.childFields n.kind :=
    Pool.mem_childFields (by decide) (by decide) _
  have hword : Yields ((c.node? (d.get .name)).mapM (c.markupName (d.get .name)))
      fun x => ∀ es ∈ x, es.Fits n.pos n.stop := by
    refine Yields.optionMapM _ fun m hm => ?_
    obtain ⟨j, hj, hnode⟩ := Option.bind_eq_some_iff.mp hm
    obtain ⟨hpos, hle, hstop⟩ :=
      hi.within hd hchild (Record.mem_refs_of_nodeAt (f := .name) hj) hnode
    exact (markupName hle).mono fun es hes => hes.mono hpos hstop
  refine hword.bind fun name hname => ?_
  refine (h.child (hi.fits hd .initializer (by decide)).node).bind fun value hvalue => ?_
  exact Source.yields_build hi.isLaidOut.pos_le_stop
    (.value (nested_ofNode? hname) (.value hvalue .nil))

/-- Braces have a width, so what is between them lies in the node. -/
theorem markupExpression (h : c.Nests tokens) (hi : c.arena.Stands tokens i n)
    (hfile : n.kind ≠ .sourceFile) :
    Yields (c.markupExpression i n) (EsNode.Fits n.pos n.stop) := by
  refine Conversion.yields_parts fun d hd => ?_
  have hfull := (hi.isLaidOut.isBounded (Arena.isBlank_of_data? hd (by decide)) hfile).pos_lt_stop
  have hstop := hi.isLaidOut.stop_lt
  have hbuild {expression : EsNode} (hes : expression.Fits n.pos n.stop) :
      Yields (c.build (if d.get .dotDotDotToken then .jsxSpreadChild else .jsxExpressionContainer) n
        [("expression", expression)]) (EsNode.Fits n.pos n.stop) :=
    Source.yields_build hi.isLaidOut.pos_le_stop (.value hes.nested .nil)
  refine (h.convert (hi.fits hd .expression (by decide)).node).bind fun x hx => ?_
  cases x with
  | some es => exact hbuild (hx es rfl)
  | none =>
    exact (Source.yields_buildAt (by omega) (by omega) (by omega) .nil).bind
      fun es hes => hbuild hes

end Converter.Nests

end ScriptTree
