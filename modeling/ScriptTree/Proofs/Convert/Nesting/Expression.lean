import ScriptTree.Proofs.Convert.Commas
import ScriptTree.Proofs.Convert.Nesting.Rote

/-!
# Bounds on expressions

Expressions and literals cover their nodes, and their parts lie where the parts of the nodes do. Of
a chain of commas and of the spans of a template the parts of inner nodes are taken over, which
lie within the outer node as well.
-/

namespace ScriptTree

open Conversion (Yields)

/-! ### Literals -/

namespace Source

variable {s : Source} {i : NodeId} {n : Node} (hle : n.pos ≤ n.stop)

include hle

theorem yields_privateName : Yields (s.privateName i n) (EsNode.Fits n.pos n.stop) :=
  Conversion.yields_parts fun _ _ => yields_build hle (.plain rfl .nil)

theorem yields_stringLiteral : Yields (s.stringLiteral i n) (EsNode.Fits n.pos n.stop) :=
  Conversion.yields_parts fun _ _ => yields_build hle (.plain rfl (.plain rfl .nil))

theorem yields_numericLiteral : Yields (s.numericLiteral n) (EsNode.Fits n.pos n.stop) :=
  yields_build hle (.plain rfl (.plain rfl .nil))

theorem yields_bigIntLiteral : Yields (s.bigIntLiteral n) (EsNode.Fits n.pos n.stop) :=
  yields_build hle (.plain rfl (.plain rfl .nil))

theorem yields_regexLiteral : Yields (s.regexLiteral n) (EsNode.Fits n.pos n.stop) := by
  rw [regexLiteral]
  split
  · exact yields_build hle (.plain rfl (.plain rfl (.plain rfl .nil)))
  · exact .throw

theorem yields_booleanLiteral : Yields (s.booleanLiteral n) (EsNode.Fits n.pos n.stop) :=
  yields_build hle (.plain rfl (.plain rfl .nil))

theorem yields_nullLiteral : Yields (s.nullLiteral i n) (EsNode.Fits n.pos n.stop) :=
  .ite (fun _ => yields_build hle .nil) fun _ => yields_build hle (.plain rfl (.plain rfl .nil))

theorem yields_markupText : Yields (s.markupText n) (EsNode.Fits n.pos n.stop) :=
  yields_build hle (.plain rfl (.plain rfl .nil))

theorem yields_templateElement (cooked : String) (close : Nat) (tail : Bool) :
    Yields (s.templateElement n cooked close tail) (EsNode.Fits n.pos n.stop) :=
  Conversion.yields_moved (yields_build hle (.plain rfl (.plain rfl .nil)))

theorem yields_templatePiece : Yields (s.templatePiece i n) (EsNode.Fits n.pos n.stop) :=
  Conversion.yields_parts fun _ _ =>
    .ite (fun _ => yields_templateElement hle ..) fun _ => yields_templateElement hle ..

theorem yields_plainTemplate : Yields (s.plainTemplate i n) (EsNode.Fits n.pos n.stop) := by
  refine Conversion.yields_parts fun d _ => ?_
  refine (yields_templateElement hle ..).bind fun piece hpiece => ?_
  refine yields_build hle (.value ?_ (.value rfl .nil))
  exact Converter.nested_ofNodes (List.forall_mem_singleton.mpr hpiece)

end Source

/-! ### Operators -/

/-- The operands of a chain of commas lie where the chain does. -/
theorem Arena.fitsIn_commaOperands {a : Arena} {tokens : List SourceToken} {lo hi fuel : Nat}
    {r : NodeRef} {operands : List NodeRef} (h : a.commaOperands fuel r = some operands)
    (hr : a.FitsIn tokens lo hi r) : ∀ r' ∈ operands, a.FitsIn tokens lo hi r' := by
  -- The left operand of a comma may be a chain again, the right one is not looked into.
  induction fuel generalizing r operands with
  | zero => cases h
  | succ fuel ih =>
    obtain ⟨-, rfl⟩ | ⟨j, d, others, rfl, hcomma, hothers, rfl⟩ := commaOperands_eq_some h
    · exact List.forall_mem_singleton.mpr hr
    · obtain ⟨n, hn, -, hd, -⟩ := id hcomma
      refine List.forall_mem_cons.mpr ⟨(hr.fits hn hd .right (by decide)).node, ?_⟩
      exact ih hothers (hr.fits hn hd .left (by decide)).node

namespace Converter.Nests

variable {c : Converter} {tokens : List SourceToken} {lo hi : Nat} {i : NodeId} {n : Node}
  {r : NodeRef}

theorem sequence (h : c.Nests tokens) (hi : c.arena.Stands tokens i n) {d : Data .binary}
    (hd : c.arena.data? .binary n = some d) :
    Yields (c.sequence n d) (EsNode.Fits n.pos n.stop) := by
  have hleft : c.arena.FitsIn tokens n.pos n.stop (d.get .left) :=
    (hi.fits hd .left (by decide)).node
  have hright : c.arena.FitsIn tokens n.pos n.stop (d.get .right) :=
    (hi.fits hd .right (by decide)).node
  refine Conversion.yields_await fun others hothers => ?_
  have hoperands := List.forall_mem_cons.mpr ⟨hright, Arena.fitsIn_commaOperands hothers hleft⟩
  refine (Yields.mapM_all _ fun r hr => h.child (hoperands r (List.mem_reverse.mp hr))).bind
    fun vs hvs => ?_
  exact Source.yields_build hi.isLaidOut.pos_le_stop
    (.value (EsValue.nested_array_iff.mpr hvs) .nil)

theorem operands (h : c.Nests tokens) (hi : c.arena.Stands tokens i n) {d : Data .binary}
    (hd : c.arena.data? .binary n = some d) (isDefault : Bool) :
    Yields (c.operands n d isDefault) (EsNode.Fits n.pos n.stop) := by
  have hle := hi.isLaidOut.pos_le_stop
  refine (h.child (hi.fits hd .left (by decide)).node).bind fun left hleft => ?_
  refine (h.child (hi.fits hd .right (by decide)).node).bind fun right hright => ?_
  exact .ite (fun _ => Source.yields_build hle (.value hleft (.value hright .nil)))
    fun _ => Source.yields_build hle (.plain rfl (.value hleft (.value hright .nil)))

theorem binary (h : c.Nests tokens) (hi : c.arena.Stands tokens i n) :
    Yields (c.binary i n) (EsNode.Fits n.pos n.stop) := by
  refine Conversion.yields_parts fun d hd => ?_
  refine .ite (fun _ => h.sequence hi hd) fun _ => ?_
  exact .ite (fun _ => Conversion.yields_await fun inside _ => h.operands hi hd inside)
    fun _ => h.operands hi hd false

theorem unary (h : c.Nests tokens) (hi : c.arena.Stands tokens i n) :
    Yields (c.unary i n) (EsNode.Fits n.pos n.stop) := by
  refine Conversion.yields_parts fun d hd => ?_
  refine (h.child (hi.fits hd .operand (by decide)).node).bind fun argument hargument => ?_
  exact Source.yields_build hi.isLaidOut.pos_le_stop
    (.plain rfl (.plain rfl (.value hargument .nil)))

/-- The keyword covers what it is written as. -/
theorem metaProperty (h : c.Nests tokens) (hi : c.arena.Stands tokens i n) :
    Yields (c.metaProperty i n) (EsNode.Fits n.pos n.stop) := by
  refine Conversion.yields_parts fun d hd => Conversion.yields_moved ?_
  have hkeyword := hi.isLaidOut.keyword d hd
  refine (Source.yields_buildAt (Nat.le_refl _) (Nat.le_add_right _ _) hkeyword
    (.plain rfl .nil)).bind fun owner howner => ?_
  refine (h.child (hi.fits hd .name (by decide)).node).bind fun property hproperty => ?_
  exact Source.yields_build hi.isLaidOut.pos_le_stop (.value howner.nested (.value hproperty .nil))

/-! ### Templates -/

theorem templateSpan (h : c.Nests tokens) (hr : c.arena.FitsIn tokens lo hi r) :
    Yields (c.templateSpan r) fun x =>
      ∀ y ∈ x, y.1.nested lo hi = true ∧ y.2.nested lo hi = true := by
  have hnone : ∀ y ∈ (none : Option (EsValue × EsValue)),
      y.1.nested lo hi = true ∧ y.2.nested lo hi = true :=
    fun y hy => absurd hy (Option.not_mem_none y)
  rw [Converter.templateSpan.eq_def]
  split
  · next i =>
    split
    · next n hn =>
      refine Conversion.yields_parts fun d hd => ?_
      refine (h.child (hr.fits hn hd .expression (by decide)).node).bind fun x hx => ?_
      refine (h.child (hr.fits hn hd .literal (by decide)).node).bind fun y hy => .pure ?_
      rintro _ ⟨⟩
      exact ⟨hx, hy⟩
    · exact .pure hnone
  · exact .pure hnone

theorem template (h : c.Nests tokens) (hi : c.arena.Stands tokens i n) :
    Yields (c.template i n) (EsNode.Fits n.pos n.stop) := by
  refine Conversion.yields_parts fun d hd => ?_
  have hspans := (hi.fits hd .templateSpans (by decide)).list
  refine (h.child (hi.fits hd .head (by decide)).node).bind fun head hhead => ?_
  refine (Yields.filterMapM (d.get .templateSpans).nodes fun r hr =>
    h.templateSpan (hspans r hr)).bind fun spans hspans => ?_
  refine Source.yields_build hi.isLaidOut.pos_le_stop (.value ?_ (.value ?_ .nil))
  · refine EsValue.nested_array_iff.mpr (List.forall_mem_cons.mpr ⟨hhead, ?_⟩)
    exact List.forall_mem_map.mpr fun x hx => (hspans x hx).2
  · exact EsValue.nested_array_iff.mpr (List.forall_mem_map.mpr fun x hx => (hspans x hx).1)

theorem taggedTemplate (h : c.Nests tokens) (hi : c.arena.Stands tokens i n) :
    Yields (c.taggedTemplate i n) (EsNode.Fits n.pos n.stop) := by
  refine Conversion.yields_parts fun d hd => ?_
  refine (h.child (hi.fits hd .tag (by decide)).node).bind fun tag htag => ?_
  refine (h.typeArguments? ((hi.fits hd .typeArguments (by decide)).angled rfl)).bind
    fun arguments harguments => ?_
  refine (h.child (hi.fits hd .template (by decide)).node).bind fun quasi hquasi => ?_
  exact Source.yields_build hi.isLaidOut.pos_le_stop (.value htag (.value hquasi
    (.node? (fun es hes => (harguments es hes).nested) .nil)))

/-! ### Literals that may be targets -/

theorem arrayLiteral (h : c.Nests tokens) (hi : c.arena.Stands tokens i n) :
    Yields (c.arrayLiteral i n) (EsNode.Fits n.pos n.stop) := by
  refine Conversion.yields_parts fun d hd => Conversion.yields_await fun _ _ => ?_
  refine (h.list (hi.fits hd .elements (by decide)).list).bind fun elements helements => ?_
  exact Source.yields_build hi.isLaidOut.pos_le_stop (.value helements .nil)

theorem objectLiteral (h : c.Nests tokens) (hi : c.arena.Stands tokens i n) :
    Yields (c.objectLiteral i n) (EsNode.Fits n.pos n.stop) := by
  refine Conversion.yields_parts fun d hd => Conversion.yields_await fun _ _ => ?_
  refine (h.list (hi.fits hd .elements (by decide)).list).bind fun properties hproperties => ?_
  exact Source.yields_build hi.isLaidOut.pos_le_stop (.value hproperties .nil)

theorem spread (h : c.Nests tokens) (hi : c.arena.Stands tokens i n) :
    Yields (c.spread i n) (EsNode.Fits n.pos n.stop) := by
  refine Conversion.yields_parts fun d hd => Conversion.yields_await fun _ _ => ?_
  refine (h.child (hi.fits hd .expression (by decide)).node).bind fun argument hargument => ?_
  exact Source.yields_build hi.isLaidOut.pos_le_stop (.value hargument .nil)

theorem shorthandProperty (h : c.Nests tokens) (hi : c.arena.Stands tokens i n) :
    Yields (c.shorthandProperty i n) (EsNode.Fits n.pos n.stop) := by
  have hle := hi.isLaidOut.pos_le_stop
  refine Conversion.yields_parts fun d hd => ?_
  have hname := hi.fits hd .name (by decide)
  have hdefault := hi.fits hd .objectAssignmentInitializer (by decide)
  refine (h.child hname.node).bind fun key hkey => ?_
  refine (h.child hname.node).bind fun value hvalue => ?_
  have hbuild {value : EsValue} (hvalue : value.nested n.pos n.stop = true) :
      Yields (c.build .property n
        [("key", key), ("value", value), ("computed", false), ("method", false),
          ("shorthand", true), ("kind", "init")]) (EsNode.Fits n.pos n.stop) :=
    Source.yields_build hle (.value hkey (.value hvalue
      (.plain rfl (.plain rfl (.plain rfl (.plain rfl .nil))))))
  split
  · rw [pure_bind]
    exact hbuild hvalue
  · refine (h.child hdefault.node).bind fun right hright => ?_
    exact (Source.yields_build hle (.value hvalue (.value hright .nil))).toValue.bind
      fun value hvalue => hbuild hvalue

end Converter.Nests

end ScriptTree
