import ScriptTree.Convert.Exchange
import ScriptTree.Proofs.Convert.Nesting.Down

/-!
# Bounds on imports and exports

The specifiers of an import or export are parts of clauses that lie in it.
-/

namespace ScriptTree

open Conversion (Yields)

namespace Converter.Nests

variable {c : Converter} {tokens : List SourceToken} {lo hi : Nat} {i : NodeId} {n : Node}
  {r : NodeRef}

/-! ### Imports -/

/-- The first name of a clause is specified from the start of the clause on. -/
theorem defaultSpecifier (h : c.Nests tokens) (hi : c.arena.Stands tokens i n)
    {d : Data .importClause} (hd : c.arena.data? .importClause n = some d) :
    Yields (c.defaultSpecifier n (d.get .name)) fun xs => ∀ es ∈ xs, es.Fits n.pos n.stop := by
  rw [Converter.defaultSpecifier.eq_def]
  split
  · next m hm =>
    obtain ⟨j, hj, hnode⟩ := Option.bind_eq_some_iff.mp hm
    have hj : j ∈ d.refs .name := Record.mem_refs_of_nodeAt hj
    obtain ⟨hpos, hle, hstop⟩ :=
      hi.within hd (Pool.mem_childFields (by decide) (by decide) _) hj hnode
    refine (h.child ((hi.fits hd .name (by decide)).node.self hm)).bind fun name hname => ?_
    refine (Source.yields_buildAt (Nat.le_refl _) (Nat.le_trans hpos hle) hstop
      (.value (EsValue.nested_mono hpos (Nat.le_refl _) hname) .nil)).bind
        fun specifier hspecifier => .pure ?_
    exact List.forall_mem_singleton.mpr hspecifier
  · exact .pure fun es hes => absurd hes List.not_mem_nil

theorem listedSpecifiers (h : c.Nests tokens) (hr : c.arena.FitsIn tokens lo hi r) :
    Yields (c.listedSpecifiers r) fun xs => ∀ es ∈ xs, es.Fits lo hi := by
  have hnone : ∀ es ∈ ([] : List EsNode), es.Fits lo hi :=
    fun es hes => absurd hes List.not_mem_nil
  rw [Converter.listedSpecifiers.eq_def]
  split
  · next i =>
    split
    · next n hn =>
      refine .ite (fun _ => ?_) fun _ => ?_
      · refine (h.convert hr).bind fun x hx => .pure fun es hes => ?_
        exact hx es (Option.mem_toList.mp hes)
      · refine Conversion.yields_parts fun d hd => ?_
        exact Yields.filterMapM (d.get .elements).nodes fun r hr' =>
          h.convert ((hr.fits hn hd .elements (by decide)).list r hr')
    · exact .pure hnone
  · exact .pure hnone

theorem importSpecifiers (h : c.Nests tokens) (hr : c.arena.FitsIn tokens lo hi r) :
    Yields (c.importSpecifiers r) fun xs => ∀ es ∈ xs, es.Fits lo hi := by
  have hnone : ∀ es ∈ ([] : List EsNode), es.Fits lo hi :=
    fun es hes => absurd hes List.not_mem_nil
  rw [Converter.importSpecifiers.eq_def]
  split
  · next i =>
    split
    · next n hn =>
      refine Conversion.yields_parts fun d hd => ?_
      have hle := hr.le_pos n hn (Arena.isBlank_of_data? hd (by decide))
      refine (h.defaultSpecifier (hr.stands rfl hn) hd).bind fun first hfirst => ?_
      refine (h.listedSpecifiers (hr.fits hn hd .namedBindings (by decide)).node).bind
        fun others hothers => .pure (List.forall_mem_append.mpr ⟨fun es hes => ?_, hothers⟩)
      exact (hfirst es hes).mono hle (hr.stop_le n hn)
    · exact .pure hnone
  · exact .pure hnone

theorem importDeclaration (h : c.Nests tokens) (hi : c.arena.Stands tokens i n) :
    Yields (c.importDeclaration i n) (EsNode.Fits n.pos n.stop) := by
  refine Conversion.yields_parts fun d hd => ?_
  refine (h.child (hi.fits hd .moduleSpecifier (by decide)).node).bind fun source hsource => ?_
  refine (h.importSpecifiers (hi.fits hd .importClause (by decide)).node).bind
    fun specifiers hspecifiers => ?_
  exact Source.yields_build hi.isLaidOut.pos_le_stop
    (.value hsource (.value (nested_ofNodes hspecifiers) .nil))

/-- The name that a specifier has outside lies in it. -/
theorem fitsIn_outerName (hi : c.arena.Stands tokens i n) {d : Data .specifier}
    (hd : c.arena.data? .specifier n = some d) :
    c.arena.FitsIn tokens n.pos n.stop (outerName d) := by
  have hproperty : c.arena.FitsIn tokens n.pos n.stop (d.get .propertyName) :=
    (hi.fits hd .propertyName (by decide)).node
  rw [outerName]
  cases hr : d.get .propertyName with
  | none => exact (hi.fits hd .name (by decide)).node
  | some j => rwa [hr] at hproperty

theorem importSpecifier (h : c.Nests tokens) (hi : c.arena.Stands tokens i n) :
    Yields (c.importSpecifier i n) (EsNode.Fits n.pos n.stop) := by
  refine Conversion.yields_parts fun d hd => ?_
  refine (h.child (hi.fits hd .name (by decide)).node).bind fun name hname => ?_
  refine (h.child (fitsIn_outerName hi hd)).bind fun imported himported => ?_
  exact Source.yields_build hi.isLaidOut.pos_le_stop (.value hname (.value himported .nil))

/-! ### Exports -/

theorem exportSpecifier (h : c.Nests tokens) (hi : c.arena.Stands tokens i n) :
    Yields (c.exportSpecifier i n) (EsNode.Fits n.pos n.stop) := by
  refine Conversion.yields_parts fun d hd => ?_
  refine (h.child (fitsIn_outerName hi hd)).bind fun name hname => ?_
  refine (h.child (hi.fits hd .name (by decide)).node).bind fun exported hexported => ?_
  exact Source.yields_build hi.isLaidOut.pos_le_stop (.value hname (.value hexported .nil))

theorem exportDeclaration (h : c.Nests tokens) (hi : c.arena.Stands tokens i n) :
    Yields (c.exportDeclaration i n) (EsNode.Fits n.pos n.stop) := by
  have hle := hi.isLaidOut.pos_le_stop
  refine Conversion.yields_parts fun d hd => ?_
  refine (h.child (hi.fits hd .moduleSpecifier (by decide)).node).bind fun source hsource => ?_
  have heverything : Yields (Converter.exportDeclaration.everything c n source)
      (EsNode.Fits n.pos n.stop) := Source.yields_build hle (.value hsource .nil)
  have hclause : c.arena.FitsIn tokens n.pos n.stop (d.get .exportClause) :=
    (hi.fits hd .exportClause (by decide)).node
  split
  · next j hj =>
    rw [hj] at hclause
    split
    · next clause hn =>
      refine .ite (fun _ => ?_) fun _ => ?_
      · refine Conversion.yields_parts fun named hnamed => ?_
        refine (h.list (hclause.fits hn hnamed .elements (by decide)).list).bind
          fun specifiers hspecifiers => ?_
        exact Source.yields_build hle (.value rfl (.value hspecifiers (.value hsource .nil)))
      · refine Conversion.yields_parts fun namespaced hnamespaced => ?_
        refine (h.child (hclause.fits hn hnamespaced .name (by decide)).node).bind
          fun exported hexported => ?_
        exact Source.yields_build hle (.value hsource (.value hexported .nil))
    · exact heverything
  · exact heverything

theorem exportAssignment (h : c.Nests tokens) (hi : c.arena.Stands tokens i n) :
    Yields (c.exportAssignment i n) (EsNode.Fits n.pos n.stop) := by
  have hle := hi.isLaidOut.pos_le_stop
  refine Conversion.yields_parts fun d hd => ?_
  refine (h.child (hi.fits hd .expression (by decide)).node).bind fun value hvalue => ?_
  exact .ite (fun _ => Source.yields_build hle (.value hvalue .nil))
    fun _ => Source.yields_build hle (.value hvalue .nil)

end Converter.Nests

end ScriptTree
