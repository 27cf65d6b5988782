import ScriptTree.Proofs.Arena.Trees

/-!
# The innermost node at an offset

In a tree whose spans are nested no offset belongs to two siblings, and what a node covers is
covered by all nodes above it (`ScriptTree.Arena.IsNested`). The nodes that cover an offset
therefore lie on one way down (`ScriptTree.Arena.IsNested.below_or_below`), and the descent to a
range, which takes at every node the first child that contains it, goes this way to its end
(`ScriptTree.Arena.IsNested.nodeContaining_eq`).
-/

namespace ScriptTree

namespace Arena

/-- The span of a node covers an offset. -/
def Covers (a : Arena) (i : NodeId) (x : Nat) : Prop :=
  ∃ n, a.nodes[i]? = some n ∧ n.pos ≤ x ∧ x < n.stop

/-- **A tree with nested spans and disjoint siblings.** Spans without width cover nothing, and may
lie anywhere. -/
structure IsNested (a : Arena) (root : NodeRef) : Prop extends IsTree a root where
  covers_of_isChild : ∀ j i x, a.Reaches root j → a.IsChild j i → a.Covers i x → a.Covers j x
  eq_of_covers : ∀ j i k x, a.Reaches root j → a.IsChild j i → a.IsChild j k → a.Covers i x →
    a.Covers k x → i = k

/-- **The innermost node at an offset**: it covers the offset, and no child of it does. -/
structure IsInnermost (a : Arena) (root : NodeRef) (x : Nat) (i : NodeId) : Prop where
  reaches : a.Reaches root i
  covers : a.Covers i x
  not_covers : ∀ k, a.IsChild i k → ¬ a.Covers k x

variable {a : Arena} {root : NodeRef} {i j k : NodeId} {n : Node} {start stop x : Nat}

theorem Covers.exists_node (h : a.Covers i x) : ∃ n, a.nodes[i]? = some n := by
  obtain ⟨n, hn, -⟩ := h
  exact ⟨n, hn⟩

theorem covers_iff (hn : a.nodes[i]? = some n) : a.Covers i x ↔ n.pos ≤ x ∧ x < n.stop := by
  constructor
  · rintro ⟨m, hm, hcovers⟩
    obtain rfl : n = m := Option.some.inj (hn.symm.trans hm)
    exact hcovers
  · exact fun hcovers => ⟨n, hn, hcovers⟩

/-- It is enough that the spans of all nodes of the arena are nested and disjoint. -/
theorem isNested_of_forall (htree : a.IsTree root)
    (hinside : ∀ j < a.nodes.size, ∀ i ∈ a.children (some j), ∀ m ∈ a.nodes[j]?, ∀ n ∈ a.nodes[i]?,
      n.pos < n.stop → m.pos ≤ n.pos ∧ n.stop ≤ m.stop)
    (hdisjoint : ∀ j < a.nodes.size, ∀ i ∈ a.children (some j), ∀ k ∈ a.children (some j),
      ∀ n ∈ a.nodes[i]?, ∀ m ∈ a.nodes[k]?, i = k ∨ n.stop ≤ m.pos ∨ m.stop ≤ n.pos) :
    a.IsNested root where
  toIsTree := htree
  covers_of_isChild j i x _ hchild := by
    rintro ⟨n, hn, hle, hlt⟩
    have hj := lt_size_of_isChild hchild
    have hm := Array.getElem?_eq_getElem hj
    have := hinside j hj i hchild _ hm n hn (by omega)
    exact ⟨_, hm, by omega, by omega⟩
  eq_of_covers j i k x _ hi hk := by
    rintro ⟨n, hn, hle, hlt⟩ ⟨m, hm, hle', hlt'⟩
    rcases hdisjoint j (lt_size_of_isChild hi) i hi k hk n hn m hm with heq | hbefore | hbefore
    · exact heq
    · omega
    · omega

/-- A node that covers an offset is the innermost one if the spans of its children do not. -/
theorem isInnermost_of_forall (hi : a.Reaches root i) (hn : a.nodes[i]? = some n)
    (hcovers : n.pos ≤ x ∧ x < n.stop)
    (hchildren : ∀ k ∈ a.children (some i), ∀ m ∈ a.nodes[k]?, ¬ (m.pos ≤ x ∧ x < m.stop)) :
    a.IsInnermost root x i where
  reaches := hi
  covers := (covers_iff hn).mpr hcovers
  not_covers k hk := by
    rintro ⟨m, hm, hmx⟩
    exact hchildren k hk m hm hmx

/-- A node contains a range if it covers its first and its last offset. -/
theorem contains_iff (hn : a.nodes[i]? = some n) (hlt : start < stop) :
    (n.contains start stop && decide (n.pos < n.stop)) = true ↔
      a.Covers i start ∧ a.Covers i (stop - 1) := by
  rw [covers_iff hn, covers_iff hn, Node.contains]
  simp only [Bool.and_eq_true, decide_eq_true_eq]
  omega

/-- The child that a descent goes on to. -/
theorem childContaining_eq_some (hlt : start < stop) (h : a.childContaining i start stop = some k) :
    a.IsChild i k ∧ a.Covers k start ∧ a.Covers k (stop - 1) := by
  refine ⟨(isChild_of_childContaining h).1, ?_⟩
  have hfound := List.find?_some h
  obtain ⟨n, hn, hcontains⟩ := Option.any_eq_true .. |>.mp hfound
  exact (contains_iff hn hlt).mp hcontains

/-- A descent goes on as long as some child contains the range. -/
theorem childContaining_ne_none (hlt : start < stop) (hchild : a.IsChild i k)
    (hstart : a.Covers k start) (hstop : a.Covers k (stop - 1)) :
    a.childContaining i start stop ≠ none := by
  intro hnone
  obtain ⟨n, hn⟩ := hstart.exists_node
  refine List.find?_eq_none.mp hnone k hchild ?_
  rw [hn, Option.any_some]
  exact (contains_iff hn hlt).mpr ⟨hstart, hstop⟩

namespace IsNested

/-- What a node covers is covered by the nodes above it. -/
theorem covers_of_below (h : a.IsNested root) (hj : a.Reaches root j)
    (hji : Relation.ReflTransGen a.IsChild j i) (hcovers : a.Covers i x) : a.Covers j x := by
  induction hji using Relation.ReflTransGen.head_induction_on with
  | refl => exact hcovers
  | head hchild _ ih => exact h.covers_of_isChild _ _ x hj hchild (ih (hj.isChild hchild))

/-- **Of two nodes that cover an offset, one lies below the other.** -/
theorem below_or_below (h : a.IsNested root) (hi : a.Reaches root i) (hk : a.Reaches root k)
    (hix : a.Covers i x) (hkx : a.Covers k x) :
    Relation.ReflTransGen a.IsChild i k ∨ Relation.ReflTransGen a.IsChild k i := by
  refine hi.induction (P := fun i => a.Covers i x →
    Relation.ReflTransGen a.IsChild i k ∨ Relation.ReflTransGen a.IsChild k i) ?_ ?_ hix
  · intro r hr _
    obtain ⟨r', hr', hbelow⟩ := hk
    obtain rfl : r' = r := Option.some.inj (hr'.symm.trans hr)
    exact .inl hbelow
  · -- Below the node above, both are found by going on to the one child that covers the offset.
    intro j i hj hchild ih hix
    rcases ih (h.covers_of_isChild j i x hj hchild hix) with hbelow | hbelow
    · rcases Relation.ReflTransGen.cases_head hbelow with rfl | ⟨m, hm, hmk⟩
      · exact .inr (.single hchild)
      · have hmx := h.covers_of_below (hj.isChild hm) hmk hkx
        obtain rfl := h.eq_of_covers j i m x hj hchild hm hix hmx
        exact .inl hmk
    · exact .inr (hbelow.tail hchild)

/-- A descent takes the way to a node that contains the range and has no child that does. -/
theorem search_descend_of_below (h : a.IsNested root) (hlt : start < stop) (hj : a.Reaches root j)
    (hji : Relation.ReflTransGen a.IsChild j i) (hstart : a.Covers i start)
    (hstop : a.Covers i (stop - 1))
    (hlast : ∀ k, a.IsChild i k → a.Covers k start → ¬ a.Covers k (stop - 1)) :
    a.search (a.descend start stop) j = some i := by
  induction hji using Relation.ReflTransGen.head_induction_on with
  | refl =>
    refine search_of_answer (descend_eq_answer_iff.mpr ⟨?_, rfl⟩)
    rw [Option.eq_none_iff_forall_ne_some]
    intro k hk
    obtain ⟨hchild, hfirst, hend⟩ := childContaining_eq_some hlt hk
    exact hlast k hchild hfirst hend
  | head hm hmi ih =>
    next j m =>
    -- The descent goes on to the node on the way, since siblings are apart.
    have hmreach := hj.isChild hm
    have hmstart := h.covers_of_below hmreach hmi hstart
    have hmstop := h.covers_of_below hmreach hmi hstop
    obtain ⟨k, hk⟩ := Option.ne_none_iff_exists'.mp (childContaining_ne_none hlt hm hmstart hmstop)
    obtain ⟨hchild, hfirst, -⟩ := childContaining_eq_some hlt hk
    obtain rfl := h.eq_of_covers j k m start hj hchild hm hfirst hmstart
    rw [(a.explores_descend start stop).search_of_goOn (descend_eq_goOn_iff.mpr hk)]
    exact ih hmreach

/-- **The deepest node that contains a range** is found, whatever lies beside the way to it. -/
theorem nodeContaining_eq (h : a.IsNested root) (hlt : start < stop) (hi : a.Reaches root i)
    (hstart : a.Covers i start) (hstop : a.Covers i (stop - 1))
    (hlast : ∀ k, a.IsChild i k → a.Covers k start → ¬ a.Covers k (stop - 1)) :
    a.nodeContaining root start stop = some (some i) := by
  obtain ⟨r, rfl, hri⟩ := hi
  have hr : a.Reaches (some r) r := ⟨r, rfl, .refl⟩
  have hrstart := h.covers_of_below hr hri hstart
  have hrstop := h.covers_of_below hr hri hstop
  obtain ⟨n, hn⟩ := hrstart.exists_node
  have hcontains := (contains_iff hn hlt).mpr ⟨hrstart, hrstop⟩
  rw [Bool.and_eq_true] at hcontains
  exact nodeContaining_eq_some_some_iff.mpr ⟨r, n, rfl, hn, hcontains.1,
    h.search_descend_of_below hlt hr hri hstart hstop hlast⟩

/-- The innermost node at the start of a range is found if it contains the whole range. -/
theorem nodeContaining_of_isInnermost (h : a.IsNested root) (hi : a.IsInnermost root start i)
    (hlt : start < stop) (hstop : a.Covers i (stop - 1)) :
    a.nodeContaining root start stop = some (some i) :=
  h.nodeContaining_eq hlt hi.reaches hi.covers hstop fun k hk hfirst =>
    absurd hfirst (hi.not_covers k hk)

end IsNested

end Arena

end ScriptTree
