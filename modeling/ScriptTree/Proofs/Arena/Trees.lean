import ScriptTree.Proofs.Arena.Climb
import ScriptTree.Proofs.Convert.Ways

/-!
# Arenas that are trees

A document is meant to hold a tree: every node but the root is listed by one node, and the root by
none (`ScriptTree.Arena.IsTree`). Nothing else is asked for. That no node lies below itself follows
(`ScriptTree.Arena.IsTree.not_below_self`), since the nodes above a node are then all on the one way
from the root to it.

The arena may hold nodes outside of the tree. If these list no nodes of the tree
(`ScriptTree.Arena.IsClosed`), the parents that are read off the children are those that one would
expect (`ScriptTree.Arena.IsLinkedTree.parent_eq_some_iff`): every node has the node that lists it.
-/

namespace ScriptTree

namespace Arena

variable {a : Arena} {root : NodeRef} {i j k : NodeId}

/-- **The nodes from a root on form a tree.** -/
structure IsTree (a : Arena) (root : NodeRef) : Prop where
  /-- No node lists the root. -/
  not_isChild_root : ∀ r ∈ root, ∀ j, a.Reaches root j → ¬ a.IsChild j r
  /-- No two nodes list the same one. -/
  eq_of_isChild : ∀ i j k, a.Reaches root j → a.Reaches root k → a.IsChild j i → a.IsChild k i →
    j = k

/-- Only nodes of a tree list nodes of it. -/
def IsClosed (a : Arena) (root : NodeRef) : Prop :=
  ∀ i j, a.Reaches root i → a.IsChild j i → a.Reaches root j

/-- **A tree, with parents that were read off the children.** -/
structure IsLinkedTree (a : Arena) (root : NodeRef) : Prop extends IsTree a root where
  isClosed : a.IsClosed root
  linkParents_eq : a.linkParents = a

/-- What holds of the root, and of the children of a node if it holds of the node, holds of all
nodes of a tree. -/
theorem Reaches.induction {P : NodeId → Prop} (h : a.Reaches root i) (hroot : ∀ r ∈ root, P r)
    (hchild : ∀ j i, a.Reaches root j → a.IsChild j i → P j → P i) : P i := by
  obtain ⟨r, hr, hi⟩ := h
  induction hi with
  | refl => exact hroot r hr
  | tail hj hji ih => exact hchild _ _ ⟨r, hr, hj⟩ hji ih

/-- It is enough that no two nodes of the arena list the same one, and none the root. -/
theorem isTree_of_forall (hroot : ∀ r ∈ root, ∀ j < a.nodes.size, ¬ a.IsChild j r)
    (h : ∀ j < a.nodes.size, ∀ k < a.nodes.size, ∀ i ∈ a.children (some j), a.IsChild k i → j = k) :
    a.IsTree root where
  not_isChild_root r hr j _ hj := hroot r hr j (lt_size_of_isChild hj) hj
  eq_of_isChild i j k _ _ hj hk :=
    h j (lt_size_of_isChild hj) k (lt_size_of_isChild hk) i hj hk

/-- The parents of such an arena may be read off as well. -/
theorem isLinkedTree_of_forall (hroot : ∀ r ∈ root, ∀ j < a.nodes.size, ¬ a.IsChild j r)
    (h : ∀ j < a.nodes.size, ∀ k < a.nodes.size, ∀ i ∈ a.children (some j), a.IsChild k i → j = k)
    (hlinked : a.linkParents = a) : a.IsLinkedTree root := by
  refine ⟨isTree_of_forall hroot h, ?_, hlinked⟩
  rintro i j ⟨r, hr, hri⟩ hchild
  rcases Relation.ReflTransGen.cases_tail hri with rfl | ⟨k, hk, hki⟩
  · exact absurd hchild (hroot i hr j (lt_size_of_isChild hchild))
  · obtain rfl := h j (lt_size_of_isChild hchild) k (lt_size_of_isChild hki) i hchild hki
    exact ⟨r, hr, hk⟩

namespace IsTree

/-- **No node of a tree lies below itself.** -/
theorem not_below_self (h : a.IsTree root) (hi : a.Reaches root i) :
    ¬ Relation.TransGen a.IsChild i i := by
  refine hi.induction (P := fun i => ¬ Relation.TransGen a.IsChild i i) ?_ ?_
  · intro r hr hbelow
    obtain ⟨j, hrj, hjr⟩ := Relation.TransGen.tail'_iff.mp hbelow
    exact h.not_isChild_root r hr j ⟨r, hr, hrj⟩ hjr
  · -- A way from a node back to it comes by the node above, which would lie below itself, too.
    intro j i hj hji ih hbelow
    obtain ⟨k, hik, hki⟩ := Relation.TransGen.tail'_iff.mp hbelow
    obtain rfl := h.eq_of_isChild i k j ((hj.isChild hji).below hik) hj hki hji
    exact ih (.head' hji hik)

end IsTree

/-! ### The parents of a tree -/

/-- A parent in such a tree lists the node. -/
theorem IsLinkedTree.isLinked (h : a.IsLinkedTree root) : a.IsLinked :=
  h.linkParents_eq ▸ a.isLinked_linkParents

namespace IsLinkedTree

/-- **The parent of a node of a tree is the node that lists it.** -/
theorem parent_eq_some_iff (h : a.IsLinkedTree root) (hi : a.Reaches root i)
    (hsize : i < a.nodes.size) : a.parent (some i) = some j ↔ a.IsChild j i := by
  constructor
  · exact h.isLinked i j
  · intro hchild
    obtain ⟨p, hp⟩ := exists_parent_linkParents hchild hsize
    rw [h.linkParents_eq] at hp
    have hparent := h.isLinked i p hp
    rw [hp, h.eq_of_isChild i p j (h.isClosed i p hi hparent) (h.isClosed i j hi hchild) hparent
      hchild]

/-- The parent of a node that is listed. -/
theorem parent_eq {n : Node} (h : a.IsLinkedTree root) (hi : a.Reaches root i)
    (hn : a.nodes[i]? = some n) (hchild : a.IsChild j i) : a.parent (some i) = some j :=
  (h.parent_eq_some_iff hi (Array.getElem?_eq_some_iff.mp hn).1).mpr hchild

/-- The root of a tree has no parent. -/
theorem parent_root (h : a.IsLinkedTree root) : a.parent root = none := by
  rw [Option.eq_none_iff_forall_ne_some]
  intro j hj
  cases root with
  | none => cases hj
  | some r =>
    have hchild := h.isLinked r j hj
    exact h.not_isChild_root r rfl j (h.isClosed r j ⟨r, rfl, .refl⟩ hchild) hchild

/-- Only one node lists a node of the tree. -/
theorem eq_of_isChild_of_reaches (h : a.IsLinkedTree root) (hi : a.Reaches root i)
    (hj : a.IsChild j i) (hk : a.IsChild k i) : j = k :=
  h.eq_of_isChild i j k (h.isClosed i j hi hj) (h.isClosed i k hi hk) hj hk

/-- No node of the arena lists the root. -/
theorem not_isChild (h : a.IsLinkedTree root) {r : NodeId} (hr : r ∈ root) : ¬ a.IsChild j r :=
  fun hchild => h.not_isChild_root r hr j (h.isClosed r j ⟨r, hr, .refl⟩ hchild) hchild

/-- There are no cycles above a node of a tree. Nodes outside the tree may lie below themselves, but
they list no nodes of it. -/
theorem acyclicAbove (h : a.IsLinkedTree root) (hi : a.Reaches root i) : a.AcyclicAbove i := by
  intro j hji
  refine h.not_below_self (i := j) ?_
  induction hji using Relation.ReflTransGen.head_induction_on with
  | refl => exact hi
  | head hchild _ ih => exact h.isClosed _ _ ih hchild

end IsLinkedTree

end Arena

end ScriptTree
