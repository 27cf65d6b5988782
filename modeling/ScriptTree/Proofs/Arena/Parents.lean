import Mathlib.Order.Bounds.Basic
import ScriptTree.Proofs.Arena.Descent

/-!
# Parents that are read off the children

To find the parents of all nodes one goes through the nodes from the first to the last, and each
becomes the parent of the nodes that it lists. A node that is listed by several ends up with the last
of them, one that is listed by none has no parent
(`ScriptTree.Arena.isLast_parent_linkParents`), and the parents that there were before do not count.
-/

namespace ScriptTree

/-- The last node with a property, or none if there is no such node. -/
def NodeRef.IsLast (P : NodeId → Prop) : NodeRef → Prop
  | none => ∀ q, ¬ P q
  | some p => IsGreatest {q | P q} p

namespace NodeRef.IsLast

variable {P Q : NodeId → Prop} {r : NodeRef} {n : Nat}

/-- Only one node is the last one. -/
theorem unique {r' : NodeRef} (h : IsLast P r) (h' : IsLast P r') : r = r' := by
  cases r with
  | none => cases r' with
    | none => rfl
    | some p => exact absurd h'.1 (h p)
  | some p => cases r' with
    | none => exact absurd h.1 (h' p)
    | some p' => exact congrArg some (IsGreatest.unique h h')

theorem congr (hPQ : ∀ q, P q ↔ Q q) (h : IsLast P r) : IsLast Q r := by
  rwa [← funext fun q => propext (hPQ q)]

/-- One node more, which has the property. -/
theorem succ_of_pos (hn : P n) : IsLast (fun q => q < n + 1 ∧ P q) (some n) :=
  ⟨⟨Nat.lt_succ_self n, hn⟩, fun _ hq => Nat.le_of_lt_succ hq.1⟩

/-- One node more, which does not have the property. -/
theorem succ_of_neg (hn : ¬ P n) (h : IsLast (fun q => q < n ∧ P q) r) :
    IsLast (fun q => q < n + 1 ∧ P q) r := by
  refine h.congr fun q => and_congr_left fun hq => ?_
  have hne : q ≠ n := fun heq => hn (heq ▸ hq)
  rw [Nat.lt_succ_iff_lt_or_eq, or_iff_left hne]

end NodeRef.IsLast

namespace Arena

variable {a : Arena} {i p q : NodeId}

/-! ### Adopting -/

/-- **A node becomes the parent of the nodes that it adopts**, if they are there, and of no others. -/
theorem getElem?_adopt (ps : Array NodeRef) (q : NodeId) (cs : List NodeId) (i : NodeId) :
    (adopt ps q cs)[i]? = if i ∈ cs ∧ i < ps.size then some (some q) else ps[i]? := by
  induction cs generalizing ps with
  | nil => simp [adopt]
  | cons c cs ih =>
    rw [adopt, List.foldl_cons]
    refine (ih _).trans ?_
    rw [Array.size_setIfInBounds, Array.getElem?_setIfInBounds]
    by_cases hc : c = i
    · subst hc
      by_cases hsize : c < ps.size
      · simp [hsize]
      · simp [hsize]
    · simp [hc, Ne.symm hc]

/-! ### Going through the nodes -/

/-- The parents that some of the nodes give to their children. -/
def linksFrom (a : Arena) (parents : Array NodeRef) (nodes : List NodeId) : Array NodeRef :=
  nodes.foldl (fun parents i => adopt parents i (a.children (some i))) parents

theorem linkParents_parents (a : Arena) : a.linkParents.parents =
    a.linksFrom (Array.replicate a.nodes.size none) (List.range a.nodes.size) := rfl

theorem linksFrom_cons (a : Arena) (parents : Array NodeRef) (i : NodeId) (nodes : List NodeId) :
    a.linksFrom parents (i :: nodes) =
      a.linksFrom (adopt parents i (a.children (some i))) nodes := rfl

theorem linksFrom_append (a : Arena) (parents : Array NodeRef) (nodes nodes' : List NodeId) :
    a.linksFrom parents (nodes ++ nodes') = a.linksFrom (a.linksFrom parents nodes) nodes' := by
  rw [linksFrom, List.foldl_append]
  rfl

theorem linksFrom_concat (a : Arena) (parents : Array NodeRef) (nodes : List NodeId) (i : NodeId) :
    a.linksFrom parents (nodes ++ [i]) =
      adopt (a.linksFrom parents nodes) i (a.children (some i)) :=
  a.linksFrom_append parents nodes [i]

theorem size_linksFrom (a : Arena) (parents : Array NodeRef) (nodes : List NodeId) :
    (a.linksFrom parents nodes).size = parents.size := by
  induction nodes generalizing parents with
  | nil => rfl
  | cons i nodes ih => rw [linksFrom_cons, ih, size_adopt]

/-- After the first nodes were gone through, the parent of a node is the last of these that lists
it. -/
theorem exists_isLast_linksFrom (hi : i < a.nodes.size) (n : Nat) :
    ∃ r, (a.linksFrom (Array.replicate a.nodes.size none) (List.range n))[i]? = some r ∧
      r.IsLast fun q => q < n ∧ a.IsChild q i := by
  induction n with
  | zero =>
    refine ⟨none, ?_, fun q hq => absurd hq.1 (Nat.not_lt_zero q)⟩
    exact Array.getElem?_replicate.trans (if_pos hi)
  | succ n ih =>
    obtain ⟨r, hr, hlast⟩ := ih
    rw [List.range_succ, linksFrom_concat, getElem?_adopt, size_linksFrom, Array.size_replicate]
    by_cases hchild : a.IsChild n i
    · exact ⟨some n, if_pos ⟨hchild, hi⟩, NodeRef.IsLast.succ_of_pos hchild⟩
    · exact ⟨r, (if_neg fun h => hchild h.1).trans hr, hlast.succ_of_neg hchild⟩

/-- **The parent that is read off is the last node that lists the node.** -/
theorem isLast_parent_linkParents (hi : i < a.nodes.size) :
    (a.linkParents.parent (some i)).IsLast fun q => a.IsChild q i := by
  obtain ⟨r, hr, hlast⟩ := exists_isLast_linksFrom hi a.nodes.size
  have hparent : a.linkParents.parent (some i) = r := by
    rw [parent, Option.bind_some, linkParents_parents, hr, Option.join_some]
  rw [hparent]
  exact hlast.congr fun q => and_iff_right_of_imp lt_size_of_isChild

/-- What is not there has no parent. -/
theorem parent_linkParents_eq_none (hi : a.nodes.size ≤ i) :
    a.linkParents.parent (some i) = none := by
  have hsize : a.linkParents.parents.size = a.nodes.size := by
    rw [linkParents_parents, size_linksFrom, Array.size_replicate]
  rw [parent, Option.bind_some, Array.getElem?_eq_none (hsize ▸ hi), Option.join_none]

/-- **Reading the parents off once more changes nothing.** -/
theorem linkParents_linkParents (a : Arena) : a.linkParents.linkParents = a.linkParents := rfl

/-! ### Parents and children -/

/-- **Parents go with children**: a parent lists the node as a child. -/
def IsLinked (a : Arena) : Prop :=
  ∀ i p, a.parent (some i) = some p → a.IsChild p i

/-- **The parents that are found list the node as a child.** -/
theorem isLinked_linkParents (a : Arena) : a.linkParents.IsLinked := by
  intro i p hparent
  rcases Nat.lt_or_ge i a.nodes.size with hi | hi
  · have hlast := isLast_parent_linkParents hi
    rw [hparent] at hlast
    exact hlast.1
  · rw [parent_linkParents_eq_none hi] at hparent
    cases hparent

/-- It is enough that the parents are those that are found. -/
theorem isLinked_of_parents_eq {a : Arena} (h : a.linkParents.parents = a.parents) : a.IsLinked := by
  intro i p hparent
  refine a.isLinked_linkParents i p ?_
  rw [parent, h]
  exact hparent

/-- **A node that is listed has a parent**, once the parents were read off. -/
theorem exists_parent_linkParents (hchild : a.IsChild q i) (hi : i < a.nodes.size) :
    ∃ p, a.linkParents.parent (some i) = some p := by
  have hlast := isLast_parent_linkParents hi
  cases hparent : a.linkParents.parent (some i) with
  | none =>
    rw [hparent] at hlast
    exact absurd hchild (hlast q)
  | some p => exact ⟨p, rfl⟩

end Arena

end ScriptTree
