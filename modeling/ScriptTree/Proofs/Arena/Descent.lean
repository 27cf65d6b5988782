import Mathlib.Data.Finset.Card
import Mathlib.Logic.Relation
import ScriptTree.Proofs.Arena.Searches

/-!
# Ways down an arena

An arena in which no node lies below itself (`ScriptTree.Arena.Acyclic`) has no way down that is
longer than the number of its nodes: the nodes below a node, counted, become fewer with every step
down (`ScriptTree.Arena.height`). So a descent has an end
(`ScriptTree.Arena.exists_search_descend`). It is enough that there is no cycle where the descent can
come to (`ScriptTree.Arena.AcyclicFrom`).
-/

namespace ScriptTree

namespace Arena

/-- One node lists the other as a child. -/
def IsChild (a : Arena) (i j : NodeId) : Prop :=
  j ∈ a.children (some i)

instance (a : Arena) (i j : NodeId) : Decidable (a.IsChild i j) :=
  inferInstanceAs (Decidable (j ∈ a.children (some i)))

/-- A node lies below another one, or is that node itself. -/
def Reaches (a : Arena) (r : NodeRef) (i : NodeId) : Prop :=
  ∃ root, r = some root ∧ Relation.ReflTransGen a.IsChild root i

/-- No node lies below itself. -/
def Acyclic (a : Arena) : Prop :=
  ∀ i, ¬ Relation.TransGen a.IsChild i i

/-- No node from this one on lies below itself. -/
def AcyclicFrom (a : Arena) (r : NodeRef) : Prop :=
  ∀ i, a.Reaches r i → ¬ Relation.TransGen a.IsChild i i

variable {a : Arena} {r : NodeRef} {i j : NodeId}

/-- The children of a node of a tree belong to the tree. -/
theorem Reaches.isChild (h : a.Reaches r j) (hchild : a.IsChild j i) : a.Reaches r i := by
  obtain ⟨root, hroot, hj⟩ := h
  exact ⟨root, hroot, hj.tail hchild⟩

/-- So does everything below. -/
theorem Reaches.below (h : a.Reaches r j) (hbelow : Relation.ReflTransGen a.IsChild j i) :
    a.Reaches r i := by
  obtain ⟨root, hroot, hj⟩ := h
  exact ⟨root, hroot, hj.trans hbelow⟩

theorem Acyclic.acyclicFrom (h : a.Acyclic) (r : NodeRef) : a.AcyclicFrom r := fun i _ => h i

/-- Further down there are only fewer nodes. -/
theorem AcyclicFrom.below (h : a.AcyclicFrom (some i))
    (hbelow : Relation.ReflTransGen a.IsChild i j) : a.AcyclicFrom (some j) := by
  rintro k ⟨_, ⟨⟩, hk⟩
  exact h k ⟨i, rfl, hbelow.trans hk⟩

/-- The children of a node that is there are those that its parts list. -/
theorem children_of_node {n : Node} (hn : a.nodes[i]? = some n) :
    a.children (some i) = a.childrenOf n := by
  rw [children, node?_some, hn, Option.map_some, Option.getD_some]

/-- Only a node of the arena lists children. -/
theorem lt_size_of_isChild (h : a.IsChild i j) : i < a.nodes.size := by
  by_contra hi
  rw [IsChild, children, node?_some, Array.getElem?_eq_none (Nat.le_of_not_lt hi)] at h
  cases h

/-- An arena in which children come before their parents has no cycles. -/
theorem acyclic_of_lt
    (h : ∀ i < a.nodes.size, ∀ j ∈ a.children (some i), j < i) : a.Acyclic := by
  have hbelow {i j : NodeId} (hij : Relation.TransGen a.IsChild i j) : j < i := by
    induction hij with
    | single hchild => exact h _ (lt_size_of_isChild hchild) _ hchild
    | tail _ hchild ih => exact (h _ (lt_size_of_isChild hchild) _ hchild).trans ih
  exact fun i hi => Nat.lt_irrefl i (hbelow hi)

/-- Fewer nodes have a property than have a weaker one, if some node has only the latter. -/
theorem card_filter_lt {P Q : NodeId → Prop} [DecidablePred P] [DecidablePred Q]
    (hweaker : ∀ k, P k → Q k) (hj : j < a.nodes.size) (hQ : Q j) (hP : ¬ P j) :
    ((Finset.range a.nodes.size).filter P).card < ((Finset.range a.nodes.size).filter Q).card := by
  refine Finset.card_lt_card (Finset.ssubset_iff_of_subset ?_ |>.mpr ⟨j, ?_, ?_⟩)
  · exact Finset.monotone_filter_right _ fun k _ => hweaker k
  · exact Finset.mem_filter.mpr ⟨Finset.mem_range.mpr hj, hQ⟩
  · exact fun hj => hP (Finset.mem_filter.mp hj).2

open Classical in
/-- The number of nodes that lie below a node. -/
noncomputable def height (a : Arena) (i : NodeId) : Nat :=
  ((Finset.range a.nodes.size).filter (Relation.TransGen a.IsChild i)).card

/-- At most all nodes lie below a node. -/
theorem height_le (a : Arena) (i : NodeId) : a.height i ≤ a.nodes.size := by
  classical
  exact (Finset.card_filter_le _ _).trans_eq (Finset.card_range _)

/-- Fewer nodes lie below a node further down, if it does not lie below itself. -/
theorem height_lt_of_below (h : ¬ Relation.TransGen a.IsChild j j)
    (hbelow : Relation.TransGen a.IsChild i j) (hj : j < a.nodes.size) :
    a.height j < a.height i := by
  classical
  exact card_filter_lt (fun _ => hbelow.trans) hj hbelow h

/-- Fewer nodes lie below a child than below its parent, if the child does not lie below itself. -/
theorem height_lt_of_isChild (h : ¬ Relation.TransGen a.IsChild j j) (hchild : a.IsChild i j)
    (hj : j < a.nodes.size) : a.height j < a.height i :=
  height_lt_of_below h (.single hchild) hj

/-- Below a node of the arena that does not lie below itself are fewer nodes than there are. -/
theorem height_lt_size (h : ¬ Relation.TransGen a.IsChild i i) (hi : i < a.nodes.size) :
    a.height i < a.nodes.size := by
  classical
  rw [← Finset.card_range a.nodes.size]
  refine Finset.card_lt_card (Finset.filter_ssubset.mpr ⟨i, Finset.mem_range.mpr hi, h⟩)

/-- **No way down is longer than the number of nodes**, not even one that skips some. -/
theorem length_le_of_isChain (h : a.Acyclic) {l : List NodeId}
    (hchain : l.IsChain (Relation.TransGen a.IsChild)) (hl : ∀ i ∈ l, i < a.nodes.size) :
    l.length ≤ a.nodes.size := by
  have hpairs : l.Pairwise (Relation.TransGen a.IsChild) := List.isChain_iff_pairwise.mp hchain
  have hnodup : l.Nodup := by
    refine hpairs.imp ?_
    rintro i _ hij rfl
    exact h i hij
  rw [← List.toFinset_card_of_nodup hnodup, ← Finset.card_range a.nodes.size]
  exact Finset.card_le_card fun i hi => Finset.mem_range.mpr (hl i (List.mem_toFinset.mp hi))

/-- The child that contains a range is a child, and a node of the arena. -/
theorem isChild_of_childContaining {start stop : Nat}
    (h : a.childContaining i start stop = some j) : a.IsChild i j ∧ j < a.nodes.size := by
  have hnode := List.find?_some h
  refine ⟨List.mem_of_find?_eq_some h, ?_⟩
  by_contra hj
  rw [Array.getElem?_eq_none (Nat.le_of_not_lt hj)] at hnode
  cases hnode

theorem descend_eq_answer_iff {start stop : Nat} :
    a.descend start stop i = .answer j ↔ a.childContaining i start stop = none ∧ i = j := by
  rw [descend]
  split <;> simp_all

theorem descend_eq_goOn_iff {start stop : Nat} :
    a.descend start stop i = .goOn j ↔ a.childContaining i start stop = some j := by
  rw [descend]
  split <;> simp_all

/-- A descent goes on to nodes of the arena. -/
theorem explores_descend (a : Arena) (start stop : Nat) : a.Explores (a.descend start stop) :=
  explores_of_lt fun _ _ hturn => (isChild_of_childContaining (descend_eq_goOn_iff.mp hturn)).2

/-- **A descent has an end** if there is no cycle below. -/
theorem exists_search_descend (h : a.AcyclicFrom (some i)) (start stop : Nat) :
    ∃ j, a.search (a.descend start stop) i = some j := by
  refine exists_loop_of_rank (a.Reaches (some i)) a.height ?_ ⟨i, rfl, .refl⟩
    (Nat.lt_succ_of_le (a.height_le i))
  intro j k hj hturn
  obtain ⟨hchild, hk⟩ := isChild_of_childContaining (descend_eq_goOn_iff.mp hturn)
  have hreaches := hj.isChild hchild
  exact ⟨hreaches, height_lt_of_isChild (h k hreaches) hchild hk⟩

/-- **So the deepest node that contains a range is found, or there is none.** -/
theorem exists_nodeContaining (h : a.AcyclicFrom r) (start stop : Nat) :
    ∃ found, a.nodeContaining r start stop = some found := by
  cases r with
  | none => exact ⟨none, rfl⟩
  | some root =>
    rw [nodeContaining]
    split
    · exact ⟨none, rfl⟩
    · split
      · obtain ⟨i, hi⟩ := exists_search_descend h start stop
        exact ⟨some i, by rw [hi, Option.map_some]⟩
      · exact ⟨none, rfl⟩

/-- What is found when a search comes to an end: the end of the descent from the root. -/
theorem nodeContaining_eq_some_some_iff {start stop : Nat} :
    a.nodeContaining r start stop = some (some i) ↔ ∃ root n, r = some root ∧
      a.nodes[root]? = some n ∧ n.contains start stop = true ∧
        a.search (a.descend start stop) root = some i := by
  cases r with
  | none => simp [nodeContaining]
  | some root =>
    rw [nodeContaining]
    cases hn : a.nodes[root]? with
    | none => simp [hn]
    | some n => cases hin : n.contains start stop <;> simp [hn, hin]

/-- **Nothing is ever found** if the descent from the root goes on for ever, and only then. -/
theorem nodeContaining_eq_none_iff {start stop : Nat} :
    a.nodeContaining r start stop = none ↔ ∃ root n, r = some root ∧ a.nodes[root]? = some n ∧
      n.contains start stop = true ∧ ∀ fuel, loop (a.descend start stop) fuel root = none := by
  simp only [← (a.explores_descend start stop).search_eq_none_iff]
  cases r with
  | none => simp [nodeContaining]
  | some root =>
    rw [nodeContaining]
    cases hn : a.nodes[root]? with
    | none => simp [hn]
    | some n => cases hin : n.contains start stop <;> simp [hn, hin]

/-- **The deepest node that contains a range has no child that contains it.** -/
theorem childContaining_of_nodeContaining {start stop : Nat}
    (h : a.nodeContaining r start stop = some (some i)) :
    a.childContaining i start stop = none := by
  obtain ⟨root, n, -, -, -, hsearch⟩ := nodeContaining_eq_some_some_iff.mp h
  refine of_loop_eq_some (P := fun _ i => a.childContaining i start stop = none) ?_ ?_ hsearch
  · intro j k hturn
    obtain ⟨hnone, rfl⟩ := descend_eq_answer_iff.mp hturn
    exact hnone
  · exact fun _ hlast => hlast

/-- It is a node of the arena. -/
theorem lt_of_nodeContaining {start stop : Nat}
    (h : a.nodeContaining r start stop = some (some i)) : i < a.nodes.size := by
  obtain ⟨root, n, -, hn, -, hsearch⟩ := nodeContaining_eq_some_some_iff.mp h
  refine of_loop_eq_some (P := fun j i => j < a.nodes.size → i < a.nodes.size) ?_ ?_ hsearch
    (Array.getElem?_eq_some_iff.mp hn).1
  · intro j k hturn hj
    obtain ⟨-, rfl⟩ := descend_eq_answer_iff.mp hturn
    exact hj
  · intro j k _ hturn hlast _
    exact hlast (isChild_of_childContaining (descend_eq_goOn_iff.mp hturn)).2

end Arena

end ScriptTree
