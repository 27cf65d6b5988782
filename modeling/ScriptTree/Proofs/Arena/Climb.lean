import Mathlib.Data.List.Chain
import ScriptTree.Arena.Surroundings
import ScriptTree.Proofs.Arena.Parents

/-!
# Ways up an arena

Once the parents of an arena were found, every parent lists the node as a child
(`ScriptTree.Arena.isLinked_linkParents`). So if no node lies below itself, a climb comes to other
nodes with every step: the nodes above a node, counted, become fewer
(`ScriptTree.Arena.depth_lt_of_isChild`), and a climb has an end. It is enough that there is no cycle
above the node (`ScriptTree.Arena.AcyclicAbove`).
-/

namespace ScriptTree

namespace Arena

variable {a : Arena} {i p : NodeId}

/-! ### Climbs -/

open Classical in
/-- The number of nodes that a node lies below. -/
noncomputable def depth (a : Arena) (i : NodeId) : Nat :=
  ((Finset.range a.nodes.size).filter fun j => Relation.TransGen a.IsChild j i).card

/-- A node lies below all nodes at most. -/
theorem depth_le (a : Arena) (i : NodeId) : a.depth i ≤ a.nodes.size := by
  classical
  exact (Finset.card_filter_le _ _).trans_eq (Finset.card_range _)

/-- A parent that does not lie below itself lies below fewer nodes than its child. -/
theorem depth_lt_of_isChild (h : ¬ Relation.TransGen a.IsChild p p) (hchild : a.IsChild p i) :
    a.depth p < a.depth i := by
  classical
  exact card_filter_lt (fun _ hk => hk.tail hchild) (lt_size_of_isChild hchild) (.single hchild) h

/-- No node above this one, and not this one, lies below itself. -/
def AcyclicAbove (a : Arena) (i : NodeId) : Prop :=
  ∀ j, Relation.ReflTransGen a.IsChild j i → ¬ Relation.TransGen a.IsChild j j

theorem Acyclic.acyclicAbove (h : a.Acyclic) (i : NodeId) : a.AcyclicAbove i := fun j _ => h j

/-- Further up there are only fewer nodes. -/
theorem AcyclicAbove.of_isChild (h : a.AcyclicAbove i) (hchild : a.IsChild p i) :
    a.AcyclicAbove p :=
  fun j hj => h j (hj.tail hchild)

/-- A parent lies below fewer nodes than its child. -/
theorem AcyclicAbove.depth_lt (h : a.AcyclicAbove i) (hchild : a.IsChild p i) :
    a.depth p < a.depth i :=
  depth_lt_of_isChild (h p (.single hchild)) hchild

/-- **A climb has an end** if there is no cycle above. -/
theorem exists_search_of_parent {α : Type} {turn : NodeId → Turn NodeId α} (hlinked : a.IsLinked)
    (hturn : ∀ {i p}, turn i = .goOn p → a.parent (some i) = some p) (h : a.AcyclicAbove i) :
    ∃ x, a.search turn i = some x := by
  refine exists_loop_of_rank a.AcyclicAbove a.depth ?_ h (Nat.lt_succ_of_le (a.depth_le i))
  intro i p hi hgoOn
  have hchild := hlinked i p (hturn hgoOn)
  exact ⟨hi.of_isChild hchild, hi.depth_lt hchild⟩

/-! ### Ancestors -/

variable {test : NodeId → Node → Bool} {fuel : Nat} {passed : List (NodeId × Node)}

/-- **The ancestors of a node are found** with fuel enough. -/
theorem exists_ancestorsUntil (hlinked : a.IsLinked) (test : NodeId → Node → Bool)
    (h : a.AcyclicAbove i) (hfuel : a.depth i < fuel) :
    ∃ passed, a.ancestorsUntil test fuel (some i) = some passed := by
  induction fuel generalizing i with
  | zero => exact absurd hfuel (Nat.not_lt_zero _)
  | succ fuel ih =>
    cases hp : a.parent (some i) with
    | none => exact ⟨[], by simp only [ancestorsUntil, hp]⟩
    | some p => cases hn : a.nodes[p]? with
      | none => exact ⟨[], by simp only [ancestorsUntil, hp, hn]⟩
      | some n =>
        simp only [ancestorsUntil, hp, hn]
        split
        · exact ⟨[(p, n)], rfl⟩
        · have hchild := hlinked i p hp
          obtain ⟨passed, hpassed⟩ := ih (h.of_isChild hchild)
            ((h.depth_lt hchild).trans_le (Nat.le_of_lt_succ hfuel))
          exact ⟨(p, n) :: passed, by rw [hpassed, Option.map_some]⟩

/-- What a way up passes: it ends at once, or goes by the parent. -/
theorem ancestorsUntil_succ_eq_some (h : a.ancestorsUntil test (fuel + 1) (some i) = some passed) :
    passed = [] ∨ ∃ p n rest, a.parent (some i) = some p ∧ a.nodes[p]? = some n ∧
      passed = (p, n) :: rest ∧ (rest = [] ∨ a.ancestorsUntil test fuel (some p) = some rest) := by
  cases hp : a.parent (some i) with
  | none =>
    simp only [ancestorsUntil, hp] at h
    exact .inl (Option.some.inj h).symm
  | some p =>
    cases hn : a.nodes[p]? with
    | none =>
      simp only [ancestorsUntil, hp, hn] at h
      exact .inl (Option.some.inj h).symm
    | some n =>
      simp only [ancestorsUntil, hp, hn] at h
      split at h
      · exact .inr ⟨p, n, [], rfl, hn, (Option.some.inj h).symm, .inl rfl⟩
      · obtain ⟨rest, hrest, rfl⟩ := Option.map_eq_some_iff.mp h
        exact .inr ⟨p, n, rest, rfl, hn, rfl, .inr hrest⟩

/-- Every ancestor is a node of the arena and lists the one before it as a child. -/
theorem isChain_ancestorsUntil (hlinked : a.IsLinked)
    (h : a.ancestorsUntil test fuel (some i) = some passed) :
    (i :: passed.map Prod.fst).IsChain (fun j p => a.IsChild p j) ∧
      ∀ x ∈ passed, x.1 < a.nodes.size := by
  induction fuel generalizing i passed with
  | zero => cases h
  | succ fuel ih =>
    obtain rfl | ⟨p, n, rest, hp, hn, rfl, hrest⟩ := ancestorsUntil_succ_eq_some h
    · exact ⟨.singleton i, List.forall_mem_nil _⟩
    · have hchild := hlinked i p hp
      have hsize := lt_size_of_isChild hchild
      obtain rfl | hrest := hrest
      · exact ⟨.cons_cons hchild (.singleton p), List.forall_mem_singleton.mpr hsize⟩
      · obtain ⟨hchain, hnodes⟩ := ih hrest
        exact ⟨.cons_cons hchild hchain, List.forall_mem_cons.mpr ⟨hsize, hnodes⟩⟩

/-- **A node has no more ancestors than there are nodes.** -/
theorem length_ancestorsUntil_le (h : a.Acyclic) (hlinked : a.IsLinked)
    (hpassed : a.ancestorsUntil test fuel (some i) = some passed) :
    passed.length ≤ a.nodes.size := by
  obtain ⟨hchain, hnodes⟩ := isChain_ancestorsUntil hlinked hpassed
  have hdown : (passed.map Prod.fst).reverse.IsChain (Relation.TransGen a.IsChild) :=
    List.isChain_reverse.mpr ((List.IsChain.of_cons hchain).imp fun _ _ => .single)
  have hle := length_le_of_isChain h hdown fun p hp => ?_
  · rwa [List.length_reverse, List.length_map] at hle
  · obtain ⟨x, hx, rfl⟩ := List.mem_map.mp (List.mem_reverse.mp hp)
    exact hnodes x hx

/-! ### Targets -/

/-- The search for a target goes on to the parent, which is there. -/
theorem climbTargets_eq_goOn {r r' : NodeRef} (h : a.climbTargets r = .goOn r') :
    ∃ i p, r = some i ∧ r' = some p ∧ a.parent (some i) = some p ∧ p < a.nodes.size := by
  have hup : r' = a.parent r ∧ (a.node? (a.parent r)).isSome = true := by
    rw [climbTargets] at h
    split at h
    · cases h
    · next n hn =>
      rw [hn]
      split_ifs at h <;> exact ⟨(Turn.goOn.inj h).symm, rfl⟩
  obtain ⟨rfl, hnode⟩ := hup
  cases r with
  | none => cases hnode
  | some i =>
    cases hp : a.parent (some i) with
    | none =>
      rw [hp] at hnode
      cases hnode
    | some p =>
      obtain ⟨n, hn⟩ := Option.isSome_iff_exists.mp hnode
      rw [hp, node?_some] at hn
      exact ⟨i, p, rfl, rfl, hp, (Array.getElem?_eq_some_iff.mp hn).1⟩

theorem explores_climbTargets (a : Arena) : a.Explores a.climbTargets :=
  explores_of_exists_lt fun _ _ h => by
    obtain ⟨_, p, -, rfl, -, hp⟩ := climbTargets_eq_goOn h
    exact ⟨p, rfl, hp⟩

/-- **Whether a node is part of a target is decided** if there is no cycle above. -/
theorem exists_inPattern (hlinked : a.IsLinked) {r : NodeRef} (h : ∀ i ∈ r, a.AcyclicAbove i) :
    ∃ inside, a.inPattern r = some inside := by
  refine exists_loop_of_rank (fun r => ∀ i ∈ r, a.AcyclicAbove i) (fun r => r.elim 0 a.depth)
    (fun {r r'} hr hturn => ?_) h (Nat.lt_succ_of_le ?_)
  · obtain ⟨i, p, rfl, rfl, hp, -⟩ := climbTargets_eq_goOn hturn
    have hi := hr i rfl
    have hchild := hlinked i p hp
    refine ⟨?_, hi.depth_lt hchild⟩
    rintro _ ⟨⟩
    exact hi.of_isChild hchild
  · cases r with
    | none => exact Nat.zero_le _
    | some i => exact a.depth_le i

/-- So is the way in which a literal is read. -/
theorem exists_literalRole (hlinked : a.IsLinked) {r : NodeRef} (h : ∀ i ∈ r, a.AcyclicAbove i) :
    ∃ role, a.literalRole r = some role := by
  rw [literalRole]
  split
  · exact ⟨_, rfl⟩
  · obtain ⟨inside, hinside⟩ := exists_inPattern hlinked h
    exact ⟨_, by rw [hinside, Option.map_some]⟩

end Arena

end ScriptTree
