import ScriptTree.Proofs.Arena.Links
import ScriptTree.Proofs.Arena.Store

/-!
# Parents on the way and afterwards

Parents come about in two ways. A node that is added becomes the parent of the nodes that its data
list, at once and from data that are not yet stored; and later on all parents are read off the
children, from whatever rows the pools hold. If every node is added behind the nodes that it lists,
both come to the same parents, namely to the last node that was added with the node among its
children (`ScriptTree.Arena.parents_agree`), so that reading them off changes nothing, at any time.

What joins the two is that an arena reads back what its nodes were added with
(`ScriptTree.Arena.children_takeAll`).
-/

namespace ScriptTree

namespace Arena

/-- The nodes that a node is added with as children. -/
def Entry.children (e : Entry) : List NodeId :=
  match e.parts with
  | none => []
  | some parts => Data.children e.kind parts.2

/-- Every node is added behind the nodes that it lists. -/
def ReferBack (entries : List Entry) : Prop :=
  ∀ (q : Nat) (e : Entry), entries[q]? = some e → ∀ c ∈ e.children, c < q

instance (entries : List Entry) : Decidable (ReferBack entries) :=
  decidable_of_iff (∀ q < entries.length, ∀ e ∈ entries[q]?, ∀ c ∈ e.children, c < q)
    ⟨fun h q e he => h q (List.getElem?_eq_some_iff.mp he).1 e he, fun h q _ e he => h q e he⟩

variable {a : Arena} {i : NodeId} {e : Entry} {steps : List Step}

/-! ### Children -/

/-- What reads back what it was added with has the children that it was added with. -/
theorem Reads.children_eq {flags : Nat} (h : Reads a i e flags) :
    a.children (some i) = e.children := by
  obtain ⟨n, hn, hkind, -, -, -, hpool⟩ := h.node
  rw [children_of_node hn, childrenOf, hpool, Entry.children]
  cases hparts : e.parts with
  | none => rfl
  | some parts =>
    obtain ⟨p, d⟩ := parts
    have hread := (h.data p d).mpr hparts
    have hin : n.pool = some p := by rw [hpool, hparts, Option.map_some]
    rw [node?_some] at hn
    rw [dataAt?_of_node hn, if_pos hin] at hread
    simp only [Option.map_some, hread, hkind]

/-- **Every number reads back the node that was added with it.** -/
theorem reads_entry (steps : List Step) :
    ∀ q e, (steps.filterMap Step.entry?)[q]? = some e →
      ∃ flags, Reads (empty.takeAll steps) q e flags := by
  induction steps using List.reverseRecOn with
  | nil => rintro q e ⟨⟩
  | append_singleton steps step ih =>
    intro q e hq
    have hsize := size_takeAll empty steps
    rw [takeAll_concat]
    generalize empty.takeAll steps = a at ih hsize ⊢
    rw [List.filterMap_append] at hq
    -- The number is that of an older entry, which the step keeps, or of the one that it adds.
    rcases Nat.lt_or_ge q (steps.filterMap Step.entry?).length with hlt | hge
    · rw [List.getElem?_append_left hlt] at hq
      obtain ⟨flags, h⟩ := ih q e hq
      exact ⟨_, (keeps_take a step).reads h⟩
    · rw [List.getElem?_append_right hge] at hq
      cases hentry : step.entry? with
      | none =>
        rw [List.filterMap_cons_none hentry] at hq
        cases hq
      | some e' =>
        rw [List.filterMap_cons_some hentry, List.filterMap_nil, List.getElem?_singleton] at hq
        split at hq
        · next hzero =>
          obtain rfl := Option.some.inj hq
          have hq' : q = a.nodes.size := by
            rw [hsize]
            exact (Nat.le_antisymm (Nat.sub_eq_zero_iff_le.mp hzero) hge).trans
              (Nat.zero_add _).symm
          exact ⟨0, hq' ▸ reads_take a hentry⟩
        · cases hq

/-- **The children of a node are those that it was added with.** -/
theorem children_takeAll (steps : List Step) (q : NodeId) :
    (empty.takeAll steps).children (some q) =
      (((steps.filterMap Step.entry?)[q]?).map Entry.children).getD [] := by
  cases hq : (steps.filterMap Step.entry?)[q]? with
  | some e =>
    obtain ⟨flags, h⟩ := reads_entry steps q e hq
    exact h.children_eq
  | none =>
    have hsize := size_takeAll empty steps
    have hge := List.getElem?_eq_none_iff.mp hq
    have hnode : (empty.takeAll steps).nodes[q]? = none :=
      Array.getElem?_eq_none (by rw [hsize]; exact (Nat.zero_add _).trans_le hge)
    rw [Arena.children, node?_some, hnode]
    rfl

/-- A node lists another one if it was added with it. -/
theorem isChild_takeAll_iff {q : NodeId} :
    (empty.takeAll steps).IsChild q i ↔
      ∃ e, (steps.filterMap Step.entry?)[q]? = some e ∧ i ∈ e.children := by
  rw [IsChild, children_takeAll]
  cases (steps.filterMap Step.entry?)[q]? with
  | none => simp
  | some e => simp

/-! ### Parents -/

theorem ReferBack.of_append {entries entries' : List Entry} (h : ReferBack (entries ++ entries')) :
    ReferBack entries := by
  intro q e hq
  have hlt := (List.getElem?_eq_some_iff.mp hq).1
  exact h q e ((List.getElem?_append_left hlt).trans hq)

/-- Where nodes are added behind those that they list, the parents are at any time those that the
children give. -/
theorem isWhole_takeAll (h : ReferBack (steps.filterMap Step.entry?)) :
    (empty.takeAll steps).IsWhole := by
  induction steps using List.reverseRecOn with
  | nil => exact .empty
  | append_singleton steps step ih =>
    have hsize := size_takeAll empty steps
    rw [List.filterMap_append] at h
    have hwhole := ih h.of_append
    rw [takeAll_concat]
    generalize empty.takeAll steps = a at hsize hwhole ⊢
    cases step with
    | addToken kind pos stop => exact hwhole.addToken kind pos stop
    | setFlags r flags => exact hwhole.setFlags r flags
    | linkParents => exact hwhole.linkParents_eq.symm ▸ hwhole
    | add kind pos stop p data =>
      refine hwhole.add kind pos stop p fun c hc => ?_
      have hback := h (steps.filterMap Step.entry?).length ⟨kind, pos, stop, some ⟨p, data⟩⟩
        List.getElem?_concat_length c hc
      exact hback.trans_eq (hsize.trans (Nat.zero_add _)).symm

/-- **Parents agree.** In an arena that is built by adding nodes behind those that they list, and by
anything else that may be done to it in between, the parent of a node is the last node that was added
with it among its children, if there is any, and reading the parents off the children changes nothing.
In every arena, however it came about, the parent that is read off is the last node that lists the
node, if there is any, what is not there has no parent, and reading the parents off once more changes
nothing. -/
theorem parents_agree (h : ReferBack (steps.filterMap Step.entry?)) :
    ((∀ i, ((empty.takeAll steps).parent (some i)).IsLast
        fun q => ∃ e, (steps.filterMap Step.entry?)[q]? = some e ∧ i ∈ e.children) ∧
      (empty.takeAll steps).linkParents = empty.takeAll steps) ∧
    ∀ b : Arena,
      (∀ i < b.nodes.size,
        (b.linkParents.parent (some i)).IsLast fun p => i ∈ b.children (some p)) ∧
      (∀ i, b.nodes.size ≤ i → b.linkParents.parent (some i) = none) ∧
      b.linkParents.linkParents = b.linkParents := by
  have hlink := (isWhole_takeAll h).linkParents_eq
  refine ⟨⟨fun i => ?_, hlink⟩, fun b => ⟨fun i => isLast_parent_linkParents,
    fun i => parent_linkParents_eq_none, b.linkParents_linkParents⟩⟩
  rw [← hlink]
  rcases Nat.lt_or_ge i (empty.takeAll steps).nodes.size with hi | hi
  · exact (isLast_parent_linkParents hi).congr fun q => isChild_takeAll_iff
  · -- Nodes list only what was added before them, so nothing that is not there.
    rw [parent_linkParents_eq_none hi]
    rintro q ⟨e, hq, hlist⟩
    have hlt := (List.getElem?_eq_some_iff.mp hq).1
    rw [size_takeAll] at hi
    exact Nat.not_le_of_lt ((h q e hq i hlist).trans hlt) ((Nat.zero_add _).symm.trans_le hi)

/-- A name, which parentheses list first and a block lists twice after that. -/
def sharedName : List Step :=
  [.add .identifier 1 2 .identifier ⟨"a", ()⟩, .add .parenthesizedExpression 0 3 .parenthesized
    ⟨some 0, ()⟩, .addToken .thisKeyword 4 8, .setFlags (some 0) 1, .add .block 0 9 .block
    ⟨⟨[some 0, none, some 2, some 0], 0, 9, false⟩, false, ()⟩]

/-- The block, which was added later, is the parent of the name, and still is when the parents are
read off. -/
theorem sharedName_parents :
    ReferBack (sharedName.filterMap Step.entry?) ∧
      (empty.takeAll sharedName).parent (some 0) = some 3 ∧
      NodeRef.IsLast (fun q => ∃ e, (sharedName.filterMap Step.entry?)[q]? = some e ∧
        0 ∈ e.children) (some 3) ∧
      (empty.takeAll sharedName).linkParents = empty.takeAll sharedName := by
  have hback : ReferBack (sharedName.filterMap Step.entry?) := by decide
  obtain ⟨⟨hlast, hlink⟩, -⟩ := parents_agree hback
  exact ⟨hback, rfl, hlast 0, hlink⟩

end Arena

end ScriptTree
