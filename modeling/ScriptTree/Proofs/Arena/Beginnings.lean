import Mathlib.Data.List.Find
import ScriptTree.Convert.Token
import ScriptTree.Convert.Expression
import ScriptTree.Proofs.Arena.Climb
import ScriptTree.Proofs.Arena.Links
import ScriptTree.Proofs.Arena.MarkupNames
import ScriptTree.Proofs.Convert.Found

/-!
# Arenas that go on

A front end may leave nodes behind that belong to no tree. An arena to which such nodes are added
(`ScriptTree.Arena.Begins`) looks the same from each of the nodes that it had before: the node, its
parts, the nodes that these refer to, and its parent (`ScriptTree.Arena.LooksAlike`). So do all walks
that start at one of these nodes, since no step leads from them to a node that was added: steps down
end at nodes that are referred to, and steps up at nodes that refer to others.

What is not a walk is the search for the texts between tags, which are taken from all nodes of the
arena; it is dealt with where the tokens are.
-/

namespace ScriptTree

/-- Only the fields of a record refer to nodes. -/
theorem Record.mem_of_mem_refs {fs : List Field} (r : Record fs) {f : Field} {c : NodeId}
    (h : c ∈ r.refs f) : f ∈ fs := by
  have hsome : (r.get? f).isSome = true := by
    by_contra hnone
    rw [refs, Option.not_isSome_iff_eq_none.mp hnone] at h
    cases h
  clear h
  induction fs with
  | nil => cases hsome
  | cons g gs ih =>
    rw [get?] at hsome
    split at hsome
    · next heq => exact heq ▸ List.mem_cons_self
    · exact List.mem_cons_of_mem g (ih r.2 hsome)

namespace Arena

/-- **An arena is the beginning of another one**, whose further nodes refer to no node of it, and
are not referred to by its nodes. -/
structure Begins (a a' : Arena) : Prop where
  nodes : ∃ more, a'.nodes = a.nodes ++ more
  rows : ∀ p, ∃ more, a'.pools p = a.pools p ++ more
  /-- No further node lists a node of the beginning. -/
  apart : ∀ i c, a.nodes.size ≤ i → a'.IsChild i c → a.nodes.size ≤ c
  /-- The row of a node is not a further one. -/
  own_row : ∀ n ∈ a.nodes, ∀ p, n.pool = some p →
    n.dataIndex < (a.pools p).size ∨ (a'.pools p).size ≤ n.dataIndex
  /-- No node of the beginning refers to a further one. -/
  own_refs : ∀ n ∈ a.nodes, ∀ p, ∀ d ∈ a.data? p n, ∀ f ∈ p.layout, ∀ c ∈ d.refs f,
    c < a.nodes.size ∨ a'.nodes.size ≤ c

/-- **Two arenas look alike from the nodes of the first one.** -/
structure LooksAlike (a a' : Arena) : Prop where
  isLinked : a.IsLinked
  size_le : a.nodes.size ≤ a'.nodes.size
  node : ∀ {i}, i < a.nodes.size → a'.nodes[i]? = a.nodes[i]?
  data : ∀ {n}, n ∈ a.nodes → ∀ p, a'.data? p n = a.data? p n
  refs : ∀ {n}, n ∈ a.nodes → ∀ {p d}, a.data? p n = some d → ∀ {f c}, c ∈ d.refs f →
    a'.nodes[c]? = a.nodes[c]?
  parent : ∀ {i}, i < a.nodes.size → a'.parent (some i) = a.parent (some i)

/-! ### Parents -/

section

variable {ps ps' : Array NodeRef} {cs : List NodeId} {size : Nat}

/-- Whoever adopts, the parents of the first nodes stay the same in both tables. -/
theorem adopt_congr (h : ∀ i < size, ps'[i]? = ps[i]?) (q : NodeId) :
    ∀ i < size, (adopt ps' q cs)[i]? = (adopt ps q cs)[i]? := by
  induction cs generalizing ps ps' with
  | nil => exact h
  | cons c cs ih =>
    rw [adopt, adopt, List.foldl_cons, List.foldl_cons]
    refine ih fun i hi => ?_
    have hsame := h i hi
    rw [Array.getElem?_setIfInBounds, Array.getElem?_setIfInBounds]
    split
    · next hci =>
      subst hci
      have hsize : c < ps'.size ↔ c < ps.size := by
        rw [← Nat.not_le, ← Nat.not_le, ← Array.getElem?_eq_none_iff,
          ← Array.getElem?_eq_none_iff, hsame]
      exact if_congr hsize rfl rfl
    · exact hsame

/-- Adopting other nodes changes nothing for the first ones. -/
theorem adopt_of_le (h : ∀ c ∈ cs, size ≤ c) (q : NodeId) :
    ∀ i < size, (adopt ps q cs)[i]? = ps[i]? := by
  induction cs generalizing ps with
  | nil => exact fun i _ => rfl
  | cons c cs ih =>
    intro i hi
    have hc : c ≠ i := Nat.ne_of_gt (Nat.lt_of_lt_of_le hi (h c List.mem_cons_self))
    rw [adopt, List.foldl_cons]
    refine (ih (fun c' hc' => h c' (List.mem_cons_of_mem c hc')) i hi).trans ?_
    exact Array.getElem?_setIfInBounds_ne hc

end

variable {a a' : Arena}

/-- The children of a node are read from its parts. -/
theorem childrenOf_eq {n : Node} (hdata : ∀ p, a'.data? p n = a.data? p n) :
    a'.childrenOf n = a.childrenOf n := by
  rw [childrenOf, childrenOf]
  split
  · rfl
  · next p hp =>
    have := hdata p
    rw [data?, data?, if_pos hp, if_pos hp] at this
    rw [this]

namespace Begins

theorem size_le (h : a.Begins a') : a.nodes.size ≤ a'.nodes.size := by
  obtain ⟨more, hmore⟩ := h.nodes
  rw [hmore, Array.size_append]
  exact Nat.le_add_right _ _

theorem node (h : a.Begins a') {i : NodeId} (hi : i < a.nodes.size) :
    a'.nodes[i]? = a.nodes[i]? := by
  obtain ⟨more, hmore⟩ := h.nodes
  rw [hmore, Array.getElem?_append_left hi]

theorem data (h : a.Begins a') {n : Node} (hn : n ∈ a.nodes) (p : Pool) :
    a'.data? p n = a.data? p n := by
  rw [data?, data?]
  refine ite_congr rfl (fun hp => ?_) fun _ => rfl
  obtain ⟨more, hmore⟩ := h.rows p
  rcases h.own_row n hn p hp with hlt | hle
  · rw [hmore, Array.getElem?_append_left hlt]
  · rw [Array.getElem?_eq_none hle, Array.getElem?_eq_none]
    rw [hmore, Array.size_append] at hle
    omega

theorem children_eq (h : a.Begins a') {i : NodeId} (hi : i < a.nodes.size) :
    a'.children (some i) = a.children (some i) := by
  rw [children, children, node?_some, node?_some, h.node hi, Array.getElem?_eq_getElem hi,
    Option.map_some, Option.map_some, childrenOf_eq (h.data (Array.getElem_mem hi))]

/-- Further nodes are the parents of further nodes only. -/
theorem parent_linkParents (h : a.Begins a') {i : NodeId} (hi : i < a.nodes.size) :
    a'.linkParents.parent (some i) = a.linkParents.parent (some i) := by
  -- The old nodes are the parents of the same nodes in both arenas.
  have hown (is : List NodeId) (his : ∀ j ∈ is, j < a.nodes.size) {ps ps' : Array NodeRef}
      (hps : ∀ i < a.nodes.size, ps'[i]? = ps[i]?) :
      ∀ i < a.nodes.size, (a'.linksFrom ps' is)[i]? = (a.linksFrom ps is)[i]? := by
    induction is generalizing ps ps' with
    | nil => exact hps
    | cons j is ih =>
      rw [linksFrom_cons, linksFrom_cons, h.children_eq (his j List.mem_cons_self)]
      exact ih (fun k hk => his k (List.mem_cons_of_mem j hk)) (adopt_congr hps j)
  -- The further ones are the parents of no old node.
  have hfurther (is : List NodeId) (his : ∀ j ∈ is, a.nodes.size ≤ j) (ps : Array NodeRef) :
      ∀ i < a.nodes.size, (a'.linksFrom ps is)[i]? = ps[i]? := by
    induction is generalizing ps with
    | nil => exact fun i _ => rfl
    | cons j is ih =>
      intro i hi
      rw [linksFrom_cons, ih (fun k hk => his k (List.mem_cons_of_mem j hk)) _ i hi]
      exact adopt_of_le (fun c hc => h.apart j c (his j List.mem_cons_self) hc) j i hi
  obtain ⟨k, hk⟩ := Nat.exists_eq_add_of_le h.size_le
  rw [parent, parent, Option.bind_some, Option.bind_some, linkParents_parents,
    linkParents_parents, hk, List.range_add, linksFrom_append]
  refine congrArg Option.join ((hfurther _ (fun j hj => ?_) _ i hi).trans
    (hown _ (fun j hj => List.mem_range.mp hj) ?_ i hi))
  · obtain ⟨m, -, rfl⟩ := List.mem_map.mp hj
    exact Nat.le_add_right _ _
  · intro j hj
    rw [Array.getElem?_replicate, Array.getElem?_replicate, if_pos hj, if_pos (by omega)]

/-- **An arena looks the same after nodes were added to it.** -/
theorem looksAlike (h : a.Begins a') : a.linkParents.LooksAlike a'.linkParents where
  isLinked := a.isLinked_linkParents
  size_le := h.size_le
  node := h.node
  data := h.data
  refs := by
    intro n hn p d hd f c hc
    rcases h.own_refs n hn p d hd f (d.mem_of_mem_refs hc) c hc with hlt | hle
    · exact h.node hlt
    · change a'.nodes[c]? = a.nodes[c]?
      rw [Array.getElem?_eq_none hle, Array.getElem?_eq_none (h.size_le.trans hle)]
  parent := h.parent_linkParents

end Begins

/-! ### What is seen from a node -/

/-- The same node is in a place of both arenas, or none. -/
def Sees (a a' : Arena) (r : NodeRef) : Prop := a'.node? r = a.node? r

/-- In all of these places there are the same nodes. -/
def SeesAll (a a' : Arena) (rs : List NodeRef) : Prop := ∀ r ∈ rs, a.Sees a' r

/-- The nodes that the parts of a node refer to. -/
structure SeesParts (a a' : Arena) {p : Pool} (d : Data p) : Prop where
  nodeAt : ∀ f, a.Sees a' (d.nodeAt f)
  listAt : ∀ f, a.SeesAll a' (NodeList.nodesOf (d.listAt f))

theorem mem_of_node? {a : Arena} {r : NodeRef} {n : Node} (h : a.node? r = some n) :
    n ∈ a.nodes := by
  obtain ⟨i, -, hi⟩ := Option.bind_eq_some_iff.mp h
  exact Array.mem_of_getElem? hi

theorem lt_of_node? {a : Arena} {i : NodeId} {n : Node} (h : a.node? (some i) = some n) :
    i < a.nodes.size :=
  (Array.getElem?_eq_some_iff.mp h).1

theorem Sees.kind? {a a' : Arena} {r : NodeRef} (h : a.Sees a' r) : a'.kind? r = a.kind? r :=
  congrArg (Option.map Node.kind) h

theorem SeesAll.hasModifier {a a' : Arena} {l : Option NodeList}
    (h : a.SeesAll a' (NodeList.nodesOf l)) (kind : SyntaxKind) :
    a'.hasModifier l kind = a.hasModifier l kind := by
  rw [Bool.eq_iff_iff, Arena.hasModifier, Arena.hasModifier, List.any_eq_true, List.any_eq_true]
  exact exists_congr fun r => and_congr_right fun hr => by rw [(h r hr).kind?]

theorem SeesAll.modifierSet {a a' : Arena} {l : Option NodeList}
    (h : a.SeesAll a' (NodeList.nodesOf l)) : a'.modifierSet l = a.modifierSet l :=
  List.filterMap_congr fun r hr => by rw [(h r hr).kind?]

/-- An empty list may be taken for no list. -/
theorem SeesAll.filter {a a' : Arena} {l : Option NodeList} (h : a.SeesAll a' (NodeList.nodesOf l))
    {p : NodeList → Bool} : a.SeesAll a' (NodeList.nodesOf (l.filter p)) := by
  cases l with
  | none => exact h
  | some l =>
    rw [Option.filter_some]
    split
    · exact h
    · exact fun r hr => absurd hr List.not_mem_nil

/-- The ends of a list that is seen are seen. -/
theorem SeesAll.first {a a' : Arena} {l : Option NodeList} (h : a.SeesAll a' (NodeList.nodesOf l)) :
    a.Sees a' (l.bind NodeList.first) := by
  cases l with
  | none => rfl
  | some l =>
    rw [Option.bind_some, NodeList.first]
    cases hl : l.nodes.head? with
    | none => rfl
    | some r => exact h r (List.mem_of_mem_head? hl)

theorem SeesAll.last {a a' : Arena} {l : Option NodeList} (h : a.SeesAll a' (NodeList.nodesOf l)) :
    a.Sees a' (l.bind NodeList.last) := by
  cases l with
  | none => rfl
  | some l =>
    rw [Option.bind_some, NodeList.last]
    cases hl : l.nodes.getLast? with
    | none => rfl
    | some r => exact h r (List.mem_of_getLast? hl)

namespace LooksAlike

variable {a a' : Arena} (h : a.LooksAlike a') {n : Node} {p : Pool} {d : Data p} {i : NodeId}
  {r : NodeRef}

include h

theorem sees (hi : i < a.nodes.size) : a.Sees a' (some i) := h.node hi

/-- The nodes that a node refers to are seen. -/
theorem seesParts (hn : n ∈ a.nodes) (hd : a.data? p n = some d) : a.SeesParts a' d := by
  have hrefs {f : Field} {r : NodeRef} (hr : ∀ j, r = some j → j ∈ d.refs f) : a.Sees a' r := by
    cases r with
    | none => rfl
    | some j => exact h.refs hn hd (hr j rfl)
  refine ⟨fun f => hrefs (f := f) fun j hj => ?_, fun f r hr => hrefs (f := f) fun j hj => ?_⟩
  · rw [d.refs_eq]
    exact List.mem_append_left _ (by rw [hj]; exact List.mem_cons_self)
  · rw [d.refs_eq]
    exact List.mem_append_right _ (List.mem_filterMap.mpr ⟨r, hr, hj⟩)

/-- The parts of a node that is seen. -/
theorem dataAt? (hr : a.Sees a' r) (p : Pool) : a'.dataAt? p r = a.dataAt? p r := by
  rw [Arena.dataAt?, Arena.dataAt?, hr]
  cases hn : a.node? r with
  | none => rfl
  | some n => exact h.data (mem_of_node? hn) p

theorem nameText? (hr : a.Sees a' r) : a'.nameText? r = a.nameText? r := by
  rw [Arena.nameText?, Arena.nameText?, h.dataAt? hr]

/-! ### Upwards -/

theorem parent_lt {p : NodeId} (hp : a.parent (some i) = some p) : p < a.nodes.size :=
  lt_size_of_isChild (h.isLinked i p hp)

theorem sees_parent (i : NodeId) : a.Sees a' (a.parent (some i)) := by
  cases hp : a.parent (some i) with
  | none => rfl
  | some p => exact h.sees (h.parent_lt hp)

theorem isAssigned (hi : i < a.nodes.size) : a'.isAssigned (some i) = a.isAssigned (some i) := by
  rw [Arena.isAssigned, Arena.isAssigned, h.parent hi, h.sees_parent i]
  split
  · rfl
  · next n hn => rw [h.data (mem_of_node? hn), h.data (mem_of_node? hn)]

/-- **A search has the same answer** if it turns alike at the nodes that it comes to. -/
theorem search_eq {σ α : Type} {turn turn' : σ → Turn σ α} (stays : σ → Prop)
    (hexplores : a.Explores turn) (hturn : ∀ {s}, stays s → turn' s = turn s)
    (hgoOn : ∀ {s s'}, stays s → turn s = .goOn s' → stays s') {s : σ} (hs : stays s) :
    a'.search turn' s = a.search turn s := by
  rw [search, loop_congr stays hturn hgoOn hs, hexplores.loop_eq (Nat.lt_succ_of_le h.size_le)]

theorem climbTargets (hi : i < a.nodes.size) :
    a'.climbTargets (some i) = a.climbTargets (some i) := by
  rw [Arena.climbTargets, Arena.climbTargets, h.parent hi, h.sees_parent i]
  cases hp : a.parent (some i) with
  | none => rfl
  | some p =>
    rw [h.isAssigned (h.parent_lt hp)]
    split
    · rfl
    · next n hn => rw [h.data (mem_of_node? hn)]

theorem inPattern (hi : i < a.nodes.size) : a'.inPattern (some i) = a.inPattern (some i) := by
  refine h.search_eq (fun r => ∃ j, r = some j ∧ j < a.nodes.size) a.explores_climbTargets ?_ ?_
    ⟨i, rfl, hi⟩
  · rintro _ ⟨j, rfl, hj⟩
    exact h.climbTargets hj
  · intro _ _ _ hturn
    obtain ⟨-, p, -, rfl, -, hp⟩ := climbTargets_eq_goOn hturn
    exact ⟨p, rfl, hp⟩

theorem literalRole (hi : i < a.nodes.size) : a'.literalRole (some i) = a.literalRole (some i) := by
  rw [Arena.literalRole, Arena.literalRole, h.isAssigned hi, h.inPattern hi]

theorem inTypePosition (hi : i < a.nodes.size) : a'.inTypePosition i = a.inTypePosition i := by
  rw [Arena.inTypePosition, Arena.inTypePosition, h.parent hi, h.sees_parent i]
  split
  · rfl
  · next n hn => simp only [h.data (mem_of_node? hn)]

theorem kind?_parent (hi : i < a.nodes.size) :
    a'.kind? (a'.parent (some i)) = a.kind? (a.parent (some i)) := by
  rw [h.parent hi, (h.sees_parent i).kind?]

theorem climbNames (hi : i < a.nodes.size) : a'.climbNames i = a.climbNames i := by
  rw [Arena.climbNames, Arena.climbNames, h.parent hi]
  cases hp : a.parent (some i) with
  | none => rfl
  | some p =>
    dsimp only
    rw [(h.sees (h.parent_lt hp)).kind?]

theorem search_climbNames (hi : i < a.nodes.size) :
    a'.search a'.climbNames i = a.search a.climbNames i :=
  h.search_eq (· < a.nodes.size) a.explores_climbNames h.climbNames
    (fun _ hturn => (climbNames_eq_goOn hturn).2) hi

/-! ### Downwards -/

theorem commaOperands (fuel : Nat) (hr : a.Sees a' r) :
    a'.commaOperands fuel r = a.commaOperands fuel r := by
  induction fuel generalizing r with
  | zero => rfl
  | succ fuel ih =>
    rw [Arena.commaOperands, Arena.commaOperands, hr]
    split
    · rfl
    · next n hn =>
      have hmem := mem_of_node? hn
      rw [h.data hmem]
      split
      · rfl
      · next d hd =>
        have hleft : a.Sees a' (d.get .left) := (h.seesParts hmem hd).nodeAt .left
        rw [ih hleft]

theorem children (hi : i < a.nodes.size) : a'.children (some i) = a.children (some i) := by
  rw [Arena.children, Arena.children, node?_some, node?_some, h.node hi,
    Array.getElem?_eq_getElem hi, Option.map_some, Option.map_some,
    childrenOf_eq (h.data (Array.getElem_mem hi))]

/-- A child is referred to. -/
theorem sees_of_isChild {j : NodeId} (hj : a.IsChild i j) : a'.nodes[j]? = a.nodes[j]? := by
  obtain ⟨n, p, d, f, hn, hd, -, hf⟩ := exists_mem_refs_of_isChild hj
  exact h.refs (Array.mem_of_getElem? hn) hd hf

theorem childContaining (hi : i < a.nodes.size) (start stop : Nat) :
    a'.childContaining i start stop = a.childContaining i start stop := by
  rw [Arena.childContaining, Arena.childContaining, h.children hi]
  refine List.find?_congr fun j hj => ?_
  rw [h.sees_of_isChild hj]

theorem descend (start stop : Nat) (hi : i < a.nodes.size) :
    a'.descend start stop i = a.descend start stop i := by
  rw [Arena.descend, Arena.descend, h.childContaining hi]

/-- The deepest node that covers a range is the same, if there is one. -/
theorem nodeContaining {root : NodeRef} (hroot : ∀ i ∈ root, i < a.nodes.size)
    (start stop : Nat) : a'.nodeContaining root start stop = a.nodeContaining root start stop := by
  cases root with
  | none => rfl
  | some i =>
    have hsearch := h.search_eq (· < a.nodes.size) (a.explores_descend start stop)
      (h.descend start stop)
      (fun _ hturn => (isChild_of_childContaining (descend_eq_goOn_iff.mp hturn)).2) (hroot i rfl)
    rw [Arena.nodeContaining, Arena.nodeContaining, h.node (hroot i rfl), hsearch]

end LooksAlike

end Arena

end ScriptTree
