import ScriptTree.Proofs.Convert.Ways

/-!
# What a conversion finds

What a conversion finds from a node on is the node itself and what it finds in its fields
(`ScriptTree.Arena.finds_iff`, `ScriptTree.Arena.rest_iff`). So for each rule it is enough to say
what becomes of the fields that the rule keeps (`ScriptTree.Way.kept`), and for each of them
what a single node or a list contributes.
-/

namespace ScriptTree

/-! ### References -/

/-- The nodes of a list that may be missing. -/
def NodeList.nodesOf (l : Option NodeList) : List NodeRef :=
  (l.map NodeList.nodes).getD []

/-- Values of a sort refer to nodes. -/
def FieldSort.holdsNodes : FieldSort → Bool
  | .node | .list | .optList => true
  | .flag | .kind | .text | .target | .diagnostics => false

/-- A value refers to the node that it is, or to those in its list. -/
theorem FieldSort.refs_eq (s : FieldSort) (v : s.Value) :
    s.refs v = (s.nodeOf v).toList ++ (NodeList.nodesOf (s.listOf v)).filterMap id := by
  cases s with
  | node => exact (List.append_nil _).symm
  | _ => rfl

/-- A value of a sort without nodes refers to none. -/
theorem FieldSort.refs_eq_nil {s : FieldSort} (h : s.holdsNodes = false) (v : s.Value) :
    s.refs v = [] := by
  cases s with
  | node | list | optList => cases h
  | _ => rfl

/-- A field refers to the node in it, or to those in its list. -/
theorem Record.refs_eq {fs : List Field} (d : Record fs) (f : Field) :
    d.refs f = (d.nodeAt f).toList ++ (NodeList.nodesOf (d.listAt f)).filterMap id := by
  rw [refs, nodeAt, listAt]
  cases d.get? f with
  | none => rfl
  | some v => exact f.sort.refs_eq v

/-- A field without nodes refers to none. -/
theorem Record.refs_eq_nil {fs : List Field} (d : Record fs) {f : Field}
    (h : f.sort.holdsNodes = false) : d.refs f = [] := by
  rw [refs]
  cases d.get? f with
  | none => rfl
  | some v => exact FieldSort.refs_eq_nil h v

/-- A field that a layout has is one of the layout. -/
theorem Field.In.mem {f : Field} {fs : List Field} (h : f.In fs) : f ∈ fs := by
  induction h with
  | head => exact List.mem_cons_self
  | tail g fs _ ih => exact List.mem_cons_of_mem g ih

namespace Pool

/-- The fields of a layout are those with the children, in nodes other than loops. -/
theorem mem_childFields {p : Pool} {f : Field} (hp : p ≠ .loop) (hf : f ∈ p.layout)
    (kind : SyntaxKind) : f ∈ p.childFields kind := by
  rw [childFields]
  split
  · next h =>
    obtain ⟨rfl, -⟩ := h
    revert hf
    cases f <;> decide
  · rw [if_neg fun h => hp h.1]
    exact hf

end Pool

/-! ### Finding, step by step -/

namespace Arena

variable {a : Arena} {w : Way} {i l : NodeId}

/-- The conversion goes on from a node to one with a property. -/
def HasNext (a : Arena) (x : Way × NodeId) (Q : Way × NodeId → Prop) : Prop :=
  ∃ y, a.GoesTo x y ∧ Q y

/-- A node, which may be absent, has a property if it is come by in a way. -/
def HasAt (w : Way) (r : NodeRef) (Q : Way × NodeId → Prop) : Prop :=
  ∃ i, r = some i ∧ Q (w, i)

/-- Some of the nodes has a property if they are come by in a way. -/
def HasAmong (w : Way) (rs : List NodeRef) (Q : Way × NodeId → Prop) : Prop :=
  ∃ r ∈ rs, HasAt w r Q

/-- What the conversion finds below a node. -/
abbrev Rest (a : Arena) (x : Way × NodeId) (l : NodeId) : Prop :=
  a.HasNext x (a.Finds · l)

/-- What the conversion finds from a node on, which may be absent. -/
abbrev Below (a : Arena) (w : Way) (r : NodeRef) (l : NodeId) : Prop :=
  HasAt w r (a.Finds · l)

/-- What the conversion finds from some of the nodes on. -/
abbrev BelowAny (a : Arena) (w : Way) (rs : List NodeRef) (l : NodeId) : Prop :=
  HasAmong w rs (a.Finds · l)

variable {Q : Way × NodeId → Prop}

@[simp] theorem hasAt_none : HasAt w none Q ↔ False :=
  iff_false_intro fun ⟨_, h, _⟩ => Option.some_ne_none _ h.symm

@[simp] theorem hasAt_some : HasAt w (some i) Q ↔ Q (w, i) := by
  constructor
  · rintro ⟨j, hj, hQ⟩
    cases hj
    exact hQ
  · intro hQ
    exact ⟨i, rfl, hQ⟩

@[simp] theorem hasAmong_nil : HasAmong w [] Q ↔ False :=
  ⟨fun ⟨_, h, _⟩ => (List.not_mem_nil h).elim, False.elim⟩

@[simp] theorem hasAmong_cons {r : NodeRef} {rs : List NodeRef} :
    HasAmong w (r :: rs) Q ↔ HasAt w r Q ∨ HasAmong w rs Q := by
  simp only [HasAmong, List.mem_cons, exists_eq_or_imp]

/-- **The conversion finds the node itself and what is found below it.** -/
theorem finds_iff : a.Finds (w, i) l ↔ (w ≠ .parts ∧ i = l) ∨ a.Rest (w, i) l := by
  constructor
  · rintro ⟨w', hw', hpath⟩
    rcases hpath.cases_head with heq | ⟨y, hstep, hrest⟩
    · cases heq
      exact .inl ⟨hw', rfl⟩
    · exact .inr ⟨y, hstep, w', hw', hrest⟩
  · rintro (⟨hw, rfl⟩ | ⟨y, hstep, w', hw', hrest⟩)
    · exact ⟨w, hw, .refl⟩
    · exact ⟨w', hw', .head hstep hrest⟩

theorem below_some : a.Below w (some i) l ↔ a.Finds (w, i) l :=
  hasAt_some

theorem belowAny_cons {r : NodeRef} {rs : List NodeRef} :
    a.BelowAny w (r :: rs) l ↔ a.Below w r l ∨ a.BelowAny w rs l :=
  hasAmong_cons

/-- Where the parts of a node are taken over, the node itself is not found. -/
theorem below_parts_some : a.Below .parts (some i) l ↔ a.Rest (.parts, i) l := by
  rw [Below, hasAt_some, finds_iff]
  exact or_iff_right fun h => h.1 rfl

/-- A leaf is not found where there is no node. -/
theorem not_below_of_node?_eq_none {r : NodeRef} (hleaf : a.IsLeaf l) (h : a.node? r = none) :
    ¬ a.Below w r l := by
  rintro ⟨i, rfl, hfinds⟩
  rw [node?_some] at h
  rcases finds_iff.mp hfinds with ⟨-, rfl⟩ | ⟨y, ⟨n, p, d, f, hn, -⟩, -⟩
  · obtain ⟨n, hn, -⟩ := hleaf
    rw [h] at hn
    cases hn
  · rw [h] at hn
    cases hn

/-! ### Holes -/

/-- Which nodes are holes. -/
theorem isHole_some_iff {n : Node} (hn : a.nodes[i]? = some n) :
    a.IsHole (some i) ↔ n.kind.isElided = true ∨
      (n.kind = .computedPropertyName ∧
        ∃ d, a.data? .computedProperty n = some d ∧ a.IsHole (d.get .expression)) ∨
      (n.kind = .parenthesizedExpression ∧
        ∃ d, a.data? .parenthesized n = some d ∧ a.IsHole (d.get .expression)) ∨
      (n.kind = .parameter ∧ ∃ d, a.data? .parameter n = some d ∧ a.IsHole (d.get .name)) ∨
      (n.kind = .bindingElement ∧ ∃ d, a.data? .bindingElement n = some d ∧
        d.get .dotDotDotToken = false ∧ ¬ a.inObjectPattern i ∧
          a.node? (d.get .initializer) = none ∧ a.IsHole (d.get .name)) := by
  have hsame {n' : Node} (hn' : a.nodes[i]? = some n') : n' = n :=
    Option.some.inj (hn'.symm.trans hn)
  constructor
  · intro h
    cases h with
    | absent h => exact absurd (h.symm.trans hn) nofun
    | elided hn' h => exact .inl (hsame hn' ▸ h)
    | computed hn' hk hd h =>
      obtain rfl := hsame hn'
      exact .inr (.inl ⟨hk, _, hd, h⟩)
    | parenthesized hn' hk hd h =>
      obtain rfl := hsame hn'
      exact .inr (.inr (.inl ⟨hk, _, hd, h⟩))
    | parameter hn' hk hd h =>
      obtain rfl := hsame hn'
      exact .inr (.inr (.inr (.inl ⟨hk, _, hd, h⟩)))
    | element hn' hk hd hrest hout hdefault h =>
      obtain rfl := hsame hn'
      exact .inr (.inr (.inr (.inr ⟨hk, _, hd, hrest, hout, hdefault, h⟩)))
  · rintro (h | ⟨hk, d, hd, h⟩ | ⟨hk, d, hd, h⟩ | ⟨hk, d, hd, h⟩ |
      ⟨hk, d, hd, hrest, hout, hdefault, h⟩)
    · exact .elided hn h
    · exact .computed hn hk hd h
    · exact .parenthesized hn hk hd h
    · exact .parameter hn hk hd h
    · exact .element hn hk hd hrest hout hdefault h

/-! ### Finding, field by field -/

/-- A node that the conversion goes to in a field has a property. -/
def HasInSlot (a : Arena) (i : NodeId) {p : Pool} (d : Data p) (f : Field) (s : Slot)
    (Q : Way × NodeId → Prop) : Prop :=
  ∃ j ∈ d.refs f, ∃ w, s.Leads a i d f j w ∧ Q (w, j)

/-- What the conversion finds in a field of a node. -/
abbrev InSlot (a : Arena) (i : NodeId) {p : Pool} (d : Data p) (f : Field) (s : Slot)
    (l : NodeId) : Prop :=
  a.HasInSlot i d f s (a.Finds · l)

end Arena

/-- The fields whose nodes a rule goes to, at least in some nodes. -/
def Way.kept (w : Way) (kind : SyntaxKind) (p : Pool) : List (Field × Slot) :=
  (((p.childFields kind).filter fun f => f.sort.holdsNodes).map fun f => (f, w.slot kind p f)).filter
    fun e => e.2 != .dropped

/-- A rule that drops every field keeps none. -/
theorem Way.kept_eq_nil {w : Way} {kind : SyntaxKind} {p : Pool}
    (h : ∀ f, w.slot kind p f = .dropped) : w.kept kind p = [] := by
  rw [kept, List.filter_eq_nil_iff]
  intro e he
  obtain ⟨f, -, rfl⟩ := List.mem_map.mp he
  simp [h f]

namespace Arena

variable {a : Arena} {w : Way} {i l : NodeId} {n : Node} {p : Pool} {d : Data p} {f : Field}
  {Q : Way × NodeId → Prop}

/-- The parts of a node are in one pool only. -/
theorem pool_of_data? (h : a.data? p n = some d) : n.pool = some p := by
  rw [data?] at h
  split at h
  · assumption
  · cases h

/-- The parts of a node list its children. -/
theorem childrenOf_of_data? (hd : a.data? p n = some d) :
    a.childrenOf n = Data.children n.kind d := by
  have hpool := pool_of_data? hd
  rw [data?, if_pos hpool] at hd
  rw [childrenOf, hpool]
  dsimp only
  rw [hd]

/-- What a field of a node refers to is among the children. -/
theorem mem_childrenOf_of_mem_refs {j : NodeId} (hd : a.data? p n = some d)
    (hf : f ∈ p.childFields n.kind) (hj : j ∈ d.refs f) : j ∈ a.childrenOf n := by
  rw [childrenOf_of_data? hd]
  exact List.mem_flatMap.mpr ⟨f, hf, hj⟩

/-- What a field of a node refers to is a child. -/
theorem isChild_of_mem_refs {j : NodeId} (hn : a.nodes[i]? = some n) (hd : a.data? p n = some d)
    (hf : f ∈ p.childFields n.kind) (hj : j ∈ d.refs f) : a.IsChild i j := by
  rw [IsChild, children_of_node hn]
  exact mem_childrenOf_of_mem_refs hd hf hj

/-- A child is referred to in a field. -/
theorem exists_mem_refs_of_isChild {j : NodeId} (h : a.IsChild i j) :
    ∃ n p, ∃ d : Data p, ∃ f, a.nodes[i]? = some n ∧ a.data? p n = some d ∧
      f ∈ p.childFields n.kind ∧ j ∈ d.refs f := by
  obtain ⟨n, hn⟩ : ∃ n, a.nodes[i]? = some n :=
    ⟨_, Array.getElem?_eq_getElem (lt_size_of_isChild h)⟩
  rw [IsChild, children_of_node hn, childrenOf] at h
  split at h
  · cases h
  · next p hpool =>
    split at h
    · cases h
    · next d hd =>
      obtain ⟨f, hf, hj⟩ := List.mem_flatMap.mp h
      exact ⟨n, p, d, f, hn, (if_pos hpool).trans hd, hf, hj⟩

/-- The node in a field is a child. -/
theorem isChild_of_nodeAt {j : NodeId} (hn : a.nodes[i]? = some n) (hd : a.data? p n = some d)
    (hf : f ∈ p.childFields n.kind) (hj : d.nodeAt f = some j) : a.IsChild i j := by
  refine isChild_of_mem_refs hn hd hf ?_
  rw [d.refs_eq, hj]
  exact List.mem_append_left _ List.mem_cons_self

/-- Where no node lies below itself, none does from the node in a field on. -/
theorem AcyclicFrom.nodeAt (h : a.AcyclicFrom (some i)) (hn : a.nodes[i]? = some n)
    (hd : a.data? p n = some d) (hf : f ∈ p.childFields n.kind) : a.AcyclicFrom (d.nodeAt f) := by
  rintro k ⟨j, hj, hk⟩
  exact h.below (.single (isChild_of_nodeAt hn hd hf hj)) k ⟨j, rfl, hk⟩

/-- **The conversion goes on from a node to those in the fields that are kept.** -/
theorem hasNext_iff (hn : a.nodes[i]? = some n) (hd : a.data? p n = some d) :
    a.HasNext (w, i) Q ↔ ∃ e ∈ w.kept n.kind p, a.HasInSlot i d e.1 e.2 Q := by
  constructor
  · rintro ⟨⟨w', j⟩, ⟨n', p', d', f, hn', hd', hf, hj, hleads⟩, hQ⟩
    obtain rfl : n = n' := Option.some.inj (hn.symm.trans hn')
    obtain rfl : p = p' := Option.some.inj ((pool_of_data? hd).symm.trans (pool_of_data? hd'))
    obtain rfl : d = d' := Option.some.inj (hd.symm.trans hd')
    refine ⟨(f, w.slot n.kind p f), ?_, j, hj, w', hleads, hQ⟩
    have hnodes : f.sort.holdsNodes = true := by
      by_contra hnot
      rw [Record.refs_eq_nil d (Bool.eq_false_iff.mpr hnot)] at hj
      cases hj
    rw [Way.kept, List.mem_filter, bne_iff_ne, List.mem_map]
    refine ⟨⟨f, List.mem_filter.mpr ⟨hf, hnodes⟩, rfl⟩, fun hdropped => ?_⟩
    dsimp only at hleads hdropped
    rw [hdropped] at hleads
    exact hleads
  · rintro ⟨e, he, j, hj, w', hleads, hQ⟩
    rw [Way.kept, List.mem_filter, List.mem_map] at he
    obtain ⟨⟨f, hf, rfl⟩, -⟩ := he
    exact ⟨(w', j), ⟨n, p, d, f, hn, hd, (List.mem_filter.mp hf).1, hj, hleads⟩, hQ⟩

/-- The conversion goes nowhere from a node of which no field is kept. -/
theorem not_hasNext_of_kept (hn : a.nodes[i]? = some n) (h : ∀ p, w.kept n.kind p = []) :
    ¬ a.HasNext (w, i) Q := by
  intro hrest
  obtain ⟨y, ⟨n', p, d, f, hn', hd, -⟩, -⟩ := id hrest
  obtain rfl : n = n' := Option.some.inj (hn.symm.trans hn')
  obtain ⟨e, he, -⟩ := (hasNext_iff hn hd).mp hrest
  rw [h p] at he
  cases he

/-- A node that the conversion goes to in one of some fields has a property. -/
def HasInSlots (a : Arena) (i : NodeId) (d : Data p) :
    List (Field × Slot) → (Way × NodeId → Prop) → Prop
  | [], _ => False
  | [e], Q => a.HasInSlot i d e.1 e.2 Q
  | e :: e' :: es, Q => a.HasInSlot i d e.1 e.2 Q ∨ HasInSlots a i d (e' :: es) Q

theorem hasInSlots_iff (es : List (Field × Slot)) :
    a.HasInSlots i d es Q ↔ ∃ e ∈ es, a.HasInSlot i d e.1 e.2 Q := by
  induction es with
  | nil => simp [HasInSlots]
  | cons e es ih =>
    cases es with
    | nil => simp [HasInSlots]
    | cons e' es => simp only [HasInSlots, ih, List.mem_cons, exists_eq_or_imp]

/-- Where the conversion goes to from a node of a kind, given the fields that are kept. -/
theorem hasNext_of_kept {kind : SyntaxKind} {es : List (Field × Slot)}
    (hn : a.nodes[i]? = some n) (hd : a.data? p n = some d) (hk : n.kind = kind)
    (hes : w.kept kind p = es) : a.HasNext (w, i) Q ↔ a.HasInSlots i d es Q := by
  rw [hasNext_iff hn hd, hasInSlots_iff, hk, hes]

/-! ### What a field contributes -/

/-- A single node that is converted in one way, if at all. -/
theorem hasInSlot_node_if {s : Slot} {r : NodeRef} {P : Prop} (hr : d.refs f = r.toList)
    (hs : ∀ j w', s.Leads a i d f j w' ↔ w' = w ∧ P) :
    a.HasInSlot i d f s Q ↔ P ∧ HasAt w r Q := by
  rw [HasInSlot, hr]
  constructor
  · rintro ⟨j, hj, w', hleads, hQ⟩
    obtain ⟨rfl, hP⟩ := (hs j w').mp hleads
    exact ⟨hP, j, Option.mem_toList.mp hj, hQ⟩
  · rintro ⟨hP, j, rfl, hQ⟩
    exact ⟨j, Option.mem_toList.mpr rfl, w, (hs j w).mpr ⟨rfl, hP⟩, hQ⟩

/-- Nodes that are all converted in one way, if at all. -/
theorem hasInSlot_list_if {s : Slot} {rs : List NodeRef} {P : Prop}
    (hr : d.refs f = rs.filterMap id) (hs : ∀ j w', s.Leads a i d f j w' ↔ w' = w ∧ P) :
    a.HasInSlot i d f s Q ↔ P ∧ HasAmong w rs Q := by
  rw [HasInSlot, hr]
  constructor
  · rintro ⟨j, hj, w', hleads, hQ⟩
    obtain ⟨rfl, hP⟩ := (hs j w').mp hleads
    obtain ⟨r, hr, rfl⟩ := List.mem_filterMap.mp hj
    exact ⟨hP, _, hr, j, rfl, hQ⟩
  · rintro ⟨hP, r, hr, j, rfl, hQ⟩
    exact ⟨j, List.mem_filterMap.mpr ⟨_, hr, rfl⟩, w, (hs j w).mpr ⟨rfl, hP⟩, hQ⟩

/-- A single node that is converted in one way. -/
theorem hasInSlot_node {s : Slot} {r : NodeRef} (hr : d.refs f = r.toList)
    (hs : ∀ j w', s.Leads a i d f j w' ↔ w' = w) :
    a.HasInSlot i d f s Q ↔ HasAt w r Q :=
  (hasInSlot_node_if hr fun j w' => (hs j w').trans (and_true _).symm.to_iff).trans
    (iff_of_eq (true_and _))

/-- Nodes that are all converted in one way. -/
theorem hasInSlot_list {s : Slot} {rs : List NodeRef} (hr : d.refs f = rs.filterMap id)
    (hs : ∀ j w', s.Leads a i d f j w' ↔ w' = w) :
    a.HasInSlot i d f s Q ↔ HasAmong w rs Q :=
  (hasInSlot_list_if hr fun j w' => (hs j w').trans (and_true _).symm.to_iff).trans
    (iff_of_eq (true_and _))

/-- A single node that is converted by the rule of its kind. -/
theorem hasInSlot_child {r : NodeRef} (hr : d.refs f = r.toList) :
    a.HasInSlot i d f .rule Q ↔ HasAt .rule r Q :=
  hasInSlot_node hr fun _ _ => Iff.rfl

/-- Nodes that are converted by the rules of their kinds. -/
theorem hasInSlot_children {rs : List NodeRef} (hr : d.refs f = rs.filterMap id) :
    a.HasInSlot i d f .rule Q ↔ HasAmong .rule rs Q :=
  hasInSlot_list hr fun _ _ => Iff.rfl

/-- A type argument has a property, in the way that it is come by. -/
def HasArgument (a : Arena) (r : NodeRef) (Q : Way × NodeId → Prop) : Prop :=
  ∃ j, r = some j ∧ Q (a.argumentWay j, j)

/-- What is found from a type argument on. -/
abbrev BelowArgument (a : Arena) (r : NodeRef) (l : NodeId) : Prop :=
  a.HasArgument r (a.Finds · l)

/-- Type arguments. -/
theorem hasInSlot_argument {rs : List NodeRef} (hr : d.refs f = rs.filterMap id) :
    a.HasInSlot i d f .argument Q ↔ ∃ r ∈ rs, a.HasArgument r Q := by
  rw [HasInSlot, hr]
  constructor
  · rintro ⟨j, hj, w', rfl, hQ⟩
    obtain ⟨r, hr, rfl⟩ := List.mem_filterMap.mp hj
    exact ⟨_, hr, j, rfl, hQ⟩
  · rintro ⟨r, hr, j, rfl, hQ⟩
    exact ⟨j, List.mem_filterMap.mpr ⟨_, hr, rfl⟩, _, rfl, hQ⟩

/-- The first of some nodes. -/
theorem hasInSlot_first {s : Slot} {o : Option NodeList}
    (hr : d.refs f = (NodeList.nodesOf o).filterMap id)
    (hs : ∀ j w', s.Leads a i d f j w' ↔ w' = w ∧ o.bind NodeList.first = some j) :
    a.HasInSlot i d f s Q ↔ HasAt w (o.bind NodeList.first) Q := by
  rw [HasInSlot, hr]
  constructor
  · rintro ⟨j, -, w', hleads, hQ⟩
    obtain ⟨rfl, hj⟩ := (hs j w').mp hleads
    exact ⟨j, hj, hQ⟩
  · rintro ⟨j, hj, hQ⟩
    obtain ⟨L, rfl, hL⟩ := Option.bind_eq_some_iff.mp hj
    refine ⟨j, List.mem_filterMap.mpr ⟨some j, ?_, rfl⟩, w, (hs j w).mpr ⟨rfl, hj⟩, hQ⟩
    exact List.mem_of_head? (Option.join_eq_some_iff.mp hL)

end Arena

end ScriptTree
