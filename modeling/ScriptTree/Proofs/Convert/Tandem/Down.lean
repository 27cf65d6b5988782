import ScriptTree.Proofs.Convert.Tandem

/-!
# Going down in tandem

Two converters whose ways down are in tandem (`ScriptTree.Tie.Descents`) convert children, lists,
ascriptions and type arguments in tandem. A rule needs no more of its node than that what it goes
down to is to be converted (`ScriptTree.Tie.Around`), and that is the children of the node, unless
the node is a comma.
-/

namespace ScriptTree

open Holding

variable {M : Type} [AddCommMonoid M]

namespace Tie

variable {s : Source} {o : ConvertOptions}

/-! ### What is known of a node -/

/-- **The conversions are at a node**, and what its rule goes down to is to be converted. -/
structure Around (T : Tie M s o) (i : NodeId) (n : Node) : Prop where
  node : s.arena.nodes[i]? = some n
  here : T.here i
  near_of_visits : ∀ {j}, s.arena.Visits i j → T.near j
  hasPlainName : T.exact → s.arena.HasPlainName n

variable {T : Tie M s o} {i j : NodeId} {n : Node} {p : Pool} {d : Data p}

theorem around_of_near (hi : T.near i) (hn : s.arena.nodes[i]? = some n) : T.Around i n where
  node := hn
  here := T.here_of_near hi
  near_of_visits := T.near_of_visits hi
  hasPlainName := fun hexact => T.hasPlainName hexact hi hn

/-- The searches that start at the node have an end, if that matters. -/
theorem Around.settled (hi : T.Around i n) : (∀ q, T.breaks.both .endless q) ∨ s.IsSettled i :=
  T.breaks.settled hi.here

/-- A node that is there, and to be converted. -/
theorem Nears.around {r : NodeRef} (hr : T.Nears r) (hi : r = some i)
    (hn : s.node? (some i) = some n) : T.Around i n :=
  around_of_near (hr i hi) hn

/-- The conversions may be at the node in a place, if there is one. -/
def Enters (T : Tie M s o) (r : NodeRef) : Prop :=
  ∀ i n, r = some i → s.node? (some i) = some n → T.Around i n

theorem Nears.enters {r : NodeRef} (hr : T.Nears r) : T.Enters r :=
  fun _ _ hi hn => hr.around hi hn

/-- One of two nodes. -/
theorem Nears.or {r r' : NodeRef} (hr : T.Nears r) (hr' : T.Nears r') : T.Nears (r.or r') := by
  cases r with
  | none => exact hr'
  | some => exact hr

namespace Around

/-- The children of a node with parts of another sort than a comma has. -/
theorem near_of_isChild (hi : T.Around i n) (hd : s.arena.data? p n = some d) (hp : p ≠ .binary)
    (hj : s.arena.IsChild i j) : T.near j :=
  hi.near_of_visits (.child (Arena.not_isComma_of_data? hi.node hd hp) hj)

/-- The node in a field. -/
theorem nodeAt (hi : T.Around i n) (hd : s.arena.data? p n = some d) (hp : p ≠ .binary)
    {f : Field} (hf : f ∈ p.childFields n.kind) : T.Nears (d.nodeAt f) :=
  fun _ hj => hi.near_of_isChild hd hp (Arena.isChild_of_nodeAt hi.node hd hf hj)

/-- The nodes in the list in a field. -/
theorem listAt (hi : T.Around i n) (hd : s.arena.data? p n = some d) (hp : p ≠ .binary)
    {f : Field} (hf : f ∈ p.childFields n.kind) :
    T.AllNear (NodeList.nodesOf (d.listAt f)) := by
  intro r hr j hj
  refine hi.near_of_isChild hd hp (Arena.isChild_of_mem_refs hi.node hd hf ?_)
  rw [d.refs_eq]
  exact List.mem_append_right _ (List.mem_filterMap.mpr ⟨r, hr, hj⟩)

/-- The rule of a node can move its offsets, or both conversions come to a halt. -/
theorem placed (hi : T.Around i n) : (∀ q, T.breaks.both .misplaced q) ∨ s.IsPlaced n :=
  T.breaks.placed hi.here hi.node

/-- The node in a field of the layout. -/
theorem child (hi : T.Around i n) (hd : s.arena.data? p n = some d) (f : Field)
    [hf : f.In p.layout] (hp : decide (p ≠ .loop ∧ p ≠ .binary)) : T.Nears (d.nodeAt f) :=
  have hp := of_decide_eq_true hp
  hi.nodeAt hd hp.2 (Pool.mem_childFields hp.1 hf.mem n.kind)

/-- The nodes in a list of the layout, which may be missing. -/
theorem list (hi : T.Around i n) (hd : s.arena.data? p n = some d) (f : Field)
    [hf : f.In p.layout] (hp : decide (p ≠ .loop ∧ p ≠ .binary)) :
    T.AllNear (NodeList.nodesOf (d.listAt f)) :=
  have hp := of_decide_eq_true hp
  hi.listAt hd hp.2 (Pool.mem_childFields hp.1 hf.mem n.kind)

end Around

/-- The nodes in a list are to be converted, and there is room for a bracket behind it. -/
def Bracketed (T : Tie M s o) (l : NodeList) : Prop :=
  T.AllNear l.nodes ∧ ((∀ q, T.breaks.both .misplaced q) ∨ l.stop + 1 < 0x100000000)

/-- A list in angle brackets. -/
theorem Around.bracketedAt (hi : T.Around i n) (hd : s.arena.data? p n = some d)
    (hp : p ≠ .binary) {f : Field} (hf : f ∈ p.childFields n.kind)
    (hbrackets : f ∈ Field.bracketed) : ∀ l ∈ d.listAt f, T.Bracketed l := by
  intro l hl
  have hnodes := hi.listAt hd hp hf
  rw [hl] at hnodes
  exact ⟨hnodes, hi.placed.imp_right fun hplaced => hplaced.lists d hd f hbrackets l hl⟩

/-- A list in angle brackets, in a field of the layout. -/
theorem Around.bracketed (hi : T.Around i n) (hd : s.arena.data? p n = some d) (f : Field)
    [hf : f.In p.layout] (hp : decide (p ≠ .loop ∧ p ≠ .binary))
    (hbrackets : decide (f ∈ Field.bracketed)) : ∀ l ∈ d.listAt f, T.Bracketed l :=
  have hp := of_decide_eq_true hp
  hi.bracketedAt hd hp.2 (Pool.mem_childFields hp.1 hf.mem n.kind) (of_decide_eq_true hbrackets)

/-- The first node of a list. -/
theorem AllNear.first {l : NodeList} (hl : T.AllNear l.nodes) : T.Nears l.first := by
  intro j hj
  exact hl (some j) (List.mem_of_mem_head? (Option.join_eq_some_iff.mp hj)) j rfl

/-- The first node of a list that may be missing. -/
theorem AllNear.bind_first {l : Option NodeList} (hl : T.AllNear (NodeList.nodesOf l)) :
    T.Nears (l.bind NodeList.first) := by
  cases l with
  | none => exact fun j hj => (Option.some_ne_none j hj.symm).elim
  | some l => exact hl.first

/-! ### Ways down -/

/-- **The ways down of two converters are in tandem**, and plain names have no other fields than
names do. -/
structure Descents (T : Tie M s o) (w w' : WaysDown) : Prop where
  convert : ∀ {r}, T.Nears r → T.Tandem 0 (w.convert r) (w'.convert r) (opt T.nodes)
  typeArgument : ∀ {r}, T.Nears r → T.Tandem 0 (w.typeArgument r) (w'.typeArgument r) T.values
  tagName : ∀ {r}, T.Nears r → T.Tandem 0 (w.tagName r) (w'.tagName r) T.values
  names : ∀ {r}, (T.exact → s.arena.IsPlainName r) → Conversion.Yields (w.convert r) fun x =>
    T.exact → ∀ es ∈ x, (Draft.reopen es).keys ⊆ EsProps.ofNames

variable {w w' : WaysDown}

namespace Descents

theorem child (hw : T.Descents w w') {r : NodeRef} (hr : T.Nears r) :
    T.Tandem 0 ((T.left w).child r) ((T.right w').child r) T.values :=
  Tandem.map ((hw.convert hr).mono fun _ _ _ hx => ofNode? hx)

theorem list (hw : T.Descents w w') {l : NodeList} (hl : T.AllNear l.nodes) :
    T.Tandem 0 ((T.left w).list l) ((T.right w').list l) T.values :=
  Tandem.map ((Tandem.mapM l.nodes fun r hr => hw.child (hl r hr)).mono fun _ _ _ hx => T.array hx)

theorem statements (hw : T.Descents w w') {l : NodeList} (hl : T.AllNear l.nodes) :
    T.Tandem 0 ((T.left w).statements l) ((T.right w').statements l) T.values :=
  Tandem.map ((Tandem.filterMapM l.nodes fun r hr => hw.convert (hl r hr)).mono
    fun _ _ _ hx => ofNodes hx)

/-- A list that may be missing. -/
theorem optionList {α : Type} {post : Holding M α} {m m' : NodeList → Conversion α}
    {l : Option NodeList} (hl : T.AllNear (NodeList.nodesOf l))
    (hm : ∀ l, T.AllNear l.nodes → T.Tandem 0 (m l) (m' l) post) :
    T.Tandem 0 (l.mapM m) (l.mapM m') (opt post) := by
  refine Tandem.optionMapM l fun l' hl' => hm l' ?_
  obtain rfl : l = some l' := hl'
  exact hl

/-! ### Brackets and ascriptions -/

/-- The brackets around a list are where they are. -/
theorem brackets {α : Type} {k : M} {post : Holding M α} {l : NodeList} (hl : T.Bracketed l)
    {g g' : Nat × Nat → Conversion α} (hg : ∀ x, T.Tandem k (g x) (g' x) post) :
    T.Tandem k ((T.left w).brackets l >>= g) ((T.right w').brackets l >>= g') post := by
  rw [Converter.brackets, Converter.brackets]
  split
  · simp only [bind_assoc]
    exact Tandem.moved hl.2 (hg _)
  · simp only [bind_assoc]
    refine Tandem.tokens fun index _ => ?_
    exact Tandem.moved hl.2 (hg _)

theorem typeArguments (hw : T.Descents w w') {l : NodeList} (hl : T.Bracketed l) :
    T.Tandem 0 ((T.left w).typeArguments l) ((T.right w').typeArguments l) T.nodes := by
  refine brackets hl fun ⟨start, stop⟩ => ?_
  refine Tandem.step (Tandem.mapM l.nodes fun r hr => hw.typeArgument (hl.1 r hr)) fun _ _ _ hx => ?_
  exact Tandem.buildAt (field (T.array hx) .nil) rfl (by abel)

theorem typeArguments? (hw : T.Descents w w') {l : Option NodeList}
    (hl : ∀ l' ∈ l, T.Bracketed l') :
    T.Tandem 0 ((T.left w).typeArguments? l) ((T.right w').typeArguments? l) (opt T.nodes) :=
  Tandem.optionMapM l fun l' hl' => hw.typeArguments (hl l' hl')

theorem typeParameters (hw : T.Descents w w') {l : NodeList} (hl : T.Bracketed l) :
    T.Tandem 0 ((T.left w).typeParameters l) ((T.right w').typeParameters l) T.nodes := by
  refine brackets hl fun ⟨start, stop⟩ => ?_
  refine Tandem.step (hw.list hl.1) fun _ _ _ hx => ?_
  exact Tandem.buildAt (field hx .nil) rfl (by abel)

theorem typeParameters? (hw : T.Descents w w') {l : Option NodeList}
    (hl : ∀ l' ∈ l, T.Bracketed l') :
    T.Tandem 0 ((T.left w).typeParameters? l) ((T.right w').typeParameters? l) (opt T.nodes) :=
  Tandem.optionMapM l fun l' hl' => hw.typeParameters (hl l' hl')

theorem ascription? (hw : T.Descents w w') {r : NodeRef} (hr : T.Nears r) :
    T.Tandem 0 ((T.left w).ascription? r) ((T.right w').ascription? r) (opt T.nodes) := by
  simp only [Converter.ascription?, Source.toSource_along, Source.node?_withOptions]
  cases s.node? r with
  | none => exact Tandem.pure opt_none
  | some n =>
    refine Tandem.tokens fun index _ => ?_
    refine Tandem.step (hw.child hr) fun _ _ _ hx => ?_
    exact Tandem.map (Tandem.buildAt (field hx .nil) rfl (by abel))

theorem decorators? (hw : T.Descents w w') {l : Option NodeList}
    (hl : T.AllNear (NodeList.nodesOf l)) :
    T.Tandem 0 ((T.left w).decorators? l) ((T.right w').decorators? l) (opt T.values) := by
  refine optionList ?_ fun l hl => hw.list hl
  cases l with
  | none => exact hl
  | some l =>
    rw [Option.filter_some]
    split
    · exact hl
    · exact fun r hr => absurd hr List.not_mem_nil

end Descents

end Tie

end ScriptTree
