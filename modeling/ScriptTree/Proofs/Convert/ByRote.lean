import ScriptTree.Convert.Synthesis
import ScriptTree.Proofs.Convert.Records

/-!
# What is recorded by rote

A recipe says with each of its parts which field it looks at, and so does the table for kinds outside
the vocabulary. What the conversion records is therefore read off the recipe
(`ScriptTree.Recipe.slots`). That these are just the fields that are kept
(`ScriptTree.Way.kept`) is a fact about finitely many kinds, and it is checked for all of them at
once (`ScriptTree.SyntaxKind.rote_agrees`).
-/

namespace ScriptTree

open Conversion

/-! ### The fields of a recipe -/

/-- The field that a part looks at, and what becomes of it. -/
def Part.slot? : Part → Option (Field × Slot)
  | .child f _ | .list f | .listIfAny f | .statements f | .typeParameters f | .ascription f _
  | .decorators f => some (f, .rule)
  | .first f => some (f, .first)
  | .typeArguments f _ => some (f, .argument)
  | .tagName f => some (f, .tag)
  | _ => none

/-- The field that a part looks at holds what the part is made of. -/
def Part.fits : Part → Bool
  | .child f _ | .ascription f _ | .tagName f => f.sort == .node
  | .list f | .first f | .listIfAny f | .statements f | .typeArguments f _ | .typeParameters f
  | .decorators f => f.sort != .node
  | _ => true

/-- The fields that some parts look at. -/
def Part.slots (parts : List (String × Part)) : List (Field × Slot) :=
  parts.filterMap fun e => e.2.slot?

/-- Parts look at just the fields that a rule is to keep. -/
def Part.agree (parts : List (String × Part)) (kept : List (Field × Slot)) : Bool :=
  parts.all (fun e => e.2.fits) && (Part.slots parts).all kept.contains &&
    kept.all (Part.slots parts).contains

theorem Part.agree_iff {parts : List (String × Part)} {kept : List (Field × Slot)} :
    Part.agree parts kept = true ↔
      (∀ e ∈ parts, e.2.fits = true) ∧ ∀ e, e ∈ Part.slots parts ↔ e ∈ kept := by
  simp only [agree, Bool.and_eq_true, List.all_eq_true, List.contains_iff_mem, and_assoc]
  refine and_congr_right fun _ => ?_
  constructor
  · rintro ⟨hsub, hsup⟩ e
    exact ⟨hsub e, hsup e⟩
  · intro h
    exact ⟨fun e => (h e).mp, fun e => (h e).mpr⟩

/-! ### Sorts of fields -/

theorem FieldSort.listOf_eq_none {s : FieldSort} (h : s = .node) (v : s.Value) :
    s.listOf v = none := by
  subst h
  rfl

theorem FieldSort.nodeOf_eq_none {s : FieldSort} (h : s ≠ .node) (v : s.Value) :
    s.nodeOf v = none := by
  cases s with
  | node => exact absurd rfl h
  | _ => rfl

theorem Record.listAt_eq_none {fs : List Field} (d : Record fs) {f : Field}
    (h : f.sort = .node) : d.listAt f = none :=
  Option.bind_eq_none_iff.mpr fun v _ => FieldSort.listOf_eq_none h v

theorem Record.nodeAt_eq_none {fs : List Field} (d : Record fs) {f : Field}
    (h : f.sort ≠ .node) : d.nodeAt f = none :=
  Option.bind_eq_none_iff.mpr fun v _ => FieldSort.nodeOf_eq_none h v

/-- A field for a node refers to that node. -/
theorem Record.refs_of_node {fs : List Field} (d : Record fs) {f : Field} (h : f.sort = .node) :
    d.refs f = (d.nodeAt f).toList := by
  rw [refs_eq, listAt_eq_none d h]
  exact List.append_nil _

/-- Another field refers to the nodes of its list. -/
theorem Record.refs_of_list {fs : List Field} (d : Record fs) {f : Field} (h : f.sort ≠ .node) :
    d.refs f = (NodeList.nodesOf (d.listAt f)).filterMap id := by
  rw [refs_eq, nodeAt_eq_none d h]
  rfl

/-! ### Following a recipe -/

namespace Converter.Faithful

variable {c : Converter} {k : Nat} {p : Pool} (i : NodeId) (n : Node) (d : Data p)

/-- What is found in the field that a part looks at. -/
abbrev InPart (x : Part) (l : NodeId) : Prop :=
  ∃ e, x.slot? = some e ∧ c.arena.InSlot i d e.1 e.2 l

/-- A part records what is found in its field. -/
theorem part (hc : c.Faithful) {x : Part} (hx : x.fits = true) (k : Nat) :
    Records c.arena k (InPart (c := c) i d x) (c.part n d x) AnyResult := by
  -- A part that looks at no field converts nothing.
  have hquiet {x : Part} (hslot : x.slot? = none) (v : Option EsValue) :
      Records c.arena k (InPart (c := c) i d x) (pure v) AnyResult := by
    refine Records.of _ (Records.pure_any _) fun l _ => ?_
    exact iff_of_false (fun ⟨e, he, _⟩ => by rw [hslot] at he; cases he) id
  have hone (e : Field × Slot) (l : NodeId) :
      (∃ e', some e = some e' ∧ c.arena.InSlot i d e'.1 e'.2 l) ↔
        c.arena.InSlot i d e.1 e.2 l := by
    simp
  have hlist {f : Field} (hf : (f.sort != .node) = true) (l : NodeId) :
      c.arena.InSlot i d f .rule l ↔ c.arena.BelowAny .rule (NodeList.nodesOf (d.listAt f)) l :=
    Arena.hasInSlot_children (d.refs_of_list (bne_iff_ne.mp hf))
  have hnode {f : Field} (hf : (f.sort == .node) = true) (l : NodeId) :
      c.arena.InSlot i d f .rule l ↔ c.arena.Below .rule (d.nodeAt f) l :=
    Arena.hasInSlot_child (d.refs_of_node (beq_iff_eq.mp hf))
  cases x with
  | child f absence =>
    refine Records.of _ (Records.map (hc.convert _ k).any) fun l _ => ?_
    exact (hone _ l).trans (hnode hx l)
  | first f =>
    refine Records.of _ (Records.map (hc.child _ k)) fun l _ => (hone _ l).trans ?_
    exact Arena.hasInSlot_first (d.refs_of_list (bne_iff_ne.mp hx)) fun _ _ => Iff.rfl
  | list f =>
    refine Records.of _ (Records.bind_quiet (optionList _ fun l => hc.list l _) fun _ _ _ _ => ?_)
      fun l _ => (hone _ l).trans (hlist hx l)
    exact Records.pure_any _
  | listIfAny f =>
    exact Records.of _ (optionList _ fun l => hc.list l _) fun l _ => (hone _ l).trans (hlist hx l)
  | statements f =>
    exact Records.of _ (optionList _ fun l => hc.statements l _)
      fun l _ => (hone _ l).trans (hlist hx l)
  | typeArguments f absence =>
    refine Records.of _ (Records.map (hc.typeArguments? _ k)) fun l _ => (hone _ l).trans ?_
    exact Arena.hasInSlot_argument (d.refs_of_list (bne_iff_ne.mp hx))
  | typeParameters f =>
    exact Records.of _ (Records.map (hc.typeParameters? _ k))
      fun l _ => (hone _ l).trans (hlist hx l)
  | ascription f absence =>
    exact Records.of _ (Records.map (hc.ascription? _ k)) fun l _ => (hone _ l).trans (hnode hx l)
  | decorators f =>
    exact Records.of _ (hc.decorators? _ k) fun l _ => (hone _ l).trans (hlist hx l)
  | tagName f =>
    refine Records.of _ (Records.map (hc.tagName _ k)) fun l _ => (hone _ l).trans ?_
    exact Arena.hasInSlot_node (d.refs_of_node (beq_iff_eq.mp hx)) fun _ _ => Iff.rfl
  | _ => exact hquiet rfl _

/-- The parts of a recipe record what is found in their fields. -/
theorem gather (hc : c.Faithful) (parts : List (String × Part))
    (hfits : ∀ e ∈ parts, e.2.fits = true) (k : Nat) :
    Records c.arena k (fun l => ∃ e ∈ Part.slots parts, c.arena.InSlot i d e.1 e.2 l)
      (c.gather n d parts) AnyResult := by
  have hpart (e : String × Part) (he : e ∈ parts) (k : Nat) :
      Records c.arena k (InPart (c := c) i d e.2) (do pure (e.1, ← c.part n d e.2)) AnyResult :=
    Records.bind_quiet (hc.part i n d (hfits e he) k) fun _ _ _ _ => Records.pure_any _
  refine Records.of _ (Records.mapM parts hpart) fun l _ => ?_
  simp only [Part.slots, List.mem_filterMap]
  constructor
  · rintro ⟨e, ⟨x, hx, he⟩, hin⟩
    exact ⟨x, hx, e, he, hin⟩
  · rintro ⟨x, hx, e, he, hin⟩
    exact ⟨e, ⟨x, hx, he⟩, hin⟩

variable {n} {d}

/-- What is found below a node, read off the parts that agree with what is kept. -/
theorem rest_of_agree {parts : List (String × Part)} (hn : c.arena.nodes[i]? = some n)
    (hd : c.arena.data? p n = some d)
    (hagree : Part.agree parts (Way.rule.kept n.kind p) = true) (l : NodeId) :
    c.arena.Rest (.rule, i) l ↔ ∃ e ∈ Part.slots parts, c.arena.InSlot i d e.1 e.2 l := by
  obtain ⟨-, hslots⟩ := Part.agree_iff.mp hagree
  exact (Arena.hasNext_iff hn hd).trans
    (exists_congr fun e => and_congr_left fun _ => (hslots e).symm)

/-- **A recipe that agrees with what is kept records what is found below the node.** -/
theorem follow (hc : c.Faithful) {r : Recipe} (hn : c.arena.nodes[i]? = some n)
    (hagree : Part.agree (r.parts ++ r.later) (Way.rule.kept n.kind r.pool) = true) (k : Nat) :
    Records c.arena k (c.arena.Rest (.rule, i)) (c.follow r i n) IsIssued := by
  refine records_parts fun d hd => ?_
  have hfits := (Part.agree_iff.mp hagree).1
  refine Records.of (fun l => (∃ e ∈ Part.slots r.parts, c.arena.InSlot i d e.1 e.2 l) ∨
    ∃ e ∈ Part.slots r.later, c.arena.InSlot i d e.1 e.2 l) ?_ fun l _ => ?_
  · refine Records.bind (hc.gather i n d _ (fun e he => hfits e (List.mem_append_left _ he)) k)
      fun _ k _ _ => ?_
    refine Records.quiet_bind (records_start _ n.pos n.stop) fun draft k _ hid => ?_
    refine Records.bind_quiet
      (hc.gather i n d _ (fun e he => hfits e (List.mem_append_right _ he)) k) fun _ k' hk' _ => ?_
    refine Records.pure fun k'' hk'' => ?_
    change (draft.fill _).id < k''
    rw [id_fill]
    omega
  · rw [rest_of_agree i hn hd hagree l]
    simp only [Part.slots, List.filterMap_append, List.mem_append, or_and_right, exists_or]

/-! ### The recipes and the table -/

end Converter.Faithful

/-- **The recipes and the table agree with what is kept**, and are not about the parts of a file. -/
theorem SyntaxKind.rote_agrees (kind : SyntaxKind) :
    (∀ r ∈ kind.recipe?, Part.agree (r.parts ++ r.later) (Way.rule.kept kind r.pool) = true ∧
      r.pool ≠ .sourceFile) ∧
    ∀ e ∈ kind.tableEntry?,
      Part.agree (e.fields.map TableField.part) (Way.rule.kept kind e.pool) = true ∧
        e.pool ≠ .sourceFile := by
  have hall : ∀ k ∈ SyntaxKind.all,
      (∀ r ∈ k.recipe?, Part.agree (r.parts ++ r.later) (Way.rule.kept k r.pool) = true ∧
        r.pool ≠ .sourceFile) ∧
      ∀ e ∈ k.tableEntry?,
        Part.agree (e.fields.map TableField.part) (Way.rule.kept k e.pool) = true ∧
          e.pool ≠ .sourceFile := by
    decide +kernel
  exact hall kind kind.mem_all

/-- The recipe for functions agrees with what is kept of a declaration as well. -/
theorem Recipe.agrees_of_function (type : AstType) :
    Part.agree ((Recipe.function type).parts ++ (Recipe.function type).later)
      (Way.rule.kept .functionDeclaration .function) = true := by
  -- The type is in none of the parts.
  change Part.agree ((Recipe.function .functionDeclaration).parts ++ Recipe.signature) _ = true
  decide

namespace Converter.Faithful

variable {c : Converter} {i : NodeId} {n : Node}

/-- **A kind outside the vocabulary records what is found in the fields of its table entry.** Without
an entry nothing is to be found. -/
theorem synthesize (hc : c.Faithful) (hn : c.arena.nodes[i]? = some n)
    (hnone : n.kind.tableEntry? = none → n.kind.pool? = none) (k : Nat) :
    Records c.arena k (c.arena.Rest (.rule, i)) (c.synthesize i n) IsIssued := by
  rw [Converter.synthesize]
  split
  · exact Records.fail
  · refine Records.quiet_bind (records_start _ n.pos n.stop) fun draft k _ hid => ?_
    split
    · next htable =>
      have hkept (p : Pool) : Way.rule.kept n.kind p = [] :=
        Way.kept_eq_nil fun f => if_neg (by rw [hnone htable]; nofun)
      exact Records.of _ (Records.pure fun k' hk' => Nat.lt_of_lt_of_le hid hk') fun l _ =>
        iff_false_intro (Arena.not_hasNext_of_kept hn hkept)
    · next entry hentry =>
      refine records_parts fun d hd => ?_
      have hagree := (n.kind.rote_agrees.2 entry hentry).1
      have hfits := (Part.agree_iff.mp hagree).1
      refine Records.of _ (Records.bind_quiet (hc.gather i n d _ hfits k) fun fields k' hk' _ => ?_)
        fun l _ => rest_of_agree i hn hd hagree l
      refine Records.pure fun k'' hk'' => ?_
      change (draft.fill _).id < k''
      rw [id_fill]
      omega

end Converter.Faithful

end ScriptTree
