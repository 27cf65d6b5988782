import ScriptTree.Convert.Visit
import ScriptTree.Proofs.Arena.Beginnings
import ScriptTree.Proofs.Convert.Termination

/-!
# Reading an arena that goes on

The rules read the arena in few ways: the node in a place, its parts, its kind, its modifiers and its
surroundings. Over an arena that looks alike they read the same, as long as they go down in the
same ways. This file says so for what the rules share; the rules themselves are in
`ScriptTree.Proofs.Convert.Beginnings.Rules`.
-/

namespace ScriptTree

/-- The same source over another arena. -/
def Source.over (s : Source) (a : Arena) : Source := { s with arena := a }

@[simp] theorem Source.arena_over (s : Source) (a : Arena) : (s.over a).arena = a := rfl

@[simp] theorem Source.root_over (s : Source) (a : Arena) : (s.over a).root = s.root := rfl

@[simp] theorem Source.map_over (s : Source) (a : Arena) : (s.over a).map = s.map := rfl

/-! ### What is done next -/

section

variable {α β : Type} {g g' : α → Conversion β} {xs : List α}

/-- What is done with a result depends on the results that there are. -/
theorem Conversion.Yields.bind_congr {m : Conversion α} {post : α → Prop} (hm : m.Yields post)
    (h : ∀ x, post x → g' x = g x) : m >>= g' = m >>= g := by
  refine funext fun p => ?_
  change (m >>= g').run.run p = (m >>= g).run.run p
  rw [run_bind, run_bind]
  split
  · next x q hx => rw [h x (hm hx)]
  · rfl

/-- What is done with the elements of a list depends on these elements only. -/
theorem mapM_congr (h : ∀ x ∈ xs, g' x = g x) : xs.mapM g' = xs.mapM g := by
  induction xs with
  | nil => rfl
  | cons x xs ih =>
    rw [List.mapM_cons, List.mapM_cons, h x List.mem_cons_self,
      ih fun y hy => h y (List.mem_cons_of_mem x hy)]

theorem filterMapM_congr {g g' : α → Conversion (Option β)} (h : ∀ x ∈ xs, g' x = g x) :
    xs.filterMapM g' = xs.filterMapM g := by
  induction xs with
  | nil => rfl
  | cons x xs ih =>
    rw [List.filterMapM_cons, List.filterMapM_cons, h x List.mem_cons_self,
      ih fun y hy => h y (List.mem_cons_of_mem x hy)]

theorem foldlM_congr {g g' : β → α → Conversion β} (h : ∀ x ∈ xs, ∀ b, g' b x = g b x) (b : β) :
    xs.foldlM g' b = xs.foldlM g b := by
  induction xs generalizing b with
  | nil => rfl
  | cons x xs ih =>
    rw [List.foldlM_cons, List.foldlM_cons, h x List.mem_cons_self]
    exact congrArg (_ >>= ·) (funext fun b => ih (fun y hy => h y (List.mem_cons_of_mem x hy)) b)

end

namespace Arena.LooksAlike

variable {s : Source} {a' : Arena} {w : WaysDown} {i : NodeId} {n : Node} {p : Pool} {d : Data p}
  {r : NodeRef} {l : Option NodeList} {α : Type}

/-! ### Places that are seen -/

theorem node?_over (hr : s.arena.Sees a' r) : (s.over a').node? r = s.node? r := hr

theorem hasKind_over (hr : s.arena.Sees a' r) (kind : SyntaxKind) :
    (s.over a').hasKind r kind = s.hasKind r kind := by
  rw [Source.hasKind, Source.hasKind]
  exact congrArg (· == some kind) hr.kind?

theorem modifiers_over (hl : s.arena.SeesAll a' (NodeList.nodesOf l)) :
    (s.over a').modifiers l = s.modifiers l :=
  hl.modifierSet

/-- A word of a declaration, counted from the first one. -/
theorem sees_word (hl : s.arena.SeesAll a' (NodeList.nodesOf l)) (k : Nat) :
    s.arena.Sees a' (((l.map NodeList.nodes).getD [])[k]?).join := by
  have hword : ((l.map NodeList.nodes).getD []) = NodeList.nodesOf l := by cases l <;> rfl
  rw [hword]
  cases hr : (NodeList.nodesOf l)[k]? with
  | none => rfl
  | some r => exact hl r (List.mem_of_getElem? hr)

/-- The ascription around a type. -/
theorem ascription? (hr : s.arena.Sees a' r) :
    ((s.over a').along w).ascription? r = (s.along w).ascription? r := by
  simp only [Converter.ascription?, Source.toSource_along, node?_over hr]
  rfl

/-- The export around a declaration. -/
theorem exported (hl : s.arena.SeesAll a' (NodeList.nodesOf l)) (es : EsNode) :
    ((s.over a').along w).exported l es = (s.along w).exported l es := by
  have hfirst : s.arena.Sees a' ((l.map NodeList.nodes).getD []).head?.join := by
    rw [List.head?_eq_getElem?]
    exact sees_word hl 0
  simp only [Converter.exported, Source.toSource_along, node?_over hfirst,
    node?_over (sees_word hl 1)]
  rfl

/-- Where the last node of a list ends. -/
theorem lastStop (hl : s.arena.SeesAll a' (NodeList.nodesOf l)) :
    ((s.over a').along w).lastStop l = (s.along w).lastStop l := by
  rw [Converter.lastStop, Converter.lastStop, Source.toSource_along, node?_over hl.last]
  rfl

/-! ### Parts -/

variable (h : s.arena.LooksAlike a')

include h

/-- The kind of the node around a node. -/
theorem hasKind_parent (hn : s.node? (some i) = some n) (kind : SyntaxKind) :
    (s.over a').hasKind (a'.parent (some i)) kind = s.hasKind (s.arena.parent (some i)) kind :=
  congrArg (· == some kind) (h.kind?_parent (lt_of_node? hn))

/-- What is done with the parts of a node. -/
theorem parts_bind_data (hn : s.node? (some i) = some n) {g g' : Data p → Conversion α}
    (hg : ∀ d, s.arena.data? p n = some d → s.arena.SeesParts a' d → g' d = g d) :
    (s.over a').parts p i n >>= g' = s.parts p i n >>= g := by
  have hparts : (s.over a').parts p i n = s.parts p i n := by
    simp only [Source.parts, Source.arena_over, h.data (mem_of_node? hn)]
  rw [hparts, Source.parts]
  split
  · next d hd => exact hg d hd (h.seesParts (mem_of_node? hn) hd)
  · rfl

/-- Mostly it is enough that these are seen. -/
theorem parts_bind (hn : s.node? (some i) = some n) {g g' : Data p → Conversion α}
    (hg : ∀ d, s.arena.SeesParts a' d → g' d = g d) :
    (s.over a').parts p i n >>= g' = s.parts p i n >>= g :=
  h.parts_bind_data hn fun d _ => hg d

/-- What a recipe says about a part. -/
theorem part (hd : s.arena.SeesParts a' d) (part : Part) :
    ((s.over a').along w).part n d part = (s.along w).part n d part := by
  cases part with
  | ascription f => simp only [Converter.part, ascription? (hd.nodeAt f)]
  | nameText f =>
    simp only [Converter.part, Source.toSource_along, Source.arena_over, h.nameText? (hd.nodeAt f)]
  | isKind f | isNotKind f =>
    simp only [Converter.part, Source.toSource_along, hasKind_over (hd.nodeAt f)]
  | modifier | modifierMark | accessibility =>
    simp only [Converter.part, Source.toSource_along, modifiers_over (hd.listAt .modifiers)]
  | _ => rfl

theorem gather (hd : s.arena.SeesParts a' d) (parts : List (String × Part)) :
    ((s.over a').along w).gather n d parts = (s.along w).gather n d parts := by
  simp only [Converter.gather, h.part hd]

theorem follow (hn : s.node? (some i) = some n) (recipe : Recipe) :
    ((s.over a').along w).follow recipe i n = (s.along w).follow recipe i n := by
  refine h.parts_bind hn fun d hd => ?_
  simp only [h.gather hd]
  rfl

theorem synthesize (hn : s.node? (some i) = some n) :
    ((s.over a').along w).synthesize i n = (s.along w).synthesize i n := by
  rw [Converter.synthesize, Converter.synthesize]
  refine ite_congr rfl (fun _ => rfl) fun _ => congrArg (_ >>= ·) (funext fun draft => ?_)
  cases n.kind.tableEntry? with
  | none => rfl
  | some entry =>
    refine h.parts_bind hn fun d hd => ?_
    rw [h.gather hd]
    rfl

/-- A type argument. What it goes down to need be the same only where it is seen, and where no node
lies below itself. -/
theorem typeArgumentOf (hr : s.arena.Sees a' r) (hacyclic : s.arena.AcyclicFrom r)
    {convert : NodeRef → Conversion (Option EsNode)}
    (hconvert : ∀ r, s.arena.Sees a' r → s.arena.AcyclicFrom r → convert r = w.convert r) :
    ((s.over a').along { w with convert := convert }).typeArgumentOf r =
      (s.along w).typeArgumentOf r := by
  have hchild {r : NodeRef} (hr : s.arena.Sees a' r) (hacyclic : s.arena.AcyclicFrom r) :
      ((s.over a').along { w with convert := convert }).child r = (s.along w).child r :=
    congrArg (EsValue.ofNode? <$> ·) (hconvert r hr hacyclic)
  simp only [Converter.typeArgumentOf, Source.toSource_along, node?_over hr, hchild hr hacyclic]
  cases hn : s.node? r with
  | none => rfl
  | some n =>
    simp only [Source.arena_over, h.data (mem_of_node? hn)]
    cases hd : s.arena.data? .typeRef n with
    | none => rfl
    | some d =>
      obtain ⟨i, rfl, hi⟩ := Option.bind_eq_some_iff.mp hn
      have hname : s.arena.Sees a' (d.get .typeName) :=
        (h.seesParts (mem_of_node? hn) hd).nodeAt .typeName
      have hbelow : s.arena.AcyclicFrom (d.get .typeName) :=
        hacyclic.nodeAt (f := .typeName) hi hd
          (Pool.mem_childFields (by decide) (by decide) n.kind)
      simp only [hchild hname hbelow]
      rfl

/-- The name of a tag. -/
theorem tagNameOf (hr : s.arena.Sees a' r) :
    ((s.over a').along w).tagNameOf r = (s.along w).tagNameOf r := by
  cases r with
  | none => rfl
  | some i =>
    simp only [Converter.tagNameOf, Source.toSource_along, node?_over hr]
    cases hn : s.node? (some i) with
    | none => rfl
    | some n =>
      refine ite_congr rfl (fun _ => ?_) fun _ => rfl
      exact h.parts_bind hn fun _ _ => rfl

end Arena.LooksAlike

end ScriptTree
