import Mathlib.Data.List.Induction
import ScriptTree.Arena.Basic

/-!
# What an arena keeps

An arena is built in steps: nodes are added, flags are added to nodes, and now and then the parents
of all nodes are read off their children. A node is known by the number that was given out when it
was added, and whatever is done to the arena afterwards, this number reads back what the node was
added with, and all the flags that it was given since (`ScriptTree.Arena.reads_as_added`).

The parts of a node are not with the node but in a row of one of the pools. What keeps two nodes from
sharing a row by accident is that nodes and rows are only ever added behind the others
(`ScriptTree.Arena.Keeps`), and that a node with a pool has its row from the start
(`ScriptTree.Arena.Reads`). Both are shown for one step and carried along a run by induction.

| what is read | theorem |
|---|---|
| a node right after it was added | `ScriptTree.Arena.reads_take` |
| a node after more steps | `ScriptTree.Arena.Keeps.reads` |
| a node that a step is not about | `ScriptTree.Arena.frame_take` |
-/

namespace ScriptTree

namespace Arena

/-! ### Steps -/

/-- One step in building an arena. -/
inductive Step
  | addToken (kind : SyntaxKind) (pos stop : Nat)
  | add (kind : SyntaxKind) (pos stop : Nat) (p : Pool) (data : Data p)
  | setFlags (r : NodeRef) (flags : Nat)
  | linkParents

/-- What a node is added with. -/
structure Entry where
  kind : SyntaxKind
  pos : Nat
  stop : Nat
  /-- The parts, together with the pool that they are in; a token has none. -/
  parts : Option (Sigma Data)

namespace Step

/-- The node that a step adds. -/
def entry? : Step → Option Entry
  | .addToken kind pos stop => some ⟨kind, pos, stop, none⟩
  | .add kind pos stop p data => some ⟨kind, pos, stop, some ⟨p, data⟩⟩
  | .setFlags _ _ | .linkParents => none

/-- The flags that a step gives to a node. -/
def flagsFor (i : NodeId) : Step → Nat
  | .setFlags r flags => if r = some i then flags else 0
  | .addToken .. | .add .. | .linkParents => 0

end Step

/-- A step: the number that it gives out, and the arena after it. -/
def take (a : Arena) : Step → NodeRef × Arena
  | .addToken kind pos stop => (a.addToken kind pos stop).map some id
  | .add kind pos stop p data => (a.add kind pos stop p data).map some id
  | .setFlags r flags => (none, a.setFlags r flags)
  | .linkParents => (none, a.linkParents)

/-- The arena after a sequence of steps. -/
def takeAll (a : Arena) (steps : List Step) : Arena :=
  steps.foldl (fun a step => (a.take step).2) a

/-- All flags that a sequence of steps gives to a node. -/
def flagsGiven (i : NodeId) (steps : List Step) : Nat :=
  steps.foldr (fun step flags => step.flagsFor i ||| flags) 0

@[simp] theorem takeAll_nil (a : Arena) : a.takeAll [] = a := rfl

@[simp] theorem takeAll_cons (a : Arena) (step : Step) (steps : List Step) :
    a.takeAll (step :: steps) = (a.take step).2.takeAll steps := rfl

theorem takeAll_concat (a : Arena) (steps : List Step) (step : Step) :
    a.takeAll (steps ++ [step]) = ((a.takeAll steps).take step).2 := by
  rw [takeAll, List.foldl_append]
  rfl

@[simp] theorem flagsGiven_nil (i : NodeId) : flagsGiven i [] = 0 := rfl

@[simp] theorem flagsGiven_cons (i : NodeId) (step : Step) (steps : List Step) :
    flagsGiven i (step :: steps) = step.flagsFor i ||| flagsGiven i steps := rfl

variable {a b c : Arena} {step : Step} {e : Entry} {i : NodeId}

/-- **A step that adds a node gives out the number of nodes there were.** -/
theorem take_fst_of_entry (a : Arena) (he : step.entry? = some e) :
    (a.take step).1 = some a.nodes.size := by
  cases step with
  | addToken kind pos stop => rfl
  | add kind pos stop p data => rfl
  | setFlags r flags => cases he
  | linkParents => cases he

/-- There are as many nodes as were added. -/
theorem size_take (a : Arena) (step : Step) :
    (a.take step).2.nodes.size = a.nodes.size + step.entry?.toList.length := by
  cases step with
  | addToken kind pos stop => exact Array.size_push _
  | add kind pos stop p data => exact Array.size_push _
  | setFlags r flags =>
    cases r with
    | none => rfl
    | some i => exact Array.size_modify
  | linkParents => rfl

theorem size_takeAll (a : Arena) (steps : List Step) :
    (a.takeAll steps).nodes.size = a.nodes.size + (steps.filterMap Step.entry?).length := by
  induction steps generalizing a with
  | nil => rfl
  | cons step steps ih =>
    rw [takeAll_cons, ih, size_take, List.filterMap_cons]
    cases step.entry? with
    | none => rfl
    | some e =>
      dsimp only [Option.toList_some, List.length_cons, List.length_nil]
      omega

/-! ### What a step keeps -/

/-- A later arena still has every node of an earlier one, with flags added to them, and every row of
every pool where it was. -/
structure Keeps (flags : NodeId → Nat) (a b : Arena) : Prop where
  node {i : NodeId} {n : Node} (h : a.nodes[i]? = some n) :
    b.nodes[i]? = some { n with flags := n.flags ||| flags i }
  row {p : Pool} {j : Nat} {d : Data p} (h : (a.pools p)[j]? = some d) : (b.pools p)[j]? = some d

theorem setPool_push_getElem? {pools : (p : Pool) → Array (Data p)} {p q : Pool} {j : Nat}
    {data : Data p} {d : Data q} (h : (pools q)[j]? = some d) :
    (setPool pools p ((pools p).push data) q)[j]? = some d := by
  by_cases hq : q = p
  · subst hq
    obtain ⟨hlt, hd⟩ := Array.getElem?_eq_some_iff.mp h
    rw [setPool_self, Array.getElem?_push_lt hlt, hd]
  · rwa [setPool_of_ne _ _ hq]

/-- The nodes before a new one are those that were there. -/
theorem push_getElem? {nodes : Array Node} {n m : Node} (h : nodes[i]? = some n) :
    (nodes.push m)[i]? = some { n with flags := n.flags ||| 0 } := by
  obtain ⟨hlt, hn⟩ := Array.getElem?_eq_some_iff.mp h
  rw [Array.getElem?_push_lt hlt, hn, Nat.or_zero]

/-- **What one step keeps**: everything, with flags added to the node that it names, if it names
one. -/
theorem keeps_take (a : Arena) (step : Step) :
    Keeps step.flagsFor a (a.take step).2 := by
  cases step with
  | addToken kind pos stop => exact ⟨push_getElem?, id⟩
  | add kind pos stop p data => exact ⟨push_getElem?, setPool_push_getElem?⟩
  | linkParents => exact ⟨fun h => h.trans (by rw [Step.flagsFor, Nat.or_zero]), id⟩
  | setFlags r flags =>
    cases r with
    | none => exact ⟨fun h => h.trans (by simp [Step.flagsFor]), id⟩
    | some k =>
      refine ⟨fun {i n} h => ?_, id⟩
      change (a.nodes.modify k _)[i]? = _
      rw [Array.getElem?_modify, h, Step.flagsFor]
      by_cases hk : k = i
      · simp [hk]
      · simp [hk]

theorem Keeps.trans {f g : NodeId → Nat} (hab : Keeps f a b) (hbc : Keeps g b c) :
    Keeps (fun i => f i ||| g i) a c where
  node h := by rw [hbc.node (hab.node h), Nat.or_assoc]
  row h := hbc.row (hab.row h)

/-- **What a run keeps.** By induction on the steps, for whatever arena the run starts at. -/
theorem keeps_takeAll (a : Arena) (steps : List Step) :
    Keeps (flagsGiven · steps) a (a.takeAll steps) := by
  induction steps generalizing a with
  | nil => exact ⟨fun h => h.trans (by simp), id⟩
  | cons step steps ih => exact (keeps_take a step).trans (ih _)

/-! ### What a number reads back -/

/-- **A number reads back what a node was added with, and flags**: its parts through the pool that
they were added to, and nothing through any other. -/
structure Reads (a : Arena) (i : NodeId) (e : Entry) (flags : Nat) : Prop where
  node : ∃ n, a.node? (some i) = some n ∧ n.kind = e.kind ∧ n.pos = e.pos ∧ n.stop = e.stop ∧
    n.flags = flags ∧ n.pool = e.parts.map Sigma.fst
  data (q : Pool) (d : Data q) : a.dataAt? q (some i) = some d ↔ e.parts = some ⟨q, d⟩

theorem dataAt?_of_node {n : Node} (h : a.nodes[i]? = some n) (q : Pool) :
    a.dataAt? q (some i) = if n.pool = some q then (a.pools q)[n.dataIndex]? else none := by
  rw [dataAt?, node?_some, h, Option.bind_some, data?]

/-- A node without a pool has no parts. -/
theorem dataAt?_eq_some_iff_of_none {n : Node} (h : a.nodes[i]? = some n) (hp : n.pool = none)
    (q : Pool) (d : Data q) :
    a.dataAt? q (some i) = some d ↔ (none : Option (Sigma Data)) = some ⟨q, d⟩ := by
  rw [dataAt?_of_node h, hp, if_neg nofun]
  exact ⟨nofun, nofun⟩

/-- The parts of a node are read through the one pool that its row is in. -/
theorem dataAt?_eq_some_iff_of_row {n : Node} {p : Pool} {data : Data p}
    (h : a.nodes[i]? = some n) (hp : n.pool = some p)
    (hrow : (a.pools p)[n.dataIndex]? = some data) (q : Pool) (d : Data q) :
    a.dataAt? q (some i) = some d ↔ some (⟨p, data⟩ : Sigma Data) = some ⟨q, d⟩ := by
  rw [dataAt?_of_node h, hp]
  by_cases hq : p = q
  · subst hq
    rw [if_pos rfl, hrow]
    simp
  · rw [if_neg fun h => hq (Option.some.inj h)]
    simp [hq]

/-- **A node is read back right after it was added.** -/
theorem reads_take (a : Arena) (he : step.entry? = some e) :
    Reads (a.take step).2 a.nodes.size e 0 := by
  cases step with
  | setFlags r flags => cases he
  | linkParents => cases he
  | addToken kind pos stop =>
    obtain rfl := Option.some.inj he
    have hnode : (a.take (.addToken kind pos stop)).2.nodes[a.nodes.size]? =
        some (.token kind pos stop) := Array.getElem?_push_size
    exact ⟨⟨_, hnode, rfl, rfl, rfl, rfl, rfl⟩, dataAt?_eq_some_iff_of_none hnode rfl⟩
  | add kind pos stop p data =>
    obtain rfl := Option.some.inj he
    have hnode : (a.take (.add kind pos stop p data)).2.nodes[a.nodes.size]? =
        some ⟨kind, 0, pos, stop, some p, (a.pools p).size⟩ := Array.getElem?_push_size
    have hrow : ((a.take (.add kind pos stop p data)).2.pools p)[(a.pools p).size]? =
        some data := by
      change (setPool a.pools p ((a.pools p).push data) p)[(a.pools p).size]? = some data
      rw [setPool_self, Array.getElem?_push_size]
    exact ⟨⟨_, hnode, rfl, rfl, rfl, rfl, rfl⟩, dataAt?_eq_some_iff_of_row hnode rfl hrow⟩

/-- **What is read once is read ever after**, with the flags that were given in between. -/
theorem Keeps.reads {f : NodeId → Nat} {flags : Nat} (hk : Keeps f a b) (h : Reads a i e flags) :
    Reads b i e (flags ||| f i) := by
  obtain ⟨⟨n, hn, hkind, hpos, hstop, rfl, hpool⟩, hdata⟩ := h
  rw [node?_some] at hn
  have hnode := hk.node hn
  refine ⟨⟨_, hnode, hkind, hpos, hstop, rfl, hpool⟩, fun q d => ?_⟩
  cases hparts : e.parts with
  | none =>
    rw [hparts] at hpool
    exact dataAt?_eq_some_iff_of_none hnode hpool q d
  | some parts =>
    obtain ⟨p, data⟩ := parts
    replace hpool : n.pool = some p := by rw [hpool, hparts, Option.map_some]
    have hread : a.dataAt? p (some i) = some data := (hdata p data).mpr hparts
    rw [dataAt?_of_node hn, if_pos hpool] at hread
    exact dataAt?_eq_some_iff_of_row hnode hpool (hk.row hread) q d

/-- What is read does not depend on the flags, so two arenas that read the same entry read the same
parts. -/
theorem Reads.dataAt?_eq {flags flags' : Nat} (ha : Reads a i e flags) (hb : Reads b i e flags')
    (q : Pool) : b.dataAt? q (some i) = a.dataAt? q (some i) :=
  Option.ext fun d => (hb.data q d).trans (ha.data q d).symm

/-- **Every node of an arena that was built reads what it was added with.** The induction is on the
steps from the last: either the node was there before the last step, or the last step added it. -/
theorem exists_reads (steps : List Step) :
    ∀ i < (empty.takeAll steps).nodes.size, ∃ e flags, Reads (empty.takeAll steps) i e flags := by
  induction steps using List.reverseRecOn with
  | nil => exact fun i hi => absurd hi (Nat.not_lt_zero i)
  | append_singleton steps step ih =>
    rw [takeAll_concat]
    generalize empty.takeAll steps = a at ih ⊢
    intro i hi
    by_cases hlt : i < a.nodes.size
    · obtain ⟨e, flags, h⟩ := ih i hlt
      exact ⟨e, _, (keeps_take a step).reads h⟩
    · rw [size_take] at hi
      cases he : step.entry? with
      | none => simp [he] at hi; omega
      | some e =>
        obtain rfl : i = a.nodes.size := by simp [he] at hi; omega
        exact ⟨e, 0, reads_take a he⟩

/-- **A step changes no node but the one that it adds or gives flags to**, whatever was built
before. -/
theorem frame_take (steps : List Step) (step : Step) {i : NodeId}
    (hi : ((empty.takeAll steps).take step).1 ≠ some i) :
    ((empty.takeAll steps).take step).2.node? (some i) =
        ((empty.takeAll steps).node? (some i)).map
          (fun n => { n with flags := n.flags ||| step.flagsFor i }) ∧
      ∀ q, ((empty.takeAll steps).take step).2.dataAt? q (some i) =
        (empty.takeAll steps).dataAt? q (some i) := by
  have hreads := exists_reads steps i
  generalize empty.takeAll steps = a at hi hreads ⊢
  rcases Nat.lt_or_ge i a.nodes.size with hlt | hge
  · obtain ⟨e, flags, h⟩ := hreads hlt
    have hkeeps := keeps_take a step
    obtain ⟨n, hn, -⟩ := h.node
    refine ⟨?_, fun q => h.dataAt?_eq (hkeeps.reads h) q⟩
    rw [hn]
    exact hkeeps.node hn
  · have hsize : (a.take step).2.nodes.size ≤ i := by
      rw [size_take]
      cases he : step.entry? with
      | none => exact hge
      | some e =>
        rw [take_fst_of_entry a he] at hi
        have : a.nodes.size ≠ i := fun h => hi (congrArg some h)
        change a.nodes.size + 1 ≤ i
        omega
    have ha : a.node? (some i) = none := Array.getElem?_eq_none hge
    have hb : (a.take step).2.node? (some i) = none := Array.getElem?_eq_none hsize
    refine ⟨by rw [ha, hb]; rfl, fun q => ?_⟩
    rw [dataAt?, dataAt?, ha, hb, Option.bind_none, Option.bind_none]

/-! ### Runs -/

/-- **Numbers, nodes and parts do not get mixed up.** A run of steps is cut at any of them. If that
step adds a node, it gives out the number of nodes there were before, and after the rest of the run
this number reads back what the node was added with and all flags that it was given since. Nodes
other than the one that the step adds are what they were before it, up to flags that it gives them,
and their parts are. -/
theorem reads_as_added (before : List Step) (step : Step) (after : List Step) :
    let a := empty.takeAll before
    a.nodes.size = (before.filterMap Step.entry?).length ∧
      (∀ e, step.entry? = some e → (a.take step).1 = some a.nodes.size ∧
        Reads (empty.takeAll (before ++ step :: after)) a.nodes.size e
          (flagsGiven a.nodes.size after)) ∧
      ∀ i, (a.take step).1 ≠ some i →
        (a.take step).2.node? (some i) =
          (a.node? (some i)).map (fun n => { n with flags := n.flags ||| step.flagsFor i }) ∧
        ∀ q, (a.take step).2.dataAt? q (some i) = a.dataAt? q (some i) := by
  intro a
  refine ⟨?_, fun e he => ⟨take_fst_of_entry a he, ?_⟩, fun i hi => frame_take before step hi⟩
  · exact (size_takeAll empty before).trans (Nat.zero_add _)
  · have hrun : empty.takeAll (before ++ step :: after) = (a.take step).2.takeAll after := by
      rw [takeAll, List.foldl_append]
      rfl
    have hreads := (keeps_takeAll (a.take step).2 after).reads (reads_take a he)
    rwa [Nat.zero_or, ← hrun] at hreads

/-- Two names share a pool, a word and a loop do not: the second name still reads itself through the
pool of names, and has the flags that it was given twice since, but not those that its number was
given before it was there. -/
theorem reads_second_name :
    let x : Data .identifier := ⟨"x", ()⟩
    let y : Data .identifier := ⟨"y", ()⟩
    let before : List Step := [.add .identifier 0 1 .identifier x, .setFlags (some 2) 64,
      .addToken .thisKeyword 2 6]
    let after : List Step := [.setFlags (some 2) 5, .add .identifier 9 10 .identifier x, .linkParents,
      .setFlags (some 0) 32, .setFlags none 128, .setFlags (some 2) 12]
    let step : Step := .add .identifier 7 8 .identifier y
    step.entry? = some ⟨.identifier, 7, 8, some ⟨.identifier, y⟩⟩ ∧
      ((empty.takeAll before).take step).1 = some 2 ∧
      ((empty.takeAll before).take step).1 ≠ some 0 ∧
      Reads (empty.takeAll (before ++ step :: after)) 2
        ⟨.identifier, 7, 8, some ⟨.identifier, y⟩⟩ 13 ∧
      ((empty.takeAll before).take step).2.dataAt? .identifier (some 0) = some x := by
  intro x y before after step
  obtain ⟨-, hadded, hframe⟩ := reads_as_added before step after
  have hother : ((empty.takeAll before).take step).1 ≠ some 0 := by decide
  obtain ⟨hfst, hreads⟩ := hadded ⟨.identifier, 7, 8, some ⟨.identifier, y⟩⟩ rfl
  have hflags : flagsGiven (empty.takeAll before).nodes.size after = 13 := by decide
  rw [hflags] at hreads
  exact ⟨rfl, hfst, hother, hreads, (hframe 0 hother).2 .identifier⟩

end Arena

end ScriptTree
