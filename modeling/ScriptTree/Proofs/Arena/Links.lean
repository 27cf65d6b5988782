import ScriptTree.Convert.Program
import ScriptTree.Proofs.Arena.Parents
import ScriptTree.Proofs.Arena.RoundTrip

/-!
# Arenas that are built

An arena that is built node by node, each node after its children, knows the parent of every node at
any time: the last node that was added with it among its children. These are the parents that
`ScriptTree.Arena.linkParents` finds from the children alone, so that nothing is lost when such an
arena is written and read back (`ScriptTree.Arena.IsBuilt.linkParents_eq`).

Both ways of finding parents go through the nodes from the first to the last. What carries the
induction is that a new node changes nothing before it: its row is the last of its pool, so no node
that is there can refer to it by accident (`ScriptTree.Arena.IsWhole.rows`), and it is nobody's
child yet (`ScriptTree.Arena.IsWhole.children`).
-/

namespace ScriptTree

namespace Arena

/-- An arena that is built by adding nodes after their children, and flags to nodes. -/
inductive IsBuilt : Arena → Prop
  | empty : IsBuilt empty
  | addToken {a : Arena} (ha : IsBuilt a) (kind : SyntaxKind) (pos stop : Nat) :
    IsBuilt (a.addToken kind pos stop).2
  | add {a : Arena} (ha : IsBuilt a) (kind : SyntaxKind) (pos stop : Nat) (p : Pool)
    (data : Data p) (hdata : ∀ i ∈ Data.children kind data, i < a.nodes.size) :
    IsBuilt (a.add kind pos stop p data).2
  | setFlags {a : Arena} (ha : IsBuilt a) (r : NodeRef) (flags : Nat) :
    IsBuilt (a.setFlags r flags)

/-- What the nodes refer to is there, and the parents are those that their children give them. -/
structure IsWhole (a : Arena) : Prop where
  /-- The row of a node is there. -/
  rows : ∀ n ∈ a.nodes, ∀ p, n.pool = some p → n.dataIndex < (a.pools p).size
  children : ∀ r, ∀ c ∈ a.children r, c < a.nodes.size
  parents : a.linkParents.parents = a.parents

/-! ### Parents, one node at a time -/

/-- Nodes that are there take their parent whether or not one more has been added. -/
theorem adopt_push {parents : Array NodeRef} {children : List NodeId}
    (h : ∀ c ∈ children, c < parents.size) (parent : NodeId) :
    adopt (parents.push none) parent children = (adopt parents parent children).push none := by
  induction children generalizing parents with
  | nil => rfl
  | cons c cs ih =>
    have hc := h c List.mem_cons_self
    have hset : (parents.push none).setIfInBounds c (some parent) =
        (parents.setIfInBounds c (some parent)).push none := by
      refine Array.ext (by simp) fun i hi _ => ?_
      grind
    rw [adopt, List.foldl_cons, hset]
    exact ih fun d hd => (Array.size_setIfInBounds ..).symm ▸ h d (List.mem_cons_of_mem c hd)

/-- The nodes before a new one give their children the same parents as without it. -/
theorem linksFrom_push {a b : Arena} {parents : Array NodeRef} {nodes : List NodeId}
    (hsame : ∀ i ∈ nodes, b.children (some i) = a.children (some i))
    (hchildren : ∀ r, ∀ c ∈ a.children r, c < parents.size) :
    b.linksFrom (parents.push none) nodes = (a.linksFrom parents nodes).push none := by
  induction nodes generalizing parents with
  | nil => rfl
  | cons i nodes ih =>
    rw [linksFrom_cons, hsame i List.mem_cons_self, adopt_push (hchildren (some i))]
    exact ih (fun j hj => hsame j (List.mem_cons_of_mem i hj))
      (by simpa only [size_adopt] using hchildren)

/-! ### One node more -/

namespace IsWhole

variable {a : Arena}

theorem empty : IsWhole Arena.empty where
  rows := by rintro n hn; simp [Arena.empty] at hn
  children := by rintro (_ | i) c hc <;> simp [Arena.empty, Arena.children] at hc
  parents := rfl

theorem linkParents_eq (h : a.IsWhole) : a.linkParents = a := by
  obtain ⟨nodes, parents, pools⟩ := a
  exact congrArg (fun parents => Arena.mk nodes parents pools) h.parents

/-- Where the rows of an arena stay where they are, so do the children of its nodes. -/
theorem childrenOf_eq {b : Arena} (h : a.IsWhole)
    (hpools : ∀ p i, i < (a.pools p).size → (b.pools p)[i]? = (a.pools p)[i]?) {n : Node}
    (hn : n ∈ a.nodes) : b.childrenOf n = a.childrenOf n := by
  cases hp : n.pool with
  | none => simp only [childrenOf, hp]
  | some p => simp only [childrenOf, hp, hpools p n.dataIndex (h.rows n hn p hp)]

/-- **One node more**, behind the others: it refers to a row that is there and has only children
that were there before it, which take it as their parent. -/
theorem push {b : Arena} {n : Node} (h : a.IsWhole) (hnodes : b.nodes = a.nodes.push n)
    (hpools : ∀ p i, i < (a.pools p).size → (b.pools p)[i]? = (a.pools p)[i]?)
    (hrow : ∀ p, n.pool = some p → n.dataIndex < (b.pools p).size)
    (hchildren : ∀ c ∈ b.childrenOf n, c < a.nodes.size)
    (hparents : b.parents = adopt (a.parents.push none) a.nodes.size (b.childrenOf n)) :
    b.IsWhole := by
  have hsize : b.nodes.size = a.nodes.size + 1 := by rw [hnodes, Array.size_push]
  have hold (i : NodeId) (hi : i < a.nodes.size) :
      b.children (some i) = a.children (some i) := by
    rw [Arena.children, Arena.children, node?_some, node?_some, hnodes, Array.getElem?_push_lt hi,
      Array.getElem?_eq_getElem hi, Option.map_some, Option.map_some,
      h.childrenOf_eq hpools (Array.getElem_mem hi)]
  have hnew : b.children (some a.nodes.size) = b.childrenOf n := by
    rw [Arena.children, node?_some, hnodes, Array.getElem?_push_size]
    rfl
  constructor
  case rows =>
    intro m hm p hp
    rw [hnodes] at hm
    rcases Array.mem_push.mp hm with hm | rfl
    · have hlt := h.rows m hm p hp
      have hsame := hpools p _ hlt
      rw [Array.getElem?_eq_getElem hlt] at hsame
      exact (Array.getElem?_eq_some_iff.mp hsame).1
    · exact hrow p hp
  case children =>
    rintro (_ | i) c hc
    · cases hc
    · rw [hsize]
      rcases Nat.lt_trichotomy i a.nodes.size with hi | rfl | hi
      · rw [hold i hi] at hc
        exact Nat.lt_succ_of_lt (h.children _ c hc)
      · rw [hnew] at hc
        exact Nat.lt_succ_of_lt (hchildren c hc)
      · rw [Arena.children, node?_some, Array.getElem?_eq_none (by omega)] at hc
        cases hc
  case parents =>
    -- The links of the old nodes are read off as before, and then those of the new one.
    have hlinks : b.linksFrom ((Array.replicate a.nodes.size none).push none)
        (List.range a.nodes.size) = a.parents.push none := by
      rw [linksFrom_push (fun i hi => hold i (List.mem_range.mp hi))
        (by simpa only [Array.size_replicate] using h.children), ← linkParents_parents, h.parents]
    rw [linkParents_parents, hsize, List.range_succ, Array.replicate_succ, linksFrom_concat, hlinks,
      hnew, hparents]

theorem addToken (h : a.IsWhole) (kind : SyntaxKind) (pos stop : Nat) :
    (a.addToken kind pos stop).2.IsWhole := by
  refine h.push (n := .token kind pos stop) rfl (fun _ _ _ => rfl) ?_ ?_ rfl
  · rintro p ⟨⟩
  · rintro c ⟨⟩

theorem add (h : a.IsWhole) (kind : SyntaxKind) (pos stop : Nat) (p : Pool) {data : Data p}
    (hdata : ∀ i ∈ Data.children kind data, i < a.nodes.size) :
    (a.add kind pos stop p data).2.IsWhole := by
  have hrow : (setPool a.pools p ((a.pools p).push data) p)[(a.pools p).size]? = some data := by
    rw [setPool_self, Array.getElem?_push_size]
  have hchildren : (a.add kind pos stop p data).2.childrenOf
      { kind := kind, pos := pos, stop := stop, pool := some p, dataIndex := (a.pools p).size } =
      Data.children kind data := by
    simp only [childrenOf, Arena.add, hrow]
  refine h.push rfl ?_ ?_ ?_ ?_
  · intro q i hi
    by_cases hq : q = p
    · subst hq
      change (setPool a.pools q ((a.pools q).push data) q)[i]? = _
      rw [setPool_self, Array.getElem?_push_lt hi, Array.getElem?_eq_getElem hi]
    · change (setPool a.pools p ((a.pools p).push data) q)[i]? = _
      rw [setPool_of_ne _ _ hq]
  · rintro q ⟨⟩
    exact (Array.getElem?_eq_some_iff.mp hrow).1
  · rwa [hchildren]
  · rw [hchildren]
    rfl

/-- Flags say nothing about parts. -/
theorem setFlags (h : a.IsWhole) (r : NodeRef) (flags : Nat) : (a.setFlags r flags).IsWhole := by
  cases r with
  | none => exact h
  | some i =>
    have hchildren (r : NodeRef) : (a.setFlags (some i) flags).children r = a.children r := by
      cases r with
      | none => rfl
      | some j =>
        rw [Arena.children, Arena.children, node?_some, node?_some]
        change (((a.nodes.modify i _)[j]?).map a.childrenOf).getD [] = _
        rw [Array.getElem?_modify]
        split
        · cases a.nodes[j]? <;> rfl
        · rfl
    have hsize : (a.setFlags (some i) flags).nodes.size = a.nodes.size := Array.size_modify
    constructor
    case rows =>
      intro n hn p hp
      obtain ⟨j, hj⟩ := Array.getElem?_of_mem hn
      change (a.nodes.modify i _)[j]? = _ at hj
      rw [Array.getElem?_modify] at hj
      split at hj
      · obtain ⟨m, hm, rfl⟩ := Option.map_eq_some_iff.mp hj
        exact h.rows m (Array.mem_of_getElem? hm) p hp
      · exact h.rows n (Array.mem_of_getElem? hj) p hp
    case children =>
      intro r c hc
      rw [hchildren] at hc
      rw [hsize]
      exact h.children r c hc
    case parents =>
      rw [linkParents_parents, hsize, linksFrom]
      simp only [hchildren]
      exact h.parents

end IsWhole

theorem IsBuilt.isWhole {a : Arena} (h : a.IsBuilt) : a.IsWhole := by
  induction h with
  | empty => exact .empty
  | addToken _ kind pos stop ih => exact ih.addToken kind pos stop
  | add _ kind pos stop p data hdata ih => exact ih.add kind pos stop p hdata
  | setFlags _ r flags ih => exact ih.setFlags r flags

/-- **An arena that was built node by node has the parents that its children give its nodes.** -/
theorem IsBuilt.linkParents_eq {a : Arena} (h : a.IsBuilt) : a.linkParents = a :=
  h.isWhole.linkParents_eq

/-! ### Numbers that fit -/

namespace Fits

variable {a : Arena}

theorem empty : Fits Arena.empty where
  nodes := by intro n hn; simp [Arena.empty] at hn
  rows := by intro p d hd; simp [Arena.empty] at hd

theorem addToken (h : a.Fits) (kind : SyntaxKind) {pos stop : Nat} (hpos : pos < 0x100000000)
    (hstop : stop < 0x100000000) : (a.addToken kind pos stop).2.Fits where
  nodes n hn := by
    rcases Array.mem_push.mp hn with hn | rfl
    · exact h.nodes n hn
    · exact ⟨Nat.zero_lt_succ _, hpos, hstop, Nat.lt_succ_self Node.noData⟩
  rows := h.rows

theorem add (h : a.Fits) (kind : SyntaxKind) {pos stop : Nat} {p : Pool} {data : Data p}
    (hpos : pos < 0x100000000) (hstop : stop < 0x100000000)
    (hrow : (a.pools p).size < 0x100000000) (hdata : data.Fits) :
    (a.add kind pos stop p data).2.Fits where
  nodes n hn := by
    rcases Array.mem_push.mp hn with hn | rfl
    · exact h.nodes n hn
    · exact ⟨Nat.zero_lt_succ _, hpos, hstop, hrow⟩
  rows q d hd := by
    by_cases hq : q = p
    · subst hq
      change d ∈ setPool a.pools q ((a.pools q).push data) q at hd
      rw [setPool_self] at hd
      rcases Array.mem_push.mp hd with hd | rfl
      · exact h.rows q d hd
      · exact hdata
    · change d ∈ setPool a.pools p ((a.pools p).push data) q at hd
      rw [setPool_of_ne _ _ hq] at hd
      exact h.rows q d hd

theorem setFlags (h : a.Fits) (r : NodeRef) {flags : Nat} (hflags : flags < 0x10000) :
    (a.setFlags r flags).Fits := by
  cases r with
  | none => exact h
  | some i =>
    refine ⟨fun n hn => ?_, h.rows⟩
    obtain ⟨j, hj⟩ := Array.getElem?_of_mem hn
    change (a.nodes.modify i _)[j]? = _ at hj
    rw [Array.getElem?_modify] at hj
    split at hj
    · obtain ⟨m, hm, rfl⟩ := Option.map_eq_some_iff.mp hj
      have hfits := h.nodes m (Array.mem_of_getElem? hm)
      exact { hfits with flags := Nat.or_lt_two_pow (n := 16) hfits.flags hflags }
    · exact h.nodes n (Array.mem_of_getElem? hj)

end Fits

end Arena

/-! ### Documents -/

namespace Document

/-- **Nothing is lost when a document is written and read back.** Its root, its nodes and their
parts are those that were written, and its parents are those that the children give. If the document
was built node by node, these are the parents that it had, and it is converted to the same result,
or fails with the same error, under all options. -/
theorem reads_back {doc : Document} (h : doc.Fits) :
    ∃ again, ofText? doc.text = some again ∧ again.root = doc.root ∧
      again.arena.nodes = doc.arena.nodes ∧ again.arena.pools = doc.arena.pools ∧
      again.arena.parents = doc.arena.linkParents.parents ∧
      (doc.arena.IsBuilt → again.arena.parents = doc.arena.parents ∧
        ∀ o, again.output o = doc.output o) := by
  refine ⟨⟨doc.arena.linkParents, doc.root⟩, ofText?_text h, rfl, rfl, rfl, rfl, fun hbuilt => ?_⟩
  rw [hbuilt.linkParents_eq]
  exact ⟨rfl, fun o => rfl⟩

/-- The document of `ü;//"`, whose name has a flag. -/
def umlaut : Document :=
  let (name, a) := Arena.empty.add .identifier 0 2 .identifier ⟨"ü", ()⟩
  let (statement, a) := a.add .expressionStatement 0 3 .exprStatement ⟨some name, ()⟩
  let (stop, a) := a.addToken .endOfFileToken 6 6
  let (root, a) := (a.setFlags (some name) 0x8000).add .sourceFile 0 6 .sourceFile
    ⟨⟨[some statement], 0, 6, true⟩, some stop, "a.ts", "ü;//\"", .es5, false, [], ()⟩
  ⟨a, some root⟩

theorem isBuilt_umlaut : umlaut.arena.IsBuilt :=
  .add (.setFlags (.addToken (.add (.add .empty _ _ _ _ _ (by decide)) _ _ _ _ _ (by decide)) _ _ _)
    _ _) _ _ _ _ _ (by decide)

theorem fits_umlaut : umlaut.Fits where
  arena := by
    refine Arena.Fits.add ?_ _ (by decide) (by decide) (by decide) ?_
    · refine Arena.Fits.setFlags ?_ _ (by decide)
      refine Arena.Fits.addToken ?_ _ (by decide) (by decide)
      refine Arena.Fits.add ?_ _ (by decide) (by decide) (by decide) ?_
      · exact Arena.Fits.empty.add _ (by decide) (by decide) (by decide) ⟨trivial, trivial⟩
      · exact ⟨by rintro i ⟨⟩; decide, trivial⟩
    · refine ⟨⟨?_, by decide, by decide⟩, ?_, trivial, trivial, trivial, trivial, ?_, trivial⟩
      · rw [List.forall_mem_singleton]
        rintro i ⟨⟩
        decide
      · rintro i ⟨⟩
        decide
      · rintro d ⟨⟩
  root := by
    rintro i ⟨⟩
    decide

/-- The flag, the mark for a comma behind the last statement and all parents are there again. -/
theorem umlaut_reads_back : umlaut.Fits ∧ umlaut.arena.IsBuilt ∧
    ∃ again, ofText? umlaut.text = some again ∧ again.root = some 3 ∧
      again.arena.parents = #[some 1, some 3, some 3, none] ∧
      again.arena.nodes.map Node.flags = #[0x8000, 0, 0, 0] ∧
      ∀ o, again.output o = umlaut.output o := by
  obtain ⟨again, hread, hroot, hnodes, -, -, hbuilt⟩ := reads_back fits_umlaut
  obtain ⟨hparents, houtput⟩ := hbuilt isBuilt_umlaut
  refine ⟨fits_umlaut, isBuilt_umlaut, again, hread, hroot, ?_, ?_, houtput⟩
  · rw [hparents]
    decide
  · rw [hnodes]
    decide +kernel

end Document

end ScriptTree
