import Mathlib.Tactic.MkIffOfInductiveProp
import ScriptTree.Convert.Visit
import ScriptTree.Proofs.Convert.Found
import ScriptTree.Proofs.Trivia.Lookup

/-!
# How nodes lie in their text

The concrete tree says of each node where it starts and ends, and leaves everything else to the
text: punctuation, brackets and keywords are no nodes. So a tree and a text may contradict each
other. This file says what it is for a node to agree with the tokens of its text
(`ScriptTree.Arena.IsLaidOut`): it is made of tokens, its children lie in it one after the
other, and the marks that are no nodes stand where its kind has them. A tree agrees with its
text if all of its nodes do (`ScriptTree.Arena.IsTidy`).

Even so a rule may leave a part of a node outside of what the node becomes
(`ScriptTree.Arena.slips`): decorators stand in front of a declaration, and where its range is made
to start behind them, nothing makes up for it.

What is drawn from all this is of one form: a field lies within some bounds
(`ScriptTree.Arena.FieldFits`), be it those of the node or narrower ones.
-/

namespace ScriptTree

/-! ### Kinds and fields -/

/-- A list in such a field stands in angle brackets. -/
def Field.isAngled : Field → Bool
  | .typeArguments | .typeParameters => true
  | _ => false

namespace SyntaxKind

/-- Declarations with a body of members. -/
def hasMembers : SyntaxKind → Bool
  | .classDeclaration | .classExpression | .interfaceDeclaration => true
  | _ => false

/-- Members whose value is a function. -/
def hasSignature : SyntaxKind → Bool
  | .methodDeclaration | .getAccessor | .setAccessor | .constructor => true
  | _ => false

end SyntaxKind

namespace Node

/-- A node that may be empty: one that nothing comes of and that has no parts, apart from the
attributes of a tag. -/
def isBlank (n : Node) : Bool :=
  n.kind.isElided && (n.pool == none || n.pool == some .jsxAttributes)

/-- A node starts where a token starts and ends where one ends. -/
@[mk_iff]
structure IsBounded (tokens : List SourceToken) (n : Node) : Prop where
  pos_lt_stop : n.pos < n.stop
  starts : ∃ t ∈ tokens, t.start = n.pos
  stops : ∃ t ∈ tokens, t.stop = n.stop

instance (tokens : List SourceToken) (n : Node) : Decidable (n.IsBounded tokens) :=
  decidable_of_iff' _ (isBounded_iff tokens n)

end Node

namespace Record

variable {fs : List Field} {d : Record fs} {f : Field} {j : NodeId}

/-- A field refers to the node in it. -/
theorem mem_refs_of_nodeAt (h : d.nodeAt f = some j) : j ∈ d.refs f := by
  rw [d.refs_eq, h]
  exact List.mem_append_left _ List.mem_cons_self

/-- A field refers to the nodes in its list. -/
theorem mem_refs_of_mem_listAt (h : some j ∈ NodeList.nodesOf (d.listAt f)) : j ∈ d.refs f := by
  rw [d.refs_eq]
  exact List.mem_append_right _ (List.mem_filterMap.mpr ⟨_, h, rfl⟩)

/-- A field refers to the last node of its list. -/
theorem mem_refs_of_last (h : (d.listAt f).bind NodeList.last = some j) : j ∈ d.refs f := by
  obtain ⟨l, hl, hlast⟩ := Option.bind_eq_some_iff.mp h
  refine mem_refs_of_mem_listAt ?_
  rw [hl]
  exact List.mem_of_getLast? (Option.join_eq_some_iff.mp hlast)

end Record

/-- The children of a node of a kind that stand before those in a field. -/
def Data.before {p : Pool} (kind : SyntaxKind) (d : Data p) (f : Field) : List NodeId :=
  ((p.childFields kind).takeWhile (· != f)).flatMap d.refs

/-- The lists in angle brackets that a node has, each with the children before it. -/
def Data.angledLists {p : Pool} (kind : SyntaxKind) (d : Data p) :
    List (List NodeId × NodeList) :=
  ((p.childFields kind).filter Field.isAngled).filterMap fun f =>
    (d.listAt f).map fun l => (d.before kind f, l)

namespace Arena

/-! ### Agreeing with the text -/

/-- The first place from an offset on that is behind some nodes. -/
def behind (a : Arena) (pos : Nat) (js : List NodeId) : Nat :=
  (js.map fun j => ((a.nodes[j]?).map Node.stop).getD 0).foldl max pos

/-- One node ends before another one starts. -/
def Precedes (a : Arena) (j k : NodeId) : Prop :=
  ∀ m ∈ a.nodes[j]?, ∀ m' ∈ a.nodes[k]?, m.stop ≤ m'.pos

/-- The lists in angle brackets of a node, each with the children before it. -/
def angledLists (a : Arena) (n : Node) : List (List NodeId × NodeList) :=
  match n.pool with
  | none => []
  | some p => ((a.data? p n).map (Data.angledLists n.kind)).getD []

/-- A list stands between two angle brackets, which stand within some bounds themselves. -/
@[mk_iff]
structure InAngles (a : Arena) (tokens : List SourceToken) (lo hi : Nat) (l : NodeList) : Prop where
  pos_le_stop : l.pos ≤ l.stop
  opening : ∃ t ∈ tokens, t.kind = .lessThanToken ∧ lo ≤ t.start ∧ t.stop ≤ l.pos
  closing : ∃ t ∈ tokens, t.kind = .greaterThanToken ∧ l.stop ≤ t.start ∧ t.stop ≤ hi
  inside : ∀ r ∈ l.nodes, ∀ m ∈ a.node? r, l.pos ≤ m.pos ∧ m.stop ≤ l.stop

/-- The body of a class or interface opens in it, behind what stands before the members, and before
the members. -/
def HasBrace (a : Arena) (tokens : List SourceToken) (n : Node) (d : Data .classLike) : Prop :=
  ∃ t ∈ tokens, t.kind = .openBraceToken ∧ a.behind n.pos (d.before n.kind .members) ≤ t.start ∧
    t.stop ≤ n.stop ∧ (∀ l ∈ d.get .typeParameters, l.stop ≤ t.start) ∧
    ∀ j ∈ d.refs .members, ∀ m ∈ a.nodes[j]?, t.stop ≤ m.pos

/-- The signature of a method opens behind its name and before what follows. The name of a
constructor is a word of the text behind the modifiers. -/
def HasSignature (a : Arena) (tokens : List SourceToken) (n : Node) (d : Data .function) : Prop :=
  ∃ t ∈ tokens, t.kind = Converter.signatureBracket d ∧
    a.behind n.pos (d.refs .name) ≤ t.start ∧ t.stop ≤ n.stop ∧
    (n.kind = .constructor →
      ∃ word ∈ tokens, a.behind n.pos (d.refs .modifiers) ≤ word.start ∧ word.stop ≤ t.start) ∧
    (∀ l ∈ d.get .typeParameters, t.stop ≤ l.pos) ∧
    ∀ f ∈ [Field.parameters, Field.body], ∀ j ∈ d.refs f, ∀ m ∈ a.nodes[j]?, t.stop ≤ m.pos

/-- **A node agrees with the tokens of its text.** -/
@[mk_iff]
structure IsLaidOut (a : Arena) (tokens : List SourceToken) (i : NodeId) (n : Node) : Prop where
  /-- It does not end before it starts. -/
  pos_le_stop : n.pos ≤ n.stop
  /-- Offsets have four bytes. -/
  stop_lt : n.stop < 0x100000000
  /-- It is made of tokens, unless it may be empty. -/
  isBounded : n.isBlank = false → n.kind ≠ .sourceFile → n.IsBounded tokens
  /-- Its children lie in it. -/
  children_within : ∀ j ∈ a.childrenOf n, ∀ m ∈ a.nodes[j]?, n.pos ≤ m.pos ∧ m.stop ≤ n.stop
  /-- Its children stand one after the other. -/
  children_ordered : (a.childrenOf n).Pairwise a.Precedes
  /-- None of its children is a file. -/
  children_not_file : ∀ j ∈ a.childrenOf n, a.kind? (some j) ≠ some .sourceFile
  /-- Its lists in angle brackets stand behind the children before them. -/
  angles : ∀ x ∈ a.angledLists n, a.InAngles tokens (a.behind n.pos x.1) n.stop x.2
  /-- A declaration does not end with its modifiers. -/
  modifiers_lt : ∀ r ∈ ((a.modifiersOf (some i)).map NodeList.nodes).getD [], ∀ m ∈ a.node? r,
    m.stop < n.stop
  /-- The members of a class or interface stand in braces. -/
  brace : n.kind.hasMembers = true → ∀ d ∈ a.data? .classLike n, a.HasBrace tokens n d
  /-- A method has a signature. -/
  signature : n.kind.hasSignature = true → ∀ d ∈ a.data? .function n, a.HasSignature tokens n d
  /-- The question mark of a parameter stands behind its name. -/
  question : ∀ d ∈ a.data? .parameter n, d.get .questionToken = true → ∃ t ∈ tokens,
    t.kind = .questionToken ∧ a.behind n.pos (d.refs .name) ≤ t.start ∧ t.stop ≤ n.stop
  /-- The keyword of a property of a keyword is written out. -/
  keyword : ∀ d ∈ a.data? .metaProperty n,
    n.pos + (d.get .keywordToken).operatorText.utf8ByteSize ≤ n.stop

section

variable (a : Arena) (tokens : List SourceToken)

instance (j k : NodeId) : Decidable (a.Precedes j k) :=
  inferInstanceAs (Decidable (∀ m ∈ _, ∀ m' ∈ _, _))

instance (lo hi : Nat) (l : NodeList) : Decidable (a.InAngles tokens lo hi l) :=
  decidable_of_iff' _ (inAngles_iff a tokens lo hi l)

instance (n : Node) (d : Data .classLike) : Decidable (a.HasBrace tokens n d) :=
  inferInstanceAs (Decidable (∃ t ∈ tokens, _))

instance (n : Node) (d : Data .function) : Decidable (a.HasSignature tokens n d) :=
  inferInstanceAs (Decidable (∃ t ∈ tokens, _))

instance (i : NodeId) (n : Node) : Decidable (a.IsLaidOut tokens i n) :=
  decidable_of_iff' _ (isLaidOut_iff a tokens i n)

end

/-- **A node and all nodes below it agree with the text.** -/
def IsTidy (a : Arena) (tokens : List SourceToken) (i : NodeId) : Prop :=
  ∀ j, Relation.ReflTransGen a.IsChild i j → ∀ n ∈ a.nodes[j]?, a.IsLaidOut tokens j n

/-! ### What is left outside -/

/-- A declaration is exported: its first modifier says so. -/
def isExported (a : Arena) (modifiers : Option NodeList) : Bool :=
  a.kind? (NodeList.nodesOf modifiers).head?.join == some .exportKeyword

/-- **A rule leaves a part of a node outside of what the node becomes.** A parameter with decorators
becomes its name, unless it has modifiers, takes the rest of the arguments or has a default. A
class or interface with decorators starts behind the words of its export. So does a type without a
name, and what it declares starts before them. -/
def slips (a : Arena) (n : Node) : Bool :=
  match n.kind with
  | .parameter => (a.data? .parameter n).any fun d =>
    !(NodeList.nodesOf (d.get .decorators)).isEmpty &&
      (NodeList.nodesOf (d.get .modifiers)).isEmpty && !d.get .dotDotDotToken &&
      (a.node? (d.get .initializer)).isNone
  | .classDeclaration | .interfaceDeclaration => (a.data? .classLike n).any fun d =>
    a.isExported (d.get .modifiers) && !(NodeList.nodesOf (d.get .decorators)).isEmpty
  | .typeAliasDeclaration => (a.data? .typeAlias n).any fun d =>
    a.isExported (d.get .modifiers) && (a.node? (d.get .name)).all Node.isBlank
  | _ => false

/-- A part is left outside at a node or below it. -/
def HasSlip (a : Arena) (i : NodeId) : Prop :=
  ∃ j, Relation.ReflTransGen a.IsChild i j ∧ ∃ n ∈ a.nodes[j]?, a.slips n = true

/-! ### Lying within bounds -/

/-- The node in a place agrees with the text and leaves nothing outside, and lies within some
bounds; where it may be empty, nothing is said about its start. -/
structure FitsIn (a : Arena) (tokens : List SourceToken) (lo hi : Nat) (r : NodeRef) : Prop where
  isTidy : ∀ i ∈ r, a.IsTidy tokens i
  noSlip : ∀ i ∈ r, ¬ a.HasSlip i
  not_file : a.kind? r ≠ some .sourceFile
  le_pos : ∀ n ∈ a.node? r, n.isBlank = false → lo ≤ n.pos
  stop_le : ∀ n ∈ a.node? r, n.stop ≤ hi

/-- The node in a place does not start before a bound, also where it may be empty. -/
def StartsFrom (a : Arena) (lo : Nat) (r : NodeRef) : Prop :=
  ∀ n ∈ a.node? r, lo ≤ n.pos

/-- A list in angle brackets lies within some bounds, brackets included. -/
structure ListFits (a : Arena) (tokens : List SourceToken) (lo hi : Nat) (l : NodeList) : Prop where
  nodes : ∀ r ∈ l.nodes, a.FitsIn tokens lo hi r
  angles : a.InAngles tokens lo hi l

/-- What stands in a field lies within some bounds. -/
structure FieldFits (a : Arena) (tokens : List SourceToken) (lo hi : Nat) {p : Pool} (d : Data p)
    (f : Field) : Prop where
  nodes : ∀ j ∈ d.refs f, a.FitsIn tokens lo hi (some j)
  angles : f.isAngled = true → ∀ l ∈ d.listAt f, a.InAngles tokens lo hi l

variable {a : Arena} {tokens : List SourceToken} {lo hi pos : Nat}

/-- A place is not before the last of some places if it is before none of them. -/
theorem foldl_max_le_iff {xs : List Nat} {x : Nat} :
    xs.foldl max pos ≤ x ↔ pos ≤ x ∧ ∀ y ∈ xs, y ≤ x := by
  induction xs generalizing pos with
  | nil => simp
  | cons y ys ih => rw [List.foldl_cons, ih, Nat.max_le, List.forall_mem_cons, and_assoc]

/-- A place is behind some nodes if each of them ends before it. -/
theorem behind_le_iff {js : List NodeId} {x : Nat} :
    a.behind pos js ≤ x ↔ pos ≤ x ∧ ∀ j ∈ js, ∀ m ∈ a.nodes[j]?, m.stop ≤ x := by
  rw [behind, foldl_max_le_iff, List.forall_mem_map]
  refine and_congr_right fun _ => forall₂_congr fun j _ => ?_
  cases a.nodes[j]? with
  | none => simp
  | some m => simp

/-- A node that is one of some nodes ends before every place behind them. -/
theorem stop_le_of_behind {js : List NodeId} {r : NodeRef} {x z : Nat}
    (hx : a.behind pos js ≤ x) (hz : z ≤ x) (hr : ∀ j ∈ r, j ∈ js) :
    ((a.node? r).map Node.stop).getD z ≤ x := by
  cases hm : a.node? r with
  | none => exact hz
  | some m =>
    obtain ⟨j, hj, hnode⟩ := Option.bind_eq_some_iff.mp hm
    exact (behind_le_iff.mp hx).2 j (hr j hj) m hnode

namespace FitsIn

variable {r : NodeRef}

theorem none : a.FitsIn tokens lo hi none where
  isTidy _ hi := absurd hi (Option.not_mem_none _)
  noSlip _ hi := absurd hi (Option.not_mem_none _)
  not_file := nofun
  le_pos _ hn := absurd hn (Option.not_mem_none _)
  stop_le _ hn := absurd hn (Option.not_mem_none _)

/-- A node that lies within bounds lies within others if they are wider. -/
theorem mono {lo' hi' : Nat} (h : a.FitsIn tokens lo hi r) (hlo : lo' ≤ lo) (hhi : hi ≤ hi') :
    a.FitsIn tokens lo' hi' r where
  isTidy := h.isTidy
  noSlip := h.noSlip
  not_file := h.not_file
  le_pos n hn hblank := Nat.le_trans hlo (h.le_pos n hn hblank)
  stop_le n hn := Nat.le_trans (h.stop_le n hn) hhi

/-- A node lies within its own range. -/
theorem self (h : a.FitsIn tokens lo hi r) {n : Node} (hn : a.node? r = some n) :
    a.FitsIn tokens n.pos n.stop r where
  isTidy := h.isTidy
  noSlip := h.noSlip
  not_file := h.not_file
  le_pos _ hm _ := Option.some.inj (hn.symm.trans hm) ▸ Nat.le_refl n.pos
  stop_le _ hm := Option.some.inj (hn.symm.trans hm) ▸ Nat.le_refl n.stop

end FitsIn

/-- The first node of a list. -/
theorem fitsIn_first {l : Option NodeList}
    (h : ∀ r ∈ NodeList.nodesOf l, a.FitsIn tokens lo hi r) :
    a.FitsIn tokens lo hi (l.bind NodeList.first) := by
  cases l with
  | none => exact .none
  | some l =>
    rw [Option.bind_some, NodeList.first]
    cases hr : l.nodes.head? with
    | none => exact .none
    | some r => exact h r (List.mem_of_mem_head? hr)

namespace FieldFits

variable {p : Pool} {d : Data p} {f : Field}

/-- The node in a field. -/
theorem node (h : a.FieldFits tokens lo hi d f) : a.FitsIn tokens lo hi (d.nodeAt f) := by
  cases hr : d.nodeAt f with
  | none => exact .none
  | some j => exact h.nodes j (Record.mem_refs_of_nodeAt hr)

/-- The nodes in the list in a field. -/
theorem list (h : a.FieldFits tokens lo hi d f) :
    ∀ r ∈ NodeList.nodesOf (d.listAt f), a.FitsIn tokens lo hi r := by
  intro r hr
  cases r with
  | none => exact .none
  | some j => exact h.nodes j (Record.mem_refs_of_mem_listAt hr)

/-- The list in angle brackets in a field. -/
theorem angled (h : a.FieldFits tokens lo hi d f) (hangled : f.isAngled = true) :
    ∀ l ∈ d.listAt f, a.ListFits tokens lo hi l := by
  intro l hl
  refine ⟨fun r hr => h.list r ?_, h.angles hangled l hl⟩
  rw [Option.mem_def.mp hl]
  exact hr

/-- A field without brackets lies behind a place if its nodes do. -/
theorem raise {lo' : Nat} (h : a.FieldFits tokens lo hi d f) (hangled : f.isAngled = false)
    (hlo : ∀ j ∈ d.refs f, ∀ m ∈ a.nodes[j]?, lo' ≤ m.pos) : a.FieldFits tokens lo' hi d f where
  nodes j hj := { h.nodes j hj with le_pos := fun m hm _ => hlo j hj m hm }
  angles hf := absurd (hangled.symm.trans hf) Bool.false_ne_true

end FieldFits

/-- A list in angle brackets lies behind a place if a bracket in front of it does. -/
theorem ListFits.raise {lo' : Nat} {l : NodeList} (h : a.ListFits tokens lo hi l) {t : SourceToken}
    (ht : t ∈ tokens) (hkind : t.kind = .lessThanToken) (hlo : lo' ≤ t.start)
    (hfull : t.start ≤ t.stop) (hpos : t.stop ≤ l.pos) : a.ListFits tokens lo' hi l where
  nodes r hr := { h.nodes r hr with
    le_pos := fun m hm _ => by
      have hinside := h.angles.inside r hr m hm
      omega }
  angles := { h.angles with opening := ⟨t, ht, hkind, hlo, hpos⟩ }

/-! ### A node in its place -/

/-- A node of the arena agrees with the text and leaves nothing outside, and so do all nodes below
it. -/
structure Stands (a : Arena) (tokens : List SourceToken) (i : NodeId) (n : Node) : Prop where
  node : a.nodes[i]? = some n
  isTidy : a.IsTidy tokens i
  noSlip : ¬ a.HasSlip i

theorem FitsIn.stands {r : NodeRef} {i : NodeId} {n : Node} (h : a.FitsIn tokens lo hi r)
    (hr : r = some i) (hn : a.node? (some i) = some n) : a.Stands tokens i n :=
  ⟨hn, h.isTidy i hr, h.noSlip i hr⟩

theorem Stands.isLaidOut {i : NodeId} {n : Node} (h : a.Stands tokens i n) :
    a.IsLaidOut tokens i n :=
  h.isTidy i .refl n h.node

namespace FitsIn

variable {r : NodeRef} {m : Node}

/-- A file does not lie within bounds. -/
theorem kind_ne (h : a.FitsIn tokens lo hi r) (hm : a.node? r = some m) : m.kind ≠ .sourceFile := by
  intro hfile
  refine h.not_file ?_
  rw [kind?, hm, Option.map_some, hfile]

/-- A node within bounds starts at a token, unless it may be empty. -/
theorem exists_start (h : a.FitsIn tokens lo hi r) (hm : a.node? r = some m)
    (hblank : m.isBlank = false) : ∃ t ∈ tokens, t.start = m.pos := by
  obtain ⟨i, hr, hnode⟩ := Option.bind_eq_some_iff.mp hm
  exact ((h.stands hr hnode).isLaidOut.isBounded hblank (h.kind_ne hm)).starts

end FitsIn

namespace Stands

variable {i j : NodeId} {n m : Node} {p : Pool} {d : Data p} {f g : Field}

theorem slips_eq_false (h : a.Stands tokens i n) : a.slips n = false := by
  rw [Bool.eq_false_iff]
  exact fun hslips => h.noSlip ⟨i, .refl, n, h.node, hslips⟩

/-- A child stands in its place, too. -/
theorem isChild (h : a.Stands tokens i n) (hj : j ∈ a.childrenOf n) : a.IsChild i j := by
  rw [IsChild, children_of_node h.node]
  exact hj

/-- **A child lies within its node.** -/
theorem fitsIn (h : a.Stands tokens i n) (hj : j ∈ a.childrenOf n) :
    a.FitsIn tokens n.pos n.stop (some j) where
  isTidy k hk := by
    cases hk
    exact fun l hl => h.isTidy l (.head (h.isChild hj) hl)
  noSlip k hk := by
    cases hk
    exact fun ⟨l, hl, hslips⟩ => h.noSlip ⟨l, .head (h.isChild hj) hl, hslips⟩
  not_file := h.isLaidOut.children_not_file j hj
  le_pos m hm _ := (h.isLaidOut.children_within j hj m hm).1
  stop_le m hm := (h.isLaidOut.children_within j hj m hm).2

/-- A list in angle brackets stands in its node, behind the children before it. -/
theorem inAngles (h : a.Stands tokens i n) (hd : a.data? p n = some d)
    (hf : f ∈ p.childFields n.kind) (hangled : f.isAngled = true) {l : NodeList}
    (hl : d.listAt f = some l) :
    a.InAngles tokens (a.behind n.pos (d.before n.kind f)) n.stop l := by
  refine h.isLaidOut.angles (d.before n.kind f, l) ?_
  rw [angledLists, pool_of_data? hd]
  dsimp only
  rw [hd, Option.map_some, Option.getD_some, Data.angledLists, List.mem_filterMap]
  exact ⟨f, List.mem_filter.mpr ⟨hf, hangled⟩, by rw [hl]; rfl⟩

/-- The fields before a field, and those from it on. -/
theorem exists_childFields_eq (hf : f ∈ p.childFields n.kind) :
    ∃ fs, p.childFields n.kind = (p.childFields n.kind).takeWhile (· != f) ++ f :: fs := by
  have hsplit := List.takeWhile_append_dropWhile (p := (· != f)) (l := p.childFields n.kind)
  cases hrest : (p.childFields n.kind).dropWhile (· != f) with
  | nil =>
    have hall := List.dropWhile_eq_nil_iff.mp hrest f hf
    simp at hall
  | cons g fs =>
    have hhead : (g != f) = false := by
      have hne : (p.childFields n.kind).dropWhile (· != f) ≠ [] := by simp [hrest]
      have hfirst := List.head_dropWhile_not (· != f) hne
      simpa [hrest] using hfirst
    obtain rfl : g = f := by simpa using hhead
    exact ⟨fs, by rw [← hrest, hsplit]⟩

/-- The children before a field end before those in it start. -/
theorem behind_le_pos (h : a.Stands tokens i n) (hd : a.data? p n = some d)
    (hf : f ∈ p.childFields n.kind) (hj : j ∈ d.refs f) (hm : a.nodes[j]? = some m) :
    a.behind n.pos (d.before n.kind f) ≤ m.pos := by
  have hchild := mem_childrenOf_of_mem_refs hd hf hj
  refine behind_le_iff.mpr ⟨(h.isLaidOut.children_within j hchild m hm).1, fun k hk m' hm' => ?_⟩
  obtain ⟨fs, hfs⟩ := exists_childFields_eq hf
  have hordered := h.isLaidOut.children_ordered
  -- The children before the field and those in it are parts of one list, which is in order.
  rw [childrenOf_of_data? hd, Data.children, hfs, List.flatMap_append, List.flatMap_cons,
    List.pairwise_append] at hordered
  exact hordered.2.2 k hk j (List.mem_append_left _ hj) m' hm' m hm

/-- The children in a field stand before those in the fields behind it. -/
theorem mem_before (hp : p ≠ .typeAssertion ∧ p ≠ .loop ∧ g ∈ p.layout.takeWhile (· != f))
    (hj : j ∈ d.refs g) : j ∈ d.before n.kind f := by
  refine List.mem_flatMap.mpr ⟨g, ?_, hj⟩
  rw [Pool.childFields, if_neg fun h => hp.1 h.1, if_neg fun h => hp.2.1 h.1]
  exact hp.2.2

/-- A child lies within its node, and does not end before it starts. -/
theorem within (h : a.Stands tokens i n) (hd : a.data? p n = some d)
    (hf : f ∈ p.childFields n.kind) (hj : j ∈ d.refs f) (hm : a.nodes[j]? = some m) :
    n.pos ≤ m.pos ∧ m.pos ≤ m.stop ∧ m.stop ≤ n.stop := by
  have hchild := mem_childrenOf_of_mem_refs hd hf hj
  have hbounds := h.isLaidOut.children_within j hchild m hm
  exact ⟨hbounds.1, ((h.fitsIn hchild).stands rfl hm).isLaidOut.pos_le_stop, hbounds.2⟩

/-- The node in a field does not start before its own node. -/
theorem startsFrom (h : a.Stands tokens i n) (hd : a.data? p n = some d)
    (hf : f ∈ p.childFields n.kind) : a.StartsFrom n.pos (d.nodeAt f) := by
  intro m hm
  obtain ⟨j, hj, hnode⟩ := Option.bind_eq_some_iff.mp hm
  exact (h.within hd hf (Record.mem_refs_of_nodeAt hj) hnode).1

/-- The node in a field ends before the place behind it. -/
theorem fitsIn_behind (h : a.Stands tokens i n) (hd : a.data? p n = some d)
    (hf : f ∈ p.childFields n.kind) :
    a.FitsIn tokens n.pos (a.behind n.pos (d.refs f)) (d.nodeAt f) := by
  cases hr : d.nodeAt f with
  | none => exact .none
  | some j =>
    have hj := Record.mem_refs_of_nodeAt hr
    exact { h.fitsIn (mem_childrenOf_of_mem_refs hd hf hj) with
      stop_le := (behind_le_iff.mp (Nat.le_refl _)).2 j hj }

/-- A child does not end before its node starts. -/
theorem le_stop_of_refs (h : a.Stands tokens i n) (hd : a.data? p n = some d)
    (hf : f ∈ p.childFields n.kind) {r : NodeRef} (hr : ∀ j ∈ r, j ∈ d.refs f) :
    n.pos ≤ ((a.node? r).map Node.stop).getD n.pos := by
  cases hm : a.node? r with
  | none => exact Nat.le_refl _
  | some m =>
    obtain ⟨j, hj, hnode⟩ := Option.bind_eq_some_iff.mp hm
    obtain ⟨hpos, hle, -⟩ := h.within hd hf (hr j hj) hnode
    exact Nat.le_trans hpos hle

theorem behind_le_stop (h : a.Stands tokens i n) (hd : a.data? p n = some d)
    (hf : f ∈ p.childFields n.kind) : a.behind n.pos (d.refs f) ≤ n.stop :=
  behind_le_iff.mpr ⟨h.isLaidOut.pos_le_stop, fun _ hj _ hm => (h.within hd hf hj hm).2.2⟩

/-- Behind all children before a field is behind those in each field before it. -/
theorem behind_le_of_before {x : Nat}
    (hp : p ≠ .typeAssertion ∧ p ≠ .loop ∧ g ∈ p.layout.takeWhile (· != f))
    (hx : a.behind n.pos (d.before n.kind f) ≤ x) : a.behind n.pos (d.refs g) ≤ x := by
  obtain ⟨hpos, hbehind⟩ := behind_le_iff.mp hx
  exact behind_le_iff.mpr ⟨hpos, fun j hj => hbehind j (mem_before hp hj)⟩

/-- **A field lies behind a place if every token behind the children before the field does.** -/
theorem fieldFits_of_behind (h : a.Stands tokens i n) (hd : a.data? p n = some d)
    (hf : f ∈ p.childFields n.kind)
    (hlo : ∀ t ∈ tokens, a.behind n.pos (d.before n.kind f) ≤ t.start → lo ≤ t.start) :
    a.FieldFits tokens lo n.stop d f where
  nodes j hj := by
    have hfits := h.fitsIn (mem_childrenOf_of_mem_refs hd hf hj)
    refine { hfits with le_pos := fun m hm hblank => ?_ }
    -- A node starts with a token, so it is enough to know about tokens.
    obtain ⟨t, ht, hstart⟩ := hfits.exists_start hm hblank
    rw [← hstart]
    refine hlo t ht ?_
    rw [hstart]
    exact h.behind_le_pos hd hf hj hm
  angles hangled l hl := by
    have hangles := h.inAngles hd hf hangled hl
    obtain ⟨t, ht, hkind, hstart, hstop⟩ := hangles.opening
    exact { hangles with opening := ⟨t, ht, hkind, hlo t ht hstart, hstop⟩ }

/-- **A field lies in its node.** -/
theorem fieldFits (h : a.Stands tokens i n) (hd : a.data? p n = some d)
    (hf : f ∈ p.childFields n.kind) : a.FieldFits tokens n.pos n.stop d f :=
  h.fieldFits_of_behind hd hf fun _ _ ht => (behind_le_iff.mp ht).1

/-- A field of the layout lies in its node. -/
theorem fits (h : a.Stands tokens i n) (hd : a.data? p n = some d) (f : Field)
    [hf : f.In p.layout] (hp : p ≠ .loop) : a.FieldFits tokens n.pos n.stop d f :=
  h.fieldFits hd (Pool.mem_childFields hp hf.mem n.kind)

end Stands

/-! ### Nodes further down -/

/-- Brackets within bounds are within wider ones. -/
theorem InAngles.mono {lo' hi' : Nat} {l : NodeList} (h : a.InAngles tokens lo hi l)
    (hlo : lo' ≤ lo) (hhi : hi ≤ hi') : a.InAngles tokens lo' hi' l where
  pos_le_stop := h.pos_le_stop
  opening := by
    obtain ⟨t, ht, hkind, hstart, hstop⟩ := h.opening
    exact ⟨t, ht, hkind, Nat.le_trans hlo hstart, hstop⟩
  closing := by
    obtain ⟨t, ht, hkind, hstart, hstop⟩ := h.closing
    exact ⟨t, ht, hkind, hstart, Nat.le_trans hstop hhi⟩
  inside := h.inside

/-- A field that lies within bounds lies within wider ones. -/
theorem FieldFits.mono {lo' hi' : Nat} {p : Pool} {d : Data p} {f : Field}
    (h : a.FieldFits tokens lo hi d f) (hlo : lo' ≤ lo) (hhi : hi ≤ hi') :
    a.FieldFits tokens lo' hi' d f where
  nodes j hj := (h.nodes j hj).mono hlo hhi
  angles hf l hl := (h.angles hf l hl).mono hlo hhi

/-- A node with parts is not blank, apart from the attributes of a tag. -/
theorem isBlank_of_data? {p : Pool} {d : Data p} {n : Node} (hd : a.data? p n = some d)
    (hp : p ≠ .jsxAttributes) : n.isBlank = false := by
  rw [Node.isBlank, pool_of_data? hd, Bool.and_eq_false_iff]
  refine .inr ?_
  rw [Bool.or_eq_false_iff, beq_eq_false_iff_ne, beq_eq_false_iff_ne]
  exact ⟨Option.some_ne_none p, fun heq => hp (Option.some.inj heq)⟩

/-- **The fields of a node lie within the bounds of the node.** -/
theorem FitsIn.fits {r : NodeRef} {n : Node} {p : Pool} {d : Data p}
    (h : a.FitsIn tokens lo hi r) (hn : a.node? r = some n) (hd : a.data? p n = some d)
    (f : Field) [hf : f.In p.layout] (hp : p ≠ .loop ∧ p ≠ .jsxAttributes) :
    a.FieldFits tokens lo hi d f := by
  obtain ⟨i, hr, hi⟩ := Option.bind_eq_some_iff.mp hn
  exact ((h.stands hr hi).fits hd f hp.1).mono (h.le_pos n hn (isBlank_of_data? hd hp.2))
    (h.stop_le n hn)

end Arena

end ScriptTree
