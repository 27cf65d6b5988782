import Mathlib.Data.List.ReduceOption
import ScriptTree.Convert.Expression
import ScriptTree.Proofs.Arena.Trees
import ScriptTree.Proofs.Arena.TypeSlots

/-!
# Chains of commas

A chain of commas grows to the left, and one rule converts all of it. The rule goes from the first
comma on to what stands between the commas of the chain, and not to the commas inside of it: this is
the one place where what a conversion goes down to are not the children of a node
(`ScriptTree.Arena.Visits`). It still lies below the node (`ScriptTree.Arena.Visits.below`).

The operands that are found are those of the whole chain, as they were written
(`ScriptTree.Arena.exists_commaChain`). A chain that goes round in circles has none, but where there
is no cycle they are found (`ScriptTree.Arena.exists_commaOperands`), and in a tree each of them is
found once (`ScriptTree.Arena.IsTree.nodup_operands`).
-/

namespace ScriptTree

namespace Arena

variable {a : Arena} {root r : NodeRef} {i j k : NodeId} {d e : Data .binary} {fuel : Nat}
  {operands : List NodeRef}

/-! ### Comma expressions -/

/-- **An expression with a comma for its operator**, and its parts. -/
def IsComma (a : Arena) (i : NodeId) (d : Data .binary) : Prop :=
  ∃ n, a.nodes[i]? = some n ∧ n.kind = .binaryExpression ∧ a.data? .binary n = some d ∧
    d.get .operatorToken = .commaToken

/-- There is a comma expression in a place. -/
def HoldsComma (a : Arena) (r : NodeRef) : Prop := ∃ j e, r = some j ∧ a.IsComma j e

/-- Of a node with parts of another sort nothing is said about commas. -/
theorem not_isComma_of_data? {n : Node} {p : Pool} {parts : Data p} (hn : a.nodes[i]? = some n)
    (hparts : a.data? p n = some parts) (hp : p ≠ .binary) (d : Data .binary) :
    ¬ a.IsComma i d := by
  rintro ⟨m, hm, -, hd, -⟩
  obtain rfl : n = m := Option.some.inj (hn.symm.trans hm)
  exact hp (Option.some.inj ((pool_of_data? hparts).symm.trans (pool_of_data? hd)))

namespace IsComma

/-- The parts of a node are those that it has. -/
theorem parts_eq (h : a.IsComma i d) (h' : a.IsComma i e) : d = e := by
  obtain ⟨n, hn, -, hd, -⟩ := h
  obtain ⟨m, hm, -, he, -⟩ := h'
  obtain rfl : n = m := Option.some.inj (hn.symm.trans hm)
  exact Option.some.inj (hd.symm.trans he)

theorem lt_size (h : a.IsComma i d) : i < a.nodes.size := by
  obtain ⟨n, hn, -⟩ := h
  exact (Array.getElem?_eq_some_iff.mp hn).1

/-- A child stands in one of the two fields for operands. -/
theorem isChild (h : a.IsComma i d) (hj : d.get .left = some j ∨ d.get .right = some j) :
    a.IsChild i j := by
  obtain ⟨n, hn, -, hd, -⟩ := h
  have hfield (f : Field) (hf : f ∈ Pool.binary.layout) : f ∈ Pool.binary.childFields n.kind :=
    Pool.mem_childFields (by decide) hf n.kind
  rcases hj with hj | hj
  · exact isChild_of_nodeAt hn hd (hfield .left (by decide)) hj
  · exact isChild_of_nodeAt hn hd (hfield .right (by decide)) hj

/-- The two operands are not the same node, if the expression lists no node twice. -/
theorem left_ne_right (h : a.IsComma i d) (honce : (a.children (some i)).Nodup)
    (hleft : d.get .left = some j) : d.get .right ≠ some j := by
  intro hright
  obtain ⟨n, hn, -, hd, -⟩ := h
  rw [children_of_node hn, childrenOf_of_data? hd] at honce
  have hmem {f : Field} (hj : d.nodeAt f = some j) : j ∈ d.refs f := by
    rw [d.refs_eq, hj]
    exact List.mem_append_left _ List.mem_cons_self
  have hfield (f : Field) (hf : f ∈ Pool.binary.layout) : f ∈ Pool.binary.childFields n.kind :=
    Pool.mem_childFields (by decide) hf n.kind
  have heq := eq_of_mem_refs honce (hfield .left (by decide)) (hfield .right (by decide))
    (hmem hleft) (hmem hright)
  cases heq

end IsComma

/-! ### Operands -/

theorem commaOperands_of_isComma (h : a.IsComma j e) (fuel : Nat) :
    a.commaOperands (fuel + 1) (some j) =
      (a.commaOperands fuel (e.get .left)).map (e.get .right :: ·) := by
  obtain ⟨n, hn, hk, hd, hoperator⟩ := h
  simp only [commaOperands, node?_some, hn, hd, hk, hoperator, and_self, if_true]

theorem commaOperands_of_not_holdsComma (h : ¬ a.HoldsComma r) (fuel : Nat) :
    a.commaOperands (fuel + 1) r = some [r] := by
  rw [commaOperands]
  split
  · rfl
  · next n hn =>
    split
    · rfl
    · next d hd =>
      obtain ⟨j, rfl, hj⟩ := Option.bind_eq_some_iff.mp hn
      exact if_neg fun hcomma => h ⟨j, d, rfl, n, hj, hcomma.1, hd, hcomma.2⟩

/-- The operands that are found in a place: what stands there, or the one to the right of a comma
and those to the left of it. -/
theorem commaOperands_eq_some (h : a.commaOperands (fuel + 1) r = some operands) :
    ¬ a.HoldsComma r ∧ operands = [r] ∨ ∃ j e others, r = some j ∧ a.IsComma j e ∧
      a.commaOperands fuel (e.get .left) = some others ∧ operands = e.get .right :: others := by
  by_cases hr : a.HoldsComma r
  · obtain ⟨j, e, rfl, he⟩ := hr
    rw [commaOperands_of_isComma he] at h
    obtain ⟨others, hothers, rfl⟩ := Option.map_eq_some_iff.mp h
    exact .inr ⟨j, e, others, rfl, he, hothers, rfl⟩
  · rw [commaOperands_of_not_holdsComma hr] at h
    exact .inl ⟨hr, (Option.some.inj h).symm⟩

/-- More fuel finds the same operands. -/
theorem commaOperands_of_le {m n : Nat} (h : a.commaOperands m r = some operands) (hle : m ≤ n) :
    a.commaOperands n r = some operands := by
  induction m generalizing n r operands with
  | zero => cases h
  | succ m ih =>
    obtain ⟨n, rfl⟩ := Nat.exists_eq_add_one.mpr (Nat.zero_lt_of_lt hle)
    obtain ⟨hr, rfl⟩ | ⟨j, e, others, rfl, he, hothers, rfl⟩ := commaOperands_eq_some h
    · exact commaOperands_of_not_holdsComma hr n
    · rw [commaOperands_of_isComma he, ih hothers (Nat.le_of_succ_le_succ hle), Option.map_some]

/-- **The operands of a chain are found** with fuel for all nodes, if there is no cycle below. -/
theorem exists_commaOperands (h : a.AcyclicFrom r) :
    ∃ operands, a.commaOperands (a.nodes.size + 1) r = some operands := by
  have hlow {fuel : Nat} {i : NodeId} {d : Data .binary} (hi : a.AcyclicFrom (some i))
      (hcomma : a.IsComma i d) (hheight : a.height i < fuel) :
      ∃ operands, a.commaOperands (fuel + 1) (some i) = some operands := by
    induction fuel generalizing i d with
    | zero => exact absurd hheight (Nat.not_lt_zero _)
    | succ fuel ih =>
      rw [commaOperands_of_isComma hcomma]
      by_cases hleft : a.HoldsComma (d.get .left)
      · obtain ⟨j, e, hj, he⟩ := hleft
        have hchild := hcomma.isChild (.inl hj)
        have hlt := height_lt_of_isChild (hi j ⟨i, rfl, .single hchild⟩) hchild he.lt_size
        obtain ⟨others, hothers⟩ := ih (hi.below (.single hchild)) he
          (hlt.trans_le (Nat.le_of_lt_succ hheight))
        exact ⟨_, by rw [hj, hothers, Option.map_some]⟩
      · exact ⟨_, by rw [commaOperands_of_not_holdsComma hleft, Option.map_some]⟩
  by_cases hr : a.HoldsComma r
  · obtain ⟨i, d, rfl, hi⟩ := hr
    exact hlow h hi (height_lt_size (h i ⟨i, rfl, .refl⟩) hi.lt_size)
  · exact ⟨[r], commaOperands_of_not_holdsComma hr _⟩

/-- An operand is what stands in the place, or lies below it. -/
theorem below_of_mem_commaOperands (h : a.commaOperands fuel r = some operands)
    (hk : some k ∈ operands) : ∃ j, r = some j ∧ Relation.ReflTransGen a.IsChild j k := by
  induction fuel generalizing r operands with
  | zero => cases h
  | succ fuel ih =>
    obtain ⟨-, rfl⟩ | ⟨j, e, others, rfl, he, hothers, rfl⟩ := commaOperands_eq_some h
    · exact ⟨k, (List.mem_singleton.mp hk).symm, .refl⟩
    · refine ⟨j, rfl, ?_⟩
      rcases List.mem_cons.mp hk with hright | hk
      · exact .single (he.isChild (.inr hright.symm))
      · obtain ⟨l, hl, hbelow⟩ := ih hothers hk
        exact .head (he.isChild (.inl hl)) hbelow

/-! ### What a rule goes down to -/

/-- **What the conversion of a node goes down to**: from a comma on the operands of its chain, and
from any other node on the children. -/
inductive Visits (a : Arena) (i j : NodeId) : Prop
  | operand {d : Data .binary} {others : List NodeRef} (hi : a.IsComma i d)
    (hothers : a.commaOperands (a.nodes.size + 1) (d.get .left) = some others)
    (hj : some j ∈ d.get .right :: others)
  | child (hi : ∀ d, ¬ a.IsComma i d) (hj : a.IsChild i j)

/-- **A conversion only goes down.** -/
theorem Visits.below (h : a.Visits i j) : Relation.TransGen a.IsChild i j := by
  cases h with
  | operand hi hothers hj =>
    rcases List.mem_cons.mp hj with hright | hj
    · exact .single (hi.isChild (.inr hright.symm))
    · obtain ⟨l, hl, hbelow⟩ := below_of_mem_commaOperands hothers hj
      exact .head' (hi.isChild (.inl hl)) hbelow
  | child _ hj => exact .single hj

/-- Only the conversion of a node of the arena goes down. -/
theorem Visits.lt_size (h : a.Visits i j) : i < a.nodes.size := by
  cases h with
  | operand hi => exact hi.lt_size
  | child _ hj => exact lt_size_of_isChild hj

/-- What holds of the children of a node if it holds of the node, holds of what the conversion goes
down to. -/
theorem Visits.induction {P : NodeId → Prop} (hchild : ∀ {i j}, P i → a.IsChild i j → P j)
    (hi : P i) (h : a.Visits i j) : P j := by
  have hbelow := h.below
  clear h
  induction hbelow with
  | single hj => exact hchild hi hj
  | tail _ hj ih => exact hchild ih hj

/-! ### Whole chains -/

/-- **A whole chain of commas**: the commas inside of it, each of them to the left of the one
before, and the operands of all of them, as they were written. It ends where no comma stands to the
left. -/
inductive CommaChain (a : Arena) : NodeId → List NodeId → List NodeRef → Prop
  | last {i : NodeId} {d : Data .binary} (hi : a.IsComma i d)
    (hleft : ¬ a.HoldsComma (d.get .left)) : CommaChain a i [] [d.get .left, d.get .right]
  | link {i j : NodeId} {d : Data .binary} {inner : List NodeId} {operands : List NodeRef}
    (hi : a.IsComma i d) (hleft : d.get .left = some j) (h : CommaChain a j inner operands) :
    CommaChain a i (j :: inner) (operands ++ [d.get .right])

/-- **The operands that are found are those of the whole chain.** -/
theorem exists_commaChain (hi : a.IsComma i d)
    (h : a.commaOperands fuel (d.get .left) = some operands) :
    ∃ inner, a.CommaChain i inner (d.get .right :: operands).reverse := by
  induction fuel generalizing i d operands with
  | zero => cases h
  | succ fuel ih =>
    obtain ⟨hleft, rfl⟩ | ⟨j, e, others, hj, he, hothers, rfl⟩ := commaOperands_eq_some h
    · exact ⟨[], .last hi hleft⟩
    · obtain ⟨inner, hchain⟩ := ih he hothers
      refine ⟨j :: inner, ?_⟩
      rw [List.reverse_cons]
      exact .link hi hj hchain

namespace CommaChain

variable {inner : List NodeId}

/-- There is one operand more than there are commas. -/
theorem length_operands (h : a.CommaChain i inner operands) :
    operands.length = inner.length + 2 := by
  induction h with
  | last => rfl
  | link _ _ _ ih => rw [List.length_append, ih]; rfl

/-- What the chain starts with is a comma. -/
theorem isComma (h : a.CommaChain i inner operands) : ∃ d, a.IsComma i d := by
  cases h with
  | last hi => exact ⟨_, hi⟩
  | link hi => exact ⟨_, hi⟩

/-- A comma inside of a chain stands to the left of another one in it. -/
theorem exists_left (h : a.CommaChain i inner operands) (hj : j ∈ inner) :
    ∃ k d e, Relation.ReflTransGen a.IsChild i k ∧ a.IsComma k d ∧ d.get .left = some j ∧
      a.IsComma j e := by
  induction h with
  | last => exact absurd hj List.not_mem_nil
  | @link i l d inner operands hi hleft h ih =>
    rcases List.mem_cons.mp hj with rfl | hj
    · obtain ⟨e, he⟩ := h.isComma
      exact ⟨i, d, e, .refl, hi, hleft, he⟩
    · obtain ⟨k, d', e, hk, hd, hj, he⟩ := ih hj
      exact ⟨k, d', e, .head (hi.isChild (.inl hleft)) hk, hd, hj, he⟩

/-- An operand stands to the right of a comma of the chain, or to the left of the last one. -/
theorem exists_comma (h : a.CommaChain i inner operands) (hj : some j ∈ operands) :
    ∃ k d, Relation.ReflTransGen a.IsChild i k ∧ a.IsComma k d ∧
      (d.get .right = some j ∨ d.get .left = some j ∧ ¬ a.HoldsComma (some j)) := by
  induction h with
  | @last i d hi hleft =>
    refine ⟨i, d, .refl, hi, ?_⟩
    rcases List.mem_pair.mp hj with hj | hj
    · exact .inr ⟨hj.symm, hj ▸ hleft⟩
    · exact .inl hj.symm
  | @link i l d inner operands hi hleft h ih =>
    rcases List.mem_append.mp hj with hj | hj
    · obtain ⟨k, d', hk, hd', hj⟩ := ih hj
      exact ⟨k, d', .head (hi.isChild (.inl hleft)) hk, hd', hj⟩
    · exact ⟨i, d, .refl, hi, .inl (List.mem_singleton.mp hj).symm⟩

end CommaChain

/-! ### Chains in a tree -/

/-- No node lists another one twice. -/
def ListsOnce (a : Arena) (root : NodeRef) : Prop :=
  ∀ i, a.Reaches root i → (a.children (some i)).Nodup

/-- It is enough that no node of the arena does. -/
theorem listsOnce_of_forall (h : ∀ i < a.nodes.size, (a.children (some i)).Nodup)
    (root : NodeRef) : a.ListsOnce root := by
  intro i _
  by_cases hi : i < a.nodes.size
  · exact h i hi
  · rw [children, node?_some, Array.getElem?_eq_none (Nat.le_of_not_lt hi)]
    exact List.nodup_nil

/-- A comma stands inside of a chain: to the left of another one. -/
def IsInnerComma (a : Arena) (root : NodeRef) (j : NodeId) : Prop :=
  ∃ i d e, a.Reaches root i ∧ a.IsComma i d ∧ d.get .left = some j ∧ a.IsComma j e

variable {inner : List NodeId}

/-- The commas inside of the chain of a node stand inside of a chain. -/
theorem CommaChain.isInnerComma (h : a.CommaChain i inner operands) (hi : a.Reaches root i)
    (hj : j ∈ inner) : a.IsInnerComma root j := by
  obtain ⟨k, d, e, hk, hd, hleft, he⟩ := h.exists_left hj
  exact ⟨k, d, e, hi.below hk, hd, hleft, he⟩

namespace IsTree

variable (h : a.IsTree root)
include h

/-- **In a tree the operands of a whole chain are found.** -/
theorem exists_commaChain (hi : a.Reaches root i) (hcomma : a.IsComma i d) :
    ∃ others inner, a.commaOperands (a.nodes.size + 1) (d.get .left) = some others ∧
      a.CommaChain i inner (d.get .right :: others).reverse := by
  have hacyclic : a.AcyclicFrom (d.get .left) := by
    rintro j ⟨l, hl, hlj⟩
    exact h.not_below_self ((hi.isChild (hcomma.isChild (.inl hl))).below hlj)
  obtain ⟨others, hothers⟩ := exists_commaOperands hacyclic
  obtain ⟨inner, hchain⟩ := Arena.exists_commaChain hcomma hothers
  exact ⟨others, inner, hothers, hchain⟩

/-- **No operand of a chain is found twice.** -/
theorem nodup_operands (honce : a.ListsOnce root) (hi : a.Reaches root i)
    (hchain : a.CommaChain i inner operands) : operands.reduceOption.Nodup := by
  induction hchain with
  | @last i d hcomma hleft =>
    cases hl : d.get .left with
    | none => cases d.get .right <;> simp [List.reduceOption]
    | some j =>
      have hne := hcomma.left_ne_right (honce i hi) hl
      cases hr : d.get .right with
      | none => simp [List.reduceOption]
      | some k => simpa [List.reduceOption, hr, eq_comm] using hne
  | @link i l d inner operands hcomma hleft hchain ih =>
    have hl : a.IsChild i l := hcomma.isChild (.inl hleft)
    rw [List.reduceOption_append]
    refine List.nodup_append.mpr ⟨ih (hi.isChild hl), ?_, ?_⟩
    · cases d.get .right <;> simp [List.reduceOption]
    · -- An operand further down that is on the right as well is listed by two nodes.
      rintro j hj _ hright rfl
      have hj := List.reduceOption_mem_iff.mp hj
      have hright := (List.mem_singleton.mp (List.reduceOption_mem_iff.mp hright)).symm
      obtain ⟨k, e, hk, he, hside⟩ := hchain.exists_comma hj
      have hkj : a.IsChild k j := he.isChild (hside.symm.imp_left And.left)
      obtain rfl := h.eq_of_isChild j k i ((hi.isChild hl).below hk) hi hkj
        (hcomma.isChild (.inr hright))
      exact h.not_below_self hi (.head' hl hk)

/-- **Nothing goes down to a comma inside of a chain.** The node above it is the comma that it
stands to the left of, and the rule of that one goes past it. -/
theorem not_isInnerComma_of_visits (honce : a.ListsOnce root) (hi : a.Reaches root i)
    (hj : a.Visits i j) : ¬ a.IsInnerComma root j := by
  rintro ⟨k, d, e, hk, hd, hleft, he⟩
  have hkj : a.IsChild k j := hd.isChild (.inl hleft)
  cases hj with
  | child hnot hij =>
    obtain rfl := h.eq_of_isChild j i k hi hk hij hkj
    exact hnot d hd
  | operand hi' hothers hj =>
    obtain ⟨inner, hchain⟩ := Arena.exists_commaChain hi' hothers
    obtain ⟨l, d', hl, hd', hside⟩ := hchain.exists_comma (List.mem_reverse.mpr hj)
    have hlj : a.IsChild l j := hd'.isChild (hside.symm.imp_left And.left)
    obtain rfl := h.eq_of_isChild j l k (hi.below hl) hk hlj hkj
    obtain rfl := hd'.parts_eq hd
    rcases hside with hright | ⟨-, hnot⟩
    · exact hd.left_ne_right (honce _ hk) hleft hright
    · exact hnot ⟨j, e, rfl, he⟩

/-- The root is no comma inside of a chain. -/
theorem not_isInnerComma_root {r : NodeId} (hr : r ∈ root) : ¬ a.IsInnerComma root r := by
  rintro ⟨i, d, e, hi, hd, hleft, -⟩
  exact h.not_isChild_root r hr i hi (hd.isChild (.inl hleft))

end IsTree

end Arena

end ScriptTree
