import Mathlib.Algebra.Order.Group.Multiset
import Mathlib.Tactic.Abel
import ScriptTree.Proofs.Ast.Fields

/-!
# The nodes of a tree

The nodes in a value are those that it holds itself, and those in the fields of these
(`ScriptTree.EsValue.nodes`). A bare value holds none, and a field that is filled in adds those of
its value, if there is room for it (`ScriptTree.EsProps.nodesOfFields_insert`).

The numbers of the nodes are counted as often as they occur (`ScriptTree.EsValue.ids`).
-/

namespace ScriptTree

namespace EsValue

mutual

/-- The nodes in a value, with their fields, those above before those below. -/
def nodes : EsValue → List EsNode
  | node head props => ⟨head, props⟩ :: nodesOfFields props
  | array items => nodesOfItems items
  | object fields => nodesOfFields fields
  | _ => []

/-- The nodes in a list of values. -/
def nodesOfItems : List EsValue → List EsNode
  | [] => []
  | v :: vs => nodes v ++ nodesOfItems vs

/-- The nodes in named values. -/
def nodesOfFields : List (String × EsValue) → List EsNode
  | [] => []
  | (_, v) :: fs => nodes v ++ nodesOfFields fs

end

mutual

/-- The walk over a tree comes by these nodes, in the same order. -/
theorem heads_eq : (v : EsValue) → v.heads = v.nodes.map EsNode.head
  | null | bool _ | number _ | string _ => rfl
  | node head props => by rw [heads, nodes, List.map_cons, headsOfFields_eq props]
  | array items => by rw [heads, nodes, headsOfItems_eq items]
  | object fields => by rw [heads, nodes, headsOfFields_eq fields]

theorem headsOfItems_eq : (vs : List EsValue) →
    headsOfItems vs = (nodesOfItems vs).map EsNode.head
  | [] => rfl
  | v :: vs => by rw [headsOfItems, nodesOfItems, List.map_append, heads_eq v, headsOfItems_eq vs]

theorem headsOfFields_eq : (fs : List (String × EsValue)) →
    headsOfFields fs = (nodesOfFields fs).map EsNode.head
  | [] => rfl
  | (_, v) :: fs => by
    rw [headsOfFields, nodesOfFields, List.map_append, heads_eq v, headsOfFields_eq fs]

end

theorem nodesOfItems_eq_flatMap (vs : List EsValue) : nodesOfItems vs = vs.flatMap nodes := by
  induction vs with
  | nil => rfl
  | cons v vs ih => rw [nodesOfItems, ih, List.flatMap_cons]

theorem nodesOfFields_eq_flatMap (fs : List (String × EsValue)) :
    nodesOfFields fs = fs.flatMap fun f => f.2.nodes := by
  induction fs with
  | nil => rfl
  | cons f fs ih =>
    obtain ⟨key, v⟩ := f
    rw [nodesOfFields, ih, List.flatMap_cons]

/-- A text is not a node. -/
theorem nodes_of_isSome_string? {v : EsValue} (h : v.string?.isSome = true) : v.nodes = [] := by
  cases v with
  | string => rfl
  | _ => cases h

/-- There are no nodes in a bare value. -/
theorem nodes_of_isBare {v : EsValue} (h : v.isBare = true) : v.nodes = [] := by
  cases v with
  | node | array => cases h
  | object fields =>
    rw [nodes, nodesOfFields_eq_flatMap, List.flatMap_eq_nil_iff]
    intro f hf
    exact nodes_of_isSome_string? (List.all_eq_true.mp h f hf)
  | null | bool | number | string => rfl

/-- A node comes before the nodes in its fields. -/
theorem nodes_toValue (n : EsNode) : n.toValue.nodes = n :: nodesOfFields n.props := by
  rw [EsNode.toValue, nodes]

theorem nodes_array (vs : List EsValue) : (array vs).nodes = vs.flatMap nodes := by
  rw [nodes, nodesOfItems_eq_flatMap]

end EsValue

namespace EsNode

theorem toValue_injective : Function.Injective toValue := by
  rintro ⟨head, props⟩ ⟨head', props'⟩ h
  cases h
  rfl

end EsNode

/-- A finished node tells what it was a draft of. -/
theorem Draft.toValue_finish_inj {d d' : Draft} {map : LineMap} :
    (d'.finish map).toValue = (d.finish map).toValue ↔ d' = d := by
  refine ⟨fun h => ?_, fun h => by rw [h]⟩
  have hreopen := congrArg Draft.reopen (EsNode.toValue_injective h)
  rwa [reopen_finish, reopen_finish] at hreopen

namespace EsProps

open EsValue

variable {key : String} {value : EsValue} {props : EsProps}

/-- The nodes that get lost if a field gets a new value. -/
def displaced (props : EsProps) (key : String) : List EsNode :=
  ((get? props key).map nodes).getD []

/-- **A value brings its nodes with it**, and those of the value in its place get lost. -/
theorem nodesOfFields_insert (key : String) (value : EsValue) (props : EsProps) :
    (nodesOfFields (insert key value props) : Multiset EsNode) + displaced props key =
      nodesOfFields props + value.nodes := by
  induction props with
  | nil => exact (add_zero _).trans (congrArg _ (List.append_nil _))
  | cons f props ih =>
    obtain ⟨k, v⟩ := f
    by_cases h : k = key
    · rw [insert, if_pos h, displaced, get?, List.lookup_cons, h, beq_self_eq_true]
      change ((value.nodes ++ nodesOfFields props : List EsNode) : Multiset EsNode) + v.nodes =
        ((v.nodes ++ nodesOfFields props : List EsNode) : Multiset EsNode) + value.nodes
      rw [← Multiset.coe_add, ← Multiset.coe_add]
      abel
    · have hk : (key == k) = false := beq_false_of_ne (Ne.symm h)
      have hrest : displaced ((k, v) :: props) key = displaced props key := by
        rw [displaced, get?, List.lookup_cons, hk]
        rfl
      rw [insert, if_neg h, hrest, nodesOfFields, nodesOfFields, ← Multiset.coe_add,
        ← Multiset.coe_add, add_assoc, ih, add_assoc]

/-- A node in the fields was there before, or came with the new value. -/
theorem mem_nodesOfFields_insert {n : EsNode} (h : n ∈ nodesOfFields (insert key value props)) :
    n ∈ nodesOfFields props ∨ n ∈ value.nodes := by
  have hmem : n ∈ (nodesOfFields (insert key value props) : Multiset EsNode) +
      displaced props key := Multiset.mem_add.mpr (.inl h)
  rw [nodesOfFields_insert] at hmem
  exact Multiset.mem_add.mp hmem

/-- Nothing gets lost where a value is bare, or where there is none. -/
theorem displaced_eq_nil (h : ∀ v ∈ get? props key, v.isBare = true) :
    displaced props key = [] := by
  rw [displaced]
  cases hv : get? props key with
  | none => rfl
  | some v => exact nodes_of_isBare (h v hv)

end EsProps

/-! ### The numbers of the nodes -/

namespace EsValue

/-- The numbers of the nodes in a value. -/
def ids (v : EsValue) : Multiset Nat := v.nodes.map fun n => n.head.id

/-- The numbers of the nodes in named values. -/
def idsOfFields (fs : List (String × EsValue)) : Multiset Nat :=
  (nodesOfFields fs).map fun n => n.head.id

theorem ids_of_isBare {v : EsValue} (h : v.isBare = true) : v.ids = 0 := by
  rw [ids, nodes_of_isBare h]
  rfl

theorem ids_toValue (n : EsNode) : n.toValue.ids = n.head.id ::ₘ idsOfFields n.props := by
  rw [ids, nodes_toValue]
  rfl

theorem ids_array_nil : (array []).ids = 0 := rfl

theorem ids_array_cons (v : EsValue) (vs : List EsValue) :
    (array (v :: vs)).ids = v.ids + (array vs).ids := by
  rw [ids, ids, ids, nodes_array, nodes_array, List.flatMap_cons, List.map_append,
    Multiset.coe_add]

/-- The numbers are those that the walk comes by. -/
theorem coe_walk_ids (n : EsNode) : (n.walk.map EsHead.id : Multiset Nat) = n.toValue.ids := by
  rw [EsNode.walk, heads_eq, List.map_map]
  rfl

end EsValue

namespace EsProps

open EsValue

/-- The numbers of the nodes in the fields, and of those that get lost. -/
theorem idsOfFields_insert (key : String) (value : EsValue) (props : EsProps) :
    idsOfFields (insert key value props) + ((displaced props key).map fun n => n.head.id) =
      idsOfFields props + value.ids := by
  have h := congrArg (Multiset.map fun n : EsNode => n.head.id)
    (nodesOfFields_insert key value props)
  rw [Multiset.map_add, Multiset.map_add] at h
  exact h

end EsProps

end ScriptTree
