import ScriptTree.Proofs.Ast.Relabel

/-!
# Other numbers

A tree may get other numbers: one constant is added to the number of every node
(`ScriptTree.EsNode.renumber`). That is one way to relabel it
(`ScriptTree.EsNode.renumber_eq_relabel`).
-/

namespace ScriptTree

namespace EsValue

mutual

/-- A value with a constant added to the numbers of all nodes in it. -/
def renumber (c : Nat) : EsValue → EsValue
  | null => null
  | bool b => bool b
  | number x => number x
  | string s => string s
  | node head props => node { head with id := head.id + c } (renumberFields c props)
  | array items => array (renumberItems c items)
  | object fields => object (renumberFields c fields)

/-- The same for a list of values. -/
def renumberItems (c : Nat) : List EsValue → List EsValue
  | [] => []
  | v :: vs => renumber c v :: renumberItems c vs

/-- The same for named values. -/
def renumberFields (c : Nat) : List (String × EsValue) → List (String × EsValue)
  | [] => []
  | (key, v) :: fs => (key, renumber c v) :: renumberFields c fs

end

mutual

/-- To add a constant is one way to change the numbers. -/
theorem renumber_eq_relabel (c : Nat) :
    (v : EsValue) → v.renumber c = v.relabel { id := fun i => i + c }
  | null | bool _ | number _ | string _ => rfl
  | node head props => by rw [renumber, relabel, renumberFields_eq_relabelFields c props]
  | array items => by rw [renumber, relabel, renumberItems_eq_relabelItems c items]
  | object fields => by rw [renumber, relabel, renumberFields_eq_relabelFields c fields]

theorem renumberItems_eq_relabelItems (c : Nat) :
    (vs : List EsValue) → renumberItems c vs = relabelItems { id := fun i => i + c } vs
  | [] => rfl
  | v :: vs => by
    rw [renumberItems, relabelItems, renumber_eq_relabel c v, renumberItems_eq_relabelItems c vs]

theorem renumberFields_eq_relabelFields (c : Nat) : (fs : List (String × EsValue)) →
    renumberFields c fs = relabelFields { id := fun i => i + c } fs
  | [] => rfl
  | (key, v) :: fs => by
    rw [renumberFields, relabelFields, renumber_eq_relabel c v,
      renumberFields_eq_relabelFields c fs]

end

end EsValue

/-- A tree with a constant added to the numbers of all its nodes. -/
def EsNode.renumber (c : Nat) (n : EsNode) : EsNode :=
  ⟨{ n.head with id := n.head.id + c }, EsValue.renumberFields c n.props⟩

theorem EsNode.renumber_eq_relabel (c : Nat) (n : EsNode) :
    n.renumber c = n.relabel { id := fun i => i + c } := by
  rw [renumber, relabel, EsValue.renumberFields_eq_relabelFields]

end ScriptTree
