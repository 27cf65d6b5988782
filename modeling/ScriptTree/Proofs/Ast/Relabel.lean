import ScriptTree.Proofs.Ast.Nodes

/-!
# Other numbers and types

A tree may get other numbers and types, in all its nodes in one way (`ScriptTree.EsNode.relabel`).
Whatever is done to a draft depends on neither, so it can be done before or after
(`ScriptTree.Draft.relabel`).
-/

namespace ScriptTree

/-- A change of the numbers and types of nodes. -/
structure Relabeling where
  id : Nat → Nat := fun i => i
  type : EsType → EsType := fun t => t

namespace EsValue

mutual

/-- A value with other numbers and types in all its nodes. -/
def relabel (g : Relabeling) : EsValue → EsValue
  | null => null
  | bool b => bool b
  | number x => number x
  | string s => string s
  | node head props =>
    node { head with id := g.id head.id, type := g.type head.type } (relabelFields g props)
  | array items => array (relabelItems g items)
  | object fields => object (relabelFields g fields)

/-- The same for a list of values. -/
def relabelItems (g : Relabeling) : List EsValue → List EsValue
  | [] => []
  | v :: vs => relabel g v :: relabelItems g vs

/-- The same for named values. -/
def relabelFields (g : Relabeling) : List (String × EsValue) → List (String × EsValue)
  | [] => []
  | (key, v) :: fs => (key, relabel g v) :: relabelFields g fs

end

variable {g : Relabeling}

@[simp] theorem relabel_array (vs : List EsValue) :
    relabel g (array vs) = array (relabelItems g vs) := by
  rw [relabel]

/-- There is nothing to relabel in a bare value. -/
theorem relabel_of_isBare {v : EsValue} (h : v.isBare = true) : relabel g v = v := by
  cases v with
  | null | bool | number | string => rw [relabel]
  | node | array => cases h
  | object fields =>
    have hfields : relabelFields g fields = fields := by
      have htexts := List.all_eq_true.mp h
      clear h
      induction fields with
      | nil => rfl
      | cons f fs ih =>
        obtain ⟨key, v⟩ := f
        have hv : relabel g v = v := by
          have htext := htexts (key, v) List.mem_cons_self
          cases v <;> first | rfl | cases htext
        rw [relabelFields, hv, ih fun f hf => htexts f (List.mem_cons_of_mem _ hf)]
    rw [relabel, hfields]

/-- A field that gets a value has it with the other numbers and types. -/
theorem relabelFields_insert (key : String) (value : EsValue) (props : EsProps) :
    relabelFields g (EsProps.insert key value props) =
      EsProps.insert key (relabel g value) (relabelFields g props) := by
  induction props with
  | nil => rfl
  | cons f props ih =>
    obtain ⟨k, v⟩ := f
    by_cases h : k = key
    · rw [EsProps.insert, if_pos h, relabelFields, relabelFields, EsProps.insert, if_pos h]
    · rw [EsProps.insert, if_neg h, relabelFields, relabelFields, EsProps.insert, if_neg h, ih]

end EsValue

namespace EsValue

mutual

/-- Nothing is changed if nothing is to be changed. -/
theorem relabel_default : (v : EsValue) → relabel {} v = v
  | null | bool _ | number _ | string _ => by rw [relabel]
  | node head props => by rw [relabel, relabelFields_default props]
  | array items => by rw [relabel, relabelItems_default items]
  | object fields => by rw [relabel, relabelFields_default fields]

theorem relabelItems_default : (vs : List EsValue) → relabelItems {} vs = vs
  | [] => rfl
  | v :: vs => by rw [relabelItems, relabel_default v, relabelItems_default vs]

theorem relabelFields_default : (fs : List (String × EsValue)) → relabelFields {} fs = fs
  | [] => rfl
  | (key, v) :: fs => by rw [relabelFields, relabel_default v, relabelFields_default fs]

end

end EsValue

/-- A tree with other numbers and types in all its nodes. -/
def EsNode.relabel (g : Relabeling) (n : EsNode) : EsNode :=
  ⟨{ n.head with id := g.id n.head.id, type := g.type n.head.type },
    EsValue.relabelFields g n.props⟩

theorem EsNode.toValue_relabel (g : Relabeling) (n : EsNode) :
    (n.relabel g).toValue = n.toValue.relabel g := by
  rw [toValue, toValue, EsValue.relabel]
  rfl

/-- Nothing is changed if nothing is to be changed. -/
@[simp] theorem EsNode.relabel_default (n : EsNode) : n.relabel {} = n := by
  rw [relabel, EsValue.relabelFields_default]

/-- One tree is another with other numbers and types if it is as a value. -/
theorem EsNode.toValue_eq_relabel_iff {g : Relabeling} {n n' : EsNode} :
    n'.toValue = n.toValue.relabel g ↔ n' = n.relabel g := by
  rw [← toValue_relabel]
  exact toValue_injective.eq_iff

namespace Draft

/-- A draft with another number and type, also in the nodes in its fields. -/
def relabel (g : Relabeling) (d : Draft) : Draft :=
  { d with id := g.id d.id, type := g.type d.type, props := EsValue.relabelFields g d.props }

variable {g : Relabeling} {d d' : Draft} {map : LineMap}

theorem relabel_prop (key : String) (value : EsValue) :
    (d.prop key value).relabel g = (d.relabel g).prop key (value.relabel g) := by
  rw [relabel, prop, EsValue.relabelFields_insert]
  rfl

/-- A node is finished with the other numbers and types if the draft had them. -/
theorem toValue_finish_eq_relabel_iff :
    (d'.finish map).toValue = (d.finish map).toValue.relabel g ↔ d' = d.relabel g := by
  have hfinish : (d.finish map).toValue.relabel g = ((d.relabel g).finish map).toValue :=
    (EsNode.toValue_relabel g _).symm
  rw [hfinish]
  exact toValue_finish_inj

end Draft

end ScriptTree
