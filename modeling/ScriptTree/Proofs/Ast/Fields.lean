import ScriptTree.Ast.Draft

/-!
# The fields of a draft

A draft gets its fields one after the other. A field with a new name comes last; a name that is
there keeps its place, and the value that was there is lost. Nothing is lost with a value that
holds no nodes (`ScriptTree.Draft.HasRoom`).

Some names are not for fields: the written form of a node uses them for what every node has
(`ScriptTree.EsProps.reserved`).
-/

namespace ScriptTree

namespace EsValue

/-- A value that can hold no nodes: neither a node nor an array, nor anything but texts in an
object. -/
def isBare : EsValue → Bool
  | node .. | array _ => false
  | object fields => fields.all fun f => f.2.string?.isSome
  | _ => true

/-- A mark holds no nodes. -/
@[simp] theorem all_isBare_mark (b : Bool) : (mark b).all isBare = true := by
  cases b <;> rfl

@[simp] theorem all_isBare_string (x : Option String) : (x.map string).all isBare = true := by
  cases x <;> rfl

/-- One of two texts. -/
@[simp] theorem all_isBare_ite (P : Prop) [Decidable P] (a b : String) :
    (if P then some (string a) else some (string b)).all isBare = true := by
  split <;> rfl

end EsValue

namespace EsProps

/-- Names that the written form of a node needs for itself, or for the tokens and comments of a
file. -/
def reserved : List String := ["type", "range", "loc", "tokens", "comments"]

/-- These can be the names of the fields of one node. -/
def AreNames (keys : List String) : Prop := keys.Nodup ∧ ∀ key ∈ keys, key ∉ reserved

instance (keys : List String) : Decidable (AreNames keys) :=
  inferInstanceAs (Decidable (_ ∧ _))

variable {key k : String} {value : EsValue} {props : EsProps}

/-- A field with a new name comes last. -/
theorem insert_of_not_mem (h : key ∉ props.map Prod.fst) :
    insert key value props = props ++ [(key, value)] := by
  induction props with
  | nil => rfl
  | cons e rest ih =>
    obtain ⟨k, v⟩ := e
    rw [List.map_cons, List.mem_cons, not_or] at h
    rw [insert, if_neg (Ne.symm h.1), ih h.2, List.cons_append]

/-- A field with a name that is there keeps its place. -/
theorem map_fst_insert_of_mem (h : key ∈ props.map Prod.fst) :
    (insert key value props).map Prod.fst = props.map Prod.fst := by
  induction props with
  | nil => cases h
  | cons e rest ih =>
    obtain ⟨k, v⟩ := e
    rw [insert]
    split
    · rfl
    · next hne =>
      rw [List.map_cons, List.mem_cons] at h
      rw [List.map_cons, ih (h.resolve_left (Ne.symm hne)), List.map_cons]

/-- Other fields keep their values. -/
theorem get?_insert_of_ne (h : k ≠ key) : get? (insert key value props) k = get? props k := by
  have hk (k' : String) (hk' : k' = key) : (k == k') = false := by
    rw [hk']
    exact beq_false_of_ne h
  induction props with
  | nil => rw [insert, get?, List.lookup_cons, hk key rfl, get?]
  | cons e rest ih =>
    obtain ⟨k', v⟩ := e
    rw [insert]
    split
    · next heq =>
      rw [get?, get?, List.lookup_cons, List.lookup_cons, hk k' heq]
    · rw [get?, get?, List.lookup_cons, List.lookup_cons]
      split
      · rfl
      · exact ih

/-- There is no value under a name that is not there. -/
theorem get?_eq_none (h : key ∉ props.map Prod.fst) : get? props key = none := by
  rw [get?, List.lookup_eq_none_iff]
  intro e he
  refine bne_iff_ne.mpr ?_
  rintro rfl
  exact h (List.mem_map_of_mem he)

end EsProps

namespace Draft

variable {d : Draft} {key k : String} {value : EsValue}

/-! ### The names of the fields -/

/-- The names of the fields. -/
def keys (d : Draft) : List String := d.props.map Prod.fst

theorem mem_keys_prop : k ∈ (d.prop key value).keys ↔ k ∈ d.keys ∨ k = key := by
  change k ∈ (EsProps.insert key value d.props).map Prod.fst ↔ k ∈ d.keys ∨ k = key
  by_cases hmem : key ∈ d.keys
  · rw [EsProps.map_fst_insert_of_mem hmem]
    refine (or_iff_left_of_imp ?_).symm
    rintro rfl
    exact hmem
  · rw [EsProps.insert_of_not_mem hmem, List.map_append, List.mem_append]
    exact or_congr_right List.mem_singleton

/-- A draft keeps its range and its type while fields are filled in. -/
theorem fill_range (d : Draft) (fields : List (String × Option EsValue)) :
    (d.fill fields).start = d.start ∧ (d.fill fields).stop = d.stop ∧
      (d.fill fields).type = d.type := by
  induction fields generalizing d with
  | nil => exact ⟨rfl, rfl, rfl⟩
  | cons f fields ih =>
    obtain ⟨hstart, hstop, htype⟩ := ih (d.propOpt f.1 f.2)
    refine ⟨hstart.trans ?_, hstop.trans ?_, htype.trans ?_⟩ <;> cases f.2 <;> rfl

theorem mem_keys_fill {fields : List (String × Option EsValue)}
    (h : k ∈ (d.fill fields).keys) : k ∈ d.keys ∨ k ∈ fields.map Prod.fst := by
  induction fields generalizing d with
  | nil => exact .inl h
  | cons f fields ih =>
    obtain ⟨key, value⟩ := f
    rw [List.map_cons, List.mem_cons]
    rcases ih (d := d.propOpt key value) h with hk | hk
    · cases value with
      | none => exact .inl hk
      | some v => exact (mem_keys_prop.mp hk).imp_right .inl
    · exact .inr (.inr hk)

/-! ### Room for a field -/

/-- **Nothing is lost if a field gets a value**: there is none yet, or one that holds no nodes. -/
def HasRoom (d : Draft) (key : String) : Prop :=
  ∀ v ∈ EsProps.get? d.props key, v.isBare = true

theorem hasRoom_of_not_mem (h : key ∉ d.keys) : d.HasRoom key := by
  intro v hv
  rw [EsProps.get?_eq_none h] at hv
  cases hv

theorem HasRoom.prop_of_ne (h : d.HasRoom k) (hne : k ≠ key) : (d.prop key value).HasRoom k := by
  intro v hv
  change v ∈ EsProps.get? (EsProps.insert key value d.props) k at hv
  rw [EsProps.get?_insert_of_ne hne] at hv
  exact h v hv

theorem HasRoom.prop_of_isBare (h : d.HasRoom k) (hvalue : value.isBare = true) :
    (d.prop key value).HasRoom k := by
  by_cases heq : k = key
  · intro v hv
    change v ∈ EsProps.get? (EsProps.insert key value d.props) k at hv
    rw [heq, EsProps.get?_insert_self] at hv
    cases hv
    exact hvalue
  · exact h.prop_of_ne heq

/-- Filling in other fields leaves the room for a field. -/
theorem hasRoom_fill {fields : List (String × Option EsValue)} (h : d.keys = [])
    (hk : k ∉ fields.map Prod.fst) : (d.fill fields).HasRoom k := by
  refine hasRoom_of_not_mem fun hmem => hk ?_
  refine (mem_keys_fill hmem).resolve_left ?_
  rw [h]
  exact List.not_mem_nil

end Draft

end ScriptTree
