import ScriptTree.Proofs.Ast.Fields

/-!
# Nodes that lie within each other

The range of a normalized node lies within the range of the node around it, apart from nodes of
three types (`ScriptTree.EsType.isLoose`). Whether a tree is like that can be computed
(`ScriptTree.EsNode.isNested`).

Values that lie within a range lie within every wider one (`ScriptTree.EsValue.nested_mono`), and a
draft that is filled with them holds nothing else (`ScriptTree.Draft.nestedFields_fill`).
-/

namespace ScriptTree

/-- Nodes of these types need not lie within the node around them: an ascription starts at the
colon or arrow before the type, and a body at its opening brace. -/
def EsType.isLoose : EsType → Bool
  | .known .tsTypeAscription | .known .classBody | .known .tsInterfaceBody => true
  | _ => false

namespace EsValue

mutual

/-- The nodes in a value lie within a range, and the nodes below them within the nearest node above
them. -/
def nested (lo hi : Nat) : EsValue → Bool
  | node head props =>
    (head.type.isLoose || (lo ≤ head.start && head.stop ≤ hi)) &&
      nestedFields head.start head.stop props
  | array items => nestedItems lo hi items
  | object fields => nestedFields lo hi fields
  | _ => true

/-- The same of a list of values. -/
def nestedItems (lo hi : Nat) : List EsValue → Bool
  | [] => true
  | v :: vs => nested lo hi v && nestedItems lo hi vs

/-- The same of named values. -/
def nestedFields (lo hi : Nat) : List (String × EsValue) → Bool
  | [] => true
  | (_, v) :: fs => nested lo hi v && nestedFields lo hi fs

end

variable {lo hi lo' hi' : Nat} {v : EsValue}

theorem nestedItems_iff {vs : List EsValue} :
    nestedItems lo hi vs = true ↔ ∀ v ∈ vs, nested lo hi v = true := by
  induction vs with
  | nil => exact iff_of_true rfl fun v hv => absurd hv List.not_mem_nil
  | cons v vs ih => rw [nestedItems, Bool.and_eq_true, ih, List.forall_mem_cons]

theorem nestedFields_iff {fs : List (String × EsValue)} :
    nestedFields lo hi fs = true ↔ ∀ f ∈ fs, nested lo hi f.2 = true := by
  induction fs with
  | nil => exact iff_of_true rfl fun f hf => absurd hf List.not_mem_nil
  | cons f fs ih =>
    obtain ⟨key, v⟩ := f
    rw [nestedFields, Bool.and_eq_true, ih, List.forall_mem_cons]

/-- An array is nested if its items are. -/
theorem nested_array_iff {vs : List EsValue} :
    nested lo hi (array vs) = true ↔ ∀ v ∈ vs, nested lo hi v = true :=
  nestedItems_iff

theorem nested_of_isBare (h : v.isBare = true) : nested lo hi v = true := by
  cases v with
  | node | array => cases h
  | object fields =>
    refine nestedFields_iff.mpr fun f hf => ?_
    have htext := List.all_eq_true.mp h f hf
    revert htext
    cases f.2 <;> first | exact fun _ => rfl | exact nofun
  | null | bool | number | string => rfl

/-- **What lies within a range lies within every wider one.** -/
theorem nested_mono (hlo : lo' ≤ lo) (hhi : hi ≤ hi') (h : nested lo hi v = true) :
    nested lo' hi' v = true := by
  -- The induction is on a value together with its fields and items.
  refine EsValue.rec
    (motive_1 := fun v => nested lo hi v = true → nested lo' hi' v = true)
    (motive_2 := fun fs => nestedFields lo hi fs = true → nestedFields lo' hi' fs = true)
    (motive_3 := fun vs => nestedItems lo hi vs = true → nestedItems lo' hi' vs = true)
    (motive_4 := fun f => nested lo hi f.2 = true → nested lo' hi' f.2 = true)
    ?null ?bool ?number ?string ?node ?array ?object ?nofields ?field ?noitems ?item ?pair v h
  case null | bool | number | string => intros; rfl
  case node =>
    intro head props _ h
    rw [nested, Bool.and_eq_true, Bool.or_eq_true, Bool.and_eq_true, decide_eq_true_eq,
      decide_eq_true_eq] at h ⊢
    exact ⟨h.1.imp id fun h => ⟨Nat.le_trans hlo h.1, Nat.le_trans h.2 hhi⟩, h.2⟩
  case array | object => exact fun _ ih => ih
  case nofields | noitems => exact id
  case field =>
    rintro ⟨key, v⟩ fs ihv ihfs h
    rw [nestedFields, Bool.and_eq_true] at h ⊢
    exact ⟨ihv h.1, ihfs h.2⟩
  case item =>
    intro v vs ihv ihvs h
    rw [nestedItems, Bool.and_eq_true] at h ⊢
    exact ⟨ihv h.1, ihvs h.2⟩
  case pair => exact fun _ _ ih => ih

/-- The same of named values. -/
theorem nestedFields_mono (hlo : lo' ≤ lo) (hhi : hi ≤ hi') {fs : List (String × EsValue)}
    (h : nestedFields lo hi fs = true) : nestedFields lo' hi' fs = true :=
  nestedFields_iff.mpr fun f hf => nested_mono hlo hhi (nestedFields_iff.mp h f hf)

/-- A field keeps values within a range if its own value lies there. -/
theorem nestedFields_insert {key : String} {props : EsProps}
    (h : nestedFields lo hi props = true) (hv : nested lo hi v = true) :
    nestedFields lo hi (EsProps.insert key v props) = true := by
  induction props with
  | nil =>
    rw [EsProps.insert, nestedFields, hv]
    rfl
  | cons f fs ih =>
    obtain ⟨k, w⟩ := f
    rw [nestedFields, Bool.and_eq_true] at h
    rw [EsProps.insert]
    split
    · rw [nestedFields, Bool.and_eq_true]
      exact ⟨hv, h.2⟩
    · rw [nestedFields, Bool.and_eq_true]
      exact ⟨h.1, ih h.2⟩

end EsValue

/-! ### Nodes -/

namespace EsNode

/-- **The nodes of a tree lie within each other**: each within the nearest node above it. -/
def isNested (n : EsNode) : Bool :=
  EsValue.nestedFields n.head.start n.head.stop n.props

/-- A tree lies within a range, and its nodes within each other. -/
structure Fits (lo hi : Nat) (n : EsNode) : Prop where
  le_start : lo ≤ n.head.start
  start_le_stop : n.head.start ≤ n.head.stop
  stop_le : n.head.stop ≤ hi
  isNested : n.isNested = true

variable {lo hi lo' hi' : Nat} {n : EsNode}

theorem Fits.mono (h : n.Fits lo hi) (hlo : lo' ≤ lo) (hhi : hi ≤ hi') : n.Fits lo' hi' :=
  ⟨Nat.le_trans hlo h.le_start, h.start_le_stop, Nat.le_trans h.stop_le hhi, h.isNested⟩

theorem nested_toValue_iff : n.toValue.nested lo hi = true ↔
    (n.head.type.isLoose = true ∨ lo ≤ n.head.start ∧ n.head.stop ≤ hi) ∧ n.isNested = true := by
  rw [toValue, EsValue.nested, Bool.and_eq_true, Bool.or_eq_true, Bool.and_eq_true,
    decide_eq_true_eq, decide_eq_true_eq, isNested]

theorem Fits.nested (h : n.Fits lo hi) : n.toValue.nested lo hi = true :=
  nested_toValue_iff.mpr ⟨.inr ⟨h.le_start, h.stop_le⟩, h.isNested⟩

end EsNode

/-! ### Fields that are filled in -/

/-- Fields that are to be filled in lie within a range, as far as they have values. -/
def FieldsFit (lo hi : Nat) (fields : List (String × Option EsValue)) : Prop :=
  ∀ f ∈ fields, ∀ v ∈ f.2, v.nested lo hi = true

namespace FieldsFit

variable {lo hi : Nat} {key : String} {fs gs : List (String × Option EsValue)}

theorem nil : FieldsFit lo hi [] :=
  fun _ hf => absurd hf List.not_mem_nil

theorem cons {v : Option EsValue} (hv : ∀ w ∈ v, w.nested lo hi = true)
    (hfs : FieldsFit lo hi fs) : FieldsFit lo hi ((key, v) :: fs) :=
  List.forall_mem_cons.mpr ⟨hv, hfs⟩

theorem append (hfs : FieldsFit lo hi fs) (hgs : FieldsFit lo hi gs) :
    FieldsFit lo hi (fs ++ gs) :=
  List.forall_mem_append.mpr ⟨hfs, hgs⟩

/-- One more field, with a value. -/
theorem value {v : EsValue} (hv : v.nested lo hi = true) (hfs : FieldsFit lo hi fs) :
    FieldsFit lo hi ((key, some v) :: fs) :=
  cons (by rintro _ ⟨⟩; exact hv) hfs

/-- One more field, which holds no nodes. -/
theorem plain {v : Option EsValue} (hv : v.all EsValue.isBare = true) (hfs : FieldsFit lo hi fs) :
    FieldsFit lo hi ((key, v) :: fs) :=
  cons (by rintro w rfl; exact EsValue.nested_of_isBare hv) hfs

/-- One more field, with a mark. -/
theorem mark {b : Bool} (hfs : FieldsFit lo hi fs) :
    FieldsFit lo hi ((key, EsValue.mark b) :: fs) :=
  plain (EsValue.all_isBare_mark b) hfs

/-- One more field, with a node if there is one. -/
theorem node? {x : Option EsNode} (hx : ∀ n ∈ x, n.toValue.nested lo hi = true)
    (hfs : FieldsFit lo hi fs) :
    FieldsFit lo hi ((key, do pure (← x).toValue) :: fs) :=
  cons (by cases x with
    | none => exact fun _ hw => absurd hw (Option.not_mem_none _)
    | some n => rintro _ ⟨⟩; exact hx n rfl) hfs

end FieldsFit

namespace Draft

variable {lo hi : Nat} {d : Draft}

theorem nestedFields_propOpt {key : String} {v : Option EsValue}
    (h : EsValue.nestedFields lo hi d.props = true) (hv : ∀ w ∈ v, w.nested lo hi = true) :
    EsValue.nestedFields lo hi (d.propOpt key v).props = true := by
  cases v with
  | none => exact h
  | some w => exact EsValue.nestedFields_insert h (hv w rfl)

/-- **A draft that is filled with fields within a range holds nothing else.** -/
theorem nestedFields_fill {fields : List (String × Option EsValue)}
    (h : EsValue.nestedFields lo hi d.props = true) (hfields : FieldsFit lo hi fields) :
    EsValue.nestedFields lo hi (d.fill fields).props = true := by
  induction fields generalizing d with
  | nil => exact h
  | cons f fs ih =>
    obtain ⟨hv, hfs⟩ := List.forall_mem_cons.mp hfields
    exact ih (nestedFields_propOpt h hv) hfs

/-- A draft lies within a range, and what it holds within the draft. -/
structure Fits (lo hi : Nat) (d : Draft) : Prop where
  le_start : lo ≤ d.start
  start_le_stop : d.start ≤ d.stop
  stop_le : d.stop ≤ hi
  nested : EsValue.nestedFields d.start d.stop d.props = true

namespace Fits

variable {key : String} {v : EsValue}

theorem reopen {n : EsNode} (h : n.Fits lo hi) : (Draft.reopen n).Fits lo hi :=
  ⟨h.le_start, h.start_le_stop, h.stop_le, h.isNested⟩

theorem finish (h : d.Fits lo hi) (map : LineMap) : (d.finish map).Fits lo hi :=
  ⟨h.le_start, h.start_le_stop, h.stop_le, h.nested⟩

theorem prop (h : d.Fits lo hi) (hv : v.nested d.start d.stop = true) :
    (d.prop key v).Fits lo hi :=
  ⟨h.le_start, h.start_le_stop, h.stop_le, EsValue.nestedFields_insert h.nested hv⟩

theorem propOpt {v : Option EsValue} (h : d.Fits lo hi)
    (hv : ∀ w ∈ v, w.nested d.start d.stop = true) : (d.propOpt key v).Fits lo hi := by
  cases v with
  | none => exact h
  | some w => exact h.prop (hv w rfl)

theorem fill {fields : List (String × Option EsValue)} (h : d.Fits lo hi)
    (hfields : FieldsFit d.start d.stop fields) : (d.fill fields).Fits lo hi := by
  obtain ⟨hstart, hstop, -⟩ := Draft.fill_range d fields
  refine ⟨hstart ▸ h.le_start, ?_, hstop ▸ h.stop_le, ?_⟩
  · rw [hstart, hstop]
    exact h.start_le_stop
  · rw [hstart, hstop]
    exact nestedFields_fill h.nested hfields

/-- A draft may be extended within its range, and holds what it held. -/
theorem extendTo {stop : Nat} (h : d.Fits lo hi) (hstop : stop ≤ hi) :
    (d.extendTo stop).Fits lo hi where
  le_start := h.le_start
  start_le_stop := Nat.le_trans h.start_le_stop (Nat.le_max_left _ _)
  stop_le := Nat.max_le.mpr ⟨h.stop_le, hstop⟩
  nested := EsValue.nestedFields_mono (Nat.le_refl _) (Nat.le_max_left _ _) h.nested

end Fits

/-- A draft that is started lies within its own range. -/
theorem fits_new (id : Nat) (type : EsType) {first stop : Nat} (hle : first ≤ stop) :
    (Draft.new id type first stop).Fits first stop where
  le_start := Nat.le_refl _
  start_le_stop := new_start_le id type first stop
  stop_le := Nat.max_le.mpr ⟨Nat.le_refl _, hle⟩
  nested := rfl

end Draft

end ScriptTree
