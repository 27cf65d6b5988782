import ScriptTree.Proofs.Convert.Nesting.Down
import ScriptTree.Proofs.Convert.Tandem.Rote

/-!
# Bounds on what is made by rote

What a recipe, or the table for kinds outside the vocabulary, makes of a field lies within the
bounds of the field. Fields that look at no child hold no nodes at all. Literals have no children.
-/

namespace ScriptTree

open Conversion (Yields)

namespace Converter.Nests

variable {c : Converter} {tokens : List SourceToken} {lo hi : Nat} {i : NodeId} {n : Node}
  {p : Pool} {d : Data p}

/-! ### Fields -/

/-- A node may be absent. -/
theorem nested_absence {x : Option EsNode} (hx : ∀ es ∈ x, es.toValue.nested lo hi = true)
    (absence : Absence) : ∀ v ∈ absence.value x, v.nested lo hi = true := by
  cases x with
  | some es =>
    cases absence
    all_goals
      rintro _ ⟨⟩
      exact hx es rfl
  | none => cases absence with
    | null =>
      rintro _ ⟨⟩
      rfl
    | omitted => rintro _ ⟨⟩

theorem nested_some {v : EsValue} (hv : v.nested lo hi = true) :
    ∀ w ∈ some v, w.nested lo hi = true := by
  rintro _ ⟨⟩
  exact hv

theorem nested_bare {v : Option EsValue} (hv : v.all EsValue.isBare = true) :
    ∀ w ∈ v, w.nested lo hi = true := by
  rintro w rfl
  exact EsValue.nested_of_isBare hv

/-- What a part looks at lies within some bounds, and lists of types are in angle brackets. The name
of a tag does not start before the bounds. -/
structure PartFits (a : Arena) (tokens : List SourceToken) (lo hi : Nat) {p : Pool} (d : Data p)
    (x : Part) : Prop where
  field : ∀ e, x.slot? = some e → a.FieldFits tokens lo hi d e.1
  isAngled : ∀ f ∈ x.brackets?, f.isAngled = true
  tag : ∀ f, x.slot? = some (f, .tag) → a.StartsFrom lo (d.nodeAt f)

/-- **What a part makes lies within the bounds of the field that it looks at.** -/
theorem part (h : c.Nests tokens) {x : Part} (hx : PartFits c.arena tokens lo hi d x) :
    Yields (c.part n d x) fun v => ∀ w ∈ v, w.nested lo hi = true := by
  cases x with
  | child f absence =>
    exact .map ((h.convert (hx.field _ rfl).node).mono fun x hx =>
      nested_absence (fun es hes => (hx es hes).nested) absence)
  | first f =>
    exact .map ((h.child (Arena.fitsIn_first (hx.field _ rfl).list)).mono fun v hv =>
      nested_some hv)
  | list f =>
    refine (optionList (hx.field _ rfl).list fun l hl => h.list hl).bind fun v hv => .pure ?_
    refine nested_some ?_
    cases v with
    | none => exact EsValue.nested_array_iff.mpr fun v hv => absurd hv List.not_mem_nil
    | some v => exact hv v rfl
  | listIfAny f => exact optionList (hx.field _ rfl).list fun l hl => h.list hl
  | statements f => exact optionList (hx.field _ rfl).list fun l hl => h.statements hl
  | typeArguments f absence =>
    exact .map ((h.typeArguments? ((hx.field _ rfl).angled (hx.isAngled f rfl))).mono fun x hx =>
      nested_absence (fun es hes => (hx es hes).nested) absence)
  | typeParameters f =>
    exact .map ((h.typeParameters? ((hx.field _ rfl).angled (hx.isAngled f rfl))).mono fun x hx =>
      nested_absence (fun es hes => (hx es hes).nested) .omitted)
  | ascription f absence =>
    exact .map ((h.ascription? (hx.field _ rfl).node).mono fun x hx =>
      nested_absence (fun es hes => (hx es hes).nested) absence)
  | decorators f => exact h.decorators? (hx.field _ rfl).list
  | tagName f =>
    exact .map ((h.tagName (hx.field _ rfl).node (hx.tag f rfl)).mono fun v hv => nested_some hv)
  | accessibility => exact .pure (nested_bare (EsValue.all_isBare_string _))
  | mark f => exact .pure (nested_bare (EsValue.all_isBare_mark _))
  | modifierMark m => exact .pure (nested_bare (EsValue.all_isBare_mark _))
  | _ => exact .pure (nested_bare rfl)

/-- What is gathered lies within bounds if all parts do. -/
theorem gather_of {parts : List (String × Part)}
    (hparts : ∀ x ∈ parts, Yields (c.part n d x.2) fun v => ∀ w ∈ v, w.nested lo hi = true) :
    Yields (c.gather n d parts) (FieldsFit lo hi) :=
  Yields.mapM_all parts fun x hx => (hparts x hx).bind fun _ hv => .pure hv

theorem gather (h : c.Nests tokens) {parts : List (String × Part)}
    (hparts : ∀ x ∈ parts, PartFits c.arena tokens lo hi d x.2) :
    Yields (c.gather n d parts) (FieldsFit lo hi) :=
  gather_of fun x hx => h.part (hparts x hx)

/-- A part that is of a kind looks at the children of its nodes. -/
theorem PartFits.of_isOf {a : Arena} (hi : a.Stands tokens i n) (hd : a.data? p n = some d)
    {x : Part} (hx : x.IsOf n.kind p) : PartFits a tokens n.pos n.stop d x where
  field e he := hi.fieldFits hd (hx.isChild e he)
  isAngled f hf := by
    have hbracketed := hx.isBracketed f hf
    rcases List.mem_cons.mp hbracketed with rfl | hbracketed
    · rfl
    · rw [List.mem_singleton.mp hbracketed]
      rfl
  tag f hf := hi.startsFrom hd (hx.isChild (f, .tag) hf)

/-- **What is made by a recipe covers its node**, and its fields lie where the parts of the node
do. -/
theorem follow_spans (h : c.Nests tokens) (hle : n.pos ≤ n.stop) {r : Recipe}
    (hparts : ∀ d, c.arena.data? r.pool n = some d → ∀ x ∈ r.parts ++ r.later,
      PartFits c.arena tokens lo n.stop d x.2) :
    Yields (c.follow r i n) (EsNode.Spans n.pos n.stop lo) := by
  refine Conversion.yields_parts fun d hd => ?_
  refine (h.gather fun x hx => hparts d hd x (List.mem_append_left _ hx)).bind fun fs hfs => ?_
  refine (Conversion.yields_start _ n.pos n.stop).bind ?_
  rintro _ ⟨id, rfl⟩
  refine (h.gather fun x hx => hparts d hd x (List.mem_append_right _ hx)).bind
    fun later hlater => .pure ?_
  exact c.spans_fill id r.type hle (hfs.append hlater)

/-- **What is made by the recipe of a kind lies in its node.** -/
theorem follow (h : c.Nests tokens) (hi : c.arena.Stands tokens i n) {r : Recipe}
    (hr : r.Suits n.kind) : Yields (c.follow r i n) (EsNode.Fits n.pos n.stop) := by
  refine (h.follow_spans hi.isLaidOut.pos_le_stop fun d hd x hx => ?_).mono fun es hes =>
    hes.fits (Nat.le_refl _) (Nat.le_refl _) (Nat.le_refl _)
  exact .of_isOf hi hd (hr.isOf x hx)

theorem synthesize (h : c.Nests tokens) (hi : c.arena.Stands tokens i n) :
    Yields (c.synthesize i n) (EsNode.Fits n.pos n.stop) := by
  have hle := hi.isLaidOut.pos_le_stop
  rw [Converter.synthesize]
  refine .ite (fun _ => .fail) fun _ => ?_
  refine (Conversion.yields_start _ n.pos n.stop).bind ?_
  rintro _ ⟨id, rfl⟩
  have hfilled {fields : List (String × Option EsValue)} (hfields : FieldsFit n.pos n.stop fields) :
      (c.finish ((Draft.new id (.ofName n.kind.syntheticName) n.pos n.stop).fill fields)).Fits
        n.pos n.stop :=
    (c.spans_fill id _ hle hfields).fits (Nat.le_refl _) (Nat.le_refl _) (Nat.le_refl _)
  split
  · exact .pure (hfilled .nil)
  · next entry hentry =>
    refine Conversion.yields_parts fun d hd => ?_
    obtain ⟨-, hof, -⟩ := TableEntry.suits_of_tableEntry? hentry
    refine (h.gather fun x hx => ?_).bind fun fields hfields => .pure (hfilled hfields)
    exact .of_isOf hi hd (hof x hx)

end Converter.Nests

end ScriptTree
