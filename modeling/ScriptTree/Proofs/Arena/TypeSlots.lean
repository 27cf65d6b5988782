import Mathlib.Data.List.Nodup
import Mathlib.Data.List.Pairwise
import ScriptTree.Arena.Surroundings
import ScriptTree.Proofs.Arena.Distinct
import ScriptTree.Proofs.Arena.Parents
import ScriptTree.Proofs.Convert.Found

/-!
# Where types are written

A node stands in a field of the node above it (`ScriptTree.Arena.StandsAt`), and the field says
whether a type is written there or a value (`ScriptTree.Pool.isTypeSlot`). The question is answered
from a list of the fields that hold types, which is not complete, and by the kind of the node above,
which counts as a type although there may be a value in it. So some slots are misread
(`ScriptTree.Pool.isMisread`), and all others are read as what they are
(`ScriptTree.Arena.StandsAt.inTypePosition_eq`).
-/

namespace ScriptTree

/-- Types, and what is written in types only. A value with type arguments counts as a type
(`ScriptTree.SyntaxKind.isType`), but what stands in it need not be one. -/
def SyntaxKind.isTypeForm (k : SyntaxKind) : Bool :=
  k.isType && k != .expressionWithTypeArguments

namespace Pool

/-- Types are written in a field of nodes that are no types themselves: after a colon or the word
`as`, in an alias, as the bound or the default of a type parameter, and between angle brackets. -/
def holdsTypes (p : Pool) : Field → Bool
  | .declaredType | .constraint | .defaultType => true
  | .typeNode => [typeAlias, typeAssertion].contains p
  | .typeArguments => [call, taggedTemplate, jsxOpening, exprWithTypeArgs].contains p
  | _ => false

/-- **Types are written in a field** of the nodes of a kind: whatever stands in a type is one, and
elsewhere there are fields for them. -/
def isTypeSlot (kind : SyntaxKind) (p : Pool) (f : Field) : Bool :=
  kind.isTypeForm || p.holdsTypes f

/-- Between the angle brackets of tagged templates and of tags nobody looks for types. -/
def isOverlooked (p : Pool) (f : Field) : Bool :=
  f == .typeArguments && [taggedTemplate, jsxOpening].contains p

/-- **The slots that are misread**: types that are overlooked, and values that type arguments may
stand behind, since the two together count as a type. -/
def isMisread (kind : SyntaxKind) (p : Pool) (f : Field) : Bool :=
  if p.isTypeSlot kind f then !kind.isType && p.isOverlooked f
  else kind == .expressionWithTypeArguments

variable {p : Pool} {f : Field} {kind : SyntaxKind}

/-- The list of the fields with types has all but those that are overlooked. -/
theorem contains_typeFields (hf : f ∈ p.layout) :
    p.typeFields.contains f = (p.holdsTypes f && !p.isOverlooked f) := by
  have hall : ∀ p ∈ all, ∀ f ∈ p.layout,
      p.typeFields.contains f = (p.holdsTypes f && !p.isOverlooked f) := by
    decide
  exact hall p p.mem_all f hf

/-- A field with types is one of the fields with the children. -/
theorem mem_childFields_of_mem_typeFields (hf : f ∈ p.typeFields) : f ∈ p.childFields kind := by
  have hall : ∀ p ∈ all, ∀ f ∈ p.typeFields, p ≠ loop ∧ f ∈ p.layout := by
    decide
  obtain ⟨hp, hlayout⟩ := hall p p.mem_all f hf
  exact mem_childFields hp hlayout kind

/-- The fields with the children are fields of the layout. -/
theorem mem_layout_of_mem_childFields (hf : f ∈ p.childFields kind) : f ∈ p.layout := by
  rw [childFields] at hf
  split at hf
  · next h =>
    obtain ⟨rfl, -⟩ := h
    exact (by decide : ∀ f ∈ [Field.typeNode, .expression], f ∈ typeAssertion.layout) f hf
  · split at hf
    · next h =>
      obtain ⟨rfl, -⟩ := h
      exact (by decide : ∀ f ∈ [Field.statement, .condition], f ∈ loop.layout) f hf
    · exact hf

/-- **A slot is taken for one of a type** if it is one and is not misread, or is none and is. -/
theorem isType_or_contains_typeFields (hf : f ∈ p.layout) :
    (kind.isType || p.typeFields.contains f) = (p.isTypeSlot kind f != p.isMisread kind f) := by
  rw [contains_typeFields hf, isMisread, isTypeSlot, SyntaxKind.isTypeForm]
  by_cases hkind : kind = .expressionWithTypeArguments
  · -- The kind counts as a type, so both of its fields are taken for those of types.
    subst hkind
    cases p.holdsTypes f <;> rfl
  · rw [beq_false_of_ne hkind, bne_iff_ne.mpr hkind]
    cases kind.isType <;> cases p.holdsTypes f <;> cases p.isOverlooked f <;> rfl

end Pool

namespace Arena

variable {a : Arena} {i j : NodeId} {kind : SyntaxKind} {p : Pool} {f : Field}

/-- **A node stands in a field** of the node above it, which is of a kind and has its parts in a
pool. -/
inductive StandsAt (a : Arena) (i : NodeId) : SyntaxKind → Pool → Field → Prop
  | intro {j : NodeId} {m : Node} {p : Pool} {d : Data p} {f : Field}
      (hparent : a.parent (some i) = some j) (hm : a.nodes[j]? = some m)
      (hd : a.data? p m = some d) (hf : f ∈ p.childFields m.kind) (hi : i ∈ d.refs f) :
      StandsAt a i m.kind p f

/-- Where parents list their children, every node with a parent stands in a field of it. -/
theorem exists_standsAt (hlinked : a.IsLinked) (hparent : a.parent (some i) = some j) :
    ∃ kind p f, a.StandsAt i kind p f := by
  obtain ⟨m, p, d, f, hm, hd, hf, hi⟩ := exists_mem_refs_of_isChild (hlinked i j hparent)
  exact ⟨m.kind, p, f, hparent, hm, hd, hf, hi⟩

/-- A node that lists every child once has it in one field only. -/
theorem eq_of_mem_refs {d : Data p} {g : Field} (honce : (Data.children kind d).Nodup)
    (hf : f ∈ p.childFields kind) (hg : g ∈ p.childFields kind) (hi : i ∈ d.refs f)
    (hi' : i ∈ d.refs g) : f = g := by
  by_contra hne
  have hsymm : Std.Symm (Function.onFun List.Disjoint d.refs) := ⟨fun _ _ h => h.symm⟩
  exact (List.nodup_flatMap.mp honce).2.forall hf hg hne hi hi'

/-- **A slot is read as what it is, unless it is misread.** -/
theorem StandsAt.inTypePosition_eq (h : a.StandsAt i kind p f)
    (honce : (a.children (a.parent (some i))).Nodup) :
    a.inTypePosition i = (p.isTypeSlot kind f != p.isMisread kind f) := by
  obtain ⟨hparent, hm, hd, hf, hi⟩ := h
  rw [hparent, children_of_node hm, childrenOf_of_data? hd] at honce
  rw [inTypePosition, hparent, node?_some, hm]
  dsimp only
  rw [pool_of_data? hd]
  dsimp only
  rw [hd, Option.any_some,
    ← Pool.isType_or_contains_typeFields (Pool.mem_layout_of_mem_childFields hf)]
  congr 1
  -- The node is looked for in all fields with types, and no field but this one has it.
  rw [Bool.eq_iff_iff, List.any_eq_true, List.contains_iff_mem]
  constructor
  · rintro ⟨g, hg, hi'⟩
    obtain rfl : f = g := eq_of_mem_refs honce hf (Pool.mem_childFields_of_mem_typeFields hg) hi
      (List.contains_iff_mem.mp hi')
    exact hg
  · intro hg
    exact ⟨f, hg, List.contains_iff_mem.mpr hi⟩

end Arena

end ScriptTree
