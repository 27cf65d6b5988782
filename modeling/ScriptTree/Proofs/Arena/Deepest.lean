import ScriptTree.Proofs.Arena.Covering

/-!
# The deepest node around a range

The descent to a range takes at every node the first child that contains the range, and never comes
back. Where spans are nested and siblings disjoint there is nothing to come back for: of two nodes
that contain the range one lies below the other, so the nodes that contain it are those on the way
from the root to one of them, and the descent goes this way to its end
(`ScriptTree.Arena.IsNested.nodeContaining_deepest`).
-/

namespace ScriptTree

namespace Arena

/-- The span of a node contains a range. -/
def Encloses (a : Arena) (i : NodeId) (start stop : Nat) : Prop :=
  ∃ n, a.nodes[i]? = some n ∧ n.pos ≤ start ∧ stop ≤ n.stop

variable {a : Arena} {root : NodeRef} {i j : NodeId} {start stop : Nat}

/-- A node contains a range if it covers its first and its last offset. -/
theorem encloses_iff (hlt : start < stop) :
    a.Encloses i start stop ↔ a.Covers i start ∧ a.Covers i (stop - 1) := by
  constructor
  · rintro ⟨n, hn, hpos, hstop⟩
    exact ⟨⟨n, hn, by omega⟩, ⟨n, hn, by omega⟩⟩
  · rintro ⟨⟨n, hn, hstart⟩, hlast⟩
    have hlast' := (covers_iff hn).mp hlast
    exact ⟨n, hn, by omega⟩

/-- Nothing is found exactly if the root does not contain the range. -/
theorem nodeContaining_eq_some_none_iff (a : Arena) (root : NodeRef) (start stop : Nat) :
    a.nodeContaining root start stop = some none ↔ ∀ r ∈ root, ¬ a.Encloses r start stop := by
  unfold nodeContaining
  cases root with
  | none => exact iff_of_true rfl (by rintro r ⟨⟩)
  | some r =>
    simp only [Option.mem_def, Option.some.injEq, forall_eq', Encloses]
    cases hn : a.nodes[r]? with
    | none => simp
    | some n => simp [Node.contains]

namespace IsNested

/-- Below a node that contains a range there is one of which no child contains it. -/
theorem exists_deepest (h : a.IsNested root) (hj : a.Reaches root j)
    (hin : a.Encloses j start stop) :
    ∃ i, Relation.ReflTransGen a.IsChild j i ∧ a.Encloses i start stop ∧
      ∀ k, a.IsChild i k → ¬ a.Encloses k start stop := by
  induction hheight : a.height j using Nat.strong_induction_on generalizing j with
  | _ height ih =>
    by_cases hchild : ∃ k, a.IsChild j k ∧ a.Encloses k start stop
    · obtain ⟨k, hjk, hk⟩ := hchild
      have hkreach := hj.isChild hjk
      obtain ⟨n, hn, -⟩ := id hk
      have hless := height_lt_of_isChild (h.not_below_self hkreach) hjk
        (Array.getElem?_eq_some_iff.mp hn).1
      obtain ⟨i, hki, hdeepest⟩ := ih _ (hheight ▸ hless) hkreach hk rfl
      exact ⟨i, .head hjk hki, hdeepest⟩
    · exact ⟨j, .refl, hin, fun k hjk hk => hchild ⟨k, hjk, hk⟩⟩

/-- A node that contains a range lies above a node of which no child contains it. -/
theorem below_of_encloses (h : a.IsNested root) (hlt : start < stop) (hi : a.Reaches root i)
    (hin : a.Encloses i start stop) (hlast : ∀ k, a.IsChild i k → ¬ a.Encloses k start stop)
    (hj : a.Reaches root j) (hjin : a.Encloses j start stop) :
    Relation.ReflTransGen a.IsChild j i := by
  have hcovers := (encloses_iff hlt).mp hin
  have hjcovers := (encloses_iff hlt).mp hjin
  rcases h.below_or_below hi hj hcovers.1 hjcovers.1 with hij | hji
  · rcases Relation.ReflTransGen.cases_head hij with rfl | ⟨k, hik, hkj⟩
    · exact .refl
    · -- The child on the way down to the other node would contain the range as well.
      have hk := hi.isChild hik
      exact absurd ((encloses_iff hlt).mpr
        ⟨h.covers_of_below hk hkj hjcovers.1, h.covers_of_below hk hkj hjcovers.2⟩) (hlast k hik)
  · exact hji

/-- **The deepest node around a range is found.** The search has an end. Nothing is found exactly if
the root does not contain the range. Otherwise a node below the root is found that contains the
range, and every node below the root that contains it is this node or lies above it. -/
theorem nodeContaining_deepest (h : a.IsNested root) (hlt : start < stop) :
    ∃ found, a.nodeContaining root start stop = some found ∧
      (found = none ↔ ∀ r ∈ root, ¬ a.Encloses r start stop) ∧
      ∀ i ∈ found, a.Reaches root i ∧ a.Encloses i start stop ∧
        ∀ j, a.Reaches root j → a.Encloses j start stop → Relation.ReflTransGen a.IsChild j i := by
  have hnone := nodeContaining_eq_some_none_iff a root start stop
  by_cases hout : ∀ r ∈ root, ¬ a.Encloses r start stop
  · exact ⟨none, hnone.mpr hout, iff_of_true rfl hout, nofun⟩
  · obtain ⟨r, hr, hrin⟩ : ∃ r ∈ root, a.Encloses r start stop := by
      by_contra hin
      exact hout fun r hr hrin => hin ⟨r, hr, hrin⟩
    obtain ⟨i, hri, hin, hlast⟩ := h.exists_deepest ⟨r, hr, .refl⟩ hrin
    have hi : a.Reaches root i := ⟨r, hr, hri⟩
    have hcovers := (encloses_iff hlt).mp hin
    refine ⟨some i, ?_, iff_of_false (Option.some_ne_none i) hout, ?_⟩
    · exact h.nodeContaining_eq hlt hi hcovers.1 hcovers.2
        fun c hc hstart hstop => hlast c hc ((encloses_iff hlt).mpr ⟨hstart, hstop⟩)
    · rintro _ ⟨⟩
      exact ⟨hi, hin, fun j hj hjin => h.below_of_encloses hlt hi hin hlast hj hjin⟩

end IsNested

/-- The tree of `a+;`, whose right operand is missing: a name without width stands for it. The file
lists one more statement, which is not there. -/
def halfSum : Arena where
  nodes := #[
    { kind := .identifier, pos := 0, stop := 1, pool := some .identifier, dataIndex := 0 },
    { kind := .identifier, pos := 2, stop := 2, pool := some .identifier, dataIndex := 1 },
    { kind := .binaryExpression, pos := 0, stop := 2, pool := some .binary, dataIndex := 0 },
    { kind := .expressionStatement, pos := 0, stop := 3, pool := some .exprStatement
      dataIndex := 0 },
    { kind := .sourceFile, pos := 0, stop := 3, pool := some .sourceFile, dataIndex := 0 }]
  parents := #[some 2, some 2, some 3, some 4, none]
  pools := fun
    | .identifier => #[⟨"a", ()⟩, ⟨"", ()⟩]
    | .binary => #[⟨some 0, .plusToken, some 1, ()⟩]
    | .exprStatement => #[⟨some 2, ()⟩]
    | .sourceFile => #[⟨⟨[some 9, some 3], 0, 3, false⟩, none, "input.ts", "a+;", .latest, false, [],
        ()⟩]
    | _ => #[]

/-- The plus sign belongs to the sum, and the statement and the file lie above it. -/
theorem halfSum_plus :
    halfSum.IsNested (some 4) ∧ halfSum.nodeContaining (some 4) 1 2 = some (some 2) ∧
      halfSum.nodeContaining (some 4) 1 4 = some none ∧ halfSum.Encloses 2 1 2 ∧
      ∀ j, halfSum.Reaches (some 4) j → halfSum.Encloses j 1 2 →
        Relation.ReflTransGen halfSum.IsChild j 2 := by
  have hnested : halfSum.IsNested (some 4) :=
    isNested_of_forall (isTree_of_forall (by decide) (by decide))
      (by decide) (by decide)
  have hplus : halfSum.nodeContaining (some 4) 1 2 = some (some 2) := by decide
  obtain ⟨found, hfound, -, hdeepest⟩ := hnested.nodeContaining_deepest (show 1 < 2 by decide)
  obtain rfl := Option.some.inj (hplus.symm.trans hfound)
  obtain ⟨-, hin, habove⟩ := hdeepest 2 rfl
  obtain ⟨found, hfound, hnone, -⟩ := hnested.nodeContaining_deepest (show 1 < 4 by decide)
  refine ⟨hnested, hplus, ?_, hin, habove⟩
  rw [hfound, hnone.mpr]
  rintro r ⟨⟩ ⟨n, ⟨⟩, -, hstop⟩
  exact absurd hstop (by decide)

end Arena

end ScriptTree
