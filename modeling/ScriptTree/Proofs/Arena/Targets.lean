import ScriptTree.Proofs.Arena.Trees
import ScriptTree.Proofs.Convert.Found

/-!
# Destructuring targets

A literal is a target if something is assigned to it, or if it stands in another target
(`ScriptTree.Arena.IsTarget`). The places of a literal that count are its elements and the values of
its properties, and the insides of parentheses in such a place (`ScriptTree.Arena.StandsIn`).

What stands behind three dots is assigned to as well, and so a literal there is a target by right.
But the climb along the parents stops at the dots. So the relations here have a parameter for
whether such places count; the roles that are found are those of the relations in which they do not
(`ScriptTree.Arena.IsLinkedTree.literalRole_iff`).
-/

namespace ScriptTree

namespace SyntaxKind

/-- Literals that are read as targets or as values. -/
def hasRole : SyntaxKind → Bool
  | .arrayLiteralExpression | .objectLiteralExpression => true
  | _ => false

theorem hasRole_iff {k : SyntaxKind} :
    k.hasRole = true ↔ k = .arrayLiteralExpression ∨ k = .objectLiteralExpression := by
  constructor
  · intro h
    unfold hasRole at h
    split at h
    · exact .inl rfl
    · exact .inr rfl
    · cases h
  · rintro (rfl | rfl) <;> rfl

/-- Three dots before a part of a literal. -/
def isSpread : SyntaxKind → Bool
  | .spreadElement | .spreadAssignment => true
  | _ => false

end SyntaxKind

namespace Arena

/-- **One node assigns to the other**: to the left operand of `=`, or to what a loop over the items
or keys of a value binds. -/
inductive Assigns (a : Arena) (j i : NodeId) : Prop
  | operand {n : Node} {d : Data .binary} (hn : a.nodes[j]? = some n)
      (hk : n.kind = .binaryExpression) (hd : a.data? .binary n = some d)
      (hoperator : d.get .operatorToken = .equalsToken) (hleft : d.get .left = some i)
  | binding {n : Node} {d : Data .forInOf} (hn : a.nodes[j]? = some n)
      (hk : n.kind = .forInStatement ∨ n.kind = .forOfStatement)
      (hd : a.data? .forInOf n = some d) (hbound : d.get .initializer = some i)

/-- **A node stands in a literal**, where it is assigned to if the literal is. The places behind
three dots may count, or not. -/
inductive StandsIn (a : Arena) (dots : Bool) (l : NodeId) : NodeId → Prop
  /-- An element of an array. -/
  | element {i : NodeId} (hl : a.kind? (some l) = some .arrayLiteralExpression)
      (hi : a.IsChild l i) : StandsIn a dots l i
  /-- The value of a property of an object. -/
  | value {p i : NodeId} {n : Node} {d : Data .propertyAssignment}
      (hl : a.kind? (some l) = some .objectLiteralExpression) (hp : a.IsChild l p)
      (hn : a.nodes[p]? = some n) (hk : n.kind = .propertyAssignment)
      (hd : a.data? .propertyAssignment n = some d) (hi : d.get .initializer = some i) :
      StandsIn a dots l i
  /-- What three dots stand before. -/
  | spread {q i : NodeId} {n m : Node} (hdots : dots = true) (hl : a.nodes[l]? = some n)
      (hk : n.kind.hasRole = true) (hq : a.IsChild l q) (hm : a.nodes[q]? = some m)
      (hspread : m.kind.isSpread = true) (hi : a.IsChild q i) : StandsIn a dots l i
  /-- What is in parentheses. -/
  | inside {q i : NodeId} (hq : StandsIn a dots l q)
      (hk : a.kind? (some q) = some .parenthesizedExpression) (hi : a.IsChild q i) :
      StandsIn a dots l i

/-- **A node is a target**: something is assigned to it, or it stands in a literal that is a
target. -/
inductive IsTarget (a : Arena) (dots : Bool) : NodeId → Prop
  | assigned {j i : NodeId} (h : a.Assigns j i) : IsTarget a dots i
  | nested {l i : NodeId} (hl : IsTarget a dots l) (hi : a.StandsIn dots l i) : IsTarget a dots i

/-- The members of literals are of the kinds that a parser puts there: the properties are in
objects, and the members of an object are neither literals nor parentheses. -/
structure HasPlainMembers (a : Arena) (root : NodeRef) : Prop where
  object_of_property : ∀ l p, a.Reaches root l → a.IsChild l p →
    a.kind? (some p) = some .propertyAssignment → a.kind? (some l) = some .objectLiteralExpression
  member_of_object : ∀ l i n, a.Reaches root l → a.IsChild l i →
    a.kind? (some l) = some .objectLiteralExpression → a.nodes[i]? = some n →
    n.kind.hasRole = false ∧ n.kind ≠ .parenthesizedExpression

variable {a : Arena} {root : NodeRef} {i j l : NodeId} {n m : Node}

/-- It is enough that all nodes of the arena have plain members. -/
theorem hasPlainMembers_of_forall
    (h : ∀ l < a.nodes.size, ∀ i ∈ a.children (some l), ∀ m ∈ a.nodes[i]?,
      (m.kind = .propertyAssignment → a.kind? (some l) = some .objectLiteralExpression) ∧
      (a.kind? (some l) = some .objectLiteralExpression →
        m.kind.hasRole = false ∧ m.kind ≠ .parenthesizedExpression)) (root : NodeRef) :
    a.HasPlainMembers root where
  object_of_property l p _ hp hk := by
    obtain ⟨m, hm, hk⟩ := Option.map_eq_some_iff.mp hk
    exact (h l (lt_size_of_isChild hp) p hp m hm).1 hk
  member_of_object l i m _ hi hl hm := (h l (lt_size_of_isChild hi) i hi m hm).2 hl

/-! ### One step up -/

theorem kind?_eq (hn : a.nodes[i]? = some n) : a.kind? (some i) = some n.kind := by
  rw [kind?, node?_some, hn]
  rfl

/-- What one node assigns to is a child of it. -/
theorem Assigns.isChild (h : a.Assigns j i) : a.IsChild j i := by
  rcases h with ⟨hn, -, hd, -, hleft⟩ | ⟨hn, -, hd, hbound⟩
  · have hfield : .left ∈ Pool.binary.layout := by decide
    exact isChild_of_nodeAt hn hd (Pool.mem_childFields (by decide) hfield _) hleft
  · have hfield : .initializer ∈ Pool.forInOf.layout := by decide
    exact isChild_of_nodeAt hn hd (Pool.mem_childFields (by decide) hfield _) hbound

namespace IsLinkedTree

/-- **Whether something is assigned to a node** is told by the node that lists it. -/
theorem isAssigned_iff (h : a.IsLinkedTree root) (hi : a.Reaches root i)
    (hn : a.nodes[i]? = some n) : a.isAssigned (some i) = true ↔ ∃ j, a.Assigns j i := by
  constructor
  · intro hassigned
    rw [isAssigned] at hassigned
    cases hup : a.parent (some i) with
    | none => simp [hup] at hassigned
    | some j =>
      rw [hup, node?_some] at hassigned
      cases hj : a.nodes[j]? with
      | none => simp [hj] at hassigned
      | some m =>
        simp only [hj] at hassigned
        split at hassigned
        · next hk =>
          obtain ⟨d, hd, hleft⟩ := Option.any_eq_true .. |>.mp hassigned
          obtain ⟨hoperator, hleft⟩ := Bool.and_eq_true .. |>.mp hleft
          exact ⟨j, .operand hj hk hd (beq_iff_eq.mp hoperator) (beq_iff_eq.mp hleft)⟩
        · split at hassigned
          · next hk =>
            obtain ⟨d, hd, hbound⟩ := Option.any_eq_true .. |>.mp hassigned
            exact ⟨j, .binding hj hk hd (beq_iff_eq.mp hbound)⟩
          · cases hassigned
  · rintro ⟨j, hassigns⟩
    rw [isAssigned, h.parent_eq hi hn hassigns.isChild, node?_some]
    rcases hassigns with ⟨hj, hk, hd, hoperator, hleft⟩ | ⟨hj, hk, hd, hbound⟩
    · simp [hj, hk, hd, hoperator, hleft]
    · rcases hk with hk | hk <;> simp [hj, hk, hd, hbound]

/-- How a literal is read is decided by what is assigned to it, or by the climb. -/
theorem literalRole_eq_pattern_iff : a.literalRole (some i) = some .pattern ↔
    a.isAssigned (some i) = true ∨ a.inPattern (some i) = some true := by
  rw [literalRole]
  by_cases hassigned : a.isAssigned (some i) = true
  · simp [hassigned]
  · simp [hassigned]

/-- **One step of the climb** to the literal around a node. -/
theorem inPattern_iff (h : a.IsLinkedTree root) (hi : a.Reaches root i)
    (hn : a.nodes[i]? = some n) (hchild : a.IsChild j i) (hm : a.nodes[j]? = some m) :
    a.inPattern (some i) = some true ↔
      m.kind.hasRole = true ∧ a.literalRole (some j) = some .pattern ∨
      m.kind = .propertyAssignment ∧ a.inPattern (some j) = some true ∧
        ((a.data? .propertyAssignment m).any fun d => d.get .initializer == some i) = true ∨
      m.kind = .parenthesizedExpression ∧ a.inPattern (some j) = some true := by
  have hup := h.parent_eq hi hn hchild
  have hanswer {inside : Bool} (hturn : a.climbTargets (some i) = .answer inside) :
      a.inPattern (some i) = some inside := search_of_answer hturn
  have hgoOn (hturn : a.climbTargets (some i) = .goOn (some j)) :
      a.inPattern (some i) = a.inPattern (some j) := a.explores_climbTargets.search_of_goOn hturn
  simp only [climbTargets, hup, node?_some, hm, ← SyntaxKind.hasRole_iff] at hanswer hgoOn
  by_cases hrole : m.kind.hasRole = true
  · have hproperty : m.kind ≠ .propertyAssignment := fun hk => by rw [hk] at hrole; cases hrole
    have hparens : m.kind ≠ .parenthesizedExpression := fun hk => by rw [hk] at hrole; cases hrole
    simp only [hrole, if_true, true_and, hproperty, hparens, false_and, or_false,
      literalRole_eq_pattern_iff] at hanswer hgoOn ⊢
    by_cases hassigned : a.isAssigned (some j) = true
    · simp [hanswer (if_pos hassigned), hassigned]
    · simp [hgoOn (if_neg hassigned), hassigned]
  · simp only [hrole, Bool.false_eq_true, if_false, false_and, false_or] at hanswer hgoOn ⊢
    by_cases hproperty : m.kind = .propertyAssignment
    · simp only [hproperty, if_true, true_and, reduceCtorEq, false_and, or_false] at hanswer hgoOn ⊢
      by_cases hvalue :
          ((a.data? .propertyAssignment m).any fun d => d.get .initializer == some i) = true
      · simp [hgoOn (if_pos hvalue), hvalue]
      · simp [hanswer (if_neg hvalue), hvalue]
    · simp only [hproperty, if_false, false_and, false_or] at hanswer hgoOn ⊢
      by_cases hparens : m.kind = .parenthesizedExpression
      · simp [hgoOn (if_pos hparens), hparens]
      · simp [hanswer (if_neg hparens), hparens]

end IsLinkedTree

/-! ### The whole climb -/

/-- A target is assigned to, or stands in another one. -/
theorem isTarget_iff {dots : Bool} : a.IsTarget dots i ↔
    (∃ j, a.Assigns j i) ∨ ∃ l, a.IsTarget dots l ∧ a.StandsIn dots l i := by
  constructor
  · rintro (hassigned | ⟨hl, hi⟩)
    · exact .inl ⟨_, hassigned⟩
    · exact .inr ⟨_, hl, hi⟩
  · rintro (⟨j, hassigned⟩ | ⟨l, hl, hi⟩)
    · exact .assigned hassigned
    · exact .nested hl hi

theorem StandsIn.dots (h : a.StandsIn false l i) : a.StandsIn true l i := by
  induction h with
  | element hl hi => exact .element hl hi
  | value hl hp hn hk hd hi => exact .value hl hp hn hk hd hi
  | spread hdots => cases hdots
  | inside _ hk hi ih => exact .inside ih hk hi

/-- A target stays one if the places behind dots count as well. -/
theorem IsTarget.dots (h : a.IsTarget false i) : a.IsTarget true i := by
  induction h with
  | assigned h => exact .assigned h
  | nested _ hi ih => exact .nested ih hi.dots

/-- What the climb finds: the node stands in a target, or is a member of one, as the property around
a value is. -/
def IsPartOfTarget (a : Arena) (i : NodeId) : Prop :=
  ∃ l, a.IsTarget false l ∧ (a.StandsIn false l i ∨
    a.kind? (some l) = some .objectLiteralExpression ∧ a.IsChild l i)

/-- A node that stands somewhere is listed there. -/
theorem StandsIn.exists_isChild {dots : Bool} (h : a.StandsIn dots l i) : ∃ j, a.IsChild j i := by
  rcases h with ⟨-, hi⟩ | ⟨-, -, hn, -, hd, hi⟩ | ⟨-, -, -, -, -, -, hi⟩ | ⟨-, -, hi⟩
  · exact ⟨_, hi⟩
  · have hfield : .initializer ∈ Pool.propertyAssignment.layout := by decide
    exact ⟨_, isChild_of_nodeAt hn hd (Pool.mem_childFields (by decide) hfield _) hi⟩
  · exact ⟨_, hi⟩
  · exact ⟨_, hi⟩

namespace IsLinkedTree

/-- What holds of the climbs from all nodes of a tree, since the root has nothing above it, and a
climb is that from the node above, one step further. -/
theorem climb_induction {P : NodeId → Prop} (h : a.IsLinkedTree root) (hi : a.Reaches root i)
    (hn : a.nodes[i]? = some n)
    (hroot : ∀ r, (∀ j, ¬ a.IsChild j r) → a.inPattern (some r) = some false → P r)
    (hstep : ∀ j i n m, a.Reaches root j → a.IsChild j i → a.nodes[i]? = some n →
      a.nodes[j]? = some m → P j → P i) : P i := by
  refine hi.induction (P := fun i => ∀ n, a.nodes[i]? = some n → P i) ?_ ?_ n hn
  · rintro r rfl n -
    have hnone := h.parent_root
    have hturn : a.climbTargets (some r) = .answer false := by
      rw [climbTargets, hnone]
      rfl
    exact hroot r (fun j => h.not_isChild rfl) (search_of_answer hturn)
  · intro j i hj hchild ih n hn
    have hm := Array.getElem?_eq_getElem (lt_size_of_isChild hchild)
    exact hstep j i n _ hj hchild hn hm (ih _ hm)

/-! ### Targets are found -/

/-- A literal that is a target has the role of one, if the climb finds what it is a part of. -/
theorem literalRole_of_isTarget (h : a.IsLinkedTree root) (hi : a.Reaches root i)
    (hn : a.nodes[i]? = some n) (hpart : a.IsPartOfTarget i → a.inPattern (some i) = some true)
    (htarget : a.IsTarget false i) : a.literalRole (some i) = some .pattern := by
  rw [literalRole_eq_pattern_iff]
  rcases isTarget_iff.mp htarget with hassigned | ⟨l, hl, hstands⟩
  · exact .inl ((h.isAssigned_iff hi hn).mpr hassigned)
  · exact .inr (hpart ⟨l, hl, .inl hstands⟩)

/-- What a node is a part of is found from it, if that of the node above is. -/
theorem inPattern_of_isPartOfTarget_above (h : a.IsLinkedTree root) (hi : a.Reaches root i)
    (hn : a.nodes[i]? = some n) (hchild : a.IsChild j i) (hm : a.nodes[j]? = some m)
    (habove : a.IsPartOfTarget j → a.inPattern (some j) = some true) (hpart : a.IsPartOfTarget i) :
    a.inPattern (some i) = some true := by
  have hj := h.isClosed i j hi hchild
  -- Only one node lists the node, so the literal is found where the climb looks for it.
  have hsame {k : NodeId} (hk : a.IsChild k i) : k = j := h.eq_of_isChild_of_reaches hi hk hchild
  have hliteral {l : NodeId} {k : SyntaxKind} (hchild' : a.IsChild l i)
      (htarget : a.IsTarget false l) (hl : a.kind? (some l) = some k) (hk : k.hasRole = true) :
      m.kind.hasRole = true ∧ a.literalRole (some j) = some .pattern := by
    obtain rfl := hsame hchild'
    rw [kind?_eq hm, Option.some.injEq] at hl
    rw [← hl] at hk
    exact ⟨hk, h.literalRole_of_isTarget hj hm habove htarget⟩
  rw [h.inPattern_iff hi hn hchild hm]
  obtain ⟨l, htarget, (⟨hl, hchild'⟩ | @⟨p, _, n', d, hl, hmember, hn', hk, hd, hvalue⟩ |
    ⟨hdots, -, -, -, -, -, -⟩ | ⟨hstands, hl, hchild'⟩) | ⟨hl, hchild'⟩⟩ := hpart
  · exact .inl (hliteral hchild' htarget hl rfl)
  · have hfield : .initializer ∈ Pool.propertyAssignment.layout := by decide
    obtain rfl : p = j :=
      hsame (isChild_of_nodeAt hn' hd (Pool.mem_childFields (by decide) hfield _) hvalue)
    obtain rfl : m = n' := Option.some.inj (hm.symm.trans hn')
    have hup := habove ⟨l, htarget, .inr ⟨hl, hmember⟩⟩
    exact .inr (.inl ⟨hk, hup, by rw [hd, Option.any_some, hvalue, beq_self_eq_true]⟩)
  · cases hdots
  · obtain rfl := hsame hchild'
    have hup := habove ⟨l, htarget, .inl hstands⟩
    rw [kind?_eq hm, Option.some.injEq] at hl
    exact .inr (.inr ⟨hl, hup⟩)
  · exact .inl (hliteral hchild' htarget hl rfl)

/-- **The climb finds the targets that a node is a part of.** -/
theorem inPattern_of_isPartOfTarget (h : a.IsLinkedTree root) (hi : a.Reaches root i)
    (hn : a.nodes[i]? = some n) : a.IsPartOfTarget i → a.inPattern (some i) = some true := by
  refine h.climb_induction (P := fun i => a.IsPartOfTarget i → a.inPattern (some i) = some true) hi hn
    ?_ ?_
  · rintro r hnone - ⟨l, -, hstands | ⟨-, hchild⟩⟩
    · obtain ⟨j, hchild⟩ := hstands.exists_isChild
      exact absurd hchild (hnone j)
    · exact absurd hchild (hnone l)
  · intro j i n m hj hchild hn hm ih
    exact h.inPattern_of_isPartOfTarget_above (hj.isChild hchild) hn hchild hm ih

/-! ### Nothing else is found -/

/-- Of a literal, and of parentheses, the climb finds no more than that it stands in a target. -/
theorem isPartOfTarget_iff (h : a.IsLinkedTree root) (hplain : a.HasPlainMembers root)
    (hi : a.Reaches root i) (hn : a.nodes[i]? = some n)
    (hk : n.kind.hasRole = true ∨ n.kind = .parenthesizedExpression) :
    a.IsPartOfTarget i ↔ ∃ l, a.IsTarget false l ∧ a.StandsIn false l i := by
  refine exists_congr fun l => and_congr_right fun _ => or_iff_left ?_
  rintro ⟨hl, hchild⟩
  obtain ⟨hrole, hparens⟩ :=
    hplain.member_of_object l i n (h.isClosed i l hi hchild) hchild hl hn
  rcases hk with hk | hk
  · rw [hrole] at hk
    cases hk
  · exact hparens hk

/-- Of a property the climb finds no more than that it is a member of a target. -/
theorem isPartOfTarget_property_iff (h : a.IsLinkedTree root) (hplain : a.HasPlainMembers root)
    (hi : a.Reaches root i) (hn : a.nodes[i]? = some n) (hk : n.kind = .propertyAssignment) :
    a.IsPartOfTarget i ↔ ∃ l, a.IsTarget false l ∧
      a.kind? (some l) = some .objectLiteralExpression ∧ a.IsChild l i := by
  refine exists_congr fun l => and_congr_right fun _ => or_iff_right ?_
  have hobject (j : NodeId) (hchild : a.IsChild j i) :
      a.kind? (some j) = some .objectLiteralExpression :=
    hplain.object_of_property j i (h.isClosed i j hi hchild) hchild ((kind?_eq hn).trans
      (congrArg some hk))
  rintro (⟨hl, hchild⟩ | ⟨-, -, hm, hkind, hd, hvalue⟩ | ⟨hdots, -, -, -, -, -, -⟩ |
    ⟨-, hl, hchild⟩)
  · rw [hobject l hchild] at hl
    cases hl
  · have hfield : .initializer ∈ Pool.propertyAssignment.layout := by decide
    have hchild := isChild_of_nodeAt hm hd (Pool.mem_childFields (by decide) hfield _) hvalue
    have hkind' := hobject _ hchild
    rw [kind?_eq hm, hkind] at hkind'
    cases hkind'
  · cases hdots
  · rw [hobject _ hchild] at hl
    cases hl

/-- A literal with the role of a target is one, if the climb finds only what it is a part of. -/
theorem isTarget_of_literalRole (h : a.IsLinkedTree root) (hplain : a.HasPlainMembers root)
    (hi : a.Reaches root i) (hn : a.nodes[i]? = some n) (hk : n.kind.hasRole = true)
    (hpart : a.inPattern (some i) = some true → a.IsPartOfTarget i)
    (hrole : a.literalRole (some i) = some .pattern) : a.IsTarget false i := by
  rw [isTarget_iff, ← h.isPartOfTarget_iff hplain hi hn (.inl hk), ← h.isAssigned_iff hi hn]
  exact (literalRole_eq_pattern_iff.mp hrole).imp_right hpart

/-- A node is a part of what is found from it, if the node above is of what is found from there. -/
theorem isPartOfTarget_of_inPattern_above (h : a.IsLinkedTree root)
    (hplain : a.HasPlainMembers root) (hi : a.Reaches root i) (hn : a.nodes[i]? = some n)
    (hchild : a.IsChild j i) (hm : a.nodes[j]? = some m)
    (habove : a.inPattern (some j) = some true → a.IsPartOfTarget j)
    (hfound : a.inPattern (some i) = some true) : a.IsPartOfTarget i := by
  have hj := h.isClosed i j hi hchild
  have hkind {k : SyntaxKind} (hk : m.kind = k) : a.kind? (some j) = some k :=
    (kind?_eq hm).trans (congrArg some hk)
  -- The node above is a literal, the assignment of a property, or a pair of parentheses.
  rcases (h.inPattern_iff hi hn hchild hm).mp hfound with ⟨hk, hrole⟩ | ⟨hk, hup, hvalue⟩ | ⟨hk, hup⟩
  · have htarget := h.isTarget_of_literalRole hplain hj hm hk habove hrole
    rcases SyntaxKind.hasRole_iff.mp hk with hk | hk
    · exact ⟨j, htarget, .inl (.element (hkind hk) hchild)⟩
    · exact ⟨j, htarget, .inr ⟨hkind hk, hchild⟩⟩
  · obtain ⟨d, hd, hvalue⟩ := Option.any_eq_true .. |>.mp hvalue
    obtain ⟨l, htarget, hl, hmember⟩ :=
      (h.isPartOfTarget_property_iff hplain hj hm hk).mp (habove hup)
    exact ⟨l, htarget, .inl (.value hl hmember hm hk hd (beq_iff_eq.mp hvalue))⟩
  · obtain ⟨l, htarget, hstands⟩ :=
      (h.isPartOfTarget_iff hplain hj hm (.inr hk)).mp (habove hup)
    exact ⟨l, htarget, .inl (.inside hstands (hkind hk) hchild)⟩

/-- **The climb finds nothing else**, if the members of literals are those that a parser puts
there. -/
theorem isPartOfTarget_of_inPattern (h : a.IsLinkedTree root) (hplain : a.HasPlainMembers root)
    (hi : a.Reaches root i) (hn : a.nodes[i]? = some n) :
    a.inPattern (some i) = some true → a.IsPartOfTarget i := by
  refine h.climb_induction (P := fun i => a.inPattern (some i) = some true → a.IsPartOfTarget i) hi hn
    ?_ ?_
  · intro r _ hnone hfound
    rw [hnone] at hfound
    cases hfound
  · intro j i n m hj hchild hn hm ih
    exact h.isPartOfTarget_of_inPattern_above hplain (hj.isChild hchild) hn hchild hm ih

/-! ### Literals -/

/-- **The role of a literal.** A literal has the role of a target if something is assigned to it, or
it stands in a target, and not behind three dots; and only then, if the members of literals are those
that a parser puts there. -/
theorem literalRole_iff (h : a.IsLinkedTree root) (hi : a.Reaches root i)
    (hn : a.nodes[i]? = some n) (hk : n.kind.hasRole = true) :
    (a.IsTarget false i → a.literalRole (some i) = some .pattern) ∧
      (a.HasPlainMembers root → a.literalRole (some i) = some .pattern → a.IsTarget false i) :=
  ⟨h.literalRole_of_isTarget hi hn (h.inPattern_of_isPartOfTarget hi hn), fun hplain =>
    h.isTarget_of_literalRole hplain hi hn hk (h.isPartOfTarget_of_inPattern hplain hi hn)⟩

/-- **What three dots stand before is no target**, whatever the dots stand in. -/
theorem literalRole_of_spread (h : a.IsLinkedTree root) (hi : a.Reaches root i)
    (hn : a.nodes[i]? = some n) (hchild : a.IsChild j i) (hm : a.nodes[j]? = some m)
    (hspread : m.kind.isSpread = true) : a.literalRole (some i) = some .expression := by
  have hup := h.parent_eq hi hn hchild
  have hkind : m.kind = .spreadElement ∨ m.kind = .spreadAssignment := by
    unfold SyntaxKind.isSpread at hspread
    split at hspread
    · exact .inl ‹_›
    · exact .inr ‹_›
    · cases hspread
  have hassigned : a.isAssigned (some i) = false := by
    rcases hkind with hk | hk <;> simp [isAssigned, hup, hm, hk]
  have hturn : a.climbTargets (some i) = .answer false := by
    rcases hkind with hk | hk <;> simp [climbTargets, hup, hm, hk]
  have hpattern : a.inPattern (some i) = some false := search_of_answer hturn
  rw [literalRole, hassigned, hpattern]
  rfl

end IsLinkedTree

end Arena

end ScriptTree
