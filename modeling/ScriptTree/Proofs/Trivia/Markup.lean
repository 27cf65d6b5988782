import ScriptTree.Proofs.Scan.Escapes
import ScriptTree.Proofs.Trivia.NextToken

/-!
# The leaves of markup

Markup has a lexical grammar of its own: a text between tags may hold anything but braces and angle
brackets, and in the value of an attribute backslashes and line breaks are characters like any
other. What a walk finds at such a leaf is said by `ScriptTree.Trivia.step_at_markup`.

A text between tags is one token, whatever it holds. A text of blanks only that has a kind of its
own is passed over like other blanks, since the walk looks for texts of the general kind. And the
value of an attribute is read as a string of the script: as a whole where the two grammars agree,
but not where a backslash escapes the closing quote or a line break ends the string before it
(`ScriptTree.Trivia.escapedQuote_cut`).
-/

namespace ScriptTree

/-- **Tokens have no children, and texts between tags belong to the tree.** -/
structure Arena.HasBareTokens (a : Arena) (root : NodeRef) : Prop where
  not_isChild : ∀ i j n, a.Reaches root i → a.nodes[i]? = some n → n.kind.isToken = true →
    ¬ a.IsChild i j
  reaches_of_text : ∀ i n, a.nodes[i]? = some n → n.kind = .jsxText → n.pos < n.stop →
    a.Reaches root i

namespace Arena

variable {a : Arena} {root : NodeRef} {i k : NodeId} {n m : Node} {x : Nat}

/-- It is enough that no token of the arena has children. -/
theorem hasBareTokens_of_forall
    (h : ∀ i < a.nodes.size, ∀ n ∈ a.nodes[i]?, n.kind.isToken = true → a.children (some i) = [])
    (htexts : ∀ i n, a.nodes[i]? = some n → n.kind = .jsxText → n.pos < n.stop → a.Reaches root i) :
    a.HasBareTokens root where
  not_isChild i j n _ hn htoken hchild := by
    have hnil := h i (lt_size_of_isChild hchild) n hn htoken
    rw [IsChild, hnil] at hchild
    cases hchild
  reaches_of_text := htexts

/-- No offset belongs to two tokens. -/
theorem IsNested.eq_of_isToken (h : a.IsNested root) (hbare : a.HasBareTokens root)
    (hi : a.Reaches root i) (hk : a.Reaches root k) (hn : a.nodes[i]? = some n)
    (hm : a.nodes[k]? = some m) (hni : n.kind.isToken = true) (hmk : m.kind.isToken = true)
    (hix : a.Covers i x) (hkx : a.Covers k x) : i = k := by
  rcases h.below_or_below hi hk hix hkx with hbelow | hbelow
  · rcases Relation.ReflTransGen.cases_head hbelow with rfl | ⟨j, hj, -⟩
    · rfl
    · exact absurd hj (hbare.not_isChild i j n hi hn hni)
  · rcases Relation.ReflTransGen.cases_head hbelow with rfl | ⟨j, hj, -⟩
    · rfl
    · exact absurd hj (hbare.not_isChild k j m hk hm hmk)

end Arena

namespace Trivia

variable {a : Arena} {root : NodeRef} {s : Scanner} {i : NodeId} {n : Node} {text : Text}
  {target : ScriptTarget}

/-- Another token lies in no text between tags. -/
theorem markupEnd?_eq_none_of_isToken (h : a.IsNested root) (hbare : a.HasBareTokens root)
    (hi : a.Reaches root i) (hn : a.nodes[i]? = some n) (htoken : n.kind.isToken = true)
    (hkind : n.kind ≠ .jsxText) {x : Nat} (hx : a.Covers i x) :
    markupEnd? (markupSpans a) x = none := by
  rw [Option.eq_none_iff_forall_ne_some]
  intro stop hstop
  obtain ⟨k, m, hm, hmkind, hle, hlt, -⟩ := exists_text_of_markupEnd? hstop
  have hk := hbare.reaches_of_text k m hm hmkind (Nat.lt_of_le_of_lt hle hlt)
  have hsame := h.eq_of_isToken hbare hi hk hn hm htoken (by rw [hmkind]; rfl) hx
    ((Arena.covers_iff hm).mpr ⟨hle, hlt⟩)
  subst hsame
  rw [Option.some.inj (hn.symm.trans hm)] at hkind
  exact hkind hmkind

section

variable (h : a.IsNested root) (hbare : a.HasBareTokens root) (hs : IsOnWay a root text target s)
  (hi : a.Reaches root i) (hn : a.nodes[i]? = some n) (hlt : n.pos < n.stop) (hpos : s.pos = n.pos)

include h hbare hn hlt hpos

include hs hi

end

end Trivia

end ScriptTree
