import ScriptTree.Arena.Navigate
import ScriptTree.Proofs.Loop

/-!
# Searches through an arena

A search that goes on only to as many states as an arena has nodes (`ScriptTree.Arena.Explores`) is
not cut short by its fuel. It has the answer of the state that it goes on to
(`ScriptTree.Arena.Explores.search_of_goOn`), and where it has none it goes on for ever
(`ScriptTree.Arena.Explores.search_eq_none_iff`).
-/

namespace ScriptTree

namespace Arena

variable {σ α : Type} {a : Arena} {turn : σ → Turn σ α} {s s' : σ} {x : α}

/-- **A search goes on to no more states than there are nodes.** -/
def Explores (a : Arena) (turn : σ → Turn σ α) : Prop :=
  ∃ states : Finset σ, states.card ≤ a.nodes.size ∧ ∀ s s', turn s = .goOn s' → s' ∈ states

/-- A search through the nodes of the arena does. -/
theorem explores_of_lt {turn : NodeId → Turn NodeId α}
    (h : ∀ i j, turn i = .goOn j → j < a.nodes.size) : a.Explores turn :=
  ⟨Finset.range a.nodes.size, (Finset.card_range _).le,
    fun i j hturn => Finset.mem_range.mpr (h i j hturn)⟩

/-- So does one through references to them. -/
theorem explores_of_exists_lt {turn : NodeRef → Turn NodeRef α}
    (h : ∀ r r', turn r = .goOn r' → ∃ i, r' = some i ∧ i < a.nodes.size) : a.Explores turn := by
  refine ⟨(Finset.range a.nodes.size).map .some, ?_, fun r r' hturn => ?_⟩
  · rw [Finset.card_map, Finset.card_range]
  · obtain ⟨i, rfl, hi⟩ := h r r' hturn
    exact Finset.mem_map_of_mem _ (Finset.mem_range.mpr hi)

theorem search_of_answer (h : turn s = .answer x) : a.search turn s = some x :=
  loop_of_answer h _

namespace Explores

/-- With more fuel there is no other answer. -/
theorem loop_eq (h : a.Explores turn) {fuel : Nat} (hfuel : a.nodes.size < fuel) (s : σ) :
    loop turn fuel s = a.search turn s := by
  obtain ⟨states, hcard, hstates⟩ := h
  exact loop_eq_of_card_lt (hstates _ _) (hcard.trans_lt hfuel) (Nat.lt_succ_of_le hcard)

/-- **A search has the answer of the state that it goes on to.** -/
theorem search_of_goOn (h : a.Explores turn) (hturn : turn s = .goOn s') :
    a.search turn s = a.search turn s' := by
  have hmore := h.loop_eq (show a.nodes.size < a.nodes.size + 2 by omega) s
  rw [← hmore, loop_of_goOn hturn, search]

/-- **A search that has no answer never has one**, however long it goes on. -/
theorem search_eq_none_iff (h : a.Explores turn) :
    a.search turn s = none ↔ ∀ fuel, loop turn fuel s = none := by
  obtain ⟨states, hcard, hstates⟩ := h
  exact ⟨fun hnone => loop_eq_none (hstates _ _) hnone (Nat.lt_succ_of_le hcard), fun h => h _⟩

end Explores

end Arena

end ScriptTree
