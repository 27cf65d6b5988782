import Mathlib.Data.Finset.Card
import Mathlib.Order.Monotone.Basic
import ScriptTree.Loop

/-!
# Ends of loops

A loop has an answer if something becomes less with every turn
(`ScriptTree.exists_loop_of_rank`). And a loop through finitely many states that has no answer after
as many turns has none at all (`ScriptTree.loop_eq_none`): it has come back to a state. So where the
fuel of a loop exceeds the number of states, no answer means that the loop never ends.
-/

namespace ScriptTree

variable {σ α : Type} {turn turn' : σ → Turn σ α} {m n fuel : Nat} {s s' : σ} {x : α}

theorem loop_of_answer (h : turn s = .answer x) (fuel : Nat) : loop turn (fuel + 1) s = some x := by
  rw [loop, h]

theorem loop_of_goOn (h : turn s = .goOn s') (fuel : Nat) :
    loop turn (fuel + 1) s = loop turn fuel s' := by
  rw [loop, h]

/-- An answer does not depend on the fuel. -/
theorem loop_of_le (h : loop turn m s = some x) (hle : m ≤ n) : loop turn n s = some x := by
  induction m generalizing n s with
  | zero => cases h
  | succ m ih =>
    obtain ⟨n, rfl⟩ := Nat.exists_eq_add_one.mpr (Nat.zero_lt_of_lt hle)
    cases hturn : turn s with
    | answer y =>
      rw [loop_of_answer hturn] at h ⊢
      exact h
    | goOn s' =>
      rw [loop_of_goOn hturn] at h ⊢
      exact ih h (Nat.le_of_succ_le_succ hle)

/-- **What holds of a state and an answer to it**, and is handed back by every turn, holds of every
state from which a loop comes to the answer. -/
theorem of_loop_eq_some {P : σ → α → Prop} (hanswer : ∀ {s x}, turn s = .answer x → P s x)
    (hgoOn : ∀ {s s' x}, turn s = .goOn s' → P s' x → P s x)
    (h : loop turn fuel s = some x) : P s x := by
  induction fuel generalizing s with
  | zero => cases h
  | succ fuel ih =>
    cases hturn : turn s with
    | answer y =>
      rw [loop_of_answer hturn] at h
      cases h
      exact hanswer hturn
    | goOn s' =>
      rw [loop_of_goOn hturn] at h
      exact hgoOn hturn (ih h)

/-- **A loop has an answer if every turn leads to a state of less rank**, as long as it stays with
states of a kind. -/
theorem exists_loop_of_rank (stays : σ → Prop) (rank : σ → Nat)
    (hgoOn : ∀ {s s'}, stays s → turn s = .goOn s' → stays s' ∧ rank s' < rank s)
    (hs : stays s) (hfuel : rank s < fuel) : ∃ x, loop turn fuel s = some x := by
  induction fuel generalizing s with
  | zero => exact absurd hfuel (Nat.not_lt_zero _)
  | succ fuel ih =>
    cases hturn : turn s with
    | answer x => exact ⟨x, loop_of_answer hturn fuel⟩
    | goOn s' =>
      obtain ⟨hs', hlt⟩ := hgoOn hs hturn
      rw [loop_of_goOn hturn]
      exact ih hs' (hlt.trans_le (Nat.le_of_lt_succ hfuel))

/-- Two loops that turn alike in all states that they come to have the same answer. -/
theorem loop_congr (stays : σ → Prop) (hturn : ∀ {s}, stays s → turn' s = turn s)
    (hgoOn : ∀ {s s'}, stays s → turn s = .goOn s' → stays s') (hs : stays s) :
    loop turn' fuel s = loop turn fuel s := by
  induction fuel generalizing s with
  | zero => rfl
  | succ fuel ih =>
    rw [loop, loop, hturn hs]
    cases h : turn s with
    | answer x => rfl
    | goOn s' => exact ih (hgoOn hs h)

/-! ### Loops without an end -/

/-- The states from which a loop has an answer. -/
def answering (turn : σ → Turn σ α) (states : Finset σ) (fuel : Nat) : Finset σ :=
  states.filter fun s => (loop turn fuel s).isSome

theorem mem_answering {states : Finset σ} :
    s ∈ answering turn states fuel ↔ s ∈ states ∧ (loop turn fuel s).isSome = true :=
  Finset.mem_filter

theorem monotone_answering (turn : σ → Turn σ α) (states : Finset σ) :
    Monotone (answering turn states) := by
  intro m n hle s hs
  obtain ⟨hstate, hsome⟩ := mem_answering.mp hs
  obtain ⟨x, hx⟩ := Option.isSome_iff_exists.mp hsome
  exact mem_answering.mpr ⟨hstate, by rw [loop_of_le hx hle]; rfl⟩

section Endless

variable {states : Finset σ} (hstates : ∀ {s s'}, turn s = .goOn s' → s' ∈ states)

include hstates

/-- One more turn adds no answer if the turn before added none for the states that a turn leads to. -/
theorem isSome_loop_succ (h : answering turn states n ⊆ answering turn states m)
    (hs : (loop turn (n + 1) s).isSome = true) : (loop turn (m + 1) s).isSome = true := by
  cases hturn : turn s with
  | answer x =>
    rw [loop_of_answer hturn]
    rfl
  | goOn s' =>
    rw [loop_of_goOn hturn] at hs ⊢
    exact (mem_answering.mp (h (mem_answering.mpr ⟨hstates hturn, hs⟩))).2

/-- After as many turns as there are states no answer is added. -/
theorem answering_eq (hn : states.card ≤ n) :
    answering turn states n = answering turn states states.card := by
  have hmono := monotone_answering turn states
  have hcard : (answering turn states n).card = (answering turn states states.card).card := by
    refine Nat.stabilises_of_monotone (fun m n hmn => Finset.card_le_card (hmono hmn))
      (fun m => Finset.card_le_card (Finset.filter_subset _ _)) (fun m heq => ?_) hn
    have hsame := Finset.eq_of_subset_of_card_le (hmono m.le_succ) heq.ge
    refine le_antisymm (Finset.card_le_card (hmono (Nat.le_succ _))) (Finset.card_le_card ?_)
    intro s hs
    obtain ⟨hstate, hsome⟩ := mem_answering.mp hs
    exact mem_answering.mpr ⟨hstate, isSome_loop_succ hstates hsame.ge hsome⟩
  exact (Finset.eq_of_subset_of_card_le (hmono hn) hcard.le).symm

/-- **A loop that has no answer after more turns than there are states never has one.** -/
theorem loop_eq_none (h : loop turn n s = none) (hn : states.card < n) (fuel : Nat) :
    loop turn fuel s = none := by
  obtain ⟨n, rfl⟩ := Nat.exists_eq_add_one.mpr (Nat.zero_lt_of_lt hn)
  by_contra hfuel
  obtain ⟨x, hx⟩ := Option.ne_none_iff_exists'.mp hfuel
  -- With still more fuel there is the same answer, but the states that answer are the same as well.
  have hmore : (loop turn (fuel + n + 1) s).isSome = true := by
    rw [loop_of_le hx (by omega)]
    rfl
  have hle := Nat.le_of_lt_succ hn
  have hsame : answering turn states (fuel + n) ⊆ answering turn states n := by
    rw [answering_eq hstates (hle.trans (Nat.le_add_left n fuel)), answering_eq hstates hle]
  have hsome := isSome_loop_succ hstates hsame hmore
  rw [h] at hsome
  cases hsome

/-- So a loop with more fuel than there are states does not depend on it. -/
theorem loop_eq_of_card_lt (hm : states.card < m) (hn : states.card < n) :
    loop turn m s = loop turn n s := by
  cases h : loop turn n s with
  | none => exact loop_eq_none hstates h hn m
  | some x =>
    rcases Nat.le_total n m with hle | hle
    · exact loop_of_le h hle
    · cases hless : loop turn m s with
      | none =>
        rw [loop_eq_none hstates hless hm n] at h
        cases h
      | some y =>
        rw [loop_of_le hless hle] at h
        exact h

end Endless

end ScriptTree
