import Mathlib.Data.List.Chain
import Mathlib.Data.List.Find
import ScriptTree.Proofs.Trivia.Lookup

/-!
# What the look-ups of tokens come to

A look-up by position halves the tokens, and the tokens of a range are read until one of them ends
behind it. What is found in this way is what a search through all tokens finds
(`ScriptTree.TokenIndex.queries_eq`), and the only thing that is asked of the tokens is that each of
them takes up some of the text and ends before the next one starts.

| look-up | search through all tokens |
|---|---|
| `ScriptTree.TokenIndex.atOrAfter` | the first one that starts there or later |
| `ScriptTree.TokenIndex.findAfter` | the first one of a kind that starts there or later |
| `ScriptTree.TokenIndex.before` | the last one that ends there or earlier |
| `ScriptTree.TokenIndex.within` | all that lie between two offsets |
-/

namespace ScriptTree

variable {tokens : List SourceToken}

/-- It is enough that every token ends before the next one starts. -/
theorem SourceToken.InOrder.of_isChain (hnonempty : ∀ t ∈ tokens, t.start < t.stop)
    (hchain : tokens.IsChain fun t u => t.stop ≤ u.start) : InOrder tokens := by
  refine ⟨?_, hnonempty⟩
  -- The order is passed on by a token in between, since that token takes up some of the text.
  let before (t u : SourceToken) : Prop := t.stop ≤ u.start ∧ u.start < u.stop
  have htrans : IsTrans SourceToken before := by
    refine ⟨fun t u v htu huv => ⟨?_, huv.2⟩⟩
    exact (htu.1.trans (Nat.le_of_lt htu.2)).trans huv.1
  have hbefore : tokens.IsChain before :=
    hchain.imp_of_mem_imp fun t u _ hu hle => ⟨hle, hnonempty u hu⟩
  exact (List.isChain_iff_pairwise.mp hbefore).imp And.left

namespace TokenIndex

open SourceToken (InOrder)

/-- A search through the tokens from an offset on is one through all tokens. -/
theorem find?_startingFrom (h : InOrder tokens) (pos : Nat) (test : SourceToken → Bool) :
    ((ofList tokens).startingFrom pos).find? test =
      tokens.find? fun t => decide (pos ≤ t.start) && test t := by
  obtain ⟨xs, hsplit, hxs, hys, -⟩ := exists_startingFrom h pos
  generalize (ofList tokens).startingFrom pos = ys at hsplit hys ⊢
  have hnone : (xs.find? fun t => decide (pos ≤ t.start) && test t) = none := by
    refine List.find?_eq_none.mpr fun t ht => ?_
    simp [Nat.not_le_of_lt (hxs t ht)]
  rw [hsplit, List.find?_append, hnone, Option.none_or]
  refine List.find?_congr fun t ht => ?_
  simp [hys t ht]

/-- The first token that starts at or after an offset. -/
theorem atOrAfter_eq (h : InOrder tokens) (pos : Nat) :
    (ofList tokens).atOrAfter pos = tokens.find? fun t => decide (pos ≤ t.start) := by
  obtain ⟨-, -, -, -, hhead⟩ := exists_startingFrom h pos
  have hfind := find?_startingFrom h pos fun _ => true
  simp only [Bool.and_true] at hfind
  rw [hhead, ← hfind]
  cases (ofList tokens).startingFrom pos <;> rfl

/-- The last token that ends at or before an offset. -/
theorem before_eq (h : InOrder tokens) (pos : Nat) :
    (ofList tokens).before pos = tokens.findRev? fun t => decide (t.stop ≤ pos) := by
  obtain ⟨xs, ys, rfl, hxs, hys, hbefore⟩ := exists_before h pos
  have hnone : (ys.reverse.find? fun t => decide (t.stop ≤ pos)) = none := by
    refine List.find?_eq_none.mpr fun t ht => ?_
    simpa using hys t (List.mem_reverse.mp ht)
  rw [hbefore, List.findRev?_eq_find?_reverse, List.reverse_append, List.find?_append, hnone,
    Option.none_or, ← List.head?_reverse]
  have hxs' : ∀ t ∈ xs.reverse, t.stop ≤ pos := fun t ht => hxs t (List.mem_reverse.mp ht)
  cases hrev : xs.reverse with
  | nil => rfl
  | cons t ts =>
    rw [hrev] at hxs'
    rw [List.head?_cons, List.find?_cons_of_pos (by simpa using hxs' t List.mem_cons_self)]

/-- The tokens between two offsets are read off until one ends behind the second. -/
theorem within_eq (h : InOrder tokens) (start stop : Nat) :
    (ofList tokens).within start stop =
      tokens.filter fun t => decide (start ≤ t.start) && decide (t.stop ≤ stop) := by
  obtain ⟨xs, hsplit, hxs, hys, -⟩ := exists_startingFrom h start
  have hfrom : InOrder ((ofList tokens).startingFrom start) := inOrder_startingFrom h
  rw [within]
  generalize (ofList tokens).startingFrom start = ys at hsplit hys hfrom ⊢
  obtain ⟨us, vs, rfl, hus, hvs⟩ := hfrom.exists_append (fun t => decide (t.stop ≤ stop))
    fun t _ u hu hle hstop => by
      have hnonempty := hfrom.nonempty u hu
      simp only [decide_eq_true_eq] at hstop ⊢
      omega
  -- Of the tokens before the range, inside of it and behind it only those inside are kept.
  have hoff : (xs.filter fun t => decide (start ≤ t.start) && decide (t.stop ≤ stop)) = [] := by
    refine List.filter_eq_nil_iff.mpr fun t ht => ?_
    simp [Nat.not_le_of_lt (hxs t ht)]
  have hinside : (us.filter fun t => decide (start ≤ t.start) && decide (t.stop ≤ stop)) = us := by
    refine List.filter_eq_self.mpr fun t ht => ?_
    simp [hys t (List.mem_append_left vs ht), of_decide_eq_true (hus t ht)]
  have hbehind : (vs.filter fun t => decide (start ≤ t.start) && decide (t.stop ≤ stop)) = [] := by
    refine List.filter_eq_nil_iff.mpr fun t ht => ?_
    simp [of_decide_eq_false (hvs t ht)]
  rw [hsplit, List.filter_append, List.filter_append, hoff, hinside, hbehind, List.nil_append,
    List.append_nil, List.takeWhile_append_of_pos hus]
  cases vs with
  | nil => exact List.append_nil us
  | cons t ts =>
    rw [List.takeWhile_cons_of_neg (by simp [hvs t List.mem_cons_self]), List.append_nil]

/-- **Every look-up finds what a search through all tokens finds**, and nothing exactly where there
is nothing to be found. -/
theorem queries_eq (hnonempty : ∀ t ∈ tokens, t.start < t.stop)
    (hchain : tokens.IsChain fun t u => t.stop ≤ u.start) (pos : Nat) :
    let index := ofList tokens
    (index.atOrAfter pos = (tokens.find? fun t => decide (pos ≤ t.start)) ∧
      (index.atOrAfter pos = none ↔ ∀ t ∈ tokens, ¬ pos ≤ t.start)) ∧
    (index.before pos = (tokens.findRev? fun t => decide (t.stop ≤ pos)) ∧
      (index.before pos = none ↔ ∀ t ∈ tokens, ¬ t.stop ≤ pos)) ∧
    (∀ kind, index.findAfter pos kind =
        (tokens.find? fun t => decide (pos ≤ t.start) && t.kind == kind) ∧
      (index.findAfter pos kind = none ↔ ∀ t ∈ tokens, ¬ (pos ≤ t.start ∧ t.kind = kind))) ∧
    ∀ stop, index.within pos stop =
        (tokens.filter fun t => decide (pos ≤ t.start) && decide (t.stop ≤ stop)) ∧
      (index.within pos stop = [] ↔ ∀ t ∈ tokens, ¬ (pos ≤ t.start ∧ t.stop ≤ stop)) := by
  have h := InOrder.of_isChain hnonempty hchain
  intro index
  refine ⟨⟨atOrAfter_eq h pos, ?_⟩, ⟨before_eq h pos, ?_⟩, fun kind => ?_, fun stop => ?_⟩
  · rw [show index.atOrAfter pos = _ from atOrAfter_eq h pos, List.find?_eq_none]
    simp only [decide_eq_true_eq]
  · rw [show index.before pos = _ from before_eq h pos, List.findRev?_eq_find?_reverse,
      List.find?_eq_none]
    simp only [List.mem_reverse, decide_eq_true_eq]
  · have hfind : index.findAfter pos kind = _ := find?_startingFrom h pos fun t => t.kind == kind
    refine ⟨hfind, ?_⟩
    rw [hfind, List.find?_eq_none]
    simp only [Bool.and_eq_true, decide_eq_true_eq, beq_iff_eq]
  · refine ⟨within_eq h pos stop, ?_⟩
    rw [show index.within pos stop = _ from within_eq h pos stop, List.filter_eq_nil_iff]
    simp only [Bool.and_eq_true, decide_eq_true_eq]

/-- The tokens of `a : b;`. -/
def annotated : List SourceToken :=
  [⟨.identifier, 0, 1⟩, ⟨.colonToken, 2, 3⟩, ⟨.identifier, 4, 5⟩, ⟨.semicolonToken, 5, 6⟩]

/-- Where one token ends and the next one starts, the first is before the offset and the second is at
it. -/
theorem queries_of_annotated :
    (∀ t ∈ annotated, t.start < t.stop) ∧ (annotated.IsChain fun t u => t.stop ≤ u.start) ∧
      (ofList annotated).atOrAfter 5 = some ⟨.semicolonToken, 5, 6⟩ ∧
      (ofList annotated).before 5 = some ⟨.identifier, 4, 5⟩ ∧
      (ofList annotated).findAfter 5 .identifier = none ∧
      (ofList annotated).within 1 5 = [⟨.colonToken, 2, 3⟩, ⟨.identifier, 4, 5⟩] := by
  have hnonempty : ∀ t ∈ annotated, t.start < t.stop := by decide
  have hchain : annotated.IsChain fun t u => t.stop ≤ u.start := by decide
  obtain ⟨⟨hat, -⟩, ⟨hbefore, -⟩, hfind, -⟩ := queries_eq hnonempty hchain 5
  obtain ⟨-, -, -, hwithin⟩ := queries_eq hnonempty hchain 1
  exact ⟨hnonempty, hchain, hat, hbefore, (hfind .identifier).2.mpr (by decide), (hwithin 5).1⟩

end TokenIndex

end ScriptTree
