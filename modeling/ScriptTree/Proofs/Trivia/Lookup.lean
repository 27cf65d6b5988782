import ScriptTree.Proofs.Search
import ScriptTree.Proofs.Trivia.Lossless
import ScriptTree.Trivia.TokenIndex

/-!
# Tokens found by their position

The tokens of a file are looked up by halving. Where they stand in order
(`ScriptTree.SourceToken.InOrder`), halving comes to the same place as a search from the left: the
place that divides the tokens with a property from those without it
(`ScriptTree.Search.partitionPoint_append`). What is looked up is therefore the last
token before that place or the first one behind it, and no other token is nearer.
-/

namespace ScriptTree

namespace SourceToken

/-- Tokens are not empty, and none of them starts before the one before it has ended. -/
structure InOrder (tokens : List SourceToken) : Prop where
  disjoint : tokens.Pairwise fun x y => x.stop ≤ y.start
  nonempty : ∀ t ∈ tokens, t.start < t.stop

namespace InOrder

variable {tokens xs ys : List SourceToken} {t u : SourceToken}

/-- Of two tokens the one that starts first ends before the other starts. -/
theorem stop_le_start (h : InOrder tokens) (ht : t ∈ tokens) (hu : u ∈ tokens)
    (hlt : t.start < u.start) : t.stop ≤ u.start := by
  obtain ⟨xs, ys, rfl⟩ := List.append_of_mem ht
  have hpairs := List.pairwise_append.mp h.disjoint
  rcases List.mem_append.mp hu with hu | hu
  · have hle := hpairs.2.2 u hu t List.mem_cons_self
    have hnonempty := h.nonempty u (List.mem_append_left _ hu)
    omega
  · rcases List.mem_cons.mp hu with rfl | hu
    · exact absurd hlt (Nat.lt_irrefl _)
    · exact (List.pairwise_cons.mp hpairs.2.1).1 u hu

/-- Of two tokens the one that does not start behind the other does not end behind it either. -/
theorem stop_le_stop (h : InOrder tokens) (ht : t ∈ tokens) (hu : u ∈ tokens)
    (hle : t.start ≤ u.start) : t.stop ≤ u.stop := by
  have hnonempty := h.nonempty u hu
  rcases Nat.lt_or_eq_of_le hle with hlt | heq
  · have hstop := h.stop_le_start ht hu hlt
    omega
  · by_contra hnot
    obtain ⟨xs, ys, rfl⟩ := List.append_of_mem ht
    have hpairs := List.pairwise_append.mp h.disjoint
    rcases List.mem_append.mp hu with hu | hu
    · have hbefore := hpairs.2.2 u hu t List.mem_cons_self
      omega
    · rcases List.mem_cons.mp hu with rfl | hu
      · exact hnot (Nat.le_refl _)
      · have hbehind := (List.pairwise_cons.mp hpairs.2.1).1 u hu
        have hfull := h.nonempty t (List.mem_append_right _ List.mem_cons_self)
        omega

/-- A token that ends behind an offset where another one ends starts at the offset or behind it. -/
theorem stop_le_start_of_lt (h : InOrder tokens) (ht : t ∈ tokens) (hu : u ∈ tokens)
    (hlt : t.stop < u.stop) : t.stop ≤ u.start := by
  by_cases hstart : t.start < u.start
  · exact h.stop_le_start ht hu hstart
  · have hle := h.stop_le_stop hu ht (Nat.le_of_not_lt hstart)
    omega

/-- Tokens in order are divided by a property that no token has behind one without it. -/
theorem exists_append (test : SourceToken → Bool) (h : InOrder tokens)
    (htest : ∀ t ∈ tokens, ∀ u ∈ tokens, t.stop ≤ u.start → test u = true → test t = true) :
    ∃ xs ys, tokens = xs ++ ys ∧ (∀ t ∈ xs, test t = true) ∧ ∀ t ∈ ys, test t = false := by
  refine ⟨tokens.takeWhile test, tokens.dropWhile test, List.takeWhile_append_dropWhile.symm,
    fun t ht => List.mem_takeWhile_imp ht, fun t ht => ?_⟩
  rw [Bool.eq_false_iff]
  intro hyes
  have hpairs : (tokens.dropWhile test).Pairwise fun x y => x.stop ≤ y.start :=
    h.disjoint.sublist (List.dropWhile_sublist test)
  have hsub : ∀ u ∈ tokens.dropWhile test, u ∈ tokens :=
    fun u hu => (List.dropWhile_sublist test).subset hu
  cases hrest : tokens.dropWhile test with
  | nil =>
    rw [hrest] at ht
    cases ht
  | cons u us =>
    -- The first token that is left does not have the property, so no later one has it.
    have hhead : test u = false := by
      have hne : tokens.dropWhile test ≠ [] := by simp [hrest]
      have hfirst := List.head_dropWhile_not test hne
      simpa [hrest] using hfirst
    rw [hrest] at ht hpairs hsub
    rcases List.mem_cons.mp ht with rfl | hmem
    · rw [hyes] at hhead
      cases hhead
    · have hle := (List.pairwise_cons.mp hpairs).1 t hmem
      rw [htest u (hsub u List.mem_cons_self) t (hsub t ht) hle hyes] at hhead
      cases hhead

end InOrder

end SourceToken

namespace TokenIndex

open SourceToken (InOrder)
open Search (partitionPoint partitionPoint_append)

variable {tokens : List SourceToken} {pos : Nat} {kind : SyntaxKind} {t : SourceToken}

/-- The tokens that start at or after an offset are those behind a place. -/
theorem exists_startingFrom (h : InOrder tokens) (pos : Nat) :
    ∃ xs, tokens = xs ++ (ofList tokens).startingFrom pos ∧ (∀ t ∈ xs, t.start < pos) ∧
      (∀ t ∈ (ofList tokens).startingFrom pos, pos ≤ t.start) ∧
      (ofList tokens).atOrAfter pos = ((ofList tokens).startingFrom pos).head? := by
  obtain ⟨xs, ys, rfl, hxs, hys⟩ := h.exists_append (fun t => t.start < pos)
    (fun t ht u hu hle hlt => by
      have hnonempty := h.nonempty t ht
      simp only [decide_eq_true_eq] at hlt ⊢
      omega)
  have hpoint := partitionPoint_append hxs hys
  have hfrom : (ofList (xs ++ ys)).startingFrom pos = ys := by
    rw [startingFrom, ofList, hpoint]
    exact List.drop_left
  refine ⟨xs, by rw [hfrom], fun t ht => of_decide_eq_true (hxs t ht), fun t ht => ?_, ?_⟩
  · rw [hfrom] at ht
    exact Nat.le_of_not_lt (of_decide_eq_false (hys t ht))
  · rw [hfrom, atOrAfter, ofList, hpoint, List.getElem?_toArray,
      List.getElem?_append_right (Nat.le_refl _), Nat.sub_self, List.head?_eq_getElem?]

/-- The tokens that start at or after an offset are some of the tokens. -/
theorem mem_startingFrom (h : InOrder tokens) :
    t ∈ (ofList tokens).startingFrom pos ↔ t ∈ tokens ∧ pos ≤ t.start := by
  obtain ⟨xs, hsplit, hxs, hys, -⟩ := exists_startingFrom h pos
  constructor
  · intro ht
    refine ⟨?_, hys t ht⟩
    rw [hsplit]
    exact List.mem_append_right _ ht
  · rintro ⟨ht, hle⟩
    rw [hsplit] at ht
    rcases List.mem_append.mp ht with ht | ht
    · exact absurd hle (Nat.not_le_of_lt (hxs t ht))
    · exact ht

/-! ### Forwards -/

/-- The first of some tokens in order that has a property starts no later than any other one. -/
theorem exists_find? (h : InOrder tokens) (test : SourceToken → Bool) (ht : t ∈ tokens)
    (htest : test t = true) :
    ∃ u ∈ tokens, tokens.find? test = some u ∧ test u = true ∧ u.start ≤ t.start := by
  obtain ⟨u, hu⟩ := Option.isSome_iff_exists.mp (List.find?_isSome.mpr ⟨t, ht, htest⟩)
  refine ⟨u, List.mem_of_find?_eq_some hu, hu, List.find?_some hu, ?_⟩
  obtain ⟨-, xs, ys, rfl, hxs⟩ := List.find?_eq_some_iff_append.mp hu
  rcases List.mem_append.mp ht with ht | ht
  · have hnot := hxs t ht
    rw [htest] at hnot
    cases hnot
  · rcases List.mem_cons.mp ht with rfl | ht
    · exact Nat.le_refl _
    · have hpairs := (List.pairwise_append.mp h.disjoint).2.1
      have hle := (List.pairwise_cons.mp hpairs).1 t ht
      have hnonempty := h.nonempty u (List.mem_append_right _ List.mem_cons_self)
      omega

theorem inOrder_startingFrom (h : InOrder tokens) :
    InOrder ((ofList tokens).startingFrom pos) where
  disjoint := h.disjoint.sublist (List.drop_sublist ..)
  nonempty u hu := h.nonempty u ((mem_startingFrom h).mp hu).1

/-- **The token of a kind that is found behind an offset is the first one.** -/
theorem exists_findAfter (h : InOrder tokens) (ht : t ∈ tokens) (hkind : t.kind = kind)
    (hle : pos ≤ t.start) :
    ∃ u ∈ tokens, (ofList tokens).findAfter pos kind = some u ∧ pos ≤ u.start ∧
      u.start ≤ t.start ∧ u.stop ≤ t.stop := by
  obtain ⟨u, hu, hfind, -, hstart⟩ := exists_find? (inOrder_startingFrom h)
    (fun t => t.kind == kind) ((mem_startingFrom h).mpr ⟨ht, hle⟩) (by simpa using hkind)
  obtain ⟨hu, hpos⟩ := (mem_startingFrom h).mp hu
  exact ⟨u, hu, hfind, hpos, hstart, h.stop_le_stop hu ht hstart⟩

/-- The token that is found behind an offset does not start before it. -/
theorem le_start_of_findAfter (h : InOrder tokens)
    (hfind : (ofList tokens).findAfter pos kind = some t) : pos ≤ t.start ∧ t.start < t.stop := by
  obtain ⟨ht, hle⟩ := (mem_startingFrom h).mp (List.mem_of_find?_eq_some hfind)
  exact ⟨hle, h.nonempty t ht⟩

/-- **The token that is found at or behind an offset is the first one.** -/
theorem exists_atOrAfter (h : InOrder tokens) (ht : t ∈ tokens) (hle : pos ≤ t.start) :
    ∃ u ∈ tokens, (ofList tokens).atOrAfter pos = some u ∧ pos ≤ u.start ∧
      u.start ≤ t.start ∧ u.stop ≤ t.stop := by
  obtain ⟨xs, hsplit, hxs, hys, hhead⟩ := exists_startingFrom h pos
  obtain ⟨u, hu, hfind, -, hstart⟩ := exists_find? (inOrder_startingFrom h) (fun _ => true)
    ((mem_startingFrom h).mpr ⟨ht, hle⟩) rfl
  obtain ⟨hu, hpos⟩ := (mem_startingFrom h).mp hu
  refine ⟨u, hu, ?_, hpos, hstart, h.stop_le_stop hu ht hstart⟩
  rw [hhead, ← hfind]
  cases (ofList tokens).startingFrom pos <;> rfl

/-- The next token does not start before the offset. -/
theorem le_nextStart (h : InOrder tokens) (pos : Nat) : pos ≤ (ofList tokens).nextStart pos := by
  obtain ⟨xs, hsplit, hxs, hys, hhead⟩ := exists_startingFrom h pos
  rw [nextStart, hhead]
  cases hfrom : ((ofList tokens).startingFrom pos).head? with
  | none => exact Nat.le_refl _
  | some u => exact hys u (List.mem_of_mem_head? hfrom)

/-- No token starts between an offset and the next token. -/
theorem nextStart_le (h : InOrder tokens) (ht : t ∈ tokens) (hle : pos ≤ t.start) :
    (ofList tokens).nextStart pos ≤ t.start := by
  obtain ⟨u, -, hu, -, hstart, -⟩ := exists_atOrAfter h ht hle
  rw [nextStart, hu]
  exact hstart

/-! ### Backwards -/

/-- The token that is found before an offset is the last one that ends at the offset or before. -/
theorem exists_before (h : InOrder tokens) (pos : Nat) :
    ∃ xs ys, tokens = xs ++ ys ∧ (∀ t ∈ xs, t.stop ≤ pos) ∧ (∀ t ∈ ys, pos < t.stop) ∧
      (ofList tokens).before pos = xs.getLast? := by
  obtain ⟨xs, ys, rfl, hxs, hys⟩ := h.exists_append (fun t => t.stop ≤ pos)
    (fun t _ u hu hle hstop => by
      have hnonempty := h.nonempty u hu
      simp only [decide_eq_true_eq] at hstop ⊢
      omega)
  refine ⟨xs, ys, rfl, fun t ht => of_decide_eq_true (hxs t ht),
    fun t ht => Nat.lt_of_not_le (of_decide_eq_false (hys t ht)), ?_⟩
  rw [before, ofList, partitionPoint_append hxs hys, List.getLast?_eq_getElem?]
  cases xs with
  | nil => rfl
  | cons t xs =>
    rw [List.length_cons, Nat.add_sub_cancel]
    exact List.getElem?_toArray.trans (List.getElem?_append_left (by simp))

theorem stop_le_of_before (h : InOrder tokens) (ht : (ofList tokens).before pos = some t) :
    t.start < t.stop ∧ t.stop ≤ pos := by
  obtain ⟨xs, ys, rfl, hxs, -, hbefore⟩ := exists_before h pos
  have hmem : t ∈ xs := List.mem_of_getLast? (hbefore.symm.trans ht)
  exact ⟨h.nonempty t (List.mem_append_left _ hmem), hxs t hmem⟩

/-- **No token that ends before an offset starts behind the one that is found.** -/
theorem exists_before_of_stop_le (h : InOrder tokens) (ht : t ∈ tokens) (hle : t.stop ≤ pos) :
    ∃ u, (ofList tokens).before pos = some u ∧ t.start ≤ u.start := by
  obtain ⟨xs, ys, rfl, hxs, hys, hbefore⟩ := exists_before h pos
  have hmem : t ∈ xs := by
    rcases List.mem_append.mp ht with ht | ht
    · exact ht
    · exact absurd hle (Nat.not_le_of_lt (hys t ht))
  obtain ⟨us, u, rfl⟩ : ∃ us u, xs = us ++ [u] :=
    ⟨_, _, (List.dropLast_concat_getLast (List.ne_nil_of_mem hmem)).symm⟩
  refine ⟨u, by rw [hbefore, List.getLast?_concat], ?_⟩
  rcases List.mem_append.mp hmem with hmem' | hmem'
  · have hpairs := (List.pairwise_append.mp (List.pairwise_append.mp h.disjoint).1).2.2
    have hlast := hpairs t hmem' u List.mem_cons_self
    have hnonempty := h.nonempty t ht
    omega
  · rw [List.mem_singleton.mp hmem']

end TokenIndex

end ScriptTree
