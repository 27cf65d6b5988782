import ScriptTree.Proofs.Trivia.Walks

/-!
# The spans of tokens and comments

Whatever the tree says, and even where a walk comes to stand inside a character, no token or comment
ends before it starts (`ScriptTree.Trivia.isForward_ofText?`): a scan starts where the scanner
stands and goes on from there, a second reading goes on from the start of the token, and the tree
only ever moves an end further right.
-/

namespace ScriptTree

namespace Trivia

variable {a : Arena} {root : NodeRef} {spans : List (Nat × Nat)} {s s' : Scanner}

/-- A token that is read again goes on at least as far as before, or has a width of its own. -/
theorem lt_or_le_of_reread? {n : Node} {t : SourceToken} {kind : SyntaxKind} {stop : Nat}
    (hstart : s.start = t.start) (hpos : s.pos = t.stop)
    (h : reread? a n s t = some (kind, stop, s')) : t.start < stop ∨ t.stop ≤ stop := by
  rw [reread?] at h
  split at h
  · cases h
    exact .inl (hstart ▸ (Nat.lt_succ_self _).trans_le (Nat.le_add_right _ _))
  split at h
  · cases h
    rw [Scanner.rescanSlash]
    split
    · exact .inl (hstart ▸ Nat.lt_add_of_pos_right (Text.byteLength_pos.mpr (List.cons_ne_nil _ _)))
    · exact .inr hpos.ge
  split at h
  · cases h
    rw [Scanner.rescanGreater]
    split
    · split
      · exact .inr (hpos ▸ Nat.le_add_right _ _)
      · exact .inr hpos.ge
    · exact .inr hpos.ge
  split at h
  · cases h
    exact .inr (Nat.le_succ _)
  split at h
  · next hwider =>
    cases h
    exact .inr (Nat.le_of_lt hwider.2.2)
  · cases h

variable {covering : Option Node} {t : SourceToken}

/-- The same of the token that the tree makes of it. -/
theorem lt_or_le_of_readAs (hstart : s.start = t.start) (hpos : s.pos = t.stop) :
    t.start < (readAs a covering s t).1.stop ∨ t.stop ≤ (readAs a covering s t).1.stop := by
  obtain heq | ⟨n, kind, stop, s', -, hreread, heq⟩ := readAs_cases a covering s t
  · rw [heq]
    exact .inr (Nat.le_refl _)
  · rw [heq]
    exact lt_or_le_of_reread? hstart hpos hreread

/-- A token starts where it did, whatever the tree makes of it. -/
theorem start_readAs : (readAs a covering s t).1.start = t.start := by
  obtain heq | ⟨n, kind, stop, s', -, -, heq⟩ := readAs_cases a covering s t <;> rw [heq]

end Trivia

end ScriptTree
