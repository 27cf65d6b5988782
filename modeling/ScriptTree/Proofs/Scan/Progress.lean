import ScriptTree.Proofs.Scan.Extent

/-!
# A scan moves on

A scan that starts inside of the text ends behind its start, unless a stray escape stands
there (`ScriptTree.Scanner.lt_scan_pos_iff`). Trivia that are passed over count as progress, so
the same condition holds with and without them.

Where a scan ends the text can be cut again (`ScriptTree.Scanner.exists_dropBytes?_scan`), and
what it took are the characters in between.
-/

namespace ScriptTree

namespace Scanner

/-- The scanner stands in front of a stray escape: it reads a name there that takes nothing. -/
def isStuck (s : Scanner) : Bool :=
  (s.text.dropBytes? s.pos).any (Escape.isStray s.target)

/-- Whether a scanner is stuck depends on its text, its target and its position only. -/
theorem isStuck_congr {s t : Scanner} (htext : s.text = t.text) (htarget : s.target = t.target)
    (hpos : s.pos = t.pos) : s.isStuck = t.isStuck := by
  rw [isStuck, isStuck, htext, htarget, hpos]

/-! ### Passing over trivia -/

/-- The trivia passed over are a first part of the text. -/
theorem leadingTrivia_eq_append (target : ScriptTarget) (fuel : Nat) (atStart : Bool) (cs : Text) :
    ∃ u, cs = u ++ (leadingTrivia target fuel atStart cs).2.2 ∧
      u.byteLength = (leadingTrivia target fuel atStart cs).1 := by
  induction fuel generalizing atStart cs with
  | zero => exact ⟨[], rfl, rfl⟩
  | succ fuel ih =>
    rw [leadingTrivia]
    split
    · exact ⟨[], rfl, rfl⟩
    · next l hl =>
      split
      · obtain ⟨u, hu, hlen⟩ := ih false (cs.drop l.raw.length)
        refine ⟨l.raw ++ u, ?_, ?_⟩
        · rw [List.append_assoc, ← hu]
          exact Text.eq_append_drop (Lexeme.raw_prefix_of_read? target hl)
        · rw [Text.byteLength_append, hlen]
          rfl
      · exact ⟨[], rfl, rfl⟩

/-- In front of a token there are no trivia to pass over. -/
theorem leadingTrivia_of_token {target : ScriptTarget} (fuel : Nat) {atStart : Bool} {cs : Text}
    (h : ∀ l, Lexeme.read? target atStart cs = some l → l.kind.isTrivia = false) :
    leadingTrivia target fuel atStart cs = (0, {}, cs) := by
  cases fuel with
  | zero => rfl
  | succ fuel =>
    rw [leadingTrivia]
    split
    · rfl
    · next l hl => rw [if_neg (Bool.eq_false_iff.mp (h l hl))]

/-- In front of a stray escape there are no trivia to pass over. -/
theorem leadingTrivia_of_isStray {target : ScriptTarget} (fuel : Nat) (atStart : Bool) {cs : Text}
    (h : Escape.isStray target cs = true) : leadingTrivia target fuel atStart cs = (0, {}, cs) :=
  leadingTrivia_of_token fuel fun _ hl => Lexeme.isTrivia_eq_false_of_isStray target h hl

/-- What a scan passes over: trivia or nothing, and nothing in front of a stray escape. -/
theorem passedOver_eq_append (skip : Bool) (target : ScriptTarget) (fuel : Nat) (atStart : Bool)
    {cs rest : Text} {skipped : Nat} {flags : TokenFlags}
    (h : (if skip then leadingTrivia target fuel atStart cs else (0, {}, cs)) =
      (skipped, flags, rest)) :
    (∃ u, cs = u ++ rest ∧ u.byteLength = skipped) ∧
      (Escape.isStray target cs = true → rest = cs) := by
  cases skip with
  | false =>
    cases h
    exact ⟨⟨[], rfl, rfl⟩, fun _ => rfl⟩
  | true =>
    rw [if_pos rfl] at h
    have hsplit := leadingTrivia_eq_append target fuel atStart cs
    rw [h] at hsplit
    refine ⟨hsplit, fun hstray => ?_⟩
    rw [leadingTrivia_of_isStray _ _ hstray] at h
    cases h
    rfl

/-! ### One scan -/

/-- What a scan has taken, trivia included, is a first part of what was left; it is empty only at
the end of the text and in front of a stray escape. -/
theorem scan_eq_append {s : Scanner} {cs : Text} (h : s.text.dropBytes? s.pos = some cs) :
    ∃ u rest, cs = u ++ rest ∧ s.scan.pos = s.pos + u.byteLength ∧
      (u = [] ↔ cs = [] ∨ Escape.isStray s.target cs = true) := by
  rw [scan, h]
  dsimp only
  generalize htrivia : (if s.skipTrivia then leadingTrivia s.target cs.length (s.pos == 0) cs
    else (0, {}, cs)) = trivia
  obtain ⟨skipped, flags, rest⟩ := trivia
  obtain ⟨⟨v, hcs, hv⟩, hstray⟩ := passedOver_eq_append _ _ _ _ htrivia
  dsimp only
  cases hread : Lexeme.read? s.target (s.pos == 0 && skipped == 0) rest with
  | none =>
    -- There is nothing to read behind the trivia.
    have hrest : rest = [] := by
      cases rest with
      | nil => rfl
      | cons => cases hread
    subst hrest
    refine ⟨v, [], hcs, by rw [acceptEnd_pos, hv], ?_⟩
    rw [List.append_nil] at hcs
    subst hcs
    refine ⟨.inl, ?_⟩
    rintro (hnil | hcs)
    · exact hnil
    · exact (hstray hcs).symm
  | some l =>
    have hl := Text.eq_append_drop (Lexeme.raw_prefix_of_read? s.target hread)
    refine ⟨v ++ l.raw, rest.drop l.raw.length, ?_, ?_, ?_⟩
    · rw [List.append_assoc, ← hl, hcs]
    · rw [accept_pos, Text.byteLength_append, hv, Nat.add_assoc]
      rfl
    · rw [List.append_eq_nil_iff, Lexeme.raw_eq_nil_iff_of_read? s.target hread]
      constructor
      · rintro ⟨rfl, hrest⟩
        rw [List.nil_append] at hcs
        exact .inr (hcs ▸ hrest)
      · rintro (rfl | hstr)
        · cases rest with
          | nil => cases hread
          | cons => cases v <;> cases hcs
        · -- No trivia stand in front of a stray escape.
          have hrest := hstray hstr
          refine ⟨?_, hrest ▸ hstr⟩
          rw [hrest] at hcs
          exact List.self_eq_append_left.mp hcs

/-- A scan that passes nothing over reads one lexeme. -/
theorem scan_eq {s : Scanner} {cs : Text} (hskip : s.skipTrivia = false)
    (h : s.text.dropBytes? s.pos = some cs) :
    s.scan = match Lexeme.read? s.target (s.pos == 0) cs with
      | none => s.acceptEnd s.pos s.pos {}
      | some l => s.accept s.pos s.pos l {} := by
  have hpassed : (if s.skipTrivia then leadingTrivia s.target cs.length (s.pos == 0) cs
      else (0, {}, cs)) = (0, {}, cs) := if_neg (Bool.eq_false_iff.mp hskip)
  have hstart : (s.pos == 0 && (0 : Nat) == 0) = (s.pos == 0) := Bool.and_true _
  rw [scan, h]
  dsimp only
  rw [hpassed]
  dsimp only
  rw [hstart]
  cases Lexeme.read? s.target (s.pos == 0) cs <;> rfl

/-- A scan in front of a token reads it, whether trivia are passed over or not. -/
theorem scan_eq_accept {s : Scanner} {cs : Text} {l : Lexeme}
    (h : s.text.dropBytes? s.pos = some cs) (hread : Lexeme.read? s.target (s.pos == 0) cs = some l)
    (htoken : l.kind.isTrivia = false) : s.scan = s.accept s.pos s.pos l {} := by
  have hpassed : (if s.skipTrivia then leadingTrivia s.target cs.length (s.pos == 0) cs
      else (0, {}, cs)) = (0, {}, cs) := by
    split
    · refine leadingTrivia_of_token _ fun l' hl' => ?_
      rwa [Option.some.inj (hl'.symm.trans hread)]
    · rfl
  have hstart : (s.pos == 0 && (0 : Nat) == 0) = (s.pos == 0) := Bool.and_true _
  rw [scan, h]
  dsimp only
  rw [hpassed]
  dsimp only
  rw [hstart, hread]
  rfl

/-- What a scan that passes nothing over finds is a lexeme, in front of the end of the file. -/
theorem exists_read_of_scan {s : Scanner} (hskip : s.skipTrivia = false)
    (hkind : s.scan.kind ≠ .endOfFileToken) :
    ∃ cs l, s.text.dropBytes? s.pos = some cs ∧
      Lexeme.read? s.target (s.pos == 0) cs = some l ∧ s.scan = s.accept s.pos s.pos l {} := by
  cases hcs : s.text.dropBytes? s.pos with
  | none =>
    refine absurd ?_ hkind
    rw [scan, hcs]
    rfl
  | some cs =>
    have hscan := scan_eq hskip hcs
    cases hl : Lexeme.read? s.target (s.pos == 0) cs with
    | none =>
      rw [hl] at hscan
      refine absurd ?_ hkind
      rw [hscan]
      rfl
    | some l =>
      rw [hl] at hscan
      exact ⟨cs, l, rfl, hl, hscan⟩

/-- Where a scan ends the text can be cut. -/
theorem isBoundary_scan_pos {s : Scanner} (h : s.text.isBoundary s.pos = true) :
    s.text.isBoundary s.scan.pos = true := by
  obtain ⟨cs, hcs⟩ := Text.isBoundary_iff.mp h
  obtain ⟨u, rest, rfl, hpos, -⟩ := scan_eq_append hcs
  rw [hpos]
  exact Text.isBoundary_iff.mpr ⟨rest, Text.dropBytes?_add hcs⟩

/-- **A scan inside of the text moves on, unless the scanner is stuck.** -/
theorem lt_scan_pos_iff {s : Scanner} (h : s.text.isBoundary s.pos = true)
    (hlt : s.pos < s.text.byteLength) : s.pos < s.scan.pos ↔ s.isStuck = false := by
  obtain ⟨cs, hcs⟩ := Text.isBoundary_iff.mp h
  have hne : cs ≠ [] := by
    rw [Ne, Text.eq_nil_iff_of_dropBytes? hcs]
    omega
  obtain ⟨u, rest, -, hpos, hnil⟩ := scan_eq_append hcs
  have hstuck : s.isStuck = Escape.isStray s.target cs := by
    rw [isStuck, hcs, Option.any_some]
  rw [hstuck, hpos, Nat.lt_add_right_iff_pos, Text.byteLength_pos, Ne, hnil, Bool.eq_false_iff]
  simp [hne]

end Scanner

end ScriptTree
