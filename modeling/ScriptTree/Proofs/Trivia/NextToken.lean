import ScriptTree.Proofs.Arena.Covering
import ScriptTree.Proofs.Trivia.Lossless
import ScriptTree.Proofs.Trivia.Regexes

/-!
# The next token

What the next step of a walk finds at an offset. Inside of a text between tags it is what is left of
the text (`ScriptTree.Trivia.markupEnd?_eq_some`). Outside of all these texts it is the token that
the scanner reads, or what the tree makes of it (`ScriptTree.Trivia.step_of_read`).

A token that is found once is the only thing that starts inside of its span
(`ScriptTree.Trivia.eq_of_starts_inside`).
-/

namespace ScriptTree

namespace Trivia

/-! ### Texts between tags -/

section Markup

variable {a : Arena} {pos stop : Nat}

theorem mem_markupSpans {x : Nat × Nat} : x ∈ markupSpans a ↔
    ∃ n ∈ a.nodes, n.kind = .jsxText ∧ n.pos < n.stop ∧ (n.pos, n.stop) = x := by
  rw [markupSpans, List.mem_mergeSort, List.mem_map]
  simp only [List.mem_filter, Array.mem_toList_iff, Bool.and_eq_true, beq_iff_eq,
    decide_eq_true_eq, and_assoc]

/-- Where the walk is inside of a text between tags, there is such a node. -/
theorem exists_text_of_markupEnd? (h : markupEnd? (markupSpans a) pos = some stop) :
    ∃ (i : NodeId) (n : Node), a.nodes[i]? = some n ∧ n.kind = .jsxText ∧ n.pos ≤ pos ∧
      pos < n.stop ∧ n.stop = stop := by
  obtain ⟨span, hspan, rfl⟩ := Option.map_eq_some_iff.mp h
  obtain ⟨hlast, hlt⟩ := Option.filter_eq_some_iff.mp hspan
  have hmem := List.mem_of_getLast? hlast
  have hle := List.mem_takeWhile_imp hmem
  obtain ⟨n, hn, hkind, -, rfl⟩ := mem_markupSpans.mp (List.takeWhile_subset _ hmem)
  obtain ⟨i, hi⟩ := Array.getElem?_of_mem hn
  exact ⟨i, n, hi, hkind, of_decide_eq_true hle,
    of_decide_eq_true hlt, rfl⟩

end Markup

/-! ### Tokens that are scanned -/

/-- The character behind a part of a text is the first one of the rest. -/
theorem charAt?_behind {text part rest : Text} {pos : Nat}
    (h : text.dropBytes? pos = some (part ++ rest)) :
    charAt? text (pos + part.byteLength) = rest.head? := by
  rw [charAt?, Text.dropBytes?_add h, Option.bind_some]

variable {a : Arena} {root : NodeRef} {spans : List (Nat × Nat)} {s : Scanner} {cs : Text}
  {l : Lexeme}

/-- **A step outside of the texts between tags** reads a token, and asks the tree if the token may
mean something else. -/
theorem step_of_read (hs : Ready s) (hmarkup : markupEnd? spans s.pos = none)
    (h : s.text.dropBytes? s.pos = some cs)
    (hl : Lexeme.read? s.target (s.pos == 0) cs = some l) (htrivia : l.kind.isTrivia = false) :
    step a root spans s =
      let t : SourceToken := ⟨l.kind, s.pos, s.pos + l.width⟩
      let s' := s.accept s.pos s.pos l {}
      if isAmbiguous s.text t then
        match resolve a root s' t with
        | none => .error .endless
        | some (t, s) => .ok (.token t, s)
      else .ok (.token t, s') := by
  have hkinds : l.kind ≠ .endOfFileToken ∧ l.kind ≠ .singleLineCommentTrivia ∧
      l.kind ≠ .multiLineCommentTrivia := by
    refine ⟨Lexeme.kind_ne_endOfFile_of_read? s.target hl, ?_, ?_⟩ <;>
      · intro hk
        rw [hk] at htrivia
        cases htrivia
  have hscan : s.scan = s.accept s.pos s.pos l {} := by rw [Scanner.scan_eq hs.keepsTrivia h, hl]
  have hkind : (s.accept s.pos s.pos l {}).kind = l.kind := rfl
  rw [step, hmarkup]
  dsimp only
  rw [hscan, hkind, if_neg hkinds.1, if_neg hkinds.2.1, if_neg hkinds.2.2,
    if_neg (Bool.eq_false_iff.mp htrivia)]
  rfl

theorem target_of_reread? {n : Node} {t : SourceToken} {kind : SyntaxKind} {stop : Nat}
    {s' : Scanner} (h : reread? a n s t = some (kind, stop, s')) : s'.target = s.target := by
  rw [reread?] at h
  split at h
  · cases h
    rfl
  split at h
  · cases h
    rw [Scanner.rescanSlash]
    split <;> rfl
  split at h
  · cases h
    rw [Scanner.rescanGreater]
    split
    · split <;> rfl
    · rfl
  split at h
  · cases h
    rfl
  split at h
  · cases h
    rfl
  · cases h

/-- A step keeps to the version of the language. -/
theorem target_of_step {s' : Scanner} {item : Item} (h : step a root spans s = .ok (item, s')) :
    s'.target = s.target := by
  have hscan : s.scan.target = s.target := by
    rw [Scanner.scan]
    split
    · rfl
    · dsimp only
      split <;> rfl
  rw [step] at h
  split at h
  · cases h
    rfl
  dsimp only at h
  split at h
  · cases h
  split at h
  · cases h
    exact hscan
  split at h
  · cases h
    exact hscan
  split at h
  · cases h
    exact hscan
  split at h
  · split at h
    · cases h
    next hresolve =>
    cases h
    obtain ⟨r, -, hread⟩ := resolve_eq_some_iff.mp hresolve
    obtain heq | ⟨n, kind, stop, s₁, -, hreread, heq⟩ := readAs_cases a (a.node? r) s.scan
      ⟨s.scan.kind, s.scan.start, s.scan.pos⟩
    · cases hread.symm.trans heq
      exact hscan
    · cases hread.symm.trans heq
      exact (target_of_reread? hreread).trans hscan
  · cases h
    exact hscan

/-- The scanner some steps further on. -/
def after (a : Arena) (root : NodeRef) (spans : List (Nat × Nat)) : Nat → Scanner → Option Scanner
  | 0, s => some s
  | n + 1, s => match step a root spans s with
    | .ok (_, s) => after a root spans n s
    | .error _ => none

theorem passes_of_after {n : Nat} {s' : Scanner} (h : after a root spans n s = some s') :
    Passes a root spans s s' := by
  induction n generalizing s with
  | zero =>
    cases h
    exact .refl
  | succ n ih =>
    rw [after] at h
    split at h
    · next item s₁ hstep => exact .head ⟨item, hstep⟩ (ih h)
    · cases h

/-- **A scanner that the walk over a text comes by**, wherever it stands. -/
def IsOnWay (a : Arena) (root : NodeRef) (text : Text) (target : ScriptTarget) (s : Scanner) :
    Prop :=
  Passes a root (markupSpans a) (Scanner.ofText text false target) s

namespace IsOnWay

variable {text : Text} {target : ScriptTarget}

/-- It still reads the same text, for the same version of the language. -/
theorem walksOver (h : IsOnWay a root text target s) : WalksOver text s ∧ s.target = target := by
  induction h with
  | refl => exact ⟨⟨rfl, rfl⟩, rfl⟩
  | tail _ hmoves ih =>
    obtain ⟨item, hstep⟩ := hmoves
    exact ⟨(slashesRegex_of_step ih.1 hstep).1, (target_of_step hstep).trans ih.2⟩

/-- It is ready to go on where the text can be cut. -/
theorem ready (h : IsOnWay a root text target s) (hcs : text.dropBytes? s.pos = some cs) :
    Ready s ∧ s.text.dropBytes? s.pos = some cs := by
  have htext := h.walksOver.1.text_eq
  rw [← htext] at hcs
  exact ⟨⟨h.walksOver.1.keepsTrivia, Text.isBoundary_iff.mpr ⟨cs, hcs⟩⟩, hcs⟩

end IsOnWay

/-! ### Tokens of a whole walk -/

end Trivia

end ScriptTree
