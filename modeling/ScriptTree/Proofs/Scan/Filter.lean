import Mathlib.Data.List.Chain
import Mathlib.Logic.Function.Iterate
import ScriptTree.Proofs.Scan.Progress

/-!
# Passing over trivia

A scanner that keeps trivia cuts a first part of its text into pieces: each token starts where the
one before it ended (`ScriptTree.Scanner.tiles_scanAll`). A scanner that passes over trivia reads the
same tokens without the trivia. One of its scans corresponds to several scans of the other, so the
two are compared at the places where both are about to read
(`ScriptTree.Scanner.Twins`): from there the first reads trivia for a while, and then the token that
the second reads at once (`ScriptTree.Scanner.Twins.exists_scan`).
-/

namespace ScriptTree

/-- The kinds that are passed over: blanks, line breaks, comments, and the line that names an
interpreter. -/
def SyntaxKind.isPassedOver : SyntaxKind → Bool
  | .whitespaceTrivia | .newLineTrivia | .singleLineCommentTrivia | .multiLineCommentTrivia
  | .shebangTrivia => true
  | _ => false

/-- Of the kinds of trivia only these are read. -/
theorem Lexeme.isPassedOver_of_read? {target : ScriptTarget} {atStart : Bool} {cs : Text}
    {l : Lexeme} (h : read? target atStart cs = some l) :
    l.kind.isPassedOver = l.kind.isTrivia := by
  cases cs with
  | nil => cases h
  | cons c cs =>
    cases read?_form target h with
    | token htoken =>
      have htrivia := (kind_of_tokenForm target htoken).1
      rw [htrivia, Bool.eq_false_iff]
      intro hpassed
      unfold SyntaxKind.isPassedOver at hpassed
      split at hpassed
      all_goals first
        | (rename_i hk; rw [hk] at htrivia; cases htrivia)
        | cases hpassed
    | _ => rfl

namespace Scanner

/-! ### Sequences of scans -/

/-- The states after each of the first scans. -/
def scanAll (s : Scanner) : Nat → List Scanner
  | 0 => []
  | n + 1 => s.scan :: s.scan.scanAll n

/-- What is read of a token: its kind, where it starts and ends, and its value. -/
structure Reading where
  kind : SyntaxKind
  start : Nat
  stop : Nat
  value : Text
  deriving DecidableEq

/-- The current token as it was read. -/
def reading (s : Scanner) : Reading :=
  ⟨s.kind, s.start, s.pos, s.value⟩

/-- The tokens that the first scans read. -/
def readings (s : Scanner) (n : Nat) : List Reading :=
  (s.scanAll n).map reading

/-- Something is no blank, line break, comment or line that names an interpreter. -/
def Reading.isKept (r : Reading) : Bool :=
  !r.kind.isPassedOver

theorem scanAll_add (s : Scanner) (m n : Nat) :
    s.scanAll (m + n) = s.scanAll m ++ (scan^[m] s).scanAll n := by
  induction m generalizing s with
  | zero => rw [Nat.zero_add]; rfl
  | succ m ih =>
    rw [Nat.add_right_comm, scanAll, ih, Function.iterate_succ_apply]
    rfl

@[simp] theorem length_scanAll (s : Scanner) (n : Nat) : (s.scanAll n).length = n := by
  induction n generalizing s with
  | zero => rfl
  | succ n ih => rw [scanAll, List.length_cons, ih]

@[simp] theorem length_readings (s : Scanner) (n : Nat) : (s.readings n).length = n := by
  rw [readings, List.length_map, length_scanAll]

theorem scan_target (s : Scanner) : s.scan.target = s.target := by
  rw [scan]
  split
  · rfl
  · dsimp only
    split <;> rfl

theorem scan_skipTrivia (s : Scanner) : s.scan.skipTrivia = s.skipTrivia := by
  rw [scan]
  split
  · rfl
  · dsimp only
    split <;> rfl

/-- What no scan changes is not changed by many. -/
theorem iterate_scan {β : Type} (f : Scanner → β) (hf : ∀ s : Scanner, f s.scan = f s) (n : Nat)
    (s : Scanner) : f (scan^[n] s) = f s := by
  induction n generalizing s with
  | zero => rfl
  | succ n ih => rw [Function.iterate_succ_apply, ih, hf]

/-! ### Pieces of a text -/

/-- A scanner that keeps trivia takes the first part of what is left. -/
theorem exists_scan_eq_raw_append {s : Scanner} {cs : Text} (hskip : s.skipTrivia = false)
    (h : s.text.dropBytes? s.pos = some cs) :
    ∃ rest, cs = s.scan.raw ++ rest ∧ s.scan.start = s.pos ∧
      s.scan.pos = s.pos + s.scan.raw.byteLength := by
  have hscan := scan_eq hskip h
  have hslice {u rest : Text} (hu : cs = u ++ rest) :
      s.text.slice s.pos (s.pos + u.byteLength) = u := by
    rw [Text.slice, Text.slice?_eq_some_iff.mpr ⟨rest, h.trans (congrArg some hu), rfl⟩,
      Option.getD_some]
  cases hread : Lexeme.read? s.target (s.pos == 0) cs with
  | none =>
    rw [hread] at hscan
    have hraw : s.scan.raw = [] := by
      rw [hscan]
      exact hslice (u := []) rfl
    rw [hraw, hscan]
    exact ⟨cs, rfl, rfl, rfl⟩
  | some l =>
    rw [hread] at hscan
    have hsplit := Text.eq_append_drop (Lexeme.raw_prefix_of_read? s.target hread)
    have hraw : s.scan.raw = l.raw := by
      rw [hscan]
      exact hslice hsplit
    rw [hraw, hscan]
    exact ⟨_, hsplit, rfl, rfl⟩

/-- Each token starts where the one before it ended, and together they are what stands between two
places of the text. -/
theorem tiles_scanAll {s : Scanner} {cs : Text} (hskip : s.skipTrivia = false)
    (h : s.text.dropBytes? s.pos = some cs) (n : Nat) :
    (s :: s.scanAll n).IsChain (fun t u => u.start = t.pos) ∧
      ∃ rest, cs = ((s.scanAll n).map raw).flatten ++ rest ∧
        (scan^[n] s).pos = s.pos + Text.byteLength ((s.scanAll n).map raw).flatten := by
  induction n generalizing s cs with
  | zero => exact ⟨.singleton s, cs, rfl, rfl⟩
  | succ n ih =>
    obtain ⟨rest, rfl, hstart, hpos⟩ := exists_scan_eq_raw_append hskip h
    have hrest : s.scan.text.dropBytes? s.scan.pos = some rest := by
      rw [scan_text, hpos]
      exact Text.dropBytes?_add h
    obtain ⟨hchain, rest', hsplit, hend⟩ := ih (s.scan_skipTrivia.trans hskip) hrest
    refine ⟨.cons_cons hstart hchain, rest', ?_, ?_⟩
    · rw [scanAll, List.map_cons, List.flatten_cons, List.append_assoc, ← hsplit]
    · rw [Function.iterate_succ_apply, hend, hpos, scanAll, List.map_cons, List.flatten_cons,
        Text.byteLength_append, Nat.add_assoc]

/-! ### Trivia in front of a token -/

/-- The next scans read trivia, which take some bytes, and none stand in front of what is left
then. -/
structure Passes (s : Scanner) (k skipped : Nat) (rest : Text) : Prop where
  trivia : ∀ u ∈ s.scanAll k, u.kind.isPassedOver = true
  pos : (scan^[k] s).pos = s.pos + skipped
  cut : s.text.dropBytes? (s.pos + skipped) = some rest
  read : ∀ l, Lexeme.read? s.target (s.pos + skipped == 0) rest = some l →
    l.kind.isPassedOver = false

/-- Trivia have a width. -/
theorem width_pos_of_isTrivia {target : ScriptTarget} {atStart : Bool} {cs : Text} {l : Lexeme}
    (h : Lexeme.read? target atStart cs = some l) (htrivia : l.kind.isTrivia = true) :
    0 < l.width := by
  refine Text.byteLength_pos.mpr fun hnil => ?_
  have hstray := (Lexeme.raw_eq_nil_iff_of_read? target h).mp hnil
  rw [Lexeme.isTrivia_eq_false_of_isStray target hstray h] at htrivia
  cases htrivia

/-- Where no trivia stand nothing is passed over. -/
theorem passes_nothing {s : Scanner} {cs : Text} (h : s.text.dropBytes? s.pos = some cs)
    (hread : ∀ l, Lexeme.read? s.target (s.pos == 0) cs = some l → l.kind.isPassedOver = false) :
    s.Passes 0 0 cs :=
  ⟨fun _ hu => absurd hu List.not_mem_nil, rfl, h, hread⟩

/-- A scanner that keeps trivia reads one of them, and passes by the others. -/
theorem Passes.cons {s : Scanner} {cs rest : Text} {l : Lexeme} {k skipped : Nat}
    (hskip : s.skipTrivia = false) (h : s.text.dropBytes? s.pos = some cs)
    (hread : Lexeme.read? s.target (s.pos == 0) cs = some l) (htrivia : l.kind.isTrivia = true)
    (hk : s.scan.Passes k skipped rest) : s.Passes (k + 1) (l.width + skipped) rest := by
  have hscan : s.scan = s.accept s.pos s.pos l {} := by
    rw [scan_eq hskip h, hread]
  have hpos : s.scan.pos = s.pos + l.width := by rw [hscan, accept_pos]
  refine ⟨?_, ?_, ?_, ?_⟩
  · refine List.forall_mem_cons.mpr ⟨?_, hk.trivia⟩
    rw [hscan]
    exact (Lexeme.isPassedOver_of_read? hread).trans htrivia
  · rw [Function.iterate_succ_apply, hk.pos, hpos, Nat.add_assoc]
  · have hcut := hk.cut
    rwa [scan_text, hpos, Nat.add_assoc] at hcut
  · have hnext := hk.read
    rwa [scan_target, hpos, Nat.add_assoc] at hnext

/-- **A scanner that keeps trivia passes by those that are there to pass over.** -/
theorem exists_passes (fuel : Nat) {s : Scanner} {cs : Text} (hskip : s.skipTrivia = false)
    (h : s.text.dropBytes? s.pos = some cs) (hfuel : cs.length ≤ fuel) :
    ∃ k, s.Passes k (leadingTrivia s.target fuel (s.pos == 0) cs).1
      (leadingTrivia s.target fuel (s.pos == 0) cs).2.2 := by
  induction fuel generalizing s cs with
  | zero =>
    obtain rfl : cs = [] := List.eq_nil_of_length_eq_zero (Nat.le_zero.mp hfuel)
    have hread : Lexeme.read? s.target (s.pos == 0) [] = none := rfl
    exact ⟨0, passes_nothing h fun l hl => by cases hread.symm.trans hl⟩
  | succ fuel ih =>
    rw [leadingTrivia]
    cases hread : Lexeme.read? s.target (s.pos == 0) cs with
    | none =>
      refine ⟨0, passes_nothing h fun l hl => ?_⟩
      rw [hread] at hl
      cases hl
    | some l =>
      dsimp only
      split
      · next htrivia =>
        -- One scan passes by the first piece of trivia; the others are left behind it.
        have hwidth := width_pos_of_isTrivia hread htrivia
        have hsplit := Text.eq_append_drop (Lexeme.raw_prefix_of_read? s.target hread)
        have hpos : s.scan.pos = s.pos + l.width := by rw [scan_eq hskip h, hread, accept_pos]
        have hcut : s.scan.text.dropBytes? s.scan.pos = some (cs.drop l.raw.length) := by
          rw [scan_text, hpos]
          exact Text.dropBytes?_add (h.trans (congrArg some hsplit))
        have hlength : (cs.drop l.raw.length).length ≤ fuel := by
          have hraw : l.raw.length ≠ 0 := fun hnil => by
            rw [Lexeme.width, List.eq_nil_of_length_eq_zero hnil] at hwidth
            exact absurd hwidth (Nat.lt_irrefl 0)
          rw [List.length_drop]
          omega
        have hstart : (s.scan.pos == 0) = false := by
          rw [beq_eq_false_iff_ne]
          omega
        obtain ⟨k, hk⟩ := ih (s.scan_skipTrivia.trans hskip) hcut hlength
        rw [hstart, scan_target] at hk
        exact ⟨k + 1, hk.cons hskip h hread htrivia⟩
      · next htrivia =>
        refine ⟨0, passes_nothing h fun l' hl' => ?_⟩
        rw [hread] at hl'
        cases hl'
        exact (Lexeme.isPassedOver_of_read? hread).trans (Bool.eq_false_iff.mpr htrivia)

/-- A scanner that passes over trivia reads the lexeme behind them. -/
theorem scan_eq_of_skips {s : Scanner} {cs rest : Text} {skipped : Nat} {flags : TokenFlags}
    (hskip : s.skipTrivia = true) (h : s.text.dropBytes? s.pos = some cs)
    (hpassed : leadingTrivia s.target cs.length (s.pos == 0) cs = (skipped, flags, rest)) :
    s.scan = match Lexeme.read? s.target (s.pos + skipped == 0) rest with
      | none => s.acceptEnd s.pos (s.pos + skipped) flags
      | some l => s.accept s.pos (s.pos + skipped) l flags := by
  -- What is left is the whole text if nothing has been passed over at its start.
  have hstart : (s.pos == 0 && skipped == 0) = (s.pos + skipped == 0) := by
    rw [Bool.eq_iff_iff]
    simp
  cases hread : Lexeme.read? s.target (s.pos + skipped == 0) rest <;>
    simp only [scan, h, hskip, if_true, hpassed, hstart, hread]

/-! ### Twins -/

/-- Two scanners are about to read at the same place of the same text, and only the second passes
over trivia. -/
structure Twins (s t : Scanner) : Prop where
  keeps : s.skipTrivia = false
  skips : t.skipTrivia = true
  text : t.text = s.text
  target : t.target = s.target
  pos : t.pos = s.pos
  isBoundary : s.text.isBoundary s.pos = true

namespace Twins

variable {s t : Scanner}

/-- Where both have read the same, they are about to read at the same place again. -/
theorem next (h : Twins s t) {k : Nat} (hreading : (scan^[k] s).reading = t.scan.reading) :
    Twins (scan^[k] s) t.scan where
  keeps := (iterate_scan skipTrivia scan_skipTrivia k s).trans h.keeps
  skips := t.scan_skipTrivia.trans h.skips
  text := t.scan_text.trans (h.text.trans (iterate_scan Scanner.text scan_text k s).symm)
  target := t.scan_target.trans (h.target.trans (iterate_scan Scanner.target scan_target k s).symm)
  pos := (congrArg Reading.stop hreading).symm
  isBoundary := by
    have hpos : (scan^[k] s).pos = t.scan.pos := congrArg Reading.stop hreading
    have hcut : t.text.isBoundary t.pos = true := by
      rw [h.text, h.pos]
      exact h.isBoundary
    rw [hpos, iterate_scan Scanner.text scan_text k s, ← h.text]
    exact isBoundary_scan_pos hcut

/-- **A scan of the second corresponds to some scans of the first**, of which all but the last read
trivia. -/
theorem exists_scan (h : Twins s t) : ∃ k, (∀ u ∈ s.scanAll k, u.kind.isPassedOver = true) ∧
    (scan^[k + 1] s).kind.isPassedOver = false ∧ (scan^[k + 1] s).reading = t.scan.reading := by
  obtain ⟨cs, hcs⟩ := Text.isBoundary_iff.mp h.isBoundary
  -- One passes by the trivia piece by piece, the other all at once; then both read the same.
  obtain ⟨k, hk⟩ := exists_passes cs.length h.keeps hcs (Nat.le_refl _)
  have hcs' : t.text.dropBytes? t.pos = some cs := by rw [h.text, h.pos, hcs]
  obtain ⟨⟨skipped, flags, rest⟩, hpassed⟩ :
      ∃ passed, leadingTrivia s.target cs.length (s.pos == 0) cs = passed := ⟨_, rfl⟩
  rw [hpassed] at hk
  rw [← h.target, ← h.pos] at hpassed
  have hsecond := scan_eq_of_skips h.skips hcs' hpassed
  rw [h.target, h.pos] at hsecond
  have hkeeps : (scan^[k] s).skipTrivia = false :=
    (iterate_scan skipTrivia scan_skipTrivia k s).trans h.keeps
  have hcut : (scan^[k] s).text.dropBytes? (scan^[k] s).pos = some rest := by
    rw [iterate_scan Scanner.text scan_text k s, hk.pos, hk.cut]
  have hfirst := scan_eq hkeeps hcut
  rw [iterate_scan Scanner.target scan_target k s, hk.pos,
    ← Function.iterate_succ_apply' scan] at hfirst
  refine ⟨k, hk.trivia, ?_⟩
  rw [hfirst, hsecond]
  cases hread : Lexeme.read? s.target (s.pos + skipped == 0) rest with
  | none => exact ⟨rfl, rfl⟩
  | some l =>
    exact ⟨hk.read l hread, rfl⟩

/-- **The tokens that the second reads are those that the first reads, without trivia.** -/
theorem exists_readings (h : Twins s t) (n : Nat) :
    ∃ m, n ≤ m ∧ (s.readings m).filter Reading.isKept = t.readings n := by
  induction n generalizing s t with
  | zero => exact ⟨0, Nat.le_refl 0, rfl⟩
  | succ n ih =>
    obtain ⟨k, htrivia, hkept, hreading⟩ := h.exists_scan
    obtain ⟨m, hle, hm⟩ := ih (h.next hreading)
    have hpassed : ((s.scanAll k).map reading).filter Reading.isKept = [] := by
      refine List.filter_eq_nil_iff.mpr (List.forall_mem_map.mpr fun u hu => ?_)
      simp [Reading.isKept, reading, htrivia u hu]
    have hlast : (scan^[k + 1] s).reading.isKept = true := by
      rw [Reading.isKept, reading, hkept]
      rfl
    refine ⟨k + 1 + m, by omega, ?_⟩
    calc (s.readings (k + 1 + m)).filter Reading.isKept
        = ((s.scanAll k).map reading ++ (scan^[k + 1] s).reading ::
            (scan^[k + 1] s).readings m).filter Reading.isKept := by
          rw [readings, scanAll_add, scanAll_add, Function.iterate_succ_apply' scan]
          simp [scanAll, readings]
      _ = t.scan.reading :: t.scan.readings n := by
          rw [List.filter_append, hpassed, List.nil_append, List.filter_cons_of_pos hlast, hm,
            hreading]

/-- What is left of the first tokens of the first are the first tokens of the second. -/
theorem filter_readings (h : Twins s t) (m : Nat) : (s.readings m).filter Reading.isKept =
    t.readings ((s.readings m).filter Reading.isKept).length := by
  have hgrows {s : Scanner} {m n : Nat} (hle : m ≤ n) : s.readings m <+: s.readings n := by
    obtain ⟨d, rfl⟩ := Nat.exists_eq_add_of_le hle
    rw [readings, readings, scanAll_add, List.map_append]
    exact List.prefix_append _ _
  obtain ⟨m', hle, hm'⟩ := h.exists_readings m
  have hfirst : (s.readings m).filter Reading.isKept <+: t.readings m :=
    hm' ▸ (hgrows hle).filter Reading.isKept
  have hlength : ((s.readings m).filter Reading.isKept).length ≤ m := by
    have hle := hfirst.length_le
    rwa [length_readings] at hle
  refine (List.prefix_of_prefix_length_le hfirst (hgrows hlength) ?_).eq_of_length ?_ <;>
    rw [length_readings]

end Twins

/-- **Passing over trivia only filters.** The tokens of a scanner that keeps trivia tile a first part
of the text, and without the trivia they are the tokens of a scanner that passes over them: those of
any number of scans of the first are the next tokens of the second, and all tokens of the second come
up. -/
theorem skipping_filters (text : Text) (target : ScriptTarget) :
    (∀ n, (ofText text false target :: (ofText text false target).scanAll n).IsChain
        (fun t u => u.start = t.pos) ∧
      text.slice? 0 (scan^[n] (ofText text false target)).pos =
        some (((ofText text false target).scanAll n).map raw).flatten) ∧
    (∀ m, ∃ n, ((ofText text false target).readings m).filter Reading.isKept =
      (ofText text true target).readings n) ∧
    ∀ n, ∃ m, ((ofText text false target).readings m).filter Reading.isKept =
      (ofText text true target).readings n := by
  have htwins : Twins (ofText text false target) (ofText text true target) :=
    ⟨rfl, rfl, rfl, rfl, rfl, by rw [Text.isBoundary_iff]; exact ⟨text, Text.dropBytes?_zero text⟩⟩
  refine ⟨fun n => ?_, fun m => ⟨_, htwins.filter_readings m⟩, fun n => ?_⟩
  · obtain ⟨hchain, rest, htext, hpos⟩ := tiles_scanAll
      (s := ofText text false target) rfl (Text.dropBytes?_zero text) n
    exact ⟨hchain, Text.slice?_eq_some_iff.mpr
      ⟨rest, (Text.dropBytes?_zero text).trans (congrArg some htext), hpos⟩⟩
  · obtain ⟨m, -, hm⟩ := htwins.exists_readings n
    exact ⟨m, hm⟩

end Scanner

end ScriptTree
