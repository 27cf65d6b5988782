import Mathlib.Data.List.Infix
import ScriptTree.Proofs.Scan.Progress

/-!
# What a scanner can be told to do

A scanner reads the next token, reads its current token a second time, and is moved. Whatever it is
told, its offsets are places in the text, and they are in order
(`ScriptTree.Scanner.isPlaced_perform_iff`), with one exception: the second reading of a closing
brace takes the first byte of the current token for the brace, and does not ask what stands there.
At the end of the text it ends behind the text, and in front of a longer character inside of it.

The readings of a slash and of a greater sign look at the kind of the current token before they go
on. To see that they stay in the text it has to be known of the kind what it says about the text
(`ScriptTree.Scanner.IsSteady`).
-/

namespace ScriptTree

namespace Scanner

/-! ### Operations -/

/-- What a scanner can be told to do. -/
inductive Operation
  | scan
  | rescanTemplate
  | rescanSlash
  | rescanGreater
  | setTarget (target : ScriptTarget)
  | moveTo (offset : Nat)
  deriving DecidableEq

/-- The scanner after an operation. -/
def perform (s : Scanner) : Operation → Scanner
  | .scan => s.scan
  | .rescanTemplate => s.rescanTemplate
  | .rescanSlash => s.rescanSlash
  | .rescanGreater => s.rescanGreater
  | .setTarget target => { s with target := target }
  | .moveTo offset => s.moveTo offset

/-- The scanner after a sequence of operations. -/
def performAll (s : Scanner) (ops : List Operation) : Scanner :=
  ops.foldl perform s

/-- No operation changes the text. -/
@[simp] theorem perform_text (s : Scanner) (op : Operation) : (s.perform op).text = s.text := by
  cases op with
  | scan => exact s.scan_text
  | rescanTemplate => rfl
  | rescanSlash => exact s.rescanSlash_text
  | rescanGreater => exact s.rescanGreater_text
  | setTarget target => rfl
  | moveTo offset => rfl

/-- A scanner is moved to a place in the text, or behind its end, which counts as the end. -/
def Operation.FitsText (text : Text) : Operation → Prop
  | .moveTo offset => text.isBoundary (min offset text.byteLength) = true
  | _ => True

/-! ### Offsets -/

/-- **The offsets of the current token are places in the text, and in order.** What it was read from
is the text between the last two. -/
structure IsPlaced (s : Scanner) : Prop where
  fullStart_le : s.fullStart ≤ s.start
  start_le : s.start ≤ s.pos
  pos_le : s.pos ≤ s.text.byteLength
  fullStart : s.text.isBoundary s.fullStart = true
  start : s.text.isBoundary s.start = true
  pos : s.text.isBoundary s.pos = true
  raw : s.text.slice? s.start s.pos = some s.raw

/-- What the kind of the current token says about the text at its start, as far as second readings
rely on it. -/
structure IsSteady (s : Scanner) : Prop extends IsPlaced s where
  slash : s.kind = .slashToken ∨ s.kind = .slashEqualsToken →
    ∃ cs, s.text.dropBytes? s.start = some ('/' :: cs)
  brace : s.kind = .closeBraceToken → ∃ cs, s.text.dropBytes? s.start = some ('\x7d' :: cs)

variable {s : Scanner}

/-- The offsets of a token that takes the first part of what is left. -/
theorem isPlaced_of_dropBytes? {u rest : Text} (hfull : s.text.isBoundary s.fullStart = true)
    (hle : s.fullStart ≤ s.start) (hstart : s.text.dropBytes? s.start = some (u ++ rest))
    (hpos : s.pos = s.start + u.byteLength) : s.IsPlaced := by
  have hend : s.text.isBoundary s.pos = true := by
    rw [hpos]
    exact Text.isBoundary_iff.mpr ⟨rest, Text.dropBytes?_add hstart⟩
  have hslice : s.text.slice? s.start s.pos = some u :=
    Text.slice?_eq_some_iff.mpr ⟨rest, hstart, hpos⟩
  exact {
    fullStart_le := hle
    start_le := by omega
    pos_le := Text.le_byteLength_of_isBoundary hend
    fullStart := hfull
    start := Text.isBoundary_iff.mpr ⟨_, hstart⟩
    pos := hend
    raw := by rw [Scanner.raw, Text.slice, hslice, Option.getD_some] }

/-- A token without width. -/
theorem isPlaced_of_pos_eq (hfull : s.text.isBoundary s.fullStart = true)
    (hle : s.fullStart ≤ s.start) (hstart : s.text.isBoundary s.start = true)
    (hpos : s.pos = s.start) : s.IsPlaced := by
  obtain ⟨cs, hcs⟩ := Text.isBoundary_iff.mp hstart
  exact isPlaced_of_dropBytes? (u := []) hfull hle hcs (by rw [hpos]; rfl)

theorem isBoundary_zero (text : Text) : text.isBoundary 0 = true := by
  rw [Text.isBoundary, Text.dropBytes?_zero, Option.isSome_some]

theorem isSteady_ofText (text : Text) (skipTrivia : Bool) (target : ScriptTarget) :
    (ofText text skipTrivia target).IsSteady where
  toIsPlaced := isPlaced_of_pos_eq (isBoundary_zero text) (Nat.le_refl 0) (isBoundary_zero text) rfl
  slash := by
    rintro (h | h) <;> cases h
  brace := nofun

/-! ### One operation -/

/-- Trivia that are passed over say nothing of the separators of a number. -/
theorem containsInvalidSeparator_leadingTrivia (target : ScriptTarget) (fuel : Nat)
    (atStart : Bool) (cs : Text) :
    (leadingTrivia target fuel atStart cs).2.1.containsInvalidSeparator = false := by
  induction fuel generalizing atStart cs with
  | zero => rfl
  | succ fuel ih =>
    rw [leadingTrivia]
    split
    · rfl
    · next l hread =>
      split
      · next htrivia =>
        have hl := Lexeme.containsInvalidSeparator_of_isTrivia target hread htrivia
        change (l.flags.containsInvalidSeparator || _) = false
        rw [hl, ih, Bool.or_self]
      · rfl

/-- What a scan finds at a place in the text: trivia that are passed over, and behind them the end of
the text or a lexeme. Of the separators of a number only the lexeme says something. -/
theorem scan_cases {cs : Text} (h : s.text.dropBytes? s.pos = some cs) :
    ∃ u rest flags, cs = u ++ rest ∧ flags.containsInvalidSeparator = false ∧
      (s.scan = s.acceptEnd s.pos (s.pos + u.byteLength) flags ∨
        ∃ atStart l, Lexeme.read? s.target atStart rest = some l ∧
          s.scan = s.accept s.pos (s.pos + u.byteLength) l flags) := by
  rw [scan, h]
  dsimp only
  generalize htrivia : (if s.skipTrivia then leadingTrivia s.target cs.length (s.pos == 0) cs
    else (0, {}, cs)) = trivia
  obtain ⟨skipped, flags, rest⟩ := trivia
  obtain ⟨⟨u, hcs, rfl⟩, -⟩ := passedOver_eq_append _ _ _ _ htrivia
  refine ⟨u, rest, flags, hcs, ?_, ?_⟩
  · change (u.byteLength, flags, rest).2.1.containsInvalidSeparator = false
    rw [← htrivia]
    split
    · exact containsInvalidSeparator_leadingTrivia _ _ _ _
    · rfl
  dsimp only
  cases hread : Lexeme.read? s.target (s.pos == 0 && u.byteLength == 0) rest with
  | none => exact .inl rfl
  | some l => exact .inr ⟨_, l, hread, rfl⟩

theorem isSteady_scan (hs : s.IsPlaced) : s.scan.IsSteady := by
  obtain ⟨cs, hcs⟩ := Text.isBoundary_iff.mp hs.pos
  obtain ⟨u, rest, flags, rfl, -, hscan⟩ := scan_cases hcs
  have hstart := Text.dropBytes?_add hcs
  rcases hscan with hscan | ⟨atStart, l, hread, hscan⟩
  · rw [hscan]
    refine ⟨isPlaced_of_pos_eq hs.pos (Nat.le_add_right _ _) ?_ rfl, ?_, nofun⟩
    · exact Text.isBoundary_iff.mpr ⟨rest, hstart⟩
    · rintro (h | h) <;> cases h
  · rw [hscan]
    have hsplit := Text.eq_append_drop (Lexeme.raw_prefix_of_read? s.target hread)
    obtain ⟨hslash, hbrace⟩ := Lexeme.head_of_read? s.target hread
    have hfirst {c : Char} (hc : rest.head? = some c) :
        ∃ cs, s.text.dropBytes? (s.pos + u.byteLength) = some (c :: cs) := by
      obtain ⟨cs, rfl⟩ := List.head?_eq_some_iff.mp hc
      exact ⟨cs, hstart⟩
    refine ⟨isPlaced_of_dropBytes? hs.pos (Nat.le_add_right _ _)
      (hstart.trans (congrArg some hsplit)) rfl, ?_, ?_⟩
    · exact fun hkind => hfirst (hslash hkind)
    · exact fun hkind => hfirst (hbrace hkind)

/-- **The second reading of a closing brace stays in the text if the current token starts with a
character of one byte**, and only then. -/
theorem isPlaced_rescanTemplate_iff (hs : s.IsPlaced) :
    s.rescanTemplate.IsPlaced ↔ s.text.isBoundary (s.start + 1) = true := by
  constructor
  · intro h
    -- Where the text cannot be cut nothing is read, and the token ends there.
    by_contra hcut
    have hnone : s.text.dropBytes? (s.start + 1) = none := by
      rw [Text.isBoundary] at hcut
      exact Option.not_isSome_iff_eq_none.mp hcut
    have hpos : s.rescanTemplate.pos = s.start + 1 := by
      rw [rescanTemplate, hnone]
      rfl
    exact hcut (hpos ▸ h.pos)
  · intro hcut
    obtain ⟨cs, hcs⟩ := Text.isBoundary_iff.mp hcut
    obtain ⟨_, hstart⟩ := Text.isBoundary_iff.mp hs.start
    obtain ⟨u, rfl, hlength⟩ := Text.exists_append_of_le hstart hcs (Nat.le_succ _)
    obtain ⟨rest, hrest⟩ := Lexeme.templateRun_raw_isPrefix 0 cs
    have htaken : s.text.dropBytes? s.start =
        some (u ++ (Lexeme.templateRun 0 cs).raw ++ rest) := by
      rw [List.append_assoc, hrest, hstart]
    refine isPlaced_of_dropBytes? hs.fullStart hs.fullStart_le htaken ?_
    have hpos : s.rescanTemplate.pos = s.start + 1 + (Lexeme.templateRun 0 cs).raw.byteLength := by
      rw [rescanTemplate, hcs]
    rw [hpos, hlength, Text.byteLength_append, ← Nat.add_assoc]
    rfl

theorem isSteady_rescanTemplate (h : s.rescanTemplate.IsPlaced) : s.rescanTemplate.IsSteady := by
  have hkind (ending : Lexeme.TemplateEnd) : Lexeme.templateKind false ending = .templateMiddle ∨
      Lexeme.templateKind false ending = .templateTail := by
    cases ending with
    | quote => exact .inr rfl
    | substitution => exact .inl rfl
    | missing => exact .inr rfl
  refine ⟨h, ?_, ?_⟩
  all_goals
    intro heq
    rw [rescanTemplate] at heq
    dsimp only at heq
    rcases hkind _ with hk | hk <;> rw [hk] at heq <;> simp at heq

theorem isSteady_rescanSlash (hs : s.IsSteady) : s.rescanSlash.IsSteady := by
  rw [rescanSlash]
  split
  · next hkind =>
    obtain ⟨cs, hcs⟩ := hs.slash hkind
    rw [Text.dropBytes?_succ (by decide) hcs, Option.getD_some]
    obtain ⟨rest, hrest⟩ := Lexeme.regex_raw_isPrefix s.target cs
    have htaken := hcs.trans (congrArg some hrest.symm)
    refine ⟨isPlaced_of_dropBytes? hs.fullStart hs.fullStart_le htaken rfl, ?_, ?_⟩
    · rintro (h | h) <;> cases h
    · intro h
      cases h
  · exact hs

theorem isSteady_rescanGreater (hs : s.IsSteady) : s.rescanGreater.IsSteady := by
  rw [rescanGreater]
  split
  · cases hgreater : (s.text.dropBytes? s.pos).bind Lexeme.greater? with
    | none => exact hs
    | some p =>
      obtain ⟨kind, n⟩ := p
      obtain ⟨cs, hcs, hn⟩ := Option.bind_eq_some_iff.mp hgreater
      obtain ⟨v, hv⟩ := Text.isBoundary_iff.mp hs.start
      obtain ⟨u, rfl, hpos⟩ := Text.exists_append_of_le hv hcs hs.start_le
      have hsteady : kind ≠ .slashToken ∧ kind ≠ .slashEqualsToken ∧ kind ≠ .closeBraceToken := by
        unfold Lexeme.greater? at hn
        split at hn <;> cases hn <;> decide
      have htaken : s.text.dropBytes? s.start = some (u ++ cs.take n ++ cs.drop n) := by
        rw [List.append_assoc, List.take_append_drop, hv]
      refine ⟨isPlaced_of_dropBytes? hs.fullStart hs.fullStart_le htaken ?_, ?_, ?_⟩
      · change s.pos + n = s.start + (u ++ cs.take n).byteLength
        rw [Text.byteLength_append, Lexeme.byteLength_take_of_greater? hn, hpos, Nat.add_assoc]
      · rintro (h | h)
        · exact absurd h hsteady.1
        · exact absurd h hsteady.2.1
      · exact fun h => absurd h hsteady.2.2
  · exact hs

theorem isSteady_moveTo {offset : Nat} (h : (Operation.moveTo offset).FitsText s.text) :
    (s.moveTo offset).IsSteady where
  toIsPlaced := isPlaced_of_pos_eq h (Nat.le_refl _) h rfl
  slash := by
    rintro (h | h) <;> cases h
  brace := nofun

/-- Which names are recognised does not matter for the current token. -/
theorem isSteady_setTarget (hs : s.IsSteady) (target : ScriptTarget) :
    (s.perform (.setTarget target)).IsSteady where
  fullStart_le := hs.fullStart_le
  start_le := hs.start_le
  pos_le := hs.pos_le
  fullStart := hs.fullStart
  start := hs.start
  pos := hs.pos
  raw := hs.raw
  slash := hs.slash
  brace := hs.brace

/-- **An operation leaves the offsets in place**, unless a closing brace is to be read again where
none can be, and then it does not. -/
theorem isPlaced_perform_iff (hs : s.IsSteady) {op : Operation} (hop : op.FitsText s.text) :
    (s.perform op).IsPlaced ↔
      (op = .rescanTemplate → s.text.isBoundary (s.start + 1) = true) := by
  cases op with
  | rescanTemplate => exact (isPlaced_rescanTemplate_iff hs.toIsPlaced).trans (by simp)
  | scan => exact iff_of_true (isSteady_scan hs.toIsPlaced).toIsPlaced nofun
  | rescanSlash => exact iff_of_true (isSteady_rescanSlash hs).toIsPlaced nofun
  | rescanGreater => exact iff_of_true (isSteady_rescanGreater hs).toIsPlaced nofun
  | setTarget target => exact iff_of_true (isSteady_setTarget hs target).toIsPlaced nofun
  | moveTo offset => exact iff_of_true (isSteady_moveTo hop).toIsPlaced nofun

/-- Where the offsets are in place after an operation, the kind of the token can be relied on. -/
theorem isSteady_perform (hs : s.IsSteady) {op : Operation} (hop : op.FitsText s.text)
    (h : (s.perform op).IsPlaced) : (s.perform op).IsSteady := by
  cases op with
  | rescanTemplate => exact isSteady_rescanTemplate h
  | scan => exact isSteady_scan hs.toIsPlaced
  | rescanSlash => exact isSteady_rescanSlash hs
  | rescanGreater => exact isSteady_rescanGreater hs
  | setTarget target => exact isSteady_setTarget hs target
  | moveTo offset => exact isSteady_moveTo hop

/-! ### Sequences of operations -/

/-- Every closing brace that is read again is at a character of one byte. -/
def RereadsFit (s : Scanner) (ops : List Operation) : Prop :=
  ∀ before, before ++ [.rescanTemplate] <+: ops →
    s.text.isBoundary ((s.performAll before).start + 1) = true

theorem rereadsFit_cons {op : Operation} {ops : List Operation} :
    s.RereadsFit (op :: ops) ↔
      (op = .rescanTemplate → s.text.isBoundary (s.start + 1) = true) ∧
        (s.perform op).RereadsFit ops := by
  rw [RereadsFit, RereadsFit, perform_text]
  constructor
  · intro h
    refine ⟨?_, fun before hbefore => ?_⟩
    · rintro rfl
      exact h [] (List.cons_prefix_cons.mpr ⟨rfl, List.nil_prefix⟩)
    · exact h (op :: before) (List.cons_prefix_cons.mpr ⟨rfl, hbefore⟩)
  · rintro ⟨hop, hops⟩ before hbefore
    cases before with
    | nil => exact hop (List.cons_prefix_cons.mp hbefore).1.symm
    | cons op' before =>
      obtain ⟨rfl, hrest⟩ := List.cons_prefix_cons.mp hbefore
      exact hops before hrest

/-- The offsets are in place all along a sequence of operations: now, and along the rest. -/
theorem isPlaced_along_cons {op : Operation} {ops : List Operation} :
    (∀ before, before <+: op :: ops → (s.performAll before).IsPlaced) ↔
      s.IsPlaced ∧ ∀ before, before <+: ops → ((s.perform op).performAll before).IsPlaced := by
  constructor
  · intro h
    exact ⟨h [] List.nil_prefix,
      fun before hbefore => h (op :: before) (List.cons_prefix_cons.mpr ⟨rfl, hbefore⟩)⟩
  · rintro ⟨hs, hops⟩ before hbefore
    cases before with
    | nil => exact hs
    | cons op' before =>
      obtain ⟨rfl, hrest⟩ := List.cons_prefix_cons.mp hbefore
      exact hops before hrest

/-- **The offsets stay in place along a sequence of operations** if every closing brace that is read
again fits, and only then. -/
theorem isPlaced_along_iff (hs : s.IsSteady) {ops : List Operation}
    (hops : ∀ op ∈ ops, op.FitsText s.text) :
    (∀ before, before <+: ops → (s.performAll before).IsPlaced) ↔ s.RereadsFit ops := by
  induction ops generalizing s with
  | nil =>
    refine iff_of_true (fun before hbefore => ?_) fun before hbefore => ?_
    · rw [List.prefix_nil.mp hbefore]
      exact hs.toIsPlaced
    · simp at hbefore
  | cons op ops ih =>
    obtain ⟨hop, hops⟩ := List.forall_mem_cons.mp hops
    have hperform := isPlaced_perform_iff hs hop
    rw [isPlaced_along_cons, rereadsFit_cons, ← hperform, and_iff_right hs.toIsPlaced]
    -- Where the operation leaves the offsets in place, the rest starts from a steady state.
    constructor
    · intro hall
      have hplaced := hall [] List.nil_prefix
      refine ⟨hplaced, (ih (isSteady_perform hs hop hplaced) ?_).mp hall⟩
      rwa [perform_text]
    · rintro ⟨hplaced, hrest⟩
      refine (ih (isSteady_perform hs hop hplaced) ?_).mpr hrest
      rwa [perform_text]

/-- A closing brace can always be read again. -/
theorem isBoundary_of_closeBrace (hs : s.IsSteady) (hkind : s.kind = .closeBraceToken) :
    s.text.isBoundary (s.start + 1) = true := by
  obtain ⟨cs, hcs⟩ := hs.brace hkind
  exact Text.isBoundary_iff.mpr ⟨cs, Text.dropBytes?_succ (by decide) hcs⟩

/-- If only closing braces are read again as such, every one of them fits. -/
theorem rereadsFit_of_closeBraces (hs : s.IsSteady) {ops : List Operation}
    (hops : ∀ op ∈ ops, op.FitsText s.text)
    (hbraces : ∀ before, before ++ [.rescanTemplate] <+: ops →
      (s.performAll before).kind = .closeBraceToken) : s.RereadsFit ops := by
  induction ops generalizing s with
  | nil => exact fun before hbefore => by simp at hbefore
  | cons op ops ih =>
    obtain ⟨hop, hops⟩ := List.forall_mem_cons.mp hops
    have hfirst : op = .rescanTemplate → s.text.isBoundary (s.start + 1) = true := by
      rintro rfl
      exact isBoundary_of_closeBrace hs (hbraces [] (List.cons_prefix_cons.mpr ⟨rfl, List.nil_prefix⟩))
    have hnext := isSteady_perform hs hop ((isPlaced_perform_iff hs hop).mpr hfirst)
    refine rereadsFit_cons.mpr ⟨hfirst, ih hnext ?_ fun before hbefore => ?_⟩
    · rwa [perform_text]
    · exact hbraces (op :: before) (List.cons_prefix_cons.mpr ⟨rfl, hbefore⟩)

/-- **All along a sequence of operations the offsets of a scanner are places in its text, and in
order**, exactly if every closing brace that is read again stands where the text can be cut behind
one byte. So it is if the token that is read again is a closing brace. -/
theorem isPlaced_along (text : Text) (skipTrivia : Bool) (target : ScriptTarget)
    {ops : List Operation} (hops : ∀ op ∈ ops, op.FitsText text) :
    ((∀ before, before <+: ops → ((ofText text skipTrivia target).performAll before).IsPlaced) ↔
      (ofText text skipTrivia target).RereadsFit ops) ∧
    ((∀ before, before ++ [.rescanTemplate] <+: ops →
        ((ofText text skipTrivia target).performAll before).kind = .closeBraceToken) →
      ∀ before, before <+: ops →
        ((ofText text skipTrivia target).performAll before).IsPlaced) := by
  have hsteady := isSteady_ofText text skipTrivia target
  have hiff := isPlaced_along_iff hsteady hops
  exact ⟨hiff, fun hbraces => hiff.mpr (rereadsFit_of_closeBraces hsteady hops hbraces)⟩

/-- Read as the end of a substitution, a letter of two bytes makes a token that ends inside of the
letter; in a template all goes well. -/
theorem isPlaced_along_template :
    (¬ ∀ before, before <+: [.rescanTemplate] →
      ((ofText ['é'] false .latest).performAll before).IsPlaced) ∧
    ∀ before, before <+: [.scan, .scan, .scan, .rescanTemplate, .moveTo 100, .scan] →
      ((ofText ['\x60', '$', '\x7b', 'é', '\x7d', '\x60'] true .latest).performAll before).IsPlaced := by
  constructor
  · intro hall
    have hfit := (isPlaced_along ['é'] false .latest (by simp [Operation.FitsText])).1.mp hall
    exact absurd (hfit [] (List.prefix_refl _)) (by decide)
  · refine (isPlaced_along _ true .latest ?_).2 fun before hbefore => ?_
    · simp only [List.mem_cons, List.not_mem_nil, or_false, forall_eq_or_imp, forall_eq,
        Operation.FitsText, true_and, and_true]
      decide
    · have hbraces : ∀ ops ∈ List.inits [.scan, .scan, .scan, .rescanTemplate, .moveTo 100, .scan],
          ops.getLast? = some .rescanTemplate →
            ((ofText ['\x60', '$', '\x7b', 'é', '\x7d', '\x60'] true .latest).performAll
              ops.dropLast).kind = .closeBraceToken := by
        decide
      have hlast := hbraces _ ((List.mem_inits _ _).mpr hbefore) List.getLast?_concat
      rwa [List.dropLast_concat] at hlast

end Scanner

end ScriptTree
