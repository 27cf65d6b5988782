import Mathlib.Data.List.Nodup
import ScriptTree.Proofs.Scan.Escapes

/-!
# Second readings

The meaning of a closing brace, of a slash and of a greater sign depends on the tree, and for these
there are second readings. What they take is said here by grammars that do not mention how they
read: a piece of a template goes up to the first quote or substitution that is not escaped
(`ScriptTree.Lexeme.templateRun_of_isTemplateBody`), a regular expression up to the first slash that
is neither escaped nor in a class (`ScriptTree.Lexeme.regexRun_of_isRegexBody`), and a greater sign
goes on for as long as punctuation can be written (`ScriptTree.Lexeme.greater?_of_isLongest`).
-/

namespace ScriptTree

namespace Text

/-- **The inside of a piece of a template**: no quote and no start of a substitution stands in it,
except behind a backslash, and the last backslash has a character behind it. -/
inductive IsTemplateBody : Text → Prop
  | nil : IsTemplateBody []
  | plain {c : Char} {cs : Text} : c ≠ '\x60' → c ≠ '\\' → ¬ (c = '$' ∧ cs.head? = some '\x7b') →
      IsTemplateBody cs → IsTemplateBody (c :: cs)
  | escape {c : Char} {cs : Text} : IsTemplateBody cs → IsTemplateBody ('\\' :: c :: cs)

/-- **The inside of a regular expression**, or what is left of it inside of a class: it is on one
line, a slash stands in it only in a class or behind a backslash, every class is closed, and the
last backslash has a character behind it. -/
inductive IsRegexBody : (inClass : Bool) → Text → Prop
  | nil : IsRegexBody false []
  | plain {c : Char} {cs : Text} : isLineBreak c = false → c ≠ '/' → c ≠ '\\' → c ≠ '[' →
      IsRegexBody false cs → IsRegexBody false (c :: cs)
  | opening {cs : Text} : IsRegexBody true cs → IsRegexBody false ('[' :: cs)
  | inside {c : Char} {cs : Text} : isLineBreak c = false → c ≠ ']' → c ≠ '\\' →
      IsRegexBody true cs → IsRegexBody true (c :: cs)
  | closing {cs : Text} : IsRegexBody false cs → IsRegexBody true (']' :: cs)
  | escape {c : Char} {cs : Text} {inClass : Bool} : isLineBreak c = false →
      IsRegexBody inClass cs → IsRegexBody inClass ('\\' :: c :: cs)

/-- **The longest punctuation at the start of a text.** -/
structure IsLongest (cs : Text) (word : String) (kind : SyntaxKind) : Prop where
  mem : (word, kind) ∈ SyntaxKind.punctuation
  starts : word.toList <+: cs
  length_le : ∀ p ∈ SyntaxKind.punctuation, p.1.toList <+: cs → p.1.length ≤ word.length

end Text

namespace Lexeme

/-! ### Templates -/

/-- What stands at the end of a piece of a template. -/
def TemplateEnd.mark : TemplateEnd → Text
  | .quote => ['\x60']
  | .substitution => ['$', '\x7b']
  | .missing => []

/-- **A piece of a template ends with the first quote or substitution that is not escaped.** -/
theorem templateRun_of_isTemplateBody {body : Text} (hbody : body.IsTemplateBody)
    {ending : TemplateEnd} (hending : ending ≠ .missing) (rest : Text) :
    (templateRun 0 (body ++ (ending.mark ++ rest))).raw = body ++ ending.mark ∧
      (templateRun 0 (body ++ (ending.mark ++ rest))).ending = ending := by
  induction hbody with
  | nil =>
    cases ending with
    | quote => exact ⟨rfl, rfl⟩
    | substitution => exact ⟨rfl, rfl⟩
    | missing => exact absurd rfl hending
  | @plain c cs hquote hescape hsubstitution _ ih =>
    -- The last character of the body does not start a substitution together with the ending.
    have hnext : ¬ (c = '$' ∧ (cs ++ (ending.mark ++ rest)).head? = some '\x7b') := by
      rintro ⟨hc, hhead⟩
      cases cs with
      | cons d cs => exact hsubstitution ⟨hc, hhead⟩
      | nil => cases ending <;> simp [TemplateEnd.mark] at hhead hending
    obtain ⟨hraw, hend⟩ := templateRun_plain hquote hnext hescape
    rw [List.cons_append, hraw, hend, ih.1]
    exact ⟨rfl, ih.2⟩
  | @escape c cs _ ih =>
    obtain ⟨hraw, hend⟩ := templateRun_escape c (cs ++ (ending.mark ++ rest))
    rw [List.cons_append, List.cons_append, hraw, hend, ih.1]
    exact ⟨rfl, ih.2⟩

/-! ### Regular expressions -/

/-- **A regular expression ends with the first slash that is neither escaped nor in a class.** -/
theorem regexRun_of_isRegexBody {inClass : Bool} {body : Text} (hbody : body.IsRegexBody inClass)
    (rest : Text) : regexRun false inClass (body ++ '/' :: rest) = (body ++ ['/'], true) := by
  induction hbody with
  | nil => rfl
  | plain hbreak hslash hescape hopen _ ih =>
    simp [regexRun, hbreak, hslash, hescape, hopen, ih]
  | opening _ ih => simp [regexRun, Text.isLineBreak, ih]
  | inside hbreak hclose hescape _ ih => simp [regexRun, hbreak, hclose, hescape, ih]
  | closing _ ih => simp [regexRun, Text.isLineBreak, ih]
  | @escape c cs inClass hbreak _ ih =>
    have hrun : regexRun true inClass (c :: (cs ++ '/' :: rest)) = (c :: (cs ++ ['/']), true) := by
      simp [regexRun, hbreak, ih]
    cases inClass <;> simp [regexRun.eq_def false, Text.isLineBreak, hrun]

/-- A regular expression with its flags, which go on for as long as a name would. -/
theorem regex_of_isRegexBody {target : ScriptTarget} {body flags rest : Text}
    (hbody : body.IsRegexBody false) (hflags : ∀ c ∈ flags, Text.isNamePart target c = true)
    (hrest : ∀ c ∈ rest.head?, Text.isNamePart target c = false) :
    (regex target (body ++ '/' :: (flags ++ rest))).raw = '/' :: (body ++ '/' :: flags) := by
  have hoptions : (flags ++ rest).takeWhile (Text.isNamePart target) = flags := by
    rw [List.takeWhile_append_of_pos hflags]
    cases rest with
    | nil => simp
    | cons c rest => simp [hrest c rfl]
  have hdrop : (body ++ '/' :: (flags ++ rest)).drop (body ++ ['/']).length = flags ++ rest := by
    simp
  rw [regex, regexRun_of_isRegexBody hbody]
  dsimp only
  rw [if_pos rfl, hdrop, hoptions, List.append_assoc, List.singleton_append]

end Lexeme

/-! ### Greater signs -/

/-- What stands at the start of a text starts with its first character, since it is not empty. -/
theorem SyntaxKind.head?_of_isPrefix {p : String × SyntaxKind} (hp : p ∈ punctuation) {c : Char}
    {cs : Text} (hstarts : p.1.toList <+: c :: cs) : p.1.toList.head? = some c := by
  have hne := (by decide : ∀ p ∈ punctuation, p.1.toList ≠ []) p hp
  obtain ⟨d, w, hw⟩ := List.exists_cons_of_ne_nil hne
  rw [hw, List.cons_prefix_cons] at hstarts
  rw [hw, hstarts.1]
  rfl

namespace Text.IsLongest

variable {cs : Text} {word word' : String} {kind kind' : SyntaxKind}

/-- A text starts with only one longest punctuation. -/
theorem unique (h : cs.IsLongest word kind) (h' : cs.IsLongest word' kind') :
    word = word' ∧ kind = kind' := by
  have hlength := Nat.le_antisymm (h'.length_le _ h.mem h.starts) (h.length_le _ h'.mem h'.starts)
  have hword : word = word' := String.toList_inj.mp <|
    (List.prefix_of_prefix_length_le h.starts h'.starts (Nat.le_of_eq hlength)).eq_of_length hlength
  subst hword
  have hinj := List.inj_on_of_nodup_map
    (by decide : (SyntaxKind.punctuation.map Prod.fst).Nodup) h.mem h'.mem rfl
  exact ⟨rfl, congrArg Prod.snd hinj⟩

end Text.IsLongest

namespace Lexeme

variable {cs : Text} {word : String} {kind : SyntaxKind} {n : Nat}

/-- The punctuation that starts with a greater sign. -/
def greaterSigns : List (String × SyntaxKind) :=
  [(">", .greaterThanToken), (">=", .greaterThanEqualsToken), (">>", .greaterThanGreaterThanToken),
    (">>>", .greaterThanGreaterThanGreaterThanToken), (">>=", .greaterThanGreaterThanEqualsToken),
    (">>>=", .greaterThanGreaterThanGreaterThanEqualsToken)]

/-- Only punctuation that starts with a greater sign can be the longest one there. -/
theorem isLongest_of_mem (hmem : (word, kind) ∈ greaterSigns) (hstarts : word.toList <+: '>' :: cs)
    (hle : ∀ p ∈ greaterSigns, p.1.toList <+: '>' :: cs →
      p.1.toList.length ≤ word.toList.length) :
    Text.IsLongest ('>' :: cs) word kind where
  mem := (by decide : ∀ p ∈ greaterSigns, p ∈ SyntaxKind.punctuation) _ hmem
  starts := hstarts
  length_le p hp hprefix := by
    have hhead := SyntaxKind.head?_of_isPrefix hp hprefix
    have hsigns := (by decide : ∀ p ∈ SyntaxKind.punctuation,
      p.1.toList.head? = some '>' → p ∈ greaterSigns) p hp hhead
    simpa only [String.length_toList] using hle p hsigns hprefix

/-- A greater sign that goes on does so for as long as it can. -/
theorem isLongest_of_greater? (h : greater? cs = some (kind, n)) :
    ∃ word, Text.IsLongest ('>' :: cs) word kind ∧ word.length = n + 1 := by
  unfold greater? at h
  split at h
  · cases h
    exact ⟨">>>=", isLongest_of_mem (by decide) (by simp) (by simp [greaterSigns]), rfl⟩
  · next cs hfourth =>
    cases h
    have hmore : ¬ ['='] <+: cs := fun ⟨rest, hrest⟩ => hfourth rest hrest.symm
    exact ⟨">>>", isLongest_of_mem (by decide) (by simp) (by simp [greaterSigns, hmore]), rfl⟩
  · cases h
    exact ⟨">>=", isLongest_of_mem (by decide) (by simp) (by simp [greaterSigns]), rfl⟩
  · next cs _ hthird hequals =>
    cases h
    refine ⟨">>", isLongest_of_mem (by decide) (by simp) ?_, rfl⟩
    cases cs with
    | nil => simp [greaterSigns]
    | cons c cs =>
      have hc : '>' ≠ c ∧ '=' ≠ c :=
        ⟨fun heq => hthird cs (heq ▸ rfl), fun heq => hequals cs (heq ▸ rfl)⟩
      simp [greaterSigns, hc]
  · next cs =>
    cases h
    exact ⟨">=", isLongest_of_mem (by decide) (by simp) (by simp [greaterSigns]), rfl⟩
  · cases h

/-- A greater sign that does not go on stands alone. -/
theorem isLongest_of_greater?_eq_none (h : greater? cs = none) :
    Text.IsLongest ('>' :: cs) ">" .greaterThanToken := by
  refine isLongest_of_mem (by decide) (by simp) ?_
  cases cs with
  | nil => simp [greaterSigns]
  | cons c cs =>
    have hc : '>' ≠ c ∧ '=' ≠ c := by
      constructor <;>
        · rintro rfl
          unfold greater? at h
          split at h <;> simp_all
    simp [greaterSigns, hc]

/-- **What a greater sign goes on to is the longest punctuation there.** -/
theorem greater?_of_isLongest (h : Text.IsLongest ('>' :: cs) word kind) :
    kind = .greaterThanToken ∧ greater? cs = none ∧ word.length = 1 ∨
      ∃ n, greater? cs = some (kind, n) ∧ word.length = n + 1 := by
  cases hgreater : greater? cs with
  | none =>
    obtain ⟨rfl, rfl⟩ := h.unique (isLongest_of_greater?_eq_none hgreater)
    exact .inl ⟨rfl, rfl, rfl⟩
  | some p =>
    obtain ⟨word', hlongest, hlength⟩ := isLongest_of_greater? hgreater
    obtain ⟨rfl, rfl⟩ := h.unique hlongest
    exact .inr ⟨p.2, rfl, hlength⟩

end Lexeme

end ScriptTree
