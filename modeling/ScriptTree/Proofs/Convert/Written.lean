import ScriptTree.Convert.Program
import ScriptTree.Proofs.Convert.Runs

/-!
# Runs over whole files

A run over a file that has a result converts the root, and then reads the tokens and comments of the
text, which keeps what the conversion has kept (`ScriptTree.Source.Written`). A run over a document
is one over the text of the file at its root, from the beginning
(`ScriptTree.Document.exists_written`).
-/

namespace ScriptTree

open Conversion

namespace Source

variable {s : Source} {p q : Progress}

/-! ### Tokens and comments -/

theorem ok_walked {trivia : Trivia} :
    Ok s.walked p trivia q ↔ s.trivia = some trivia ∧ q = p :=
  ok_await

theorem ok_programTokens {tokens : List EsToken} :
    Ok s.programTokens p tokens q ↔ (∃ trivia, s.trivia = some trivia ∧
      trivia.tokens.mapM (EsToken.ofToken s.arena s.root s.map) = .ok tokens) ∧ q = p := by
  rw [programTokens, ok_bind]
  constructor
  · rintro ⟨trivia, r, hwalked, hok⟩
    obtain ⟨htrivia, rfl⟩ := ok_walked.mp hwalked
    split at hok
    · next htokens =>
      obtain ⟨rfl, rfl⟩ := ok_pure.mp hok
      exact ⟨⟨trivia, htrivia, htokens⟩, rfl⟩
    · exact absurd hok (not_ok_throw _ _)
  · rintro ⟨⟨trivia, htrivia, htokens⟩, rfl⟩
    refine ⟨trivia, q, ok_walked.mpr ⟨htrivia, rfl⟩, ?_⟩
    rw [htokens]
    exact ok_pure.mpr ⟨rfl, rfl⟩

theorem ok_programComments {comments : List Comment} :
    Ok s.programComments p comments q ↔
      (∃ trivia, s.trivia = some trivia ∧ comments = Comment.ofTrivia trivia s.map) ∧ q = p := by
  rw [programComments, ok_bind]
  constructor
  · rintro ⟨trivia, r, hwalked, hok⟩
    obtain ⟨htrivia, rfl⟩ := ok_walked.mp hwalked
    obtain ⟨rfl, rfl⟩ := ok_pure.mp hok
    exact ⟨⟨trivia, htrivia, rfl⟩, rfl⟩
  · rintro ⟨⟨trivia, htrivia, rfl⟩, rfl⟩
    exact ⟨trivia, q, ok_walked.mpr ⟨htrivia, rfl⟩, ok_pure.mpr ⟨rfl, rfl⟩⟩

/-- What the options ask for is there, if anything is; it changes nothing that is kept. -/
theorem ok_asked {α β : Type} {asked : Prop} [Decidable asked] {m : Conversion α}
    {f : Option α → Conversion β} {y : β} (hm : ∀ {x r}, Ok m p x r → r = p)
    (h : Ok (if asked then some <$> m >>= f else pure none >>= f) p y q) :
    ∃ x, (∀ z ∈ x, Ok m p z p) ∧ Ok (f x) p y q := by
  split at h
  · obtain ⟨x, r, hx, hf⟩ := ok_bind.mp h
    obtain ⟨z, hz, rfl⟩ := ok_map.mp hx
    obtain rfl := hm hz
    refine ⟨some z, ?_, hf⟩
    rintro _ ⟨⟩
    exact hz
  · exact ⟨none, nofun, h⟩

/-! ### Files -/

/-- **What a run over a file has come to**, if it has a result: the root was converted, and tokens
and comments are those of the text. -/
structure Written (s : Source) (p : Progress) (file : Program) (q : Progress) : Prop where
  node : Ok (s.convert s.root) p (some file.node) q
  tokens : ∀ tokens ∈ file.tokens, ∃ trivia, s.trivia = some trivia ∧
    trivia.tokens.mapM (EsToken.ofToken s.arena s.root s.map) = .ok tokens
  comments : ∀ comments ∈ file.comments, ∃ trivia, s.trivia = some trivia ∧
    comments = Comment.ofTrivia trivia s.map

theorem Written.of_ok {file : Program} (h : Ok s.program p file q) : s.Written p file q := by
  rw [program] at h
  obtain ⟨x, r, hconvert, h⟩ := ok_bind.mp h
  cases x with
  | none => exact absurd h (not_ok_fail _ _)
  | some node =>
    obtain ⟨tokens, htokens, h⟩ := ok_asked (fun h => (ok_programTokens.mp h).2) h
    obtain ⟨comments, hcomments, h⟩ := ok_asked (fun h => (ok_programComments.mp h).2) h
    obtain ⟨rfl, rfl⟩ := ok_pure.mp h
    exact ⟨hconvert, fun ts hts => (ok_programTokens.mp (htokens ts hts)).1,
      fun cs hcs => (ok_programComments.mp (hcomments cs hcs)).1⟩

end Source

namespace Document

variable {doc : Document} {options : ConvertOptions}

/-- The source that the file at the root of a document makes. -/
def source (doc : Document) (file : Data .sourceFile) (options : ConvertOptions) : Source :=
  .ofText doc.arena doc.root (file.get .text).toList (file.get .languageVersion) options

/-- **A run over a document that has a result** is one over the file at its root. -/
theorem exists_written {program : Program} {maps : NodeMaps}
    (h : doc.convert options = (.ok program, maps)) :
    ∃ file q, doc.arena.sourceFile? doc.root = some file ∧
      (doc.source file options).Written {} program q ∧ maps = q.maps := by
  rw [convert, convertOver] at h
  split at h
  · cases h
  · next file hfile =>
    dsimp only at h
    split at h
    · cases h
    · generalize hrun : (Source.program _).run.run { maps := NodeMaps.reset .empty } = result at h
      obtain ⟨x, q⟩ := result
      cases h
      exact ⟨file, q, hfile, .of_ok hrun, rfl⟩

end Document

end ScriptTree
