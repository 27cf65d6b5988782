import ScriptTree.Proofs.Convert.Written
import ScriptTree.Proofs.Trivia.Regexes

/-!
# What a run comes to

A run over a document comes to an error if the document has no file at its root, or one that the
front end has complained about (`ScriptTree.Document.file`). Otherwise it converts the root, and
what it comes to follows from what the conversion comes to (`ScriptTree.Source.outcome`): tokens and
comments do not fail if the text has an end to them.
-/

namespace ScriptTree

open Conversion

namespace Source

/-- The tokens of the text in normalized form, if there is an end to them and their types are
decided. -/
def esTokens? (s : Source) : Option (List EsToken) :=
  s.trivia.bind fun t => (t.tokens.mapM (EsToken.ofToken s.arena s.root s.map)).toOption

/-- The comments of the text in normalized form, if there is an end to them. -/
def esComments? (s : Source) : Option (List Comment) :=
  s.trivia.map fun t => Comment.ofTrivia t s.map

/-- A run asks for tokens or comments that it never gets. -/
def AsksInVain (s : Source) : Prop :=
  s.options.emitTokens = true ∧ s.esTokens? = none ∨
    s.options.emitComments = true ∧ s.esComments? = none

instance (s : Source) : Decidable s.AsksInVain := inferInstanceAs (Decidable (_ ∧ _ ∨ _ ∧ _))

/-- What is added to the converted root. -/
def emitted (s : Source) (node : EsNode) : Except Halt Program :=
  if s.AsksInVain then .error .endless
  else .ok {
    node := node
    tokens := if s.options.emitTokens then s.esTokens? else none
    comments := if s.options.emitComments then s.esComments? else none }

/-- **What a run over a file comes to**, given what the conversion of the root comes to. -/
def outcome (s : Source) : Except Halt (Option EsNode) → Except Halt Program
  | .error e => .error e
  | .ok none => .error (.failed (.missingData ((s.arena.kind? s.root).getD .unknown) s.root))
  | .ok (some node) => s.emitted node

/-- Whatever keeps a token from having a normalized form has no end. -/
def WaitsForTokens (s : Source) : Prop :=
  ∀ t ∈ s.trivia, ∀ e, t.tokens.mapM (EsToken.ofToken s.arena s.root s.map) = .error e →
    e = .endless

variable {s : Source}

/-- Tokens are waited for. -/
theorem programTokens_eq_await (hs : s.WaitsForTokens) : s.programTokens = .await s.esTokens? := by
  rw [programTokens, walked, esTokens?]
  cases htrivia : s.trivia with
  | none => rfl
  | some t =>
    rw [Option.bind_some]
    cases htokens : t.tokens.mapM (EsToken.ofToken s.arena s.root s.map) with
    | error e =>
      obtain rfl := hs t htrivia e htokens
      simp only [await, pure_bind, htokens]
      rfl
    | ok ts =>
      simp only [await, pure_bind, htokens]
      rfl

/-- Comments are waited for. -/
theorem programComments_eq_await (s : Source) : s.programComments = .await s.esComments? := by
  rw [programComments, walked, esComments?]
  cases s.trivia <;> rfl

/-- What the options ask for is added, if it can be. -/
theorem run_asked {α β : Type} (asked : Bool) (found : Option α) (f : Option α → Conversion β)
    (p : Progress) :
    (if asked = true then some <$> .await found >>= f else pure none >>= f).run.run p =
      if asked = true ∧ found = none then (.error .endless, p)
      else (f (if asked then found else none)).run.run p := by
  cases asked <;> cases found <;> rfl

/-- **A run over a file converts the root**; the rest follows. -/
theorem run_program (hs : s.WaitsForTokens) (p : Progress) :
    s.program.run.run p =
      (s.outcome ((s.convert s.root).run.run p).1, ((s.convert s.root).run.run p).2) := by
  rw [program, run_bind]
  rcases (s.convert s.root).run.run p with ⟨_ | _ | node, q⟩
  · rfl
  · rfl
  · rw [programTokens_eq_await hs, programComments_eq_await]
    dsimp only
    rw [run_asked, run_asked, outcome, emitted]
    by_cases htokens : s.options.emitTokens = true ∧ s.esTokens? = none
    · rw [if_pos htokens, if_pos (.inl htokens)]
    · by_cases hcomments : s.options.emitComments = true ∧ s.esComments? = none
      · rw [if_neg htokens, if_pos hcomments, if_pos (.inr hcomments)]
      · have hvain : ¬ s.AsksInVain := not_or_intro htokens hcomments
        rw [if_neg htokens, if_neg hcomments, if_neg hvain]
        rfl

end Source

namespace Document

/-- The file at the root of a document, if there is one and the front end has not complained. -/
def file (doc : Document) : Except ConvertError (Data .sourceFile) :=
  match doc.arena.sourceFile? doc.root with
  | none => .error (.missingData ((doc.arena.kind? doc.root).getD .unknown) doc.root)
  | some file => match (file.get .parseDiagnostics).head? with
    | some d => .error (parseError (file.get .text).toList d)
    | none => .ok file

variable {doc : Document}

/-- A document without a file is not one with a type that is not known. -/
theorem file_ne_unknownNodeType {e : ConvertError} (h : doc.file = .error e) (name : String) :
    e ≠ .unknownNodeType name := by
  rw [file] at h
  split at h
  · cases h
    nofun
  · split at h
    · cases h
      nofun
    · cases h

/-- The file that is converted is the one at the root. -/
theorem sourceFile?_of_file {file : Data .sourceFile} (h : doc.file = .ok file) :
    doc.arena.sourceFile? doc.root = some file := by
  rw [Document.file] at h
  split at h
  · cases h
  · next hfile =>
    split at h
    · cases h
    · cases h
      exact hfile

/-- Tokens of a text keep a run waiting, or have a normalized form. -/
theorem waitsForTokens (doc : Document) (file : Data .sourceFile) (options : ConvertOptions) :
    (doc.source file options).WaitsForTokens := by
  intro t ht e he
  obtain ⟨tokens, hok⟩ | ⟨hendless, -⟩ := Trivia.mapM_ofToken ht
  · cases hok.symm.trans he
  · cases hendless.symm.trans he
    rfl

/-- **What a run over a document comes to.** -/
theorem convert_eq (doc : Document) (options : ConvertOptions) :
    doc.convert options = match doc.file with
      | .error e => (.error (.failed e), {})
      | .ok file =>
        let s := doc.source file options
        let run := (s.convert s.root).run.run {}
        (s.outcome run.1, run.2.maps) := by
  rw [convert, convertOver, file]
  cases hfile : doc.arena.sourceFile? doc.root with
  | none => rfl
  | some file =>
    dsimp only
    cases (file.get .parseDiagnostics).head? with
    | some d => rfl
    | none =>
      have hrun := Source.run_program (doc.waitsForTokens file options) { maps := NodeMaps.reset .empty }
      rw [source] at hrun
      dsimp only
      rw [hrun]
      rfl

end Document

end ScriptTree
