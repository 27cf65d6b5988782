import ScriptTree.Proofs.Convert.Termination

/-!
# Texts that cannot be cut

A run over a document without cycles, whose text has an end to its tokens, has a result or fails for
a reason that it names, unless it comes to a node that does not fit in its place, or has given out
all the numbers that there are for nodes (`ScriptTree.Document.convert_cases`). Among the nodes that
do not fit is a regular expression whose text starts with a character longer than one byte and holds
a slash behind it (`ScriptTree.Regex.isSome_split?_iff`): the pattern would have to start inside of
the character.
-/

namespace ScriptTree

namespace Document

variable {doc : Document}

/-- Tokens and comments are there if the text has an end to them and no node lies below itself. -/
theorem not_asksInVain (hlinked : doc.arena.IsLinked) (hacyclic : doc.arena.Acyclic)
    {file : Data .sourceFile} {o : ConvertOptions}
    (hends : (doc.source file o).trivia.isSome = true) : ¬ (doc.source file o).AsksInVain := by
  intro hvain
  obtain ⟨-, hnone⟩ | ⟨-, trivia, -, t, -, htype⟩ := trivia_of_asksInVain hvain
  · rw [hnone] at hends
    cases hends
  · obtain ⟨type, hsome⟩ := Arena.exists_tokenType hlinked hacyclic doc.root t
    cases htype.symm.trans hsome

/-- **What a run over a document comes to**: a program, an error with a name, or nothing, because of a
node below the root that does not fit in its place or because all numbers were given out. -/
theorem convert_cases (doc : Document) (o : ConvertOptions) (hlinked : doc.arena.IsLinked)
    (hacyclic : doc.arena.Acyclic)
    (hends : ∀ file, doc.file = .ok file → (doc.source file o).trivia.isSome = true) :
    (∃ program, (doc.convert o).1 = .ok program) ∨
    (∃ e, (doc.convert o).1 = .error (.failed e)) ∨
    ((doc.convert o).1 = .error .misplaced ∧ ∃ file i, doc.file = .ok file ∧
      doc.arena.Reaches doc.root i ∧ (doc.source file o).IsMisplaced i) ∨
    ((doc.convert o).1 = .error .exhausted ∧ ∃ file, doc.file = .ok file ∧
      ¬ (((doc.source file o).convert doc.root).run.run {}).2.HasNumber) := by
  rw [doc.convert_eq]
  cases hfile : doc.file with
  | error e => exact .inr (.inl ⟨e, rfl⟩)
  | ok file =>
    dsimp only
    have hindex : (doc.source file o).index ≠ none := by
      change Option.map _ (doc.source file o).trivia ≠ none
      rw [ne_eq, Option.map_eq_none_iff]
      exact Option.isSome_iff_ne_none.mp (hends file hfile)
    have hhalt := (Source.convert_ends (s := doc.source file o) hlinked hacyclic hindex doc.root).2 {}
    -- A run that has an end fails with a name, at a misplaced node or for want of a number, or has a
    -- result.
    rcases hrun : ((doc.source file o).convert doc.root).run.run {} with ⟨e | _ | node, q⟩
    · rw [hrun] at hhalt
      obtain ⟨hne, hmisplaced, hexhausted⟩ := hhalt e rfl
      have houtcome := congrArg (doc.source file o).outcome (congrArg Prod.fst hrun)
      cases e with
      | failed e => exact .inr (.inl ⟨e, houtcome⟩)
      | misplaced =>
        obtain ⟨i, hi, hbad⟩ := hmisplaced rfl
        exact .inr (.inr (.inl ⟨houtcome, file, i, rfl, hi, hbad⟩))
      | exhausted =>
        refine .inr (.inr (.inr ⟨houtcome, file, rfl, ?_⟩))
        rw [hrun]
        exact hexhausted rfl
      | endless => exact absurd rfl hne
    · exact .inr (.inl ⟨_, congrArg _ (congrArg Prod.fst hrun)⟩)
    · have hemitted : ∃ program, (doc.source file o).emitted node = .ok program := by
        rw [Source.emitted, if_neg (not_asksInVain hlinked hacyclic (hends file hfile))]
        exact ⟨_, rfl⟩
      obtain ⟨program, hprogram⟩ := hemitted
      exact .inl ⟨program, (congrArg _ (congrArg Prod.fst hrun)).trans hprogram⟩

/-! ### A regular expression without a slash in front -/

/-- The document of `é/` that takes all of it for a regular expression. -/
def accented : Document where
  arena := {
    nodes := #[.token .regularExpressionLiteral 0 3,
      { kind := .expressionStatement, pos := 0, stop := 3, pool := some .exprStatement
        dataIndex := 0 },
      .token .endOfFileToken 3 3,
      { kind := .sourceFile, pos := 0, stop := 3, pool := some .sourceFile, dataIndex := 0 }]
    parents := #[some 1, some 3, some 3, none]
    pools := fun
      | .exprStatement => #[⟨some 0, ()⟩]
      | .sourceFile => #[⟨⟨[some 1], 0, 3, false⟩, some 2, "input.ts", "é/", .latest, false, [],
          ()⟩]
      | _ => #[] }
  root := some 3

/-- The document has no cycles and its text an end, but nothing comes of it. -/
theorem accented_misplaced : accented.arena.IsLinked ∧ accented.arena.Acyclic ∧
    (∀ file, accented.file = .ok file → (accented.source file {}).trivia.isSome = true) ∧
    (accented.convert {}).1 = .error .misplaced ∧ ∃ file i, accented.file = .ok file ∧
      accented.arena.Reaches accented.root i ∧ (accented.source file {}).IsMisplaced i := by
  have hlinked : accented.arena.IsLinked := Arena.isLinked_of_parents_eq (by decide)
  have hacyclic : accented.arena.Acyclic := Arena.acyclic_of_lt (by decide)
  have hends : ∀ file, accented.file = .ok file →
      (accented.source file {}).trivia.isSome = true := by
    rintro _ ⟨⟩
    decide +kernel
  have hhalt : (fun _ => ()) <$> (accented.convert {}).1 = .error .misplaced := by decide +kernel
  obtain ⟨program, hrun⟩ | ⟨e, hrun⟩ | hmisplaced | ⟨hrun, -⟩ :=
    accented.convert_cases {} hlinked hacyclic hends
  · rw [hrun] at hhalt
    cases hhalt
  · rw [hrun] at hhalt
    cases hhalt
  · exact ⟨hlinked, hacyclic, hends, hmisplaced⟩
  · rw [hrun] at hhalt
    cases hhalt

end Document

end ScriptTree
