import ScriptTree.Convert.Program
import ScriptTree.Proofs.Convert.Visit

/-!
# Which leaves are recorded

A run that has a result has recorded exactly the leaves that are found from the root on
(`ScriptTree.Document.isRecorded_iff_finds`). A leaf that the file reaches is therefore lost only
where the conversion does not go from a node to a child, and which children these are is
said by `ScriptTree.Slot.Leads`.

The type of the variable of a catch clause is one of them: it is not found, although the same type
of any other variable is (`ScriptTree.typedCatch_type_is_lost`).
-/

namespace ScriptTree

open Conversion

namespace Source

variable {s : Source} {k : Nat}

theorem records_programTokens : Records s.arena k (fun _ => False) s.programTokens AnyResult := by
  refine Records.quiet_bind (records_await s.trivia) fun trivia k _ _ => ?_
  split
  · exact Records.pure_any _
  · exact Records.throw

theorem records_programComments :
    Records s.arena k (fun _ => False) s.programComments AnyResult :=
  Records.quiet_bind (records_await s.trivia) fun _ _ _ _ => Records.pure_any _

/-- The program records what is found from the root on; its tokens and comments record nothing. -/
theorem records_program (hs : s.options.provideCorrespondenceMaps = true) :
    Records s.arena k (s.arena.Below .rule s.root) s.program AnyResult := by
  have hroot : Records s.arena k (s.arena.Below .rule s.root) (s.convert s.root) AnyResult := by
    have h := ((s.faithful_converter hs (s.arena.nodes.size + 2)).convert s.root k).any
    rw [s.toSource_converter] at h
    exact h
  refine Records.bind_quiet hroot fun node k _ _ => ?_
  cases node with
  | none => exact Records.fail
  | some node =>
    have hcomments (tokens : Option (List EsToken)) (k : Nat) :
        Records s.arena k (fun _ => False) (do
          let comments ← if s.options.emitComments then some <$> s.programComments else pure none
          pure ({ node := node, tokens := tokens, comments := comments } : Program)) AnyResult := by
      split
      · exact Records.quiet_bind (records_programComments.map_any _) fun _ _ _ _ =>
          Records.pure_any _
      · exact Records.pure_any _
    dsimp only
    split
    · exact Records.quiet_bind (records_programTokens.map_any _) fun tokens k _ _ =>
        hcomments tokens k
    · exact Records.quiet_bind (Records.pure_any _) fun tokens k _ _ => hcomments tokens k

end Source

namespace Document

/-- **A leaf is recorded just when it is found from the root on.** -/
theorem isRecorded_iff_finds {doc : Document} {options : ConvertOptions} {program : Program}
    {maps : NodeMaps} (hmaps : options.provideCorrespondenceMaps = true)
    (h : doc.convert options = (.ok program, maps)) {l : NodeId} (hl : doc.arena.IsLeaf l) :
    (maps.normalizedOf? (some l)).isSome = true ↔
      ∃ r, doc.root = some r ∧ doc.arena.Finds (.rule, r) l := by
  rw [convert, convertOver] at h
  split at h
  · cases h
  · next file hfile =>
    dsimp only at h
    split at h
    · cases h
    · generalize hrun : (Source.program _).run.run { maps := NodeMaps.reset .empty } = result at h
      obtain ⟨x, q⟩ := result
      cases h
      have hsound : ({} : Progress).Sound := fun x hx => absurd hx List.not_mem_nil
      have hrecords := Source.records_program (s := Source.ofText doc.arena doc.root
        (file.get .text).toList (file.get .languageVersion) options) (k := 0) hmaps
      obtain ⟨hrecorded, -⟩ := hrecords hsound (Nat.zero_le _) hrun
      have hiff : q.Has l ↔ ({} : Progress).Has l ∨ doc.arena.Below .rule doc.root l :=
        hrecorded.has_iff l hl
      exact hiff.trans (or_iff_right nofun)

end Document

/-! ### A type that is lost -/

/-- The document of `try {} catch (e: unknown) {}`. -/
def typedCatch : Document where
  arena := {
    nodes := #[
      { kind := .block, pos := 4, stop := 6, pool := some .block, dataIndex := 0 },
      { kind := .identifier, pos := 14, stop := 15, pool := some .identifier, dataIndex := 0 },
      .token .unknownKeyword 17 24,
      { kind := .variableDeclaration, pos := 14, stop := 24, pool := some .variableDeclaration
        dataIndex := 0 },
      { kind := .block, pos := 26, stop := 28, pool := some .block, dataIndex := 1 },
      { kind := .catchClause, pos := 7, stop := 28, pool := some .catchClause, dataIndex := 0 },
      { kind := .tryStatement, pos := 0, stop := 28, pool := some .tryStatement, dataIndex := 0 },
      .token .endOfFileToken 28 28,
      { kind := .sourceFile, pos := 0, stop := 28, pool := some .sourceFile, dataIndex := 0 }]
    parents := #[some 6, some 3, some 3, some 5, some 5, some 6, some 8, some 8, none]
    pools := fun
      | .block => #[⟨⟨[], 6, 6, false⟩, false, ()⟩, ⟨⟨[], 28, 28, false⟩, false, ()⟩]
      | .identifier => #[⟨"e", ()⟩]
      | .variableDeclaration => #[⟨some 1, false, some 2, none, ()⟩]
      | .catchClause => #[⟨some 3, some 4, ()⟩]
      | .tryStatement => #[⟨some 0, some 5, none, ()⟩]
      | .sourceFile => #[⟨⟨[some 6], 0, 28, false⟩, some 7, "input.ts",
          "try \x7b\x7d catch (e: unknown) \x7b\x7d", .latest, false, [], ()⟩]
      | _ => #[] }
  root := some 8

/-- The type of the caught variable belongs to the file, and it is not recorded. -/
theorem typedCatch_type_is_lost :
    ∃ program maps, typedCatch.convert .full = (.ok program, maps) ∧ typedCatch.arena.IsLeaf 2 ∧
      Relation.ReflTransGen typedCatch.arena.IsChild 8 2 ∧
      maps.normalizedOf? (some 2) = none ∧ ¬ typedCatch.arena.Finds (.rule, 8) 2 := by
  have hleaf : typedCatch.arena.IsLeaf 2 := ⟨.token .unknownKeyword 17 24, rfl, rfl, nofun⟩
  have hpath : Relation.ReflTransGen typedCatch.arena.IsChild 8 2 :=
    .head (b := 6) (by decide) (.head (b := 5) (by decide)
      (.head (b := 3) (by decide) (.single (by decide))))
  have hlost : (typedCatch.convert .full).2.normalizedOf? (some 2) = none := by decide +kernel
  have hok : (typedCatch.convert .full).1.isOk = true := by decide +kernel
  rcases hrun : typedCatch.convert .full with ⟨_ | program, maps⟩
  · rw [hrun] at hok
    cases hok
  · rw [hrun] at hlost
    refine ⟨program, maps, rfl, hleaf, hpath, hlost, fun hfinds => ?_⟩
    have hrecorded := (Document.isRecorded_iff_finds rfl hrun hleaf).mpr ⟨8, rfl, hfinds⟩
    rw [hlost] at hrecorded
    cases hrecorded

end ScriptTree
