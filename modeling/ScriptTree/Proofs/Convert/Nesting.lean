import ScriptTree.Proofs.Convert.Nesting.Visit
import ScriptTree.Proofs.Convert.Written

/-!
# The nodes of a program lie within each other

A run over a document whose tree agrees with its text (`ScriptTree.Document.IsTidy`) makes a program
whose nodes lie within each other, as far as no rule leaves a part of a node outside of what the
node becomes (`ScriptTree.Document.isNested_of_convert`). Where one does, they need not:
`ScriptTree.Document.decorated_not_isNested` is a parameter that starts behind its own decorator.
-/

namespace ScriptTree

/-- What is checked of every node of an arena holds of every tree in it. -/
theorem Arena.isTidy_of_all {a : Arena} {tokens : List SourceToken} {i : NodeId}
    (h : ∀ j < a.nodes.size, ∀ n ∈ a.nodes[j]?, a.IsLaidOut tokens j n) : a.IsTidy tokens i := by
  intro j _ n hn
  obtain ⟨hj, -⟩ := Array.getElem?_eq_some_iff.mp hn
  exact h j hj n hn

namespace Document

/-- **The tree of a document agrees with its text**: with the tokens that the text is read into,
from the root on. The nodes whose ends the reading goes by end in the text. -/
structure IsTidy (doc : Document) : Prop where
  ends : ∀ file ∈ doc.arena.sourceFile? doc.root, doc.arena.EndsInText (file.get .text).toList
  isTidy : ∀ file ∈ doc.arena.sourceFile? doc.root,
    ∃ trivia ∈ Trivia.ofText? doc.arena doc.root (file.get .text).toList
      (file.get .languageVersion),
    ∀ i ∈ doc.root, doc.arena.IsTidy trivia.tokens i

end Document

/-! ### A parameter with a decorator -/

/-- The document of `class A { m(@d ...b) {} }`, or the one with blanks in the place of the dots. -/
def decorated (dots : Bool) : Document where
  arena := {
    nodes := #[
      { kind := .identifier, pos := 6, stop := 7, pool := some .identifier, dataIndex := 0 },
      { kind := .identifier, pos := 10, stop := 11, pool := some .identifier, dataIndex := 1 },
      { kind := .identifier, pos := 13, stop := 14, pool := some .identifier, dataIndex := 2 },
      { kind := .decorator, pos := 12, stop := 14, pool := some .decorator, dataIndex := 0 },
      { kind := .identifier, pos := 18, stop := 19, pool := some .identifier, dataIndex := 3 },
      { kind := .parameter, pos := 12, stop := 19, pool := some .parameter, dataIndex := 0 },
      { kind := .block, pos := 21, stop := 23, pool := some .block, dataIndex := 0 },
      { kind := .methodDeclaration, pos := 10, stop := 23, pool := some .function, dataIndex := 0 },
      { kind := .classDeclaration, pos := 0, stop := 25, pool := some .classLike, dataIndex := 0 },
      .token .endOfFileToken 25 25,
      { kind := .sourceFile, pos := 0, stop := 25, pool := some .sourceFile, dataIndex := 0 }]
    parents := #[some 8, some 7, some 3, some 5, some 5, some 7, some 7, some 8, some 10, some 10,
      none]
    pools := fun
      | .identifier => #[⟨"A", ()⟩, ⟨"m", ()⟩, ⟨"d", ()⟩, ⟨"b", ()⟩]
      | .decorator => #[⟨some 2, ()⟩]
      | .parameter =>
        #[⟨some ⟨[some 3], 12, 14, false⟩, none, dots, some 4, false, none, none, ()⟩]
      | .block => #[⟨⟨[], 22, 22, false⟩, false, ()⟩]
      | .function =>
        #[⟨none, none, false, some 1, false, none, ⟨[some 5], 12, 19, false⟩, none, some 6, ()⟩]
      | .classLike => #[⟨none, none, some 0, none, none, ⟨[some 7], 9, 24, false⟩, ()⟩]
      | .sourceFile => #[⟨⟨[some 8], 0, 25, false⟩, some 9, "input.ts",
          if dots then "class A { m(@d ...b) {} }"
          else "class A { m(@d    b) {} }", .latest, false, [], ()⟩]
      | _ => #[] }
  root := some 10

/-- Either way the tree agrees with the text. -/
theorem isTidy_decorated (dots : Bool) : (decorated dots).IsTidy := by
  have hread : ∀ dots : Bool, ∀ file ∈ (decorated dots).arena.sourceFile? (decorated dots).root,
      (∀ n ∈ (decorated dots).arena.nodes.toList, n.kind = .jsxText ∨ n.kind = .identifier →
        Text.isBoundary (file.get .text).toList n.stop = true) ∧
      ∃ trivia ∈ Trivia.ofText? (decorated dots).arena (decorated dots).root
        (file.get .text).toList (file.get .languageVersion),
        ∀ j < (decorated dots).arena.nodes.size, ∀ n ∈ (decorated dots).arena.nodes[j]?,
          (decorated dots).arena.IsLaidOut trivia.tokens j n := by
    decide +kernel
  constructor
  · intro file hfile n hn
    exact (hread dots file hfile).1 n (Array.mem_toList_iff.mpr hn)
  · intro file hfile
    obtain ⟨-, trivia, htrivia, htidy⟩ := hread dots file hfile
    exact ⟨trivia, htrivia, fun i _ => Arena.isTidy_of_all htidy⟩

namespace Document

/-- **A parameter that is just a name starts behind its decorator.** -/
theorem decorated_not_isNested :
    (decorated false).IsTidy ∧ ∃ program maps,
      (decorated false).convert .full = (.ok program, maps) ∧ program.node.isNested = false := by
  have hout : ((decorated false).convert .full).1.toOption.any (!·.node.isNested) = true := by
    decide +kernel
  refine ⟨isTidy_decorated false, ?_⟩
  rcases hrun : (decorated false).convert .full with ⟨_ | program, maps⟩
  · rw [hrun] at hout
    cases hout
  · rw [hrun] at hout
    exact ⟨program, maps, rfl, Bool.not_eq_true' _ |>.mp hout⟩

end Document

end ScriptTree
