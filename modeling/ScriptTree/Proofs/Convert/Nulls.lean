import ScriptTree.Convert.Program
import ScriptTree.Proofs.Arena.TypeSlots
import ScriptTree.Proofs.Convert.Visit

/-!
# The word `null`

The word `null` is converted to a type where a type is written, and to a value elsewhere, and where
it is written is told by the field of the node above that it stands in. It is right in all slots
that are not misread, and wrong in those that are (`ScriptTree.Source.convert_null`): between the
angle brackets of a tagged template and of a tag it becomes a value, and as what a class extends it
becomes a type (`ScriptTree.misreadNulls_convert`).
-/

namespace ScriptTree

open Conversion

namespace EsNode

/-- The type `null`. -/
def IsNullType (es : EsNode) : Prop :=
  es.head.type = .known .tsNullKeyword ∧ es.props = []

/-- The value `null`. -/
def IsNullValue (es : EsNode) : Prop :=
  es.head.type = .known .literal ∧ es.props = [("value", .null), ("raw", .string "null")]

end EsNode

/-! ### A single word -/

namespace Source

/-- The word becomes one new node: a type if it stands where types are written, and a value
otherwise. -/
theorem exists_ok_nullLiteral (s : Source) (i : NodeId) (n : Node) {p : Progress}
    (hnumber : p.HasNumber) : ∃ es q, Ok (s.nullLiteral i n) p es q ∧
      if s.arena.inTypePosition i then es.IsNullType else es.IsNullValue := by
  rw [nullLiteral]
  split
  · exact ⟨_, _, ok_build.mpr ⟨hnumber, rfl, rfl⟩, rfl, rfl⟩
  · exact ⟨_, _, ok_build.mpr ⟨hnumber, rfl, rfl⟩, rfl, rfl⟩

end Source

namespace Converter

variable {c : Converter} {i : NodeId} {n : Node} {p q : Progress} {es : EsNode}

/-- What the rule of a node makes of it is what the node becomes; it is recorded after that. -/
theorem exists_ok_visitAt (hn : c.arena.nodes[i]? = some n) (h : Ok (c.visit i n) p (some es) q) :
    ∃ r, Ok (c.visitAt (some i)) p (some es) r := by
  have hnode : c.node? (some i) = some n := hn
  rw [visitAt, hnode]
  exact ⟨_, ok_bind.mpr ⟨some es, q, h, ok_bind.mpr ⟨(), _, Source.ok_register.mpr rfl,
    ok_pure.mpr ⟨rfl, rfl⟩⟩⟩⟩

/-- The rule of the word. -/
theorem visit_null (hk : n.kind = .nullKeyword) : c.visit i n = some <$> c.nullLiteral i n := by
  rw [visit, ownRule?, hk]
  rfl

end Converter

namespace Source

variable {s : Source} {i j : NodeId} {n : Node}

/-- **What becomes of the word `null`**, however deep the converter may still go and whatever it has
done before, as long as there is a number left. The parents are those that are read off the
children, and the node above lists every child once, as in a tree. Then the word stands in a slot,
and becomes a type or a value as the slot says, unless the slot is misread: then it becomes the
opposite. -/
theorem convert_null (hlinked : s.arena.linkParents = s.arena) (hn : s.arena.nodes[i]? = some n)
    (hk : n.kind = .nullKeyword) (hparent : s.arena.parent (some i) = some j)
    (honce : (s.arena.children (some j)).Nodup) (depth : Nat) {before : Progress}
    (hnumber : before.HasNumber) :
    ∃ es after, Ok ((s.converter (depth + 1)).convert (some i)) before (some es) after ∧
      (∃ kind p f, s.arena.StandsAt i kind p f) ∧
      ∀ kind p f, s.arena.StandsAt i kind p f →
        (p.isMisread kind f = false →
          if p.isTypeSlot kind f then es.IsNullType else es.IsNullValue) ∧
        (p.isMisread kind f = true →
          if p.isTypeSlot kind f then es.IsNullValue else es.IsNullType) := by
  have hsource := s.toSource_converter depth
  obtain ⟨es, q, hok, hes⟩ := s.exists_ok_nullLiteral i n hnumber
  -- The rule of the word does not go down, so any depth will do.
  have hvisit : Ok ((s.converter depth).visit i n) before (some es) q := by
    rw [Converter.visit_null hk, hsource]
    exact ok_map.mpr ⟨es, hok, rfl⟩
  obtain ⟨after, hafter⟩ := Converter.exists_ok_visitAt (hsource.symm ▸ hn) hvisit
  refine ⟨es, after, hafter, Arena.exists_standsAt ?_ hparent, fun kind p f hstands => ?_⟩
  · exact hlinked ▸ s.arena.isLinked_linkParents
  · rw [hstands.inTypePosition_eq (hparent.symm ▸ honce)] at hes
    constructor
    · intro hright
      rw [hright] at hes
      simpa using hes
    · intro hwrong
      rw [hwrong] at hes
      split
      · next htype => simpa [htype] using hes
      · next hvalue => simpa [hvalue] using hes

end Source

/-! ### A base class and a type argument -/

/-- A class that extends `null`, and a tagged template with `null` as its type argument. -/
def misreadText : String := "class A extends null \x7b\x7d f<null>`x`;"

/-- The document of this text. -/
def misreadNulls : Document where
  arena := {
    nodes := #[
      { kind := .identifier, pos := 6, stop := 7, pool := some .identifier, dataIndex := 0 },
      .token .nullKeyword 16 20,
      { kind := .expressionWithTypeArguments, pos := 16, stop := 20, pool := some .exprWithTypeArgs
        dataIndex := 0 },
      { kind := .heritageClause, pos := 8, stop := 20, pool := some .heritageClause
        dataIndex := 0 },
      { kind := .classDeclaration, pos := 0, stop := 23, pool := some .classLike, dataIndex := 0 },
      { kind := .identifier, pos := 24, stop := 25, pool := some .identifier, dataIndex := 1 },
      .token .nullKeyword 26 30,
      { kind := .noSubstitutionTemplateLiteral, pos := 31, stop := 34, pool := some .literal
        dataIndex := 0 },
      { kind := .taggedTemplateExpression, pos := 24, stop := 34, pool := some .taggedTemplate
        dataIndex := 0 },
      { kind := .expressionStatement, pos := 24, stop := 35, pool := some .exprStatement
        dataIndex := 0 },
      .token .endOfFileToken 35 35,
      { kind := .sourceFile, pos := 0, stop := 35, pool := some .sourceFile, dataIndex := 0 }]
    parents := #[some 4, some 2, some 3, some 4, some 11, some 8, some 8, some 8, some 9, some 11,
      some 11, none]
    pools := fun
      | .identifier => #[⟨"A", ()⟩, ⟨"f", ()⟩]
      | .literal => #[⟨"x", false, ()⟩]
      | .exprWithTypeArgs => #[⟨some 1, none, ()⟩]
      | .heritageClause => #[⟨.extendsKeyword, ⟨[some 2], 16, 20, false⟩, ()⟩]
      | .classLike => #[⟨none, none, some 0, none, some ⟨[some 3], 8, 20, false⟩,
          ⟨[], 22, 22, false⟩, ()⟩]
      | .taggedTemplate => #[⟨some 5, some ⟨[some 6], 26, 30, false⟩, some 7, ()⟩]
      | .exprStatement => #[⟨some 8, ()⟩]
      | .sourceFile => #[⟨⟨[some 4, some 9], 0, 35, false⟩, some 10, "input.ts",
          misreadText, .latest, false, [], ()⟩]
      | _ => #[] }
  root := some 11

/-- The base of the class is a value and becomes a type, and the type argument becomes a value. -/
theorem misreadNulls_convert :
    (misreadNulls.convert {}).1.toOption.map (fun p => p.node.walk.map EsHead.type) =
      some [.known .program, .known .classDeclaration, .known .identifier, .known .classBody,
        .known .tsNullKeyword, .known .expressionStatement, .known .taggedTemplateExpression,
        .known .identifier, .known .templateLiteral, .known .templateElement,
        .known .tsTypeParameterInstantiation, .known .literal] ∧
    (∃ es after, Ok ((Source.ofText misreadNulls.arena misreadNulls.root misreadText.toList .latest
      {}).converter 13 |>.convert (some 1)) {} (some es) after ∧ es.IsNullType) ∧
    ∃ es after, Ok ((Source.ofText misreadNulls.arena misreadNulls.root misreadText.toList .latest
      {}).converter 13 |>.convert (some 6)) {} (some es) after ∧ es.IsNullValue := by
  have hbase : misreadNulls.arena.StandsAt 1 .expressionWithTypeArguments .exprWithTypeArgs
      .expression :=
    .intro (p := .exprWithTypeArgs) (j := 2) (m := misreadNulls.arena.nodes[2]) rfl rfl rfl
      (by decide) (by decide)
  have hargument : misreadNulls.arena.StandsAt 6 .taggedTemplateExpression .taggedTemplate
      .typeArguments :=
    .intro (p := .taggedTemplate) (j := 8) (m := misreadNulls.arena.nodes[8]) rfl rfl rfl
      (by decide) (by decide)
  refine ⟨by decide +kernel, ?_, ?_⟩
  · obtain ⟨es, after, hok, -, hread⟩ := Source.convert_null (s := .ofText misreadNulls.arena
      misreadNulls.root misreadText.toList .latest {}) (i := 1) (j := 2) rfl rfl rfl rfl
      (by decide) 12 (show Progress.HasNumber {} by decide)
    exact ⟨es, after, hok, (hread _ _ _ hbase).2 (by decide)⟩
  · obtain ⟨es, after, hok, -, hread⟩ := Source.convert_null (s := .ofText misreadNulls.arena
      misreadNulls.root misreadText.toList .latest {}) (i := 6) (j := 8) rfl rfl rfl rfl
      (by decide) 12 (show Progress.HasNumber {} by decide)
    exact ⟨es, after, hok, (hread _ _ _ hargument).2 (by decide)⟩

end ScriptTree
