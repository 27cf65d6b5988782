import ScriptTree.Convert.Program
import ScriptTree.Proofs.Arena.Targets
import ScriptTree.Proofs.Ast.Fields
import ScriptTree.Proofs.Convert.Visit
import ScriptTree.Proofs.Convert.Yields

/-!
# Literals that may be targets

An array or an object is converted to a pattern if it is a destructuring target, and to a value
otherwise (`ScriptTree.Source.convert_literal`). The exception is a literal behind three dots. The
dots become the rest of a pattern if they stand in a target, but what they stand before is converted
as a value, although it is assigned to (`ScriptTree.nestedRest_operand`).
-/

namespace ScriptTree

open Conversion

namespace LiteralRole

/-- The type of a literal of a kind that is read in a role. -/
def typeOf (kind : SyntaxKind) : LiteralRole → AstType
  | pattern => if kind = .objectLiteralExpression then .objectPattern else .arrayPattern
  | expression => if kind = .objectLiteralExpression then .objectExpression else .arrayExpression

end LiteralRole

namespace Converter

variable {c : Converter} {i : NodeId} {n : Node}

/-- A node becomes what the rule of its kind makes of it, and is recorded after that. -/
theorem yields_visitAt {post : Option EsNode → Prop} (hn : c.arena.nodes[i]? = some n)
    (h : Yields (c.visit i n) post) : Yields (c.visitAt (some i)) post := by
  rw [visitAt, show c.node? (some i) = some n from hn]
  refine Yields.bind h fun x hx => ?_
  cases x with
  | none => exact Yields.pure hx
  | some es => exact (Yields.trivial _).bind fun _ _ => Yields.pure hx

/-- A node that is built has the type that it is built with. -/
theorem yields_build_type (type : AstType) (n : Node) (fields : List (String × Option EsValue)) :
    Yields (c.build type n fields) fun es => es.head.type = .known type := by
  refine (yields_buildAt c.toSource type n.pos n.stop fields).mono ?_
  rintro _ ⟨id, rfl⟩
  exact (Draft.fill_range _ fields).2.2

/-- **The rule of a literal makes of it what its role says.** -/
theorem yields_visit_literal {role : LiteralRole} (hrole : c.arena.literalRole (some i) = some role)
    (hk : n.kind.hasRole = true) :
    Yields (c.visit i n) fun x => ∃ es ∈ x, es.head.type = .known (role.typeOf n.kind) := by
  have hrule (m : Conversion EsNode) (hvisit : c.visit i n = some <$> m)
      (hm : Yields m fun es => es.head.type = .known (role.typeOf n.kind)) :
      Yields (c.visit i n) fun x => ∃ es ∈ x, es.head.type = .known (role.typeOf n.kind) := by
    rw [hvisit]
    exact Yields.map (hm.mono fun es hes => ⟨es, rfl, hes⟩)
  have hsame {found : LiteralRole} (hfound : c.arena.literalRole (some i) = some found) :
      found = role :=
    Option.some.inj (hfound.symm.trans hrole)
  rcases SyntaxKind.hasRole_iff.mp hk with hk | hk
  · refine hrule (c.arrayLiteral i n) ?_ ?_
    · rw [visit, ownRule?, hk]
      rfl
    · refine yields_parts fun d _ => yields_await fun found hfound => ?_
      refine (Yields.trivial _).bind fun elements _ => ?_
      refine (yields_build_type _ n _).mono fun es hes => hes.trans ?_
      rw [hk, hsame hfound]
      cases role <;> rfl
  · refine hrule (c.objectLiteral i n) ?_ ?_
    · rw [visit, ownRule?, hk]
      rfl
    · refine yields_parts fun d _ => yields_await fun found hfound => ?_
      refine (Yields.trivial _).bind fun properties _ => ?_
      refine (yields_build_type _ n _).mono fun es hes => hes.trans ?_
      rw [hk, hsame hfound]
      cases role <;> rfl

end Converter

namespace Source

variable {s : Source} {i : NodeId} {n : Node}

/-- A converter goes down to a node by the rule of its kind. -/
theorem yields_converter {post : Option EsNode → Prop} (hn : s.arena.nodes[i]? = some n)
    (h : ∀ c : Converter, c.toSource = s → Yields (c.visit i n) post) (depth : Nat) :
    Yields ((s.converter depth).convert (some i)) post := by
  cases depth with
  | zero => exact Yields.throw
  | succ depth =>
    have hsource := s.toSource_converter depth
    exact Converter.yields_visitAt (c := s.converter depth) (hsource.symm ▸ hn) (h _ hsource)

/-- **What becomes of a literal**, however deep the converter may still go. It becomes a pattern if
something is assigned to it, or it stands in a target, and not behind three dots; a literal behind
dots never becomes one. Where the members of literals are those that a parser puts there, no other
literal becomes a pattern, so that what does is a target by right. -/
theorem convert_literal (htree : s.arena.IsLinkedTree s.root) (hi : s.arena.Reaches s.root i)
    (hn : s.arena.nodes[i]? = some n) (hk : n.kind.hasRole = true) (depth : Nat) :
    ∃ role : LiteralRole,
      (Yields ((s.converter depth).convert (some i)) fun x =>
        ∃ es ∈ x, es.head.type = .known (role.typeOf n.kind)) ∧
      (s.arena.IsTarget false i → role = .pattern) ∧
      (s.arena.HasPlainMembers s.root → role = .pattern →
        s.arena.IsTarget false i ∧ s.arena.IsTarget true i) ∧
      ∀ j m, s.arena.IsChild j i → s.arena.nodes[j]? = some m → m.kind.isSpread = true →
        role = .expression := by
  obtain ⟨role, hrole⟩ := Arena.exists_literalRole htree.isLinked (r := some i) <| by
    rintro _ ⟨⟩
    exact htree.acyclicAbove hi
  obtain ⟨hpattern, htarget⟩ := htree.literalRole_iff hi hn hk
  rw [hrole, Option.some.injEq] at hpattern htarget
  refine ⟨role, ?_, hpattern, fun hplain hrole => ?_, ?_⟩
  · refine yields_converter hn (fun c hc => ?_) depth
    exact Converter.yields_visit_literal (hc.symm ▸ hrole) hk
  · have htarget := htarget hplain hrole
    exact ⟨htarget, htarget.dots⟩
  · intro j m hchild hm hspread
    have hexpression := htree.literalRole_of_spread hi hn hchild hm hspread
    exact Option.some.inj (hrole.symm.trans hexpression)

end Source

/-! ### A literal behind three dots -/

/-- The document of `[...[a]] = b;`. -/
def nestedRest : Document where
  arena := {
    nodes := #[
      { kind := .identifier, pos := 5, stop := 6, pool := some .identifier, dataIndex := 0 },
      { kind := .arrayLiteralExpression, pos := 4, stop := 7, pool := some .literalExpr
        dataIndex := 0 },
      { kind := .spreadElement, pos := 1, stop := 7, pool := some .keywordUnary, dataIndex := 0 },
      { kind := .arrayLiteralExpression, pos := 0, stop := 8, pool := some .literalExpr
        dataIndex := 1 },
      { kind := .identifier, pos := 11, stop := 12, pool := some .identifier, dataIndex := 1 },
      { kind := .binaryExpression, pos := 0, stop := 12, pool := some .binary, dataIndex := 0 },
      { kind := .expressionStatement, pos := 0, stop := 13, pool := some .exprStatement
        dataIndex := 0 },
      .token .endOfFileToken 13 13,
      { kind := .sourceFile, pos := 0, stop := 13, pool := some .sourceFile, dataIndex := 0 }]
    parents := #[some 1, some 2, some 3, some 5, some 5, some 6, some 8, some 8, none]
    pools := fun
      | .identifier => #[⟨"a", ()⟩, ⟨"b", ()⟩]
      | .literalExpr => #[⟨⟨[some 0], 5, 6, false⟩, false, ()⟩, ⟨⟨[some 2], 1, 7, false⟩, false, ()⟩]
      | .keywordUnary => #[⟨some 1, false, ()⟩]
      | .binary => #[⟨some 3, .equalsToken, some 4, ()⟩]
      | .exprStatement => #[⟨some 5, ()⟩]
      | .sourceFile => #[⟨⟨[some 6], 0, 13, false⟩, some 7, "input.ts",
          "[...[a]] = b;", .latest, false, [], ()⟩]
      | _ => #[] }
  root := some 8

/-- The inner literal is assigned to, and becomes a value in the rest of a pattern, although a parser
would put it there. -/
theorem nestedRest_operand :
    (nestedRest.convert {}).1.toOption.map (fun p => p.node.walk.map EsHead.type) =
      some [.known .program, .known .expressionStatement, .known .assignmentExpression,
        .known .arrayPattern, .known .restElement, .known .arrayExpression, .known .identifier,
        .known .identifier] ∧
    nestedRest.arena.HasPlainMembers nestedRest.root ∧ nestedRest.arena.IsTarget true 1 ∧
    ∃ role : LiteralRole,
      (Yields ((Source.ofText nestedRest.arena nestedRest.root "[...[a]] = b;".toList .latest
        {}).converter 9 |>.convert (some 1)) fun x =>
          ∃ es ∈ x, es.head.type = .known (role.typeOf .arrayLiteralExpression)) ∧
      role = .expression ∧ ¬ nestedRest.arena.IsTarget false 1 := by
  have htree : nestedRest.arena.IsLinkedTree nestedRest.root :=
    Arena.isLinkedTree_of_forall (by decide) (by decide) rfl
  have hplain : nestedRest.arena.HasPlainMembers nestedRest.root :=
    Arena.hasPlainMembers_of_forall (by decide) _
  have hassigned : nestedRest.arena.Assigns 5 3 :=
    .operand (n := nestedRest.arena.nodes[5]) rfl rfl rfl rfl rfl
  have hstands : nestedRest.arena.StandsIn true 3 1 :=
    .spread (q := 2) rfl rfl rfl (by decide) rfl rfl (by decide)
  have hreaches : nestedRest.arena.Reaches nestedRest.root 1 :=
    ⟨8, rfl, .head (b := 6) (by decide) (.head (b := 5) (by decide)
      (.head (b := 3) (by decide) (.head (b := 2) (by decide)
        (.single (by decide)))))⟩
  obtain ⟨role, hyields, hpattern, -, hspread⟩ := Source.convert_literal
    (s := Source.ofText nestedRest.arena nestedRest.root "[...[a]] = b;".toList .latest {}) htree
    (i := 1) hreaches rfl rfl 9
  have hrole := hspread 2 _ (by decide +kernel) rfl rfl
  refine ⟨by decide +kernel, hplain, .nested (.assigned hassigned) hstands, role, hyields, hrole, ?_⟩
  intro htarget
  rw [hpattern htarget] at hrole
  cases hrole

end ScriptTree
