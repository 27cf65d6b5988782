import ScriptTree.Proofs.Convert.Nesting.Class
import ScriptTree.Proofs.Convert.Nesting.Declaration
import ScriptTree.Proofs.Convert.Nesting.Exchange
import ScriptTree.Proofs.Convert.Nesting.Expression
import ScriptTree.Proofs.Convert.Nesting.Markup
import ScriptTree.Proofs.Convert.Tandem.Visit

/-!
# Nodes of the normalized tree lie within each other

Every rule keeps within the bounds of its node (`ScriptTree.Converter.Nests.visit`), so every
converter does that goes down a number of times (`ScriptTree.Source.nests_ways`).
-/

namespace ScriptTree

open Conversion (Yields)

namespace Converter.Nests

variable {c : Converter} {tokens : List SourceToken} {lo hi : Nat} {i : NodeId} {n : Node}
  {r : NodeRef}

/-! ### The rules -/

theorem passThrough (h : c.Nests tokens) (hi : c.arena.Stands tokens i n) {p : Pool}
    (hf : Field.expression ∈ p.layout) (hp : p ≠ .loop) :
    Yields (c.passThrough p i n) fun x => ∀ es ∈ x, es.Fits n.pos n.stop :=
  Conversion.yields_parts fun _ hd =>
    h.convert (hi.fieldFits hd (Pool.mem_childFields hp hf n.kind)).node

/-- **Every rule keeps within the bounds of its node**, apart from the rule of a file. -/
theorem ownRule (h : c.Nests tokens) (hi : c.arena.Stands tokens i n) (hfile : n.kind ≠ .sourceFile)
    {m : Conversion (Option EsNode)} (hm : c.ownRule? i n = some m) :
    Yields m fun x => ∀ es ∈ x, es.Fits n.pos n.stop := by
  have hle := hi.isLaidOut.pos_le_stop
  -- One case for each rule, in the order in which the rules are listed.
  rw [Converter.ownRule?] at hm
  split at hm
  all_goals cases hm
  · next hk => exact absurd hk hfile
  · exact (Source.yields_privateName hle).toOption
  · exact (Source.yields_stringLiteral hle).toOption
  · exact (Source.yields_numericLiteral hle).toOption
  · exact (Source.yields_bigIntLiteral hle).toOption
  · exact (Source.yields_regexLiteral hle).toOption
  · exact (Source.yields_plainTemplate hle).toOption
  · exact (Source.yields_templatePiece hle).toOption
  · exact (Source.yields_templatePiece hle).toOption
  · exact (Source.yields_templatePiece hle).toOption
  · exact (Source.yields_booleanLiteral hle).toOption
  · exact (Source.yields_booleanLiteral hle).toOption
  · exact (Source.yields_nullLiteral hle).toOption
  · exact (Source.yields_markupText hle).toOption
  · exact (Source.yields_markupText hle).toOption
  · exact h.passThrough hi (by decide) (by decide)
  · exact h.passThrough hi (by decide) (by decide)
  · exact (h.template hi).toOption
  · exact (h.taggedTemplate hi).toOption
  · exact (h.binary hi).toOption
  · exact (h.unary hi).toOption
  · exact (h.unary hi).toOption
  · exact (h.metaProperty hi).toOption
  · exact (h.arrayLiteral hi).toOption
  · exact (h.objectLiteral hi).toOption
  · exact (h.shorthandProperty hi).toOption
  · exact (h.spread hi).toOption
  · exact (h.spread hi).toOption
  · exact h.bindingElement hi
  · exact (h.variableStatement hi hfile).toOption
  · exact (h.declarator hi).toOption
  · exact (h.functionDeclaration hi hfile).toOption
  · next hk => exact h.parameter hi hk
  · next hk => exact (h.classLike hi (.inl hk)).toOption
  · next hk => exact (h.classLike hi (.inr hk)).toOption
  · exact (h.classProperty hi).toOption
  · next hk => exact (h.method hi (by rw [hk]; rfl)).toOption
  · next hk => exact (h.method hi (by rw [hk]; rfl)).toOption
  · next hk => exact (h.method hi (by rw [hk]; rfl)).toOption
  · next hk => exact (h.constructorMethod hi hk).toOption
  · exact (h.switch hi).toOption
  · exact (h.catchClause hi).toOption
  · exact (h.importDeclaration hi).toOption
  · exact (h.importSpecifier hi).toOption
  · exact (h.exportDeclaration hi).toOption
  · exact (h.exportSpecifier hi).toOption
  · exact (h.exportAssignment hi).toOption
  · next hk => exact (h.typeAlias hi hk).toOption
  · exact (h.typePredicate hi).toOption
  · next hk => exact (h.interface hi hk).toOption
  · exact (h.enumeration hi hfile).toOption
  · exact (h.moduleDeclaration hi hfile).toOption
  · exact (h.selfClosingElement hi).toOption
  · exact (h.openingTag hi false).toOption
  · exact (h.markupAttribute hi).toOption
  · exact (h.markupExpression hi hfile).toOption

theorem visit (h : c.Nests tokens) (hi : c.arena.Stands tokens i n)
    (hfile : n.kind ≠ .sourceFile) :
    Yields (c.visit i n) fun x => ∀ es ∈ x, es.Fits n.pos n.stop := by
  rw [Converter.visit]
  refine .ite (fun _ => .pure fun es hes => absurd hes (Option.not_mem_none es)) fun _ => ?_
  split
  · exact (Source.yields_build hi.isLaidOut.pos_le_stop .nil).toOption
  · split
    · next hr => exact (h.follow hi (Recipe.suits_of_recipe? hr)).toOption
    · split
      · next hm => exact h.ownRule hi hfile hm
      · exact (h.synthesize hi).toOption

/-! ### Going down -/

/-- Of a node that may be empty nothing comes, so it does not matter where it starts. -/
theorem visitAt (h : c.Nests tokens) (hr : c.arena.FitsIn tokens lo hi r) :
    Yields (c.visitAt r) fun x => ∀ es ∈ x, es.Fits lo hi := by
  have hnone : ∀ es ∈ (none : Option EsNode), es.Fits lo hi :=
    fun es hes => absurd hes (Option.not_mem_none es)
  rw [Converter.visitAt.eq_def]
  split
  · exact .pure hnone
  · next i =>
    split
    · exact .pure hnone
    · next n hn =>
      have hvisit : Yields (c.visit i n) fun x => ∀ es ∈ x, es.Fits lo hi := by
        cases helided : n.kind.isElided with
        | true =>
          rw [Converter.visit, if_pos helided]
          exact .pure hnone
        | false =>
          have hblank : n.isBlank = false := by rw [Node.isBlank, helided, Bool.false_and]
          exact (h.visit (hr.stands rfl hn) (hr.kind_ne hn)).mono fun x hx es hes =>
            (hx es hes).mono (hr.le_pos n hn hblank) (hr.stop_le n hn)
      refine hvisit.bind fun x hx => ?_
      cases x with
      | none => exact .pure hx
      | some es => exact (Yields.trivial _).bind fun _ _ => .pure hx

/-- **A type argument lies within its bounds**, whether its parts are taken over or not. -/
theorem typeArgumentOf (h : c.Nests tokens) (hr : c.arena.FitsIn tokens lo hi r)
    (hstart : c.arena.StartsFrom lo r) :
    Yields (c.typeArgumentOf r) fun v => v.nested lo hi = true := by
  rw [Converter.typeArgumentOf]
  split
  · next n hn =>
    obtain ⟨i, rfl, hnode⟩ := Option.bind_eq_some_iff.mp hn
    have hself := hr.stands rfl hnode
    have hreference {name : EsValue} {arguments : Option EsNode}
        (hname : name.nested n.pos n.stop = true)
        (harguments : ∀ es ∈ arguments, es.Fits n.pos n.stop) :
        Yields (do
          let reference ← c.build .tsTypeReference n
            [("typeName", name), ("typeParameters", arguments)]
          pure reference.toValue) fun v => v.nested lo hi = true := by
      refine (Source.yields_build hself.isLaidOut.pos_le_stop (.value hname
        (.node? (fun es hes => (harguments es hes).nested) .nil))).bind fun es hes => .pure ?_
      exact (hes.mono (hstart n hn) (hr.stop_le n hn)).nested
    refine .ite (fun _ => h.child hr) fun _ => ?_
    split
    · next d hd =>
      refine (h.child (hself.fits hd .typeName (by decide)).node).bind fun name hname => ?_
      refine (h.typeArguments? ((hself.fits hd .typeArguments (by decide)).angled rfl)).bind
        fun arguments harguments => ?_
      exact hreference hname harguments
    · refine (h.child (hr.self hn)).bind fun name hname => ?_
      exact hreference hname fun es hes => absurd hes (Option.not_mem_none es)
  · exact .pure rfl

/-! ### The file -/

/-- The statements of a file stand between its first token and its end. -/
theorem fitsIn_statements (h : c.Nests tokens) (hi : c.arena.Stands tokens i n)
    {d : Data .sourceFile} (hd : c.arena.data? .sourceFile n = some d) {stop : Nat}
    (hstop : stop = ((c.node? (d.get .endOfFileToken)).map Node.stop).getD n.stop) :
    ∀ r ∈ (d.get .statements).nodes, c.arena.FitsIn tokens
      ((((TokenIndex.ofList tokens).atOrAfter n.pos).map SourceToken.start).getD stop) stop r := by
  have hchild (f : Field) (hf : f ∈ Pool.sourceFile.layout) :
      f ∈ Pool.sourceFile.childFields n.kind := Pool.mem_childFields (by decide) hf _
  intro r hr
  have hfits := (hi.fieldFits hd (hchild .statements (by decide))).list r hr
  refine { hfits with le_pos := fun m hm hblank => ?_, stop_le := fun m hm => ?_ }
  · -- A statement starts with a token, which is not in front of the first one.
    obtain ⟨t, ht, hstart⟩ := hfits.exists_start hm hblank
    have hpos := hfits.le_pos m hm hblank
    obtain ⟨u, -, hfind, -, hle, -⟩ := TokenIndex.exists_atOrAfter h.inOrder ht (hstart ▸ hpos)
    rw [hfind, ← hstart]
    exact hle
  · cases hlast : c.node? (d.get .endOfFileToken) with
    | none =>
      rw [hstop, hlast]
      exact hfits.stop_le m hm
    | some last =>
      rw [hstop, hlast]
      obtain ⟨j, rfl, hnode⟩ := Option.bind_eq_some_iff.mp hm
      obtain ⟨k, hk, hnode'⟩ := Option.bind_eq_some_iff.mp hlast
      have hk : k ∈ d.refs .endOfFileToken := Record.mem_refs_of_nodeAt hk
      have hj : j ∈ d.before n.kind .endOfFileToken := Arena.Stands.mem_before (by decide)
        (Record.mem_refs_of_mem_listAt (f := .statements) hr)
      have hbehind := hi.behind_le_pos hd (hchild .endOfFileToken (by decide)) hk hnode'
      have hwithin := hi.within hd (hchild .endOfFileToken (by decide)) hk hnode'
      have hle := (Arena.behind_le_iff.mp hbehind).2 j hj m hnode
      exact Nat.le_trans hle hwithin.2.1

theorem program (h : c.Nests tokens) (hi : c.arena.Stands tokens i n) :
    Yields (c.program i n) fun es => es.isNested = true := by
  refine Conversion.yields_parts fun d hd => Conversion.yields_tokens h.index_eq ?_
  have hstatements := h.fitsIn_statements hi hd rfl
  dsimp only
  generalize ((c.node? (d.get .endOfFileToken)).map Node.stop).getD n.stop = stop at hstatements ⊢
  generalize (((TokenIndex.ofList tokens).atOrAfter n.pos).map SourceToken.start).getD stop = first
    at hstatements ⊢
  refine (h.statements fun r hr => (hstatements r hr).mono (Nat.le_refl _)
    (Nat.le_max_left stop first)).bind fun body hbody => ?_
  refine (Conversion.yields_buildAt c.toSource _ first stop _).mono ?_
  rintro _ ⟨id, rfl⟩
  -- A file whose end is not behind its first token ends with that token.
  have hnew : Draft.new id (AstType.program : EsType) first stop =
      .new id AstType.program first (max stop first) := by
    rw [Draft.new, Draft.new, Nat.max_assoc, Nat.max_self]
  rw [hnew]
  exact ((c.spans_fill id _ (Nat.le_max_right _ _) (.value hbody (.plain
    (EsValue.all_isBare_ite ..) .nil))).fits
    (Nat.le_refl _) (Nat.le_refl _) (Nat.le_refl _)).isNested

end Converter.Nests

namespace Source

variable {s : Source} {tokens : List SourceToken} {i : NodeId} {n : Node}

end Source

end ScriptTree
