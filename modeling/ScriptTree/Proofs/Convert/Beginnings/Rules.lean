import ScriptTree.Proofs.Convert.Beginnings.Reading

/-!
# The rules over an arena that goes on

Each rule does the same over an arena that looks alike, as long as it goes down in the same ways
(`ScriptTree.Arena.LooksAlike.visitAt`). Most rules read no more than the parts of their node; what
others read besides is what their lemma is about.
-/

namespace ScriptTree

namespace Arena.LooksAlike

variable {s : Source} {a' : Arena} (h : s.arena.LooksAlike a') {w : WaysDown} {i : NodeId}
  {n : Node} {r : NodeRef} {l : Option NodeList}

include h

/-! ### Literals -/

theorem privateName (hn : s.node? (some i) = some n) :
    (s.over a').privateName i n = s.privateName i n :=
  h.parts_bind hn fun _ _ => rfl

theorem stringLiteral (hn : s.node? (some i) = some n) :
    (s.over a').stringLiteral i n = s.stringLiteral i n := by
  refine h.parts_bind hn fun d _ => ?_
  simp only [Source.arena_over, h.hasKind_parent hn]
  rfl

theorem templatePiece (hn : s.node? (some i) = some n) :
    (s.over a').templatePiece i n = s.templatePiece i n :=
  h.parts_bind hn fun _ _ => rfl

theorem plainTemplate (hn : s.node? (some i) = some n) :
    (s.over a').plainTemplate i n = s.plainTemplate i n :=
  h.parts_bind hn fun _ _ => rfl

theorem nullLiteral (hn : s.node? (some i) = some n) :
    (s.over a').nullLiteral i n = s.nullLiteral i n := by
  simp only [Source.nullLiteral, Source.arena_over, h.inTypePosition (lt_of_node? hn)]
  rfl

/-! ### Expressions -/

/-- A chain of commas is as long as it is; the size of the arena is just enough. -/
theorem sequence {d : Data .binary} (hd : s.arena.SeesParts a' d)
    (hacyclic : s.arena.AcyclicFrom (d.get .left)) :
    ((s.over a').along w).sequence n d = (s.along w).sequence n d := by
  obtain ⟨others, hothers⟩ := exists_commaOperands hacyclic
  have hothers' : a'.commaOperands (a'.nodes.size + 1) (d.get .left) = some others :=
    (h.commaOperands _ (hd.nodeAt .left)).trans
      (commaOperands_of_le hothers (Nat.succ_le_succ h.size_le))
  simp only [Converter.sequence, Source.toSource_along, Source.arena_over, hothers, hothers']
  rfl

theorem binary (hn : s.node? (some i) = some n) (hacyclic : s.arena.AcyclicFrom (some i)) :
    ((s.over a').along w).binary i n = (s.along w).binary i n := by
  refine h.parts_bind_data hn fun d hd hparts => ?_
  have hleft : s.arena.AcyclicFrom (d.get .left) :=
    hacyclic.nodeAt (f := .left) hn hd (Pool.mem_childFields (by decide) (by decide) n.kind)
  simp only [h.sequence hparts hleft, Source.toSource_along, Source.arena_over,
    h.inPattern (lt_of_node? hn)]
  rfl

theorem unary (hn : s.node? (some i) = some n) :
    ((s.over a').along w).unary i n = (s.along w).unary i n :=
  h.parts_bind hn fun _ _ => rfl

theorem metaProperty (hn : s.node? (some i) = some n) :
    ((s.over a').along w).metaProperty i n = (s.along w).metaProperty i n :=
  h.parts_bind hn fun _ _ => rfl

theorem templateSpan (hr : s.arena.Sees a' r) :
    ((s.over a').along w).templateSpan r = (s.along w).templateSpan r := by
  cases r with
  | none => rfl
  | some i =>
    simp only [Converter.templateSpan, Source.toSource_along, node?_over hr]
    cases hn : s.node? (some i) with
    | none => rfl
    | some n => exact h.parts_bind hn fun _ _ => rfl

theorem template (hn : s.node? (some i) = some n) :
    ((s.over a').along w).template i n = (s.along w).template i n := by
  refine h.parts_bind hn fun d hd => ?_
  have hspans : (d.get .templateSpans).nodes.filterMapM ((s.over a').along w).templateSpan =
      (d.get .templateSpans).nodes.filterMapM (s.along w).templateSpan :=
    filterMapM_congr fun r hr => h.templateSpan (hd.listAt .templateSpans r hr)
  simp only [hspans]
  rfl

theorem taggedTemplate (hn : s.node? (some i) = some n) :
    ((s.over a').along w).taggedTemplate i n = (s.along w).taggedTemplate i n :=
  h.parts_bind hn fun _ _ => rfl

theorem arrayLiteral (hn : s.node? (some i) = some n) :
    ((s.over a').along w).arrayLiteral i n = (s.along w).arrayLiteral i n := by
  refine h.parts_bind hn fun d _ => ?_
  simp only [Source.toSource_along, Source.arena_over, h.literalRole (lt_of_node? hn)]
  rfl

theorem objectLiteral (hn : s.node? (some i) = some n) :
    ((s.over a').along w).objectLiteral i n = (s.along w).objectLiteral i n := by
  refine h.parts_bind hn fun d _ => ?_
  simp only [Source.toSource_along, Source.arena_over, h.literalRole (lt_of_node? hn)]
  rfl

theorem spread (hn : s.node? (some i) = some n) :
    ((s.over a').along w).spread i n = (s.along w).spread i n := by
  refine h.parts_bind hn fun d _ => ?_
  simp only [Source.toSource_along, Source.arena_over, h.inPattern (lt_of_node? hn)]
  rfl

theorem shorthandProperty (hn : s.node? (some i) = some n) :
    ((s.over a').along w).shorthandProperty i n = (s.along w).shorthandProperty i n := by
  refine h.parts_bind hn fun d hd => ?_
  have hdefault : s.arena.Sees a' (d.get .objectAssignmentInitializer) :=
    hd.nodeAt .objectAssignmentInitializer
  simp only [Source.toSource_along, node?_over hdefault]
  rfl

/-! ### Variables -/

theorem variableStatement (hn : s.node? (some i) = some n) :
    ((s.over a').along w).variableStatement i n = (s.along w).variableStatement i n := by
  refine h.parts_bind hn fun d hd => ?_
  have hlist : s.arena.Sees a' (d.get .declarationList) := hd.nodeAt .declarationList
  have hmodifiers : s.arena.SeesAll a' (NodeList.nodesOf (d.get .modifiers)) := hd.listAt .modifiers
  cases hj : d.get .declarationList with
  | none => rfl
  | some j =>
    rw [hj] at hlist
    simp only [Source.toSource_along, node?_over hlist]
    cases hlist : s.node? (some j) with
    | none => rfl
    | some list =>
      refine h.parts_bind hlist fun parts _ => ?_
      simp only [Source.arena_over, hmodifiers.hasModifier, exported hmodifiers]
      rfl

theorem declarator (hn : s.node? (some i) = some n) :
    ((s.over a').along w).declarator i n = (s.along w).declarator i n := by
  refine h.parts_bind hn fun d hd => ?_
  have htype : s.arena.Sees a' (d.get .declaredType) := hd.nodeAt .declaredType
  simp only [ascription? htype]
  rfl

omit h in
theorem arrayElement {d : Data .bindingElement} (hd : s.arena.SeesParts a' d) :
    ((s.over a').along w).arrayElement n d = (s.along w).arrayElement n d := by
  have hdefault : s.arena.Sees a' (d.get .initializer) := hd.nodeAt .initializer
  simp only [Converter.arrayElement, Source.toSource_along, node?_over hdefault]
  rfl

omit h in
theorem objectElement {d : Data .bindingElement} (hd : s.arena.SeesParts a' d) :
    ((s.over a').along w).objectElement n d = (s.along w).objectElement n d := by
  have hname : s.arena.Sees a' (d.get .name) := hd.nodeAt .name
  have hdefault : s.arena.Sees a' (d.get .initializer) := hd.nodeAt .initializer
  have hkey : s.arena.Sees a'
      (if (d.get .propertyName).isNone then d.get .name else d.get .propertyName) := by
    split
    · exact hname
    · exact hd.nodeAt .propertyName
  simp only [Converter.objectElement, Source.toSource_along, node?_over hname,
    node?_over hdefault, hasKind_over hkey]
  rfl

/-- An element knows by its parent what pattern it is in. -/
theorem bindingElement (hn : s.node? (some i) = some n) :
    ((s.over a').along w).bindingElement i n = (s.along w).bindingElement i n := by
  refine h.parts_bind hn fun d hd => ?_
  simp only [Source.toSource_along, Source.arena_over, h.hasKind_parent hn, objectElement hd,
    arrayElement hd]
  rfl

/-! ### Functions -/

theorem functionDeclaration (hn : s.node? (some i) = some n) :
    ((s.over a').along w).functionDeclaration i n = (s.along w).functionDeclaration i n := by
  refine h.parts_bind hn fun d hd => ?_
  have hmodifiers : s.arena.SeesAll a' (NodeList.nodesOf (d.get .modifiers)) := hd.listAt .modifiers
  simp only [Source.toSource_along, Source.arena_over, hmodifiers.hasModifier, h.follow hn,
    exported hmodifiers]
  rfl

theorem methodValue {d : Data .function} (hd : s.arena.SeesParts a' d) (behind : Nat) :
    ((s.over a').along w).methodValue n d behind = (s.along w).methodValue n d behind := by
  have hmodifiers : s.arena.SeesAll a' (NodeList.nodesOf (d.get .modifiers)) := hd.listAt .modifiers
  simp only [Converter.methodValue, Source.toSource_along, Source.arena_over,
    hmodifiers.hasModifier, h.gather hd]
  rfl

omit h in
theorem annotatedParameter {d : Data .parameter} (hd : s.arena.SeesParts a' d) (nameStop : Nat)
    (target : Draft) :
    ((s.over a').along w).annotatedParameter d nameStop target =
      (s.along w).annotatedParameter d nameStop target := by
  have htype : s.arena.Sees a' (d.get .declaredType) := hd.nodeAt .declaredType
  simp only [Converter.annotatedParameter, ascription? htype]
  rfl

omit h in
theorem defaultedParameter {d : Data .parameter} (hd : s.arena.SeesParts a' d) (isProperty : Bool)
    (target : EsNode) :
    ((s.over a').along w).defaultedParameter n d isProperty target =
      (s.along w).defaultedParameter n d isProperty target := by
  have hdefault : s.arena.Sees a' (d.get .initializer) := hd.nodeAt .initializer
  simp only [Converter.defaultedParameter, Source.toSource_along, node?_over hdefault]
  rfl

omit h in
theorem propertyParameter (hl : s.arena.SeesAll a' (NodeList.nodesOf l)) (parameter : Draft) :
    ((s.over a').along w).propertyParameter n l parameter =
      (s.along w).propertyParameter n l parameter := by
  simp only [Converter.propertyParameter, Source.toSource_along, modifiers_over hl]
  rfl

theorem parameter (hn : s.node? (some i) = some n) :
    ((s.over a').along w).parameter i n = (s.along w).parameter i n := by
  refine h.parts_bind hn fun d hd => ?_
  have hmodifiers : s.arena.SeesAll a' (NodeList.nodesOf (d.get .modifiers)) := hd.listAt .modifiers
  simp only [annotatedParameter hd, defaultedParameter hd, propertyParameter hmodifiers.filter]
  rfl

/-! ### Classes and interfaces -/

omit h in
theorem braceOf (tokens : TokenIndex) {d : Data .classLike} (hd : s.arena.SeesParts a' d) :
    ((s.over a').along w).braceOf tokens n d = (s.along w).braceOf tokens n d := by
  have hname : s.arena.Sees a' (d.get .name) := hd.nodeAt .name
  have hmodifiers : s.arena.SeesAll a' (NodeList.nodesOf (d.get .modifiers)) := hd.listAt .modifiers
  have hdecorators : s.arena.SeesAll a' (NodeList.nodesOf (d.get .decorators)) :=
    hd.listAt .decorators
  have hclauses : s.arena.SeesAll a' (NodeList.nodesOf (d.get .heritageClauses)) :=
    hd.listAt .heritageClauses
  simp only [Converter.braceOf, Source.toSource_along, node?_over hname, lastStop hmodifiers,
    lastStop hdecorators, lastStop hclauses]

omit h in
theorem bodyStart {d : Data .classLike} (hd : s.arena.SeesParts a' d) :
    ((s.over a').along w).bodyStart n d = (s.along w).bodyStart n d := by
  simp only [Converter.bodyStart, braceOf _ hd]
  rfl

theorem heritage (type : AstType) (key : String) (hr : s.arena.Sees a' r) :
    ((s.over a').along w).heritage type key r = (s.along w).heritage type key r := by
  cases r with
  | none => rfl
  | some i =>
    simp only [Converter.heritage, Source.toSource_along, node?_over hr]
    cases hn : s.node? (some i) with
    | none => rfl
    | some n => exact h.parts_bind hn fun _ _ => rfl

/-- What the clauses of a class refer to. -/
structure SeesClauses (s : Source) (a' : Arena) (found : Converter.Clauses) : Prop where
  extended : ∀ d ∈ found.extended, s.arena.SeesParts a' d
  implemented : ∀ d ∈ found.implemented, s.arena.SeesParts a' d

theorem addClause (found : Converter.Clauses) (hr : s.arena.Sees a' r) :
    ((s.over a').along w).addClause found r = (s.along w).addClause found r := by
  cases r with
  | none => rfl
  | some i =>
    simp only [Converter.addClause, Source.toSource_along, node?_over hr]
    cases hn : s.node? (some i) with
    | none => rfl
    | some n => exact h.parts_bind hn fun _ _ => rfl

theorem yields_addClause {found : Converter.Clauses} (hfound : SeesClauses s a' found) :
    ((s.along w).addClause found r).Yields (SeesClauses s a') := by
  cases r with
  | none => exact Conversion.Yields.pure hfound
  | some i =>
    simp only [Converter.addClause, Source.toSource_along]
    cases hn : s.node? (some i) with
    | none => exact Conversion.Yields.pure hfound
    | some n =>
      refine Conversion.yields_parts fun d hd => ?_
      have hparts := h.seesParts (mem_of_node? hn) hd
      refine .ite (fun _ => .pure ⟨?_, hfound.implemented⟩) fun _ =>
        .ite (fun _ => .pure ⟨hfound.extended, ?_⟩) fun _ => .pure hfound
      · rintro _ ⟨⟩
        exact hparts
      · rintro _ ⟨⟩
        exact hparts

theorem yields_addClauses (rs : List NodeRef) :
    (rs.foldlM (s.along w).addClause {}).Yields (SeesClauses s a') := by
  refine .foldlM rs (fun found r hfound _ => h.yields_addClause hfound) ⟨?_, ?_⟩ <;> rintro _ ⟨⟩

theorem yields_clauses (n : Node) (l : Option NodeList) :
    ((s.along w).clauses n l).Yields (SeesClauses s a') := by
  refine (h.yields_addClauses (NodeList.nodesOf l)).bind fun found hfound => ?_
  split
  · exact .pure hfound
  · exact .fail

theorem clauses (hl : s.arena.SeesAll a' (NodeList.nodesOf l)) :
    ((s.over a').along w).clauses n l = (s.along w).clauses n l := by
  have hfold : (NodeList.nodesOf l).foldlM ((s.over a').along w).addClause {} =
      (NodeList.nodesOf l).foldlM (s.along w).addClause {} :=
    foldlM_congr (fun r hr found => h.addClause found (hl r hr)) {}
  refine (congrArg (· >>= _) hfold).trans
    ((h.yields_addClauses (NodeList.nodesOf l)).bind_congr fun found hfound => ?_)
  cases hsecond : found.extended.bind fun d => (d.get .types).nodes[1]? with
  | none => rfl
  | some second =>
    obtain ⟨d, hd, hnodes⟩ := Option.bind_eq_some_iff.mp hsecond
    have hsees : s.arena.Sees a' second :=
      (hfound.extended d hd).listAt .types second (List.mem_of_getElem? hnodes)
    simp only [Source.toSource_along, node?_over hsees]
    rfl

theorem extended {found : Converter.Clauses} (hfound : SeesClauses s a' found) :
    ((s.over a').along w).extended found = (s.along w).extended found := by
  have hr : s.arena.Sees a' (found.extended.bind fun d => (d.get .types).first) := by
    cases hd : found.extended with
    | none => rfl
    | some d => exact ((hfound.extended d hd).listAt .types).first
  rw [Converter.extended, Converter.extended]
  cases hi : found.extended.bind fun d => (d.get .types).first with
  | none => rfl
  | some i =>
    rw [hi] at hr
    simp only [Source.toSource_along, node?_over hr]
    cases hn : s.node? (some i) with
    | none => rfl
    | some n => exact h.parts_bind hn fun _ _ => rfl

theorem implemented {found : Converter.Clauses} (hfound : SeesClauses s a' found) :
    (found.implemented.mapM fun clause =>
        (clause.get .types).nodes.mapM
          (((s.over a').along w).heritage .classImplements "expression")) =
      found.implemented.mapM fun clause =>
        (clause.get .types).nodes.mapM ((s.along w).heritage .classImplements "expression") := by
  cases hd : found.implemented with
  | none => rfl
  | some d =>
    have htypes := (hfound.implemented d hd).listAt .types
    rw [Option.mapM_some, Option.mapM_some]
    exact congrArg (some <$> ·) (mapM_congr fun r hr => h.heritage _ _ (htypes r hr))

theorem classLike (hn : s.node? (some i) = some n) :
    ((s.over a').along w).classLike i n = (s.along w).classLike i n := by
  refine h.parts_bind hn fun d hd => ?_
  have hclauses : s.arena.SeesAll a' (NodeList.nodesOf (d.get .heritageClauses)) :=
    hd.listAt .heritageClauses
  have hmodifiers : s.arena.SeesAll a' (NodeList.nodesOf (d.get .modifiers)) := hd.listAt .modifiers
  rw [h.clauses hclauses]
  refine (h.yields_clauses n _).bind_congr fun found hfound => ?_
  simp only [Source.toSource_along, Source.arena_over, hmodifiers.hasModifier, bodyStart hd,
    h.extended hfound, h.implemented hfound, exported hmodifiers]
  rfl

theorem extendedInterfaces (hr : s.arena.Sees a' r) :
    ((s.over a').along w).extendedInterfaces r = (s.along w).extendedInterfaces r := by
  cases r with
  | none => rfl
  | some i =>
    simp only [Converter.extendedInterfaces, Source.toSource_along, node?_over hr]
    cases hn : s.node? (some i) with
    | none => rfl
    | some n =>
      exact h.parts_bind hn fun d hd =>
        mapM_congr fun r hr => h.heritage _ _ (hd.listAt .types r hr)

theorem interface (hn : s.node? (some i) = some n) :
    ((s.over a').along w).interface i n = (s.along w).interface i n := by
  refine h.parts_bind hn fun d hd => ?_
  have hclauses : s.arena.SeesAll a' (NodeList.nodesOf (d.get .heritageClauses)) :=
    hd.listAt .heritageClauses
  have hmodifiers : s.arena.SeesAll a' (NodeList.nodesOf (d.get .modifiers)) := hd.listAt .modifiers
  simp only [Source.toSource_along, Source.arena_over, hmodifiers.hasModifier, bodyStart hd,
    h.extendedInterfaces hclauses.first, exported hmodifiers]
  rfl

/-! ### Members -/

theorem classProperty (hn : s.node? (some i) = some n) :
    ((s.over a').along w).classProperty i n = (s.along w).classProperty i n := by
  refine h.parts_bind hn fun d hd => ?_
  have hname : s.arena.Sees a' (d.get .name) := hd.nodeAt .name
  have htype : s.arena.Sees a' (d.get .declaredType) := hd.nodeAt .declaredType
  have hmodifiers : s.arena.SeesAll a' (NodeList.nodesOf (d.get .modifiers)) := hd.listAt .modifiers
  simp only [Source.toSource_along, modifiers_over hmodifiers, hasKind_over hname,
    ascription? htype]
  rfl

theorem isNamedConstructor (hr : s.arena.Sees a' r) (flags : List Modifier) :
    ((s.over a').along w).isNamedConstructor n r flags =
      (s.along w).isNamedConstructor n r flags := by
  simp only [Converter.isNamedConstructor, Source.toSource_along, Source.arena_over,
    hasKind_over hr, h.dataAt? hr]

theorem method (hn : s.node? (some i) = some n) :
    ((s.over a').along w).method i n = (s.along w).method i n := by
  refine h.parts_bind hn fun d hd => ?_
  have hname : s.arena.Sees a' (d.get .name) := hd.nodeAt .name
  have hmodifiers : s.arena.SeesAll a' (NodeList.nodesOf (d.get .modifiers)) := hd.listAt .modifiers
  simp only [Source.toSource_along, Source.arena_over, modifiers_over hmodifiers,
    hasKind_over hname, node?_over hname, h.hasKind_parent hn, h.methodValue hd,
    h.isNamedConstructor hname]
  rfl

theorem constructorMethod (hn : s.node? (some i) = some n) :
    ((s.over a').along w).constructorMethod i n = (s.along w).constructorMethod i n := by
  refine h.parts_bind hn fun d hd => ?_
  have hmodifiers : s.arena.SeesAll a' (NodeList.nodesOf (d.get .modifiers)) := hd.listAt .modifiers
  simp only [Source.toSource_along, modifiers_over hmodifiers, node?_over hmodifiers.last,
    h.methodValue hd]
  rfl

/-! ### Clauses -/

theorem cases (hr : s.arena.Sees a' r) :
    ((s.over a').along w).cases r = (s.along w).cases r := by
  cases r with
  | none => rfl
  | some i =>
    simp only [Converter.cases, Source.toSource_along, node?_over hr]
    cases hn : s.node? (some i) with
    | none => rfl
    | some n => exact h.parts_bind hn fun _ _ => rfl

theorem switch (hn : s.node? (some i) = some n) :
    ((s.over a').along w).switch i n = (s.along w).switch i n := by
  refine h.parts_bind hn fun d hd => ?_
  have hblock : s.arena.Sees a' (d.get .caseBlock) := hd.nodeAt .caseBlock
  simp only [h.cases hblock]
  rfl

theorem caught (hr : s.arena.Sees a' r) :
    ((s.over a').along w).caught r = (s.along w).caught r := by
  cases r with
  | none => rfl
  | some i =>
    simp only [Converter.caught, Source.toSource_along, node?_over hr]
    cases hn : s.node? (some i) with
    | none => rfl
    | some n => exact h.parts_bind hn fun _ _ => rfl

theorem catchClause (hn : s.node? (some i) = some n) :
    ((s.over a').along w).catchClause i n = (s.along w).catchClause i n := by
  refine h.parts_bind hn fun d hd => ?_
  have hvariable : s.arena.Sees a' (d.get .variableDeclaration) := hd.nodeAt .variableDeclaration
  simp only [h.caught hvariable]
  rfl

/-! ### Declarations of types, enumerations and namespaces -/

theorem typeAlias (hn : s.node? (some i) = some n) :
    ((s.over a').along w).typeAlias i n = (s.along w).typeAlias i n := by
  refine h.parts_bind hn fun d hd => ?_
  have hname : s.arena.Sees a' (d.get .name) := hd.nodeAt .name
  have hmodifiers : s.arena.SeesAll a' (NodeList.nodesOf (d.get .modifiers)) := hd.listAt .modifiers
  simp only [Source.toSource_along, node?_over hname, exported hmodifiers]
  rfl

theorem typePredicate (hn : s.node? (some i) = some n) :
    ((s.over a').along w).typePredicate i n = (s.along w).typePredicate i n := by
  refine h.parts_bind hn fun d hd => ?_
  have htype : s.arena.Sees a' (d.get .typeNode) := hd.nodeAt .typeNode
  simp only [Source.toSource_along, node?_over htype]
  rfl

omit h in
theorem addModifier (found : Draft × List EsValue) (hr : s.arena.Sees a' r) :
    ((s.over a').along w).addModifier found r = (s.along w).addModifier found r := by
  simp only [Converter.addModifier, Source.toSource_along, Source.arena_over, hr.kind?]
  rfl

omit h in
theorem modify (draft : Draft) (hl : s.arena.SeesAll a' (NodeList.nodesOf l)) :
    ((s.over a').along w).modify draft l = (s.along w).modify draft l := by
  have hfold : (NodeList.nodesOf l).foldlM ((s.over a').along w).addModifier (draft, []) =
      (NodeList.nodesOf l).foldlM (s.along w).addModifier (draft, []) :=
    foldlM_congr (fun r hr found => addModifier found (hl r hr)) (draft, [])
  exact congrArg (· >>= _) hfold

theorem enumeration (hn : s.node? (some i) = some n) :
    ((s.over a').along w).enumeration i n = (s.along w).enumeration i n := by
  refine h.parts_bind hn fun d hd => ?_
  have hmodifiers : s.arena.SeesAll a' (NodeList.nodesOf (d.get .modifiers)) := hd.listAt .modifiers
  simp only [modify _ hmodifiers, exported hmodifiers]
  rfl

theorem moduleDeclaration (hn : s.node? (some i) = some n) :
    ((s.over a').along w).moduleDeclaration i n = (s.along w).moduleDeclaration i n := by
  refine h.parts_bind hn fun d hd => ?_
  have hmodifiers : s.arena.SeesAll a' (NodeList.nodesOf (d.get .modifiers)) := hd.listAt .modifiers
  simp only [modify _ hmodifiers, exported hmodifiers]
  rfl

/-! ### Imports and exports -/

omit h in
theorem defaultSpecifier (clause : Node) (hr : s.arena.Sees a' r) :
    ((s.over a').along w).defaultSpecifier clause r = (s.along w).defaultSpecifier clause r := by
  simp only [Converter.defaultSpecifier, Source.toSource_along, node?_over hr]
  rfl

theorem listedSpecifiers (hr : s.arena.Sees a' r) :
    ((s.over a').along w).listedSpecifiers r = (s.along w).listedSpecifiers r := by
  cases r with
  | none => rfl
  | some i =>
    simp only [Converter.listedSpecifiers, Source.toSource_along, node?_over hr]
    cases hn : s.node? (some i) with
    | none => rfl
    | some n => exact ite_congr rfl (fun _ => rfl) fun _ => h.parts_bind hn fun _ _ => rfl

theorem importSpecifiers (hr : s.arena.Sees a' r) :
    ((s.over a').along w).importSpecifiers r = (s.along w).importSpecifiers r := by
  cases r with
  | none => rfl
  | some i =>
    simp only [Converter.importSpecifiers, Source.toSource_along, node?_over hr]
    cases hn : s.node? (some i) with
    | none => rfl
    | some n =>
      refine h.parts_bind hn fun d hd => ?_
      have hname : s.arena.Sees a' (d.get .name) := hd.nodeAt .name
      have hbindings : s.arena.Sees a' (d.get .namedBindings) := hd.nodeAt .namedBindings
      simp only [defaultSpecifier n hname, h.listedSpecifiers hbindings]

theorem importDeclaration (hn : s.node? (some i) = some n) :
    ((s.over a').along w).importDeclaration i n = (s.along w).importDeclaration i n := by
  refine h.parts_bind hn fun d hd => ?_
  have hclause : s.arena.Sees a' (d.get .importClause) := hd.nodeAt .importClause
  simp only [h.importSpecifiers hclause]
  rfl

theorem importSpecifier (hn : s.node? (some i) = some n) :
    ((s.over a').along w).importSpecifier i n = (s.along w).importSpecifier i n :=
  h.parts_bind hn fun _ _ => rfl

theorem exportSpecifier (hn : s.node? (some i) = some n) :
    ((s.over a').along w).exportSpecifier i n = (s.along w).exportSpecifier i n :=
  h.parts_bind hn fun _ _ => rfl

theorem exportAssignment (hn : s.node? (some i) = some n) :
    ((s.over a').along w).exportAssignment i n = (s.along w).exportAssignment i n :=
  h.parts_bind hn fun _ _ => rfl

theorem exportDeclaration (hn : s.node? (some i) = some n) :
    ((s.over a').along w).exportDeclaration i n = (s.along w).exportDeclaration i n := by
  refine h.parts_bind hn fun d hd => congrArg (_ >>= ·) (funext fun source => ?_)
  have hclause : s.arena.Sees a' (d.get .exportClause) := hd.nodeAt .exportClause
  cases hj : d.get .exportClause with
  | none => rfl
  | some j =>
    rw [hj] at hclause
    simp only [Source.toSource_along, node?_over hclause]
    cases hclause : s.node? (some j) with
    | none => rfl
    | some clause =>
      exact ite_congr rfl (fun _ => h.parts_bind hclause fun _ _ => rfl) fun _ =>
        h.parts_bind hclause fun _ _ => rfl

/-! ### Markup -/

theorem markupAttributes (hr : s.arena.Sees a' r) :
    ((s.over a').along w).markupAttributes r = (s.along w).markupAttributes r := by
  cases r with
  | none => rfl
  | some i =>
    simp only [Converter.markupAttributes, Source.toSource_along, node?_over hr]
    cases hn : s.node? (some i) with
    | none => rfl
    | some n => exact h.parts_bind hn fun _ _ => rfl

theorem openingTag (hn : s.node? (some i) = some n) (selfClosing : Bool) :
    ((s.over a').along w).openingTag i n selfClosing = (s.along w).openingTag i n selfClosing := by
  refine h.parts_bind hn fun d hd => ?_
  have hattributes : s.arena.Sees a' (d.get .attributes) := hd.nodeAt .attributes
  simp only [h.markupAttributes hattributes]
  rfl

theorem selfClosingElement (hn : s.node? (some i) = some n) :
    ((s.over a').along w).selfClosingElement i n = (s.along w).selfClosingElement i n := by
  rw [Converter.selfClosingElement, h.openingTag hn]
  rfl

theorem markupAttribute (hn : s.node? (some i) = some n) :
    ((s.over a').along w).markupAttribute i n = (s.along w).markupAttribute i n := by
  refine h.parts_bind hn fun d hd => ?_
  have hname : s.arena.Sees a' (d.get .name) := hd.nodeAt .name
  simp only [Source.toSource_along, node?_over hname]
  rfl

theorem markupExpression (hn : s.node? (some i) = some n) :
    ((s.over a').along w).markupExpression i n = (s.along w).markupExpression i n :=
  h.parts_bind hn fun _ _ => rfl

/-! ### The rule of a kind -/

theorem passThrough (p : Pool) (hn : s.node? (some i) = some n) :
    ((s.over a').along w).passThrough p i n = (s.along w).passThrough p i n :=
  h.parts_bind hn fun _ _ => rfl

/-- The file ends where the node for its end does. -/
theorem program (hn : s.node? (some i) = some n) :
    ((s.over a').along w).program i n = (s.along w).program i n := by
  refine h.parts_bind hn fun d hd => ?_
  have hend : s.arena.Sees a' (d.get .endOfFileToken) := hd.nodeAt .endOfFileToken
  simp only [Source.toSource_along, node?_over hend]
  rfl

theorem ownRule? (hn : s.node? (some i) = some n) (hacyclic : s.arena.AcyclicFrom (some i)) :
    ((s.over a').along w).ownRule? i n = (s.along w).ownRule? i n := by
  simp only [Converter.ownRule?, Source.toSource_along, h.program hn, h.privateName hn,
    h.stringLiteral hn, h.plainTemplate hn, h.templatePiece hn, h.nullLiteral hn,
    h.passThrough _ hn, h.template hn, h.taggedTemplate hn, h.binary hn hacyclic, h.unary hn,
    h.metaProperty hn, h.arrayLiteral hn, h.objectLiteral hn, h.shorthandProperty hn, h.spread hn,
    h.bindingElement hn, h.variableStatement hn, h.declarator hn, h.functionDeclaration hn,
    h.parameter hn, h.classLike hn, h.classProperty hn, h.method hn, h.constructorMethod hn,
    h.switch hn, h.catchClause hn, h.importDeclaration hn, h.importSpecifier hn,
    h.exportDeclaration hn, h.exportSpecifier hn, h.exportAssignment hn, h.typeAlias hn,
    h.typePredicate hn, h.interface hn, h.enumeration hn, h.moduleDeclaration hn,
    h.selfClosingElement hn, h.openingTag hn, h.markupAttribute hn, h.markupExpression hn]
  rfl

theorem visit (hn : s.node? (some i) = some n) (hacyclic : s.arena.AcyclicFrom (some i)) :
    ((s.over a').along w).visit i n = (s.along w).visit i n := by
  simp only [Converter.visit, h.follow hn, h.ownRule? hn hacyclic, h.synthesize hn]
  rfl

/-- **A rule does the same over an arena that looks alike.** -/
theorem visitAt (hr : s.arena.Sees a' r) (hacyclic : s.arena.AcyclicFrom r) :
    ((s.over a').along w).visitAt r = (s.along w).visitAt r := by
  cases r with
  | none => rfl
  | some i =>
    rw [Converter.visitAt, Converter.visitAt, Source.toSource_along, Source.toSource_along,
      node?_over hr]
    cases hn : s.node? (some i) with
    | none => rfl
    | some n => exact congrArg (· >>= _) (h.visit hn hacyclic)

end Arena.LooksAlike

end ScriptTree
