import ScriptTree.Convert.Class
import ScriptTree.Proofs.Convert.Records.Function

/-!
# What classes record

A class keeps the last clause with `extends` and the last one with `implements`, and an interface
keeps its first clause. That a class does not lose a part of the clause with `extends` is
due to the error for a second class.
-/

namespace ScriptTree

open Conversion

namespace Arena

variable {a : Arena}

/-- The parts of the last of some clauses with a word. -/
def clauseOf? (a : Arena) (rs : List NodeRef) (word : SyntaxKind) : Option (Data .heritageClause) :=
  ((rs.filterMap id).findRev? fun j =>
    (a.dataAt? .heritageClause (some j)).any fun d => d.get .token == word).bind fun j =>
      a.dataAt? .heritageClause (some j)

/-- A later clause with the word counts. -/
theorem clauseOf?_append {rs : List NodeRef} {r : NodeRef} {word : SyntaxKind}
    {d : Data .heritageClause} (hd : a.dataAt? .heritageClause r = some d)
    (hword : d.get .token = word) : a.clauseOf? (rs ++ [r]) word = some d := by
  cases r with
  | none => cases hd
  | some j => simp [clauseOf?, hd, hword]

/-- A clause with another word does not. -/
theorem clauseOf?_append_of_not {rs : List NodeRef} {r : NodeRef} {word : SyntaxKind}
    (h : ∀ d, a.dataAt? .heritageClause r = some d → d.get .token ≠ word) :
    a.clauseOf? (rs ++ [r]) word = a.clauseOf? rs word := by
  cases r with
  | none => simp [clauseOf?]
  | some j =>
    have hany : ((a.dataAt? .heritageClause (some j)).any fun d => d.get .token == word) = false := by
      cases hd : a.dataAt? .heritageClause (some j) with
      | none => rfl
      | some d => simpa using h d hd
    simp [clauseOf?, hany]

/-- What is found in a clause whose parts are taken over. -/
theorem finds_heritageClause {j l : NodeId} {d : Data .heritageClause}
    (hd : a.dataAt? .heritageClause (some j) = some d) :
    a.Finds (.parts, j) l ↔ a.BelowAny .parts (d.get .types).nodes l := by
  obtain ⟨n, hn, hd⟩ := Option.bind_eq_some_iff.mp hd
  have hkept : Way.parts.kept n.kind .heritageClause = [(.types, .parts)] := rfl
  rw [← below_some, below_parts_some]
  exact (hasNext_of_kept hn hd rfl hkept).trans (hasInSlot_list rfl fun _ _ => Iff.rfl)

/-- What is found in clauses of which one with either word is kept. -/
theorem inSlot_clause {i l : NodeId} {p : Pool} {d : Data p} {f : Field} {o : Option NodeList}
    (hr : d.refs f = (NodeList.nodesOf o).filterMap id) (hlist : d.listAt f = o) :
    a.InSlot i d f .clause l ↔
      (∃ e ∈ a.clauseOf? (NodeList.nodesOf o) .extendsKeyword,
        a.BelowAny .parts (e.get .types).nodes l) ∨
      ∃ e ∈ a.clauseOf? (NodeList.nodesOf o) .implementsKeyword,
        a.BelowAny .parts (e.get .types).nodes l := by
  -- Of the clauses with one word the last one counts.
  have hlast (word : SyntaxKind) :
      (∃ j ∈ d.refs f, a.lastClause? (d.listAt f) word = some j ∧ a.Finds (.parts, j) l) ↔
        ∃ e ∈ a.clauseOf? (NodeList.nodesOf o) word,
          a.BelowAny .parts (e.get .types).nodes l := by
    rw [hr, hlist]
    constructor
    · rintro ⟨j, -, hj, hfinds⟩
      have hfind := hj
      rw [lastClause?, List.findRev?_eq_find?_reverse] at hfind
      have hany := List.find?_some hfind
      obtain ⟨e, he, -⟩ := (Option.any_eq_true ..).mp hany
      exact ⟨e, Option.bind_eq_some_iff.mpr ⟨j, hj, he⟩, (finds_heritageClause he).mp hfinds⟩
    · rintro ⟨e, he, hbelow⟩
      obtain ⟨j, hj, he⟩ := Option.bind_eq_some_iff.mp he
      refine ⟨j, ?_, hj, (finds_heritageClause he).mpr hbelow⟩
      rw [List.findRev?_eq_find?_reverse] at hj
      exact List.mem_reverse.mp (List.mem_of_find?_eq_some hj)
  rw [← hlast, ← hlast]
  constructor
  · rintro ⟨j, hj, w, ⟨rfl, hword | hword⟩, hfinds⟩
    · exact .inl ⟨j, hj, hword, hfinds⟩
    · exact .inr ⟨j, hj, hword, hfinds⟩
  · rintro (⟨j, hj, hword, hfinds⟩ | ⟨j, hj, hword, hfinds⟩)
    · exact ⟨j, hj, .parts, ⟨rfl, .inl hword⟩, hfinds⟩
    · exact ⟨j, hj, .parts, ⟨rfl, .inr hword⟩, hfinds⟩

end Arena

namespace Converter

/-- These are the clauses that some references lead to. -/
structure Clauses.Are (found : Clauses) (a : Arena) (rs : List NodeRef) : Prop where
  extended : found.extended = a.clauseOf? rs .extendsKeyword
  implemented : found.implemented = a.clauseOf? rs .implementsKeyword

namespace Clauses.Are

variable {found : Clauses} {a : Arena} {rs : List NodeRef} {r : NodeRef}
  {d : Data .heritageClause}

/-- A reference that leads to no clause with either word changes nothing. -/
theorem append (h : found.Are a rs)
    (hr : ∀ d, a.dataAt? .heritageClause r = some d →
      d.get .token ≠ .extendsKeyword ∧ d.get .token ≠ .implementsKeyword) :
    found.Are a (rs ++ [r]) where
  extended := h.extended.trans (Arena.clauseOf?_append_of_not fun d hd => (hr d hd).1).symm
  implemented := h.implemented.trans (Arena.clauseOf?_append_of_not fun d hd => (hr d hd).2).symm

theorem append_extended (h : found.Are a rs) (hd : a.dataAt? .heritageClause r = some d)
    (hword : d.get .token = .extendsKeyword) :
    { found with extended := some d }.Are a (rs ++ [r]) where
  extended := (Arena.clauseOf?_append hd hword).symm
  implemented := h.implemented.trans <| .symm <| Arena.clauseOf?_append_of_not fun d' hd' => by
    obtain rfl : d = d' := Option.some.inj (hd.symm.trans hd')
    rw [hword]
    nofun

theorem append_implemented (h : found.Are a rs) (hd : a.dataAt? .heritageClause r = some d)
    (hword : d.get .token = .implementsKeyword) :
    { found with implemented := some d }.Are a (rs ++ [r]) where
  extended := h.extended.trans <| .symm <| Arena.clauseOf?_append_of_not fun d' hd' => by
    obtain rfl : d = d' := Option.some.inj (hd.symm.trans hd')
    rw [hword]
    nofun
  implemented := (Arena.clauseOf?_append hd hword).symm

end Clauses.Are

namespace Faithful

variable {c : Converter} {i : NodeId} {n : Node}

/-! ### Bodies and heritage -/

theorem bodyStart (n : Node) (d : Data .classLike) (k : Nat) :
    Records c.arena k (fun _ => False) (c.bodyStart n d) AnyResult :=
  Records.quiet_bind (records_tokens c.toSource) fun _ _ _ _ => Records.pure_any _

/-- The name and the type arguments in a heritage clause. -/
theorem rest_exprWithTypeArgs {a : Arena} {d : Data .exprWithTypeArgs} {l : NodeId}
    (hn : a.nodes[i]? = some n) (hd : a.data? .exprWithTypeArgs n = some d) :
    a.Rest (.parts, i) l ↔ a.Below .rule (d.get .expression) l ∨
      ∃ r ∈ NodeList.nodesOf (d.get .typeArguments), a.BelowArgument r l := by
  have hkept : Way.parts.kept n.kind .exprWithTypeArgs =
      [(.expression, .rule), (.typeArguments, .argument)] := rfl
  exact (Arena.hasNext_of_kept hn hd rfl hkept).trans
    (or_congr (Arena.hasInSlot_child rfl) (Arena.hasInSlot_argument rfl))

theorem heritage (hc : c.Faithful) (type : AstType) (key : String) (r : NodeRef) (k : Nat) :
    Records c.arena k (c.arena.Below .parts r) (c.heritage type key r) AnyResult := by
  refine takeOver (fun i n => do
    let d ← c.parts .exprWithTypeArgs i n
    let name ← c.child (d.get .expression)
    let arguments ← c.typeArguments? (d.get .typeArguments)
    EsNode.toValue <$> c.build type n [(key, name), ("typeParameters", arguments)])
    (Records.pure_any _) fun i n hn => ?_
  refine records_parts fun d hd => ?_
  refine Records.of _ (Records.bind (hc.child _ k) fun _ k _ _ => ?_)
    fun l _ => rest_exprWithTypeArgs hn hd
  refine Records.bind_quiet (hc.typeArguments? _ k) fun _ k _ _ => ?_
  exact (records_build ..).map_any _

/-! ### Clauses -/

theorem addClause {found : Clauses} {rs : List NodeRef} (h : found.Are c.arena rs) (r : NodeRef)
    (k : Nat) :
    Records c.arena k (fun _ => False) (c.addClause found r)
      fun found _ => found.Are c.arena (rs ++ [r]) := by
  have habsent (hr : c.node? r = none) : found.Are c.arena (rs ++ [r]) := by
    refine h.append fun d hd => ?_
    rw [Arena.dataAt?, show c.arena.node? r = none from hr] at hd
    cases hd
  cases r with
  | none => exact Records.pure fun _ _ => habsent rfl
  | some i =>
    rw [Converter.addClause]
    split
    · next n hn =>
      refine records_parts fun d hd => ?_
      have hr : c.arena.dataAt? .heritageClause (some i) = some d := by
        rw [Arena.dataAt?, show c.arena.node? (some i) = some n from hn]
        exact hd
      split
      · next hword => exact Records.pure fun _ _ => h.append_extended hr hword
      · next hextends =>
        split
        · next hword => exact Records.pure fun _ _ => h.append_implemented hr hword
        · next himplements =>
          refine Records.pure fun _ _ => h.append fun d' hd' => ?_
          obtain rfl : d = d' := Option.some.inj (hr.symm.trans hd')
          exact ⟨hextends, himplements⟩
    · next hn =>
      exact Records.pure fun _ _ => habsent (Option.eq_none_iff_forall_ne_some.mpr hn)

theorem addClauses (rs : List NodeRef) {found : Clauses} {before : List NodeRef}
    (h : found.Are c.arena before) (k : Nat) :
    Records c.arena k (fun _ => False) (rs.foldlM c.addClause found)
      fun found _ => found.Are c.arena (before ++ rs) := by
  induction rs generalizing found before k with
  | nil =>
    rw [List.foldlM_nil, List.append_nil]
    exact Records.pure fun _ _ => h
  | cons r rs ih =>
    rw [List.foldlM_cons, List.append_cons]
    exact Records.quiet_bind (addClause h r k) fun found k _ h => ih h k

theorem clauses (n : Node) (l : Option NodeList) (k : Nat) :
    Records c.arena k (fun _ => False) (c.clauses n l) fun found _ =>
      found.Are c.arena (NodeList.nodesOf l) ∧
        ∀ d, found.extended = some d → (d.get .types).nodes[1]? = none := by
  have hempty : Clauses.Are {} c.arena [] := ⟨rfl, rfl⟩
  refine Records.quiet_bind (addClauses (NodeList.nodesOf l) hempty k) fun found k _ h => ?_
  split
  · next hone =>
    refine Records.pure fun _ _ => ⟨h, fun d hd => ?_⟩
    rw [hd] at hone
    exact hone
  · exact Records.fail

theorem extended (hc : c.Faithful) {found : Clauses}
    (hone : ∀ d, found.extended = some d → (d.get .types).nodes[1]? = none) (k : Nat) :
    Records c.arena k
      (fun l => ∃ d ∈ found.extended, c.arena.BelowAny .parts (d.get .types).nodes l)
      (c.extended found) AnyResult := by
  have hfirst (l : NodeId) :
      (∃ d ∈ found.extended, c.arena.BelowAny .parts (d.get .types).nodes l) ↔
        c.arena.Below .parts (found.extended.bind fun d => (d.get .types).first) l := by
    cases hd : found.extended with
    | none => simp
    | some d =>
      have hnone := hone d hd
      rw [Option.bind_some, NodeList.first]
      simp only [Option.mem_def, Option.some.injEq, exists_eq_left']
      cases hnodes : (d.get .types).nodes with
      | nil => simp
      | cons r rs =>
        obtain rfl : rs = [] := by simpa [hnodes] using hnone
        simp
  refine Records.of _ (takeOver (fun i n => do
    let d ← c.parts .exprWithTypeArgs i n
    let name ← c.child (d.get .expression)
    pure (name, ← c.typeArguments? (d.get .typeArguments)))
    (Records.pure_any _) fun i n hn => ?_) fun l _ => hfirst l
  refine records_parts fun d hd => ?_
  refine Records.of _ (Records.bind (hc.child _ k) fun _ k _ _ => ?_)
    fun l _ => rest_exprWithTypeArgs hn hd
  exact Records.bind_quiet (hc.typeArguments? _ k) fun _ _ _ _ => Records.pure_any _

/-! ### Classes -/

theorem classLike (hc : c.Faithful) (hn : c.arena.nodes[i]? = some n)
    (hk : n.kind = .classDeclaration ∨ n.kind = .classExpression) (k : Nat) :
    Records c.arena k (c.arena.Rest (.rule, i)) (c.classLike i n) IsIssued := by
  refine records_parts fun d hd => ?_
  have hkept : Way.rule.kept n.kind .classLike = [(.decorators, .rule), (.name, .rule),
      (.typeParameters, .rule), (.heritageClauses, .clause), (.members, .rule)] := by
    rcases hk with hk | hk <;> rw [hk] <;> rfl
  have hrest (l : NodeId) : c.arena.Rest (.rule, i) l ↔
      c.arena.BelowAny .rule (NodeList.nodesOf (d.get .decorators)) l ∨
      c.arena.Below .rule (d.get .name) l ∨
      c.arena.BelowAny .rule (NodeList.nodesOf (d.get .typeParameters)) l ∨
      ((∃ e ∈ c.arena.clauseOf? (NodeList.nodesOf (d.get .heritageClauses)) .extendsKeyword,
        c.arena.BelowAny .parts (e.get .types).nodes l) ∨
      ∃ e ∈ c.arena.clauseOf? (NodeList.nodesOf (d.get .heritageClauses)) .implementsKeyword,
        c.arena.BelowAny .parts (e.get .types).nodes l) ∨
      c.arena.BelowAny .rule (d.get .members).nodes l :=
    (Arena.hasNext_of_kept hn hd rfl hkept).trans
      (or_congr (Arena.hasInSlot_children rfl) (or_congr (Arena.hasInSlot_child rfl)
        (or_congr (Arena.hasInSlot_children rfl) (or_congr (Arena.inSlot_clause rfl rfl)
          (Arena.hasInSlot_children rfl)))))
  refine Records.quiet_bind (clauses n _ k) fun found k _ hfound => ?_
  obtain ⟨⟨hextended, himplemented⟩, hone⟩ := hfound
  -- The parts again, in the order in which they are converted.
  refine Records.of (fun l => c.arena.Below .rule (d.get .name) l ∨
    c.arena.BelowAny .rule (d.get .members).nodes l ∨
    (∃ e ∈ found.extended, c.arena.BelowAny .parts (e.get .types).nodes l) ∨
    (∃ e ∈ found.implemented, c.arena.BelowAny .parts (e.get .types).nodes l) ∨
    c.arena.BelowAny .rule (NodeList.nodesOf (d.get .decorators)) l ∨
    c.arena.BelowAny .rule (NodeList.nodesOf (d.get .typeParameters)) l) ?_ fun l _ => ?_
  · refine Records.bind (hc.child _ k) fun _ k _ _ => ?_
    refine Records.quiet_bind (bodyStart n d k) fun _ k _ _ => ?_
    refine Records.bind (hc.statements _ k) fun _ k _ _ => ?_
    refine Records.quiet_bind (records_buildAt ..) fun _ k _ _ => ?_
    refine Records.bind (hc.extended hone k) fun _ k _ _ => ?_
    refine Records.bind (Records.optionMapM _ fun e _ => Records.mapM _ fun r _ k =>
      hc.heritage _ _ r k) fun _ k _ _ => ?_
    refine Records.bind (hc.decorators? _ k) fun _ k _ _ => ?_
    refine Records.bind_quiet (hc.typeParameters? _ k) fun _ k _ _ => ?_
    refine Records.quiet_bind (records_build ..) fun result k _ hes => ?_
    split
    · exact exported _ hes
    · exact Records.pure fun k' hk' => Nat.lt_of_lt_of_le hes hk'
  · rw [hrest, hextended, himplemented]
    exact iff_of_eq (by ac_rfl)

theorem extendedInterfaces (hc : c.Faithful) (clause : NodeRef) (k : Nat) :
    Records c.arena k (c.arena.Below .parts clause) (c.extendedInterfaces clause) AnyResult := by
  refine takeOver (fun i n => do
    let d ← c.parts .heritageClause i n
    (d.get .types).nodes.mapM (c.heritage .tsInterfaceHeritage "id"))
    (Records.pure_any _) fun i n hn => ?_
  refine records_parts fun d hd => ?_
  have hkept : Way.parts.kept n.kind .heritageClause = [(.types, .parts)] := rfl
  exact Records.of _ (Records.mapM _ fun r _ k => hc.heritage _ _ r k) fun l _ =>
    (Arena.hasNext_of_kept hn hd rfl hkept).trans (Arena.hasInSlot_list rfl fun _ _ => Iff.rfl)

theorem interface (hc : c.Faithful) (hn : c.arena.nodes[i]? = some n)
    (hk : n.kind = .interfaceDeclaration) (k : Nat) :
    Records c.arena k (c.arena.Rest (.rule, i)) (c.interface i n) IsIssued := by
  refine records_parts fun d hd => ?_
  have hkept : Way.rule.kept .interfaceDeclaration .classLike = [(.decorators, .rule),
      (.name, .rule), (.typeParameters, .rule), (.heritageClauses, .firstParts),
      (.members, .rule)] := rfl
  have hrest (l : NodeId) : c.arena.Rest (.rule, i) l ↔
      c.arena.BelowAny .rule (NodeList.nodesOf (d.get .decorators)) l ∨
      c.arena.Below .rule (d.get .name) l ∨
      c.arena.BelowAny .rule (NodeList.nodesOf (d.get .typeParameters)) l ∨
      c.arena.Below .parts ((d.get .heritageClauses).bind NodeList.first) l ∨
      c.arena.BelowAny .rule (d.get .members).nodes l :=
    (Arena.hasNext_of_kept hn hd hk hkept).trans
      (or_congr (Arena.hasInSlot_children rfl) (or_congr (Arena.hasInSlot_child rfl)
        (or_congr (Arena.hasInSlot_children rfl)
          (or_congr (Arena.hasInSlot_first rfl fun _ _ => Iff.rfl) (Arena.hasInSlot_children rfl)))))
  refine Records.of (fun l => c.arena.BelowAny .rule (d.get .members).nodes l ∨
    c.arena.Below .rule (d.get .name) l ∨
    c.arena.Below .parts ((d.get .heritageClauses).bind NodeList.first) l ∨
    c.arena.BelowAny .rule (NodeList.nodesOf (d.get .typeParameters)) l ∨
    c.arena.BelowAny .rule (NodeList.nodesOf (d.get .decorators)) l) ?_ fun l _ => ?_
  · refine Records.quiet_bind (bodyStart n d k) fun _ k _ _ => ?_
    refine Records.bind (hc.list _ k) fun _ k _ _ => ?_
    refine Records.quiet_bind (records_buildAt ..) fun _ k _ _ => ?_
    refine Records.bind (hc.child _ k) fun _ k _ _ => ?_
    refine Records.bind (hc.extendedInterfaces _ k) fun _ k _ _ => ?_
    refine Records.bind (hc.typeParameters? _ k) fun _ k _ _ => ?_
    refine Records.bind_quiet (hc.decorators? _ k) fun _ k _ _ => ?_
    exact Records.quiet_bind (records_build ..) fun _ _ _ hes => exported _ hes
  · rw [hrest]
    exact iff_of_eq (by ac_rfl)

/-! ### Members -/

theorem classProperty (hc : c.Faithful) (hn : c.arena.nodes[i]? = some n)
    (hk : n.kind = .propertyDeclaration) (k : Nat) :
    Records c.arena k (c.arena.Rest (.rule, i)) (c.classProperty i n) IsIssued := by
  refine records_parts fun d hd => ?_
  have hkept : Way.rule.kept .propertyDeclaration .propertyDecl = [(.decorators, .rule),
      (.name, .rule), (.declaredType, .rule), (.initializer, .rule)] := rfl
  have hrest (l : NodeId) : c.arena.Rest (.rule, i) l ↔
      c.arena.BelowAny .rule (NodeList.nodesOf (d.get .decorators)) l ∨
      c.arena.Below .rule (d.get .name) l ∨ c.arena.Below .rule (d.get .declaredType) l ∨
      c.arena.Below .rule (d.get .initializer) l :=
    (Arena.hasNext_of_kept hn hd hk hkept).trans
      (or_congr (Arena.hasInSlot_children rfl) (or_congr (Arena.hasInSlot_child rfl)
        (or_congr (Arena.hasInSlot_child rfl) (Arena.hasInSlot_child rfl))))
  refine Records.of (fun l => c.arena.Below .rule (d.get .name) l ∨
    c.arena.Below .rule (d.get .initializer) l ∨ c.arena.Below .rule (d.get .declaredType) l ∨
    c.arena.BelowAny .rule (NodeList.nodesOf (d.get .decorators)) l) ?_ fun l _ => ?_
  · refine Records.bind (hc.child _ k) fun _ k _ _ => ?_
    refine Records.bind (hc.child _ k) fun _ k _ _ => ?_
    refine Records.bind (hc.ascription? _ k) fun _ k _ _ => ?_
    exact Records.bind_quiet (hc.decorators? _ k) fun _ _ _ _ => records_build ..
  · rw [hrest]
    exact iff_of_eq (by ac_rfl)

/-- Methods in an object have no decorators. -/
theorem method (hc : c.Faithful) (hn : c.arena.nodes[i]? = some n)
    (hk : n.kind = .methodDeclaration ∨ n.kind = .getAccessor ∨ n.kind = .setAccessor) (k : Nat) :
    Records c.arena k (c.arena.Rest (.rule, i)) (c.method i n) IsIssued := by
  refine records_parts fun d hd => ?_
  have hkept : Way.rule.kept n.kind .function = [(.decorators, .member), (.name, .rule),
      (.typeParameters, .rule), (.parameters, .rule), (.declaredType, .rule), (.body, .rule)] := by
    rcases hk with hk | hk | hk <;> rw [hk] <;> rfl
  have hrest (l : NodeId) : c.arena.Rest (.rule, i) l ↔
      (c.arena.kind? (c.arena.parent (some i)) ≠ some .objectLiteralExpression ∧
        c.arena.BelowAny .rule (NodeList.nodesOf (d.get .decorators)) l) ∨
      c.arena.Below .rule (d.get .name) l ∨
      c.arena.BelowAny .rule (NodeList.nodesOf (d.get .typeParameters)) l ∨
      c.arena.BelowAny .rule (d.get .parameters).nodes l ∨
      c.arena.Below .rule (d.get .declaredType) l ∨ c.arena.Below .rule (d.get .body) l :=
    (Arena.hasNext_of_kept hn hd rfl hkept).trans
      (or_congr (Arena.hasInSlot_list_if rfl fun _ _ => Iff.rfl) (or_congr (Arena.hasInSlot_child rfl)
        (or_congr (Arena.hasInSlot_children rfl) (or_congr (Arena.hasInSlot_children rfl)
          (or_congr (Arena.hasInSlot_child rfl) (Arena.hasInSlot_child rfl))))))
  refine Records.of (fun l => c.arena.Below .rule (d.get .name) l ∨
    (c.arena.BelowAny .rule (d.get .parameters).nodes l ∨ c.arena.Below .rule (d.get .body) l ∨
      c.arena.Below .rule (d.get .declaredType) l ∨
      c.arena.BelowAny .rule (NodeList.nodesOf (d.get .typeParameters)) l) ∨
    (c.arena.kind? (c.arena.parent (some i)) ≠ some .objectLiteralExpression ∧
      c.arena.BelowAny .rule (NodeList.nodesOf (d.get .decorators)) l)) ?_ fun l _ => ?_
  · have hparent : c.hasKind (c.arena.parent (some i)) .objectLiteralExpression = true ↔
        c.arena.kind? (c.arena.parent (some i)) = some .objectLiteralExpression := beq_iff_eq
    refine Records.bind (hc.child _ k) fun _ k _ _ => ?_
    refine Records.bind (hc.methodValue i n d _ k) fun _ k _ _ => ?_
    dsimp only
    split
    · next h =>
      exact Records.of _ (records_build ..) fun l _ => iff_false_intro fun hl => hl.1 (hparent.mp h)
    · next h =>
      refine Records.of (c.arena.BelowAny .rule (NodeList.nodesOf (d.get .decorators))) ?_
        fun l _ => and_iff_right (mt hparent.mpr h)
      exact Records.bind_quiet (hc.decorators? _ k) fun _ _ _ _ => records_build ..
  · rw [hrest]
    exact iff_of_eq (by ac_rfl)

theorem constructorMethod (hc : c.Faithful) (hn : c.arena.nodes[i]? = some n)
    (hk : n.kind = .constructor) (k : Nat) :
    Records c.arena k (c.arena.Rest (.rule, i)) (c.constructorMethod i n) IsIssued := by
  refine records_parts fun d hd => ?_
  have hkept : Way.rule.kept .constructor .function = [(.typeParameters, .rule),
      (.parameters, .rule), (.declaredType, .rule), (.body, .rule)] := rfl
  have hrest (l : NodeId) : c.arena.Rest (.rule, i) l ↔
      c.arena.BelowAny .rule (NodeList.nodesOf (d.get .typeParameters)) l ∨
      c.arena.BelowAny .rule (d.get .parameters).nodes l ∨
      c.arena.Below .rule (d.get .declaredType) l ∨ c.arena.Below .rule (d.get .body) l :=
    (Arena.hasNext_of_kept hn hd hk hkept).trans
      (or_congr (Arena.hasInSlot_children rfl) (or_congr (Arena.hasInSlot_children rfl)
        (or_congr (Arena.hasInSlot_child rfl) (Arena.hasInSlot_child rfl))))
  refine Records.of (fun l => c.arena.BelowAny .rule (d.get .parameters).nodes l ∨
    c.arena.Below .rule (d.get .body) l ∨ c.arena.Below .rule (d.get .declaredType) l ∨
    c.arena.BelowAny .rule (NodeList.nodesOf (d.get .typeParameters)) l) ?_ fun l _ => ?_
  · have hkey (t : SourceToken) (k : Nat) :
        Records c.arena k (fun _ => False) (c.constructorKey t) IsIssued := by
      rw [Converter.constructorKey]
      split <;> exact records_buildAt ..
    refine Records.quiet_bind (records_tokens c.toSource) fun _ k _ _ => ?_
    split
    · refine Records.quiet_bind (hkey _ k) fun _ k _ _ => ?_
      exact Records.bind_quiet (hc.methodValue i n d _ k) fun _ _ _ _ => records_build ..
    · exact Records.fail
  · rw [hrest]
    exact iff_of_eq (by ac_rfl)

end Faithful

end Converter

end ScriptTree
