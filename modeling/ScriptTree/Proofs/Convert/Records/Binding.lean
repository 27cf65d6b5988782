import ScriptTree.Proofs.Convert.Records

/-!
# What variables and patterns record

The type of a variable belongs to its name, so it is lost where nothing comes of the name. In
a pattern the position of an element decides which of its parts are kept.
-/

namespace ScriptTree

open Conversion

namespace Arena

/-- The type of a variable, or what else is kept together with a name. -/
theorem inSlot_named {a : Arena} {i l : NodeId} {p : Pool} {d : Data p} {f : Field} {r : NodeRef}
    (hr : d.refs f = r.toList) :
    a.InSlot i d f .named l ↔ ¬ a.IsHole (d.nodeAt .name) ∧ a.Below .rule r l :=
  hasInSlot_node_if hr fun _ _ => Iff.rfl

end Arena

namespace Converter.Faithful

variable {c : Converter} {i : NodeId} {n : Node}

/-! ### Exports -/

/-- What stands in an export was converted before. -/
theorem exported (modifiers : Option NodeList) {declaration : EsNode} {k : Nat}
    (h : IsIssued declaration k) :
    Records c.arena k (fun _ => False) (c.exported modifiers declaration) IsIssued := by
  have hsame : Records c.arena k (fun _ => False) (pure declaration) IsIssued :=
    Records.pure fun k' hk' => Nat.lt_of_lt_of_le h hk'
  rw [Converter.exported]
  dsimp only
  split
  · exact hsame
  · split
    · refine Records.quiet_bind (records_tokens c.toSource) fun _ k _ _ => ?_
      split
      · exact records_buildAt ..
      · exact records_buildAt ..
    · exact hsame

/-! ### Variables -/

theorem variableStatement (hc : c.Faithful) (hn : c.arena.nodes[i]? = some n)
    (hk : n.kind = .variableStatement) (k : Nat) :
    Records c.arena k (c.arena.Rest (.rule, i)) (c.variableStatement i n) IsIssued := by
  refine records_parts fun d hd => ?_
  have hkept : Way.rule.kept .variableStatement .variableStatement =
      [(.declarationList, .parts)] := rfl
  refine Records.of (c.arena.Below .parts (d.get .declarationList)) ?_ fun l _ =>
    (Arena.hasNext_of_kept hn hd hk hkept).trans (Arena.hasInSlot_node rfl fun _ _ => Iff.rfl)
  refine takeOver (fun j list => do
    let parts ← c.parts .variableList j list
    let declarations ← c.list (parts.get .declarations)
    let modifiers := d.get .modifiers
    let declaration ← c.build .variableDeclaration n
      [("declarations", declarations), ("kind", declarationWord list.flags),
        ("declare", EsValue.mark (c.arena.hasModifier modifiers .declareKeyword))]
    c.exported modifiers declaration) Records.fail fun j list hlist => ?_
  refine records_parts fun parts hparts => ?_
  have hkept : Way.parts.kept list.kind .variableList = [(.declarations, .rule)] := rfl
  refine Records.of (c.arena.BelowAny .rule (parts.get .declarations).nodes) ?_ fun l _ =>
    (Arena.hasNext_of_kept hlist hparts rfl hkept).trans (Arena.hasInSlot_children rfl)
  refine Records.bind_quiet (hc.list _ k) fun _ k _ _ => ?_
  exact Records.quiet_bind (records_build ..) fun _ _ _ hes => exported _ hes

theorem declarator (hc : c.Faithful) (hn : c.arena.nodes[i]? = some n)
    (hk : n.kind = .variableDeclaration) (k : Nat) :
    Records c.arena k (c.arena.Rest (.rule, i)) (c.declarator i n) IsIssued := by
  refine records_parts fun d hd => ?_
  have hkept : Way.rule.kept .variableDeclaration .variableDeclaration =
      [(.name, .rule), (.declaredType, .named), (.initializer, .rule)] := rfl
  refine Records.of (fun l => c.arena.Below .rule (d.get .name) l ∨
    (¬ c.arena.IsHole (d.get .name) ∧ c.arena.Below .rule (d.get .declaredType) l) ∨
    c.arena.Below .rule (d.get .initializer) l) ?_ fun l _ =>
      (Arena.hasNext_of_kept hn hd hk hkept).trans (or_congr (Arena.hasInSlot_child rfl)
        (or_congr (Arena.inSlot_named rfl) (Arena.hasInSlot_child rfl)))
  have hinit (id : EsValue) (k : Nat) :
      Records c.arena k (c.arena.Below .rule (d.get .initializer)) (do
        let init ← c.child (d.get .initializer)
        c.build .variableDeclarator n
          [("id", id), ("init", init), ("definite", EsValue.mark (d.get .exclamationToken))])
        IsIssued :=
    Records.bind_quiet (hc.child _ k) fun _ _ _ _ => records_build ..
  refine Records.bind (hc.convert _ k) fun name k _ hname => ?_
  -- The type belongs to the name, and is not looked at without one.
  cases name with
  | none =>
    have hhole : c.arena.IsHole (d.get .name) := hname.isHole
    exact Records.of _ (hinit _ k) fun l _ => or_iff_right fun h => h.1 hhole
  | some name =>
    have hnot : ¬ c.arena.IsHole (d.get .name) := hname.not_isHole
    refine Records.of (fun l => c.arena.Below .rule (d.get .declaredType) l ∨
      c.arena.Below .rule (d.get .initializer) l) ?_ fun l _ =>
        or_congr_left (and_iff_right hnot)
    refine Records.bind (hc.ascription? _ k) fun ascription k _ _ => ?_
    cases ascription with
    | none => exact hinit _ k
    | some ascription => exact hinit _ k

/-! ### Elements of patterns -/

/-- A name that is key and value is converted for both. -/
theorem objectElement (hc : c.Faithful) (n : Node) (d : Data .bindingElement) (k : Nat) :
    Records c.arena k (fun l => c.arena.Below .rule (d.get .propertyName) l ∨
        c.arena.Below .rule (d.get .name) l ∨ ((c.arena.node? (d.get .name)).isSome ∧
          c.arena.Below .rule (d.get .initializer) l))
      (c.objectElement n d) IsIssued := by
  have hkey (l : NodeId) {P : Prop} :
      c.arena.Below .rule (if (d.get .propertyName).isNone then d.get .name
        else d.get .propertyName) l ∨ c.arena.Below .rule (d.get .name) l ∨ P ↔
      c.arena.Below .rule (d.get .propertyName) l ∨ c.arena.Below .rule (d.get .name) l ∨ P := by
    cases d.get .propertyName with
    | none => simp
    | some j => rfl
  refine Records.of _ ?_ fun l _ => (hkey l).symm
  refine Records.bind (hc.child _ k) fun key k _ _ => ?_
  refine Records.bind (hc.child _ k) fun left k _ _ => ?_
  dsimp only
  split
  · next name init hname _ =>
    refine Records.of (c.arena.Below .rule (d.get .initializer)) ?_ fun l _ =>
      and_iff_right (by rw [Source.node?] at hname; rw [hname]; rfl)
    refine Records.bind_quiet (hc.child _ k) fun right k _ _ => ?_
    exact Records.quiet_bind ((records_buildAt ..).map_any _) fun _ _ _ _ => records_build ..
  · next hnot =>
    refine Records.of (fun _ => False) ?_ fun l hl => iff_false_intro fun ⟨hname, hbelow⟩ => ?_
    · exact Records.quiet_bind (Records.pure_any _)
        fun _ _ _ _ => records_build ..
    · obtain ⟨name, hname⟩ := Option.isSome_iff_exists.mp hname
      cases hinit : c.arena.node? (d.get .initializer) with
      | none => exact Arena.not_below_of_node?_eq_none hl hinit hbelow
      | some init => exact hnot name init hname hinit

/-- Of an element without a default no more than the name is kept. -/
theorem arrayElement (hc : c.Faithful) {d : Data .bindingElement} (hn : c.arena.nodes[i]? = some n)
    (hk : n.kind = .bindingElement) (hd : c.arena.data? .bindingElement n = some d)
    (hrest : d.get .dotDotDotToken = false) (hout : ¬ c.arena.inObjectPattern i) (k : Nat) :
    Records c.arena k (fun l => c.arena.Below .rule (d.get .name) l ∨
        c.arena.Below .rule (d.get .initializer) l)
      (c.arrayElement n d) (Outcome c.arena (some i)) := by
  rw [Converter.arrayElement]
  split
  · next hinit =>
    refine Records.of _ ((hc.convert _ k).mono fun x _ _ hx => ?_) fun l hl =>
      or_iff_left (Arena.not_below_of_node?_eq_none hl hinit)
    have hiff : c.arena.IsHole (some i) ↔ c.arena.IsHole (d.get .name) := by
      rw [Arena.isHole_some_iff hn, hk]
      have hdefault : c.arena.node? (d.get .initializer) = none := hinit
      simp [SyntaxKind.isElided, hd, hrest, hout, hdefault]
    exact ⟨hx.1.trans hiff.symm, hx.2⟩
  · next init hinit =>
    have hnot : ¬ c.arena.IsHole (some i) := by
      rw [Arena.isHole_some_iff hn, hk]
      have hdefault : c.arena.node? (d.get .initializer) = some init := hinit
      simp [SyntaxKind.isElided, hd, hdefault]
    refine Records.bind (hc.child _ k) fun _ k _ _ => ?_
    refine Records.bind_quiet (hc.child _ k) fun _ k _ _ => ?_
    exact Records.map ((records_build ..).mono fun _ _ _ => .of_isIssued hnot)

/-- Only an element of an array pattern without dots may be a hole. -/
theorem not_isRest_of_isHole {a : Arena} {i : NodeId} {n : Node} {d : Data .bindingElement}
    (hn : a.nodes[i]? = some n) (hk : n.kind = .bindingElement)
    (hd : a.data? .bindingElement n = some d) (hhole : a.IsHole (some i)) :
    d.get .dotDotDotToken = false ∧ ¬ a.inObjectPattern i := by
  rw [Arena.isHole_some_iff hn, hk] at hhole
  obtain h | ⟨h, -⟩ | ⟨h, -⟩ | ⟨h, -⟩ | ⟨-, d', hd', hrest, hout, -⟩ := hhole
  · cases h
  · cases h
  · cases h
  · cases h
  · obtain rfl : d = d' := Option.some.inj (hd.symm.trans hd')
    exact ⟨hrest, hout⟩

theorem bindingElement (hc : c.Faithful) (hn : c.arena.nodes[i]? = some n)
    (hk : n.kind = .bindingElement) (k : Nat) :
    Records c.arena k (c.arena.Rest (.rule, i)) (c.bindingElement i n)
      (Outcome c.arena (some i)) := by
  refine records_parts fun d hd => ?_
  have hkept : Way.rule.kept .bindingElement .bindingElement =
      [(.propertyName, .outerName), (.name, .innerName), (.initializer, .elementDefault)] := rfl
  -- Which parts are converted depends on the pattern around the element and on its three dots.
  refine Records.of (fun l => (c.arena.inObjectPattern i ∧
      c.arena.Below .rule (d.get .propertyName) l) ∨
    (¬ (d.get .dotDotDotToken = true ∧ c.arena.inObjectPattern i ∧
      (d.get .propertyName).isSome = true) ∧ c.arena.Below .rule (d.get .name) l) ∨
    (d.get .dotDotDotToken = false ∧
      (c.arena.inObjectPattern i → (c.arena.node? (d.get .name)).isSome = true)) ∧
        c.arena.Below .rule (d.get .initializer) l) ?_ fun l _ =>
      (Arena.hasNext_of_kept hn hd hk hkept).trans
        (or_congr (Arena.hasInSlot_node_if rfl fun _ _ => Iff.rfl)
          (or_congr (Arena.hasInSlot_node_if rfl fun _ _ => Iff.rfl)
            (Arena.hasInSlot_node_if rfl fun _ _ => Iff.rfl)))
  have hin : c.hasKind (c.arena.parent (some i)) .objectBindingPattern = true ↔
      c.arena.inObjectPattern i := beq_iff_eq
  have hhole := not_isRest_of_isHole hn hk hd
  dsimp only
  split
  · next hdots =>
    refine Records.of (c.arena.Below .rule (if c.hasKind (c.arena.parent (some i))
      .objectBindingPattern = true ∧ (d.get .propertyName).isSome = true then d.get .propertyName
        else d.get .name)) ?_ fun l _ => ?_
    · refine Records.bind_quiet (hc.child _ k) fun _ k _ _ => ?_
      exact Records.map ((records_build ..).mono fun _ _ _ => .of_isIssued fun h =>
        absurd hdots (by rw [(hhole h).1]; nofun))
    · split
      · next h =>
        rw [hin] at h
        simp [hdots, h]
      · next h =>
        rw [hin] at h
        have hnone : ¬ (c.arena.inObjectPattern i ∧
            c.arena.Below .rule (d.get .propertyName) l) := by
          rintro ⟨hobject, j, hj, -⟩
          exact h ⟨hobject, by rw [hj]; rfl⟩
        simp [hdots, h, hnone]
  · next hdots =>
    split
    · next hobject =>
      refine Records.of _ (Records.map ((hc.objectElement n d k).mono fun _ _ _ =>
        .of_isIssued fun h => (hhole h).2 (hin.mp hobject))) fun l _ => ?_
      simp [hdots, hin.mp hobject]
    · next hobject =>
      have hout : ¬ c.arena.inObjectPattern i := fun h => hobject (hin.mpr h)
      refine Records.of _ (hc.arrayElement hn hk hd (Bool.eq_false_iff.mpr hdots) hout k)
        fun l _ => ?_
      simp [hdots, hout]

end Converter.Faithful

end ScriptTree
