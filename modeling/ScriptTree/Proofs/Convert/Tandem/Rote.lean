import ScriptTree.Proofs.Convert.ByRote
import ScriptTree.Proofs.Convert.Tandem.Down

/-!
# Recipes and literals in tandem

What a recipe, or the table for kinds outside the vocabulary, makes of the parts of a node it makes
in tandem, provided that it suits the kind (`ScriptTree.Recipe.suits_of_recipe?`,
`ScriptTree.TableEntry.suits_of_tableEntry?`). Literals have no children at all, but they are
where an offset may be moved too far, and where the text between tags gets its type.
-/

namespace ScriptTree

open Holding

variable {M : Type} [AddCommMonoid M]

/-! ### The fields of a recipe -/

/-- What is kept of a node is in one of the fields with its children. -/
theorem Way.mem_childFields_of_mem_kept {w : Way} {kind : SyntaxKind} {p : Pool}
    {e : Field × Slot} (he : e ∈ w.kept kind p) : e.1 ∈ p.childFields kind := by
  obtain ⟨f, hf, rfl⟩ := List.mem_map.mp (List.mem_filter.mp he).1
  exact (List.mem_filter.mp hf).1

/-- The list that a part puts in angle brackets. -/
def Part.brackets? : Part → Option Field
  | .typeArguments f _ | .typeParameters f => some f
  | _ => none

/-- A part looks at a child, if it looks at anything, and puts only lists of types in brackets. -/
structure Part.IsOf (kind : SyntaxKind) (p : Pool) (x : Part) : Prop where
  isChild : ∀ e, x.slot? = some e → e.1 ∈ p.childFields kind
  isBracketed : ∀ f ∈ x.brackets?, f ∈ Field.bracketed

/-- Parts that agree with what is kept look at children. -/
theorem Part.isOf_of_agree {parts : List (String × Part)} {kind : SyntaxKind} {p : Pool}
    (h : Part.agree parts (Way.rule.kept kind p) = true)
    (hbrackets : ∀ x ∈ parts, ∀ f ∈ x.2.brackets?, f ∈ Field.bracketed) :
    ∀ x ∈ parts, x.2.IsOf kind p := by
  intro x hx
  refine ⟨fun e he => Way.mem_childFields_of_mem_kept (((Part.agree_iff.mp h).2 e).mp ?_),
    hbrackets x hx⟩
  exact List.mem_filterMap.mpr ⟨x, hx, he⟩

/-- **A recipe suits a kind**: its parts look at children, its fields have different names, and it is
not for the text between tags, nor for what has the parts of a comma. -/
structure Recipe.Suits (r : Recipe) (kind : SyntaxKind) : Prop where
  pool_ne : r.pool ≠ .binary
  isOf : ∀ x ∈ r.parts ++ r.later, x.2.IsOf kind r.pool
  areNames : EsProps.AreNames ((r.parts ++ r.later).map Prod.fst)
  type_ne : r.type ≠ .jsxText

/-- **The recipe of a kind suits the kind.** -/
theorem Recipe.suits_of_recipe? {kind : SyntaxKind} {r : Recipe} (h : kind.recipe? = some r) :
    r.Suits kind := by
  have hall : ∀ k ∈ SyntaxKind.all, ∀ r ∈ k.recipe?,
      (∀ x ∈ r.parts ++ r.later, ∀ f ∈ x.2.brackets?, f ∈ Field.bracketed) ∧
        EsProps.AreNames ((r.parts ++ r.later).map Prod.fst) ∧ r.type ≠ .jsxText ∧
        r.pool ≠ .binary := by
    decide +kernel
  obtain ⟨hbrackets, hnames, htype, hpool⟩ := hall kind kind.mem_all r h
  exact ⟨hpool, Part.isOf_of_agree (kind.rote_agrees.1 r h).1 hbrackets, hnames, htype⟩

/-- So does the recipe of a function. -/
theorem Recipe.suits_of_function {type : AstType} (htype : type ≠ .jsxText) :
    (function type).Suits .functionDeclaration where
  pool_ne := nofun
  isOf := Part.isOf_of_agree (agrees_of_function type) (by
    -- What the parts look at does not depend on the type.
    change ∀ x ∈ (function .functionDeclaration).parts ++ signature, _
    decide)
  areNames := by
    change EsProps.AreNames (((function .functionDeclaration).parts ++ signature).map Prod.fst)
    decide
  type_ne := htype

/-- **What the table says about a kind suits the kind.** -/
theorem TableEntry.suits_of_tableEntry? {kind : SyntaxKind} {e : TableEntry}
    (h : kind.tableEntry? = some e) :
    e.pool ≠ .binary ∧ (∀ x ∈ e.fields.map TableField.part, x.2.IsOf kind e.pool) ∧
      EsProps.AreNames ((e.fields.map TableField.part).map Prod.fst) := by
  have hall : ∀ k ∈ SyntaxKind.all, ∀ e ∈ k.tableEntry?, e.pool ≠ .binary ∧
      (∀ x ∈ e.fields.map TableField.part, ∀ f ∈ x.2.brackets?, f ∈ Field.bracketed) ∧
        EsProps.AreNames ((e.fields.map TableField.part).map Prod.fst) := by decide +kernel
  obtain ⟨hpool, hbrackets, hnames⟩ := hall kind kind.mem_all e h
  exact ⟨hpool, Part.isOf_of_agree (kind.rote_agrees.2 e h).1 hbrackets, hnames⟩

/-- A name denotes only the type that has it. -/
theorem EsType.name_of_ofName {name : String} {type : AstType} (h : ofName name = .known type) :
    type.name = name := by
  rw [ofName] at h
  split at h
  · next t ht =>
    cases h
    rw [AstType.ofName?] at ht
    have hname := List.find?_some ht
    exact beq_iff_eq.mp hname
  · cases h

/-- No kind makes the type of the texts between tags. -/
theorem SyntaxKind.ofName_syntheticName_ne (kind : SyntaxKind) :
    EsType.ofName kind.syntheticName ≠ .known .jsxText := by
  have hall : ∀ k ∈ SyntaxKind.all, k.syntheticName ≠ AstType.name .jsxText := by decide +kernel
  exact fun h => hall kind kind.mem_all (EsType.name_of_ofName h).symm

/-- A name makes a type outside the vocabulary just when it denotes none of it. -/
theorem EsType.isNone_known?_ofName {name : String} :
    (ofName name).known?.isNone = true ↔ AstType.ofName? name = none := by
  rw [ofName]
  cases AstType.ofName? name <;> simp [known?]

/-- The values that are gathered have the names of the parts. -/
theorem Converter.yields_gather (c : Converter) {p : Pool} (n : Node) (d : Data p)
    (parts : List (String × Part)) :
    Conversion.Yields (c.gather n d parts) fun fs => fs.map Prod.fst = parts.map Prod.fst := by
  have hnames : Conversion.Yields (c.gather n d parts)
      (List.Forall₂ (fun e f => f.1 = e.1) parts) :=
    Conversion.Yields.mapM parts fun e _ =>
      (Conversion.Yields.trivial _).bind fun _ _ => Conversion.Yields.pure rfl
  refine hnames.mono fun fs hfs => ?_
  clear hnames
  induction hfs with
  | nil => rfl
  | cons hf _ ih => rw [List.map_cons, List.map_cons, hf, ih]

namespace Tie

variable {s : Source} {o : ConvertOptions} {T : Tie M s o} {i : NodeId} {n : Node}

/-! ### Following a recipe -/

namespace Descents

variable {w w' : WaysDown} {p : Pool} {d : Data p}

theorem part (hw : T.Descents w w') (hi : T.Around i n) (hd : s.arena.data? p n = some d)
    (hp : p ≠ .binary) {x : Part} (hx : x.IsOf n.kind p) :
    T.Tandem 0 ((T.left w).part n d x) ((T.right w').part n d x) (opt T.values) := by
  cases x with
  | child f absence =>
    exact Tandem.map
      ((hw.convert (hi.nodeAt hd hp (hx.isChild _ rfl))).mono fun _ _ _ => T.absence _)
  | first f =>
    exact Tandem.map (hw.child (hi.listAt hd hp (hx.isChild _ rfl)).bind_first)
  | list f =>
    refine Tandem.step (optionList (hi.listAt hd hp (hx.isChild _ rfl)) fun l hl => hw.list hl)
      fun h x x' hx => ?_
    obtain ⟨rfl, rfl, rfl⟩ | ⟨v, v', rfl, rfl, hv⟩ := hx.cases
    · exact Tandem.pure ((zero_add (0 : M)).symm ▸ T.array .nil)
    · exact Tandem.pure ((zero_add h).symm ▸ hv)
  | listIfAny f => exact optionList (hi.listAt hd hp (hx.isChild _ rfl)) fun l hl => hw.list hl
  | statements f =>
    exact optionList (hi.listAt hd hp (hx.isChild _ rfl)) fun l hl => hw.statements hl
  | typeArguments f absence =>
    exact Tandem.map ((hw.typeArguments? (hi.bracketedAt hd hp (hx.isChild _ rfl)
      (hx.isBracketed _ rfl))).mono fun _ _ _ => T.absence _)
  | typeParameters f =>
    exact Tandem.map ((hw.typeParameters? (hi.bracketedAt hd hp (hx.isChild _ rfl)
      (hx.isBracketed _ rfl))).mono fun _ _ _ => T.absence _)
  | ascription f absence =>
    exact Tandem.map
      ((hw.ascription? (hi.nodeAt hd hp (hx.isChild _ rfl))).mono fun _ _ _ => T.absence _)
  | decorators f => exact hw.decorators? (hi.listAt hd hp (hx.isChild _ rfl))
  | tagName f => exact Tandem.map (hw.tagName (hi.nodeAt hd hp (hx.isChild _ rfl)))
  | accessibility => exact Tandem.pure (opt_bare (EsValue.all_isBare_string _))
  | mark f => exact Tandem.pure (opt_bare (EsValue.all_isBare_mark _))
  | modifierMark m => exact Tandem.pure (opt_bare (EsValue.all_isBare_mark _))
  | _ => exact Tandem.pure (opt_bare rfl)

/-- The values that are gathered have the names of the parts. -/
theorem gather (hw : T.Descents w w') (hi : T.Around i n) (hd : s.arena.data? p n = some d)
    (hp : p ≠ .binary) {parts : List (String × Part)} (hparts : ∀ x ∈ parts, x.2.IsOf n.kind p) :
    T.Tandem 0 ((T.left w).gather n d parts) ((T.right w').gather n d parts)
      fun h fs fs' => each T.fields h fs fs' ∧ fs.map Prod.fst = parts.map Prod.fst := by
  refine Tandem.yields (Tandem.mapM parts fun x hx => ?_) ((T.left w).yields_gather n d parts)
  refine Tandem.step (hw.part hi hd hp (hparts x hx)) fun h v v' hv => Tandem.pure ?_
  rw [zero_add]
  exact ⟨rfl, hv⟩

/-- **A recipe is followed in tandem.** -/
theorem follow (hw : T.Descents w w') (hi : T.Around i n) {r : Recipe} (hr : r.Suits n.kind) :
    T.Tandem 0 ((T.left w).follow r i n) ((T.right w').follow r i n) T.declarations := by
  refine Tandem.parts fun d hd => ?_
  refine Tandem.step (hw.gather hi hd hr.pool_ne fun x hx =>
    hr.isOf x (List.mem_append_left _ hx)) ?_
  rintro a fs fs' ⟨hfs, hkeys⟩
  refine Tandem.step (Tandem.startOver hr.type_ne n.pos n.stop) ?_
  rintro b draft draft' ⟨hdraft, hempty, htype⟩
  refine Tandem.step (hw.gather hi hd hr.pool_ne fun x hx =>
    hr.isOf x (List.mem_append_right _ hx)) ?_
  rintro c later later' ⟨hlater, hkeys'⟩
  refine Tandem.pure ⟨?_, ?_⟩
  · have hsum : 0 + a + b + c = b + (a + c) := by abel
    rw [hsum]
    refine fill_of_keys_eq_nil hdraft hempty (hfs.append hlater) ?_
    rw [List.map_append, hkeys, hkeys', ← List.map_append]
    exact hr.areNames
  · change (draft.fill _).type ≠ _
    rw [(draft.fill_range _).2.2, htype]
    exact fun heq => hr.type_ne (EsType.known.inj heq)

/-- **A kind outside the vocabulary is converted in tandem**, unless only the first conversion
insists on the vocabulary. -/
theorem synthesize (hw : T.Descents w w') (hi : T.Around i n) :
    T.Tandem 0 ((T.left w).synthesize i n) ((T.right w').synthesize i n) T.nodes := by
  have hleft : (T.left w).options = s.options := rfl
  have hright : (T.right w').options = o := rfl
  rw [Converter.synthesize, Converter.synthesize, hleft, hright]
  -- The first run stops at a kind outside of the vocabulary only if it insists on it.
  by_cases hs : s.options.failOnUnknownNodeKind = true ∧
      (EsType.ofName n.kind.syntheticName).known?.isNone = true
  · have hunknown := T.breaks.unknown (EsType.isNone_known?_ofName.mp hs.2) hs.1
    rw [if_pos hs]
    split at hunknown
    · next ho =>
      rw [if_pos ⟨ho, hs.2⟩]
      exact Tandem.throw hunknown
    · exact Tandem.stop hunknown _
  · have ho : ¬ (o.failOnUnknownNodeKind = true ∧
        (EsType.ofName n.kind.syntheticName).known?.isNone = true) :=
      fun ho => hs (ho.imp_left T.breaks.strict)
    rw [if_neg hs, if_neg ho]
    have hknown : s.options.failOnUnknownNodeKind = true →
        (EsType.ofName n.kind.syntheticName).known?.isSome = true := fun hstrict =>
      Option.isSome_iff_ne_none.mpr fun hnone =>
        hs ⟨hstrict, Option.isNone_iff_eq_none.mpr hnone⟩
    refine Tandem.step (Tandem.start (.alike n.kind.ofName_syntheticName_ne hknown _ _)) ?_
    rintro a draft draft' ⟨hdraft, hempty, -⟩
    rw [zero_add]
    split
    · exact Tandem.pure hdraft
    · next entry hentry =>
      refine Tandem.parts fun d hd => ?_
      obtain ⟨hpool, hof, hnames⟩ := TableEntry.suits_of_tableEntry? hentry
      refine Tandem.step (hw.gather hi hd hpool hof) ?_
      rintro b fs fs' ⟨hfs, hkeys⟩
      refine Tandem.pure (fill_of_keys_eq_nil hdraft hempty hfs ?_)
      rw [hkeys]
      exact hnames

end Descents

/-! ### Literals -/

theorem tandem_privateName :
    T.Tandem 0 (s.privateName i n) ((s.withOptions o).privateName i n) T.nodes :=
  Tandem.parts fun _ _ => Tandem.build (plain rfl .nil) rfl rfl

theorem tandem_stringLiteral :
    T.Tandem 0 (s.stringLiteral i n) ((s.withOptions o).stringLiteral i n) T.nodes :=
  Tandem.parts fun _ _ => Tandem.build (plain rfl (plain rfl .nil)) rfl rfl

theorem tandem_numericLiteral :
    T.Tandem 0 (s.numericLiteral n) ((s.withOptions o).numericLiteral n) T.nodes :=
  Tandem.build (plain rfl (plain rfl .nil)) rfl rfl

theorem tandem_bigIntLiteral :
    T.Tandem 0 (s.bigIntLiteral n) ((s.withOptions o).bigIntLiteral n) T.nodes :=
  Tandem.build (plain rfl (plain rfl .nil)) rfl rfl

theorem tandem_regexLiteral (hi : T.Around i n) (hk : n.kind = .regularExpressionLiteral) :
    T.Tandem 0 (s.regexLiteral n) ((s.withOptions o).regexLiteral n) T.nodes := by
  have hright : (s.withOptions o).nodeText n = s.nodeText n := rfl
  rw [Source.regexLiteral, Source.regexLiteral, hright]
  cases hregex : Regex.split? (s.nodeText n) with
  | some regex => exact Tandem.build (plain rfl (plain rfl (plain rfl .nil))) rfl rfl
  | none =>
    refine Tandem.throw (hi.placed.resolve_right fun hplaced => ?_)
    have hsome := hplaced.regex hk
    rw [hregex] at hsome
    cases hsome

theorem tandem_booleanLiteral :
    T.Tandem 0 (s.booleanLiteral n) ((s.withOptions o).booleanLiteral n) T.nodes :=
  Tandem.build (plain rfl (plain rfl .nil)) rfl rfl

theorem tandem_nullLiteral :
    T.Tandem 0 (s.nullLiteral i n) ((s.withOptions o).nullLiteral i n) T.nodes :=
  Tandem.ite (fun _ => Tandem.build .nil rfl rfl) fun _ =>
    Tandem.build (plain rfl (plain rfl .nil)) rfl rfl

/-- The text between tags gets the type that the options ask for. -/
theorem tandem_markupText (hi : T.Around i n)
    (hk : n.kind = .jsxText ∨ n.kind = .jsxTextAllWhiteSpaces) :
    T.Tandem 0 (s.markupText n) ((s.withOptions o).markupText n) T.nodes :=
  Tandem.buildAs (.text hi.here hi.node hk) (plain rfl (plain rfl .nil)) rfl

theorem tandem_templateElement (hi : T.Around i n) (hk : n.kind.isTemplatePiece = true)
    (cooked : String) (close : Nat) (tail : Bool) :
    T.Tandem 0 (s.templateElement n cooked close tail)
      ((s.withOptions o).templateElement n cooked close tail) T.nodes :=
  Tandem.moved (hi.placed.imp_right fun hplaced => hplaced.quote hk)
    (Tandem.build (plain rfl (plain rfl .nil)) rfl rfl)

theorem tandem_templatePiece (hi : T.Around i n) (hk : n.kind.isTemplatePiece = true) :
    T.Tandem 0 (s.templatePiece i n) ((s.withOptions o).templatePiece i n) T.nodes :=
  Tandem.parts fun _ _ => Tandem.ite (fun _ => tandem_templateElement hi hk ..)
    fun _ => tandem_templateElement hi hk ..

theorem tandem_plainTemplate (hi : T.Around i n) (hk : n.kind.isTemplatePiece = true) :
    T.Tandem 0 (s.plainTemplate i n) ((s.withOptions o).plainTemplate i n) T.nodes := by
  refine Tandem.parts fun d _ => ?_
  refine Tandem.step (tandem_templateElement hi hk ..) fun _ piece piece' hpiece => ?_
  exact Tandem.build (field (ofNodes (each.singleton hpiece)) (field (T.array .nil) .nil))
    rfl (by abel)

end Tie

end ScriptTree
