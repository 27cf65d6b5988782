import ScriptTree.Proofs.Convert.Nesting.Binding

/-!
# Bounds on functions and parameters

The function that a method has as its value starts at the bracket of its signature, and everything
in it stands behind the bracket. A parameter takes the range of its name and grows from there: it is
only where it becomes a node of its own, as the rest of the arguments, with a default or as a
property of the class, that it covers all of its node (`ScriptTree.Draft.Covers`).
-/

namespace ScriptTree

open Conversion (Yields)

/-- A draft lies in a node, and covers all of it where a condition is met. -/
structure Draft.Covers (P : Prop) (n : Node) (d : Draft) : Prop where
  fits : d.Fits n.pos n.stop
  covers : P → d.start = n.pos ∧ d.stop = n.stop

namespace Draft

variable {P Q : Prop} {n : Node} {d : Draft} {key : String} {v : EsValue} {stop : Nat}

/-- A draft that is filled covers what it covered. -/
theorem Covers.prop (h : d.Covers P n) (hv : v.nested d.start d.stop = true) :
    (d.prop key v).Covers P n :=
  ⟨h.fits.prop hv, h.covers⟩

theorem Covers.extendTo (h : d.Covers P n) (hstop : stop ≤ n.stop) :
    (d.extendTo stop).Covers P n where
  fits := h.fits.extendTo hstop
  covers hP := by
    obtain ⟨hfirst, hlast⟩ := h.covers hP
    refine ⟨hfirst, ?_⟩
    change max d.stop stop = n.stop
    omega

/-- A draft that is started and then moved right might have been started there. -/
theorem startAt_new (id : Nat) (type : EsType) {pos first : Nat} (hpos : pos ≤ first) :
    (Draft.new id type pos stop).startAt first = .new id type first stop := by
  have hstop : max (max stop pos) first = max stop first := by omega
  rw [startAt, new, new, hstop]

/-- A draft that is started over a node covers the node. -/
theorem covers_fill_new (id : Nat) (type : EsType) {first : Nat} (hpos : n.pos ≤ first)
    (hstop : first ≤ n.stop) (hP : P → first = n.pos) {fields : List (String × Option EsValue)}
    (hfields : FieldsFit first n.stop fields) :
    ((Draft.new id type first n.stop).fill fields).Covers P n := by
  obtain ⟨hfirst, hlast, -⟩ := Draft.fill_range (Draft.new id type first n.stop) fields
  have hnew : (Draft.new id type first n.stop).stop = n.stop := Nat.max_eq_left hstop
  have hfits : (Draft.new id type first n.stop).Fits n.pos n.stop :=
    { Draft.fits_new id type hstop with le_start := hpos }
  refine ⟨hfits.fill ?_, fun h => ⟨hfirst.trans (hP h), hlast.trans hnew⟩⟩
  rw [hnew]
  exact hfields

end Draft

namespace Converter.Nests

variable {c : Converter} {tokens : List SourceToken} {i : NodeId} {n : Node}

theorem functionDeclaration (h : c.Nests tokens) (hi : c.arena.Stands tokens i n)
    (hfile : n.kind ≠ .sourceFile) :
    Yields (c.functionDeclaration i n) (EsNode.Fits n.pos n.stop) := by
  have hslots (type : AstType) : ∀ x ∈ (Recipe.function type).parts ++ (Recipe.function type).later,
      (∀ e, x.2.slot? = some e →
        e.1 ∈ [Field.name, .typeParameters, .parameters, .declaredType, .body] ∧ e.2 ≠ .tag) ∧
      ∀ f ∈ x.2.brackets?, f.isAngled = true := by
    change ∀ x ∈ (Recipe.function .functionDeclaration).parts ++ Recipe.signature, _
    decide
  refine Conversion.yields_parts fun d hd => ?_
  have hfields : ∀ f ∈ [Field.name, .typeParameters, .parameters, .declaredType, .body],
      c.arena.FieldFits tokens (c.declaredStart (.ofList tokens) n (d.get .modifiers)) n.stop
        d f := by
    simp only [List.forall_mem_cons]
    exact ⟨h.fits_declared hi hd .name (by decide),
      h.fits_declared hi hd .typeParameters (by decide),
      h.fits_declared hi hd .parameters (by decide),
      h.fits_declared hi hd .declaredType (by decide), h.fits_declared hi hd .body (by decide),
      fun f hf => absurd hf List.not_mem_nil⟩
  refine (h.follow_spans hi.isLaidOut.pos_le_stop fun d' hd' x hx => ?_).bind fun es hes =>
    h.exported hi hd (Pool.mem_childFields (by decide) (by decide) _)
      (Arena.isBlank_of_data? hd (by decide)) hfile hes
  obtain rfl : d = d' := Option.some.inj (hd.symm.trans hd')
  obtain ⟨hslot, hangled⟩ := hslots _ x hx
  exact ⟨fun e he => hfields e.1 (hslot e he).1, hangled, fun f hf => absurd rfl (hslot _ hf).2⟩

/-! ### Methods -/

/-- **The value of a method starts at the bracket of its signature**, and holds what is behind
it. -/
theorem methodValue (h : c.Nests tokens) (hi : c.arena.Stands tokens i n) {d : Data .function}
    (hd : c.arena.data? .function n = some d) {behind : Nat} {t : SourceToken} (ht : t ∈ tokens)
    (hkind : t.kind = signatureBracket d) (hbehind : behind ≤ t.start) (hstop : t.stop ≤ n.stop)
    (htypes : ∀ l ∈ d.get .typeParameters, t.stop ≤ l.pos)
    (hfields : ∀ f ∈ [Field.parameters, Field.body], ∀ j ∈ d.refs f, ∀ m ∈ c.arena.nodes[j]?,
      t.stop ≤ m.pos) :
    Yields (c.methodValue n d behind) (EsNode.Fits behind n.stop) := by
  refine Conversion.yields_tokens h.index_eq ?_
  -- What is found is not behind the bracket that the signature has, so the fields are behind it.
  obtain ⟨u, hu, hfind, hle, hstart, -⟩ := TokenIndex.exists_findAfter h.inOrder ht hkind hbehind
  have hvalue : valueStart (TokenIndex.ofList tokens) d behind = u.start := by
    rw [valueStart, hfind]
    rfl
  have hfull := h.inOrder.nonempty t ht
  dsimp only
  rw [hvalue]
  have hbehind : ∀ f ∈ [Field.parameters, Field.body], ∀ j ∈ d.refs f, ∀ m ∈ c.arena.nodes[j]?,
      u.start ≤ m.pos := by
    intro f hf j hj m hm
    have hm := hfields f hf j hj m hm
    omega
  have hparameters : c.arena.FieldFits tokens u.start n.stop d .parameters :=
    (hi.fits hd .parameters (by decide)).raise rfl (hbehind _ (by decide))
  have hbody : c.arena.FieldFits tokens u.start n.stop d .body :=
    (hi.fits hd .body (by decide)).raise rfl (hbehind _ (by decide))
  refine (h.list hparameters.list).bind fun params hparams => ?_
  refine (h.child hbody.node).bind fun body hbody => ?_
  refine (Conversion.yields_start _ u.start n.stop).bind ?_
  rintro _ ⟨id, rfl⟩
  have hsignature : ∀ x ∈ Recipe.signature,
      Yields (c.part n d x.2) fun v => ∀ w ∈ v, w.nested u.start n.stop = true := by
    refine List.forall_mem_cons.mpr ⟨?_, List.forall_mem_singleton.mpr ?_⟩
    · have htype := hi.fits hd .declaredType (by decide)
      exact .map ((h.ascription? htype.node).mono fun x hx =>
        nested_absence (fun es hes => (hx es hes).nested) .omitted)
    · refine .map ((h.typeParameters? fun l hl => ?_).mono fun x hx =>
        nested_absence (fun es hes => (hx es hes).nested) .omitted)
      have hangle : signatureBracket d = .lessThanToken := by
        rw [signatureBracket, show d.get .typeParameters = some l from hl]
        rfl
      exact ((hi.fits hd .typeParameters (by decide)).angled rfl l hl).raise ht
        (hkind.trans hangle) hstart (Nat.le_of_lt hfull) (htypes l hl)
  refine (gather_of hsignature).bind fun signature hsignature => .pure ?_
  rw [Draft.fill, Draft.fill, ← List.foldl_append]
  refine (c.spans_fill id _ (by omega) (.append ?_ hsignature)).fits (Nat.le_refl _) hle
    (Nat.le_refl _)
  exact .plain rfl (.plain rfl (.plain rfl (.plain rfl (.value hbody (.value hparams .nil)))))

/-! ### Parameters -/

theorem restParameter (hle : n.pos ≤ n.stop) {d : Data .parameter} {name : EsNode}
    (hname : name.Fits n.pos n.stop) :
    Yields (Converter.restParameter n d name) fun t =>
      t.Covers (d.get .dotDotDotToken = true) n ∧ t.start ≤ name.head.start := by
  rw [Converter.restParameter]
  refine .ite (fun _ => ?_) fun hdots =>
    .pure ⟨⟨.reopen hname, fun h => absurd h hdots⟩, Nat.le_refl _⟩
  refine (Conversion.yields_start _ n.pos n.stop).bind ?_
  rintro _ ⟨id, rfl⟩
  refine .pure ⟨?_, hname.le_start⟩
  have hfields : FieldsFit n.pos n.stop [("argument", some name.toValue)] :=
    .value hname.nested .nil
  exact Draft.covers_fill_new id _ (Nat.le_refl _) hle (fun _ => rfl) hfields

theorem annotatedParameter (h : c.Nests tokens) {P : Prop} {d : Data .parameter}
    (htype : c.arena.FitsIn tokens n.pos n.stop (d.get .declaredType)) {nameStop first : Nat}
    (hquestion : d.get .questionToken = true → ∃ t ∈ tokens, t.kind = .questionToken ∧
      nameStop ≤ t.start ∧ t.stop ≤ n.stop) {target : Draft} (htarget : target.Covers P n)
    (hfirst : target.start ≤ first) :
    Yields (c.annotatedParameter d nameStop target) fun es =>
      (Draft.reopen es).Covers P n ∧ es.head.start ≤ first := by
  -- The mark stands behind the name, so its end is within the node.
  have hmark {target : Draft} (htarget : target.Covers P n) (hfirst : target.start ≤ first) :
      Yields (if d.get .questionToken then do
          let mark := ((← c.tokens).atOrAfter nameStop).filter fun t => t.kind == .questionToken
          let target := target.extendTo ((mark.map SourceToken.stop).getD target.stop)
          pure (c.finish (target.prop "optional" true))
        else pure (c.finish target)) fun es =>
        (Draft.reopen es).Covers P n ∧ es.head.start ≤ first := by
    refine .ite (fun hasMark => ?_) fun _ => .pure ⟨htarget, hfirst⟩
    refine Conversion.yields_tokens h.index_eq (.pure ⟨?_, hfirst⟩)
    obtain ⟨t, ht, -, hle, hstop⟩ := hquestion hasMark
    obtain ⟨u, hu, hfind, -, -, hustop⟩ := TokenIndex.exists_atOrAfter h.inOrder ht hle
    refine Draft.Covers.prop (htarget.extendTo ?_) rfl
    rw [hfind, Option.filter_some]
    split
    · exact Nat.le_trans hustop hstop
    · exact htarget.fits.stop_le
  refine (h.ascription? htype).bind fun ascription hascription => ?_
  cases ascription with
  | none => exact hmark htarget hfirst
  | some es =>
    have hes := hascription es rfl
    exact hmark ((htarget.prop hes.nested).extendTo hes.stop_le) hfirst

theorem defaultedParameter (h : c.Nests tokens) {d : Data .parameter}
    {isProperty : Bool} {target : EsNode}
    (htarget : (Draft.reopen target).Covers (d.get .dotDotDotToken = true) n)
    (hinit : c.arena.FitsIn tokens target.head.start n.stop (d.get .initializer)) :
    Yields (c.defaultedParameter n d isProperty target) fun t =>
      t.Covers (isProperty = false ∧
        (d.get .dotDotDotToken = true ∨ (c.node? (d.get .initializer)).isSome = true)) n := by
  have hfits : target.Fits n.pos n.stop :=
    ⟨htarget.fits.le_start, htarget.fits.start_le_stop, htarget.fits.stop_le, htarget.fits.nested⟩
  rw [Converter.defaultedParameter]
  refine .ite (fun hdefault => ?_) fun hplain => ?_
  · refine (h.child hinit).bind fun right hright => ?_
    refine (Conversion.yields_start _ n.pos n.stop).bind ?_
    rintro _ ⟨id, rfl⟩
    have hstart : n.pos ≤ (if isProperty then target.head.start else n.pos) ∧
        (if isProperty then target.head.start else n.pos) ≤ target.head.start := by
      have hle := hfits.le_start
      split <;> omega
    have hstop := Nat.le_trans hfits.start_le_stop hfits.stop_le
    have hinside : target.toValue.nested target.head.start n.stop = true :=
      EsNode.Fits.nested { hfits with le_start := Nat.le_refl _ }
    dsimp only
    rw [Draft.startAt_new id _ hstart.1]
    refine .pure (Draft.covers_fill_new id _ hstart.1 (by omega) (fun hP => ?_) ?_)
    · rw [hP.1]
      rfl
    · exact .value (EsValue.nested_mono hstart.2 (Nat.le_refl _) hinside)
        (.value (EsValue.nested_mono hstart.2 (Nat.le_refl _) hright) .nil)
  · refine .pure ⟨htarget.fits, fun ⟨_, hcovers⟩ => htarget.covers ?_⟩
    by_contra hdots
    exact hplain ⟨hcovers.resolve_left hdots, hdots⟩

theorem propertyParameter (hle : n.pos ≤ n.stop) {P : Prop} {modifiers : Option NodeList}
    {parameter : Draft} (h : parameter.Covers (modifiers.isSome = false ∧ P) n) :
    Yields (c.propertyParameter n modifiers parameter) fun t =>
      t.Covers (modifiers.isSome = true ∨ P) n := by
  rw [Converter.propertyParameter]
  refine .ite (fun _ => ?_) fun hnone => .pure ⟨h.fits, fun hP => ?_⟩
  · refine (Conversion.yields_start _ n.pos n.stop).bind ?_
    rintro _ ⟨id, rfl⟩
    refine .pure (Draft.covers_fill_new id _ (Nat.le_refl _) hle (fun _ => rfl) ?_)
    exact .plain (EsValue.all_isBare_string _) (.mark (.mark (.mark
      (.value (h.fits.finish c.map).nested .nil))))
  · exact h.covers ⟨Bool.eq_false_iff.mpr hnone, hP.resolve_left hnone⟩

/-- A parameter with decorators becomes a node of its own, if it leaves nothing outside. -/
theorem covers_of_decorators (hi : c.arena.Stands tokens i n) (hk : n.kind = .parameter)
    {d : Data .parameter} (hd : c.arena.data? .parameter n = some d)
    (hdecorators : ¬ (NodeList.nodesOf (d.get .decorators)).isEmpty = true) :
    ((d.get .modifiers).filter fun l => !l.nodes.isEmpty).isSome = true ∨
      d.get .dotDotDotToken = true ∨ (c.node? (d.get .initializer)).isSome = true := by
  have hslips := hi.slips_eq_false
  simp only [Arena.slips, hk, hd, Option.any_some] at hslips
  -- A plain parameter would leave its decorators outside.
  by_contra hplain
  rw [not_or, not_or, Bool.not_eq_true, Bool.not_eq_true, Bool.not_eq_true] at hplain
  obtain ⟨hmodifiers, hdots, hinit⟩ := hplain
  have hempty : (NodeList.nodesOf (d.get .modifiers)).isEmpty = true := by
    cases hl : d.get .modifiers with
    | none => rfl
    | some l =>
      rw [hl, Option.filter_some] at hmodifiers
      cases hfull : l.nodes.isEmpty with
      | true => exact hfull
      | false =>
        rw [hfull] at hmodifiers
        cases hmodifiers
  have hnone : (c.arena.node? (d.get .initializer)).isNone = true :=
    Option.isNone_iff_eq_none.mpr (Option.not_isSome_iff_eq_none.mp (Bool.eq_false_iff.mp hinit))
  rw [Bool.eq_false_iff.mpr hdecorators, hempty, hdots, hnone] at hslips
  cases hslips

/-- **A parameter lies in its node**, and its decorators lie in it. -/
theorem parameter (h : c.Nests tokens) (hi : c.arena.Stands tokens i n) (hk : n.kind = .parameter) :
    Yields (c.parameter i n) fun x => ∀ es ∈ x, es.Fits n.pos n.stop := by
  have hle := hi.isLaidOut.pos_le_stop
  refine Conversion.yields_parts fun d hd => ?_
  have hchild (f : Field) (hf : f ∈ Pool.parameter.layout) :
      f ∈ Pool.parameter.childFields n.kind :=
    Pool.mem_childFields (by decide) hf _
  have hname := hi.fitsIn_behind hd (hchild .name (by decide))
  have hstop := hi.behind_le_stop hd (hchild .name (by decide))
  refine (h.convert hname).bind fun x hx => ?_
  cases x with
  | none => exact .pure fun es hes => absurd hes (Option.not_mem_none es)
  | some name =>
    have hname := hx name rfl
    refine (restParameter hle (hname.mono (Nat.le_refl _) hstop)).bind fun target htarget => ?_
    refine (h.annotatedParameter (hi.fits hd .declaredType (by decide)).node (fun hmark => ?_)
      htarget.1 htarget.2).bind fun target htarget => ?_
    · obtain ⟨t, ht, hkind, hbehind, hstop⟩ := hi.isLaidOut.question d hd hmark
      exact ⟨t, ht, hkind, Nat.le_trans hname.stop_le hbehind, hstop⟩
    have hinit : c.arena.FitsIn tokens target.head.start n.stop (d.get .initializer) := by
      refine (hi.fieldFits_of_behind hd (hchild .initializer (by decide))
        fun t ht hbehind => ?_).node
      have hbehind := Arena.Stands.behind_le_of_before (g := .name) (by decide) hbehind
      have hfull := hname.start_le_stop
      have hlast := hname.stop_le
      omega
    refine (h.defaultedParameter htarget.1 hinit).bind fun result hresult => ?_
    refine (propertyParameter hle hresult).bind fun result hresult => ?_
    by_cases hdecorators : (NodeList.nodesOf (d.get .decorators)).isEmpty = true
    · rw [decorators?_eq_none hdecorators, pure_bind]
      refine .pure ?_
      rintro _ ⟨⟩
      exact hresult.fits.finish _
    · -- What has decorators covers its node, or else it would be left outside.
      obtain ⟨hfirst, hlast⟩ := hresult.covers (covers_of_decorators hi hk hd hdecorators)
      refine (h.decorators? (hi.fits hd .decorators (by decide)).list).bind fun decorators hv => ?_
      refine .pure ?_
      rintro _ ⟨⟩
      refine (hresult.fits.propOpt fun v hv' => ?_).finish _
      rw [hfirst, hlast]
      exact hv v hv'

end Converter.Nests

end ScriptTree
