import ScriptTree.Convert.Declaration
import ScriptTree.Proofs.Convert.Nesting.Binding

/-!
# Bounds on clauses, types, enumerations and namespaces

A type alias holds a declarator that starts with its name, so it lies behind the words of an export
as everything else does. Modifiers that are kept stand behind these words as well.
-/

namespace ScriptTree

open Conversion (Yields)

namespace Converter.Nests

variable {c : Converter} {tokens : List SourceToken} {lo hi : Nat} {i : NodeId} {n : Node}
  {r : NodeRef}

/-! ### Clauses -/

theorem cases (h : c.Nests tokens) (hr : c.arena.FitsIn tokens lo hi r) :
    Yields (c.cases r) fun v => v.nested lo hi = true := by
  rw [Converter.cases.eq_def]
  split
  · next i =>
    split
    · next n hn =>
      exact Conversion.yields_parts fun d hd => h.list (hr.fits hn hd .statements (by decide)).list
    · exact .pure rfl
  · exact .pure rfl

theorem switch (h : c.Nests tokens) (hi : c.arena.Stands tokens i n) :
    Yields (c.switch i n) (EsNode.Fits n.pos n.stop) := by
  refine Conversion.yields_parts fun d hd => ?_
  refine (h.child (hi.fits hd .expression (by decide)).node).bind fun value hvalue => ?_
  refine (h.cases (hi.fits hd .caseBlock (by decide)).node).bind fun cases hcases => ?_
  exact Source.yields_build hi.isLaidOut.pos_le_stop (.value hvalue (.value hcases .nil))

theorem caught (h : c.Nests tokens) (hr : c.arena.FitsIn tokens lo hi r) :
    Yields (c.caught r) fun v => v.nested lo hi = true := by
  rw [Converter.caught.eq_def]
  split
  · next i =>
    split
    · next n hn =>
      exact Conversion.yields_parts fun d hd => h.child (hr.fits hn hd .name (by decide)).node
    · exact .pure rfl
  · exact .pure rfl

theorem catchClause (h : c.Nests tokens) (hi : c.arena.Stands tokens i n) :
    Yields (c.catchClause i n) (EsNode.Fits n.pos n.stop) := by
  refine Conversion.yields_parts fun d hd => ?_
  refine (h.caught (hi.fits hd .variableDeclaration (by decide)).node).bind fun param hparam => ?_
  refine (h.child (hi.fits hd .block (by decide)).node).bind fun body hbody => ?_
  exact Source.yields_build hi.isLaidOut.pos_le_stop (.value hparam (.value hbody .nil))

/-! ### Types -/

/-- A type alias is declared in it, from its name on. -/
theorem declaredStart_le_name (hi : c.arena.Stands tokens i n) (hk : n.kind = .typeAliasDeclaration)
    {d : Data .typeAlias} (hd : c.arena.data? .typeAlias n = some d)
    (hname : c.arena.FitsIn tokens (c.declaredStart (.ofList tokens) n (d.get .modifiers)) n.stop
      (d.get .name)) :
    c.declaredStart (.ofList tokens) n (d.get .modifiers) ≤
      ((c.node? (d.get .name)).map Node.pos).getD n.pos := by
  have hslips := hi.slips_eq_false
  simp only [Arena.slips, hk, hd, Option.any_some, Bool.and_eq_false_iff] at hslips
  change _ ≤ ((c.arena.node? (d.get .name)).map Node.pos).getD n.pos
  -- Either it is declared where its node starts, or it has a name, which is behind its words.
  rcases hslips with hplain | hfull
  · rw [declaredStart_eq hplain]
    cases hm : c.arena.node? (d.get .name) with
    | none => exact Nat.le_refl _
    | some m =>
      obtain ⟨j, hj, hnode⟩ := Option.bind_eq_some_iff.mp hm
      exact (hi.within hd (Pool.mem_childFields (by decide) (by decide) _)
        (Record.mem_refs_of_nodeAt (f := .name) hj) hnode).1
  · cases hm : c.arena.node? (d.get .name) with
    | none =>
      rw [hm] at hfull
      cases hfull
    | some m =>
      rw [hm] at hfull
      exact hname.le_pos m hm hfull

/-- What a type alias declares starts with its name, and in an export behind the words of the
export. -/
theorem typeAlias (h : c.Nests tokens) (hi : c.arena.Stands tokens i n)
    (hk : n.kind = .typeAliasDeclaration) :
    Yields (c.typeAlias i n) (EsNode.Fits n.pos n.stop) := by
  have hfile : n.kind ≠ .sourceFile := by rw [hk]; decide
  have hle := hi.isLaidOut.pos_le_stop
  refine Conversion.yields_parts fun d hd => ?_
  have hp : Field.modifiers ∈ Pool.typeAlias.childFields n.kind :=
    Pool.mem_childFields (by decide) (by decide) _
  have hblank := Arena.isBlank_of_data? hd (by decide)
  have hname := (h.fits_declared hi hd .name (by decide)).node
  have hstart := declaredStart_le_name hi hk hd hname
  have hpos := (h.declaredStart_le hi hd hp hblank hfile).1
  have hbehind : c.arena.behind n.pos (d.refs .name) ≤ n.stop :=
    hi.behind_le_stop hd (Pool.mem_childFields (by decide) (by decide) _)
  -- The name starts before everything behind it, and before the end of the node.
  have hbefore {x : Nat} (hx : c.arena.behind n.pos (d.refs .name) ≤ x) :
      ((c.node? (d.get .name)).map Node.pos).getD n.pos ≤ x := by
    obtain ⟨hpos, hstop⟩ := Arena.behind_le_iff.mp hx
    cases hm : c.node? (d.get .name) with
    | none => exact hpos
    | some m =>
      obtain ⟨j, hj, hnode⟩ := Option.bind_eq_some_iff.mp hm
      have hj : j ∈ d.refs .name := Record.mem_refs_of_nodeAt hj
      have hle := (hi.within hd (Pool.mem_childFields (by decide) (by decide) _) hj hnode).2.1
      exact Nat.le_trans hle (hstop j hj m hnode)
  have htypes : c.arena.FieldFits tokens (((c.node? (d.get .name)).map Node.pos).getD n.pos) n.stop
      d .typeParameters :=
    hi.fieldFits_of_behind hd (Pool.mem_childFields (by decide) (by decide) _) fun t ht hx =>
      hbefore (Arena.Stands.behind_le_of_before (by decide) hx)
  have htype : c.arena.FieldFits tokens (((c.node? (d.get .name)).map Node.pos).getD n.pos) n.stop
      d .typeNode :=
    hi.fieldFits_of_behind hd (Pool.mem_childFields (by decide) (by decide) _) fun t ht hx =>
      hbefore (Arena.Stands.behind_le_of_before (by decide) hx)
  have hid : c.arena.FitsIn tokens (((c.node? (d.get .name)).map Node.pos).getD n.pos) n.stop
      (d.get .name) := by
    refine { hname with le_pos := fun m hm _ => ?_ }
    rw [Source.node?, Option.mem_def.mp hm]
    exact Nat.le_refl _
  generalize ((c.node? (d.get .name)).map Node.pos).getD n.pos = start at *
  refine (h.child hid).bind fun id hid => ?_
  refine (h.typeParameters? (htypes.angled rfl)).bind fun parameters hparameters => ?_
  refine (h.child htype.node).bind fun type htype => ?_
  refine (Source.yields_buildAt hstart (hbefore hbehind) (Nat.le_refl _) (.value hid (.value htype
    (.node? (fun es hes => (hparameters es hes).nested) .nil)))).bind
      fun declarator hdeclarator => ?_
  refine (Source.yields_spans hle (.plain rfl (.value ?_ .nil))).bind fun es hes =>
    h.exported hi hd hp hblank hfile hes.1
  exact nested_ofNodes (List.forall_mem_singleton.mpr hdeclarator)

theorem typePredicate (h : c.Nests tokens) (hi : c.arena.Stands tokens i n) :
    Yields (c.typePredicate i n) (EsNode.Fits n.pos n.stop) := by
  have hle := hi.isLaidOut.pos_le_stop
  refine Conversion.yields_parts fun d hd => ?_
  have htype := (hi.fits hd .typeNode (by decide)).node
  refine (h.child (hi.fits hd .parameterName (by decide)).node).bind fun name hname => ?_
  have hbuild {ascription : EsValue} (hascription : ascription.nested n.pos n.stop = true) :
      Yields (c.build .tsTypePredicate n
        [("parameterName", name), ("typeAnnotation", ascription)]) (EsNode.Fits n.pos n.stop) :=
    Source.yields_build hle (.value hname (.value hascription .nil))
  split
  · rw [pure_bind]
    exact hbuild rfl
  · next type hn =>
    obtain ⟨j, hj, hnode⟩ := Option.bind_eq_some_iff.mp hn
    have htypele := (htype.stands hj hnode).isLaidOut.pos_le_stop
    refine (h.child (htype.self hn)).bind fun inner hinner => ?_
    have hascription : Yields
        (EsNode.toValue <$> c.build .tsTypeAscription type [("typeAnnotation", inner)])
        fun v => v.nested n.pos n.stop = true :=
      .map ((Source.yields_hangs rfl htypele (.value hinner .nil)).mono fun es hes => hes.nested)
    exact hascription.bind fun ascription hascription => hbuild hascription

/-! ### Enumerations and namespaces -/

/-- A draft covers a node, and what it holds lies in the part of it that starts at some place. So do
the modifiers that it is to be given. -/
structure Modifies (lo : Nat) (n : Node) (x : Draft × List EsValue) : Prop where
  start_eq : x.1.start = n.pos
  stop_eq : x.1.stop = n.stop
  nested : EsValue.nestedFields lo n.stop x.1.props = true
  modifiers : ∀ v ∈ x.2, v.nested lo n.stop = true

/-- A field that holds no nodes changes nothing. -/
theorem Modifies.prop {x : Draft × List EsValue} (hx : Modifies lo n x) {key : String}
    {v : EsValue} (hv : v.isBare = true) : Modifies lo n (x.1.prop key v, x.2) where
  start_eq := hx.start_eq
  stop_eq := hx.stop_eq
  nested := EsValue.nestedFields_insert hx.nested (EsValue.nested_of_isBare hv)
  modifiers := hx.modifiers

/-- The words of an export are left to the export. -/
theorem addModifier (h : c.Nests tokens) {x : Draft × List EsValue} (hx : Modifies lo n x)
    (hr : c.arena.kind? r ≠ some .exportKeyword → c.arena.kind? r ≠ some .defaultKeyword →
      c.arena.FitsIn tokens lo n.stop r) :
    Yields (c.addModifier x r) (Modifies lo n) := by
  obtain ⟨d, vs⟩ := x
  rw [Converter.addModifier.eq_def]
  dsimp only
  split
  · exact .pure hx
  · exact .pure hx
  · exact .pure (hx.prop rfl)
  · exact .pure (hx.prop rfl)
  · next hexport hdefault _ _ =>
    refine (h.child (hr hexport hdefault)).bind fun v hv => .pure ?_
    refine { hx with modifiers := fun w hw => ?_ }
    rcases List.mem_append.mp hw with hw | hw
    · exact hx.modifiers w hw
    · rwa [List.mem_singleton.mp hw]

theorem modify (h : c.Nests tokens) (hle : n.pos ≤ n.stop) (id : Nat) (type : EsType)
    {modifiers : Option NodeList} {fields : List (String × Option EsValue)}
    (hfields : FieldsFit lo n.stop fields)
    (hmodifiers : ∀ r ∈ NodeList.nodesOf modifiers, c.arena.kind? r ≠ some .exportKeyword →
      c.arena.kind? r ≠ some .defaultKeyword → c.arena.FitsIn tokens lo n.stop r) :
    Yields (c.modify ((Draft.new id type n.pos n.stop).fill fields) modifiers) fun d =>
      Modifies lo n (d, []) := by
  obtain ⟨hstart, hstop, -⟩ := Draft.fill_range (Draft.new id type n.pos n.stop) fields
  have hnew : Modifies lo n ((Draft.new id type n.pos n.stop).fill fields, []) :=
    ⟨hstart, hstop.trans (Nat.max_eq_left hle), Draft.nestedFields_fill rfl hfields,
      fun v hv => absurd hv List.not_mem_nil⟩
  refine (Yields.foldlM _ (fun x r hx hr => h.addModifier hx (hmodifiers r hr)) hnew).bind
    fun x hx => .pure ?_
  have hnone : ∀ v ∈ ([] : List EsValue), v.nested lo n.stop = true :=
    fun v hv => absurd hv List.not_mem_nil
  split
  · exact { hx with modifiers := hnone }
  · exact ⟨hx.start_eq, hx.stop_eq, EsValue.nestedFields_insert hx.nested
      (EsValue.nested_array_iff.mpr hx.modifiers), hnone⟩

/-- A declaration with modifiers covers its node. -/
theorem Modifies.spans {d : Draft} (hd : Modifies lo n (d, [])) (hle : n.pos ≤ n.stop)
    (map : LineMap) : (d.finish map).Spans n.pos n.stop lo :=
  ⟨hd.start_eq, hd.stop_eq, hle, hd.nested⟩

theorem enumeration (h : c.Nests tokens) (hi : c.arena.Stands tokens i n)
    (hfile : n.kind ≠ .sourceFile) : Yields (c.enumeration i n) (EsNode.Fits n.pos n.stop) := by
  have hle := hi.isLaidOut.pos_le_stop
  refine Conversion.yields_parts fun d hd => ?_
  have hp : Field.modifiers ∈ Pool.enumeration.childFields n.kind :=
    Pool.mem_childFields (by decide) (by decide) _
  refine (h.child (h.fits_declared hi hd .name (by decide)).node).bind fun id hid => ?_
  refine (h.list (h.fits_declared hi hd .members (by decide)).list).bind fun members hmembers => ?_
  refine (Conversion.yields_start _ n.pos n.stop).bind ?_
  rintro _ ⟨number, rfl⟩
  refine (h.modify hle number _ (.value hid (.value hmembers .nil)) fun r hr =>
    h.fits_modifier hi hd hp hr).bind fun draft hdraft => ?_
  exact h.exported hi hd hp (Arena.isBlank_of_data? hd (by decide)) hfile (hdraft.spans hle _)

theorem moduleDeclaration (h : c.Nests tokens) (hi : c.arena.Stands tokens i n)
    (hfile : n.kind ≠ .sourceFile) :
    Yields (c.moduleDeclaration i n) (EsNode.Fits n.pos n.stop) := by
  have hle := hi.isLaidOut.pos_le_stop
  refine Conversion.yields_parts fun d hd => ?_
  have hp : Field.modifiers ∈ Pool.moduleDecl.childFields n.kind :=
    Pool.mem_childFields (by decide) (by decide) _
  refine (h.child (h.fits_declared hi hd .name (by decide)).node).bind fun id hid => ?_
  refine (h.convert (h.fits_declared hi hd .body (by decide)).node).bind fun body hbody => ?_
  refine (Conversion.yields_start _ n.pos n.stop).bind ?_
  rintro _ ⟨number, rfl⟩
  refine (h.modify hle number _ (.value hid
    (.node? (fun es hes => (hbody es hes).nested) .nil)) fun r hr =>
      h.fits_modifier hi hd hp hr).bind fun draft hdraft => ?_
  refine h.exported hi hd hp (Arena.isBlank_of_data? hd (by decide)) hfile ?_
  cases n.hasFlag NodeFlag.globalBit with
  | false => exact hdraft.spans hle _
  | true => exact (hdraft.prop rfl).spans hle _

end Converter.Nests

end ScriptTree
