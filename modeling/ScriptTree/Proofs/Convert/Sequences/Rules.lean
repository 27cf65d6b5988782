import ScriptTree.Proofs.Convert.Depth
import ScriptTree.Proofs.Convert.Literals

/-!
# What may become a sequence

A sequence comes only of a comma, but perhaps by way of nodes that stand for it, such as
parentheses (`ScriptTree.Source.onlyOfCommas`). All other rules build a node of a type of their own
in their last step, and what they do before that does not matter to the type.
-/

namespace ScriptTree

open Conversion

/-! ### Sequences and commas -/

/-- A node is a sequence of expressions. -/
def EsNode.IsSequence (es : EsNode) : Prop := es.head.type = .known .sequenceExpression

namespace Arena

variable {a : Arena} {i j : NodeId}

/-- **A node stands for a child**: it becomes what the child becomes. -/
def StandsFor (a : Arena) (i j : NodeId) : Prop :=
  ∃ n, a.nodes[i]? = some n ∧ n.kind.standsForAnother = true ∧ a.IsChild i j

/-- A node is a comma, or stands for one, perhaps by way of others. -/
def MeansComma (a : Arena) (i : NodeId) : Prop :=
  ∃ j d, Relation.ReflTransGen a.StandsFor i j ∧ a.IsComma j d

/-- What stands for such a node is one, too. -/
theorem MeansComma.of_standsFor (h : a.MeansComma j) (hi : a.StandsFor i j) : a.MeansComma i := by
  obtain ⟨k, d, hj, hk⟩ := h
  exact ⟨k, d, .head hi hj, hk⟩

end Arena

namespace Conversion

variable {A : Prop}

/-- **A conversion makes a sequence only under a condition.** -/
def SequenceOnlyIf (A : Prop) (m : Conversion EsNode) : Prop :=
  Yields m fun es => es.IsSequence → A

/-- So does one that may make nothing. -/
def SequenceAtMostIf (A : Prop) (m : Conversion (Option EsNode)) : Prop :=
  Yields m fun x => ∀ es ∈ x, es.IsSequence → A

theorem SequenceAtMostIf.none : SequenceAtMostIf A (pure none) :=
  .pure fun es hes => absurd hes (Option.not_mem_none es)

theorem SequenceAtMostIf.some {m : Conversion EsNode} (h : SequenceOnlyIf A m) :
    SequenceAtMostIf A (some <$> m) :=
  .map (h.mono fun _ hes _ hy => Option.mem_some.mp hy ▸ hes)

namespace SequenceOnlyIf

/-- What a conversion makes is made in its last step. -/
theorem last {α : Type} {m : Conversion α} {f : α → Conversion EsNode}
    (h : ∀ x, SequenceOnlyIf A (f x)) : SequenceOnlyIf A (m >>= f) :=
  (Yields.trivial m).bind fun x _ => h x

protected theorem ite {P : Prop} [Decidable P] {m m' : Conversion EsNode}
    (h : SequenceOnlyIf A m) (h' : SequenceOnlyIf A m') :
    SequenceOnlyIf A (if P then m else m') :=
  Yields.ite (fun _ => h) fun _ => h'

theorem buildAt {s : Source} {type : AstType} {first stop : Nat}
    {fields : List (String × Option EsValue)} (h : decide (type ≠ .sequenceExpression)) :
    SequenceOnlyIf A (s.buildAt type first stop fields) := by
  refine (yields_buildAt s type first stop fields).mono ?_
  rintro _ ⟨id, rfl⟩ heq
  have htype := (Draft.fill_range (.new id type first stop) fields).2.2.symm.trans heq
  exact absurd (EsType.known.inj htype) (of_decide_eq_true h)

theorem build {s : Source} {type : AstType} {n : Node}
    {fields : List (String × Option EsValue)} (h : decide (type ≠ .sequenceExpression)) :
    SequenceOnlyIf A (s.build type n fields) :=
  buildAt h

end SequenceOnlyIf

end Conversion

namespace Converter

variable {c : Converter} {i : NodeId} {n : Node} {A : Prop}

/-! ### Rules that build a node of their own -/

/-- A converter makes a sequence only of what is a comma, or stands for one. -/
def OnlyOfCommas (c : Converter) : Prop :=
  ∀ r, Yields (c.convert r) fun x => ∀ es ∈ x, es.IsSequence →
    ∃ j, r = some j ∧ c.arena.MeansComma j

/-- What is exported may be a sequence, but an export is none. -/
theorem sequenceOnlyIf_exported {modifiers : Option NodeList} {declaration : EsNode}
    (h : declaration.IsSequence → A) : SequenceOnlyIf A (c.exported modifiers declaration) := by
  rw [exported]
  split
  · exact .pure h
  · exact .ite (.last fun _ => .ite (.buildAt rfl) (.buildAt rfl)) (.pure h)

/-- A declaration that is exported after it was built. -/
theorem sequenceOnlyIf_declaration {m : Conversion EsNode} (h : SequenceOnlyIf A m)
    (modifiers : Option NodeList) : SequenceOnlyIf A (m >>= c.exported modifiers) :=
  Yields.bind h fun _ => sequenceOnlyIf_exported

theorem sequenceOnlyIf_follow {r : Recipe} (h : r.type ≠ .sequenceExpression) :
    SequenceOnlyIf A (c.follow r i n) := by
  refine .last fun d => .last fun fields => Yields.bind (yields_start _ n.pos n.stop) ?_
  rintro _ ⟨id, rfl⟩
  refine SequenceOnlyIf.last fun later => Yields.pure fun heq => ?_
  have htype := (Draft.fill_range (.new id r.type n.pos n.stop) (fields ++ later)).2.2.symm
  exact absurd (EsType.known.inj (htype.trans heq)) h

/-- Modifiers do not change what a declaration is. -/
theorem yields_modify (draft : Draft) (modifiers : Option NodeList) :
    Yields (c.modify draft modifiers) fun d => d.type = draft.type := by
  have hfold : Yields (((modifiers.map NodeList.nodes).getD []).foldlM c.addModifier (draft, []))
      fun found => found.1.type = draft.type := by
    refine Yields.foldlM _ ?_ rfl
    rintro ⟨d, rest⟩ r hd -
    rw [addModifier]
    split
    · exact .pure hd
    · exact .pure hd
    · exact .pure hd
    · exact .pure hd
    · exact (Yields.trivial _).bind fun _ _ => .pure hd
  refine hfold.bind ?_
  rintro ⟨d, rest⟩ hd
  refine .pure ?_
  split
  · exact hd
  · exact hd

/-- A declaration that gets fields and modifiers, and the rest of its rule. -/
theorem sequenceOnlyIf_modified {type : AstType} {fields : List (String × Option EsValue)}
    {modifiers : Option NodeList} {f : Draft → Conversion EsNode}
    (hf : ∀ d, d.type = .known type → SequenceOnlyIf A (f d)) :
    SequenceOnlyIf A (do
      let draft ← Conversion.startOver type n
      let draft ← c.modify (draft.fill fields) modifiers
      f draft) := by
  refine Yields.bind (yields_start _ n.pos n.stop) ?_
  rintro _ ⟨id, rfl⟩
  refine Yields.bind (c.yields_modify _ modifiers) fun d hd => hf d ?_
  exact hd.trans (Draft.fill_range _ fields).2.2

theorem sequenceOnlyIf_enumeration : SequenceOnlyIf A (c.enumeration i n) := by
  refine .last fun d => .last fun id => .last fun members => sequenceOnlyIf_modified
    fun draft hdraft => ?_
  exact sequenceOnlyIf_exported fun heq => nomatch hdraft.symm.trans heq

theorem sequenceOnlyIf_moduleDeclaration : SequenceOnlyIf A (c.moduleDeclaration i n) := by
  refine .last fun d => .last fun id => .last fun body => sequenceOnlyIf_modified
    fun draft hdraft => ?_
  refine sequenceOnlyIf_exported fun heq => ?_
  have htype : ∀ v, (draft.propOpt "global" v).type = draft.type := fun v => by cases v <;> rfl
  exact nomatch (hdraft.symm.trans (htype _).symm).trans heq

theorem sequenceOnlyIf_variableStatement : SequenceOnlyIf A (c.variableStatement i n) := by
  refine .last fun d => ?_
  split
  · next j _ =>
    dsimp only
    split
    · refine .last fun parts => .last fun declarations => ?_
      exact sequenceOnlyIf_declaration (.build rfl) _
    · exact Yields.fail
  · exact Yields.fail

theorem sequenceOnlyIf_classLike : SequenceOnlyIf A (c.classLike i n) := by
  refine .last fun d => .last fun found => .last fun id => .last fun brace => .last fun members =>
    .last fun body => .last fun (superClass, superArguments) => .last fun implemented =>
    .last fun decorators => .last fun parameters =>
    Yields.bind (SequenceOnlyIf.build (A := A) ?_) ?_
  · split
    · rfl
    · split <;> rfl
  · exact fun result hresult =>
      SequenceOnlyIf.ite (sequenceOnlyIf_exported hresult) (Yields.pure hresult)

theorem sequenceOnlyIf_regexLiteral : SequenceOnlyIf A (c.regexLiteral n) := by
  rw [Source.regexLiteral]
  split
  · exact .build rfl
  · exact Yields.throw

theorem sequenceOnlyIf_templatePiece : SequenceOnlyIf A (c.templatePiece i n) :=
  .last fun _ => .ite (.last fun _ => .build rfl) (.last fun _ => .build rfl)

theorem sequenceOnlyIf_markupText : SequenceOnlyIf A (c.markupText n) :=
  .build (by split <;> rfl)

theorem sequenceOnlyIf_shorthandProperty : SequenceOnlyIf A (c.shorthandProperty i n) := by
  refine .last fun d => .last fun key => .last fun value => ?_
  dsimp only
  split
  · exact .last fun value => .build rfl
  · exact .last fun right => .last fun value => .build rfl

theorem sequenceOnlyIf_declarator : SequenceOnlyIf A (c.declarator i n) := by
  refine .last fun d => .last fun name => ?_
  dsimp only
  split
  · exact .last fun id => .last fun init => .build rfl
  · refine .last fun ascription => ?_
    split <;> exact .last fun id => .last fun init => .build rfl

theorem sequenceOnlyIf_method : SequenceOnlyIf A (c.method i n) := by
  refine .last fun d => .last fun key => .last fun value => .ite (.build rfl) ?_
  exact .last fun decorators => .build (by rw [methodType]; split <;> rfl)

theorem sequenceOnlyIf_constructorMethod : SequenceOnlyIf A (c.constructorMethod i n) := by
  refine .last fun d => .last fun index => ?_
  dsimp only
  split
  · exact .last fun key => .last fun value => .build (by rw [methodType]; split <;> rfl)
  · exact Yields.fail

theorem sequenceOnlyIf_exportDeclaration : SequenceOnlyIf A (c.exportDeclaration i n) := by
  refine .last fun d => .last fun source => ?_
  have everything : SequenceOnlyIf A (exportDeclaration.everything c n source) := .build rfl
  split
  · split
    · exact .ite (.last fun named => .last fun specifiers => .build rfl)
        (.last fun namespaced => .last fun exported => .build rfl)
    · exact everything
  · exact everything

theorem sequenceOnlyIf_typePredicate : SequenceOnlyIf A (c.typePredicate i n) := by
  refine .last fun d => .last fun name => ?_
  dsimp only
  split
  · exact .last fun ascription => .build rfl
  · exact .last fun inner => .last fun ascription => .build rfl

theorem sequenceOnlyIf_markupExpression : SequenceOnlyIf A (c.markupExpression i n) := by
  refine .last fun d => .last fun expression => ?_
  dsimp only
  split
  · exact .last fun expression => .build (by split <;> rfl)
  · exact .last fun expression => .build (by split <;> rfl)

/-! ### Parameters and elements of patterns -/

/-- A draft of another type that is given fields is no sequence. -/
theorem yields_startOver {type : AstType} (h : decide (type ≠ .sequenceExpression))
    {f : Draft → Draft} (hf : ∀ d, (f d).type = d.type) :
    Yields (do
      let draft ← Conversion.startOver type n
      pure (f draft)) fun d => d.type = .known .sequenceExpression → A := by
  refine Yields.bind (yields_start _ n.pos n.stop) ?_
  rintro _ ⟨id, rfl⟩
  refine .pure fun heq => absurd (EsType.known.inj ?_) (of_decide_eq_true h)
  exact (hf (.new id type n.pos n.stop)).symm.trans heq

/-- **A parameter is a sequence only if its name is one.** -/
theorem sequenceAtMostIf_parameter (hname : ∀ d, c.arena.data? .parameter n = some d →
    SequenceAtMostIf A (c.convert (d.get .name))) : SequenceAtMostIf A (c.parameter i n) := by
  refine yields_parts fun d hd => Yields.bind (hname d hd) fun x hx => ?_
  cases x with
  | none => exact SequenceAtMostIf.none
  | some name =>
    -- Every stage keeps the type that it is handed, or starts over with another one.
    have hrest : Yields (restParameter n d name) fun t =>
        t.type = .known .sequenceExpression → A :=
      .ite (fun _ => yields_startOver rfl fun _ => rfl) fun _ => .pure (hx name rfl)
    refine hrest.bind fun target htarget => ?_
    have hannotated : Yields (c.annotatedParameter d name.head.stop target) fun es =>
        es.IsSequence → A := by
      refine (Yields.trivial _).bind fun ascription _ => ?_
      refine .ite (fun _ => (Yields.trivial _).bind fun _ _ => .pure fun heq => htarget ?_)
        fun _ => .pure fun heq => htarget ?_
      all_goals cases ascription <;> exact heq
    refine hannotated.bind fun target htarget => ?_
    have hdefaulted {isProperty : Bool} : Yields (c.defaultedParameter n d isProperty target)
        fun t => t.type = .known .sequenceExpression → A := by
      refine .ite (fun _ => (Yields.trivial _).bind fun right _ => ?_) fun _ => .pure htarget
      refine yields_startOver (f := fun draft => (draft.startAt _).fill _) rfl fun draft => ?_
      exact (Draft.fill_range (draft.startAt _) _).2.2
    refine hdefaulted.bind fun result hresult => ?_
    have hproperty {modifiers : Option NodeList} :
        Yields (c.propertyParameter n modifiers result) fun t =>
          t.type = .known .sequenceExpression → A :=
      .ite (fun _ => yields_startOver rfl fun draft => (Draft.fill_range draft _).2.2) fun _ =>
        .pure hresult
    refine hproperty.bind fun result hresult => (Yields.trivial _).bind fun decorators _ => ?_
    refine .pure fun es hes heq => hresult ?_
    cases hes
    cases decorators <;> exact heq

/-- **An element of a pattern is a sequence only if its name is one.** -/
theorem sequenceAtMostIf_bindingElement
    (hname : ∀ d, c.arena.data? .bindingElement n = some d →
      SequenceAtMostIf A (c.convert (d.get .name))) :
    SequenceAtMostIf A (c.bindingElement i n) := by
  have hobject (d : Data .bindingElement) : SequenceOnlyIf A (c.objectElement n d) := by
    refine .last fun key => .last fun left => ?_
    dsimp only
    split
    · exact .last fun right => .last fun value => .build rfl
    · exact .last fun value => .build rfl
  refine yields_parts fun d hd => .ite (fun _ => ?_) fun _ =>
    .ite (fun _ => SequenceAtMostIf.some (hobject d)) fun _ => ?_
  · exact (Yields.trivial _).bind fun argument _ => SequenceAtMostIf.some (.build rfl)
  · rw [arrayElement]
    split
    · exact hname d hd
    · exact (Yields.trivial _).bind fun left _ => (Yields.trivial _).bind fun right _ =>
        SequenceAtMostIf.some (.build rfl)

/-! ### The rules -/

/-- The type of an operator is not that of a sequence. -/
theorem binaryType_ne_sequence (operator : SyntaxKind) :
    operator.binaryType ≠ .sequenceExpression := by
  rw [SyntaxKind.binaryType]
  split
  · decide
  · split <;> decide

theorem sequenceOnlyIf_operands {d : Data .binary} {isDefault : Bool} :
    SequenceOnlyIf A (c.operands n d isDefault) := by
  refine .last fun left => .last fun right => .ite (.build rfl) (.build ?_)
  exact decide_eq_true (binaryType_ne_sequence _)

/-- **An operator makes a sequence only if it is a comma.** -/
theorem sequenceOnlyIf_binary (hn : c.arena.nodes[i]? = some n) (hk : n.kind = .binaryExpression) :
    SequenceOnlyIf (c.arena.MeansComma i) (c.binary i n) := by
  refine yields_parts fun d hd => .ite (fun hcomma => ?_) fun _ => ?_
  · exact (Yields.trivial _).mono fun _ _ _ => ⟨i, d, .refl, n, hn, hk, hd, hcomma⟩
  · exact SequenceOnlyIf.ite (.last fun inside => sequenceOnlyIf_operands) sequenceOnlyIf_operands

/-- What a node stands for may be a sequence if the node means a comma. -/
theorem OnlyOfCommas.child (hc : c.OnlyOfCommas) (hn : c.arena.nodes[i]? = some n)
    (hother : n.kind.standsForAnother = true) {p : Pool} {d : Data p}
    (hd : c.arena.data? p n = some d) {f : Field} (hf : f ∈ p.childFields n.kind) :
    SequenceAtMostIf (c.arena.MeansComma i) (c.convert (d.nodeAt f)) := by
  refine (hc _).mono fun x hx es hes heq => ?_
  obtain ⟨j, hj, hmeans⟩ := hx es hes heq
  exact hmeans.of_standsFor ⟨n, hn, hother, Arena.isChild_of_nodeAt hn hd hf hj⟩

/-- **A rule of its own makes a sequence only of what means a comma.** -/
theorem sequenceAtMostIf_ownRule (hc : c.OnlyOfCommas) (hn : c.arena.nodes[i]? = some n)
    {m : Conversion (Option EsNode)} (hm : c.ownRule? i n = some m) :
    SequenceAtMostIf (c.arena.MeansComma i) m := by
  have inside {p : Pool} (hf : Field.expression ∈ p.childFields n.kind)
      (hother : n.kind.standsForAnother = true) :
      SequenceAtMostIf (c.arena.MeansComma i) (c.passThrough p i n) :=
    yields_parts fun d hd => hc.child hn hother hd hf
  have named {p : Pool} {d : Data p} [hf : Field.name.In p.layout] (hp : p ≠ .loop)
      (hd : c.arena.data? p n = some d) (hother : n.kind.standsForAnother = true) :
      SequenceAtMostIf (c.arena.MeansComma i) (c.convert (d.nodeAt .name)) :=
    hc.child hn hother hd (Pool.mem_childFields hp hf.mem n.kind)
  rw [ownRule?] at hm
  split at hm
  all_goals cases hm
  -- the file
  · exact .some (.last fun d => .last fun index => .last fun body => .buildAt rfl)
  -- names and literals
  · exact .some (.last fun d => .build rfl)
  · exact .some (.last fun d => .build rfl)
  · exact .some (.build rfl)
  · exact .some (.build rfl)
  · exact .some sequenceOnlyIf_regexLiteral
  · exact .some (.last fun d => .last fun piece => .build rfl)
  · exact .some sequenceOnlyIf_templatePiece
  · exact .some sequenceOnlyIf_templatePiece
  · exact .some sequenceOnlyIf_templatePiece
  · exact .some (.build rfl)
  · exact .some (.build rfl)
  · exact .some (.ite (.build rfl) (.build rfl))
  · exact .some sequenceOnlyIf_markupText
  · exact .some sequenceOnlyIf_markupText
  -- expressions
  · next hk => exact inside (by rw [hk]; decide) (by rw [hk]; rfl)
  · next hk => exact inside (by rw [hk]; decide) (by rw [hk]; rfl)
  · exact .some (.last fun d => .last fun head => .last fun spans => .build rfl)
  · exact .some (.last fun d => .last fun tag => .last fun types => .last fun quasi => .build rfl)
  · next hk => exact .some (sequenceOnlyIf_binary hn hk)
  · exact .some (.last fun d => .last fun argument => .build (by split <;> rfl))
  · exact .some (.last fun d => .last fun argument => .build (by split <;> rfl))
  · exact .some (.last fun d => .last fun stop => .last fun owner => .last fun property =>
      .build rfl)
  · exact .some (.last fun d => .last fun role => .last fun elements => .build (by split <;> rfl))
  · exact .some (.last fun d => .last fun role => .last fun properties =>
      .build (by split <;> rfl))
  · exact .some sequenceOnlyIf_shorthandProperty
  · exact .some (.last fun d => .last fun inside => .last fun argument =>
      .build (by split <;> rfl))
  · exact .some (.last fun d => .last fun inside => .last fun argument =>
      .build (by split <;> rfl))
  -- variables, functions and classes
  · next hk =>
    exact sequenceAtMostIf_bindingElement fun d hd => named (by decide) hd (by rw [hk]; rfl)
  · exact .some sequenceOnlyIf_variableStatement
  · exact .some sequenceOnlyIf_declarator
  · exact .some (.last fun d => sequenceOnlyIf_declaration
      (sequenceOnlyIf_follow (by split <;> decide)) _)
  · next hk =>
    exact sequenceAtMostIf_parameter fun d hd => named (by decide) hd (by rw [hk]; rfl)
  · exact .some sequenceOnlyIf_classLike
  · exact .some sequenceOnlyIf_classLike
  · exact .some (.last fun d => .last fun key => .last fun value => .last fun type =>
      .last fun decorators => .build (by split <;> rfl))
  · exact .some sequenceOnlyIf_method
  · exact .some sequenceOnlyIf_method
  · exact .some sequenceOnlyIf_method
  · exact .some sequenceOnlyIf_constructorMethod
  -- clauses
  · exact .some (.last fun d => .last fun discriminant => .last fun cases => .build rfl)
  · exact .some (.last fun d => .last fun param => .last fun body => .build rfl)
  -- imports and exports
  · exact .some (.last fun d => .last fun source => .last fun specifiers => .build rfl)
  · exact .some (.last fun d => .last fun inner => .last fun outer => .build rfl)
  · exact .some sequenceOnlyIf_exportDeclaration
  · exact .some (.last fun d => .last fun inner => .last fun outer => .build rfl)
  · exact .some (.last fun d => .last fun expression => .ite (.build rfl) (.build rfl))
  -- types and their declarations
  · exact .some (.last fun d => .last fun id => .last fun parameters => .last fun type =>
      .last fun declarator => sequenceOnlyIf_declaration (.build rfl) _)
  · exact .some sequenceOnlyIf_typePredicate
  · exact .some (.last fun d => .last fun brace => .last fun members => .last fun body =>
      .last fun id => .last fun heritage => .last fun parameters => .last fun decorators =>
      sequenceOnlyIf_declaration (.build rfl) _)
  · exact .some sequenceOnlyIf_enumeration
  · exact .some sequenceOnlyIf_moduleDeclaration
  -- markup
  · exact .some (.last fun tag => .build rfl)
  · exact .some (.last fun d => .last fun types => .last fun name => .last fun attributes =>
      .build rfl)
  · exact .some (.last fun d => .last fun name => .last fun value => .build rfl)
  · exact .some sequenceOnlyIf_markupExpression

/-- No kind makes the type of a sequence without a rule of its own. -/
theorem type_ne_sequence (kind : SyntaxKind) :
    (∀ type ∈ kind.bareType?, type ≠ .sequenceExpression) ∧
      (∀ r ∈ kind.recipe?, r.type ≠ .sequenceExpression) ∧
      kind.syntheticName ≠ AstType.name .sequenceExpression := by
  have hall : ∀ k ∈ SyntaxKind.all, (∀ type ∈ k.bareType?, type ≠ .sequenceExpression) ∧
      (∀ r ∈ k.recipe?, r.type ≠ .sequenceExpression) ∧
      k.syntheticName ≠ AstType.name .sequenceExpression := by decide +kernel
  exact hall kind kind.mem_all

theorem sequenceOnlyIf_synthesize : SequenceOnlyIf A (c.synthesize i n) := by
  have htype : EsType.ofName n.kind.syntheticName ≠ .known .sequenceExpression := fun h =>
    (type_ne_sequence n.kind).2.2 (EsType.name_of_ofName h).symm
  rw [synthesize]
  refine Yields.ite (fun _ => Yields.fail) fun _ => Yields.bind (yields_start _ n.pos n.stop) ?_
  rintro _ ⟨id, rfl⟩
  split
  · exact .pure fun heq => absurd heq htype
  · refine SequenceOnlyIf.last fun d => .last fun fields => Yields.pure fun heq => ?_
    exact absurd ((Draft.fill_range _ fields).2.2.symm.trans heq) htype

/-- **A rule makes a sequence only of what means a comma.** -/
theorem sequenceAtMostIf_visit (hc : c.OnlyOfCommas) (hn : c.arena.nodes[i]? = some n) :
    SequenceAtMostIf (c.arena.MeansComma i) (c.visit i n) := by
  obtain ⟨hbare, hrecipe, -⟩ := type_ne_sequence n.kind
  rw [visit]
  refine Yields.ite (fun _ => SequenceAtMostIf.none) fun _ => ?_
  split
  · next type htype => exact SequenceAtMostIf.some (.build (decide_eq_true (hbare type htype)))
  · split
    · next r hr => exact SequenceAtMostIf.some (sequenceOnlyIf_follow (hrecipe r hr))
    · split
      · next hrule => exact sequenceAtMostIf_ownRule hc hn hrule
      · exact SequenceAtMostIf.some sequenceOnlyIf_synthesize

end Converter

namespace Source

variable {s : Source}

/-- Nothing comes of a node that is not there. -/
theorem yields_convert_absent (s : Source) (depth : Nat) {r : NodeRef} (hr : s.node? r = none) :
    Yields ((s.converter depth).convert r) fun x => x = none := by
  cases depth with
  | zero => exact Yields.throw
  | succ depth =>
    rw [converter_eq]
    change Yields ((s.onwards (s.ways depth)).convert r) _
    rw [(onwards_of_node?_eq_none hr _).1]
    exact Yields.pure rfl

/-- **A sequence comes only of what means a comma**, however far a converter goes down. -/
theorem onlyOfCommas (s : Source) (depth : Nat) : (s.converter depth).OnlyOfCommas := by
  induction depth with
  | zero => exact fun r => Yields.throw
  | succ depth ih =>
    intro r
    rw [s.toSource_converter (depth + 1)]
    have hsource := s.toSource_converter depth
    cases hr : s.node? r with
    | none =>
      refine (s.yields_convert_absent _ hr).mono ?_
      rintro _ rfl
      exact fun es hes => absurd hes (Option.not_mem_none es)
    | some n =>
      obtain ⟨i, rfl, hn⟩ := Option.bind_eq_some_iff.mp hr
      have hn : (s.converter depth).arena.nodes[i]? = some n := hsource.symm ▸ hn
      refine (Converter.yields_visitAt hn (Converter.sequenceAtMostIf_visit ih hn)).mono ?_
      exact fun x hx es hes heq => ⟨i, rfl, hsource ▸ hx es hes heq⟩

end Source

end ScriptTree
