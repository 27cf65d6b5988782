import ScriptTree.Proofs.Convert.Outcome
import ScriptTree.Proofs.Convert.Tandem.Likeness

/-!
# Types outside the vocabulary

A strict run insists on the vocabulary, a lenient one does not. Both go on in the same way until the
strict one meets a name that is not in the vocabulary: then it stops, whatever the lenient one comes
to (`ScriptTree.Source.run_lenient`). So a strict run that has a result has the result of the lenient
one, and if it has none while the lenient one has, the vocabulary is to blame
(`ScriptTree.Document.convert_strict_lenient`).
-/

namespace ScriptTree

open Conversion

namespace ConvertOptions

/-- The same options, but types outside the vocabulary are let through. -/
def lenient (o : ConvertOptions) : ConvertOptions := { o with failOnUnknownNodeKind := false }

/-- The same options, but types outside the vocabulary are errors. -/
def insistent (o : ConvertOptions) : ConvertOptions := { o with failOnUnknownNodeKind := true }

end ConvertOptions

/-- A conversion has met a type outside the vocabulary. -/
def Halt.IsUnknownType (e : Halt) : Prop :=
  ∃ name, e = .failed (.unknownNodeType name)

namespace Source

variable {s : Source} {o : ConvertOptions}

/-- **Why conversions come to a halt**, the second of which is lenient. Only the first one may do so
because of a name, and only if it is strict and the name is not in the vocabulary. -/
def lenientHalts (s : Source) (here : NodeId → Prop) (ho : o.failOnUnknownNodeKind = false) :
    Halts s o here where
  both := fun e _ => ¬ e.IsUnknownType
  first := fun e => s.options.failOnUnknownNodeKind = true ∧
    ∃ name, e = .failed (.unknownNodeType name) ∧ AstType.ofName? name = none
  late := False
  failed := fun he ⟨name, hname⟩ => he name (Halt.failed.inj hname)
  strict := fun hstrict => absurd (ho.symm.trans hstrict) Bool.false_ne_true
  unknown := by
    intro name hname hstrict
    rw [if_neg (ho.symm ▸ Bool.false_ne_true)]
    exact ⟨hstrict, name, rfl, hname⟩
  exhausted := by
    rintro q - ⟨name, hname⟩
    cases hname
  endless := by
    rintro - q ⟨name, hname⟩
    cases hname
  settled := by
    refine fun _ => .inl ?_
    rintro q ⟨name, hname⟩
    cases hname
  placed := by
    refine fun _ _ => .inl ?_
    rintro q ⟨name, hname⟩
    cases hname

/-- **A lenient run builds the same as any other**, and what a strict one builds has types of the
vocabulary. -/
def lenience (s : Source) (o : ConvertOptions)
    (htext : o.useLiteralTextNodeForMarkupText = s.options.useLiteralTextNodeForMarkupText)
    (hmaps : o.provideCorrespondenceMaps = s.options.provideCorrespondenceMaps) :
    Likeness s o fun _ => True where
  holds := fun n => s.options.failOnUnknownNodeKind = true → n.head.type.known?.isSome = true
  states := fun p p' => p' = p
  counts := Progress.counts_of_eq
  type_eq := by
    rintro _ _ first stop (- | -)
    · rfl
    · rw [ConvertOptions.markupType, htext]
      rfl
  issue := Progress.issue_of_eq
  record := by
    rintro i p _ id - rfl
    rw [hmaps]
  start := by
    rintro _ _ _ _ id (⟨-, hknown⟩ | -) hstrict
    · exact hknown hstrict
    · rfl
  reopen := fun hn => hn
  prop := fun _ _ hd => hd
  startAt := fun _ _ hd => hd
  extendTo := fun _ hd => hd

variable {s : Source} {o : ConvertOptions}

/-- What two runs of a conversion come to, the second of which is lenient. -/
theorem run_lenient (ho : o.failOnUnknownNodeKind = false)
    (htext : o.useLiteralTextNodeForMarkupText = s.options.useLiteralTextNodeForMarkupText)
    (hmaps : o.provideCorrespondenceMaps = s.options.provideCorrespondenceMaps) (r : NodeRef)
    (p : Progress) :
    let run := (s.convert r).run.run p
    (s.options.failOnUnknownNodeKind = true ∧
      ∃ name, run.1 = .error (.failed (.unknownNodeType name)) ∧ AstType.ofName? name = none) ∨
    (((s.withOptions o).convert r).run.run p = run ∧ (∀ e, run.1 = .error e → ¬ e.IsUnknownType) ∧
      (s.options.failOnUnknownNodeKind = true → ∀ es, run.1 = .ok (some es) →
        ∀ head ∈ es.walk, head.type.known?.isSome = true)) := by
  -- The two runs go in tandem, until the first one meets a type outside of the vocabulary.
  let T := (s.lenience o htext hmaps).tie (fun _ => True) (s.lenientHalts _ ho) (fun _ => trivial)
    (fun _ _ => trivial) False.elim
  have htandem : T.Tandem 0 (s.convert r) ((s.withOptions o).convert r) (Holding.opt T.nodes) := by
    refine T.tandem_convert ?_ fun _ _ => trivial
    rintro q ⟨name, hname⟩
    cases hname
  have hstates : T.states 0 p p := rfl
  have hends := htandem.ends hstates
  generalize (s.convert r).run.run p = run, ((s.withOptions o).convert r).run.run p = run'
    at hends ⊢
  cases hends with
  | error he hq =>
    obtain rfl := hq
    refine .inr ⟨rfl, ?_, fun _ _ h => by cases h⟩
    rintro _ ⟨⟩
    exact he
  | stopped he =>
    obtain ⟨hstrict, name, rfl, hname⟩ := he
    exact .inl ⟨hstrict, name, rfl, hname⟩
  | late hlate => exact hlate.elim
  | ok hq hx =>
    obtain rfl := hq
    obtain ⟨rfl, hnodes⟩ := Likeness.eq_of_opt_nodes hx
    refine .inr ⟨?_, fun _ h => (by cases h), ?_⟩
    · rw [show EsNode.relabel (s.lenience o htext hmaps).labels = id from
        funext EsNode.relabel_default, Option.map_id]
      rfl
    · rintro hstrict es ⟨⟩ head hhead
      rw [EsNode.walk, EsValue.heads_eq, List.mem_map] at hhead
      obtain ⟨n, hn, rfl⟩ := hhead
      exact hnodes es rfl n hn hstrict

end Source

/-! ### Documents -/

/-- What is added to a converted root does not bring in a type. -/
theorem Source.not_isUnknownType_of_outcome {s : Source} {x : Except Halt (Option EsNode)}
    (hx : ∀ e, x = .error e → ¬ e.IsUnknownType) {e : Halt} (h : s.outcome x = .error e) :
    ¬ e.IsUnknownType := by
  rcases x with e' | _ | node
  · cases h
    exact hx e rfl
  · cases h
    rintro ⟨name, hname⟩
    cases hname
  · rw [outcome, emitted] at h
    split at h
    · cases h
      rintro ⟨name, hname⟩
      cases hname
    · cases h

/-- The root of a program is the one that was converted. -/
theorem Source.eq_of_outcome {s : Source} {x : Except Halt (Option EsNode)} {program : Program}
    (h : s.outcome x = .ok program) : x = .ok (some program.node) := by
  rcases x with e | _ | node
  · cases h
  · cases h
  · rw [outcome, emitted] at h
    split at h
    · cases h
    · cases h
      rfl

namespace Document

/-- **A run that is not lenient meets a name outside the vocabulary, or is one with the lenient
run.** -/
theorem convert_lenient (doc : Document) (o : ConvertOptions) :
    (o.failOnUnknownNodeKind = true ∧ ∃ name,
      (doc.convert o).1 = .error (.failed (.unknownNodeType name)) ∧
        AstType.ofName? name = none) ∨
    (doc.convert o.lenient = doc.convert o ∧
      (∀ e, (doc.convert o).1 = .error e → ¬ e.IsUnknownType) ∧
      (o.failOnUnknownNodeKind = true → ∀ program, (doc.convert o).1 = .ok program →
        ∀ head ∈ program.node.walk, head.type.known?.isSome = true)) := by
  rw [doc.convert_eq, doc.convert_eq]
  cases hfile : doc.file with
  | error e =>
    refine .inr ⟨rfl, ?_, fun _ _ h => by cases h⟩
    rintro _ ⟨⟩ ⟨name, hname⟩
    exact file_ne_unknownNodeType hfile name (Halt.failed.inj hname)
  | ok file =>
    obtain ⟨hstrict, name, hrun, hname⟩ | ⟨hrun, hhalt, hknown⟩ :=
      (doc.source file o).run_lenient (o := o.lenient) rfl rfl rfl doc.root {}
    · refine .inl ⟨hstrict, name, ?_, hname⟩
      exact congrArg (doc.source file o).outcome hrun
    · refine .inr ⟨?_, fun e => Source.not_isUnknownType_of_outcome hhalt, ?_⟩
      · exact congrArg (fun run => ((doc.source file o).outcome run.1, run.2.maps)) hrun
      · exact fun hstrict program hprogram => hknown hstrict _ (Source.eq_of_outcome hprogram)

/-- **A strict and a lenient run over a document.** If the strict run has a result, it is that of the
lenient one, with types of the vocabulary only. If the lenient run comes to a halt, it is not because
of a type, and the strict one comes to the same halt, unless it has met a type before. If only the
lenient run has a result, the strict one has met a type that is not in the vocabulary. -/
theorem convert_strict_lenient (doc : Document) (o : ConvertOptions) :
    (∀ program, (doc.convert o.insistent).1 = .ok program →
      doc.convert o.lenient = doc.convert o.insistent ∧
        ∀ head ∈ program.node.walk, head.type.known?.isSome = true) ∧
    (∀ e, (doc.convert o.lenient).1 = .error e → ¬ e.IsUnknownType ∧
      ((doc.convert o.insistent).1 = .error e ∨
        ∃ e', (doc.convert o.insistent).1 = .error e' ∧ e'.IsUnknownType)) ∧
    ∀ program e, (doc.convert o.lenient).1 = .ok program →
      (doc.convert o.insistent).1 = .error e →
        ∃ name, e = .failed (.unknownNodeType name) ∧ AstType.ofName? name = none := by
  have hlenient : ∀ e, (doc.convert o.lenient).1 = .error e → ¬ e.IsUnknownType := by
    obtain ⟨hfalse, -⟩ | ⟨-, hhalt, -⟩ := doc.convert_lenient o.lenient
    · cases hfalse
    · exact hhalt
  -- Either the strict run has met a type outside of the vocabulary, or the two are the same.
  obtain ⟨-, name, hrun, hname⟩ | ⟨hrun, -, hknown⟩ := doc.convert_lenient o.insistent
  · refine ⟨fun program hok => ?_, fun e he => ⟨hlenient e he, .inr ⟨_, hrun, name, rfl⟩⟩, ?_⟩
    · rw [hrun] at hok
      cases hok
    · rintro program e - he
      rw [hrun] at he
      cases he
      exact ⟨name, rfl, hname⟩
  · have hsame : doc.convert o.lenient = doc.convert o.insistent := hrun
    refine ⟨fun program hok => ⟨hsame, hknown rfl program hok⟩, fun e he => ?_, ?_⟩
    · exact ⟨hlenient e he, .inl (hsame ▸ he)⟩
    · intro program e hok he
      rw [hsame, he] at hok
      cases hok

/-! ### One statement -/

/-- The document of `;` in which the only statement has a given kind. -/
def lone (kind : SyntaxKind) : Document where
  arena := {
    nodes := #[.token kind 0 1, .token .endOfFileToken 1 1,
      { kind := .sourceFile, pos := 0, stop := 1, pool := some .sourceFile, dataIndex := 0 }]
    parents := #[some 2, some 2, none]
    pools := fun
      | .sourceFile => #[⟨⟨[some 0], 0, 1, false⟩, some 1, "input.ts", ";", .latest, false, [], ()⟩]
      | _ => #[] }
  root := some 2

/-- An empty statement is converted in the same way, strictly or not; a statement of an unknown kind
only by a lenient run. -/
theorem lone_strict_lenient :
    (∃ program, ((lone .emptyStatement).convert (.insistent .full)).1 = .ok program ∧
      (lone .emptyStatement).convert (.lenient .full) =
        (lone .emptyStatement).convert (.insistent .full) ∧
      ∀ head ∈ program.node.walk, head.type.known?.isSome = true) ∧
    ∃ program e, ((lone .unknown).convert (.lenient .full)).1 = .ok program ∧
      ((lone .unknown).convert (.insistent .full)).1 = .error e ∧
      ∃ name, e = .failed (.unknownNodeType name) ∧ AstType.ofName? name = none := by
  refine ⟨?_, ?_⟩
  · have hok : ((lone .emptyStatement).convert (.insistent .full)).1.isOk = true := by
      decide +kernel
    rcases hrun : ((lone .emptyStatement).convert (.insistent .full)).1 with e | program
    · rw [hrun] at hok
      cases hok
    · exact ⟨program, rfl, ((lone .emptyStatement).convert_strict_lenient .full).1 program hrun⟩
  · have hok : ((lone .unknown).convert (.lenient .full)).1.isOk = true := by decide +kernel
    have hfails : ((lone .unknown).convert (.insistent .full)).1.isOk = false := by decide +kernel
    rcases hrun : ((lone .unknown).convert (.lenient .full)).1 with e | program
    · rw [hrun] at hok
      cases hok
    rcases hrun' : ((lone .unknown).convert (.insistent .full)).1 with e | program'
    · exact ⟨program, e, rfl, rfl,
        ((lone .unknown).convert_strict_lenient .full).2.2 program e hrun hrun'⟩
    · rw [hrun'] at hfails
      cases hfails

end Document

end ScriptTree
