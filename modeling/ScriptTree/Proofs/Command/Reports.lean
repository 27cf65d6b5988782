import Mathlib.Data.List.Nodup
import ScriptTree.Command.Run

/-!
# What a run reports

A run reads all inputs, converts them, and then prints the results or writes them to a folder. Which
result belongs to which input is told by places only: the targets are chosen before anything is read,
and the results of the inputs that cannot be converted are left out one by one. So what has to be seen
is that the three lists stay side by side (`ScriptTree.Arguments.items`).

What the files hold, and whether they can be read and written, is given by surroundings that may
answer differently each time (`ScriptTree.Surroundings`). They keep a record of all that was asked of
them, and a run is told by its report together with this record
(`ScriptTree.Arguments.run_accounts`). A run that has its targets, can go on with every input and can
write every result is not aborted (`ScriptTree.Arguments.exists_report`).

Targets are chosen for a folder only. They are pairwise distinct, or else the run is aborted before
any folder is made (`ScriptTree.outputTargets_eq_ok_iff`). What is printed needs no target, so inputs
of one name may be printed one after the other.
-/

namespace ScriptTree

/-! ### Targets -/

namespace Path

/-- The name of the result for an input. -/
def resultName (input : String) : Text := outputName input.toList

/-- The path of the result for an input in a folder. -/
def target (folder input : String) : String :=
  String.ofList (join folder.toList (resultName input))

theorem join_injective (folder : Text) : Function.Injective (join folder) := by
  intro u v h
  unfold join at h
  split_ifs at h
  · exact List.append_cancel_left h
  · exact (List.cons.inj (List.append_cancel_left h)).2

/-- Inputs have the same target if and only if their results have the same name. -/
theorem target_eq_iff {folder i j : String} :
    target folder i = target folder j ↔ resultName i = resultName j := by
  constructor
  · intro h
    have hjoin := congrArg String.toList h
    rw [target, target, String.toList_ofList, String.toList_ofList] at hjoin
    exact join_injective _ hjoin
  · intro h
    rw [target, h, target]

end Path

open ScriptTree.Path

variable {folder : String} {inputs targets : List String} {claimed : List (Text × String)}
  {f : Failure}

/-- A name that is not taken is taken by the next input. -/
theorem claimTargets_cons (folder : String) (claimed : List (Text × String)) (input : String)
    (inputs : List String) :
    claimTargets folder claimed (input :: inputs) =
      match claimed.lookup (resultName input) with
      | some first => .error ⟨[], .sameTarget first input (target folder input)⟩
      | none => (claimTargets folder ((resultName input, input) :: claimed) inputs).map
          (target folder input :: ·) := by
  rw [claimTargets]
  unfold resultName target
  cases claimed.lookup (outputName input.toList) with
  | some first => rfl
  | none => exact bind_pure_comp ..

/-- The names of further inputs are not taken if they are neither the one that is taken now nor one
that was taken before. -/
theorem forall_lookup_cons_iff :
    (∀ i ∈ inputs, ((resultName input, input) :: claimed).lookup (resultName i) = none) ↔
      resultName input ∉ inputs.map resultName ∧
        ∀ i ∈ inputs, claimed.lookup (resultName i) = none := by
  have hne {i : String} (hname : resultName i ≠ resultName input) :
      ((resultName input, input) :: claimed).lookup (resultName i) =
        claimed.lookup (resultName i) := by
    rw [List.lookup_cons, beq_eq_false_iff_ne.mpr hname]
  constructor
  · intro h
    have hnew : resultName input ∉ inputs.map resultName := by
      intro hmem
      obtain ⟨i, hi, hname⟩ := List.mem_map.mp hmem
      have hi := h i hi
      rw [hname, List.lookup_cons_self] at hi
      cases hi
    refine ⟨hnew, fun i hi => ?_⟩
    rw [← hne fun hname => hnew (hname ▸ List.mem_map_of_mem hi)]
    exact h i hi
  · rintro ⟨hnew, hold⟩ i hi
    rw [hne fun hname => hnew (hname ▸ List.mem_map_of_mem hi)]
    exact hold i hi

/-- **Targets are chosen if and only if no name is taken twice**, and then they are those of the
inputs. -/
theorem claimTargets_eq_ok_iff : claimTargets folder claimed inputs = .ok targets ↔
    (inputs.map resultName).Nodup ∧ (∀ i ∈ inputs, claimed.lookup (resultName i) = none) ∧
      targets = inputs.map (target folder) := by
  induction inputs generalizing claimed targets with
  | nil =>
    rw [claimTargets, Except.ok.injEq, eq_comm]
    simp
  | cons input inputs ih =>
    rw [claimTargets_cons, List.map_cons, List.nodup_cons, List.forall_mem_cons, List.map_cons]
    cases hlookup : claimed.lookup (resultName input) with
    | some first => exact iff_of_false nofun fun h => absurd h.2.1.1 nofun
    | none =>
      constructor
      · intro h
        obtain ⟨rest, hrest, rfl⟩ : ∃ rest, claimTargets folder
            ((resultName input, input) :: claimed) inputs = .ok rest ∧
              target folder input :: rest = targets := by
          dsimp only at h
          cases hrest : claimTargets folder ((resultName input, input) :: claimed) inputs with
          | error f =>
            rw [hrest] at h
            cases h
          | ok rest =>
            rw [hrest] at h
            exact ⟨rest, rfl, Except.ok.inj h⟩
        obtain ⟨hnodup, hfree, rfl⟩ := ih.mp hrest
        obtain ⟨hnew, hold⟩ := forall_lookup_cons_iff.mp hfree
        exact ⟨⟨hnew, hnodup⟩, ⟨rfl, hold⟩, rfl⟩
      · rintro ⟨⟨hnew, hnodup⟩, ⟨-, hold⟩, rfl⟩
        have hrest := ih.mpr ⟨hnodup, forall_lookup_cons_iff.mpr ⟨hnew, hold⟩, rfl⟩
        dsimp only
        rw [hrest]
        rfl

/-- If no targets are chosen, two inputs have the same target. -/
theorem exists_of_claimTargets_eq_error (h : claimTargets folder claimed inputs = .error f)
    (hclaimed : ∀ p ∈ claimed, p.1 = resultName p.2) :
    ∃ first second, resultName first = resultName second ∧
      f = ⟨[], .sameTarget first second (target folder second)⟩ := by
  induction inputs generalizing claimed with
  | nil => cases h
  | cons input inputs ih =>
    rw [claimTargets_cons] at h
    cases hlookup : claimed.lookup (resultName input) with
    | some first =>
      rw [hlookup] at h
      cases h
      obtain ⟨before, behind, hmem, -⟩ := List.lookup_eq_some_iff.mp hlookup
      have hname := hclaimed (resultName input, first) (by rw [hmem]; simp)
      exact ⟨first, input, hname.symm, rfl⟩
    | none =>
      rw [hlookup] at h
      dsimp only at h
      cases hrest : claimTargets folder ((resultName input, input) :: claimed) inputs with
      | error g =>
        rw [hrest] at h
        cases h
        exact ih hrest (List.forall_mem_cons.mpr ⟨rfl, hclaimed⟩)
      | ok rest =>
        rw [hrest] at h
        cases h

/-- **There is a target for each input if and only if all results have different names.** -/
theorem outputTargets_eq_ok_iff : outputTargets folder inputs = .ok targets ↔
    (inputs.map resultName).Nodup ∧ targets = inputs.map (target folder) := by
  rw [outputTargets, claimTargets_eq_ok_iff]
  simp

/-- Else two of them have the same target. -/
theorem exists_of_not_nodup (folder : String) (h : ¬ (inputs.map resultName).Nodup) :
    ∃ first second, target folder first = target folder second ∧
      outputTargets folder inputs =
        .error ⟨[], .sameTarget first second (target folder second)⟩ := by
  cases htargets : outputTargets folder inputs with
  | ok targets => exact absurd (outputTargets_eq_ok_iff.mp htargets).1 h
  | error f =>
    obtain ⟨first, second, hname, rfl⟩ := exists_of_claimTargets_eq_error htargets nofun
    exact ⟨first, second, target_eq_iff.mpr hname, rfl⟩

/-- Different names are different targets. -/
theorem nodup_target (folder : String) (h : (inputs.map resultName).Nodup) :
    (inputs.map (target folder)).Nodup := by
  refine (List.nodup_map_iff_inj_on h.of_map).mpr fun i hi j hj htarget => ?_
  exact List.inj_on_of_nodup_map h hi hj (target_eq_iff.mp htarget)

/-! ### Surroundings -/

/-- What is asked of the surroundings of a run, and how writing has gone. -/
inductive Access
  | read (path : String)
  | isFolder (path : String)
  | makeFolder (path : String)
  | write (target : String) (text : Text) (outcome : Except FileError Unit)
  | print (text : Text)

/-- Something goes out: a file is written to, or something is printed. -/
def Access.IsOutput : Access → Prop
  | .write .. | .print _ => True
  | .read _ | .isFolder _ | .makeFolder _ => False

/-- What files hold, and whether they can be read and written. The answers may depend on all that was
asked before. -/
structure Surroundings where
  read : List Access → String → Except FileError Text
  isFolder : List Access → String → Bool
  makeFolder : List Access → String → Except FileError Unit
  write : List Access → String → Text → Except FileError Unit

namespace Surroundings

/-- Surroundings as a disk that keeps a record of what is asked of it. -/
def disk (s : Surroundings) : Disk (StateM (List Access)) where
  read path log := (s.read log path, log ++ [.read path])
  isFolder path log := (s.isFolder log path, log ++ [.isFolder path])
  makeFolder path log := (s.makeFolder log path, log ++ [.makeFolder path])
  write target text log :=
    (s.write log target text, log ++ [.write target text (s.write log target text)])
  print text log := ((), log ++ [.print text])

/-- What is read of some files, one after the other. -/
def readAll (s : Surroundings) : List Access → List String → List (Except FileError Text)
  | _, [] => []
  | log, path :: paths => s.read log path :: s.readAll (log ++ [.read path]) paths

@[simp] theorem length_readAll (s : Surroundings) (log : List Access) (paths : List String) :
    (s.readAll log paths).length = paths.length := by
  induction paths generalizing log with
  | nil => rfl
  | cons path paths ih => rw [readAll, List.length_cons, ih, List.length_cons]

end Surroundings

/-! ### Steps of a run -/

/-- A run in given surroundings: what comes out of it, and the record. -/
def runIn {α : Type} (x : ExceptT Failure (StateM (List Access)) α) (log : List Access) :
    Except Failure α × List Access :=
  x.run.run log

variable {α β : Type} {log log' : List Access} {s : Surroundings}

theorem runIn_pure (a : α) (log : List Access) : runIn (pure a) log = (.ok a, log) := rfl

/-- An access is made in any case. -/
theorem runIn_lift (x : StateM (List Access) α) (log : List Access) :
    runIn (liftM x) log = (.ok (x.run log).1, (x.run log).2) := rfl

/-- What comes first is run first, and what follows runs on from there. -/
theorem runIn_bind (x : ExceptT Failure (StateM (List Access)) α)
    (g : α → ExceptT Failure (StateM (List Access)) β) (log : List Access) :
    runIn (x >>= g) log = match runIn x log with
      | (.ok a, log) => runIn (g a) log
      | (.error f, log) => (.error f, log) := by
  unfold runIn
  rw [ExceptT.run_bind, StateT.run_bind]
  generalize StateT.run x.run log = p
  obtain ⟨r, between⟩ := p
  cases r <;> rfl

/-- A run that is not aborted goes through all of its steps. -/
theorem runIn_bind_ok {x : ExceptT Failure (StateM (List Access)) α}
    {g : α → ExceptT Failure (StateM (List Access)) β} {b : β}
    (h : runIn (x >>= g) log = (.ok b, log')) :
    ∃ a between, runIn x log = (.ok a, between) ∧ runIn (g a) between = (.ok b, log') := by
  rw [runIn_bind] at h
  cases hx : runIn x log with
  | mk r between =>
    rw [hx] at h
    cases r with
    | error f => cases h
    | ok a => exact ⟨a, between, rfl, h⟩

/-- A run goes on behind an access only if it was successful. -/
theorem runIn_orAbort_ok {context : String} {outcome : Except FileError α} {a : α}
    (h : runIn (orAbort context outcome) log = (.ok a, log')) : outcome = .ok a ∧ log' = log := by
  cases outcome with
  | error e => cases h
  | ok b =>
    cases h
    exact ⟨rfl, rfl⟩

/-- Some steps only ask for things: what they ask is put behind the record. -/
def OnlyAsks (x : StateM (List Access) α) : Prop :=
  ∀ log, ∃ r asked, x.run log = (r, log ++ asked) ∧ ∀ access ∈ asked, ¬ access.IsOutput

theorem OnlyAsks.pure (a : α) : OnlyAsks (Pure.pure a) :=
  fun log => ⟨a, [], by rw [List.append_nil]; rfl, nofun⟩

theorem OnlyAsks.bind {x : StateM (List Access) α} {g : α → StateM (List Access) β}
    (hx : OnlyAsks x) (hg : ∀ a, OnlyAsks (g a)) : OnlyAsks (x >>= g) := by
  intro log
  obtain ⟨a, asked, hrun, hasked⟩ := hx log
  obtain ⟨b, more, hmore, hmoreAsked⟩ := hg a (log ++ asked)
  refine ⟨b, asked ++ more, ?_, ?_⟩
  · rw [StateT.run_bind, hrun, ← List.append_assoc]
    exact hmore
  · intro access haccess
    exact (List.mem_append.mp haccess).elim (hasked access) (hmoreAsked access)

/-- Making folders is no output. -/
theorem onlyAsks_ensureFolder (s : Surroundings) (path : String) :
    OnlyAsks (ensureFolder s.disk path) := by
  have hmake : OnlyAsks (s.disk.makeFolder path) := fun log => ⟨_, [_], rfl, by simp [Access.IsOutput]⟩
  have hask : OnlyAsks (s.disk.isFolder path) := fun log => ⟨_, [_], rfl, by simp [Access.IsOutput]⟩
  refine hmake.bind fun outcome => ?_
  split
  · exact hask.bind fun _ => .pure _
  · exact .pure _

theorem onlyAsks_ensureFolders (s : Surroundings) (paths : List String) :
    OnlyAsks (ensureFolders s.disk paths) := by
  induction paths with
  | nil => exact .pure _
  | cons path around ih =>
    refine (onlyAsks_ensureFolder s path).bind fun outcome => ?_
    split
    · refine ih.bind fun outcome => ?_
      split
      · exact onlyAsks_ensureFolder s path
      · exact .pure _
    · exact .pure _

/-- The text of a result. -/
theorem render_eq_ok {options : ConvertOptions} {pretty : Bool} {path : String} {text : Text}
    {document : Document} {output : Output} (hread : Document.ofText? text = some document)
    (houtput : document.output options = .ok output) :
    Document.render options pretty path (.ok text) =
      .ok (if pretty then output.toJson.pretty 0 else output.toJson.compact) := by
  rw [Document.render]
  dsimp only
  rw [hread]
  dsimp only
  rw [houtput]

/-! ### Results one after the other -/

/-- An input with its target, if it has one, and its result. -/
abbrev Item := String × Option String × Except Failure Text

namespace Item

/-- An input without a result. -/
def failure? : Item → Option (String × Failure)
  | (input, _, .error f) => some (input, f)
  | (_, _, .ok _) => none

/-- The target of a result that is written. -/
def written? : Item → Option String
  | (_, target, .ok _) => target
  | (_, _, .error _) => none

/-- The output of a result: it is written to its target, or printed with the end of a line. -/
def output? : Item → Option Access
  | (_, target, .ok text) => some (match target with
    | some target => .write target text (.ok ())
    | none => .print (text ++ ['\n']))
  | (_, _, .error _) => none

/-- An input is a failure or has an output, and not both. -/
theorem failure?_eq_none_iff (item : Item) : item.failure? = none ↔ item.output?.isSome = true := by
  obtain ⟨input, target, result⟩ := item
  cases result with
  | error f => exact iff_of_false nofun nofun
  | ok text => exact iff_of_true rfl rfl

end Item

/-- One result. -/
theorem runIn_emit {report report' : Report} {item : Item}
    (h : runIn (emit s.disk report item.1 item.2.1 item.2.2) log = (.ok report', log')) :
    report' = ⟨report.written ++ item.written?.toList,
        report.converted + item.output?.toList.length,
        report.failures ++ item.failure?.toList⟩ ∧
      log' = log ++ item.output?.toList := by
  obtain ⟨input, target, result⟩ := item
  cases result with
  | error f =>
    cases h
    simp [Item.written?, Item.output?, Item.failure?]
  | ok text =>
    cases target with
    | none =>
      cases h
      simp [Item.written?, Item.output?, Item.failure?]
    | some target =>
      -- The run goes on only if the file could be written.
      obtain ⟨outcome, between, hwrite, hrest⟩ := runIn_bind_ok h
      cases hwrite
      obtain ⟨_, between, hwritten, hnoted⟩ := runIn_bind_ok hrest
      obtain ⟨houtcome, rfl⟩ := runIn_orAbort_ok hwritten
      cases hnoted
      rw [houtcome]
      simp [Item.written?, Item.output?, Item.failure?]

/-- All results. -/
theorem runIn_emitAll {report report' : Report} {items : List Item}
    (h : runIn (emitAll s.disk report items) log = (.ok report', log')) :
    report' = ⟨report.written ++ items.filterMap Item.written?,
        report.converted + (items.filterMap Item.output?).length,
        report.failures ++ items.filterMap Item.failure?⟩ ∧
      log' = log ++ items.filterMap Item.output? := by
  induction items generalizing report log with
  | nil =>
    cases h
    simp
  | cons item items ih =>
    obtain ⟨next, between, hitem, hitems⟩ := runIn_bind_ok h
    obtain ⟨rfl, rfl⟩ := runIn_emit hitem
    obtain ⟨rfl, rfl⟩ := ih hitems
    rw [List.filterMap_cons, List.filterMap_cons, List.filterMap_cons]
    cases item.written? <;> cases item.output? <;> cases item.failure? <;>
      simp [Nat.add_comm, Nat.add_left_comm]

/-- No result stops the others where all can be written. -/
theorem exists_runIn_emitAll (hwrite : ∀ log target text, s.write log target text = .ok ())
    (report : Report) (items : List Item) (log : List Access) :
    ∃ report' log', runIn (emitAll s.disk report items) log = (.ok report', log') := by
  induction items generalizing report log with
  | nil => exact ⟨report, log, rfl⟩
  | cons item items ih =>
    have hitem : ∃ next between,
        runIn (emit s.disk report item.1 item.2.1 item.2.2) log = (.ok next, between) := by
      obtain ⟨input, target, result⟩ := item
      cases result with
      | error f => exact ⟨_, _, rfl⟩
      | ok text =>
        cases target with
        | none => exact ⟨_, _, rfl⟩
        | some target =>
          dsimp only
          rw [emit, runIn_bind, runIn_lift]
          have houtcome : ((s.disk.write target text).run log).1 = .ok () := hwrite log target text
          dsimp only
          rw [houtcome]
          exact ⟨_, _, rfl⟩
    obtain ⟨next, between, hnext⟩ := hitem
    obtain ⟨report', log', hrest⟩ := ih next between
    refine ⟨report', log', ?_⟩
    rw [emitAll, runIn_bind, hnext]
    exact hrest

/-- Every input is counted once. -/
theorem length_output_add_failure (items : List Item) :
    (items.filterMap Item.output?).length + (items.filterMap Item.failure?).length =
      items.length := by
  induction items with
  | nil => rfl
  | cons item items ih =>
    obtain ⟨input, target, result⟩ := item
    cases result with
    | error f =>
      rw [List.filterMap_cons_none (f := Item.output?) rfl,
        List.filterMap_cons_some (f := Item.failure?) rfl, List.length_cons, List.length_cons, ← ih,
        Nat.add_assoc]
    | ok text =>
      rw [List.filterMap_cons_some (f := Item.output?) rfl,
        List.filterMap_cons_none (f := Item.failure?) rfl, List.length_cons, List.length_cons, ← ih,
        Nat.add_right_comm]

/-! ### Whole runs -/

namespace Arguments

/-- The target of an input, if results are written to a folder. -/
def target? (arguments : Arguments) (input : String) : Option String :=
  arguments.outputFolder.map fun folder => target folder input

/-- The inputs side by side with their targets and with the results of what was read of them. -/
def items (arguments : Arguments) (options : ConvertOptions)
    (contents : List (Except FileError Text)) : List Item :=
  (arguments.inputs.zip contents).map fun p => (p.1, arguments.target? p.1,
    Document.render options (arguments.flags.contains .pretty) p.1 p.2)

/-- Lists side by side of which two are made from others. -/
theorem zip_zip_map {α β γ δ : Type} (g : α → γ) (r : α → β → δ) (as : List α) (bs : List β) :
    as.zip ((as.map g).zip (List.zipWith r as bs)) =
      (as.zip bs).map fun p => (p.1, g p.1, r p.1 p.2) := by
  induction as generalizing bs with
  | nil => rfl
  | cons a as ih =>
    cases bs with
    | nil => simp
    | cons b bs => simp [ih]

variable {arguments : Arguments} {options : ConvertOptions}
  {contents : List (Except FileError Text)}

/-- There is an item for each input, in their order. -/
theorem map_fst_items (arguments : Arguments) (options : ConvertOptions)
    (h : contents.length = arguments.inputs.length) :
    (arguments.items options contents).map Prod.fst = arguments.inputs := by
  rw [items, List.map_map]
  exact List.map_fst_zip (Nat.le_of_eq h.symm)

/-- The target of an item is that of its input. -/
theorem target_of_mem_items {item : Item} (h : item ∈ arguments.items options contents) :
    item.2.1 = arguments.target? item.1 := by
  obtain ⟨p, -, rfl⟩ := List.mem_map.mp h
  rfl

/-- No two results are written to the same file. -/
theorem nodup_written (hlength : contents.length = arguments.inputs.length)
    (hnodup : ∀ folder, arguments.outputFolder = some folder →
      (arguments.inputs.map resultName).Nodup) :
    ((arguments.items options contents).filterMap Item.written?).Nodup := by
  -- Whatever is written goes to the target of its input.
  have htarget {item : Item} {path : String} (hitem : item ∈ arguments.items options contents)
      (hwritten : item.written? = some path) :
      ∃ folder, arguments.outputFolder = some folder ∧ path = target folder item.1 := by
    have hpath : item.2.1 = some path := by
      obtain ⟨input, goal, result⟩ := item
      cases result with
      | error f => cases hwritten
      | ok text => exact hwritten
    rw [target_of_mem_items hitem, target?] at hpath
    obtain ⟨folder, hfolder, rfl⟩ := Option.map_eq_some_iff.mp hpath
    exact ⟨folder, hfolder, rfl⟩
  rw [List.Nodup, List.pairwise_filterMap]
  cases hfolder : arguments.outputFolder with
  | none =>
    refine (List.pairwise_of_forall fun _ _ => trivial).imp_of_mem (R := fun _ _ => True) ?_
    intro a b ha hb _ p hp
    obtain ⟨folder, hsome, -⟩ := htarget ha hp
    rw [hfolder] at hsome
    cases hsome
  | some folder =>
    have hnames := hnodup folder hfolder
    rw [← map_fst_items arguments options hlength, List.map_map, List.Nodup,
      List.pairwise_map] at hnames
    refine hnames.imp_of_mem fun ha hb hne p hp q hq heq => hne ?_
    obtain ⟨d, hd, rfl⟩ := htarget ha hp
    obtain ⟨d', hd', rfl⟩ := htarget hb hq
    rw [hd] at hd'
    obtain rfl := Option.some.inj hd'
    exact target_eq_iff.mp heq

/-- The options that are read of a file, if one is named. -/
def baseOptions (arguments : Arguments) (s : Surroundings) (log : List Access) :
    Except Failure ConvertOptions :=
  match arguments.config with
  | none => .ok {}
  | some path => ConvertOptions.ofFile path (s.read log path)

/-- A run whose options are known. -/
def runWith (arguments : Arguments) (s : Surroundings) (options : ConvertOptions) :
    ExceptT Failure (StateM (List Access)) Report := do
  let targets ← prepareTargets s.disk arguments
  let results ← arguments.inputs.mapM fun path => do
    pure (Document.render options (arguments.flags.contains .pretty) path (← s.disk.read path))
  match results.findSome? fun r => match r with
    | .error f => if f.isFatal then some f else none
    | .ok _ => none with
  | some f => throw f
  | none => emitAll s.disk {} (arguments.inputs.zip (targets.zip results))

/-- The options are read first. -/
theorem runIn_run (arguments : Arguments) (s : Surroundings) (log : List Access) :
    runIn (arguments.run s.disk) log =
      match arguments.baseOptions s log with
      | .ok base => runIn (arguments.runWith s (base.withFlags arguments.flags))
          (log ++ arguments.config.toList.map .read)
      | .error f => (.error f, log ++ arguments.config.toList.map .read) := by
  unfold run baseOptions
  cases arguments.config with
  | none =>
    rw [Option.toList_none, List.map_nil, List.append_nil]
    rfl
  | some path =>
    dsimp only
    rw [runIn_bind, runIn_lift]
    dsimp only
    rw [runIn_bind]
    have hfile : runIn (ExceptT.mk (pure (ConvertOptions.ofFile path
          ((s.disk.read path).run log).1))) ((s.disk.read path).run log).2 =
        (ConvertOptions.ofFile path (s.read log path), log ++ [.read path]) := rfl
    rw [hfile]
    cases ConvertOptions.ofFile path (s.read log path) <;> rfl

/-- Then the targets are chosen, and the folder is made. -/
theorem runIn_prepareTargets {targets : List (Option String)}
    (h : runIn (prepareTargets s.disk arguments) log = (.ok targets, log')) :
    targets = arguments.inputs.map arguments.target? ∧
      (∀ folder, arguments.outputFolder = some folder →
        (arguments.inputs.map resultName).Nodup) ∧
      ∃ asked, log' = log ++ asked ∧ ∀ access ∈ asked, ¬ access.IsOutput := by
  unfold prepareTargets at h
  cases hfolder : arguments.outputFolder with
  | none =>
    rw [hfolder] at h
    cases h
    have htarget : arguments.target? = fun _ => none := by
      funext input
      rw [target?, hfolder, Option.map_none]
    exact ⟨by rw [htarget], nofun, [], (List.append_nil _).symm, nofun⟩
  | some folder =>
    rw [hfolder] at h
    obtain ⟨chosen, between, hchosen, hmake⟩ := runIn_bind_ok h
    obtain ⟨htargets, rfl⟩ := Prod.mk.inj hchosen
    obtain ⟨hnodup, rfl⟩ := outputTargets_eq_ok_iff.mp htargets
    obtain ⟨outcome, made, hmade, hrest⟩ := runIn_bind_ok hmake
    obtain ⟨_, last, hlast, hdone⟩ := runIn_bind_ok hrest
    obtain ⟨-, rfl⟩ := runIn_orAbort_ok hlast
    cases hdone
    obtain ⟨r, asked, hrun, hasked⟩ := onlyAsks_ensureFolders s
      (folder :: (Path.around folder.toList).map String.ofList) log
    have htarget : arguments.target? = fun input => some (target folder input) := by
      funext input
      rw [target?, hfolder, Option.map_some]
    refine ⟨?_, fun _ _ => hnodup, asked, ?_, hasked⟩
    · rw [htarget, List.map_map]
      rfl
    · have hlift := (runIn_lift _ log).symm.trans hmade
      rw [hrun] at hlift
      exact (Prod.mk.inj hlift).2.symm

/-- Nothing is asked for if the targets are not chosen. -/
theorem runIn_prepareTargets_of_error (hfolder : arguments.outputFolder = some folder)
    (h : outputTargets folder arguments.inputs = .error f) :
    runIn (prepareTargets s.disk arguments) log = (.error f, log) := by
  unfold prepareTargets
  rw [hfolder]
  dsimp only
  rw [runIn_bind, h]
  rfl

/-- Then all inputs are read. -/
theorem runIn_render (options : ConvertOptions) (pretty : Bool) (inputs : List String)
    (log : List Access) :
    runIn (inputs.mapM fun path => do
      pure (Document.render options pretty path (← s.disk.read path))) log =
      (.ok (List.zipWith (Document.render options pretty) inputs (s.readAll log inputs)),
        log ++ inputs.map .read) := by
  induction inputs generalizing log with
  | nil =>
    rw [List.mapM_nil, List.map_nil, List.append_nil]
    rfl
  | cons input inputs ih =>
    have hread : runIn (do
          pure (Document.render options pretty input (← s.disk.read input))) log =
        (.ok (Document.render options pretty input (s.read log input)), log ++ [.read input]) := rfl
    rw [List.mapM_cons, runIn_bind, hread]
    dsimp only
    rw [runIn_bind, ih]
    dsimp only
    rw [runIn_pure, List.append_assoc]
    rfl

/-- **What a run has done that was not aborted.** -/
theorem runIn_runWith {options : ConvertOptions} {report : Report}
    (h : runIn (arguments.runWith s options) log = (.ok report, log')) :
    (∀ folder, arguments.outputFolder = some folder →
        (arguments.inputs.map resultName).Nodup) ∧
      ∃ asked, (∀ access ∈ asked, ¬ access.IsOutput) ∧
        let items := arguments.items options (s.readAll (log ++ asked) arguments.inputs)
        report = ⟨items.filterMap Item.written?, (items.filterMap Item.output?).length,
            items.filterMap Item.failure?⟩ ∧
          log' = log ++ asked ++ arguments.inputs.map .read ++ items.filterMap Item.output? := by
  obtain ⟨targets, prepared, htargets, h⟩ := runIn_bind_ok h
  obtain ⟨rfl, hnodup, asked, rfl, hasked⟩ := runIn_prepareTargets htargets
  obtain ⟨results, read, hread, h⟩ := runIn_bind_ok h
  obtain ⟨hresults, rfl⟩ := Prod.mk.inj ((runIn_render ..).symm.trans hread)
  obtain rfl := Except.ok.inj hresults
  refine ⟨hnodup, asked, hasked, ?_⟩
  split at h
  · cases h
  · rw [zip_zip_map] at h
    obtain ⟨hreport, hlog⟩ := runIn_emitAll h
    refine ⟨hreport.trans ?_, hlog⟩
    simp [items]

/-- **A run is not aborted** when it has its targets, no input is one for which the program cannot go
on, and all results can be written. -/
theorem exists_report (arguments : Arguments) (s : Surroundings) (options : ConvertOptions)
    {targets : List (Option String)}
    (htargets : runIn (prepareTargets s.disk arguments) log = (.ok targets, log'))
    (hfatal : ∀ f, .error f ∈ List.zipWith (Document.render options
      (arguments.flags.contains .pretty)) arguments.inputs (s.readAll log' arguments.inputs) →
        f.isFatal = false)
    (hwrite : ∀ log target text, s.write log target text = .ok ()) :
    ∃ report log'', runIn (arguments.runWith s options) log = (.ok report, log'') := by
  rw [runWith, runIn_bind, htargets]
  dsimp only
  rw [runIn_bind, runIn_render]
  dsimp only
  split
  · next f hfound =>
    obtain ⟨result, hresult, hsome⟩ := List.exists_of_findSome?_eq_some hfound
    split at hsome
    · next f' =>
      rw [hfatal f' hresult] at hsome
      cases hsome
    · cases hsome
  · exact exists_runIn_emitAll hwrite {} _ _

/-- **Runs account for every input once, and do not overwrite what they have written.**

* There are targets in a folder if and only if the results of the inputs have different names. They
  are those of the inputs, in their order, and pairwise distinct.
* A run that is not aborted, in whatever surroundings, has an item for each input in their order. Its
  result is made from what was read of this input, and it is either a failure or goes out: it is
  written to the target of this input, or printed if there is no folder. The failures, the targets
  and all that went out are those of the items, in their order, each of them once. Results that were
  converted and failures make up all inputs, and no file was written twice.
* If there is a folder and two inputs have results of the same name, the run is aborted, and all that
  it has asked for is the file with the options. -/
theorem run_accounts :
    (∀ folder inputs,
      ((∃ targets, outputTargets folder inputs = .ok targets) ↔
        (inputs.map resultName).Nodup) ∧
      ∀ targets, outputTargets folder inputs = .ok targets →
        targets = inputs.map (target folder) ∧ targets.Nodup) ∧
    ∀ (s : Surroundings) (arguments : Arguments) (log : List Access),
      (∀ report log', runIn (arguments.run s.disk) log = (.ok report, log') →
        ∃ base asked, arguments.baseOptions s log = .ok base ∧
          (∀ access ∈ asked, ¬ access.IsOutput) ∧
          let before := log ++ arguments.config.toList.map .read ++ asked
          let items := arguments.items (base.withFlags arguments.flags)
            (s.readAll before arguments.inputs)
          items.map Prod.fst = arguments.inputs ∧
          (∀ item ∈ items, item.failure? = none ↔ item.output?.isSome = true) ∧
          report.failures = items.filterMap Item.failure? ∧
          report.written = items.filterMap Item.written? ∧
          log' = before ++ arguments.inputs.map .read ++ items.filterMap Item.output? ∧
          report.converted = (items.filterMap Item.output?).length ∧
          report.converted + report.failures.length = arguments.inputs.length ∧
          report.written.Nodup) ∧
      ∀ folder, arguments.outputFolder = some folder →
        ¬ (arguments.inputs.map resultName).Nodup →
        ∃ f, runIn (arguments.run s.disk) log =
            (.error f, log ++ arguments.config.toList.map .read) ∧
          (arguments.baseOptions s log = .error f ∨
            ∃ first second, target folder first = target folder second ∧
              f = ⟨[], .sameTarget first second (target folder second)⟩) := by
  refine ⟨fun folder inputs => ⟨⟨?_, fun h => ⟨_, outputTargets_eq_ok_iff.mpr ⟨h, rfl⟩⟩⟩, ?_⟩, ?_⟩
  · rintro ⟨targets, htargets⟩
    exact (outputTargets_eq_ok_iff.mp htargets).1
  · intro targets htargets
    obtain ⟨hnodup, rfl⟩ := outputTargets_eq_ok_iff.mp htargets
    exact ⟨rfl, nodup_target folder hnodup⟩
  intro s arguments log
  refine ⟨fun report log' h => ?_, fun folder hfolder hsame => ?_⟩
  · rw [runIn_run] at h
    cases hbase : arguments.baseOptions s log with
    | error f =>
      rw [hbase] at h
      cases h
    | ok base =>
      rw [hbase] at h
      obtain ⟨hnodup, asked, hasked, rfl, rfl⟩ := runIn_runWith h
      have hlength := s.length_readAll
        (log ++ arguments.config.toList.map .read ++ asked) arguments.inputs
      have hfst := map_fst_items arguments (base.withFlags arguments.flags) hlength
      refine ⟨base, asked, rfl, hasked, hfst, fun item _ => item.failure?_eq_none_iff, rfl, rfl, rfl,
        rfl, ?_, nodup_written hlength hnodup⟩
      rw [length_output_add_failure, ← List.length_map Prod.fst, hfst]
  · rw [runIn_run]
    cases hbase : arguments.baseOptions s log with
    | error f => exact ⟨f, rfl, .inl rfl⟩
    | ok base =>
      obtain ⟨first, second, htarget, herror⟩ := exists_of_not_nodup folder hsame
      refine ⟨_, ?_, .inr ⟨first, second, htarget, rfl⟩⟩
      dsimp only
      rw [runWith, runIn_bind, runIn_prepareTargets_of_error hfolder herror]

/-- The text of a document without statements. -/
def emptyDocument : Text :=
  ("\x7b\"arena\":\x7b\"nodes\":[\x7b\"kind\":\"SourceFile\",\"pos\":0,\"end\":0," ++
    "\"pool\":\"SourceFile\"\x7d],\"source_files\":[\x7b\x7d]\x7d,\"root\":0\x7d").toList

/-- Surroundings with this document in some files and with no other files, in which all that is asked
for can be written. -/
def withDocuments (paths : List String) : Surroundings where
  read _ path := if path ∈ paths then .ok emptyDocument else .error .notFound
  isFolder _ _ := true
  makeFolder _ _ := .ok ()
  write _ _ _ := .ok ()

/-- The document without statements has a result. -/
theorem exists_render_emptyDocument :
    ∃ text, ∀ path, Document.render {} false path (.ok emptyDocument) = .ok text := by
  -- The characters are those of the literals, and do not have to be decoded one by one.
  have hchars : emptyDocument = _ :=
    String.toList_append.trans (congrArg₂ _ String.toList_ofList String.toList_ofList)
  have hok : ((Document.ofText? emptyDocument).bind fun d => (d.output {}).toOption).isSome =
      true := by
    rw [hchars]
    decide +kernel
  obtain ⟨output, houtput⟩ := Option.isSome_iff_exists.mp hok
  obtain ⟨d, hd, houtput⟩ := Option.bind_eq_some_iff.mp houtput
  cases hrun : d.output {} with
  | error e =>
    rw [hrun] at houtput
    cases houtput
  | ok output => exact ⟨_, fun path => render_eq_ok hd hrun⟩

/-- What is read in these surroundings. -/
theorem readAll_withDocuments (paths inputs : List String) (log : List Access) :
    (withDocuments paths).readAll log inputs = inputs.map fun input =>
      if input ∈ paths then .ok emptyDocument else .error .notFound := by
  induction inputs generalizing log with
  | nil => rfl
  | cons input inputs ih =>
    rw [Surroundings.readAll, ih]
    rfl

/-- None of these documents is one for which the program cannot go on. -/
theorem isFatal_of_withDocuments {paths inputs : List String} {log : List Access} {f : Failure}
    (h : .error f ∈ List.zipWith (Document.render {} false) inputs
      ((withDocuments paths).readAll log inputs)) : f.isFatal = false := by
  obtain ⟨text, htext⟩ := exists_render_emptyDocument
  rw [readAll_withDocuments, List.zipWith_map_right, List.zipWith_self, List.mem_map] at h
  obtain ⟨input, -, hrender⟩ := h
  split_ifs at hrender
  · rw [htext] at hrender
    cases hrender
  · cases hrender
    rfl

/-- Two results that are written around an input that is not there, and two inputs of the same name,
for which nothing is asked. -/
theorem run_accounts_samples :
    let s := withDocuments ["a.json", "b.json", "b/a.json"]
    (let arguments : Arguments :=
        { inputs := ["a.json", "missing.json", "b.json"], outputFolder := some "out" };
      ∃ report log', runIn (arguments.run s.disk) [] = (.ok report, log') ∧
        report.written = ["out/a.estree.json", "out/b.estree.json"] ∧
        report.converted + report.failures.length = 3 ∧ report.written.Nodup) ∧
    (let arguments : Arguments := { inputs := ["a.json", "b/a.json"], outputFolder := some "out" };
      ¬ (arguments.inputs.map resultName).Nodup ∧
        ∃ f, runIn (arguments.run s.disk) [] = (.error f, [])) := by
  intro s
  constructor
  · intro arguments
    have hmade : (runIn (prepareTargets s.disk arguments) []).1.toOption.isSome = true := by
      decide
    rcases htargets : runIn (prepareTargets s.disk arguments) [] with ⟨_ | targets, log'⟩
    · rw [htargets] at hmade
      cases hmade
    obtain ⟨report, log'', hrun⟩ := exists_report arguments s {} htargets
      (fun _ => isFatal_of_withDocuments) fun _ _ _ => rfl
    have hreport : runIn (arguments.run s.disk) [] = (.ok report, log'') :=
      (runIn_run arguments s []).trans hrun
    obtain ⟨base, asked, hbase, -, -, -, -, hwritten, -, -, hcount, hnodup⟩ :=
      (run_accounts.2 s arguments []).1 report log'' hreport
    cases hbase
    refine ⟨report, log'', hreport, ?_, hcount, hnodup⟩
    obtain ⟨text, htext⟩ := exists_render_emptyDocument
    rw [hwritten, items, readAll_withDocuments]
    change [("a.json", arguments.target? "a.json",
        Document.render {} false "a.json" (.ok emptyDocument)),
      ("missing.json", arguments.target? "missing.json",
        Document.render {} false "missing.json" (.error .notFound)),
      ("b.json", arguments.target? "b.json",
        Document.render {} false "b.json" (.ok emptyDocument))].filterMap Item.written? = _
    rw [htext, htext]
    rfl
  · intro arguments
    have hsame : ¬ (arguments.inputs.map resultName).Nodup := by decide
    obtain ⟨f, hrun, -⟩ := (run_accounts.2 s arguments []).2 "out" rfl hsame
    exact ⟨hsame, f, hrun⟩

/-- **Without a folder a run goes on** although two inputs have results of the same name: both are
printed. -/
theorem run_prints_sameName :
    let s := withDocuments ["a/x.json", "b/x.json"]
    let arguments : Arguments := { inputs := ["a/x.json", "b/x.json"] }
    ¬ (arguments.inputs.map resultName).Nodup ∧
      ¬ ∃ f log', runIn (arguments.run s.disk) [] = (.error f, log') := by
  intro s arguments
  refine ⟨by decide, ?_⟩
  rintro ⟨f, log', hrun⟩
  obtain ⟨report, log'', hreport⟩ := exists_report arguments s {} rfl
    (fun _ => isFatal_of_withDocuments) fun _ _ _ => rfl
  rw [runIn_run] at hrun
  cases hreport.symm.trans hrun

end Arguments

end ScriptTree
