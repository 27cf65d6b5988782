import ScriptTree.Command.Arguments
import ScriptTree.Command.Path
import ScriptTree.Convert.Program
import ScriptTree.Json.Printer
import ScriptTree.Json.Reader

/-!
# Runs

A run converts documents. It first reads the options, then reads and converts every document,
and then prints the results or writes them to a folder, in the order of the documents. A document
that cannot be converted is reported, and the run goes on; it is aborted when the options cannot
be read, when two results would have the same name, or when a result cannot be written.

Files are reached through a `ScriptTree.Disk`, so that a run may be followed over a disk in
memory as well.
-/

namespace ScriptTree

/-- Why a file cannot be read or written. -/
inductive FileError
  | notFound | permissionDenied | alreadyExists | notADirectory | isADirectory | invalidInput
  /-- A path, or a part of it, is longer than the disk allows. -/
  | invalidFilename
  | invalidData | other
  deriving DecidableEq, Repr

namespace FileError

/-- The name of an error. -/
def name : FileError → String
  | notFound => "NotFound"
  | permissionDenied => "PermissionDenied"
  | alreadyExists => "AlreadyExists"
  | notADirectory => "NotADirectory"
  | isADirectory => "IsADirectory"
  | invalidInput => "InvalidInput"
  | invalidFilename => "InvalidFilename"
  | invalidData => "InvalidData"
  | other => "Other"

end FileError

/-- Access to files, and to the place where results are printed. -/
structure Disk (m : Type → Type) where
  read : String → m (Except FileError Text)
  isFolder : String → m Bool
  /-- Makes a folder in a folder that is there. -/
  makeFolder : String → m (Except FileError Unit)
  write : String → Text → m (Except FileError Unit)
  print : Text → m Unit

/-! ### Failures -/

/-- What is at the bottom of a failure. -/
inductive Cause
  | file (e : FileError)
  /-- A text is not what it should be. -/
  | malformed
  /-- The results of two documents would have the same name. -/
  | sameTarget (first second target : String)
  | halt (h : Halt)
  deriving DecidableEq, Repr

/-- A failure, with what was being done from the outside to the inside. -/
structure Failure where
  contexts : List String
  cause : Cause
  deriving DecidableEq, Repr

namespace Failure

/-- What was being done, from the outside to the inside, and then the cause, where `file` and
`malformed` word those causes that come from outside. -/
def texts (file : FileError → String) (malformed : String) (f : Failure) : List String :=
  f.contexts ++ [match f.cause with
    | .file e => file e
    | .malformed => malformed
    | .sameTarget first second target =>
      first ++ " and " ++ second ++ " would both be written to " ++ target
    | .halt (.failed e) => e.message
    | .halt .misplaced => "a text cannot be cut where it has to be"
    | .halt .exhausted => "there is no number left for a node"
    | .halt .endless => "the document has no end"]

/-- The failure stops the whole run, wherever it arises. -/
def isFatal (f : Failure) : Bool :=
  match f.cause with
  | .halt (.failed _) => false
  | .halt _ => true
  | _ => false

end Failure

/-! ### One document -/

/-- The options that a configuration file holds. -/
def ConvertOptions.ofFile (path : String) (content : Except FileError Text) :
    Except Failure ConvertOptions :=
  match content with
  | .error e => .error ⟨["failed to read config " ++ path], .file e⟩
  | .ok text => match (Json.ofText? text).bind ConvertOptions.ofJson? with
    | some options => .ok options
    | none => .error ⟨["invalid config " ++ path], .malformed⟩

/-- Options with those switched on that the command line has a flag for. -/
def ConvertOptions.withFlags (o : ConvertOptions) (flags : List Flag) : ConvertOptions where
  failOnUnknownNodeKind := o.failOnUnknownNodeKind || flags.contains .strict
  useLiteralTextNodeForMarkupText :=
    o.useLiteralTextNodeForMarkupText || flags.contains .markupText
  provideCorrespondenceMaps := o.provideCorrespondenceMaps || flags.contains .maps
  emitTokens := o.emitTokens || flags.contains .tokens
  emitComments := o.emitComments || flags.contains .comments

/-- The text of the result for a document. -/
def Document.render (options : ConvertOptions) (pretty : Bool) (path : String)
    (content : Except FileError Text) : Except Failure Text :=
  match content with
  | .error e => .error ⟨["failed to read " ++ path], .file e⟩
  | .ok text => match Document.ofText? text with
    | none => .error ⟨["failed to load " ++ path, Document.errorText], .malformed⟩
    | some document => match document.output options with
      | .error h => .error ⟨["failed to convert " ++ path], .halt h⟩
      | .ok output =>
        let json := output.toJson
        .ok (if pretty then json.pretty 0 else json.compact)

/-! ### The targets -/

/-- Chooses a target for each document. `claimed` are the names that are taken, with the documents
that have taken them. -/
def claimTargets (folder : String) :
    (claimed : List (Text × String)) → List String → Except Failure (List String)
  | _, [] => .ok []
  | claimed, input :: inputs => do
    let name := Path.outputName input.toList
    let target := String.ofList (Path.join folder.toList name)
    match claimed.lookup name with
    | some first => .error ⟨[], .sameTarget first input target⟩
    | none => pure (target :: (← claimTargets folder ((name, input) :: claimed) inputs))

/-- The paths of the results in a folder, one for each document. -/
def outputTargets (folder : String) (inputs : List String) : Except Failure (List String) :=
  claimTargets folder [] inputs

/-! ### Runs -/

/-- What a run has done. -/
structure Report where
  /-- The results that were written to the folder. -/
  written : List String := []
  /-- The number of documents that were converted. -/
  converted : Nat := 0
  /-- The documents that were not converted. -/
  failures : List (String × Failure) := []
  deriving DecidableEq, Repr

namespace Report

/-- Every document was converted. -/
def succeeded (r : Report) : Bool := r.failures.isEmpty

end Report

section

variable {m : Type → Type} [Monad m] (disk : Disk m)

/-- Makes a folder, unless it is there. -/
def ensureFolder (path : String) : m (Except FileError Unit) := do
  match ← disk.makeFolder path with
  | .error .alreadyExists =>
    pure (if ← disk.isFolder path then .ok () else .error .alreadyExists)
  | outcome => pure outcome

/-- Makes the first of some folders, unless it is there. Where what is around it is missing, the
folders that follow are made before it. -/
def ensureFolders : List String → m (Except FileError Unit)
  | [] => pure (.ok ())
  | path :: around => do
    match ← ensureFolder disk path with
    | .error .notFound => match ← ensureFolders around with
      | .ok () => ensureFolder disk path
      | .error e => pure (.error e)
    | outcome => pure outcome

/-- The outcome of an access, with what was being done. -/
def orAbort {α : Type} (context : String) (r : Except FileError α) : ExceptT Failure m α :=
  match r with
  | .ok a => pure a
  | .error e => throw ⟨[context], .file e⟩

/-- Prints or writes one result, or reports why there is none. -/
def emit (report : Report) (path : String) (target : Option String)
    (result : Except Failure Text) : ExceptT Failure m Report := do
  match result, target with
  | .error f, _ => pure { report with failures := report.failures ++ [(path, f)] }
  | .ok text, none =>
    disk.print (text ++ ['\n'])
    pure { report with converted := report.converted + 1 }
  | .ok text, some target =>
    orAbort ("failed to write " ++ target) (← disk.write target text)
    pure { report with
      converted := report.converted + 1, written := report.written ++ [target] }

/-- Prints or writes all results. -/
def emitAll (report : Report) :
    List (String × Option String × Except Failure Text) → ExceptT Failure m Report
  | [] => pure report
  | (path, target, result) :: rest => do
    emitAll (← emit disk report path target result) rest

/-- The paths of the results, if they are written to a folder, which is made. -/
def prepareTargets (arguments : Arguments) : ExceptT Failure m (List (Option String)) := do
  match arguments.outputFolder with
  | none => pure (arguments.inputs.map fun _ => none)
  | some folder =>
    let targets ← ExceptT.mk (pure (outputTargets folder arguments.inputs))
    let folders := folder :: (Path.around folder.toList).map String.ofList
    orAbort ("failed to create " ++ folder) (← (ensureFolders disk folders : m _))
    pure (targets.map some)

/-- Runs the command. -/
def Arguments.run (arguments : Arguments) : ExceptT Failure m Report := do
  let base ← match arguments.config with
    | none => pure {}
    | some path => do ExceptT.mk (pure (ConvertOptions.ofFile path (← disk.read path)))
  let options := base.withFlags arguments.flags
  let targets ← prepareTargets disk arguments
  let pretty := arguments.flags.contains .pretty
  let results ← arguments.inputs.mapM fun path => do
    pure (Document.render options pretty path (← disk.read path))
  match results.findSome? fun r => match r with
    | .error f => if f.isFatal then some f else none
    | .ok _ => none with
  | some f => throw f
  | none => emitAll disk {} (arguments.inputs.zip (targets.zip results))

end

end ScriptTree
