/-!
# Arguments of the command line

The command takes documents to convert, flags, and settings with a value. Flags and settings may
stand anywhere between the documents, until two dashes say that only documents follow.

A value that was given is not looked at until the next flag or setting, or the end, makes it
certain that it is complete: until then it is pending. So it depends on the order of the
arguments which of several errors is reported.

Reading the words belongs to the outer layer of the command. A run (`ScriptTree.Command.Run`) starts
from what they ask for, and what is proved of runs holds for every such request.
-/

namespace ScriptTree

/-- A switch on the command line. -/
inductive Flag
  | tokens | comments | markupText | strict | maps | pretty
  deriving DecidableEq, Repr

/-- A setting with a value. -/
inductive Setting
  | outputFolder | config
  deriving DecidableEq, Repr

/-- What the command line asks for. -/
structure Arguments where
  /-- The documents to convert. -/
  inputs : List String := []
  flags : List Flag := []
  /-- The folder for the results, which are printed otherwise. -/
  outputFolder : Option String := none
  /-- The file with the options of the conversion. -/
  config : Option String := none
  deriving DecidableEq, Repr

/-- Why the command does not start. -/
inductive UsageError
  | displayHelp | displayVersion | unknownArgument | tooManyValues | invalidValue
  | argumentConflict | missingRequiredArgument
  deriving DecidableEq, Repr

namespace UsageError

/-- The name of an error. -/
def name : UsageError → String
  | displayHelp => "DisplayHelp"
  | displayVersion => "DisplayVersion"
  | unknownArgument => "UnknownArgument"
  | tooManyValues => "TooManyValues"
  | invalidValue => "InvalidValue"
  | argumentConflict => "ArgumentConflict"
  | missingRequiredArgument => "MissingRequiredArgument"

end UsageError

/-! ### Words with dashes -/

/-- What a word behind two dashes means. -/
inductive LongName
  | flag (f : Flag)
  | setting (s : Setting)
  /-- A request that is answered instead of a run. -/
  | request (e : UsageError)
  deriving DecidableEq, Repr

namespace LongName

/-- The words behind two dashes. -/
def all : List (String × LongName) := [
  ("tokens", .flag .tokens), ("comments", .flag .comments), ("jsxTextNode", .flag .markupText),
  ("jsx-text-node", .flag .markupText), ("strict", .flag .strict), ("maps", .flag .maps),
  ("pretty", .flag .pretty), ("outDir", .setting .outputFolder),
  ("out-dir", .setting .outputFolder), ("config", .setting .config),
  ("help", .request .displayHelp), ("version", .request .displayVersion)]

end LongName

/-- The request that a letter behind one dash stands for. -/
def shortRequest? : Char → Option UsageError
  | 'h' => some .displayHelp
  | 'V' => some .displayVersion
  | _ => none

/-- How an argument looks. -/
inductive ArgumentForm
  /-- Two dashes. -/
  | dashes
  /-- A word behind two dashes, perhaps with a value behind an equals sign. -/
  | long (name : String) (value : Option String)
  /-- Letters behind one dash; the first of them. -/
  | short (letter : Char)
  /-- Anything else. -/
  | plain (text : String)
  deriving DecidableEq, Repr

namespace ArgumentForm

/-- The form of an argument. -/
def ofText : List Char → ArgumentForm
  | ['-', '-'] => dashes
  | '-' :: '-' :: cs =>
    let name := cs.takeWhile (· ≠ '=')
    let value := (cs.drop name.length).tail?
    long (String.ofList name) (value.map String.ofList)
  | '-' :: c :: _ => short c
  | cs => plain (String.ofList cs)

end ArgumentForm

/-! ### Reading -/

/-- Values that are not complete yet. -/
inductive Pending
  | nothing
  /-- Documents. -/
  | inputs (paths : List String)
  /-- The value of a setting, if it was given already. -/
  | value (s : Setting) (v : Option String)
  deriving DecidableEq, Repr

/-- How far the arguments have been read. -/
structure Reading where
  found : Arguments := {}
  pending : Pending := .nothing
  /-- Only documents follow. -/
  closed : Bool := false
  deriving DecidableEq, Repr

namespace Arguments

/-- The value of a setting. -/
def get? (a : Arguments) : Setting → Option String
  | .outputFolder => a.outputFolder
  | .config => a.config

/-- Gives a setting its value, which must not be empty, for the first time. -/
def set (a : Arguments) (s : Setting) (v : String) : Except UsageError Arguments :=
  if (a.get? s).isSome then .error .argumentConflict
  else if v.isEmpty then .error .invalidValue
  else match s with
    | .outputFolder => .ok { a with outputFolder := some v }
    | .config => .ok { a with config := some v }

/-- Sets a flag for the first time. -/
def setFlag (a : Arguments) (f : Flag) : Except UsageError Arguments :=
  if a.flags.contains f then .error .argumentConflict
  else .ok { a with flags := a.flags ++ [f] }

end Arguments

namespace Reading

/-- Takes the pending values for complete. -/
def settle (r : Reading) : Except UsageError Reading :=
  match r.pending with
  | .nothing => .ok r
  | .inputs paths =>
    if paths.any String.isEmpty then .error .invalidValue
    else .ok { r with
      found := { r.found with inputs := r.found.inputs ++ paths }, pending := .nothing }
  | .value _ none => .error .invalidValue
  | .value s (some v) => do
    let found ← r.found.set s v
    pure { r with found := found, pending := .nothing }

/-- Reads a document. -/
def addInput (r : Reading) (path : String) : Except UsageError Reading := do
  match r.pending with
  | .inputs paths => pure { r with pending := .inputs (paths ++ [path]) }
  | _ => pure { ← r.settle with pending := .inputs [path] }

/-- Reads an argument that is neither a flag nor a setting: the value that a setting waits for, or
a document. -/
def addPlain (r : Reading) (text : String) : Except UsageError Reading :=
  match r.pending with
  | .value s none => .ok { r with pending := .value s (some text) }
  | _ => r.addInput text

/-- Reads a word behind two dashes. -/
def addLong (r : Reading) (name : String) (value : Option String) : Except UsageError Reading :=
  match LongName.all.lookup name, value with
  | none, _ => .error .unknownArgument
  | some (.flag f), none => do
    let r ← r.settle
    pure { r with found := ← r.found.setFlag f }
  | some (.request e), none => do
    let _ ← r.settle
    .error e
  | some (.setting s), none => do pure { ← r.settle with pending := .value s none }
  | some (.setting s), some v => do
    let r ← r.settle
    pure { r with found := ← r.found.set s v }
  | some _, some _ => .error .tooManyValues

/-- Reads an argument. -/
def add (r : Reading) (argument : String) : Except UsageError Reading :=
  if r.closed then r.addInput argument
  else match ArgumentForm.ofText argument.toList with
    | .dashes => .ok { r with closed := true }
    | .long name value => r.addLong name value
    | .short letter => match shortRequest? letter with
      | none => .error .unknownArgument
      | some e => do
        let _ ← r.settle
        .error e
    | .plain text => r.addPlain text

end Reading

/-- Reads the arguments of a command line. There has to be a document. -/
def Arguments.ofList (arguments : List String) : Except UsageError Arguments := do
  let r ← (← arguments.foldlM Reading.add {}).settle
  if r.found.inputs.isEmpty then .error .missingRequiredArgument else .ok r.found

end ScriptTree
