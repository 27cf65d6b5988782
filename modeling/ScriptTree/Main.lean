import ScriptTree.Command.Run

/-!
# The command

The command line, on the disk of the machine. Everything that the command decides is decided in
`ScriptTree.Command.Run`.
-/

namespace ScriptTree

/-- The number of a cause. Some accesses report it with its sign turned. -/
def causeNumber (code : UInt32) : UInt32 :=
  min code (0 - code)

/-- The error that the system reports. The number tells a file that should be a folder from a folder
that should be a file, and a name that is too long from one that cannot be a name. -/
def FileError.ofSystem : IO.Error → FileError
  | .noFileOrDirectory .. => .notFound
  | .permissionDenied .. => .permissionDenied
  | .alreadyExists .. => .alreadyExists
  | .inappropriateType _ code _ => if causeNumber code = 20 then .notADirectory else .isADirectory
  | .invalidArgument _ code _ => if causeNumber code = 36 then .invalidFilename else .invalidInput
  | _ => .other

/-- An access to the disk with its outcome. -/
def attempt {α : Type} (access : IO α) : IO (Except FileError α) := do
  try pure (.ok (← access))
  catch e => pure (.error (.ofSystem e))

/-- The disk of the machine. -/
def machineDisk : Disk IO where
  read path := do
    match ← attempt (IO.FS.readBinFile path) with
    | .error e => pure (.error e)
    | .ok bytes => match String.fromUTF8? bytes with
      | some text => pure (.ok text.toList)
      | none => pure (.error .invalidData)
  isFolder path := do match ← attempt (IO.FS.readBinFile path) with
    | .error .isADirectory => pure true
    | _ => pure false
  makeFolder path := attempt (IO.FS.createDir path)
  write path content := attempt (IO.FS.writeFile path (String.ofList content))
  print text := do (← IO.getStdout).putStr (String.ofList text)

/-- What the command can do. -/
def usage : String :=
  "Normalize syntax trees of scripts into ESTree JSON\n\n" ++
  "Usage: scripttree [OPTIONS] <INPUTS>...\n\n" ++
  "Options:\n" ++
  "      --tokens           Attach the token list to each program\n" ++
  "      --comments         Attach the comment list to each program\n" ++
  "      --jsxTextNode      Emit texts between tags as JSXText instead of Literal\n" ++
  "      --strict           Fail on node kinds outside the ESTree vocabulary\n" ++
  "      --maps             Include the node correspondence maps in the output\n" ++
  "      --pretty           Pretty-print the JSON\n" ++
  "      --outDir <DIR>     Write <name>.estree.json files here instead of printing\n" ++
  "      --config <FILE>    JSON file with conversion options\n" ++
  "  -h, --help             Print help\n" ++
  "  -V, --version          Print version\n"

/-- A failure on one line. -/
def Failure.line (f : Failure) : String :=
  String.intercalate ": " (f.texts FileError.name "malformed JSON")

end ScriptTree

open ScriptTree in
/-- Reads the arguments, runs, and reports what went wrong. -/
def main (arguments : List String) : IO UInt32 := do
  let errors ← IO.getStderr
  match Arguments.ofList arguments with
  | .error .displayHelp =>
    IO.print usage
    pure 0
  | .error .displayVersion =>
    IO.println "scripttree 0.1.0"
    pure 0
  | .error e =>
    errors.putStrLn ("error: " ++ e.name ++ "\n\n" ++ usage)
    pure 2
  | .ok arguments => match ← (arguments.run machineDisk).run with
    | .error f =>
      errors.putStrLn ("error: " ++ f.line)
      pure 1
    | .ok report =>
      for (path, f) in report.failures do
        errors.putStrLn ("error: " ++ path ++ ": " ++ f.line)
      pure (if report.succeeded then 0 else 1)
