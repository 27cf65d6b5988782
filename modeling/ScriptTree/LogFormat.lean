/-!
# Formats of the log

The log is written flat, as a tree, or as JSON. Any name that is not the name of one of
the latter two stands for the flat form.
-/

namespace ScriptTree

/-- The form in which the log is written. -/
inductive LogFormat
  | text | tree | json
  deriving DecidableEq, Repr

namespace LogFormat

/-- The format that a user names, in any case of the basic letters. -/
def ofUserName (s : String) : LogFormat :=
  match s.toLower with
  | "tree" => tree
  | "json" => json
  | _ => text

/-- The name of a format. -/
def name : LogFormat → String
  | text => "Text"
  | tree => "Tree"
  | json => "Json"

end LogFormat

end ScriptTree
