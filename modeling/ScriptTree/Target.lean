import ScriptTree.Text.Letter

/-!
# Versions of the language

A source file is written for a version of the language. The version decides one thing
here: whether names may hold letters beyond the basic alphabet, which the oldest one
does not allow.
-/

namespace ScriptTree

/-- A version of the language that a source file is written for. -/
inductive ScriptTarget
  | es3 | es5 | es2015 | es2016 | es2017 | es2018 | es2019 | es2020 | es2021 | es2022 | esNext
  deriving Repr, DecidableEq, Inhabited

namespace ScriptTarget

/-- The versions, oldest first. -/
def all : List ScriptTarget :=
  [es3, es5, es2015, es2016, es2017, es2018, es2019, es2020, es2021, es2022, esNext]

/-- The version that a file without one is taken to be written for. -/
def latest : ScriptTarget := esNext

/-- The name of a version in documents. -/
def name : ScriptTarget → String
  | es3 => "ES3"
  | es5 => "ES5"
  | es2015 => "ES2015"
  | es2016 => "ES2016"
  | es2017 => "ES2017"
  | es2018 => "ES2018"
  | es2019 => "ES2019"
  | es2020 => "ES2020"
  | es2021 => "ES2021"
  | es2022 => "ES2022"
  | esNext => "ESNext"

/-- The version that a document names. -/
def ofName? (s : String) : Option ScriptTarget :=
  all.find? (·.name == s)

/-- The version that a user names, in any case of the basic letters; two versions have a second
name. -/
def ofUserName? (s : String) : Option ScriptTarget :=
  let lower := s.toLower
  if lower == "es6" then some es2015
  else if lower == "latest" then some esNext
  else all.find? (·.name.toLower == lower)

/-- Whether names may hold letters beyond the basic alphabet. -/
def allowsAllLetters (target : ScriptTarget) : Bool :=
  target != es3

theorem ofName?_name (target : ScriptTarget) : ofName? target.name = some target := by
  cases target <;> decide

end ScriptTarget

/-! ### Names -/

namespace Text

/-- A name may start with the character. -/
def isNameStart (target : ScriptTarget) (c : Char) : Bool :=
  if isBasic c then isBasicLetter c || c == '$' || c == '_'
  else target.allowsAllLetters && isAlphabetic c

/-- A name may go on with the character. -/
def isNamePart (target : ScriptTarget) (c : Char) : Bool :=
  if isBasic c then isBasicLetter c || isDigit c || c == '$' || c == '_'
  else target.allowsAllLetters && (isAlphanumeric c || c == '\u200c' || c == '\u200d')

/-- A text is a complete name. -/
def isName (target : ScriptTarget) : Text → Bool
  | [] => false
  | c :: cs => isNameStart target c && cs.all (isNamePart target)

end Text

end ScriptTree
