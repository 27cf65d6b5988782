import ScriptTree.Kind.Spelling
import ScriptTree.Scan.Escape
import ScriptTree.Scan.TokenFlags
import ScriptTree.Target

/-!
# Lexemes

A lexeme is one stretch of source text with its kind: a token or a piece of trivia. This
file reads the lexeme at the start of a text. `ScriptTree.Lexeme.read?` looks at the first
characters and hands over to the reader of names, numbers, strings, templates, comments or
punctuation.

Every reader returns the characters it took, `ScriptTree.Lexeme.raw`, so that what
is left of the text is the text without them. A reader never looks back: the meaning of a
slash, of a closing brace and of a greater sign depends on the tree, and for these there
are second readings, `ScriptTree.Lexeme.regex`, `ScriptTree.Lexeme.templateRun` and
`ScriptTree.Lexeme.greater?`.
-/

namespace ScriptTree

/-- A token or a piece of trivia, as read from the start of a text. -/
structure Lexeme where
  kind : SyntaxKind
  /-- The characters that belong to it. -/
  raw : Text
  /-- What it stands for: a name or string without its escapes, a number as it is written. -/
  value : Text := []
  flags : TokenFlags := {}
  deriving DecidableEq, Repr

namespace Lexeme

/-- The bytes that a lexeme takes. -/
def width (l : Lexeme) : Nat :=
  l.raw.byteLength

/-! ### Names -/

/-- The part of a name that has been read: its characters, its value, and the facts about its
escapes. -/
structure NameRun where
  raw : Text := []
  value : Text := []
  flags : TokenFlags := {}
  deriving DecidableEq, Repr

/-- The longest run of name characters, plain or escaped. `skip` characters still belong to the
escape before; `first` says that no character of the name has been read yet. -/
def nameRun (target : ScriptTarget) : (skip : Nat) → (first : Bool) → Text → NameRun
  | _, _, [] => {}
  | skip + 1, first, c :: cs =>
    let run := nameRun target skip first cs
    { run with raw := c :: run.raw }
  | 0, first, c :: cs =>
    let fits := fun d => if first then Text.isNameStart target d else Text.isNamePart target d
    if c = '\\' then
      match Escape.unicode? (c :: cs) with
      | some (d, n) =>
        if fits d then
          let run := nameRun target (n - 1) false cs
          let braced := (cs.drop 1).head? == some '\x7b'
          { raw := c :: run.raw, value := d :: run.value,
            flags := run.flags.union { unicodeEscape := true, extendedUnicodeEscape := braced } }
        else {}
      | none => {}
    else if fits c then
      let run := nameRun target 0 false cs
      { run with raw := c :: run.raw, value := c :: run.value }
    else {}

/-- The name or keyword at the start of a text. A name with an escape is never a keyword. -/
def name (target : ScriptTarget) (cs : Text) : Lexeme :=
  let run := nameRun target 0 true cs
  let kind :=
    if run.flags.unicodeEscape then .identifier
    else (SyntaxKind.keyword? (String.ofList run.value)).getD .identifier
  ⟨kind, run.raw, run.value, run.flags⟩

/-- The private name whose number sign stands before a text. -/
def privateName (target : ScriptTarget) (cs : Text) : Lexeme :=
  let run := nameRun target 0 true cs
  ⟨.privateIdentifier, '#' :: run.raw, '#' :: run.value, run.flags⟩

/-! ### Numbers -/

/-- The digits and separators at the start of a text. -/
def digitRun (isDigit : Char → Bool) (cs : Text) : Text :=
  cs.takeWhile fun c => c == '_' || isDigit c

/-- What the separators of a run say: one is valid between two digits. `digit` says that a digit
has been read, `separator` that the last character was a separator. -/
def separatorFlags (digit separator : Bool) : Text → TokenFlags
  | [] => { containsInvalidSeparator := separator }
  | '_' :: cs =>
    let valid := digit && !separator
    (separatorFlags digit true cs).union
      { containsSeparator := valid, containsInvalidSeparator := !valid }
  | _ :: cs => separatorFlags true false cs

/-- A part of a number: its characters and the facts about its spelling. -/
structure NumberPart where
  raw : Text := []
  flags : TokenFlags := {}
  deriving DecidableEq, Repr

/-- Puts one part of a number behind another. -/
def NumberPart.append (a b : NumberPart) : NumberPart :=
  ⟨a.raw ++ b.raw, a.flags.union b.flags⟩

@[simp] theorem NumberPart.append_raw (a b : NumberPart) : (a.append b).raw = a.raw ++ b.raw := rfl

/-- A run of digits as a part of a number. -/
def digitPart (isDigit : Char → Bool) (cs : Text) : NumberPart :=
  let run := digitRun isDigit cs
  ⟨run, separatorFlags false false run⟩

/-- The part of a number behind its whole digits: a point and digits. -/
def fractionPart : Text → NumberPart
  | '.' :: cs => NumberPart.append ⟨['.'], {}⟩ (digitPart Text.isDigit cs)
  | _ => {}

/-- An exponent with its mark, its sign if it has one, and its digits; there has to be one. -/
def exponentPart (cs : Text) : NumberPart :=
  match cs with
  | mark :: rest =>
    if mark = 'e' ∨ mark = 'E' then
      let sign := match rest with
        | '+' :: _ => ['+']
        | '-' :: _ => ['-']
        | _ => []
      let digits := rest.drop sign.length
      if digits.head?.any Text.isDigit then
        NumberPart.append ⟨mark :: sign, { scientific := true }⟩ (digitPart Text.isDigit digits)
      else {}
    else {}
  | [] => {}

/-- A decimal number: whole digits, fraction and exponent, each of which may be missing. -/
def decimalPart (cs : Text) : NumberPart :=
  let whole := digitPart Text.isDigit cs
  let fraction := fractionPart (cs.drop whole.raw.length)
  let start := whole.append fraction
  start.append (exponentPart (cs.drop start.raw.length))

/-- A number at the start of a text, without a suffix. -/
def numberPart (cs : Text) : NumberPart :=
  match cs with
  | '0' :: mark :: rest =>
    if mark = 'x' ∨ mark = 'X' then
      NumberPart.append ⟨['0', mark], { hexSpecifier := true }⟩ (digitPart Text.isHexDigit rest)
    else if mark = 'b' ∨ mark = 'B' then
      NumberPart.append ⟨['0', mark], { binarySpecifier := true }⟩
        (digitPart Text.isBinaryDigit rest)
    else if mark = 'o' ∨ mark = 'O' then
      NumberPart.append ⟨['0', mark], { octalSpecifier := true }⟩
        (digitPart Text.isOctalDigit rest)
    else if Text.isOctalDigit mark then
      NumberPart.append ⟨['0'], { octal := true }⟩ (digitPart Text.isDigit (mark :: rest))
    else decimalPart cs
  | _ => decimalPart cs

/-- The number at the start of a text; the suffix `n` makes it a big integer. -/
def number (cs : Text) : Lexeme :=
  let part := numberPart cs
  if (cs.drop part.raw.length).head? = some 'n' then
    let raw := part.raw ++ ['n']
    ⟨.bigIntLiteral, raw, raw, part.flags⟩
  else ⟨.numericLiteral, part.raw, part.raw, part.flags⟩

/-! ### Strings and templates -/

/-- The inside of a string or template with what ends it: its characters, what they stand for,
and how it ended. -/
structure QuotedRun (ending : Type) where
  raw : Text
  value : Text
  ending : ending
  deriving DecidableEq, Repr

/-- The run with a character before it that stands for `value`. -/
def QuotedRun.cons {ending : Type} (c : Char) (value : Text) (run : QuotedRun ending) :
    QuotedRun ending :=
  ⟨c :: run.raw, value ++ run.value, run.ending⟩

@[simp] theorem QuotedRun.cons_raw {ending : Type} (c : Char) (value : Text)
    (run : QuotedRun ending) : (run.cons c value).raw = c :: run.raw := rfl

@[simp] theorem QuotedRun.cons_ending {ending : Type} (c : Char) (value : Text)
    (run : QuotedRun ending) : (run.cons c value).ending = run.ending := rfl

/-- The inside of a string up to and with the closing quote; it says whether there is one.
`skip` characters still belong to the escape before. -/
def stringRun (quote : Char) : (skip : Nat) → Text → QuotedRun Bool
  | _, [] => ⟨[], [], false⟩
  | skip + 1, c :: cs => (stringRun quote skip cs).cons c []
  | 0, c :: cs =>
    if c = quote then ⟨[c], [], true⟩
    else if c = '\\' then
      let escape := Escape.read cs
      (stringRun quote escape.2 cs).cons c escape.1
    else if c = '\n' ∨ c = '\r' then ⟨[], [], false⟩
    else (stringRun quote 0 cs).cons c [c]

/-- The string whose opening quote stands before a text. -/
def string (quote : Char) (cs : Text) : Lexeme :=
  let run := stringRun quote 0 cs
  ⟨.stringLiteral, quote :: run.raw, run.value, { unterminated := !run.ending }⟩

/-- What a piece of a template ends with. -/
inductive TemplateEnd
  /-- The closing quote of the template. -/
  | quote
  /-- The start of a substitution. -/
  | substitution
  /-- The end of the text. -/
  | missing
  deriving DecidableEq, Repr

/-- The inside of a piece of a template up to and with its end. Line breaks written with a
carriage return stand for a line feed. `skip` characters still belong to the escape or the line
break before. -/
def templateRun : (skip : Nat) → Text → QuotedRun TemplateEnd
  | _, [] => ⟨[], [], .missing⟩
  | skip + 1, c :: cs => (templateRun skip cs).cons c []
  | 0, c :: cs =>
    if c = '\x60' then ⟨[c], [], .quote⟩
    else if c = '$' ∧ cs.head? = some '\x7b' then ⟨[c, '\x7b'], [], .substitution⟩
    else if c = '\\' then
      let escape := Escape.read cs
      (templateRun escape.2 cs).cons c escape.1
    else if c = '\r' then
      (templateRun (if cs.head? = some '\n' then 1 else 0) cs).cons c ['\n']
    else (templateRun 0 cs).cons c [c]

/-- The kind of a piece of a template: the first one is told apart from those behind a
substitution. -/
def templateKind (first : Bool) : TemplateEnd → SyntaxKind
  | .substitution => if first then .templateHead else .templateMiddle
  | _ => if first then .noSubstitutionTemplateLiteral else .templateTail

/-- The first piece of a template, whose opening quote stands before a text. -/
def template (cs : Text) : Lexeme :=
  let run := templateRun 0 cs
  ⟨templateKind true run.ending, '\x60' :: run.raw, run.value,
    { unterminated := run.ending == .missing }⟩

/-! ### Comments -/

/-- The text up to the end of its line. -/
def lineRest (cs : Text) : Text :=
  cs.takeWhile fun c => !Text.isLineBreak c

/-- The inside of a block comment, and whether it is closed. The closing mark is not part of
it. -/
def blockBody : Text → Text × Bool
  | [] => ([], false)
  | '*' :: '/' :: _ => ([], true)
  | c :: cs => ((c :: (blockBody cs).1), (blockBody cs).2)

/-- The comment up to the end of the line, given the text behind its opening mark. -/
def lineComment (cs : Text) : Lexeme :=
  { kind := .singleLineCommentTrivia, raw := '/' :: '/' :: lineRest cs }

/-- The block comment, given the text behind its opening mark. -/
def blockComment (cs : Text) : Lexeme :=
  let body := (blockBody cs).1
  let closed := (blockBody cs).2
  { kind := .multiLineCommentTrivia
    raw := '/' :: '*' :: (body ++ if closed then ['*', '/'] else [])
    flags := { precedingLineBreak := body.any Text.isLineBreak, unterminated := !closed } }

/-! ### Punctuation -/

/-- A lexeme of a given kind that takes the first `n` characters. -/
def punctuator (kind : SyntaxKind) (n : Nat) (cs : Text) : Lexeme :=
  { kind := kind, raw := cs.take n }

/-- The kind and length of the punctuation at the start of a text, if it starts with a
punctuation character. A slash, a greater sign and a number sign are read alone. -/
def punctuator? : Text → Option (SyntaxKind × Nat)
  | '!' :: '=' :: '=' :: _ => some (.exclamationEqualsEqualsToken, 3)
  | '!' :: '=' :: _ => some (.exclamationEqualsToken, 2)
  | '!' :: _ => some (.exclamationToken, 1)
  | '%' :: '=' :: _ => some (.percentEqualsToken, 2)
  | '%' :: _ => some (.percentToken, 1)
  | '&' :: '&' :: '=' :: _ => some (.ampersandAmpersandEqualsToken, 3)
  | '&' :: '&' :: _ => some (.ampersandAmpersandToken, 2)
  | '&' :: '=' :: _ => some (.ampersandEqualsToken, 2)
  | '&' :: _ => some (.ampersandToken, 1)
  | '(' :: _ => some (.openParenToken, 1)
  | ')' :: _ => some (.closeParenToken, 1)
  | '[' :: _ => some (.openBracketToken, 1)
  | ']' :: _ => some (.closeBracketToken, 1)
  | '\x7b' :: _ => some (.openBraceToken, 1)
  | '\x7d' :: _ => some (.closeBraceToken, 1)
  | ',' :: _ => some (.commaToken, 1)
  | ';' :: _ => some (.semicolonToken, 1)
  | ':' :: _ => some (.colonToken, 1)
  | '~' :: _ => some (.tildeToken, 1)
  | '@' :: _ => some (.atToken, 1)
  | '*' :: '=' :: _ => some (.asteriskEqualsToken, 2)
  | '*' :: '*' :: '=' :: _ => some (.asteriskAsteriskEqualsToken, 3)
  | '*' :: '*' :: _ => some (.asteriskAsteriskToken, 2)
  | '*' :: _ => some (.asteriskToken, 1)
  | '+' :: '+' :: _ => some (.plusPlusToken, 2)
  | '+' :: '=' :: _ => some (.plusEqualsToken, 2)
  | '+' :: _ => some (.plusToken, 1)
  | '-' :: '-' :: _ => some (.minusMinusToken, 2)
  | '-' :: '=' :: _ => some (.minusEqualsToken, 2)
  | '-' :: _ => some (.minusToken, 1)
  | '.' :: '.' :: '.' :: _ => some (.dotDotDotToken, 3)
  | '.' :: _ => some (.dotToken, 1)
  | '<' :: '<' :: '=' :: _ => some (.lessThanLessThanEqualsToken, 3)
  | '<' :: '<' :: _ => some (.lessThanLessThanToken, 2)
  | '<' :: '=' :: _ => some (.lessThanEqualsToken, 2)
  | '<' :: _ => some (.lessThanToken, 1)
  | '=' :: '=' :: '=' :: _ => some (.equalsEqualsEqualsToken, 3)
  | '=' :: '=' :: _ => some (.equalsEqualsToken, 2)
  | '=' :: '>' :: _ => some (.equalsGreaterThanToken, 2)
  | '=' :: _ => some (.equalsToken, 1)
  | '>' :: _ => some (.greaterThanToken, 1)
  | '?' :: '.' :: cs =>
    if cs.head?.any Text.isDigit then some (.questionToken, 1) else some (.questionDotToken, 2)
  | '?' :: '?' :: '=' :: _ => some (.questionQuestionEqualsToken, 3)
  | '?' :: '?' :: _ => some (.questionQuestionToken, 2)
  | '?' :: _ => some (.questionToken, 1)
  | '^' :: '=' :: _ => some (.caretEqualsToken, 2)
  | '^' :: _ => some (.caretToken, 1)
  | '|' :: '|' :: '=' :: _ => some (.barBarEqualsToken, 3)
  | '|' :: '|' :: _ => some (.barBarToken, 2)
  | '|' :: '=' :: _ => some (.barEqualsToken, 2)
  | '|' :: _ => some (.barToken, 1)
  | '/' :: '=' :: _ => some (.slashEqualsToken, 2)
  | '/' :: _ => some (.slashToken, 1)
  | _ => none

/-! ### The first lexeme of a text -/

/-- The token at the start of a text whose first character, `c`, starts no trivia. -/
def token (target : ScriptTarget) (c : Char) (cs : Text) : Lexeme :=
  if c = '"' ∨ c = '\'' then string c cs
  else if c = '\x60' then template cs
  else if Text.isDigit c ∨ (c = '.' ∧ cs.head?.any Text.isDigit) then number (c :: cs)
  else if c = '#' then
    if cs.head?.any fun d => Text.isNameStart target d || d == '\\' then privateName target cs
    else punctuator .hashToken 1 (c :: cs)
  else if c = '\\' then
    if (Escape.unicode? (c :: cs)).isSome then name target (c :: cs)
    else punctuator .unknown 1 (c :: cs)
  else match punctuator? (c :: cs) with
    | some (kind, n) => punctuator kind n (c :: cs)
    | none =>
      if Text.isNameStart target c then name target (c :: cs)
      else punctuator .unknown 1 (c :: cs)

/-- The lexeme at the start of a text, if the text is not empty. `atStart` says that the text is
the whole source, which alone may start with a line that names an interpreter. -/
def read? (target : ScriptTarget) (atStart : Bool) : Text → Option Lexeme
  | [] => none
  | c :: cs => some <|
    if atStart ∧ c = '#' ∧ cs.head? = some '!' then
      { kind := .shebangTrivia, raw := lineRest (c :: cs) }
    else if c = '\r' ∧ cs.head? = some '\n' then
      { kind := .newLineTrivia, raw := [c, '\n'], flags := { precedingLineBreak := true } }
    else if Text.isLineBreak c then
      { kind := .newLineTrivia, raw := [c], flags := { precedingLineBreak := true } }
    else if Text.isBlank c then
      { kind := .whitespaceTrivia, raw := (c :: cs).takeWhile Text.isBlank }
    else if c = '/' ∧ cs.head? = some '/' then lineComment (cs.drop 1)
    else if c = '/' ∧ cs.head? = some '*' then blockComment (cs.drop 1)
    else token target c cs

/-! ### Second readings -/

/-- The inside of a regular expression up to and with the closing slash, and whether there is
one on the line. A slash inside a class or behind a backslash does not close it. -/
def regexRun (escaped inClass : Bool) : Text → Text × Bool
  | [] => ([], false)
  | c :: cs =>
    if Text.isLineBreak c then ([], false)
    else if escaped then
      let run := regexRun false inClass cs
      (c :: run.1, run.2)
    else if c = '/' ∧ !inClass then ([c], true)
    else
      let inside := if c = '[' then true else if c = ']' then false else inClass
      let run := regexRun (c = '\\') inside cs
      (c :: run.1, run.2)

/-- The regular expression whose opening slash stands before a text, with its flags if it is
closed. -/
def regex (target : ScriptTarget) (cs : Text) : Lexeme :=
  let run := regexRun false false cs
  let options := if run.2 then (cs.drop run.1.length).takeWhile (Text.isNamePart target) else []
  let raw := '/' :: (run.1 ++ options)
  ⟨.regularExpressionLiteral, raw, raw, { unterminated := !run.2 }⟩

/-- The operator that a greater sign and the text behind it form, and the number of characters
of that text that belong to it; none where the sign stands alone. -/
def greater? : Text → Option (SyntaxKind × Nat)
  | '>' :: '>' :: '=' :: _ => some (.greaterThanGreaterThanGreaterThanEqualsToken, 3)
  | '>' :: '>' :: _ => some (.greaterThanGreaterThanGreaterThanToken, 2)
  | '>' :: '=' :: _ => some (.greaterThanGreaterThanEqualsToken, 2)
  | '>' :: _ => some (.greaterThanGreaterThanToken, 1)
  | '=' :: _ => some (.greaterThanEqualsToken, 1)
  | _ => none

end Lexeme

end ScriptTree
