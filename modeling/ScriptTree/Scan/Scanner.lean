import ScriptTree.Kind.Class
import ScriptTree.Scan.Lexeme

/-!
# The scanner

A scanner walks over a source text and holds the token it has just read. It can be told
to pass over trivia, it can be moved, and it can read its current token a second time: a
closing brace as the next piece of a template, a slash as a regular expression, a greater
sign as the longest operator.

All positions are byte offsets. Where no character starts at its position the scanner
reads the end of the file.
-/

namespace ScriptTree

/-- A scanner over a source text, with its current token. -/
structure Scanner where
  text : Text
  /-- Whether trivia are passed over. -/
  skipTrivia : Bool
  target : ScriptTarget
  /-- The end of the current token, where the next one is read. -/
  pos : Nat := 0
  /-- The start of the current token with the trivia passed over before it. -/
  fullStart : Nat := 0
  /-- The start of the current token. -/
  start : Nat := 0
  kind : SyntaxKind := .unknown
  value : Text := []
  flags : TokenFlags := {}
  deriving Repr

namespace Scanner

/-- The trivia at the start of a text: their bytes, the facts about them, and what follows.
The fuel bounds their number; a text has no more lexemes than characters. -/
def leadingTrivia (target : ScriptTarget) : (fuel : Nat) → (atStart : Bool) → Text →
    Nat × TokenFlags × Text
  | 0, _, cs => (0, {}, cs)
  | fuel + 1, atStart, cs =>
    match Lexeme.read? target atStart cs with
    | none => (0, {}, cs)
    | some l =>
      if l.kind.isTrivia then
        let (bytes, flags, rest) := leadingTrivia target fuel false (cs.drop l.raw.length)
        (l.width + bytes, l.flags.union flags, rest)
      else (0, {}, cs)

/-- The current token becomes a lexeme that starts at `start`, read from `fullStart` on. -/
def accept (s : Scanner) (fullStart start : Nat) (l : Lexeme) (flags : TokenFlags) : Scanner :=
  { s with
    fullStart := fullStart, start := start, pos := start + l.width, kind := l.kind,
    value := l.value, flags := flags.union l.flags }

/-- The current token becomes the end of the file, read from `fullStart` on. -/
def acceptEnd (s : Scanner) (fullStart start : Nat) (flags : TokenFlags) : Scanner :=
  { s with
    fullStart := fullStart, start := start, pos := start, kind := .endOfFileToken,
    value := [], flags := flags }

/-- Reads the next token. -/
def scan (s : Scanner) : Scanner :=
  match s.text.dropBytes? s.pos with
  | none => s.acceptEnd s.pos s.pos {}
  | some cs =>
    let atStart := s.pos == 0
    let (skipped, flags, rest) :=
      if s.skipTrivia then leadingTrivia s.target cs.length atStart cs else (0, {}, cs)
    let start := s.pos + skipped
    match Lexeme.read? s.target (atStart && skipped == 0) rest with
    | none => s.acceptEnd s.pos start flags
    | some l => s.accept s.pos start l flags

/-- Moves to an offset, at most to the end, and drops the current token. -/
def moveTo (s : Scanner) (offset : Nat) : Scanner :=
  let pos := min offset s.text.byteLength
  { s with
    pos := pos, fullStart := pos, start := pos, kind := .unknown, value := [], flags := {} }

/-- The source text of the current token. -/
def raw (s : Scanner) : Text :=
  s.text.slice s.start s.pos

/-! ### Second readings -/

/-- Reads the current token again as a piece of a template behind a substitution. Its first
byte is taken for the closing brace. -/
def rescanTemplate (s : Scanner) : Scanner :=
  let run : Lexeme.QuotedRun Lexeme.TemplateEnd :=
    match s.text.dropBytes? (s.start + 1) with
    | some cs => Lexeme.templateRun 0 cs
    | none => ⟨[], [], .missing⟩
  { s with
    pos := s.start + 1 + run.raw.byteLength
    kind := Lexeme.templateKind false run.ending
    value := run.value
    flags := s.flags.union { unterminated := run.ending == .missing } }

/-- Reads a slash again as the start of a regular expression; other tokens stay. -/
def rescanSlash (s : Scanner) : Scanner :=
  if s.kind = .slashToken ∨ s.kind = .slashEqualsToken then
    let l := Lexeme.regex s.target ((s.text.dropBytes? (s.start + 1)).getD [])
    s.accept s.fullStart s.start l s.flags
  else s

/-- Reads a greater sign again as the longest operator that starts there; other tokens stay. -/
def rescanGreater (s : Scanner) : Scanner :=
  if s.kind = .greaterThanToken then
    match (s.text.dropBytes? s.pos).bind Lexeme.greater? with
    | some (kind, n) => { s with pos := s.pos + n, kind := kind }
    | none => s
  else s

/-! ### Whole texts -/

/-- A scanner at the start of a text. -/
def ofText (text : Text) (skipTrivia : Bool) (target : ScriptTarget) : Scanner :=
  { text := text, skipTrivia := skipTrivia, target := target }

/-- The states of a scanner after each token, up to the end of the file or a token without
width. The fuel bounds their number. -/
def runFrom : (fuel : Nat) → Scanner → List Scanner
  | 0, _ => []
  | fuel + 1, s =>
    let s := s.scan
    if s.kind = .endOfFileToken ∨ s.pos = s.fullStart then [s] else s :: runFrom fuel s

/-- The states of a scanner after each token of a text. -/
def run (text : Text) (skipTrivia : Bool) (target : ScriptTarget) : List Scanner :=
  runFrom (text.length + 1) (ofText text skipTrivia target)

@[simp] theorem accept_pos (s : Scanner) (fullStart start : Nat) (l : Lexeme)
    (flags : TokenFlags) : (s.accept fullStart start l flags).pos = start + l.width := rfl

@[simp] theorem acceptEnd_pos (s : Scanner) (fullStart start : Nat) (flags : TokenFlags) :
    (s.acceptEnd fullStart start flags).pos = start := rfl

/-- Reading a token does not change the text. -/
@[simp] theorem scan_text (s : Scanner) : s.scan.text = s.text := by
  rw [scan]
  split
  · rfl
  · dsimp only
    split <;> rfl

@[simp] theorem rescanSlash_text (s : Scanner) : s.rescanSlash.text = s.text := by
  rw [rescanSlash]
  split <;> rfl

@[simp] theorem rescanGreater_text (s : Scanner) : s.rescanGreater.text = s.text := by
  rw [rescanGreater]
  split
  · split <;> rfl
  · rfl

end Scanner

end ScriptTree
