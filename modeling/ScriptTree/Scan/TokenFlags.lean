/-!
# What a token remembers of its spelling

Besides its kind and its value a token keeps some facts about the way it was written:
whether a line break stands before it, whether it was closed, and how a number or a name
was spelled. `ScriptTree.TokenFlags.bits` packs them into one number.
-/

namespace ScriptTree

/-- Facts about the spelling of a token. -/
structure TokenFlags where
  /-- A line break lies between this token and the one before it. -/
  precedingLineBreak : Bool := false
  /-- The text ended, or the line did, before the token was closed. -/
  unterminated : Bool := false
  /-- A name holds an escape in braces. -/
  extendedUnicodeEscape : Bool := false
  /-- A number has an exponent. -/
  scientific : Bool := false
  /-- A number is octal by a leading zero alone. -/
  octal : Bool := false
  /-- A number is hexadecimal. -/
  hexSpecifier : Bool := false
  /-- A number is binary. -/
  binarySpecifier : Bool := false
  /-- A number is octal by its specifier. -/
  octalSpecifier : Bool := false
  /-- A number has a separator in a place where one may stand. -/
  containsSeparator : Bool := false
  /-- A name holds an escape. -/
  unicodeEscape : Bool := false
  /-- A number has a separator that is not between two digits. -/
  containsInvalidSeparator : Bool := false
  deriving DecidableEq, Repr, Inhabited

namespace TokenFlags

/-- The facts of either. -/
def union (a b : TokenFlags) : TokenFlags where
  precedingLineBreak := a.precedingLineBreak || b.precedingLineBreak
  unterminated := a.unterminated || b.unterminated
  extendedUnicodeEscape := a.extendedUnicodeEscape || b.extendedUnicodeEscape
  scientific := a.scientific || b.scientific
  octal := a.octal || b.octal
  hexSpecifier := a.hexSpecifier || b.hexSpecifier
  binarySpecifier := a.binarySpecifier || b.binarySpecifier
  octalSpecifier := a.octalSpecifier || b.octalSpecifier
  containsSeparator := a.containsSeparator || b.containsSeparator
  unicodeEscape := a.unicodeEscape || b.unicodeEscape
  containsInvalidSeparator := a.containsInvalidSeparator || b.containsInvalidSeparator

instance : Union TokenFlags := ⟨union⟩

/-- The facts in the order of their bits, the lowest first. -/
def toList (f : TokenFlags) : List Bool :=
  [f.precedingLineBreak, f.unterminated, f.extendedUnicodeEscape, f.scientific, f.octal,
    f.hexSpecifier, f.binarySpecifier, f.octalSpecifier, f.containsSeparator, f.unicodeEscape,
    f.containsInvalidSeparator]

/-- The facts as one number. -/
def bits (f : TokenFlags) : Nat :=
  f.toList.foldr (fun b rest => b.toNat + 2 * rest) 0

@[simp] theorem none_union (a : TokenFlags) : TokenFlags.union {} a = a := by
  simp [union]

end TokenFlags

end ScriptTree
