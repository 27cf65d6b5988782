import ScriptTree.Json.Basic

/-!
# Options of a conversion

Five switches, all of them off by default. Configuration files may use older names for
them; giving a switch twice is an error, also under two names.
-/

namespace ScriptTree

/-- The switches of a conversion. -/
structure ConvertOptions where
  /-- A node type outside the vocabulary is an error. -/
  failOnUnknownNodeKind : Bool := false
  /-- Texts between tags have a node type of their own instead of being literals. -/
  useLiteralTextNodeForMarkupText : Bool := false
  /-- The correspondence of concrete and normalized nodes is a result, too. -/
  provideCorrespondenceMaps : Bool := false
  /-- The program carries its tokens. -/
  emitTokens : Bool := false
  /-- The program carries its comments. -/
  emitComments : Bool := false
  deriving DecidableEq, Repr

namespace ConvertOptions

/-- Fails on types outside the vocabulary. -/
def strict : ConvertOptions := { failOnUnknownNodeKind := true }

/-- Every optional output. -/
def full : ConvertOptions :=
  { provideCorrespondenceMaps := true, emitTokens := true, emitComments := true }

/-- The names of the switches, the current name of each first. -/
def names : List (List String) := [
  ["failOnUnknownNodeKind", "emitUnknownTypeError", "errorOnUnknownASTType"],
  ["useLiteralTextNodeForMarkupText", "useTextNodeForLiteralText", "useJSXTextNode"],
  ["provideCorrespondenceMaps", "enableServiceMaps"],
  ["emitTokens", "tokens"],
  ["emitComments", "comment", "comments"]]

/-- Reads the options. -/
def ofJson? (j : Json) : Option ConvertOptions := do
  let slots ← j.slots? names
  let [unknown, text, maps, tokens, comments] ← slots.mapM fun slot =>
    (slot.map Json.bool?).getD (some false) | none
  pure ⟨unknown, text, maps, tokens, comments⟩

/-- Writes the options. -/
def toJson (o : ConvertOptions) : Json :=
  .obj [("failOnUnknownNodeKind", .bool o.failOnUnknownNodeKind),
    ("useLiteralTextNodeForMarkupText", .bool o.useLiteralTextNodeForMarkupText),
    ("provideCorrespondenceMaps", .bool o.provideCorrespondenceMaps),
    ("emitTokens", .bool o.emitTokens), ("emitComments", .bool o.emitComments)]

end ConvertOptions

end ScriptTree
