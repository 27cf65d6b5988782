import ScriptTree.Arena.Document
import ScriptTree.Convert.Token
import ScriptTree.Convert.Visit
import ScriptTree.Trivia.Comment

/-!
# Converting a file

A run converts the file at the root of a document. It fails at once if the front end has
reported an error. The result is the program together with what the options ask for: its tokens, its
comments, and the correspondence of the two trees.
-/

namespace ScriptTree

/-- A converted file. -/
structure Program where
  node : EsNode
  tokens : Option (List EsToken)
  comments : Option (List Comment)

namespace Program

/-- Writes a file. Tokens and comments come after the fields of the node. -/
def toJson (p : Program) : Json :=
  let extra := (p.tokens.map fun ts => ("tokens", Json.ofList EsToken.toJson ts)).toList ++
    (p.comments.map fun cs => ("comments", Json.ofList Comment.toJson cs)).toList
  match p.node.toJson with
  | .obj fields => .obj (fields ++ extra)
  | j => j

end Program

namespace Source

/-- The tokens and comments of the text. -/
def walked (s : Source) : Conversion Trivia := .await s.trivia

/-- The tokens of the program. -/
def programTokens (s : Source) : Conversion (List EsToken) := do
  let trivia ← s.walked
  match trivia.tokens.mapM (EsToken.ofToken s.arena s.root s.map) with
  | .ok tokens => pure tokens
  | .error e => throw e

/-- The comments of the program. -/
def programComments (s : Source) : Conversion (List Comment) := do
  pure (Comment.ofTrivia (← s.walked) s.map)

/-- Converts the root, and adds what the options ask for. -/
def program (s : Source) : Conversion Program := do
  let some node ← s.convert s.root
    | .fail (.missingData ((s.arena.kind? s.root).getD .unknown) s.root)
  let tokens ← if s.options.emitTokens then some <$> s.programTokens else pure none
  let comments ← if s.options.emitComments then some <$> s.programComments else pure none
  pure { node := node, tokens := tokens, comments := comments }

end Source

namespace Document

/-- The error that a message of the front end makes. -/
def parseError (text : Text) (d : Diagnostic) : ConvertError :=
  let place := (LineMap.ofText text).lineColumn d.start
  .parse ⟨d.start, place.line, place.column, d.messageText⟩

/-- What a run over a document comes to, and the correspondence of the two trees as far as the
run has got. The correspondence may have been used by other runs; what they have recorded is
forgotten before anything else is done. -/
def convertOver (doc : Document) (options : ConvertOptions) (maps : NodeMaps) :
    Except Halt Program × NodeMaps :=
  match doc.arena.sourceFile? doc.root with
  | none =>
    (.error (.failed (.missingData ((doc.arena.kind? doc.root).getD .unknown) doc.root)),
      maps.reset)
  | some file =>
    let text := (file.get .text).toList
    match (file.get .parseDiagnostics).head? with
    | some d => (.error (.failed (parseError text d)), maps.reset)
    | none =>
      let source := Source.ofText doc.arena doc.root text (file.get .languageVersion) options
      let (result, progress) := source.program.run.run { maps := maps.reset }
      (result, progress.maps)

/-- What a run over a document comes to that has a correspondence of its own. -/
def convert (doc : Document) (options : ConvertOptions) : Except Halt Program × NodeMaps :=
  doc.convertOver options .empty

/-- What runs come to that share one correspondence, one after the other. -/
def runsOver (maps : NodeMaps) :
    List (Document × ConvertOptions) → List (Except Halt Program × NodeMaps)
  | [] => []
  | (doc, options) :: rest =>
    let run := doc.convertOver options maps
    run :: runsOver run.2 rest

end Document

/-- What is handed out of a run: the program, and the correspondence of the two trees if the
options ask for it. -/
structure Output where
  program : Program
  maps : Option NodeMaps

namespace Output

/-- What is handed out of a run that has a result. -/
def ofRun (options : ConvertOptions) (run : Except Halt Program × NodeMaps) : Except Halt Output :=
  run.1.map fun program =>
    ⟨program, if options.provideCorrespondenceMaps then some run.2 else none⟩

/-- Writes the program, together with the correspondence if there is one. -/
def toJson (output : Output) : Json :=
  match output.maps with
  | some maps => .obj [("ast", output.program.toJson), ("maps", maps.toJson)]
  | none => output.program.toJson

end Output

namespace Document

/-- What is handed out of a run over a document. -/
def output (doc : Document) (options : ConvertOptions) : Except Halt Output :=
  Output.ofRun options (doc.convert options)

/-- Writes the result of a run: the program, together with the correspondence of the two trees
if the options ask for it. -/
def resultJson (options : ConvertOptions) (program : Program) (maps : NodeMaps) : Json :=
  Output.toJson ⟨program, if options.provideCorrespondenceMaps then some maps else none⟩

end Document

end ScriptTree
