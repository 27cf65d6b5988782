import ScriptTree.Convert.Binding
import ScriptTree.Convert.Recipe

/-!
# Functions and their parameters

A function declaration is a recipe inside of an export. Methods, accessors and constructors
have a function as their value, which starts at the bracket in front of its parameters. A
parameter is a name or a pattern that may be wrapped three times: as the rest of the arguments,
with a default, and as a property of the class.
-/

namespace ScriptTree

namespace Converter

variable (c : Converter)

/-- A function with a name of its own. -/
def functionDeclaration (i : NodeId) (n : Node) : Conversion EsNode := do
  let d ← c.parts .function i n
  let modifiers := d.get .modifiers
  let type : AstType :=
    if c.arena.hasModifier modifiers .declareKeyword then .declareFunction
    else .functionDeclaration
  let function ← c.follow (.function type) i n
  c.exported modifiers function

/-- The bracket that a signature starts with: an angle bracket if there are type parameters, or
else a parenthesis. -/
def signatureBracket (d : Data .function) : SyntaxKind :=
  if (d.get .typeParameters).isSome then .lessThanToken else .openParenToken

/-- Where the value of a method starts: at the first bracket of its signature behind an offset. -/
def valueStart (tokens : TokenIndex) (d : Data .function) (behind : Nat) : Nat :=
  ((tokens.findAfter behind (signatureBracket d)).map SourceToken.start).getD
    (d.get .parameters).pos

/-- The function that a method, an accessor or a constructor has as its value. -/
def methodValue (n : Node) (d : Data .function) (behind : Nat) : Conversion EsNode := do
  let start := valueStart (← c.tokens) d behind
  let params ← c.list (d.get .parameters)
  let body ← c.child (d.get .body)
  let draft ← Conversion.start AstType.functionExpression start n.stop
  let signature ← c.gather n d Recipe.signature
  let async := c.arena.hasModifier (d.get .modifiers) .asyncKeyword
  let draft := draft.fill
    [("id", EsValue.null), ("generator", d.get .asteriskToken), ("expression", false),
      ("async", async), ("body", body), ("params", params)]
  pure (c.finish (draft.fill signature))

/-! ### Parameters -/

/-- The name of a parameter, or what takes the rest of the arguments. -/
def restParameter (n : Node) (d : Data .parameter) (name : EsNode) : Conversion Draft :=
  if d.get .dotDotDotToken then do
    let draft ← Conversion.startOver AstType.restElement n
    pure (draft.prop "argument" name)
  else pure (Draft.reopen name)

/-- A parameter with its ascription and its question mark, which it covers as well. -/
def annotatedParameter (d : Data .parameter) (nameStop : Nat) (target : Draft) :
    Conversion EsNode := do
  let ascription ← c.ascription? (d.get .declaredType)
  let target := match ascription with
    | none => target
    | some a => (target.prop "typeAnnotation" a).extendTo a.head.stop
  if d.get .questionToken then
    let mark := ((← c.tokens).atOrAfter nameStop).filter fun t => t.kind == .questionToken
    let target := target.extendTo ((mark.map SourceToken.stop).getD target.stop)
    pure (c.finish (target.prop "optional" true))
  else pure (c.finish target)

/-- A parameter with its default. It starts where the node does, or behind the modifiers. -/
def defaultedParameter (n : Node) (d : Data .parameter) (isProperty : Bool) (target : EsNode) :
    Conversion Draft := do
  if (c.node? (d.get .initializer)).isSome ∧ ¬ d.get .dotDotDotToken then
    let right ← c.child (d.get .initializer)
    let draft ← Conversion.startOver AstType.assignmentPattern n
    let start := if isProperty then target.head.start else n.pos
    pure ((draft.startAt start).fill [("left", target), ("right", right)])
  else pure (Draft.reopen target)

/-- A parameter with modifiers is a property of the class. -/
def propertyParameter (n : Node) (modifiers : Option NodeList) (parameter : Draft) :
    Conversion Draft :=
  if modifiers.isSome then do
    let flags := c.modifiers modifiers
    let draft ← Conversion.startOver AstType.tsParameterProperty n
    pure (draft.fill
      [("accessibility", (Modifier.accessibility? flags).map EsValue.string),
        ("readonly", EsValue.mark (flags.contains .readonly)),
        ("static", EsValue.mark (flags.contains .static)),
        ("export", EsValue.mark (flags.contains .exported)),
        ("parameter", some (c.finish parameter).toValue)])
  else pure parameter

/-- A parameter. Without a name there is none. -/
def parameter (i : NodeId) (n : Node) : Conversion (Option EsNode) := do
  let d ← c.parts .parameter i n
  let modifiers := (d.get .modifiers).filter fun l => !l.nodes.isEmpty
  match ← c.convert (d.get .name) with
  | none => pure none
  | some name =>
    let target ← restParameter n d name
    let target ← c.annotatedParameter d name.head.stop target
    let result ← c.defaultedParameter n d modifiers.isSome target
    let result ← c.propertyParameter n modifiers result
    let decorators ← c.decorators? (d.get .decorators)
    pure (some (c.finish (result.propOpt "decorators" decorators)))

end Converter

end ScriptTree
