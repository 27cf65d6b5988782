import ScriptTree.Arena.Flags
import ScriptTree.Ast.NodeType
import ScriptTree.Kind.Class
import ScriptTree.Kind.Spelling

/-!
# Operators and words

Some decisions of the conversion depend on a single token or on the flags of a node: the
type of a binary expression, the text of an operator, and the word that a variable is
declared with.
-/

namespace ScriptTree

/-- The type of a binary expression with a given operator. -/
def SyntaxKind.binaryType (operator : SyntaxKind) : AstType :=
  if operator.isAssignment then .assignmentExpression
  else if [SyntaxKind.ampersandAmpersandToken, .barBarToken, .questionQuestionToken].contains
      operator then .logicalExpression
  else .binaryExpression

/-- The text of an operator or keyword; empty where the kind does not fix it. -/
def SyntaxKind.operatorText (k : SyntaxKind) : String :=
  k.spelling?.getD ""

/-- The word that declares the variables of a list with the given flags. -/
def declarationWord (flags : Nat) : String :=
  if NodeFlag.has flags NodeFlag.constBit then "const"
  else if NodeFlag.has flags NodeFlag.letBit then "let"
  else if NodeFlag.has flags NodeFlag.usingBit then "using"
  else "var"

end ScriptTree
