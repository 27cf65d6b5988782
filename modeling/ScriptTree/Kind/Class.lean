import ScriptTree.Kind.Basic

/-!
# Classes of kinds

Most classes are stretches of the vocabulary, given by their first and last kind; a few
are lists. A kind belongs to several of them: an assignment operator is punctuation, and
a word for a type such as `null` is a keyword as well as the kind of a type.
-/

namespace ScriptTree

namespace SyntaxKind

/-- The kind lies in the stretch of the vocabulary between two kinds, both included. -/
def isBetween (k first last : SyntaxKind) : Bool :=
  first.ordinal ≤ k.ordinal && k.ordinal ≤ last.ordinal

/-- Comments, blanks, line breaks and the like, which no tree node stands for. -/
def isTrivia (k : SyntaxKind) : Bool :=
  k.isBetween singleLineCommentTrivia conflictMarkerTrivia

/-- The two kinds of comments. -/
def isComment (k : SyntaxKind) : Bool :=
  k == singleLineCommentTrivia || k == multiLineCommentTrivia

/-- Punctuation, operators included. -/
def isPunctuation (k : SyntaxKind) : Bool :=
  k.isBetween openBraceToken caretEqualsToken

/-- The operators that assign. -/
def isAssignment (k : SyntaxKind) : Bool :=
  k.isBetween equalsToken caretEqualsToken

/-- Words with a meaning of their own, also those that may be names elsewhere. -/
def isAnyKeyword (k : SyntaxKind) : Bool :=
  k.isBetween breakKeyword ofKeyword

/-- Words that are no names, at least in strict code. -/
def isReservedWord (k : SyntaxKind) : Bool :=
  k.isBetween breakKeyword yieldKeyword

/-- Keywords that are names wherever their meaning does not apply. -/
def isContextualKeyword (k : SyntaxKind) : Bool :=
  k.isBetween abstractKeyword ofKeyword

/-- The pieces of a template literal. -/
def isTemplatePiece (k : SyntaxKind) : Bool :=
  k.isBetween noSubstitutionTemplateLiteral templateTail

/-- Literals, text between tags included. -/
def isLiteral (k : SyntaxKind) : Bool :=
  k.isBetween numericLiteral noSubstitutionTemplateLiteral

/-- Kinds without parts. -/
def isToken (k : SyntaxKind) : Bool :=
  k.ordinal < qualifiedName.ordinal

/-- Kinds with parts. -/
def isNode (k : SyntaxKind) : Bool :=
  qualifiedName.ordinal ≤ k.ordinal

/-- Words that denote a type. -/
def isTypeKeyword (k : SyntaxKind) : Bool :=
  [anyKeyword, bigIntKeyword, booleanKeyword, intrinsicKeyword, neverKeyword, nullKeyword,
    numberKeyword, objectKeyword, stringKeyword, symbolKeyword, undefinedKeyword, unknownKeyword,
    voidKeyword].contains k

/-- Kinds that denote types. -/
def isType (k : SyntaxKind) : Bool :=
  k.isBetween typePredicate importType || k.isTypeKeyword || k == expressionWithTypeArguments

/-- Words that modify a declaration. -/
def isModifier (k : SyntaxKind) : Bool :=
  [abstractKeyword, accessorKeyword, asyncKeyword, constKeyword, declareKeyword, defaultKeyword,
    exportKeyword, inKeyword, outKeyword, overrideKeyword, privateKeyword, protectedKeyword,
    publicKeyword, readonlyKeyword, staticKeyword].contains k

/-- Tags with a name. -/
def isNamedTag (k : SyntaxKind) : Bool :=
  [jsxOpeningElement, jsxClosingElement, jsxSelfClosingElement].contains k

/-- Functions, and signatures of functions. -/
def isFunctionLike (k : SyntaxKind) : Bool :=
  [functionDeclaration, functionExpression, arrowFunction, methodDeclaration, methodSignature,
    SyntaxKind.constructor, getAccessor, setAccessor, callSignature, constructSignature,
    indexSignature, functionType, constructorType].contains k

end SyntaxKind

end ScriptTree
