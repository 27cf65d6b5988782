import ScriptTree.Kind.Basic

/-!
# Spellings

Keywords and punctuation are each written in exactly one way. Two tables say how, and
both directions are read off them: the keyword that a word is, and the text that a kind
of token always has.
-/

namespace ScriptTree

namespace SyntaxKind

/-- The keywords and how they are written. -/
def keywords : List (String × SyntaxKind) := [
  ("abstract", .abstractKeyword), ("accessor", .accessorKeyword), ("any", .anyKeyword),
  ("as", .asKeyword), ("asserts", .assertsKeyword), ("assert", .assertKeyword),
  ("async", .asyncKeyword), ("await", .awaitKeyword), ("bigint", .bigIntKeyword),
  ("boolean", .booleanKeyword), ("break", .breakKeyword), ("case", .caseKeyword),
  ("catch", .catchKeyword), ("class", .classKeyword), ("const", .constKeyword),
  ("constructor", .constructorKeyword), ("continue", .continueKeyword),
  ("debugger", .debuggerKeyword), ("declare", .declareKeyword), ("default", .defaultKeyword),
  ("delete", .deleteKeyword), ("do", .doKeyword), ("else", .elseKeyword), ("enum", .enumKeyword),
  ("export", .exportKeyword), ("extends", .extendsKeyword), ("false", .falseKeyword),
  ("finally", .finallyKeyword), ("for", .forKeyword), ("from", .fromKeyword),
  ("function", .functionKeyword), ("get", .getKeyword), ("global", .globalKeyword),
  ("if", .ifKeyword), ("implements", .implementsKeyword), ("import", .importKeyword),
  ("in", .inKeyword), ("infer", .inferKeyword), ("instanceof", .instanceOfKeyword),
  ("interface", .interfaceKeyword), ("intrinsic", .intrinsicKeyword), ("is", .isKeyword),
  ("keyof", .keyOfKeyword), ("let", .letKeyword), ("module", .moduleKeyword),
  ("namespace", .namespaceKeyword), ("never", .neverKeyword), ("new", .newKeyword),
  ("null", .nullKeyword), ("number", .numberKeyword), ("object", .objectKeyword),
  ("of", .ofKeyword), ("out", .outKeyword), ("override", .overrideKeyword),
  ("package", .packageKeyword), ("private", .privateKeyword), ("protected", .protectedKeyword),
  ("public", .publicKeyword), ("readonly", .readonlyKeyword), ("require", .requireKeyword),
  ("return", .returnKeyword), ("satisfies", .satisfiesKeyword), ("set", .setKeyword),
  ("static", .staticKeyword), ("string", .stringKeyword), ("super", .superKeyword),
  ("switch", .switchKeyword), ("symbol", .symbolKeyword), ("this", .thisKeyword),
  ("throw", .throwKeyword), ("true", .trueKeyword), ("try", .tryKeyword), ("type", .typeKeyword),
  ("typeof", .typeOfKeyword), ("undefined", .undefinedKeyword), ("unique", .uniqueKeyword),
  ("unknown", .unknownKeyword), ("using", .usingKeyword), ("var", .varKeyword),
  ("void", .voidKeyword), ("while", .whileKeyword), ("with", .withKeyword),
  ("yield", .yieldKeyword)]

/-- The punctuation and how it is written. -/
def punctuation : List (String × SyntaxKind) := [
  ("\x7b", .openBraceToken), ("\x7d", .closeBraceToken), ("(", .openParenToken),
  (")", .closeParenToken), ("[", .openBracketToken), ("]", .closeBracketToken), (".", .dotToken),
  ("...", .dotDotDotToken), (";", .semicolonToken), (",", .commaToken), ("?.", .questionDotToken),
  ("<", .lessThanToken), ("</", .lessThanSlashToken), (">", .greaterThanToken),
  ("<=", .lessThanEqualsToken), (">=", .greaterThanEqualsToken), ("==", .equalsEqualsToken),
  ("!=", .exclamationEqualsToken), ("===", .equalsEqualsEqualsToken),
  ("!==", .exclamationEqualsEqualsToken), ("=>", .equalsGreaterThanToken), ("+", .plusToken),
  ("-", .minusToken), ("*", .asteriskToken), ("**", .asteriskAsteriskToken), ("/", .slashToken),
  ("%", .percentToken), ("++", .plusPlusToken), ("--", .minusMinusToken),
  ("<<", .lessThanLessThanToken), (">>", .greaterThanGreaterThanToken),
  (">>>", .greaterThanGreaterThanGreaterThanToken), ("&", .ampersandToken), ("|", .barToken),
  ("^", .caretToken), ("!", .exclamationToken), ("~", .tildeToken),
  ("&&", .ampersandAmpersandToken), ("||", .barBarToken), ("?", .questionToken),
  (":", .colonToken), ("@", .atToken), ("??", .questionQuestionToken), ("\x60", .backtickToken),
  ("#", .hashToken), ("=", .equalsToken), ("+=", .plusEqualsToken), ("-=", .minusEqualsToken),
  ("*=", .asteriskEqualsToken), ("**=", .asteriskAsteriskEqualsToken), ("/=", .slashEqualsToken),
  ("%=", .percentEqualsToken), ("<<=", .lessThanLessThanEqualsToken),
  (">>=", .greaterThanGreaterThanEqualsToken),
  (">>>=", .greaterThanGreaterThanGreaterThanEqualsToken), ("&=", .ampersandEqualsToken),
  ("|=", .barEqualsToken), ("||=", .barBarEqualsToken), ("&&=", .ampersandAmpersandEqualsToken),
  ("??=", .questionQuestionEqualsToken), ("^=", .caretEqualsToken)]

/-- The keyword that a word is, if it is one. -/
def keyword? (word : String) : Option SyntaxKind :=
  keywords.lookup word

/-- The text that every token of the kind has, if the kind fixes it. -/
def spelling? (k : SyntaxKind) : Option String :=
  ((keywords ++ punctuation).find? (·.2 == k)).map (·.1)

end SyntaxKind

end ScriptTree
