import ScriptTree.Search
import ScriptTree.Trivia.Walk

/-!
# Looking up tokens by position

Many nodes of the normalized tree start or end at a token that the concrete tree does not
hold. The tokens of a file stand in order, so they are looked up by halving:
`ScriptTree.Search.partitionPoint` finds where a property of the tokens stops to hold.
-/

namespace ScriptTree

/-- The tokens of a file in the order of the source. -/
structure TokenIndex where
  tokens : Array SourceToken
  deriving Repr

namespace TokenIndex

open Search (partitionPoint)

/-- The index over some tokens. -/
def ofList (tokens : List SourceToken) : TokenIndex := ⟨tokens.toArray⟩

/-- The first token that starts at or after an offset. -/
def atOrAfter (index : TokenIndex) (pos : Nat) : Option SourceToken :=
  index.tokens[partitionPoint index.tokens fun t => t.start < pos]?

/-- Where the next token starts at or after an offset; the offset itself behind the last token. -/
def nextStart (index : TokenIndex) (pos : Nat) : Nat :=
  ((index.atOrAfter pos).map SourceToken.start).getD pos

/-- The last token that ends at or before an offset. -/
def before (index : TokenIndex) (pos : Nat) : Option SourceToken :=
  match partitionPoint index.tokens fun t => t.stop ≤ pos with
  | 0 => none
  | n + 1 => index.tokens[n]?

/-- The tokens that start at or after an offset. -/
def startingFrom (index : TokenIndex) (pos : Nat) : List SourceToken :=
  index.tokens.toList.drop (partitionPoint index.tokens fun t => t.start < pos)

/-- The first token of a kind that starts at or after an offset. -/
def findAfter (index : TokenIndex) (pos : Nat) (kind : SyntaxKind) : Option SourceToken :=
  (index.startingFrom pos).find? fun t => t.kind == kind

/-- The tokens inside a range. -/
def within (index : TokenIndex) (start stop : Nat) : List SourceToken :=
  (index.startingFrom start).takeWhile fun t => t.stop ≤ stop

end TokenIndex

end ScriptTree
