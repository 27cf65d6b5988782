import Mathlib.Algebra.Group.Defs
import Mathlib.Tactic.Abel
import ScriptTree.Convert.Visit
import ScriptTree.Proofs.Ast.Fields
import ScriptTree.Proofs.Convert.Commas
import ScriptTree.Proofs.Convert.Yields

/-!
# Two conversions in tandem

Much of what is to be said about a conversion relates two runs of it, perhaps from different
states or with different options, or relates a run to itself. What is related are the states, and
the values that the runs have made so far. A value holds something that no other value holds as
well, such as the numbers of its nodes; what is held is added up, in a monoid.

A tie is such a relation that is kept up by whatever builds a node (`ScriptTree.Tie`). Two
conversions are in tandem if they keep up a tie from start to end, and come to a halt together, with
the same error, unless one of them comes to a halt that the tie lets it come to alone
(`ScriptTree.Tie.Tandem`). This composes as conversions do. What a conversion is given to hold, it
uses up or passes on; what others hold stays as it is.
-/

namespace ScriptTree

variable {M : Type} [AddCommMonoid M] {α β : Type}

/-! ### What values hold -/

/-- A relation between two values that together hold something. -/
abbrev Holding (M α : Type) := M → α → α → Prop

namespace Holding

/-- The values are the same, and hold nothing. -/
def same : Holding M α := fun h x x' => h = 0 ∧ x' = x

/-- Either there are two values, or none. -/
def opt (R : Holding M α) : Holding M (Option α)
  | h, none, none => h = 0
  | h, some x, some x' => R h x x'
  | _, _, _ => False

/-- Two pairs hold what their parts hold. -/
def both (R : Holding M α) (S : Holding M β) : Holding M (α × β) :=
  fun h x x' => ∃ a b, h = a + b ∧ R a x.1 x'.1 ∧ S b x.2 x'.2

/-- Two lists of one length hold what their items hold. -/
inductive each (R : Holding M α) : Holding M (List α)
  | nil : each R 0 [] []
  | cons {a b : M} {x x' : α} {xs xs' : List α} (h : R a x x') (hs : each R b xs xs') :
    each R (a + b) (x :: xs) (x' :: xs')

variable {R : Holding M α} {S : Holding M β} {h k : M}

theorem opt_none : opt R (0 : M) none none := rfl

/-- There are two values, or none. -/
theorem opt.cases {x x' : Option α} (hx : opt R h x x') :
    (h = 0 ∧ x = none ∧ x' = none) ∨ ∃ y y', x = some y ∧ x' = some y' ∧ R h y y' := by
  cases x with
  | none => cases x' with
    | none => exact .inl ⟨hx, rfl, rfl⟩
    | some => exact hx.elim
  | some y => cases x' with
    | none => exact hx.elim
    | some y' => exact .inr ⟨y, y', rfl, rfl, hx⟩

theorem opt.map {f f' : α → β} {x x' : Option α} (hx : opt R h x x')
    (hf : ∀ y y', R h y y' → S h (f y) (f' y')) : opt S h (x.map f) (x'.map f') := by
  obtain ⟨rfl, rfl, rfl⟩ | ⟨y, y', rfl, rfl, hy⟩ := hx.cases
  · exact opt_none
  · exact hf y y' hy

namespace each

theorem append {xs xs' ys ys' : List α} (hx : each R h xs xs') (hy : each R k ys ys') :
    each R (h + k) (xs ++ ys) (xs' ++ ys') := by
  induction hx with
  | nil =>
    rw [zero_add]
    exact hy
  | cons hx _ ih =>
    rw [add_assoc]
    exact .cons hx ih

theorem singleton {x x' : α} (hx : R h x x') : each R h [x] [x'] := by
  rw [← add_zero h]
  exact .cons hx .nil

theorem map {f f' : α → β} {xs xs' : List α} (hx : each R h xs xs')
    (hf : ∀ a x x', R a x x' → S a (f x) (f' x')) : each S h (xs.map f) (xs'.map f') := by
  induction hx with
  | nil => exact .nil
  | cons hx _ ih => exact .cons (hf _ _ _ hx) ih

/-- Two lists of pairs are two pairs of lists. -/
theorem unzip {xs xs' : List (α × β)} (hx : each (both R S) h xs xs') :
    ∃ a b, h = a + b ∧ each R a (xs.map (·.1)) (xs'.map (·.1)) ∧
      each S b (xs.map (·.2)) (xs'.map (·.2)) := by
  induction hx with
  | nil => exact ⟨0, 0, (add_zero 0).symm, .nil, .nil⟩
  | cons hx _ ih =>
    obtain ⟨a, b, rfl, hfst, hsnd⟩ := hx
    obtain ⟨as, bs, rfl, hfsts, hsnds⟩ := ih
    exact ⟨a + as, b + bs, add_add_add_comm .., .cons hfst hfsts, .cons hsnd hsnds⟩

theorem isEmpty_eq {xs xs' : List α} (hx : each R h xs xs') : xs'.isEmpty = xs.isEmpty := by
  cases hx <;> rfl

end each

end Holding

open Holding

/-! ### Converters over one text -/

/-- The same source, to be converted with other options. -/
def Source.withOptions (s : Source) (o : ConvertOptions) : Source := { s with options := o }

/-- The functions of a converter that go down. -/
structure WaysDown where
  convert : NodeRef → Conversion (Option EsNode)
  typeArgument : NodeRef → Conversion EsValue
  tagName : NodeRef → Conversion EsValue

/-- The converter over a source that goes down in the given ways. -/
def Source.along (s : Source) (w : WaysDown) : Converter where
  toSource := s
  convert := w.convert
  typeArgument := w.typeArgument
  tagName := w.tagName

@[simp] theorem Source.toSource_along (s : Source) (w : WaysDown) : (s.along w).toSource = s := rfl

@[simp] theorem Source.node?_withOptions (s : Source) (o : ConvertOptions) :
    (s.withOptions o).node? = s.node? := rfl

/-- The fields that a name or a pattern of names has. -/
def EsProps.ofNames : List String := ["name", "properties", "elements"]

/-! ### What two conversions may do -/

/-- The type of the texts between tags. -/
def ConvertOptions.markupType (o : ConvertOptions) : AstType :=
  if o.useLiteralTextNodeForMarkupText then .jsxText else .literal

/-- **How two conversions start a node.** They give it the same type, which is of the vocabulary if
the first one insists on that. Only a text between tags may get types that differ. -/
inductive Starts (s : Source) (o : ConvertOptions) (here : NodeId → Prop) :
    EsType → EsType → Nat → Nat → Prop
  | alike {type : EsType} (htext : type ≠ .known .jsxText)
    (hknown : s.options.failOnUnknownNodeKind = true → type.known?.isSome = true)
    (first stop : Nat) : Starts s o here type type first stop
  | text {i : NodeId} {n : Node} (hi : here i) (hn : s.arena.nodes[i]? = some n)
    (hk : n.kind = .jsxText ∨ n.kind = .jsxTextAllWhiteSpaces) :
    Starts s o here s.options.markupType o.markupType n.pos n.stop

/-- With the same options the types are the same. -/
theorem Starts.type_eq {s : Source} {here : NodeId → Prop} {type type' : EsType} {first stop : Nat}
    (h : Starts s s.options here type type' first stop) : type' = type := by
  cases h <;> rfl

/-- The lists that stand in angle brackets. -/
def Field.bracketed : List Field := [.typeArguments, .typeParameters]

/-- **The offsets of a node can be moved as its rule moves them**, and if it is a regular expression
it can be taken apart. -/
structure Source.IsPlaced (s : Source) (n : Node) : Prop where
  regex : n.kind = .regularExpressionLiteral → (Regex.split? (s.nodeText n)).isSome = true
  quote : n.kind.isTemplatePiece = true → n.pos + 1 < 0x100000000
  keyword : n.kind = .metaProperty → ∀ d ∈ s.arena.data? .metaProperty n,
    n.pos + (d.get .keywordToken).operatorText.utf8ByteSize < 0x100000000
  lists : ∀ {p : Pool}, ∀ d ∈ s.arena.data? p n, ∀ f ∈ Field.bracketed, ∀ l ∈ d.listAt f,
    l.stop + 1 < 0x100000000

/-- **The searches that start at a node have an end**: those for the targets that it is a part of, and
for the operands of a chain of commas. -/
structure Source.IsSettled (s : Source) (i : NodeId) : Prop where
  role : (s.arena.literalRole (some i)).isSome = true
  target : (s.arena.inPattern (some i)).isSome = true
  operands : ∀ d, s.arena.IsComma i d →
    (s.arena.commaOperands (s.arena.nodes.size + 1) (d.get .left)).isSome = true

/-- **Why two conversions may come to a halt**, both of them or one of them alone, and in which
states. -/
structure Halts (s : Source) (o : ConvertOptions) (here : NodeId → Prop) where
  /-- Both come to the same halt, the first one in a state. -/
  both : Halt → Progress → Prop
  first : Halt → Prop
  /-- The second conversion counts from further on, and may run out of numbers alone. -/
  late : Prop
  failed : ∀ {e : ConvertError} {q}, (∀ name, e ≠ .unknownNodeType name) → both (.failed e) q
  /-- If the second conversion insists on the vocabulary, so does the first. -/
  strict : o.failOnUnknownNodeKind = true → s.options.failOnUnknownNodeKind = true
  unknown : ∀ {name : String}, AstType.ofName? name = none →
    s.options.failOnUnknownNodeKind = true →
      if o.failOnUnknownNodeKind then ∀ q, both (.failed (.unknownNodeType name)) q
      else first (.failed (.unknownNodeType name))
  exhausted : ∀ {q}, ¬ q.HasNumber → both .exhausted q
  endless : s.index = none → ∀ q, both .endless q
  settled : ∀ {i}, here i → (∀ q, both .endless q) ∨ s.IsSettled i
  placed : ∀ {i n}, here i → s.arena.nodes[i]? = some n → (∀ q, both .misplaced q) ∨ s.IsPlaced n

/-- If neither or both insist on the vocabulary, both conversions may come to any halt. -/
def Halts.alike (s : Source) (here : NodeId → Prop) {o : ConvertOptions}
    (ho : o.failOnUnknownNodeKind = s.options.failOnUnknownNodeKind) : Halts s o here where
  both := fun _ _ => True
  first := fun _ => False
  late := False
  failed := fun _ => trivial
  strict := fun hstrict => ho ▸ hstrict
  unknown := fun _ hstrict => (if_pos (ho.trans hstrict)).symm ▸ fun _ => trivial
  exhausted := fun _ => trivial
  endless := fun _ _ => trivial
  settled := fun _ => .inl fun _ => trivial
  placed := fun _ _ => .inl fun _ => trivial

/-- With the same options, both conversions may come to any halt. -/
def Halts.same (s : Source) (here : NodeId → Prop) : Halts s s.options here :=
  .alike s here rfl

/-! ### Ties -/

/-- **What ties two conversions together**, the second of which may have other options. -/
structure Tie (M : Type) [AddCommMonoid M] (s : Source) (o : ConvertOptions) where
  /-- Two states, and what the values hold that were made so far. -/
  states : Holding M Progress
  /-- Two values, and what they hold. -/
  values : Holding M EsValue
  /-- The nodes that the conversions are at. -/
  here : NodeId → Prop
  /-- The nodes that they may go down to. -/
  near : NodeId → Prop
  /-- Nothing that was made gets lost. -/
  exact : Prop
  /-- Why they may come to a halt. -/
  breaks : Halts s o here
  here_of_near : ∀ {i}, near i → here i
  near_of_visits : ∀ {i j}, near i → s.arena.Visits i j → near j
  hasPlainName : exact → ∀ {i n}, near i → s.arena.nodes[i]? = some n → s.arena.HasPlainName n
  bare : ∀ {v}, v.isBare = true → values 0 v v
  array : ∀ {h vs vs'}, each values h vs vs' → values h (.array vs) (.array vs')
  /-- Nodes that are tied cover the same range. -/
  range : ∀ {h} {n n' : EsNode}, values h n.toValue n'.toValue →
    n'.head.start = n.head.start ∧ n'.head.stop = n.head.stop
  /-- The second one has given out as many numbers as the first one, or more. -/
  counts : ∀ {k p p'}, states k p p' →
    p'.issued = p.issued ∨ breaks.late ∧ p.issued ≤ p'.issued
  start : ∀ {k p p' type type' first stop}, Starts s o here type type' first stop → states k p p' →
    p.HasNumber → p'.HasNumber → ∃ h, states (k + h) p.next p'.next ∧
      values h (s.finish (.new p.issued type first stop)).toValue
        (s.finish (.new p'.issued type' first stop)).toValue
  reopen : ∀ {h} {n n' : EsNode}, values h n.toValue n'.toValue →
    values h (s.finish (.reopen n)).toValue (s.finish (.reopen n')).toValue
  prop : ∀ {h k key v v'} {d d' : Draft}, key ∉ EsProps.reserved → (exact → d.HasRoom key) →
    values h (s.finish d).toValue (s.finish d').toValue → values k v v' →
    values (h + k) (s.finish (d.prop key v)).toValue (s.finish (d'.prop key v')).toValue
  /-- A text between tags stays where it starts. -/
  startAt : ∀ {h} {d d' : Draft} (pos : Nat), d.type ≠ .known .jsxText →
    values h (s.finish d).toValue (s.finish d').toValue →
    values h (s.finish (d.startAt pos)).toValue (s.finish (d'.startAt pos)).toValue
  extendTo : ∀ {h} {d d' : Draft} (pos : Nat),
    values h (s.finish d).toValue (s.finish d').toValue →
    values h (s.finish (d.extendTo pos)).toValue (s.finish (d'.extendTo pos)).toValue
  record : ∀ {h k i p p'} {n n' : EsNode}, here i → states (k + h) p p' →
    values h n.toValue n'.toValue →
    states (k + h)
      (if s.options.provideCorrespondenceMaps then
        { p with maps := p.maps.register (some i) n.head.id } else p)
      (if o.provideCorrespondenceMaps then
        { p' with maps := p'.maps.register (some i) n'.head.id } else p')

namespace Tie

variable {s : Source} {o : ConvertOptions} (T : Tie M s o)

/-- The first of two converters. -/
abbrev left (_ : Tie M s o) (w : WaysDown) : Converter := s.along w

/-- The second of two converters. -/
abbrev right (_ : Tie M s o) (w : WaysDown) : Converter := (s.withOptions o).along w

/-- Two nodes, and what they hold. -/
def nodes : Holding M EsNode := fun h n n' => T.values h n.toValue n'.toValue

/-- Two nodes that are no texts between tags, and what they hold. -/
def declarations : Holding M EsNode :=
  fun h n n' => T.nodes h n n' ∧ n.head.type ≠ .known .jsxText

/-- Two drafts, and what they hold. -/
def drafts : Holding M Draft := fun h d d' => T.nodes h (s.finish d) (s.finish d')

/-- Two fields of one name, and what their values hold. -/
def fields : Holding M (String × Option EsValue) :=
  fun h f f' => f'.1 = f.1 ∧ opt T.values h f.2 f'.2

/-- A node, if there is one, is to be converted. -/
def Nears (r : NodeRef) : Prop := ∀ i, r = some i → T.near i

/-- All nodes are to be converted. -/
def AllNear (rs : List NodeRef) : Prop := ∀ r ∈ rs, T.Nears r

/-! ### Values -/

variable {T} {h k : M}

theorem null : T.values 0 .null .null := T.bare rfl

theorem ofNode? {x x' : Option EsNode} (hx : opt T.nodes h x x') :
    T.values h (EsValue.ofNode? x) (EsValue.ofNode? x') := by
  obtain ⟨rfl, rfl, rfl⟩ | ⟨n, n', rfl, rfl, hn⟩ := hx.cases
  · exact T.null
  · exact hn

theorem ofNodes {ns ns' : List EsNode} (hns : each T.nodes h ns ns') :
    T.values h (EsValue.ofNodes ns) (EsValue.ofNodes ns') :=
  T.array (hns.map fun _ _ _ hn => hn)

/-- A node, if there is one, is a value, if there is one. -/
theorem opt_lift {x x' : Option EsNode} (hx : opt T.nodes h x x') :
    opt T.values h (do pure (← x).toValue) (do pure (← x').toValue) := by
  obtain ⟨rfl, rfl, rfl⟩ | ⟨n, n', rfl, rfl, hn⟩ := hx.cases
  · exact opt_none
  · exact hn

theorem absence (a : Absence) {x x' : Option EsNode} (hx : opt T.nodes h x x') :
    opt T.values h (a.value x) (a.value x') := by
  obtain ⟨rfl, rfl, rfl⟩ | ⟨n, n', rfl, rfl, hn⟩ := hx.cases
  · cases a with
    | null => exact T.null
    | omitted => exact opt_none
  · cases a <;> exact hn

/-! ### Fields -/

theorem opt_bare {v : Option EsValue} (hv : v.all EsValue.isBare = true) : opt T.values 0 v v := by
  cases v with
  | none => exact opt_none
  | some v => exact T.bare hv

/-- One more field. -/
theorem field {key : String} {v v' : Option EsValue} {fs fs' : List (String × Option EsValue)}
    (hv : opt T.values h v v') (hfs : each T.fields k fs fs') :
    each T.fields (h + k) ((key, v) :: fs) ((key, v') :: fs') :=
  .cons ⟨rfl, hv⟩ hfs

/-- One more field, which holds nothing. -/
theorem plain {key : String} {v : Option EsValue} {fs fs' : List (String × Option EsValue)}
    (hv : v.all EsValue.isBare = true) (hfs : each T.fields k fs fs') :
    each T.fields k ((key, v) :: fs) ((key, v) :: fs') := by
  rw [← zero_add k]
  exact field (opt_bare hv) hfs

/-- One more field, with a mark. -/
theorem mark {key : String} {b : Bool} {fs fs' : List (String × Option EsValue)}
    (hfs : each T.fields k fs fs') :
    each T.fields k ((key, EsValue.mark b) :: fs) ((key, EsValue.mark b) :: fs') :=
  plain (EsValue.all_isBare_mark b) hfs

/-! ### Drafts -/

theorem propOpt {d d' : Draft} {key : String} {v v' : Option EsValue} (hd : T.drafts h d d')
    (hv : opt T.values k v v') (hkey : key ∉ EsProps.reserved)
    (hroom : T.exact → d.HasRoom key) :
    T.drafts (h + k) (d.propOpt key v) (d'.propOpt key v') := by
  obtain ⟨rfl, rfl, rfl⟩ | ⟨w, w', rfl, rfl, hw⟩ := hv.cases
  · rw [add_zero]
    exact hd
  · exact T.prop hkey hroom hd hw

/-- **Fields that are filled in add what they hold.** -/
theorem fill {d d' : Draft} {fs fs' : List (String × Option EsValue)} (hd : T.drafts h d d')
    (hfs : each T.fields k fs fs') (hnames : EsProps.AreNames (fs.map Prod.fst))
    (hroom : T.exact → ∀ key ∈ fs.map Prod.fst, d.HasRoom key) :
    T.drafts (h + k) (d.fill fs) (d'.fill fs') := by
  induction hfs generalizing h d d' with
  | nil =>
    rw [add_zero]
    exact hd
  | @cons a b f f' fs fs' hf _ ih =>
    obtain ⟨key, v⟩ := f
    obtain ⟨key', v'⟩ := f'
    obtain ⟨heq, hv⟩ := hf
    obtain rfl : key' = key := heq
    obtain ⟨hnodup, hfree⟩ := hnames
    rw [List.map_cons, List.nodup_cons] at hnodup
    rw [List.map_cons, List.forall_mem_cons] at hfree
    rw [List.map_cons] at hroom
    rw [← add_assoc]
    refine ih (propOpt hd hv hfree.1 fun hexact => hroom hexact key' List.mem_cons_self)
      ⟨hnodup.2, hfree.2⟩ fun hexact k hk => ?_
    have hk' := hroom hexact k (List.mem_cons_of_mem key' hk)
    cases v with
    | none => exact hk'
    | some v => exact hk'.prop_of_ne fun heq => hnodup.1 (heq ▸ hk)

/-- A node without fields gets some. -/
theorem fill_of_keys_eq_nil {d d' : Draft} {fs fs' : List (String × Option EsValue)}
    (hd : T.drafts h d d') (hempty : d.keys = []) (hfs : each T.fields k fs fs')
    (hnames : EsProps.AreNames (fs.map Prod.fst)) :
    T.drafts (h + k) (d.fill fs) (d'.fill fs') := by
  refine fill hd hfs hnames fun _ key _ => Draft.hasRoom_of_not_mem ?_
  rw [hempty]
  exact List.not_mem_nil

variable (T) {post : Holding M α} {post' : Holding M β}

/-! ### Tandems -/

/-- How two runs come to an end, while other values hold something. -/
inductive Ends (rest : M) (post : Holding M α) :
    Except Halt α × Progress → Except Halt α × Progress → Prop
  | ok {h : M} {x x' : α} {q q' : Progress} (hq : T.states (rest + h) q q') (hx : post h x x') :
    Ends rest post (.ok x, q) (.ok x', q')
  | error {h : M} {e : Halt} {q q' : Progress} (he : T.breaks.both e q) (hq : T.states h q q') :
    Ends rest post (.error e, q) (.error e, q')
  | stopped {e : Halt} {q : Progress} {r : Except Halt α × Progress} (he : T.breaks.first e) :
    Ends rest post (.error e, q) r
  | late {r : Except Halt α × Progress} {q' : Progress} (hlate : T.breaks.late)
    (hq' : ¬ q'.HasNumber) : Ends rest post r (.error .exhausted, q')

/-- **Two conversions are in tandem**: from states that are tied, both have results that are
tied, or the same error, unless one of them stops alone. They are given something to hold, and
nothing else is changed. -/
def Tandem (k : M) (m m' : Conversion α) (post : Holding M α) : Prop :=
  ∀ ⦃rest p p'⦄, T.states (rest + k) p p' → T.Ends rest post (m.run.run p) (m'.run.run p')

namespace Tandem

variable {T} {l : M} {m m' : Conversion α} {f f' : α → Conversion β}

/-- What is given to hold may be written in another way. -/
theorem cast (hm : T.Tandem k m m' post)
    (hk : h = k) :
    T.Tandem h m m' post :=
  hk ▸ hm

theorem mono {post' : Holding M α} (hm : T.Tandem k m m' post)
    (hpost : ∀ h x x', post h x x' → post' h x x') : T.Tandem k m m' post' := by
  intro rest p p' hp
  have hends := hm hp
  generalize m.run.run p = r, m'.run.run p' = r' at hends ⊢
  cases hends with
  | ok hq hx => exact .ok hq (hpost _ _ _ hx)
  | error he hq => exact .error he hq
  | stopped he => exact .stopped he
  | late hlate hq' => exact .late hlate hq'

/-- Runs in tandem come to an end together. -/
theorem ends (hm : T.Tandem k m m' post) {p p' : Progress} (hp : T.states k p p') :
    T.Ends 0 post (m.run.run p) (m'.run.run p') := by
  rw [← zero_add k] at hp
  exact hm hp

/-- **A result of the first conversion** comes with one of the second. -/
theorem ok (hm : T.Tandem k m m' post) (hlate : ¬ T.breaks.late) {p p' q : Progress} {x : α}
    (hp : T.states k p p') (h : Conversion.Ok m p x q) :
    ∃ (l : M) (x' : α) (q' : Progress), Conversion.Ok m' p' x' q' ∧ T.states l q q' ∧
      post l x x' := by
  have hends := hm.ends hp
  have hrun : m.run.run p = (.ok x, q) := h
  rw [hrun] at hends
  generalize hr : m'.run.run p' = r' at hends
  cases hends with
  | ok hq hx =>
    rw [zero_add] at hq
    exact ⟨_, _, _, hr, hq, hx⟩
  | late h => exact absurd h hlate

/-- What is known about the results of the first conversion is known about those in tandem. -/
theorem yields (hm : T.Tandem k m m' post) {P : α → Prop} (hP : Conversion.Yields m P) :
    T.Tandem k m m' fun h x x' => post h x x' ∧ P x := by
  intro rest p p' hp
  have hends := hm hp
  generalize hr : m.run.run p = r, m'.run.run p' = r' at hends ⊢
  cases hends with
  | ok hq hx => exact .ok hq ⟨hx, hP hr⟩
  | error he hq => exact .error he hq
  | stopped he => exact .stopped he
  | late hlate hq' => exact .late hlate hq'

protected theorem pure {x x' : α} (hx : post k x x') : T.Tandem k (pure x) (pure x') post :=
  fun _ _ _ hp => .ok hp hx

protected theorem throw {e : Halt} (he : ∀ q, T.breaks.both e q) :
    T.Tandem k (throw e) (throw e) post :=
  fun _ p _ hp => .error (he p) hp

/-- Both conversions fail, but not because of a type. -/
protected theorem fail {e : ConvertError} (he : ∀ name, e ≠ .unknownNodeType name) :
    T.Tandem k (Conversion.fail e) (Conversion.fail e) post :=
  Tandem.throw fun _ => T.breaks.failed he

/-- The first conversion stops alone. -/
protected theorem stop {e : ConvertError} (he : T.breaks.first (.failed e)) (m' : Conversion α) :
    T.Tandem k (Conversion.fail e) m' post :=
  fun _ _ _ _ => .stopped he

/-- One conversion after another, which is given what the first one leaves. -/
protected theorem bind (hm : T.Tandem k m m' post)
    (hf : ∀ h x x', post h x x' → T.Tandem h (f x) (f' x') post') :
    T.Tandem k (m >>= f) (m' >>= f') post' := by
  intro rest p p' hp
  have hends := hm hp
  rw [Conversion.run_bind, Conversion.run_bind]
  generalize m.run.run p = r, m'.run.run p' = r' at hends ⊢
  cases hends with
  | ok hq hx => exact hf _ _ _ hx hq
  | error he hq => exact .error he hq
  | stopped he => exact .stopped he
  | late hlate hq' => exact .late hlate hq'

/-- A conversion leaves alone what others hold. -/
theorem frame (hm : T.Tandem k m m' post) (h : M) :
    T.Tandem (h + k) m m' fun h' x x' => ∃ l, h' = h + l ∧ post l x x' := by
  intro rest p p' hp
  rw [← add_assoc] at hp
  have hends := hm hp
  generalize m.run.run p = r, m'.run.run p' = r' at hends ⊢
  cases hends with
  | ok hq hx =>
    rw [add_assoc] at hq
    exact .ok hq ⟨_, rfl, hx⟩
  | error he hq => exact .error he hq
  | stopped he => exact .stopped he
  | late hlate hq' => exact .late hlate hq'

/-- A step that is given a part of what there is, and the rest of a conversion. -/
theorem stepWith (hm : T.Tandem l m m' post) (a : M) (hk : k = a + l)
    (hf : ∀ h x x', post h x x' → T.Tandem (a + h) (f x) (f' x') post') :
    T.Tandem k (m >>= f) (m' >>= f') post' := by
  subst hk
  refine (hm.frame a).bind ?_
  rintro _ x x' ⟨h, rfl, hx⟩
  exact hf h x x' hx

/-- **A step that needs nothing, and the rest of a conversion**, which has the result of the step as
well as what there was before. -/
theorem step (hm : T.Tandem 0 m m' post)
    (hf : ∀ h x x', post h x x' → T.Tandem (k + h) (f x) (f' x') post') :
    T.Tandem k (m >>= f) (m' >>= f') post' :=
  hm.stepWith k (add_zero k).symm hf

protected theorem map {g g' : α → β} (hm : T.Tandem k m m' fun h x x' => post' h (g x) (g' x')) :
    T.Tandem k (g <$> m) (g' <$> m') post' := by
  rw [map_eq_pure_bind, map_eq_pure_bind]
  exact hm.bind fun _ _ _ hx => Tandem.pure hx

/-- The same condition decides about both conversions. -/
protected theorem ite {P : Prop} [Decidable P] {m₁ m₁' m₂ m₂' : Conversion α}
    (h₁ : P → T.Tandem k m₁ m₁' post) (h₂ : ¬ P → T.Tandem k m₂ m₂' post) :
    T.Tandem k (if P then m₁ else m₂) (if P then m₁' else m₂') post := by
  split
  · next hP => exact h₁ hP
  · next hP => exact h₂ hP

/-! ### Lists -/

/-- Every element of a list, one after the other. -/
protected theorem mapM {γ : Type} {g g' : γ → Conversion α} (bs : List γ)
    (hg : ∀ b ∈ bs, T.Tandem 0 (g b) (g' b) post) :
    T.Tandem 0 (bs.mapM g) (bs.mapM g') (each post) := by
  induction bs with
  | nil =>
    rw [List.mapM_nil, List.mapM_nil]
    exact Tandem.pure .nil
  | cons b bs ih =>
    rw [List.mapM_cons, List.mapM_cons]
    refine step (hg b List.mem_cons_self) fun h x x' hx => ?_
    refine step (ih fun b' hb' => hg b' (List.mem_cons_of_mem b hb')) fun h' xs xs' hxs => ?_
    rw [zero_add]
    exact Tandem.pure (.cons hx hxs)

/-- Every element of a list, without those that nothing comes of. -/
protected theorem filterMapM {γ : Type} {g g' : γ → Conversion (Option α)} (bs : List γ)
    (hg : ∀ b ∈ bs, T.Tandem 0 (g b) (g' b) (opt post)) :
    T.Tandem 0 (bs.filterMapM g) (bs.filterMapM g') (each post) := by
  induction bs with
  | nil =>
    rw [List.filterMapM_nil, List.filterMapM_nil]
    exact Tandem.pure .nil
  | cons b bs ih =>
    rw [List.filterMapM_cons, List.filterMapM_cons]
    refine step (hg b List.mem_cons_self) fun h x x' hx => ?_
    have hrest := ih fun b' hb' => hg b' (List.mem_cons_of_mem b hb')
    obtain ⟨rfl, rfl, rfl⟩ | ⟨y, y', rfl, rfl, hy⟩ := hx.cases
    · rw [add_zero]
      exact hrest
    · refine step hrest fun h' ys ys' hys => ?_
      rw [zero_add]
      exact Tandem.pure (.cons hy hys)

/-- Every element of a list, on top of what the elements before it came to. -/
protected theorem foldlM {γ : Type} {g g' : α → γ → Conversion α} (bs : List γ)
    (hg : ∀ h x x', post h x x' → ∀ b ∈ bs, T.Tandem h (g x b) (g' x' b) post) {x x' : α}
    (hx : post k x x') : T.Tandem k (bs.foldlM g x) (bs.foldlM g' x') post := by
  induction bs generalizing k x x' with
  | nil =>
    rw [List.foldlM_nil, List.foldlM_nil]
    exact Tandem.pure hx
  | cons b bs ih =>
    rw [List.foldlM_cons, List.foldlM_cons]
    refine (hg k x x' hx b List.mem_cons_self).bind fun h y y' hy => ?_
    exact ih (fun h x x' hx b' hb' => hg h x x' hx b' (List.mem_cons_of_mem b hb')) hy

/-- What may be missing. -/
protected theorem optionMapM {γ : Type} {g g' : γ → Conversion α} (b : Option γ)
    (hg : ∀ c ∈ b, T.Tandem 0 (g c) (g' c) post) :
    T.Tandem 0 (b.mapM g) (b.mapM g') (opt post) := by
  cases b with
  | none =>
    rw [Option.mapM_none, Option.mapM_none]
    exact Tandem.pure opt_none
  | some c =>
    rw [Option.mapM_some, Option.mapM_some]
    exact Tandem.map (hg c rfl)

/-! ### Reading -/

/-- The parts of a node. -/
theorem parts {p : Pool} {i : NodeId} {n : Node} {g g' : Data p → Conversion α}
    (hg : ∀ d, s.arena.data? p n = some d → T.Tandem k (g d) (g' d) post) :
    T.Tandem k (s.parts p i n >>= g) ((s.withOptions o).parts p i n >>= g') post := by
  have hright : (s.withOptions o).parts p i n = s.parts p i n := rfl
  rw [hright, Source.parts]
  split
  · next d hd => exact hg d hd
  · exact Tandem.fail (by rintro _ ⟨⟩)

/-- Something that both conversions wait for. -/
theorem await {γ : Type} {found : Option γ} {g g' : γ → Conversion α}
    (hfound : (∀ q, T.breaks.both .endless q) ∨ found.isSome = true)
    (hg : ∀ x, found = some x → T.Tandem k (g x) (g' x) post) :
    T.Tandem k (Conversion.await found >>= g) (Conversion.await found >>= g') post := by
  cases found with
  | none => exact Tandem.throw (hfound.resolve_right nofun)
  | some x => exact hg x rfl

/-- The tokens of the text. -/
theorem tokens {g g' : TokenIndex → Conversion α}
    (hg : ∀ index, s.index = some index → T.Tandem k (g index) (g' index) post) :
    T.Tandem k (s.tokens >>= g) ((s.withOptions o).tokens >>= g') post := by
  refine await ?_ hg
  cases hindex : s.index with
  | none => exact .inl (T.breaks.endless hindex)
  | some => exact .inr rfl

/-- An offset further right. -/
theorem moved {offset width : Nat} {g g' : Nat → Conversion α}
    (hfits : (∀ q, T.breaks.both .misplaced q) ∨ offset + width < 0x100000000)
    (hg : T.Tandem k (g (offset + width)) (g' (offset + width)) post) :
    T.Tandem k (Conversion.moved offset width >>= g) (Conversion.moved offset width >>= g') post
      := by
  rw [Conversion.moved]
  split
  · exact hg
  · next hlarge => exact Tandem.throw (hfits.resolve_right hlarge)

/-! ### Building -/

/-- A node that is started has no fields yet, and the type that it was given. Where there is no number
for it, there is none for the second conversion either, which may have run out of them before. -/
theorem start {type type' : EsType} {first stop : Nat}
    (hstarts : Starts s o T.here type type' first stop) :
    T.Tandem 0 (Conversion.start type first stop) (Conversion.start type' first stop)
      fun h d d' => T.drafts h d d' ∧ d.keys = [] ∧ d.type = type := by
  intro rest p p' hp
  rw [add_zero] at hp
  rw [Conversion.run_start, Conversion.run_start]
  have hcounts := T.counts hp
  by_cases hnumber' : p'.HasNumber
  · have hnumber : p.HasNumber := by
      unfold Progress.HasNumber at hnumber' ⊢
      omega
    rw [if_pos hnumber, if_pos hnumber']
    obtain ⟨h, hq, hd⟩ := T.start hstarts hp hnumber hnumber'
    exact .ok hq ⟨hd, rfl, rfl⟩
  · rw [if_neg hnumber']
    rcases hcounts with hissued | ⟨hlate, -⟩
    · have hnumber : ¬ p.HasNumber := by
        unfold Progress.HasNumber at hnumber' ⊢
        omega
      rw [if_neg hnumber]
      exact .error (T.breaks.exhausted hnumber) hp
    · exact .late hlate hnumber'

/-- Both nodes get the same type of the vocabulary. -/
theorem startOver {type : AstType} (htype : type ≠ .jsxText) (first stop : Nat) :
    T.Tandem 0 (Conversion.start type first stop) (Conversion.start type first stop)
      fun h d d' => T.drafts h d d' ∧ d.keys = [] ∧ d.type = .known type :=
  start (.alike (fun heq => htype (EsType.known.inj heq)) (fun _ => rfl) _ _)

/-- **A node that is built holds what its fields hold, and what it holds itself.** -/
theorem buildAs {type type' : AstType} {first stop : Nat}
    (hstarts : Starts s o T.here type type' first stop) {fs fs' : List (String × Option EsValue)}
    (hfs : each T.fields k fs fs') (hnames : decide (EsProps.AreNames (fs.map Prod.fst))) :
    T.Tandem k (s.buildAt type first stop fs) ((s.withOptions o).buildAt type' first stop fs')
      T.nodes := by
  refine step (start hstarts) ?_
  rintro l d d' ⟨hd, hempty, -⟩
  refine Tandem.pure ?_
  rw [add_comm]
  exact fill_of_keys_eq_nil hd hempty hfs (of_decide_eq_true hnames)

/-- A node of one type in both conversions. -/
theorem declareAt {type : AstType} {first stop : Nat} {fs fs' : List (String × Option EsValue)}
    (hfs : each T.fields h fs fs')
    (hnames : decide (type ≠ .jsxText ∧ EsProps.AreNames (fs.map Prod.fst))) (hk : k = h) :
    T.Tandem k (s.buildAt type first stop fs) ((s.withOptions o).buildAt type first stop fs')
      T.declarations := by
  subst hk
  have hnames := of_decide_eq_true hnames
  have hne : EsType.known type ≠ .known .jsxText := fun heq => hnames.1 (EsType.known.inj heq)
  refine (buildAs (.alike hne (fun _ => rfl) _ _) hfs (decide_eq_true hnames.2)).yields
    fun p q es hes => ?_
  obtain ⟨-, rfl, -⟩ := Source.ok_buildAt.mp hes
  change (Draft.fill _ fs).type ≠ _
  rw [(Draft.fill_range _ fs).2.2]
  exact hne

theorem buildAt {type : AstType} {first stop : Nat} {fs fs' : List (String × Option EsValue)}
    (hfs : each T.fields h fs fs')
    (hnames : decide (type ≠ .jsxText ∧ EsProps.AreNames (fs.map Prod.fst))) (hk : k = h) :
    T.Tandem k (s.buildAt type first stop fs) ((s.withOptions o).buildAt type first stop fs')
      T.nodes :=
  (declareAt hfs hnames hk).mono fun _ _ _ hn => hn.1

/-- A node that covers a concrete one. -/
theorem declare {type : AstType} {n : Node} {fs fs' : List (String × Option EsValue)}
    (hfs : each T.fields h fs fs')
    (hnames : decide (type ≠ .jsxText ∧ EsProps.AreNames (fs.map Prod.fst))) (hk : k = h) :
    T.Tandem k (s.build type n fs) ((s.withOptions o).build type n fs') T.declarations :=
  declareAt hfs hnames hk

theorem build {type : AstType} {n : Node} {fs fs' : List (String × Option EsValue)}
    (hfs : each T.fields h fs fs')
    (hnames : decide (type ≠ .jsxText ∧ EsProps.AreNames (fs.map Prod.fst))) (hk : k = h) :
    T.Tandem k (s.build type n fs) ((s.withOptions o).build type n fs') T.nodes :=
  buildAt hfs hnames hk

/-- What a node has become is recorded. -/
theorem register {i : NodeId} {n n' : EsNode} {g g' : Unit → Conversion β} (hi : T.here i)
    (hn : T.nodes k n n') (hg : T.Tandem k (g ()) (g' ()) post') :
    T.Tandem k (s.register (some i) n >>= g) ((s.withOptions o).register (some i) n' >>= g')
      post' := by
  intro rest p p' hp
  have hrun (s : Source) (n : EsNode) (g : Unit → Conversion β) (p : Progress) :
      (s.register (some i) n >>= g).run.run p =
        (g ()).run.run (if s.options.provideCorrespondenceMaps then
          { p with maps := p.maps.register (some i) n.head.id } else p) := by
    rw [Source.register]
    split <;> rfl
  rw [hrun, hrun]
  exact hg (T.record hi hp hn)

end Tandem

end Tie

end ScriptTree
