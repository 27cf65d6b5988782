import ScriptTree.Convert.Binding
import ScriptTree.Proofs.Convert.Found
import ScriptTree.Proofs.Convert.Pairs
import ScriptTree.Proofs.Convert.Runs

/-!
# What a conversion records

A conversion records some leaves if a run of it that has a result leaves exactly these recorded, in
addition to those that were recorded before (`ScriptTree.Conversion.Records`). The statement carries
along what the next steps rely on: that no number is recorded that was not issued, and
whatever is said about the result.

Such statements compose as conversions do. So for a converter whose ways down record what is found
there (`ScriptTree.Converter.Faithful`) the same holds of lists, ascriptions and whatever else
the rules are made of.
-/

namespace ScriptTree

/-! ### States -/

namespace Progress

/-- No number is recorded that was not issued. -/
def Sound (p : Progress) : Prop :=
  ∀ x ∈ p.maps.pairs, x.2 < p.issued

/-- A concrete node is recorded. -/
def Has (p : Progress) (l : NodeId) : Prop :=
  (p.maps.normalizedOf? (some l)).isSome = true

end Progress

/-- From one state to another exactly the leaves with a property were recorded. -/
structure Recorded (a : Arena) (found : NodeId → Prop) (p q : Progress) : Prop where
  sound : q.Sound
  issued_le : p.issued ≤ q.issued
  has_iff : ∀ l, a.IsLeaf l → (q.Has l ↔ p.Has l ∨ found l)

/-- A state in which nothing was recorded, apart from numbers that were issued. -/
theorem Recorded.of_issued {a : Arena} {p : Progress} (h : p.Sound) {k : Nat}
    (hk : p.issued ≤ k) : Recorded a (fun _ => False) p { p with issued := k } :=
  ⟨fun x hx => Nat.lt_of_lt_of_le (h x hx) hk, hk, fun _ _ => (or_false _).symm.to_iff⟩

theorem Recorded.trans {a : Arena} {found found' : NodeId → Prop} {p q r : Progress}
    (h : Recorded a found p q) (h' : Recorded a found' q r) :
    Recorded a (fun l => found l ∨ found' l) p r where
  sound := h'.sound
  issued_le := Nat.le_trans h.issued_le h'.issued_le
  has_iff l hl := by rw [h'.has_iff l hl, h.has_iff l hl, or_assoc]

namespace Conversion

variable {α β : Type} {a : Arena} {k : Nat} {found found' : NodeId → Prop}

/-- **Runs that have a result record exactly the leaves with a property**, provided that `k` numbers
were issued before. The result has another property, in view of the numbers that were issued by
then. -/
def Records (a : Arena) (k : Nat) (found : NodeId → Prop) (m : Conversion α)
    (post : α → Nat → Prop) : Prop :=
  ∀ ⦃p x q⦄, p.Sound → k ≤ p.issued → m.Ok p x q → Recorded a found p q ∧ post x q.issued

/-- Nothing is said about a result. -/
abbrev AnyResult : α → Nat → Prop := fun _ _ => True

/-! ### Composition -/

namespace Records

variable {m : Conversion α} {post : α → Nat → Prop}

theorem congr (h : Records a k found m post)
    (hfound : ∀ l, a.IsLeaf l → (found l ↔ found' l)) : Records a k found' m post := by
  intro p x q hp hk hok
  obtain ⟨hrec, hpost⟩ := h hp hk hok
  exact ⟨⟨hrec.sound, hrec.issued_le, fun l hl => by rw [hrec.has_iff l hl, hfound l hl]⟩, hpost⟩

/-- The same property, written in another way. -/
theorem of (found : NodeId → Prop) (h : Records a k found m post)
    (hfound : ∀ l, a.IsLeaf l → (found' l ↔ found l)) : Records a k found' m post :=
  h.congr fun l hl => (hfound l hl).symm

theorem mono {post' : α → Nat → Prop} (h : Records a k found m post)
    (hpost : ∀ x k', k ≤ k' → post x k' → post' x k') : Records a k found m post' := by
  intro p x q hp hk hok
  obtain ⟨hrec, hx⟩ := h hp hk hok
  exact ⟨hrec, hpost x _ (Nat.le_trans hk hrec.issued_le) hx⟩

theorem any (h : Records a k found m post) : Records a k found m AnyResult :=
  h.mono fun _ _ _ _ => trivial

protected theorem pure {x : α} (h : ∀ k', k ≤ k' → post x k') :
    Records a k (fun _ => False) (pure x) post := by
  intro p y q hp hk hok
  obtain ⟨rfl, rfl⟩ := ok_pure.mp hok
  exact ⟨.of_issued hp (Nat.le_refl _), h _ hk⟩

/-- Of a given result nothing is said. -/
theorem pure_any (x : α) : Records a k (fun _ => False) (pure x) AnyResult :=
  Records.pure fun _ _ => trivial

/-- What is recorded first, and what is recorded then. -/
protected theorem bind {f : α → Conversion β} {post' : β → Nat → Prop}
    (h : Records a k found m post)
    (hf : ∀ x k', k ≤ k' → post x k' → Records a k' found' (f x) post') :
    Records a k (fun l => found l ∨ found' l) (m >>= f) post' := by
  intro p y q hp hk hok
  obtain ⟨x, r, hm, hfx⟩ := ok_bind.mp hok
  obtain ⟨hrec, hx⟩ := h hp hk hm
  obtain ⟨hrec', hy⟩ :=
    hf x _ (Nat.le_trans hk hrec.issued_le) hx hrec.sound (Nat.le_refl _) hfx
  exact ⟨hrec.trans hrec', hy⟩

/-- What is recorded after a step that records nothing. -/
theorem quiet_bind {f : α → Conversion β} {post' : β → Nat → Prop}
    (h : Records a k (fun _ => False) m post)
    (hf : ∀ x k', k ≤ k' → post x k' → Records a k' found (f x) post') :
    Records a k found (m >>= f) post' :=
  (h.bind hf).congr fun _ _ => iff_of_eq (false_or _)

/-- What is recorded before a step that records nothing. -/
theorem bind_quiet {f : α → Conversion β} {post' : β → Nat → Prop}
    (h : Records a k found m post)
    (hf : ∀ x k', k ≤ k' → post x k' → Records a k' (fun _ => False) (f x) post') :
    Records a k found (m >>= f) post' :=
  (h.bind hf).congr fun _ _ => iff_of_eq (or_false _)

protected theorem map {f : α → β} {post' : β → Nat → Prop}
    (h : Records a k found m fun x k' => post' (f x) k') :
    Records a k found (f <$> m) post' := by
  intro p y q hp hk hok
  obtain ⟨x, hm, rfl⟩ := ok_map.mp hok
  exact h hp hk hm

/-- Of what a result is turned into nothing is said. -/
theorem map_any (h : Records a k found m post) (f : α → β) :
    Records a k found (f <$> m) AnyResult :=
  Records.map h.any

protected theorem throw {e : Halt} : Records a k found (throw e : Conversion α) post :=
  fun _ x _ _ _ hok => absurd hok (not_ok_throw e x)

protected theorem fail {e : ConvertError} : Records a k found (fail e : Conversion α) post :=
  fun _ x _ _ _ hok => absurd hok (not_ok_fail e x)

/-- Every element of a list, one after the other. -/
protected theorem mapM {f : α → Conversion β} {found : α → NodeId → Prop}
    {post : β → Nat → Prop} (bs : List α)
    (h : ∀ b ∈ bs, ∀ k, Records a k (found b) (f b) post) :
    Records a k (fun l => ∃ b ∈ bs, found b l) (bs.mapM f) AnyResult := by
  induction bs generalizing k with
  | nil =>
    rw [List.mapM_nil]
    exact Records.of _ (Records.pure_any _) fun l _ => by simp
  | cons b bs ih =>
    rw [List.mapM_cons]
    refine Records.of (fun l => found b l ∨ ∃ b ∈ bs, found b l) ?_ fun l _ => by simp
    refine Records.bind (h b List.mem_cons_self k) fun x k' _ _ => ?_
    refine bind_quiet (ih fun b' hb' => h b' (List.mem_cons_of_mem b hb')) fun xs k'' _ _ => ?_
    exact Records.pure_any _

/-- Every element of a list, without those that nothing comes of. -/
protected theorem filterMapM {f : α → Conversion (Option β)} {found : α → NodeId → Prop}
    {post : Option β → Nat → Prop} (bs : List α)
    (h : ∀ b ∈ bs, ∀ k, Records a k (found b) (f b) post) :
    Records a k (fun l => ∃ b ∈ bs, found b l) (bs.filterMapM f) AnyResult := by
  induction bs generalizing k with
  | nil =>
    rw [List.filterMapM_nil]
    exact Records.of _ (Records.pure_any _) fun l _ => by simp
  | cons b bs ih =>
    rw [List.filterMapM_cons]
    refine Records.of (fun l => found b l ∨ ∃ b ∈ bs, found b l) ?_ fun l _ => by simp
    refine Records.bind (h b List.mem_cons_self k) fun x k' _ _ => ?_
    have hrest := ih (k := k') fun b' hb' => h b' (List.mem_cons_of_mem b hb')
    cases x with
    | none => exact hrest
    | some x => exact bind_quiet hrest fun xs k'' _ _ => Records.pure_any _

/-- Every element of a list, on top of what the elements before it came to. -/
protected theorem foldlM {f : β → α → Conversion β} {found : α → NodeId → Prop}
    {inv : β → Prop} (bs : List α)
    (h : ∀ x, inv x → ∀ b ∈ bs, ∀ k, Records a k (found b) (f x b) fun x _ => inv x)
    {x : β} (hx : inv x) :
    Records a k (fun l => ∃ b ∈ bs, found b l) (bs.foldlM f x) fun x _ => inv x := by
  induction bs generalizing x k with
  | nil =>
    rw [List.foldlM_nil]
    exact Records.of _ (Records.pure fun _ _ => hx) fun l _ => by simp
  | cons b bs ih =>
    rw [List.foldlM_cons]
    refine Records.of (fun l => found b l ∨ ∃ b ∈ bs, found b l) ?_ fun l _ => by simp
    refine Records.bind (h x hx b List.mem_cons_self k) fun x k' _ hx => ?_
    exact ih (fun x hx b' hb' => h x hx b' (List.mem_cons_of_mem b hb')) hx

/-- What may be missing. -/
protected theorem optionMapM {f : α → Conversion β} {found : α → NodeId → Prop}
    {post : β → Nat → Prop} (o : Option α)
    (h : ∀ b ∈ o, Records a k (found b) (f b) post) :
    Records a k (fun l => ∃ b ∈ o, found b l) (o.mapM f) AnyResult := by
  cases o with
  | none =>
    rw [Option.mapM_none]
    exact Records.of _ (Records.pure_any _) fun l _ => by simp
  | some b =>
    rw [Option.mapM_some]
    exact Records.of (found b) (Records.map (h b rfl).any) fun l _ => by simp

end Records

/-! ### Steps that record nothing -/

theorem records_parts {s : Source} {p : Pool} {i : NodeId} {n : Node}
    {f : Data p → Conversion β} {post : β → Nat → Prop}
    (h : ∀ d, s.arena.data? p n = some d → Records a k found (f d) post) :
    Records a k found (s.parts p i n >>= f) post := by
  intro p x q hp hk hok
  obtain ⟨d, r, hd, hf⟩ := ok_bind.mp hok
  obtain ⟨hdata, rfl⟩ := Source.ok_parts.mp hd
  exact h d hdata hp hk hf

theorem records_await (found : Option α) :
    Records a k (fun _ => False) (.await found) fun x _ => found = some x := by
  intro p x q hp _ hok
  obtain ⟨hfound, rfl⟩ := ok_await.mp hok
  exact ⟨.of_issued hp (Nat.le_refl _), hfound⟩

theorem records_tokens (s : Source) : Records a k (fun _ => False) s.tokens AnyResult :=
  (records_await s.index).any

theorem records_moved (offset width : Nat) :
    Records a k (fun _ => False) (moved offset width) AnyResult := by
  intro p x q hp _ hok
  obtain ⟨-, -, rfl⟩ := ok_moved.mp hok
  exact ⟨.of_issued hp (Nat.le_refl _), trivial⟩

/-- The number of a node was issued. -/
abbrev IsIssued (n : EsNode) (k : Nat) : Prop := n.head.id < k

/-- What the conversion of a node comes to: nothing just if it is a hole, and otherwise a node
whose number was issued. -/
def Outcome (a : Arena) (r : NodeRef) (x : Option EsNode) (k : Nat) : Prop :=
  (x = none ↔ a.IsHole r) ∧ ∀ es, x = some es → IsIssued es k

theorem Outcome.mono {r : NodeRef} {x : Option EsNode} {k' : Nat} (h : Outcome a r x k)
    (hk : k ≤ k') : Outcome a r x k' :=
  ⟨h.1, fun es hes => Nat.lt_of_lt_of_le (h.2 es hes) hk⟩

/-- What has become of a hole. -/
theorem Outcome.of_isHole {r : NodeRef} (hr : a.IsHole r) : Outcome a r none k :=
  ⟨iff_of_true rfl hr, fun es hes => absurd hes.symm (Option.some_ne_none es)⟩

theorem Outcome.isHole {r : NodeRef} (h : Outcome a r none k) : a.IsHole r :=
  h.1.mp rfl

/-- Something came of a node, so it is no hole. -/
theorem Outcome.not_isHole {r : NodeRef} {es : EsNode} (h : Outcome a r (some es) k) :
    ¬ a.IsHole r :=
  fun hr => Option.some_ne_none es (h.1.mpr hr)

/-- What has become of a node that is no hole. -/
theorem Outcome.of_isIssued {r : NodeRef} {es : EsNode} (hr : ¬ a.IsHole r) (hes : IsIssued es k) :
    Outcome a r (some es) k := by
  refine ⟨iff_of_false (Option.some_ne_none es) hr, ?_⟩
  rintro _ ⟨⟩
  exact hes

/-- Filling fields does not change which node it is. -/
@[simp] theorem id_fill (d : Draft) (fields : List (String × Option EsValue)) :
    (d.fill fields).id = d.id := by
  induction fields generalizing d with
  | nil => rfl
  | cons e fields ih =>
    rw [Draft.fill, List.foldl_cons]
    refine (ih _).trans ?_
    cases e.2 <;> rfl

theorem records_start (type : EsType) (first stop : Nat) :
    Records a k (fun _ => False) (start type first stop) fun d k' => d.id < k' := by
  intro p x q hp _ hok
  obtain ⟨-, rfl, rfl⟩ := ok_start.mp hok
  exact ⟨.of_issued hp (Nat.le_succ _), Nat.lt_succ_self _⟩

theorem records_buildAt (s : Source) (type : AstType) (start stop : Nat)
    (fields : List (String × Option EsValue)) :
    Records a k (fun _ => False) (s.buildAt type start stop fields) IsIssued := by
  intro p x q hp _ hok
  obtain ⟨-, rfl, rfl⟩ := Source.ok_buildAt.mp hok
  refine ⟨.of_issued hp (Nat.le_succ _), ?_⟩
  change ((Draft.new p.issued type start stop).fill fields).id < p.issued + 1
  rw [id_fill]
  exact Nat.lt_succ_self _

theorem records_build (s : Source) (type : AstType) (n : Node)
    (fields : List (String × Option EsValue)) :
    Records a k (fun _ => False) (s.build type n fields) IsIssued :=
  records_buildAt s type n.pos n.stop fields

/-! ### Recording -/

/-- A node that is recorded for something that is no leaf. -/
theorem records_register {s : Source} {i : NodeId} {es : EsNode}
    (hi : ¬ s.arena.IsLeaf i) (hes : IsIssued es k) :
    Records s.arena k (fun _ => False) (s.register (some i) es) AnyResult := by
  intro p x q hp hk hok
  obtain rfl := Source.ok_register.mp hok
  split
  · refine ⟨⟨fun x hx => ?_, Nat.le_refl _, fun l hl => ?_⟩, trivial⟩
    · rcases NodeMaps.mem_register hx with rfl | hx
      · exact Nat.lt_of_lt_of_le hes hk
      · exact hp x hx
    · have hne : some l ≠ some i := fun h => hi (Option.some.inj h ▸ hl)
      rw [or_false, Progress.Has, NodeMaps.normalizedOf?_register_of_ne hne, Progress.Has]
  · exact ⟨.of_issued hp (Nat.le_refl _), trivial⟩

/-- A conversion makes a new node, and records nothing. -/
def MakesNew (m : Conversion EsNode) : Prop :=
  ∀ ⦃p es q⦄, m.Ok p es q → q.maps = p.maps ∧ p.issued ≤ es.head.id ∧ IsIssued es q.issued

/-- A node that is built is a new one. -/
theorem makesNew_buildAt (s : Source) (type : AstType) (start stop : Nat)
    (fields : List (String × Option EsValue)) : MakesNew (s.buildAt type start stop fields) := by
  intro p es q hok
  obtain ⟨-, rfl, rfl⟩ := Source.ok_buildAt.mp hok
  refine ⟨rfl, ?_⟩
  change p.issued ≤ ((Draft.new p.issued type start stop).fill fields).id ∧
    ((Draft.new p.issued type start stop).fill fields).id < p.issued + 1
  rw [id_fill]
  exact ⟨Nat.le_refl _, Nat.lt_succ_self _⟩

theorem makesNew_build (s : Source) (type : AstType) (n : Node)
    (fields : List (String × Option EsValue)) : MakesNew (s.build type n fields) :=
  makesNew_buildAt s type n.pos n.stop fields

/-- A new node is recorded. -/
theorem MakesNew.records_register {s : Source} (hs : s.options.provideCorrespondenceMaps = true)
    {i : NodeId} {m : Conversion EsNode} (h : MakesNew m) {f : EsNode → β} {post : β → Nat → Prop}
    (hf : ∀ es k', IsIssued es k' → post (f es) k') :
    Records s.arena k (fun l => i = l)
      (m >>= fun es => s.register (some i) es >>= fun _ => pure (f es)) post := by
  intro p y r hp hk hok
  obtain ⟨es, q, hm, hok⟩ := ok_bind.mp hok
  obtain ⟨_, r, hregister, hok⟩ := ok_bind.mp hok
  obtain ⟨rfl, rfl⟩ := ok_pure.mp hok
  obtain ⟨hmaps, hnew, hissued⟩ := h hm
  rw [Source.ok_register, if_pos hs] at hregister
  subst hregister
  -- The pairs that are there are those of older nodes.
  have hold (x : NodeRef × Nat) (hx : x ∈ q.maps.pairs) : x.2 < p.issued := hp x (hmaps ▸ hx)
  refine ⟨⟨fun x hx => ?_, ?_, fun l _ => ?_⟩, hf es _ hissued⟩
  · rcases NodeMaps.mem_register hx with rfl | hx
    · exact hissued
    · exact Nat.lt_of_lt_of_le (hold x hx) (Nat.le_of_lt (Nat.lt_of_le_of_lt hnew hissued))
  · exact Nat.le_of_lt (Nat.lt_of_le_of_lt hnew hissued)
  · have hunused : ∀ x ∈ q.maps.pairs, x.2 ≠ es.head.id := fun x hx =>
      Nat.ne_of_lt (Nat.lt_of_lt_of_le (hold x hx) hnew)
    rw [Progress.Has, NodeMaps.isSome_normalizedOf?_register hunused, hmaps, Option.some.injEq]
    exact or_congr_right eq_comm

end Conversion

/-! ### Ways down -/

open Conversion

/-- The ways down of a converter record what is found there, and nothing comes of a node just when
it is a hole. -/
structure Converter.Faithful (c : Converter) : Prop where
  wanted : c.options.provideCorrespondenceMaps = true
  convert : ∀ r k, Records c.arena k (c.arena.Below .rule r) (c.convert r) (Outcome c.arena r)
  typeArgument : ∀ r k,
    Records c.arena k (c.arena.BelowArgument r) (c.typeArgument r) AnyResult
  tagName : ∀ r k, Records c.arena k (c.arena.Below .tag r) (c.tagName r) AnyResult

namespace Converter.Faithful

variable {c : Converter} {k : Nat}

theorem child (hc : c.Faithful) (r : NodeRef) (k : Nat) :
    Records c.arena k (c.arena.Below .rule r) (c.child r) AnyResult :=
  (hc.convert r k).map_any _

/-- Where there is no node, nothing is to be recorded. -/
theorem pure_of_node? {r : NodeRef} (w : Way) (h : c.node? r = none) (k : Nat) {α : Type} {x : α}
    {post : α → Nat → Prop} (hpost : ∀ k', k ≤ k' → post x k') :
    Records c.arena k (c.arena.Below w r) (pure x) post := by
  refine Records.of _ (Records.pure hpost) fun l hl => ?_
  exact iff_of_false (Arena.not_below_of_node?_eq_none hl h) id

theorem pure_any_of_node? {r : NodeRef} (w : Way) (h : c.node? r = none) (k : Nat) {α : Type}
    (x : α) : Records c.arena k (c.arena.Below w r) (pure x) AnyResult :=
  pure_of_node? w h k fun _ _ => trivial

theorem list (hc : c.Faithful) (l : NodeList) (k : Nat) :
    Records c.arena k (c.arena.BelowAny .rule l.nodes) (c.list l) AnyResult :=
  Records.map (Records.mapM l.nodes fun r _ k => hc.child r k)

theorem statements (hc : c.Faithful) (l : NodeList) (k : Nat) :
    Records c.arena k (c.arena.BelowAny .rule l.nodes) (c.statements l) AnyResult :=
  Records.map (Records.filterMapM l.nodes fun r _ k => (hc.convert r k).any)

/-- A list that may be missing. -/
theorem optionList {α : Type} {found : NodeRef → NodeId → Prop} {m : NodeList → Conversion α}
    (l : Option NodeList)
    (h : ∀ l, Records c.arena k (fun i => ∃ r ∈ l.nodes, found r i) (m l) AnyResult) :
    Records c.arena k (fun i => ∃ r ∈ NodeList.nodesOf l, found r i) (l.mapM m) AnyResult := by
  refine Records.of _ (Records.optionMapM l fun l _ => h l) fun i _ => ?_
  cases l with
  | none => simp [NodeList.nodesOf]
  | some l => simp [NodeList.nodesOf]

/-- The parts of a node are taken over, if there is one. -/
theorem takeOver {α : Type} {r : NodeRef} {post : α → Nat → Prop} {absent : Conversion α}
    (f : NodeId → Node → Conversion α)
    (habsent : Records c.arena k (fun _ => False) absent post) :
    (∀ i n, c.arena.nodes[i]? = some n →
      Records c.arena k (c.arena.Rest (.parts, i)) (f i n) post) →
    Records c.arena k (c.arena.Below .parts r)
      (match r with
        | some i => match c.node? (some i) with
          | some n => f i n
          | _ => absent
        | _ => absent) post := by
  intro h
  have hmissing {r : NodeRef} (hr : c.node? r = none) :
      Records c.arena k (c.arena.Below .parts r) absent post :=
    Records.of _ habsent fun l hl => iff_false_intro (Arena.not_below_of_node?_eq_none hl hr)
  cases r with
  | none => exact hmissing rfl
  | some i =>
    dsimp only
    split
    · next n hn => exact Records.of _ (h i n hn) fun l _ => Arena.below_parts_some
    · next hn => exact hmissing (Option.eq_none_iff_forall_ne_some.mpr hn)

/-! ### Brackets and ascriptions -/

theorem brackets (l : NodeList) (k : Nat) :
    Records c.arena k (fun _ => False) (c.brackets l) AnyResult := by
  rw [Converter.brackets]
  split
  · exact Records.quiet_bind (records_moved l.stop 1) fun _ _ _ _ => Records.pure_any _
  · refine Records.quiet_bind (records_tokens c.toSource) fun _ _ _ _ => ?_
    exact Records.quiet_bind (records_moved l.stop 1) fun _ _ _ _ => Records.pure_any _

theorem typeArguments (hc : c.Faithful) (l : NodeList) (k : Nat) :
    Records c.arena k (fun i => ∃ r ∈ l.nodes, c.arena.BelowArgument r i) (c.typeArguments l)
      AnyResult := by
  refine Records.quiet_bind (brackets l k) fun _ k _ _ => ?_
  refine Records.bind_quiet (Records.mapM l.nodes fun r _ k => hc.typeArgument r k) fun _ k _ _ => ?_
  exact (records_buildAt ..).any

theorem typeArguments? (hc : c.Faithful) (l : Option NodeList) (k : Nat) :
    Records c.arena k (fun i => ∃ r ∈ NodeList.nodesOf l, c.arena.BelowArgument r i)
      (c.typeArguments? l) AnyResult :=
  optionList l fun l => hc.typeArguments l k

theorem typeParameters (hc : c.Faithful) (l : NodeList) (k : Nat) :
    Records c.arena k (c.arena.BelowAny .rule l.nodes) (c.typeParameters l) AnyResult := by
  refine Records.quiet_bind (brackets l k) fun _ k _ _ => ?_
  refine Records.bind_quiet (hc.list l k) fun _ k _ _ => ?_
  exact (records_buildAt ..).any

theorem typeParameters? (hc : c.Faithful) (l : Option NodeList) (k : Nat) :
    Records c.arena k (c.arena.BelowAny .rule (NodeList.nodesOf l)) (c.typeParameters? l)
      AnyResult :=
  optionList l fun l => hc.typeParameters l k

theorem ascription? (hc : c.Faithful) (r : NodeRef) (k : Nat) :
    Records c.arena k (c.arena.Below .rule r) (c.ascription? r) AnyResult := by
  rw [Converter.ascription?]
  split
  · next hn =>
    refine Records.quiet_bind (records_tokens c.toSource) fun _ k _ _ => ?_
    refine Records.bind_quiet (hc.child r k) fun _ k _ _ => ?_
    exact (records_buildAt ..).map_any _
  · next hn =>
    exact pure_any_of_node? .rule (Option.eq_none_iff_forall_ne_some.mpr hn) k _

/-- An empty list of decorators says as little as none. -/
theorem decorators? (hc : c.Faithful) (l : Option NodeList) (k : Nat) :
    Records c.arena k (c.arena.BelowAny .rule (NodeList.nodesOf l)) (c.decorators? l)
      AnyResult := by
  refine Records.of _ (optionList _ fun l => hc.list l k) fun i _ => ?_
  cases l with
  | none => rfl
  | some l =>
    rw [Option.filter_some]
    split
    · rfl
    · next h =>
      have hnil : l.nodes = [] := by simpa using h
      simp [NodeList.nodesOf, hnil, Arena.BelowAny]

end Converter.Faithful

end ScriptTree
