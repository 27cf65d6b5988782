import Mathlib.Algebra.Order.PUnit
import ScriptTree.Proofs.Ast.Relabel
import ScriptTree.Proofs.Convert.Tandem.Visit

/-!
# Conversions that build the same

The simplest tie between two conversions is that they build the same nodes, up to numbers and types
that are changed in one way everywhere. Nothing is held then, and besides the states only the nodes
of the first conversion are to be looked at, one at a time (`ScriptTree.Likeness`).
-/

namespace ScriptTree

open Holding

/-- **Two conversions build the same nodes**, up to numbers and types, and something is known of
every node. -/
structure Likeness (s : Source) (o : ConvertOptions) (here : NodeId → Prop) where
  /-- How the second conversion numbers and types its nodes. -/
  labels : Relabeling := {}
  /-- What is known of every node of the first one. -/
  holds : EsNode → Prop := fun _ => True
  states : Progress → Progress → Prop
  /-- The second conversion counts from further on. -/
  later : Prop := False
  type_eq : ∀ {type type' first stop}, Starts s o here type type' first stop →
    type' = labels.type type
  counts : ∀ {p p'}, states p p' → p'.issued = p.issued ∨ later ∧ p.issued ≤ p'.issued
  issue : ∀ {p p'}, states p p' → p'.issued = labels.id p.issued ∧ states p.next p'.next
  record : ∀ {i p p'} (id : Nat), here i → states p p' → states
    (if s.options.provideCorrespondenceMaps then
      { p with maps := p.maps.register (some i) id } else p)
    (if o.provideCorrespondenceMaps then
      { p' with maps := p'.maps.register (some i) (labels.id id) } else p')
  start : ∀ {type type' first stop} (id : Nat), Starts s o here type type' first stop →
    holds (s.finish (.new id type first stop)) := by intros; trivial
  reopen : ∀ {n}, holds n → holds (s.finish (.reopen n)) := by intros; trivial
  prop : ∀ {key d} (v : EsValue), key ∉ EsProps.reserved → holds (s.finish d) →
    holds (s.finish (d.prop key v)) := by intros; trivial
  startAt : ∀ {d : Draft} (pos : Nat), d.type ≠ .known .jsxText → holds (s.finish d) →
    holds (s.finish (d.startAt pos)) := by intros; trivial
  extendTo : ∀ {d : Draft} (pos : Nat), holds (s.finish d) →
    holds (s.finish (d.extendTo pos)) := by intros; trivial

namespace Likeness

variable {s : Source} {o : ConvertOptions} {here : NodeId → Prop}

/-- The second value has the labels, and all nodes in the first one have the property. -/
def Values (L : Likeness s o here) (v v' : EsValue) : Prop :=
  v' = v.relabel L.labels ∧ ∀ n ∈ v.nodes, L.holds n

variable {L : Likeness s o here}

/-- A node, with the nodes in its fields. -/
theorem values_toValue_iff {n n' : EsNode} : L.Values n.toValue n'.toValue ↔
    n' = n.relabel L.labels ∧ L.holds n ∧ ∀ m ∈ EsValue.nodesOfFields n.props, L.holds m := by
  rw [Values, EsNode.toValue_eq_relabel_iff, EsValue.nodes_toValue, List.forall_mem_cons]

/-- A finished draft, with the nodes in its fields. -/
theorem values_finish_iff {d d' : Draft} : L.Values (s.finish d).toValue (s.finish d').toValue ↔
    d' = d.relabel L.labels ∧ L.holds (s.finish d) ∧
      ∀ m ∈ EsValue.nodesOfFields d.props, L.holds m := by
  have hfinish : (s.finish d').toValue = (s.finish d).toValue.relabel L.labels ↔
      d' = d.relabel L.labels := Draft.toValue_finish_eq_relabel_iff
  rw [Values, hfinish, EsValue.nodes_toValue, List.forall_mem_cons]
  rfl

/-- **The tie between conversions that build the same.** -/
def tie (L : Likeness s o here) (near : NodeId → Prop) (breaks : Halts s o here)
    (hhere : ∀ {i}, near i → here i)
    (hnear : ∀ {i j}, near i → s.arena.IsChild i j → near j)
    (hlate : L.later → breaks.late) : Tie PUnit s o where
  states := fun _ => L.states
  values := fun _ => L.Values
  here := here
  near := near
  exact := False
  breaks := breaks
  here_of_near := hhere
  near_of_visits := fun hi hj => hj.induction hnear hi
  hasPlainName := fun h => h.elim
  bare := by
    intro v hv
    refine ⟨(EsValue.relabel_of_isBare hv).symm, ?_⟩
    rw [EsValue.nodes_of_isBare hv]
    exact List.forall_mem_nil _
  array := by
    intro h vs vs' hvs
    induction hvs with
    | nil => exact ⟨rfl, List.forall_mem_nil _⟩
    | cons hv _ ih =>
      obtain ⟨rfl, hnodes⟩ := hv
      obtain ⟨heq, hrest⟩ := ih
      rw [EsValue.relabel_array] at heq
      cases heq
      refine ⟨by rw [EsValue.relabel_array, EsValue.relabelItems], fun n hn => ?_⟩
      rw [EsValue.nodes_array, List.flatMap_cons, List.mem_append] at hn
      rw [EsValue.nodes_array] at hrest
      exact hn.elim (hnodes n) (hrest n)
  range := by
    intro h n n' hn
    obtain ⟨rfl, -⟩ := values_toValue_iff.mp hn
    exact ⟨rfl, rfl⟩
  counts := fun hp => (L.counts hp).imp_right fun hcount => ⟨hlate hcount.1, hcount.2⟩
  start := by
    intro k p p' type type' first stop hstarts hp _ _
    obtain ⟨hissued, hnext⟩ := L.issue hp
    refine ⟨0, hnext, values_finish_iff.mpr ⟨?_, L.start p.issued hstarts,
      List.forall_mem_nil _⟩⟩
    rw [L.type_eq hstarts, hissued]
    rfl
  reopen := by
    intro h n n' hn
    obtain ⟨rfl, hhead, hnodes⟩ := values_toValue_iff.mp hn
    exact values_finish_iff.mpr ⟨rfl, L.reopen hhead, hnodes⟩
  prop := by
    rintro h k key v v' d d' hkey - hd ⟨rfl, hv⟩
    obtain ⟨rfl, hhead, hnodes⟩ := values_finish_iff.mp hd
    refine values_finish_iff.mpr ⟨(Draft.relabel_prop key v).symm, L.prop v hkey hhead, ?_⟩
    intro n hn
    exact (EsProps.mem_nodesOfFields_insert hn).elim (hnodes n) (hv n)
  startAt := by
    intro h d d' pos htype hd
    obtain ⟨rfl, hhead, hnodes⟩ := values_finish_iff.mp hd
    exact values_finish_iff.mpr ⟨rfl, L.startAt pos htype hhead, hnodes⟩
  extendTo := by
    intro h d d' pos hd
    obtain ⟨rfl, hhead, hnodes⟩ := values_finish_iff.mp hd
    exact values_finish_iff.mpr ⟨rfl, L.extendTo pos hhead, hnodes⟩
  record := by
    intro h k i p p' n n' hi hp hn
    obtain ⟨rfl, -⟩ := values_toValue_iff.mp hn
    exact L.record n.head.id hi hp

/-- Two nodes, if there are any, in tandem. -/
theorem eq_of_opt_nodes {near : NodeId → Prop} {breaks : Halts s o here}
    {hhere : ∀ {i}, near i → here i}
    {hnear : ∀ {i j}, near i → s.arena.IsChild i j → near j} {hlate : L.later → breaks.late}
    {h : PUnit} {x x' : Option EsNode} (hx : opt (L.tie near breaks hhere hnear hlate).nodes h x x') :
    x' = x.map (EsNode.relabel L.labels) ∧ ∀ es ∈ x, ∀ n ∈ es.toValue.nodes, L.holds n := by
  obtain ⟨-, rfl, rfl⟩ | ⟨n, n', rfl, rfl, hn⟩ := hx.cases
  · exact ⟨rfl, fun _ h => absurd h (Option.not_mem_none _)⟩
  · obtain ⟨heq, hnodes⟩ := hn
    refine ⟨congrArg some (EsNode.toValue_eq_relabel_iff.mp heq), ?_⟩
    rintro _ ⟨⟩
    exact hnodes

end Likeness

/-- Conversions that start from one state count alike. -/
theorem Progress.counts_of_eq {later : Prop} {p p' : Progress} (h : p' = p) :
    p'.issued = p.issued ∨ later ∧ p.issued ≤ p'.issued :=
  .inl (congrArg issued h)

/-- A node is started from one state as from the other, if they are the same. -/
theorem Progress.issue_of_eq {p p' : Progress} (h : p' = p) :
    p'.issued = p.issued ∧ p'.next = p.next :=
  h ▸ ⟨rfl, rfl⟩

/-- With the same options the types are the same everywhere. -/
theorem Source.type_eq_of_starts (s : Source) {type type' : EsType} {first stop : Nat}
    (h : Starts s s.options (fun _ => True) type type' first stop) : type' = type :=
  h.type_eq

/-- **Two runs of one conversion from one state** build the same. -/
def Source.sameness (s : Source) (here : NodeId → Prop) : Likeness s s.options here where
  states := fun p p' => p' = p
  counts := Progress.counts_of_eq
  type_eq := Starts.type_eq
  issue := Progress.issue_of_eq
  record := by
    rintro i p _ id - rfl
    rfl

namespace Source.sameness

variable {s : Source} {here near : NodeId → Prop} {breaks : Halts s s.options here}
  {hhere : ∀ {i}, near i → here i} {hnear : ∀ {i j}, near i → s.arena.IsChild i j → near j}
  {hlate : False → breaks.late}

/-- Values that are built from one state are the same. -/
theorem values_iff {h : PUnit} {v v' : EsValue} :
    ((s.sameness here).tie near breaks hhere hnear hlate).values h v v' ↔ v' = v := by
  change (v' = v.relabel {} ∧ ∀ n ∈ v.nodes, True) ↔ v' = v
  rw [EsValue.relabel_default]
  exact and_iff_left fun _ _ => trivial

/-- So are nodes, if there are any. -/
theorem opt_nodes_iff {h : PUnit} {x x' : Option EsNode} :
    opt ((s.sameness here).tie near breaks hhere hnear hlate).nodes h x x' ↔ x' = x := by
  constructor
  · intro hx
    obtain ⟨-, rfl, rfl⟩ | ⟨n, n', rfl, rfl, hn⟩ := hx.cases
    · rfl
    · rw [EsNode.toValue_injective (values_iff.mp hn)]
  · rintro rfl
    cases x' with
    | none => rfl
    | some n => exact values_iff.mpr rfl

/-- Conversions in tandem have the same runs, and come to a halt only for the reasons given, if the
first one does not stop alone. -/
theorem run_eq {α : Type} {post : Holding PUnit α} {m m' : Conversion α}
    (hm : ((s.sameness here).tie near breaks hhere hnear hlate).Tandem 0 m m' post)
    (hpost : ∀ h x x', post h x x' → x' = x) (hfirst : ∀ e, ¬ breaks.first e)
    (hsame : ¬ breaks.late) (p : Progress) : m'.run.run p = m.run.run p ∧
      ∀ e, (m.run.run p).1 = .error e → breaks.both e (m.run.run p).2 := by
  have hstates : ((s.sameness here).tie near breaks hhere hnear hlate).states 0 p p := rfl
  have hends := hm.ends hstates
  generalize m.run.run p = run, m'.run.run p = run' at hends ⊢
  cases hends with
  | ok hq hx =>
    obtain rfl := hq
    rw [hpost _ _ _ hx]
    exact ⟨rfl, fun _ h => by cases h⟩
  | error he hq =>
    obtain rfl := hq
    refine ⟨rfl, ?_⟩
    rintro _ ⟨⟩
    exact he
  | stopped he => exact absurd he (hfirst _)
  | late hlater => exact absurd hlater hsame

/-- A conversion is in tandem with itself, if it may come to any halt. -/
theorem tandem_self {α : Type} {post : Holding PUnit α} {m : Conversion α}
    (hpost : ∀ h x, post h x x) (hboth : ∀ e q, breaks.both e q) :
    ((s.sameness here).tie near breaks hhere hnear hlate).Tandem 0 m m post := by
  intro rest p p' hp
  obtain rfl : p' = p := hp
  have hstates (h : PUnit) (q : Progress) :
      ((s.sameness here).tie near breaks hhere hnear hlate).states h q q := rfl
  rcases m.run.run p' with ⟨e | x, q⟩
  · exact .error (hboth e q) (hstates 0 q)
  · exact .ok (hstates _ q) (hpost 0 x)

end Source.sameness

end ScriptTree
