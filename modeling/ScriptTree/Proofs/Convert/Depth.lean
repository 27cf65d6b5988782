import ScriptTree.Proofs.Arena.Descent
import ScriptTree.Proofs.Convert.Tandem.Visit

/-!
# How far a conversion goes down

A rule goes down only to nodes that lie properly below its own. So where no node lies below itself,
conversions that may go down more often than there are nodes are in tandem, although neither of them
may find that there is no end to it (`ScriptTree.Tie.tandem_of_acyclic`).
-/

namespace ScriptTree

open Holding

variable {M : Type} [AddCommMonoid M]

/-- Nothing comes of a node that is not there, whatever is done further down. -/
theorem Source.onwards_of_node?_eq_none {s : Source} {r : NodeRef} (h : s.node? r = none)
    (w : WaysDown) : (s.onwards w).convert r = pure none ∧
      (s.onwards w).typeArgument r = pure .null ∧ (s.onwards w).tagName r = pure .null := by
  cases r with
  | none => exact ⟨rfl, rfl, rfl⟩
  | some i =>
    have hconvert : (s.along w).visitAt (some i) = pure none := by
      rw [Converter.visitAt, toSource_along, h]
    have htype : (s.onwards w).typeArgument (some i) = pure .null := by
      simp only [onwards, Converter.typeArgumentOf, toSource_along, h]
    have htag : (s.onwards w).tagName (some i) = pure .null := by
      simp only [onwards, Converter.tagNameOf, toSource_along, h]
    exact ⟨hconvert, htype, htag⟩

namespace Tie

variable {s : Source} {o : ConvertOptions} {α : Type} {post : Holding M α} {m m' : Conversion α}

/-- None of the nodes that the conversions may go down to lies below itself. -/
def IsAcyclic (T : Tie M s o) : Prop :=
  ∀ i, T.near i → ¬ Relation.TransGen s.arena.IsChild i i

/-- **The same tie for nodes with few nodes below them**, fewer than so many. -/
def within (T : Tie M s o) (h : T.IsAcyclic) (d : Nat) : Tie M s o where
  __ := T
  near := fun j => T.near j ∧ (j < s.arena.nodes.size → s.arena.height j < d)
  here_of_near := fun hi => T.here_of_near hi.1
  near_of_visits := fun hi hvisits =>
    have hnear := T.near_of_visits hi.1 hvisits
    ⟨hnear, fun hj =>
      (Arena.height_lt_of_below (h _ hnear) hvisits.below hj).trans (hi.2 hvisits.lt_size)⟩
  hasPlainName := fun hexact _ _ hi => T.hasPlainName hexact hi.1

variable {T : Tie M s o} (h : T.IsAcyclic) {d : Nat}

/-- Which nodes are near does not matter to what two conversions do. -/
theorem tandem_within {k : M} :
    (T.within h d).Tandem k m m' post ↔ T.Tandem k m m' post := by
  constructor
  all_goals
    intro hm rest p p' hp
    have hends := @hm rest p p' hp
    generalize m.run.run p = run, m'.run.run p' = run' at hends ⊢
    cases hends with
    | ok hq hx => exact .ok hq hx
    | error he hq => exact .error he hq
    | stopped he => exact .stopped he
    | late hlate hq' => exact .late hlate hq'

/-- Nothing is done for a node that is not there. -/
theorem onwards_of_absent {r : NodeRef} (hr : s.node? r = none) (w w' : WaysDown) :
    T.Tandem 0 ((s.onwards w).convert r) (((s.withOptions o).onwards w').convert r)
        (opt T.nodes) ∧
      T.Tandem 0 ((s.onwards w).typeArgument r) (((s.withOptions o).onwards w').typeArgument r)
        T.values ∧
      T.Tandem 0 ((s.onwards w).tagName r) (((s.withOptions o).onwards w').tagName r)
        T.values := by
  have hr' : (s.withOptions o).node? r = none := hr
  obtain ⟨hconvert, htype, htag⟩ := Source.onwards_of_node?_eq_none hr w
  obtain ⟨hconvert', htype', htag'⟩ := Source.onwards_of_node?_eq_none hr' w'
  rw [hconvert, htype, htag, hconvert', htype', htag']
  exact ⟨Tandem.pure opt_none, Tandem.pure T.null, Tandem.pure T.null⟩

/-- **One step down**: a node with so many nodes below it is converted in tandem if the nodes with
fewer are. -/
theorem enter_within {w w' : WaysDown} (hw : (T.within h d).Descents w w') {r : NodeRef}
    (hr : (T.within h (d + 1)).Nears r) :
    T.Tandem 0 ((s.onwards w).convert r) (((s.withOptions o).onwards w').convert r)
        (opt T.nodes) ∧
      T.Tandem 0 ((s.onwards w).typeArgument r) (((s.withOptions o).onwards w').typeArgument r)
        T.values ∧
      T.Tandem 0 ((s.onwards w).tagName r) (((s.withOptions o).onwards w').tagName r)
        T.values := by
  have henters : (T.within h d).Enters r := by
    intro i n hi hn
    obtain ⟨hnear, hheight⟩ := hr i hi
    have hsize : i < s.arena.nodes.size := (Array.getElem?_eq_some_iff.mp hn).1
    refine ⟨hn, T.here_of_near hnear, fun hvisits => ?_,
      fun hexact => T.hasPlainName hexact hnear hn⟩
    have hnext := T.near_of_visits hnear hvisits
    exact ⟨hnext, fun hj => (Arena.height_lt_of_below (h _ hnext) hvisits.below hj).trans_le
      (Nat.le_of_lt_succ (hheight hsize))⟩
  obtain ⟨hconvert, htype, htag⟩ := hw.enter henters
  exact ⟨(tandem_within h).mp hconvert, (tandem_within h).mp htype, (tandem_within h).mp htag⟩

/-- **Conversions that may go down more often than there are nodes below are in tandem.** -/
theorem descents_within (d : Nat) {depth depth' : Nat} (hd : d < depth) (hd' : d < depth') :
    (T.within h d).Descents (s.ways depth) ((s.withOptions o).ways depth') := by
  induction d generalizing depth depth' with
  | zero =>
    obtain ⟨depth, rfl⟩ := Nat.exists_eq_add_one.mpr hd
    obtain ⟨depth', rfl⟩ := Nat.exists_eq_add_one.mpr hd'
    have habsent {r : NodeRef} (hr : (T.within h 0).Nears r) : s.node? r = none := by
      cases r with
      | none => rfl
      | some i =>
        refine Array.getElem?_eq_none (Nat.le_of_not_lt fun hi => ?_)
        exact Nat.not_lt_zero _ ((hr i rfl).2 hi)
    exact ⟨fun hr => (onwards_of_absent (habsent hr) _ _).1,
      fun hr => (onwards_of_absent (habsent hr) _ _).2.1,
      fun hr => (onwards_of_absent (habsent hr) _ _).2.2, (T.within h 0).yields_onwards _⟩
  | succ d ih =>
    obtain ⟨depth, rfl⟩ := Nat.exists_eq_add_one.mpr (Nat.zero_lt_of_lt hd)
    obtain ⟨depth', rfl⟩ := Nat.exists_eq_add_one.mpr (Nat.zero_lt_of_lt hd')
    have hw := ih (Nat.lt_of_succ_lt_succ hd) (Nat.lt_of_succ_lt_succ hd')
    exact ⟨fun hr => (tandem_within h).mpr (enter_within h hw hr).1,
      fun hr => (tandem_within h).mpr (enter_within h hw hr).2.1,
      fun hr => (tandem_within h).mpr (enter_within h hw hr).2.2,
      (T.within h (d + 1)).yields_onwards _⟩

/-- **Two conversions that may go down more often than there are nodes are in tandem**, if no node
that they may come to lies below itself. Neither of them needs to find that there is no end to it. -/
theorem tandem_of_acyclic (hacyclic : T.IsAcyclic) {depth depth' : Nat}
    (hd : s.arena.nodes.size < depth) (hd' : s.arena.nodes.size < depth') {r : NodeRef}
    (hr : T.Nears r) :
    T.Tandem 0 ((s.converter depth).convert r) (((s.withOptions o).converter depth').convert r)
      (opt T.nodes) := by
  rw [Source.converter_eq, Source.converter_eq]
  have hdescents := T.descents_within hacyclic s.arena.nodes.size hd hd'
  refine (tandem_within hacyclic).mp (hdescents.convert ?_)
  exact fun i hi => ⟨hr i hi, Arena.height_lt_size (hacyclic i (hr i hi))⟩

end Tie

end ScriptTree
