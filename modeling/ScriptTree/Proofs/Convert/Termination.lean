import ScriptTree.Proofs.Arena.Climb
import ScriptTree.Proofs.Convert.Depth
import ScriptTree.Proofs.Convert.Outputs

/-!
# Everything comes to an end

Where no node lies below itself, and the text has an end to its tokens, nothing that is asked of a
converter goes on for ever (`ScriptTree.Source.terminates`): steps down lead to nodes below, steps
up to nodes above, and no way that does either is longer than the number of nodes. So every search
through the tree has an answer before its fuel runs out, and a converter that may go down further
does nothing else (`ScriptTree.Source.Terminates`).
-/

namespace ScriptTree

open Holding

/-! ### Conversions -/

/-- Two ways down are the same for the nodes that lie properly below a node, and for places without
a node. -/
def WaysDown.AgreeBelow (a : Arena) (i : NodeId) (w w' : WaysDown) : Prop :=
  ∀ r : NodeRef, (∀ j, r = some j → Relation.TransGen a.IsChild i j) →
    w.convert r = w'.convert r ∧ w.typeArgument r = w'.typeArgument r ∧ w.tagName r = w'.tagName r

namespace Source

variable {s : Source}

/-- **A node that does not fit in its place**: a rule cannot take its text apart or move its
offsets. -/
def IsMisplaced (s : Source) (i : NodeId) : Prop :=
  ∃ n, s.arena.nodes[i]? = some n ∧ ¬ s.IsPlaced n

/-- **Why a conversion that comes to an end may have no result**: it has failed, it has come to a
node that does not fit in its place, or there is no number left for another node. -/
def endingHalts (s : Source) (here : NodeId → Prop) (hindex : s.index ≠ none)
    (hsettled : ∀ {i}, here i → s.IsSettled i) : Halts s s.options here where
  both := fun e q => e ≠ .endless ∧ (e = .misplaced → ∃ i, here i ∧ s.IsMisplaced i) ∧
    (e = .exhausted → ¬ q.HasNumber)
  first := fun _ => False
  late := False
  failed := fun _ => ⟨nofun, nofun, nofun⟩
  strict := fun hstrict => hstrict
  unknown := fun _ hstrict => (if_pos hstrict).symm ▸ fun _ => ⟨nofun, nofun, nofun⟩
  exhausted := fun hnumber => ⟨nofun, nofun, fun _ => hnumber⟩
  endless := fun h => absurd h hindex
  settled := fun hi => .inr (hsettled hi)
  placed := by
    intro i n hi hn
    by_cases hplaced : s.IsPlaced n
    · exact .inr hplaced
    · exact .inl fun _ => ⟨nofun, fun _ => ⟨i, hi, n, hn, hplaced⟩, nofun⟩

/-- The searches that start at a node have an end where no node lies below itself. -/
theorem isSettled_of_acyclic (hlinked : s.arena.IsLinked) (hacyclic : s.arena.Acyclic)
    (i : NodeId) : s.IsSettled i where
  role := Option.isSome_iff_exists.mpr
    (Arena.exists_literalRole hlinked fun j _ => hacyclic.acyclicAbove j)
  target := Option.isSome_iff_exists.mpr
    (Arena.exists_inPattern hlinked fun j _ => hacyclic.acyclicAbove j)
  operands := fun _ _ => Option.isSome_iff_exists.mpr
    (Arena.exists_commaOperands (hacyclic.acyclicFrom _))

/-- Going down further makes no difference, whether or not there is an end to the tokens. -/
theorem converter_eq_convert {r : NodeRef} (hacyclic : s.arena.AcyclicFrom r) {depth : Nat}
    (hdepth : s.arena.nodes.size < depth) : (s.converter depth).convert r = s.convert r := by
  let T := (s.sameness fun _ => True).tie (s.arena.Reaches r) (.same s _)
    (fun _ => trivial) Arena.Reaches.isChild False.elim
  have htandem : T.Tandem 0 (s.convert r) ((s.converter depth).convert r) (opt T.nodes) :=
    T.tandem_of_acyclic hacyclic (by omega) hdepth fun i hi => ⟨i, hi, .refl⟩
  exact funext fun p =>
    (sameness.run_eq htandem (fun _ _ _ => sameness.opt_nodes_iff.mp) (fun _ => id) id p).1

/-- **A conversion comes to an end**, and going down further makes no difference. If a text cannot be
cut or an offset not be moved, it is because of a node that it can come to; and it runs out of
numbers only when they were all given out. -/
theorem convert_ends (hlinked : s.arena.IsLinked) (hacyclic : s.arena.Acyclic)
    (hindex : s.index ≠ none) (r : NodeRef) :
    (∀ depth, s.arena.nodes.size < depth → (s.converter depth).convert r = s.convert r) ∧
      ∀ p e, ((s.convert r).run.run p).1 = .error e →
        e ≠ .endless ∧ (e = .misplaced → ∃ i, s.arena.Reaches r i ∧ s.IsMisplaced i) ∧
          (e = .exhausted → ¬ ((s.convert r).run.run p).2.HasNumber) := by
  refine ⟨fun depth => converter_eq_convert (hacyclic.acyclicFrom r), fun p => ?_⟩
  let T := (s.sameness (s.arena.Reaches r)).tie (s.arena.Reaches r)
    (s.endingHalts _ hindex fun {i} _ => isSettled_of_acyclic hlinked hacyclic i) id
    Arena.Reaches.isChild False.elim
  have htandem : T.Tandem 0 (s.convert r) (s.convert r) (opt T.nodes) :=
    T.tandem_of_acyclic (hacyclic.acyclicFrom r) (by omega) (by omega) fun i hi => ⟨i, hi, .refl⟩
  exact (sameness.run_eq htandem (fun _ _ _ => sameness.opt_nodes_iff.mp) (fun _ => id) id p).2

/-- **A rule goes down only to nodes properly below its own**: what is done for other nodes makes no
difference. -/
theorem onwards_eq {i : NodeId} {w w' : WaysDown} (hw : w.AgreeBelow s.arena i w') :
    (s.onwards w).convert (some i) = (s.onwards w').convert (some i) ∧
      (s.onwards w).typeArgument (some i) = (s.onwards w').typeArgument (some i) ∧
      (s.onwards w).tagName (some i) = (s.onwards w').tagName (some i) := by
  -- Both ways down are asked only about nodes below, where they agree.
  let T := (s.sameness fun _ => True).tie (Relation.TransGen s.arena.IsChild i) (.same s _)
    (fun _ => trivial) Relation.TransGen.tail False.elim
  have hdescents : T.Descents w w' := by
    refine ⟨fun hr => ?_, fun hr => ?_, fun hr => ?_, fun _ _ _ _ _ h => h.elim⟩
    · rw [← (hw _ hr).1]
      exact sameness.tandem_self (fun _ _ => sameness.opt_nodes_iff.mpr rfl) fun _ _ => trivial
    · rw [← (hw _ hr).2.1]
      exact sameness.tandem_self (fun _ _ => sameness.values_iff.mpr rfl) fun _ _ => trivial
    · rw [← (hw _ hr).2.2]
      exact sameness.tandem_self (fun _ _ => sameness.values_iff.mpr rfl) fun _ _ => trivial
  have henters : T.Enters (some i) := by
    rintro _ n ⟨⟩ hn
    exact ⟨hn, trivial, Arena.Visits.below, fun h => h.elim⟩
  obtain ⟨hconvert, htype, htag⟩ := hdescents.enter henters
  have hnodes (_ : PUnit) (x x' : Option EsNode) (hx : opt T.nodes 0 x x') : x' = x :=
    sameness.opt_nodes_iff.mp hx
  have hvalues (_ : PUnit) (x x' : EsValue) (hx : T.values 0 x x') : x' = x :=
    sameness.values_iff.mp hx
  refine ⟨funext fun p => ?_, funext fun p => ?_, funext fun p => ?_⟩
  · exact (sameness.run_eq hconvert hnodes (fun _ => id) id p).1.symm
  · exact (sameness.run_eq htype hvalues (fun _ => id) id p).1.symm
  · exact (sameness.run_eq htag hvalues (fun _ => id) id p).1.symm

/-! ### All that is asked of a converter -/

/-- **Nothing that is asked of a converter goes on for ever.** Every conversion, climb and look-up
takes steps that lead further down or further up, so it takes no more of them than there are nodes,
and comes to an answer. -/
structure Terminates (s : Source) : Prop where
  /-- A way that leads down with every step is no longer than the number of nodes. -/
  length_le : ∀ l : List NodeId, l.IsChain (Relation.TransGen s.arena.IsChild) →
    (∀ i ∈ l, i < s.arena.nodes.size) → l.length ≤ s.arena.nodes.size
  /-- A rule goes down to nodes below its own. -/
  goes_down : ∀ i w w', WaysDown.AgreeBelow s.arena i w w' →
    (s.onwards w).convert (some i) = (s.onwards w').convert (some i) ∧
      (s.onwards w).typeArgument (some i) = (s.onwards w').typeArgument (some i) ∧
      (s.onwards w).tagName (some i) = (s.onwards w').tagName (some i)
  /-- A step up leads to a node above. -/
  goes_up : ∀ i p, s.arena.parent (some i) = some p → s.arena.IsChild p i
  converter : ∀ depth r, s.arena.nodes.size < depth → (s.converter depth).convert r = s.convert r
  convert : ∀ r p, ((s.convert r).run.run p).1 ≠ .error .endless
  /-- The operands of a chain of commas are found. -/
  operands : ∀ r, ∃ others, s.arena.commaOperands (s.arena.nodes.size + 1) r = some others
  /-- A step of the search for a target leads to a node above. -/
  targets_up : ∀ r r', s.arena.climbTargets r = .goOn r' →
    ∃ i p, r = some i ∧ r' = some p ∧ s.arena.IsChild p i
  literalRole : ∀ r, ∃ role, s.arena.literalRole r = some role
  /-- The ancestors of a node are found, up to the first one with a property. -/
  ancestors : ∀ test i, ∃ passed,
    s.arena.ancestorsUntil test (s.arena.nodes.size + 1) (some i) = some passed ∧
      passed.length ≤ s.arena.nodes.size
  /-- A step of a look-up leads to a node below. -/
  looks_down : ∀ start stop i j, s.arena.descend start stop i = .goOn j → s.arena.IsChild i j
  nodeContaining : ∀ r start stop, ∃ found, s.arena.nodeContaining r start stop = some found
  /-- A step of the search for a tag leads to a node above. -/
  names_up : ∀ i p, s.arena.climbNames i = .goOn p → s.arena.IsChild p i
  markupName : ∀ t, ∃ isName, s.arena.isMarkupName s.root t = some isName
  tokens : ∀ p, ∃ tokens, s.programTokens.run.run p = (.ok tokens, p)

/-- **Everything comes to an end over an arena without cycles** whose parents were read off its
children, and a text that has an end to its tokens. -/
theorem terminates {a : Arena} (hacyclic : a.Acyclic) (root : NodeRef) (text : Text)
    (target : ScriptTarget) (options : ConvertOptions)
    (htext : (Trivia.ofText? a.linkParents root text target).isSome = true) :
    (Source.ofText a.linkParents root text target options).Terminates := by
  have hacyclic' : a.linkParents.Acyclic := hacyclic
  have hlinked := a.isLinked_linkParents
  obtain ⟨trivia, htrivia⟩ := Option.isSome_iff_exists.mp htext
  have hindex : (Source.ofText a.linkParents root text target options).index ≠ none := by
    rw [ofText, htrivia]
    nofun
  have hends := convert_ends (s := .ofText a.linkParents root text target options) hlinked
    hacyclic' hindex
  exact {
    length_le := fun l => Arena.length_le_of_isChain hacyclic'
    goes_down := fun i w w' => onwards_eq
    goes_up := hlinked
    converter := fun depth r => (hends r).1 depth
    convert := fun r p hhalt => ((hends r).2 p .endless hhalt).1 rfl
    operands := fun r => Arena.exists_commaOperands (hacyclic'.acyclicFrom r)
    targets_up := fun r r' hturn => by
      obtain ⟨i, p, hr, hr', hp, -⟩ := Arena.climbTargets_eq_goOn hturn
      exact ⟨i, p, hr, hr', hlinked i p hp⟩
    literalRole := fun r => Arena.exists_literalRole hlinked fun i _ => hacyclic'.acyclicAbove i
    ancestors := fun test i => by
      obtain ⟨passed, hpassed⟩ := Arena.exists_ancestorsUntil hlinked test
        (hacyclic'.acyclicAbove i) (Nat.lt_succ_of_le (Arena.depth_le _ i))
      exact ⟨passed, hpassed, Arena.length_ancestorsUntil_le hacyclic' hlinked hpassed⟩
    looks_down := fun start stop i j hturn =>
      (Arena.isChild_of_childContaining (Arena.descend_eq_goOn_iff.mp hturn)).1
    nodeContaining := fun r => Arena.exists_nodeContaining (hacyclic'.acyclicFrom r)
    names_up := fun i p hturn => hlinked i p (Arena.climbNames_eq_goOn hturn).1
    markupName := fun t => Arena.exists_isMarkupName hlinked hacyclic' root t
    tokens := fun p => by
      have htypes : ∀ t ∈ trivia.tokens, a.linkParents.tokenType root t ≠ none := by
        intro t _ hnone
        obtain ⟨type, htype⟩ := Arena.exists_tokenType hlinked hacyclic' root t
        cases hnone.symm.trans htype
      obtain ⟨tokens, htokens⟩ | ⟨-, t, ht, hnone⟩ := Trivia.mapM_ofToken htrivia
      · exact ⟨tokens, ok_programTokens.mpr ⟨⟨trivia, htrivia, htokens⟩, rfl⟩⟩
      · exact absurd hnone (htypes t ht) }

/-- The children of a fragment come before it, and its text has an end, so all comes to an end. -/
theorem terminates_fragment :
    (Trivia.ofText? Document.fragment.arena.linkParents Document.fragment.root "<> </>".toList
      .latest).isSome = true ∧
    (Source.ofText Document.fragment.arena.linkParents Document.fragment.root "<> </>".toList
      .latest .full).Terminates := by
  have htext : (Trivia.ofText? Document.fragment.arena.linkParents Document.fragment.root
      "<> </>".toList .latest).isSome = true := by
    decide +kernel
  have hacyclic : Document.fragment.arena.Acyclic := Arena.acyclic_of_lt (by decide)
  exact ⟨htext, terminates hacyclic _ _ _ _ htext⟩

end Source

end ScriptTree
