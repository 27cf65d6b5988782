import ScriptTree.Proofs.Arena.Descent
import ScriptTree.Proofs.Trivia.Walks

/-!
# Walks end

A walk over a text comes to its end unless it comes by a stray escape: a Unicode escape that stands
where a name may start and denotes a character that no name starts with. There the scanner reads a
name of no characters, and the walk finds it for ever.

Nothing else keeps a walk from ending in a tree without cycles, where every search for a node has an
end (`ScriptTree.Trivia.progress_and_ends_iff`).
-/

namespace ScriptTree

namespace Trivia

/-- The walk over a text is somewhere in front of a stray escape. -/
def ComesToStall (a : Arena) (root : NodeRef) (text : Text) (target : ScriptTarget) : Prop :=
  ∃ s, Passes a root (markupSpans a) (Scanner.ofText text false target) s ∧
    Stalls (markupSpans a) s

/-- The tokens and comments of a text are found if the walk never stalls, and only then. -/
theorem exists_ofText?_iff {a : Arena} (root : NodeRef) {text : Text} (target : ScriptTarget)
    (hends : a.EndsInText text) (hlook : ∀ start stop, a.nodeContaining root start stop ≠ none) :
    (∃ t, ofText? a root text target = some t) ↔ ¬ ComesToStall a root text target := by
  have hready := ready_ofText text target
  constructor
  · rintro ⟨t, ht⟩ ⟨s, hpasses, hstalls⟩
    obtain ⟨items, hwalk, -⟩ := (ofText?_eq_some_iff target hends).mp ht
    obtain ⟨hs, rest, hrest⟩ := walk_of_passes hpasses hwalk hready hends
    exact not_stalls_of_walk hrest hs hstalls
  · intro hgo
    obtain ⟨items, hwalk⟩ := exists_walk root hready hends hlook
      fun s hpasses hstalls => hgo ⟨s, hpasses, hstalls⟩
    exact ⟨_, (ofText?_eq_some_iff target hends).mpr ⟨items, hwalk, rfl⟩⟩

/-- **Scans move on and walks end, unless a stray escape stands in the way.** A scan that starts
inside of a text, with trivia or without, ends behind its start just when no stray escape stands
there. And in a tree without cycles every search for a node has an end, below which no child
contains the range, a walk finds no more items than the text has bytes, and it comes to the end of
the text just when it never stalls. -/
theorem progress_and_ends_iff (text : Text) (target : ScriptTarget) (a : Arena) (root : NodeRef)
    (hacyclic : a.Acyclic) (hends : a.EndsInText text) :
    (∀ s : Scanner, s.text = text → s.target = target → text.isBoundary s.pos = true →
      s.pos < text.byteLength →
      (s.pos < s.scan.pos ↔ (text.dropBytes? s.pos).any (Escape.isStray target) = false)) ∧
    (∀ start stop : Nat, ∃ found, a.nodeContaining root start stop = some found ∧
      ∀ i ∈ found, a.childContaining i start stop = none) ∧
    (∀ items, Walk a root (markupSpans a) (Scanner.ofText text false target) items →
      items.length ≤ text.byteLength) ∧
    ((∃ t, ofText? a root text target = some t) ↔ ¬ ComesToStall a root text target) := by
  have hlook := Arena.exists_nodeContaining (hacyclic.acyclicFrom root)
  refine ⟨?_, ?_, ?_, ?_⟩
  · rintro s rfl rfl hboundary hlt
    exact Scanner.lt_scan_pos_iff hboundary hlt
  · intro start stop
    obtain ⟨found, hfound⟩ := hlook start stop
    refine ⟨found, hfound, ?_⟩
    rintro i rfl
    exact Arena.childContaining_of_nodeContaining hfound
  · intro items hwalk
    have hlen := length_le_of_tiles (tiles_of_walk hwalk (ready_ofText text target) hends)
    exact (Nat.zero_add _).symm.trans_le hlen
  · exact exists_ofText?_iff root target hends fun start stop =>
      Option.ne_none_iff_exists'.mpr (hlook start stop)

/-- The escape of a digit is a stray one: the scanner stays in front of it, and no walk over it
ends, while a walk over the escape of a letter does. -/
theorem stray_digit_never_ends :
    ¬ 0 < (Scanner.ofText "\\u0030".toList false .esNext).scan.pos ∧
      (¬ ∃ t, ofText? .empty none "\\u0030".toList .esNext = some t) ∧
      ∃ t, ofText? .empty none "\\u0061".toList .esNext = some t := by
  have hacyclic : Arena.empty.Acyclic := by
    intro i hbelow
    obtain ⟨j, hchild, -⟩ := Relation.TransGen.head'_iff.mp hbelow
    exact List.not_mem_nil hchild
  have hjumps (text : Text) : Arena.empty.EndsInText text := fun n hn =>
    absurd hn (Array.not_mem_empty n)
  obtain ⟨hscan, -, -, hwalk⟩ :=
    progress_and_ends_iff "\\u0030".toList .esNext .empty none hacyclic (hjumps _)
  refine ⟨?_, ?_, ?_⟩
  · have hzero := hscan (Scanner.ofText "\\u0030".toList false .esNext) rfl rfl (by decide)
      (by decide)
    exact hzero.not.mpr (by decide)
  · rw [hwalk, not_not]
    exact ⟨_, .refl, by decide +kernel, by decide⟩
  · exact ⟨⟨[⟨.identifier, 0, 6⟩], []⟩, by decide +kernel⟩

end Trivia

end ScriptTree
