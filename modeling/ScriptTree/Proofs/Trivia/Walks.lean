import Mathlib.Logic.Relation
import ScriptTree.Proofs.Trivia.Steps

/-!
# Whole walks

A walk as a relation (`ScriptTree.Trivia.Walk`) relates a scanner to all that the steps from there
find before the text ends. It knows no fuel: `ScriptTree.Trivia.walkFrom?_eq_some_iff` says that
the function finds the same, if the fuel is more than the number of the items.

What a step does carries over to whole walks by induction. The items of a walk lie one behind the
other and fill the text (`ScriptTree.Trivia.Tiles`), so there are no more of them than bytes; and a
walk that comes by a scanner that stalls does not end.
-/

namespace ScriptTree

namespace Trivia

variable {a : Arena} {root : NodeRef} {spans : List (Nat × Nat)} {s : Scanner}

/-- The items that the steps from a scanner on find before the text ends. -/
inductive Walk (a : Arena) (root : NodeRef) (spans : List (Nat × Nat)) :
    Scanner → List Item → Prop
  | done {s : Scanner} (h : step a root spans s = .error .atEnd) : Walk a root spans s []
  | more {s s' : Scanner} {item : Item} {items : List Item}
      (h : step a root spans s = .ok (item, s')) (rest : Walk a root spans s' items) :
      Walk a root spans s (item :: items)

/-- One scanner is a step behind another. -/
def Moves (a : Arena) (root : NodeRef) (spans : List (Nat × Nat)) (s s' : Scanner) : Prop :=
  ∃ item, step a root spans s = .ok (item, s')

/-- A walk comes by a scanner. -/
abbrev Passes (a : Arena) (root : NodeRef) (spans : List (Nat × Nat)) : Scanner → Scanner → Prop :=
  Relation.ReflTransGen (Moves a root spans)

/-- What a list of items leaves behind. -/
def collect (items : List Item) : Trivia :=
  items.foldr cons {}

/-- **The function finds what the relation says**, if the fuel is enough. -/
theorem walkFrom?_eq_some_iff {fuel : Nat} {t : Trivia} :
    walkFrom? a root spans fuel s = some t ↔
      ∃ items, Walk a root spans s items ∧ items.length < fuel ∧ collect items = t := by
  induction fuel generalizing s t with
  | zero => simp [walkFrom?]
  | succ fuel ih =>
    rw [walkFrom?]
    split
    · next hstep =>
      constructor
      · intro h
        cases h
        exact ⟨[], .done hstep, Nat.succ_pos fuel, rfl⟩
      · rintro ⟨items, hwalk | ⟨hmore, -⟩, -, rfl⟩
        · rfl
        · rw [hstep] at hmore
          cases hmore
    · next hstep =>
      refine iff_of_false nofun ?_
      rintro ⟨items, hdone | ⟨hmore, -⟩, -, -⟩
      · rw [hstep] at hdone
        cases hdone
      · rw [hstep] at hmore
        cases hmore
    · next item s' hstep =>
      rw [Option.map_eq_some_iff]
      constructor
      · rintro ⟨t', ht', rfl⟩
        obtain ⟨items, hwalk, hlen, rfl⟩ := ih.mp ht'
        exact ⟨item :: items, .more hstep hwalk, Nat.succ_lt_succ hlen, rfl⟩
      · rintro ⟨items, hdone | ⟨hmore, hrest⟩, hlen, rfl⟩
        · rw [hstep] at hdone
          cases hdone
        · rw [hstep] at hmore
          cases hmore
          exact ⟨_, ih.mpr ⟨_, hrest, Nat.lt_of_succ_lt_succ hlen, rfl⟩, rfl⟩

/-! ### Walks that stall -/

/-- A walk does not end where it stalls. -/
theorem not_stalls_of_walk {items : List Item} (hwalk : Walk a root spans s items)
    (hs : Ready s) : ¬ Stalls spans s := by
  intro hstalls
  induction hwalk with
  | done hdone =>
    obtain ⟨item, s', hstep, -⟩ := step_of_stalls a root hs hstalls
    rw [hdone] at hstep
    cases hstep
  | more hmore _ ih =>
    obtain ⟨item, s', hstep, hs', hstalls'⟩ := step_of_stalls a root hs hstalls
    rw [hmore] at hstep
    cases hstep
    exact ih hs' hstalls'

/-- What is left of a walk at a scanner that it comes by. -/
theorem walk_of_passes {s' : Scanner} {items : List Item}
    (hpasses : Passes a root (markupSpans a) s s') (hwalk : Walk a root (markupSpans a) s items)
    (hs : Ready s) (hends : a.EndsInText s.text) :
    Ready s' ∧ ∃ rest, Walk a root (markupSpans a) s' rest := by
  induction hpasses using Relation.ReflTransGen.head_induction_on generalizing items with
  | refl => exact ⟨hs, items, hwalk⟩
  | head hmoves _ ih =>
    obtain ⟨item, hstep⟩ := hmoves
    have hadv := advances_step hs hends (not_stalls_of_walk hwalk hs) hstep
    cases hwalk with
    | done hdone =>
      rw [hdone] at hstep
      cases hstep
    | more hmore hrest =>
      rw [hmore] at hstep
      cases hstep
      exact ih hrest hadv.ready (hadv.same.text.symm ▸ hends)

/-! ### Walks that go on -/

/-- Items that lie one behind the other and fill a text from an offset on. -/
def Tiles (text : Text) : Nat → List Item → Prop
  | start, [] => start = text.byteLength
  | start, item :: items =>
    ∃ stop, start < stop ∧ item.Covers text start stop ∧ Tiles text stop items

/-- There are no more items than bytes. -/
theorem length_le_of_tiles {text : Text} {start : Nat} {items : List Item}
    (h : Tiles text start items) : start + items.length ≤ text.byteLength := by
  induction items generalizing start with
  | nil => exact Nat.le_of_eq h
  | cons item items ih =>
    obtain ⟨stop, hlt, -, hrest⟩ := h
    have := ih hrest
    rw [List.length_cons]
    omega

/-- **The items of a walk fill the text.** -/
theorem tiles_of_walk {items : List Item} (hwalk : Walk a root (markupSpans a) s items)
    (hs : Ready s) (hends : a.EndsInText s.text) : Tiles s.text s.pos items := by
  generalize htext : s.text = text at hends ⊢
  induction hwalk with
  | done hdone =>
    rw [← htext]
    exact pos_of_step_eq_atEnd hs hdone
  | @more s s' item items hmore hrest ih =>
    have hgo := not_stalls_of_walk (.more hmore hrest) hs
    have hadv := advances_step hs (htext ▸ hends) hgo hmore
    rw [← htext]
    refine ⟨s'.pos, hadv.lt, hadv.covers, ?_⟩
    rw [htext]
    exact ih hadv.ready (hadv.same.text.trans htext)

/-- **A walk that never stalls ends**, if every search for a node has an end. -/
theorem exists_walk (root : NodeRef) (hs : Ready s) (hends : a.EndsInText s.text)
    (hlook : ∀ start stop, a.nodeContaining root start stop ≠ none)
    (hgo : ∀ s', Passes a root (markupSpans a) s s' → ¬ Stalls (markupSpans a) s') :
    ∃ items, Walk a root (markupSpans a) s items := by
  -- The bytes that are left become fewer.
  induction hleft : s.text.byteLength - s.pos using Nat.strong_induction_on generalizing s with
  | _ left ih =>
    cases hstep : step a root (markupSpans a) s with
    | error stop => cases stop with
      | atEnd => exact ⟨[], .done hstep⟩
      | endless => exact absurd hstep (step_ne_endless _ s hlook)
    | ok p =>
      obtain ⟨item, s'⟩ := p
      have hadv := advances_step hs hends (hgo s .refl) hstep
      have hbound := Text.le_byteLength_of_isBoundary hadv.ready.isBoundary
      rw [hadv.same.text] at hbound
      have hlt := hadv.lt
      obtain ⟨items, hwalk⟩ := ih (s.text.byteLength - s'.pos) (by omega) hadv.ready
        (hadv.same.text.symm ▸ hends) (fun s'' h => hgo s'' (.head ⟨item, hstep⟩ h))
        (by rw [hadv.same.text])
      exact ⟨item :: items, .more hstep hwalk⟩

/-! ### Walks from the start of a text -/

/-- A walk may start at the start of a text. -/
theorem ready_ofText (text : Text) (target : ScriptTarget) :
    Ready (Scanner.ofText text false target) :=
  ⟨rfl, Text.isBoundary_iff.mpr ⟨text, Text.dropBytes?_zero text⟩⟩

/-- The tokens and comments of a text are those of the walk over it. -/
theorem ofText?_eq_some_iff {text : Text} (target : ScriptTarget) (hends : a.EndsInText text)
    {t : Trivia} : ofText? a root text target = some t ↔
      ∃ items, Walk a root (markupSpans a) (Scanner.ofText text false target) items ∧
        collect items = t := by
  rw [ofText?, walkFrom?_eq_some_iff]
  refine exists_congr fun items => and_congr_right fun hwalk => ?_
  have hlen := length_le_of_tiles (tiles_of_walk hwalk (ready_ofText text target) hends)
  have htext : (Scanner.ofText text false target).text = text := rfl
  rw [htext] at hlen
  exact and_iff_right (by omega)

end Trivia

end ScriptTree
