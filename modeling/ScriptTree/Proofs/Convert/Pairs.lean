import Mathlib.Data.Set.Card
import ScriptTree.Convert.NodeMaps

/-!
# Pairs of nodes

Records are made and thrown away (`ScriptTree.NodeMaps.Call`), and as a pair is recorded only if
neither of its nodes has a partner, the two tables are always each other's inverse
(`ScriptTree.NodeMaps.isBijective_run`). A pair stays until everything is thrown away
(`ScriptTree.NodeMaps.Extends`).
-/

namespace ScriptTree

namespace NodeMaps

variable {maps maps' : NodeMaps} {concrete concrete' : NodeRef} {normalized normalized' : Nat}

/-! ### Records -/

/-- Both tables are asked whether a pair is in the way, and each has an entry just when there is such
a pair. -/
theorem register_eq (maps : NodeMaps) (concrete : NodeRef) (normalized : Nat) :
    maps.register concrete normalized =
      if maps.pairs.any fun p => p.1 == concrete || p.2 == normalized then maps
      else maps.insert concrete normalized := by
  have hany : (maps.pairs.any (·.1 == concrete) || maps.inverse.any (·.1 == normalized)) =
      maps.pairs.any fun p => p.1 == concrete || p.2 == normalized := by
    rw [maps.inverse_eq, List.any_map, Bool.eq_iff_iff]
    simp only [Bool.or_eq_true, List.any_eq_true, Function.comp_apply, Prod.fst_swap, and_or_left,
      exists_or]
  rw [register, hany]

/-- The second table is searched as the first one is, from the other side. -/
theorem concreteOf?_eq (maps : NodeMaps) (normalized : Nat) :
    maps.concreteOf? normalized = (maps.pairs.find? (·.2 == normalized)).map (·.1) := by
  rw [concreteOf?, maps.inverse_eq, List.find?_map, Option.map_map]
  rfl

theorem mem_register {x : NodeRef × Nat} (h : x ∈ (maps.register concrete normalized).pairs) :
    x = (concrete, normalized) ∨ x ∈ maps.pairs := by
  rw [register] at h
  split at h
  · exact .inr h
  · exact List.mem_cons.mp h

/-- What a node became is not changed by a record for another node. -/
theorem normalizedOf?_register_of_ne (h : concrete' ≠ concrete) :
    (maps.register concrete normalized).normalizedOf? concrete' =
      maps.normalizedOf? concrete' := by
  rw [register]
  split
  · rfl
  · rw [normalizedOf?, insert, List.find?_cons_of_neg (by simpa using h.symm)]
    rfl

/-- Where a node came from is not changed by a record for another node. -/
theorem concreteOf?_register_of_ne (h : normalized' ≠ normalized) :
    (maps.register concrete normalized).concreteOf? normalized' =
      maps.concreteOf? normalized' := by
  rw [register]
  split
  · rfl
  · rw [concreteOf?, insert, List.find?_cons_of_neg (by simpa using h.symm)]
    rfl

/-- A node without a partner has no pair. -/
theorem normalizedOf?_eq_none_iff :
    maps.normalizedOf? concrete = none ↔ ∀ x ∈ maps.pairs, x.1 ≠ concrete := by
  simp [normalizedOf?]

theorem concreteOf?_eq_none_iff :
    maps.concreteOf? normalized = none ↔ ∀ x ∈ maps.pairs, x.2 ≠ normalized := by
  simp [concreteOf?_eq]

/-- Two nodes without partners become partners. -/
theorem register_of_free (hconcrete : ∀ x ∈ maps.pairs, x.1 ≠ concrete)
    (hnormalized : ∀ x ∈ maps.pairs, x.2 ≠ normalized) :
    maps.register concrete normalized = maps.insert concrete normalized := by
  rw [register_eq, if_neg]
  intro hany
  obtain ⟨x, hx, hpair⟩ := List.any_eq_true.mp hany
  rcases Bool.or_eq_true_iff.mp hpair with h | h
  · exact hconcrete x hx (eq_of_beq h)
  · exact hnormalized x hx (eq_of_beq h)

/-- A node that was recorded with another one, neither of which had a partner, has it for a
partner. -/
theorem normalizedOf?_register_of_free (hconcrete : ∀ x ∈ maps.pairs, x.1 ≠ concrete)
    (hnormalized : ∀ x ∈ maps.pairs, x.2 ≠ normalized) :
    (maps.register concrete normalized).normalizedOf? concrete = some normalized := by
  rw [register_of_free hconcrete hnormalized, normalizedOf?, insert,
    List.find?_cons_of_pos (by simp)]
  rfl

/-- A record changes nothing, or makes partners of two nodes without partners. -/
theorem register_cases (maps : NodeMaps) (concrete : NodeRef) (normalized : Nat) :
    maps.register concrete normalized = maps ∨
    ((∀ x ∈ maps.pairs, x.1 ≠ concrete) ∧ (∀ x ∈ maps.pairs, x.2 ≠ normalized) ∧
      maps.register concrete normalized = maps.insert concrete normalized) := by
  by_cases hany : maps.pairs.any (fun p => p.1 == concrete || p.2 == normalized) = true
  · exact .inl (by rw [register_eq, if_pos hany])
  · have hnone : ∀ x ∈ maps.pairs, x.1 ≠ concrete ∧ x.2 ≠ normalized := by
      simpa using hany
    refine .inr ⟨fun x hx => (hnone x hx).1, fun x hx => (hnone x hx).2, ?_⟩
    exact register_of_free (fun x hx => (hnone x hx).1) fun x hx => (hnone x hx).2

/-- A node has a partner once it was recorded with a normalized node that had none. -/
theorem isSome_normalizedOf?_register (h : ∀ x ∈ maps.pairs, x.2 ≠ normalized) :
    ((maps.register concrete normalized).normalizedOf? concrete').isSome = true ↔
      (maps.normalizedOf? concrete').isSome = true ∨ concrete' = concrete := by
  by_cases heq : concrete' = concrete
  · subst heq
    refine iff_of_true ?_ (.inr rfl)
    rw [register_eq]
    split
    · next hany =>
      obtain ⟨x, hx, hpair⟩ := List.any_eq_true.mp hany
      have hfirst : (x.1 == concrete') = true := by
        simpa [h x hx] using hpair
      rw [normalizedOf?, Option.isSome_map, List.find?_isSome]
      exact ⟨x, hx, hfirst⟩
    · rw [normalizedOf?, insert, List.find?_cons_of_pos (by simp)]
      rfl
  · rw [normalizedOf?_register_of_ne heq]
    exact (or_iff_left heq).symm

/-! ### Records that stay -/

/-- **Everything that was recorded is recorded still**, on both sides. -/
structure Extends (maps maps' : NodeMaps) : Prop where
  normalizedOf? : ∀ t e, maps.normalizedOf? t = some e → maps'.normalizedOf? t = some e
  concreteOf? : ∀ e t, maps.concreteOf? e = some t → maps'.concreteOf? e = some t

theorem Extends.refl (maps : NodeMaps) : maps.Extends maps := ⟨fun _ _ h => h, fun _ _ h => h⟩

theorem Extends.trans {maps'' : NodeMaps} (h : maps.Extends maps') (h' : maps'.Extends maps'') :
    maps.Extends maps'' :=
  ⟨fun t e hte => h'.normalizedOf? t e (h.normalizedOf? t e hte),
    fun e t hte => h'.concreteOf? e t (h.concreteOf? e t hte)⟩

/-- A record changes no other, nor one of its own nodes. -/
theorem extends_register (maps : NodeMaps) (concrete : NodeRef) (normalized : Nat) :
    maps.Extends (maps.register concrete normalized) := by
  rcases register_cases maps concrete normalized with
    h | ⟨hconcrete, hnormalized, -⟩
  · rw [h]
    exact .refl maps
  · refine ⟨fun t e hte => ?_, fun e t hte => ?_⟩
    · have hne : t ≠ concrete := by
        rintro rfl
        rw [normalizedOf?_eq_none_iff.mpr hconcrete] at hte
        cases hte
      rw [normalizedOf?_register_of_ne hne]
      exact hte
    · have hne : e ≠ normalized := by
        rintro rfl
        rw [concreteOf?_eq_none_iff.mpr hnormalized] at hte
        cases hte
      rw [concreteOf?_register_of_ne hne]
      exact hte

/-! ### Sequences of calls -/

/-- What can be done with records. -/
inductive Call
  /-- A pair is to be recorded. -/
  | register (concrete : NodeRef) (normalized : Nat)
  /-- Everything is thrown away. -/
  | reset

/-- What a call does. -/
def call (maps : NodeMaps) : Call → NodeMaps
  | .register concrete normalized => maps.register concrete normalized
  | .reset => maps.reset

/-- What a sequence of calls does. -/
def run (maps : NodeMaps) (calls : List Call) : NodeMaps := calls.foldl call maps

/-- No node occurs in two pairs. -/
structure IsOneToOne (maps : NodeMaps) : Prop where
  concrete : (maps.pairs.map Prod.fst).Nodup
  normalized : (maps.pairs.map Prod.snd).Nodup

theorem isOneToOne_empty : empty.IsOneToOne := ⟨List.nodup_nil, List.nodup_nil⟩

/-- A record keeps the pairs apart. -/
theorem IsOneToOne.call (h : maps.IsOneToOne) (c : Call) : (maps.call c).IsOneToOne := by
  cases c with
  | reset => exact isOneToOne_empty
  | register concrete normalized =>
    change (maps.register concrete normalized).IsOneToOne
    rcases register_cases maps concrete normalized with
      hsame | ⟨hconcrete, hnormalized, hnew⟩
    · rw [hsame]
      exact h
    · rw [hnew]
      refine ⟨List.nodup_cons.mpr ⟨fun hmem => ?_, h.concrete⟩,
        List.nodup_cons.mpr ⟨fun hmem => ?_, h.normalized⟩⟩
      · obtain ⟨x, hx, heq⟩ := List.mem_map.mp hmem
        exact hconcrete x hx heq
      · obtain ⟨x, hx, heq⟩ := List.mem_map.mp hmem
        exact hnormalized x hx heq

theorem IsOneToOne.run (h : maps.IsOneToOne) (calls : List Call) : (maps.run calls).IsOneToOne := by
  induction calls generalizing maps with
  | nil => exact h
  | cons c calls ih => exact ih (h.call c)

/-- Records stay as long as nothing is thrown away. -/
theorem extends_run {calls : List Call} (h : .reset ∉ calls) : maps.Extends (maps.run calls) := by
  induction calls generalizing maps with
  | nil => exact .refl maps
  | cons c calls ih =>
    rw [List.mem_cons, not_or] at h
    cases c with
    | reset => exact absurd rfl h.1
    | register concrete normalized => exact (extends_register ..).trans (ih h.2)

/-! ### Both tables -/

/-- An element is found by what tells it from all others. -/
theorem find?_of_nodup_map {α β : Type} [BEq β] [LawfulBEq β] {f : α → β} {xs : List α}
    (h : (xs.map f).Nodup) {x : α} (hx : x ∈ xs) : xs.find? (f · == f x) = some x := by
  induction xs with
  | nil => cases hx
  | cons y xs ih =>
    obtain ⟨hy, hnodup⟩ := List.nodup_cons.mp h
    rcases List.mem_cons.mp hx with rfl | hx
    · exact List.find?_cons_of_pos (beq_self_eq_true _)
    · have hne : f y ≠ f x := fun heq => hy (heq ▸ List.mem_map_of_mem hx)
      rw [List.find?_cons_of_neg (by simpa using hne)]
      exact ih hnodup hx

namespace IsOneToOne

variable (h : maps.IsOneToOne)

include h

/-- The partner of a concrete node is the one in its pair. -/
theorem normalizedOf?_eq_some_iff :
    maps.normalizedOf? concrete = some normalized ↔ (concrete, normalized) ∈ maps.pairs := by
  rw [normalizedOf?, Option.map_eq_some_iff]
  constructor
  · rintro ⟨⟨t, e⟩, hfind, rfl⟩
    have hfirst := List.find?_some hfind
    obtain rfl : t = concrete := eq_of_beq hfirst
    exact List.mem_of_find?_eq_some hfind
  · exact fun hmem => ⟨_, find?_of_nodup_map h.concrete hmem, rfl⟩

/-- The partner of a normalized node is the one in its pair. -/
theorem concreteOf?_eq_some_iff :
    maps.concreteOf? normalized = some concrete ↔ (concrete, normalized) ∈ maps.pairs := by
  rw [concreteOf?_eq, Option.map_eq_some_iff]
  constructor
  · rintro ⟨⟨t, e⟩, hfind, rfl⟩
    have hsecond := List.find?_some hfind
    obtain rfl : e = normalized := eq_of_beq hsecond
    exact List.mem_of_find?_eq_some hfind
  · exact fun hmem => ⟨_, find?_of_nodup_map h.normalized hmem, rfl⟩

end IsOneToOne

/-- **The two tables are each other's inverse**, and of the same size. -/
structure IsBijective (maps : NodeMaps) : Prop where
  inverse : ∀ t e, maps.normalizedOf? t = some e ↔ maps.concreteOf? e = some t
  ncard_concrete : {t | (maps.normalizedOf? t).isSome = true}.ncard = maps.size
  ncard_normalized : {e | (maps.concreteOf? e).isSome = true}.ncard = maps.size

/-- As many elements as a list without repetitions has. -/
theorem ncard_eq_length {α : Type} [DecidableEq α] {P : α → Prop} {xs : List α} (h : xs.Nodup)
    (hP : ∀ x, P x ↔ x ∈ xs) : {x | P x}.ncard = xs.length := by
  have hset : {x | P x} = ↑xs.toFinset := by
    ext x
    rw [Set.mem_ofPred_eq, hP, Finset.mem_coe, List.mem_toFinset]
  rw [hset, Set.ncard_coe_finset, List.toFinset_card_of_nodup h]

theorem IsOneToOne.isBijective (h : maps.IsOneToOne) : maps.IsBijective where
  inverse _ _ := h.normalizedOf?_eq_some_iff.trans h.concreteOf?_eq_some_iff.symm
  ncard_concrete := by
    refine (ncard_eq_length h.concrete fun t => ?_).trans (List.length_map _)
    simp [Option.isSome_iff_exists, h.normalizedOf?_eq_some_iff]
  ncard_normalized := by
    refine (ncard_eq_length h.normalized fun e => ?_).trans (List.length_map _)
    simp [Option.isSome_iff_exists, h.concreteOf?_eq_some_iff]

/-- **Whatever was called, the tables are each other's inverse.** -/
theorem isBijective_run (calls : List Call) : (empty.run calls).IsBijective :=
  (isOneToOne_empty.run calls).isBijective

end NodeMaps

end ScriptTree
