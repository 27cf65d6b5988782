import ScriptTree.Search

/-!
# What halving comes to

Where a property divides an array, halving comes to the same place as a search from the left: the
place that divides the elements with the property from those without it
(`ScriptTree.Search.partitionPoint_append`).
-/

namespace ScriptTree

namespace Search

variable {α : Type} {test : α → Bool}

/-- Halving comes to the last element before the dividing place, or to the first element of all: the
place is never before the stretch, nor behind its end. -/
theorem halve_spec {xs : Array α} {place : Nat}
    (hplace : ∀ i, (xs[i]?).any test = true ↔ i < place) {fuel base size : Nat}
    (hfuel : size ≤ fuel) (hbase : base = 0 ∨ base < place) (hsize : place ≤ base + size) :
    (halve xs test fuel base size = 0 ∨ halve xs test fuel base size < place) ∧
      place ≤ halve xs test fuel base size + 1 := by
  induction fuel generalizing base size with
  | zero => exact ⟨hbase, by rw [halve]; omega⟩
  | succ fuel ih =>
    rw [halve]
    split
    · exact ⟨hbase, by omega⟩
    · refine ih (by omega) ?_ ?_
      · split
        · next hmid => exact .inr ((hplace _).mp hmid)
        · exact hbase
      · split
        · omega
        · next hmid =>
          have hle : place ≤ base + size / 2 := Nat.le_of_not_lt (mt (hplace _).mpr hmid)
          omega

/-- **Halving finds the place that divides the elements with a property from those without it.** -/
theorem partitionPoint_append {xs ys : List α} (hxs : ∀ x ∈ xs, test x = true)
    (hys : ∀ y ∈ ys, test y = false) : partitionPoint (xs ++ ys).toArray test = xs.length := by
  -- The elements with the property are those at the first places.
  have hplace (i : Nat) : ((xs ++ ys).toArray[i]?).any test = true ↔ i < xs.length := by
    rw [List.getElem?_toArray]
    by_cases hi : i < xs.length
    · rw [List.getElem?_append_left hi, List.getElem?_eq_getElem hi]
      exact iff_of_true (hxs _ (List.getElem_mem hi)) hi
    · rw [List.getElem?_append_right (Nat.le_of_not_lt hi)]
      refine iff_of_false (fun hany => ?_) hi
      obtain ⟨y, hy, htest⟩ := (Option.any_eq_true ..).mp hany
      rw [hys y (List.mem_of_getElem? hy)] at htest
      cases htest
  obtain ⟨hbase, hlast⟩ := halve_spec hplace (Nat.le_refl (xs ++ ys).toArray.size) (.inl rfl)
    (by simp)
  rw [partitionPoint]
  split
  · next htest =>
    have hlt := (hplace _).mp htest
    omega
  · next htest =>
    have hnot := mt (hplace _).mpr htest
    omega

end Search

end ScriptTree
