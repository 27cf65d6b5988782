import ScriptTree.Text.CharClass

/-!
# Cutting a text twice

Everything that walks over a text by offsets cuts it at one offset, looks at what is left,
and cuts again further on. This file says that the two cuts fit together
(`ScriptTree.Text.dropBytes?_add`), that a cut is possible at exactly the ends of the first
parts of a text (`ScriptTree.Text.isBoundary_iff`), and which character a byte belongs to
(`ScriptTree.Text.charOver?`).
-/

namespace ScriptTree

namespace Text

/-! ### Lengths -/

theorem byteLength_eq_zero {cs : Text} : byteLength cs = 0 ↔ cs = [] := by
  constructor
  · intro h
    cases cs with
    | nil => rfl
    | cons c cs =>
      have hpos := c.utf8Size_pos
      rw [byteLength_cons] at h
      omega
  · rintro rfl
    rfl

theorem byteLength_pos {cs : Text} : 0 < byteLength cs ↔ cs ≠ [] := by
  rw [Nat.pos_iff_ne_zero, Ne, byteLength_eq_zero]

/-- A first part of a text and what is left without as many characters. -/
theorem eq_append_drop {u cs : Text} (h : u <+: cs) : cs = u ++ cs.drop u.length := by
  obtain ⟨v, rfl⟩ := h
  rw [List.drop_left]

/-! ### Where a text can be cut -/

/-- What is left after a cut can be cut again, behind any of its first parts. -/
theorem dropBytes?_add {n : Nat} {text u rest : Text} (h : dropBytes? n text = some (u ++ rest)) :
    dropBytes? (n + byteLength u) text = some rest := by
  obtain ⟨s, rfl, rfl⟩ := exists_append_of_dropBytes? h
  rw [← List.append_assoc, ← byteLength_append]
  exact dropBytes?_append (s ++ u) rest

/-- A cut behind the first character of what is left. -/
theorem dropBytes?_succ {n : Nat} {text rest : Text} {c : Char} (hc : c.utf8Size = 1)
    (h : dropBytes? n text = some (c :: rest)) : dropBytes? (n + 1) text = some rest := by
  have hadd := dropBytes?_add (u := [c]) h
  rwa [byteLength_cons, hc, byteLength_nil] at hadd

/-- The offset of a cut and the bytes behind it make up the text. -/
theorem add_byteLength_of_dropBytes? {n : Nat} {text rest : Text}
    (h : dropBytes? n text = some rest) : n + byteLength rest = byteLength text := by
  obtain ⟨s, rfl, rfl⟩ := exists_append_of_dropBytes? h
  rw [byteLength_append]

theorem isBoundary_iff {text : Text} {n : Nat} :
    isBoundary text n = true ↔ ∃ rest, dropBytes? n text = some rest :=
  Option.isSome_iff_exists

theorem le_byteLength_of_isBoundary {text : Text} {n : Nat} (h : isBoundary text n = true) :
    n ≤ byteLength text := by
  obtain ⟨rest, hrest⟩ := isBoundary_iff.mp h
  have := add_byteLength_of_dropBytes? hrest
  omega

/-- Between two cuts lies a part of the text. -/
theorem exists_append_of_le {m n : Nat} {text cs rest : Text} (h : dropBytes? m text = some cs)
    (h' : dropBytes? n text = some rest) (hle : m ≤ n) :
    ∃ u, cs = u ++ rest ∧ n = m + byteLength u := by
  obtain ⟨v, rfl, hv⟩ := exists_append_of_dropBytes? h
  obtain ⟨w, hw, hn⟩ := exists_append_of_dropBytes? h'
  rcases List.append_eq_append_iff.mp hw with ⟨u, rfl, rfl⟩ | ⟨u, rfl, rfl⟩
  · rw [byteLength_append] at hn
    exact ⟨u, rfl, by omega⟩
  · rw [byteLength_append] at hv
    have hu : byteLength u = 0 := by omega
    rw [byteLength_eq_zero.mp hu]
    exact ⟨[], rfl, by rw [byteLength_nil]; omega⟩

/-- Nothing is left exactly behind the last byte. -/
theorem eq_nil_iff_of_dropBytes? {n : Nat} {text rest : Text} (h : dropBytes? n text = some rest) :
    rest = [] ↔ n = byteLength text := by
  have hadd := add_byteLength_of_dropBytes? h
  rw [← byteLength_eq_zero]
  omega

/-- What takes the first bytes of a text is a first part of it. -/
theorem exists_append_of_takeBytes? {n : Nat} {text u : Text} (h : takeBytes? n text = some u) :
    ∃ rest, text = u ++ rest ∧ byteLength u = n := by
  induction text generalizing n u with
  | nil =>
    cases n with
    | zero => exact ⟨[], by simpa using h, by simp_all⟩
    | succ n => simp [takeBytes?] at h
  | cons c cs ih =>
    cases n with
    | zero =>
      cases h
      exact ⟨c :: cs, rfl, rfl⟩
    | succ n =>
      rw [takeBytes?] at h
      split at h
      · next hle =>
        obtain ⟨v, hv, rfl⟩ := Option.map_eq_some_iff.mp h
        obtain ⟨rest, rfl, hlength⟩ := ih hv
        exact ⟨rest, rfl, by rw [byteLength_cons, hlength]; omega⟩
      · cases h

/-- **The text between two offsets** starts what is left at the first, and reaches to the second. -/
theorem slice?_eq_some_iff {start stop : Nat} {text u : Text} :
    slice? text start stop = some u ↔
      ∃ rest, dropBytes? start text = some (u ++ rest) ∧ stop = start + byteLength u := by
  constructor
  · intro h
    rw [slice?] at h
    split at h
    · obtain ⟨cs, hcs, htake⟩ := Option.bind_eq_some_iff.mp h
      obtain ⟨rest, rfl, hlength⟩ := exists_append_of_takeBytes? htake
      exact ⟨rest, hcs, by omega⟩
    · cases h
  · rintro ⟨rest, hrest, rfl⟩
    rw [slice?, if_pos (Nat.le_add_right _ _), hrest, Option.bind_some, Nat.add_sub_cancel_left,
      takeBytes?_append]

/-- A first part of what is left at an offset is the text from there on. -/
theorem slice?_of_isPrefix {start : Nat} {text u cs : Text} (h : dropBytes? start text = some cs)
    (hu : u <+: cs) : slice? text start (start + byteLength u) = some u := by
  obtain ⟨rest, rfl⟩ := hu
  exact slice?_eq_some_iff.mpr ⟨rest, h, rfl⟩

/-- First parts of a text that are of the same length are the same. -/
theorem eq_of_isPrefix {u v cs : Text} (hu : u <+: cs) (hv : v <+: cs)
    (h : byteLength u = byteLength v) : u = v := by
  obtain ⟨rest, rfl⟩ := hu
  obtain ⟨rest', hrest'⟩ := hv
  have htake := takeBytes?_append v rest'
  rw [hrest', ← h, takeBytes?_append, Option.some.injEq] at htake
  exact htake

/-! ### The character of a byte -/

/-- The character that the byte at an offset belongs to. -/
def charOver? : Nat → Text → Option Char
  | _, [] => none
  | n, c :: cs => if n < c.utf8Size then some c else charOver? (n - c.utf8Size) cs

theorem charOver?_append_right (s t : Text) (n : Nat) :
    charOver? (byteLength s + n) (s ++ t) = charOver? n t := by
  induction s with
  | nil => simp
  | cons c cs ih =>
    have hle : ¬ c.utf8Size + byteLength cs + n < c.utf8Size := by omega
    have hsub : c.utf8Size + byteLength cs + n - c.utf8Size = byteLength cs + n := by omega
    rw [byteLength_cons, List.cons_append, charOver?, if_neg hle, hsub, ih]

/-- A byte of the first part belongs to one of its characters. -/
theorem exists_charOver?_append_left {s : Text} (t : Text) {n : Nat} (h : n < byteLength s) :
    ∃ c ∈ s, charOver? n (s ++ t) = some c := by
  induction s generalizing n with
  | nil => simp at h
  | cons c cs ih =>
    by_cases hlt : n < c.utf8Size
    · exact ⟨c, List.mem_cons_self .., by rw [List.cons_append, charOver?, if_pos hlt]⟩
    · rw [byteLength_cons] at h
      obtain ⟨d, hd, hover⟩ := ih (n := n - c.utf8Size) (by omega)
      exact ⟨d, List.mem_cons_of_mem c hd, by rw [List.cons_append, charOver?, if_neg hlt, hover]⟩

/-- A byte between two cuts belongs to a character between them. -/
theorem exists_charOver?_of_dropBytes? {n m : Nat} {text u rest : Text}
    (h : dropBytes? n text = some (u ++ rest)) (hle : n ≤ m) (hlt : m < n + byteLength u) :
    ∃ c ∈ u, charOver? m text = some c := by
  obtain ⟨s, rfl, rfl⟩ := exists_append_of_dropBytes? h
  obtain ⟨c, hc, hover⟩ :=
    exists_charOver?_append_left (s := u) rest (n := m - byteLength s) (by omega)
  refine ⟨c, hc, ?_⟩
  rw [← hover, ← charOver?_append_right s (u ++ rest), Nat.add_sub_cancel' hle]

end Text

end ScriptTree
