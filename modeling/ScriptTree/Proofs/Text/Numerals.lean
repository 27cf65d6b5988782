import Mathlib.Data.Nat.Digits.Lemmas
import ScriptTree.Proofs.Json.Scalars
import ScriptTree.Text.CharClass

/-!
# Numbers in a base

Digits write a number, and the first of them weighs most (`ScriptTree.Text.Writes`). Reading digits
gives the number that they write, and no other text is read as a number
(`ScriptTree.Text.digitsValue?_eq_some_iff`).

A number can be written with any number of zeros in front. Without them its digits are few
(`ScriptTree.Text.Writes.length_le`): they are no more than the exponent of a power of the base that
is greater than the number.
-/

namespace ScriptTree

namespace Text

/-! ### Reading digits -/

/-- A text writes a number in a base: it is made of digits of the base, at least one of them, and
the first digit weighs most. -/
def Writes (base : Nat) (cs : Text) (n : Nat) : Prop :=
  cs ≠ [] ∧ ∃ ds : List Nat,
    cs.map (digitValue? base) = ds.map some ∧ Nat.ofDigits base ds.reverse = n

variable {base n : Nat} {cs : Text}

/-- What is no digit of the base is not in the writing of a number. -/
theorem Writes.not_mem (h : Writes base cs n) {c : Char} (hc : digitValue? base c = none) :
    c ∉ cs := by
  obtain ⟨-, ds, hds, -⟩ := h
  intro hmem
  have hnone : none ∈ ds.map some := hds ▸ hc ▸ List.mem_map_of_mem hmem
  obtain ⟨d, -, hd⟩ := List.mem_map.mp hnone
  cases hd

/-- Digits read one after the other, behind a number that is already read. -/
theorem foldlM_digits_eq_some_iff {start : Nat} :
    cs.foldlM (fun value c => (digitValue? base c).map (value * base + ·)) start = some n ↔
      ∃ ds : List Nat, cs.map (digitValue? base) = ds.map some ∧
        ds.foldl (fun value d => value * base + d) start = n := by
  induction cs generalizing start with
  | nil =>
    refine ⟨fun h => ⟨[], rfl, Option.some.inj h⟩, ?_⟩
    rintro ⟨ds, hds, rfl⟩
    rw [List.map_eq_nil_iff.mp hds.symm]
    rfl
  | cons c cs ih =>
    rw [List.foldlM_cons]
    constructor
    · intro h
      obtain ⟨value, hvalue, hrest⟩ := Option.bind_eq_some_iff.mp h
      obtain ⟨d, hd, rfl⟩ := Option.map_eq_some_iff.mp hvalue
      obtain ⟨ds, hds, hn⟩ := ih.mp hrest
      exact ⟨d :: ds, by rw [List.map_cons, List.map_cons, hd, hds], hn⟩
    · rintro ⟨ds, hds, hn⟩
      cases ds with
      | nil => cases hds
      | cons d ds =>
        obtain ⟨hd, hds⟩ := List.cons.inj hds
        rw [hd]
        exact ih.mpr ⟨ds, hds, hn⟩

theorem foldl_eq_ofDigits (ds : List Nat) :
    ds.foldl (fun value d => value * base + d) 0 = Nat.ofDigits base ds.reverse := by
  rw [Nat.ofDigits_eq_foldr, List.foldr_reverse]
  congr 1
  funext value d
  rw [Nat.cast_id, Nat.mul_comm, Nat.add_comm]

/-- **Digits are read as the number that they write.** -/
theorem digitsValue?_eq_some_iff : digitsValue? base cs = some n ↔ Writes base cs n := by
  cases cs with
  | nil => exact ⟨fun h => (Option.some_ne_none n h.symm).elim, fun h => absurd rfl h.1⟩
  | cons c cs =>
    rw [digitsValue?.eq_2 _ _ (List.cons_ne_nil c cs), foldlM_digits_eq_some_iff, Writes]
    simp only [foldl_eq_ofDigits, ne_eq, reduceCtorEq, not_false_eq_true, true_and]

/-- A number is read with its digits behind a plus sign, or without one. -/
theorem wordValue?_eq_some_iff :
    wordValue? base cs = some n ↔
      n < 0x100000000 ∧ (Writes base cs n ∨ ∃ ds, cs = '+' :: ds ∧ Writes base ds n) := by
  rw [wordValue?.eq_def, Option.filter_eq_some_iff, decide_eq_true_eq, and_comm]
  refine and_congr_right fun _ => ?_
  split
  · next ds =>
    rw [digitsValue?_eq_some_iff]
    refine ⟨fun h => .inr ⟨ds, rfl, h⟩, ?_⟩
    rintro (h | ⟨ds', hds, h⟩)
    · exact absurd List.mem_cons_self (h.not_mem rfl)
    · exact (List.cons.inj hds).2 ▸ h
  · next hsign =>
    rw [digitsValue?_eq_some_iff]
    refine ⟨.inl, ?_⟩
    rintro (h | ⟨ds, hds, -⟩)
    · exact h
    · exact absurd hds (hsign ds)

/-- A character is found from its number only. -/
theorem charOf?_eq_some_iff {c : Char} : charOf? n = some c ↔ n = c.toNat := by
  refine ⟨fun h => ?_, fun h => h ▸ Json.Reader.charOf?_toNat c⟩
  rw [charOf?] at h
  split at h
  · next hcode =>
    rw [Bool.or_eq_true, Bool.and_eq_true, decide_eq_true_eq, decide_eq_true_eq,
      decide_eq_true_eq] at hcode
    have hvalid : n.isValidChar := hcode.imp_right fun h => ⟨by omega, h.2⟩
    rw [← Option.some.inj h, Char.ofNat, dif_pos hvalid]
    rfl
  · cases h

/-! ### How many digits there are -/

/-- The digits are basic characters. Those below ten are the decimal ones, in their order, and the
others are letters. -/
theorem toNat_of_digitValue? {c : Char} {d : Nat} (h : digitValue? base c = some d) :
    c.toNat < 0x80 ∧ (d < 10 → c.toNat = '0'.toNat + d) := by
  have hle (a b : Char) : a ≤ b ↔ a.toNat ≤ b.toNat := UInt32.le_iff_toNat_le
  obtain ⟨hvalue, -⟩ := Option.filter_eq_some_iff.mp h
  split at hvalue
  · next hdigit =>
    simp only [isDigit, Bool.and_eq_true, decide_eq_true_eq, hle, Char.reduceToNat] at hdigit
    have hd := Option.some.inj hvalue
    simp only [Char.reduceToNat] at hd ⊢
    omega
  split at hvalue
  · next hlower =>
    simp only [Bool.and_eq_true, decide_eq_true_eq, hle, Char.reduceToNat] at hlower
    have hd := Option.some.inj hvalue
    simp only [Char.reduceToNat] at hd ⊢
    omega
  split at hvalue
  · next hupper =>
    simp only [Bool.and_eq_true, decide_eq_true_eq, hle, Char.reduceToNat] at hupper
    have hd := Option.some.inj hvalue
    simp only [Char.reduceToNat] at hd ⊢
    omega
  · cases hvalue

/-- A number takes one byte for each of its digits. -/
theorem Writes.byteLength_eq (h : Writes base cs n) : byteLength cs = cs.length := by
  obtain ⟨-, ds, hds, -⟩ := h
  induction cs generalizing ds with
  | nil => rfl
  | cons c cs ih =>
    cases ds with
    | nil => cases hds
    | cons d ds =>
      obtain ⟨hd, hds⟩ := List.cons.inj hds
      have hsize : c.utf8Size = 1 := Char.utf8Size_eq_one_iff.mpr
        (UInt32.le_iff_toNat_le.mpr (Nat.le_of_lt_succ (toNat_of_digitValue? hd).1))
      rw [byteLength_cons, hsize, ih ds hds, List.length_cons, Nat.add_comm]

/-- No zeros stand in front of a number, but zero itself is written with one. -/
def IsUnpadded (cs : Text) : Prop := cs.head? = some '0' → cs = ['0']

/-- **A number that is not padded has few digits.** -/
theorem Writes.length_le (h : Writes base cs n) (hpad : IsUnpadded cs) (hbase : 2 ≤ base) {k : Nat}
    (hk : 0 < k) (hn : n < base ^ k) : cs.length ≤ k := by
  obtain ⟨hne, ds, hds, rfl⟩ := h
  obtain ⟨c, cs, rfl⟩ := List.exists_cons_of_ne_nil hne
  cases ds with
  | nil => cases hds
  | cons d ds =>
    obtain ⟨hd, hrest⟩ := List.cons.inj hds
    have hlength : (c :: cs).length = (d :: ds).reverse.length := by
      simpa using congrArg List.length hrest
    by_cases hzero : d = 0
    · -- The first digit is a zero, so it is the only one.
      have hc : c = '0' := Char.toNat_inj.mp ((toNat_of_digitValue? hd).2 (by omega) |>.trans
        (by rw [hzero]; rfl))
      rw [hpad (by rw [hc]; rfl)]
      exact hk
    · -- The first digit alone weighs as much as a power of the base.
      obtain ⟨b, rfl⟩ : ∃ b, base = b + 2 := ⟨base - 2, by omega⟩
      have hweight : (b + 2) ^ (d :: ds).reverse.length ≤
          (b + 2) * Nat.ofDigits (b + 2) (d :: ds).reverse :=
        Nat.pow_length_le_mul_ofDigits (by simp) (by simpa using hzero)
      have hbound : (b + 2) ^ (d :: ds).reverse.length < (b + 2) ^ (k + 1) :=
        calc (b + 2) ^ (d :: ds).reverse.length
            ≤ (b + 2) * Nat.ofDigits (b + 2) (d :: ds).reverse := hweight
          _ < (b + 2) * (b + 2) ^ k := Nat.mul_lt_mul_of_pos_left hn (by omega)
          _ = (b + 2) ^ (k + 1) := (Nat.pow_succ').symm
      rw [hlength]
      exact Nat.le_of_lt_succ ((Nat.pow_lt_pow_iff_right (by omega)).mp hbound)

end Text

end ScriptTree
