import Mathlib.Data.List.Nodup
import ScriptTree.Arena.Document

/-!
# Names that differ

Documents refer to kinds, pools and fields by name, so that what is read is what was written only if
no two of them share a name. Comparing the names of a vocabulary pair by pair is too much for the
kernel; a checksum of sixteen bits tells all of them apart
(`ScriptTree.nodup_of_checksums`), and the checksums of a list are compared in one pass, with the set
of those that were seen kept in the bits of one number.
-/

namespace ScriptTree

/-! ### Checksums -/

/-- A number below `2 ^ 16` that depends on every byte of a string. -/
def checksum (s : String) : Nat :=
  s.toByteArray.data.toList.foldl (fun sum byte => (sum * 31 + byte.toNat) % 0x10000) 0

/-- No number occurs twice, and none has its bit among those seen before. -/
def areNew : (seen : Nat) → List Nat → Bool
  | _, [] => true
  | seen, n :: ns => !seen.testBit n && areNew (seen ||| 1 <<< n) ns

theorem nodup_of_areNew {seen : Nat} {ns : List Nat} (h : areNew seen ns = true) :
    ns.Nodup ∧ ∀ n ∈ ns, seen.testBit n = false := by
  induction ns generalizing seen with
  | nil => exact ⟨List.nodup_nil, by rintro _ ⟨⟩⟩
  | cons n ns ih =>
    rw [areNew, Bool.and_eq_true, Bool.not_eq_true'] at h
    obtain ⟨hnodup, hseen⟩ := ih h.2
    have hrest (m : Nat) (hm : m ∈ ns) : seen.testBit m = false ∧ m ≠ n := by
      have := hseen m hm
      rw [Nat.testBit_or, Bool.or_eq_false_iff, Nat.one_shiftLeft, Nat.testBit_two_pow] at this
      exact ⟨this.1, fun e => of_decide_eq_false this.2 e.symm⟩
    refine ⟨List.nodup_cons.mpr ⟨fun hn => (hrest n hn).2 rfl, hnodup⟩, fun m hm => ?_⟩
    rcases List.mem_cons.mp hm with rfl | hm
    · exact h.1
    · exact (hrest m hm).1

/-- **Strings with different checksums differ.** -/
theorem nodup_of_checksums {names : List String}
    (h : areNew 0 (names.map checksum) = true) : names.Nodup :=
  List.Nodup.of_map checksum (nodup_of_areNew h).1

/-- Where names differ, a thing is found by its name. -/
theorem find?_of_nodup {α : Type} {name : α → String} {all : List α}
    (h : (all.map name).Nodup) {a : α} (ha : a ∈ all) :
    all.find? (name · == name a) = some a := by
  induction all with
  | nil => cases ha
  | cons b all ih =>
    by_cases hb : name b = name a
    · have hba : b = a := List.inj_on_of_nodup_map h List.mem_cons_self ha hb
      rw [List.find?_cons_of_pos (by rw [hb, beq_self_eq_true]), hba]
    · have ha : a ∈ all := List.mem_of_ne_of_mem (fun hab => hb (hab ▸ rfl)) ha
      rw [List.find?_cons_of_neg (by simpa using hb)]
      exact ih (List.nodup_cons.mp h).2 ha

/-! ### The vocabularies of documents -/

namespace SyntaxKind

theorem nodup_names : (all.map name).Nodup :=
  nodup_of_checksums (by decide +kernel)

/-- A kind is read back from its name. -/
theorem ofName?_name (k : SyntaxKind) : ofName? k.name = some k :=
  find?_of_nodup nodup_names k.mem_all

end SyntaxKind

namespace Pool

theorem mem_all (p : Pool) : p ∈ all := by
  cases p <;> decide

/-- No two pools share a name, and none has the name that stands for no pool. -/
theorem nodup_names : (Node.noPoolName :: all.map name).Nodup :=
  nodup_of_checksums (by decide)

/-- A pool is read back from its name. -/
theorem ofName?_name (p : Pool) : ofName? p.name = some p :=
  find?_of_nodup (List.nodup_cons.mp nodup_names).2 p.mem_all

theorem name_ne_noPoolName (p : Pool) : p.name ≠ Node.noPoolName := fun h =>
  (List.nodup_cons.mp nodup_names).1 (h ▸ List.mem_map_of_mem p.mem_all)

/-- No two pools share a table, and none has its rows where the nodes are. -/
theorem nodup_tables : ("nodes" :: all.map table).Nodup :=
  nodup_of_checksums (by decide)

/-- No two fields of a layout share a name. -/
theorem nodup_keys (p : Pool) : (p.layout.map Field.key).Nodup := by
  have hall : ∀ p ∈ all, areNew 0 ((p.layout.map Field.key).map checksum) = true := by
    decide +kernel
  exact nodup_of_checksums (hall p p.mem_all)

end Pool

namespace DiagnosticCategory

/-- A category is read back from its name. -/
theorem ofName?_name (c : DiagnosticCategory) : ofName? c.name = some c := by
  cases c <;> decide

end DiagnosticCategory

end ScriptTree
