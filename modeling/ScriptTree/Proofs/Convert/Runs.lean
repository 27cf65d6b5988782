import ScriptTree.Convert.Basic

/-!
# Runs of conversions

What a conversion does is said about its runs that have a result: from one state, to a value and
another state (`ScriptTree.Conversion.Ok`). The equivalences below take such a run apart along the
operations that conversions are written with, so that no later proof looks into the monad.
-/

namespace ScriptTree

namespace Conversion

variable {α β : Type}

/-- A run that starts in one state has a result, and ends in another. -/
def Ok (m : Conversion α) (p : Progress) (x : α) (q : Progress) : Prop :=
  m.run.run p = (.ok x, q)

variable {p q : Progress}

/-! ### The monad -/

@[simp] theorem ok_pure {x y : α} : Ok (pure x) p y q ↔ y = x ∧ q = p := by
  change ((Except.ok x, p) : Except Halt α × Progress) = (.ok y, q) ↔ _
  rw [Prod.mk.injEq, Except.ok.injEq]
  exact and_congr eq_comm eq_comm

/-- One conversion runs after another, unless the first one comes to a halt. -/
theorem run_bind (m : Conversion α) (f : α → Conversion β) (p : Progress) :
    (m >>= f).run.run p = match m.run.run p with
      | (.ok x, r) => (f x).run.run r
      | (.error e, r) => (.error e, r) := by
  change (ExceptT.bindCont f (m.run.run p).1).run (m.run.run p).2 = _
  rcases m.run.run p with ⟨_ | _, r⟩ <;> rfl

/-- A run of one conversion after another. -/
@[simp] theorem ok_bind {m : Conversion α} {f : α → Conversion β} {y : β} :
    Ok (m >>= f) p y q ↔ ∃ x r, Ok m p x r ∧ Ok (f x) r y q := by
  rw [Ok, run_bind]
  constructor
  · intro h
    split at h
    · next x r hm => exact ⟨x, r, hm, h⟩
    · cases h
  · rintro ⟨x, r, hm, hf⟩
    have hm' : m.run.run p = (.ok x, r) := hm
    rw [hm']
    exact hf

@[simp] theorem ok_map {m : Conversion α} {f : α → β} {y : β} :
    Ok (f <$> m) p y q ↔ ∃ x, Ok m p x q ∧ y = f x := by
  rw [map_eq_pure_bind, ok_bind]
  simp only [ok_pure]
  constructor
  · rintro ⟨x, r, hm, hy, rfl⟩
    exact ⟨x, hm, hy⟩
  · rintro ⟨x, hm, hy⟩
    exact ⟨x, q, hm, hy, rfl⟩

/-- A run that comes to a halt has no result. -/
@[simp] theorem not_ok_throw (e : Halt) (x : α) : ¬ Ok (throw e) p x q := nofun

@[simp] theorem not_ok_fail (e : ConvertError) (x : α) : ¬ Ok (fail e) p x q := nofun

@[simp] theorem ok_await {found : Option α} {x : α} :
    Ok (await found) p x q ↔ found = some x ∧ q = p := by
  cases found with
  | none => exact iff_of_false (not_ok_throw _ _) nofun
  | some y => rw [await, ok_pure, Option.some.injEq, eq_comm]

/-! ### Nodes that are started -/

@[simp] theorem ok_start {type : EsType} {first stop : Nat} {d : Draft} :
    Ok (start type first stop) p d q ↔
      p.HasNumber ∧ d = .new p.issued type first stop ∧ q = p.next := by
  rw [Ok, run_start]
  split
  · next hnumber =>
    rw [and_iff_right hnumber, Prod.mk.injEq, Except.ok.injEq]
    exact and_congr eq_comm eq_comm
  · next hnumber => exact iff_of_false nofun fun h => hnumber h.1

@[simp] theorem ok_startOver {type : EsType} {n : Node} {d : Draft} :
    Ok (startOver type n) p d q ↔
      p.HasNumber ∧ d = .new p.issued type n.pos n.stop ∧ q = p.next :=
  ok_start

@[simp] theorem ok_moved {offset width stop : Nat} : Ok (moved offset width) p stop q ↔
    offset + width < 0x100000000 ∧ stop = offset + width ∧ q = p := by
  rw [moved]
  split
  · next hlt => simp [hlt]
  · next hlt => simp [hlt]

end Conversion

namespace Source

open Conversion

variable {s : Source} {p q : Progress}

@[simp] theorem ok_parts {pool : Pool} {i : NodeId} {n : Node} {d : Data pool} :
    Ok (s.parts pool i n) p d q ↔ s.arena.data? pool n = some d ∧ q = p := by
  rw [parts]
  split
  · next hd => simp [hd, eq_comm]
  · next hd => simp [hd]

@[simp] theorem ok_tokens {index : TokenIndex} :
    Ok s.tokens p index q ↔ s.index = some index ∧ q = p :=
  ok_await

/-- A node that is built has the next number, if there is one. -/
theorem run_buildAt (s : Source) (type : AstType) (start stop : Nat)
    (fields : List (String × Option EsValue)) (p : Progress) :
    (s.buildAt type start stop fields).run.run p =
      if p.HasNumber then
        (.ok (s.finish ((Draft.new p.issued type start stop).fill fields)), p.next)
      else (.error .exhausted, p) := by
  rw [buildAt, run_bind, run_start]
  by_cases hnumber : p.HasNumber
  · rw [if_pos hnumber, if_pos hnumber]
    rfl
  · rw [if_neg hnumber, if_neg hnumber]

@[simp] theorem ok_buildAt {type : AstType} {start stop : Nat}
    {fields : List (String × Option EsValue)} {n : EsNode} :
    Ok (s.buildAt type start stop fields) p n q ↔
      p.HasNumber ∧ n = s.finish ((Draft.new p.issued type start stop).fill fields) ∧
        q = p.next := by
  rw [Ok, run_buildAt]
  split
  · next hnumber =>
    rw [and_iff_right hnumber, Prod.mk.injEq, Except.ok.injEq]
    exact and_congr eq_comm eq_comm
  · next hnumber => exact iff_of_false nofun fun h => hnumber h.1

@[simp] theorem ok_build {type : AstType} {n : Node} {fields : List (String × Option EsValue)}
    {es : EsNode} : Ok (s.build type n fields) p es q ↔
      p.HasNumber ∧ es = s.finish ((Draft.new p.issued type n.pos n.stop).fill fields) ∧
        q = p.next :=
  ok_buildAt

/-- What is recorded, if the correspondence is wanted. -/
theorem ok_register {r : NodeRef} {n : EsNode} {u : Unit} : Ok (s.register r n) p u q ↔
    q = if s.options.provideCorrespondenceMaps then
      { p with maps := p.maps.register r n.head.id } else p := by
  rw [register]
  split
  · have hmodify : Ok (modify fun p => { p with maps := p.maps.register r n.head.id } :
        Conversion Unit) p u q ↔
          ((Except.ok (), { p with maps := p.maps.register r n.head.id }) :
            Except Halt Unit × Progress) = (.ok u, q) := Iff.rfl
    rw [hmodify, Prod.mk.injEq]
    simp [eq_comm]
  · simp

end Source

end ScriptTree
