import ScriptTree.Convert.Visit
import ScriptTree.Proofs.Convert.ByRote

/-!
# Leaves

A token has no children. Its rule makes one new node of it, at most after some steps that leave
everything as it is, so the new node can be recorded.
-/

namespace ScriptTree

namespace Conversion

variable {α β : Type}

/-- A conversion leaves everything as it is. -/
def Steady (m : Conversion α) : Prop :=
  ∀ ⦃p x q⦄, m.Ok p x q → q = p

theorem steady_pure (x : α) : Steady (pure x : Conversion α) :=
  fun _ _ _ hok => (ok_pure.mp hok).2

theorem steady_parts (s : Source) (pool : Pool) (i : NodeId) (n : Node) :
    Steady (s.parts pool i n) :=
  fun _ _ _ hok => (Source.ok_parts.mp hok).2

theorem steady_moved (offset width : Nat) : Steady (moved offset width) :=
  fun _ _ _ hok => (ok_moved.mp hok).2.2

theorem Steady.bind {m : Conversion α} {f : α → Conversion β} (hm : Steady m)
    (hf : ∀ x, Steady (f x)) : Steady (m >>= f) := by
  intro p y q hok
  obtain ⟨x, r, hx, hy⟩ := ok_bind.mp hok
  exact (hf x hy).trans (hm hx)

theorem Steady.mapM {f : α → Conversion β} (xs : List α) (hf : ∀ x ∈ xs, Steady (f x)) :
    Steady (xs.mapM f) := by
  induction xs with
  | nil => exact steady_pure []
  | cons x xs ih =>
    rw [List.mapM_cons]
    refine (hf x List.mem_cons_self).bind fun y => ?_
    exact (ih fun x' hx' => hf x' (List.mem_cons_of_mem x hx')).bind fun ys => steady_pure _

/-- A new node after a step that leaves everything as it is. -/
theorem Steady.makesNew {m : Conversion α} {f : α → Conversion EsNode} (hm : Steady m)
    (hf : ∀ x, MakesNew (f x)) : MakesNew (m >>= f) := by
  intro p es q hok
  obtain ⟨x, r, hx, hes⟩ := ok_bind.mp hok
  obtain rfl := hm hx
  exact hf x hes

/-- A new node after another one. -/
theorem MakesNew.makesNew {m : Conversion EsNode} {f : EsNode → Conversion EsNode}
    (hm : MakesNew m) (hf : ∀ x, MakesNew (f x)) : MakesNew (m >>= f) := by
  intro p es q hok
  obtain ⟨x, r, hx, hes⟩ := ok_bind.mp hok
  obtain ⟨hmaps, hle, hlt⟩ := hm hx
  obtain ⟨hmaps', hle', hlt'⟩ := hf x hes
  exact ⟨hmaps'.trans hmaps, Nat.le_trans (Nat.le_of_lt (Nat.lt_of_le_of_lt hle hlt)) hle', hlt'⟩

/-- A node that is started and gets its fields later is a new one. -/
theorem makesNew_start (type : EsType) (n : Node) {f : Draft → Conversion EsNode}
    (hf : ∀ d p es q, (f d).Ok p es q → q = p ∧ es.head.id = d.id) :
    MakesNew (startOver type n >>= f) := by
  intro p es q hok
  obtain ⟨d, r, hd, hes⟩ := ok_bind.mp hok
  obtain ⟨-, rfl, rfl⟩ := ok_startOver.mp hd
  obtain ⟨rfl, hid⟩ := hf _ _ _ _ hes
  rw [IsIssued, hid]
  exact ⟨rfl, Nat.le_refl _, Nat.lt_succ_self _⟩

end Conversion

open Conversion

/-! ### Literals -/

namespace Source

variable (s : Source) (i : NodeId) (n : Node)

theorem makesNew_privateName : MakesNew (s.privateName i n) :=
  (steady_parts ..).makesNew fun _ => makesNew_build ..

theorem makesNew_stringLiteral : MakesNew (s.stringLiteral i n) :=
  (steady_parts ..).makesNew fun _ => makesNew_build ..

theorem makesNew_regexLiteral : MakesNew (s.regexLiteral n) := by
  rw [regexLiteral]
  split
  · exact makesNew_build ..
  · exact fun p es q hok => absurd hok (not_ok_throw _ es)

theorem makesNew_nullLiteral : MakesNew (s.nullLiteral i n) := by
  rw [nullLiteral]
  split <;> exact makesNew_build ..

theorem makesNew_templateElement (cooked : String) (close : Nat) (tail : Bool) :
    MakesNew (s.templateElement n cooked close tail) :=
  (steady_moved ..).makesNew fun _ => makesNew_build ..

theorem makesNew_templatePiece : MakesNew (s.templatePiece i n) := by
  refine (steady_parts ..).makesNew fun d => ?_
  split <;> exact makesNew_templateElement ..

theorem makesNew_plainTemplate : MakesNew (s.plainTemplate i n) := by
  refine (steady_parts ..).makesNew fun d => ?_
  exact (s.makesNew_templateElement n _ _ _).makesNew fun _ => makesNew_build ..

end Source

/-! ### The other tokens -/

namespace Converter

variable (c : Converter) (i : NodeId) (n : Node)

theorem steady_part {p : Pool} (d : Data p) {x : Part} (hx : x.slot? = none) :
    Steady (c.part n d x) := by
  cases x <;> first | exact steady_pure _ | cases hx

theorem steady_gather {p : Pool} (d : Data p) {parts : List (String × Part)}
    (h : ∀ e ∈ parts, e.2.slot? = none) : Steady (c.gather n d parts) :=
  Steady.mapM _ fun e he => (c.steady_part n d (h e he)).bind fun _ => steady_pure _

/-- A recipe that looks at no child makes a new node. -/
theorem makesNew_follow {r : Recipe} (h : ∀ e ∈ r.parts ++ r.later, e.2.slot? = none) :
    MakesNew (c.follow r i n) := by
  refine (steady_parts ..).makesNew fun d => ?_
  refine (c.steady_gather n d fun e he => h e (List.mem_append_left _ he)).makesNew fun fields => ?_
  refine makesNew_start _ n fun draft p es q hok => ?_
  obtain ⟨later, r', hlater, hes⟩ := ok_bind.mp hok
  obtain rfl := c.steady_gather n d (fun e he => h e (List.mem_append_right _ he)) hlater
  obtain ⟨rfl, rfl⟩ := ok_pure.mp hes
  exact ⟨rfl, id_fill ..⟩

theorem makesNew_synthesize (h : n.kind.tableEntry? = none) : MakesNew (c.synthesize i n) := by
  rw [Converter.synthesize]
  split
  · exact fun p es q hok => absurd hok (not_ok_fail _ es)
  · refine makesNew_start _ n fun draft p es q hok => ?_
    rw [h] at hok
    obtain ⟨rfl, rfl⟩ := ok_pure.mp hok
    exact ⟨rfl, rfl⟩

/-- The rule of a token makes one new node. -/
theorem visit_of_isToken (htoken : n.kind.isToken = true) (hend : n.kind ≠ .endOfFileToken) :
    ∃ m, c.visit i n = some <$> m ∧ MakesNew m := by
  have hkinds : ∀ k ∈ SyntaxKind.all, k.isToken = true → k ≠ .endOfFileToken →
      k.isElided = false ∧ k.tableEntry? = none ∧
        k.recipe?.all fun r => (r.parts ++ r.later).all fun e => e.2.slot?.isNone := by
    decide +kernel
  obtain ⟨helided, htable, hrecipe⟩ := hkinds n.kind n.kind.mem_all htoken hend
  rw [Converter.visit, helided, if_neg Bool.false_ne_true]
  split
  · exact ⟨_, rfl, makesNew_build ..⟩
  · split
    · next r hr =>
      rw [hr] at hrecipe
      refine ⟨_, rfl, c.makesNew_follow i n fun e he => ?_⟩
      exact Option.isNone_iff_eq_none.mp (List.all_eq_true.mp hrecipe e he)
    · split
      · next rule hrule =>
        rw [Converter.ownRule?] at hrule
        split at hrule
        -- Most kinds with a rule of their own have parts.
        all_goals first
          | (next hk => exact absurd htoken (by rw [hk]; decide))
          | cases hrule
        · exact ⟨_, rfl, c.makesNew_privateName i n⟩
        · exact ⟨_, rfl, c.makesNew_stringLiteral i n⟩
        · exact ⟨_, rfl, makesNew_build ..⟩
        · exact ⟨_, rfl, makesNew_build ..⟩
        · exact ⟨_, rfl, c.makesNew_regexLiteral n⟩
        · exact ⟨_, rfl, c.makesNew_plainTemplate i n⟩
        · exact ⟨_, rfl, c.makesNew_templatePiece i n⟩
        · exact ⟨_, rfl, c.makesNew_templatePiece i n⟩
        · exact ⟨_, rfl, c.makesNew_templatePiece i n⟩
        · exact ⟨_, rfl, makesNew_build ..⟩
        · exact ⟨_, rfl, makesNew_build ..⟩
        · exact ⟨_, rfl, c.makesNew_nullLiteral i n⟩
        · exact ⟨_, rfl, makesNew_build ..⟩
        · exact ⟨_, rfl, makesNew_build ..⟩
      · exact ⟨_, rfl, c.makesNew_synthesize i n htable⟩

end Converter

/-- Of a token no field is kept. -/
theorem Way.kept_of_isToken {kind : SyntaxKind} (h : kind.isToken = true) (p : Pool) :
    Way.rule.kept kind p = [] := by
  have hkinds : ∀ k ∈ SyntaxKind.all, k.isToken = true →
      (k.pool?.all fun p => (Way.rule.kept k p).isEmpty) = true := by
    decide +kernel
  by_cases hp : kind.pool? = some p
  · have hkind := hkinds kind kind.mem_all h
    rw [hp] at hkind
    exact List.isEmpty_iff.mp hkind
  · exact Way.kept_eq_nil fun f => if_neg hp

end ScriptTree
