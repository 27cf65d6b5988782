import Mathlib.Data.List.Forall2
import ScriptTree.Proofs.Convert.Runs

/-!
# What a conversion yields

A conversion yields results with a property if every run of it that has a result has one like
that (`ScriptTree.Conversion.Yields`). The statement says nothing about the state: it is for
properties of the normalized tree, whatever was recorded on the way.
-/

namespace ScriptTree

namespace Conversion

variable {α β : Type}

/-- Every result of a conversion has a property. -/
def Yields (m : Conversion α) (post : α → Prop) : Prop :=
  ∀ ⦃p x q⦄, m.Ok p x q → post x

namespace Yields

variable {m : Conversion α} {post : α → Prop}

theorem mono {post' : α → Prop} (h : Yields m post) (hpost : ∀ x, post x → post' x) :
    Yields m post' :=
  fun _ x _ hok => hpost x (h hok)

/-- Nothing is said about the result. -/
theorem trivial (m : Conversion α) : Yields m fun _ => True :=
  fun _ _ _ _ => True.intro

/-- Two things are said about the result. -/
theorem and {post' : α → Prop} (h : Yields m post) (h' : Yields m post') :
    Yields m fun x => post x ∧ post' x :=
  fun _ _ _ hok => ⟨h hok, h' hok⟩

protected theorem pure {x : α} (h : post x) : Yields (pure x) post := by
  intro p y q hok
  obtain ⟨rfl, -⟩ := ok_pure.mp hok
  exact h

protected theorem bind {f : α → Conversion β} {post' : β → Prop} (h : Yields m post)
    (hf : ∀ x, post x → Yields (f x) post') : Yields (m >>= f) post' := by
  intro p y q hok
  obtain ⟨x, r, hm, hfx⟩ := ok_bind.mp hok
  exact hf x (h hm) hfx

protected theorem map {f : α → β} {post' : β → Prop} (h : Yields m fun x => post' (f x)) :
    Yields (f <$> m) post' := by
  intro p y q hok
  obtain ⟨x, hm, rfl⟩ := ok_map.mp hok
  exact h hm

protected theorem throw {e : Halt} : Yields (throw e : Conversion α) post :=
  fun _ x _ hok => absurd hok (not_ok_throw e x)

protected theorem fail {e : ConvertError} : Yields (fail e : Conversion α) post :=
  fun _ x _ hok => absurd hok (not_ok_fail e x)

/-- The same condition decides about the result. -/
protected theorem ite {P : Prop} [Decidable P] {m₁ m₂ : Conversion α} (h₁ : P → Yields m₁ post)
    (h₂ : ¬ P → Yields m₂ post) : Yields (if P then m₁ else m₂) post := by
  split
  · next hP => exact h₁ hP
  · next hP => exact h₂ hP

/-- Every element of a list, one after the other. -/
protected theorem mapM {f : α → Conversion β} {post : α → β → Prop} (bs : List α)
    (h : ∀ b ∈ bs, Yields (f b) (post b)) : Yields (bs.mapM f) (List.Forall₂ post bs) := by
  induction bs with
  | nil =>
    rw [List.mapM_nil]
    exact Yields.pure .nil
  | cons b bs ih =>
    rw [List.mapM_cons]
    refine Yields.bind (h b List.mem_cons_self) fun x hx => ?_
    refine Yields.bind (ih fun b' hb' => h b' (List.mem_cons_of_mem b hb')) fun xs hxs => ?_
    exact Yields.pure (.cons hx hxs)

/-- Results that all have a property, whatever they come from. -/
protected theorem mapM_all {f : α → Conversion β} {post : β → Prop} (bs : List α)
    (h : ∀ b ∈ bs, Yields (f b) post) : Yields (bs.mapM f) fun xs => ∀ x ∈ xs, post x := by
  refine (Yields.mapM bs h).mono fun xs hxs => ?_
  induction hxs with
  | nil => exact fun x hx => absurd hx List.not_mem_nil
  | cons hx _ ih =>
    exact List.forall_mem_cons.mpr ⟨hx, ih fun b hb => h b (List.mem_cons_of_mem _ hb)⟩

/-- Every element of a list, without those that nothing comes of. -/
protected theorem filterMapM {f : α → Conversion (Option β)} {post : β → Prop} (bs : List α)
    (h : ∀ b ∈ bs, Yields (f b) fun x => ∀ y ∈ x, post y) :
    Yields (bs.filterMapM f) fun xs => ∀ x ∈ xs, post x := by
  induction bs with
  | nil =>
    rw [List.filterMapM_nil]
    exact Yields.pure fun x hx => absurd hx List.not_mem_nil
  | cons b bs ih =>
    rw [List.filterMapM_cons]
    refine Yields.bind (h b List.mem_cons_self) fun x hx => ?_
    have hrest := ih fun b' hb' => h b' (List.mem_cons_of_mem b hb')
    cases x with
    | none => exact hrest
    | some x =>
      exact Yields.bind hrest fun xs hxs =>
        Yields.pure (List.forall_mem_cons.mpr ⟨hx x rfl, hxs⟩)

/-- Every element of a list, on top of what the elements before it came to. -/
protected theorem foldlM {f : β → α → Conversion β} {inv : β → Prop} (bs : List α)
    (h : ∀ x b, inv x → b ∈ bs → Yields (f x b) inv) {x : β} (hx : inv x) :
    Yields (bs.foldlM f x) inv := by
  induction bs generalizing x with
  | nil =>
    rw [List.foldlM_nil]
    exact Yields.pure hx
  | cons b bs ih =>
    rw [List.foldlM_cons]
    refine Yields.bind (h x b hx List.mem_cons_self) fun x hx => ?_
    exact ih (fun x b' hx hb' => h x b' hx (List.mem_cons_of_mem b hb')) hx

/-- What may be missing. -/
protected theorem optionMapM {f : α → Conversion β} {post : β → Prop} (o : Option α)
    (h : ∀ b ∈ o, Yields (f b) post) : Yields (o.mapM f) fun x => ∀ y ∈ x, post y := by
  cases o with
  | none =>
    rw [Option.mapM_none]
    exact Yields.pure fun y hy => absurd hy (Option.not_mem_none y)
  | some b =>
    rw [Option.mapM_some]
    exact Yields.map ((h b rfl).mono fun y hy z hz => Option.mem_some.mp hz ▸ hy)

end Yields

/-! ### Single steps -/

variable {s : Source} {post : β → Prop}

theorem yields_parts {p : Pool} {i : NodeId} {n : Node} {f : Data p → Conversion β}
    (h : ∀ d, s.arena.data? p n = some d → Yields (f d) post) :
    Yields (s.parts p i n >>= f) post := by
  intro p x q hok
  obtain ⟨d, r, hd, hf⟩ := ok_bind.mp hok
  exact h d (Source.ok_parts.mp hd).1 hf

theorem yields_await {α : Type} {found : Option α} {f : α → Conversion β}
    (h : ∀ x, found = some x → Yields (f x) post) : Yields (await found >>= f) post := by
  intro p y q hok
  obtain ⟨x, r, hx, hf⟩ := ok_bind.mp hok
  exact h x (ok_await.mp hx).1 hf

theorem yields_tokens {index : TokenIndex} {f : TokenIndex → Conversion β}
    (hindex : s.index = some index) (h : Yields (f index) post) :
    Yields (s.tokens >>= f) post :=
  yields_await fun _ heq => Option.some.inj (hindex.symm.trans heq) ▸ h

theorem yields_moved {offset width : Nat} {f : Nat → Conversion β}
    (h : Yields (f (offset + width)) post) : Yields (moved offset width >>= f) post := by
  intro p x q hok
  obtain ⟨stop, r, hmoved, hf⟩ := ok_bind.mp hok
  obtain ⟨-, rfl, -⟩ := ok_moved.mp hmoved
  exact h hf

theorem yields_start (type : EsType) (first stop : Nat) :
    Yields (start type first stop) fun d => ∃ id, d = .new id type first stop := by
  intro p d q hok
  exact ⟨p.issued, (ok_start.mp hok).2.1⟩

theorem yields_buildAt (s : Source) (type : AstType) (first stop : Nat)
    (fields : List (String × Option EsValue)) :
    Yields (s.buildAt type first stop fields) fun es =>
      ∃ id, es = s.finish ((Draft.new id type first stop).fill fields) := by
  intro p es q hok
  exact ⟨p.issued, (Source.ok_buildAt.mp hok).2.1⟩

end Conversion

end ScriptTree
