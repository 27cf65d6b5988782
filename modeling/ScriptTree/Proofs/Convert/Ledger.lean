import ScriptTree.Proofs.Ast.Nodes
import ScriptTree.Proofs.Convert.Coherent
import ScriptTree.Proofs.Convert.Records
import ScriptTree.Proofs.Convert.Tandem.Visit

/-!
# Where the numbers go

Every node that is started gets a number, and what is made of the node holds the number from then
on. The values that a conversion has made so far hold numbers that were issued, each of them once
(`ScriptTree.Source.ledger`). A number is lost only with a node that is dropped, and a node is
dropped only where a name that is no name already has a type: if variables and parameters have plain
names, nothing is lost, and the tree holds all the numbers
(`ScriptTree.Source.ids_of_ok`).

The ledger has an entry for what is recorded besides: a number that was issued, and a node that was
to be converted.
-/

namespace ScriptTree

open Holding

/-- **The values made so far hold numbers that were issued**, and what was recorded was issued for
a node that was to be converted. -/
structure Progress.Accounts (near : NodeId → Prop) (exact : Prop) (held : Multiset Nat)
    (p : Progress) : Prop where
  /-- The numbers fit into four bytes. -/
  issued_lt : p.issued < 0x100000000
  le : held ≤ Multiset.range p.issued
  eq : exact → held = Multiset.range p.issued
  sound : p.Sound
  near : ∀ x ∈ p.maps.pairs, ∃ i, x.1 = some i ∧ near i

/-- A value holds its numbers, and perhaps some that got lost. -/
structure EsValue.Owns (exact : Prop) (held : Multiset Nat) (v : EsValue) : Prop where
  le : v.ids ≤ held
  eq : exact → v.ids = held

variable {near : NodeId → Prop} {exact : Prop} {held : Multiset Nat}

namespace Progress.Accounts

/-- Nothing was issued yet. -/
theorem start : ({} : Progress).Accounts near exact 0 :=
  ⟨by decide, Multiset.zero_le _, fun _ => rfl, nofun, nofun⟩

variable {p : Progress}

/-- A number that is held was issued. -/
theorem lt_issued (hp : p.Accounts near exact held) {id : Nat} (hid : id ∈ held) :
    id < p.issued :=
  Multiset.mem_range.mp (Multiset.mem_of_le hp.le hid)

/-- The next number is issued. -/
theorem next (hp : p.Accounts near exact held) (hnumber : p.HasNumber) :
    p.next.Accounts near exact (held + {p.issued}) where
  issued_lt := hnumber
  le := by
    rw [issued_next, Multiset.range_succ, ← Multiset.singleton_add, add_comm held]
    exact add_le_add_right hp.le _
  eq hexact := by
    rw [issued_next, Multiset.range_succ, ← Multiset.singleton_add, add_comm held, hp.eq hexact]
  sound x hx := Nat.lt_succ_of_lt (hp.sound x hx)
  near := hp.near

/-- A number that was issued is recorded for a node that was to be converted. -/
theorem register (hp : p.Accounts near exact held) {i : NodeId} {id : Nat} (hi : near i)
    (hid : id < p.issued) :
    Accounts near exact held { p with maps := p.maps.register (some i) id } where
  issued_lt := hp.issued_lt
  le := hp.le
  eq := hp.eq
  sound x hx := by
    rcases NodeMaps.mem_register hx with rfl | hx
    · exact hid
    · exact hp.sound x hx
  near x hx := by
    rcases NodeMaps.mem_register hx with rfl | hx
    · exact ⟨i, rfl, hi⟩
    · exact hp.near x hx

end Progress.Accounts

/-- A node holds its own number, and those in its fields. -/
theorem EsNode.owns_iff {n : EsNode} : n.toValue.Owns exact held ↔
    n.head.id ::ₘ EsValue.idsOfFields n.props ≤ held ∧
      (exact → n.head.id ::ₘ EsValue.idsOfFields n.props = held) := by
  rw [← EsValue.ids_toValue]
  exact ⟨fun h => ⟨h.le, h.eq⟩, fun h => ⟨h.1, h.2⟩⟩

namespace Source

variable {s : Source}

/-- A value owns what it holds, and the other value is the same. -/
def OwnsAlike (exact : Prop) : Holding (Multiset Nat) EsValue := fun h v v' =>
  v' = v ∧ v.Owns exact h

/-- A finished draft holds its own number, and those in its fields. -/
theorem ownsAlike_finish_iff {d d' : Draft} :
    OwnsAlike exact held (s.finish d).toValue (s.finish d').toValue ↔
      d' = d ∧ d.id ::ₘ EsValue.idsOfFields d.props ≤ held ∧
        (exact → d.id ::ₘ EsValue.idsOfFields d.props = held) :=
  and_congr Draft.toValue_finish_inj EsNode.owns_iff

/-- **The ledger of a conversion.** -/
def ledger (s : Source) (near : NodeId → Prop) (exact : Prop)
    (hvisits : ∀ {i j}, near i → s.arena.Visits i j → near j)
    (hplain : exact → ∀ {i n}, near i → s.arena.nodes[i]? = some n → s.arena.HasPlainName n) :
    Tie (Multiset Nat) s s.options where
  states := fun k p p' => p' = p ∧ p.Accounts near exact k
  values := OwnsAlike exact
  here := near
  near := near
  exact := exact
  breaks := .same s _
  here_of_near := id
  near_of_visits := hvisits
  hasPlainName := hplain
  bare := by
    intro v hv
    have hids := EsValue.ids_of_isBare hv
    exact ⟨rfl, hids.le, fun _ => hids⟩
  array := by
    intro h vs vs' hvs
    induction hvs with
    | nil => exact ⟨rfl, le_of_eq EsValue.ids_array_nil, fun _ => EsValue.ids_array_nil⟩
    | cons hv _ ih =>
      obtain ⟨rfl, hv⟩ := hv
      obtain ⟨heq, hvs⟩ := ih
      cases heq
      refine ⟨rfl, ?_, fun hexact => ?_⟩
      · rw [EsValue.ids_array_cons]
        exact add_le_add hv.le hvs.le
      · rw [EsValue.ids_array_cons, hv.eq hexact, hvs.eq hexact]
  range := by
    rintro h n n' ⟨heq, -⟩
    cases EsNode.toValue_injective heq
    exact ⟨rfl, rfl⟩
  counts := fun hp => Progress.counts_of_eq hp.1
  start := by
    rintro k p _ type type' first stop hstarts ⟨rfl, hp⟩ hnumber -
    obtain rfl := hstarts.type_eq
    exact ⟨_, ⟨rfl, hp.next hnumber⟩, ownsAlike_finish_iff.mpr ⟨rfl, le_refl _, fun _ => rfl⟩⟩
  reopen := by
    rintro h n n' ⟨heq, hn⟩
    cases EsNode.toValue_injective heq
    exact ownsAlike_finish_iff.mpr ⟨rfl, EsNode.owns_iff.mp hn⟩
  prop := by
    rintro h k key v v' d d' - hroom hd ⟨rfl, hv⟩
    obtain ⟨rfl, hle, heq⟩ := ownsAlike_finish_iff.mp hd
    have hids := EsProps.idsOfFields_insert key v' d'.props
    refine ownsAlike_finish_iff.mpr ⟨rfl, ?_, fun hexact => ?_⟩
    · calc d'.id ::ₘ EsValue.idsOfFields (EsProps.insert key v' d'.props)
          ≤ d'.id ::ₘ (EsValue.idsOfFields d'.props + v'.ids) :=
            Multiset.cons_le_cons _ (hids ▸ Multiset.le_add_right _ _)
        _ = d'.id ::ₘ EsValue.idsOfFields d'.props + v'.ids := (Multiset.cons_add ..).symm
        _ ≤ h + k := add_le_add hle hv.le
    · rw [EsProps.displaced_eq_nil (hroom hexact), List.map_nil, Multiset.coe_nil, add_zero] at hids
      change d'.id ::ₘ EsValue.idsOfFields (EsProps.insert key v' d'.props) = h + k
      rw [hids, ← Multiset.cons_add, heq hexact, hv.eq hexact]
  startAt := by
    rintro h d d' pos - hd
    obtain ⟨rfl, howns⟩ := ownsAlike_finish_iff.mp hd
    exact ownsAlike_finish_iff.mpr ⟨rfl, howns⟩
  extendTo := by
    intro h d d' pos hd
    obtain ⟨rfl, howns⟩ := ownsAlike_finish_iff.mp hd
    exact ownsAlike_finish_iff.mpr ⟨rfl, howns⟩
  record := by
    rintro h k i p _ n n' hi ⟨rfl, hp⟩ ⟨heq, hn⟩
    cases EsNode.toValue_injective heq
    refine ⟨rfl, ?_⟩
    split
    · refine hp.register hi (hp.lt_issued (Multiset.mem_add.mpr (.inr ?_)))
      exact Multiset.mem_of_le (EsNode.owns_iff.mp hn).1 (Multiset.mem_cons_self _ _)
    · exact hp

/-! ### What is left in the end -/

/-- **A tree holds numbers that were issued**, and nothing else was recorded. -/
theorem accounts_of_ok (hvisits : ∀ {i j}, near i → s.arena.Visits i j → near j)
    (hplain : exact → ∀ {i n}, near i → s.arena.nodes[i]? = some n → s.arena.HasPlainName n)
    {r : NodeRef} (hr : ∀ i, r = some i → near i) {es : EsNode} {q : Progress}
    (h : Conversion.Ok (s.convert r) {} (some es) q) :
    ∃ held, q.Accounts near exact held ∧ es.toValue.Owns exact held := by
  have htandem :
      (s.ledger near exact hvisits hplain).Tandem 0 (s.convert r) (s.convert r) (opt _) :=
    (s.ledger near exact hvisits hplain).tandem_convert (fun _ => trivial) hr
  obtain ⟨held, x', q', -, ⟨rfl, hq⟩, hx⟩ := htandem.ok id ⟨rfl, .start⟩ h
  cases x' with
  | none => exact hx.elim
  | some es' => exact ⟨held, hq, hx.2⟩

/-- What a conversion of a node comes by lies below the node. -/
theorem accounts_of_ok_reaches {r : NodeRef} {es : EsNode} {q : Progress}
    (h : Conversion.Ok (s.convert r) {} (some es) q) :
    ∃ held, q.Accounts (s.arena.Reaches r) (s.arena.HasPlainNames r) held ∧
      es.toValue.Owns (s.arena.HasPlainNames r) held := by
  refine accounts_of_ok ?_ (fun hplain {i n} hi hn => hplain i n hi hn)
    (fun i hi => ⟨i, hi, .refl⟩) h
  intro i j hi hj
  exact hi.below hj.below.to_reflTransGen

/-- **The numbers of the nodes differ, and were issued**, and they fit into four bytes; if variables
and parameters have plain names, these are all the numbers that were. -/
theorem ids_of_ok {r : NodeRef} {es : EsNode} {q : Progress}
    (h : Conversion.Ok (s.convert r) {} (some es) q) :
    q.issued < 0x100000000 ∧
      (es.walk.map EsHead.id).Nodup ∧ (∀ id ∈ es.walk.map EsHead.id, id < q.issued) ∧
      (s.arena.HasPlainNames r → (es.walk.map EsHead.id).Perm (List.range q.issued)) := by
  obtain ⟨held, hq, hes⟩ := accounts_of_ok_reaches h
  have hle : (es.walk.map EsHead.id : Multiset Nat) ≤ Multiset.range q.issued := by
    rw [EsValue.coe_walk_ids]
    exact hes.le.trans hq.le
  refine ⟨hq.issued_lt, ?_, fun id hid => ?_, fun hplain => ?_⟩
  · exact Multiset.coe_nodup.mp (Multiset.nodup_of_le hle (Multiset.nodup_range _))
  · exact Multiset.mem_range.mp (Multiset.mem_of_le hle (Multiset.mem_coe.mpr hid))
  · refine Multiset.coe_eq_coe.mp ?_
    rw [EsValue.coe_walk_ids, hes.eq hplain, hq.eq hplain]
    rfl

end Source

/-- All six numbers are in the tree of `let a: any`, the one of the name that was reopened as
well. -/
theorem invertedLet_ids : ∃ es q,
    Conversion.Ok ((Source.ofText invertedLet.arena (some 6) "let a: any // x".toList .latest
      .full).convert (some 6)) {} (some es) q ∧
      q.issued = 6 ∧ (es.walk.map EsHead.id).Perm (List.range 6) := by
  generalize hs : Source.ofText invertedLet.arena (some 6) "let a: any // x".toList .latest .full = s
  have hok : ((s.convert (some 6)).run.run {}).1.toOption.any Option.isSome = true ∧
      ((s.convert (some 6)).run.run {}).2.issued = 6 := by
    rw [← hs]
    decide +kernel
  have hplain : s.arena.HasPlainNames (some 6) := by
    rw [← hs]
    exact Arena.hasPlainNames_of_forall (by decide) _
  rcases hrun : (s.convert (some 6)).run.run {} with ⟨_ | _ | es, q⟩
  · rw [hrun] at hok
    cases hok.1
  · rw [hrun] at hok
    cases hok.1
  · rw [hrun] at hok
    have hids := (Source.ids_of_ok hrun).2.2.2 hplain
    rw [hok.2] at hids
    exact ⟨es, q, hrun, hok.2, hids⟩

end ScriptTree
