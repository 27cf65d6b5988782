import ScriptTree.Proofs.Convert.Correspondence
import ScriptTree.Proofs.Convert.History
import ScriptTree.Proofs.Convert.Sharing

/-!
# What a run leaves behind that has failed

A run that fails before it converts anything leaves an empty correspondence, and so does every run
that was not asked for one. But a run that fails on the way keeps what it has recorded by then, for
nodes of a tree that nobody gets to see. What remains is decided statement by statement
(`ScriptTree.Document.remains_of_failed`): the statements up to the one that fails are converted one
after the other, and nothing remains exactly if none of them records anything when it is converted
by itself.

Three things are to be known for this.

| what | theorem |
|---|---|
| whether a node records anything does not depend on what was converted before | `ScriptTree.Source.remains_convert` |
| a converter that goes down further makes no difference, unless there is no end | `ScriptTree.Source.run_of_le` |
| the parts of a file are gone through only where the root is of that kind | `ScriptTree.Converter.haltsClean_visit` |
-/

namespace ScriptTree

open Conversion Holding

/-! ### Runs without a result -/

namespace Conversion

variable {α β : Type} {p q : Progress} {e : Halt}

/-- A run that starts in one state comes to a halt in another. -/
def Stops (m : Conversion α) (p : Progress) (e : Halt) (q : Progress) : Prop :=
  m.run.run p = (.error e, q)

theorem not_stops_pure (x : α) : ¬ Stops (pure x) p e q := nofun

theorem stops_throw {e' : Halt} : Stops (throw e' : Conversion α) p e q ↔ e' = e ∧ p = q := by
  change ((Except.error e', p) : Except Halt α × Progress) = (.error e, q) ↔ _
  rw [Prod.mk.injEq, Except.error.injEq]

/-- Of two conversions, one after the other, one comes to a halt. -/
theorem stops_bind {m : Conversion α} {f : α → Conversion β} :
    Stops (m >>= f) p e q ↔ Stops m p e q ∨ ∃ x r, Ok m p x r ∧ Stops (f x) r e q := by
  rw [Stops, run_bind, Stops]
  constructor
  · intro h
    split at h
    · next x r hm => exact .inr ⟨x, r, hm, h⟩
    · next hm =>
      cases h
      exact .inl hm
  · rintro (hm | ⟨x, r, hm, hf⟩)
    · rw [hm]
    · rw [show m.run.run p = (.ok x, r) from hm]
      exact hf

theorem stops_map {m : Conversion α} {f : α → β} : Stops (f <$> m) p e q ↔ Stops m p e q := by
  rw [map_eq_pure_bind, stops_bind]
  exact or_iff_left fun ⟨_, _, _, h⟩ => not_stops_pure _ h

/-- A node is not started only if there is no number left. -/
theorem eq_exhausted_of_stops_start {type : EsType} {first stop : Nat}
    (h : Stops (start type first stop) p e q) : e = .exhausted ∧ q = p := by
  rw [Stops, run_start] at h
  split at h
  · cases h
  · cases h
    exact ⟨rfl, rfl⟩

/-- So it is not built only then. -/
theorem eq_exhausted_of_stops_build {s : Source} {type : AstType} {first stop : Nat}
    {fields : List (String × Option EsValue)} (h : Stops (s.buildAt type first stop fields) p e q) :
    e = .exhausted ∧ q = p :=
  (stops_bind.mp h).elim eq_exhausted_of_stops_start fun ⟨_, _, _, hfinish⟩ =>
    (not_stops_pure _ hfinish).elim

theorem stops_await {found : Option α} (h : Stops (await found) p e q) : e = .endless ∧ q = p := by
  cases found with
  | none =>
    obtain ⟨rfl, rfl⟩ := stops_throw.mp h
    exact ⟨rfl, rfl⟩
  | some x => exact (not_stops_pure x h).elim

end Conversion

/-! ### One node -/

namespace NodeMaps

/-- Something is recorded after a record, be it this one or one that was in its way. -/
theorem register_ne_empty (maps : NodeMaps) (concrete : NodeRef) (normalized : Nat) :
    maps.register concrete normalized ≠ .empty := by
  intro hempty
  rcases register_cases maps concrete normalized with h | ⟨-, -, h⟩
  · rw [hempty] at h
    subst h
    cases hempty
  · rw [h] at hempty
    cases hempty

end NodeMaps

namespace Source

variable {s : Source}

/-- **A run of a conversion, and a run that starts elsewhere.** The first one has recorded something as
soon as the second one has recorded something of its own, and that is for nodes that the conversion
is at. -/
def solitude (s : Source) (here : NodeId → Prop) (start : Progress) :
    Likeness s s.options here where
  labels := { id := fun i => i + start.issued }
  states := fun p q => q.issued = p.issued + start.issued ∧
    (q.maps = .empty ↔ start.maps = .empty ∧ p.maps = .empty) ∧
    ∀ x ∈ q.maps.pairs, x ∈ start.maps.pairs ∨ ∃ i, x.1 = some i ∧ here i
  later := 0 < start.issued
  type_eq := Starts.type_eq
  counts := by
    rintro p q ⟨hissued, -⟩
    rw [hissued]
    rcases Nat.eq_zero_or_pos start.issued with hzero | hpos
    · exact .inl (by rw [hzero, Nat.add_zero])
    · exact .inr ⟨hpos, Nat.le_add_right _ _⟩
  issue := by
    rintro p q ⟨hissued, hmaps⟩
    refine ⟨hissued, ?_, hmaps⟩
    rw [Progress.issued_next, Progress.issued_next, hissued, Nat.add_right_comm]
  record := by
    rintro i p q id hi ⟨hissued, hmaps, hpairs⟩
    split
    · refine ⟨hissued, ⟨fun h => ?_, fun h => ?_⟩, fun x hx => ?_⟩
      · exact (NodeMaps.register_ne_empty _ _ _ h).elim
      · exact (NodeMaps.register_ne_empty _ _ _ h.2).elim
      · rcases NodeMaps.mem_register hx with rfl | hx
        · exact .inr ⟨i, rfl, hi⟩
        · exact hpairs x hx
    · exact ⟨hissued, hmaps, hpairs⟩

/-- The tie between a run from the beginning and one from a state, which may run out of numbers
alone. -/
abbrev solitudeTie (s : Source) (r : NodeRef) (p : Progress) : Tie PUnit s s.options :=
  (s.solitude (s.arena.Reaches r) p).tie (s.arena.Reaches r)
    { Halts.same s _ with late := 0 < p.issued } id Arena.Reaches.isChild id

/-- **What remains of a conversion of one node** that did not run out of numbers. Nothing does if there
was nothing before, and if the conversion records nothing by itself; what it adds is for nodes
below. -/
theorem remains_convert (r : NodeRef) {p : Progress}
    (hnumbers : ((s.convert r).run.run p).1 ≠ .error .exhausted) :
    (((s.convert r).run.run p).2.maps = .empty ↔
      p.maps = .empty ∧ ((s.convert r).run.run {}).2.maps = .empty) ∧
    ∀ x ∈ ((s.convert r).run.run p).2.maps.pairs,
      x ∈ p.maps.pairs ∨ ∃ i, x.1 = some i ∧ s.arena.Reaches r i := by
  have htandem : (s.solitudeTie r p).Tandem 0 (s.convert r) (s.convert r) (opt _) :=
    (s.solitudeTie r p).tandem_convert (fun _ => trivial) fun i hi => ⟨i, hi, .refl⟩
  have hstates : (s.solitudeTie r p).states 0 {} p :=
    ⟨(Nat.zero_add _).symm, ⟨fun h => ⟨h, rfl⟩, And.left⟩, fun x hx => .inl hx⟩
  have hends := htandem.ends hstates
  generalize (s.convert r).run.run {} = run, (s.convert r).run.run p = run' at hends hnumbers ⊢
  cases hends with
  | ok hq => exact hq.2
  | error _ hq => exact hq.2
  | stopped he => exact he.elim
  | late => exact absurd rfl hnumbers

end Source

namespace Source

variable {s : Source}

/-- Something remains of a node that has become one of the other tree, if it is asked for. -/
theorem maps_ne_empty_of_ok (hasked : s.options.provideCorrespondenceMaps = true) {r : NodeRef}
    {p q : Progress} {es : EsNode} (h : Ok (s.convert r) p (some es) q) : q.maps ≠ .empty := by
  cases r with
  | none => cases h
  | some i =>
    obtain ⟨-, -, q', -, -, -, hregister⟩ := exists_ok_visit h
    rw [ok_register, if_pos hasked] at hregister
    rw [hregister]
    exact NodeMaps.register_ne_empty _ _ _

end Source

/-! ### Going down further -/

namespace Tie

variable {M : Type} [AddCommMonoid M] {s : Source} {o : ConvertOptions}

/-- **A converter is in tandem with one that goes down further**, until it finds that there is no
end. -/
theorem descents_ways_of_le (T : Tie M s o) (hendless : T.breaks.first .endless) {depth depth' : Nat}
    (h : depth ≤ depth') : T.Descents (s.ways depth) ((s.withOptions o).ways depth') := by
  induction depth generalizing depth' with
  | zero =>
    have hstop {α : Type} {post : Holding M α} (m : Conversion α) :
        T.Tandem 0 (throw .endless) m post := fun _ _ _ _ => .stopped hendless
    exact ⟨fun _ => hstop _, fun _ => hstop _, fun _ => hstop _, fun _ => Conversion.Yields.throw⟩
  | succ depth ih =>
    obtain ⟨depth', rfl⟩ := Nat.exists_eq_add_one.mpr (Nat.zero_lt_of_lt h)
    have hw := ih (Nat.le_of_succ_le_succ h)
    exact ⟨fun hr => (hw.enter hr.enters).1, fun hr => (hw.enter hr.enters).2.1,
      fun hr => (hw.enter hr.enters).2.2, T.yields_onwards (s.ways depth)⟩

end Tie

namespace Source

variable {s : Source}

/-- Of two conversions the first may stop alone if it finds that there is no end, and only then. -/
theorem exists_impatient (s : Source) : ∃ halts : Halts s s.options fun _ => True,
    (∀ e, halts.first e ↔ e = .endless) ∧ ¬ halts.late :=
  ⟨{ Halts.same s _ with
    first := fun e => e = .endless
    unknown := fun _ hstrict => (if_pos hstrict).symm ▸ fun _ => trivial }, fun _ => Iff.rfl, id⟩

/-- **Going down further makes no difference**, unless it was found that there is no end. -/
theorem run_of_le {depth depth' : Nat} (h : depth ≤ depth') (r : NodeRef) (p : Progress)
    (hend : (((s.converter depth).convert r).run.run p).1 ≠ .error .endless) :
    ((s.converter depth').convert r).run.run p = ((s.converter depth).convert r).run.run p := by
  obtain ⟨halts, hfirst, hlate⟩ := s.exists_impatient
  -- The shallower run stops where it finds no end, and up to there the two go in tandem.
  let T := (s.sameness fun _ => True).tie (fun _ => True) halts
    (fun _ => trivial) (fun _ _ => trivial) False.elim
  have htandem : T.Tandem 0 ((s.converter depth).convert r) ((s.converter depth').convert r)
      (opt T.nodes) := by
    rw [converter_eq, converter_eq]
    exact (T.descents_ways_of_le ((hfirst _).mpr rfl) h).convert fun _ _ => trivial
  have hstates : T.states 0 p p := rfl
  have hends := htandem.ends hstates
  generalize ((s.converter depth).convert r).run.run p = run,
    ((s.converter depth').convert r).run.run p = run' at hends hend ⊢
  cases hends with
  | ok hq hx =>
    obtain rfl := hq
    rw [sameness.opt_nodes_iff.mp hx]
  | error _ hq =>
    obtain rfl := hq
    rfl
  | stopped he =>
    obtain rfl := (hfirst _).mp he
    exact absurd rfl hend
  | late hlater => exact absurd hlater hlate

end Source

/-! ### Statements -/

namespace Source

variable {s : Source}

/-- The statements that are converted one after the other: all of them, or those up to the first one
that cannot be converted. -/
def tried (s : Source) : List NodeRef → List NodeRef
  | [] => []
  | r :: rs => match ((s.convert r).run.run {}).1 with
    | .ok _ => r :: s.tried rs
    | .error _ => [r]

/-- **What remains of the statements of a file** when one of them has failed: nothing if there was
nothing before, and if none of those that were tried records anything by itself. The induction is on
the statements, for whatever was converted before. -/
theorem remains_statements (rs : List NodeRef) {p q : Progress} {e : ConvertError}
    (h : Stops (rs.filterMapM (s.converter (s.arena.nodes.size + 1)).convert) p (.failed e) q) :
    (q.maps = .empty ↔
      p.maps = .empty ∧ ∀ r ∈ s.tried rs, ((s.convert r).run.run {}).2.maps = .empty) ∧
    ∀ x ∈ q.maps.pairs, x ∈ p.maps.pairs ∨
      ∃ r ∈ s.tried rs, ∃ i, x.1 = some i ∧ s.arena.Reaches r i := by
  induction rs generalizing p with
  | nil => cases h
  | cons r rs ih =>
    -- Whether a statement fails does not depend on what was converted before it.
    have halike (hnumbers : ((s.convert r).run.run p).1 ≠ .error .exhausted) :
        Alike ((s.convert r).run.run {}).1 ((s.convert r).run.run p).1 :=
      (s.alike_of_issued_le r (Nat.zero_le _)).resolve_right fun hout => hnumbers hout.2.1
    generalize halone : ((s.convert r).run.run {}).1 = alone at halike
    rw [List.filterMapM_cons, stops_bind] at h
    rcases h with hfirst | ⟨x, p', hfirst, h⟩
    · -- The first statement is the one that fails.
      have hhere : (s.convert r).run.run p = (.error (.failed e), q) := by
        rw [← hfirst]
        exact run_of_le (Nat.le_succ _) r p (by rw [hfirst]; nofun)
      have hnumbers : ((s.convert r).run.run p).1 ≠ .error .exhausted := by
        rw [hhere]
        nofun
      obtain ⟨hempty, hpairs⟩ := s.remains_convert r hnumbers
      replace halike := halike hnumbers
      rw [hhere] at hempty hpairs halike
      have htried : s.tried (r :: rs) = [r] := by
        rw [tried, halone]
        cases halike
        rfl
      rw [htried, List.forall_mem_singleton]
      refine ⟨hempty, fun x hx => (hpairs x hx).imp_right fun hx => ?_⟩
      exact ⟨r, List.mem_singleton_self r, hx⟩
    · -- The first statement is converted, and one of the others fails.
      have hhere : (s.convert r).run.run p = (.ok x, p') := by
        have hok : ((s.converter (s.arena.nodes.size + 1)).convert r).run.run p = (.ok x, p') :=
          hfirst
        rw [← hok]
        exact run_of_le (Nat.le_succ _) r p (by rw [hok]; nofun)
      have hnumbers : ((s.convert r).run.run p).1 ≠ .error .exhausted := by
        rw [hhere]
        nofun
      obtain ⟨hempty, hpairs⟩ := s.remains_convert r hnumbers
      replace halike := halike hnumbers
      rw [hhere] at hempty hpairs halike
      have htried : s.tried (r :: rs) = r :: s.tried rs := by
        rw [tried, halone]
        cases halike <;> rfl
      have hrest : Stops (rs.filterMapM (s.converter (s.arena.nodes.size + 1)).convert) p'
          (.failed e) q := by
        cases x with
        | none => exact h
        | some es =>
          exact (stops_bind.mp h).resolve_right fun ⟨_, _, _, h⟩ => not_stops_pure _ h
      obtain ⟨hempty', hpairs'⟩ := ih hrest
      rw [htried, List.forall_mem_cons, hempty', hempty, and_assoc]
      refine ⟨Iff.rfl, fun x hx => ?_⟩
      rcases hpairs' x hx with hx | ⟨r', hr', hx⟩
      · exact (hpairs x hx).imp_right fun hx => ⟨r, List.mem_cons_self, hx⟩
      · exact .inr ⟨r', List.mem_cons_of_mem r hr', hx⟩

end Source

/-! ### The root -/

namespace Conversion

variable {α β : Type}

/-- A conversion that comes to a halt has recorded nothing by then. -/
def HaltsClean (m : Conversion α) : Prop :=
  ∀ ⦃p e q⦄, Stops m p e q → q.maps = p.maps

theorem haltsClean_pure (x : α) : HaltsClean (pure x : Conversion α) :=
  fun _ _ _ h => (not_stops_pure x h).elim

theorem haltsClean_throw (e : Halt) : HaltsClean (throw e : Conversion α) := by
  intro p e' q h
  obtain ⟨-, rfl⟩ := stops_throw.mp h
  rfl

theorem haltsClean_build (s : Source) (type : AstType) (n : Node)
    (fields : List (String × Option EsValue)) : HaltsClean (s.build type n fields) :=
  fun _ _ _ h => by rw [(eq_exhausted_of_stops_build h).2]

theorem haltsClean_parts (s : Source) (pool : Pool) (i : NodeId) (n : Node) :
    HaltsClean (s.parts pool i n) := by
  rw [Source.parts]
  split
  · exact haltsClean_pure _
  · exact haltsClean_throw _

/-- What comes after a conversion without results is not done. -/
theorem HaltsClean.bind {m : Conversion α} (h : HaltsClean m) (hfails : Fails m)
    (f : α → Conversion β) : HaltsClean (m >>= f) :=
  fun _ _ _ hrun => h ((stops_bind.mp hrun).resolve_right fun ⟨_, _, hm, _⟩ => hfails hm)

theorem HaltsClean.map {m : Conversion α} (h : HaltsClean m) (f : α → β) :
    HaltsClean (f <$> m) :=
  fun _ _ _ hrun => h (stops_map.mp hrun)

end Conversion

namespace Converter

variable (c : Converter) (i : NodeId) (n : Node)

theorem haltsClean_synthesize (hpool : n.pool = some .sourceFile) :
    HaltsClean (c.synthesize i n) := by
  rw [synthesize]
  split
  · exact haltsClean_throw _
  · intro p e q h
    rcases stops_bind.mp h with h | ⟨draft, r, hstart, h⟩
    · rw [(eq_exhausted_of_stops_start h).2]
    · obtain ⟨-, -, rfl⟩ := ok_startOver.mp hstart
      cases hentry : n.kind.tableEntry? with
      | none =>
        rw [hentry] at h
        exact (not_stops_pure _ h).elim
      | some entry =>
        rw [hentry] at h
        have hpool' := (n.kind.rote_agrees.2 entry hentry).2
        have hclean := (haltsClean_parts ..).bind (c.fails_parts_of_sourceFile i n hpool hpool') _ h
        exact hclean

theorem haltsClean_textual (hkind : n.kind ∈ textual) {rule : Conversion (Option EsNode)}
    (hrule : c.ownRule? i n = some rule) : HaltsClean rule := by
  simp only [textual, List.mem_cons, List.not_mem_nil, or_false] at hkind
  rw [ownRule?] at hrule
  rcases hkind with hk | hk | hk | hk | hk | hk | hk | hk <;> rw [hk] at hrule <;> cases hrule
  case inr.inr.inl =>
    refine HaltsClean.map ?_ _
    rw [Source.regexLiteral]
    split
    · exact haltsClean_build ..
    · exact haltsClean_throw _
  case inr.inr.inr.inr.inr.inl =>
    refine HaltsClean.map ?_ _
    rw [Source.nullLiteral]
    split <;> exact haltsClean_build ..
  all_goals exact (haltsClean_build ..).map _

/-- **The parts of a file are gone through only if the node is of that kind.** A rule for another
kind that comes to a halt has not gone down. -/
theorem haltsClean_visit (hpool : n.pool = some .sourceFile) (hkind : n.kind ≠ .sourceFile) :
    HaltsClean (c.visit i n) := by
  have hfails {p : Pool} (hp : p ≠ .sourceFile) : Fails (c.parts p i n) :=
    c.fails_parts_of_sourceFile i n hpool hp
  have hparts {β : Type} {p : Pool} (hp : p ≠ .sourceFile) (f : Data p → Conversion β) :
      HaltsClean (c.parts p i n >>= f) :=
    (haltsClean_parts ..).bind (hfails hp) f
  rw [visit]
  split
  · exact haltsClean_pure _
  split
  · exact (haltsClean_build ..).map _
  split
  · next r hr =>
    exact (hparts (n.kind.rote_agrees.1 r hr).2 _).map _
  split
  · next rule hrule =>
    by_cases htext : n.kind ∈ textual
    · exact c.haltsClean_textual i n htext hrule
    obtain ⟨p, hp, f, rfl⟩ := c.exists_parts_of_ownRule i n hkind htext hrule
    exact hparts hp f
  · exact (c.haltsClean_synthesize i n hpool).map _

end Converter

namespace Source

variable {s : Source} {i : NodeId} {n : Node} {file : Data .sourceFile}

/-- **What remains of a file that cannot be converted**: what remains of its statements. -/
theorem remains_program (hfile : s.arena.data? .sourceFile n = some file) {e : ConvertError}
    {q : Progress}
    (h : Stops ((s.along (s.ways (s.arena.nodes.size + 1))).program i n) {} (.failed e) q) :
    (q.maps = .empty ↔
      ∀ r ∈ s.tried (file.get .statements).nodes, ((s.convert r).run.run {}).2.maps = .empty) ∧
    ∀ x ∈ q.maps.pairs, ∃ r ∈ s.tried (file.get .statements).nodes, ∃ i, x.1 = some i ∧
      s.arena.Reaches r i := by
  have hstatements : Stops ((file.get .statements).nodes.filterMapM
      (s.converter (s.arena.nodes.size + 1)).convert) {} (.failed e) q := by
    -- Reading the file, taking its tokens and building its node do not fail with a name.
    rw [Converter.program] at h
    rcases stops_bind.mp h with h | ⟨d, r, hparts, h⟩
    · rw [toSource_along, parts, hfile] at h
      exact (not_stops_pure _ h).elim
    obtain ⟨hd, rfl⟩ := ok_parts.mp hparts
    rw [toSource_along, hfile] at hd
    cases hd
    rcases stops_bind.mp h with h | ⟨index, r, htokens, h⟩
    · cases (stops_await h).1
    obtain ⟨-, rfl⟩ := ok_tokens.mp htokens
    rcases stops_bind.mp h with h | ⟨body, r, -, h⟩
    · rw [converter_eq]
      exact stops_map.mp h
    · cases (eq_exhausted_of_stops_build h).1
  obtain ⟨hempty, hpairs⟩ := remains_statements _ hstatements
  refine ⟨hempty.trans (and_iff_right rfl), fun x hx => ?_⟩
  exact (hpairs x hx).resolve_left List.not_mem_nil

/-- A conversion of a node is one by its rule, and then a record if there is something to record. -/
theorem convert_eq_visit (hn : s.arena.nodes[i]? = some n) : s.convert (some i) = (do
    let result ← (s.along (s.ways (s.arena.nodes.size + 1))).visit i n
    if let some es := result then s.register (some i) es
    pure result) := by
  rw [convert, converter_eq]
  change (s.along (s.ways (s.arena.nodes.size + 1))).visitAt (some i) = _
  have hnode : (s.along (s.ways (s.arena.nodes.size + 1))).node? (some i) = some n := hn
  rw [Converter.visitAt, hnode]
  rfl

/-- Nothing comes of a node, or its conversion comes to a halt, because of its rule. -/
theorem visit_of_no_result (hn : s.arena.nodes[i]? = some n) {p q : Progress} :
    (Ok (s.convert (some i)) p none q →
      Ok ((s.along (s.ways (s.arena.nodes.size + 1))).visit i n) p none q) ∧
    ∀ e, Stops (s.convert (some i)) p e q →
      Stops ((s.along (s.ways (s.arena.nodes.size + 1))).visit i n) p e q := by
  rw [convert_eq_visit hn]
  generalize (s.along (s.ways (s.arena.nodes.size + 1))).visit i n = rule
  constructor
  · intro h
    obtain ⟨x, r, hrule, h⟩ := ok_bind.mp h
    cases x with
    | none =>
      obtain ⟨-, rfl⟩ := ok_pure.mp h
      exact hrule
    | some es =>
      obtain ⟨_, _, -, h⟩ := ok_bind.mp h
      cases (ok_pure.mp h).1
  · intro e h
    -- Recording what the rule has made does not fail.
    refine (stops_bind.mp h).resolve_right ?_
    rintro ⟨_ | es, r, -, h⟩
    · exact not_stops_pure _ h
    · rcases stops_bind.mp h with h | ⟨_, _, -, h⟩
      · rw [register] at h
        split at h
        · cases h
        · exact not_stops_pure _ h
      · exact not_stops_pure _ h

/-- The statements of a file that is the root; none if the root is of another kind. -/
def rootStatements (s : Source) (file : Data .sourceFile) : List NodeRef :=
  if s.hasKind s.root .sourceFile then (file.get .statements).nodes else []

/-- **What remains of a run over a file that fails**: what remains of the statements of the root. -/
theorem remains_root (hfile : s.arena.sourceFile? s.root = some file)
    {x : Except Halt (Option EsNode)} {q : Progress} (hrun : (s.convert s.root).run.run {} = (x, q))
    {e : ConvertError} (h : s.outcome x = .error (.failed e)) :
    (q.maps = .empty ↔
      ∀ r ∈ s.tried (s.rootStatements file), ((s.convert r).run.run {}).2.maps = .empty) ∧
    ∀ x ∈ q.maps.pairs, ∃ r ∈ s.tried (s.rootStatements file), ∃ i, x.1 = some i ∧
      s.arena.Reaches r i := by
  obtain ⟨n, hroot, hd⟩ := Option.bind_eq_some_iff.mp hfile
  obtain ⟨i, hi, hn⟩ := Option.bind_eq_some_iff.mp hroot
  have hkinds : s.hasKind s.root .sourceFile = true ↔ n.kind = .sourceFile := by
    rw [hasKind, Arena.kind?, hroot]
    simp
  rw [rootStatements]
  rw [hi] at hrun
  obtain ⟨hnone, hstops⟩ := visit_of_no_result hn
  -- The rule of the root comes to nothing, or to this error; otherwise there is a result.
  have hvisit : Ok ((s.along (s.ways (s.arena.nodes.size + 1))).visit i n) {} none q ∨
      Stops ((s.along (s.ways (s.arena.nodes.size + 1))).visit i n) {} (.failed e) q := by
    rcases x with e' | _ | es
    · cases h
      exact .inr (hstops _ hrun)
    · exact .inl (hnone hrun)
    · rw [outcome, emitted] at h
      split at h <;> cases h
  by_cases hkind : n.kind = .sourceFile
  · rw [if_pos (hkinds.mpr hkind)]
    rw [Converter.visit_eq_program _ hkind] at hvisit
    rcases hvisit with hok | hstop
    · obtain ⟨es, -, hes⟩ := ok_map.mp hok
      cases hes
    · exact remains_program hd (stops_map.mp hstop)
  · rw [if_neg fun h => hkind (hkinds.mp h)]
    have hpool := Arena.pool_of_data? hd
    have hempty : q.maps = .empty := by
      rcases hvisit with hok | hstop
      · exact Converter.keepsMaps_visit _ i n hpool hkind hok
      · exact Converter.haltsClean_visit _ i n hpool hkind hstop
    rw [hempty]
    refine ⟨iff_of_true rfl fun r hr => ?_, fun x hx => ?_⟩
    · exact absurd hr List.not_mem_nil
    · exact absurd hx List.not_mem_nil

end Source

/-! ### Documents -/

namespace Document

/-- **What remains of a run that has failed.** If it was not asked for a correspondence, or has not
got as far as the file, nothing remains. Otherwise nothing remains exactly if none of the statements
that were tried records anything by itself; so something does if one of them has become a node. What
remains is for nodes below these statements, whatever was recorded before the run. -/
theorem remains_of_failed {doc : Document} {o : ConvertOptions} {maps : NodeMaps} {e : ConvertError}
    (h : (doc.convertOver o maps).1 = .error (.failed e)) :
    ((o.provideCorrespondenceMaps = false ∨ ∃ e', doc.file = .error e') →
      (doc.convertOver o maps).2 = .empty) ∧
    ∀ file, doc.file = .ok file →
      let s := doc.source file o
      let tried := s.tried (s.rootStatements file)
      ((doc.convertOver o maps).2 = .empty ↔
        ∀ r ∈ tried, ((s.convert r).run.run {}).2.maps = .empty) ∧
      (o.provideCorrespondenceMaps = true → ∀ r ∈ tried, ∀ es,
        ((s.convert r).run.run {}).1 = .ok (some es) → (doc.convertOver o maps).2 ≠ .empty) ∧
      ∀ x ∈ (doc.convertOver o maps).2.pairs, ∃ r ∈ tried, ∃ i, x.1 = some i ∧
        doc.arena.Reaches r i := by
  rw [convertOver_eq_convert] at h ⊢
  refine ⟨?_, fun file hfile => ?_⟩
  · rintro (hasked | ⟨e', hfile⟩)
    · exact doc.maps_of_not_asked hasked
    · exact maps_of_file_eq_error hfile o
  · intro s tried
    rw [convert_eq, hfile] at h ⊢
    obtain ⟨hempty, hpairs⟩ := Source.remains_root (s := s) (sourceFile?_of_file hfile) rfl h
    refine ⟨hempty, fun hasked r hr es hes hnone => ?_, hpairs⟩
    have hok : Ok (s.convert r) {} (some es) ((s.convert r).run.run {}).2 := Prod.ext hes rfl
    exact Source.maps_ne_empty_of_ok hasked hok (hempty.mp hnone r hr)

/-- The document of `a;b`, whose second statement has no parts. -/
def brokenStatement : Document where
  arena := {
    nodes := #[
      { kind := .identifier, pos := 0, stop := 1, pool := some .identifier, dataIndex := 0 },
      { kind := .expressionStatement, pos := 0, stop := 2, pool := some .exprStatement
        dataIndex := 0 },
      { kind := .expressionStatement, pos := 2, stop := 3, pool := none, dataIndex := 0 },
      { kind := .sourceFile, pos := 0, stop := 3, pool := some .sourceFile, dataIndex := 0 }]
    parents := #[some 1, some 3, some 3, none]
    pools := fun
      | .identifier => #[⟨"a", ()⟩]
      | .exprStatement => #[⟨some 0, ()⟩]
      | .sourceFile =>
        #[⟨⟨[some 1, some 2], 0, 3, false⟩, none, "input.ts", "a;b", .latest, false, [], ()⟩]
      | _ => #[] }
  root := some 3

/-- The run fails because of the second statement, whatever it is asked for. -/
theorem brokenStatement_fails (asked : Bool) (maps : NodeMaps) :
    (brokenStatement.convertOver { provideCorrespondenceMaps := asked } maps).1 =
      .error (.failed (.missingData .expressionStatement (some 2))) := by
  rw [convertOver_eq_convert]
  have hfails : (fun _ => ()) <$> (brokenStatement.convert { provideCorrespondenceMaps := asked }).1 =
      .error (.failed (.missingData .expressionStatement (some 2))) := by
    cases asked <;> decide +kernel
  rcases hrun : (brokenStatement.convert { provideCorrespondenceMaps := asked }).1 with e | program
  · rw [hrun] at hfails
    cases hfails
    rfl
  · rw [hrun] at hfails
    cases hfails

/-- The first statement and its name are still recorded, although there is no program; they would
not be if nobody had asked. What had been recorded for the root is gone. -/
theorem brokenStatement_remains :
    (brokenStatement.convertOver { provideCorrespondenceMaps := true }
        ⟨[(some 3, 9)], [(9, some 3)], rfl⟩).1 =
        .error (.failed (.missingData .expressionStatement (some 2))) ∧
      (brokenStatement.convertOver { provideCorrespondenceMaps := true }
        ⟨[(some 3, 9)], [(9, some 3)], rfl⟩).2 =
        ⟨[(some 1, 1), (some 0, 0)], [(1, some 1), (0, some 0)], rfl⟩ ∧
      (brokenStatement.convertOver { provideCorrespondenceMaps := true }
        ⟨[(some 3, 9)], [(9, some 3)], rfl⟩).2 ≠ .empty ∧
      (brokenStatement.convertOver {} ⟨[(some 3, 9)], [(9, some 3)], rfl⟩).2 = .empty := by
  have hfails := brokenStatement_fails true ⟨[(some 3, 9)], [(9, some 3)], rfl⟩
  obtain ⟨-, hremains⟩ := remains_of_failed hfails
  -- The first statement is tried, and becomes a node.
  have hfirst : ∀ file, brokenStatement.file = .ok file →
      let s := brokenStatement.source file { provideCorrespondenceMaps := true }
      some 1 ∈ s.tried (s.rootStatements file) ∧
        ((s.convert (some 1)).run.run {}).1.toOption.any Option.isSome = true := by
    rintro _ ⟨⟩
    decide
  obtain ⟨file, hfile⟩ : ∃ file, brokenStatement.file = .ok file := ⟨_, rfl⟩
  obtain ⟨htried, hok⟩ := hfirst file hfile
  obtain ⟨-, hnode, -⟩ := hremains file hfile
  refine ⟨hfails, ?_, ?_, (remains_of_failed (brokenStatement_fails false _)).1 (.inl rfl)⟩
  · rw [convertOver_eq_convert]
    decide +kernel
  · generalize brokenStatement.source file { provideCorrespondenceMaps := true } = s at htried hok hnode
    rcases halone : ((s.convert (some 1)).run.run {}).1 with e | _ | es
    · rw [halone] at hok
      cases hok
    · rw [halone] at hok
      cases hok
    · exact hnode rfl (some 1) htried es halone

end Document

end ScriptTree
