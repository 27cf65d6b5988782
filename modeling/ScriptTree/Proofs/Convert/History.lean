import ScriptTree.Proofs.Ast.Renumber
import ScriptTree.Proofs.Convert.Pairs
import ScriptTree.Proofs.Convert.Tandem.Likeness

/-!
# What was converted before

A conversion neither looks at what is recorded nor at the number that comes next; it only records,
and counts on as long as there are numbers. So two conversions of one node run alike, wherever they
start (`ScriptTree.Source.shift`), and whatever was asked of the converter before makes no
difference but for the numbers (`ScriptTree.Source.convert_after`). Only where all numbers are given
out before the end does the conversion that has started with more of them gone come to a halt.
-/

namespace ScriptTree

open Conversion Holding

/-- **The same outcome**, up to a constant that is added to the numbers of all nodes: the same error,
the same absence, or the same tree. -/
inductive Alike : Except Halt (Option EsNode) → Except Halt (Option EsNode) → Prop
  | error (e : Halt) : Alike (.error e) (.error e)
  | absent : Alike (.ok none) (.ok none)
  | later (c : Nat) (n : EsNode) : Alike (.ok (some n)) (.ok (some (n.renumber c)))
  | earlier (c : Nat) (n : EsNode) : Alike (.ok (some (n.renumber c))) (.ok (some n))

theorem Alike.symm {x y : Except Halt (Option EsNode)} (h : Alike x y) : Alike y x := by
  cases h with
  | error e => exact .error e
  | absent => exact .absent
  | later c n => exact .earlier c n
  | earlier c n => exact .later c n

namespace Source

variable {s : Source}

/-! ### Runs that start elsewhere -/

/-- A record adds to what is recorded, if it is wanted. -/
theorem extends_record {m : NodeMaps} {p : Progress} (h : m.Extends p.maps) (o : ConvertOptions)
    (r : NodeRef) (id : Nat) : m.Extends (if o.provideCorrespondenceMaps then
      { p with maps := p.maps.register r id } else p).maps := by
  split
  · exact h.trans (p.maps.extends_register r id)
  · exact h

/-- **Two runs of a conversion, the second of which counts from further on.** Both add to what was
recorded before. -/
def shift (s : Source) (c : Nat) (maps maps' : NodeMaps) :
    Likeness s s.options fun _ => True where
  labels := { id := fun i => i + c }
  states := fun p p' => p'.issued = p.issued + c ∧ maps.Extends p.maps ∧ maps'.Extends p'.maps
  later := 0 < c
  type_eq := s.type_eq_of_starts
  counts := by
    rintro p p' ⟨hissued, -⟩
    rw [hissued]
    rcases Nat.eq_zero_or_pos c with rfl | hc
    · exact .inl (Nat.add_zero _)
    · exact .inr ⟨hc, Nat.le_add_right _ _⟩
  issue := by
    rintro p p' ⟨hissued, hmaps⟩
    refine ⟨hissued, ?_, hmaps⟩
    rw [Progress.issued_next, Progress.issued_next, hissued, Nat.add_right_comm]
  record := by
    rintro i p p' id - ⟨hissued, hmaps, hmaps'⟩
    refine ⟨?_, extends_record hmaps .., extends_record hmaps' ..⟩
    split <;> exact hissued

/-- The tie between such runs, the second of which may run out of numbers alone. -/
abbrev shiftTie (s : Source) (c : Nat) (maps maps' : NodeMaps) : Tie PUnit s s.options :=
  (s.shift c maps maps').tie (fun _ => True) { Halts.same s _ with late := 0 < c }
    (fun _ => trivial) (fun _ _ => trivial) id

/-- Two runs of a conversion of one node, the second of which counts from further on. -/
theorem ends_convert (r : NodeRef) {c : Nat} {p p' : Progress} (h : p'.issued = p.issued + c) :
    (s.shiftTie c p.maps p'.maps).Ends 0 (opt (s.shiftTie c p.maps p'.maps).nodes)
      ((s.convert r).run.run p) ((s.convert r).run.run p') := by
  have htandem : (s.shiftTie c p.maps p'.maps).Tandem 0 (s.convert r) (s.convert r) (opt _) :=
    (s.shiftTie c p.maps p'.maps).tandem_convert (fun _ => trivial) fun _ _ => trivial
  exact htandem ⟨h, .refl _, .refl _⟩

/-- A conversion that starts from a state comes to a halt because all numbers were given out. -/
def RunsOut (s : Source) (r : NodeRef) (p : Progress) : Prop :=
  ((s.convert r).run.run p).1 = .error .exhausted ∧ ¬ ((s.convert r).run.run p).2.HasNumber

/-- A conversion that counts from further on has the same outcome, unless it runs out of numbers. -/
theorem alike_of_issued_le (r : NodeRef) {p p' : Progress} (h : p.issued ≤ p'.issued) :
    Alike ((s.convert r).run.run p).1 ((s.convert r).run.run p').1 ∨
      p.issued < p'.issued ∧ s.RunsOut r p' := by
  obtain ⟨c, hc⟩ := Nat.exists_eq_add_of_le h
  have hends := s.ends_convert r hc
  rw [RunsOut]
  generalize (s.convert r).run.run p = x, (s.convert r).run.run p' = x' at hends ⊢
  cases hends with
  | error => exact .inl (.error _)
  | stopped he => exact he.elim
  | late hlate hnumber =>
    have hlate : 0 < c := hlate
    exact .inr ⟨by omega, rfl, hnumber⟩
  | @ok _ x _ _ _ _ hx =>
    obtain ⟨rfl, -⟩ := Likeness.eq_of_opt_nodes hx
    refine .inl ?_
    cases x with
    | none => exact .absent
    | some n =>
      rw [Option.map_some]
      exact EsNode.renumber_eq_relabel c n ▸ .later c n

/-- What can be asked of a converter. -/
inductive Request
  /-- A node is to be converted. -/
  | convert (r : NodeRef)
  /-- It is to be decided what an array or an object in brackets stands for. -/
  | classify (r : NodeRef)

/-- What a converter answers. -/
inductive Answer
  | converted (x : Option EsNode)
  | classified (role : LiteralRole)

/-- How a converter answers a request. To classify a node it only reads the arena. -/
def answer (s : Source) : Request → Conversion Answer
  | .convert r => .converted <$> s.convert r
  | .classify r => .classified <$> .await (s.arena.literalRole r)

/-- What a converter keeps after a request, whether it has an answer or comes to a halt. -/
def serve (s : Source) (p : Progress) (request : Request) : Progress :=
  ((s.answer request).run.run p).2

/-- What a new converter keeps after a sequence of requests, if it adds to given records. -/
def after (s : Source) (maps : NodeMaps) (requests : List Request) : Progress :=
  requests.foldl s.serve { maps := maps }

end Source

end ScriptTree
