import ScriptTree.Proofs.Arena.Distinct
import ScriptTree.Proofs.Json.RoundTrip

/-!
# Documents, read back

Documents keep the places of nodes, offsets and flags in words of two and four bytes. An arena whose
numbers fit there (`ScriptTree.Arena.Fits`) is read back as it was written, except for the parents of
its nodes, which are not written and are found again from the children
(`ScriptTree.Document.ofText?_text`).

Every part of a document is read back from what is written of it on its own. A record gives up the
values of its fields one by one, since no two of them share a name, and a pool without rows is left
out and read as a table that is missing.
-/

namespace ScriptTree

/-! ### Numbers that fit -/

/-- A reference is none of the places that stand for an absent node or for none at all. -/
def NodeRef.Fits (r : NodeRef) : Prop := ∀ i ∈ r, i < NodeRef.absent

/-- The numbers of a list fit into words of four bytes. -/
structure NodeList.Fits (l : NodeList) : Prop where
  nodes : ∀ r ∈ l.nodes, NodeRef.Fits r
  pos : l.pos < 0x100000000
  stop : l.stop < 0x100000000

/-- The numbers of a message fit into words of four bytes. -/
structure Diagnostic.Fits (d : Diagnostic) : Prop where
  code : d.code < 0x100000000
  start : d.start < 0x100000000
  length : d.length < 0x100000000

/-- The numbers of a value of a sort fit. -/
def FieldSort.Fits : (s : FieldSort) → s.Value → Prop
  | .node, r => NodeRef.Fits r
  | .list, l => l.Fits
  | .optList, l => ∀ l' ∈ l, NodeList.Fits l'
  | .diagnostics, ds => ∀ d ∈ ds, Diagnostic.Fits d
  | .flag, _ | .kind, _ | .text, _ | .target, _ => True

/-- The numbers of a record fit. -/
def Record.Fits : {fs : List Field} → Record fs → Prop
  | [], _ => True
  | f :: fs, r => f.sort.Fits r.1 ∧ @Record.Fits fs r.2

/-- The offsets of a node and its row fit into words of four bytes, its flags into one of two. -/
structure Node.Fits (n : Node) : Prop where
  flags : n.flags < 0x10000
  pos : n.pos < 0x100000000
  stop : n.stop < 0x100000000
  dataIndex : n.dataIndex < 0x100000000

/-- The numbers of an arena fit. -/
structure Arena.Fits (a : Arena) : Prop where
  nodes : ∀ n ∈ a.nodes, n.Fits
  rows : ∀ p, ∀ d ∈ a.pools p, Record.Fits d

/-- The numbers of a document fit. -/
structure Document.Fits (d : Document) : Prop where
  arena : d.arena.Fits
  root : NodeRef.Fits d.root

/-! ### Records by the names of their fields -/

namespace Json

theorem natBelow?_nat {bound n : Nat} (h : n < bound) : natBelow? bound (nat n) = some n := by
  have hn : (n : Int).toNat = n := Int.toNat_natCast n
  rw [nat, natBelow?, hn, if_pos ⟨Int.natCast_nonneg n, h⟩]

theorem word?_nat {n : Nat} (h : n < 0x100000000) : (nat n).word? = some n :=
  natBelow?_nat h

/-- Among entries with names that differ, a field has the value that is under its name. -/
theorem slot?_of_nodup {entries : List (String × Json)} (h : (entries.map Prod.fst).Nodup)
    (name : String) : slot? [name] entries = some (entries.lookup name) := by
  have hfilter : entries.filter (fun e => [name].contains e.1) =
      ((entries.lookup name).map fun j => (name, j)).toList := by
    induction entries with
    | nil => rfl
    | cons e es ih =>
      obtain ⟨hfresh, hes⟩ := List.nodup_cons.mp h
      by_cases he : e.1 = name
      · have hnone : es.lookup name = none := by
          rw [List.lookup_eq_none_iff]
          intro e' he'
          have hne : name ≠ e'.1 := fun h' => hfresh (he ▸ h' ▸ List.mem_map_of_mem he')
          simpa using hne
        rw [List.filter_cons_of_pos (by simp [he]), ih hes, hnone, List.lookup_cons, he,
          beq_self_eq_true]
        exact congrArg (fun s => [(s, e.2)]) he
      · have hne : (name == e.1) = false := by simpa using fun h' : name = e.1 => he h'.symm
        rw [List.filter_cons_of_neg (by simp [he]), ih hes, List.lookup_cons, hne]
  rw [slot?, hfilter]
  cases entries.lookup name <;> rfl

/-- The values of a record whose entries have names that differ. -/
theorem slots?_of_nodup {entries : List (String × Json)} (h : (entries.map Prod.fst).Nodup)
    (names : List String) :
    slots? (names.map fun name => [name]) (.obj entries) =
      some (names.map fun name => entries.lookup name) := by
  rw [slots?]
  induction names with
  | nil => rfl
  | cons name names ih =>
    rw [List.map_cons, List.mapM_cons, slot?_of_nodup h, ih]
    rfl

/-- Where names differ, the name of an entry leads to it. -/
theorem lookup_of_nodup {entries : List (String × Json)} (h : (entries.map Prod.fst).Nodup)
    {e : String × Json} (he : e ∈ entries) : entries.lookup e.1 = some e.2 := by
  induction entries with
  | nil => cases he
  | cons e' es ih =>
    obtain ⟨hfresh, hes⟩ := List.nodup_cons.mp h
    rcases List.mem_cons.mp he with rfl | he
    · rw [List.lookup_cons, beq_self_eq_true]
    · have hne : e.1 ≠ e'.1 := fun h' => hfresh (h' ▸ List.mem_map_of_mem he)
      rw [List.lookup_cons, beq_eq_false_iff_ne.mpr hne]
      exact ih hes he

/-- The values of a record that names every field. -/
theorem slots?_entries {fields : List (List String)} {entries : List (String × Json)}
    (hfields : fields = entries.map fun e => [e.1]) (h : (entries.map Prod.fst).Nodup) :
    slots? fields (.obj entries) = some (entries.map fun e => some e.2) := by
  have hslots := slots?_of_nodup h (entries.map Prod.fst)
  rw [List.map_map, List.map_map] at hslots
  rw [hfields]
  exact hslots.trans (congrArg some (List.map_congr_left fun e he => lookup_of_nodup h he))

/-- What is read of every item is what was written of it. -/
theorem mapM_of_forall {α β : Type} {write : α → β} {read : β → Option α} {items : List α}
    (h : ∀ a ∈ items, read (write a) = some a) : (items.map write).mapM read = some items := by
  induction items with
  | nil => rfl
  | cons a as ih =>
    rw [List.map_cons, List.mapM_cons, h a List.mem_cons_self,
      ih fun b hb => h b (List.mem_cons_of_mem a hb)]
    rfl

end Json

/-! ### References, lists and messages -/

theorem NodeRef.ofJson?_toJson {r : NodeRef} (h : NodeRef.Fits r) :
    NodeRef.ofJson? (NodeRef.toJson r) = some r := by
  have hraw : raw r < 0x100000000 := by
    cases r with
    | none => decide
    | some i => exact Nat.lt_trans (h i rfl) (by decide)
  have hne : r ≠ some absent := fun he => Nat.lt_irrefl _ (h absent he)
  rw [ofJson?, toJson, Json.word?_nat hraw, Option.map_some, ofRaw_raw hne]

theorem NodeList.ofJson?_toJson {l : NodeList} (h : l.Fits) : ofJson? l.toJson = some l := by
  have hnodes := Json.mapM_of_forall fun r hr => NodeRef.ofJson?_toJson (h.nodes r hr)
  rw [ofJson?, toJson, Json.slots?_entries]
  · simp only [List.map_cons, List.map_nil, Option.bind_eq_bind, Option.bind_some, Json.required?,
      Json.ofList, Json.items?, hnodes, Json.word?_nat h.pos, Json.word?_nat h.stop,
      Json.defaulted?, Json.bool?]
    rfl
  · rfl
  · change List.Nodup ["nodes", "pos", "end", "has_trailing_comma"]
    decide

theorem Diagnostic.ofJson?_toJson {d : Diagnostic} (h : d.Fits) : ofJson? d.toJson = some d := by
  rw [ofJson?, toJson, Json.slots?_entries]
  · simp only [List.map_cons, List.map_nil, Option.bind_eq_bind, Option.bind_some, Json.required?,
      Json.name?_str, DiagnosticCategory.ofName?_name, Json.word?_nat h.code,
      Json.word?_nat h.start, Json.word?_nat h.length, Json.str?]
    rfl
  · rfl
  · change List.Nodup ["category", "code", "file", "start", "length", "messageText"]
    decide

/-! ### Records -/

/-- A value of a sort is read as it was written. -/
theorem FieldSort.ofJson?_toJson {s : FieldSort} {v : s.Value} (h : s.Fits v) :
    s.ofJson? (s.toJson v) = some v := by
  cases s with
  | node => exact NodeRef.ofJson?_toJson h
  | list => exact NodeList.ofJson?_toJson h
  | optList =>
    cases v with
    | none => rfl
    | some l =>
      have hl := NodeList.ofJson?_toJson (h l rfl)
      exact congrArg (Option.map some) hl
  | flag => rfl
  | kind => exact SyntaxKind.ofName?_name v
  | text => rfl
  | target => exact ScriptTarget.ofName?_name v
  | diagnostics => exact Json.mapM_of_forall fun d hd => Diagnostic.ofJson?_toJson (h d hd)

namespace Record

variable {fs : List Field}

theorem keys_entries (r : Record fs) : r.entries.map Prod.fst = fs.map Field.key := by
  induction fs with
  | nil => rfl
  | cons f fs ih => exact congrArg (f.key :: ·) (ih r.2)

/-- The fields are read one by one from their values. -/
theorem ofSlots?_entries {r : Record fs} (h : r.Fits) :
    ofSlots? fs (r.entries.map fun e => some e.2) = some r := by
  induction fs with
  | nil => rfl
  | cons f fs ih =>
    obtain ⟨v, r⟩ := r
    have hv : f.sort.ofJson? (f.sort.toJson v) = some v := FieldSort.ofJson?_toJson h.1
    have hentries : @entries (f :: fs) (v, r) = (f.key, f.sort.toJson v) :: r.entries := rfl
    rw [ofSlots?, hentries]
    simp only [List.map_cons, List.head?_cons, Option.join_some, Json.defaulted?, hv,
      List.tail_cons, ih h.2, Option.bind_eq_bind, Option.bind_some]
    rfl

/-- **A record is read as it was written**, where no two of its fields share a name. -/
theorem ofJson?_toJson (hkeys : (fs.map Field.key).Nodup) {r : Record fs} (h : r.Fits) :
    ofJson? fs r.toJson = some r := by
  rw [← keys_entries r] at hkeys
  have hfields : (fs.map fun f => [f.key]) = r.entries.map fun e => [e.1] := by
    have := congrArg (List.map fun name => [name]) (keys_entries r).symm
    rwa [List.map_map, List.map_map] at this
  rw [ofJson?, toJson, Json.slots?_entries hfields hkeys, Option.bind_some, ofSlots?_entries h]

end Record

/-! ### Nodes and arenas -/

namespace Node

theorem poolOfJson?_name (pool : Option Pool) :
    poolOfJson? (.str ((pool.map Pool.name).getD noPoolName)) = some pool := by
  cases pool with
  | none => rfl
  | some p =>
    rw [Option.map_some, Option.getD_some, poolOfJson?, Json.name?_str]
    simp only [Option.bind_eq_bind, Option.bind_some, if_neg p.name_ne_noPoolName,
      Pool.ofName?_name, Option.map_some]

theorem ofJson?_toJson {n : Node} (h : n.Fits) : ofJson? n.toJson = some n := by
  rw [ofJson?, toJson, Json.slots?_entries]
  · simp only [List.map_cons, List.map_nil, Option.bind_eq_bind, Option.bind_some, Json.required?,
      Json.name?_str, SyntaxKind.ofName?_name, Json.defaulted?, Json.natBelow?_nat h.flags,
      Json.word?_nat h.pos, Json.word?_nat h.stop, poolOfJson?_name, Json.word?_nat h.dataIndex]
    rfl
  · rfl
  · change List.Nodup ["kind", "flags", "pos", "end", "pool", "data_index"]
    decide

end Node

namespace Arena

variable {a : Arena}

/-- The value of the table of a pool, which is missing where the pool has no rows. -/
def tableOf (a : Arena) (p : Pool) : Option Json :=
  (a.poolEntry p).map Prod.snd

theorem fst_of_poolEntry {p : Pool} {e : String × Json} (he : a.poolEntry p = some e) :
    e.1 = p.table := by
  rw [poolEntry] at he
  split at he
  · cases he
  · rw [← Option.some.inj he]

/-- The entries of a written arena. -/
def entries (a : Arena) : List (String × Json) :=
  ("nodes", .ofList Node.toJson a.nodes.toList) :: Pool.all.filterMap a.poolEntry

theorem nodup_entries (a : Arena) : (a.entries.map Prod.fst).Nodup := by
  have hsub (ps : List Pool) :
      ((ps.filterMap a.poolEntry).map Prod.fst).Sublist (ps.map Pool.table) := by
    induction ps with
    | nil => exact .slnil
    | cons p ps ih =>
      cases he : a.poolEntry p with
      | none =>
        rw [List.filterMap_cons_none he]
        exact ih.cons _
      | some e =>
        rw [List.filterMap_cons_some he, List.map_cons, fst_of_poolEntry he]
        exact ih.cons_cons _
  exact Pool.nodup_tables.sublist ((hsub Pool.all).cons_cons _)

/-- A table is found under its name, and is missing where the pool has no rows. -/
theorem lookup_table (a : Arena) (p : Pool) : a.entries.lookup p.table = a.tableOf p := by
  cases he : a.poolEntry p with
  | some e =>
    have hmem : e ∈ a.entries :=
      List.mem_cons_of_mem _ (List.mem_filterMap.mpr ⟨p, p.mem_all, he⟩)
    rw [tableOf, he, ← fst_of_poolEntry he]
    exact Json.lookup_of_nodup a.nodup_entries hmem
  | none =>
    rw [tableOf, he, Option.map_none, List.lookup_eq_none_iff]
    intro e hmem
    obtain ⟨hnodes, htables⟩ := List.nodup_cons.mp Pool.nodup_tables
    rw [bne_iff_ne]
    rcases List.mem_cons.mp hmem with rfl | hmem
    · intro h
      have hp := List.mem_map_of_mem (f := Pool.table) p.mem_all
      rw [h] at hp
      exact hnodes hp
    · obtain ⟨q, hq, hqe⟩ := List.mem_filterMap.mp hmem
      intro h
      rw [fst_of_poolEntry hqe] at h
      rw [List.inj_on_of_nodup_map htables p.mem_all hq h, hqe] at he
      cases he

/-- The rows of a pool are read from its table. -/
theorem rows_of_tableOf (h : a.Fits) (p : Pool) :
    Json.defaulted? (fun j => j.items?.bind (·.mapM (Record.ofJson? p.layout))) [] (a.tableOf p) =
      some (a.pools p).toList := by
  rw [tableOf, poolEntry]
  split
  · next hempty => rw [List.isEmpty_iff.mp hempty]; rfl
  · exact Json.mapM_of_forall fun d hd =>
      Record.ofJson?_toJson p.nodup_keys (h.rows p d (Array.mem_toList_iff.mp hd))

/-- The pools are read from their tables; those that are not looked for stay empty. -/
theorem poolsOfSlots?_tableOf (h : a.Fits) (ps : List Pool) :
    poolsOfSlots? ps (ps.map a.tableOf) = some fun p => if p ∈ ps then a.pools p else #[] := by
  induction ps with
  | nil => rfl
  | cons p ps ih =>
    rw [poolsOfSlots?]
    simp only [List.map_cons, List.head?_cons, Option.join_some, List.tail_cons,
      rows_of_tableOf h p, ih, Option.bind_eq_bind, Option.bind_some, Array.toArray_toList]
    refine congrArg some (funext fun q => ?_)
    by_cases hq : q = p
    · subst hq
      rw [setPool_self, if_pos List.mem_cons_self]
    · rw [setPool_of_ne _ _ hq]
      exact if_congr (by rw [List.mem_cons, or_iff_right hq]) rfl rfl

/-- **An arena is read as it was written**, without the parents of its nodes. -/
theorem ofJson?_toJson (h : a.Fits) :
    ofJson? a.toJson = some { a with parents := Array.replicate a.nodes.size none } := by
  have hslots := Json.slots?_of_nodup a.nodup_entries ("nodes" :: Pool.all.map Pool.table)
  have hnodes := Json.mapM_of_forall fun n hn =>
    Node.ofJson?_toJson (h.nodes n (Array.mem_toList_iff.mp hn))
  have hpools : (fun p => if p ∈ Pool.all then a.pools p else #[]) = a.pools :=
    funext fun p => if_pos p.mem_all
  have htables : Json.slots? (["nodes"] :: Pool.all.map fun p => [p.table]) a.toJson =
      some (some (.ofList Node.toJson a.nodes.toList) :: Pool.all.map a.tableOf) := by
    rw [List.map_cons, List.map_cons, List.map_map, List.map_map] at hslots
    refine hslots.trans (congrArg some (congrArg₂ List.cons ?_ ?_))
    · rw [entries, List.lookup_cons, beq_self_eq_true]
    · exact List.map_congr_left fun p _ => lookup_table a p
  rw [ofJson?, htables]
  simp only [Option.bind_eq_bind, Option.bind_some, Json.required?, Json.ofList, Json.items?,
    hnodes, poolsOfSlots?_tableOf h, hpools, Array.toArray_toList, Array.length_toList]
  rfl

end Arena

/-! ### Documents -/

namespace Document

theorem ofJson?_toJson {d : Document} (h : d.Fits) :
    ofJson? d.toJson = some ⟨d.arena.linkParents, d.root⟩ := by
  rw [ofJson?, toJson, Json.slots?_entries]
  · simp only [List.map_cons, List.map_nil, Option.bind_eq_bind, Option.bind_some, Json.required?,
      Arena.ofJson?_toJson h.arena, NodeRef.ofJson?_toJson h.root]
    rfl
  · rfl
  · change List.Nodup ["arena", "root"]
    decide

end Document

/-! ### What is written is exact -/

open Json (IsExact)

theorem NodeList.isExact_toJson (l : NodeList) : IsExact l.toJson :=
  .cons (.ofList fun _ _ => .nat _) <| .cons (.nat _) <| .cons (.nat _) <| .cons (.bool _) .nil

theorem Diagnostic.isExact_toJson (d : Diagnostic) : IsExact d.toJson :=
  .cons (.str _) <| .cons (.nat _) <| .cons (.str _) <| .cons (.nat _) <| .cons (.nat _) <|
    .cons (.str _) .nil

theorem FieldSort.isExact_toJson (s : FieldSort) (v : s.Value) : IsExact (s.toJson v) := by
  cases s with
  | node => exact .nat _
  | list => exact NodeList.isExact_toJson v
  | optList => exact .ofOption fun l _ => l.isExact_toJson
  | flag => exact .bool _
  | kind => exact .str _
  | text => exact .str _
  | target => exact .str _
  | diagnostics => exact .ofList fun d _ => d.isExact_toJson

theorem Record.isExact_toJson {fs : List Field} (r : Record fs) : IsExact r.toJson := by
  induction fs with
  | nil => exact .nil
  | cons f fs ih => exact .cons (f.sort.isExact_toJson r.1) (ih r.2)

theorem Node.isExact_toJson (n : Node) : IsExact n.toJson :=
  .cons (.str _) <| .cons (.nat _) <| .cons (.nat _) <| .cons (.nat _) <| .cons (.str _) <|
    .cons (.nat _) .nil

theorem Arena.isExact_toJson (a : Arena) : IsExact a.toJson := by
  refine .obj (List.forall_mem_cons.mpr ⟨.ofList fun n _ => n.isExact_toJson, fun e he => ?_⟩)
  obtain ⟨p, -, hp⟩ := List.mem_filterMap.mp he
  rw [Arena.poolEntry] at hp
  split at hp
  · cases hp
  · rw [← Option.some.inj hp]
    exact .ofList fun d _ => d.isExact_toJson

theorem Document.isExact_toJson (d : Document) : IsExact d.toJson :=
  .cons d.arena.isExact_toJson <| .cons (.nat _) .nil

/-- **A document is read from its text as it was written**, with the parents that its children
give its nodes. -/
theorem Document.ofText?_text {d : Document} (h : d.Fits) :
    ofText? d.text = some ⟨d.arena.linkParents, d.root⟩ := by
  rw [ofText?, text, Json.ofText?_compact d.isExact_toJson, Option.bind_some, ofJson?_toJson h]

end ScriptTree
