import ScriptTree.Proofs.Convert.Outputs

/-!
# Runs that share one correspondence

A caller may hand the same correspondence to one run after the other. A pair that is left in it from
an earlier run would keep a later one from recording pairs of its own, since the first record of a
node stays. But a run forgets what it is handed before it does anything else, on every way through
it, and so runs that share a correspondence come to the same as runs that have one of their own
(`ScriptTree.Document.runs_agree`).
-/

namespace ScriptTree

namespace Document

/-! ### One run -/

/-- What was recorded before a run has no part in it. -/
theorem convertOver_eq_convert (doc : Document) (o : ConvertOptions) (maps : NodeMaps) :
    doc.convertOver o maps = doc.convert o := by
  rw [convert, convertOver, convertOver, NodeMaps.reset_eq_empty, NodeMaps.reset_eq_empty]

/-- A run that does not get as far as a conversion records nothing. -/
theorem maps_of_file_eq_error {doc : Document} {e : ConvertError} (h : doc.file = .error e)
    (o : ConvertOptions) : (doc.convert o).2 = .empty := by
  rw [doc.convert_eq, h]
  rfl

/-- **A run that is not asked for a correspondence records nothing**, whatever it comes to. -/
theorem maps_of_not_asked (doc : Document) {o : ConvertOptions}
    (h : o.provideCorrespondenceMaps = false) : (doc.convert o).2 = .empty := by
  cases hfile : doc.file with
  | error e => exact maps_of_file_eq_error hfile o
  | ok file =>
    rw [convert_eq_rich hfile o]
    change o.mapsOf _ = .empty
    rw [ConvertOptions.mapsOf, h]
    rfl

/-! ### One run after the other -/

/-- **Runs over one correspondence are the runs that have one of their own.** -/
theorem runsOver_eq_map (maps : NodeMaps) (requests : List (Document × ConvertOptions)) :
    runsOver maps requests = requests.map fun request => request.1.convert request.2 := by
  induction requests generalizing maps with
  | nil => rfl
  | cons request rest ih =>
    obtain ⟨doc, o⟩ := request
    rw [runsOver, List.map_cons, convertOver_eq_convert]
    exact congrArg _ (ih _)

/-- **Runs that share one correspondence do not influence each other.** A run has the same result
and leaves the same correspondence whatever was recorded before it; it leaves an empty one if none
was asked for, if there is no file at the root, and if the front end has complained about the file;
and what is handed out of a sequence of runs over one correspondence is what each of them hands out
on its own. -/
theorem runs_agree :
    (∀ (doc : Document) (o : ConvertOptions) (maps maps' : NodeMaps),
      doc.convertOver o maps = doc.convertOver o maps') ∧
    (∀ (doc : Document) (o : ConvertOptions) (maps : NodeMaps),
      (o.provideCorrespondenceMaps = false ∨ doc.arena.sourceFile? doc.root = none ∨
        ∃ file, doc.arena.sourceFile? doc.root = some file ∧ file.get .parseDiagnostics ≠ []) →
      (doc.convertOver o maps).2 = .empty) ∧
    ∀ (maps : NodeMaps) (requests : List (Document × ConvertOptions)),
      (requests.zip (runsOver maps requests)).map (fun x => Output.ofRun x.1.2 x.2) =
        requests.map fun request => request.1.output request.2 := by
  refine ⟨fun doc o maps maps' => ?_, fun doc o maps h => ?_, fun maps requests => ?_⟩
  · rw [convertOver_eq_convert, convertOver_eq_convert]
  · rw [convertOver_eq_convert]
    rcases h with hasked | hnone | ⟨file, hfile, hcomplaints⟩
    · exact doc.maps_of_not_asked hasked
    · have herror : doc.file =
          .error (.missingData ((doc.arena.kind? doc.root).getD .unknown) doc.root) := by
        rw [Document.file, hnone]
      exact maps_of_file_eq_error herror o
    · obtain ⟨d, ds, hd⟩ := List.exists_cons_of_ne_nil hcomplaints
      have herror : doc.file = .error (parseError (file.get .text).toList d) := by
        rw [Document.file, hfile]
        dsimp only
        rw [hd, List.head?_cons]
      exact maps_of_file_eq_error herror o
  · rw [runsOver_eq_map, List.zip_map_right, List.map_map]
    induction requests with
    | nil => rfl
    | cons request rest ih =>
      rw [List.zip_cons_cons, List.map_cons, List.map_cons, ih]
      rfl

/-- A pair that a run is handed with its root is not there afterwards, and does not keep the run from
recording the root if it is asked to. -/
theorem fragment_over_stale :
    (fragment.convertOver {} ⟨[(some 6, 7)], [(7, some 6)], rfl⟩).2 = .empty ∧
      (fragment.convertOver { provideCorrespondenceMaps := true }
        ⟨[(some 6, 7)], [(7, some 6)], rfl⟩).2.normalizedOf? (some 6) = some 5 := by
  refine ⟨runs_agree.2.1 fragment {} _ (.inl rfl), ?_⟩
  rw [runs_agree.1 fragment _ _ .empty]
  decide +kernel

end Document

end ScriptTree
