import EntityTagger.Proofs.Files
import EntityTagger.Proofs.Prediction
import EntityTagger.Proofs.Row
import EntityTagger.Stage

/-! The batch stage for one file: whatever the size of the batches, each row gets what is predicted
for its own text. -/
namespace EntityTagger

namespace Stage

variable {t : Tagger} {encode : Text → List ℤ} {logits : ℤ → List t.model.elements.kernel.Logit}
  {count : ℕ} {fs : FileSystem} {input output : Path} {now : ℤ}

theorem outcome_tagBatches (h : t.Tabular encode logits count) {batches : List (List Text)}
    (hne : ∀ batch ∈ batches, batch ≠ []) :
    (tagBatches t batches).outcome =
      batches.flatten.mapM fun s => (t.predict (.list [.str s])).outcome := by
  induction batches with
  | nil => rfl
  | cons batch rest ih =>
    have hbatch := h.outcome_entitiesPerText_eq_predict (hne batch (List.mem_cons_self ..))
    have hrest := ih fun b hb => hne b (List.mem_cons_of_mem _ hb)
    rw [tagBatches, Run.outcome_bind, hbatch, List.flatten_cons, Traversal.mapM_append]
    refine congrArg (Except.bind _) (funext fun found => ?_)
    rw [Run.outcome_bind, hrest]
    cases rest.flatten.mapM fun s => (t.predict (.list [.str s])).outcome <;> rfl

/-- What is predicted for the text of a row; nothing is found in a row that has none. -/
def FoundIn (t : Tagger) (row : Json) (found : List Entity) : Prop :=
  match Row.text? row with
  | some s => (t.predict (.list [.str s])).outcome = .ok found
  | none => found = []

/-- The entities of a text if they are predicted. -/
def predicted (t : Tagger) (s : Text) : List Entity :=
  (t.predict (.list [.str s])).outcome.toOption.getD []

def found (t : Tagger) (row : Json) : List Entity := ((Row.text? row).map (predicted t)).getD []

theorem outcome_predict_eq_predicted {s : Text}
    (h : ∃ found, (t.predict (.list [.str s])).outcome = .ok found) :
    (t.predict (.list [.str s])).outcome = .ok (predicted t s) := by
  obtain ⟨found, hfound⟩ := h
  rw [predicted, hfound]
  rfl

theorem foundIn_found {row : Json}
    (h : ∀ s, Row.text? row = some s → ∃ found, (t.predict (.list [.str s])).outcome = .ok found) :
    FoundIn t row (found t row) := by
  rw [FoundIn, found]
  cases htext : Row.text? row with
  | none => rfl
  | some s =>
    exact outcome_predict_eq_predicted (h s htext)

/-- A file is tagged text by text, for all sizes of batches. -/
theorem outcome_annotated_eq (h : t.Tabular encode logits count) {bytes : List UInt8}
    {rows : List Json} (hbytes : fs.readBytes input = .ok bytes)
    (hrows : Row.ofBytes bytes = .ok rows) {batchSize : ℤ} (hs : 0 < batchSize) :
    (annotated t fs input batchSize).outcome =
      ((Row.texts rows).mapM fun s => (t.predict (.list [.str s])).outcome).map
        (Row.attach rows) := by
  have hsize : 0 < batchSize.toNat := by omega
  have hbatches : batches batchSize (Row.texts rows) =
      .ok (parts batchSize.toNat (Row.texts rows)) := by
    rw [batches, if_neg (by omega), if_pos hs]
  simp only [annotated, Run.outcome_bind, Run.outcome_ofExcept, hbytes, hrows, hbatches,
    Except.mapError, Except.bind]
  rw [outcome_tagBatches h fun _ => ne_nil_of_mem_parts hsize, flatten_parts hsize]
  cases (Row.texts rows).mapM fun s => (t.predict (.list [.str s])).outcome <;> rfl

theorem mapM_predict_eq_predicted {texts : List Text}
    (h : ∀ s ∈ texts, ∃ found, (t.predict (.list [.str s])).outcome = .ok found) :
    (texts.mapM fun s => (t.predict (.list [.str s])).outcome) = .ok (texts.map (predicted t)) :=
  Traversal.mapM_eq_pure fun s hmem => outcome_predict_eq_predicted (h s hmem)

theorem outcome_annotated (h : t.Tabular encode logits count) {bytes : List UInt8}
    {rows : List Json} (hbytes : fs.readBytes input = .ok bytes)
    (hrows : Row.ofBytes bytes = .ok rows)
    (hpredict : ∀ s ∈ Row.texts rows, ∃ found, (t.predict (.list [.str s])).outcome = .ok found)
    {batchSize : ℤ} (hs : 0 < batchSize) :
    (annotated t fs input batchSize).outcome =
      .ok (rows.map fun row => (row, .ofEntities (found t row))) := by
  rw [outcome_annotated_eq h hbytes hrows hs, mapM_predict_eq_predicted hpredict]
  exact congrArg Except.ok (Row.attach_map rows (predicted t))

theorem isUnicode_of_predict (h : t.Tabular encode logits count) {s : Text} {found : List Entity}
    (hlabels : ∀ entry ∈ t.labels, entry.2.IsUnicode)
    (hwords : ∀ id ∈ encode s, (t.tokenizer.decode id).IsUnicode)
    (hfound : (t.predict (.list [.str s])).outcome = .ok found) :
    ∀ e ∈ found, e.text.IsUnicode ∧ e.label.IsUnicode := by
  intro e he
  obtain ⟨id, hid, htoken⟩ :=
    Traversal.exists_of_mem_mapM ((h.outcome_predict_single s).symm.trans hfound) he
  obtain ⟨label, hlabel, rfl⟩ := Traversal.map_eq_ok_iff.1 htoken
  refine ⟨hwords id (List.mem_filter.1 hid).1, ?_⟩
  rw [LabelMapping.lookup] at hlabel
  split at hlabel
  · next name hname =>
    obtain rfl := Except.ok.inj hlabel
    exact hlabels _ (Association.mem_of_get? hname)
  · simp at hlabel

/-- Whether a file can be written under a path once the directories above it are made. -/
def CanCreate (fs : FileSystem) (path : Path) (now : ℤ) : Prop :=
  ∃ made place, fs.makeDirectories path.parent now = .ok made ∧ made.resolve path = .ok place ∧
    ¬ made.IsDirectoryAt place

theorem writeRows_of_isUnicode {rows : List (Json × Annotation)} (houtput : CanCreate fs output now)
    (hlines : ∀ pair ∈ rows, (Row.line pair.1 pair.2).IsUnicode) :
    (writeRows now fs output rows).run.outcome = .ok () ∧
      (writeRows now fs output rows).written = [output] ∧
      (writeRows now fs output rows).files.readBytes output =
        .ok (Utf8.bytesOf (rows.flatMap fun pair => Row.line pair.1 pair.2)) := by
  obtain ⟨made, place, hmade, hplace, hfree⟩ := houtput
  have hbytes : Row.encodeLines (rows.map fun pair => Row.line pair.1 pair.2) =
      (Utf8.bytesOf (rows.flatMap fun pair => Row.line pair.1 pair.2), none) := by
    rw [Row.encodeLines_of_isUnicode, List.flatMap_def]
    intro line hline
    obtain ⟨pair, hpair, rfl⟩ := List.mem_map.1 hline
    exact hlines pair hpair
  obtain ⟨after, hafter⟩ : ∃ after, made.write output
      (.bytes (Utf8.bytesOf (rows.flatMap fun pair => Row.line pair.1 pair.2))) now = .ok after :=
    FileSystem.exists_write hplace hfree
  have hresult : writeRows now fs output rows = ⟨after, [output], pure ()⟩ := by
    simp only [writeRows, hmade, hbytes, hafter]
  rw [hresult]
  exact ⟨rfl, rfl, FileSystem.readBytes_write hafter⟩

/-- A file is tagged row by row: what is written and counted is the same for all sizes of
batches. -/
theorem processFile_eq_rows (h : t.Tabular encode logits count) {bytes : List UInt8}
    {rows : List Json} (hbytes : fs.readBytes input = .ok bytes)
    (hrows : Row.ofBytes bytes = .ok rows) (houtput : CanCreate fs output now)
    (hunicode : ∀ row ∈ rows, row.characters.IsUnicode)
    (hlabels : ∀ entry ∈ t.labels, entry.2.IsUnicode)
    (hwords : ∀ s ∈ Row.texts rows, ∀ id ∈ encode s, (t.tokenizer.decode id).IsUnicode)
    (hpredict : ∀ s ∈ Row.texts rows, ∃ found, (t.predict (.list [.str s])).outcome = .ok found) :
    ∃ (written : List (List (Text × Json))) (content : List UInt8),
      List.Forall₂ (fun row members => ∃ found, FoundIn t row found ∧
        Row.IsAnnotated row found members) rows written ∧
      Utf8.encode (written.flatMap fun members => (Json.obj members).write ++ [10]) = .ok content ∧
      ∀ batchSize, 0 < batchSize →
        (processFile t now fs input output batchSize).run.outcome =
          .ok ⟨input, output, rows.length, written.countP Row.hasEntities⟩ ∧
        (processFile t now fs input output batchSize).written = [output] ∧
        (processFile t now fs input output batchSize).files.readBytes output = .ok content := by
  have hfound : ∀ row ∈ rows, FoundIn t row (found t row) := fun row hrow =>
    foundIn_found fun s hs => hpredict s (Row.mem_texts.2 ⟨row, hrow, hs⟩)
  have hline : ∀ row ∈ rows, (Row.line row (.ofEntities (found t row))).IsUnicode := by
    intro row hrow
    refine Row.isUnicode_line (hunicode row hrow) ?_
    have hrow' := hfound row hrow
    rw [FoundIn] at hrow'
    cases htext : Row.text? row with
    | none =>
      rw [htext] at hrow'
      simp [show found t row = [] from hrow']
    | some s =>
      rw [htext] at hrow'
      have hmem := Row.mem_texts.2 ⟨row, hrow, htext⟩
      exact isUnicode_of_predict h hlabels (hwords s hmem) hrow'
  refine ⟨rows.map fun row => Row.annotatedMembers row (found t row),
    Utf8.bytesOf (rows.flatMap fun row => Row.line row (.ofEntities (found t row))), ?_, ?_, ?_⟩
  · rw [List.forall₂_map_right_iff, List.forall₂_same]
    exact fun row hrow => ⟨found t row, hfound row hrow, Row.isAnnotated_annotatedMembers row _⟩
  · rw [List.flatMap_map]
    refine Utf8.encode_of_isUnicode fun c hc => ?_
    obtain ⟨row, hrow, hc⟩ := List.mem_flatMap.1 hc
    exact hline row hrow c hc
  · intro batchSize hs
    have hreading := outcome_annotated h hbytes hrows hpredict hs
    have hlines : ∀ pair ∈ rows.map fun row => (row, Annotation.ofEntities (found t row)),
        (Row.line pair.1 pair.2).IsUnicode := by
      intro pair hpair
      obtain ⟨row, hrow, rfl⟩ := List.mem_map.1 hpair
      exact hline row hrow
    obtain ⟨hrun, hwritten, hread⟩ := writeRows_of_isUnicode houtput hlines
    rw [List.flatMap_map] at hread
    simp only [processFile, hreading]
    refine ⟨?_, hwritten, hread⟩
    have hcount : ((rows.map fun row => (row, Annotation.ofEntities (found t row))).filter
        fun pair => !pair.2.entities.isEmpty).length =
        (rows.map fun row => Row.annotatedMembers row (found t row)).countP Row.hasEntities := by
      rw [← List.countP_eq_length_filter, List.countP_map, List.countP_map]
      refine List.countP_congr fun row _ => ?_
      rw [Function.comp_apply, Function.comp_apply,
        (Row.isAnnotated_annotatedMembers row (found t row)).hasEntities_eq]
      rfl
    simp only [Run.outcome_bind, hreading, hrun, Except.bind, Run.pure_outcome, List.length_map]
    exact congrArg (fun n => Except.ok (⟨input, output, rows.length, n⟩ : Summary)) hcount

/-- A row with words, one that is no object, and one whose text is blank. -/
def threeRows : List UInt8 :=
  (text "\x7b\"text\": \"off on\", \"id\": 1\x7d\n7\n\n" ++
    text "\x7b\"entities\": null, \"text\": \" \"\x7d").map Nat.toUInt8

def threeRowsFiles : FileSystem :=
  ⟨[([], .directory 0), ([text "rows"], .file (.bytes threeRows) 0)]⟩

/-- For every size of batches three rows are written, and one of them has entities. -/
theorem processFile_threeRows :
    Tagger.twoWords.Tabular Tagger.twoWordsIds Tagger.twoWordsLogits 3 ∧
    ∀ batchSize, 0 < batchSize →
      (processFile Tagger.twoWords 1 threeRowsFiles ⟨.relative, [text "rows"]⟩
        ⟨.relative, [text "tagged"]⟩ batchSize).run.outcome =
        .ok ⟨⟨.relative, [text "rows"]⟩, ⟨.relative, [text "tagged"]⟩, 3, 1⟩ := by
  have hbytes : threeRowsFiles.readBytes ⟨.relative, [text "rows"]⟩ = .ok threeRows :=
    Traversal.toOption_eq_some_iff.1 (by decide +kernel)
  have hrows : Row.ofBytes threeRows = .ok ((Row.ofBytes threeRows).toOption.getD []) := by
    obtain ⟨rows, hrows⟩ : ∃ rows, Row.ofBytes threeRows = .ok rows :=
      Traversal.isSome_toOption_iff.1 (by decide +kernel)
    rw [hrows]
    rfl
  have houtput : CanCreate threeRowsFiles ⟨.relative, [text "tagged"]⟩ 1 := by
    refine ⟨threeRowsFiles, [text "tagged"], Traversal.toOption_eq_some_iff.1 (by decide +kernel),
      Traversal.toOption_eq_some_iff.1 (by decide +kernel), ?_⟩
    rintro ⟨time, hdir⟩
    have hnone : threeRowsFiles.node? [text "tagged"] = none := by decide +kernel
    simp [hnone] at hdir
  have hpredict : ∀ s ∈ Row.texts ((Row.ofBytes threeRows).toOption.getD []),
      ∃ found, (Tagger.twoWords.predict (.list [.str s])).outcome = .ok found := by
    simp only [← Traversal.isSome_toOption_iff]
    decide +kernel
  obtain ⟨written, content, -, -, hall⟩ := processFile_eq_rows Tagger.tabular_twoWords hbytes hrows
    houtput (by decide +kernel) (by decide +kernel) (by decide +kernel) hpredict
  have hone : (processFile Tagger.twoWords 1 threeRowsFiles ⟨.relative, [text "rows"]⟩
      ⟨.relative, [text "tagged"]⟩ 1).run.outcome =
      .ok ⟨⟨.relative, [text "rows"]⟩, ⟨.relative, [text "tagged"]⟩, 3, 1⟩ :=
    Traversal.toOption_eq_some_iff.1 (by decide +kernel)
  refine ⟨Tagger.tabular_twoWords, fun batchSize hs => ?_⟩
  rw [(hall batchSize hs).1, ← (hall 1 (by decide)).1, hone]

end Stage

end EntityTagger
