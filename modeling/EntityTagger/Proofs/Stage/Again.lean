import EntityTagger.Proofs.Obstacles
import EntityTagger.Proofs.Row.RoundTrip
import EntityTagger.Proofs.Stage
import EntityTagger.Proofs.Stage.Output

/-! What the stage wrote is read back row by row, and tagging it again changes nothing. -/
namespace EntityTagger

namespace Row

def contentOf (pairs : List (Json × Annotation)) : Text :=
  pairs.flatMap fun pair => line pair.1 pair.2

theorem count_contentOf (pairs : List (Json × Annotation)) :
    (contentOf pairs).count 10 = pairs.length := by
  induction pairs with
  | nil => rfl
  | cons pair pairs ih =>
    rw [contentOf, List.flatMap_cons, List.count_append, count_line, ← contentOf, ih,
      List.length_cons, Nat.add_comm]

/-- A file that holds annotated rows: each of them is one line, for whatever ends a line, and they
are what is read. -/
structure HoldsAll (pairs : List (Json × Annotation)) (content : List UInt8) : Prop where
  count : content.count 10 = pairs.length
  lines : ∃ t, Utf8.decode content = .ok t ∧
    Text.lines t = pairs.map fun pair => (annotate pair.1 pair.2).write
  rows : ofBytes content = .ok (pairs.map fun pair => annotate pair.1 pair.2)

theorem holdsAll_contentOf {pairs : List (Json × Annotation)}
    (hreadable : ∀ pair ∈ pairs, pair.1.IsReadable)
    (hunicode : ∀ pair ∈ pairs, (line pair.1 pair.2).IsUnicode) :
    HoldsAll pairs (Utf8.bytesOf (contentOf pairs)) := by
  refine ⟨?_, ⟨contentOf pairs, Utf8.decode_bytesOf ?_, lines_flatMap_line pairs⟩,
    ofBytes_lines hreadable hunicode⟩
  · rw [Utf8.count_bytesOf, count_contentOf]
  · intro c hc
    obtain ⟨pair, hpair, hc⟩ := List.mem_flatMap.1 hc
    exact hunicode pair hpair c hc

def attached (tagged : List (Json × List Entity)) : List (Json × Annotation) :=
  tagged.map fun pair => (pair.1, .ofEntities pair.2)

theorem get?_entities_annotate (row : Json) (found : Annotation) :
    Association.get? (text "entities") (members (annotate row found)) =
      some (.arr (found.entities.map ofEntity)) := by
  have hnames : text "entities" ≠ text "entity_labels" := by decide
  rw [annotate, members, Association.get?_put_of_ne hnames, Association.get?_put_self]

theorem get?_labels_annotate (row : Json) (found : Annotation) :
    Association.get? (text "entity_labels") (members (annotate row found)) =
      some (.arr (found.labels.map .str)) := by
  rw [annotate, members, Association.get?_put_self]

theorem annotate_annotate (row : Json) (found : Annotation) :
    annotate (annotate row found) found = annotate row found := by
  rw [annotate, Association.put_eq_self (get?_entities_annotate row found),
    Association.put_eq_self (get?_labels_annotate row found)]
  rfl

/-- What is found in a row is no text of its own, and a row that is put under a name has none. -/
theorem text?_annotate (row : Json) (found : Annotation) :
    text? (annotate row found) = text? row := by
  have hmember : (annotate row found).member? (text "text") = row.member? (text "text") := by
    rw [annotate, Json.member?, Association.get?_put_of_ne (by decide),
      Association.get?_put_of_ne (by decide)]
    cases row <;> rfl
  rw [text?, text?, hmember]

def again (pairs : List (Json × Annotation)) : List (Json × Annotation) :=
  pairs.map fun pair => (annotate pair.1 pair.2, pair.2)

theorem contentOf_again (pairs : List (Json × Annotation)) :
    contentOf (again pairs) = contentOf pairs := by
  rw [contentOf, again, List.flatMap_map]
  refine List.flatMap_congr fun pair _ => ?_
  rw [line, line, annotate_annotate]

end Row

namespace Stage

variable {t : Tagger} {encode : Text → List ℤ} {logits : ℤ → List t.model.elements.kernel.Logit}
  {count : ℕ} {fs : FileSystem} {input output path : Path} {now batchSize : ℤ}

theorem canCreate_of_readBytes {bytes : List UInt8} (h : fs.readBytes path = .ok bytes) (now : ℤ) :
    CanCreate fs path now := by
  obtain ⟨place, content, time, hplace, hnode, -⟩ := FileSystem.readBytes_eq_ok h
  refine ⟨fs, place, FileSystem.makeDirectories_eq_ok_iff.2 ?_, hplace, ?_⟩
  · rcases List.eq_nil_or_concat path.parts with hparts | ⟨above, name, hparts⟩
    · have hparent : path.parent.parts = [] := by simp [Path.parent, hparts]
      rw [hparent]
      rfl
    · rw [List.concat_eq_append] at hparts
      rw [FileSystem.resolve, hparts] at hplace
      obtain ⟨-, hdown⟩ := FileSystem.walk_eq_ok_iff_lead.1 hplace
      have hwalk : fs.walk [] above = .ok (FileSystem.lead [] above) :=
        FileSystem.walk_eq_ok_iff_lead.2 ⟨rfl, fun first below hsplit hbelow =>
          hdown first (below ++ [name]) (by rw [hsplit, List.append_assoc]) (by simp)⟩
      rw [FileSystem.parent_parts hparts]
      exact FileSystem.makeDirectoriesFrom_of_walk hwalk
        (hdown above [name] rfl (List.cons_ne_nil _ _))
  · rintro ⟨other, hdir⟩
    simp [hnode] at hdir

theorem processFile_of_isUnicode {pairs : List (Json × Annotation)}
    (hreading : (annotated t fs input batchSize).outcome = .ok pairs)
    (houtput : CanCreate fs output now)
    (hunicode : ∀ pair ∈ pairs, (Row.line pair.1 pair.2).IsUnicode) :
    (processFile t now fs input output batchSize).run.outcome =
        .ok (summaryOf input output pairs) ∧
      (processFile t now fs input output batchSize).written = [output] ∧
      (processFile t now fs input output batchSize).files.readBytes output =
        .ok (Utf8.bytesOf (Row.contentOf pairs)) := by
  obtain ⟨hrun, hwritten, hread⟩ := writeRows_of_isUnicode houtput hunicode
  obtain ⟨hended, hfiles, hpaths⟩ := processFile_of_annotated_ok hreading now output
  rw [hended, hfiles, hpaths, hrun]
  exact ⟨rfl, hwritten, hread⟩

/-- Rows of a file, with whatever was found in them, are written one a line, and what is read back
from there is these rows with what was found: no text in them ends a line, makes one blank or is
changed on the way. -/
theorem processFile_holdsAll {source : List UInt8} {tagged : List (Json × List Entity)}
    (hrows : Row.ofBytes source = .ok (tagged.map Prod.fst))
    (hunicode : ∀ pair ∈ tagged, pair.1.characters.IsUnicode ∧
      ∀ e ∈ pair.2, e.text.IsUnicode ∧ e.label.IsUnicode) :
    ∃ content, Row.HoldsAll (Row.attached tagged) content ∧
      (∀ fs output now, CanCreate fs output now →
        (writeRows now fs output (Row.attached tagged)).run.outcome = .ok () ∧
          (writeRows now fs output (Row.attached tagged)).files.readBytes output = .ok content) ∧
      ∀ t fs input output now batchSize, CanCreate fs output now →
        (annotated t fs input batchSize).outcome = .ok (Row.attached tagged) →
        (processFile t now fs input output batchSize).run.outcome =
            .ok (summaryOf input output (Row.attached tagged)) ∧
          (processFile t now fs input output batchSize).files.readBytes output = .ok content := by
  have hreadable : ∀ pair ∈ Row.attached tagged, pair.1.IsReadable := by
    refine List.forall_mem_map.2 fun pair hpair => ?_
    exact Row.isReadable_of_ofBytes hrows _ (List.mem_map_of_mem hpair)
  have hlines : ∀ pair ∈ Row.attached tagged, (Row.line pair.1 pair.2).IsUnicode := by
    refine List.forall_mem_map.2 fun pair hpair => ?_
    exact Row.isUnicode_line (hunicode pair hpair).1 (hunicode pair hpair).2
  refine ⟨_, Row.holdsAll_contentOf hreadable hlines, ?_, ?_⟩
  · intro fs output now houtput
    obtain ⟨hrun, -, hread⟩ := writeRows_of_isUnicode houtput hlines
    exact ⟨hrun, hread⟩
  · intro t fs input output now batchSize houtput hreading
    obtain ⟨hrun, -, hread⟩ := processFile_of_isUnicode hreading houtput hlines
    exact ⟨hrun, hread⟩

/-- A line whose texts hold blanks and ends of lines, raw or escaped, and whose numbers are none. -/
def unrulyLine : Text :=
  text "\x7b\"text\": \"" ++ [0xFEFF] ++ text "\\\"\\\\\\u0000\\r\\n" ++ [0x85, 0x2028] ++
    text " \", \"n\": [NaN, -Infinity, -7]\x7d"

def unrulyRows : List Json := (Row.ofBytes (Utf8.bytesOf (unrulyLine ++ [13, 10]))).toOption.getD []

/-- The row with an entity whose score is no number either. -/
def unrulyTagged : List (Json × List Entity) :=
  unrulyRows.map fun row => (row, [⟨text "a", .nan, text "B"⟩])

/-- It is written over another file and read back. -/
theorem processFile_holdsAll_unrulyRows :
    unrulyRows.map Json.write = [unrulyLine] ∧
    ∃ content, Row.HoldsAll (Row.attached unrulyTagged) content ∧
      (writeRows 1 threeRowsFiles ⟨.relative, [text "rows"]⟩
        (Row.attached unrulyTagged)).files.readBytes ⟨.relative, [text "rows"]⟩ = .ok content := by
  have hrows : Row.ofBytes (Utf8.bytesOf (unrulyLine ++ [13, 10])) =
      .ok (unrulyTagged.map Prod.fst) := by
    obtain ⟨rows, hrows⟩ : ∃ rows, Row.ofBytes (Utf8.bytesOf (unrulyLine ++ [13, 10])) = .ok rows :=
      Traversal.isSome_toOption_iff.1 (by decide +kernel)
    rw [unrulyTagged, unrulyRows, hrows, List.map_map]
    exact congrArg Except.ok (List.map_id rows).symm
  have hthere : threeRowsFiles.readBytes ⟨.relative, [text "rows"]⟩ = .ok threeRows :=
    Traversal.toOption_eq_some_iff.1 (by decide +kernel)
  obtain ⟨content, hcontent, hwrite, -⟩ := processFile_holdsAll hrows (by decide +kernel)
  exact ⟨by decide +kernel, content, hcontent,
    (hwrite _ _ 1 (canCreate_of_readBytes hthere 1)).2⟩

theorem written_of_processFile {summary : Summary}
    (h : (processFile t now fs input output batchSize).run.outcome = .ok summary) :
    ∃ pairs, (annotated t fs input batchSize).outcome = .ok pairs ∧
      summary = summaryOf input output pairs ∧
      (∀ pair ∈ pairs, (Row.line pair.1 pair.2).IsUnicode) ∧
      (processFile t now fs input output batchSize).files.readBytes output =
        .ok (Utf8.bytesOf (Row.contentOf pairs)) := by
  have hstep := fileStep_processFile t now fs input output batchSize
  generalize (processFile t now fs input output batchSize).files = after at hstep ⊢
  generalize hreading : (annotated t fs input batchSize).outcome = reading at hstep
  generalize hended : (processFile t now fs input output batchSize).run.outcome = ended at h hstep
  cases hstep with
  | unread => simp at h
  | refused hmade => simp at h
  | unwritten hmade hafter => simp at h
  | @written pairs made after hmade hafter =>
    cases hfault : (linesOf pairs).2 with
    | some fault => simp [hfault, ending] at h
    | none =>
      have hlines : linesOf pairs = ((linesOf pairs).1, none) := by rw [← hfault]
      have hunicode : ∀ pair ∈ pairs, (Row.line pair.1 pair.2).IsUnicode := by
        intro pair hpair
        exact Row.isUnicode_of_encodeLines hlines _ (List.mem_map_of_mem hpair)
      have hcontent : (linesOf pairs).1 = Utf8.bytesOf (Row.contentOf pairs) := by
        rw [linesOf, Row.encodeLines_of_isUnicode (List.forall_mem_map.2 hunicode),
          Row.contentOf, List.flatMap_def]
      rw [hfault] at h
      rw [hcontent] at hafter
      exact ⟨pairs, rfl, (Except.ok.inj h).symm, hunicode, FileSystem.readBytes_write hafter⟩

theorem exists_predict_of_annotated (h : t.Tabular encode logits count) (hs : 0 < batchSize)
    {pairs : List (Json × Annotation)}
    (hreading : (annotated t fs input batchSize).outcome = .ok pairs) :
    ∀ s ∈ Row.texts (pairs.map Prod.fst),
      ∃ found, (t.predict (.list [.str s])).outcome = .ok found := by
  intro s hmem
  obtain ⟨bytes, hbytes, hrows⟩ := annotated_eq_ok hreading
  rw [outcome_annotated_eq h hbytes hrows hs] at hreading
  obtain ⟨found, hfound, -⟩ := Traversal.map_eq_ok_iff.1 hreading
  exact Traversal.ok_of_mapM_eq_ok hfound hmem

/-- Rows that were annotated get the same once more when they are read back, for all sizes of
batches. -/
theorem outcome_annotated_again (h : t.Tabular encode logits count) (hs : 0 < batchSize)
    {pairs : List (Json × Annotation)}
    (hreading : (annotated t fs input batchSize).outcome = .ok pairs) {after : FileSystem}
    {content : List UInt8} (hcontent : after.readBytes path = .ok content)
    (hrows : Row.ofBytes content = .ok (pairs.map fun pair => Row.annotate pair.1 pair.2))
    {again : ℤ} (hagain : 0 < again) :
    (annotated t after path again).outcome = .ok (Row.again pairs) := by
  obtain ⟨bytes, hbytes, hread⟩ := annotated_eq_ok hreading
  have hpredict := exists_predict_of_annotated h hs hreading
  have hpairs : pairs = (pairs.map Prod.fst).map fun row => (row, .ofEntities (found t row)) :=
    Except.ok.inj (hreading.symm.trans (outcome_annotated h hbytes hread hpredict hs))
  have htexts : Row.texts (pairs.map fun pair => Row.annotate pair.1 pair.2) =
      Row.texts (pairs.map Prod.fst) := by
    simp only [Row.texts, List.filterMap_map]
    exact List.filterMap_congr fun pair _ => Row.text?_annotate pair.1 pair.2
  rw [outcome_annotated h hcontent hrows (htexts ▸ hpredict) hagain, List.map_map]
  refine congrArg Except.ok (List.map_congr_left fun pair hpair => ?_)
  rw [hpairs, List.map_map] at hpair
  obtain ⟨first, -, rfl⟩ := List.mem_map.1 hpair
  simp only [Function.comp_apply, found, Row.text?_annotate]

/-- Tagging is idempotent: a run on what a run has written succeeds and writes the same bytes, in
place or to another file, whatever the rows were and whatever the sizes of the batches are. -/
theorem processFile_again (h : t.Tabular encode logits count) (hs : 0 < batchSize)
    {first : Outcome Summary} (hfirst : processFile t now fs input output batchSize = first)
    {summary : Summary} (hsummary : first.run.outcome = .ok summary) :
    ∃ content, first.files.readBytes output = .ok content ∧
      ∀ third later again, 0 < again → third = output ∨ CanCreate first.files third later →
        (processFile t later first.files output third again).run.outcome =
            .ok ⟨output, third, summary.total, summary.withEntities⟩ ∧
          (processFile t later first.files output third again).written = [third] ∧
          (processFile t later first.files output third again).files.readBytes third =
            .ok content := by
  subst hfirst
  obtain ⟨pairs, hreading, rfl, hunicode, hcontent⟩ := written_of_processFile hsummary
  obtain ⟨bytes, -, hrows⟩ := annotated_eq_ok hreading
  have hreadable : ∀ pair ∈ pairs, pair.1.IsReadable := fun pair hpair =>
    Row.isReadable_of_ofBytes hrows _ (List.mem_map_of_mem hpair)
  refine ⟨_, hcontent, fun third later again hagain hthird => ?_⟩
  have hcreate : CanCreate (processFile t now fs input output batchSize).files third later := by
    rcases hthird with rfl | hcreate
    · exact canCreate_of_readBytes hcontent later
    · exact hcreate
  have hsecond := outcome_annotated_again h hs hreading hcontent
    (Row.holdsAll_contentOf hreadable hunicode).rows hagain
  have hlines : ∀ pair ∈ Row.again pairs, (Row.line pair.1 pair.2).IsUnicode := by
    refine List.forall_mem_map.2 fun pair hpair => ?_
    rw [Row.line, Row.annotate_annotate]
    exact hunicode pair hpair
  obtain ⟨hrun, hwritten, hread⟩ := processFile_of_isUnicode hsecond hcreate hlines
  rw [Row.contentOf_again] at hread
  refine ⟨?_, hwritten, hread⟩
  rw [hrun, summaryOf, summaryOf, Row.again, List.length_map, List.filter_map, List.length_map]
  rfl

/-- Three rows that were tagged can be tagged in place. -/
theorem processFile_again_threeRows :
    Tagger.twoWords.Tabular Tagger.twoWordsIds Tagger.twoWordsLogits 3 ∧
    (processFile Tagger.twoWords 1 threeRowsFiles ⟨.relative, [text "rows"]⟩
      ⟨.relative, [text "tagged"]⟩ 1).run.outcome =
      .ok ⟨⟨.relative, [text "rows"]⟩, ⟨.relative, [text "tagged"]⟩, 3, 1⟩ ∧
    ∃ content,
      (processFile Tagger.twoWords 1 threeRowsFiles ⟨.relative, [text "rows"]⟩
        ⟨.relative, [text "tagged"]⟩ 1).files.readBytes ⟨.relative, [text "tagged"]⟩ =
        .ok content ∧
      (processFile Tagger.twoWords 2
        (processFile Tagger.twoWords 1 threeRowsFiles ⟨.relative, [text "rows"]⟩
          ⟨.relative, [text "tagged"]⟩ 1).files
        ⟨.relative, [text "tagged"]⟩ ⟨.relative, [text "tagged"]⟩ 5).files.readBytes
          ⟨.relative, [text "tagged"]⟩ = .ok content := by
  have hsummary : (processFile Tagger.twoWords 1 threeRowsFiles ⟨.relative, [text "rows"]⟩
      ⟨.relative, [text "tagged"]⟩ 1).run.outcome =
      .ok ⟨⟨.relative, [text "rows"]⟩, ⟨.relative, [text "tagged"]⟩, 3, 1⟩ :=
    Traversal.toOption_eq_some_iff.1 (by decide +kernel)
  obtain ⟨content, hcontent, hall⟩ :=
    processFile_again Tagger.tabular_twoWords (by decide) rfl hsummary
  exact ⟨Tagger.tabular_twoWords, hsummary, content, hcontent,
    (hall _ 2 5 (by decide) (Or.inl rfl)).2.2⟩

end Stage

end EntityTagger
