import EntityTagger.Proofs.Obstacles
import EntityTagger.Proofs.Prediction
import EntityTagger.Proofs.Row.Reading
import EntityTagger.Proofs.Stage.Output

/-! What keeps a file from being tagged, and what is left then: the files as they were, and no new
directory unless the way to the output leads back out of one that is missing. -/
namespace EntityTagger

namespace Stage

variable {t : Tagger} {fs : FileSystem} {input output : Path} {now batchSize : ℤ} {e : Error}

/-- What keeps a file from being tagged before anything is written: it cannot be read or holds no
rows, there are no batches of the given size, or one of them, after any number of others, cannot be
tagged. -/
inductive Hindrance (t : Tagger) (fs : FileSystem) (input : Path) (batchSize : ℤ) : Error → Prop
  | unreadable {error : FileError} (hbytes : fs.readBytes input = .error error) :
      Hindrance t fs input batchSize (.file error)
  | noRows {bytes : List UInt8} {e : Error} (hbytes : fs.readBytes input = .ok bytes)
      (hrows : Row.HoldsNone bytes e) : Hindrance t fs input batchSize e
  | noBatches {bytes : List UInt8} {rows : List Json} (hbytes : fs.readBytes input = .ok bytes)
      (hrows : Row.ofBytes bytes = .ok rows) (hsize : batchSize = 0) :
      Hindrance t fs input batchSize (.misuse .badValue)
  | untagged {bytes : List UInt8} {rows : List Json} {before after : List (List Text)}
      {batch : List Text} {e : Error} (hbytes : fs.readBytes input = .ok bytes)
      (hrows : Row.ofBytes bytes = .ok rows)
      (hbatches : batches batchSize (Row.texts rows) = .ok (before ++ batch :: after))
      (hbefore : ∀ b ∈ before, ∃ found, (t.entitiesPerText b).outcome = .ok found)
      (hbatch : (t.entitiesPerText batch).outcome = .error e) : Hindrance t fs input batchSize e

theorem outcome_tagBatches_eq_mapM (t : Tagger) (batches : List (List Text)) :
    (tagBatches t batches).outcome =
      (batches.mapM fun batch => (t.entitiesPerText batch).outcome).map List.flatten := by
  induction batches with
  | nil => rfl
  | cons batch rest ih =>
    rw [tagBatches, Run.outcome_bind]
    cases hbatch : (t.entitiesPerText batch).outcome with
    | error e =>
      rw [Traversal.mapM_cons_error (f := fun batch => (t.entitiesPerText batch).outcome) hbatch]
      rfl
    | ok found =>
      rw [Traversal.mapM_cons_ok (f := fun batch => (t.entitiesPerText batch).outcome) hbatch]
      show Run.outcome (tagBatches t rest >>= fun more => pure (found ++ more)) = _
      rw [Run.outcome_bind, ih]
      cases rest.mapM fun batch => (t.entitiesPerText batch).outcome <;> rfl

theorem batches_eq_error_iff {texts : List Text} :
    batches batchSize texts = .error e ↔ batchSize = 0 ∧ e = .misuse .badValue := by
  rw [batches]
  split_ifs with hsize
  · simp [hsize, eq_comm]
  · simp [hsize]

/-- Reading and tagging fail exactly for want of one of the things they need. -/
theorem annotated_eq_error_iff :
    (annotated t fs input batchSize).outcome = .error e ↔ Hindrance t fs input batchSize e := by
  simp only [annotated, Run.outcome_bind, Run.outcome_ofExcept, Run.pure_outcome]
  constructor
  · intro h
    cases hbytes : fs.readBytes input with
    | error error =>
      rw [hbytes] at h
      obtain rfl : Error.file error = e := Except.error.inj h
      exact .unreadable hbytes
    | ok bytes =>
      simp only [hbytes, Except.mapError, Except.bind] at h
      cases hrows : Row.ofBytes bytes with
      | error fault =>
        rw [hrows] at h
        obtain rfl : fault = e := Except.error.inj h
        exact .noRows hbytes (Row.ofBytes_eq_error_iff.1 hrows)
      | ok rows =>
        simp only [hrows] at h
        cases hbatches : batches batchSize (Row.texts rows) with
        | error fault =>
          rw [hbatches] at h
          obtain rfl : fault = e := Except.error.inj h
          obtain ⟨hsize, rfl⟩ := batches_eq_error_iff.1 hbatches
          exact .noBatches hbytes hrows hsize
        | ok cut =>
          simp only [hbatches, outcome_tagBatches_eq_mapM] at h
          cases htags : cut.mapM fun batch => (t.entitiesPerText batch).outcome with
          | ok found => simp [htags, Except.map] at h
          | error fault =>
            rw [htags] at h
            obtain rfl : fault = e := Except.error.inj h
            obtain ⟨before, batch, after, rfl, hbefore, hbatch⟩ :=
              Traversal.mapM_eq_error_iff.1 htags
            exact .untagged hbytes hrows hbatches hbefore hbatch
  · intro h
    cases h with
    | unreadable hbytes =>
      rw [hbytes]
      rfl
    | noRows hbytes hrows =>
      simp only [hbytes, Except.mapError, Except.bind, Row.ofBytes_eq_error_iff.2 hrows]
    | noBatches hbytes hrows hsize =>
      simp only [hbytes, Except.mapError, Except.bind, hrows,
        batches_eq_error_iff.2 ⟨hsize, rfl⟩]
    | @untagged bytes rows before after batch e hbytes hrows hbatches hbefore hbatch =>
      have htags : (before ++ batch :: after).mapM (fun b => (t.entitiesPerText b).outcome) =
          .error e := Traversal.mapM_eq_error_iff.2 ⟨before, batch, after, rfl, hbefore, hbatch⟩
      simp only [hbytes, Except.mapError, Except.bind, hrows, hbatches,
        outcome_tagBatches_eq_mapM, htags, Except.map]

theorem processFile_of_hindrance (h : Hindrance t fs input batchSize e) (now : ℤ) (output : Path) :
    (processFile t now fs input output batchSize).run.outcome = .error e ∧
      (processFile t now fs input output batchSize).files = fs ∧
      (processFile t now fs input output batchSize).written = [] :=
  processFile_of_annotated_error (annotated_eq_error_iff.2 h) now output

/-- Where no file can be written none is, and only directories may be added on the way. -/
theorem writeRows_of_not_admits (hground : fs.IsGrounded) (hbarred : ¬ fs.Admits output)
    (now : ℤ) (pairs : List (Json × Annotation)) :
    (∃ error, (writeRows now fs output pairs).run.outcome = .error (.file error)) ∧
      (writeRows now fs output pairs).written = [] ∧
      FileSystem.AddsDirectories (FileSystem.Around (fs.IsMissing output.parent.parts)) fs
        (writeRows now fs output pairs).files ∧
      (fs.IsDirect output.parts → (writeRows now fs output pairs).files = fs) := by
  cases hmade : fs.makeDirectories output.parent now with
  | error error =>
    simp only [writeRows, hmade]
    refine ⟨⟨error, rfl⟩, trivial, ?_, fun hdirect => ?_⟩
    · exact FileSystem.addsDirectories_withDirectories hground.root output.parent now
    · exact hdirect.parent.withDirectories_eq hground hmade
  | ok made =>
    obtain ⟨bytes, fault, hlines⟩ : ∃ bytes fault,
        Row.encodeLines (pairs.map fun pair => Row.line pair.1 pair.2) = (bytes, fault) :=
      ⟨_, _, rfl⟩
    cases hafter : made.write output (.bytes bytes) now with
    | error error =>
      simp only [writeRows, hmade, hlines, hafter]
      refine ⟨⟨error, rfl⟩, trivial, ?_, fun hdirect => ?_⟩
      · exact FileSystem.addsDirectories_of_makeDirectories hground.root hmade
      · exact hdirect.eq_of_write hground hmade hafter
    | ok after =>
      exact absurd ((hground.admits_iff output _ now).2 ⟨made, after, hmade, hafter⟩) hbarred

/-- A file that fails to be tagged leaves the files as they were, whatever is wrong with the input,
the size of the batches or the model. If no file can be written under the path of the output, files
are left as they were as well, and so is all else unless the path leads back out of a directory that
is missing: then such directories may have been added. -/
theorem processFile_untouched (hground : fs.IsGrounded) (t : Tagger) (now : ℤ)
    (input output : Path) (batchSize : ℤ) :
    (∀ e, Hindrance t fs input batchSize e →
      (∃ error, (processFile t now fs input output batchSize).run.outcome = .error error) ∧
        (processFile t now fs input output batchSize).files = fs ∧
        (processFile t now fs input output batchSize).written = []) ∧
    ((∀ e, ¬ Hindrance t fs input batchSize e) → ¬ fs.Admits output →
      (∃ error, (processFile t now fs input output batchSize).run.outcome = .error error) ∧
        (processFile t now fs input output batchSize).written = [] ∧
        FileSystem.AddsDirectories (FileSystem.Around (fs.IsMissing output.parent.parts)) fs
          (processFile t now fs input output batchSize).files ∧
        (fs.IsDirect output.parts →
          (processFile t now fs input output batchSize).files = fs)) := by
  constructor
  · intro e he
    obtain ⟨hfails, hfiles, hwritten⟩ := processFile_of_hindrance he now output
    exact ⟨⟨e, hfails⟩, hfiles, hwritten⟩
  · intro hnone hbarred
    obtain ⟨pairs, hreading⟩ : ∃ pairs, (annotated t fs input batchSize).outcome = .ok pairs := by
      cases hreading : (annotated t fs input batchSize).outcome with
      | ok pairs => exact ⟨pairs, rfl⟩
      | error e => exact absurd (annotated_eq_error_iff.1 hreading) (hnone e)
    obtain ⟨⟨error, herror⟩, hwritten, hadds, hdirect⟩ :=
      writeRows_of_not_admits hground hbarred now pairs
    simp only [processFile, hreading, Run.outcome_bind, herror, Except.bind]
    exact ⟨⟨_, rfl⟩, hwritten, hadds, hdirect⟩

def twoFiles : FileSystem :=
  ⟨[([], .directory 0), ([text "rows"], .file (.bytes []) 0), ([text "note"], .file (.bytes []) 0)]⟩

/-- A file in the way to the output is noticed before anything is made. -/
theorem processFile_untouched_twoFiles :
    twoFiles.IsGrounded ∧
    (processFile Tagger.twoWords 1 twoFiles ⟨.relative, [text "rows"]⟩
      ⟨.relative, [text "note", text "tagged"]⟩ 1).files = twoFiles := by
  have hground : twoFiles.IsGrounded := by
    refine ⟨⟨0, rfl⟩, fun {place node} hnode => ⟨0, ?_⟩⟩
    have hmem := Association.mem_of_get? hnode
    simp only [twoFiles, List.mem_cons, Prod.mk.injEq, List.not_mem_nil, or_false] at hmem
    rcases hmem with ⟨rfl, -⟩ | ⟨rfl, -⟩ | ⟨rfl, -⟩ <;> rfl
  have hnone : ∀ e, ¬ Hindrance Tagger.twoWords twoFiles ⟨.relative, [text "rows"]⟩ 1 e := by
    intro e he
    have hreading : (annotated Tagger.twoWords twoFiles ⟨.relative, [text "rows"]⟩ 1).outcome =
        .ok [] := rfl
    simp [annotated_eq_error_iff.2 he] at hreading
  have hbarred : ¬ twoFiles.Admits ⟨.relative, [text "note", text "tagged"]⟩ := by
    intro hadmits
    exact hadmits.way [text "note"] ⟨[text "note"], List.prefix_rfl, rfl⟩ ⟨.bytes [], 0, rfl⟩
  have hdirect : twoFiles.IsDirect [text "note", text "tagged"] :=
    FileSystem.isDirect_of_not_dots (by decide)
  refine ⟨hground, ?_⟩
  exact ((processFile_untouched hground Tagger.twoWords 1 _ _ 1).2 hnone hbarred).2.2.2 hdirect

/-- A way that leads back out of a missing directory to a file leaves the directory made. -/
theorem processFile_leaves_directory :
    (processFile Tagger.twoWords 1 twoFiles ⟨.relative, [text "rows"]⟩
      ⟨.relative, [text "new", text "..", text "note", text "tagged"]⟩ 1).run.outcome =
      .error (.file ⟨.present, text "new/../note"⟩) ∧
    twoFiles.isPresent ⟨.relative, [text "new"]⟩ = false ∧
    (processFile Tagger.twoWords 1 twoFiles ⟨.relative, [text "rows"]⟩
      ⟨.relative, [text "new", text "..", text "note", text "tagged"]⟩ 1).files.isDirectory
        ⟨.relative, [text "new"]⟩ = true := ⟨rfl, rfl, rfl⟩

end Stage

end EntityTagger
