import EntityTagger.Proofs.Stage
import EntityTagger.Proofs.Stage.Output

/-! Which texts of a file are sent to the model: all of them, once and in order, in parts of at most
the size that was asked for, and before anything is written. Only for a negative size none is sent,
and the rows are written as if they had no texts. -/
namespace EntityTagger

/-- The texts that were given to the tokenizer at once, if that is what happened. -/
def Event.texts? : Event → Option (List Text)
  | .tokenized texts _ => some texts
  | _ => none

namespace Run

variable {α β : Type}

/-- The lists of texts that were sent to the model, in order. -/
def sent (x : Run α) : List (List Text) := x.events.filterMap Event.texts?

@[simp] theorem sent_ofExcept (x : Except Error α) : (ofExcept x).sent = [] := rfl

theorem sent_bind_of_ok {x : Run α} {a : α} (h : x.outcome = .ok a) (f : α → Run β) :
    (x >>= f).sent = x.sent ++ (f a).sent := by
  rw [bind_of_ok h, sent, List.filterMap_append]
  rfl

theorem sent_bind_of_error {x : Run α} {e : Error} (h : x.outcome = .error e) (f : α → Run β) :
    (x >>= f).sent = x.sent := by
  rw [bind_of_error h]
  rfl

theorem sent_bind_of_silent (x : Run α) {f : α → Run β} (h : ∀ a, (f a).sent = []) :
    (x >>= f).sent = x.sent := by
  cases hx : x.outcome with
  | ok a => rw [sent_bind_of_ok hx, h a, List.append_nil]
  | error e => exact sent_bind_of_error hx f

end Run

theorem Batch.sent_build (tokenizer : Tokenizer) (texts : List Text) (maxLength filler : ℤ) :
    (Batch.build tokenizer texts maxLength filler).sent = [texts] := by
  rw [Batch.build, Run.sent_bind_of_ok rfl, Run.sent_bind_of_silent _ fun _ => rfl]
  rfl

namespace Tagger

theorem sent_annotate (t : Tagger) (texts : List Text) : (t.annotate texts).sent = [texts] := by
  rw [annotate, Run.sent_bind_of_silent, Batch.sent_build]
  intro batch
  by_cases hwidth : batch.ids.width = 0
  · simp only [hwidth, if_true]
    exact Run.sent_bind_of_silent _ fun _ => rfl
  · simp only [hwidth, if_false]
    rw [Run.sent_bind_of_silent]
    · rfl
    · intro _
      rw [Run.sent_bind_of_silent _ fun logits => ?_, Run.sent_ofExcept]
      rw [Run.sent_bind_of_silent _ fun predictions => ?_, Run.sent_ofExcept]
      rw [Run.sent_bind_of_silent _ fun entities => rfl, Run.sent_ofExcept]

/-- The entities of some texts are found by sending these texts once, all of them together. -/
theorem sent_entitiesPerText (t : Tagger) (texts : List Text) :
    (t.entitiesPerText texts).sent = [texts] := by
  rw [entitiesPerText, Run.sent_bind_of_silent _ fun _ => rfl, sent_annotate]

end Tagger

namespace Stage

variable {t : Tagger} {fs : FileSystem} {input output : Path} {now batchSize : ℤ}

/-! ### Parts of a list -/

section Parts

variable {α : Type} {size : ℤ} {items : List α} {cut : List (List α)}

/-- The parts that items are cut into: none is empty or longer than a size, and one after the other
they are all items, in order and once each. -/
structure IsCut (size : ℤ) (items : List α) (cut : List (List α)) : Prop where
  flatten_eq : cut.flatten = items
  ne_nil : ∀ part ∈ cut, part ≠ []
  length_le : ∀ part ∈ cut, (part.length : ℤ) ≤ size

theorem isCut_parts (hs : 0 < size) (items : List α) :
    IsCut size items (parts size.toNat items) where
  flatten_eq := flatten_parts (by omega) items
  ne_nil part := ne_nil_of_mem_parts (by omega)
  length_le part hpart := by
    have := length_le_of_mem_parts hpart
    omega

theorem isCut_nil (size : ℤ) : IsCut size ([] : List α) [] :=
  ⟨rfl, by simp, by simp⟩

theorem IsCut.pos (h : IsCut size items cut) (hne : items ≠ []) : 0 < size := by
  have hcut : cut ≠ [] := by
    rintro rfl
    exact hne h.flatten_eq.symm
  obtain ⟨part, hpart⟩ := List.exists_mem_of_ne_nil cut hcut
  have hpos := List.length_pos_iff.2 (h.ne_nil part hpart)
  have hle := h.length_le part hpart
  omega

end Parts

/-! ### What a file sends -/

/-- The texts that are sent are the first parts, all of them unless one fails. -/
theorem sent_tagBatches (t : Tagger) (batches : List (List Text)) :
    (tagBatches t batches).sent <+: batches ∧
      ∀ found, (tagBatches t batches).outcome = .ok found →
        (tagBatches t batches).sent = batches := by
  induction batches with
  | nil => exact ⟨List.prefix_rfl, fun _ _ => rfl⟩
  | cons batch rest ih =>
    obtain ⟨hstart, hall⟩ := ih
    cases hbatch : (t.entitiesPerText batch).outcome with
    | error e =>
      rw [tagBatches, Run.sent_bind_of_error hbatch, Run.bind_of_error hbatch,
        Tagger.sent_entitiesPerText]
      refine ⟨⟨rest, rfl⟩, fun found hfound => ?_⟩
      simp at hfound
    | ok entities =>
      have hsent : (tagBatches t (batch :: rest)).sent = batch :: (tagBatches t rest).sent := by
        rw [tagBatches, Run.sent_bind_of_ok hbatch, Tagger.sent_entitiesPerText,
          Run.sent_bind_of_silent _ fun _ => rfl]
        rfl
      rw [hsent]
      refine ⟨List.cons_prefix_cons.2 ⟨rfl, hstart⟩, fun found hfound => ?_⟩
      rw [tagBatches, Run.outcome_bind, hbatch] at hfound
      simp only [Except.bind, Run.outcome_bind] at hfound
      obtain ⟨more, hmore, -⟩ := Traversal.bind_eq_ok_iff.1 hfound
      rw [hall more hmore]

def HoldsRows (fs : FileSystem) (input : Path) (rows : List Json) : Prop :=
  ∃ bytes, fs.readBytes input = .ok bytes ∧ Row.ofBytes bytes = .ok rows

variable {rows : List Json} {cut : List (List Text)}

theorem annotated_eq_tagBatches (h : HoldsRows fs input rows)
    (hcut : batches batchSize (Row.texts rows) = .ok cut) :
    (annotated t fs input batchSize).sent = (tagBatches t cut).sent ∧
      (annotated t fs input batchSize).outcome =
        (tagBatches t cut).outcome.map (Row.attach rows) := by
  obtain ⟨bytes, hbytes, hrows⟩ := h
  constructor
  · rw [annotated, Run.sent_bind_of_ok (a := bytes), Run.sent_bind_of_ok (a := rows),
      Run.sent_bind_of_ok (a := cut), Run.sent_bind_of_silent _ fun _ => rfl]
    · rfl
    · exact hcut
    · exact hrows
    · rw [Run.outcome_ofExcept, hbytes]
      rfl
  · simp only [annotated, Run.outcome_bind, Run.outcome_ofExcept, hbytes, hrows, hcut,
      Except.mapError, Except.bind]
    cases (tagBatches t cut).outcome <;> rfl

theorem sent_writeRows (now : ℤ) (fs : FileSystem) (output : Path)
    (pairs : List (Json × Annotation)) : (writeRows now fs output pairs).run.sent = [] := by
  unfold writeRows
  split
  · rfl
  · dsimp only
    split
    · rfl
    · split <;> rfl

theorem sent_processFile (t : Tagger) (now : ℤ) (fs : FileSystem) (input output : Path)
    (batchSize : ℤ) : (processFile t now fs input output batchSize).run.sent =
      (annotated t fs input batchSize).sent := by
  cases hreading : (annotated t fs input batchSize).outcome with
  | error e =>
    simp only [processFile, hreading]
    rfl
  | ok pairs =>
    simp only [processFile, hreading]
    apply Run.sent_bind_of_silent
    intro _
    rw [Run.sent_bind_of_silent _ fun _ => rfl, sent_writeRows]

theorem written_writeRows (now : ℤ) (fs : FileSystem) (output : Path)
    (pairs : List (Json × Annotation)) :
    CanCreate fs output now ∧ (writeRows now fs output pairs).written = [output] ∨
      ¬ CanCreate fs output now ∧ (writeRows now fs output pairs).written = [] ∧
        ∃ e, (writeRows now fs output pairs).run.outcome = .error e := by
  cases hmade : fs.makeDirectories output.parent now with
  | error e =>
    right
    refine ⟨?_, by simp only [writeRows, hmade], .file e, by simp only [writeRows, hmade]; rfl⟩
    rintro ⟨made, place, hother, -⟩
    simp [hmade] at hother
  | ok made =>
    have hlines : Row.encodeLines (pairs.map fun pair => Row.line pair.1 pair.2) =
      linesOf pairs := rfl
    cases hafter : made.write output (.bytes (linesOf pairs).1) now with
    | error e =>
      right
      refine ⟨?_, by simp only [writeRows, hmade, hlines, hafter], .file e,
        by simp only [writeRows, hmade, hlines, hafter]; rfl⟩
      rintro ⟨other, place, hother, hplace, hfree⟩
      obtain rfl := Except.ok.inj (hmade.symm.trans hother)
      obtain ⟨after, hwrite⟩ : ∃ after,
          made.write output (.bytes (linesOf pairs).1) now = .ok after :=
        FileSystem.exists_write hplace hfree
      simp [hwrite] at hafter
    | ok after =>
      left
      obtain ⟨place, hplace⟩ := FileSystem.resolve_of_write hafter
      refine ⟨⟨made, place, hmade, hplace, (FileSystem.write_eq_ok hplace hafter).1⟩, ?_⟩
      simp only [writeRows, hmade, hlines, hafter]
      split <;> rfl

/-- What is meant by sending the texts of a file. Where it ends well, and where anything is written,
all of them were sent, in parts of the size that was asked for; where there are no such parts, it
ends with an error before anything is written. -/
structure SendsAll (rows : List Json) (batchSize : ℤ) (ended : Outcome Summary) : Prop where
  of_ok : ∀ summary, ended.run.outcome = .ok summary →
    IsCut batchSize (Row.texts rows) ended.run.sent
  of_written : ended.written ≠ [] → IsCut batchSize (Row.texts rows) ended.run.sent
  refused : (¬ ∃ cut, IsCut batchSize (Row.texts rows) cut) →
    (∃ e, ended.run.outcome = .error e) ∧ ended.written = []

theorem sendsAll_of_annotated
    (h : ∀ pairs, (annotated t fs input batchSize).outcome = .ok pairs →
      IsCut batchSize (Row.texts rows) (annotated t fs input batchSize).sent) :
    SendsAll rows batchSize (processFile t now fs input output batchSize) := by
  cases hreading : (annotated t fs input batchSize).outcome with
  | error e =>
    obtain ⟨hended, -, hwritten⟩ := processFile_of_annotated_error hreading now output
    refine ⟨fun summary hok => ?_, fun hne => absurd hwritten hne, fun _ => ⟨⟨e, hended⟩, hwritten⟩⟩
    simp [hended] at hok
  | ok pairs =>
    have hcut := h pairs hreading
    rw [← sent_processFile t now fs input output batchSize] at hcut
    exact ⟨fun _ _ => hcut, fun _ => hcut, fun hnone => absurd ⟨_, hcut⟩ hnone⟩

theorem sends_of_pos (h : HoldsRows fs input rows) (hs : 0 < batchSize) (t : Tagger) (now : ℤ)
    (output : Path) : SendsAll rows batchSize (processFile t now fs input output batchSize) ∧
      (processFile t now fs input output batchSize).run.sent <+:
        parts batchSize.toNat (Row.texts rows) := by
  have hcut : batches batchSize (Row.texts rows) =
      .ok (parts batchSize.toNat (Row.texts rows)) := by
    rw [batches, if_neg (by omega), if_pos hs]
  obtain ⟨hsent, houtcome⟩ := annotated_eq_tagBatches (t := t) h hcut
  obtain ⟨hstart, hall⟩ := sent_tagBatches t (parts batchSize.toNat (Row.texts rows))
  constructor
  · apply sendsAll_of_annotated
    intro pairs hpairs
    rw [houtcome] at hpairs
    obtain ⟨found, hfound, -⟩ := Traversal.map_eq_ok_iff.1 hpairs
    rw [hsent, hall found hfound]
    exact isCut_parts hs _
  · rw [sent_processFile, hsent]
    exact hstart

theorem refused_of_zero (h : HoldsRows fs input rows) (t : Tagger) (now : ℤ) (output : Path) :
    (processFile t now fs input output 0).run.outcome = .error (.misuse .badValue) ∧
      (processFile t now fs input output 0).files = fs ∧
      (processFile t now fs input output 0).written = [] := by
  obtain ⟨bytes, hbytes, hrows⟩ := h
  apply processFile_of_annotated_error
  simp only [annotated, Run.outcome_bind, Run.outcome_ofExcept, hbytes, hrows, batches, if_true,
    Except.mapError, Except.bind]

/-- The rows of a file as if none had a text. -/
def withoutEntities (rows : List Json) : List (Json × Annotation) :=
  rows.map fun row => (row, .ofEntities [])

theorem attach_nil (rows : List Json) : Row.attach rows [] = withoutEntities rows := by
  induction rows with
  | nil => rfl
  | cons row rest ih =>
    rw [withoutEntities, List.map_cons, ← withoutEntities, ← ih, Row.attach]
    intro s entities found _ hfound
    simp at hfound

theorem annotated_of_neg (h : HoldsRows fs input rows) (hs : batchSize < 0) (t : Tagger) :
    (annotated t fs input batchSize).sent = [] ∧
      (annotated t fs input batchSize).outcome = .ok (withoutEntities rows) := by
  have hcut : batches batchSize (Row.texts rows) = .ok [] := by
    rw [batches, if_neg (by omega), if_neg (by omega)]
  obtain ⟨hsent, houtcome⟩ := annotated_eq_tagBatches (t := t) h hcut
  refine ⟨hsent, ?_⟩
  rw [houtcome, ← attach_nil]
  rfl

theorem sendsAll_iff_of_neg (h : HoldsRows fs input rows) (hs : batchSize < 0) (t : Tagger)
    (now : ℤ) (output : Path) :
    SendsAll rows batchSize (processFile t now fs input output batchSize) ↔
      Row.texts rows = [] ∨ ¬ CanCreate fs output now := by
  obtain ⟨hsent, hreading⟩ := annotated_of_neg h hs t
  have hnone : (processFile t now fs input output batchSize).run.sent = [] :=
    (sent_processFile ..).trans hsent
  obtain ⟨hended, -, hwritten⟩ := processFile_of_annotated_ok hreading now output
  constructor
  · intro hsends
    by_contra hnot
    obtain ⟨htexts, hcreate⟩ := not_or.1 hnot
    rcases written_writeRows now fs output (withoutEntities rows) with ⟨-, hone⟩ | ⟨hbarred, -⟩
    · have hcut := hsends.of_written (by rw [hwritten, hone]; exact List.cons_ne_nil _ _)
      have hpos := hcut.pos htexts
      omega
    · exact hcreate hbarred
  · rintro (htexts | hbarred)
    · apply sendsAll_of_annotated
      intro pairs _
      rw [hsent, htexts]
      exact isCut_nil batchSize
    · rcases written_writeRows now fs output (withoutEntities rows) with ⟨hcreate, -⟩ | ⟨-, hno, e, he⟩
      · exact absurd hcreate hbarred
      · rw [he] at hended
        refine ⟨fun summary hok => ?_, fun hne => absurd (hwritten.trans hno) hne,
          fun _ => ⟨⟨e, hended⟩, hwritten.trans hno⟩⟩
        simp [hended, Except.map] at hok

/-- For every file with rows and every size, all texts are sent as they should, unless the size is
negative, there is a text, and the output can be written: then all of them are skipped. With a
positive size the texts are sent in order up to a part that fails, a size of zero is refused with
nothing touched, and for a negative one the rows are written as if they had no texts. -/
theorem processFile_sendsAll_iff (h : HoldsRows fs input rows) (t : Tagger) (now : ℤ)
    (output : Path) (batchSize : ℤ) :
    (SendsAll rows batchSize (processFile t now fs input output batchSize) ↔
      ¬ (batchSize < 0 ∧ Row.texts rows ≠ [] ∧ CanCreate fs output now)) ∧
    (0 < batchSize → ∃ cut, IsCut batchSize (Row.texts rows) cut ∧
      (processFile t now fs input output batchSize).run.sent <+: cut) ∧
    (batchSize = 0 →
      (processFile t now fs input output batchSize).run.outcome = .error (.misuse .badValue) ∧
      (processFile t now fs input output batchSize).files = fs ∧
      (processFile t now fs input output batchSize).written = []) ∧
    (batchSize < 0 →
      (processFile t now fs input output batchSize).run.sent = [] ∧
      (processFile t now fs input output batchSize).files =
        (writeRows now fs output (withoutEntities rows)).files ∧
      (processFile t now fs input output batchSize).written =
        (writeRows now fs output (withoutEntities rows)).written) := by
  refine ⟨?_, fun hs => ?_, ?_, fun hs => ?_⟩
  · rcases lt_trichotomy batchSize 0 with hs | rfl | hs
    · rw [sendsAll_iff_of_neg h hs]
      tauto
    · obtain ⟨hended, -, hwritten⟩ := refused_of_zero h t now output
      refine ⟨fun _ hneg => lt_irrefl 0 hneg.1, fun _ => ⟨fun summary hok => ?_,
        fun hne => absurd hwritten hne, fun _ => ⟨⟨_, hended⟩, hwritten⟩⟩⟩
      simp [hended] at hok
    · exact ⟨fun _ hneg => lt_asymm hs hneg.1, fun _ => (sends_of_pos h hs t now output).1⟩
  · exact ⟨_, isCut_parts hs _, (sends_of_pos h hs t now output).2⟩
  · rintro rfl
    exact refused_of_zero h t now output
  · obtain ⟨hsent, hreading⟩ := annotated_of_neg h hs t
    exact ⟨(sent_processFile ..).trans hsent,
      (processFile_of_annotated_ok hreading now output).2⟩

def rowsOfThree : List Json := (Row.ofBytes threeRows).toOption.getD []

/-- A size of minus one skips the one text of three rows, and the run ends well nevertheless. -/
theorem not_sendsAll_threeRows :
    HoldsRows threeRowsFiles ⟨.relative, [text "rows"]⟩ rowsOfThree ∧
    Row.texts rowsOfThree = [text "off on"] ∧
    ¬ SendsAll rowsOfThree (-1) (processFile Tagger.twoWords 1 threeRowsFiles
      ⟨.relative, [text "rows"]⟩ ⟨.relative, [text "tagged"]⟩ (-1)) ∧
    (processFile Tagger.twoWords 1 threeRowsFiles ⟨.relative, [text "rows"]⟩
      ⟨.relative, [text "tagged"]⟩ (-1)).run.outcome =
      .ok ⟨⟨.relative, [text "rows"]⟩, ⟨.relative, [text "tagged"]⟩, 3, 0⟩ := by
  have hrows : HoldsRows threeRowsFiles ⟨.relative, [text "rows"]⟩ rowsOfThree := by
    refine ⟨threeRows, Traversal.toOption_eq_some_iff.1 (by decide +kernel), ?_⟩
    obtain ⟨rows, hrows⟩ : ∃ rows, Row.ofBytes threeRows = .ok rows :=
      Traversal.isSome_toOption_iff.1 (by decide +kernel)
    rw [rowsOfThree, hrows]
    rfl
  have htexts : Row.texts rowsOfThree = [text "off on"] := by decide +kernel
  have houtput : CanCreate threeRowsFiles ⟨.relative, [text "tagged"]⟩ 1 := by
    refine ⟨threeRowsFiles, [text "tagged"], Traversal.toOption_eq_some_iff.1 (by decide +kernel),
      Traversal.toOption_eq_some_iff.1 (by decide +kernel), ?_⟩
    rintro ⟨time, hdir⟩
    have hnone : threeRowsFiles.node? [text "tagged"] = none := by decide +kernel
    simp [hnone] at hdir
  have hne : Row.texts rowsOfThree ≠ [] := by
    rw [htexts]
    exact List.cons_ne_nil _ _
  refine ⟨hrows, htexts, fun hsends => ?_, Traversal.toOption_eq_some_iff.1 (by decide +kernel)⟩
  exact (processFile_sendsAll_iff hrows Tagger.twoWords 1 ⟨.relative, [text "tagged"]⟩ (-1)).1.1
    hsends ⟨by decide, hne, houtput⟩

end Stage

end EntityTagger
