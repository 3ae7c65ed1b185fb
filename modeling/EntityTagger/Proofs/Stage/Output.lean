import EntityTagger.Proofs.Failure
import EntityTagger.Proofs.Files
import EntityTagger.Proofs.Utf8
import EntityTagger.Stage.Tree

/-! The output of one file. It holds all rows of the input or is cut short in front of a row that
has no form in UTF-8, and the two can be told apart. -/
namespace EntityTagger

namespace Row

/-- What is written for the rows of an input: the lines of all of them, or those before the first
one that cannot be encoded. -/
def IsWritten (input output : List UInt8) (fault : Option Utf8.EncodeError) : Prop :=
  ∃ rows found, ofBytes input = .ok rows ∧ found.length = rows.length ∧
    encodeLines (List.zipWith line rows found) = (output, fault)

theorem count_line (row : Json) (found : Annotation) : (line row found).count 10 = 1 := by
  rw [line, List.count_append, List.count_eq_zero.2 (Json.lineFeed_not_mem_write _)]
  rfl

theorem count_flatten_lines (rows : List Json) (found : List Annotation) :
    (List.zipWith line rows found).flatten.count 10 = (List.zipWith line rows found).length := by
  induction rows generalizing found with
  | nil => rfl
  | cons row rest ih =>
    cases found with
    | nil => rfl
    | cons first others =>
      rw [List.zipWith_cons_cons, List.flatten_cons, List.count_append, count_line, ih,
        List.length_cons, Nat.add_comm]

theorem IsWritten.count_eq_iff {input output : List UInt8} {fault : Option Utf8.EncodeError}
    (h : IsWritten input output fault) {rows : List Json} (hrows : ofBytes input = .ok rows) :
    output.count 10 = rows.length ↔ fault = none := by
  obtain ⟨read, found, hread, hlength, hlines⟩ := h
  obtain rfl : read = rows := Except.ok.inj (hread.symm.trans hrows)
  have hall : (List.zipWith line read found).length = read.length := by
    rw [List.length_zipWith, hlength, Nat.min_self]
  rcases encodeLines_cases (List.zipWith line read found) with hwhole | ⟨k, error, hk, hcut⟩
  · obtain ⟨rfl, rfl⟩ := Prod.mk.inj (hwhole.symm.trans hlines)
    rw [Utf8.count_bytesOf, count_flatten_lines, hall]
    simp
  · obtain ⟨rfl, rfl⟩ := Prod.mk.inj (hcut.symm.trans hlines)
    have htake : (List.zipWith line read found).take k =
        List.zipWith line (read.take k) (found.take k) := List.take_zipWith
    rw [Utf8.count_bytesOf, htake, count_flatten_lines, ← htake, List.length_take]
    simp only [reduceCtorEq, iff_false]
    omega

theorem IsWritten.not_cut {input output : List UInt8} (h : IsWritten input output none)
    (fault : Utf8.EncodeError) : ¬ IsWritten input output (some fault) := by
  intro hcut
  obtain ⟨rows, -, hrows, -⟩ := id h
  have hcount : output.count 10 = rows.length := (h.count_eq_iff hrows).2 rfl
  simpa using (hcut.count_eq_iff hrows).1 hcount

theorem map_fst_attach (rows : List Json) (found : List (List Entity)) :
    (attach rows found).map Prod.fst = rows := by
  fun_induction attach rows found with
  | case1 => rfl
  | case2 row rest entities found s htext ih => rw [List.map_cons, ih]
  | case3 row rest found hnone ih => rw [List.map_cons, ih]

end Row

namespace Stage

variable {t : Tagger} {fs : FileSystem} {input output : Path} {now batchSize : ℤ}

theorem annotated_eq_ok {pairs : List (Json × Annotation)}
    (h : (annotated t fs input batchSize).outcome = .ok pairs) :
    ∃ bytes, fs.readBytes input = .ok bytes ∧ Row.ofBytes bytes = .ok (pairs.map Prod.fst) := by
  simp only [annotated, Run.outcome_bind, Run.outcome_ofExcept, Run.pure_outcome] at h
  cases hbytes : fs.readBytes input with
  | error e => simp [hbytes, Except.mapError, Except.bind] at h
  | ok bytes =>
    refine ⟨bytes, rfl, ?_⟩
    cases hrows : Row.ofBytes bytes with
    | error e => simp [hbytes, hrows, Except.mapError, Except.bind] at h
    | ok rows =>
      simp only [hbytes, hrows, Except.mapError, Except.bind] at h
      split at h
      · simp at h
      · split at h
        · simp at h
        · obtain rfl := Except.ok.inj h
          rw [Row.map_fst_attach]

/-- The lines of annotated rows, up to the first one without a form in UTF-8. -/
def linesOf (pairs : List (Json × Annotation)) : List UInt8 × Option Utf8.EncodeError :=
  Row.encodeLines (pairs.map fun pair => Row.line pair.1 pair.2)

theorem isWritten_linesOf {bytes : List UInt8} {pairs : List (Json × Annotation)}
    (h : Row.ofBytes bytes = .ok (pairs.map Prod.fst)) :
    Row.IsWritten bytes (linesOf pairs).1 (linesOf pairs).2 := by
  refine ⟨_, pairs.map Prod.snd, h, by simp, ?_⟩
  rw [List.zipWith_map, List.zipWith_self]
  rfl

/-- The output of a task holds all rows of its input, each with what was found in it. -/
def HasRows (fs : FileSystem) (task : Task) : Prop :=
  ∃ input output, fs.readBytes task.input = .ok input ∧ fs.readBytes task.output = .ok output ∧
    Row.IsWritten input output none

def summaryOf (input output : Path) (pairs : List (Json × Annotation)) : Summary :=
  ⟨input, output, pairs.length, (pairs.filter fun pair => !pair.2.entities.isEmpty).length⟩

theorem processFile_of_annotated_error {e : Error}
    (h : (annotated t fs input batchSize).outcome = .error e) (now : ℤ) (output : Path) :
    (processFile t now fs input output batchSize).run.outcome = .error e ∧
      (processFile t now fs input output batchSize).files = fs ∧
      (processFile t now fs input output batchSize).written = [] := by
  simp only [processFile, h]
  exact ⟨trivial, trivial, trivial⟩

theorem processFile_of_annotated_ok {pairs : List (Json × Annotation)}
    (h : (annotated t fs input batchSize).outcome = .ok pairs) (now : ℤ) (output : Path) :
    (processFile t now fs input output batchSize).run.outcome =
        (writeRows now fs output pairs).run.outcome.map (fun _ => summaryOf input output pairs) ∧
      (processFile t now fs input output batchSize).files =
        (writeRows now fs output pairs).files ∧
      (processFile t now fs input output batchSize).written =
        (writeRows now fs output pairs).written := by
  simp only [processFile, h, Run.outcome_bind, Except.bind]
  refine ⟨?_, trivial, trivial⟩
  cases (writeRows now fs output pairs).run.outcome <;> rfl

/-- How writing ends: a row that cannot be encoded stops it. -/
def ending (summary : Summary) : Option Utf8.EncodeError → Except Error Summary
  | none => .ok summary
  | some fault => .error (.encoding fault)

/-- What tagging a file does to the files, and how it ends, after its rows were read and
annotated. -/
inductive FileStep (now : ℤ) (fs : FileSystem) (input output : Path) :
    Except Error (List (Json × Annotation)) → FileSystem → Except Error Summary → Prop
  | unread {e : Error} : FileStep now fs input output (.error e) fs (.error e)
  | refused {pairs : List (Json × Annotation)} {e : FileError}
      (hmade : fs.makeDirectories output.parent now = .error e) :
      FileStep now fs input output (.ok pairs) (fs.withDirectories output.parent now)
        (.error (.file e))
  | unwritten {pairs : List (Json × Annotation)} {made : FileSystem} {e : FileError}
      (hmade : fs.makeDirectories output.parent now = .ok made)
      (hafter : made.write output (.bytes (linesOf pairs).1) now = .error e) :
      FileStep now fs input output (.ok pairs) made (.error (.file e))
  | written {pairs : List (Json × Annotation)} {made after : FileSystem}
      (hmade : fs.makeDirectories output.parent now = .ok made)
      (hafter : made.write output (.bytes (linesOf pairs).1) now = .ok after) :
      FileStep now fs input output (.ok pairs) after
        (ending (summaryOf input output pairs) (linesOf pairs).2)

theorem FileStep.input_eq {next : FileSystem} {reading : Except Error (List (Json × Annotation))}
    {summary : Summary} (h : FileStep now fs input output reading next (.ok summary)) :
    summary.input = input := by
  generalize hended : (Except.ok summary : Except Error Summary) = ended at h
  cases h with
  | unread => simp at hended
  | refused hmade => simp at hended
  | unwritten hmade hafter => simp at hended
  | @written pairs made after hmade hafter =>
    cases hfault : (linesOf pairs).2 with
    | none =>
      rw [hfault] at hended
      rw [Except.ok.inj hended]
      rfl
    | some fault => simp [ending, hfault] at hended

theorem fileStep_processFile (t : Tagger) (now : ℤ) (fs : FileSystem) (input output : Path)
    (batchSize : ℤ) : FileStep now fs input output (annotated t fs input batchSize).outcome
      (processFile t now fs input output batchSize).files
      (processFile t now fs input output batchSize).run.outcome := by
  cases hreading : (annotated t fs input batchSize).outcome with
  | error e =>
    simp only [processFile, hreading]
    exact .unread
  | ok pairs =>
    simp only [processFile, hreading, Run.outcome_bind, Except.bind, writeRows]
    cases hmade : fs.makeDirectories output.parent now with
    | error e => exact .refused hmade
    | ok made =>
      have hlines : Row.encodeLines (pairs.map fun pair => Row.line pair.1 pair.2) =
          linesOf pairs := rfl
      simp only [hlines]
      cases hafter : made.write output (.bytes (linesOf pairs).1) now with
      | error e => exact .unwritten hmade hafter
      | ok after =>
        have hwritten : FileStep now fs input output (.ok pairs) after
            (ending (summaryOf input output pairs) (linesOf pairs).2) := .written hmade hafter
        cases hfault : (linesOf pairs).2 with
        | none =>
          rw [hfault] at hwritten
          exact hwritten
        | some fault =>
          rw [hfault] at hwritten
          exact hwritten

end Stage

end EntityTagger
