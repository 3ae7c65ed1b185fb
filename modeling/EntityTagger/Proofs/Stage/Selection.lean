import EntityTagger.Proofs.Stage.Overlap
import EntityTagger.Proofs.Stage.Rerun

/-! Which paths below a directory are tagged. Neither the paths that fit nor what is newer at an
output is asked whether it is a file, so that a directory can be taken for an input or for an output.
Everywhere else just the files are tagged for which no newer file is there. -/
namespace EntityTagger.Stage

open FileSystem Glob

variable {t : Tagger} {now batchSize : ℤ} {fs mid : FileSystem}
  {inputDirectory outputDirectory path : Path} {pattern name : Text} {task : Task}
  {before rest paths : List Path} {tasks : List Task}

/-- The output of a task is a file that was changed later than the input. -/
def HasNewerFile (fs : FileSystem) (task : Task) : Prop :=
  ∃ input content time, fs.find? task.input = some input ∧
    fs.find? task.output = some (.file content time) ∧ input.modified < time

/-- What stands at the output of a task is a directory that was changed later than the input. -/
def HasNewerDirectory (fs : FileSystem) (task : Task) : Prop :=
  ∃ input time, fs.find? task.input = some input ∧
    fs.find? task.output = some (.directory time) ∧ input.modified < time

theorem isUpToDate_iff_newer :
    isUpToDate fs task = true ↔ HasNewerFile fs task ∨ HasNewerDirectory fs task := by
  rw [isUpToDate_eq_true_iff]
  constructor
  · rintro ⟨input, output, hinput, houtput, hlt⟩
    cases output with
    | file content time => exact Or.inl ⟨input, content, time, hinput, houtput, hlt⟩
    | directory time => exact Or.inr ⟨input, time, hinput, houtput, hlt⟩
  · rintro (⟨input, content, time, hinput, houtput, hlt⟩ | ⟨input, time, hinput, houtput, hlt⟩)
    · exact ⟨input, _, hinput, houtput, hlt⟩
    · exact ⟨input, _, hinput, houtput, hlt⟩

theorem HasNewerFile.not_directory (h : HasNewerFile fs task) : ¬ HasNewerDirectory fs task := by
  obtain ⟨-, content, time, -, hfile, -⟩ := h
  rintro ⟨-, changed, -, hdir, -⟩
  simp [hfile] at hdir

/-- What should be tagged: a file whose name fits, for which there is no newer file. -/
structure IsWanted (fs : FileSystem) (inputDirectory outputDirectory : Path) (name : Text)
    (path : Path) : Prop where
  fits : IsMatch fs inputDirectory name path
  isFile : fs.isFile path = true
  stale : ¬ HasNewerFile fs (taskOf inputDirectory outputDirectory path)

/-- The ways in which a directory is taken for a file. -/
inductive IsMistaken (fs : FileSystem) (inputDirectory outputDirectory : Path) (name : Text)
    (path : Path) : Prop where
  | input (fits : IsMatch fs inputDirectory name path) (isDirectory : fs.isDirectory path = true)
    (stale : isUpToDate fs (taskOf inputDirectory outputDirectory path) = false)
  | output (fits : IsMatch fs inputDirectory name path) (isFile : fs.isFile path = true)
    (newer : HasNewerDirectory fs (taskOf inputDirectory outputDirectory path))

/-- The paths that a run tags. -/
def chosen (fs : FileSystem) (inputDirectory outputDirectory : Path) (paths : List Path) :
    List Path :=
  paths.filter fun path => !isUpToDate fs (taskOf inputDirectory outputDirectory path)

theorem map_taskOf_chosen (fs : FileSystem) (inputDirectory outputDirectory : Path)
    (paths : List Path) :
    (chosen fs inputDirectory outputDirectory paths).map (taskOf inputDirectory outputDirectory) =
      (paths.map (taskOf inputDirectory outputDirectory)).filter (!isUpToDate fs ·) := by
  rw [List.filter_map]
  rfl

theorem mem_chosen_iff (hmem : ∀ path, path ∈ paths ↔ IsMatch fs inputDirectory name path) :
    path ∈ chosen fs inputDirectory outputDirectory paths ↔ IsMatch fs inputDirectory name path ∧
      isUpToDate fs (taskOf inputDirectory outputDirectory path) = false := by
  rw [chosen, List.mem_filter, hmem, Bool.not_eq_true']

/-- What is chosen is what is wanted, but where a directory is taken for a file. -/
theorem isWanted_iff_not_isMistaken
    (hmem : ∀ path, path ∈ paths ↔ IsMatch fs inputDirectory name path) (path : Path) :
    (path ∈ chosen fs inputDirectory outputDirectory paths ↔
      IsWanted fs inputDirectory outputDirectory name path) ↔
        ¬ IsMistaken fs inputDirectory outputDirectory name path := by
  rw [mem_chosen_iff hmem]
  constructor
  · rintro hiff (⟨hfits, hdir, hstale⟩ | ⟨hfits, hfile, hnewer⟩)
    · have hfile := (hiff.1 ⟨hfits, hstale⟩).isFile
      simp [not_isDirectory_of_isFile hfile] at hdir
    · have hwanted : IsWanted fs inputDirectory outputDirectory name path :=
        ⟨hfits, hfile, fun hnewerFile => hnewerFile.not_directory hnewer⟩
      have hdate := isUpToDate_iff_newer.2 (Or.inr hnewer)
      simp [(hiff.2 hwanted).2] at hdate
  · intro hnot
    constructor
    · rintro ⟨hfits, hstale⟩
      have hfile : fs.isFile path = true := by
        rcases isFile_or_isDirectory hfits.isPresent with hfile | hdir
        · exact hfile
        · exact absurd (IsMistaken.input hfits hdir hstale) hnot
      refine ⟨hfits, hfile, fun hnewer => ?_⟩
      simp [isUpToDate_iff_newer.2 (Or.inl hnewer)] at hstale
    · rintro ⟨hfits, hfile, hstale⟩
      refine ⟨hfits, ?_⟩
      rw [← Bool.not_eq_true, isUpToDate_iff_newer]
      rintro (hnewer | hnewer)
      · exact hstale hnewer
      · exact hnot (IsMistaken.output hfits hfile hnewer)

theorem outcome_processTasks_of_isDirectory {done more : List Task} (hroot : fs.IsDirectoryAt [])
    (hdir : fs.isDirectory task.input = true) :
    (∃ e, (processTasks t now batchSize fs (done ++ task :: more)).run.outcome = .error e) ∧
    ∀ summaries, (processTasks t now batchSize fs done).run.outcome = .ok summaries →
      (processTasks t now batchSize fs (done ++ task :: more)).run.outcome =
        .error (.file ⟨.isDirectory, task.input.toText⟩) := by
  have hturn : ∀ summaries, (processTasks t now batchSize fs done).run.outcome = .ok summaries →
      (processTasks t now batchSize fs (done ++ task :: more)).run.outcome =
        .error (.file ⟨.isDirectory, task.input.toText⟩) := by
    intro summaries hdone
    have halone : (alone t now batchSize (processTasks t now batchSize fs done).files
        task).run.outcome = .error (.file ⟨.isDirectory, task.input.toText⟩) :=
      outcome_alone_of_isDirectory (extends_processTasks hroot t now batchSize done) hdir
    rw [(processTasks_append_of_ok hdone _).2, (processTasks_cons_of_error halone).2]
    rfl
  refine ⟨?_, hturn⟩
  cases hall : (processTasks t now batchSize fs (done ++ task :: more)).run.outcome with
  | error e => exact ⟨e, rfl⟩
  | ok summaries =>
    obtain ⟨first, -, hfirst, -⟩ := processTasks_append_eq_ok hall
    rw [hturn first hfirst] at hall
    simp at hall

/-- A run tags, in order, the files that fit and for which there is no newer file, but that a
directory may be taken for such a file, and one at an output for a newer file. If a directory is
taken for an input the run fails when it comes to it. -/
theorem processTree_chosen (hplain : fs.IsPlain) (hpattern : IsNamePattern pattern name)
    (inputDirectory outputDirectory : Path) :
    ∃ paths, inputs fs inputDirectory pattern = .ok paths ∧
      ((chosen fs inputDirectory outputDirectory paths).Pairwise fun a b => a.parts < b.parts) ∧
      (∀ path, (path ∈ chosen fs inputDirectory outputDirectory paths ↔
        IsWanted fs inputDirectory outputDirectory name path) ↔
          ¬ IsMistaken fs inputDirectory outputDirectory name path) ∧
      ∀ t now batchSize,
        ((processTree t now fs inputDirectory outputDirectory batchSize pattern).files =
          (processTasks t now batchSize fs ((chosen fs inputDirectory outputDirectory paths).map
            (taskOf inputDirectory outputDirectory))).files ∧
        (processTree t now fs inputDirectory outputDirectory batchSize pattern).run.outcome =
          (processTasks t now batchSize fs ((chosen fs inputDirectory outputDirectory paths).map
            (taskOf inputDirectory outputDirectory))).run.outcome) ∧
        ∀ before path rest, chosen fs inputDirectory outputDirectory paths = before ++ path :: rest →
          fs.isDirectory path = true →
          (∃ e, (processTree t now fs inputDirectory outputDirectory batchSize
            pattern).run.outcome = .error e) ∧
          ∀ summaries, (processTasks t now batchSize fs (before.map
            (taskOf inputDirectory outputDirectory))).run.outcome = .ok summaries →
              (processTree t now fs inputDirectory outputDirectory batchSize pattern).run.outcome =
                .error (.file ⟨.isDirectory, path.toText⟩) := by
  obtain ⟨paths, hinputs, hsorted, hmem⟩ := exists_inputs hplain hpattern inputDirectory
  refine ⟨paths, hinputs, hsorted.filter _, isWanted_iff_not_isMistaken hmem, ?_⟩
  intro t now batchSize
  have hrun := processTree_of_inputs t now batchSize outputDirectory hinputs
  rw [← map_taskOf_chosen] at hrun
  refine ⟨hrun, ?_⟩
  intro before path rest hsplit hpath
  rw [hrun.2, hsplit, List.map_append, List.map_cons]
  have hfits : IsMatch fs inputDirectory name path := by
    have hin : path ∈ chosen fs inputDirectory outputDirectory paths :=
      hsplit ▸ List.mem_append_right _ (List.mem_cons_self ..)
    exact ((mem_chosen_iff hmem).1 hin).1
  obtain ⟨htree, hplace⟩ := hplain.isTree hfits.isDirectory
  exact outcome_processTasks_of_isDirectory (isDirectoryAt_root htree.resolve_eq hplace) hpath

/-- A file, one with a newer output, a directory, and a file with a newer directory at its output. -/
def mistakenFiles : FileSystem :=
  ⟨[([], .directory 0), ([text "in"], .directory 0),
    ([text "in", text "a.jsonl"], .file (.bytes ((text "7\n").map Nat.toUInt8)) 5),
    ([text "in", text "b.jsonl"], .file (.bytes ((text "8\n").map Nat.toUInt8)) 5),
    ([text "in", text "c.jsonl"], .directory 5),
    ([text "in", text "d.jsonl"], .file (.bytes ((text "9\n").map Nat.toUInt8)) 5),
    ([text "out"], .directory 0), ([text "out", text "b.jsonl"], .file (.bytes []) 6),
    ([text "out", text "d.jsonl"], .directory 6)]⟩

def mistakenPaths : List Path :=
  [⟨.relative, [text "in", text "a.jsonl"]⟩, ⟨.relative, [text "in", text "b.jsonl"]⟩,
    ⟨.relative, [text "in", text "c.jsonl"]⟩, ⟨.relative, [text "in", text "d.jsonl"]⟩]

/-- The first file is wanted and tagged. A directory is taken for the third input, at which the run
fails, and another one for the output of the last, which is not tagged. -/
theorem processTree_mistakenFiles :
    IsWanted mistakenFiles threeFilesInput threeFilesOutput defaultPattern
      ⟨.relative, [text "in", text "a.jsonl"]⟩ ∧
    IsMistaken mistakenFiles threeFilesInput threeFilesOutput defaultPattern
      ⟨.relative, [text "in", text "c.jsonl"]⟩ ∧
    IsMistaken mistakenFiles threeFilesInput threeFilesOutput defaultPattern
      ⟨.relative, [text "in", text "d.jsonl"]⟩ ∧
    (processTree Tagger.twoWords 7 mistakenFiles threeFilesInput threeFilesOutput 32
      defaultPattern).run.outcome = .error (.file ⟨.isDirectory, text "in/c.jsonl"⟩) := by
  have hplain : mistakenFiles.IsPlain := by
    unfold FileSystem.IsPlain
    decide +kernel
  have hinputs : inputs mistakenFiles threeFilesInput defaultPattern = .ok mistakenPaths ∧ _ :=
    inputs_eq_of_perm hplain isNamePattern_defaultPattern (by decide +kernel) (by decide +kernel)
      (by decide +kernel)
  obtain ⟨paths, hpaths, -, hwanted, hrun⟩ := processTree_chosen hplain
    isNamePattern_defaultPattern threeFilesInput threeFilesOutput
  obtain rfl := Except.ok.inj (hinputs.1.symm.trans hpaths)
  have hfits := hinputs.2
  have hchosen : chosen mistakenFiles threeFilesInput threeFilesOutput mistakenPaths =
      [⟨.relative, [text "in", text "a.jsonl"]⟩] ++ [⟨.relative, [text "in", text "c.jsonl"]⟩] := by
    decide +kernel
  have hsecond : IsMistaken mistakenFiles threeFilesInput threeFilesOutput defaultPattern
      ⟨.relative, [text "in", text "c.jsonl"]⟩ :=
    .input ((hfits _).1 (by decide +kernel)) (by decide +kernel) (by decide +kernel)
  have hthird : IsMistaken mistakenFiles threeFilesInput threeFilesOutput defaultPattern
      ⟨.relative, [text "in", text "d.jsonl"]⟩ :=
    .output ((hfits _).1 (by decide +kernel)) (by decide +kernel)
      ⟨.file (.bytes ((text "9\n").map Nat.toUInt8)) 5, 6, by decide +kernel, by decide +kernel,
        by decide +kernel⟩
  have hfirst : ¬ IsMistaken mistakenFiles threeFilesInput threeFilesOutput defaultPattern
      ⟨.relative, [text "in", text "a.jsonl"]⟩ := by
    rintro (⟨-, hdir, -⟩ | ⟨-, -, -, changed, -, houtput, -⟩)
    · revert hdir
      decide +kernel
    · have hnone : mistakenFiles.find? (taskOf threeFilesInput threeFilesOutput
          ⟨.relative, [text "in", text "a.jsonl"]⟩).output = none := by decide +kernel
      simp [hnone] at houtput
  refine ⟨((hwanted _).2 hfirst).1 ?_, hsecond, hthird, ?_⟩
  · rw [hchosen]
    exact List.mem_cons_self ..
  · obtain ⟨-, hfails⟩ := (hrun Tagger.twoWords 7 32).2 _ _ _ hchosen (by decide +kernel)
    refine hfails [⟨⟨.relative, [text "in", text "a.jsonl"]⟩,
      ⟨.relative, [text "out", text "a.jsonl"]⟩, 1, 0⟩] ?_
    exact Traversal.toOption_eq_some_iff.1 (by decide +kernel)

end EntityTagger.Stage
