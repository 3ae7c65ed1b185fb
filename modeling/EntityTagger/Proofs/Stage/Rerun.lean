import EntityTagger.Proofs.Obstacles
import EntityTagger.Proofs.Stage.Overlap

/-! Running again: what is tagged is up to date, so that a second run does nothing and a run after
an edit tags the inputs that were edited. -/
namespace EntityTagger.Stage

open FileSystem Glob

variable {t : Tagger} {now batchSize : ℤ} {fs next after edited : FileSystem}
  {inputDirectory outputDirectory : Path} {pattern : Text} {names others : List Text}
  {paths found : List Path} {task : Task} {tasks : List Task} {changed : Path → Bool}

/-- Neither of two directories contains the other. -/
structure NoOverlap (inputDirectory outputDirectory : Path) : Prop where
  inside : ¬ inputDirectory.location <+: outputDirectory.location
  outside : ¬ outputDirectory.location <+: inputDirectory.location

/-- What is missing on the way to the output directory does not fit the pattern. A way that leads
back by two dots passes through the directory that it leads out of, which is made with the others and
may stand in the input directory. -/
def MakesNoMatch (fs : FileSystem) (inputDirectory outputDirectory : Path) (pattern : Text) : Prop :=
  ∀ names, fs.IsMissing outputDirectory.parts (inputDirectory.location ++ names) →
    ¬ Fits pattern names

theorem makesNoMatch_of_not_dots (h : NoOverlap inputDirectory outputDirectory)
    (hdots : text ".." ∉ outputDirectory.parts) :
    MakesNoMatch fs inputDirectory outputDirectory pattern := by
  rintro names ⟨⟨above, habove, hplace⟩, -⟩
  rw [lead_of_not_dots fun hmem => hdots (habove.subset hmem), List.nil_append] at hplace
  refine absurd ((List.prefix_append _ names).trans (hplace ▸ habove)) ?_
  rw [← List.nil_append outputDirectory.parts, ← lead_of_not_dots hdots]
  exact h.inside

/-- All that changes when an output is written stands above it, or above what is missing on the way
to the output directory. -/
theorem isPrefix_of_changes (hnames : StandsAt fs inputDirectory names) {place : Location}
    (hchanges : fs.Changes (taskAt inputDirectory outputDirectory names).output place) :
    place <+: outputDirectory.location ++ names ∨
      ∃ made, fs.IsMissing outputDirectory.parts made ∧ place <+: made := by
  obtain ⟨made, hmade, hup⟩ := hchanges.exists_prefix
  rcases hmade with rfl | ⟨hway, hnone⟩
  · rw [output_location hnames.not_dots] at hup
    exact Or.inl hup
  · have hdots : text ".." ∉ names.dropLast := fun hmem =>
      hnames.not_dots (List.dropLast_subset names hmem)
    rw [output_parent_parts hnames.ne_nil] at hway
    rcases hway.append_cases hdots with hway | ⟨above, habove, rfl⟩
    · exact Or.inr ⟨made, ⟨hway, hnone⟩, hup⟩
    · refine Or.inl (hup.trans ?_)
      exact (List.prefix_append_right_inj _).2 (habove.trans (List.dropLast_prefix names))

theorem isDirectoryAt_of_onTheWay {first last : List Text} {found place : Location}
    (h : fs.walk [] (first ++ last) = .ok found) (hne : last ≠ []) (hway : OnTheWay first place) :
    fs.IsDirectoryAt place := by
  obtain ⟨-, hdown⟩ := walk_eq_ok_iff_lead.1 h
  obtain ⟨above, ⟨below, rfl⟩, rfl⟩ := hway
  exact hdown above (below ++ last) (List.append_assoc above below last) (by simp [hne])

theorem NoOverlap.not_isPrefix (h : NoOverlap inputDirectory outputDirectory)
    (names : List Text) : ¬ inputDirectory.location <+: outputDirectory.location ++ names := by
  intro hin
  rcases List.prefix_or_prefix_of_prefix hin (List.prefix_append _ names) with hin | hin
  · exact h.inside hin
  · exact h.outside hin

theorem isUpToDate_eq_true_iff : isUpToDate fs task = true ↔
    ∃ input output, fs.find? task.input = some input ∧ fs.find? task.output = some output ∧
      input.modified < output.modified := by
  rw [isUpToDate]
  cases fs.find? task.output <;> cases fs.find? task.input <;> simp

theorem isUpToDate_eq_match (fs : FileSystem) (task : Task) : isUpToDate fs task =
    match (fs.find? task.output).map Node.modified, (fs.find? task.input).map Node.modified with
    | some output, some input => decide (input < output)
    | _, _ => false := by
  rw [isUpToDate]
  cases fs.find? task.output <;> cases fs.find? task.input <;> rfl

theorem isUpToDate_congr
    (hinput : (next.find? task.input).map Node.modified =
      (fs.find? task.input).map Node.modified)
    (houtput : (next.find? task.output).map Node.modified =
      (fs.find? task.output).map Node.modified) : isUpToDate next task = isUpToDate fs task := by
  rw [isUpToDate_eq_match, isUpToDate_eq_match, hinput, houtput]

theorem processTree_of_isUpToDate (hinputs : inputs fs inputDirectory pattern = .ok paths)
    (hall : ∀ path ∈ paths, isUpToDate fs (taskOf inputDirectory outputDirectory path) = true)
    (t : Tagger) (now batchSize : ℤ) :
    (processTree t now fs inputDirectory outputDirectory batchSize pattern).files = fs ∧
    (processTree t now fs inputDirectory outputDirectory batchSize pattern).run.outcome =
      .ok [] := by
  have htasks : (paths.map (taskOf inputDirectory outputDirectory)).filter (!isUpToDate fs ·) =
      [] := by
    rw [List.filter_eq_nil_iff]
    intro task htask
    obtain ⟨path, hpath, rfl⟩ := List.mem_map.1 htask
    simp [hall path hpath]
  obtain ⟨hfiles, hended⟩ := processTree_of_inputs t now batchSize outputDirectory hinputs
  rw [hfiles, hended, htasks]
  exact ⟨rfl, rfl⟩

/-- Inputs that are files, in a directory that does not overlap the output directory. -/
structure Supplies (fs : FileSystem) (inputDirectory outputDirectory : Path) (pattern : Text)
    (paths : List Path) : Prop where
  isPlain : fs.IsPlain
  noOverlap : NoOverlap inputDirectory outputDirectory
  inputs_eq : inputs fs inputDirectory pattern = .ok paths
  isFile : ∀ path ∈ paths, fs.isFile path = true

section Supplies

variable (hpattern : IsPlain pattern)
  (h : Supplies fs inputDirectory outputDirectory pattern paths)
include hpattern h

theorem Supplies.exists_standsAt {path : Path} (hpath : path ∈ paths) :
    ∃ names, path = inputDirectory.append ⟨.relative, names⟩ ∧
      StandsAt fs inputDirectory names :=
  Stage.exists_standsAt h.isPlain
    (isDirectory_of_mem_below (inputs_eq_ok_iff.1 h.inputs_eq) hpath)
    (isBelow_of_mem_inputs h.isPlain hpattern h.inputs_eq hpath) (h.isFile path hpath)

theorem Supplies.output_ne : ∀ a ∈ paths, ∀ b ∈ paths,
    (taskOf inputDirectory outputDirectory a).output.location ≠ b.location := by
  intro a ha b hb heq
  obtain ⟨names, rfl, hnames⟩ := h.exists_standsAt hpattern ha
  obtain ⟨others, rfl, hothers⟩ := h.exists_standsAt hpattern hb
  rw [taskOf_append, output_location hnames.not_dots,
    Path.location_append _ hothers.not_dots] at heq
  exact h.noOverlap.not_isPrefix names (heq ▸ List.prefix_append _ others)

theorem Supplies.isReady {path : Path} (hpath : path ∈ paths) :
    (taskOf inputDirectory outputDirectory path).IsReady fs := by
  obtain ⟨names, rfl, hnames⟩ := h.exists_standsAt hpattern hpath
  rw [taskOf_append]
  exact hnames.isReady (isDirectory_of_mem_below (inputs_eq_ok_iff.1 h.inputs_eq) hpath)

/-- Nothing changes in the input directory but on the way to the output directory. -/
theorem Supplies.onTheWay {touched : List Task} (htouched : ∀ task ∈ touched, ∃ path ∈ paths,
      task = taskOf inputDirectory outputDirectory path)
    (hchanges : ∃ task ∈ touched, fs.Changes task.output (inputDirectory.location ++ names)) :
    OnTheWay outputDirectory.parts (inputDirectory.location ++ names) := by
  obtain ⟨task, htask, hchanges⟩ := hchanges
  obtain ⟨path, hpath, rfl⟩ := htouched task htask
  obtain ⟨others, rfl, hothers⟩ := h.exists_standsAt hpattern hpath
  rw [taskOf_append] at hchanges
  rcases isPrefix_of_changes hothers hchanges with hup | ⟨made, hmissing, hup⟩
  · exact absurd ((List.prefix_append _ names).trans hup) (h.noOverlap.not_isPrefix others)
  · exact hmissing.1.of_isPrefix hup

section Leaves

variable {done touched : List Task} (hleaves : Leaves t now batchSize fs done touched after)
  (htouched : ∀ task ∈ touched, ∃ path ∈ paths, task = taskOf inputDirectory outputDirectory path)
include hleaves htouched

theorem Supplies.find?_output {path : Path} (hpath : path ∈ paths)
    (hnew : taskOf inputDirectory outputDirectory path ∉ touched) {node : Node}
    (hfind : fs.find? (taskOf inputDirectory outputDirectory path).output = some node) :
    after.find? (taskOf inputDirectory outputDirectory path).output = some node := by
  obtain ⟨names, rfl, hnames⟩ := h.exists_standsAt hpattern hpath
  rw [taskOf_append] at hnew hfind ⊢
  obtain ⟨place, hplace, hnode⟩ := find?_eq_some_iff.1 hfind
  have hlocation : place = outputDirectory.location ++ names :=
    (walk_eq_ok_iff_lead.1 hplace).1.trans (output_location hnames.not_dots)
  refine find?_eq_some_iff.2 ⟨place, walk_mono hleaves.keeps hplace, ?_⟩
  rw [hleaves.outside.node?_eq, hnode]
  rintro ⟨task, htask, hchanges⟩
  obtain ⟨other, hother, rfl⟩ := htouched task htask
  obtain ⟨others, rfl, hothers⟩ := h.exists_standsAt hpattern hother
  rw [taskOf_append] at hchanges htask
  rcases isPrefix_of_changes hothers hchanges with hin | ⟨made, ⟨hway, hnone⟩, -⟩
  · rw [hlocation, List.prefix_append_right_inj] at hin
    obtain rfl := hnames.eq_of_isPrefix hothers hin
    exact hnew htask
  · -- The output was found, so nothing is missing on the way to its directory.
    obtain ⟨time, hdir⟩ := isDirectoryAt_of_onTheWay hplace hnames.ne_nil hway
    simp [hnone] at hdir

theorem Supplies.isTree_after (htree : fs.IsTree inputDirectory inputDirectory.location) :
    after.IsTree inputDirectory inputDirectory.location := by
  refine ⟨walk_mono hleaves.keeps htree.resolve_eq, fun names node hmem => ?_⟩
  by_cases hchanges : ∃ task ∈ touched, fs.Changes task.output (inputDirectory.location ++ names)
  · have hdots := (h.onTheWay hpattern htouched hchanges).not_dots
    exact fun hin => hdots (List.mem_append_right _ hin)
  · exact htree.not_dots names node ((hleaves.outside.mem_iff hchanges).1 hmem)

section Fits

variable (hground : fs.IsGrounded)
  (hmakes : MakesNoMatch fs inputDirectory outputDirectory pattern)
  (htree : fs.IsTree inputDirectory inputDirectory.location) (hdots : text ".." ∉ names)
  (hfits : Fits pattern names)
include hground hmakes htree hdots hfits

theorem Supplies.isPresent_of_after
    (hpresent : after.isPresent (inputDirectory.append ⟨.relative, names⟩) = true) :
    fs.isPresent (inputDirectory.append ⟨.relative, names⟩) = true := by
  obtain ⟨node, hfind⟩ := Option.isSome_iff_exists.1 hpresent
  have hafter := h.isTree_after hpattern hleaves htouched htree
  obtain ⟨-, hnode⟩ := (hafter.find?_append_iff hdots).1 hfind
  cases hold : fs.node? (inputDirectory.location ++ names) with
  | none =>
    have hchanges :
        ∃ task ∈ touched, fs.Changes task.output (inputDirectory.location ++ names) := by
      by_contra hnot
      rw [hleaves.outside.node?_eq hnot, hold] at hnode
      simp at hnode
    exact absurd hfits (hmakes names ⟨h.onTheWay hpattern htouched hchanges, hold⟩)
  | some old =>
    have hwalk : fs.walk inputDirectory.location names = .ok (inputDirectory.location ++ names) := by
      refine (walk_eq_ok_iff hdots).2 ⟨rfl, fun above below hsplit hbelow => ?_⟩
      refine hground.isDirectoryAt hold ((List.prefix_append_right_inj _).2 ⟨below, hsplit.symm⟩) ?_
      simpa [hsplit] using hbelow
    rw [isPresent, (htree.find?_append_iff hdots).2 ⟨hwalk, hold⟩]
    rfl

theorem Supplies.same_after :
    after.isPresent (inputDirectory.append ⟨.relative, names⟩) =
      fs.isPresent (inputDirectory.append ⟨.relative, names⟩) ∧
    after.isDirectory (inputDirectory.append ⟨.relative, names⟩) =
      fs.isDirectory (inputDirectory.append ⟨.relative, names⟩) := by
  by_cases hpresent : fs.isPresent (inputDirectory.append ⟨.relative, names⟩) = true
  · rw [hpresent]
    exact isPresent_of_extends hleaves.keeps hpresent
  · have hlater := mt (h.isPresent_of_after hpattern hleaves htouched hground hmakes htree hdots hfits)
      hpresent
    have hnone : ∀ {files : FileSystem} {path : Path}, ¬ files.isPresent path = true →
        files.isDirectory path = false := fun hnot =>
      Bool.eq_false_iff.2 fun hdir => hnot (readBytes_of_isDirectory hdir).1
    rw [hnone hpresent, hnone hlater, Bool.eq_false_iff.2 hpresent, Bool.eq_false_iff.2 hlater]
    exact ⟨rfl, rfl⟩

end Fits

/-- The inputs stay as they are, and no others are found. -/
theorem Supplies.inputs_after (hground : fs.IsGrounded)
    (hmakes : MakesNoMatch fs inputDirectory outputDirectory pattern) :
    inputs after inputDirectory pattern = .ok paths ∧
      ∀ path ∈ paths, after.find? path = fs.find? path := by
  constructor
  · by_cases hdir : fs.isDirectory inputDirectory = true
    · obtain ⟨htree, -⟩ := h.isPlain.isTree hdir
      have hafter := h.isTree_after hpattern hleaves htouched htree
      have hsame := below_congr htree hafter hpattern fun names hdots hfits =>
        h.same_after hpattern hleaves htouched hground hmakes htree hdots hfits
      rw [inputs_eq_ok_iff, hsame, ← inputs_eq_ok_iff]
      exact h.inputs_eq
    · have hnil : touched = [] := by
        refine List.eq_nil_iff_forall_not_mem.2 fun task htask => ?_
        obtain ⟨path, hpath, -⟩ := htouched task htask
        exact hdir (isDirectory_of_mem_below (inputs_eq_ok_iff.1 h.inputs_eq) hpath)
      have hnodes : after.nodes = fs.nodes := by
        simpa using hleaves.outside (fun _ => true) (by simp [hnil])
      obtain rfl : after = fs := congrArg FileSystem.mk hnodes
      exact h.inputs_eq
  · intro path hpath
    have hwrites : Overwrites touched fs after := ⟨hleaves.keeps, hleaves.others⟩
    refine hwrites.find?_eq (h.isFile path hpath) fun task htask => ?_
    obtain ⟨other, hother, rfl⟩ := htouched task htask
    exact h.output_ne hpattern other hother path hpath

end Leaves

theorem Supplies.effect (t : Tagger) (now batchSize : ℤ) : Effect t now batchSize fs
    ((paths.map (taskOf inputDirectory outputDirectory)).filter (!isUpToDate fs ·))
    (processTree t now fs inputDirectory outputDirectory batchSize pattern).files
    (processTree t now fs inputDirectory outputDirectory batchSize pattern).run.outcome :=
  effect_processTree h.isPlain hpattern h.inputs_eq h.isFile (h.output_ne hpattern) t now batchSize

/-- Once a run has succeeded every input has a newer output. -/
theorem Supplies.isUpToDate_after (hground : fs.IsGrounded)
    (hmakes : MakesNoMatch fs inputDirectory outputDirectory pattern) {summaries : List Summary}
    (hok : (processTree t now fs inputDirectory outputDirectory batchSize
      pattern).run.outcome = .ok summaries)
    (hnewer : ∀ path ∈ paths, isUpToDate fs (taskOf inputDirectory outputDirectory path) = false →
      ∀ node, fs.find? path = some node → node.modified < now) :
    inputs (processTree t now fs inputDirectory outputDirectory batchSize pattern).files
      inputDirectory pattern = .ok paths ∧
    ∀ path ∈ paths, isUpToDate
      (processTree t now fs inputDirectory outputDirectory batchSize pattern).files
      (taskOf inputDirectory outputDirectory path) = true := by
  obtain ⟨hleaves, -⟩ := (h.effect hpattern t now batchSize).finished summaries hok
  have htouched : ∀ task ∈ (paths.map (taskOf inputDirectory outputDirectory)).filter
      (!isUpToDate fs ·), ∃ path ∈ paths, task = taskOf inputDirectory outputDirectory path := by
    intro task htask
    obtain ⟨path, hpath, rfl⟩ := List.mem_map.1 (List.mem_of_mem_filter htask)
    exact ⟨path, hpath, rfl⟩
  obtain ⟨hinputs, hfind⟩ := h.inputs_after hpattern hleaves htouched hground hmakes
  refine ⟨hinputs, fun path hpath => ?_⟩
  rw [isUpToDate_eq_true_iff]
  by_cases hdate : isUpToDate fs (taskOf inputDirectory outputDirectory path) = true
  · obtain ⟨input, output, hin, hout, hlt⟩ := isUpToDate_eq_true_iff.1 hdate
    refine ⟨input, output, (hfind path hpath).trans hin, ?_, hlt⟩
    refine h.find?_output hpattern hleaves htouched hpath (fun hmem => ?_) hout
    simpa [hdate] using (List.mem_filter.1 hmem).2
  · have hmem : taskOf inputDirectory outputDirectory path ∈
        (paths.map (taskOf inputDirectory outputDirectory)).filter (!isUpToDate fs ·) :=
      List.mem_filter.2 ⟨List.mem_map_of_mem hpath, by simp [hdate]⟩
    obtain ⟨summary, halone, hfound⟩ := hleaves.output _ hmem
    obtain ⟨content, hcontent⟩ := (h.isReady hpattern hpath).find?_alone halone
    obtain ⟨input, changed, hinput⟩ := isFile_iff.1 (h.isFile path hpath)
    refine ⟨_, _, (hfind path hpath).trans hinput, hfound.trans hcontent, ?_⟩
    exact hnewer path hpath (by simpa using hdate) _ hinput

theorem Supplies.tags_changed (hdates : ∀ path ∈ paths,
      isUpToDate fs (taskOf inputDirectory outputDirectory path) = !changed path)
    (halone : ∀ path ∈ paths, changed path = true → ∃ summary,
      (alone t now batchSize fs (taskOf inputDirectory outputDirectory path)).run.outcome =
        .ok summary) :
    ∃ summaries, (processTree t now fs inputDirectory outputDirectory batchSize
        pattern).run.outcome = .ok summaries ∧
      summaries.map Summary.input = paths.filter changed ∧
      Leaves t now batchSize fs
        ((paths.filter changed).map (taskOf inputDirectory outputDirectory))
        ((paths.filter changed).map (taskOf inputDirectory outputDirectory))
        (processTree t now fs inputDirectory outputDirectory batchSize pattern).files ∧
      ∀ path ∈ paths, changed path = false →
        (processTree t now fs inputDirectory outputDirectory batchSize pattern).files.find?
          (taskOf inputDirectory outputDirectory path).output =
        fs.find? (taskOf inputDirectory outputDirectory path).output := by
  have htasks : (paths.map (taskOf inputDirectory outputDirectory)).filter (!isUpToDate fs ·) =
      (paths.filter changed).map (taskOf inputDirectory outputDirectory) := by
    rw [List.filter_map]
    refine congrArg _ (List.filter_congr fun path hpath => ?_)
    rw [Function.comp_apply, hdates path hpath, Bool.not_not]
  have heffect := h.effect hpattern t now batchSize
  rw [htasks] at heffect
  obtain ⟨summaries, hsummaries⟩ : ∃ summaries, List.Forall₂ (fun task summary =>
      (alone t now batchSize fs task).run.outcome = .ok summary)
        ((paths.filter changed).map (taskOf inputDirectory outputDirectory)) summaries := by
    apply Traversal.exists_forall₂
    intro task htask
    obtain ⟨path, hpath, rfl⟩ := List.mem_map.1 htask
    obtain ⟨hin, hchanged⟩ := List.mem_filter.1 hpath
    exact halone path hin hchanged
  have hended := (heffect.ok_iff summaries).2 hsummaries
  obtain ⟨hleaves, -⟩ := heffect.finished summaries hended
  refine ⟨summaries, hended, ?_, hleaves, ?_⟩
  · rw [map_input_eq hsummaries, List.map_map]
    exact List.map_id _
  · intro path hpath hchanged
    have hdate := hdates path hpath
    rw [hchanged, Bool.not_false, isUpToDate_eq_true_iff] at hdate
    obtain ⟨input, output, -, hout, -⟩ := hdate
    rw [hout]
    refine h.find?_output hpattern hleaves ?_ hpath ?_ hout
    · intro task htask
      obtain ⟨other, hother, rfl⟩ := List.mem_map.1 htask
      exact ⟨other, List.mem_of_mem_filter hother, rfl⟩
    · intro hmem
      obtain ⟨other, hother, heq⟩ := List.mem_map.1 hmem
      obtain rfl : other = path := congrArg Task.input heq
      simp [hchanged] at hother

end Supplies

/-- An edit after which some inputs have to be tagged: they have no output, or one that is not
newer. The others keep their times, and so do their outputs. -/
structure Edits (inputDirectory outputDirectory : Path) (paths found : List Path)
    (changed : Path → Bool) (after edited : FileSystem) : Prop where
  stale : ∀ path ∈ found, changed path = true → ∀ output input,
    edited.find? (taskOf inputDirectory outputDirectory path).output = some output →
    edited.find? path = some input → output.modified ≤ input.modified
  kept : ∀ path ∈ found, changed path = false → path ∈ paths ∧
    (edited.find? path).map Node.modified = (after.find? path).map Node.modified ∧
    (edited.find? (taskOf inputDirectory outputDirectory path).output).map Node.modified =
      (after.find? (taskOf inputDirectory outputDirectory path).output).map Node.modified

theorem Edits.isUpToDate_eq
    (h : Edits inputDirectory outputDirectory paths found changed after edited)
    (hall : ∀ path ∈ paths, isUpToDate after (taskOf inputDirectory outputDirectory path) = true)
    {path : Path} (hpath : path ∈ found) :
    isUpToDate edited (taskOf inputDirectory outputDirectory path) = !changed path := by
  cases hchanged : changed path with
  | true =>
    rw [Bool.not_true, ← Bool.not_eq_true, isUpToDate_eq_true_iff]
    rintro ⟨input, output, hin, hout, hlt⟩
    exact absurd (h.stale path hpath hchanged output input hout hin) (not_le.2 hlt)
  | false =>
    obtain ⟨hold, hinput, houtput⟩ := h.kept path hpath hchanged
    rw [isUpToDate_congr hinput houtput, hall path hold]
    rfl

def threeFilesDone : FileSystem :=
  (processTasks Tagger.twoWords 7 32 threeFiles ((threeFilesPaths.map
    (taskOf threeFilesInput threeFilesOutput)).filter (!isUpToDate threeFiles ·))).files

/-- The third input is now as old as its output, and there is a fourth one. -/
def threeFilesEdited : FileSystem :=
  (threeFilesDone.put [text "in", text "c.jsonl"]
    (.file (.bytes ((text "9\n").map Nat.toUInt8)) 6)).create [text "in", text "d.jsonl"]
      (.file (.bytes ((text "7\n").map Nat.toUInt8)) 8)

def threeFilesEdits : List Path :=
  [⟨.relative, [text "in", text "c.jsonl"]⟩, ⟨.relative, [text "in", text "d.jsonl"]⟩]

theorem noOverlap_threeFiles : NoOverlap threeFilesInput threeFilesOutput where
  inside := by decide +kernel
  outside := by decide +kernel

theorem supplies_threeFiles :
    Supplies threeFiles threeFilesInput threeFilesOutput defaultPattern threeFilesPaths where
  isPlain := isPlain_threeFiles
  noOverlap := noOverlap_threeFiles
  inputs_eq := inputs_threeFiles.1
  isFile := by decide +kernel

theorem isGrounded_threeFiles : threeFiles.IsGrounded := by
  have hall : ∀ entry ∈ threeFiles.nodes,
      threeFiles.node? entry.1.dropLast = some (.directory 0) := by decide +kernel
  exact ⟨⟨0, rfl⟩, fun hnode => ⟨0, hall _ (Association.mem_of_get? hnode)⟩⟩

theorem supplies_threeFilesEdited :
    Supplies threeFilesEdited threeFilesInput threeFilesOutput defaultPattern
      (threeFilesPaths ++ [⟨.relative, [text "in", text "d.jsonl"]⟩]) := by
  have hplain : threeFilesEdited.IsPlain := by
    unfold FileSystem.IsPlain
    decide +kernel
  constructor
  · exact hplain
  · exact noOverlap_threeFiles
  · exact (inputs_eq_of_perm hplain isNamePattern_defaultPattern (by decide +kernel)
      (by decide +kernel) (by decide +kernel)).1
  · decide +kernel

theorem edits_threeFiles : Edits threeFilesInput threeFilesOutput threeFilesPaths
    (threeFilesPaths ++ [⟨.relative, [text "in", text "d.jsonl"]⟩]) (threeFilesEdits.contains ·)
      threeFilesDone threeFilesEdited where
  stale := by
    have hall : ∀ path ∈ threeFilesPaths ++ [⟨.relative, [text "in", text "d.jsonl"]⟩],
        threeFilesEdits.contains path = true → isUpToDate threeFilesEdited
          (taskOf threeFilesInput threeFilesOutput path) = false := by decide +kernel
    intro path hpath hchanged output input hout hin
    by_contra hlt
    have hdate := isUpToDate_eq_true_iff.2 ⟨input, output, hin, hout, not_le.1 hlt⟩
    simp [hall path hpath hchanged] at hdate
  kept := by decide +kernel

/-- One input, and no directory for its output yet. -/
def crossedFiles : FileSystem :=
  ⟨[([], .directory 0), ([text "in"], .directory 0),
    ([text "in", text "a.jsonl"], .file (.bytes ((text "7\n").map Nat.toUInt8)) 5)]⟩

/-- The way to `out` goes through a directory in the input directory and back. -/
def crossedOutput : Path :=
  ⟨.relative, [text "in", text "x.jsonl", text "..", text "..", text "out"]⟩

def crossedPaths : List Path := [⟨.relative, [text "in", text "a.jsonl"]⟩]

/-- The directory that is passed; its name fits. -/
def crossedDirectory : Path := ⟨.relative, [text "in", text "x.jsonl"]⟩

def crossedDone : FileSystem :=
  (processTasks Tagger.twoWords 7 32 crossedFiles ((crossedPaths.map
    (taskOf threeFilesInput crossedOutput)).filter (!isUpToDate crossedFiles ·))).files

theorem supplies_crossedFiles :
    Supplies crossedFiles threeFilesInput crossedOutput defaultPattern crossedPaths := by
  have hplain : crossedFiles.IsPlain := by
    unfold FileSystem.IsPlain
    decide +kernel
  constructor
  · exact hplain
  · exact ⟨by decide +kernel, by decide +kernel⟩
  · exact (inputs_eq_of_perm hplain isNamePattern_defaultPattern (by decide +kernel)
      (by decide +kernel) (by decide +kernel)).1
  · decide +kernel

end EntityTagger.Stage
