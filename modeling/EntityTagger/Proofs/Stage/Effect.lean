import EntityTagger.Proofs.Path.Matching
import EntityTagger.Proofs.Prediction
import EntityTagger.Proofs.Stage.Sequence
import EntityTagger.Proofs.Stage.Tree

/-! What a run over a tree does: which files it tags, in which order, where the outputs go, and what
it leaves alone. -/
namespace EntityTagger.Stage

open FileSystem Glob

variable {t : Tagger} {now batchSize : ℤ} {fs : FileSystem}
  {inputDirectory outputDirectory : Path} {pattern name : Text} {names others : List Text}
  {paths : List Path}

/-- An input is a file at some names below the input directory. -/
structure StandsAt (fs : FileSystem) (inputDirectory : Path) (names : List Text) : Prop where
  not_dots : text ".." ∉ names
  ne_nil : names ≠ []
  walk_eq : fs.walk inputDirectory.location names = .ok (inputDirectory.location ++ names)
  isFileAt : fs.IsFileAt (inputDirectory.location ++ names)

theorem exists_standsAt (hplain : fs.IsPlain) (hdir : fs.isDirectory inputDirectory = true)
    {path : Path} (hbelow : IsBelow inputDirectory path) (hfile : fs.isFile path = true) :
    ∃ names, path = inputDirectory.append ⟨.relative, names⟩ ∧
      StandsAt fs inputDirectory names := by
  obtain ⟨htree, time, hdir⟩ := hplain.isTree hdir
  obtain ⟨names, hdots, rfl⟩ := hbelow
  obtain ⟨content, changed, hfind⟩ := isFile_iff.1 hfile
  obtain ⟨hwalk, hnode⟩ := (htree.find?_append_iff hdots).1 hfind
  refine ⟨names, rfl, hdots, ?_, hwalk, content, changed, hnode⟩
  rintro rfl
  rw [List.append_nil, hdir] at hnode
  simp at hnode

theorem StandsAt.isDirectoryAt_above (h : StandsAt fs inputDirectory names) {above : List Text}
    (habove : above <+: names) (hne : above ≠ names) :
    fs.IsDirectoryAt (inputDirectory.location ++ above) := by
  obtain ⟨below, rfl⟩ := habove
  refine ((walk_eq_ok_iff h.not_dots).1 h.walk_eq).2 above below rfl fun hbelow => hne ?_
  rw [hbelow, List.append_nil]

theorem StandsAt.eq_of_isPrefix (h : StandsAt fs inputDirectory names)
    (k : StandsAt fs inputDirectory others) (hin : names <+: others) : names = others := by
  by_contra hne
  obtain ⟨time, hdir⟩ := k.isDirectoryAt_above hin hne
  obtain ⟨content, changed, hfile⟩ := h.isFileAt
  simp [hdir] at hfile

theorem output_parts (inputDirectory outputDirectory : Path) (names : List Text) :
    (taskAt inputDirectory outputDirectory names).output.parts = outputDirectory.parts ++ names := by
  simp [taskAt, Path.append]

theorem output_parent_parts (hne : names ≠ []) :
    (taskAt inputDirectory outputDirectory names).output.parent.parts =
      outputDirectory.parts ++ names.dropLast := by
  rw [Path.parent, output_parts, List.dropLast_append_of_ne_nil hne]

theorem output_location (h : text ".." ∉ names) :
    (taskAt inputDirectory outputDirectory names).output.location =
      outputDirectory.location ++ names :=
  Path.location_append outputDirectory h

theorem StandsAt.isReady (h : StandsAt fs inputDirectory names)
    (hdir : fs.isDirectory inputDirectory = true) :
    (taskAt inputDirectory outputDirectory names).IsReady fs := by
  obtain ⟨time, hfind⟩ := isDirectory_iff.1 hdir
  obtain ⟨source, hplace, hnode⟩ := find?_eq_some_iff.1 hfind
  obtain ⟨rfl, -⟩ := walk_eq_ok_iff_lead.1 hplace
  constructor
  · exact isDirectoryAt_root hplace ⟨time, hnode⟩
  · obtain ⟨above, last, rfl⟩ := (List.eq_nil_or_concat names).resolve_left h.ne_nil
    refine ⟨outputDirectory.parts ++ above, last, ?_, ?_⟩
    · rw [output_parts, List.concat_eq_append, List.append_assoc]
    · rintro rfl
      exact h.not_dots (by simp)
  · have hparts : (taskAt inputDirectory outputDirectory names).input.parts =
        inputDirectory.parts ++ names := by simp [taskAt, Path.append]
    have hsource : fs.walk [] inputDirectory.parts = .ok inputDirectory.location := hplace
    rw [resolve, hparts, walk_append, hsource]
    exact h.walk_eq.trans (congrArg _ (Path.location_append inputDirectory h.not_dots).symm)
  · rw [taskAt, Path.location_append inputDirectory h.not_dots]
    exact h.isFileAt

/-- Outputs that are no inputs are in no other task's way. -/
theorem separate_taskOf (hplain : fs.IsPlain)
    (hdir : paths ≠ [] → fs.isDirectory inputDirectory = true)
    (hbelow : ∀ path ∈ paths, IsBelow inputDirectory path)
    (hfile : ∀ path ∈ paths, fs.isFile path = true)
    (hne : ∀ a ∈ paths, ∀ b ∈ paths,
      (taskOf inputDirectory outputDirectory a).output.location ≠ b.location) :
    Separate fs (paths.map (taskOf inputDirectory outputDirectory)) := by
  have hstands : ∀ task ∈ paths.map (taskOf inputDirectory outputDirectory), ∃ names,
      task = taskAt inputDirectory outputDirectory names ∧ StandsAt fs inputDirectory names ∧
        fs.isDirectory inputDirectory = true := by
    intro task htask
    obtain ⟨path, hpath, rfl⟩ := List.mem_map.1 htask
    have hinput := hdir (List.ne_nil_of_mem hpath)
    obtain ⟨names, rfl, hnames⟩ :=
      exists_standsAt hplain hinput (hbelow path hpath) (hfile path hpath)
    exact ⟨names, taskOf_append _ _ _, hnames, hinput⟩
  constructor
  · intro task htask
    obtain ⟨names, rfl, hnames, hinput⟩ := hstands task htask
    exact hnames.isReady hinput
  · intro a ha b hb
    obtain ⟨path, hpath, rfl⟩ := List.mem_map.1 ha
    obtain ⟨other, hother, rfl⟩ := List.mem_map.1 hb
    exact hne path hpath other hother
  · intro a ha b hb hab hway
    obtain ⟨names, rfl, hnames, -⟩ := hstands a ha
    obtain ⟨others, rfl, hothers, -⟩ := hstands b hb
    rw [output_parts] at hway
    rcases hway.append_cases hothers.not_dots with hway | ⟨above, habove, heq⟩
    · -- The way to the output directory itself is the same for all outputs.
      rw [output_parent_parts hnames.ne_nil]
      exact hway.mono (List.prefix_append _ _)
    · rw [output_location hnames.not_dots] at heq
      obtain rfl : names = above := List.append_cancel_left heq
      exact absurd (congrArg _ (hnames.eq_of_isPrefix hothers habove)) hab

theorem effect_processTree (hplain : fs.IsPlain) (hpattern : IsPlain pattern)
    (hinputs : inputs fs inputDirectory pattern = .ok paths)
    (hfile : ∀ path ∈ paths, fs.isFile path = true)
    (hne : ∀ a ∈ paths, ∀ b ∈ paths,
      (taskOf inputDirectory outputDirectory a).output.location ≠ b.location)
    (t : Tagger) (now batchSize : ℤ) :
    Effect t now batchSize fs
      ((paths.map (taskOf inputDirectory outputDirectory)).filter (!isUpToDate fs ·))
      (processTree t now fs inputDirectory outputDirectory batchSize pattern).files
      (processTree t now fs inputDirectory outputDirectory batchSize pattern).run.outcome := by
  have hbelow : ∀ path ∈ paths, IsBelow inputDirectory path := fun path hpath =>
    isBelow_of_mem_inputs hplain hpattern hinputs hpath
  have hdir : paths ≠ [] → fs.isDirectory inputDirectory = true := by
    intro hpaths
    obtain ⟨path, hpath⟩ := List.exists_mem_of_ne_nil paths hpaths
    exact isDirectory_of_mem_below (inputs_eq_ok_iff.1 hinputs) hpath
  have hnodup := nodup_of_pairwise_lt (pairwise_below (inputs_eq_ok_iff.1 hinputs) hbelow)
  have hinjective : Function.Injective (taskOf inputDirectory outputDirectory) :=
    fun a b hab => congrArg Task.input hab
  obtain ⟨hfiles, hended⟩ := processTree_of_inputs t now batchSize outputDirectory hinputs
  rw [hfiles, hended]
  exact (separate_taskOf hplain hdir hbelow hfile hne).effect t now batchSize
    (fun task htask => List.mem_of_mem_filter htask) ((hnodup.map hinjective).filter _)

/-- A run tags the files that fit, in the order of the components of their paths, but for those
whose outputs are newer. Every file gets an output of its own, and all else stays as it is. -/
theorem processTree_effect (hplain : fs.IsPlain) (hpattern : IsNamePattern pattern name)
    (hfile : ∀ path, IsMatch fs inputDirectory name path → fs.isFile path = true)
    (hne : ∀ a b, IsMatch fs inputDirectory name a → IsMatch fs inputDirectory name b →
      (taskOf inputDirectory outputDirectory a).output.location ≠ b.location) :
    ∃ paths, inputs fs inputDirectory pattern = .ok paths ∧
      (paths.Pairwise fun a b => a.parts < b.parts) ∧
      (∀ path, path ∈ paths ↔ IsMatch fs inputDirectory name path) ∧
      (paths.map fun path => (taskOf inputDirectory outputDirectory path).output.location).Nodup ∧
      ∀ t now batchSize, Effect t now batchSize fs
        ((paths.map (taskOf inputDirectory outputDirectory)).filter (!isUpToDate fs ·))
        (processTree t now fs inputDirectory outputDirectory batchSize pattern).files
        (processTree t now fs inputDirectory outputDirectory batchSize pattern).run.outcome := by
  obtain ⟨paths, hinputs, hsorted, hmem⟩ := exists_inputs hplain hpattern inputDirectory
  refine ⟨paths, hinputs, hsorted, hmem, ?_, fun t now batchSize => ?_⟩
  · rw [List.nodup_map_iff_inj_on (nodup_of_pairwise_lt hsorted)]
    intro a ha b hb hab
    obtain ⟨names, hnames, rfl⟩ := ((hmem a).1 ha).isBelow
    obtain ⟨others, hothers, rfl⟩ := ((hmem b).1 hb).isBelow
    rw [taskOf_append, taskOf_append, output_location hnames, output_location hothers,
      List.append_cancel_left_eq] at hab
    rw [hab]
  · refine effect_processTree hplain hpattern.isPlain hinputs ?_ ?_ t now batchSize
    · exact fun path hpath => hfile path ((hmem path).1 hpath)
    · exact fun a ha b hb => hne a b ((hmem a).1 ha) ((hmem b).1 hb)

theorem isNamePattern_defaultPattern : IsNamePattern defaultPattern defaultPattern where
  path_eq := by decide +kernel
  no_slash := by decide +kernel
  ne_dots := by decide +kernel
  no_stars := by decide +kernel

/-- Three inputs, and an output that is newer than the last of them. -/
def threeFiles : FileSystem :=
  ⟨[([], .directory 0), ([text "in"], .directory 0), ([text "in", text "a.b"], .directory 0),
    ([text "in", text "a.b", text "x.jsonl"],
      .file (.bytes ((text "\x7b\"text\": \"off on\"\x7d").map Nat.toUInt8)) 5),
    ([text "in", text "a"], .directory 0),
    ([text "in", text "a", text "x.jsonl"], .file (.bytes ((text "7\n").map Nat.toUInt8)) 5),
    ([text "in", text "c.jsonl"], .file (.bytes ((text "8\n").map Nat.toUInt8)) 5),
    ([text "out"], .directory 0), ([text "out", text "c.jsonl"], .file (.bytes []) 6)]⟩

def threeFilesInput : Path := ⟨.relative, [text "in"]⟩

def threeFilesOutput : Path := ⟨.relative, [text "out"]⟩

/-- A dot comes before a slash, but the directory without one comes first. -/
def threeFilesPaths : List Path :=
  [⟨.relative, [text "in", text "a", text "x.jsonl"]⟩,
    ⟨.relative, [text "in", text "a.b", text "x.jsonl"]⟩,
    ⟨.relative, [text "in", text "c.jsonl"]⟩]

theorem isPlain_threeFiles : threeFiles.IsPlain := by
  unfold FileSystem.IsPlain
  decide +kernel

theorem inputs_threeFiles :
    inputs threeFiles threeFilesInput defaultPattern = .ok threeFilesPaths ∧
      ∀ path, path ∈ threeFilesPaths ↔ IsMatch threeFiles threeFilesInput defaultPattern path :=
  inputs_eq_of_perm isPlain_threeFiles isNamePattern_defaultPattern (by decide +kernel)
    (by decide +kernel) (by decide +kernel)

def threeFilesTagged : List Summary :=
  [⟨⟨.relative, [text "in", text "a", text "x.jsonl"]⟩,
      ⟨.relative, [text "out", text "a", text "x.jsonl"]⟩, 1, 0⟩,
    ⟨⟨.relative, [text "in", text "a.b", text "x.jsonl"]⟩,
      ⟨.relative, [text "out", text "a.b", text "x.jsonl"]⟩, 1, 1⟩]

/-- Two files are tagged, and the newer output stays as it is. -/
theorem processTree_threeFiles :
    (processTree Tagger.twoWords 7 threeFiles threeFilesInput threeFilesOutput 32
      defaultPattern).run.outcome = .ok threeFilesTagged ∧
    (processTree Tagger.twoWords 7 threeFiles threeFilesInput threeFilesOutput 32
      defaultPattern).files.node? [text "out", text "c.jsonl"] = some (.file (.bytes []) 6) := by
  obtain ⟨hinputs, hmatch⟩ := inputs_threeFiles
  have hfile : ∀ path, IsMatch threeFiles threeFilesInput defaultPattern path →
      threeFiles.isFile path = true := by
    have hall : ∀ path ∈ threeFilesPaths, threeFiles.isFile path = true := by decide +kernel
    exact fun path hpath => hall path ((hmatch path).2 hpath)
  have hne : ∀ a b, IsMatch threeFiles threeFilesInput defaultPattern a →
      IsMatch threeFiles threeFilesInput defaultPattern b →
        (taskOf threeFilesInput threeFilesOutput a).output.location ≠ b.location := by
    have hall : ∀ a ∈ threeFilesPaths, ∀ b ∈ threeFilesPaths,
        (taskOf threeFilesInput threeFilesOutput a).output.location ≠ b.location := by
      decide +kernel
    exact fun a b ha hb => hall a ((hmatch a).2 ha) b ((hmatch b).2 hb)
  obtain ⟨paths, hpaths, -, -, -, heffect⟩ :=
    processTree_effect isPlain_threeFiles isNamePattern_defaultPattern hfile hne
  obtain rfl := Except.ok.inj (hinputs.symm.trans hpaths)
  have heffect := heffect Tagger.twoWords 7 32
  have hok := (heffect.ok_iff threeFilesTagged).2 (Traversal.mapM_eq_ok_iff.1
    (Traversal.toOption_eq_some_iff.1 (by decide +kernel)))
  refine ⟨hok, ?_⟩
  obtain ⟨hleaves, -⟩ := heffect.finished _ hok
  exact (hleaves.others (by decide +kernel)).2 (by decide +kernel)

end EntityTagger.Stage
