import EntityTagger.Proofs.Stage.Effect

/-! Directories that overlap. The output of a task may be the input of a later one, which then reads
what the earlier one wrote; every other task reads its input as it was at the start. -/
namespace EntityTagger.Stage

open FileSystem Glob

variable {t : Tagger} {now batchSize : ℤ} {fs mid after : FileSystem}
  {inputDirectory outputDirectory path : Path} {pattern : Text} {task : Task}
  {tasks before rest : List Task} {paths : List Path} {summaries : List Summary}

/-- Of all files only the outputs of tasks changed. -/
structure Overwrites (tasks : List Task) (fs after : FileSystem) : Prop where
  keeps : Extends fs after
  others : ∀ {place content time}, (∀ task ∈ tasks, place ≠ task.output.location) →
    (after.node? place = some (.file content time) ↔ fs.node? place = some (.file content time))

theorem Overwrites.refl (tasks : List Task) (fs : FileSystem) : Overwrites tasks fs fs :=
  ⟨Extends.refl fs, fun _ => Iff.rfl⟩

theorem Overwrites.trans_touches (h : Overwrites tasks fs mid) (hmem : task ∈ tasks)
    (k : Touches task.output mid after) : Overwrites tasks fs after := by
  refine ⟨h.keeps.trans k.keeps, ?_⟩
  intro place content time hplace
  rw [k.others (hplace task hmem)]
  exact h.others hplace

theorem overwrites_processTasks (hroot : fs.IsDirectoryAt []) (hnamed : ∀ a ∈ tasks, a.IsNamed)
    (t : Tagger) (now batchSize : ℤ) :
    Overwrites tasks fs (processTasks t now batchSize fs tasks).files := by
  apply processTasks_induction (Overwrites.refl tasks fs)
  intro mid hmid task htask
  apply hmid.trans_touches htask
  exact (tags_alone (hmid.keeps.directory hroot) (hnamed task htask) t now batchSize).touches

theorem Overwrites.find?_eq (h : Overwrites tasks fs after) (hfile : fs.isFile path = true)
    (hne : ∀ a ∈ tasks, a.output.location ≠ path.location) : after.find? path = fs.find? path := by
  obtain ⟨content, time, hfind⟩ := isFile_iff.1 hfile
  obtain ⟨place, hplace, hnode⟩ := find?_eq_some_iff.1 hfind
  obtain ⟨rfl, -⟩ := walk_eq_ok_iff_lead.1 hplace
  rw [hfind, find?_of_resolve (walk_mono h.keeps hplace)]
  exact (h.others fun a ha => (hne a ha).symm).2 hnode

theorem FileStep.keeps {input output : Path} {reading : Except Error (List (Json × Annotation))}
    {ended : Except Error Summary} (hroot : fs.IsDirectoryAt [])
    (h : FileStep now fs input output reading after ended) : Extends fs after := by
  cases h with
  | unread => exact Extends.refl fs
  | refused hmade => exact (addsDirectories_withDirectories hroot _ now).keeps
  | unwritten hmade hafter => exact (addsDirectories_of_makeDirectories hroot hmade).keeps
  | written hmade hafter =>
    obtain ⟨place, hplace⟩ := resolve_of_write hafter
    obtain ⟨-, -, hkeeps, -⟩ := write_eq_ok hplace hafter
    exact (addsDirectories_of_makeDirectories hroot hmade).keeps.trans hkeeps

theorem extends_processTasks (hroot : fs.IsDirectoryAt []) (t : Tagger) (now batchSize : ℤ)
    (tasks : List Task) : Extends fs (processTasks t now batchSize fs tasks).files := by
  apply processTasks_induction (Extends.refl fs)
  intro mid hmid task htask
  have hstep := fileStep_processFile t now mid task.input task.output batchSize
  exact hmid.trans (hstep.keeps (hmid.directory hroot))

theorem processTasks_append_eq_ok
    (h : (processTasks t now batchSize fs (before ++ rest)).run.outcome = .ok summaries) :
    ∃ first others, (processTasks t now batchSize fs before).run.outcome = .ok first ∧
      (processTasks t now batchSize (processTasks t now batchSize fs before).files
        rest).run.outcome = .ok others := by
  cases hfirst : (processTasks t now batchSize fs before).run.outcome with
  | ok first =>
    rw [(processTasks_append_of_ok hfirst rest).2, Traversal.map_eq_ok_iff] at h
    obtain ⟨others, hothers, -⟩ := h
    exact ⟨first, others, rfl, hothers⟩
  | error e =>
    obtain ⟨done, task, more, some, rfl, hdone, herror⟩ := exists_of_processTasks_error hfirst
    rw [List.append_assoc, (processTasks_append_of_ok hdone _).2, List.cons_append,
      (processTasks_cons_of_error herror).2] at h
    simp [Except.map] at h

/-- The output of a task holds the rows that some files have for its input, each with what is found
in it. -/
def HoldsRowsOf (t : Tagger) (batchSize : ℤ) (source after : FileSystem) (task : Task) : Prop :=
  ∃ pairs bytes, (annotated t source task.input batchSize).outcome = .ok pairs ∧
    linesOf pairs = (bytes, none) ∧ after.readBytes task.output = .ok bytes

theorem HoldsRowsOf.congr {source : FileSystem} (h : HoldsRowsOf t batchSize mid after task)
    (hfile : source.isFile task.input = true)
    (hsame : mid.find? task.input = source.find? task.input) :
    HoldsRowsOf t batchSize source after task := by
  obtain ⟨pairs, bytes, hreading, hlines, houtput⟩ := h
  obtain ⟨content, time, hfind⟩ := isFile_iff.1 hfile
  refine ⟨pairs, bytes, ?_, hlines, houtput⟩
  rw [annotated, readBytes_of_find? (hsame.trans hfind)] at hreading
  rw [annotated, readBytes_of_find? hfind]
  exact hreading

/-- A task that has its turn leaves its rows, if no later task has the same output. -/
theorem holdsRowsOf_of_turn (hroot : mid.IsDirectoryAt [])
    (hnamed : ∀ a ∈ task :: rest, a.IsNamed)
    (hlast : ∀ a ∈ rest, a.output.location ≠ task.output.location)
    (hok : (processTasks t now batchSize mid (task :: rest)).run.outcome = .ok summaries) :
    HoldsRowsOf t batchSize mid (processTasks t now batchSize mid (task :: rest)).files task := by
  have htags := tags_alone hroot (hnamed task (List.mem_cons_self ..)) t now batchSize
  obtain ⟨summary, others, hfirst, -, -⟩ := processTasks_cons_eq_ok hok
  rw [hfirst] at htags
  obtain ⟨pairs, hreading, hfault, -, hdelivers⟩ := htags.delivers
  have hfile : (alone t now batchSize mid task).files.find? task.output =
      some (.file (.bytes (linesOf pairs).1) now) := by
    rw [find?_of_resolve hdelivers.resolve_eq, hdelivers.file]
  have hrest := overwrites_processTasks (hdelivers.keeps.directory hroot)
    (fun a ha => hnamed a (List.mem_cons_of_mem _ ha)) t now batchSize
  have hkept := hrest.find?_eq (isFile_iff.2 ⟨_, _, hfile⟩) hlast
  rw [(processTasks_cons_of_ok hfirst).1]
  exact ⟨pairs, (linesOf pairs).1, hreading, Prod.ext rfl hfault,
    readBytes_of_find? (hkept.trans hfile)⟩

theorem isFile_of_turn
    (hok : (processTasks t now batchSize mid (task :: rest)).run.outcome = .ok summaries) :
    mid.isFile task.input = true := by
  cases hreading : (annotated t mid task.input batchSize).outcome with
  | ok pairs =>
    obtain ⟨bytes, hbytes, -⟩ := annotated_eq_ok hreading
    obtain ⟨place, content, time, hplace, hnode, -⟩ := readBytes_eq_ok hbytes
    exact isFile_iff.2 ⟨content, time, find?_eq_some_iff.2 ⟨place, hplace, hnode⟩⟩
  | error e =>
    obtain ⟨summary, others, hfirst, -, -⟩ := processTasks_cons_eq_ok hok
    rw [alone, processFile, hreading] at hfirst
    simp at hfirst

theorem isFile_of_extends (h : Extends fs mid) (hpresent : fs.isPresent path = true)
    (hfile : mid.isFile path = true) : fs.isFile path = true := by
  rcases isFile_or_isDirectory hpresent with hfirst | hdir
  · exact hfirst
  · have hlater := isDirectory_of_extends h hdir
    simp [not_isDirectory_of_isFile hfile] at hlater

/-- Tasks that all succeed, each with an output of its own: a task reads what was there at the start,
or, if an earlier task wrote it, what is there at the end. -/
theorem holdsRowsOf_processTasks {start : FileSystem} (hready : ∀ a ∈ tasks, a.IsReady start)
    (hnodup : (tasks.map fun a => a.output.location).Nodup)
    (hok : (processTasks t now batchSize start tasks).run.outcome = .ok summaries)
    (hsplit : tasks = before ++ task :: rest) :
    ((∀ a ∈ before, a.output.location ≠ task.input.location) →
      HoldsRowsOf t batchSize start (processTasks t now batchSize start tasks).files task) ∧
    ((∃ a ∈ before, a.output.location = task.input.location) →
      HoldsRowsOf t batchSize (processTasks t now batchSize start tasks).files
        (processTasks t now batchSize start tasks).files task) := by
  subst hsplit
  have hin : task ∈ before ++ task :: rest := List.mem_append_right _ (List.mem_cons_self ..)
  have hroot := (hready task hin).root
  obtain ⟨first, others, hfirst, hothers⟩ := processTasks_append_eq_ok hok
  rw [(processTasks_append_of_ok hfirst _).1]
  have hbefore : Overwrites before start (processTasks t now batchSize start before).files :=
    overwrites_processTasks hroot (fun a ha => (hready a (List.mem_append_left _ ha)).named) t now
      batchSize
  have hmidRoot := hbefore.keeps.directory hroot
  have hnamed : ∀ a ∈ task :: rest, a.IsNamed := fun a ha =>
    (hready a (List.mem_append_right _ ha)).named
  rw [List.map_append, List.nodup_append] at hnodup
  obtain ⟨-, hnodup, hapart⟩ := hnodup
  have hlast : ∀ a ∈ rest, a.output.location ≠ task.output.location := by
    intro a ha heq
    rw [List.map_cons, List.nodup_cons] at hnodup
    exact hnodup.1 (heq ▸ List.mem_map_of_mem ha)
  have hturn := holdsRowsOf_of_turn hmidRoot hnamed hlast hothers
  constructor
  · intro hne
    have hfile : start.isFile task.input = true := by
      obtain ⟨content, time, hnode⟩ := (hready task hin).isFileAt
      rw [isFile_iff]
      exact ⟨content, time, find?_eq_some_iff.2 ⟨_, (hready task hin).resolve_eq, hnode⟩⟩
    exact hturn.congr hfile (hbefore.find?_eq hfile hne)
  · rintro ⟨a, ha, heq⟩
    -- only `a` writes this file, and that was before
    have hrest := overwrites_processTasks hmidRoot hnamed t now batchSize
    have hfile := isFile_of_turn hothers
    have hkept := hrest.find?_eq hfile fun b hb => by
      rw [← heq]
      exact (hapart _ (List.mem_map_of_mem ha) _ (List.mem_map_of_mem hb)).symm
    refine hturn.congr ?_ hkept.symm
    obtain ⟨content, time, hfind⟩ := isFile_iff.1 hfile
    exact isFile_iff.2 ⟨content, time, hkept.trans hfind⟩

theorem isReady_of_ok (hplain : fs.IsPlain) (hpattern : IsPlain pattern)
    (hinputs : inputs fs inputDirectory pattern = .ok paths)
    (htasks : ∀ a ∈ tasks, ∃ path ∈ paths, a = taskOf inputDirectory outputDirectory path)
    (hok : (processTasks t now batchSize fs tasks).run.outcome = .ok summaries) :
    ∀ a ∈ tasks, a.IsReady fs := by
  intro a ha
  obtain ⟨path, hpath, heq⟩ := htasks a ha
  have hinput : a.input = path := by rw [heq]; rfl
  have hdir := isDirectory_of_mem_below (inputs_eq_ok_iff.1 hinputs) hpath
  obtain ⟨htree, hplace⟩ := hplain.isTree hdir
  obtain ⟨before, rest, rfl⟩ := List.append_of_mem ha
  obtain ⟨first, others, -, hothers⟩ := processTasks_append_eq_ok hok
  have hkeeps := extends_processTasks (isDirectoryAt_root htree.resolve_eq hplace) t now batchSize
    before
  have hpresent := isPresent_of_mem_inputs hplain hpattern hinputs hpath
  have hfile := isFile_of_extends hkeeps hpresent (hinput ▸ isFile_of_turn hothers)
  obtain ⟨names, rfl, hnames⟩ := exists_standsAt hplain hdir
    (isBelow_of_mem_inputs hplain hpattern hinputs hpath) hfile
  rw [heq, taskOf_append]
  exact hnames.isReady hdir

theorem nodup_outputs (hnodup : paths.Nodup) (hbelow : ∀ a ∈ paths, IsBelow inputDirectory a) :
    (paths.map fun a => (taskOf inputDirectory outputDirectory a).output.location).Nodup := by
  rw [List.nodup_map_iff_inj_on hnodup]
  intro a ha b hb hab
  obtain ⟨names, hnames, rfl⟩ := hbelow a ha
  obtain ⟨others, hothers, rfl⟩ := hbelow b hb
  rw [taskOf_append, taskOf_append, output_location hnames, output_location hothers,
    List.append_cancel_left_eq] at hab
  rw [hab]

theorem HoldsRowsOf.bytes_eq {source : FileSystem} (h : HoldsRowsOf t batchSize source after task) :
    ((annotated t source task.input batchSize).outcome.toOption.map fun pairs =>
      (linesOf pairs).1) = (after.readBytes task.output).toOption := by
  obtain ⟨pairs, bytes, hreading, hlines, houtput⟩ := h
  rw [hreading, houtput]
  exact congrArg (fun written => some written.1) hlines

/-- The output directory is in the input directory, and there is an input in it. -/
def nestedFiles : FileSystem :=
  ⟨[([], .directory 0), ([text "in"], .directory 0),
    ([text "in", text "a.jsonl"], .file (.bytes ((text "7\n").map Nat.toUInt8)) 5),
    ([text "in", text "out"], .directory 0),
    ([text "in", text "out", text "a.jsonl"], .file (.bytes ((text "8\n").map Nat.toUInt8)) 5)]⟩

def nestedInput : Path := ⟨.relative, [text "in"]⟩

def nestedOutput : Path := ⟨.relative, [text "in", text "out"]⟩

/-- The first task writes what the second one reads. -/
def nestedTasks : List Task :=
  [⟨⟨.relative, [text "in", text "a.jsonl"]⟩, ⟨.relative, [text "in", text "out", text "a.jsonl"]⟩⟩,
    ⟨⟨.relative, [text "in", text "out", text "a.jsonl"]⟩,
      ⟨.relative, [text "in", text "out", text "out", text "a.jsonl"]⟩⟩]

theorem isPlain_nestedFiles : nestedFiles.IsPlain := by
  unfold FileSystem.IsPlain
  decide +kernel

theorem inputs_nestedFiles :
    inputs nestedFiles nestedInput defaultPattern = .ok (nestedTasks.map Task.input) :=
  (inputs_eq_of_perm isPlain_nestedFiles isNamePattern_defaultPattern (by decide +kernel)
    (by decide +kernel) (by decide +kernel)).1

theorem tasks_nestedFiles : ((nestedTasks.map Task.input).map (taskOf nestedInput
    nestedOutput)).filter (!isUpToDate nestedFiles ·) = nestedTasks := by
  decide +kernel

def nestedTagged : List Summary :=
  nestedTasks.map fun task => ⟨task.input, task.output, 1, 0⟩

theorem outcome_nestedFiles : (processTree Tagger.twoWords 7 nestedFiles nestedInput nestedOutput
    32 defaultPattern).run.outcome = .ok nestedTagged := by
  rw [(processTree_of_inputs Tagger.twoWords 7 32 nestedOutput inputs_nestedFiles).2,
    tasks_nestedFiles]
  exact Traversal.toOption_eq_some_iff.1 (by decide +kernel)

end EntityTagger.Stage
