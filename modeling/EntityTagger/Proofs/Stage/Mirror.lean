import EntityTagger.Proofs.Directories
import EntityTagger.Proofs.Path.Below
import EntityTagger.Proofs.Stage.Output
import EntityTagger.Stage.Tree

/-! An output directory that mirrors an input directory. Making directories and writing outputs keep
it so, and leave the input directory and all other outputs alone. -/
namespace EntityTagger.Stage

open FileSystem

variable {start fs next : FileSystem} {inputDirectory outputDirectory : Path}
  {source base : Location} {known fresh names : List Text} {now : ℤ}

/-- An input directory, and a path under which nothing stands yet: the output directory is to be
made below `base`, outside of the input directory. -/
structure Apart (start : FileSystem) (inputDirectory outputDirectory : Path)
    (source base : Location) (known fresh : List Text) : Prop where
  tree : start.IsTree inputDirectory source
  isDirectory_source : start.IsDirectoryAt source
  parts_eq : outputDirectory.parts = known ++ fresh
  walk_known : start.walk [] known = .ok base
  isDirectory_base : start.IsDirectoryAt base
  fresh_ne_nil : fresh ≠ []
  not_dots : text ".." ∉ fresh
  absent : ∀ place, base ++ fresh.take 1 <+: place → start.node? place = none
  outside : ¬ source <+: base

/-- The places that change: the output directory with all that is below it, and what has to be made
above it. -/
def Area (base : Location) (fresh : List Text) (place : Location) : Prop :=
  place = base ∨ base ++ fresh.take 1 <+: place

theorem area_of_prefix {above more : List Text} (hne : fresh ≠ []) (h : above <+: fresh ++ more) :
    Area base fresh (base ++ above) := by
  cases above with
  | nil => exact Or.inl (List.append_nil base)
  | cons name rest =>
    cases fresh with
    | nil => exact absurd rfl hne
    | cons first others =>
      obtain rfl : name = first := (List.cons_prefix_cons.1 h).1
      exact Or.inr ((List.prefix_append_right_inj base).2 (List.prefix_append [name] rest))

theorem dropLast_place (first fresh : List Text) (hne : names ≠ []) :
    (first ++ (fresh ++ names)).dropLast = first ++ (fresh ++ names.dropLast) := by
  rw [List.dropLast_append_of_ne_nil (List.append_ne_nil_of_right_ne_nil fresh hne),
    List.dropLast_append_of_ne_nil hne]

theorem Apart.not_area (h : Apart start inputDirectory outputDirectory source base known fresh)
    (names : List Text) : ¬ Area base fresh (source ++ names) := by
  have habsent : ¬ base ++ fresh.take 1 <+: source := by
    intro hprefix
    obtain ⟨time, hdir⟩ := h.isDirectory_source
    simp [h.absent source hprefix] at hdir
  rintro (heq | hprefix)
  · exact h.outside (heq ▸ List.prefix_append source names)
  · rcases List.prefix_or_prefix_of_prefix (List.prefix_append source names) hprefix with hin | hin
    · obtain ⟨first, rest, rfl⟩ := List.exists_cons_of_ne_nil h.fresh_ne_nil
      rcases List.prefix_concat_iff.1 hin with heq | hin
      · exact habsent (heq ▸ List.prefix_rfl)
      · exact h.outside hin
    · exact habsent hin

/-- The output that stands for an input is newer than it, and holds all of its rows or was cut
short. -/
def HasOutput (start fs : FileSystem) (source target : Location) (names : List Text)
    (fault : Option Utf8.EncodeError) : Prop :=
  ∃ input changed output time, start.walk source names = .ok (source ++ names) ∧
    start.node? (source ++ names) = some (.file input changed) ∧
    fs.node? (target ++ names) = some (.file (.bytes output) time) ∧ changed < time ∧
    Row.IsWritten input.toBytes output fault

/-- The invariant of all runs: nothing changed but the output directory, and what stands in it
mirrors the input directory. -/
structure Mirrors (start : FileSystem) (source base : Location) (fresh : List Text)
    (fs : FileSystem) : Prop where
  keeps : Extends start fs
  outside : SameOutside (Area base fresh) start fs
  directory : ∀ names, names ≠ [] → fs.IsDirectoryAt (base ++ fresh ++ names) →
    start.IsDirectoryAt (source ++ names)
  file : ∀ names, fs.IsFileAt (base ++ fresh ++ names) →
    ∃ fault, HasOutput start fs source (base ++ fresh) names fault
  walk : ∀ names, fs.IsFileAt (base ++ fresh ++ names) →
    fs.walk base (fresh ++ names) = .ok (base ++ fresh ++ names)

def SameFiles (target : Location) (kept : List Text → Prop) (fs next : FileSystem) : Prop :=
  ∀ names, kept names → ∀ content time,
    next.node? (target ++ names) = some (.file content time) ↔
      fs.node? (target ++ names) = some (.file content time)

theorem HasOutput.congr {target : Location} {kept : List Text → Prop}
    {fault : Option Utf8.EncodeError} (hsame : SameFiles target kept fs next) (hkept : kept names) :
    HasOutput start next source target names fault ↔
      HasOutput start fs source target names fault := by
  simp only [HasOutput, hsame names hkept]

theorem HasOutput.not_cut {target : Location}
    (h : HasOutput start fs source target names none) (fault : Utf8.EncodeError) :
    ¬ HasOutput start fs source target names (some fault) := by
  rintro ⟨input, changed, output, time, -, hinput, houtput, -, hcut⟩
  obtain ⟨input', changed', output', time', -, hinput', houtput', -, hwhole⟩ := h
  obtain ⟨rfl, -⟩ : input' = input ∧ changed' = changed := by
    simpa using hinput'.symm.trans hinput
  obtain ⟨rfl, -⟩ : output' = output ∧ time' = time := by simpa using houtput'.symm.trans houtput
  exact hwhole.not_cut fault hcut

def taskAt (inputDirectory outputDirectory : Path) (names : List Text) : Task :=
  ⟨inputDirectory.append ⟨.relative, names⟩, outputDirectory.append ⟨.relative, names⟩⟩

theorem taskOf_append (inputDirectory outputDirectory : Path) (names : List Text) :
    taskOf inputDirectory outputDirectory (inputDirectory.append ⟨.relative, names⟩) =
      taskAt inputDirectory outputDirectory names := by
  simp [taskOf, taskAt, Path.append]

section Mirrors

variable (hapart : Apart start inputDirectory outputDirectory source base known fresh)
include hapart

theorem Apart.absent_output (names : List Text) : start.node? (base ++ fresh ++ names) = none := by
  refine hapart.absent _ ?_
  rw [List.append_assoc, List.prefix_append_right_inj]
  exact (List.take_prefix 1 fresh).trans (List.prefix_append fresh names)

theorem Apart.mirrors_self : Mirrors start source base fresh start := by
  have hfree : ∀ names, ¬ start.IsFileAt (base ++ fresh ++ names) := by
    rintro names ⟨content, time, hfile⟩
    rw [hapart.absent_output names] at hfile
    simp at hfile
  refine ⟨Extends.refl start, SameOutside.refl start, ?_, ?_, ?_⟩
  · rintro names - ⟨time, hdir⟩
    rw [hapart.absent_output names] at hdir
    simp at hdir
  · exact fun names hfile => absurd hfile (hfree names)
  · exact fun names hfile => absurd hfile (hfree names)

theorem Apart.ne_nil_of_file (hfile : start.IsFileAt (source ++ names)) : names ≠ [] := by
  rintro rfl
  obtain ⟨time, hdir⟩ := hapart.isDirectory_source
  obtain ⟨content, changed, hnode⟩ := hfile
  simp [hdir] at hnode

theorem Apart.resolve_output (hkeeps : Extends start fs) (names : List Text) :
    fs.resolve (outputDirectory.append ⟨.relative, names⟩) = fs.walk base (fresh ++ names) := by
  have hparts : (outputDirectory.append ⟨.relative, names⟩).parts = known ++ (fresh ++ names) := by
    simp [Path.append, hapart.parts_eq]
  have hknown : fs.walk [] known = .ok base := walk_mono hkeeps hapart.walk_known
  rw [resolve, hparts, walk_append, hknown]
  rfl

theorem Apart.not_dots_append (hdots : text ".." ∉ names) : text ".." ∉ fresh ++ names := by
  intro hmem
  rcases List.mem_append.1 hmem with hmem | hmem
  · exact hapart.not_dots hmem
  · exact hdots hmem

theorem Apart.inputs_cases (hplain : Glob.IsPlain pattern) :
    (∃ e, inputs start inputDirectory pattern = .error e) ∨
    ∃ below : List (List Text), (∀ names ∈ below, text ".." ∉ names) ∧
      inputs start inputDirectory pattern =
        .ok (below.map fun names => inputDirectory.append ⟨.relative, names⟩) := by
  rw [inputs]
  cases hbelow : Glob.below start inputDirectory pattern with
  | error fault =>
    left
    cases fault with
    | absolute => exact ⟨_, rfl⟩
    | starsInName => exact ⟨_, rfl⟩
  | ok paths =>
    obtain ⟨below, hdots, rfl⟩ := Glob.exists_names fun path hpath =>
      Glob.isBelow_of_mem_below hapart.tree hplain hbelow hpath
    exact Or.inr ⟨below, hdots, rfl⟩

theorem Mirrors.sameBelow (h : Mirrors start source base fresh fs) :
    SameBelow source start fs := by
  refine h.outside (source.isPrefixOf ·) ?_
  intro place hplace
  rw [Bool.eq_false_iff]
  intro hprefix
  obtain ⟨names, rfl⟩ := List.isPrefixOf_iff_prefix.1 hprefix
  exact hapart.not_area names hplace

theorem Mirrors.isTree (h : Mirrors start source base fresh fs) :
    fs.IsTree inputDirectory source :=
  hapart.tree.of_sameBelow (h.sameBelow hapart) (walk_mono h.keeps hapart.tree.resolve_eq)

theorem Mirrors.inputs_eq (hplain : Glob.IsPlain pattern)
    (h : Mirrors start source base fresh fs) :
    inputs fs inputDirectory pattern = inputs start inputDirectory pattern := by
  rw [inputs, inputs,
    Glob.below_eq_of_sameBelow hapart.tree (h.isTree hapart) (h.sameBelow hapart) hplain]

theorem Mirrors.walk_source (h : Mirrors start source base fresh fs) (hdots : text ".." ∉ names)
    {place : Location} {node : Node}
    (hplace : fs.resolve (inputDirectory.append ⟨.relative, names⟩) = .ok place)
    (hnode : fs.node? place = some node) :
    start.walk source names = .ok (source ++ names) ∧
      start.node? (source ++ names) = some node := by
  have hsame := h.sameBelow hapart
  rw [(h.isTree hapart).resolve_append, walk_congr hdots hsame.node?_eq] at hplace
  obtain rfl := ((walk_eq_ok_iff hdots).1 hplace).1
  exact ⟨hplace, by rw [← hsame.node?_eq, hnode]⟩

theorem Mirrors.isFileAt_of_isFile (h : Mirrors start source base fresh fs)
    (hdots : text ".." ∉ names)
    (hfile : fs.isFile (inputDirectory.append ⟨.relative, names⟩) = true) :
    start.IsFileAt (source ++ names) := by
  cases hplace : fs.resolve (inputDirectory.append ⟨.relative, names⟩) with
  | error fault => simp [isFile, find?, hplace, Except.toOption] at hfile
  | ok place =>
    rw [isFile, find?_of_resolve hplace] at hfile
    cases hnode : fs.node? place with
    | none => simp [hnode] at hfile
    | some node =>
      cases node with
      | directory time => simp [hnode] at hfile
      | file content changed =>
        exact ⟨content, changed, (h.walk_source hapart hdots hplace hnode).2⟩

theorem Mirrors.find?_output {fault : Option Utf8.EncodeError}
    (h : Mirrors start source base fresh fs)
    (houtput : HasOutput start fs source (base ++ fresh) names fault) :
    ∃ input changed output time,
      fs.resolve (inputDirectory.append ⟨.relative, names⟩) = .ok (source ++ names) ∧
      fs.node? (source ++ names) = some (.file input changed) ∧
      fs.resolve (outputDirectory.append ⟨.relative, names⟩) = .ok (base ++ fresh ++ names) ∧
      fs.node? (base ++ fresh ++ names) = some (.file (.bytes output) time) ∧ changed < time ∧
      Row.IsWritten input.toBytes output fault := by
  obtain ⟨input, changed, output, time, hwalk, hinput, hfile, holder, hrows⟩ := houtput
  refine ⟨input, changed, output, time, ?_, ?_, ?_, hfile, holder, hrows⟩
  · rw [(h.isTree hapart).resolve_append]
    exact walk_mono h.keeps hwalk
  · rw [(h.sameBelow hapart).node?_eq, hinput]
  · rw [hapart.resolve_output h.keeps]
    exact h.walk names ⟨_, time, hfile⟩

theorem Mirrors.isFile_input {fault : Option Utf8.EncodeError}
    (h : Mirrors start source base fresh fs)
    (houtput : HasOutput start fs source (base ++ fresh) names fault) :
    fs.isFile (inputDirectory.append ⟨.relative, names⟩) = true := by
  obtain ⟨input, changed, _, _, hin, hinput, -⟩ := h.find?_output hapart houtput
  rw [isFile, find?_of_resolve hin, hinput]

theorem Mirrors.isUpToDate_output {fault : Option Utf8.EncodeError}
    (h : Mirrors start source base fresh fs)
    (houtput : HasOutput start fs source (base ++ fresh) names fault) :
    isUpToDate fs (taskAt inputDirectory outputDirectory names) = true := by
  obtain ⟨input, changed, output, time, hin, hinput, hout, hfile, holder, -⟩ :=
    h.find?_output hapart houtput
  simp only [isUpToDate, taskAt, find?_of_resolve hin, find?_of_resolve hout, hinput, hfile,
    Node.modified]
  exact decide_eq_true holder

/-- An output is up to date if it is newer than the input, and then it is a file as well. -/
theorem Mirrors.isFileAt_of_isUpToDate (h : Mirrors start source base fresh fs)
    (hdots : text ".." ∉ names) (hinput : start.IsFileAt (source ++ names))
    (hdate : isUpToDate fs (taskAt inputDirectory outputDirectory names) = true) :
    fs.IsFileAt (base ++ fresh ++ names) := by
  have hne := hapart.ne_nil_of_file hinput
  rw [isUpToDate] at hdate
  cases hfind : fs.find? (outputDirectory.append ⟨.relative, names⟩) with
  | none => simp [taskAt, hfind] at hdate
  | some node =>
    rw [find?, hapart.resolve_output h.keeps] at hfind
    cases hplace : fs.walk base (fresh ++ names) with
    | error fault => simp [hplace, Except.toOption] at hfind
    | ok place =>
      obtain ⟨rfl, -⟩ := (walk_eq_ok_iff (hapart.not_dots_append hdots)).1 hplace
      rw [hplace, ← List.append_assoc] at hfind
      cases node with
      | file content time => exact ⟨content, time, hfind⟩
      | directory time =>
        obtain ⟨before, hdir⟩ := h.directory names hne ⟨time, hfind⟩
        obtain ⟨content, changed, hfile⟩ := hinput
        simp [hdir] at hfile

/-- The directories above an output mirror those above the input, whether or not all of them could
be made. -/
theorem Mirrors.withDirectories {made : FileSystem} (h : Mirrors start source base fresh fs)
    (hdots : text ".." ∉ names) (hne : names ≠ [])
    (hwalk : start.walk source names = .ok (source ++ names))
    (hmade : fs.withDirectories (outputDirectory.append ⟨.relative, names⟩).parent now = made) :
    Mirrors start source base fresh made ∧ Extends fs made ∧
      SameFiles (base ++ fresh) (fun _ => True) fs made := by
  have hparts : (outputDirectory.append ⟨.relative, names⟩).parent.parts =
      known ++ (fresh ++ names.dropLast) := by
    simp [Path.append, Path.parent, hapart.parts_eq, dropLast_place known fresh hne]
  have hdotsAbove : text ".." ∉ fresh ++ names.dropLast :=
    hapart.not_dots_append fun hmem => hdots (List.dropLast_subset names hmem)
  have hbase := h.keeps.directory hapart.isDirectory_base
  have hadds := addsDirectories_withDirectories
    (isDirectoryAt_root (walk_mono h.keeps hapart.walk_known) hbase)
    (outputDirectory.append ⟨.relative, names⟩).parent now
  rw [hparts, hmade] at hadds
  have hway : ∀ {place}, Around (fs.IsMissing (known ++ (fresh ++ names.dropLast))) place →
      ∃ above, above <+: fresh ++ names.dropLast ∧ place = base ++ above := fun haround =>
    haround.below (walk_mono h.keeps hapart.walk_known) hbase hdotsAbove
  have hsame : SameFiles (base ++ fresh) (fun _ => True) fs made :=
    fun _ _ _ _ => hadds.node?_eq_file_iff
  refine ⟨⟨h.keeps.trans hadds.keeps, h.outside.trans (hadds.outside.mono ?_), ?_, ?_, ?_⟩,
    hadds.keeps, hsame⟩
  · intro place hplace
    obtain ⟨above, hprefix, rfl⟩ := hway hplace
    exact area_of_prefix hapart.fresh_ne_nil hprefix
  · rintro others hothers ⟨time, hdir⟩
    by_cases hplace : Around (fs.IsMissing (known ++ (fresh ++ names.dropLast)))
        (base ++ fresh ++ others)
    · obtain ⟨above, hprefix, heq⟩ := hway hplace
      rw [List.append_assoc, List.append_cancel_left_eq] at heq
      rw [← heq, List.prefix_append_right_inj] at hprefix
      obtain ⟨below, hbelow⟩ := hprefix
      refine ((walk_eq_ok_iff hdots).1 hwalk).2 others (below ++ [names.getLast hne]) ?_ (by simp)
      rw [← List.append_assoc, hbelow, List.dropLast_append_getLast]
    · rw [hadds.outside.node?_eq hplace] at hdir
      exact h.directory others hothers ⟨time, hdir⟩
  · rintro others ⟨content, time, hfile⟩
    obtain ⟨fault, houtput⟩ := h.file others ⟨content, time, hadds.file hfile⟩
    exact ⟨fault, (HasOutput.congr hsame trivial).2 houtput⟩
  · rintro others ⟨content, time, hfile⟩
    exact walk_mono hadds.keeps (h.walk others ⟨content, time, hadds.file hfile⟩)

/-- An output is written at the place that stands for the input, and no other file changes. -/
theorem Mirrors.write {after : FileSystem} {content : List UInt8}
    {fault : Option Utf8.EncodeError} (h : Mirrors start source base fresh fs)
    (hdots : text ".." ∉ names) (hne : names ≠ []) {input : Content} {changed : ℤ}
    (hwalk : start.walk source names = .ok (source ++ names))
    (hinput : start.node? (source ++ names) = some (.file input changed)) (hnow : changed < now)
    (hrows : Row.IsWritten input.toBytes content fault)
    (hafter : fs.write (outputDirectory.append ⟨.relative, names⟩) (.bytes content) now =
      .ok after) :
    Mirrors start source base fresh after ∧ Extends fs after ∧
      SameFiles (base ++ fresh) (· ≠ names) fs after ∧
      HasOutput start after source (base ++ fresh) names fault := by
  obtain ⟨place, hplace⟩ := resolve_of_write hafter
  have hwalked := (hapart.resolve_output h.keeps names).symm.trans hplace
  obtain ⟨rfl, hdown⟩ := (walk_eq_ok_iff (hapart.not_dots_append hdots)).1 hwalked
  have hup := dropLast_place base fresh hne
  have hparent : fs.IsDirectoryAt (base ++ (fresh ++ names)).dropLast := by
    rw [hup]
    refine hdown (fresh ++ names.dropLast) [names.getLast hne] ?_ (List.cons_ne_nil _ _)
    rw [List.append_assoc, List.dropLast_append_getLast]
  have hwrites := writesFile_of_write hplace hparent hafter
  have hplaces : base ++ (fresh ++ names) = base ++ fresh ++ names :=
    (List.append_assoc base fresh names).symm
  have hsame : SameFiles (base ++ fresh) (· ≠ names) fs after := by
    intro others hothers found time
    refine hwrites.others fun heq => hothers ?_
    rwa [hplaces, List.append_cancel_left_eq] at heq
  have houtput : HasOutput start after source (base ++ fresh) names fault :=
    ⟨input, changed, content, now, hwalk, hinput, hplaces ▸ hwrites.file, hnow, hrows⟩
  refine ⟨⟨h.keeps.trans hwrites.keeps, h.outside.trans (hwrites.outside.mono ?_), ?_, ?_, ?_⟩,
    hwrites.keeps, hsame, houtput⟩
  · rintro place (rfl | rfl)
    · exact area_of_prefix hapart.fresh_ne_nil List.prefix_rfl
    · rw [hup]
      exact area_of_prefix hapart.fresh_ne_nil
        ((List.prefix_append_right_inj fresh).2 (List.dropLast_prefix names))
  · intro others hothers hdir
    exact h.directory others hothers (hwrites.directory hdir)
  · rintro others ⟨found, time, hfile⟩
    by_cases hothers : others = names
    · exact ⟨fault, hothers ▸ houtput⟩
    · obtain ⟨other, hother⟩ := h.file others ⟨found, time, (hsame others hothers _ _).1 hfile⟩
      exact ⟨other, (HasOutput.congr hsame hothers).2 hother⟩
  · rintro others ⟨found, time, hfile⟩
    by_cases hothers : others = names
    · subst hothers
      exact walk_mono hwrites.keeps (hplaces ▸ hwalked)
    · exact walk_mono hwrites.keeps
        (h.walk others ⟨found, time, (hsame others hothers _ _).1 hfile⟩)

end Mirrors

end EntityTagger.Stage
