import EntityTagger.Proofs.Stage.Mirror

/-! One run of the batch stage for a tree: which outputs it writes, and what is left if it fails. -/
namespace EntityTagger.Stage

open FileSystem

variable {start fs next : FileSystem} {inputDirectory outputDirectory : Path}
  {source base : Location} {known fresh names : List Text} {now : ℤ}

/-- No output is cut short. -/
def Whole (start : FileSystem) (source target : Location) (fs : FileSystem) : Prop :=
  ∀ names fault, ¬ HasOutput start fs source target names (some fault)

/-- What a part of a run does that tags the inputs at some names, and how it ends. -/
structure Progress {α : Type} (start : FileSystem) (source base : Location) (fresh : List Text)
    (tagged : List (List Text)) (fs next : FileSystem) (ended : Except Error α) : Prop where
  mirrors : Mirrors start source base fresh next
  untouched : SameFiles (base ++ fresh) (· ∉ tagged) fs next
  keeps : Extends fs next
  done : ∀ a, ended = .ok a → ∀ names ∈ tagged, next.IsFileAt (base ++ fresh ++ names)
  whole : FailsWith Error.NotEncoding ended → Whole start source (base ++ fresh) fs →
    Whole start source (base ++ fresh) next
  cut : ∀ fault, ended = .error (.encoding fault) →
    ∃ names ∈ tagged, HasOutput start next source (base ++ fresh) names (some fault)

namespace Progress

variable {α β γ : Type} {mid : FileSystem} {tagged : List (List Text)}

theorem refused (h : Mirrors start source base fresh next) (hkeeps : Extends fs next)
    (hsame : SameFiles (base ++ fresh) (fun _ => True) fs next) {e : Error} (he : e.NotEncoding) :
    Progress start source base fresh tagged fs next (.error e : Except Error α) where
  mirrors := h
  untouched := fun names _ => hsame names trivial
  keeps := hkeeps
  done := by simp
  whole := fun _ hwhole names fault hcut =>
    hwhole names fault ((HasOutput.congr hsame trivial).1 hcut)
  cut := fun fault hfault => absurd (Except.error.inj hfault) (Error.notEncoding_iff.1 he fault)

theorem written (h : Mirrors start source base fresh next) (hkeeps : Extends fs next)
    (hsame : SameFiles (base ++ fresh) (· ≠ names) fs next) {fault : Option Utf8.EncodeError}
    (houtput : HasOutput start next source (base ++ fresh) names fault) (summary : Summary) :
    Progress start source base fresh [names] fs next (ending summary fault) where
  mirrors := h
  untouched := fun others hothers => hsame others (by simpa using hothers)
  keeps := hkeeps
  done := by
    rintro a - others hothers
    obtain rfl := List.mem_singleton.1 hothers
    obtain ⟨_, _, output, time, _, _, hfile, _, _⟩ := houtput
    exact ⟨_, time, hfile⟩
  whole := by
    intro hended hwhole others error hcut
    by_cases hothers : others = names
    · subst hothers
      cases fault with
      | none => exact houtput.not_cut error hcut
      | some fault => exact absurd rfl (Error.notEncoding_iff.1 (hended _ rfl) fault)
    · exact hwhole others error ((HasOutput.congr hsame hothers).1 hcut)
  cut := by
    intro error herror
    cases fault with
    | none => simp [ending] at herror
    | some fault =>
      obtain rfl : fault = error := by simpa [ending] using herror
      exact ⟨names, List.mem_singleton_self names, houtput⟩

theorem cons {a : α} {ended : Except Error β} {result : Except Error γ}
    (first : Progress start source base fresh [names] fs mid (.ok a))
    (rest : Progress start source base fresh tagged mid next ended)
    (hresult : ∀ e, result = .error e ↔ ended = .error e) :
    Progress start source base fresh (names :: tagged) fs next result where
  mirrors := rest.mirrors
  untouched := by
    intro others hothers content time
    have hrest : others ∉ tagged := fun hmem => hothers (List.mem_cons_of_mem _ hmem)
    have hfirst : others ∉ [names] := fun hmem =>
      hothers (List.mem_singleton.1 hmem ▸ List.mem_cons_self ..)
    rw [rest.untouched others hrest, first.untouched others hfirst]
  keeps := first.keeps.trans rest.keeps
  done := by
    intro c hc others hothers
    rcases List.mem_cons.1 hothers with rfl | hothers
    · exact rest.keeps.file (first.done a rfl others (List.mem_singleton_self others))
    · cases hended : ended with
      | ok b => exact rest.done b hended others hothers
      | error e => simp [(hresult e).2 hended] at hc
  whole := fun hended hwhole => rest.whole (fun e he => hended e ((hresult e).2 he))
    (first.whole (.ok a) hwhole)
  cut := by
    intro fault hfault
    obtain ⟨others, hothers, hcut⟩ := rest.cut fault ((hresult _).1 hfault)
    exact ⟨others, List.mem_cons_of_mem _ hothers, hcut⟩

theorem stop {e : Error}
    (first : Progress start source base fresh [names] fs next (.error e : Except Error α)) :
    Progress start source base fresh (names :: tagged) fs next (.error e : Except Error β) where
  mirrors := first.mirrors
  untouched := fun others hothers => first.untouched others fun hmem =>
    hothers (List.mem_singleton.1 hmem ▸ List.mem_cons_self ..)
  keeps := first.keeps
  done := by simp
  whole := fun hended hwhole => first.whole (.error (hended e rfl)) hwhole
  cut := by
    intro fault hfault
    obtain rfl := Except.error.inj hfault
    obtain ⟨others, hothers, hcut⟩ := first.cut fault rfl
    exact ⟨others, List.mem_singleton.1 hothers ▸ List.mem_cons_self .., hcut⟩

theorem nil (h : Mirrors start source base fresh fs) {ended : Except Error α}
    (hended : FailsWith Error.NotEncoding ended) :
    Progress start source base fresh [] fs fs ended where
  mirrors := h
  untouched := fun _ _ _ _ => Iff.rfl
  keeps := Extends.refl fs
  done := by simp
  whole := fun _ hwhole => hwhole
  cut := fun fault hfault => absurd rfl (Error.notEncoding_iff.1 (hended _ hfault) fault)

end Progress

/-- A run does the tasks whose outputs are not up to date. -/
theorem processTree_of_inputs (t : Tagger) (now batchSize : ℤ) (outputDirectory : Path)
    {paths : List Path} (h : inputs fs inputDirectory pattern = .ok paths) :
    (processTree t now fs inputDirectory outputDirectory batchSize pattern).files =
      (processTasks t now batchSize fs ((paths.map (taskOf inputDirectory outputDirectory)).filter
        (!isUpToDate fs ·))).files ∧
    (processTree t now fs inputDirectory outputDirectory batchSize pattern).run.outcome =
      (processTasks t now batchSize fs ((paths.map (taskOf inputDirectory outputDirectory)).filter
        (!isUpToDate fs ·))).run.outcome := by
  rw [processTree, h]
  cases paths with
  | nil => exact ⟨rfl, rfl⟩
  | cons path rest =>
    dsimp only
    split
    · next hempty =>
      rw [List.isEmpty_iff.1 hempty]
      exact ⟨rfl, rfl⟩
    · refine ⟨rfl, ?_⟩
      simp only [Run.outcome_bind, Run.outcome_log, Run.pure_outcome]
      cases (processTasks t now batchSize fs (((path :: rest).map
        (taskOf inputDirectory outputDirectory)).filter (!isUpToDate fs ·))).run.outcome <;> rfl

section Run

variable (hapart : Apart start inputDirectory outputDirectory source base known fresh)
include hapart

theorem Mirrors.progress_fileStep {t : Tagger} (hmodel : t.model.NotEncoding) {batchSize : ℤ}
    (h : Mirrors start source base fresh fs) (hdots : text ".." ∉ names)
    (hnow : ∀ node, start.find? (inputDirectory.append ⟨.relative, names⟩) = some node →
      node.modified < now)
    {reading : Except Error (List (Json × Annotation))} {ended : Except Error Summary}
    (hreading :
      (annotated t fs (inputDirectory.append ⟨.relative, names⟩) batchSize).outcome = reading)
    (hstep : FileStep now fs (inputDirectory.append ⟨.relative, names⟩)
      (outputDirectory.append ⟨.relative, names⟩) reading next ended) :
    Progress start source base fresh [names] fs next ended := by
  have hinput : ∀ {pairs}, reading = .ok pairs → ∃ input changed,
      start.walk source names = .ok (source ++ names) ∧
        start.node? (source ++ names) = some (.file input changed) ∧
        Row.ofBytes input.toBytes = .ok (pairs.map Prod.fst) := by
    rintro pairs rfl
    obtain ⟨bytes, hread, hrows⟩ := annotated_eq_ok hreading
    obtain ⟨place, input, changed, hplace, hnode, rfl⟩ := readBytes_eq_ok hread
    obtain ⟨hwalk, hnode⟩ := h.walk_source hapart hdots hplace hnode
    exact ⟨input, changed, hwalk, hnode, hrows⟩
  cases hstep with
  | unread =>
    exact .refused h (Extends.refl fs) (fun _ _ _ _ => Iff.rfl)
      (failsWith_annotated hmodel fs _ batchSize _ hreading)
  | refused hmade =>
    obtain ⟨input, changed, hwalk, hnode, -⟩ := hinput rfl
    have hne := hapart.ne_nil_of_file ⟨input, changed, hnode⟩
    obtain ⟨hmirrors, hkeeps, hsame⟩ := h.withDirectories hapart hdots hne hwalk rfl
    exact .refused hmirrors hkeeps hsame rfl
  | unwritten hmade hafter =>
    obtain ⟨input, changed, hwalk, hnode, -⟩ := hinput rfl
    have hne := hapart.ne_nil_of_file ⟨input, changed, hnode⟩
    obtain ⟨hmirrors, hkeeps, hsame⟩ :=
      h.withDirectories hapart hdots hne hwalk (withDirectories_of_ok hmade)
    exact .refused hmirrors hkeeps hsame rfl
  | written hmade hafter =>
    obtain ⟨input, changed, hwalk, hnode, hrows⟩ := hinput rfl
    have hne := hapart.ne_nil_of_file ⟨input, changed, hnode⟩
    obtain ⟨hmirrors, hmakes, hmade⟩ :=
      h.withDirectories hapart hdots hne hwalk (withDirectories_of_ok hmade)
    have holder : changed < now := by
      refine hnow (.file input changed) ?_
      rw [find?_of_resolve ((hapart.tree.resolve_append names).trans hwalk), hnode]
    obtain ⟨hmirrors, hwrites, hsame, houtput⟩ := hmirrors.write hapart hdots hne hwalk hnode
      holder (isWritten_linesOf hrows) hafter
    refine .written hmirrors (hmakes.trans hwrites) ?_ houtput _
    intro others hothers content time
    rw [hsame others hothers, hmade others trivial]

theorem Mirrors.progress_processTasks {t : Tagger} (hmodel : t.model.NotEncoding) (batchSize : ℤ)
    (h : Mirrors start source base fresh fs) {tagged : List (List Text)}
    (htagged : ∀ names ∈ tagged, text ".." ∉ names ∧
      ∀ node, start.find? (inputDirectory.append ⟨.relative, names⟩) = some node →
        node.modified < now) :
    Progress start source base fresh tagged fs
      (processTasks t now batchSize fs (tagged.map (taskAt inputDirectory outputDirectory))).files
      (processTasks t now batchSize fs
        (tagged.map (taskAt inputDirectory outputDirectory))).run.outcome := by
  induction tagged generalizing fs with
  | nil => exact .nil h (.ok _)
  | cons names rest ih =>
    obtain ⟨hdots, hnow⟩ := htagged names (List.mem_cons_self ..)
    have hfirst := h.progress_fileStep hapart hmodel hdots hnow rfl (fileStep_processFile t now fs
      (inputDirectory.append ⟨.relative, names⟩) (outputDirectory.append ⟨.relative, names⟩)
      batchSize)
    rw [List.map_cons, taskAt, processTasks]
    cases hended : (processFile t now fs (inputDirectory.append ⟨.relative, names⟩)
        (outputDirectory.append ⟨.relative, names⟩) batchSize).run.outcome with
    | error e =>
      rw [hended] at hfirst
      exact hfirst.stop
    | ok summary =>
      rw [hended] at hfirst
      simp only [hended, Run.outcome_bind, Run.pure_outcome]
      have hrest := ih hfirst.mirrors fun others hothers =>
        htagged others (List.mem_cons_of_mem _ hothers)
      exact hfirst.cons hrest fun e => Traversal.map_eq_error_iff

theorem Mirrors.progress_processTree {t : Tagger} (hmodel : t.model.NotEncoding) (batchSize : ℤ)
    (hplain : Glob.IsPlain pattern) {below : List (List Text)}
    (hdots : ∀ names ∈ below, text ".." ∉ names)
    (hbelow : inputs start inputDirectory pattern =
      .ok (below.map fun names => inputDirectory.append ⟨.relative, names⟩))
    (hnow : ∀ names ∈ below, ∀ node,
      start.find? (inputDirectory.append ⟨.relative, names⟩) = some node → node.modified < now)
    (h : Mirrors start source base fresh fs) :
    Progress start source base fresh
      (below.filter fun names => !isUpToDate fs (taskAt inputDirectory outputDirectory names)) fs
      (processTree t now fs inputDirectory outputDirectory batchSize pattern).files
      (processTree t now fs inputDirectory outputDirectory batchSize pattern).run.outcome := by
  have htasks : ((below.map fun names => inputDirectory.append ⟨.relative, names⟩).map
      (taskOf inputDirectory outputDirectory)).filter (!isUpToDate fs ·) =
      (below.filter fun names => !isUpToDate fs
        (taskAt inputDirectory outputDirectory names)).map
          (taskAt inputDirectory outputDirectory) := by
    rw [List.map_map, Function.comp_def, List.filter_map]
    simp only [taskOf_append, Function.comp_def]
  have hpending : ∀ names ∈ below.filter fun names => !isUpToDate fs
      (taskAt inputDirectory outputDirectory names), text ".." ∉ names ∧
        ∀ node, start.find? (inputDirectory.append ⟨.relative, names⟩) = some node →
          node.modified < now := by
    intro names hnames
    have hmem := (List.mem_filter.1 hnames).1
    exact ⟨hdots names hmem, hnow names hmem⟩
  obtain ⟨hfiles, hended⟩ := processTree_of_inputs t now batchSize outputDirectory
    ((h.inputs_eq hapart hplain).trans hbelow)
  rw [hfiles, hended, htasks]
  exact h.progress_processTasks hapart hmodel batchSize hpending

theorem Mirrors.cut_of_progress {α : Type} {ended : Except Error α} {below : List (List Text)}
    (h : Mirrors start source base fresh fs)
    (hprogress : Progress start source base fresh (below.filter fun names =>
      !isUpToDate fs (taskAt inputDirectory outputDirectory names)) fs next ended)
    {fault : Utf8.EncodeError}
    (hcut : HasOutput start fs source (base ++ fresh) names (some fault)) :
    HasOutput start next source (base ++ fresh) names (some fault) := by
  refine (HasOutput.congr hprogress.untouched ?_).2 hcut
  intro hmem
  simpa [h.isUpToDate_output hapart hcut] using (List.mem_filter.1 hmem).2

/-- When a run succeeds, every input that is a file has an output. -/
theorem Progress.exists_output {below : List (List Text)} {summaries : List Summary}
    (h : Mirrors start source base fresh fs)
    (hprogress : Progress start source base fresh (below.filter fun names =>
      !isUpToDate fs (taskAt inputDirectory outputDirectory names)) fs next (.ok summaries))
    (hmem : names ∈ below) (hdots : text ".." ∉ names) (hinput : start.IsFileAt (source ++ names)) :
    ∃ fault, HasOutput start next source (base ++ fresh) names fault := by
  refine hprogress.mirrors.file names ?_
  by_cases hdate : isUpToDate fs (taskAt inputDirectory outputDirectory names) = true
  · exact hprogress.keeps.file (h.isFileAt_of_isUpToDate hapart hdots hinput hdate)
  · exact hprogress.done summaries rfl names (List.mem_filter.2 ⟨hmem, by simp [hdate]⟩)

end Run

end EntityTagger.Stage
