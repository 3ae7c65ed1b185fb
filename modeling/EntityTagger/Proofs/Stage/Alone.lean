import EntityTagger.Proofs.Directories
import EntityTagger.Proofs.Stage.Output

/-! Tasks that do not get in each other's way: what one of them does after others is what it does
alone, and all else stays as it was. -/
namespace EntityTagger.Stage

open FileSystem

variable {t : Tagger} {now batchSize : ℤ} {start fs mid next after : FileSystem} {task : Task}
  {tasks done touched rest : List Task}

def alone (t : Tagger) (now batchSize : ℤ) (fs : FileSystem) (task : Task) : Outcome Summary :=
  processFile t now fs task.input task.output batchSize

theorem outcome_alone_of_isDirectory (hkeeps : Extends fs mid)
    (hdir : fs.isDirectory task.input = true) :
    (alone t now batchSize mid task).run.outcome =
      .error (.file ⟨.isDirectory, task.input.toText⟩) := by
  have hreading : (annotated t mid task.input batchSize).outcome =
      .error (.file ⟨.isDirectory, task.input.toText⟩) := by
    rw [annotated, (readBytes_of_isDirectory (isDirectory_of_extends hkeeps hdir)).2]
    rfl
  rw [alone, processFile, hreading]

/-- How a task ends: it depends on what is read, and on whether the output can be written. -/
inductive Tags (now : ℤ) (fs : FileSystem) (task : Task) :
    Except Error (List (Json × Annotation)) → FileSystem → Except Error Summary → Prop
  | unread {e : Error} : Tags now fs task (.error e) fs (.error e)
  | blocked {pairs : List (Json × Annotation)} {after : FileSystem} {e : FileError}
      (hblocked : ¬ fs.Admits task.output) (htouches : Touches task.output fs after) :
      Tags now fs task (.ok pairs) after (.error (.file e))
  | delivered {pairs : List (Json × Annotation)} {after : FileSystem}
      (hadmits : fs.Admits task.output)
      (hdelivers : Delivers task.output (.bytes (linesOf pairs).1) now fs after) :
      Tags now fs task (.ok pairs) after
        (ending (summaryOf task.input task.output pairs) (linesOf pairs).2)

def Task.IsNamed (task : Task) : Prop :=
  ∃ above name, task.output.parts = above ++ [name] ∧ name ≠ text ".."

theorem FileStep.tags (hroot : fs.IsDirectoryAt []) (hnamed : task.IsNamed)
    {reading : Except Error (List (Json × Annotation))} {ended : Except Error Summary}
    (h : FileStep now fs task.input task.output reading next ended) :
    Tags now fs task reading next ended := by
  obtain ⟨above, name, hparts, hname⟩ := hnamed
  cases h with
  | unread => exact .unread
  | refused hmade =>
    refine .blocked (fun hadmits => ?_) (addsDirectories_withDirectories hroot _ now).touches
    obtain ⟨made, after, hmade', -⟩ := (admits_iff hroot hparts (.bytes []) now).1 hadmits
    simp [hmade] at hmade'
  | @unwritten pairs made e hmade hafter =>
    refine .blocked (fun hadmits => ?_) ?_
    · obtain ⟨made', after, hmade', hafter'⟩ :=
        (admits_iff hroot hparts (.bytes (linesOf pairs).1) now).1 hadmits
      obtain rfl := Except.ok.inj (hmade.symm.trans hmade')
      simp [hafter] at hafter'
    · exact (addsDirectories_of_makeDirectories hroot hmade).touches
  | written hmade hafter =>
    have hadmits := (admits_iff hroot hparts _ now).2 ⟨_, _, hmade, hafter⟩
    exact .delivered hadmits (delivers_of_write hroot hparts hname hmade hafter)

theorem tags_alone (hroot : fs.IsDirectoryAt []) (hnamed : task.IsNamed) (t : Tagger)
    (now batchSize : ℤ) : Tags now fs task (annotated t fs task.input batchSize).outcome
      (alone t now batchSize fs task).files (alone t now batchSize fs task).run.outcome :=
  (fileStep_processFile t now fs task.input task.output batchSize).tags hroot hnamed

theorem Tags.touches {reading : Except Error (List (Json × Annotation))}
    {ended : Except Error Summary} (h : Tags now fs task reading after ended) :
    Touches task.output fs after := by
  cases h with
  | unread => exact Touches.refl _ _
  | blocked hblocked htouches => exact htouches
  | delivered hadmits hdelivers => exact hdelivers.toTouches

theorem Tags.delivers {reading : Except Error (List (Json × Annotation))} {summary : Summary}
    (h : Tags now fs task reading after (.ok summary)) :
    ∃ pairs, reading = .ok pairs ∧ (linesOf pairs).2 = none ∧ fs.Admits task.output ∧
      Delivers task.output (.bytes (linesOf pairs).1) now fs after := by
  generalize hended : (Except.ok summary : Except Error Summary) = ended at h
  cases h with
  | unread => simp at hended
  | blocked hblocked htouches => simp at hended
  | @delivered pairs after hadmits hdelivers =>
    refine ⟨pairs, rfl, ?_, hadmits, hdelivers⟩
    cases hfault : (linesOf pairs).2 with
    | none => rfl
    | some fault => simp [ending, hfault] at hended

/-- Two ways to end that differ at most in what was wrong with the files. -/
def SameEnd (ended other : Except Error Summary) : Prop :=
  ended = other ∨ ∃ fault others, ended = .error (.file fault) ∧ other = .error (.file others)

theorem SameEnd.ok_iff {ended other : Except Error Summary} (h : SameEnd ended other)
    (summary : Summary) : ended = .ok summary ↔ other = .ok summary := by
  rcases h with rfl | ⟨fault, others, rfl, rfl⟩
  · exact Iff.rfl
  · simp

/-- The same rows, and an output that can be written in both cases or in neither: then a task ends
in the same way. -/
theorem Tags.sameEnd {reading : Except Error (List (Json × Annotation))}
    {ended other : Except Error Summary} (h : Tags now fs task reading next ended)
    (h' : Tags now mid task reading after other)
    (hadmits : mid.Admits task.output ↔ fs.Admits task.output) : SameEnd ended other := by
  cases h with
  | unread =>
    cases h' with
    | unread => exact Or.inl rfl
  | blocked hblocked htouches =>
    cases h' with
    | blocked hblocked' htouches' => exact Or.inr ⟨_, _, rfl, rfl⟩
    | delivered hadmits' hdelivers' => exact absurd (hadmits.1 hadmits') hblocked
  | delivered hfree hdelivers =>
    cases h' with
    | blocked hblocked' htouches' => exact absurd (hadmits.2 hfree) hblocked'
    | delivered hfree' hdelivers' => exact Or.inl rfl

/-- A task whose input is a file and whose output has a name. -/
structure Task.IsReady (start : FileSystem) (task : Task) : Prop where
  root : start.IsDirectoryAt []
  named : task.IsNamed
  resolve_eq : start.resolve task.input = .ok task.input.location
  isFileAt : start.IsFileAt task.input.location

theorem Task.IsReady.find?_alone (h : task.IsReady fs) {summary : Summary}
    (hok : (alone t now batchSize fs task).run.outcome = .ok summary) :
    ∃ content, (alone t now batchSize fs task).files.find? task.output =
      some (.file content now) := by
  have htags := tags_alone h.root h.named t now batchSize
  rw [hok] at htags
  obtain ⟨pairs, -, -, -, hdelivers⟩ := htags.delivers
  exact ⟨_, (find?_of_resolve hdelivers.resolve_eq).trans hdelivers.file⟩

/-- Tasks whose outputs are in no other task's way. -/
structure Separate (start : FileSystem) (tasks : List Task) : Prop where
  ready : ∀ task ∈ tasks, task.IsReady start
  output_ne : ∀ a ∈ tasks, ∀ b ∈ tasks, a.output.location ≠ b.input.location
  cross : ∀ a ∈ tasks, ∀ b ∈ tasks, a ≠ b → OnTheWay b.output.parts a.output.location →
    OnTheWay a.output.parent.parts a.output.location

/-- What is left of some files after tasks: those that finished have their outputs, as each task
makes it alone, and no task but those touched left a trace. -/
structure Leaves (t : Tagger) (now batchSize : ℤ) (start : FileSystem) (finished touched : List Task)
    (after : FileSystem) : Prop where
  keeps : Extends start after
  outside : SameOutside (fun place => ∃ task ∈ touched, start.Changes task.output place) start after
  others : ∀ {place content time}, (∀ task ∈ touched, place ≠ task.output.location) →
    (after.node? place = some (.file content time) ↔
      start.node? place = some (.file content time))
  output : ∀ task ∈ finished, ∃ summary,
    (alone t now batchSize start task).run.outcome = .ok summary ∧
      after.find? task.output = (alone t now batchSize start task).files.find? task.output

theorem Leaves.nil (t : Tagger) (now batchSize : ℤ) (start : FileSystem) :
    Leaves t now batchSize start [] [] start :=
  ⟨Extends.refl start, SameOutside.refl start, fun _ => Iff.rfl, by simp⟩

section Step

variable (hsep : Separate start tasks)
include hsep

theorem Separate.tags (hkeeps : Extends start mid) (hin : task ∈ tasks) (t : Tagger)
    (now batchSize : ℤ) : Tags now mid task (annotated t mid task.input batchSize).outcome
      (alone t now batchSize mid task).files (alone t now batchSize mid task).run.outcome :=
  tags_alone (hkeeps.directory (hsep.ready task hin).root) (hsep.ready task hin).named t now
    batchSize

theorem Leaves.output_at (h : Leaves t now batchSize start done touched mid) {a : Task}
    (ha : a ∈ done) (hin : a ∈ tasks) : start.Admits a.output ∧ ∃ pairs,
      (annotated t start a.input batchSize).outcome = .ok pairs ∧ (linesOf pairs).2 = none ∧
      mid.resolve a.output = .ok a.output.location ∧
      mid.node? a.output.location = some (.file (.bytes (linesOf pairs).1) now) := by
  obtain ⟨summary, hok, hfind⟩ := h.output a ha
  have htags := hsep.tags (Extends.refl start) hin t now batchSize
  rw [hok] at htags
  obtain ⟨pairs, hreading, hfault, hadmits, hdelivers⟩ := htags.delivers
  rw [find?_of_resolve hdelivers.resolve_eq, hdelivers.file] at hfind
  cases hplace : mid.resolve a.output with
  | error fault => simp [find?, hplace, Except.toOption] at hfind
  | ok place =>
    obtain ⟨rfl, -⟩ := walk_eq_ok_iff_lead.1 hplace
    rw [find?_of_resolve hplace] at hfind
    exact ⟨hadmits, pairs, hreading, hfault, rfl, hfind⟩

theorem Leaves.readBytes_input (h : Leaves t now batchSize start done touched mid)
    (htouched : ∀ a ∈ touched, a ∈ tasks) (hin : task ∈ tasks) :
    mid.readBytes task.input = start.readBytes task.input := by
  obtain ⟨content, time, hfile⟩ := (hsep.ready task hin).isFileAt
  have hmid : mid.node? task.input.location = some (.file content time) :=
    (h.others fun a ha => (hsep.output_ne a (htouched a ha) task hin).symm).2 hfile
  have hplace := (hsep.ready task hin).resolve_eq
  rw [readBytes_of_node? hplace hfile, readBytes_of_node? (walk_mono h.keeps hplace) hmid]

theorem Leaves.annotated_eq (h : Leaves t now batchSize start done touched mid)
    (htouched : ∀ a ∈ touched, a ∈ tasks) (hin : task ∈ tasks) :
    annotated t mid task.input batchSize = annotated t start task.input batchSize := by
  rw [annotated, annotated, h.readBytes_input hsep htouched hin]

/-- What finished before is in no other task's way. -/
theorem Leaves.admits_iff (h : Leaves t now batchSize start done done mid)
    (hdone : ∀ a ∈ done, a ∈ tasks) (hin : task ∈ tasks) (hnew : task ∉ done) :
    mid.Admits task.output ↔ start.Admits task.output := by
  constructor
  · intro hadmits
    constructor
    · intro place hway hfile
      exact hadmits.way place hway (h.keeps.file hfile)
    · exact hadmits.off_way
    · intro hdir
      exact hadmits.free (h.keeps.directory hdir)
  · intro hadmits
    obtain ⟨above, name, hparts, -⟩ := (hsep.ready task hin).named
    constructor
    · rintro place hway ⟨content, time, hfile⟩
      by_cases hplace : ∃ a ∈ done, place = a.output.location
      · obtain ⟨a, ha, rfl⟩ := hplace
        have hne : a ≠ task := fun heq => hnew (heq ▸ ha)
        have hown := hsep.cross a (hdone a ha) task hin hne (hway.mono (parent_isPrefix hparts))
        exact (h.output_at hsep ha (hdone a ha)).1.off_way hown
      · push Not at hplace
        exact hadmits.way place hway ⟨content, time, (h.others hplace).1 hfile⟩
    · exact hadmits.off_way
    · rintro ⟨time, hdir⟩
      by_cases hplace : ∃ a ∈ done, start.Changes a.output task.output.location
      · obtain ⟨a, ha, hchanges⟩ := hplace
        have hne : task ≠ a := fun heq => hnew (heq ▸ ha)
        obtain ⟨above, name, hparts, -⟩ := (hsep.ready a (hdone a ha)).named
        exact hadmits.off_way
          (hsep.cross task hin a (hdone a ha) hne (hchanges.onTheWay hparts))
      · rw [h.outside.node?_eq hplace] at hdir
        exact hadmits.free ⟨time, hdir⟩

theorem Leaves.sameEnd (h : Leaves t now batchSize start done done mid)
    (hdone : ∀ a ∈ done, a ∈ tasks) (hin : task ∈ tasks) (hnew : task ∉ done) :
    SameEnd (alone t now batchSize start task).run.outcome
      (alone t now batchSize mid task).run.outcome := by
  have hmid := hsep.tags h.keeps hin t now batchSize
  have hstart := hsep.tags (Extends.refl start) hin t now batchSize
  rw [h.annotated_eq hsep hdone hin] at hmid
  exact hstart.sameEnd hmid (h.admits_iff hsep hdone hin hnew)

theorem Leaves.touch (h : Leaves t now batchSize start done done mid)
    (hdone : ∀ a ∈ done, a ∈ tasks) (hin : task ∈ tasks) (hnew : task ∉ done)
    (htouches : Touches task.output mid next) :
    Leaves t now batchSize start done (done ++ [task]) next := by
  constructor
  · exact h.keeps.trans htouches.keeps
  · refine (h.outside.mono ?_).trans (htouches.outside.mono ?_)
    · rintro place ⟨a, ha, hchanges⟩
      exact ⟨a, List.mem_append_left _ ha, hchanges⟩
    · intro place hchanges
      exact ⟨task, List.mem_append_right _ (List.mem_singleton_self task),
        hchanges.of_extends h.keeps⟩
  · intro place content time hplace
    rw [htouches.others (hplace task (by simp)), h.others fun a ha => hplace a (by simp [ha])]
  · intro a ha
    obtain ⟨summary, hok, hfind⟩ := h.output a ha
    obtain ⟨hadmits, pairs, -, -, hresolve, hfile⟩ := h.output_at hsep ha (hdone a ha)
    have hne : a.output.location ≠ task.output.location := by
      intro heq
      have hway : OnTheWay task.output.parts a.output.location :=
        heq ▸ onTheWay_location task.output
      exact hadmits.off_way
        (hsep.cross a (hdone a ha) task hin (fun hself => hnew (hself ▸ ha)) hway)
    refine ⟨summary, hok, ?_⟩
    rw [← hfind, find?_of_resolve hresolve, hfile,
      find?_of_resolve (walk_mono htouches.keeps hresolve)]
    exact (htouches.others hne).2 hfile

theorem Leaves.fail (h : Leaves t now batchSize start done done mid)
    (hdone : ∀ a ∈ done, a ∈ tasks) (hin : task ∈ tasks) (hnew : task ∉ done) :
    Leaves t now batchSize start done (done ++ [task]) (alone t now batchSize mid task).files :=
  h.touch hsep hdone hin hnew
    (hsep.tags h.keeps hin t now batchSize).touches

theorem Leaves.succeed (h : Leaves t now batchSize start done done mid)
    (hdone : ∀ a ∈ done, a ∈ tasks) (hin : task ∈ tasks) (hnew : task ∉ done) {summary : Summary}
    (hok : (alone t now batchSize mid task).run.outcome = .ok summary) :
    Leaves t now batchSize start (done ++ [task]) (done ++ [task])
      (alone t now batchSize mid task).files := by
  have hfail := h.fail hsep hdone hin hnew
  refine ⟨hfail.keeps, hfail.outside, hfail.others, fun a ha => ?_⟩
  rcases List.mem_append.1 ha with ha | ha
  · exact hfail.output a ha
  · obtain rfl := List.mem_singleton.1 ha
    have halone := ((h.sameEnd hsep hdone hin hnew).ok_iff summary).2 hok
    have hmid := hsep.tags h.keeps hin t now batchSize
    have hstart := hsep.tags (Extends.refl start) hin t now batchSize
    rw [h.annotated_eq hsep hdone hin, hok] at hmid
    rw [halone] at hstart
    obtain ⟨pairs, hreading, -, -, hdelivers⟩ := hstart.delivers
    obtain ⟨pairs', hreading', -, -, hdelivers'⟩ := hmid.delivers
    obtain rfl := Except.ok.inj (hreading.symm.trans hreading')
    refine ⟨summary, halone, ?_⟩
    rw [find?_of_resolve hdelivers.resolve_eq, find?_of_resolve hdelivers'.resolve_eq,
      hdelivers.file, hdelivers'.file]

end Step

end EntityTagger.Stage
