import EntityTagger.Proofs.Stage.Alone

/-! Tasks done one after the other, none of which is in another's way: how the sequence ends, and
what it leaves. -/
namespace EntityTagger.Stage

open FileSystem

variable {t : Tagger} {now batchSize : ℤ} {start fs mid : FileSystem} {task : Task}
  {tasks done touched before rest : List Task} {summary : Summary} {summaries : List Summary}

theorem processTasks_cons_of_ok (h : (alone t now batchSize fs task).run.outcome = .ok summary) :
    (processTasks t now batchSize fs (task :: rest)).files =
      (processTasks t now batchSize (alone t now batchSize fs task).files rest).files ∧
    (processTasks t now batchSize fs (task :: rest)).run.outcome =
      (processTasks t now batchSize (alone t now batchSize fs task).files rest).run.outcome.map
        (summary :: ·) := by
  rw [alone] at h ⊢
  simp only [processTasks, h, Run.outcome_bind, Run.pure_outcome]
  refine ⟨trivial, ?_⟩
  cases (processTasks t now batchSize
    (processFile t now fs task.input task.output batchSize).files rest).run.outcome <;> rfl

theorem processTasks_cons_of_error {e : Error}
    (h : (alone t now batchSize fs task).run.outcome = .error e) :
    (processTasks t now batchSize fs (task :: rest)).files =
      (alone t now batchSize fs task).files ∧
    (processTasks t now batchSize fs (task :: rest)).run.outcome = .error e := by
  rw [alone] at h ⊢
  simp only [processTasks, h]
  exact ⟨trivial, trivial⟩

theorem processTasks_cons_eq_ok
    (h : (processTasks t now batchSize fs (task :: rest)).run.outcome = .ok summaries) :
    ∃ summary others, (alone t now batchSize fs task).run.outcome = .ok summary ∧
      (processTasks t now batchSize (alone t now batchSize fs task).files rest).run.outcome =
        .ok others ∧ summaries = summary :: others := by
  cases hfirst : (alone t now batchSize fs task).run.outcome with
  | error e =>
    rw [(processTasks_cons_of_error hfirst).2] at h
    simp at h
  | ok summary =>
    rw [(processTasks_cons_of_ok hfirst).2, Traversal.map_eq_ok_iff] at h
    obtain ⟨others, hothers, heq⟩ := h
    exact ⟨summary, others, rfl, hothers, heq.symm⟩

/-- What every task keeps is kept by all of them, however they end. -/
theorem processTasks_induction {I : FileSystem → Prop} (hstart : I fs)
    (hstep : ∀ mid, I mid → ∀ task ∈ tasks, I (alone t now batchSize mid task).files) :
    I (processTasks t now batchSize fs tasks).files := by
  induction tasks generalizing fs with
  | nil => exact hstart
  | cons task rest ih =>
    have hnext := hstep fs hstart task (List.mem_cons_self ..)
    cases hfirst : (alone t now batchSize fs task).run.outcome with
    | error e =>
      rw [(processTasks_cons_of_error hfirst).1]
      exact hnext
    | ok summary =>
      rw [(processTasks_cons_of_ok hfirst).1]
      exact ih hnext fun mid hmid a ha => hstep mid hmid a (List.mem_cons_of_mem _ ha)

theorem processTasks_append_of_ok
    (h : (processTasks t now batchSize fs before).run.outcome = .ok summaries)
    (rest : List Task) : (processTasks t now batchSize fs (before ++ rest)).files =
      (processTasks t now batchSize (processTasks t now batchSize fs before).files rest).files ∧
    (processTasks t now batchSize fs (before ++ rest)).run.outcome =
      (processTasks t now batchSize
        (processTasks t now batchSize fs before).files rest).run.outcome.map (summaries ++ ·) := by
  induction before generalizing fs summaries with
  | nil =>
    obtain rfl := Except.ok.inj h
    refine ⟨rfl, ?_⟩
    rw [List.nil_append, processTasks]
    cases (processTasks t now batchSize fs rest).run.outcome <;> rfl
  | cons task before ih =>
    obtain ⟨summary, others, hfirst, hothers, rfl⟩ := processTasks_cons_eq_ok h
    obtain ⟨hfiles, hended⟩ := ih hothers
    rw [List.cons_append, (processTasks_cons_of_ok hfirst).1, (processTasks_cons_of_ok hfirst).1,
      (processTasks_cons_of_ok hfirst).2, hfiles, hended]
    refine ⟨rfl, ?_⟩
    cases (processTasks t now batchSize (processTasks t now batchSize
      (alone t now batchSize fs task).files before).files rest).run.outcome <;> rfl

theorem map_input_eq {summaries : List Summary} (h : List.Forall₂ (fun task summary =>
      (alone t now batchSize fs task).run.outcome = .ok summary) tasks summaries) :
    summaries.map Summary.input = tasks.map Task.input := by
  have hinputs : List.Forall₂ (· = ·) (tasks.map Task.input) (summaries.map Summary.input) := by
    rw [List.forall₂_map_left_iff, List.forall₂_map_right_iff]
    refine h.imp fun task summary hok => ?_
    have hstep := fileStep_processFile t now fs task.input task.output batchSize
    rw [alone] at hok
    rw [hok] at hstep
    exact hstep.input_eq.symm
  rw [List.forall₂_eq_eq_eq] at hinputs
  exact hinputs.symm

theorem exists_of_processTasks_error {e : Error}
    (h : (processTasks t now batchSize fs tasks).run.outcome = .error e) :
    ∃ before task rest summaries, tasks = before ++ task :: rest ∧
      (processTasks t now batchSize fs before).run.outcome = .ok summaries ∧
      (alone t now batchSize (processTasks t now batchSize fs before).files task).run.outcome =
        .error e := by
  induction tasks generalizing fs with
  | nil => simp [processTasks] at h
  | cons task rest ih =>
    cases hfirst : (alone t now batchSize fs task).run.outcome with
    | error fault =>
      rw [(processTasks_cons_of_error hfirst).2] at h
      obtain rfl := Except.error.inj h
      exact ⟨[], task, rest, [], rfl, rfl, hfirst⟩
    | ok summary =>
      rw [(processTasks_cons_of_ok hfirst).2, Traversal.map_eq_error_iff] at h
      obtain ⟨before, other, others, summaries, rfl, hok, herror⟩ := ih h
      refine ⟨task :: before, other, others, summary :: summaries, rfl, ?_, ?_⟩
      · rw [(processTasks_cons_of_ok hfirst).2, hok]
        rfl
      · rw [(processTasks_cons_of_ok hfirst).1]
        exact herror

/-- What becomes of files where tasks are done of which none is in another's way. -/
structure Effect (t : Tagger) (now batchSize : ℤ) (start : FileSystem) (tasks : List Task)
    (after : FileSystem) (ended : Except Error (List Summary)) : Prop where
  ok_iff : ∀ summaries, ended = .ok summaries ↔
    List.Forall₂ (fun task summary => (alone t now batchSize start task).run.outcome = .ok summary)
      tasks summaries
  finished : ∀ summaries, ended = .ok summaries →
    Leaves t now batchSize start tasks tasks after ∧ ∀ task ∈ tasks, HasRows after task
  aborted : ∀ before task rest e, tasks = before ++ task :: rest →
    (∀ a ∈ before, ∃ summary, (alone t now batchSize start a).run.outcome = .ok summary) →
    (alone t now batchSize (processTasks t now batchSize start before).files
      task).run.outcome = .error e →
    ended = .error e ∧ SameEnd (alone t now batchSize start task).run.outcome (.error e) ∧
      Leaves t now batchSize start before (before ++ [task]) after ∧
      ∀ a ∈ before, HasRows after a
  failed : ∀ e, ended = .error e → ∃ before task rest, tasks = before ++ task :: rest ∧
    (∀ a ∈ before, ∃ summary, (alone t now batchSize start a).run.outcome = .ok summary) ∧
    (alone t now batchSize (processTasks t now batchSize start before).files
      task).run.outcome = .error e

section Separate

variable (hsep : Separate start tasks)
include hsep

theorem Leaves.hasRows (h : Leaves t now batchSize start done touched mid)
    (htouched : ∀ a ∈ touched, a ∈ tasks) (ha : task ∈ done) (hin : task ∈ tasks) :
    HasRows mid task := by
  obtain ⟨-, pairs, hreading, hfault, hresolve, hfile⟩ := h.output_at hsep ha hin
  obtain ⟨bytes, hbytes, hrows⟩ := annotated_eq_ok hreading
  have hwritten := isWritten_linesOf hrows
  rw [hfault] at hwritten
  refine ⟨bytes, (linesOf pairs).1, ?_, ?_, hwritten⟩
  · rw [h.readBytes_input hsep htouched hin, hbytes]
  · exact readBytes_of_node? hresolve hfile

/-- The tasks that are left succeed one after the other if and only if each of them succeeds alone,
and then all are finished. -/
theorem Leaves.sequence (h : Leaves t now batchSize start done done mid)
    (hmem : ∀ a ∈ done ++ rest, a ∈ tasks) (hnodup : (done ++ rest).Nodup)
    (summaries : List Summary) :
    ((processTasks t now batchSize mid rest).run.outcome = .ok summaries ↔
      List.Forall₂ (fun task summary =>
        (alone t now batchSize start task).run.outcome = .ok summary) rest summaries) ∧
    ((processTasks t now batchSize mid rest).run.outcome = .ok summaries →
      Leaves t now batchSize start (done ++ rest) (done ++ rest)
        (processTasks t now batchSize mid rest).files) := by
  induction rest generalizing done mid summaries with
  | nil =>
    constructor
    · rw [List.forall₂_nil_left_iff]
      exact ⟨fun hok => (Except.ok.inj hok).symm, fun hnil => hnil ▸ rfl⟩
    · intro _
      rw [List.append_nil]
      exact h
  | cons task rest ih =>
    have hdone : ∀ a ∈ done, a ∈ tasks := fun a ha => hmem a (List.mem_append_left _ ha)
    have hin : task ∈ tasks := hmem task (by simp)
    have hnew : task ∉ done := fun hold =>
      (List.nodup_append.1 hnodup).2.2 task hold task (List.mem_cons_self ..) rfl
    have hsame := h.sameEnd hsep hdone hin hnew
    cases hfirst : (alone t now batchSize mid task).run.outcome with
    | error e =>
      have hfails : ¬ (processTasks t now batchSize mid (task :: rest)).run.outcome =
          .ok summaries := by
        rw [(processTasks_cons_of_error hfirst).2]
        simp
      refine ⟨⟨fun hok => absurd hok hfails, fun hall => ?_⟩, fun hok => absurd hok hfails⟩
      obtain ⟨summary, others, hok, -, rfl⟩ := List.forall₂_cons_left_iff.1 hall
      simp [(hsame.ok_iff summary).1 hok] at hfirst
    | ok summary =>
      have hnext := h.succeed hsep hdone hin hnew hfirst
      rw [List.append_cons] at hmem hnodup
      have hrest := fun others => ih hnext hmem hnodup others
      have halone := (hsame.ok_iff summary).2 hfirst
      rw [(processTasks_cons_of_ok hfirst).1, (processTasks_cons_of_ok hfirst).2,
        Traversal.map_eq_ok_iff, List.append_cons]
      constructor
      · constructor
        · rintro ⟨others, hothers, rfl⟩
          exact .cons halone ((hrest others).1.1 hothers)
        · intro hall
          obtain ⟨found, others, hok, hothers, rfl⟩ := List.forall₂_cons_left_iff.1 hall
          obtain rfl := Except.ok.inj (halone.symm.trans hok)
          exact ⟨others, (hrest others).1.2 hothers, rfl⟩
      · rintro ⟨others, hothers, -⟩
        exact (hrest others).2 hothers

theorem Separate.effect (t : Tagger) (now batchSize : ℤ) (hmem : ∀ a ∈ rest, a ∈ tasks)
    (hnodup : rest.Nodup) : Effect t now batchSize start rest
      (processTasks t now batchSize start rest).files
      (processTasks t now batchSize start rest).run.outcome := by
  have hnil := Leaves.nil t now batchSize start
  constructor
  · exact fun summaries => (hnil.sequence hsep hmem hnodup summaries).1
  · intro summaries hok
    have hleaves := (hnil.sequence hsep hmem hnodup summaries).2 hok
    exact ⟨hleaves, fun task htask => hleaves.hasRows hsep hmem htask (hmem task htask)⟩
  · rintro before task rest e rfl hbefore herror
    obtain ⟨summaries, hall⟩ := Traversal.exists_forall₂ hbefore
    have hmemBefore : ∀ a ∈ before, a ∈ tasks := fun a ha => hmem a (List.mem_append_left _ ha)
    have hin : task ∈ tasks := hmem task (by simp)
    obtain ⟨hnodupBefore, -, hapart⟩ := List.nodup_append.1 hnodup
    have hnew : task ∉ before := fun hold => hapart task hold task (List.mem_cons_self ..) rfl
    have hrun := hnil.sequence hsep hmemBefore hnodupBefore summaries
    have hok := hrun.1.2 hall
    have hleaves := hrun.2 hok
    have hfail := hleaves.fail hsep hmemBefore hin hnew
    have hsame := hleaves.sameEnd hsep hmemBefore hin hnew
    obtain ⟨hfiles, hended⟩ := processTasks_append_of_ok hok (task :: rest)
    rw [hfiles, hended, (processTasks_cons_of_error herror).1,
      (processTasks_cons_of_error herror).2]
    rw [herror] at hsame
    have htouched : ∀ a ∈ before ++ [task], a ∈ tasks := by
      intro a ha
      rcases List.mem_append.1 ha with ha | ha
      · exact hmemBefore a ha
      · exact List.mem_singleton.1 ha ▸ hin
    exact ⟨rfl, hsame, hfail, fun a ha => hfail.hasRows hsep htouched ha (hmemBefore a ha)⟩
  · intro e herror
    obtain ⟨before, task, others, summaries, rfl, hok, hfails⟩ :=
      exists_of_processTasks_error herror
    have hall := (hnil.sequence hsep (fun a ha => hmem a (List.mem_append_left _ ha))
      (List.nodup_append.1 hnodup).1 summaries).1.1 hok
    refine ⟨before, task, others, rfl, fun a ha => ?_, hfails⟩
    exact Traversal.ok_of_mapM_eq_ok (Traversal.mapM_eq_ok_iff.2 hall) ha

end Separate

end EntityTagger.Stage
