import EntityTagger.Proofs.Prediction
import EntityTagger.Proofs.Stage.Tree

/-! The batch stage for a tree, run again and again. An output that was cut short is as new as one
that holds all rows, so no later run touches it. -/
namespace EntityTagger.Stage

open FileSystem

variable {start fs : FileSystem} {inputDirectory outputDirectory : Path} {pattern : Text}
  {source base : Location} {known fresh names : List Text}

/-- A clock that is later than all inputs. -/
def IsLater (start : FileSystem) (inputDirectory : Path) (pattern : Text) (now : ℤ) : Prop :=
  ∀ paths, inputs start inputDirectory pattern = .ok paths → ∀ path ∈ paths, ∀ node,
    start.find? path = some node → node.modified < now

/-- Runs one after the other: how each of them ended, the last one first, and the files after
them. -/
inductive Runs (start : FileSystem) (inputDirectory outputDirectory : Path) (pattern : Text) :
    List (Except Error (List Summary)) → FileSystem → Prop
  | nil : Runs start inputDirectory outputDirectory pattern [] start
  | cons {ended : List (Except Error (List Summary))} {fs : FileSystem} (t : Tagger)
      (now batchSize : ℤ) (hmodel : t.model.NotEncoding)
      (hnow : IsLater start inputDirectory pattern now)
      (earlier : Runs start inputDirectory outputDirectory pattern ended fs) :
      Runs start inputDirectory outputDirectory pattern
        ((processTree t now fs inputDirectory outputDirectory batchSize pattern).run.outcome ::
          ended)
        (processTree t now fs inputDirectory outputDirectory batchSize pattern).files

theorem Runs.eq_start_of_error {e : Error}
    (herror : inputs start inputDirectory pattern = .error e)
    {ended : List (Except Error (List Summary))}
    (h : Runs start inputDirectory outputDirectory pattern ended fs) : fs = start := by
  induction h with
  | nil => rfl
  | cons t now batchSize hmodel hnow earlier ih =>
    subst ih
    rw [processTree, herror]

section Invariant

variable (hapart : Apart start inputDirectory outputDirectory source base known fresh)
include hapart

theorem Mirrors.hasRows_iff {fault : Option Utf8.EncodeError}
    (h : Mirrors start source base fresh fs)
    (houtput : HasOutput start fs source (base ++ fresh) names fault) :
    HasRows fs (taskAt inputDirectory outputDirectory names) ↔ fault = none := by
  obtain ⟨input, changed, output, time, hin, hinput, hout, hfile, -, hrows⟩ :=
    h.find?_output hapart houtput
  have hreadInput := readBytes_of_node? hin hinput
  have hreadOutput := readBytes_of_node? hout hfile
  constructor
  · rintro ⟨bytes, content, hbytes, hcontent, hwhole⟩
    obtain rfl := Except.ok.inj (hreadInput.symm.trans hbytes)
    obtain rfl := Except.ok.inj (hreadOutput.symm.trans hcontent)
    cases fault with
    | none => rfl
    | some fault => exact absurd hrows (hwhole.not_cut fault)
  · rintro rfl
    exact ⟨_, _, hreadInput, hreadOutput, hrows⟩

theorem Runs.invariant (hplain : Glob.IsPlain pattern) {below : List (List Text)}
    (hdots : ∀ names ∈ below, text ".." ∉ names)
    (hbelow : inputs start inputDirectory pattern =
      .ok (below.map fun names => inputDirectory.append ⟨.relative, names⟩))
    {ended : List (Except Error (List Summary))}
    (h : Runs start inputDirectory outputDirectory pattern ended fs) :
    Mirrors start source base fresh fs ∧
      ((∀ e ∈ ended, FailsWith Error.NotEncoding e) → Whole start source (base ++ fresh) fs) ∧
      ∀ fault, .error (.encoding fault) ∈ ended → ∃ names ∈ below, ∃ fault,
        HasOutput start fs source (base ++ fresh) names (some fault) := by
  induction h with
  | nil =>
    refine ⟨hapart.mirrors_self, ?_, by simp⟩
    rintro - names fault ⟨_, _, output, time, -, -, hfile, -, -⟩
    rw [hapart.absent_output names] at hfile
    simp at hfile
  | cons t now batchSize hmodel hnow earlier ih =>
    obtain ⟨hmirrors, hwhole, hcut⟩ := ih
    have holder : ∀ names ∈ below, ∀ node,
        start.find? (inputDirectory.append ⟨.relative, names⟩) = some node →
          node.modified < now := fun names hnames =>
      hnow _ hbelow _ (List.mem_map.2 ⟨names, hnames, rfl⟩)
    have hprogress := hmirrors.progress_processTree hapart hmodel batchSize hplain hdots hbelow
      holder
    refine ⟨hprogress.mirrors, ?_, ?_⟩
    · intro hall
      exact hprogress.whole (hall _ (List.mem_cons_self ..))
        (hwhole fun e he => hall e (List.mem_cons_of_mem _ he))
    · intro fault hmem
      rcases List.mem_cons.1 hmem with hnow | hbefore
      · obtain ⟨names, hnames, hcut⟩ := hprogress.cut fault hnow.symm
        exact ⟨names, (List.mem_filter.1 hnames).1, fault, hcut⟩
      · obtain ⟨names, hnames, fault, hcut⟩ := hcut fault hbefore
        exact ⟨names, hnames, fault, hmirrors.cut_of_progress hapart hprogress hcut⟩

end Invariant

/-- After a run that succeeds all outputs hold their rows, unless an earlier run failed on a row
that has no form in UTF-8: what that one left is taken for finished. -/
theorem hasRows_iff_no_encoding_error
    (hapart : Apart start inputDirectory outputDirectory source base known fresh)
    (hplain : Glob.IsPlain pattern) {summaries : List Summary}
    {ended : List (Except Error (List Summary))}
    (h : Runs start inputDirectory outputDirectory pattern (.ok summaries :: ended) fs) :
    (∀ paths, inputs fs inputDirectory pattern = .ok paths → ∀ path ∈ paths,
        fs.isFile path = true → HasRows fs (taskOf inputDirectory outputDirectory path)) ↔
      ∀ fault, .error (.encoding fault) ∉ ended := by
  generalize hall : Except.ok summaries :: ended = all at h
  cases h with
  | nil => simp at hall
  | cons t now batchSize hmodel hnow earlier =>
    obtain ⟨hsuccess, rfl⟩ := List.cons.inj hall
    obtain ⟨below, hdots, hbelow⟩ : ∃ below : List (List Text),
        (∀ names ∈ below, text ".." ∉ names) ∧ inputs start inputDirectory pattern =
          .ok (below.map fun names => inputDirectory.append ⟨.relative, names⟩) := by
      rcases hapart.inputs_cases hplain with ⟨e, herror⟩ | hbelow
      · rw [earlier.eq_start_of_error herror, processTree, herror] at hsuccess
        simp [Run.fail] at hsuccess
      · exact hbelow
    obtain ⟨hmirrors, hwhole, hcut⟩ := earlier.invariant hapart hplain hdots hbelow
    have hprogress := hmirrors.progress_processTree hapart hmodel batchSize hplain hdots hbelow
      fun names hnames => hnow _ hbelow _ (List.mem_map.2 ⟨names, hnames, rfl⟩)
    rw [← hsuccess] at hprogress
    have hafter := hprogress.mirrors
    rw [hafter.inputs_eq hapart hplain, hbelow]
    constructor
    · intro hrows fault hmem
      obtain ⟨names, hnames, fault, hcut⟩ := hcut fault hmem
      have hcut := hmirrors.cut_of_progress hapart hprogress hcut
      have hrows := hrows _ rfl _ (List.mem_map.2 ⟨names, hnames, rfl⟩)
        (hafter.isFile_input hapart hcut)
      rw [taskOf_append, hafter.hasRows_iff hapart hcut] at hrows
      simp at hrows
    · intro hnever paths hpaths path hpath hfile
      obtain rfl := Except.ok.inj hpaths
      obtain ⟨names, hnames, rfl⟩ := List.mem_map.1 hpath
      obtain ⟨fault, houtput⟩ := hprogress.exists_output hapart hmirrors hnames (hdots names hnames)
        (hafter.isFileAt_of_isFile hapart (hdots names hnames) hfile)
      rw [taskOf_append, hafter.hasRows_iff hapart houtput]
      cases fault with
      | none => rfl
      | some fault =>
        have hreadable : ∀ e ∈ ended, FailsWith Error.NotEncoding e := by
          rintro e he error rfl
          rw [Error.notEncoding_iff]
          rintro fault rfl
          exact hnever fault he
        exact absurd houtput (hprogress.whole (.ok _) (hwhole hreadable) names fault)

/-- A row, and one with half of a pair of surrogates. -/
def badRow : FileSystem :=
  ⟨[([], .directory 0), ([text "in"], .directory 0), ([text "in", text "rows.jsonl"],
    .file (.bytes ((text "7\n\x7b\"half\": \"\\ud800\"\x7d").map Nat.toUInt8)) 0)]⟩

def badRowInput : Path := ⟨.relative, [text "in"]⟩

def badRowOutput : Path := ⟨.relative, [text "out"]⟩

theorem apart_badRow :
    Apart badRow badRowInput badRowOutput [text "in"] [] [] [text "out"] where
  tree := by
    refine ⟨Traversal.toOption_eq_some_iff.1 (by decide +kernel), ?_⟩
    intro names node hmem
    have hall : ∀ entry ∈ badRow.nodes, text ".." ∉ entry.1.drop 1 := by decide +kernel
    exact hall _ hmem
  isDirectory_source := ⟨0, by decide +kernel⟩
  parts_eq := rfl
  walk_known := rfl
  isDirectory_base := ⟨0, by decide +kernel⟩
  fresh_ne_nil := List.cons_ne_nil _ _
  not_dots := by decide +kernel
  absent := by
    intro place hprefix
    have hall : ∀ entry ∈ badRow.nodes, ¬ [text "out"] <+: entry.1 := by decide +kernel
    cases hnode : badRow.node? place with
    | none => rfl
    | some node => exact absurd hprefix (hall _ (Association.mem_of_get? hnode))
  outside := by decide +kernel

theorem isLater_badRow {now : ℤ} (h : 0 < now) :
    IsLater badRow badRowInput defaultPattern now := by
  intro paths _ path _ node hnode
  have hall : ∀ entry ∈ badRow.nodes, entry.2.modified = 0 := by decide +kernel
  obtain ⟨place, -, hplace⟩ := Option.bind_eq_some_iff.1 hnode
  have hmodified : node.modified = 0 := hall _ (Association.mem_of_get? hplace)
  omega

/-- The first run fails on the second row. The next one takes the single row that was written for
the whole output. -/
theorem not_hasRows_badRow :
    ∃ fs, Runs badRow badRowInput badRowOutput defaultPattern
        [.ok [], .error (.encoding ⟨0xD800, 10⟩)] fs ∧
      ¬ ∀ paths, inputs fs badRowInput defaultPattern = .ok paths → ∀ path ∈ paths,
        fs.isFile path = true → HasRows fs (taskOf badRowInput badRowOutput path) := by
  have hmodel : Tagger.twoWords.model.NotEncoding := Model.notEncoding_table _ _ _ _ _
  have hfault : (((processTree Tagger.twoWords 1 badRow badRowInput badRowOutput 32
      defaultPattern).run.outcome.map fun _ => none).tryCatch fun e =>
        .ok e.encodingFault?).toOption = some (some ⟨0xD800, 10⟩) := by decide +kernel
  have hfirst : (processTree Tagger.twoWords 1 badRow badRowInput badRowOutput 32
      defaultPattern).run.outcome = .error (.encoding ⟨0xD800, 10⟩) := by
    revert hfault
    cases (processTree Tagger.twoWords 1 badRow badRowInput badRowOutput 32
      defaultPattern).run.outcome with
    | ok summaries => simp [Except.map, Except.tryCatch, Except.toOption]
    | error e =>
      simp only [Except.map, Except.tryCatch, Except.toOption, Option.some.injEq]
      exact fun h => congrArg Except.error (Error.encodingFault?_eq_some_iff.1 h)
  have hsecond : (processTree Tagger.twoWords 2 (processTree Tagger.twoWords 1 badRow badRowInput
      badRowOutput 32 defaultPattern).files badRowInput badRowOutput 32
        defaultPattern).run.outcome = .ok [] :=
    Traversal.toOption_eq_some_iff.1 (by decide +kernel)
  have hnil : Runs badRow badRowInput badRowOutput defaultPattern [] badRow := .nil
  have hruns := (hnil.cons Tagger.twoWords 1 32 hmodel (isLater_badRow (by decide))).cons
    Tagger.twoWords 2 32 hmodel (isLater_badRow (by decide))
  rw [hfirst, hsecond] at hruns
  refine ⟨_, hruns, fun hall => ?_⟩
  exact (hasRows_iff_no_encoding_error apart_badRow (by decide +kernel) hruns).1 hall ⟨0xD800, 10⟩
    (List.mem_singleton_self _)

end EntityTagger.Stage
