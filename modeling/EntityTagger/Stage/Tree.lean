import EntityTagger.Number.Arithmetic
import EntityTagger.Number.Decimal
import EntityTagger.Path.Glob
import EntityTagger.Stage

/-!
The batch stage for a whole tree: every file below a directory that fits a pattern is tagged into
the file at the same place below another directory, unless that one is newer.
-/

namespace EntityTagger.Stage

/-- An input file, and the file that its rows go to. -/
structure Task where
  input : Path
  output : Path
deriving DecidableEq, Repr

/-- The task for a path below the input directory. -/
def taskOf (inputDirectory outputDirectory path : Path) : Task :=
  ⟨path, outputDirectory.append ⟨.relative, path.parts.drop inputDirectory.parts.length⟩⟩

/-- Whether the output of a task is there and was changed later than the input. -/
def isUpToDate (fs : FileSystem) (task : Task) : Bool :=
  match fs.find? task.output, fs.find? task.input with
  | some output, some input => input.modified < output.modified
  | _, _ => false

/-- Does one task after the other. The first failure ends the stage; what was written before it
stays. -/
def processTasks (t : Tagger) (now : Int) (batchSize : Int) :
    FileSystem → List Task → Outcome (List Summary)
  | fs, [] => ⟨fs, [], pure []⟩
  | fs, task :: rest =>
    let first := processFile t now fs task.input task.output batchSize
    match first.run.outcome with
    | .error error => ⟨first.files, first.written, ⟨first.run.events, .error error⟩⟩
    | .ok _ =>
      let others := processTasks t now batchSize first.files rest
      ⟨others.files, first.written ++ others.written, do
        let summary ← first.run
        let summaries ← others.run
        pure (summary :: summaries)⟩

/-- The share of the rows that have entities, in percent with one place. -/
def percentage (withEntities total : Nat) : Text :=
  let share := ((Double.ofInt 100).mul (Double.ofInt withEntities)).div (Double.ofInt (max total 1))
  Decimal.fixed 1 share

def report (summaries : List Summary) : Text :=
  let total := summaries.foldr (fun s n => s.total + n) 0
  let withEntities := summaries.foldr (fun s n => s.withEntities + n) 0
  text "NER complete: " ++ Text.ofNat summaries.length ++ text " files, " ++ Text.ofNat total ++
    text " rows, " ++ Text.ofNat withEntities ++ text " with entities (" ++
    percentage withEntities total ++ text "%)"

/-- The paths below a directory that fit a pattern, in order. -/
def inputs (fs : FileSystem) (inputDirectory : Path) (pattern : Text) :
    Except Error (List Path) :=
  match Glob.below fs inputDirectory pattern with
  | .ok paths => .ok paths
  | .error .absolute => .error (.misuse .unsupported)
  | .error .starsInName => .error (.misuse .badValue)

def defaultPattern : Text := text "*.jsonl"

/-- Tags the files of a tree. Which of them are up to date is settled before any is tagged. -/
def processTree (t : Tagger) (now : Int) (fs : FileSystem)
    (inputDirectory outputDirectory : Path) (batchSize : Int) (pattern : Text) :
    Outcome (List Summary) :=
  match inputs fs inputDirectory pattern with
  | .error error => ⟨fs, [], .fail error⟩
  | .ok [] => ⟨fs, [], do
      Run.log .warning .process (text "No " ++ pattern ++ text " files found under " ++
        inputDirectory.toText)
      pure []⟩
  | .ok paths =>
    let found := Run.log .info .process
      (text "Found " ++ Text.ofNat paths.length ++ text " files to process")
    let tasks := (paths.map (taskOf inputDirectory outputDirectory)).filter (!isUpToDate fs ·)
    if tasks.isEmpty then
      ⟨fs, [], do
        found
        Run.log .info .process (text "All files up to date, nothing to process")
        pure []⟩
    else
      let work := processTasks t now batchSize fs tasks
      ⟨work.files, work.written, do
        found
        let summaries ← work.run
        Run.log .info .process (report summaries)
        pure summaries⟩

end EntityTagger.Stage
