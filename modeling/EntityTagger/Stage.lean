import EntityTagger.FileSystem
import EntityTagger.Parts
import EntityTagger.Row
import EntityTagger.Tagger

/-!
The batch stage for one file: its rows are read, the texts in them tagged some at a time, and the
annotated rows written to another file. Nothing is written before all texts are tagged.
-/

namespace EntityTagger.Stage

/-- What became of a file. -/
structure Summary where
  input : Path
  output : Path
  total : Nat
  withEntities : Nat
deriving DecidableEq, Repr

/-- What a stage leaves: the files, those that it wrote, and how it ran. -/
structure Outcome (α : Type) where
  files : FileSystem
  written : List Path
  run : Run α

/-- The parts in which texts are given to the model: a size of zero is refused, and for a negative
one there are no parts. -/
def batches {α : Type} (batchSize : Int) (items : List α) : Except Error (List (List α)) :=
  if batchSize = 0 then .error (.misuse .badValue)
  else .ok (if 0 < batchSize then parts batchSize.toNat items else [])

/-- The entities of each text of each batch. -/
def tagBatches (t : Tagger) : List (List Text) → Run (List (List Entity))
  | [] => pure []
  | batch :: rest => do
    let found ← t.entitiesPerText batch
    let more ← tagBatches t rest
    pure (found ++ more)

/-- The rows of a file, with what was found in each. -/
def annotated (t : Tagger) (fs : FileSystem) (input : Path) (batchSize : Int) :
    Run (List (Json × Annotation)) := do
  let bytes ← Run.ofExcept ((fs.readBytes input).mapError .file)
  let rows ← Run.ofExcept (Row.ofBytes bytes)
  let batches ← Run.ofExcept (batches batchSize (Row.texts rows))
  let found ← tagBatches t batches
  pure (Row.attach rows found)

/-- Writes annotated rows to a file, in a directory that is made if it is missing. What was made on
the way to a directory stays, even if that one cannot be made. A row that cannot be encoded ends the
file before it. -/
def writeRows (now : Int) (fs : FileSystem) (output : Path) (rows : List (Json × Annotation)) :
    Outcome Unit :=
  match fs.makeDirectories output.parent now with
  | .error error => ⟨fs.withDirectories output.parent now, [], .fail (.file error)⟩
  | .ok made =>
    let (bytes, fault) := Row.encodeLines (rows.map fun (row, found) => Row.line row found)
    match made.write output (.bytes bytes) now with
    | .error error => ⟨made, [], .fail (.file error)⟩
    | .ok after =>
      match fault with
      | some error => ⟨after, [output], .fail (.encoding error)⟩
      | none => ⟨after, [output], pure ()⟩

/-- Tags one file. -/
def processFile (t : Tagger) (now : Int) (fs : FileSystem) (input output : Path)
    (batchSize : Int) : Outcome Summary :=
  let reading := annotated t fs input batchSize
  match reading.outcome with
  | .error error => ⟨fs, [], ⟨reading.events, .error error⟩⟩
  | .ok rows =>
    let writing := writeRows now fs output rows
    let summary : Summary := ⟨input, output, rows.length,
      (rows.filter fun (_, found) => !found.entities.isEmpty).length⟩
    ⟨writing.files, writing.written, do
      let _ ← reading
      writing.run
      pure summary⟩

end EntityTagger.Stage
