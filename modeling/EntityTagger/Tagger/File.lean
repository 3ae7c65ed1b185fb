import EntityTagger.Bert
import EntityTagger.Label.File
import EntityTagger.Settings
import EntityTagger.Tagger
import EntityTagger.Tokenizer.WordPiece

/-!
Taggers from files: from a vocabulary, a configuration and a file of weights, or from a directory
that holds all of them.
-/

namespace EntityTagger.Tagger

def readWeights (fs : FileSystem) (path : Path) : Except Error Checkpoint :=
  let fail (fault : ResourceFault) : Except Error Checkpoint :=
    .error (.resource ⟨.weights, some path.toText, fault⟩)
  if !fs.isPresent path then fail .fileNotFound
  else match fs.read path with
    | .ok (.checkpoint weights) => .ok weights
    | .ok (.bytes _) => fail (.unreadable none)
    | .error error =>
      fail (.unreadable (if path.suffix = text ".safetensors" then none else some error))

def ofFiles (fs : FileSystem) (cudaDevices : Nat)
    (vocabularyPath configurationPath weightsPath : Path) (device : Value) (maxLength : Int) :
    Run Tagger := do
  let resolved ← Run.ofExcept (Device.resolve cudaDevices device)
  let vocabulary ← Run.ofExcept (Vocabulary.load fs vocabularyPath)
  let configuration ← Run.ofExcept (LabelMapping.readConfiguration fs configurationPath)
  let labels ← Run.ofExcept (LabelMapping.ofConfiguration configuration)
  let entries := match configuration with
    | .dict entries => entries
    | _ => []
  if !Bert.hasKnownProblem entries then
    Run.fail (.resource ⟨.configuration, some configurationPath.toText, .foreign⟩)
  Run.log .info .pipeline (text "Loading BERT NER model from " ++ weightsPath.toText ++
    text " (device=" ++ resolved.toText ++ text ", " ++ Text.ofNat labels.length ++ text " labels)")
  let bert ← Run.ofExcept ((Bert.ofConfiguration entries labels.length).mapError .misuse)
  let weights ← Run.ofExcept (readWeights fs weightsPath)
  let model ← Run.ofExcept ((bert.load weights).mapError fun fault =>
    .resource ⟨.weights, some weightsPath.toText, fault⟩)
  Run.ofExcept
    (buildOn resolved (WordPiece.tokenizer vocabulary) model labels.toEntries maxLength)

/-- The labels that a model has where its configuration names none. -/
def unnamedLabels (count : Nat) : List (Value × Value) :=
  (List.range count).map fun n : Nat => (.int n, .str (text "LABEL_" ++ Text.ofNat n))

/-- The labels of a saved configuration, by number; `none` if they cannot be read. -/
def savedLabels? (configuration : List (Value × Value)) : Option (List (Value × Value)) :=
  match Value.entry? (text "id2label") configuration with
  | some (.dict entries) =>
    (entries.mapM fun (entry : Value × Value) =>
      (LabelMapping.idOfKey entry.1).toOption.map fun id => (Value.int id, entry.2)).bind
        Value.entriesOf?
  | some .none | none =>
    match Bert.sizeOf configuration "num_labels" 2 with
    | .ok count => some (unnamedLabels count)
    | .error _ => none
  | some _ => none

/-- The configuration in a directory, which has to be that of a BERT model. -/
def savedConfiguration? (fs : FileSystem) (directory : Path) : Option (List (Value × Value)) :=
  match LabelMapping.readConfiguration fs (directory.append (Path.ofText (text "config.json"))) with
  | .ok (.dict entries) =>
    match Value.entry? (text "model_type") entries with
    | some (.str name) =>
      if name = text "bert" ∧ Bert.hasKnownProblem entries then some entries else none
    | _ => none
  | _ => none

def savedWeights? (fs : FileSystem) (directory : Path) : Option Checkpoint :=
  let paths := [text "model.safetensors", text "pytorch_model.bin"].map fun name =>
    directory.append (Path.ofText name)
  (paths.find? fs.isFile).bind fun path => (readWeights fs path).toOption

def savedModel? (fs : FileSystem) (directory : Path) :
    Option (Model × List (Value × Value)) := do
  let configuration ← savedConfiguration? fs directory
  let labels ← savedLabels? configuration
  let bert ← (Bert.ofConfiguration configuration labels.length).toOption
  let model ← (bert.load (← savedWeights? fs directory)).toOption
  some (model, labels)

def savedVocabulary? (fs : FileSystem) (directory : Path) : Option Vocabulary :=
  let path := directory.append (Path.ofText (text "vocab.txt"))
  (fs.readBytes path).toOption.bind fun bytes =>
    (Utf8.decode bytes).toOption.map Vocabulary.ofText

def ofDirectory (fs : FileSystem) (cudaDevices : Nat) (name : Text) (device : Value)
    (maxLength : Int) : Run Tagger := do
  let resolved ← Run.ofExcept (Device.resolve cudaDevices device)
  Run.log .info .pipeline (text "Loading HuggingFace NER model: " ++ name ++ text " (device=" ++
    resolved.toText ++ text ")")
  let directory := Path.ofText name
  let fail {α : Type} (resource : Resource) : Run α :=
    Run.fail (.resource ⟨resource, some name, .foreign⟩)
  match savedVocabulary? fs directory with
  | none => fail .vocabulary
  | some vocabulary =>
    match savedModel? fs directory with
    | none => fail .weights
    | some (model, labels) =>
      if labels.isEmpty then Run.fail (.configuration .missingMapping)
      else
        Run.ofExcept (buildOn resolved (WordPiece.tokenizer vocabulary) model labels maxLength)

/-- The tagger that settings ask for: of three files if all of them are named, otherwise of the
directory that is the model's name. -/
def ofSettings (fs : FileSystem) (cudaDevices : Nat) (settings : Settings) : Run Tagger :=
  match settings.vocabularyPath, settings.configurationPath, settings.weightsPath with
  | some vocabulary, some configuration, some weights =>
    ofFiles fs cudaDevices vocabulary configuration weights (.str settings.device)
      settings.maxLength
  | _, _, _ =>
    ofDirectory fs cudaDevices settings.modelName (.str settings.device) settings.maxLength

end EntityTagger.Tagger
