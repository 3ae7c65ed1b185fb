import EntityTagger.FileSystem
import EntityTagger.Run
import EntityTagger.Settings
import EntityTagger.Text.Lines
import EntityTagger.Yaml

/-!
Settings files: YAML documents whose entry `ner` holds the fields. Paths in it are meant from the
root of the project.
-/

namespace EntityTagger.Settings

/-- What is outside of the program: the root of the project, and the path of the settings file that
the variable `NER_CONFIG` names. -/
structure Environment where
  root : Path
  configured : Text
deriving DecidableEq, Repr

namespace Environment

def ownPath (env : Environment) : Path :=
  env.root.append (Path.ofText (text "configs/config.yaml"))

/-- The settings file: the one that is asked for, or that the variable names, or the project's. -/
def settingsPath (env : Environment) (asked : Option Path) : Path :=
  match asked with
  | some path => path
  | none => if env.configured.isEmpty then env.ownPath else Path.ofText env.configured

end Environment

/-- Assigns an item to a dictionary: a key and its content. -/
def assignItem (entries : Field.Record) (item : Value) : Except Misuse Field.Record :=
  match item.members? with
  | none => .error .wrongType
  | some [key, content] =>
    if key.isKey then .ok (Value.putEntry key content entries) else .error .wrongType
  | some _ => .error .badValue

/-- The dictionary that a value can be turned into: a dictionary itself, or pairs that are assigned
one after the other. -/
def dictionary (value : Value) : Except Misuse Field.Record :=
  match value with
  | .dict entries => .ok entries
  | value =>
    match value.members? with
    | none => .error .wrongType
    | some items => items.foldlM assignItem []

def sectionOf (document : Value) : Except Misuse Field.Record :=
  match document with
  | .dict entries =>
    let given := (Value.entry? (text "ner") entries).getD .none
    if given.holds then dictionary given else .ok []
  | _ => .ok []

/-- A path of a section, from the root of the project; nothing for whatever says nothing. -/
def absolutePath (root : Path) (value : Value) : Except Misuse Value :=
  if value.holds then
    match value with
    | .str t => .ok (.str (root.append (Path.ofText t)).toText)
    | _ => .error .wrongType
  else .ok .none

def absoluteEntry (root : Path) : Value × Value → Except Misuse (Value × Value)
  | (.str name, value) =>
    if pathFields.contains name then (absolutePath root value).map fun path => (.str name, path)
    else .ok (.str name, value)
  | entry => .ok entry

def withAbsolutePaths (root : Path) (fields : Field.Record) : Except Misuse Field.Record :=
  fields.mapM (absoluteEntry root)

def isText : Value → Bool
  | .str _ => true
  | _ => false

/-- The settings that a document holds; `path` is where it was read. Its paths are already made
absolute, and taken as they are. -/
def ofDocument (root path : Path) (document : Value) : Except Error Settings := do
  let fields ← ((sectionOf document).bind (withAbsolutePaths root)).mapError .misuse
  if !fields.all fun entry => isText entry.1 then .error (.misuse .wrongType)
  (fieldwise Field.takePath? fields).mapError fun violations =>
    .configuration (.invalidSettings path.toText violations)

/-- The document of a file. The bytes are taken to be decoded before the document is looked at. That
is so for a file of one piece; in a longer one an early mistake in the YAML is found before a fault
in a later piece, and the pieces may be larger than those of a file that is read line by line, which
shows in the position of the fault. -/
def readDocument (fs : FileSystem) (path : Path) : Except Error Value := do
  let bytes ← (fs.readBytes path).mapError .file
  match Utf8.decodeStream bytes with
  | (_, some error) => .error (.decoding error)
  | (content, none) =>
    match Yaml.read content.unifyLineEnds with
    | .ok document => .ok document
    | .error .malformed => .error (.configuration (.malformed path.toText))
    | .error (.misuse kind) => .error (.misuse kind)

/-- Loads the settings. Without a settings file they are the defaults. -/
def load (fs : FileSystem) (env : Environment) (asked : Option Path) : Run Settings := do
  let path := env.settingsPath asked
  if fs.isPresent path then
    Run.ofExcept do ofDocument env.root path (← readDocument fs path)
  else
    Run.log .info .settings (text "No config file at " ++ path.toText ++
      text ", using default NER settings")
    pure default

end EntityTagger.Settings
