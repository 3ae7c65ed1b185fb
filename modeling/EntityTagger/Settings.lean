import EntityTagger.Batch
import EntityTagger.Field

/-!
Settings: which model is loaded, from where, onto which device, and how large its batches are.
-/

namespace EntityTagger

structure Settings where
  modelName : Text
  vocabularyPath : Option Path
  configurationPath : Option Path
  weightsPath : Option Path
  device : Text
  maxLength : Int
  batchSize : Int
deriving DecidableEq, Repr

namespace Settings

def defaultModelName : Text := text "dbmdz/bert-large-cased-finetuned-conll03-english"

def defaultDevice : Text := text "auto"

def defaultBatchSize : Nat := 32

def default : Settings :=
  ⟨defaultModelName, none, none, none, defaultDevice, Batch.defaultMaxLength, defaultBatchSize⟩

def pathFields : List Text := [text "vocab_path", text "config_path", text "weights_path"]

/-- Settings field by field; `readPath` is how those fields are read that are paths. -/
def fieldwise (readPath : Value → Except Rule (Option Path)) (fields : Field.Record) :
    Except (List Violation) Settings :=
  let read {α β : Type} (f : Except (List Violation) (α → β)) (name : String) (default : α)
      (read : Value → Except Rule α) := Field.both f (Field.optional fields (text name) default read)
  read (read (read (read (read (read (read (.ok Settings.mk)
    "model_name" defaultModelName Field.readString)
    "vocab_path" none readPath)
    "config_path" none readPath)
    "weights_path" none readPath)
    "device" defaultDevice Field.readString)
    "max_length" (Batch.defaultMaxLength : Int) (Field.readIntFrom 1))
    "batch_size" (defaultBatchSize : Int) (Field.readIntFrom 1)

def ofFields (fields : Field.Record) : Except Error Settings :=
  (fieldwise Field.readPath? fields).mapError .invalid

/-- Settings never change. -/
def assign (_ : Settings) (name : Text) : Except Error Settings :=
  .error (.invalid [⟨[.field name], .frozen⟩])

/-- Whether the model is made of three local files: then the model's name is not looked at. -/
def usesLocalFiles (s : Settings) : Bool :=
  s.vocabularyPath.isSome && s.configurationPath.isSome && s.weightsPath.isSome

end Settings

end EntityTagger
