import EntityTagger.Json.Reader
import EntityTagger.Utf8
import EntityTagger.Value.Literal
import EntityTagger.Violation

/-!
Errors: what can go wrong, as causes, and the message of each.
-/

namespace EntityTagger

/-- Stands for the reason that a reader of a foreign format gives in its own words. -/
def foreignReason : Text := text "<cause>"

inductive FileFault
  | missing
  | present
  | notDirectory
  | isDirectory
  | nameTooLong
deriving DecidableEq, Repr

structure FileError where
  fault : FileFault
  path : Text
deriving DecidableEq, Repr

def FileFault.message : FileFault → Text
  | .missing => text "[Errno 2] No such file or directory"
  | .present => text "[Errno 17] File exists"
  | .notDirectory => text "[Errno 20] Not a directory"
  | .isDirectory => text "[Errno 21] Is a directory"
  | .nameTooLong => text "[Errno 36] File name too long"

def FileError.message (e : FileError) : Text :=
  e.fault.message ++ text ": " ++ Literal.ofText e.path

inductive Resource
  | vocabulary
  | configuration
  | weights
  | device
  | named (name : Text)
deriving DecidableEq, Repr

def Resource.name : Resource → Text
  | .vocabulary => text "vocabulary"
  | .configuration => text "configuration"
  | .weights => text "weights"
  | .device => text "device"
  | .named name => name

inductive ResourceFault
  | fileNotFound
  | fileEmpty
  | notAnObject
  | file (error : FileError)
  | json (error : Json.SyntaxError)
  | decoding (error : Utf8.DecodeError)
  | tokenCount (held lines displaced : Nat)
  | invalidDevice (request : Value)
  | cudaMissing (device : Text)
  | cudaIndex (device : Text) (present : Nat)
  | cannotMove (device : Text)
  | unreadable (error : Option FileError)
  | incompatible
  | parametersMissing (names : List Text)
  | foreign
  | stated (reason : Text)

def ResourceFault.reason : ResourceFault → Text
  | .fileNotFound => text "file not found"
  | .fileEmpty => text "file is empty"
  | .notAnObject => text "expected a JSON object"
  | .file error => error.message
  | .json error => error.message
  | .decoding error => error.message
  | .tokenCount held lines displaced =>
    text "tokenizer holds " ++ Text.ofNat held ++ text " tokens, file has " ++ Text.ofNat lines ++
      text " (" ++ Text.ofNat displaced ++ text " with a different id)"
  | .invalidDevice request =>
    text "invalid device " ++ Literal.ofValue request ++ text ": " ++ foreignReason
  | .cudaMissing device => device ++ text " requested but CUDA is not available"
  | .cudaIndex device present =>
    device ++ text " requested but only " ++ Text.ofNat present ++ text " CUDA device(s) present"
  | .cannotMove device => text "cannot move model to " ++ device ++ text ": " ++ foreignReason
  | .unreadable none => text "unreadable weights file: " ++ foreignReason
  | .unreadable (some error) => text "unreadable weights file: " ++ error.message
  | .incompatible => text "incompatible with configuration: " ++ foreignReason
  | .parametersMissing names =>
    text "incompatible with configuration: missing " ++ Text.join (text ", ") names
  | .foreign => foreignReason
  | .stated reason => reason

/-- A resource that cannot be used. The tagger is then not built at all. -/
structure ResourceError where
  resource : Resource
  path : Option Text
  fault : ResourceFault

/-- A path that is empty is not shown. -/
def ResourceError.message (e : ResourceError) : Text :=
  let place := match e.path with
    | some (c :: path) => text " (" ++ (c :: path) ++ text ")"
    | _ => []
  text "Failed to load " ++ e.resource.name ++ place ++ text ": " ++ e.fault.reason

inductive ConfigurationFault
  | emptyMapping
  | missingMapping
  | notAnInteger (key : Value)
  | unmapped (id : Int) (known : List Int)
  | malformed (path : Text)
  | invalidSettings (path : Text) (violations : List Violation)
  | stated (message : Text) (id : Option Int) (known : Option (List Int))

def sortedIds (ids : List Int) : List Int := ids.mergeSort fun a b => decide (a ≤ b)

namespace ConfigurationFault

/-- The range of sorted ids, from the first to the last. -/
def domain (ids : List Int) : Text :=
  match ids.head?, ids.getLast? with
  | some first, some last => Text.ofInt first ++ text ".." ++ Text.ofInt last
  | _, _ => text "<empty>"

def message : ConfigurationFault → Text
  | .emptyMapping => text "Label mapping (id2label) is empty"
  | .missingMapping =>
    text "No label dictionary (id2label) provided in the model configuration"
  | .notAnInteger key => text "Label id " ++ Literal.ofValue key ++ text " is not an integer"
  | .unmapped id known =>
    text "Predicted label id " ++ Text.ofInt id ++ text " is not in the label mapping (mapped ids: " ++
      domain (sortedIds known) ++ text ", " ++ Text.ofNat known.length ++ text " labels)"
  | .malformed path => text "Malformed YAML in " ++ path ++ text ": " ++ foreignReason
  | .invalidSettings path _ =>
    text "Invalid NER settings in " ++ path ++ text ": " ++ foreignReason
  | .stated message _ _ => message

def labelId? : ConfigurationFault → Option Int
  | .unmapped id _ => some id
  | .stated _ id _ => id
  | _ => none

def knownIds? : ConfigurationFault → Option (List Int)
  | .unmapped _ known => some (sortedIds known)
  | .stated _ _ known => known.map sortedIds
  | _ => none

end ConfigurationFault

inductive InputFault
  | noSequences
  | emptyBatch
  | singleText
  | notText (place : Nat) (typeName : Text)
  | logitsRank (shape : List Nat)
  | stated (message : Text)
deriving DecidableEq, Repr

/-- The sizes of a shape in parentheses, a single one with a comma behind it. -/
def shapeText : List Nat → Text
  | [n] => text "(" ++ Text.ofNat n ++ text ",)"
  | shape => text "(" ++ Text.join (text ", ") (shape.map Text.ofNat) ++ text ")"

def InputFault.message : InputFault → Text
  | .noSequences => text "Cannot build a batch from zero sequences"
  | .emptyBatch => text "Input batch is empty; at least one text is required"
  | .singleText => text "Expected a sequence of texts, got a single string"
  | .notText place typeName =>
    text "Input " ++ Text.ofNat place ++ text " is " ++ typeName ++ text ", expected str"
  | .logitsRank shape =>
    text "Expected logits of shape (batch, seq_len, num_labels), got " ++ shapeText shape
  | .stated message => message

/-- Requests that an operation has no meaning for. Nothing but the kind is told. -/
inductive Misuse
  | wrongType
  | badValue
  | outOfRange
  | noSuchKey
  | noSuchAttribute
  | overflow
  | mismatch
  | unsupported
deriving DecidableEq, Repr

/-- Everything that an operation can fail with. -/
inductive Error
  | resource (error : ResourceError)
  | configuration (fault : ConfigurationFault)
  | input (fault : InputFault)
  | stated (message : Text)
  | invalid (violations : List Violation)
  | json (error : Json.SyntaxError)
  | decoding (error : Utf8.DecodeError)
  | encoding (error : Utf8.EncodeError)
  | file (error : FileError)
  | misuse (kind : Misuse)

def Error.message? : Error → Option Text
  | .resource error => some error.message
  | .configuration fault => some fault.message
  | .input fault => some fault.message
  | .stated message => some message
  | .invalid _ => none
  | .json error => some error.message
  | .decoding error => some error.message
  | .encoding error => some error.message
  | .file error => some error.message
  | .misuse _ => none

end EntityTagger
