import EntityTagger.FileSystem
import EntityTagger.Label
import EntityTagger.Text.Lines

/-!
The label mapping of a configuration file.
-/

namespace EntityTagger.LabelMapping

def readConfiguration (fs : FileSystem) (path : Path) : Except Error Value :=
  let fail (fault : ResourceFault) : Except Error Value :=
    .error (.resource ⟨.configuration, some path.toText, fault⟩)
  match fs.readBytes path with
  | .error ⟨.missing, _⟩ => fail .fileNotFound
  | .error error => fail (.file error)
  | .ok bytes =>
    match Utf8.decode bytes with
    | .error error => .error (.decoding error)
    | .ok content =>
      match Json.read content.unifyLineEnds with
      | .error (.malformed error) => fail (.json error)
      | .error .tooManyDigits => .error (.misuse .badValue)
      | .ok (.obj members) => .ok (Value.ofJson (.obj members))
      | .ok _ => fail .notAnObject

def load (fs : FileSystem) (path : Path) : Except Error LabelMapping :=
  (readConfiguration fs path).bind ofConfiguration

end EntityTagger.LabelMapping
