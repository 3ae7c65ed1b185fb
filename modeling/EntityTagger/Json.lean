import EntityTagger.Association
import EntityTagger.Number.Binary

/-!
JSON values. Integers are exact, all other numbers are doubles, and the members of an object keep
their order.
-/

namespace EntityTagger

inductive Json
  | null
  | bool (value : Bool)
  | int (value : Int)
  | float (value : Double)
  | str (value : Text)
  | arr (items : List Json)
  | obj (members : List (Text × Json))
deriving Inhabited

namespace Json

def member? (name : Text) : Json → Option Json
  | .obj members => Association.get? name members
  | _ => none

end Json

end EntityTagger
