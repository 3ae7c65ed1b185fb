import EntityTagger.Error
import EntityTagger.Number.Integer

/-!
Label mappings: from the number of a label to its name. A mapping is read from a dictionary whose
keys denote integers, in any of the ways in which configurations write them.
-/

namespace EntityTagger

/-- The names of labels, in the order in which they were first given. -/
abbrev LabelMapping := List (Int × Text)

namespace LabelMapping

/-- The label for what is no entity, whatever its name. -/
def nonEntity : Nat := 0

def ids (labels : LabelMapping) : List Int := labels.map (·.1)

def lookup (labels : LabelMapping) (id : Int) : Except Error Text :=
  match Association.get? id labels with
  | some name => .ok name
  | none => .error (.configuration (.unmapped id labels.ids))

/-- The integer that a key denotes: a number its integer part, a text or bytes their numeral. -/
def idOfKey (key : Value) : Except Error Int :=
  let none? : Option Int → Except Error Int
    | some id => .ok id
    | none => .error (.configuration (.notAnInteger key))
  match key with
  | .int n => .ok n
  | .bool b => .ok (if b then 1 else 0)
  | .float (.infinity _) => .error (.misuse .overflow)
  | .float x => none? x.truncate?
  | .str t => none? (Integer.read? t)
  | .bytes b =>
    let codes := b.map UInt8.toNat
    none? (if codes.all (· < 128) then Integer.read? codes else none)
  | _ => none? none

/-- Entries are added one by one, each in the place of an earlier one with its id. Integers are
displayed at any length here, as names and in messages: that one of more than 4300 digits is refused
is left out. -/
def addEntries (labels : LabelMapping) : List (Value × Value) → Except Error LabelMapping
  | [] => .ok labels
  | (key, name) :: rest =>
    match idOfKey key with
    | .error e => .error e
    | .ok id => addEntries (Association.put id (Literal.display name) labels) rest

def ofEntries (entries : List (Value × Value)) : Except Error LabelMapping :=
  if entries.isEmpty then .error (.configuration .emptyMapping) else addEntries [] entries

def toEntries (labels : LabelMapping) : List (Value × Value) :=
  labels.map fun (id, name) => (.int id, .str name)

/-- The mapping of a model's configuration, under the name `id2label`. -/
def ofConfiguration (configuration : Value) : Except Error LabelMapping :=
  let given := match configuration with
    | .dict entries => (Value.entry? (text "id2label") entries).getD .none
    | _ => .none
  if given.holds then
    match given with
    | .dict entries => ofEntries entries
    | _ => .error (.misuse .noSuchAttribute)
  else .error (.configuration .missingMapping)

/-- A mapping never changes. -/
def assign (_ : LabelMapping) (_ _ : Value) : Except Error LabelMapping :=
  .error (.misuse .wrongType)

def sorted (labels : LabelMapping) : LabelMapping :=
  labels.mergeSort fun a b => decide (a.1 ≤ b.1)

end LabelMapping

end EntityTagger
