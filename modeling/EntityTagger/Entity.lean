import EntityTagger.Error
import EntityTagger.Field
import EntityTagger.Tensor

/-!
Entities: a text, its label, and a score from 0 to 1. They are assembled from candidates, which
point to a cell of the batch, and grouped by the input that the cell belongs to.
-/

namespace EntityTagger

structure Entity where
  text : Text
  score : Double
  label : Text
deriving DecidableEq, Repr

/-- The entities of one input, and the labels that occur among them, sorted. -/
structure Annotation where
  entities : List Entity
  labels : List Text
deriving DecidableEq, Repr

def Annotation.ofEntities (entities : List Entity) : Annotation :=
  ⟨entities, sortedDistinct (entities.map (·.label))⟩

/-- The claim that a cell of the batch is an entity; label and score are not yet checked. -/
structure Candidate where
  batch : Int
  position : Int
  label : Value
  score : Value

namespace Entity

def ofFields (fields : Field.Record) : Except Error Entity :=
  let read := Field.both (Field.both
    ((Field.required fields (EntityTagger.text "text") Field.readString).map Entity.mk)
    (Field.required fields (EntityTagger.text "score") Field.readFraction))
    (Field.required fields (EntityTagger.text "label") Field.readString)
  read.mapError .invalid

/-- The fields of an entity never change. -/
def assign (_ : Entity) (name : Text) : Except Error Entity :=
  .error (.invalid [⟨[.field name], .frozen⟩])

/-- The place that an index means in a list of the given length: negative ones count from the
end. -/
def place? (length : Nat) (index : Int) : Option Nat :=
  if 0 ≤ index ∧ index < length then some index.toNat
  else if -(length : Int) ≤ index ∧ index < 0 then some (index + length).toNat
  else none

def cell? (ids : Tensor Int) (batch position : Int) : Option Int :=
  match ids.shape with
  | [rows, width] => do
    let row ← place? rows batch
    let column ← place? width position
    ids.cells[row * width + column]?
  | _ => none

/-- The entity that a candidate is: its text is that of the single token in its cell. -/
def ofCandidate (decode : Int → Text) (ids : Tensor Int) (candidate : Candidate) :
    Except Error Entity :=
  match cell? ids candidate.batch candidate.position with
  | none => .error (.misuse .outOfRange)
  | some id =>
    ofFields [(.str (EntityTagger.text "text"), .str (decode id)),
      (.str (EntityTagger.text "score"), candidate.score),
      (.str (EntityTagger.text "label"), candidate.label)]

def assemble (decode : Int → Text) (ids : Tensor Int) (candidates : List Candidate) :
    Except Error (List Entity) :=
  candidates.mapM (ofCandidate decode ids)

/-- Puts each item at the end of the group that its index means, one after the other. -/
def scatter {α : Type} : List (List α) → List (Int × α) → Except Error (List (List α))
  | groups, [] => .ok groups
  | groups, (index, item) :: rest =>
    match place? groups.length index with
    | some place => scatter (groups.modify place (· ++ [item])) rest
    | none => .error (.misuse .outOfRange)

/-- The items that belong to each of `count` inputs, in order. The indices are paired with the items
up to the end of the shorter list. -/
def group {α : Type} (indices : List Int) (items : List α) (count : Nat) :
    Except Error (List (List α)) :=
  scatter (List.replicate count []) (indices.zip items)

end Entity

end EntityTagger
