import EntityTagger.Entity
import EntityTagger.Json.Reader
import EntityTagger.Json.Writer
import EntityTagger.Text.Lines

/-!
Rows: JSON values that stand one on a line. A row whose text is to be tagged is an object with a
text; every row is written as an object with the entities that were found in it.
-/

namespace EntityTagger.Row

/-- The rows on some lines. Blank lines hold none. -/
def ofLines (lines : List Text) : Except Error (List Json) :=
  (lines.map Text.strip |>.filter (!·.isEmpty)).mapM fun line =>
    match Json.read line with
    | .ok row => .ok row
    | .error (.malformed error) => .error (.json error)
    | .error .tooManyDigits => .error (.misuse .badValue)

/-- The rows of a file. A fault in its bytes is noticed after the lines that were seen before it and
have an end; a CR that was seen last may be half of one and ends no line there. -/
def ofBytes (bytes : List UInt8) : Except Error (List Json) :=
  match Utf8.decodeStream bytes with
  | (content, none) => ofLines content.lines
  | (content, some error) => do
    let whole := if content.getLast? = some 13 then content.dropLast else content
    let _ ← ofLines (Text.cutLines whole).1
    .error (.decoding error)

def text? (row : Json) : Option Text :=
  match row.member? (text "text") with
  | some (.str t) => if t.isBlankText then none else some t
  | _ => none

def texts (rows : List Json) : List Text := rows.filterMap text?

/-- Gives the rows that have a text their entities, in order; the others have none. -/
def attach : List Json → List (List Entity) → List (Json × Annotation)
  | [], _ => []
  | row :: rest, found =>
    match text? row, found with
    | some _, entities :: found => (row, .ofEntities entities) :: attach rest found
    | _, found => (row, .ofEntities []) :: attach rest found

def ofEntity (e : Entity) : Json :=
  .obj [(text "text", .str e.text), (text "score", .float e.score), (text "label", .str e.label)]

/-- A row as an object; one that is none is put under a name. -/
def members : Json → List (Text × Json)
  | .obj members => members
  | row => [(text "value", row)]

/-- A row with what was found in it. Members of the same names are replaced. -/
def annotate (row : Json) (found : Annotation) : Json :=
  .obj (Association.put (text "entity_labels") (.arr (found.labels.map .str))
    (Association.put (text "entities") (.arr (found.entities.map ofEntity)) (members row)))

def line (row : Json) (found : Annotation) : Text := (annotate row found).write ++ [10]

/-- The bytes of the lines up to the first one that cannot be encoded, and why it cannot. -/
def encodeLines : List Text → List UInt8 × Option Utf8.EncodeError
  | [] => ([], none)
  | line :: rest =>
    match Utf8.encode line with
    | .error error => ([], some error)
    | .ok bytes =>
      let (more, error) := encodeLines rest
      (bytes ++ more, error)

end EntityTagger.Row
