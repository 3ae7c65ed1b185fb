import EntityTagger.Json.Reader
import EntityTagger.Service.Address
import EntityTagger.Violation

/-!
Requests to the service, and the texts that the body of a request lists.
-/

namespace EntityTagger.Service

structure Request where
  method : Text
  /-- The path, perhaps with a host before it and a query behind it. -/
  target : Text
  contentType : Option Text
  body : Text
deriving DecidableEq, Repr

/-- What is wrong with a body, and where; the part at fault; and what more is said about the
rule. -/
structure Complaint where
  place : List Step
  rule : Rule
  input : Json
  context : List (Text × Json)

/-- Why no texts can be taken from a body. -/
inductive BodyFault
  | invalid (complaints : List Complaint)
  | unreadable

namespace Request

/-- Whether a content type is JSON, or says that its own syntax is. -/
def isJsonType (contentType : Text) : Bool :=
  let essence := (Text.strip (contentType.takeWhile (· != 59))).map Text.lower
  match Text.splitAt 47 essence with
  | [kind, subkind] =>
    kind == text "application" &&
      (subkind == text "json" || (text "+json").reverse.isPrefixOf subkind.reverse)
  | _ => false

/-- Whether the body is to be read as JSON: also where nothing is said. -/
def hasJson (r : Request) : Bool :=
  match r.contentType with
  | none => true
  | some contentType => contentType.isEmpty || isJsonType contentType

def path (r : Request) : Text := Address.path r.target

def bodyPlace : List Step := [.field (text "body")]

def textsPlace : List Step := [.field (text "body"), .field (text "texts")]

/-- The value that the body is; nothing if it is empty. -/
def value? (r : Request) : Except BodyFault (Option Json) :=
  let content := match r.body with
    | 0xFEFF :: rest => rest
    | body => body
  if r.body.isEmpty then .ok none
  else if !r.hasJson then .ok (some (.str r.body))
  else match Json.read content with
    | .ok value => .ok (some value)
    | .error (.malformed e) => .error (.invalid [⟨bodyPlace ++ [.index e.position], .jsonText, .obj [],
        [(text "error", .str e.problem.message)]⟩])
    | .error .tooManyDigits => .error .unreadable

def complaint? (item : Json) (place : Nat) : Option Complaint :=
  match item with
  | .str _ => none
  | _ => some ⟨textsPlace ++ [.index place], .stringType, item, []⟩

def textsOfList (items : List Json) : Except BodyFault (List Text) :=
  let complain (rule : Rule) (context : List (Text × Json)) : Except BodyFault (List Text) :=
    .error (.invalid [⟨textsPlace, rule, .arr items, context⟩])
  match items.zipIdx.filterMap fun (item, place) => complaint? item place with
  | [] =>
    if items.isEmpty then
      complain .tooShort [(text "field_type", .str (text "List")), (text "min_length", .int 1),
        (text "actual_length", .int 0)]
    else .ok (items.filterMap fun
      | .str t => some t
      | _ => none)
  | complaints => .error (.invalid complaints)

def texts (r : Request) : Except BodyFault (List Text) := do
  let complain (place : List Step) (rule : Rule) (input : Json) : Except BodyFault (List Text) :=
    .error (.invalid [⟨place, rule, input, []⟩])
  match ← r.value? with
  | none => complain bodyPlace .missing .null
  | some (.obj members) =>
    match Association.get? (text "texts") members with
    | none => complain textsPlace .missing (.obj members)
    | some (.arr items) => textsOfList items
    | some other => complain textsPlace .listType other
  | some other => complain bodyPlace .recordType other

end Request

end EntityTagger.Service
