import EntityTagger.Row
import EntityTagger.Service.Request

/-!
Replies of the service, and how they are sent: with a status, and a body that is JSON or plain text.
-/

namespace EntityTagger.Service

inductive Reply
  | healthy
  | extracted (found : Annotation)
  | notFound
  | wrongMethod
  /-- The body of the request could not be read at all. -/
  | unreadable
  | invalid (complaints : List Complaint)
  | refused (detail : Text)
  | mismatched (detail : Text)
  | unavailable (detail : Text)
  | crashed

inductive Body
  | json (value : Json)
  | plain (t : Text)

namespace Reply

def status : Reply → Nat
  | healthy => 200
  | extracted _ => 200
  | notFound => 404
  | wrongMethod => 405
  | unreadable => 400
  | invalid _ => 422
  | refused _ => 422
  | mismatched _ => 500
  | unavailable _ => 503
  | crashed => 500

/-- An object with one member, the detail. -/
def detail (value : Json) : Body := .json (.obj [(text "detail", value)])

def ofStep : Step → Json
  | .field name => .str name
  | .index place => .int place

def ofComplaint (c : Complaint) : Json :=
  .obj ([(text "type", .str c.rule.name), (text "loc", .arr (c.place.map ofStep)),
    (text "msg", .str c.rule.message), (text "input", c.input)] ++
    if c.context.isEmpty then [] else [(text "ctx", .obj c.context)])

def body : Reply → Body
  | healthy => .json (.obj [(text "status", .str (text "ok"))])
  | extracted found => .json (.obj [(text "entities", .arr (found.entities.map Row.ofEntity)),
      (text "entity_labels", .arr (found.labels.map .str))])
  | notFound => detail (.str (text "Not Found"))
  | wrongMethod => detail (.str (text "Method Not Allowed"))
  | unreadable => detail (.str (text "There was an error parsing the body"))
  | invalid complaints => detail (.arr (complaints.map ofComplaint))
  | refused message => detail (.str message)
  | mismatched message => detail (.str message)
  | unavailable message => detail (.str message)
  | crashed => .plain (text "Internal Server Error")

end Reply

mutual

/-- Whether a value can be sent: it holds no surrogate and no number that is not finite. -/
def isSendable : Json → Bool
  | .float x => x.isFinite
  | .str t => !t.any Text.isSurrogate
  | .arr items => areSendable items
  | .obj members => areSendableMembers members
  | _ => true

def areSendable : List Json → Bool
  | [] => true
  | item :: rest => isSendable item && areSendable rest

def areSendableMembers : List (Text × Json) → Bool
  | [] => true
  | (name, value) :: rest =>
    !name.any Text.isSurrogate && isSendable value && areSendableMembers rest

end

/-- The reply with the entities of some texts. One that cannot be sent is a failure of the
service. -/
def Reply.ofEntities (entities : List Entity) : Reply :=
  let found := Annotation.ofEntities entities
  if areSendable (found.entities.map Row.ofEntity) then .extracted found else .crashed

/-- The reply to a faulty body. One whose parts cannot be sent back is a failure of the service. -/
def Reply.ofFault : BodyFault → Reply
  | .unreadable => .unreadable
  | .invalid complaints =>
    if complaints.all fun c => isSendable c.input then .invalid complaints else .crashed

end EntityTagger.Service
