import EntityTagger.Service.Reply
import EntityTagger.Tagger

/-!
The service: two routes, one for its health and one for the entities of texts. The tagger is built
for the first request that needs it, and kept.
-/

namespace EntityTagger.Service

inductive Route
  | health
  | extract
deriving DecidableEq, Repr

namespace Route

def ofPath? (path : Text) : Option Route :=
  if path = text "/api/health" then some .health
  else if path = text "/api/entities/extract" then some .extract
  else none

def method : Route → Text
  | health => text "GET"
  | extract => text "POST"

end Route

/-- What the service did for a request. -/
structure Exchange where
  /-- The tagger, if it is built. -/
  tagger : Option Tagger
  events : List Event
  reply : Reply

/-- What is reported and replied for a run that finds entities. -/
def answer (r : Run (List Entity)) : List Event × Reply :=
  match r.outcome with
  | .ok entities => (r.events, .ofEntities entities)
  | .error (.input fault) => (r.events, .refused fault.message)
  | .error (.configuration fault) =>
    (r.events ++ [.log ⟨.error, .service, text "Label mapping mismatch"⟩],
      .mismatched fault.message)
  | .error _ => (r.events, .crashed)

def extract (t : Tagger) (texts : List Text) : List Event × Reply := answer (t.entities texts)

/-- The reply for the entities of some texts, with a tagger that may have to be built. -/
def extractWith (build : Run Tagger) (tagger : Option Tagger) (texts : List Text) : Exchange :=
  match tagger with
  | some t =>
    let (events, reply) := extract t texts
    ⟨some t, events, reply⟩
  | none =>
    match build.outcome with
    | .ok t =>
      let (events, reply) := extract t texts
      ⟨some t, build.events ++ events, reply⟩
    | .error (.resource e) =>
      ⟨none, build.events ++ [.log ⟨.error, .service, text "NER model unavailable"⟩],
        .unavailable e.message⟩
    | .error _ => ⟨none, build.events, .crashed⟩

/-- Answers a request; `build` is how a tagger would be built now. -/
def handle (build : Run Tagger) (tagger : Option Tagger) (r : Request) : Exchange :=
  match Route.ofPath? r.path with
  | none => ⟨tagger, [], .notFound⟩
  | some route =>
    if r.method ≠ route.method then ⟨tagger, [], .wrongMethod⟩
    else match route with
      | .health => ⟨tagger, [], .healthy⟩
      | .extract =>
        match r.texts with
        | .error fault => ⟨tagger, [], .ofFault fault⟩
        | .ok texts => extractWith build tagger texts

/-- How the reply to a request is sent: to a request for the head alone, without a body. -/
def send (r : Request) (reply : Reply) : Nat × Body :=
  (reply.status, if r.method = text "HEAD" then .plain [] else reply.body)

end EntityTagger.Service
