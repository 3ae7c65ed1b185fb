import EntityTagger.Error

/-!
Runs: computations that report what they do and may fail. What was reported before a failure stays
reported.
-/

namespace EntityTagger

inductive Level
  | info
  | warning
  | error
deriving DecidableEq, Repr

/-- The parts of the library that write to the log. -/
inductive Logger
  | pipeline
  | process
  | settings
  | service
deriving DecidableEq, Repr

structure LogLine where
  level : Level
  logger : Logger
  message : Text
deriving DecidableEq, Repr

def Level.name : Level → Text
  | .info => text "INFO"
  | .warning => text "WARNING"
  | .error => text "ERROR"

def Logger.name : Logger → Text
  | .pipeline => text "src.ner.pipeline"
  | .process => text "src.ner.process"
  | .settings => text "src.ner.config"
  | .service => text "src.api.app"

def LogLine.toText (line : LogLine) : Text :=
  line.level.name ++ text " " ++ line.logger.name ++ text ": " ++ line.message

/-- What a run reports: a line for the log, the texts given to a tokenizer with the greatest length
it was asked for, or the rectangle of token ids given to a model with its mask. -/
inductive Event
  | log (line : LogLine)
  | tokenized (texts : List Text) (maxLength : Int)
  | modelCall (ids mask : List (List Int))
deriving DecidableEq, Repr

structure Run (α : Type) where
  events : List Event
  outcome : Except Error α

namespace Run

variable {α β : Type}

protected def pure (a : α) : Run α := ⟨[], .ok a⟩

protected def bind (x : Run α) (f : α → Run β) : Run β :=
  match x.outcome with
  | .ok a =>
    let y := f a
    ⟨x.events ++ y.events, y.outcome⟩
  | .error e => ⟨x.events, .error e⟩

instance : Monad Run where
  pure := Run.pure
  bind := Run.bind

def fail (e : Error) : Run α := ⟨[], .error e⟩

def ofExcept (x : Except Error α) : Run α := ⟨[], x⟩

def report (event : Event) : Run Unit := ⟨[event], .ok ()⟩

def log (level : Level) (logger : Logger) (message : Text) : Run Unit :=
  report (.log ⟨level, logger, message⟩)

@[simp] theorem pure_events (a : α) : (pure a : Run α).events = [] := rfl

@[simp] theorem pure_outcome (a : α) : (pure a : Run α).outcome = .ok a := rfl

theorem bind_of_ok {x : Run α} {a : α} (h : x.outcome = .ok a) (f : α → Run β) :
    x >>= f = ⟨x.events ++ (f a).events, (f a).outcome⟩ := by
  show Run.bind x f = _
  simp [Run.bind, h]

theorem bind_of_error {x : Run α} {e : Error} (h : x.outcome = .error e) (f : α → Run β) :
    x >>= f = ⟨x.events, .error e⟩ := by
  show Run.bind x f = _
  simp [Run.bind, h]

@[simp] theorem outcome_bind (x : Run α) (f : α → Run β) :
    (x >>= f).outcome = x.outcome.bind fun a => (f a).outcome := by
  cases h : x.outcome with
  | ok a => rw [bind_of_ok h]; rfl
  | error e => rw [bind_of_error h]; rfl

@[simp] theorem outcome_ofExcept (x : Except Error α) : (ofExcept x).outcome = x := rfl

@[simp] theorem outcome_report (event : Event) : (report event).outcome = .ok () := rfl

@[simp] theorem outcome_log (level : Level) (logger : Logger) (message : Text) :
    (log level logger message).outcome = .ok () := rfl

end Run

end EntityTagger
