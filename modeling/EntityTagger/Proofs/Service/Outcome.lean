import EntityTagger.Proofs.Building
import EntityTagger.Proofs.Service

/-! How requests for entities are answered, by what became of the tagger and of the texts: which
ends are answered as they are meant to be, and which are not. -/
namespace EntityTagger.Service

/-- An error that is none of the library's own kinds. -/
def IsForeign : Error → Prop
  | .resource _ | .configuration _ | .input _ | .stated _ => False
  | _ => True

/-- How a request for entities ended: no tagger was to be had, the texts could not be tagged, or
they were. -/
inductive Ending
  | unbuilt (e : Error)
  | untagged (e : Error)
  | tagged (entities : List Entity)

def taggerFor (build : Run Tagger) : Option Tagger → Except Error Tagger
  | some t => .ok t
  | none => build.outcome

/-- How a request ends once there is a tagger: as the prediction did. -/
def Ending.ofPrediction : Except Error (List Entity) → Ending
  | .error e => .untagged e
  | .ok entities => .tagged entities

def ending (build : Run Tagger) (tagger : Option Tagger) (texts : List Text) : Ending :=
  match taggerFor build tagger with
  | .error e => .unbuilt e
  | .ok t => .ofPrediction (t.predict (.list (texts.map .str))).outcome

/-- It ended with an error, in either of the two phases. -/
def Ending.FailedWith (ended : Ending) (e : Error) : Prop :=
  ended = .unbuilt e ∨ ended = .untagged e

def Ending.reply : Ending → Reply
  | .unbuilt (.resource error) => .unavailable error.message
  | .unbuilt _ => .crashed
  | .untagged (.input fault) => .refused fault.message
  | .untagged (.configuration fault) => .mismatched fault.message
  | .untagged _ => .crashed
  | .tagged entities => .ofEntities entities

/-- What the service reports itself where it ended so. -/
def Ending.reports : Ending → List Event
  | .unbuilt (.resource _) => [.log ⟨.error, .service, text "NER model unavailable"⟩]
  | .untagged (.configuration _) => [.log ⟨.error, .service, text "Label mapping mismatch"⟩]
  | _ => []

def entitiesBody (entities : List Entity) (labels : List Text) : Body :=
  .json (.obj [(text "entities", .arr (entities.map Row.ofEntity)),
    (text "entity_labels", .arr (labels.map .str))])

/-- What is meant to be sent: the entities in their order with their labels in strictly increasing
order, or the message of the error with a status for its kind, whichever phase it ended. Errors of
foreign kinds are failures of the service. -/
inductive IsMeant (ended : Ending) : ℕ × Body → Prop
  | tagged {entities : List Entity} {labels : List Text} (hended : ended = .tagged entities)
      (hsorted : labels.Pairwise (List.Lex (· < ·)))
      (hlabels : ∀ label, label ∈ labels ↔ ∃ e ∈ entities, e.label = label) :
      IsMeant ended (200, entitiesBody entities labels)
  | resource {error : ResourceError} (hended : ended.FailedWith (.resource error)) :
      IsMeant ended (503, Reply.detail (.str error.message))
  | input {fault : InputFault} (hended : ended.FailedWith (.input fault)) :
      IsMeant ended (422, Reply.detail (.str fault.message))
  | configuration {fault : ConfigurationFault} (hended : ended.FailedWith (.configuration fault)) :
      IsMeant ended (500, Reply.detail (.str fault.message))
  | foreign {e : Error} (hended : ended.FailedWith e) (hforeign : IsForeign e) :
      IsMeant ended (500, .plain (text "Internal Server Error"))

/-- The ends that are not answered as they are meant to be: errors of the library's own kinds that
the phase does not expect, and entities that cannot be sent. -/
inductive Escapes : Ending → Prop
  | unbuilt {e : Error} (hown : ¬ IsForeign e) (hresource : ∀ error, e ≠ .resource error) :
      Escapes (.unbuilt e)
  | untagged {e : Error} (hown : ¬ IsForeign e) (hinput : ∀ fault, e ≠ .input fault)
      (hconfiguration : ∀ fault, e ≠ .configuration fault) : Escapes (.untagged e)
  | unsendable {entities : List Entity} {e : Entity} (he : e ∈ entities)
      (hsurrogate : e.HasSurrogate) : Escapes (.tagged entities)

/-- A tagger that was built from a settings file, at some time. -/
def IsStarted (t : Tagger) : Prop :=
  ∃ fs cudaDevices env, (start fs cudaDevices env).outcome = .ok t

section Outcome

variable {r : Request} {texts : List Text} {build : Run Tagger} {tagger : Option Tagger}
  {t : Tagger} {ended : Ending} {e : Error}

theorem ending_of_tagger (h : taggerFor build tagger = .ok t) : ending build tagger texts =
    .ofPrediction (t.predict (.list (texts.map .str))).outcome := by
  simp only [ending, h]

theorem ending_of_error (h : taggerFor build tagger = .error e) :
    ending build tagger texts = .unbuilt e := by
  simp only [ending, h]

theorem ending_of_unbuilt (h : build.outcome = .error e) :
    ending build none texts = .unbuilt e := ending_of_error h

theorem answer_eq (r : Run (List Entity)) :
    answer r = (r.events ++ (Ending.ofPrediction r.outcome).reports,
      (Ending.ofPrediction r.outcome).reply) := by
  rw [answer]
  cases r.outcome with
  | ok entities => simp [Ending.ofPrediction, Ending.reports, Ending.reply]
  | error e => cases e <;> simp [Ending.ofPrediction, Ending.reports, Ending.reply]

theorem extract_eq (hne : texts ≠ []) (t : Tagger) :
    extract t texts = ((t.predict (.list (texts.map .str))).events ++
        (Ending.ofPrediction (t.predict (.list (texts.map .str))).outcome).reports,
      (Ending.ofPrediction (t.predict (.list (texts.map .str))).outcome).reply) := by
  rw [extract, ← predict_eq_entities hne, answer_eq]

theorem extractWith_of_unbuilt (h : build.outcome = .error e) (texts : List Text) :
    extractWith build none texts =
      ⟨none, build.events ++ (Ending.unbuilt e).reports, (Ending.unbuilt e).reply⟩ := by
  cases e <;> simp [extractWith, h, Ending.reports, Ending.reply]

theorem IsExtract.reply_eq (h : IsExtract r texts) (build : Run Tagger) (tagger : Option Tagger) :
    (handle build tagger r).reply = (ending build tagger texts).reply := by
  rw [h.handle_eq]
  cases tagger with
  | some t =>
    rw [ending_of_tagger rfl, extractWith, extract_eq h.ne_nil]
  | none =>
    cases hbuild : build.outcome with
    | ok t =>
      have htagger : taggerFor build none = .ok t := hbuild
      rw [extractWith_of_built hbuild, ending_of_tagger htagger, extract_eq h.ne_nil]
    | error e => rw [ending_of_unbuilt hbuild, extractWith_of_unbuilt hbuild]

theorem ending_cases (build : Run Tagger) (tagger : Option Tagger) (texts : List Text) :
    (∃ e, taggerFor build tagger = .error e ∧ ending build tagger texts = .unbuilt e) ∨
    ∃ t, taggerFor build tagger = .ok t ∧
      ((∃ e, (t.predict (.list (texts.map .str))).outcome = .error e ∧
          ending build tagger texts = .untagged e) ∨
        ∃ entities, (t.predict (.list (texts.map .str))).outcome = .ok entities ∧
          ending build tagger texts = .tagged entities) := by
  cases htagger : taggerFor build tagger with
  | error e => exact Or.inl ⟨e, rfl, ending_of_error htagger⟩
  | ok t =>
    refine Or.inr ⟨t, rfl, ?_⟩
    rw [ending_of_tagger htagger]
    cases (t.predict (.list (texts.map .str))).outcome with
    | error e => exact Or.inl ⟨e, rfl, rfl⟩
    | ok entities => exact Or.inr ⟨entities, rfl, rfl⟩

theorem isFinite_of_ending (hne : texts ≠ []) {entities : List Entity}
    (h : ending build tagger texts = .tagged entities) :
    ∀ e ∈ entities, e.score.isFinite = true := by
  rcases ending_cases build tagger texts with
    ⟨e, -, hended⟩ | ⟨t, -, ⟨e, -, hended⟩ | ⟨found, hfound, hended⟩⟩
  · simp [hended] at h
  · simp [hended] at h
  · obtain rfl := Ending.tagged.inj (hended.symm.trans h)
    rw [predict_eq_entities hne] at hfound
    exact Tagger.isFinite_of_entities hfound

theorem Escapes.reply_eq (h : Escapes ended)
    (hfinite : ∀ entities, ended = .tagged entities → ∀ e ∈ entities, e.score.isFinite = true) :
    ended.reply = .crashed := by
  cases h with
  | @unbuilt e hown hresource =>
    cases e with
    | resource error => exact absurd rfl (hresource error)
    | _ => rfl
  | @untagged e hown hinput hconfiguration =>
    cases e with
    | input fault => exact absurd rfl (hinput fault)
    | configuration fault => exact absurd rfl (hconfiguration fault)
    | _ => rfl
  | @unsendable entities e he hsurrogate =>
    exact ofEntities_of_hasSurrogate (hfinite entities rfl) he hsurrogate

theorem Escapes.not_isMeant (h : Escapes ended) :
    ¬ IsMeant ended (500, .plain (text "Internal Server Error")) := by
  intro hmeant
  cases hmeant with
  | foreign hended hforeign =>
    cases h with
    | unbuilt hown => rcases hended with ⟨⟨⟩⟩ | ⟨⟨⟩⟩; exact hown hforeign
    | untagged hown => rcases hended with ⟨⟨⟩⟩ | ⟨⟨⟩⟩; exact hown hforeign
    | unsendable => rcases hended with ⟨⟨⟩⟩ | ⟨⟨⟩⟩

theorem isMeant_or_escapes (ended : Ending)
    (hfinite : ∀ entities, ended = .tagged entities → ∀ e ∈ entities, e.score.isFinite = true) :
    IsMeant ended (ended.reply.status, ended.reply.body) ∨ Escapes ended := by
  cases ended with
  | unbuilt e =>
    cases e with
    | resource error => exact Or.inl (.resource (Or.inl rfl))
    | configuration | input | stated => exact Or.inr (.unbuilt id nofun)
    | _ => exact Or.inl (.foreign (Or.inl rfl) trivial)
  | untagged e =>
    cases e with
    | input fault => exact Or.inl (.input (Or.inr rfl))
    | configuration fault => exact Or.inl (.configuration (Or.inr rfl))
    | resource | stated => exact Or.inr (.untagged id nofun nofun)
    | _ => exact Or.inl (.foreign (Or.inr rfl) trivial)
  | tagged entities =>
    by_cases hsurrogate : ∃ e ∈ entities, e.HasSurrogate
    · obtain ⟨e, he, hsurrogate⟩ := hsurrogate
      exact Or.inr (.unsendable he hsurrogate)
    · left
      have hsendable : ∀ e ∈ entities, ¬ e.HasSurrogate := fun e he hbad =>
        hsurrogate ⟨e, he, hbad⟩
      have hsorted := Annotation.pairwise_labels entities
      rw [Ending.reply, ofEntities_of_sendable (hfinite entities rfl) hsendable]
      exact .tagged rfl hsorted fun label => Annotation.mem_labels

theorem IsStarted.failsWith_predict (h : IsStarted t) (hne : texts ≠ []) :
    FailsWith Error.IsOfTagging (t.predict (.list (texts.map .str))).outcome := by
  obtain ⟨fs, cudaDevices, env, hstart⟩ := h
  have hmodel := isBuilding_start fs cudaDevices env
  rw [hstart] at hmodel
  obtain ⟨bert, weights, hmodel⟩ := hmodel
  rw [predict_eq_entities hne]
  refine Tagger.failsWith_entities (fun ids => ?_) (fun _ h => h) texts
  rw [hmodel]
  exact Bert.failsWith_model bert weights ids

/-- With taggers from settings files, only errors of the configuration escape, namely those that
building ends with, and entities that cannot be sent. -/
theorem Escapes.of_start {fs : FileSystem} {cudaDevices : ℕ} {env : Settings.Environment}
    (hne : texts ≠ []) (htagger : ∀ t ∈ tagger, IsStarted t)
    (h : Escapes (ending (start fs cudaDevices env) tagger texts)) :
    (∃ fault, ending (start fs cudaDevices env) tagger texts = .unbuilt (.configuration fault)) ∨
    ∃ entities, ending (start fs cudaDevices env) tagger texts = .tagged entities := by
  rcases ending_cases (start fs cudaDevices env) tagger texts with
    ⟨e, he, hended⟩ | ⟨t, ht, ⟨e, he, hended⟩ | ⟨entities, -, hended⟩⟩
  · have hbuilding : e.IsOfBuilding := by
      cases tagger with
      | some t => simp [taggerFor] at he
      | none =>
        have hstart := isBuilding_start fs cudaDevices env
        rw [show (start fs cudaDevices env).outcome = .error e from he] at hstart
        exact hstart
    rw [hended] at h
    cases h with
    | unbuilt hown hresource =>
      cases e with
      | configuration fault => exact Or.inl ⟨fault, hended⟩
      | resource error => exact absurd rfl (hresource error)
      | input | stated => exact hbuilding.elim
      | _ => exact absurd trivial hown
  · have hstarted : IsStarted t := by
      cases tagger with
      | some kept =>
        obtain rfl := Except.ok.inj ht
        exact htagger _ rfl
      | none => exact ⟨fs, cudaDevices, env, ht⟩
    have htagging := hstarted.failsWith_predict hne e he
    rw [hended] at h
    cases h with
    | untagged hown hinput hconfiguration =>
      cases e with
      | input fault => exact absurd rfl (hinput fault)
      | configuration fault => exact absurd rfl (hconfiguration fault)
      | resource | stated => exact htagging.elim
      | _ => exact absurd trivial hown
  · exact Or.inr ⟨entities, hended⟩

def offOnRequest : Request :=
  ⟨text "POST", text "/api/entities/extract", none, text "\x7b\"texts\": [\"off on\"]\x7d"⟩

theorem isExtract_offOnRequest : IsExtract offOnRequest [text "off on"] := by
  have htexts : offOnRequest.texts.toOption = some [text "off on"] := by decide +kernel
  exact ⟨by decide +kernel, rfl, Traversal.toOption_eq_some_iff.1 htexts⟩

theorem outcome_predict_offOnRequest :
    (Tagger.twoWords.predict (.list ([text "off on"].map .str))).outcome =
      .ok [⟨text "on", Double.ofInt 1, text "SWITCH"⟩] :=
  Traversal.toOption_eq_some_iff.1 (by decide +kernel)

/-- A settings file with a character that begins nothing in YAML. -/
def brokenSettings : FileSystem :=
  ⟨[([], .directory 0), ([text "ner"], .file (.bytes [64]) 0)]⟩

def brokenEnvironment : Settings.Environment := ⟨⟨.relative, []⟩, text "ner"⟩

theorem outcome_start_brokenSettings : (start brokenSettings 0 brokenEnvironment).outcome =
    .error (.configuration (.malformed (text "ner"))) := by
  have hcontent : Settings.HoldsText brokenSettings (brokenEnvironment.settingsPath none) [64] :=
    ⟨[64], Traversal.toOption_eq_some_iff.1 (by decide +kernel), by decide +kernel⟩
  have hread : Yaml.read (Text.unifyLineEnds [64]) = .error .malformed := by
    have hmalformed : (match Yaml.read (Text.unifyLineEnds [64]) with
        | .error .malformed => true
        | _ => false) = true := by decide +kernel
    split at hmalformed
    · assumption
    · simp at hmalformed
  have hload : (Settings.load brokenSettings brokenEnvironment none).outcome =
      .error (.configuration (.malformed (text "ner"))) := by
    rw [Settings.outcome_load_of_present hcontent.isPresent, hcontent.readDocument_eq, hread]
    rfl
  rw [start, Run.outcome_bind, hload]
  rfl

end Outcome

end EntityTagger.Service
