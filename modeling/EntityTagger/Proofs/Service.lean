import EntityTagger.Proofs.Field
import EntityTagger.Proofs.Prediction
import EntityTagger.Proofs.Text.Order
import EntityTagger.Service

/-! Requests for the entities of texts: which requests they are, what the service does for them and
for all others, and which entities it can send. -/
namespace EntityTagger

theorem Entity.isFinite_of_ofFields {fields : Field.Record} {e : Entity}
    (h : ofFields fields = .ok e) : e.score.isFinite = true := by
  have hread := Traversal.mapError_eq_ok_iff.1 h
  simp only [Field.both_eq_ok_iff, Field.required_eq_ok_iff, Traversal.map_eq_ok_iff] at hread
  obtain ⟨_, label, ⟨_, score, ⟨word, -, rfl⟩, ⟨value, -, hscore⟩, rfl⟩, -, rfl⟩ := hread
  exact Field.isFinite_of_readFraction hscore

theorem Entity.isFinite_of_assemble {decode : ℤ → Text} {ids : Tensor ℤ}
    {candidates : List Candidate} {entities : List Entity}
    (h : assemble decode ids candidates = .ok entities) :
    ∀ e ∈ entities, e.score.isFinite = true := by
  intro e he
  obtain ⟨candidate, -, hcandidate⟩ := Traversal.exists_of_mem_mapM h he
  unfold ofCandidate at hcandidate
  split at hcandidate
  · simp at hcandidate
  · exact isFinite_of_ofFields hcandidate

theorem Tagger.isFinite_of_entities {t : Tagger} {texts : List Text} {entities : List Entity}
    (h : (t.entities texts).outcome = .ok entities) :
    ∀ e ∈ entities, e.score.isFinite = true := by
  rw [Tagger.entities, Run.outcome_bind] at h
  obtain ⟨⟨predictions, found⟩, hfound, hentities⟩ := Traversal.bind_eq_ok_iff.1 h
  obtain rfl := Except.ok.inj hentities
  rw [annotate, Run.outcome_bind] at hfound
  obtain ⟨batch, -, hbatch⟩ := Traversal.bind_eq_ok_iff.1 hfound
  by_cases hwidth : batch.ids.width = 0
  · simp only [hwidth, if_true, Run.outcome_bind, Run.outcome_log, Run.pure_outcome, Except.bind,
      Except.ok.injEq, Prod.mk.injEq] at hbatch
    obtain ⟨-, rfl⟩ := hbatch
    simp
  · simp only [hwidth, if_false, Run.outcome_bind, Run.outcome_report, Run.outcome_ofExcept,
      Run.pure_outcome, Traversal.bind_eq_ok_iff, Except.ok.injEq, Prod.mk.injEq] at hbatch
    obtain ⟨-, -, logits, -, decoded, -, assembled, hassemble, -, rfl⟩ := hbatch
    exact Entity.isFinite_of_assemble hassemble

theorem Annotation.mem_labels {entities : List Entity} {label : Text} :
    label ∈ (ofEntities entities).labels ↔ ∃ e ∈ entities, e.label = label := by
  show label ∈ sortedDistinct (entities.map (·.label)) ↔ _
  rw [mem_sortedDistinct, List.mem_map]

theorem Annotation.pairwise_labels (entities : List Entity) :
    (ofEntities entities).labels.Pairwise (List.Lex (· < ·)) := pairwise_lex_sortedDistinct _

/-- An entity that cannot be sent: its text or its label has no form in UTF-8. -/
def Entity.HasSurrogate (e : Entity) : Prop := ∃ c ∈ e.text ++ e.label, Text.isSurrogate c = true

namespace Service

variable {r : Request} {texts : List Text} {build : Run Tagger} {tagger : Option Tagger}
  {t : Tagger} {e : Error}

/-- A request for the entities of some texts, with a body that lists them. -/
structure IsExtract (r : Request) (texts : List Text) : Prop where
  path : Route.ofPath? r.path = some .extract
  method : r.method = Route.extract.method
  texts : r.texts = .ok texts

theorem Request.complaint?_eq_none_iff {item : Json} {place : ℕ} :
    complaint? item place = none ↔ ∃ s, item = .str s := by
  cases item <;> simp [complaint?]

theorem Request.ne_nil_of_textsOfList {items : List Json} (h : textsOfList items = .ok texts) :
    texts ≠ [] := by
  rw [textsOfList] at h
  split at h
  · next hnone =>
    split_ifs at h with hempty
    obtain rfl := Except.ok.inj h
    obtain ⟨item, hitem⟩ := List.exists_mem_of_ne_nil items (by simpa using hempty)
    obtain ⟨place, hplace⟩ := List.mem_iff_getElem?.1 hitem
    have hcomplaint : complaint? item place = none := by
      refine List.filterMap_eq_nil_iff.1 hnone (item, place) ?_
      exact List.mem_zipIdx_iff_getElem?.2 hplace
    obtain ⟨s, rfl⟩ := complaint?_eq_none_iff.1 hcomplaint
    exact List.ne_nil_of_mem (List.mem_filterMap.2 ⟨.str s, hitem, rfl⟩)
  · simp at h

theorem IsExtract.ne_nil (h : IsExtract r texts) : texts ≠ [] := by
  have htexts := h.texts
  rw [Request.texts] at htexts
  cases hvalue : r.value? with
  | error fault => simp [hvalue, bind, Except.bind] at htexts
  | ok value? =>
    simp only [hvalue, bind, Except.bind] at htexts
    split at htexts
    · simp at htexts
    · split at htexts
      · simp at htexts
      · exact Request.ne_nil_of_textsOfList htexts
      · simp at htexts
    · simp at htexts

theorem IsExtract.handle_eq (h : IsExtract r texts) (build : Run Tagger) (tagger : Option Tagger) :
    handle build tagger r = extractWith build tagger texts := by
  simp only [handle, h.path, h.method, h.texts, ne_eq, not_true_eq_false, if_false]

theorem handle_of_not_isExtract (h : ∀ texts, ¬ IsExtract r texts) :
    ∃ reply, ∀ build tagger, handle build tagger r = ⟨tagger, [], reply⟩ := by
  cases hpath : Route.ofPath? r.path with
  | none => exact ⟨.notFound, fun build tagger => by simp only [handle, hpath]⟩
  | some route =>
    by_cases hmethod : r.method = route.method
    · cases route with
      | health =>
        exact ⟨.healthy, fun build tagger => by
          simp only [handle, hpath, if_neg (not_not.2 hmethod)]⟩
      | extract =>
        cases htexts : r.texts with
        | ok texts => exact absurd ⟨hpath, hmethod, htexts⟩ (h texts)
        | error fault =>
          exact ⟨.ofFault fault, fun build tagger => by
            simp only [handle, hpath, if_neg (not_not.2 hmethod), htexts]⟩
    · exact ⟨.wrongMethod, fun build tagger => by simp only [handle, hpath, if_pos hmethod]⟩

theorem IsExtract.send_eq (h : IsExtract r texts) (reply : Reply) :
    send r reply = (reply.status, reply.body) := by
  have hmethod : r.method ≠ text "HEAD" := by
    rw [h.method]
    decide
  rw [send, if_neg hmethod]

theorem predict_eq_entities (hne : texts ≠ []) (t : Tagger) :
    t.predict (.list (texts.map .str)) = t.entities texts := by
  rw [Tagger.predict, Batch.textsOf_list hne, Run.bind_of_ok rfl]
  rfl

theorem extractWith_of_built (h : build.outcome = .ok t) (texts : List Text) :
    extractWith build none texts =
      ⟨some t, build.events ++ (extract t texts).1, (extract t texts).2⟩ := by
  simp only [extractWith, h]

/-! ### Replies with entities -/

theorem areSendable_iff {items : List Json} :
    areSendable items = true ↔ ∀ item ∈ items, isSendable item = true := by
  induction items with
  | nil => simp [areSendable]
  | cons item rest ih => simp [areSendable, ih]

theorem isSendable_ofEntity {e : Entity} (h : e.score.isFinite = true) :
    isSendable (Row.ofEntity e) = true ↔ ¬ e.HasSurrogate := by
  have hnames : (text "text").any Text.isSurrogate = false ∧
      (text "score").any Text.isSurrogate = false ∧
      (text "label").any Text.isSurrogate = false := by decide
  obtain ⟨htext, hscore, hlabel⟩ := hnames
  simp only [Row.ofEntity, isSendable, areSendableMembers, htext, hscore, hlabel, h, Bool.not_false,
    Bool.true_and, Bool.and_true, Bool.and_eq_true, Bool.not_eq_true', Entity.HasSurrogate,
    List.mem_append, List.any_eq_false]
  constructor
  · rintro ⟨hword, hname⟩ ⟨c, hc | hc, hsurrogate⟩
    · exact hword c hc hsurrogate
    · exact hname c hc hsurrogate
  · intro hnone
    exact ⟨fun c hc hsurrogate => hnone ⟨c, Or.inl hc, hsurrogate⟩,
      fun c hc hsurrogate => hnone ⟨c, Or.inr hc, hsurrogate⟩⟩

theorem areSendable_ofEntity {entities : List Entity}
    (h : ∀ e ∈ entities, e.score.isFinite = true) :
    areSendable (entities.map Row.ofEntity) = true ↔ ∀ e ∈ entities, ¬ e.HasSurrogate := by
  rw [areSendable_iff, List.forall_mem_map]
  exact forall₂_congr fun e he => isSendable_ofEntity (h e he)

theorem ofEntities_of_sendable {entities : List Entity}
    (hfinite : ∀ e ∈ entities, e.score.isFinite = true)
    (hsendable : ∀ e ∈ entities, ¬ e.HasSurrogate) :
    Reply.ofEntities entities = .extracted (.ofEntities entities) :=
  if_pos ((areSendable_ofEntity hfinite).2 hsendable)

theorem ofEntities_of_hasSurrogate {entities : List Entity} {e : Entity}
    (hfinite : ∀ e ∈ entities, e.score.isFinite = true) (he : e ∈ entities)
    (hsurrogate : e.HasSurrogate) : Reply.ofEntities entities = .crashed :=
  if_neg fun hsendable => (areSendable_ofEntity hfinite).1 hsendable e he hsurrogate

end Service

end EntityTagger
