import EntityTagger.Proofs.Scattering
import EntityTagger.Proofs.Traversal
import EntityTagger.Stage
import Mathlib.Data.Int.Notation

/-! How reading and tagging can fail: tagging only for its texts, for labels, and where something
has no meaning; and a form in UTF-8 is only missed where rows are written. -/
namespace EntityTagger

/-- Every failure is an allowed one. -/
def FailsWith {ε α : Type} (allowed : ε → Prop) (x : Except ε α) : Prop :=
  ∀ e, x = .error e → allowed e

namespace FailsWith

variable {ε ε' α β : Type} {allowed : ε → Prop} {x : Except ε α}

theorem ok (a : α) : FailsWith allowed (.ok a) := by
  intro e he
  simp at he

theorem error {e : ε} (h : allowed e) : FailsWith allowed (.error e : Except ε α) := by
  intro e' he
  obtain rfl := Except.error.inj he
  exact h

theorem mono {other : ε → Prop} (hx : FailsWith allowed x) (h : ∀ e, allowed e → other e) :
    FailsWith other x := by
  intro e he
  exact h e (hx e he)

theorem bind {f : α → Except ε β} (hx : FailsWith allowed x)
    (hf : ∀ a, FailsWith allowed (f a)) : FailsWith allowed (x.bind f) := by
  cases x with
  | ok a => exact hf a
  | error e => exact error (hx e rfl)

theorem map {f : α → β} (hx : FailsWith allowed x) : FailsWith allowed (x.map f) := by
  intro e he
  exact hx e (Traversal.map_eq_error_iff.1 he)

theorem mapError {f : ε' → ε} (x : Except ε' α) (h : ∀ e, allowed (f e)) :
    FailsWith allowed (x.mapError f) := by
  cases x with
  | ok a => exact ok a
  | error e => exact error (h e)

theorem mapM {f : β → Except ε α} {items : List β} (h : ∀ y ∈ items, FailsWith allowed (f y)) :
    FailsWith allowed (items.mapM f) := by
  intro e he
  obtain ⟨before, y, after, rfl, -, hy⟩ := Traversal.mapM_eq_error_iff.1 he
  exact h y (by simp) e hy

end FailsWith

/-- Where a text has no form in UTF-8, if that is what went wrong. -/
def Error.encodingFault? : Error → Option Utf8.EncodeError
  | .encoding fault => some fault
  | _ => none

def Error.NotEncoding (e : Error) : Prop := e.encodingFault? = none

theorem Error.encodingFault?_eq_some_iff {e : Error} {fault : Utf8.EncodeError} :
    e.encodingFault? = some fault ↔ e = .encoding fault := by
  cases e <;> simp [encodingFault?]

theorem Error.notEncoding_iff {e : Error} : e.NotEncoding ↔ ∀ fault, e ≠ .encoding fault := by
  simp only [NotEncoding, Option.eq_none_iff_forall_ne_some, ne_eq, encodingFault?_eq_some_iff]

/-- The kinds of errors that tagging ends with: what is wrong with the texts, a label that is not
mapped, an entity that is none, and what has no meaning. -/
def Error.IsOfTagging : Error → Prop
  | .input _ | .configuration _ | .invalid _ | .misuse _ => True
  | _ => False

theorem Error.IsOfTagging.notEncoding {e : Error} (h : e.IsOfTagging) : e.NotEncoding := by
  cases e with
  | encoding fault => exact h.elim
  | _ => rfl

open Error

theorem Batch.failsWith_build (tokenizer : Tokenizer) (texts : List Text) (maxLength filler : ℤ) :
    FailsWith IsOfTagging (build tokenizer texts maxLength filler).outcome := by
  have hpad : ∀ sequences, FailsWith IsOfTagging (pad sequences filler) := by
    intro sequences
    unfold pad
    split
    · exact .error trivial
    · dsimp only
      split
      · exact .ok _
      · exact .error trivial
  simp only [build, Run.outcome_bind, Run.outcome_report, Run.outcome_ofExcept, Run.pure_outcome]
  exact (FailsWith.ok ()).bind fun _ => (hpad _).bind fun _ => .ok _

namespace Decoder

theorem failsWith_scores (K : Kernel) (logits : Tensor K.Logit) :
    FailsWith IsOfTagging (scores K logits) := by
  unfold scores
  split
  · exact .error trivial
  · unfold Softmax.along
    split
    · exact .error trivial
    · exact .ok _

theorem failsWith_kept (shape : List ℕ) (mask : Option (Tensor Bool)) :
    FailsWith IsOfTagging (kept shape mask) := by
  unfold kept
  dsimp only
  split
  · exact .ok _
  · split
    · exact .ok _
    · exact .error trivial

theorem failsWith_name {σ : Type} (labels : LabelMapping) (cells : List (Cell σ)) :
    FailsWith IsOfTagging (name labels cells) := by
  induction cells with
  | nil => exact .ok _
  | cons cell rest ih =>
    rw [name]
    cases hlabel : labels.lookup cell.best with
    | ok label => exact ih.map
    | error e =>
      rw [LabelMapping.lookup] at hlabel
      split at hlabel
      · simp at hlabel
      · obtain rfl := Except.error.inj hlabel
        exact .error trivial

theorem failsWith_decode (K : Kernel) (labels : LabelMapping) (logits : Tensor K.Logit)
    (mask : Option (Tensor Bool)) : FailsWith IsOfTagging (decode K labels logits mask) :=
  (failsWith_scores K logits).bind fun scores =>
    (failsWith_kept scores.shape mask).bind fun _ => failsWith_name labels _

end Decoder

namespace Entity

theorem failsWith_assemble (decode : ℤ → Text) (ids : Tensor ℤ) (candidates : List Candidate) :
    FailsWith IsOfTagging (assemble decode ids candidates) := by
  refine .mapM fun candidate _ => ?_
  unfold ofCandidate
  split
  · exact .error trivial
  · exact .mapError _ fun _ => trivial

theorem failsWith_group {α : Type} (indices : List ℤ) (items : List α) (count : ℕ) :
    FailsWith IsOfTagging (group indices items count) := by
  intro e he
  obtain ⟨rfl, -⟩ := group_eq_error_iff.1 he
  exact trivial

end Entity

def Model.NotEncoding (model : Model) : Prop :=
  ∀ ids, FailsWith Error.NotEncoding (model.logits ids)

theorem Model.failsWith_spread {α : Type} (logits : ℤ → List α) (rows : List (List ℤ))
    (shape : List ℕ) : FailsWith IsOfTagging (spread logits rows shape) := by
  unfold spread
  dsimp only
  split
  · split
    · exact .ok _
    · exact .error trivial
  · exact .error trivial

theorem Model.notEncoding_table (elements : ElementType) (default : List elements.kernel.Logit)
    (rows : List (ℤ × List elements.kernel.Logit)) (isFlat isMovable : Bool) :
    (table elements default rows isFlat isMovable).NotEncoding := by
  intro ids
  cases isFlat with
  | true => exact (failsWith_spread _ _ _).mono fun _ => IsOfTagging.notEncoding
  | false => exact (failsWith_spread _ _ _).mono fun _ => IsOfTagging.notEncoding

namespace Tagger

variable {t : Tagger} {allowed : Error → Prop}

/-- Beside the errors of its own, tagging only ends with those of the model. -/
theorem failsWith_annotate (hmodel : ∀ ids, FailsWith allowed (t.model.logits ids))
    (hallowed : ∀ e, e.IsOfTagging → allowed e) (texts : List Text) :
    FailsWith allowed (t.annotate texts).outcome := by
  rw [annotate, Run.outcome_bind]
  refine ((Batch.failsWith_build _ _ _ _).mono hallowed).bind fun batch => ?_
  by_cases hwidth : batch.ids.width = 0
  · simp only [hwidth, if_true, Run.outcome_bind, Run.outcome_log, Run.pure_outcome]
    exact .ok _
  · simp only [hwidth, if_false, Run.outcome_bind, Run.outcome_report, Run.outcome_ofExcept,
      Run.pure_outcome]
    exact (FailsWith.ok ()).bind fun _ => (hmodel batch.ids).bind fun _ =>
      ((Decoder.failsWith_decode _ _ _ _).mono hallowed).bind fun _ =>
        ((Entity.failsWith_assemble _ _ _).mono hallowed).bind fun _ => .ok _

theorem failsWith_entities (hmodel : ∀ ids, FailsWith allowed (t.model.logits ids))
    (hallowed : ∀ e, e.IsOfTagging → allowed e) (texts : List Text) :
    FailsWith allowed (t.entities texts).outcome := by
  rw [entities, Run.outcome_bind]
  exact (failsWith_annotate hmodel hallowed texts).bind fun _ => .ok _

theorem failsWith_entitiesPerText (h : t.model.NotEncoding) (texts : List Text) :
    FailsWith NotEncoding (t.entitiesPerText texts).outcome := by
  rw [entitiesPerText, Run.outcome_bind]
  exact (failsWith_annotate h (fun _ => IsOfTagging.notEncoding) texts).bind fun _ =>
    (Entity.failsWith_group _ _ _).mono fun _ => IsOfTagging.notEncoding

end Tagger

theorem Row.failsWith_ofLines (lines : List Text) : FailsWith NotEncoding (ofLines lines) := by
  refine .mapM fun line _ => ?_
  split
  · exact .ok _
  · exact .error rfl
  · exact .error rfl

theorem Row.failsWith_ofBytes (bytes : List UInt8) : FailsWith NotEncoding (ofBytes bytes) := by
  unfold ofBytes
  split
  · exact failsWith_ofLines _
  · exact (failsWith_ofLines _).bind fun _ => .error rfl

namespace Stage

variable {t : Tagger}

theorem failsWith_tagBatches (h : t.model.NotEncoding) (batches : List (List Text)) :
    FailsWith NotEncoding (tagBatches t batches).outcome := by
  induction batches with
  | nil => exact .ok _
  | cons batch rest ih =>
    simp only [tagBatches, Run.outcome_bind, Run.pure_outcome]
    exact (Tagger.failsWith_entitiesPerText h batch).bind fun _ => ih.bind fun _ => .ok _

theorem failsWith_annotated (h : t.model.NotEncoding) (fs : FileSystem) (input : Path)
    (batchSize : ℤ) : FailsWith NotEncoding (annotated t fs input batchSize).outcome := by
  have hbytes : FailsWith NotEncoding ((fs.readBytes input).mapError .file) :=
    .mapError _ fun _ => rfl
  have hbatches : ∀ texts : List Text, FailsWith NotEncoding (batches batchSize texts) := by
    intro texts
    unfold batches
    split
    · exact .error rfl
    · exact .ok _
  simp only [annotated, Run.outcome_bind, Run.outcome_ofExcept, Run.pure_outcome]
  exact hbytes.bind fun _ => (Row.failsWith_ofBytes _).bind fun _ =>
    (hbatches _).bind fun _ => (failsWith_tagBatches h _).bind fun _ => .ok _

end Stage

end EntityTagger
