import EntityTagger.Decoder
import EntityTagger.Device
import EntityTagger.Entity
import EntityTagger.Model
import EntityTagger.Run

/-!
Taggers: a tokenizer, a model and a label mapping on a device. Texts are made into one batch, the
model's logits decoded into predictions, and these assembled into entities.
-/

namespace EntityTagger

structure Tagger where
  tokenizer : Tokenizer
  model : Model
  labels : LabelMapping
  device : Device
  maxLength : Int

namespace Tagger

/-- Builds a tagger on a device. The labels are read first, then the model is moved to the
device. -/
def buildOn (device : Device) (tokenizer : Tokenizer) (model : Model)
    (labels : List (Value × Value)) (maxLength : Int) : Except Error Tagger := do
  let labels ← LabelMapping.ofEntries labels
  if model.isMovable then pure ⟨tokenizer, model, labels, device, maxLength⟩
  else .error (.resource ⟨.device, none, .cannotMove device.toText⟩)

/-- Builds a tagger on the device that is asked for, on a machine with the given number of CUDA
devices. -/
def build (cudaDevices : Nat) (device : Value) (tokenizer : Tokenizer) (model : Model)
    (labels : List (Value × Value)) (maxLength : Int) : Except Error Tagger := do
  buildOn (← Device.resolve cudaDevices device) tokenizer model labels maxLength

def candidate (p : Prediction Double) : Candidate :=
  ⟨p.batch, p.position, .str p.label, .float p.score⟩

/-- The predictions for some texts, and the entities that they are. A batch without tokens never
reaches the model. -/
def annotate (t : Tagger) (texts : List Text) : Run (List (Prediction Double) × List Entity) := do
  let batch ← Batch.build t.tokenizer texts t.maxLength Batch.padding
  if batch.ids.width = 0 then
    Run.log .warning .pipeline (text "All " ++ Text.ofNat texts.length ++
      text " input(s) tokenized to zero tokens; no entities")
    pure ([], [])
  else
    Run.report (.modelCall batch.ids.rows batch.attention.rows)
    let logits ← Run.ofExcept (t.model.logits batch.ids)
    let mask := (batch.attention.map (· != 0)).toTensor
    let predictions ← Run.ofExcept (Decoder.decode t.model.elements.kernel t.labels logits mask)
    let predictions := predictions.map (·.map t.model.elements.measure)
    let entities ← Run.ofExcept
      (Entity.assemble t.tokenizer.decode batch.ids.toTensor (predictions.map candidate))
    pure (predictions, entities)

/-- The entities of some texts, text by text and from left to right. -/
def entities (t : Tagger) (texts : List Text) : Run (List Entity) := do
  let (_, entities) ← t.annotate texts
  pure entities

/-- The entities of each text. -/
def entitiesPerText (t : Tagger) (texts : List Text) : Run (List (List Entity)) := do
  let (predictions, entities) ← t.annotate texts
  Run.ofExcept (Entity.group (predictions.map fun p => (p.batch : Int)) entities texts.length)

/-- The entities of the texts that a value lists. -/
def predict (t : Tagger) (texts : Value) : Run (List Entity) := do
  t.entities (← Run.ofExcept (Batch.textsOf texts))

/-- The entities of each of the texts that a value lists. -/
def predictPerInput (t : Tagger) (texts : Value) : Run (List (List Entity)) := do
  t.entitiesPerText (← Run.ofExcept (Batch.textsOf texts))

def encode (t : Tagger) (texts : List Text) : Run (List (List Int)) := do
  Run.report (.tokenized texts t.maxLength)
  pure (t.tokenizer.encode texts t.maxLength)

end Tagger

end EntityTagger
