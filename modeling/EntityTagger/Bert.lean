import EntityTagger.Checkpoint
import EntityTagger.Error
import EntityTagger.Model

/-!
BERT models for the classification of tokens: their sizes, the parameters that these call for, and
loading them from a checkpoint. All weights but the bias of the classifier are zero, so that the
logits of every token are that bias.
-/

namespace EntityTagger

structure Bert where
  vocabulary : Nat
  hidden : Nat
  layers : Nat
  heads : Nat
  intermediate : Nat
  positions : Nat
  labels : Nat
deriving DecidableEq, Repr

namespace Bert

def sizeOf (configuration : List (Value × Value)) (name : String) (default : Nat) :
    Except Misuse Nat :=
  match Value.entry? (text name) configuration with
  | none => .ok default
  | some (.int n) => if 0 ≤ n then .ok n.toNat else .error .mismatch
  | some _ => .error .wrongType

/-- The model that a configuration describes, with the given number of labels. The heads share the
hidden units evenly. -/
def ofConfiguration (configuration : List (Value × Value)) (labels : Nat) :
    Except Misuse Bert := do
  let size := sizeOf configuration
  let model : Bert := ⟨← size "vocab_size" 30522, ← size "hidden_size" 768,
    ← size "num_hidden_layers" 12, ← size "num_attention_heads" 12,
    ← size "intermediate_size" 3072, ← size "max_position_embeddings" 512, labels⟩
  if 0 < model.layers ∧ model.hidden % model.heads ≠ 0 then .error .badValue else pure model

def problemTypes : List Text :=
  [text "regression", text "single_label_classification", text "multi_label_classification"]

def hasKnownProblem (configuration : List (Value × Value)) : Bool :=
  match Value.entry? (text "problem_type") configuration with
  | none => true
  | some .none => true
  | some (.str name) => problemTypes.contains name
  | some _ => false

abbrev Parameter := Text × List Nat

def linear (name : Text) (height width : Nat) : List Parameter :=
  [(name ++ text ".weight", [height, width]), (name ++ text ".bias", [height])]

def normalisation (name : Text) (width : Nat) : List Parameter :=
  [(name ++ text ".weight", [width]), (name ++ text ".bias", [width])]

def layerParameters (b : Bert) (layer : Nat) : List Parameter :=
  let start := text "bert.encoder.layer." ++ Text.ofNat layer ++ text "."
  let name (t : String) : Text := start ++ text t
  linear (name "attention.self.query") b.hidden b.hidden ++
    linear (name "attention.self.key") b.hidden b.hidden ++
    linear (name "attention.self.value") b.hidden b.hidden ++
    linear (name "attention.output.dense") b.hidden b.hidden ++
    normalisation (name "attention.output.LayerNorm") b.hidden ++
    linear (name "intermediate.dense") b.intermediate b.hidden ++
    linear (name "output.dense") b.hidden b.intermediate ++
    normalisation (name "output.LayerNorm") b.hidden

def biasName : Text := text "classifier.bias"

def parameters (b : Bert) : List Parameter :=
  [(text "bert.embeddings.word_embeddings.weight", [b.vocabulary, b.hidden]),
    (text "bert.embeddings.position_embeddings.weight", [b.positions, b.hidden]),
    (text "bert.embeddings.token_type_embeddings.weight", [2, b.hidden])] ++
    normalisation (text "bert.embeddings.LayerNorm") b.hidden ++
    (List.range b.layers).flatMap b.layerParameters ++
    [(text "classifier.weight", [b.labels, b.hidden]), (biasName, [b.labels])]

/-- Whether every parameter that a checkpoint holds has the shape that the model calls for. -/
def fits (b : Bert) (checkpoint : Checkpoint) : Bool :=
  b.parameters.all fun (name, shape) =>
    match Association.get? name checkpoint.parameters with
    | none => true
    | some held => held = shape

def missing (b : Bert) (checkpoint : Checkpoint) : List Text :=
  (b.parameters.map (·.1)).filter fun name =>
    (Association.get? name checkpoint.parameters).isNone

/-- The model with the parameters of a checkpoint. A text may not have more tokens than there are
positions, unless there is but one, which then serves all; every token has to be in the
vocabulary. -/
def model (b : Bert) (checkpoint : Checkpoint) : Model where
  elements := .single
  isMovable := true
  logits ids :=
    if b.positions < ids.width ∧ b.positions ≠ 1 then .error (.misuse .mismatch)
    else if ids.rows.all (·.all fun id => 0 ≤ id && id < b.vocabulary) then
      Model.spread (fun _ => checkpoint.bias) ids.rows [ids.rows.length, ids.width]
    else .error (.misuse .outOfRange)

def load (b : Bert) (checkpoint : Checkpoint) : Except ResourceFault Model :=
  if !b.fits checkpoint then .error .incompatible
  else match b.missing checkpoint with
    | [] => .ok (b.model checkpoint)
    | names => .error (.parametersMissing names)

end Bert

end EntityTagger
