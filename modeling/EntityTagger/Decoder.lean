import EntityTagger.Label
import EntityTagger.Softmax

/-!
Decoding: from the logits of every cell to the label of the greatest score. Cells under a zero of
the mask and cells whose best label is the one for no entity give nothing; the others give a
prediction each, batch by batch and from left to right.
-/

namespace EntityTagger

structure Prediction (σ : Type) where
  batch : Nat
  position : Nat
  label : Text
  score : σ
deriving DecidableEq, Repr

def Prediction.map {σ τ : Type} (f : σ → τ) (p : Prediction σ) : Prediction τ :=
  ⟨p.batch, p.position, p.label, f p.score⟩

namespace Decoder

/-- The scores of logits with three axes: batch, position and label. -/
def scores (K : Kernel) (logits : Tensor K.Logit) : Except Error (Tensor K.Score) :=
  if logits.rank ≠ 3 then .error (.input (.logitsRank logits.shape))
  else Softmax.along K (-1) logits

/-- A cell with its place, the first of its labels with the greatest score, and that score. -/
structure Cell (σ : Type) where
  batch : Nat
  position : Nat
  best : Nat
  score : σ

def cells (K : Kernel) (scores : Tensor K.Score) : List (Cell K.Score) :=
  match scores.shape with
  | [batches, positions, labels] =>
    (Tensor.rows labels (batches * positions) scores.cells).zipIdx.filterMap fun (slice, place) =>
      (K.scores.best? slice).map fun (best, score) =>
        ⟨place / positions, place % positions, best, score⟩
  | _ => []

/-- Whether each cell is kept by a mask of any shape that spreads over the cells. -/
def kept (scores : List Nat) (mask : Option (Tensor Bool)) : Except Error (List Bool) :=
  let shape := scores.take 2
  match mask with
  | none => .ok (List.replicate (Tensor.size shape) true)
  | some mask =>
    match mask.broadcastTo? shape with
    | some spread => .ok spread.cells
    | none => .error (.misuse .mismatch)

def name {σ : Type} (labels : LabelMapping) : List (Cell σ) → Except Error (List (Prediction σ))
  | [] => .ok []
  | cell :: rest =>
    match labels.lookup cell.best with
    | .error e => .error e
    | .ok label =>
      (name labels rest).map (⟨cell.batch, cell.position, label, cell.score⟩ :: ·)

/-- The predictions for an array of logits. A label that is not mapped stops the whole decoding. -/
def decode (K : Kernel) (labels : LabelMapping) (logits : Tensor K.Logit)
    (mask : Option (Tensor Bool)) : Except Error (List (Prediction K.Score)) := do
  let scores ← scores K logits
  let kept ← kept scores.shape mask
  let chosen := ((cells K scores).zip kept).filter fun (cell, keep) =>
    keep && cell.best != LabelMapping.nonEntity
  name labels (chosen.map (·.1))

end Decoder

end EntityTagger
