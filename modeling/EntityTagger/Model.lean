import EntityTagger.Association
import EntityTagger.Batch
import EntityTagger.ElementType

/-!
Models: what computes logits for a rectangle of token ids.
-/

namespace EntityTagger

structure Model where
  elements : ElementType
  /-- Whether it can be moved to a device. -/
  isMovable : Bool
  logits : Rectangle Int → Except Error (Tensor elements.kernel.Logit)

namespace Model

/-- The array of the logits of each cell, which have to be equally many. -/
def spread {α : Type} (logits : Int → List α) (rows : List (List Int)) (shape : List Nat) :
    Except Error (Tensor α) :=
  let slices := rows.flatten.map logits
  let labels := (slices.head?.map List.length).getD 0
  if slices.all (·.length == labels) then
    match Tensor.ofCells? (shape ++ [labels]) slices.flatten with
    | some t => .ok t
    | none => .error (.misuse .badValue)
  else .error (.misuse .badValue)

/-- The model that looks the logits of a cell up by its token id. With `isFlat` it puts out the
logits of the first text alone, without the axis of the texts. -/
def table (elements : ElementType) (default : List elements.kernel.Logit)
    (rows : List (Int × List elements.kernel.Logit)) (isFlat isMovable : Bool) : Model where
  elements := elements
  isMovable := isMovable
  logits ids :=
    let lookup (id : Int) := (Association.get? id rows).getD default
    if isFlat then spread lookup (ids.rows.take 1) [ids.width]
    else spread lookup ids.rows [ids.rows.length, ids.width]

end Model

end EntityTagger
