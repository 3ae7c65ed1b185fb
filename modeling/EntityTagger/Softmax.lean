import EntityTagger.Error
import EntityTagger.Kernel
import EntityTagger.Tensor

/-!
Softmax on whole arrays: from every logit the greatest one along the axis is taken, and the
exponentials of what is left are divided by their sums along the axis. Greatest logits and sums keep
the axis with size 1, along which they are spread over the array again.
-/

namespace EntityTagger.Softmax

/-- The axis that a possibly negative number names: it counts from the end. A single cell without
axes counts as having one. -/
def axis? (rank : Nat) (dim : Int) : Option Nat :=
  let axes : Int := max rank 1
  if 0 ≤ dim ∧ dim < axes then some dim.toNat
  else if -axes ≤ dim ∧ dim < 0 then some (dim + axes).toNat
  else none

/-- The greatest logits along an axis, which are not numbers where one of the logits is none; an
empty axis has no greatest ones. -/
def tops? (K : Kernel) (axis : Nat) (t : Tensor K.Logit) : Option (Tensor K.Logit) :=
  if t.shape[axis]? = some 0 then none
  else (t.reduce (fun slice => (K.logits.best? slice).map (·.2)) axis).values?

/-- The scores along an axis; `none` if there is no such axis or it is empty. -/
def along? (K : Kernel) (dim : Int) (t : Tensor K.Logit) : Option (Tensor K.Score) := do
  let axis ← axis? t.rank dim
  let tops ← tops? K axis t
  let shifted ← Tensor.combine? K.sub t tops
  let weights := shifted.map K.exp
  let totals := weights.reduce (·.foldl K.add K.zero) axis
  Tensor.combine? K.div weights totals

def along (K : Kernel) (dim : Int) (t : Tensor K.Logit) : Except Error (Tensor K.Score) :=
  match along? K dim t with
  | none => .error (.misuse .outOfRange)
  | some scores => .ok scores

end EntityTagger.Softmax
