import EntityTagger.Number.Binary
import EntityTagger.Text

/-!
Checkpoints: the parameters that a file of weights holds, by name and shape. Of the values only the
bias of the classifier is kept; all other parameters are zero.
-/

namespace EntityTagger

structure Checkpoint where
  parameters : List (Text × List Nat)
  bias : List (Binary .single)
deriving DecidableEq, Repr

end EntityTagger
