import EntityTagger.Kernel

/-!
Types of the numbers that a model puts out, with the arithmetic in which their scores are computed.
-/

namespace EntityTagger

inductive ElementType
  | half
  | brain
  | single
  | double
  | integer
deriving DecidableEq, Repr

namespace ElementType

/-- Scores are single, except for double logits. -/
def kernel : ElementType → Kernel
  | half => .floating .half .single
  | brain => .floating .brain .single
  | single => .floating .single .single
  | double => .floating .double .double
  | integer => .integer

/-- A score as a double, which holds it exactly. -/
def measure : (e : ElementType) → e.kernel.Score → Double
  | half, (x : Binary .single) => x.convert .double
  | brain, (x : Binary .single) => x.convert .double
  | single, (x : Binary .single) => x.convert .double
  | double, (x : Double) => x
  | integer, (x : Binary .single) => x.convert .double

end ElementType

end EntityTagger
