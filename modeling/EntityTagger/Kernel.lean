import EntityTagger.Number.Arithmetic

/-!
The arithmetic that scores are computed with. A kernel says how the numbers of a model's output are
compared and shifted, and how the scores made of the shifts are added, divided and compared; the
precision of the scores is the kernel's.
-/

namespace EntityTagger

structure Scale (α : Type) where
  isNaN : α → Bool
  lt : α → α → Bool

namespace Scale

variable {α : Type}

/-- The order in which what is not a number stands above all numbers. -/
def above (S : Scale α) (x y : α) : Bool := !S.isNaN y && (S.isNaN x || S.lt y x)

/-- The first greatest member of a list and its place, given the greatest one so far with its place
and the place of the next member. -/
def bestFrom (S : Scale α) (place : Nat) (top : α) (next : Nat) : List α → Nat × α
  | [] => (place, top)
  | x :: rest =>
    if S.above x top then S.bestFrom next x (next + 1) rest
    else S.bestFrom place top (next + 1) rest

def best? (S : Scale α) : List α → Option (Nat × α)
  | [] => none
  | x :: rest => some (S.bestFrom 0 x 1 rest)

end Scale

/-- The arithmetic of normalising: logits are shifted, the shifts exponentiated, and the results,
which are scores, divided by their sum. -/
structure Kernel where
  Logit : Type
  Shift : Type
  Score : Type
  logits : Scale Logit
  scores : Scale Score
  sub : Logit → Logit → Shift
  exp : Shift → Score
  zero : Score
  add : Score → Score → Score
  div : Score → Score → Score

namespace Binary

def scale (F : Format) : Scale (Binary F) := ⟨Binary.isNaN, Binary.lt⟩

end Binary

namespace Kernel

/-- Logits of the format `F`, brought to the format `G` of the scores before all else. -/
def floating (F G : Format) : Kernel where
  Logit := Binary F
  Shift := Binary G
  Score := Binary G
  logits := Binary.scale F
  scores := Binary.scale G
  sub x y := (x.convert G).sub (y.convert G)
  exp := Binary.exp
  zero := G.zero false
  add := Binary.add
  div := Binary.div

/-- Integer logits: the shift is a 64-bit difference, which wraps around; scores are single. -/
def integer : Kernel where
  Logit := Int64
  Shift := Int64
  Score := Binary .single
  logits := ⟨fun _ => false, fun x y => decide (x < y)⟩
  scores := Binary.scale .single
  sub x y := x - y
  exp x := (Binary.ofInt .single x.toInt).exp
  zero := Format.single.zero false
  add := Binary.add
  div := Binary.div

end Kernel

end EntityTagger
