import EntityTagger.Text

/-!
Binary floating-point numbers as data: a sign, a significand and an exponent, or an infinity, or not
a number. Rounding is done on exact ratios, to nearest with ties to the even significand.
-/

namespace EntityTagger

/-- Powers of natural numbers are meant wherever a power is written. -/
abbrev naturalPow : Pow Nat Nat := instPowNat

attribute [local instance] naturalPow

/-- A binary format: significands below `2 ^ precision`, exponents of their unit between
`minExponent` and `maxExponent`. -/
structure Format where
  precision : Nat
  minExponent : Int
  maxExponent : Int
deriving DecidableEq, Repr

namespace Format

def half : Format := ⟨11, -24, 5⟩
def brain : Format := ⟨8, -133, 120⟩
def single : Format := ⟨24, -149, 104⟩
def double : Format := ⟨53, -1074, 971⟩

/-- The one way to write a number of the format: the significand is as long as the precision, or
the exponent is the least. -/
def Holds (F : Format) (significand : Nat) (exponent : Int) : Prop :=
  significand < 2 ^ F.precision ∧ F.minExponent ≤ exponent ∧ exponent ≤ F.maxExponent ∧
    (2 ^ (F.precision - 1) ≤ significand ∨ exponent = F.minExponent)

instance (F : Format) (m : Nat) (e : Int) : Decidable (F.Holds m e) := by
  unfold Holds; infer_instance

end Format

inductive Binary (F : Format)
  | nan
  | infinity (negative : Bool)
  | finite (negative : Bool) (significand : Nat) (exponent : Int)
      (holds : F.Holds significand exponent)
deriving DecidableEq, Repr

abbrev Double := Binary .double

/-- The integer nearest to `num / den`; a tie goes to the even one. -/
def roundDiv (num den : Nat) : Nat :=
  let q := num / den
  let r := num % den
  if 2 * r < den then q
  else if den < 2 * r then q + 1
  else if q % 2 = 0 then q else q + 1

/-- The greatest `k` with `2 ^ k ≤ num / den`, for positive `num` and `den`. -/
def log2Ratio (num den : Nat) : Int :=
  let k : Int := (num.log2 : Int) - den.log2
  if den * 2 ^ k.toNat ≤ num * 2 ^ (-k).toNat then k else k - 1

namespace Format

/-- The number with the given parts; a significand or exponent too great for the format
overflows. -/
def pack (F : Format) (negative : Bool) (significand : Nat) (exponent : Int) : Binary F :=
  if h : F.Holds significand exponent then .finite negative significand exponent h
  else .infinity negative

def zero (F : Format) (negative : Bool) : Binary F := F.pack negative 0 F.minExponent

/-- The number of the format nearest to `num / den`. -/
def round (F : Format) (negative : Bool) (num den : Nat) : Binary F :=
  if num = 0 then F.zero negative
  else
    let e := max F.minExponent (log2Ratio num den - (F.precision - 1))
    let m := roundDiv (num * 2 ^ (-e).toNat) (den * 2 ^ e.toNat)
    if m = 2 ^ F.precision then F.pack negative (m / 2) (e + 1) else F.pack negative m e

end Format

namespace Binary

variable {F : Format}

def isNaN : Binary F → Bool
  | .nan => true
  | _ => false

def isFinite : Binary F → Bool
  | .finite .. => true
  | _ => false

/-- The value of a finite number in units of the format's least exponent. -/
def units : Binary F → Int
  | .finite negative m e _ =>
    let size : Int := (m * 2 ^ (e - F.minExponent).toNat : Nat)
    if negative then -size else size
  | _ => 0

/-- Equality of values: not a number differs from everything, the two zeros are one value. -/
def beqValue : Binary F → Binary F → Bool
  | .nan, _ => false
  | _, .nan => false
  | .infinity a, .infinity b => a == b
  | .infinity _, _ => false
  | _, .infinity _ => false
  | x, y => x.units == y.units

def lt : Binary F → Binary F → Bool
  | .nan, _ => false
  | _, .nan => false
  | .infinity a, .infinity b => a && !b
  | .infinity a, _ => a
  | _, .infinity b => !b
  | x, y => x.units < y.units

def le (x y : Binary F) : Bool := x.lt y || x.beqValue y

def convert (G : Format) : Binary F → Binary G
  | .nan => .nan
  | .infinity negative => .infinity negative
  | .finite negative m e _ => G.round negative (m * 2 ^ e.toNat) (2 ^ (-e).toNat)

def truncate? : Binary F → Option Int
  | .finite negative m e _ =>
    let size : Int := (m * 2 ^ e.toNat / 2 ^ (-e).toNat : Nat)
    some (if negative then -size else size)
  | _ => none

def integer? (x : Binary F) : Option Int :=
  match x with
  | .finite _ m e _ => if m * 2 ^ e.toNat % 2 ^ (-e).toNat = 0 then x.truncate? else none
  | _ => none

end Binary

namespace Double

def ofInt (n : Int) : Double := Format.double.round (n < 0) n.natAbs 1

/-- The nearest double to `digits · 10 ^ exponent`. The two bounds keep the power of ten small:
beyond them every number overflows, or rounds to zero. -/
def ofDecimal (negative : Bool) (digits : Nat) (exponent : Int) : Double :=
  let size := (Nat.toDigits 10 digits).length + exponent
  if digits = 0 ∨ size < -400 then Format.double.zero negative
  else if 400 < size then .infinity negative
  else Format.double.round negative (digits * 10 ^ exponent.toNat) (10 ^ (-exponent).toNat)

end Double

end EntityTagger
