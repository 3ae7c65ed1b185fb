import EntityTagger.Number.Binary

/-!
Arithmetic of binary numbers: sums, differences, products and quotients are the exact results
rounded once; the exponential is rounded from a fixed-point value with far more bits than any format
keeps, each step of which is monotone.
-/

namespace EntityTagger

attribute [local instance] naturalPow

namespace Binary

variable {F : Format}

def negative : Binary F → Bool
  | .nan => false
  | .infinity sign => sign
  | .finite sign _ _ _ => sign

def neg : Binary F → Binary F
  | .nan => .nan
  | .infinity sign => .infinity (!sign)
  | .finite sign m e holds => .finite (!sign) m e holds

/-- The number of the format nearest to `count` units of its least exponent. -/
def ofUnits (F : Format) (count : Int) : Binary F :=
  F.round (count < 0) (count.natAbs * 2 ^ F.minExponent.toNat) (2 ^ (-F.minExponent).toNat)

def ofInt (F : Format) (n : Int) : Binary F := F.round (n < 0) n.natAbs 1

/-- The rounded sum; a sum that is exactly zero is negative only if both terms are. -/
def add : Binary F → Binary F → Binary F
  | .nan, _ => .nan
  | _, .nan => .nan
  | .infinity a, .infinity b => if a = b then .infinity a else .nan
  | .infinity a, _ => .infinity a
  | _, .infinity b => .infinity b
  | x, y =>
    let sum := x.units + y.units
    if sum = 0 then F.zero (x.negative && y.negative) else ofUnits F sum

def sub (x y : Binary F) : Binary F := x.add y.neg

def mul : Binary F → Binary F → Binary F
  | .nan, _ => .nan
  | _, .nan => .nan
  | .infinity a, y => if y.beqValue (F.zero false) then .nan else .infinity (a != y.negative)
  | x, .infinity b => if x.beqValue (F.zero false) then .nan else .infinity (x.negative != b)
  | .finite a m e _, .finite b n f _ =>
    F.round (a != b) (m * n * 2 ^ (e + f).toNat) (2 ^ (-(e + f)).toNat)

def div : Binary F → Binary F → Binary F
  | .nan, _ => .nan
  | _, .nan => .nan
  | .infinity _, .infinity _ => .nan
  | .infinity a, y => .infinity (a != y.negative)
  | x, .infinity b => F.zero (x.negative != b)
  | x, y =>
    let sign := x.negative != y.negative
    if y.units = 0 then if x.units = 0 then .nan else .infinity sign
    else F.round sign x.units.natAbs y.units.natAbs

end Binary

namespace Exponential

/-- Fractional bits of the fixed-point numbers. -/
def bits : Nat := 192

def one : Nat := 2 ^ bits

def mul (a b : Nat) : Nat := a * b / one

/-- The sum `1 + x/k + x²/(k(k+1)) + …` of as many terms as the last argument says. -/
def series (x : Nat) (k : Nat) : Nat → Nat
  | 0 => one
  | terms + 1 => one + mul x (series x (k + 1) terms) / k

def square (a : Nat) : Nat → Nat
  | 0 => a
  | n + 1 => square (mul a a) n

/-- The exponential of a fixed-point number: that of its 4096th part, squared twelve times. -/
def fixed (x : Nat) : Nat := square (series (x / 2 ^ (12 : Nat)) 1 40) 12

/-- Beyond this argument the exponential leaves every format, to either side. -/
def bound : Nat := 1200

end Exponential

def Binary.exp {F : Format} : Binary F → Binary F
  | .nan => .nan
  | .infinity sign => if sign then F.zero false else .infinity false
  | .finite sign m e _ =>
    let x := m * 2 ^ e.toNat * Exponential.one / 2 ^ (-e).toNat
    if Exponential.bound * Exponential.one ≤ x then
      if sign then F.zero false else .infinity false
    else if sign then F.round false Exponential.one (Exponential.fixed x)
    else F.round false (Exponential.fixed x) Exponential.one

end EntityTagger
