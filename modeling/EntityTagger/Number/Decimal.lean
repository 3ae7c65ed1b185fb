import EntityTagger.Number.Binary

/-!
Decimal texts of binary numbers: the shortest one that reads back as the same number, and the one
with a fixed number of places.
-/

namespace EntityTagger.Decimal

attribute [local instance] naturalPow

/-- The decimal number `digits · 10 ^ exponent`. -/
structure Digits where
  digits : Nat
  exponent : Int
deriving DecidableEq, Repr

/-- The reals that round to a positive finite number, in quarters of its unit: both ends belong to
them exactly when the significand is even. Below a power of two the numbers lie twice as close. -/
structure Interval where
  low : Nat
  high : Nat
  closed : Bool
deriving DecidableEq, Repr

def interval (F : Format) (m : Nat) (e : Int) : Interval :=
  let gap := if m = 2 ^ (F.precision - 1) ∧ F.minExponent < e then 1 else 2
  ⟨4 * m - gap, 4 * m + 2, m % 2 = 0⟩

/-- Whether `n · 10 ^ k` lies in an interval whose quarters are `num / den`. -/
def Interval.holds (I : Interval) (num den n : Nat) (k : Int) : Bool :=
  let point := n * 10 ^ k.toNat * den
  let low := I.low * num * 10 ^ (-k).toNat
  let high := I.high * num * 10 ^ (-k).toNat
  if I.closed then low ≤ point && point ≤ high else low < point && point < high

/-- The number of digits before the point of `num / den`, for positive `num` and `den`; zero or
less below 1. -/
def magnitude (num den : Nat) : Int :=
  let guess := log2Ratio num den * 30103 / 100000
  let fits (d : Int) : Bool := num * 10 ^ (-d).toNat < den * 10 ^ d.toNat
  if fits guess then guess
  else if fits (guess + 1) then guess + 1
  else guess + 2

/-- The two neighbours of `m · 2 ^ e` on the grid of `10 ^ k`: the one that reads back, the nearer
one if both do, the even one on a tie. -/
def onGrid? (F : Format) (m : Nat) (e k : Int) : Option Digits :=
  let num := 2 ^ e.toNat
  let den := 2 ^ (-e).toNat
  let I := interval F m e
  let numerator := m * num * 10 ^ (-k).toNat
  let denominator := den * 10 ^ k.toNat
  let below := numerator / denominator
  let nearest := roundDiv numerator denominator
  let reads (n : Nat) : Bool := I.holds num (4 * den) n k
  if reads nearest then some ⟨nearest, k⟩
  else if reads below then some ⟨below, k⟩
  else if reads (below + 1) then some ⟨below + 1, k⟩
  else none

/-- The shortest decimal number that rounds to `m · 2 ^ e`, the nearest of those: the first of the
grids with 1, 2, … digits on which a neighbour reads back. -/
def shortestFrom (F : Format) (m : Nat) (e : Int) (top : Int) : Nat → Digits
  | 0 => ⟨0, 0⟩
  | fuel + 1 =>
    match onGrid? F m e (top - 1) with
    | some d => d
    | none => shortestFrom F m e (top - 1) fuel

/-- The shortest decimal number that rounds to `m · 2 ^ e`. Eighteen digits are never needed for a
double. -/
def shortest (F : Format) (m : Nat) (e : Int) : Digits :=
  if m = 0 then ⟨0, 0⟩
  else shortestFrom F m e (magnitude (m * 2 ^ e.toNat) (2 ^ (-e).toNat)) 18

/-- How a shortest decimal is laid out. -/
structure Style where
  /-- Positional where the exponent of the first digit is at least this … -/
  positionalFrom : Int
  /-- … and below this. -/
  positionalBelow : Int
  /-- The least number of digits of an exponent. -/
  exponentDigits : Nat
  nan : String
  infinity : String

/-- The text of a decimal number: positional, always with a point, or with an exponent and a point
only if there is more than one digit. -/
def Digits.write (style : Style) (d : Digits) : Text :=
  let digits := Text.ofNat d.digits
  let point : Int := digits.length + d.exponent
  let significant := (digits.reverse.dropWhile (· == 48)).reverse
  let significant := if significant.isEmpty then [48] else significant
  if d.digits = 0 then text "0.0"
  else if style.positionalFrom ≤ point - 1 ∧ point - 1 < style.positionalBelow then
    if point ≤ 0 then
      text "0." ++ List.replicate (-point).toNat 48 ++ significant
    else if significant.length ≤ point.toNat then
      significant ++ List.replicate (point.toNat - significant.length) 48 ++ text ".0"
    else significant.take point.toNat ++ text "." ++ significant.drop point.toNat
  else
    let exponent := Text.ofNat (point - 1).natAbs
    let fill := List.replicate (style.exponentDigits - exponent.length) 48
    let sign := if point - 1 < 0 then text "e-" else text "e+"
    let fraction := if significant.length ≤ 1 then [] else text "." ++ significant.drop 1
    significant.take 1 ++ fraction ++ sign ++ fill ++ exponent

def write (style : Style) {F : Format} : Binary F → Text
  | .nan => text style.nan
  | .infinity negative => (if negative then text "-" else []) ++ text style.infinity
  | .finite negative m e _ =>
    (if negative then text "-" else []) ++ (shortest F m e).write style

/-- The text of a number with a fixed count of places, correctly rounded from its exact value; a tie
goes to the even digit. -/
def fixed (places : Nat) {F : Format} : Binary F → Text
  | .nan => text "nan"
  | .infinity negative => (if negative then text "-" else []) ++ text "inf"
  | .finite negative m e _ =>
    let n := roundDiv (m * 2 ^ e.toNat * 10 ^ places) (2 ^ (-e).toNat)
    let digits := Text.ofNat n
    let digits := List.replicate (places + 1 - digits.length) 48 ++ digits
    let whole := digits.length - places
    (if negative then text "-" else []) ++
      digits.take whole ++ (if places = 0 then [] else text "." ++ digits.drop whole)

end EntityTagger.Decimal
