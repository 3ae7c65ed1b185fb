import EntityTagger.Value
import EntityTagger.Path
import EntityTagger.Violation
import EntityTagger.Utf8
import EntityTagger.Number.Integer

/-!
Reading the fields of a record from dynamic values. A field takes what clearly means a value of its
type: a number may be written as a text, an integer may be a float without a fraction.
-/

namespace EntityTagger.Field

/-- The characters that are dropped around a written number: white space, but not the information
separators. -/
def isPadding (c : Nat) : Bool := Text.isBlank c && !(28 ≤ c && c ≤ 31)

/-- The text that a number is written in: one that can be encoded, or bytes that can be decoded;
`undecodable` is the rule that other bytes break. `none` for a value of another type. -/
def asText? (undecodable : Rule) : Value → Option (Except Rule Text)
  | .str value => some (if value.any Text.isSurrogate then .error .stringUnicode else .ok value)
  | .bytes value =>
    some (match Utf8.decode value with
      | .ok decoded => .ok decoded
      | .error _ => .error undecodable)
  | _ => none

/-- A text is taken as it is, whatever stands in it; bytes have to be the encoding of one. -/
def readString : Value → Except Rule Text
  | .str value => .ok value
  | .bytes value =>
    match Utf8.decode value with
    | .ok decoded => .ok decoded
    | .error _ => .error .stringUnicode
  | _ => .error .stringType

/-- The exponent of a written number, after the mark: a sign and at least one digit. -/
def exponent? (t : Text) : Option Int :=
  let (negative, digits) := Integer.splitSign t
  if digits.isEmpty || !digits.all Text.isDigit then none
  else some (Integer.ofDigits negative digits)

/-- A decimal number without a sign: digits with at most one point, at least one digit, and perhaps
an exponent. -/
def decimal? (negative : Bool) (t : Text) : Option Double :=
  let whole := t.takeWhile Text.isDigit
  let rest := t.dropWhile Text.isDigit
  let (fraction, rest) := match rest with
    | 46 :: rest => (rest.takeWhile Text.isDigit, rest.dropWhile Text.isDigit)
    | rest => ([], rest)
  let value (exponent : Int) : Double :=
    Double.ofDecimal negative (Text.digitsValue (whole ++ fraction)) (exponent - fraction.length)
  if whole.isEmpty && fraction.isEmpty then none
  else match rest with
    | [] => some (value 0)
    | c :: rest => if c = 101 ∨ c = 69 then (exponent? rest).map value else none

/-- A number written with an optional sign, or as one of the words for infinity and for not a
number. -/
def number? (t : Text) : Option Double :=
  let (negative, rest) := Integer.splitSign t
  let word := rest.map Text.lower
  if word = text "inf" ∨ word = text "infinity" then some (.infinity negative)
  else if word = text "nan" then some .nan
  else decimal? negative rest

/-- A text without its underscores, if each of them stands alone and inside. -/
def ungrouped? (t : Text) : Option Text :=
  let groups := Text.splitAt 95 t
  if groups.length = 1 || groups.any List.isEmpty then none else some groups.flatten

def float? (t : Text) : Option Double :=
  match number? (Text.trim isPadding t) with
  | some value => some value
  | none => (ungrouped? t).bind number?

def readFloat (value : Value) : Except Rule Double :=
  match value, asText? .floatParsing value with
  | .float x, _ => .ok x
  | .int n, _ => if (Double.ofInt n).isFinite then .ok (Double.ofInt n) else .error .floatType
  | .bool b, _ => .ok (Double.ofInt (if b then 1 else 0))
  | _, some (.ok t) => match float? t with
    | some x => .ok x
    | none => .error .floatParsing
  | _, some (.error rule) => .error rule
  | _, none => .error .floatType

/-- The integer that a text denotes; a fraction of zeros may follow the digits. -/
def int? (t : Text) : Option Int :=
  let (negative, numeral) := Integer.splitSign t
  let digits := numeral.takeWhile (· != 46)
  let fraction := (numeral.dropWhile (· != 46)).drop 1
  if fraction.all (· == 48) then
    (Integer.groupedDigits? false digits).map (Integer.ofDigits negative)
  else none

/-- A float is an integer if it has no fraction and fits into 64 bits. -/
def integerOfFloat (x : Double) : Except Rule Int :=
  if !x.isFinite then .error .finite
  else match x.integer? with
    | none => .error .intFraction
    | some n =>
      if Int64.minValue.toInt < n ∧ n ≤ Int64.maxValue.toInt then .ok n else .error .intSize

def readInt (value : Value) : Except Rule Int :=
  match value, asText? .intParsing value with
  | .int n, _ => .ok n
  | .bool b, _ => .ok (if b then 1 else 0)
  | .float x, _ => integerOfFloat x
  | _, some (.ok t) =>
    let trimmed := Text.trim isPadding t
    if Integer.maxDigits < trimmed.length then .error .intSize
    else match int? trimmed with
      | some n => .ok n
      | none => .error .intParsing
  | _, some (.error rule) => .error rule
  | _, none => .error .intType

def readIntFrom (bound : Nat) (value : Value) : Except Rule Int := do
  let n ← readInt value
  if (bound : Int) ≤ n then .ok n else .error (.atLeast bound)

/-- A number from 0 to 1. The upper bound is looked at first, and what is not a number fails it. -/
def readFraction (value : Value) : Except Rule Double := do
  let x ← readFloat value
  if !x.le (Double.ofInt 1) then .error (.atMost 1)
  else if !(Double.ofInt 0).le x then .error (.atLeast 0)
  else .ok x

/-- Nothing, or the path that a text is. -/
def takePath? (value : Value) : Except Rule (Option Path) :=
  match value with
  | .none => .ok none
  | .str t => .ok (some (Path.ofText t))
  | _ => .error .pathType

/-- A path that has yet to be checked: a text that can be encoded. -/
def readPath? (value : Value) : Except Rule (Option Path) :=
  match value with
  | .str t => if t.any Text.isSurrogate then .error .pathType else takePath? value
  | _ => takePath? value

abbrev Record := List (Value × Value)

def required {α : Type} (fields : Record) (name : Text) (read : Value → Except Rule α) :
    Except (List Violation) α :=
  match Value.entry? name fields with
  | none => .error [⟨[.field name], .missing⟩]
  | some value => (read value).mapError fun rule => [⟨[.field name], rule⟩]

def optional {α : Type} (fields : Record) (name : Text) (default : α)
    (read : Value → Except Rule α) : Except (List Violation) α :=
  match Value.entry? name fields with
  | none => .ok default
  | some value => (read value).mapError fun rule => [⟨[.field name], rule⟩]

/-- Two readings of which each may find violations; those of the first come first. -/
def both {α β : Type} (f : Except (List Violation) (α → β)) (x : Except (List Violation) α) :
    Except (List Violation) β :=
  match f, x with
  | .ok f, .ok x => .ok (f x)
  | .ok _, .error violations => .error violations
  | .error violations, .ok _ => .error violations
  | .error first, .error second => .error (first ++ second)

end EntityTagger.Field
