import EntityTagger.Field
import EntityTagger.Number.Arithmetic
import EntityTagger.Yaml.Cursor
import EntityTagger.Yaml.Tag

/-!
Values of scalars: what a text means under the tag that it has.
-/

namespace EntityTagger.Yaml.Scalar

attribute [local instance] naturalPow

/-- A text without underscores, cut into its sign and the rest; `none` if nothing is left. -/
def signed? (t : Text) : Option (Bool × Text) :=
  match t.filter (· != 95) with
  | [] => none
  | c :: rest => some (Integer.splitSign (c :: rest))

/-- A number in base sixty with the given places. -/
def sexagesimal (places : List Int) : Int := places.foldl (fun n place => 60 * n + place) 0

/-- An integer: binary behind `0b`, hexadecimal behind `0x`, octal behind another zero, in base
sixty between colons, otherwise decimal. -/
def int (t : Text) : Except Misuse Int :=
  match signed? t with
  | none => .error .outOfRange
  | some (negative, body) =>
    let value? : Option Int := match body with
      | [48] => some 0
      | 48 :: 98 :: digits => Integer.readBase? 2 98 digits
      | 48 :: 120 :: digits => Integer.readBase? 16 120 digits
      | 48 :: digits => Integer.readBase? 8 111 (48 :: digits)
      | body =>
        if body.contains 58 then ((Text.splitAt 58 body).mapM Integer.read?).map sexagesimal
        else Integer.read? body
    if body.isEmpty then .error .outOfRange
    else match value? with
      | some n => .ok (if negative then -n else n)
      | none => .error .badValue

/-- A decimal number, or a word for infinity or not a number. -/
def number? (t : Text) : Option Double := Field.number? (Integer.trimmed t)

/-- The sum of places, the last one first, each weighed sixty times the one before. -/
def sexagesimalSum (places : List Double) : Double :=
  (places.reverse.zipIdx.foldl (fun (sum : Double) (place, power) =>
    sum.add (place.mul (Double.ofInt (60 ^ power : Nat)))) (Double.ofInt 0))

def float (t : Text) : Except Misuse Double :=
  match signed? (t.map Text.lower) with
  | none => .error .outOfRange
  | some (negative, body) =>
    let value? : Option Double :=
      if body = text ".inf" then some (.infinity false)
      else if body = text ".nan" then some .nan
      else if body.contains 58 then ((Text.splitAt 58 body).mapM number?).map sexagesimalSum
      else number? body
    match value? with
    | some x => .ok (if negative then x.neg else x)
    | none => .error .badValue

def bool (t : Text) : Except Misuse Bool :=
  match Association.get? (t.map Text.lower) Tag.truths with
  | some b => .ok b
  | none => .error .noSuchKey

/-- A date, which has to exist. -/
def timestamp (t : Text) : Except Misuse Value :=
  match Timestamp.read? (if t.getLast? = some 10 then t.dropLast else t) with
  | none => .error .noSuchAttribute
  | some stamp => if stamp.isReal then .ok (.date t) else .error .badValue

/-! ### Base 64 -/

def digit64? (c : Nat) : Option Nat :=
  if 65 ≤ c ∧ c ≤ 90 then some (c - 65)
  else if 97 ≤ c ∧ c ≤ 122 then some (c - 71)
  else if 48 ≤ c ∧ c ≤ 57 then some (c + 4)
  else if c = 43 then some 62
  else if c = 47 then some 63
  else none

/-- Reads bytes, four digits for three of them. `group` holds the digits of the group being read,
backwards, and `filled` counts the equals signs behind them; whatever is no digit is skipped. -/
def decode64 (group : List Nat) (filled : Nat) : Text → Option (List UInt8)
  | [] => if group.isEmpty then some [] else none
  | c :: rest =>
    if c = 61 then
      match group with
      | [b, a] =>
        if 1 ≤ filled then some [(4 * a + b / 16).toUInt8] else decode64 group 1 rest
      | [c, b, a] => some [(4 * a + b / 16).toUInt8, (16 * b + c / 4).toUInt8]
      | _ => decode64 group filled rest
    else match digit64? c with
      | none => decode64 group filled rest
      | some d =>
        match group with
        | [c, b, a] =>
          (decode64 [] 0 rest).map fun more =>
            (4 * a + b / 16).toUInt8 :: (16 * b + c / 4).toUInt8 :: (64 * c + d).toUInt8 :: more
        | _ => decode64 (d :: group) 0 rest

/-! ### All kinds -/

def value (tag : Tag) (t : Text) : Except Fault Value :=
  match tag with
  | .null => .ok .none
  | .bool => ((bool t).map Value.bool).mapError .misuse
  | .int => ((int t).map Value.int).mapError .misuse
  | .float => ((float t).map Value.float).mapError .misuse
  | .str => .ok (.str t)
  | .timestamp => (timestamp t).mapError .misuse
  | .binary =>
    if t.all (· < 128) then
      match decode64 [] 0 t with
      | some bytes => .ok (.bytes bytes)
      | none => .error .malformed
    else .error .malformed
  | _ => .error .malformed

end EntityTagger.Yaml.Scalar
