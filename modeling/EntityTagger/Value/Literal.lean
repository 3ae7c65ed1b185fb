import EntityTagger.Value
import EntityTagger.Number.Decimal
import EntityTagger.Unicode.Category

/-!
Literals of values, as messages show them: texts in quotes with everything that cannot be printed
escaped, containers with their brackets.
-/

namespace EntityTagger.Literal

/-- Floats are positional from 0.0001 up to below 10^16. -/
def floatStyle : Decimal.Style := ⟨-4, 16, 2, "nan", "inf"⟩

/-- A text is quoted with apostrophes, and with double quotes if it has apostrophes and no double
quote. -/
def quoteFor (t : Text) : Nat := if t.contains 39 && !t.contains 34 then 34 else 39

/-- The escapes that stand in texts and in bytes alike. -/
def escape? (quote c : Nat) : Option Text :=
  if c = quote ∨ c = 92 then some [92, c]
  else if c = 9 then some (text "\\t")
  else if c = 10 then some (text "\\n")
  else if c = 13 then some (text "\\r")
  else none

/-- A character of a quoted text; what is not printable is written by its number. -/
def character (quote c : Nat) : Text :=
  match escape? quote c with
  | some escaped => escaped
  | none =>
    if Unicode.isPrintable c then [c]
    else if c < 0x100 then text "\\x" ++ Text.ofNatHex 2 c
    else if c < 0x10000 then text "\\u" ++ Text.ofNatHex 4 c
    else text "\\U" ++ Text.ofNatHex 8 c

def ofText (t : Text) : Text :=
  let quote := quoteFor t
  quote :: t.flatMap (character quote) ++ [quote]

def byte (quote c : Nat) : Text :=
  match escape? quote c with
  | some escaped => escaped
  | none => if 32 ≤ c ∧ c < 127 then [c] else text "\\x" ++ Text.ofNatHex 2 c

def ofBytes (bytes : List UInt8) : Text :=
  let codes := bytes.map UInt8.toNat
  let quote := quoteFor codes
  98 :: quote :: codes.flatMap (byte quote) ++ [quote]

mutual

def ofValue : Value → Text
  | .none => text "None"
  | .bool true => text "True"
  | .bool false => text "False"
  | .int value => Text.ofInt value
  | .float value => Decimal.write floatStyle value
  | .str value => ofText value
  | .bytes value => ofBytes value
  | .list items => text "[" ++ Text.join (text ", ") (ofValues items) ++ text "]"
  | .tuple [item] => text "(" ++ ofValue item ++ text ",)"
  | .tuple items => text "(" ++ Text.join (text ", ") (ofValues items) ++ text ")"
  | .set [] => text "set()"
  | .set items => [123] ++ Text.join (text ", ") (ofValues items) ++ [125]
  | .dict entries => [123] ++ Text.join (text ", ") (ofEntries entries) ++ [125]
  | .date written => written

def ofValues : List Value → List Text
  | [] => []
  | item :: rest => ofValue item :: ofValues rest

def ofEntries : List (Value × Value) → List Text
  | [] => []
  | (key, value) :: rest => (ofValue key ++ text ": " ++ ofValue value) :: ofEntries rest

end

/-- The text that stands for a value: a text is itself, everything else its literal. -/
def display : Value → Text
  | .str value => value
  | value => ofValue value

end EntityTagger.Literal
