import EntityTagger.Json
import EntityTagger.Number.Decimal

/-!
Writing JSON on one line: a comma and a blank between items, a colon and a blank behind names,
characters as they are except quotes, backslashes and controls. As in reading, values may be nested
to any depth.
-/

namespace EntityTagger.Json

/-- Floats are positional from 0.0001 up to below 10^16; an exponent has at least two digits. -/
def floatStyle : Decimal.Style := ⟨-4, 16, 2, "NaN", "Infinity"⟩

def writeChar (c : Nat) : Text :=
  if c = 34 then text "\\\""
  else if c = 92 then text "\\\\"
  else if c = 10 then text "\\n"
  else if c = 13 then text "\\r"
  else if c = 9 then text "\\t"
  else if c = 8 then text "\\b"
  else if c = 12 then text "\\f"
  else if c < 32 then text "\\u" ++ Text.ofNatHex 4 c
  else [c]

def writeString (s : Text) : Text := 34 :: s.flatMap writeChar ++ [34]

mutual

def write : Json → Text
  | .null => text "null"
  | .bool true => text "true"
  | .bool false => text "false"
  | .int n => Text.ofInt n
  | .float x => Decimal.write floatStyle x
  | .str s => writeString s
  | .arr [] => text "[]"
  | .arr (item :: items) => 91 :: write item ++ writeItems items
  | .obj [] => [123, 125]
  | .obj ((name, value) :: members) =>
    123 :: writeString name ++ text ": " ++ write value ++ writeMembers members

/-- The further items of an array and its closing bracket. -/
def writeItems : List Json → Text
  | [] => [93]
  | item :: items => text ", " ++ write item ++ writeItems items

/-- The further members of an object and its closing brace. -/
def writeMembers : List (Text × Json) → Text
  | [] => [125]
  | (name, value) :: members =>
    text ", " ++ writeString name ++ text ": " ++ write value ++ writeMembers members

end

end EntityTagger.Json
