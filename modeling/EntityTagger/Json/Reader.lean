import EntityTagger.Json

/-!
Reading JSON. The reader works on what is left of the text; a failure carries the number of
characters left where it arose, from which its position, line and column are counted.

Values may be nested to any depth: that a deep one ends in an error where recursion is limited is
left out.
-/

namespace EntityTagger.Json

inductive Problem
  | value
  | name
  | colon
  | comma
  | extra
  | unterminated
  | control
  | escape
  | unicodeEscape
  | byteOrderMark
deriving DecidableEq, Repr

/-- Why reading stops: a problem with the count of characters left there, or an integer with more
digits than are read. -/
inductive Stop
  | problem (what : Problem) (left : Nat)
  | tooManyDigits
deriving DecidableEq, Repr

def maxDigits : Nat := 4300

def isSpace (c : Nat) : Bool := c = 32 || c = 9 || c = 10 || c = 13

def skipSpace (t : Text) : Text := t.dropWhile isSpace

def hex4? (a b c d : Nat) : Option Nat := do
  let a ← Text.hexValue? a
  let b ← Text.hexValue? b
  let c ← Text.hexValue? c
  let d ← Text.hexValue? d
  pure (a * 4096 + b * 256 + c * 16 + d)

def shortEscape? (c : Nat) : Option Nat :=
  if c = 34 ∨ c = 92 ∨ c = 47 then some c
  else if c = 98 then some 8
  else if c = 102 then some 12
  else if c = 110 then some 10
  else if c = 114 then some 13
  else if c = 116 then some 9
  else none

/-- A low surrogate written as an escape at the front, with at least one more character behind it;
`none` if there is none, an error if the escape is broken. -/
def lowSurrogate? (t : Text) : Except Stop (Option Nat) :=
  match t with
  | 92 :: 117 :: a :: b :: c :: d :: _ :: _ =>
    match hex4? a b c d with
    | none => .error (.problem .unicodeEscape (t.length - 1))
    | some low => .ok (if 0xDC00 ≤ low ∧ low ≤ 0xDFFF then some low else none)
  | _ => .ok none

/-- The code point that an escape denotes and the number of characters behind the backslash that
belong to it. `opening` counts the characters left at the opening quote. -/
def readEscape (opening : Nat) (t : Text) : Except Stop (Nat × Nat) :=
  match t with
  | [] => .error (.problem .unterminated opening)
  | 117 :: a :: b :: c :: d :: e :: rest =>
    match hex4? a b c d with
    | none => .error (.problem .unicodeEscape t.length)
    | some code =>
      if 0xD800 ≤ code ∧ code ≤ 0xDBFF then
        match lowSurrogate? (e :: rest) with
        | .error stop => .error stop
        | .ok (some low) => .ok (0x10000 + (code - 0xD800) * 1024 + (low - 0xDC00), 11)
        | .ok none => .ok (code, 5)
      else .ok (code, 5)
  | c :: _ =>
    if c = 117 then .error (.problem .unicodeEscape t.length)
    else match shortEscape? c with
      | some code => .ok (code, 1)
      | none => .error (.problem .escape (t.length + 1))

/-- The rest of a string behind its opening quote. The second argument counts the characters that
still belong to the escape just read. -/
def readString (opening : Nat) : Nat → Text → Except Stop (Text × Text)
  | _, [] => .error (.problem .unterminated opening)
  | skip + 1, _ :: rest => readString opening skip rest
  | 0, c :: rest =>
    if c = 34 then .ok ([], rest)
    else if c = 92 then
      match readEscape opening rest with
      | .error stop => .error stop
      | .ok (code, length) =>
        match readString opening length rest with
        | .error stop => .error stop
        | .ok (s, rest) => .ok (code :: s, rest)
    else if c < 32 then .error (.problem .control (rest.length + 1))
    else
      match readString opening 0 rest with
      | .error stop => .error stop
      | .ok (s, rest) => .ok (c :: s, rest)

/-- A number as it is written. -/
structure Numeral where
  negative : Bool
  whole : Text
  fraction : Text
  exponent : Option Int
deriving DecidableEq, Repr

def spanDigits (t : Text) : Text × Text := (t.takeWhile Text.isDigit, t.dropWhile Text.isDigit)

/-- The digits in front of the point: a single zero, or a run that starts with another digit. -/
def readWhole? : Text → Option (Text × Text)
  | [] => none
  | c :: rest =>
    if c = 48 then some ([48], rest)
    else if Text.isDigit c then some (spanDigits (c :: rest))
    else none

def readFraction : Text → Text × Text
  | 46 :: c :: rest => if Text.isDigit c then spanDigits (c :: rest) else ([], 46 :: c :: rest)
  | t => ([], t)

def readExponent (t : Text) : Option Int × Text :=
  match t with
  | c :: rest =>
    if c = 101 ∨ c = 69 then
      let (negative, digits) : Bool × Text := match rest with
        | 45 :: rest => (true, rest)
        | 43 :: rest => (false, rest)
        | rest => (false, rest)
      match spanDigits digits with
      | ([], _) => (none, t)
      | (digits, rest) =>
        let n : Int := Text.digitsValue digits
        (some (if negative then -n else n), rest)
    else (none, t)
  | [] => (none, t)

/-- The longest numeral in front. -/
def readNumeral? (t : Text) : Option (Numeral × Text) :=
  let (negative, unsigned) : Bool × Text := match t with
    | 45 :: rest => (true, rest)
    | rest => (false, rest)
  match readWhole? unsigned with
  | none => none
  | some (whole, rest) =>
    let (fraction, rest) := readFraction rest
    let (exponent, rest) := readExponent rest
    some (⟨negative, whole, fraction, exponent⟩, rest)

/-- The number of a numeral: an integer unless it has a fraction or an exponent. -/
def Numeral.value (n : Numeral) : Except Stop Json :=
  if n.fraction = [] ∧ n.exponent = none then
    if maxDigits < n.whole.length then .error .tooManyDigits
    else
      let size : Int := Text.digitsValue n.whole
      .ok (.int (if n.negative then -size else size))
  else
    .ok (.float (Double.ofDecimal n.negative (Text.digitsValue (n.whole ++ n.fraction))
      (n.exponent.getD 0 - n.fraction.length)))

def literals : List (Text × Json) :=
  [(text "null", .null), (text "true", .bool true), (text "false", .bool false),
    (text "NaN", .float .nan), (text "Infinity", .float (.infinity false)),
    (text "-Infinity", .float (.infinity true))]

def readScalar (t : Text) : Except Stop (Json × Text) :=
  match literals.find? fun entry => entry.1.isPrefixOf t with
  | some (word, value) => .ok (value, t.drop word.length)
  | none =>
    match readNumeral? t with
    | none => .error (.problem .value t.length)
    | some (numeral, rest) => numeral.value.map (·, rest)

mutual

/-- The value at the front of a text. An opening bracket takes two calls, one for the array and one
for its first item, so fuel for two calls per character is enough. -/
def readValue : Nat → Text → Except Stop (Json × Text)
  | 0, t => .error (.problem .value t.length)
  | _ + 1, [] => .error (.problem .value 0)
  | fuel + 1, c :: rest =>
    if c = 34 then
      match readString (rest.length + 1) 0 rest with
      | .error stop => .error stop
      | .ok (s, rest) => .ok (.str s, rest)
    else if c = 91 then
      match skipSpace rest with
      | 93 :: rest => .ok (.arr [], rest)
      | rest =>
        match readItems fuel rest with
        | .error stop => .error stop
        | .ok (items, rest) => .ok (.arr items, rest)
    else if c = 123 then
      match skipSpace rest with
      | 125 :: rest => .ok (.obj [], rest)
      | rest =>
        match readMembers fuel rest with
        | .error stop => .error stop
        | .ok (members, rest) => .ok (.obj (Association.ofList members), rest)
    else readScalar (c :: rest)

/-- The items of an array up to its closing bracket; there is at least one. -/
def readItems : Nat → Text → Except Stop (List Json × Text)
  | 0, t => .error (.problem .value t.length)
  | fuel + 1, t =>
    match readValue fuel t with
    | .error stop => .error stop
    | .ok (item, rest) =>
      match skipSpace rest with
      | 93 :: rest => .ok ([item], rest)
      | 44 :: rest =>
        match readItems fuel (skipSpace rest) with
        | .error stop => .error stop
        | .ok (items, rest) => .ok (item :: items, rest)
      | rest => .error (.problem .comma rest.length)

/-- The members of an object up to its closing brace; there is at least one. -/
def readMembers : Nat → Text → Except Stop (List (Text × Json) × Text)
  | 0, t => .error (.problem .value t.length)
  | fuel + 1, t =>
    match t with
    | 34 :: rest =>
      match readString (rest.length + 1) 0 rest with
      | .error stop => .error stop
      | .ok (name, rest) =>
        match skipSpace rest with
        | 58 :: rest =>
          match readValue fuel (skipSpace rest) with
          | .error stop => .error stop
          | .ok (value, rest) =>
            match skipSpace rest with
            | 125 :: rest => .ok ([(name, value)], rest)
            | 44 :: rest =>
              match readMembers fuel (skipSpace rest) with
              | .error stop => .error stop
              | .ok (members, rest) => .ok ((name, value) :: members, rest)
            | rest => .error (.problem .comma rest.length)
        | rest => .error (.problem .colon rest.length)
    | t => .error (.problem .name t.length)

end

def readAll (t : Text) : Except Stop Json :=
  match t with
  | 0xFEFF :: _ => .error (.problem .byteOrderMark t.length)
  | _ =>
    match readValue (2 * t.length + 1) (skipSpace t) with
    | .error stop => .error stop
    | .ok (value, rest) =>
      match skipSpace rest with
      | [] => .ok value
      | rest => .error (.problem .extra rest.length)

/-- A malformed text: the problem and its place, counted from 0, lines and columns from 1. -/
structure SyntaxError where
  problem : Problem
  position : Nat
  line : Nat
  column : Nat
deriving DecidableEq, Repr

inductive ReadError
  | malformed (error : SyntaxError)
  | tooManyDigits
deriving DecidableEq, Repr

def locate (t : Text) (problem : Problem) (left : Nat) : SyntaxError :=
  let before := t.take (t.length - left)
  ⟨problem, before.length, before.count 10 + 1, (before.reverse.takeWhile (· != 10)).length + 1⟩

def read (t : Text) : Except ReadError Json :=
  match readAll t with
  | .ok value => .ok value
  | .error (.problem what left) => .error (.malformed (locate t what left))
  | .error .tooManyDigits => .error .tooManyDigits

def Problem.message : Problem → Text
  | .value => text "Expecting value"
  | .name => text "Expecting property name enclosed in double quotes"
  | .colon => text "Expecting ':' delimiter"
  | .comma => text "Expecting ',' delimiter"
  | .extra => text "Extra data"
  | .unterminated => text "Unterminated string starting at"
  | .control => text "Invalid control character at"
  | .escape => text "Invalid \\escape"
  | .unicodeEscape => text "Invalid \\uXXXX escape"
  | .byteOrderMark => text "Unexpected UTF-8 BOM (decode using utf-8-sig)"

def SyntaxError.message (e : SyntaxError) : Text :=
  e.problem.message ++ text ": line " ++ Text.ofNat e.line ++ text " column " ++
    Text.ofNat e.column ++ text " (char " ++ Text.ofNat e.position ++ text ")"

end EntityTagger.Json
