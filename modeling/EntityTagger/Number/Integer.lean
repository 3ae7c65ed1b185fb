import EntityTagger.Text
import EntityTagger.Unicode.Category

/-!
Integers written as texts: blanks around them, a sign, and digits with single underscores between
them.
-/

namespace EntityTagger.Integer

def maxDigits : Nat := 4300

/-- The digits of a numeral in which a single underscore may stand between two digits; `none` for
anything else. The first argument says whether a digit was just read. -/
def groupedDigits? : Bool → Text → Option Text
  | afterDigit, [] => if afterDigit then some [] else none
  | afterDigit, c :: rest =>
    if Text.isDigit c then (groupedDigits? true rest).map (c :: ·)
    else if c = 95 ∧ afterDigit then groupedDigits? false rest
    else none

/-- A sign and what it stands before. -/
def splitSign : Text → Bool × Text
  | 43 :: rest => (false, rest)
  | 45 :: rest => (true, rest)
  | t => (false, t)

def ofDigits (negative : Bool) (digits : Text) : Int :=
  if negative then -(Text.digitsValue digits : Int) else Text.digitsValue digits

/-- A character in its ASCII form: a blank for any white space, a digit for any decimal digit, and
a mark that no numeral holds for everything else. -/
def toAscii (c : Nat) : Nat :=
  if c < 127 then c
  else if Text.isBlank c then 32
  else match Unicode.digitValue? c with
    | some d => 48 + d
    | none => 63

def trimmed (t : Text) : Text := Text.trim Text.isAsciiBlank (t.map toAscii)

/-- The integer that a text denotes, in decimal digits of any script. -/
def read? (t : Text) : Option Int :=
  let (negative, numeral) := splitSign (trimmed t)
  match groupedDigits? false numeral with
  | none => none
  | some digits => if digits.length ≤ maxDigits then some (ofDigits negative digits) else none

/-- A numeral without the mark of its base: a zero and a letter. -/
def dropMark (letter : Nat) : Text → Text
  | 48 :: c :: rest => if c = letter ∨ c + 32 = letter then rest else 48 :: c :: rest
  | t => t

/-- The number with the given digits of a base up to 16. -/
def ofNumeral? (base : Nat) (t : Text) : Option Nat :=
  if t.isEmpty then none
  else t.foldlM (fun n c =>
    (Text.hexValue? c).bind fun d => if d < base then some (base * n + d) else none) 0

/-- The integer that a text denotes in a base up to 16, of which `letter` is the mark. -/
def readBase? (base letter : Nat) (t : Text) : Option Int :=
  let (negative, numeral) := splitSign (trimmed t)
  (ofNumeral? base (dropMark letter numeral)).map fun n => if negative then -(n : Int) else n

end EntityTagger.Integer
